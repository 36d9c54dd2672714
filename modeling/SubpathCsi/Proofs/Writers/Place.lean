import SubpathCsi.Proofs.Writers.History

/-!
# What a turn leaves in the place of a secret

Several callers put a secret in one place. What is there, and how far each call has come, go by what
was there at first and by what has been asked. A turn of one caller keeps this, for itself and for
all others.

* `Stored`: what is in the place;
* `Putting.Stands`: where the call of a caller stands;
* `Putting.exists_turn`: a call that stands somewhere has a turn;
* `Stored.turn`, `Putting.Turn.stands`, `Putting.Turn.stands_other`: what a turn keeps.
-/

namespace SubpathCsi

/-! ### What is in the place -/

/-- What is in the place of the secret, by what was there at first and what has been asked: what was
there, as long as nobody has written it; and then the first secret there with data and owners of the
caller that was the last to write it. -/
inductive Stored (callers : List Writer) (first : Option Secret)
    (history : List (Nat × Exchange)) : Option Secret → Prop
  /-- Nobody has written it. -/
  | untouched (hlast : lastPut history = none) (hmade : makings history = []) :
    Stored callers first history first
  /-- It was there, and has been replaced. -/
  | replaced {old now : Secret} {i : Nat} {u : Writer} (hfirst : first = some old)
    (hmade : makings history = []) (hu : callers[i]? = some u) (hlast : lastPut history = some i)
    (hnow : now.content = (old.taking u.secret).content) :
    Stored callers first history (some now)
  /-- It was absent, and a caller has made it. -/
  | made {maker u : Writer} {uid time : Option String} {now : Secret} {i : Nat}
    (hfirst : first = none) (hmade : (makings history).length = 1) (hmaker : maker ∈ callers)
    (hu : callers[i]? = some u)
    (hlast : lastPut history = some i)
    (hnow : now.content = ((maker.secret.identified uid time).taking u.secret).content) :
    Stored callers first history (some now)

namespace Putting

variable {server : ApiServer} {order : Option String → Nat} {c : Config} {s : Secret}
  {p p' q : Putting} {first present written : Option Secret} {es : List Exchange}
  {history : List (Nat × Exchange)} {i j : Nat}

/-- How far a call may be, by what was in the place at first, what is there now, and what has been
asked. -/
def Fits (order : Option String → Nat) (first present : Option Secret)
    (history : List (Nat × Exchange)) (i : Nat) : Putting → Prop
  | looking => True
  | making => first = none
  | lookingAgain => present.isSome = true
  | giving old => ∃ now, present = some now ∧ Seen order history i old now
  | done | refused => (lastPut history).isSome = true

/-- Where the call of a caller stands. -/
structure Stands (order : Option String → Nat) (first present : Option Secret)
    (history : List (Nat × Exchange)) (i : Nat) (p : Putting) : Prop where
  /-- The call fits what is there and what has been asked. -/
  fits : p.Fits order first present history i
  /-- It was refused exactly if it was overtaken. -/
  refused : Overtaken history i ↔ p = refused
  /-- The last caller to write the secret has returned. -/
  last : lastPut history = some i → p = done

/-- A call that fits has a turn. -/
theorem exists_turn (hserver : server.Versions order) (hfits : p.Fits order first present history i)
    (hpresent : ∀ now, present = some now → now.LiesAt s.name s.metadata.space) :
    ∃ es p' written, Turn server order c s p present es p' written := by
  cases p with
  | looking =>
    cases present with
    | none => exact ⟨_, _, _, .missing⟩
    | some old => exact ⟨_, _, _, .found old⟩
  | making =>
    cases present with
    | none =>
      obtain ⟨uid, time, hkept⟩ := hserver.create s
      exact ⟨_, _, _, .made hkept⟩
    | some old => exact ⟨_, _, _, .lost old⟩
  | lookingAgain =>
    obtain ⟨old, rfl⟩ := Option.isSome_iff_exists.mp hfits
    exact ⟨_, _, _, .foundAgain old⟩
  | giving old =>
    obtain ⟨now, rfl, hseen⟩ := hfits
    have hold := hseen.alike.liesAt (hpresent now rfl)
    by_cases hversion : old.version? = none ∨ old.version? = now.version?
    · obtain ⟨kept, hreplace, hkept, hlater⟩ :=
        hserver.replace now (old.taking s) hversion
      exact ⟨_, _, _, .given old now kept hold hreplace hkept hversion hlater⟩
    · obtain ⟨hsome, hother⟩ := not_or.mp hversion
      have hreplace := hserver.refuse now (old.taking s) hsome hother
      exact ⟨_, _, _, .beaten old now hold hreplace hsome hother⟩
  | done => exact ⟨_, _, _, .idle _ present (.inl rfl)⟩
  | refused => exact ⟨_, _, _, .idle _ present (.inr rfl)⟩

/-- A turn that is left brings the call nearer to its end. -/
theorem Turn.ahead_le (h : Turn server order c s p present es p' written) :
    p'.ahead ≤ p.ahead - 1 := by
  cases h with
  | idle p present hp => obtain rfl | rfl := hp <;> simp [ahead]
  | found | missing | made | lost | foundAgain | given | beaten => simp [ahead]

/-- What is written lies in the place of the secret. -/
theorem Turn.liesAt {t : Secret} (h : Turn server order c s p present es p' (some t)) :
    t.LiesAt s.name s.metadata.space := by
  cases h with
  | made hkept => exact liesAt_create hkept
  | given old present kept hold hreplace hkept => exact .of_content hkept (hold.taking s)

end Putting

section Turn

variable {server : ApiServer} {order : Option String → Nat} {callers : List Writer}
  {first present written : Option Secret} {u : Writer} {history : List (Nat × Exchange)} {i j : Nat}
  {p p' q : Putting} {es : List Exchange}

/-- A request that writes nothing leaves what is in the place. -/
theorem Stored.concat {e : Exchange} (h : Stored callers first history present)
    (hputs : e.putsSecret = false) (hmakes : e.makesSecret = false) :
    Stored callers first (history ++ [(i, e)]) present := by
  have hlast : lastPut (history ++ [(i, e)]) = lastPut history := by
    rw [lastPut_concat, hputs, if_neg Bool.false_ne_true]
  have hmakings : makings (history ++ [(i, e)]) = makings history := by
    rw [makings_concat, hmakes, if_neg Bool.false_ne_true, List.append_nil]
  cases h with
  | untouched hl hm => exact .untouched (hlast.trans hl) (hmakings.trans hm)
  | replaced hf hm hu hl hnow => exact .replaced hf (hmakings.trans hm) hu (hlast.trans hl) hnow
  | made hf hm hmaker hu hl hnow =>
    exact .made hf (by rwa [hmakings]) hmaker hu (hlast.trans hl) hnow

/-- A request that replaces the secret gives the data and owners of its caller to what is there. -/
theorem Stored.replace {e : Exchange} {now kept : Secret}
    (h : Stored callers first history (some now)) (hu : callers[i]? = some u)
    (hputs : e.putsSecret = true) (hmakes : e.makesSecret = false)
    (hkept : kept.content = (now.taking u.secret).content) :
    Stored callers first (history ++ [(i, e)]) (some kept) := by
  have hlast : lastPut (history ++ [(i, e)]) = some i := by rw [lastPut_concat, if_pos hputs]
  have hmakings : makings (history ++ [(i, e)]) = makings history := by
    rw [makings_concat, hmakes, if_neg Bool.false_ne_true, List.append_nil]
  cases h with
  | untouched _ hm => exact .replaced rfl (hmakings.trans hm) hu hlast hkept
  | replaced hf hm _ _ hnow =>
    exact .replaced hf (hmakings.trans hm) hu hlast
      (hkept.trans (Secret.Alike.of_content hnow u.secret))
  | made hf hm hmaker _ _ hnow =>
    exact .made hf (by rwa [hmakings]) hmaker hu hlast
      (hkept.trans (Secret.Alike.of_content hnow u.secret))

/-- Only where nobody has written it, the secret is absent. -/
theorem Stored.eq_none (h : Stored callers first history none) :
    first = none ∧ makings history = [] := by
  cases h with
  | untouched _ hm => exact ⟨rfl, hm⟩

/-- A request that makes the secret is the first to write it. -/
theorem Stored.make {e : Exchange} {kept : Secret} {uid time : Option String}
    (h : Stored callers first history none) (hu : callers[i]? = some u)
    (hputs : e.putsSecret = true) (hmakes : e.makesSecret = true)
    (hkept : kept.content = (u.secret.identified uid time).content) :
    Stored callers first (history ++ [(i, e)]) (some kept) := by
  obtain ⟨hfirst, hnone⟩ := h.eq_none
  have hlast : lastPut (history ++ [(i, e)]) = some i := by rw [lastPut_concat, if_pos hputs]
  have hone : (makings (history ++ [(i, e)])).length = 1 := by
    rw [makings_concat, hnone, if_pos hmakes]
    rfl
  have hown : u.secret.identified uid time = (u.secret.identified uid time).taking u.secret := rfl
  rw [hown] at hkept
  exact .made hfirst hone (List.mem_of_getElem? hu) hu hlast hkept

/-- What is in the place after a turn is what it has written, or else what was there. -/
theorem Stored.turn (h : Stored callers first history present) (hu : callers[i]? = some u)
    (hfits : p.Fits order first present history i)
    (hturn : p.Turn server order u.config u.secret present es p' written) :
    Stored callers first (history ++ es.map (i, ·)) (written.or present) := by
  cases hturn with
  | found | missing | lost | foundAgain | beaten => exact h.concat rfl rfl
  | idle => rwa [List.map_nil, List.append_nil]
  | made hkept => exact h.make hu rfl rfl hkept
  | given old now kept hold hreplace hkept =>
    obtain ⟨_, ⟨⟩, hseen⟩ := hfits
    exact h.replace hu rfl rfl (hkept.trans (hseen.alike u.secret))

/-- A call that asks for something other than a replacement is not overtaken by that. -/
theorem Putting.Stands.refused_concat {e : Exchange} (hp : p.Stands order first present history i)
    (he : e.asksReplacement = false) (hne : p ≠ .refused) (hne' : p' ≠ .refused) :
    Overtaken (history ++ [(i, e)]) i ↔ p' = .refused := by
  have hsame : Overtaken (history ++ [(i, e)]) i ↔ Overtaken history i := by
    rw [overtaken_concat, he]
    simp
  rw [hsame, hp.refused]
  exact iff_of_false hne hne'

/-- The call that takes the turn stands where the turn has brought it. -/
theorem Putting.Turn.stands (h : p.Turn server order u.config u.secret present es p' written)
    (hstored : Stored callers first history present) (hp : p.Stands order first present history i) :
    p'.Stands order first (written.or present) (history ++ es.map (i, ·)) i := by
  have hfits := hp.fits
  have hlast := hp.last
  have hpass : ∀ {e : Exchange}, e.putsSecret = false →
      lastPut (history ++ [(i, e)]) = some i → p = done := by
    intro e he hi
    rw [lastPut_concat, he, if_neg Bool.false_ne_true] at hi
    exact hlast hi
  cases h with
  | found old | foundAgain old =>
    exact ⟨⟨old, rfl, .found rfl⟩, hp.refused_concat rfl nofun nofun,
      fun hi => nomatch hpass rfl hi⟩
  | missing =>
    exact ⟨hstored.eq_none.1, hp.refused_concat rfl nofun nofun, fun hi => nomatch hpass rfl hi⟩
  | lost => exact ⟨rfl, hp.refused_concat rfl nofun nofun, fun hi => nomatch hpass rfl hi⟩
  | made =>
    exact ⟨Option.isSome_iff_exists.mpr ⟨i, lastPut_concat⟩, hp.refused_concat rfl nofun nofun,
      fun _ => rfl⟩
  | given old now kept hold hreplace hkept hversion =>
    obtain ⟨_, ⟨⟩, hseen⟩ := hfits
    refine ⟨Option.isSome_iff_exists.mpr ⟨i, lastPut_concat⟩, iff_of_false ?_ nofun, fun _ => rfl⟩
    rw [List.map_singleton, overtaken_concat, hp.refused, hseen.behind_iff]
    rintro (h | ⟨-, -, hsome, hother⟩)
    · cases h
    · exact hversion.elim hsome fun hsame => hother hsame.symm
  | beaten old now hold hreplace hsome hother =>
    obtain ⟨_, ⟨⟩, hseen⟩ := hfits
    have hbehind : Behind history i := hseen.behind_iff.mpr ⟨hsome, hother.symm⟩
    refine ⟨?_, iff_of_true (overtaken_concat.mpr (.inr ⟨rfl, rfl, hbehind⟩)) rfl,
      fun hi => nomatch hpass rfl hi⟩
    exact isSome_lastPut_append (isSome_lastPut_of_behind hbehind) _
  | idle =>
    rw [List.map_nil, List.append_nil]
    exact hp

/-- Every other call stands where it was. -/
theorem Putting.Turn.stands_other (h : p.Turn server order u.config u.secret present es p' written)
    (hfits : p.Fits order first present history i) (hne : i ≠ j)
    (hq : q.Stands order first present history j) :
    q.Stands order first (written.or present) (history ++ es.map (i, ·)) j := by
  have hone : es = [] ∨ ∃ e, es = [e] := by cases h <;> simp
  refine ⟨?_, ?_, fun hj => ?_⟩
  case refine_1 =>
    cases q with
    | looking => trivial
    | making => exact hq.fits
    | lookingAgain =>
      cases written with
      | none => exact hq.fits
      | some t => rfl
    | giving old =>
      obtain ⟨now, rfl, hseen⟩ := hq.fits
      cases h with
      | found | lost | foundAgain | beaten => exact ⟨now, rfl, hseen.pass hne rfl⟩
      | idle =>
        rw [List.map_nil, List.append_nil]
        exact ⟨now, rfl, hseen⟩
      | given found _ kept hold hreplace hkept hversion hlater =>
        -- what is written has come out of what this caller has seen as well
        obtain ⟨_, ⟨⟩, hfound⟩ := hfits
        have halike : now.Alike kept :=
          (hfound.alike.symm.trans (.taking found u.secret)).trans (.of_content hkept.symm)
        exact ⟨kept, rfl, hseen.put hne rfl halike hlater⟩
    | done | refused => exact isSome_lastPut_append hq.fits _
  case refine_2 =>
    rw [← hq.refused]
    obtain rfl | ⟨e, rfl⟩ := hone
    · rw [List.map_nil, List.append_nil]
    · rw [List.map_singleton, overtaken_concat]
      simp [hne]
  case refine_3 =>
    refine hq.last ?_
    obtain rfl | ⟨e, rfl⟩ := hone
    · rwa [List.map_nil, List.append_nil] at hj
    · rw [List.map_singleton, lastPut_concat] at hj
      split at hj
      · exact absurd (Option.some.inj hj) hne
      · exact hj

end Turn

theorem Stored.length_makings_le {callers : List Writer} {first present : Option Secret}
    {history : List (Nat × Exchange)} (h : Stored callers first history present) :
    (makings history).length ≤ 1 := by
  cases h with
  | untouched _ hm | replaced _ hm =>
    rw [hm]
    exact Nat.zero_le 1
  | made _ hm => exact Nat.le_of_eq hm

end SubpathCsi
