import Mathlib.Data.List.TakeWhile
import SubpathCsi.Proofs.Writers.Call

/-!
# Who has written a secret, and who has fallen behind

What several callers ask of the API server is kept with the number of the caller. From this history
it is told who was the last to write the secret, how often it was made, and whether a caller that
has found it sends back a version that has been renewed in the meantime.

* `lastPut`, `makings`: the last caller to write the secret, and the requests that have made it;
* `Saw`, `Behind`, `Overtaken`: what a caller has found, and what has become of that since;
* `Seen.behind_iff`: a caller is behind exactly if another version is there now.
-/

namespace SubpathCsi

/-! ### What has been asked -/

namespace Exchange

/-- The API server has made a secret. -/
def makesSecret : Exchange → Bool
  | ⟨.api _ (.createSecret _), .ok _⟩ => true
  | _ => false

/-- The API server was asked to replace a secret. -/
def asksReplacement : Exchange → Bool
  | ⟨.api _ (.replaceSecret _), _⟩ => true
  | _ => false

/-- The API server has handed out a secret. -/
def found? : Exchange → Option Secret
  | ⟨.api _ (.readSecret ..), .ok old⟩ => some old
  | _ => none

/-- The secret that the API server has kept, if it has made or replaced one. -/
def kept? : Exchange → Option Secret
  | ⟨.api _ (.createSecret _), .ok kept⟩ | ⟨.api _ (.replaceSecret _), .ok kept⟩ => some kept
  | _ => none

/-- A secret has been written, in another version than that of `old`. -/
def Renews (e : Exchange) (old : Secret) : Prop :=
  ∃ kept, e.kept? = some kept ∧ kept.version? ≠ old.version?

theorem putsSecret_of_kept {e : Exchange} {kept : Secret} (h : e.kept? = some kept) :
    e.putsSecret = true := by
  unfold kept? at h
  split at h
  · rfl
  · rfl
  · cases h

theorem not_renews {e : Exchange} {old : Secret} (h : e.kept? = none) : ¬e.Renews old := by
  rintro ⟨kept, hkept, -⟩
  rw [h] at hkept
  cases hkept

theorem renews_iff {e : Exchange} {old kept : Secret} (h : e.kept? = some kept) :
    e.Renews old ↔ kept.version? ≠ old.version? := by
  rw [Renews, h]
  simp

end Exchange

/-- The caller that was the last to write the secret. -/
def lastPut (history : List (Nat × Exchange)) : Option Nat :=
  ((history.filter (·.2.putsSecret)).getLast?).map Prod.fst

/-- The requests that have made a secret. -/
def makings (history : List (Nat × Exchange)) : List (Nat × Exchange) :=
  history.filter (·.2.makesSecret)

/-- The last request of the caller of number `i` has found the secret `old`, and `since` is what
others have asked after that. -/
def Saw (history : List (Nat × Exchange)) (i : Nat) (old : Secret) (since : List (Nat × Exchange)) :
    Prop :=
  ∃ past e, history = past ++ (i, e) :: since ∧ e.found? = some old ∧ ∀ p ∈ since, p.1 ≠ i

/-- What the caller of number `i` has found, in some version, is no longer there in that version:
somebody has renewed it since. -/
def Behind (history : List (Nat × Exchange)) (i : Nat) : Prop :=
  ∃ old since, Saw history i old since ∧ old.version? ≠ none ∧ ∃ p ∈ since, p.2.Renews old

/-- The caller of number `i` was overtaken: it has sent back a secret that somebody else had renewed
after it was found. -/
def Overtaken (history : List (Nat × Exchange)) (i : Nat) : Prop :=
  ∃ past e, past ++ [(i, e)] <+: history ∧ e.asksReplacement = true ∧ Behind past i

section History

variable {history since : List (Nat × Exchange)} {i j : Nat} {e : Exchange} {old : Secret}

theorem lastPut_concat :
    lastPut (history ++ [(i, e)]) = if e.putsSecret = true then some i else lastPut history := by
  rw [lastPut, List.filter_append]
  by_cases he : e.putsSecret = true
  · have hone : [(i, e)].filter (·.2.putsSecret) = [(i, e)] := by simp [he]
    rw [hone, List.getLast?_concat, if_pos he]
    rfl
  · have hnone : [(i, e)].filter (·.2.putsSecret) = [] := by simp [he]
    rw [hnone, List.append_nil, if_neg he, lastPut]

/-- Somebody was the last to write the secret if anybody has written it. -/
theorem isSome_lastPut_iff :
    (lastPut history).isSome = true ↔ ∃ p ∈ history, p.2.putsSecret = true := by
  rw [lastPut, Option.isSome_map, List.getLast?_isSome, ne_eq, List.filter_eq_nil_iff]
  simp only [not_forall, not_not, exists_prop]

theorem isSome_lastPut_append (h : (lastPut history).isSome = true) (more : List (Nat × Exchange)) :
    (lastPut (history ++ more)).isSome = true := by
  obtain ⟨p, hp, hputs⟩ := isSome_lastPut_iff.mp h
  exact isSome_lastPut_iff.mpr ⟨p, List.mem_append_left _ hp, hputs⟩

theorem isSome_lastPut_of_behind (h : Behind history i) : (lastPut history).isSome = true := by
  obtain ⟨old, since, ⟨past, e, rfl, -⟩, -, p, hp, kept, hkept, -⟩ := h
  refine isSome_lastPut_iff.mpr ⟨p, ?_, Exchange.putsSecret_of_kept hkept⟩
  exact List.mem_append_right _ (.tail _ hp)

theorem makings_concat :
    makings (history ++ [(i, e)]) =
      makings history ++ if e.makesSecret = true then [(i, e)] else [] := by
  rw [makings, List.filter_append]
  by_cases he : e.makesSecret = true
  · simp [he, makings]
  · simp [he, makings]

/-- A caller that finds a secret has seen it. -/
theorem saw_concat (h : e.found? = some old) : Saw (history ++ [(i, e)]) i old [] :=
  ⟨history, e, rfl, h, List.forall_mem_nil _⟩

theorem Saw.concat (h : Saw history i old since) (hne : j ≠ i) (e : Exchange) :
    Saw (history ++ [(j, e)]) i old (since ++ [(j, e)]) := by
  obtain ⟨past, e', rfl, hfound, hothers⟩ := h
  refine ⟨past, e', by rw [List.append_assoc]; rfl, hfound, ?_⟩
  exact List.forall_mem_append.mpr ⟨hothers, List.forall_mem_singleton.mpr hne⟩

/-- There is but one last request of a caller. -/
theorem Saw.unique {old' : Secret} {since' : List (Nat × Exchange)} (h : Saw history i old since)
    (h' : Saw history i old' since') : old = old' ∧ since = since' := by
  have htail : ∀ {past : List (Nat × Exchange)} {e : Exchange} {since : List (Nat × Exchange)},
      (∀ p ∈ since, p.1 ≠ i) →
      ((past ++ (i, e) :: since).reverse.takeWhile (·.1 ≠ i)).reverse = since := by
    intro past e since hothers
    rw [List.reverse_append, List.reverse_cons, List.append_assoc,
      List.takeWhile_append_of_pos (by simpa using hothers)]
    simp
  obtain ⟨past, e, rfl, hfound, hothers⟩ := h
  obtain ⟨past', e', heq, hfound', hothers'⟩ := h'
  have hsince : since = since' := by rw [← htail hothers, heq, htail hothers']
  subst hsince
  obtain ⟨-, hlast⟩ := List.append_inj' heq rfl
  cases hlast
  rw [hfound] at hfound'
  exact ⟨Option.some.inj hfound', rfl⟩

/-- A caller is overtaken when it sends back what it has fallen behind with. -/
theorem overtaken_concat :
    Overtaken (history ++ [(j, e)]) i ↔
      Overtaken history i ∨ j = i ∧ e.asksReplacement = true ∧ Behind history i := by
  constructor
  · rintro ⟨past, e', hpast, hask, hbehind⟩
    obtain heq | hpast := List.prefix_concat_iff.mp hpast
    · obtain ⟨rfl, hlast⟩ := List.append_inj' heq rfl
      cases hlast
      exact .inr ⟨rfl, hask, hbehind⟩
    · exact .inl ⟨past, e', hpast, hask, hbehind⟩
  · rintro (⟨past, e', hpast, hask, hbehind⟩ | ⟨rfl, hask, hbehind⟩)
    · exact ⟨past, e', hpast.trans (List.prefix_append _ _), hask, hbehind⟩
    · exact ⟨history, e, List.prefix_rfl, hask, hbehind⟩

theorem not_overtaken_nil : ¬Overtaken [] i := by
  rintro ⟨past, e, hpast, -⟩
  exact absurd (List.prefix_nil.mp hpast) (by simp)

end History

/-! ### What a caller has seen -/

/-- A caller of number `i` that has found the secret `old`, while the secret `now` is there: `now`
is alike, and has another version exactly if somebody has renewed it since, and then a later one. -/
structure Seen (order : Option String → Nat) (history : List (Nat × Exchange)) (i : Nat)
    (old now : Secret) : Prop where
  /-- They differ in data and owners alone. -/
  alike : old.Alike now
  /-- The version tells what was asked since. -/
  since : ∃ since, Saw history i old since ∧
    ((∃ p ∈ since, p.2.Renews old) ↔ now.version? ≠ old.version?)
  /-- Versions do not come back. -/
  later : now.version? = old.version? ∨ order old.version? < order now.version?

namespace Seen

variable {order : Option String → Nat} {history : List (Nat × Exchange)} {i j : Nat}
  {old now kept : Secret} {e : Exchange}

/-- What has just been found is what is there. -/
theorem found (h : e.found? = some old) : Seen order (history ++ [(i, e)]) i old old where
  alike := .refl old
  since := ⟨[], saw_concat h, by simp⟩
  later := .inl rfl

/-- A caller is behind exactly if what it has found came in a version that is no longer there. -/
theorem behind_iff (h : Seen order history i old now) :
    Behind history i ↔ old.version? ≠ none ∧ now.version? ≠ old.version? := by
  obtain ⟨since, hsaw, hsince⟩ := h.since
  rw [← hsince]
  constructor
  · rintro ⟨old', since', hsaw', hversion, hrenewed⟩
    obtain ⟨rfl, rfl⟩ := hsaw.unique hsaw'
    exact ⟨hversion, hrenewed⟩
  · rintro ⟨hversion, hrenewed⟩
    exact ⟨old, since, hsaw, hversion, hrenewed⟩

/-- Another caller has written nothing. -/
theorem pass (h : Seen order history i old now) (hne : j ≠ i) (he : e.kept? = none) :
    Seen order (history ++ [(j, e)]) i old now where
  alike := h.alike
  since := by
    obtain ⟨since, hsaw, hsince⟩ := h.since
    refine ⟨_, hsaw.concat hne e, ?_⟩
    rw [← hsince]
    simp [List.mem_append, or_and_right, exists_or, Exchange.not_renews he]
  later := h.later

/-- Another caller has written the secret. -/
theorem put (h : Seen order history i old now) (hne : j ≠ i) (he : e.kept? = some kept)
    (halike : now.Alike kept)
    (hlater : kept.version? = now.version? ∨ order now.version? < order kept.version?) :
    Seen order (history ++ [(j, e)]) i old kept where
  alike := h.alike.trans halike
  since := by
    obtain ⟨since, hsaw, hsince⟩ := h.since
    refine ⟨_, hsaw.concat hne e, ?_⟩
    have hsplit : (∃ p ∈ since ++ [(j, e)], p.2.Renews old) ↔
        (∃ p ∈ since, p.2.Renews old) ∨ e.Renews old := by
      simp [List.mem_append, or_and_right, exists_or]
    rw [hsplit, hsince, Exchange.renews_iff he]
    refine or_iff_right_of_imp fun hother hsame => ?_
    -- a version that has gone is not given again
    obtain hkept | hkept := hlater
    · exact hother (hkept.symm.trans hsame)
    · obtain hnow | hnow := h.later
      · exact hother hnow
      · rw [hsame] at hkept
        omega
  later := by
    obtain hkept | hkept := hlater
    · rw [hkept]
      exact h.later
    · obtain hnow | hnow := h.later
      · rw [hnow] at hkept
        exact .inr hkept
      · exact .inr (hnow.trans hkept)

end Seen

end SubpathCsi
