import Mathlib.Data.List.Induction
import SubpathCsi.Proofs.Writers.Place

/-!
# Writers of one secret

Several callers may put a secret in one place together, with no lock between them. The API server
answers one request at a time, so nothing but the order of their requests is left open. Each caller
sends back what it has found, and the API server refuses a secret whose version is no longer the one
that is there.

* `Writers.turn`, `Writers.interleave`: one request of one caller, and the requests of a schedule;
* `Writers.Underway`: what holds after every schedule, carried from turn to turn;
* `Writers.served_interleave`: a call fails exactly if it is overtaken, the secret is made at most
  once, and it ends up with data and owners of one and the same caller;
* `Writers.failed_twoWriters`: two callers, one of which is overtaken.
-/

namespace SubpathCsi

/-! ### Calls side by side -/

/-- Calls that are under way together. -/
structure Writers where
  /-- The remote ends. -/
  remote : Remote
  /-- What is left of each call. -/
  left : List (Act Unit)
  /-- What has been asked so far, and by which caller. -/
  history : List (Nat × Exchange) := []

namespace Writers

/-- All calls are at their beginning. -/
def start (callers : List Writer) (w : Remote) : Writers where
  remote := w
  left := callers.map Writer.act

/-- The calls after one more request of one caller, if it has one left. -/
def turn (u : Writers) (i : Nat) : Writers :=
  match u.left[i]? with
  | none => u
  | some a =>
    let (es, rest, w) := a.start u.remote
    { remote := w, left := u.left.set i rest, history := u.history ++ es.map (i, ·) }

/-- The calls after the turns of a schedule. -/
def interleave (u : Writers) (schedule : List Nat) : Writers := schedule.foldl turn u

theorem interleave_concat (u : Writers) (schedule : List Nat) (i : Nat) :
    u.interleave (schedule ++ [i]) = (u.interleave schedule).turn i := by
  rw [interleave, List.foldl_append]
  rfl

end Writers

/-! ### All turns -/

namespace Writers

variable {order : Option String → Nat} {callers : List Writer} {name : String}
  {space : Option String} {w : Remote} {schedule : List Nat} {u : Writers}

/-- What holds of calls after the turns of a schedule, if they began on the remote ends `w`. -/
structure Underway (order : Option String → Nat) (callers : List Writer) (name : String)
    (space : Option String) (w : Remote) (schedule : List Nat) (u : Writers) : Prop where
  /-- There are no faults on the way to the API server. -/
  faults : u.remote.faults = []
  /-- The API server is the same. -/
  server : u.remote.server = w.server
  /-- What is in the place goes by what has been asked. -/
  stored : Stored callers (w.cluster.secret? (.str name) (.ofText? space)) u.history
    (u.remote.cluster.secret? (.str name) (.ofText? space))
  /-- All else in the cluster is as it was. -/
  cluster : u.remote.cluster = (u.remote.cluster.secret? (.str name) (.ofText? space)).elim
    w.cluster w.cluster.putSecret
  /-- Every caller has one call. -/
  length : u.left.length = callers.length
  /-- Every call has got as far as its turns allow. -/
  calls : ∀ i caller, callers[i]? = some caller → ∃ p : Putting,
    u.left[i]? = some (p.act caller.config caller.secret) ∧
      p.Stands order (w.cluster.secret? (.str name) (.ofText? space))
        (u.remote.cluster.secret? (.str name) (.ofText? space)) u.history i ∧
      p.ahead ≤ 4 - schedule.count i

theorem underway_start (hw : w.faults = []) :
    Underway order callers name space w [] (start callers w) where
  faults := hw
  server := rfl
  stored := .untouched rfl rfl
  cluster := by
    change w.cluster = (w.cluster.secret? _ _).elim w.cluster w.cluster.putSecret
    cases hfirst : w.cluster.secret? (.str name) (.ofText? space) with
    | none => rfl
    | some old => exact (Cluster.putSecret_of_secret? hfirst).symm
  length := List.length_map Writer.act
  calls i caller hcaller := by
    refine ⟨.looking, ?_, ⟨trivial, iff_of_false not_overtaken_nil nofun, nofun⟩, Nat.le_refl 4⟩
    rw [start, List.getElem?_map, hcaller]
    rfl

/-- A secret that is written now could have been the first to be. -/
theorem Underway.putSecret_eq {t : Secret} (h : Underway order callers name space w schedule u)
    (ht : t.LiesAt name space) : u.remote.cluster.putSecret t = w.cluster.putSecret t := by
  have hcluster := h.cluster
  cases hnow : u.remote.cluster.secret? (.str name) (.ofText? space) with
  | none =>
    rw [hnow, Option.elim_none] at hcluster
    rw [hcluster]
  | some now =>
    rw [hnow, Option.elim_some] at hcluster
    rw [hcluster, Cluster.putSecret_putSecret _ (Cluster.liesAt_of_secret? hnow) ht]

/-- The turn of a call that is under way. -/
theorem turn_eq {i : Nat} {a rest : Act Unit} {es : List Exchange} {w' : Remote}
    (ha : u.left[i]? = some a) (hstart : a.start u.remote = (es, rest, w')) :
    u.turn i = ⟨w', u.left.set i rest, u.history ++ es.map (i, ·)⟩ := by
  rw [turn, ha]
  simp only [hstart]

/-- **Every turn keeps this.** -/
theorem Underway.turn (hserver : w.server.Versions order)
    (hcallers : ∀ v ∈ callers, v.secret.LiesAt name space)
    (h : Underway order callers name space w schedule u) (i : Nat) :
    Underway order callers name space w (schedule ++ [i]) (u.turn i) := by
  have hcount : ∀ j, (schedule ++ [i]).count j = schedule.count j + if i = j then 1 else 0 := by
    intro j
    rw [List.count_append, List.count_singleton]
    simp only [beq_iff_eq]
  cases hi : callers[i]? with
  | none =>
    -- nobody takes the turn
    have hleft : u.left[i]? = none := by
      rw [List.getElem?_eq_none_iff, h.length, ← List.getElem?_eq_none_iff]
      exact hi
    have hidle : u.turn i = u := by rw [Writers.turn, hleft]
    rw [hidle]
    refine { h with calls := fun j caller hcaller => ?_ }
    obtain ⟨p, hp, hstands, hahead⟩ := h.calls j caller hcaller
    have hne : i ≠ j := by
      rintro rfl
      rw [hi] at hcaller
      cases hcaller
    exact ⟨p, hp, hstands, by rwa [hcount, if_neg hne]⟩
  | some v =>
    have hv := hcallers v (List.mem_of_getElem? hi)
    obtain ⟨p, hp, hstands, hahead⟩ := h.calls i v hi
    have hpresent : ∀ now, u.remote.cluster.secret? (.str name) (.ofText? space) = some now →
        now.LiesAt v.secret.name v.secret.metadata.space := by
      intro now hnow
      rw [hv.1, hv.2]
      exact Cluster.liesAt_of_secret? hnow
    rw [← h.server] at hserver
    obtain ⟨es, p', written, hturn⟩ :=
      Putting.exists_turn (c := v.config) hserver hstands.fits hpresent
    obtain ⟨w', hstart, hcluster⟩ := Putting.start_act hv h.faults hturn
    have hsteady := (p.act v.config v.secret).steady_start h.faults
    rw [hstart] at hsteady
    have hwritten : ∀ t, written = some t → t.LiesAt name space := by
      rintro t rfl
      have ht := hturn.liesAt
      rwa [hv.1, hv.2] at ht
    have hplace : w'.cluster.secret? (.str name) (.ofText? space) =
        written.or (u.remote.cluster.secret? (.str name) (.ofText? space)) := by
      rw [hcluster]
      cases written with
      | none => rfl
      | some t => exact Cluster.secret?_putSecret _ (hwritten t rfl)
    rw [turn_eq hp hstart]
    refine ⟨hsteady.faults, hsteady.holds.server.trans h.server, ?_, ?_,
      (List.length_set ..).trans h.length, fun j caller hcaller => ?_⟩
    · rw [hplace]
      exact h.stored.turn hi hstands.fits hturn
    · rw [hplace]
      cases written with
      | none => exact hcluster.trans h.cluster
      | some t =>
        refine hcluster.trans ?_
        change u.remote.cluster.putSecret t = w.cluster.putSecret t
        exact h.putSecret_eq (hwritten t rfl)
    · rw [hplace, hcount]
      by_cases hne : i = j
      · obtain rfl := hne
        obtain rfl := Option.some.inj (hi.symm.trans hcaller)
        have hlt : i < u.left.length := (List.getElem?_eq_some_iff.mp hp).1
        have hnext := hturn.ahead_le
        refine ⟨p', List.getElem?_set_self hlt, hturn.stands h.stored hstands, ?_⟩
        rw [if_pos rfl]
        omega
      · obtain ⟨q, hq, hqstands, hqahead⟩ := h.calls j caller hcaller
        refine ⟨q, ?_, hturn.stands_other hstands.fits hne hqstands, ?_⟩
        · rwa [List.getElem?_set_ne hne]
        · rwa [if_neg hne]

/-- What holds after every schedule. -/
theorem underway_interleave (hserver : w.server.Versions order)
    (hcallers : ∀ v ∈ callers, v.secret.LiesAt name space) (hw : w.faults = [])
    (schedule : List Nat) :
    Underway order callers name space w schedule ((start callers w).interleave schedule) := by
  induction schedule using List.reverseRecOn with
  | nil => exact underway_start hw
  | append_singleton schedule i ih =>
    rw [interleave_concat]
    exact ih.turn hserver hcallers i

/-! ### What comes of them -/

/-- The secret `s` is in the place, and it is `caller`, the one of number `i`, who was the last to
write it. -/
structure WrittenBy (callers : List Writer) (name : String) (space : Option String) (w : Remote)
    (u : Writers) (i : Nat) (caller : Writer) (s : Secret) : Prop where
  /-- The caller has the number. -/
  number : callers[i]? = some caller
  /-- Its call has returned. -/
  returned : u.left[i]? = some (.pure ())
  /-- Nobody has written the secret later. -/
  last : lastPut u.history = some i
  /-- The secret is in the place. -/
  found : u.remote.cluster.secret? (.str name) (.ofText? space) = some s
  /-- The data are those of the caller. -/
  data : s.data = caller.secret.data
  /-- So are the owners. -/
  owners : s.metadata.ownerReferences = caller.secret.metadata.ownerReferences
  /-- A secret that was there at first has kept everything else. -/
  kept : ∀ old, w.cluster.secret? (.str name) (.ofText? space) = some old →
    s.content = (old.taking caller.secret).content
  /-- All else in the cluster is as it was. -/
  cluster : u.remote.cluster = w.cluster.putSecret s

/-- What comes of calls by the turns of a schedule, if they began on the remote ends `w`. -/
structure Served (callers : List Writer) (name : String) (space : Option String) (w : Remote)
    (schedule : List Nat) (u : Writers) : Prop where
  /-- Four turns are enough for a call to return or to fail. -/
  ended : ∀ i < callers.length, 4 ≤ schedule.count i →
    u.left[i]? = some (.pure ()) ∨ ∃ f, u.left[i]? = some (.fail f)
  /-- A call fails exactly if it is overtaken, and in one way. -/
  failed : ∀ i < callers.length, ∀ f,
    u.left[i]? = some (.fail f) ↔ Overtaken u.history i ∧ f = refusal name space
  /-- The secret is made at most once. -/
  madeOnce : (makings u.history).length ≤ 1
  /-- Once a call has returned or failed, the secret is that of the last caller to write it. -/
  settled : (∃ a ∈ u.left, a = .pure () ∨ ∃ f, a = .fail f) →
    ∃ i caller s, WrittenBy callers name space w u i caller s
  /-- A call that is made twice from there, without others, returns, and leaves the cluster as after
  the first time. -/
  repeated : ∀ caller ∈ callers, ∃ w' w'' s' s'',
    caller.act.run u.remote = (.ok (), w') ∧ caller.act.run w' = (.ok (), w'') ∧
      w'.cluster.secret? (.str name) (.ofText? space) = some s' ∧
      w''.cluster = w'.cluster.putSecret s'' ∧ s''.content = s'.content

/-- Where the last caller to write the secret stands, and what it has left. -/
theorem Underway.writtenBy (h : Underway order callers name space w schedule u)
    (hlast : (lastPut u.history).isSome = true) :
    ∃ i caller s, WrittenBy callers name space w u i caller s := by
  have hreturned : ∀ {i : Nat} {caller : Writer}, callers[i]? = some caller →
      lastPut u.history = some i → u.left[i]? = some (.pure ()) := by
    intro i caller hcaller hi
    obtain ⟨p, hp, hstands, -⟩ := h.calls i caller hcaller
    rw [hp, hstands.last hi]
    rfl
  have hstored := h.stored
  have hcluster := h.cluster
  generalize hfound : u.remote.cluster.secret? (.str name) (.ofText? space) = present
    at hstored hcluster
  cases hstored with
  | untouched hnone =>
    rw [hnone] at hlast
    cases hlast
  | replaced hfirst _ hcaller hlast hnow =>
    refine ⟨_, _, _, hcaller, hreturned hcaller hlast, hlast, hfound, congrArg (·.data) hnow,
      congrArg (·.metadata.ownerReferences) hnow, fun old hold => ?_, hcluster⟩
    rw [hold] at hfirst
    cases hfirst
    exact hnow
  | made hfirst _ _ hcaller hlast hnow =>
    refine ⟨_, _, _, hcaller, hreturned hcaller hlast, hlast, hfound, congrArg (·.data) hnow,
      congrArg (·.metadata.ownerReferences) hnow, fun old hold => ?_, hcluster⟩
    rw [hold] at hfirst
    cases hfirst

/-- **Writers of one secret.** Any number of callers put a secret in one place, with no faults of
the API server, and in any order of their requests. Each of them returns or fails after four
requests at most. It fails exactly if another caller has renewed the secret after it was found: the
API server then refuses what is sent back, and nobody looks again. The secret is made at most once.
In the end it has data and owners of one caller that has returned, the last to write it, and
everything else of the secret that was there at first. A call that is repeated changes nothing. -/
theorem served_interleave (hserver : w.server.Versions order)
    (hcallers : ∀ v ∈ callers, v.secret.LiesAt name space) (hw : w.faults = [])
    (schedule : List Nat) :
    Served callers name space w schedule ((start callers w).interleave schedule) := by
  have h := underway_interleave hserver hcallers hw schedule
  generalize (start callers w).interleave schedule = u at h
  -- what is left of a call tells how far it is
  have hcall : ∀ (i : Nat) (a : Act Unit), u.left[i]? = some a →
      ∃ (caller : Writer) (p : Putting), callers[i]? = some caller ∧
      a = p.act caller.config caller.secret ∧
      p.Stands order (w.cluster.secret? (.str name) (.ofText? space))
        (u.remote.cluster.secret? (.str name) (.ofText? space)) u.history i := by
    intro i a ha
    have hlt : i < callers.length := by
      rw [← h.length]
      exact (List.getElem?_eq_some_iff.mp ha).1
    have hcaller := List.getElem?_eq_getElem hlt
    obtain ⟨p, hp, hstands, -⟩ := h.calls i _ hcaller
    exact ⟨_, p, hcaller, Option.some.inj (ha.symm.trans hp), hstands⟩
  have hrefusal : ∀ {i : Nat} {caller : Writer}, callers[i]? = some caller →
      refusal caller.secret.name caller.secret.metadata.space = refusal name space := by
    intro i caller hcaller
    obtain ⟨hname, hspace⟩ := hcallers caller (List.mem_of_getElem? hcaller)
    rw [hname, hspace]
  constructor
  case ended =>
    intro i hi hturns
    obtain ⟨p, hp, -, hahead⟩ := h.calls i _ (List.getElem?_eq_getElem hi)
    have hover : p.ahead = 0 := by omega
    rw [hp]
    obtain rfl | rfl := Putting.eq_done_or_refused_of_ahead hover
    · exact .inl rfl
    · exact .inr ⟨_, rfl⟩
  case failed =>
    intro i hi f
    constructor
    · intro hfail
      obtain ⟨caller, p, hcaller, hp, hstands⟩ := hcall i _ hfail
      obtain ⟨hrefused, rfl⟩ := Putting.act_eq_fail hp.symm
      exact ⟨hstands.refused.mpr hrefused, hrefusal hcaller⟩
    · rintro ⟨hovertaken, rfl⟩
      have hcaller := List.getElem?_eq_getElem hi
      obtain ⟨p, hp, hstands, -⟩ := h.calls i _ hcaller
      rw [hp, hstands.refused.mp hovertaken, ← hrefusal hcaller]
      rfl
  case madeOnce => exact h.stored.length_makings_le
  case settled =>
    rintro ⟨a, ha, hends⟩
    obtain ⟨i, hi⟩ := List.getElem?_of_mem ha
    obtain ⟨caller, p, -, hp, hstands⟩ := hcall i _ hi
    have hfits := hstands.fits
    refine h.writtenBy ?_
    obtain rfl | ⟨f, rfl⟩ := hends
    · rwa [Putting.act_eq_pure hp.symm] at hfits
    · rwa [(Putting.act_eq_fail hp.symm).1] at hfits
  case repeated =>
    intro caller hcaller
    rw [← h.server] at hserver
    obtain ⟨w', s', hfirst, hfaults, hserver', hcluster, hplace, hown, -⟩ :=
      caller.run_act hserver h.faults
    have hfound := Cluster.secret?_putSecret u.remote.cluster hplace
    rw [← hcluster] at hfound
    rw [← hserver'] at hserver
    obtain ⟨w'', s'', hsecond, -, -, hcluster', -, -, hkept⟩ := caller.run_act hserver hfaults
    obtain ⟨hname, hspace⟩ := hcallers caller hcaller
    rw [hname, hspace] at hfound
    refine ⟨w', w'', s', s'', hfirst, hsecond, hfound, hcluster', ?_⟩
    rw [hkept s' (by rw [Secret.nameJson, Secret.spaceJson, hname, hspace, hfound]), hown]

/-- A secret of one value, kept by one owner. -/
def keyedSecret (value owner : String) : Secret where
  metadata :=
    { name := "data-secret"
      space := some "default"
      ownerReferences := some [
        { apiVersion := "v1", kind := "PersistentVolumeClaim", name := owner, uid := owner }] }
  data := some [("key", value)]

/-- Two callers, with secrets of their own for one place. -/
def twoWriters : List Writer :=
  [⟨{}, keyedSecret "bw==" "first"⟩, ⟨{}, keyedSecret "dHdv" "second"⟩]

/-- Remote ends with these secrets, and an API server that keeps versions. -/
def versioned (secrets : List Secret) : Remote where
  cluster := { secrets }
  server := .numbering

/-- Both look before either makes the secret; the first makes it, and the second one replaces it. -/
theorem served_interleave_twoWriters :
    let schedule := [0, 1, 0, 1, 1, 1]
    let u := (start twoWriters (versioned [])).interleave schedule
    (versioned []).server.Versions ApiServer.number ∧
      (∀ v ∈ twoWriters, v.secret.LiesAt "data-secret" (some "default")) ∧
      Served twoWriters "data-secret" (some "default") (versioned []) schedule u ∧
      (makings u.history).length = 1 ∧ lastPut u.history = some 1 := by
  intro schedule u
  have hserver : (versioned []).server.Versions ApiServer.number := ApiServer.versions_numbering
  have hplace : ∀ v ∈ twoWriters, v.secret.LiesAt "data-secret" (some "default") := by
    simp [twoWriters, keyedSecret, Secret.LiesAt, Secret.name]
  have hmade : (makings u.history).length = 1 := by decide +kernel
  have hlast : lastPut u.history = some 1 := by decide +kernel
  exact ⟨hserver, hplace, served_interleave hserver hplace rfl schedule, hmade, hlast⟩

/-- Both find the secret before either replaces it. The first call returns, and the second one
fails. -/
theorem failed_twoWriters :
    let w := versioned [(keyedSecret "b2xk" "old").inVersion 1]
    let u := (start twoWriters w).interleave [0, 1, 0, 1]
    w.faults = [] ∧ w.server.Versions ApiServer.number ∧
      (∀ v ∈ twoWriters, v.secret.LiesAt "data-secret" (some "default")) ∧
      u.left[0]? = some (.pure ()) ∧
      u.left[1]? = some (.fail (refusal "data-secret" (some "default"))) := by
  intro w u
  have hplace : ∀ v ∈ twoWriters, v.secret.LiesAt "data-secret" (some "default") := by
    simp [twoWriters, keyedSecret, Secret.LiesAt, Secret.name]
  exact ⟨rfl, ApiServer.versions_numbering, hplace, rfl, rfl⟩

end Writers

end SubpathCsi
