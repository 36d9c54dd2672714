import SubpathCsi.Proofs.Volume.LastRemoval

/-!
# Removals side by side

Several removals of volumes at one subpath may be under way together. Each lists the volumes first,
and with that decides whether the subpath goes; later it acts, and the API server drops its volume.
Between the two, other removals list and act.

* `Removals.step`: one step of one removal, and `Removals.interleave`: the steps of a schedule;
* `Volume.EndsAlone`: the last two steps of a schedule are those of one volume;
* `Volume.removals_interleave`: only such a schedule removes the subpath, in its last step; after
  any other one, all volumes are gone and the subpath stays behind.
-/

namespace SubpathCsi

variable {c : Config} {v : Volume}

/-! ### Steps -/

/-- Removals that are under way. -/
structure Removals where
  /-- The remote ends. -/
  remote : Remote
  /-- What is left to do of the removals that have listed the volumes, under the names of theirs. -/
  started : Keyed (Act Unit) := []

namespace Removals

/-- The removals after one of them has come to its end, and the API server has dropped its
volume. -/
def dropping (u : Removals) (v : Volume) (w : Remote) : Removals where
  remote := { w with cluster := w.cluster.dropVolume v.name }
  started := Keyed.erase u.started v.name

/-- One step of the removal of a volume, with its exchanges. The first step lists the volumes, the
second does all the rest. -/
def step (c : Config) (v : Volume) (u : Removals) : List Exchange × Removals :=
  match Keyed.get? u.started v.name with
  | none =>
    let (es, rest, w) := (v.delete c).start u.remote
    (es, { remote := w, started := Keyed.put u.started v.name rest })
  | some rest => (rest.exchanges u.remote, u.dropping v (rest.run u.remote).2)

/-- The exchanges of the steps of a schedule, each of which is a step for the volume that it
names. -/
def interleave (c : Config) : List Volume → Removals → List (List Exchange)
  | [], _ => []
  | v :: vs, u => (u.step c v).1 :: interleave c vs (u.step c v).2

/-- The removals after the steps of a schedule. -/
def after (c : Config) (schedule : List Volume) (u : Removals) : Removals :=
  schedule.foldl (fun u v => (u.step c v).2) u

theorem step_of_idle {u : Removals} (h : Keyed.get? u.started v.name = none) :
    u.step c v =
      (((v.delete c).start u.remote).1,
        { remote := ((v.delete c).start u.remote).2.2
          started := Keyed.put u.started v.name ((v.delete c).start u.remote).2.1 }) := by
  rw [step, h]

theorem step_of_started {u : Removals} {rest : Act Unit}
    (h : Keyed.get? u.started v.name = some rest) :
    u.step c v = (rest.exchanges u.remote, u.dropping v (rest.run u.remote).2) := by
  rw [step, h]

end Removals

namespace Volume

/-! ### Listing -/

/-- A volume that can be removed is listed for first. What is left then depends on the list. -/
theorem Removable.delete_eq {k : Cluster} (h : v.Removable k) :
    ∃ rest, v.delete c = Act.once (.api c.requestTimeout .listVolumes) (Kube.outcome .listVolumes)
      >>= fun vs => if mayDeleteSubpath vs v v.pathPattern? then rest else pure () := by
  obtain ⟨source, hcsi⟩ := Option.ne_none_iff_exists'.mp h.csi
  rw [delete, if_neg fun hne => hne h.policy, hcsi]
  exact ⟨_, by rw [← Kube.call_eq_once]; rfl⟩

/-- The first step is a listing. Whoever may not take the subpath along has nothing left to do. -/
theorem Removable.start_delete {w : Remote} (h : v.Removable w.cluster) (hw : w.faults = []) :
    removals ((v.delete c).start w).1 = [] ∧
      (mayDeleteSubpath w.cluster.volumes v v.pathPattern? = false →
        ((v.delete c).start w).2.1 = pure ()) := by
  obtain ⟨rest, hdelete⟩ := h.delete_eq (c := c)
  rw [hdelete]
  refine ⟨rfl, fun hmay => ?_⟩
  have hlisted : (w.answer (.api c.requestTimeout .listVolumes)).1 = .ok w.cluster.volumes :=
    congrArg Prod.fst (Remote.answer_api hw _ _)
  change (liftM (Kube.outcome .listVolumes
    (w.answer (.api c.requestTimeout .listVolumes)).1) : Act _).bind _ = _
  rw [hlisted]
  change (if mayDeleteSubpath w.cluster.volumes v v.pathPattern? = true then rest else pure ()) = _
  rw [hmay]
  rfl

/-! ### Schedules -/

/-- The last two steps are those of one volume, so no other one is there when it is listed for. -/
def EndsAlone (schedule : List Volume) : Prop := ∃ earlier v, schedule = earlier ++ [v, v]

theorem not_endsAlone_nil : ¬EndsAlone [] := by
  rintro ⟨earlier, v, h⟩
  exact List.cons_ne_nil _ _ (List.append_eq_nil_iff.mp h.symm).2

theorem endsAlone_cons {schedule : List Volume} :
    EndsAlone (v :: schedule) ↔ schedule = [v] ∨ EndsAlone schedule := by
  constructor
  · rintro ⟨earlier, u, h⟩
    cases earlier with
    | nil =>
      cases h
      exact .inl rfl
    | cons first earlier =>
      cases h
      exact .inr ⟨earlier, u, rfl⟩
  · rintro (rfl | ⟨earlier, u, rfl⟩)
    · exact ⟨[], v, rfl⟩
    · exact ⟨v :: earlier, u, rfl⟩

/-- Volumes share a subpath. For `idle` nothing has been listed yet; the removals of `deciding` have
listed volumes, and keep the subpath. -/
structure Undecided (class? : Option String) (s : String) (u : Removals)
    (idle deciding : List Volume) : Prop where
  /-- There are no faults on the way to the API server. -/
  faults : u.remote.faults = []
  /-- All of the volumes are there still, and share the subpath. -/
  shared : SharedBy u.remote.cluster class? s (idle ++ deciding)
  /-- Nothing has been listed for these. -/
  idle : ∀ v ∈ idle, Keyed.get? u.started v.name = none
  /-- These have nothing left to do. -/
  deciding : ∀ v ∈ deciding, Keyed.get? u.started v.name = some (pure ())

section Undecided

variable {class? : Option String} {s : String} {u : Removals} {idle deciding : List Volume}

theorem Undecided.perm {idle' deciding' : List Volume} (h : Undecided class? s u idle deciding)
    (hidle : idle'.Perm idle) (hdeciding : deciding'.Perm deciding) :
    Undecided class? s u idle' deciding' where
  faults := h.faults
  shared := h.shared.perm (hidle.append hdeciding)
  idle v hv := h.idle v (hidle.mem_iff.mp hv)
  deciding v hv := h.deciding v (hdeciding.mem_iff.mp hv)

/-- A removal that lists while another volume is there keeps the subpath. -/
theorem Undecided.list (h : Undecided class? s u (v :: idle) deciding)
    (hother : idle ++ deciding ≠ []) :
    removals (u.step c v).1 = [] ∧ Undecided class? s (u.step c v).2 idle (v :: deciding) := by
  have hv : v ∈ v :: idle ++ deciding := .head _
  have hmay : mayDeleteSubpath u.remote.cluster.volumes v v.pathPattern? = false := by
    obtain ⟨other, others, hcons⟩ := List.exists_cons_of_ne_nil hother
    have hshared := h.shared
    rw [List.cons_append, hcons] at hshared
    exact hshared.mayDeleteSubpath_cons
  obtain ⟨hnone, hkept⟩ := (h.shared.removable v hv).start_delete (c := c) h.faults
  have hsteady := (v.delete c).steady_start h.faults
  have hfresh : ∀ u ∈ idle ++ deciding, v.name ≠ u.name := fun u hu he =>
    (List.nodup_cons.mp h.shared.names).1 (List.mem_map.mpr ⟨u, hu, he.symm⟩)
  rw [Removals.step_of_idle (h.idle v (.head _)), hkept hmay]
  refine ⟨hnone, hsteady.faults, ?_, fun u hu => ?_, fun u hu => ?_⟩
  · exact (h.shared.congr hsteady.holds.volumes hsteady.holds.descriptors).perm List.perm_middle
  · rw [Keyed.get?_put, if_neg (hfresh u (List.mem_append_left _ hu))]
    exact h.idle u (.tail _ hu)
  · rw [Keyed.get?_put]
    obtain rfl | hu := List.mem_cons.mp hu
    · exact if_pos rfl
    · rw [if_neg (hfresh u (List.mem_append_right _ hu))]
      exact h.deciding u hu

/-- A removal that keeps the subpath asks nothing more, and its volume is dropped. -/
theorem Undecided.act (h : Undecided class? s u idle (v :: deciding)) :
    (u.step c v).1 = [] ∧ Undecided class? s (u.step c v).2 idle deciding := by
  have hshared : SharedBy u.remote.cluster class? s (v :: (idle ++ deciding)) :=
    h.shared.perm List.perm_middle.symm
  have hfresh : ∀ u ∈ idle ++ deciding, v.name ≠ u.name := fun u hu he =>
    (List.nodup_cons.mp hshared.names).1 (List.mem_map.mpr ⟨u, hu, he.symm⟩)
  rw [Removals.step_of_started (h.deciding v (.head _))]
  refine ⟨rfl, h.faults, hshared.drop rfl rfl, fun u hu => ?_, fun u hu => ?_⟩
  · change Keyed.get? (Keyed.erase _ v.name) u.name = none
    rw [Keyed.get?_erase, if_neg (hfresh u (List.mem_append_left _ hu))]
    exact h.idle u hu
  · change Keyed.get? (Keyed.erase _ v.name) u.name = some (pure ())
    rw [Keyed.get?_erase, if_neg (hfresh u (List.mem_append_right _ hu))]
    exact h.deciding u (.tail _ hu)

/-- The removal of the only volume that is left removes the subpath, if nothing comes between its
steps. -/
theorem Undecided.last (h : Undecided class? s u [v] [])
    (hobliging : ∀ es ∈ u.interleave c [v, v], ∀ e ∈ es, e.isObliging = true) :
    removals (u.step c v).1 = [] ∧
      (∃ e, removals ((u.step c v).2.step c v).1 = [e] ∧ e.request.Removes s) ∧
      SharedBy (u.after c [v, v]).remote.cluster class? s [] := by
  have hstep := Removals.step_of_idle (c := c) (h.idle v (.head _))
  have hstarted : Keyed.get? (u.step c v).2.started v.name =
      some ((v.delete c).start u.remote).2.1 := by
    rw [hstep, Keyed.get?_put, if_pos rfl]
  have hnext := Removals.step_of_started (c := c) hstarted
  have hafter : u.after c [v, v] = ((u.step c v).2.step c v).2 := rfl
  rw [Removals.interleave, Removals.interleave, Removals.interleave, hnext, hstep] at hobliging
  rw [hafter, hnext, hstep]
  obtain ⟨hnone, -⟩ := (h.shared.removable v (.head _)).start_delete (c := c) h.faults
  refine ⟨hnone, ?_, ?_⟩
  · -- the two steps together are the whole removal
    have hwhole := (v.delete c).exchanges_start u.remote
    obtain ⟨e, hone, hremoves⟩ := h.shared.removals_eq_singleton (c := c) h.faults (by
      rw [hwhole]
      intro e he
      obtain he | he := List.mem_append.mp he
      · exact hobliging _ (.head _) e he
      · exact hobliging _ (.tail _ (.head _)) e he)
    rw [hwhole, removals_append, hnone, List.nil_append] at hone
    exact ⟨e, hone, hremoves⟩
  · have hfirst := (v.delete c).steady_start h.faults
    have hrest := ((v.delete c).start u.remote).2.1.steady_run hfirst.faults
    have hholds := hfirst.holds.trans hrest.holds
    exact h.shared.drop hholds.volumes hholds.descriptors

end Undecided

/-! ### All steps -/

/-- Only the last step removes anything: the subpath `s`, by one request. -/
def RemovedLast (s : String) (steps : List (List Exchange)) : Prop :=
  ∃ earlier last e, steps = earlier ++ [last] ∧ (∀ es ∈ earlier, removals es = []) ∧
    removals last = [e] ∧ e.request.Removes s

theorem RemovedLast.cons {s : String} {es : List Exchange} {steps : List (List Exchange)}
    (h : RemovedLast s steps) (hes : removals es = []) : RemovedLast s (es :: steps) := by
  obtain ⟨earlier, last, e, rfl, hearlier, hone, hremoves⟩ := h
  exact ⟨es :: earlier, last, e, rfl, List.forall_mem_cons.mpr ⟨hes, hearlier⟩, hone, hremoves⟩

/-- What comes of a schedule: no volume is left at the subpath, and it is removed in the last step,
or not at all. -/
structure Settled (c : Config) (class? : Option String) (s : String) (schedule : List Volume)
    (u : Removals) : Prop where
  /-- No live volume of the class lies at the subpath. -/
  emptied : SharedBy (u.after c schedule).remote.cluster class? s []
  /-- If the schedule ends with both steps of one volume, the last of them removes the subpath. -/
  removed : EndsAlone schedule → RemovedLast s (u.interleave c schedule)
  /-- Otherwise none removes it. -/
  orphaned : ¬EndsAlone schedule → ∀ es ∈ u.interleave c schedule, removals es = []

/-- The steps that are left after a listing: the second step of the volume is still to come. -/
theorem perm_of_listed {schedule idle idle' deciding : List Volume} (hidle : idle.Perm (v :: idle'))
    (h : (v :: schedule).Perm (idle ++ idle ++ deciding)) :
    schedule.Perm (idle' ++ idle' ++ v :: deciding) := by
  refine (List.perm_cons v).mp (h.trans (((hidle.append hidle).append_right deciding).trans ?_))
  refine .cons v ?_
  change (idle' ++ v :: idle' ++ deciding).Perm _
  rw [List.append_assoc, List.append_assoc]
  exact .append_left idle' List.perm_middle.symm

/-- The steps that are left when a removal has come to its end. -/
theorem perm_of_acted {schedule idle deciding deciding' : List Volume}
    (hdeciding : deciding.Perm (v :: deciding'))
    (h : (v :: schedule).Perm (idle ++ idle ++ deciding)) :
    schedule.Perm (idle ++ idle ++ deciding') :=
  (List.perm_cons v).mp (h.trans ((hdeciding.append_left _).trans List.perm_middle))

section Settled

variable {class? : Option String} {s : String} {u : Removals} {schedule : List Volume}

/-- A first step that removes nothing, and does not end the schedule, changes nothing of that. -/
theorem Settled.cons (h : Settled c class? s schedule (u.step c v).2)
    (hnone : removals (u.step c v).1 = []) (hne : schedule ≠ [v]) :
    Settled c class? s (v :: schedule) u where
  emptied := h.emptied
  removed hends := (h.removed ((endsAlone_cons.mp hends).resolve_left hne)).cons hnone
  orphaned hends := List.forall_mem_cons.mpr
    ⟨hnone, h.orphaned fun hrest => hends (endsAlone_cons.mpr (.inr hrest))⟩

/-- The steps that are left bring two of each volume that is idle, and one of each that is
deciding. -/
theorem Undecided.settled {idle deciding : List Volume} (h : Undecided class? s u idle deciding)
    (hschedule : schedule.Perm (idle ++ idle ++ deciding))
    (hobliging : ∀ es ∈ u.interleave c schedule, ∀ e ∈ es, e.isObliging = true) :
    Settled c class? s schedule u := by
  induction schedule generalizing u idle deciding with
  | nil =>
    obtain ⟨hidle, rfl⟩ := List.append_eq_nil_iff.mp hschedule.nil_eq.symm
    obtain ⟨rfl, -⟩ := List.append_eq_nil_iff.mp hidle
    exact ⟨h.shared, fun hends => absurd hends not_endsAlone_nil, fun _ => List.forall_mem_nil _⟩
  | cons v schedule ih =>
    have hnext : ∀ es ∈ (u.step c v).2.interleave c schedule, ∀ e ∈ es, e.isObliging = true :=
      fun es hes => hobliging es (.tail _ hes)
    have hv : v ∈ idle ∨ v ∈ deciding := by
      simpa only [List.mem_append, or_self] using hschedule.mem_iff.mp (.head _)
    obtain hv | hv := hv
    · -- the volume is listed for, and decided on
      obtain ⟨before, behind, rfl⟩ := List.append_of_mem hv
      replace h := h.perm List.perm_middle.symm (.refl deciding)
      have hrest := perm_of_listed List.perm_middle hschedule
      generalize before ++ behind = idle at h hrest
      by_cases hother : idle ++ deciding = []
      · obtain ⟨rfl, rfl⟩ := List.append_eq_nil_iff.mp hother
        obtain rfl := List.perm_singleton.mp hrest
        obtain ⟨hnone, ⟨e, hone, hremoves⟩, hemptied⟩ := h.last hobliging
        refine ⟨hemptied, fun _ => ⟨[_], _, e, rfl, ?_, hone, hremoves⟩, fun hends => ?_⟩
        · exact List.forall_mem_singleton.mpr hnone
        · exact absurd ⟨[], v, rfl⟩ hends
      · obtain ⟨hnone, hstep⟩ := h.list (c := c) hother
        refine (ih hstep hrest hnext).cons hnone ?_
        rintro rfl
        have hlength := hrest.length_eq
        simp only [List.length_append, List.length_cons, List.length_nil] at hlength
        exact hother (List.length_eq_zero_iff.mp (by rw [List.length_append]; omega))
    · -- the removal keeps the subpath
      obtain ⟨before, behind, rfl⟩ := List.append_of_mem hv
      replace h := h.perm (.refl idle) List.perm_middle.symm
      have hrest := perm_of_acted List.perm_middle hschedule
      generalize before ++ behind = deciding at h hrest
      obtain ⟨hnone, hstep⟩ := h.act (c := c)
      refine (ih hstep hrest hnext).cons (by rw [hnone]; rfl) ?_
      -- a volume takes part but once, so this step was its last
      rintro rfl
      have hv : v ∈ idle ++ deciding := by
        simpa only [List.mem_append, or_self] using hrest.mem_iff.mp (.head _)
      have hnames := ((List.perm_middle.map _).nodup_iff.mp h.shared.names)
      exact (List.nodup_cons.mp hnames).1 (List.mem_map_of_mem hv)

end Settled

/-- **No orphan, if the last one is alone.** Volumes that share a subpath are removed side by side,
with obliging services and no faults of the API server. In the end no volume lies there any more. If
the last two steps are those of one volume, the last one asks a filesystem manager, once, to remove
the subpath. In every other order the last removal to list still meets another volume: then none
asks, and the subpath is left behind. -/
theorem removals_interleave {w : Remote} {class? : Option String} {s : String}
    {vs schedule : List Volume} (hshared : SharedBy w.cluster class? s vs)
    (hschedule : schedule.Perm (vs ++ vs)) (hw : w.faults = [])
    (hobliging : ∀ es ∈ Removals.interleave c schedule { remote := w },
      ∀ e ∈ es, e.isObliging = true) :
    Settled c class? s schedule { remote := w } := by
  have h : Undecided class? s { remote := w } vs [] := by
    refine ⟨hw, ?_, fun _ _ => rfl, List.forall_mem_nil _⟩
    rwa [List.append_nil]
  exact h.settled (by rwa [List.append_nil]) hobliging

/-- Two volumes are removed one after the other. -/
theorem removals_interleave_teamVolumes :
    let schedule := [teamVolume "pv-1", teamVolume "pv-1", teamVolume "pv-2", teamVolume "pv-2"]
    SharedBy teamRemote.cluster (some "cfs") "team" teamVolumes ∧
      schedule.Perm (teamVolumes ++ teamVolumes) ∧
      (∀ es ∈ Removals.interleave {} schedule { remote := teamRemote },
        ∀ e ∈ es, e.isObliging = true) ∧
      Settled {} (some "cfs") "team" schedule { remote := teamRemote } := by
  intro schedule
  have hschedule : schedule.Perm (teamVolumes ++ teamVolumes) := .cons _ (.swap _ _ _)
  have hobliging : ∀ es ∈ Removals.interleave {} schedule { remote := teamRemote },
      ∀ e ∈ es, e.isObliging = true := by decide +kernel
  exact ⟨sharedBy_teamVolumes, hschedule, hobliging,
    removals_interleave sharedBy_teamVolumes hschedule rfl hobliging⟩

/-- Two removals that both list before either acts: both volumes are gone, and nobody has removed
the subpath. -/
theorem teamVolumes_orphaned :
    let schedule := teamVolumes ++ teamVolumes
    let u : Removals := { remote := teamRemote }
    SharedBy teamRemote.cluster (some "cfs") "team" teamVolumes ∧
      (∀ es ∈ u.interleave {} schedule, ∀ e ∈ es, e.isObliging = true) ∧
      (u.after {} schedule).remote.cluster.volumes = [] ∧
      ¬∃ es ∈ u.interleave {} schedule, ∃ e ∈ es, e.request.Removes "team" := by
  intro schedule u
  have hobliging : ∀ es ∈ u.interleave {} schedule, ∀ e ∈ es, e.isObliging = true := by
    decide +kernel
  have hnone : ∀ es ∈ u.interleave {} schedule, ∀ e ∈ es, e.request.isRemoval = false := by
    decide +kernel
  refine ⟨sharedBy_teamVolumes, hobliging, List.length_eq_zero_iff.mp (by decide +kernel), ?_⟩
  rintro ⟨es, hes, e, he, hremoval, -⟩
  rw [hnone es hes e he] at hremoval
  cases hremoval

end Volume

end SubpathCsi
