import SubpathCsi.Proofs.Pod.Mutation
import SubpathCsi.Proofs.Volume.Permission

/-!
# Sidecars that keep standing

A later round goes through the mounts and volumes of the sidecars before it. It finds nothing to do
with what these need: the volume that a sidecar fills stands for no claim any more, since its name
is the name of no other volume. So a sidecar stands in the pod as it was put there, but for what it
sees of volumes that others fill.

* `Pod.isCalled`: the items of a list with a name;
* `Pair.Owns`, `Pair.owns_of_ofPod`: the volumes with the name of a pair's volume stand for its
  claim;
* `Mutation.Round.Stands`: the sidecar of a round stands in a pod;
* `Mutation.stands_of_rounds`, `Mutation.paths_of_rounds`: the sidecars of all rounds stand, at
  different paths.
-/

namespace SubpathCsi

open Pod (listed namesOf namesUnder claimName? isOf fill namesFor seeing seeingIn mountPaths)

/-! ### Items with a name -/

namespace Pod

/-- An item has this name. -/
def isCalled (name : String) (item : Json) : Bool := (item.get? "name").bind Json.str? = some name

variable {name : String} {items : List Json} {item : Json}

theorem isCalled_iff : isCalled name item = true ↔ item.get? "name" = some (.str name) := by
  rw [isCalled, decide_eq_true_eq]
  cases item.get? "name" with
  | none => simp
  | some value => cases value <;> simp [Json.str?]

/-- A name that is free is the name of no item. -/
theorem filter_isCalled_eq_nil (h : .str name ∉ namesOf items) :
    items.filter (isCalled name) = [] := by
  rw [List.filter_eq_nil_iff]
  intro item hitem hcalled
  exact h (mem_namesOf.mpr ⟨item, hitem, isCalled_iff.mp hcalled⟩)

theorem mem_namesOf_of_filter (h : items.filter (isCalled name) = [item]) :
    .str name ∈ namesOf items := by
  have hmem : item ∈ items.filter (isCalled name) := by rw [h]; exact .head _
  obtain ⟨hitem, hcalled⟩ := List.mem_filter.mp hmem
  exact mem_namesOf.mpr ⟨item, hitem, isCalled_iff.mp hcalled⟩

/-- An item whose name is free has not the name of another item. -/
theorem isCalled_eq_false {other : String} (hname : item.get? "name" = some (.str other))
    (hfree : .str other ∉ namesOf items) (hmem : .str name ∈ namesOf items) :
    isCalled name item = false := by
  rw [Bool.eq_false_iff]
  intro hcalled
  have heq : some (Json.str other) = some (.str name) := hname.symm.trans (isCalled_iff.mp hcalled)
  rw [Option.some.inj heq] at hfree
  exact hfree hmem

/-- Of items that are changed but for their names, those with a name are changed. -/
theorem filter_isCalled_map {f : Json → Json}
    (h : ∀ item ∈ items, (f item).get? "name" = item.get? "name") :
    (items.map f).filter (isCalled name) = (items.filter (isCalled name)).map f := by
  rw [List.filter_map]
  refine congrArg (List.map f) (List.filter_congr fun item hitem => ?_)
  rw [Function.comp_apply, isCalled, isCalled, h item hitem]

/-- Of volumes with different names, one has the name of a volume. -/
theorem filter_isCalled_toJson {vs : List PodVolume} (h : (Sidecar.volumeNames vs).Nodup)
    {v : PodVolume} (hv : v ∈ vs) :
    (vs.map PodVolume.toJson).filter (isCalled v.name) = [v.toJson] := by
  induction vs with
  | nil => cases hv
  | cons u vs ih =>
    obtain ⟨hfresh, hnodup⟩ := List.nodup_cons.mp h
    have hcalled : ∀ w : PodVolume, isCalled v.name w.toJson = decide (w.name = v.name) := by
      intro w
      rw [Bool.eq_iff_iff, isCalled_iff, decide_eq_true_eq]
      change some (Json.str w.name) = some (Json.str v.name) ↔ _
      simp
    rw [List.map_cons, List.filter_cons, hcalled]
    rcases List.mem_cons.mp hv with rfl | hv
    · have hnone : (vs.map PodVolume.toJson).filter (isCalled v.name) = [] := by
        rw [List.filter_eq_nil_iff]
        intro item hitem hname
        obtain ⟨w, hw, rfl⟩ := List.mem_map.mp hitem
        rw [hcalled, decide_eq_true_eq] at hname
        exact hfresh (List.mem_map.mpr ⟨w, hw, hname⟩)
      rw [hnone, decide_eq_true rfl, if_pos rfl]
    · have hne : u.name ≠ v.name := fun heq => hfresh (List.mem_map.mpr ⟨v, hv, heq.symm⟩)
      rw [decide_eq_false hne, if_neg Bool.false_ne_true, ih hnodup hv]

end Pod

open Pod (isCalled)

/-! ### Volumes of a pair -/

/-- The volumes with the name of a pair's volume stand for the claim of the pair, or for none. -/
structure Pair.Owns (p : Pair) (pod : Json) : Prop where
  /-- There is one. -/
  mem : p.volumeName ∈ namesUnder pod "volumes"
  /-- They stand for no other claim. -/
  claim : ∀ item ∈ listed pod "volumes", item.get? "name" = some p.volumeName →
    claimName? item = none ∨ claimName? item = some p.claim.name

namespace Pair

variable {c : Config} {space : Json} {es : List Exchange} {items : List Json} {pairs : List Pair}

/-- A volume for which a pair was found stands for the claim of the pair. -/
theorem Found.exists_claim (h : Found c space items es pairs) (hnames : ∀ e ∈ es, e.namesClaim)
    {p : Pair} (hp : p ∈ pairs) : ∃ item ∈ items, item.get? "name" = some p.volumeName ∧
      (claimName? item = none ∨ claimName? item = some p.claim.name) := by
  induction h with
  | nil => cases hp
  | cons item items first rest found pairs hitem _ ih =>
    obtain ⟨hfirst, hrest⟩ := List.forall_mem_append.mp hnames
    rcases List.mem_append.mp hp with hp | hp
    · cases hitem with
      | ours source name volume q others hsource hname hbound hours hcalled =>
        cases List.mem_singleton.mp hp
        refine ⟨item, .head _, hcalled, ?_⟩
        have hclaim : p.claim.metadata.nameJson = name := (List.forall_mem_cons.mp hfirst).1
        obtain ⟨value, hvalue, hsource⟩ := bind_eq_ok.mp hsource
        split at hsource
        next hpresent =>
          cases hsource
          have hget := Json.get?_of_findD hvalue hpresent rfl
          rw [claimName?, hget, Option.bind_some, hname, ← hclaim, ObjectMeta.nameJson]
          split
          · exact .inl rfl
          · exact .inr rfl
        next => cases hsource
      | claimless | classless | unbound | foreign => cases hp
    · obtain ⟨item', hmem, hfound⟩ := ih hrest hp
      exact ⟨item', .tail _ hmem, hfound⟩

/-- **Pairs of a pod** own their volumes, if all volumes have different names. -/
theorem owns_of_ofPod {pod : Json} (h : (ofPod c pod).Trace es (.ok pairs))
    (hnames : ∀ e ∈ es, e.namesClaim) (hnodup : (namesUnder pod "volumes").Nodup) {p : Pair}
    (hp : p ∈ pairs) : p.Owns pod := by
  obtain ⟨space, -, hfound⟩ := found_of_ofPod h
  obtain ⟨item, hitem, hname, hclaim⟩ := hfound.exists_claim hnames hp
  refine ⟨Pod.mem_namesOf.mpr ⟨item, hitem, hname⟩, fun other hother hcalled => ?_⟩
  obtain rfl := Pod.eq_of_namesOf hnodup hitem hother hname hcalled
  exact hclaim

end Pair

namespace Mutation

variable {c : Config} {pod₀ pod pod' : Json} {rounds : List Round} {r r' : Round}

/-! ### What a round leaves -/

namespace Round.Taken

/-- Volumes that are filled in a round keep their names. -/
theorem name_fill (hr : r.Taken c pod pod') :
    ∀ item ∈ listed pod "volumes",
      (fill [r.pair.claim.name] item).get? "name" = item.get? "name" := by
  intro item hitem
  obtain ⟨name, hname, -⟩ := hr.named item hitem
  rw [Pod.get?_name_fill hname, hname]

/-- A volume with a name of before is one of before, maybe filled. -/
theorem exists_old_volume (hr : r.Taken c pod pod') {item name : Json}
    (hitem : item ∈ listed pod' "volumes") (hname : item.get? "name" = some name)
    (hmem : name ∈ namesUnder pod "volumes") : ∃ old ∈ listed pod "volumes",
      item = fill [r.pair.claim.name] old ∧ old.get? "name" = some name := by
  rw [hr.filled.volumes_eq] at hitem
  rcases List.mem_append.mp hitem with hitem | hitem
  · obtain ⟨old, hold, rfl⟩ := List.mem_map.mp hitem
    exact ⟨old, hold, rfl, (hr.name_fill old hold).symm.trans hname⟩
  · obtain ⟨v, hv, rfl⟩ := List.mem_map.mp hitem
    cases hname
    exact absurd hmem (hr.fits.volumes_free v.name (List.mem_map_of_mem hv))

theorem volumes_subset (hr : r.Taken c pod pod') :
    namesUnder pod "volumes" ⊆ namesUnder pod' "volumes" := by
  rw [hr.filled.namesUnder_volumes]
  exact List.subset_append_left _ _

/-- The volumes with a name of before are those of before, filled. -/
theorem filter_volumes (hr : r.Taken c pod pod') {name : String}
    (hname : .str name ∈ namesUnder pod "volumes") :
    (listed pod' "volumes").filter (isCalled name) =
      ((listed pod "volumes").filter (isCalled name)).map (fill [r.pair.claim.name]) := by
  have hown : (r.sidecar.volumes.map PodVolume.toJson).filter (isCalled name) = [] := by
    refine Pod.filter_isCalled_eq_nil fun hmem => ?_
    obtain ⟨item, hitem, hget⟩ := Pod.mem_namesOf.mp hmem
    obtain ⟨v, hv, rfl⟩ := List.mem_map.mp hitem
    cases hget
    exact hr.fits.volumes_free v.name (List.mem_map_of_mem hv) hname
  rw [hr.filled.volumes_eq, List.filter_append, hown, List.append_nil,
    Pod.filter_isCalled_map hr.name_fill]

/-- Each volume of the sidecar is the only one with its name. -/
theorem filter_own (hr : r.Taken c pod pod') {v : PodVolume} (hv : v ∈ r.sidecar.volumes) :
    (listed pod' "volumes").filter (isCalled v.name) = [v.toJson] := by
  have hold : .str v.name ∉ namesOf ((listed pod "volumes").map (fill [r.pair.claim.name])) := by
    rw [Pod.namesOf_congr (Pod.map_name_fill fun item hitem => ?_)]
    · exact hr.fits.volumes_free v.name (List.mem_map_of_mem hv)
    · obtain ⟨name, hname, -⟩ := hr.named item hitem
      exact ⟨name, hname⟩
  rw [hr.filled.volumes_eq, List.filter_append, Pod.filter_isCalled_eq_nil hold,
    Pod.filter_isCalled_toJson hr.fits.volumes_nodup hv, List.nil_append]

/-- The paths of mounts after a round are those of the sidecar and those of before. -/
theorem mountPaths_eq (hr : r.Taken c pod pod') : mountPaths pod' =
    (r.sidecar.container.listAt "volumeMounts").filterMap (·.get? "mountPath") ++
      mountPaths pod := by
  have hseeing : ∀ (names : List Json) (container : Json),
      ((seeingIn names container).listAt "volumeMounts").filterMap (·.get? "mountPath") =
        (container.listAt "volumeMounts").filterMap (·.get? "mountPath") := by
    intro names container
    rw [Pod.listAt_seeingIn, List.filterMap_map]
    refine List.filterMap_congr fun mount _ => ?_
    exact (Pod.altered_seeing names mount).get?_eq _ (by decide)
  rw [mountPaths, hr.filled.containers_eq, List.flatMap_cons, List.flatMap_map, mountPaths]
  simp only [hseeing]

/-- The path is that of a mount after the round, if the volume of the pair has a name. -/
theorem path_mem (hr : r.Taken c pod pod') (hpresent : r.pair.volumeName.isPresent = true) :
    .str r.path ∈ mountPaths pod' := by
  rw [hr.mountPaths_eq, Sidecar.listAt_mounts, hr.equipped.podMount, if_pos hpresent]
  refine List.mem_append_left _ (List.mem_filterMap.mpr ⟨_, List.mem_append_right _ (.head _), ?_⟩)
  rfl

end Round.Taken

/-- A pair owns its volumes after a round as before. -/
theorem owns_of_taken {p : Pair} (h : p.Owns pod) (hr : r.Taken c pod pod') : p.Owns pod' := by
  refine ⟨hr.volumes_subset h.mem, fun item hitem hname => ?_⟩
  obtain ⟨old, hold, rfl, hcalled⟩ := hr.exists_old_volume hitem hname h.mem
  rw [fill]
  split
  · exact .inl rfl
  · exact h.claim old hold hcalled

theorem owns_of_rounds {p : Pair} (h : Rounds c pod₀ rounds pod) (hp : p.Owns pod₀) :
    p.Owns pod := by
  induction h with
  | bare => exact hp
  | more r _ hr ih => exact owns_of_taken ih hr

/-! ### Sidecars that stand -/

/-- The sidecar of a round stands in a pod. -/
structure Round.Stands (r : Round) (pod : Json) : Prop where
  /-- It is the only container with its name. It may see what is mounted into some volumes, but not
  into that of its pair. -/
  container : ∃ names, (∀ name ∈ names, Json.same r.pair.volumeName name = false) ∧
    (listed pod "containers").filter (isCalled r.sidecar.name) =
      [seeingIn names r.sidecar.container]
  /-- No init container has its name. -/
  inits : (listed pod "initContainers").filter (isCalled r.sidecar.name) = []
  /-- Its own volumes that stand for no claim are the only ones with their names. -/
  volumes : ∀ v ∈ r.sidecar.volumes, claimName? v.toJson = none →
    (listed pod "volumes").filter (isCalled v.name) = [v.toJson]
  /-- The volume of its pair is there, and stands for no claim. -/
  filled : r.pair.volumeName ∈ namesUnder pod "volumes" ∧ ∀ item ∈ listed pod "volumes",
    item.get? "name" = some r.pair.volumeName → claimName? item = none

/-- Whatever they see, containers keep their names. -/
theorem filter_containers (names : List Json) (name : String) (containers : List Json) :
    (containers.map (seeingIn names)).filter (isCalled name) =
      (containers.filter (isCalled name)).map (seeingIn names) :=
  Pod.filter_isCalled_map fun container _ =>
    (Pod.altered_seeingIn names container).get?_eq _ (by decide)

/-- **A round** makes its sidecar stand. -/
theorem Round.Taken.stands (hr : r.Taken c pod pod') (howns : r.pair.Owns pod) : r.Stands pod' := by
  have hfree := hr.fits.name_free
  rw [List.mem_append, not_or] at hfree
  constructor
  · refine ⟨[], List.forall_mem_nil _, ?_⟩
    have hself : isCalled r.sidecar.name r.sidecar.container = true :=
      Pod.isCalled_iff.mpr rfl
    rw [hr.filled.containers_eq, List.filter_cons, if_pos hself, filter_containers,
      Pod.filter_isCalled_eq_nil hfree.1, Pod.seeingIn_nil]
    rfl
  · rw [hr.filled.listed_inits, Pod.filter_isCalled_eq_nil hfree.2]
  · intro v hv _
    exact hr.filter_own hv
  · refine ⟨hr.volumes_subset howns.mem, fun item hitem hname => ?_⟩
    obtain ⟨old, hold, rfl, hcalled⟩ := hr.exists_old_volume hitem hname howns.mem
    rcases howns.claim old hold hcalled with hnone | hclaim
    · rw [Pod.fill_of_claimName? hnone, hnone]
    · -- a volume of the claim is filled now
      have hof : isOf [r.pair.claim.name] old = true := by
        rw [Pod.isOf_singleton, hclaim, decide_eq_true rfl]
      rw [fill, if_pos hof]
      rfl

/-- **Later rounds** leave a sidecar standing. -/
theorem Round.Stands.taken (h : r.Stands pod) (hr : r'.Taken c pod pod') : r.Stands pod' := by
  obtain ⟨names, hnames, hsole⟩ := h.container
  have hfree := hr.fits.name_free
  rw [List.mem_append, not_or] at hfree
  constructor
  · refine ⟨names ++ namesFor [r'.pair.claim.name] (listed pod "volumes"), ?_, ?_⟩
    · refine List.forall_mem_append.mpr ⟨hnames, fun name hname => ?_⟩
      obtain ⟨item, hitem, hget⟩ := Pod.mem_namesOf.mp hname
      obtain ⟨hitem, hof⟩ := List.mem_filter.mp hitem
      obtain ⟨name', hname', hcomparable⟩ := hr.named item hitem
      cases hget.symm.trans hname'
      -- the volume of the pair stands for no claim, so that this is another one
      by_contra hsame
      have heq := Pod.eq_of_same (Bool.not_eq_false _ ▸ hsame) hcomparable
      rw [isOf, h.filled.2 item hitem (hget.trans (congrArg some heq.symm))] at hof
      cases hof
    · have hother : isCalled r.sidecar.name r'.sidecar.container = false :=
        Pod.isCalled_eq_false rfl hfree.1 (Pod.mem_namesOf_of_filter hsole)
      rw [hr.filled.containers_eq, List.filter_cons, hother, if_neg Bool.false_ne_true,
        filter_containers, hsole, List.map_singleton, Pod.seeingIn_seeingIn]
  · rw [hr.filled.listed_inits, h.inits]
  · intro v hv hnone
    have hold := h.volumes v hv hnone
    rw [hr.filter_volumes (Pod.mem_namesOf_of_filter hold), hold, List.map_singleton,
      Pod.fill_of_claimName? hnone]
  · obtain ⟨hmem, hnone⟩ := h.filled
    refine ⟨hr.volumes_subset hmem, fun item hitem hname => ?_⟩
    obtain ⟨old, hold, rfl, hcalled⟩ := hr.exists_old_volume hitem hname hmem
    have holdNone := hnone old hold hcalled
    rw [Pod.fill_of_claimName? holdNone, holdNone]

/-- **Rounds.** The sidecars of all rounds stand in the pod. -/
theorem stands_of_rounds (h : Rounds c pod₀ rounds pod) (howns : ∀ r ∈ rounds, r.pair.Owns pod₀) :
    ∀ r ∈ rounds, r.Stands pod := by
  induction h with
  | bare => exact List.forall_mem_nil _
  | more r h hr ih =>
    obtain ⟨hearlier, hlast⟩ := List.forall_mem_append.mp howns
    refine List.forall_mem_append.mpr ⟨fun r₁ hr₁ => (ih hearlier r₁ hr₁).taken hr, ?_⟩
    refine List.forall_mem_singleton.mpr (hr.stands ?_)
    exact owns_of_rounds h (hlast r (.head _))

/-! ### Paths of sidecars -/

/-- **Paths.** All rounds have paths that are drawn and that the pod did not have. They are pairwise
different, since a path is not taken again when it is the path of a mount. -/
theorem paths_of_rounds (h : Rounds c pod₀ rounds pod)
    (hpresent : ∀ r ∈ rounds, r.pair.volumeName.isPresent = true) :
    (rounds.map (·.path)).Nodup ∧ ∀ r ∈ rounds,
      MountPath.IsDrawn c.podMountBase r.path ∧ .str r.path ∉ mountPaths pod₀ := by
  have hall : (rounds.map (·.path)).Nodup ∧ mountPaths pod₀ ⊆ mountPaths pod ∧
      (∀ r ∈ rounds, .str r.path ∈ mountPaths pod) ∧ ∀ r ∈ rounds,
        MountPath.IsDrawn c.podMountBase r.path ∧ .str r.path ∉ mountPaths pod₀ := by
    induction h with
    | bare =>
      exact ⟨List.nodup_nil, List.Subset.refl _, List.forall_mem_nil _, List.forall_mem_nil _⟩
    | @more rounds pod pod' r h hr ih =>
      obtain ⟨hearlier, hlast⟩ := List.forall_mem_append.mp hpresent
      obtain ⟨hnodup, hsubset, htaken, hdrawn⟩ := ih hearlier
      have hkept : mountPaths pod ⊆ mountPaths pod' := by
        rw [hr.mountPaths_eq]
        exact List.subset_append_right _ _
      refine ⟨?_, fun path hpath => hkept (hsubset hpath), ?_, ?_⟩
      · rw [List.map_append, List.map_singleton]
        refine hnodup.append (List.nodup_singleton _) fun path hpath hsame => ?_
        cases List.mem_singleton.mp hsame
        obtain ⟨r₁, hr₁, heq⟩ := List.mem_map.mp hpath
        exact hr.path_free (heq ▸ htaken r₁ hr₁)
      · refine List.forall_mem_append.mpr ⟨fun r₁ hr₁ => hkept (htaken r₁ hr₁), ?_⟩
        exact List.forall_mem_singleton.mpr (hr.path_mem (hlast r (.head _)))
      · refine List.forall_mem_append.mpr ⟨hdrawn, List.forall_mem_singleton.mpr ⟨hr.drawn, ?_⟩⟩
        exact fun hmem => hr.path_free (hsubset hmem)
  exact ⟨hall.1, hall.2.2.2⟩

end Mutation

end SubpathCsi
