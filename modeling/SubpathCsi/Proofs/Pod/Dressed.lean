import SubpathCsi.Pod.Mutation
import SubpathCsi.Proofs.Pod.Injection
import SubpathCsi.Proofs.Pod.Names

/-!
# Pods with sidecars

A pod gets its sidecars one after another; each fits into the pod as the sidecars before it have
left it. What holds of a pod in the end is shown step by step.

* `Pod.DistinctNames`: a pod whose containers and volumes have different names;
* `Sidecar.Fits`: a sidecar for a pair, with names that are free in a pod;
* `Mutation.Dressed`: a pod and its sidecars, the last one first;
* `Mutation.Dressed.containers`, `Mutation.Dressed.distinct`, `Mutation.Dressed.labelled`: what
  becomes of the containers, the names and the metadata.
-/

namespace SubpathCsi

/-! ### Names in a pod -/

namespace Pod

variable {pod pod' spec : Json} {items : List Json} {found : List String}

/-- The texts among the names of items are found. -/
theorem mem_of_names (h : names items = .ok found) {name : String}
    (hname : Json.str name ∈ namesOf items) : name ∈ found := by
  obtain ⟨values, hvalues, h⟩ := bind_eq_ok.mp h
  cases h
  obtain ⟨item, hitem, hget⟩ := mem_namesOf.mp hname
  obtain ⟨value, hvalue, hread⟩ := exists_match (mapM_eq_ok.mp hvalues) hitem
  obtain ⟨name', hentry, hread⟩ := bind_eq_ok.mp hread
  obtain ⟨-, -, hread⟩ := bind_eq_ok.mp hread
  cases hread
  rw [Json.entry_eq_ok.mp hentry] at hget
  cases hget
  exact List.mem_filterMap.mpr ⟨_, hvalue, rfl⟩

/-- Items whose names are found have names, which can be compared. -/
theorem named_of_names (h : names items = .ok found) {item : Json} (hitem : item ∈ items) :
    ∃ name, item.get? "name" = some name ∧ comparable name = .ok () := by
  obtain ⟨values, hvalues, -⟩ := bind_eq_ok.mp h
  obtain ⟨value, -, hread⟩ := exists_match (mapM_eq_ok.mp hvalues) hitem
  obtain ⟨name, hentry, hread⟩ := bind_eq_ok.mp hread
  obtain ⟨_, hcomparable, -⟩ := bind_eq_ok.mp hread
  exact ⟨name, Json.entry_eq_ok.mp hentry, hcomparable⟩

theorem mem_of_containerNames (h : containerNames spec = .ok found) :
    Lists spec "containers" ∧ Lists spec "initContainers" ∧ ∀ name,
      Json.str name ∈ namesOf (spec.listAt "containers") ++ namesOf (spec.listAt "initContainers") →
        name ∈ found := by
  obtain ⟨containers, hcontainers, h⟩ := bind_eq_ok.mp h
  obtain ⟨names, hnames, h⟩ := bind_eq_ok.mp h
  obtain ⟨inits, hinits, h⟩ := bind_eq_ok.mp h
  obtain ⟨initNames, hinitNames, h⟩ := bind_eq_ok.mp h
  cases h
  have hlists := lists_of_names hcontainers hnames
  have hinitLists := lists_of_names hinits hinitNames
  refine ⟨hlists, hinitLists, fun name hname => ?_⟩
  rw [← hlists containers hcontainers, ← hinitLists inits hinits] at hname
  obtain hname | hname := List.mem_append.mp hname
  · exact List.mem_append_left _ (mem_of_names hnames hname)
  · exact List.mem_append_right _ (mem_of_names hinitNames hname)

theorem mem_of_volumeNames (h : volumeNames spec = .ok found) {name : String}
    (hname : Json.str name ∈ namesOf (spec.listAt "volumes")) : name ∈ found := by
  obtain ⟨items, hitems, h⟩ := bind_eq_ok.mp h
  rw [← lists_of_names hitems h items hitems] at hname
  exact mem_of_names h hname

/-- All names of containers are pairwise different, and so are all names of volumes. -/
structure DistinctNames (pod : Json) : Prop where
  /-- Containers and init containers have different names. -/
  containers : (namesUnder pod "containers" ++ namesUnder pod "initContainers").Nodup
  /-- Volumes have different names. -/
  volumes : (namesUnder pod "volumes").Nodup

end Pod

open Pod (listed namesOf namesUnder Injected DistinctNames)

/-! ### A sidecar that fits -/

namespace Sidecar

/-- A sidecar for a pair, whose names are free in a pod. It mounts its own volumes, and the volume
of the pair if that has a name. -/
structure Fits (c : Config) (p : Pair) (pod : Json) (s : Sidecar) : Prop where
  /-- Its name is free. -/
  name_free : Json.str s.name ∉ namesUnder pod "containers" ++ namesUnder pod "initContainers"
  /-- The names of its volumes are free. -/
  volumes_free : ∀ name ∈ volumeNames s.volumes, Json.str name ∉ namesUnder pod "volumes"
  /-- They are pairwise different. -/
  volumes_nodup : (volumeNames s.volumes).Nodup
  /-- It mounts its own volumes. -/
  mounts : ∀ m ∈ s.generatedMounts, m.name ∈ volumeNames s.volumes
  /-- It mounts the volume of the pair. -/
  podMount : s.podMount.map (·.name) = if p.volumeName.isPresent then some p.volumeName else none
  /-- It is told what to connect to. -/
  metaUrl : .plain metaUrlName (p.metaUrl c) ∈ s.env

/-- A sidecar that is renamed in a pod has names that are free there. -/
theorem renameIn_eq_ok {s s' : Sidecar} {pod : Json} {index : Int}
    (h : s.renameIn pod index = .ok s') :
    (∀ spec, pod.get? "spec" = some spec → Pod.Lists spec "containers") ∧
      ∃ containers volumes, s' = s.rename containers volumes index ∧
        (∀ name, Json.str name ∈ namesUnder pod "containers" ++ namesUnder pod "initContainers" →
          name ∈ containers) ∧
        ∀ name, Json.str name ∈ namesUnder pod "volumes" → name ∈ volumes := by
  obtain ⟨spec, hspec, h⟩ := bind_eq_ok.mp h
  obtain ⟨containers, hcontainers, h⟩ := bind_eq_ok.mp h
  obtain ⟨volumes, hvolumes, h⟩ := bind_eq_ok.mp h
  cases h
  obtain ⟨-, rfl⟩ := Json.findD_eq_ok.mp hspec
  obtain ⟨hlists, -, htaken⟩ := Pod.mem_of_containerNames hcontainers
  refine ⟨fun spec hspec => ?_, containers, volumes, rfl, fun name hname => htaken name ?_,
    fun name hname => Pod.mem_of_volumeNames hvolumes ?_⟩
  · rwa [hspec, Option.getD_some] at hlists
  · rwa [namesUnder, namesUnder, Pod.listed_eq, Pod.listed_eq] at hname
  · rwa [namesUnder, Pod.listed_eq] at hname

/-- In a pod in which a sidecar is renamed, volumes have names, which can be compared. -/
theorem named_of_renameIn {s s' : Sidecar} {pod : Json} {index : Int}
    (h : s.renameIn pod index = .ok s') :
    ∀ item ∈ listed pod "volumes",
      ∃ name, item.get? "name" = some name ∧ Pod.comparable name = .ok () := by
  obtain ⟨spec, hspec, h⟩ := bind_eq_ok.mp h
  obtain ⟨containers, -, h⟩ := bind_eq_ok.mp h
  obtain ⟨volumes, hvolumes, -⟩ := bind_eq_ok.mp h
  obtain ⟨-, rfl⟩ := Json.findD_eq_ok.mp hspec
  obtain ⟨items, hitems, hnames⟩ := bind_eq_ok.mp hvolumes
  intro item hitem
  rw [Pod.listed_eq, ← Pod.lists_of_names hitems hnames items hitems] at hitem
  exact Pod.named_of_names hnames hitem

/-- A sidecar that is built for a pair and renamed in a pod fits. -/
theorem fits_of_renameIn {c : Config} {p : Pair} {settings : MountSettings} {capacity index : Int}
    {built s : Sidecar} {pod : Json}
    (hbuilt : buildFor c settings capacity p.volumeName = .ok built)
    (hs : built.renameIn pod index = .ok s) : (s.finished c p).Fits c p pod := by
  obtain ⟨hmounts, hpodMount⟩ := buildFor_eq_ok hbuilt
  obtain ⟨-, containers, volumes, rfl, hcontainers, hvolumes⟩ := renameIn_eq_ok hs
  obtain ⟨hnodup, hfresh⟩ := built.volumes_rename_fresh containers volumes index
  have hname := built.name_rename_notMem containers volumes index
  have hown : ∀ m ∈ (built.rename containers volumes index).generatedMounts,
      m.name ∈ volumeNames (built.rename containers volumes index).volumes :=
    fun m hm => mem_volumes_of_mem_mounts_rename hmounts hm
  have hfilled : (built.rename containers volumes index).podMount = built.podMount := rfl
  -- how it got its names does not matter any more
  generalize built.rename containers volumes index = s at *
  refine ⟨fun hmem => hname (hcontainers _ hmem),
    fun name hname hmem => hfresh name hname (hvolumes name hmem), hnodup, hown, ?_, ?_⟩
  · change s.podMount.map (·.name) = _
    rw [hfilled, hpodMount]
    split <;> rfl
  · exact List.mem_append_right s.env (.head _)

end Sidecar

namespace Mutation

/-- A pod with sidecars for pairs, which are told with the names of the sidecars. The last one comes
first. -/
inductive Dressed (c : Config) (pod₀ : Json) : List (Pair × String) → Json → Prop
  /-- There is no sidecar yet. -/
  | bare : Dressed c pod₀ [] pod₀
  /-- There is one more, which fits. -/
  | more {served : List (Pair × String)} {pod pod' : Json} (p : Pair) (s : Sidecar)
      (h : Dressed c pod₀ served pod) (hfits : s.Fits c p pod) (hinjected : Injected s pod pod') :
      Dressed c pod₀ ((p, s.name) :: served) pod'

end Mutation

/-! ### What an injection does to names -/

namespace Pod.Injected

variable {c : Config} {p : Pair} {s : Sidecar} {pod pod' : Json}

theorem namesUnder_containers (h : Injected s pod pod') :
    namesUnder pod' "containers" = .str s.name :: namesUnder pod "containers" := by
  obtain ⟨containers, hpropagated, hlisted⟩ := h.containers
  rw [namesUnder, hlisted, namesUnder, ← namesOf_congr (Propagated.names_eq hpropagated)]
  rfl

theorem namesUnder_volumes (h : Injected s pod pod') :
    namesUnder pod' "volumes" =
      namesUnder pod "volumes" ++ (Sidecar.volumeNames s.volumes).map Json.str := by
  obtain ⟨volumes, hnames, hlisted⟩ := h.volumes
  have hown : namesOf (s.volumes.map PodVolume.toJson) =
      (Sidecar.volumeNames s.volumes).map Json.str := by
    rw [namesOf, List.filterMap_map, Sidecar.volumeNames, List.map_map]
    exact congrFun List.filterMap_eq_map s.volumes
  rw [namesUnder, hlisted, namesOf_append, namesOf_congr hnames, hown, namesUnder]

theorem listed_inits (h : Injected s pod pod') :
    listed pod' "initContainers" = listed pod "initContainers" := by
  obtain ⟨spec, spec', hspec, hspec', haltered⟩ := h.spec
  rw [listed_of_get? hspec, listed_of_get? hspec']
  exact haltered.listAt_eq (by decide)

/-- With a sidecar that fits, names stay different. -/
theorem distinctNames (h : Injected s pod pod') (hfits : s.Fits c p pod)
    (hpod : DistinctNames pod) : DistinctNames pod' := by
  constructor
  · have hinits : namesUnder pod' "initContainers" = namesUnder pod "initContainers" :=
      congrArg namesOf h.listed_inits
    rw [h.namesUnder_containers, hinits, List.cons_append]
    exact List.nodup_cons.mpr ⟨hfits.name_free, hpod.containers⟩
  · rw [h.namesUnder_volumes]
    have hown : ((Sidecar.volumeNames s.volumes).map Json.str).Nodup :=
      hfits.volumes_nodup.map fun _ _ => Json.str.inj
    refine List.Nodup.append hpod.volumes hown fun name hname hmem => ?_
    obtain ⟨text, htext, rfl⟩ := List.mem_map.mp hmem
    exact hfits.volumes_free text htext hname

end Pod.Injected

/-! ### What a sidecar does for its pair -/

/-- A container mounts nothing but volumes with these names. -/
def MountsOnly (volumes : List Json) (container : Json) : Prop :=
  ∀ mount ∈ container.listAt "volumeMounts", ∃ volume ∈ volumes, mount.get? "name" = some volume

theorem MountsOnly.mono {volumes volumes' : List Json} {a : Json} (h : MountsOnly volumes a)
    (hvolumes : volumes ⊆ volumes') : MountsOnly volumes' a := by
  intro mount hmount
  obtain ⟨volume, hvolume, hname⟩ := h mount hmount
  exact ⟨volume, hvolumes hvolume, hname⟩

/-- Mounts keep their names. -/
theorem Propagated.mountNames_eq {a b : Json} (h : Propagated a b) :
    (b.listAt "volumeMounts").map (·.get? "name") =
      (a.listAt "volumeMounts").map (·.get? "name") := by
  have hmounts := h.mounts
  generalize a.listAt "volumeMounts" = ms, b.listAt "volumeMounts" = ns at hmounts
  induction hmounts with
  | nil => rfl
  | cons hmn _ ih => rw [List.map_cons, List.map_cons, ih, hmn.get?_eq _ (by decide)]

theorem MountsOnly.propagated {volumes : List Json} {a b : Json} (h : MountsOnly volumes a)
    (hab : Propagated a b) : MountsOnly volumes b := by
  intro mount hmount
  have hmem : mount.get? "name" ∈ (b.listAt "volumeMounts").map (·.get? "name") :=
    List.mem_map_of_mem hmount
  rw [hab.mountNames_eq] at hmem
  obtain ⟨old, hold, hname⟩ := List.mem_map.mp hmem
  rw [← hname]
  exact h old hold

namespace Sidecar

/-- A container that serves a pair: it is told what to connect to, and it mounts the volume of the
pair if that has a name. -/
structure Serves (c : Config) (p : Pair) (name : String) (container : Json) : Prop where
  /-- It has this name. -/
  name_eq : container.get? "name" = some (.str name)
  /-- It is told what to connect to. -/
  metaUrl : (EnvVar.plain metaUrlName (p.metaUrl c)).toJson ∈ container.listAt "env"
  /-- It mounts the volume of the pair. -/
  filled : p.volumeName.isPresent = true → p.volumeName ∈ namesOf (container.listAt "volumeMounts")

/-- What a container sees of its mounts makes no difference. -/
theorem Serves.propagated {c : Config} {p : Pair} {name : String} {a b : Json}
    (h : Serves c p name a) (hab : Propagated a b) : Serves c p name b := by
  refine ⟨hab.name_eq.trans h.name_eq, ?_, fun hpresent => ?_⟩
  · rw [hab.altered.listAt_eq (by decide)]
    exact h.metaUrl
  · rw [Pod.namesOf_congr hab.mountNames_eq]
    exact h.filled hpresent

theorem listAt_mounts (s : Sidecar) : s.container.listAt "volumeMounts" =
    s.generatedMounts.map VolumeMount.toJson ++ (s.podMount.map PodMount.toJson).toList := rfl

namespace Fits

variable {c : Config} {p : Pair} {s : Sidecar} {pod pod' : Json}

/-- A sidecar that fits serves its pair. -/
theorem serves (h : s.Fits c p pod) : Serves c p s.name s.container := by
  refine ⟨rfl, List.mem_map_of_mem h.metaUrl, fun hpresent => ?_⟩
  have hpod := h.podMount
  rw [if_pos hpresent] at hpod
  obtain ⟨m, hm, hname⟩ := Option.map_eq_some_iff.mp hpod
  refine Pod.mem_namesOf.mpr ⟨m.toJson, ?_, congrArg some hname⟩
  rw [listAt_mounts, hm]
  exact List.mem_append_right _ (.head _)

/-- Once it is in the pod, the pod has all that it mounts. -/
theorem mountsOnly (h : s.Fits c p pod) (hinjected : Injected s pod pod')
    (hvolume : p.volumeName ∈ namesUnder pod "volumes") :
    MountsOnly (namesUnder pod' "volumes") s.container := by
  intro mount hmount
  rw [listAt_mounts] at hmount
  rw [hinjected.namesUnder_volumes]
  obtain hmount | hmount := List.mem_append.mp hmount
  · obtain ⟨m, hm, rfl⟩ := List.mem_map.mp hmount
    exact ⟨.str m.name, List.mem_append_right _ (List.mem_map_of_mem (h.mounts m hm)), rfl⟩
  · obtain ⟨m, hm, rfl⟩ := Option.map_eq_some_iff.mp (Option.mem_toList.mp hmount)
    have hpod := h.podMount
    rw [hm, Option.map_some] at hpod
    split at hpod
    · have hname : m.name = p.volumeName := Option.some.inj hpod
      exact ⟨p.volumeName, List.mem_append_left _ hvolume, congrArg some hname⟩
    · cases hpod

end Fits

end Sidecar

/-! ### What becomes of a dressed pod -/

namespace Mutation.Dressed

variable {c : Config} {pod₀ pod : Json} {served : List (Pair × String)}

/-- Names stay different. -/
theorem distinct (h : Dressed c pod₀ served pod) (hpod₀ : DistinctNames pod₀) :
    DistinctNames pod := by
  induction h with
  | bare => exact hpod₀
  | more p s _ hfits hinjected ih => exact hinjected.distinctNames hfits ih

/-- No volume loses its name. -/
theorem volumes_subset (h : Dressed c pod₀ served pod) :
    namesUnder pod₀ "volumes" ⊆ namesUnder pod "volumes" := by
  induction h with
  | bare => exact List.Subset.refl _
  | more p s _ hfits hinjected ih =>
    rw [hinjected.namesUnder_volumes]
    exact List.subset_append_of_subset_left _ ih

theorem listed_inits (h : Dressed c pod₀ served pod) :
    listed pod "initContainers" = listed pod₀ "initContainers" := by
  induction h with
  | bare => rfl
  | more p s _ hfits hinjected ih => rw [hinjected.listed_inits, ih]

/-- **Containers.** First come the sidecars, each of which serves its pair and mounts volumes of the
pod, and then the containers that were there, the same but for what they see of their mounts. -/
theorem containers (h : Dressed c pod₀ served pod)
    (hserved : ∀ q ∈ served, q.1.volumeName ∈ namesUnder pod₀ "volumes") :
    ∃ sidecars others, listed pod "containers" = sidecars ++ others ∧
      List.Forall₂ (fun q => Sidecar.Serves c q.1 q.2) served sidecars ∧
      (∀ sidecar ∈ sidecars, MountsOnly (namesUnder pod "volumes") sidecar) ∧
      List.Forall₂ Propagated (listed pod₀ "containers") others := by
  induction h with
  | bare =>
    exact ⟨[], _, rfl, .nil, List.forall_mem_nil _,
      List.forall₂_same.mpr fun container _ => .refl container⟩
  | @more served pod pod' p s h hfits hinjected ih =>
    obtain ⟨hp, hserved⟩ := List.forall_mem_cons.mp hserved
    obtain ⟨sidecars, others, hlisted, hserves, hmounts, hothers⟩ := ih hserved
    obtain ⟨containers, hpropagated, hcontainers⟩ := hinjected.containers
    rw [hlisted] at hpropagated
    -- the sidecars of before see more of their mounts, and so do the others
    obtain ⟨sidecars', others', rfl, hsidecars', hothers'⟩ := split_match hpropagated
    have hold : namesUnder pod "volumes" ⊆ namesUnder pod' "volumes" := by
      rw [hinjected.namesUnder_volumes]
      exact List.subset_append_left _ _
    refine ⟨s.container :: sidecars', others', hcontainers, .cons hfits.serves ?_,
      List.forall_mem_cons.mpr ⟨hfits.mountsOnly hinjected (h.volumes_subset hp), ?_⟩,
      trans_match (fun _ _ _ hab hbd => hab.trans hbd) hothers hothers'⟩
    · exact trans_match (fun _ _ _ hserves hseen => hserves.propagated hseen) hserves hsidecars'
    · intro sidecar' hsidecar'
      obtain ⟨sidecar, hsidecar, hseen⟩ := exists_match hsidecars'.flip hsidecar'
      exact ((hmounts sidecar hsidecar).mono hold).propagated hseen

/-- The metadata of a pod with a sidecar tell of it. -/
theorem labelled (h : Dressed c pod₀ served pod) (hne : served ≠ []) :
    ∃ metadata, pod.get? "metadata" = some metadata ∧
      Pod.Labelled ((pod₀.get? "metadata").getD (.obj [])) metadata := by
  have hall : (served = [] ∧ pod = pod₀) ∨ ∃ metadata, pod.get? "metadata" = some metadata ∧
      Pod.Labelled ((pod₀.get? "metadata").getD (.obj [])) metadata := by
    clear hne
    induction h with
    | bare => exact .inl ⟨rfl, rfl⟩
    | more p s _ hfits hinjected ih =>
      obtain ⟨metadata', hmetadata', hlabelled'⟩ := hinjected.metadata
      refine .inr ⟨metadata', hmetadata', ?_⟩
      obtain ⟨-, rfl⟩ | ⟨metadata, hmetadata, hlabelled⟩ := ih
      · exact hlabelled'
      · rw [hmetadata, Option.getD_some] at hlabelled'
        exact hlabelled.trans hlabelled'
  exact hall.resolve_left fun hbare => hne hbare.1

/-- Of the pod, only the specification and the metadata are altered; of the specification, only
some of its members. -/
theorem altered (h : Dressed c pod₀ served pod) :
    Json.Altered ["spec", "metadata"] pod₀ pod ∧
      ∀ spec₀, pod₀.get? "spec" = some spec₀ → ∃ spec, pod.get? "spec" = some spec ∧
        Json.Altered ["volumes", "containers", "serviceAccountName", "imagePullSecrets"]
          spec₀ spec := by
  induction h with
  | bare => exact ⟨.refl _ _, fun spec₀ hspec₀ => ⟨spec₀, hspec₀, .refl _ _⟩⟩
  | more p s _ hfits hinjected ih =>
    refine ⟨ih.1.trans hinjected.altered, fun spec₀ hspec₀ => ?_⟩
    obtain ⟨spec, hspec, haltered⟩ := ih.2 spec₀ hspec₀
    obtain ⟨old, spec', hold, hspec', haltered'⟩ := hinjected.spec
    rw [hspec] at hold
    cases hold
    exact ⟨spec', hspec', haltered.trans haltered'⟩

end Mutation.Dressed

end SubpathCsi
