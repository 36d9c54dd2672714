import SubpathCsi.Proofs.Pod.Pair
import SubpathCsi.Proofs.Pod.Rounds

/-!
# What a pod with sidecars is like

A pod that has its sidecars gets a runtime class and, before its other init containers, one that
fetches credentials and shares the certificates of a sidecar. Nothing of that takes a name that is
not free.

* `RuntimeClass.altered_of_inject`, `InitContainer.started_of_inject`: what these two do to a pod;
* `Mutation.Stages`, `Mutation.stages_of_run`: a run gives a pod one sidecar for each pair, and then
  these two;
* `Mutation.distinctNames_of_run`: the names in the pod are as distinct as they were, and whatever
  is mounted is there.
-/

namespace SubpathCsi

open Pod (listed namesOf namesUnder DistinctNames)

/-! ### The runtime class -/

/-- A pod that gets a runtime class gets a member of its specification and an annotation. -/
theorem RuntimeClass.altered_of_inject {c : Config} {name : String} {pod pod' : Json}
    (h : inject c pod name = .ok pod') :
    Json.Altered ["spec", "metadata"] pod pod' ∧
      (∃ spec', pod'.get? "spec" = some spec' ∧
        Json.Altered ["runtimeClassName"] ((pod.get? "spec").getD (.obj [])) spec') ∧
      ∃ metadata', pod'.get? "metadata" = some metadata' ∧
        Json.Altered ["annotations"] ((pod.get? "metadata").getD (.obj [])) metadata' := by
  obtain ⟨domain, -, h⟩ := bind_eq_ok.mp h
  obtain ⟨spec, hspec, h⟩ := bind_eq_ok.mp h
  obtain ⟨-, rfl⟩ := Json.findD_eq_ok.mp hspec
  obtain ⟨spec', hspec', h⟩ := bind_eq_ok.mp h
  obtain ⟨pod₁, hpod₁, h⟩ := bind_eq_ok.mp h
  obtain ⟨metadata, hmetadata, h⟩ := bind_eq_ok.mp h
  obtain ⟨-, rfl⟩ := Json.findD_eq_ok.mp hmetadata
  obtain ⟨old, -, h⟩ := bind_eq_ok.mp h
  obtain ⟨annotations, -, h⟩ := bind_eq_ok.mp h
  obtain ⟨metadata', hmetadata', h⟩ := bind_eq_ok.mp h
  have haltered₁ := Json.altered_assign hpod₁
  have haltered := Json.altered_assign h
  refine ⟨(haltered₁.mono (by simp)).trans (haltered.mono (by simp)), ⟨spec', ?_, ?_⟩,
    metadata', (Json.get?_assign h _).trans (if_pos rfl), ?_⟩
  · rw [haltered.get?_eq _ (by decide)]
    exact (Json.get?_assign hpod₁ _).trans (if_pos rfl)
  · exact Json.altered_assign hspec'
  · rw [← haltered₁.get?_eq "metadata" (by decide)]
    exact Json.altered_assign hmetadata'

theorem RuntimeClass.listed_of_inject {c : Config} {name : String} {pod pod' : Json}
    (h : inject c pod name = .ok pod') {key : String} (hkey : key ≠ "runtimeClassName") :
    listed pod' key = listed pod key := by
  obtain ⟨-, ⟨spec', hspec', haltered⟩, -⟩ := altered_of_inject h
  rw [Pod.listed_of_get? hspec', haltered.listAt_eq (List.mem_singleton.not.mpr hkey),
    ← Pod.listed_eq]

/-! ### The init container -/

namespace InitContainer

variable {c : Config} {s : PodSummary} {spec : Json}

/-- What is found in a list is found for one of its items. -/
theorem firstOf_eq_ok {f : Json → Except Failure (Option Json)} {xs : List Json} {y : Json}
    (h : firstOf f xs = .ok (some y)) : ∃ x ∈ xs, f x = .ok (some y) := by
  induction xs with
  | nil => cases h
  | cons x xs ih =>
    obtain ⟨found, hfound, h⟩ := bind_eq_ok.mp h
    cases found with
    | some y' =>
      cases h
      exact ⟨x, .head _, hfound⟩
    | none =>
      obtain ⟨x', hx', hf⟩ := ih h
      exact ⟨x', .tail _ hx', hf⟩

/-- A mount that is shared keeps its name. -/
theorem sharedMount_eq_ok {own mount : Json} (h : sharedMount own = .ok (some mount)) :
    own.IsObject ∧ mount.get? "name" = own.get? "name" := by
  obtain ⟨path, hpath, h⟩ := bind_eq_ok.mp h
  refine ⟨(Json.findD_eq_ok.mp hpath).1, ?_⟩
  split at h
  · split at h
    · obtain ⟨name, hname, h⟩ := bind_eq_ok.mp h
      cases h
      exact (Json.entry_eq_ok.mp hname).symm
    · cases h
  · cases h

/-- What a container with a name shares is a mount of its own. -/
theorem mountOf_eq_ok {name : String} {container mount : Json}
    (h : mountOf name container = .ok (some mount)) :
    container.get? "name" = some (.str name) ∧
      ∃ own ∈ container.listAt "volumeMounts", mount.get? "name" = own.get? "name" := by
  obtain ⟨value, hvalue, h⟩ := bind_eq_ok.mp h
  have hname := Json.entry_eq_ok.mp hvalue
  split at h
  · split at h
    next heq =>
      rw [heq] at hname
      refine ⟨hname, ?_⟩
      obtain ⟨found, hfound, h⟩ := bind_eq_ok.mp h
      obtain ⟨mounts, hmounts, h⟩ := bind_eq_ok.mp h
      obtain ⟨own, hown, hshared⟩ := firstOf_eq_ok h
      obtain ⟨hobject, hkept⟩ := sharedMount_eq_ok hshared
      refine ⟨own, ?_, hkept⟩
      -- there is a mount, so that what was read is a list
      rw [Json.eq_arr_of_each hmounts hown hobject] at hfound
      rwa [Json.listAt_of_get? (Json.get?_of_findD hfound ?_ rfl)]
      obtain ⟨m, ms, rfl⟩ := List.exists_cons_of_ne_nil (List.ne_nil_of_mem hown)
      rfl
    next => cases h
  · cases h

/-- The mount that is shared has the name of a mount of a container that is called like the first
sidecar. -/
theorem confMount_eq_ok {sidecars : List String} {mount : Json}
    (h : confMount sidecars spec = .ok (some mount)) (hlists : Pod.Lists spec "containers") :
    ∃ name ∈ sidecars, ∃ container ∈ spec.listAt "containers",
      container.get? "name" = some (.str name) ∧
      ∃ own ∈ container.listAt "volumeMounts", mount.get? "name" = own.get? "name" := by
  cases sidecars with
  | nil => cases h
  | cons name rest =>
    obtain ⟨items, hitems, h⟩ := bind_eq_ok.mp h
    obtain ⟨container, hcontainer, hmount⟩ := firstOf_eq_ok h
    rw [hlists items hitems] at hcontainer
    obtain ⟨hname, hown⟩ := mountOf_eq_ok hmount
    exact ⟨name, .head _, container, hcontainer, hname, hown⟩

/-- What a pod becomes that gets its init container. -/
structure Started (sidecars : List String) (pod pod' : Json) : Prop where
  /-- Nothing is altered but the specification. -/
  altered : Json.Altered ["spec"] pod pod'
  /-- Of the specification, only the init containers are altered. -/
  spec : ∃ spec spec', pod.get? "spec" = some spec ∧ pod'.get? "spec" = some spec' ∧
    Json.Altered ["initContainers"] spec spec'
  /-- It comes before the others and has a free name. Its mounts have names of mounts of a sidecar. -/
  container : ∃ init name, listed pod' "initContainers" = init :: listed pod "initContainers" ∧
    init.get? "name" = some (.str name) ∧
    .str name ∉ namesUnder pod "containers" ++ namesUnder pod "initContainers" ∧
    ∀ mount ∈ init.listAt "volumeMounts", ∃ sidecar ∈ sidecars,
      ∃ container ∈ listed pod "containers", container.get? "name" = some (.str sidecar) ∧
        ∃ own ∈ container.listAt "volumeMounts", mount.get? "name" = own.get? "name"

/-- A pod that gets its init container gets no more. -/
theorem started_of_inject {incoming pod pod' : Json} (h : inject c s incoming pod = .ok pod') :
    Started s.sidecars pod pod' := by
  obtain ⟨images, -, h⟩ := bind_eq_ok.mp h
  obtain ⟨spec, spec', hspec, hadd, hspec', haltered⟩ := Pod.onSpec_eq_ok h
  obtain ⟨taken, htaken, hadd⟩ := bind_eq_ok.mp hadd
  obtain ⟨mount?, hmount, hadd⟩ := bind_eq_ok.mp hadd
  obtain ⟨others, hothers, hadd⟩ := bind_eq_ok.mp hadd
  obtain ⟨hlists, hinitLists, htakes⟩ := Pod.mem_of_containerNames htaken
  have hlisted := Json.listAt_assign hadd
  rw [hinitLists others hothers, ← Pod.listed_of_get? hspec, ← Pod.listed_of_get? hspec'] at hlisted
  refine ⟨haltered, ⟨spec, spec', hspec, hspec', Json.altered_assign hadd⟩, _,
    uniqueName usualName taken 0, hlisted, rfl, fun hmem => ?_, fun mount hmem => ?_⟩
  · rw [namesUnder, namesUnder, Pod.listed_of_get? hspec, Pod.listed_of_get? hspec] at hmem
    exact uniqueName_notMem usualName taken 0 (htakes _ hmem)
  · have hmem : mount ∈ mount?.toList := hmem
    rw [Option.mem_toList.mp hmem] at hmount
    rw [Pod.listed_of_get? hspec]
    exact confMount_eq_ok hmount hlists

namespace Started

variable {sidecars : List String} {pod pod' : Json}

theorem listed_eq (h : Started sidecars pod pod') {key : String} (hkey : key ≠ "initContainers") :
    listed pod' key = listed pod key := by
  obtain ⟨spec, spec', hspec, hspec', haltered⟩ := h.spec
  rw [Pod.listed_of_get? hspec, Pod.listed_of_get? hspec',
    haltered.listAt_eq (List.mem_singleton.not.mpr hkey)]

/-- Names stay different. -/
theorem distinctNames (h : Started sidecars pod pod') (hpod : DistinctNames pod) :
    DistinctNames pod' := by
  obtain ⟨init, name, hinits, hname, hfree, -⟩ := h.container
  have hcontainers : namesUnder pod' "containers" = namesUnder pod "containers" :=
    congrArg namesOf (h.listed_eq (by decide))
  have hnames : namesUnder pod' "initContainers" =
      .str name :: namesUnder pod "initContainers" := by
    rw [namesUnder, hinits]
    exact List.filterMap_cons_some hname
  constructor
  · rw [hcontainers, hnames]
    exact List.nodup_middle.mpr (List.nodup_cons.mpr ⟨hfree, hpod.containers⟩)
  · rw [namesUnder, h.listed_eq (by decide)]
    exact hpod.volumes

end Started

end InitContainer

/-! ### The whole run -/

/-- Of two items with one name, in a list without doubles, each is the other. -/
theorem Pod.eq_of_namesOf {items : List Json} (hnodup : (namesOf items).Nodup) {a b name : Json}
    (ha : a ∈ items) (hb : b ∈ items) (hnameA : a.get? "name" = some name)
    (hnameB : b.get? "name" = some name) : a = b := by
  by_contra hne
  have hsymm : Std.Symm fun a b : Json =>
      ∀ n, a.get? "name" = some n → ∀ m, b.get? "name" = some m → n ≠ m :=
    ⟨fun _ _ h m hm n hn => (h n hn m hm).symm⟩
  have hpairwise := List.pairwise_filterMap.mp hnodup
  exact hpairwise.forall ha hb hne name hnameA name hnameB rfl

/-- The pairs of a pod are those of volumes of the pod. -/
theorem Pair.volumeName_mem {c : Config} {pod : Json} {es : List Exchange} {pairs : List Pair}
    (h : (ofPod c pod).Trace es (.ok pairs)) {p : Pair} (hp : p ∈ pairs) :
    p.volumeName ∈ namesUnder pod "volumes" := by
  obtain ⟨space, -, hfound⟩ := found_of_ofPod h
  exact Pod.mem_namesOf.mpr (hfound.exists_item hp)

/-- A pod with pairs has a specification. -/
theorem Pair.exists_spec {c : Config} {pod : Json} {es : List Exchange} {pairs : List Pair}
    (h : (ofPod c pod).Trace es (.ok pairs)) (hne : pairs ≠ []) :
    ∃ spec, pod.get? "spec" = some spec := by
  obtain ⟨p, hp⟩ := List.exists_mem_of_ne_nil pairs hne
  have hmem := volumeName_mem h hp
  cases hspec : pod.get? "spec" with
  | none =>
    rw [namesUnder, listed, hspec] at hmem
    cases hmem
  | some spec => exact ⟨spec, rfl⟩

namespace Mutation

variable {c : Config} {es found : List Exchange} {pod out : Json} {pairs : List Pair}

/-- The stages of a run: the pod `dressed` with a sidecar for each pair, `mid` with a runtime class as
well, and `out` with the init container, which is told the names of the sidecars. -/
structure Stages (c : Config) (pod : Json) (pairs : List Pair) (names : List String)
    (dressed mid out : Json) : Prop where
  /-- There is a name for each pair. -/
  length_eq : names.length = pairs.length
  /-- The sidecars come first. -/
  sidecars : Dressed c pod (pairs.zip names).reverse dressed
  /-- Then comes a runtime class. -/
  classed : ∃ runtimeClass, RuntimeClass.inject c dressed runtimeClass = .ok mid
  /-- Then comes the init container. -/
  started : InitContainer.Started names mid out

/-- **A run** goes through its stages. -/
theorem stages_of_run (h : (run c pod pairs).Trace es (.ok out)) :
    ∃ names dressed mid, Stages c pod pairs names dressed mid out := by
  obtain ⟨rounds, dressed, mid, signer, runtimeClass, hrounds, rfl, -, hclass, hinit⟩ :=
    rounds_of_run h
  have hserved : (rounds.map (·.pair)).zip (rounds.map (·.sidecar.name)) =
      rounds.map fun r => (r.pair, r.sidecar.name) := List.zip_map'
  refine ⟨rounds.map (·.sidecar.name), dressed, mid, ?_, ?_, ⟨runtimeClass, hclass⟩,
    InitContainer.started_of_inject hinit⟩
  · rw [List.length_map, List.length_map]
  · rw [hserved]
    exact hrounds.dressed

namespace Stages

variable {names : List String} {dressed mid : Json}

theorem listed_mid (h : Stages c pod pairs names dressed mid out) {key : String}
    (hkey : key ≠ "runtimeClassName") : listed mid key = listed dressed key := by
  obtain ⟨runtimeClass, hclass⟩ := h.classed
  exact RuntimeClass.listed_of_inject hclass hkey

theorem distinct_mid (h : Stages c pod pairs names dressed mid out) (hpod : DistinctNames pod) :
    DistinctNames mid := by
  obtain ⟨hcontainers, hvolumes⟩ := h.sidecars.distinct hpod
  constructor
  · rwa [namesUnder, namesUnder, h.listed_mid (by decide), h.listed_mid (by decide)]
  · rwa [namesUnder, h.listed_mid (by decide)]

/-- The sidecars come before the containers, that of the last pair first. -/
theorem containers (h : Stages c pod pairs names dressed mid out)
    (hpairs : ∀ p ∈ pairs, p.volumeName ∈ namesUnder pod "volumes") :
    ∃ sidecars others, listed out "containers" = sidecars ++ others ∧
      List.Forall₂ (fun q => Sidecar.Serves c q.1 q.2) (pairs.zip names).reverse sidecars ∧
      (∀ sidecar ∈ sidecars, MountsOnly (namesUnder out "volumes") sidecar) ∧
      List.Forall₂ Propagated (listed pod "containers") others := by
  have hlisted : ∀ key, key ≠ "runtimeClassName" → key ≠ "initContainers" →
      listed out key = listed dressed key := fun key hclass hinit =>
    (h.started.listed_eq hinit).trans (h.listed_mid hclass)
  rw [hlisted _ (by decide) (by decide), namesUnder, hlisted _ (by decide) (by decide)]
  exact h.sidecars.containers fun q hq =>
    hpairs q.1 (List.of_mem_zip (List.mem_reverse.mp hq)).1

/-- The init container comes before the others, and mounts what a sidecar mounts. -/
theorem inits (h : Stages c pod pairs names dressed mid out) (hpod : DistinctNames pod)
    {volumes sidecars others : List Json}
    (hcontainers : listed out "containers" = sidecars ++ others)
    (hserves : List.Forall₂ (fun q => Sidecar.Serves c q.1 q.2) (pairs.zip names).reverse sidecars)
    (hmounts : ∀ sidecar ∈ sidecars, MountsOnly volumes sidecar) :
    ∃ init, listed out "initContainers" = init :: listed pod "initContainers" ∧
      MountsOnly volumes init := by
  obtain ⟨init, name, hinits, -, -, hinit⟩ := h.started.container
  rw [h.listed_mid (by decide), h.sidecars.listed_inits] at hinits
  refine ⟨init, hinits, fun mount hmount => ?_⟩
  obtain ⟨name, hname, container, hcontainer, hcalled, own, hown, hsame⟩ := hinit mount hmount
  -- the container is the sidecar with this name, since there is no other
  have hsnd : (pairs.zip names).map Prod.snd = names := List.map_snd_zip h.length_eq.le
  rw [← hsnd] at hname
  obtain ⟨q, hq, rfl⟩ := List.mem_map.mp hname
  obtain ⟨sidecar, hsidecar, hserve⟩ := exists_match hserves (List.mem_reverse.mpr hq)
  rw [h.started.listed_eq (by decide)] at hcontainers
  have hnodup := List.Nodup.of_append_left (h.distinct_mid hpod).containers
  have hmem : sidecar ∈ listed mid "containers" := by
    rw [hcontainers]
    exact List.mem_append_left _ hsidecar
  cases Pod.eq_of_namesOf hnodup hcontainer hmem hcalled hserve.name_eq
  rw [hsame]
  exact hmounts _ hsidecar own hown

/-- Of the pod, only the specification and the metadata are altered. -/
theorem altered (h : Stages c pod pairs names dressed mid out) :
    Json.Altered ["spec", "metadata"] pod out := by
  obtain ⟨runtimeClass, hclass⟩ := h.classed
  exact (h.sidecars.altered.1.trans (RuntimeClass.altered_of_inject hclass).1).trans
    (h.started.altered.mono (by simp))

/-- Of the specification, only these members are altered. -/
theorem altered_spec (h : Stages c pod pairs names dressed mid out) {spec : Json}
    (hspec : pod.get? "spec" = some spec) : ∃ spec', out.get? "spec" = some spec' ∧
      Json.Altered ["volumes", "containers", "serviceAccountName", "imagePullSecrets",
        "runtimeClassName", "initContainers"] spec spec' := by
  obtain ⟨runtimeClass, hclass⟩ := h.classed
  obtain ⟨spec₁, hspec₁, haltered₁⟩ := h.sidecars.altered.2 spec hspec
  obtain ⟨-, ⟨spec₂, hspec₂, haltered₂⟩, -⟩ := RuntimeClass.altered_of_inject hclass
  obtain ⟨old, spec₃, hold, hspec₃, haltered₃⟩ := h.started.spec
  rw [hspec₁, Option.getD_some] at haltered₂
  cases hspec₂.symm.trans hold
  exact ⟨spec₃, hspec₃, ((haltered₁.mono (by simp)).trans (haltered₂.mono (by simp))).trans
    (haltered₃.mono (by simp))⟩

/-- The metadata tell of the sidecars. -/
theorem labelled (h : Stages c pod pairs names dressed mid out) (hne : pairs ≠ []) :
    ∃ metadata, out.get? "metadata" = some metadata ∧
      Pod.Labelled ((pod.get? "metadata").getD (.obj [])) metadata := by
  obtain ⟨runtimeClass, hclass⟩ := h.classed
  have hserved : (pairs.zip names).reverse ≠ [] := fun hnil => by
    have hlength := congrArg List.length hnil
    rw [List.length_reverse, List.length_zip, h.length_eq, min_self] at hlength
    exact hne (List.length_eq_zero_iff.mp hlength)
  obtain ⟨metadata₁, hmetadata₁, hlabelled⟩ := h.sidecars.labelled hserved
  obtain ⟨-, -, metadata₂, hmetadata₂, haltered⟩ := RuntimeClass.altered_of_inject hclass
  rw [hmetadata₁, Option.getD_some] at haltered
  exact ⟨metadata₂, (h.started.altered.get?_eq _ (by decide)).trans hmetadata₂,
    hlabelled.annotated haltered⟩

/-- There is a sidecar for each pair. -/
theorem length_sidecars (h : Stages c pod pairs names dressed mid out) {sidecars : List Json}
    (hserves : List.Forall₂ (fun q => Sidecar.Serves c q.1 q.2) (pairs.zip names).reverse sidecars) :
    sidecars.length = pairs.length := by
  rw [← hserves.length_eq, List.length_reverse, List.length_zip, h.length_eq, min_self]

end Stages

/-- **Distinct names.** If all containers of a pod have different names, and all volumes, then they
have when the pod has its sidecars and its init container; and these mount nothing but volumes of
the pod. -/
theorem distinctNames_of_run (hpod : DistinctNames pod)
    (hpairs : (Pair.ofPod c pod).Trace found (.ok pairs)) (h : (run c pod pairs).Trace es (.ok out)) :
    DistinctNames out ∧ ∃ init sidecars others,
      listed out "initContainers" = init :: listed pod "initContainers" ∧
      listed out "containers" = sidecars ++ others ∧ sidecars.length = pairs.length ∧
      List.Forall₂ Propagated (listed pod "containers") others ∧
      ∀ container ∈ init :: sidecars, MountsOnly (namesUnder out "volumes") container := by
  obtain ⟨names, dressed, mid, hstages⟩ := stages_of_run h
  obtain ⟨sidecars, others, hcontainers, hserves, hmounts, hothers⟩ :=
    hstages.containers fun p hp => Pair.volumeName_mem hpairs hp
  obtain ⟨init, hinits, hinit⟩ := hstages.inits hpod hcontainers hserves hmounts
  exact ⟨hstages.started.distinctNames (hstages.distinct_mid hpod), init, sidecars, others, hinits,
    hcontainers, hstages.length_sidecars hserves, hothers, List.forall_mem_cons.mpr ⟨hinit, hmounts⟩⟩

/-- An object that has a name, among other members. -/
def named (name : String) (others : Keyed Json := []) : Json := .obj (("name", .str name) :: others)

/-- A volume of a pod that stands for a claim. -/
def claimed (name claim : String) : Json :=
  named name [("persistentVolumeClaim", .obj [("claimName", .str claim)])]

/-- A pod with two filesystems, and with names like those that are made for sidecars. -/
def crowdedPod : Json :=
  .obj [("metadata", named "app" [("namespace", .str "default")]),
    ("spec", .obj [
      ("containers", .arr [named "cfs-mount", named "cfs-mount-0"]),
      ("initContainers", .arr [named "cfs-init", named "cfs-mount-1"]),
      ("volumes", .arr [claimed "cfs-conf" "claim-1", claimed "cfs-mount-1-cfs-conf" "claim-2"])])]

/-- A volume of this driver. -/
def claimedVolume (name : String) : Volume where
  metadata := { name }
  csi := some {
    driver := "csi.cfs.confidentialfilesystems.com"
    volumeHandle := name
    volumeAttributes := some [(descriptorKey, "shared-fs")] }

/-- A claim that is bound to a volume. -/
def boundClaim (name volume : String) : Claim where
  metadata := { name, space := some "default", uid := some ("uid-of-" ++ name) }
  requests := some (some [("storage", "1Gi")])
  volumeName := some volume

/-- A cluster with volumes of this driver for two claims. -/
def crowdedCluster : Cluster where
  volumes := [claimedVolume "pv-1", claimedVolume "pv-2"]
  claims := [boundClaim "claim-1" "pv-1", boundClaim "claim-2" "pv-2"]
  descriptors := [.obj [("metadata", named "shared-fs"), ("spec", .obj [("filesystem", named "data")])]]

/-- The pairs of the pod in the cluster. -/
def crowdedPairs : List Pair :=
  (((Pair.ofPod {} crowdedPod).run { cluster := crowdedCluster }).1.toOption).getD []

theorem distinctNames_crowdedPod : DistinctNames crowdedPod := by
  have hstr : Function.Injective Json.str := fun _ _ => Json.str.inj
  constructor
  · exact (by decide : ["cfs-mount", "cfs-mount-0", "cfs-init", "cfs-mount-1"].Nodup).map hstr
  · exact (by decide : ["cfs-conf", "cfs-mount-1-cfs-conf"].Nodup).map hstr

theorem distinctNames_of_run_crowdedPod :
    DistinctNames crowdedPod ∧ crowdedPairs.length = 2 ∧
      (∃ found, (Pair.ofPod {} crowdedPod).Trace found (.ok crowdedPairs)) ∧
      ∃ es out, (run {} crowdedPod crowdedPairs).Trace es (.ok out) ∧ DistinctNames out ∧
        ∃ init sidecars others,
          listed out "initContainers" = init :: listed crowdedPod "initContainers" ∧
          listed out "containers" = sidecars ++ others ∧ sidecars.length = crowdedPairs.length ∧
          List.Forall₂ Propagated (listed crowdedPod "containers") others ∧
          ∀ container ∈ init :: sidecars, MountsOnly (namesUnder out "volumes") container := by
  let w : Remote := { cluster := crowdedCluster }
  have hfound : ((Pair.ofPod {} crowdedPod).run w).1.isOk = true := by decide +kernel
  have hrun : ((run {} crowdedPod crowdedPairs).run w).1.isOk = true := by decide +kernel
  have hpairs := (Pair.ofPod {} crowdedPod).trace_run w
  obtain ⟨out, htrace⟩ := Act.exists_trace_of_isOk hrun
  have heq : ((Pair.ofPod {} crowdedPod).run w).1 = .ok crowdedPairs := by
    cases h : ((Pair.ofPod {} crowdedPod).run w).1 with
    | error f =>
      rw [h] at hfound
      cases hfound
    | ok pairs =>
      rw [crowdedPairs, h]
      rfl
  rw [heq] at hpairs
  exact ⟨distinctNames_crowdedPod, by decide +kernel, ⟨_, hpairs⟩, _, out, htrace,
    distinctNames_of_run distinctNames_crowdedPod hpairs htrace⟩

end Mutation

end SubpathCsi
