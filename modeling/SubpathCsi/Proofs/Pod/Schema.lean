import SubpathCsi.Proofs.Json.Typed
import SubpathCsi.Proofs.Pod.Mutation

/-!
# Well-typed pods

The schema of pods says which members are objects, lists and texts, and that whatever is listed has a
name. Into a pod that keeps to the schema, a sidecar is put without fail, and the pod keeps to the
schema then. So are a runtime class and the init container.

* `Pod.WellTyped`: what the schema says of a pod, as far as it is read;
* `Pod.yields_inject`: a sidecar is put into a well-typed pod;
* `RuntimeClass.yields_inject`, `InitContainer.yields_inject`: so are a runtime class and the init
  container;
* `InitContainer.MountsNamed`: what the init container needs of the first sidecar, which the sidecars
  after that keep.
-/

namespace SubpathCsi

open Json (Given Nullable IsListOf IsObject IsText)

namespace Pod

variable {P : Json → Prop} {pod spec : Json} {key : String}

/-! ### The schema -/

/-- An object that has a name. -/
def Named (j : Json) : Prop := ∃ name, j.get? "name" = some (.str name)

/-- A mount of a container. -/
structure MountTyped (j : Json) : Prop where
  /-- It is an object. -/
  isObject : j.IsObject
  /-- Its path is a text. -/
  path : Given (Nullable IsText) "mountPath" j

/-- A container. -/
structure ContainerTyped (j : Json) : Prop where
  /-- It has a name. -/
  named : Named j
  /-- Its image is a text, or there is none. -/
  image : Given IsText "image" j
  /-- Its mounts are listed. -/
  mounts : Given (Nullable (IsListOf MountTyped)) "volumeMounts" j

/-- A volume. -/
structure VolumeTyped (j : Json) : Prop where
  /-- It has a name. -/
  named : Named j
  /-- A claim as its source is an object. -/
  source : Given (Nullable IsObject) "persistentVolumeClaim" j

/-- A reference to a secret for pulling images. -/
structure PullSecretTyped (j : Json) : Prop where
  /-- It is an object. -/
  isObject : j.IsObject
  /-- Its name is a text. -/
  name : Given (Nullable IsText) "name" j

/-- A specification. -/
structure SpecTyped (j : Json) : Prop where
  /-- It is an object. -/
  isObject : j.IsObject
  /-- It lists containers. -/
  containers : Given (Nullable (IsListOf ContainerTyped)) "containers" j
  /-- It lists init containers, which have names. -/
  inits : Given (Nullable (IsListOf Named)) "initContainers" j
  /-- It lists volumes. -/
  volumes : Given (Nullable (IsListOf VolumeTyped)) "volumes" j
  /-- It lists secrets for pulling images. -/
  pullSecrets : Given (Nullable (IsListOf PullSecretTyped)) "imagePullSecrets" j

/-- The metadata. -/
structure MetadataTyped (j : Json) : Prop where
  /-- They are an object. -/
  isObject : j.IsObject
  /-- The labels are an object. -/
  labels : Given (Nullable IsObject) "labels" j
  /-- The annotations are an object. -/
  annotations : Given (Nullable IsObject) "annotations" j

/-- A pod that keeps to the schema. -/
structure WellTyped (pod : Json) : Prop where
  /-- It has a specification. -/
  spec : ∃ spec, pod.get? "spec" = some spec ∧ SpecTyped spec
  /-- It may have metadata. -/
  metadata : Given MetadataTyped "metadata" pod

theorem WellTyped.isObject (h : WellTyped pod) : pod.IsObject := by
  obtain ⟨spec, hspec, -⟩ := h.spec
  exact Json.isObject_of_get? hspec

theorem metadataTyped_empty : MetadataTyped (.obj []) := ⟨⟨[], rfl⟩, nofun, nofun⟩

theorem Named.isObject {j : Json} (h : Named j) : j.IsObject := by
  obtain ⟨name, hname⟩ := h
  exact Json.isObject_of_get? hname

theorem Named.assign {j j' v : Json} (h : Named j) (hassign : j.assign key v = .ok j')
    (hne : key ≠ "name") : Named j' := by
  obtain ⟨name, hname⟩ := h
  exact ⟨name, ((Json.get?_assign hassign _).trans (if_neg hne)).trans hname⟩

/-- A member of which the schema says nothing may be written. -/
theorem SpecTyped.assign {spec' v : Json} (h : SpecTyped spec) (hassign : spec.assign key v = .ok spec')
    (hkey : key ∉ ["containers", "initContainers", "volumes", "imagePullSecrets"]) :
    SpecTyped spec' := by
  simp only [List.mem_cons, List.not_mem_nil, or_false, not_or] at hkey
  obtain ⟨hcontainers, hinits, hvolumes, hpullSecrets⟩ := hkey
  exact ⟨Json.isObject_of_assign hassign, h.containers.assign hassign hcontainers,
    h.inits.assign hassign hinits, h.volumes.assign hassign hvolumes,
    h.pullSecrets.assign hassign hpullSecrets⟩

/-- So may new containers. -/
theorem SpecTyped.assign_containers {spec' : Json} {containers : List Json} (h : SpecTyped spec)
    (hassign : spec.assign "containers" (.arr containers) = .ok spec')
    (hall : ∀ container ∈ containers, ContainerTyped container) : SpecTyped spec' :=
  ⟨Json.isObject_of_assign hassign, Json.given_assign hassign (.inr ⟨containers, rfl, hall⟩),
    h.inits.assign hassign (by decide), h.volumes.assign hassign (by decide),
    h.pullSecrets.assign hassign (by decide)⟩

/-! ### Reading a well-typed pod -/

theorem yields_metadata (h : WellTyped pod) : Yields (Pod.metadata pod) MetadataTyped :=
  Json.yields_findD h.isObject h.metadata metadataTyped_empty

theorem yields_space (h : WellTyped pod) : Yields (Pod.space pod) fun _ => True :=
  (yields_metadata h).bind fun _ hmetadata =>
    Json.yields_findD hmetadata.isObject (fun _ _ => trivial) trivial

theorem yields_spec (h : WellTyped pod) {default : Json} :
    Yields (pod.findD "spec" default) SpecTyped := by
  obtain ⟨spec, hspec, htyped⟩ := h.spec
  exact ⟨spec, Json.findD_eq_ok.mpr ⟨h.isObject, by rw [hspec]; rfl⟩, htyped⟩

theorem yields_specItems (hspec : spec.IsObject) (h : Given (Nullable (IsListOf P)) key spec) :
    Yields (specItems spec key) fun items => ∀ item ∈ items, P item :=
  (Json.yields_items hspec h).mono fun _ hitems => hitems.2

theorem yields_comparable {j : Json} (h : Nullable IsText j) :
    Yields (comparable j) fun _ => True := by
  obtain rfl | ⟨s, rfl⟩ := h
  · exact yields_ok trivial
  · exact yields_ok trivial

theorem yields_names {items : List Json} (h : ∀ item ∈ items, Named item) :
    Yields (names items) fun _ => True := by
  refine (yields_mapM (P := fun _ => True) fun item hitem => ?_).bind fun _ _ => yields_ok trivial
  obtain ⟨name, hname⟩ := h item hitem
  refine (Json.yields_entry hname).bind ?_
  rintro _ rfl
  exact (yields_comparable (.inr ⟨name, rfl⟩)).bind fun _ _ => yields_ok trivial

theorem yields_containerNames (h : SpecTyped spec) :
    Yields (containerNames spec) fun _ => True := by
  refine (yields_specItems h.isObject h.containers).bind fun containers hcontainers => ?_
  refine (yields_names fun item hitem => (hcontainers item hitem).named).bind fun _ _ => ?_
  refine (yields_specItems h.isObject h.inits).bind fun inits hinits => ?_
  exact (yields_names hinits).bind fun _ _ => yields_ok trivial

theorem yields_volumeNames (h : SpecTyped spec) : Yields (volumeNames spec) fun _ => True :=
  (yields_specItems h.isObject h.volumes).bind fun _ hvolumes =>
    yields_names fun item hitem => (hvolumes item hitem).named

/-- A sidecar gets its names in a well-typed pod. -/
theorem yields_renameIn (h : WellTyped pod) (s : Sidecar) (index : Int) :
    Yields (s.renameIn pod index) fun _ => True := by
  refine (yields_spec h).bind fun spec hspec => ?_
  refine (yields_containerNames hspec).bind fun _ _ => ?_
  exact (yields_volumeNames hspec).bind fun _ _ => yields_ok trivial

theorem yields_mountsPaths {mounts : List Json} (h : ∀ mount ∈ mounts, MountTyped mount) :
    Yields (MountPath.mountsPaths mounts) fun _ => True := by
  refine (yields_mapM (P := fun _ => True) fun mount hmount => ?_).bind fun _ _ => yields_ok trivial
  have hpath := Json.yields_findD (h mount hmount).isObject (h mount hmount).path (.inl rfl)
  refine hpath.bind fun path hpath => ?_
  exact (yields_comparable hpath).bind fun _ _ => yields_ok trivial

/-- The paths of all mounts are found in a well-typed pod. -/
theorem yields_taken (h : WellTyped pod) : Yields (MountPath.taken pod) fun _ => True := by
  refine (yields_spec h).bind fun spec hspec => ?_
  refine (yields_specItems hspec.isObject hspec.containers).bind fun containers hcontainers => ?_
  refine (yields_mapM (P := fun _ => True) fun container hcontainer => ?_).bind
    fun _ _ => yields_ok trivial
  have htyped := hcontainers container hcontainer
  rw [← bind_assoc]
  exact (Json.yields_items htyped.named.isObject htyped.mounts).bind fun _ hitems =>
    yields_mountsPaths hitems.2

/-! ### Changing a well-typed pod -/

theorem yields_onSpec {f : Json → Except Failure Json} (h : WellTyped pod)
    (hf : ∀ spec, SpecTyped spec → Yields (f spec) SpecTyped) : Yields (onSpec pod f) WellTyped := by
  obtain ⟨_, hspec, htyped⟩ := h.spec
  refine (Json.yields_entry hspec).bind ?_
  rintro spec rfl
  refine (hf spec htyped).bind fun spec' htyped' => ?_
  refine (Json.yields_assign h.isObject).mono fun pod' hassign => ?_
  exact ⟨⟨spec', (Json.get?_assign hassign _).trans (if_pos rfl), htyped'⟩,
    h.metadata.assign hassign (by decide)⟩

theorem yields_onMetadata {f : Json → Except Failure Json} (h : WellTyped pod)
    (hf : ∀ metadata, MetadataTyped metadata → Yields (f metadata) MetadataTyped) :
    Yields (onMetadata pod f) WellTyped := by
  refine (Json.yields_findD h.isObject h.metadata metadataTyped_empty).bind fun metadata htyped => ?_
  refine (hf metadata htyped).bind fun metadata' htyped' => ?_
  refine (Json.yields_assign h.isObject).mono fun pod' hassign => ?_
  obtain ⟨spec, hspec, hspecTyped⟩ := h.spec
  exact ⟨⟨spec, ((Json.get?_assign hassign _).trans (if_neg (by decide))).trans hspec, hspecTyped⟩,
    Json.given_assign hassign htyped'⟩

theorem yields_standsFor {claim : String} {item : Json} (h : VolumeTyped item) :
    Yields (standsFor claim item) fun _ => True := by
  refine (Json.yields_findD h.named.isObject h.source (.inl rfl)).bind fun source hsource => ?_
  obtain rfl | hobject := hsource
  · exact yields_ok trivial
  · split
    · exact yields_ok trivial
    · refine (Json.yields_find hobject).bind fun found _ => ?_
      split
      · exact yields_ok trivial
      · exact yields_ok trivial

theorem volumeTyped_emptied (name : String) : VolumeTyped (emptied (.str name)) :=
  ⟨⟨name, rfl⟩, nofun⟩

theorem yields_emptyClaims {claim : String} {items : List Json}
    (h : ∀ item ∈ items, VolumeTyped item) :
    Yields (emptyClaims claim items) fun result => ∀ item ∈ result.1, VolumeTyped item := by
  induction items with
  | nil => exact yields_ok (List.forall_mem_nil _)
  | cons item items ih =>
    have hitem := h item (.head _)
    have hrest := ih fun item hitem => h item (.tail _ hitem)
    refine (yields_standsFor hitem).bind fun stands _ => ?_
    split
    · -- what stands for the claim is emptied, and keeps its name
      obtain ⟨name, hname⟩ := hitem.named
      refine (Json.yields_entry hname).bind ?_
      rintro _ rfl
      refine hrest.bind fun result hresult => ?_
      exact yields_ok (List.forall_mem_cons.mpr ⟨volumeTyped_emptied name, hresult⟩)
    · refine hrest.bind fun result hresult => ?_
      exact yields_ok (List.forall_mem_cons.mpr ⟨hitem, hresult⟩)

theorem yields_propagate {names : List Json} {mount : Json} (h : MountTyped mount) :
    Yields (propagate names mount) MountTyped := by
  have hname : Yields (mount.findD "name" .null) fun _ => True :=
    Json.yields_findD h.isObject (fun _ _ => trivial) trivial
  refine hname.bind fun name _ => ?_
  split
  · refine (Json.yields_assign h.isObject).mono fun mount' hassign => ?_
    exact ⟨Json.isObject_of_assign hassign, h.path.assign hassign (by decide)⟩
  · exact yields_ok h

theorem yields_propagateIn {names : List Json} {container : Json} (h : ContainerTyped container) :
    Yields (propagateIn names container) ContainerTyped := by
  refine (Json.yields_find h.named.isObject).bind ?_
  rintro found rfl
  split
  next mounts hget =>
    obtain hnull | ⟨xs, hxs, htyped⟩ := h.mounts _ hget
    · cases hnull
    cases hxs
    refine (yields_mapM fun mount hmount => yields_propagate (htyped mount hmount)).bind
      fun mounts' hmounts' => ?_
    refine (Json.yields_assign h.named.isObject).mono fun container' hassign => ?_
    exact ⟨h.named.assign hassign (by decide), h.image.assign hassign (by decide),
      Json.given_assign hassign (.inr ⟨mounts', rfl, hmounts'⟩)⟩
  next => exact yields_ok h

/-- The volumes of a sidecar keep to the schema. -/
theorem volumeTyped_toJson (v : PodVolume) : VolumeTyped v.toJson := by
  refine ⟨⟨v.name, rfl⟩, fun source hsource => ?_⟩
  obtain ⟨name, source⟩ := v
  cases source with
  | claim claim =>
    cases hsource
    exact .inr ⟨_, rfl⟩
  | secret | emptyDir | inline | hostPath => cases hsource

theorem yields_fillVolumes {claim : String} {own : List PodVolume} (h : SpecTyped spec) :
    Yields (fillVolumes claim own spec) SpecTyped := by
  refine (yields_specItems h.isObject h.volumes).bind fun items hitems => ?_
  refine (yields_emptyClaims hitems).bind fun result hresult => ?_
  have hvolumes : ∀ item ∈ result.1 ++ own.map PodVolume.toJson, VolumeTyped item := by
    refine List.forall_mem_append.mpr ⟨hresult, fun item hitem => ?_⟩
    obtain ⟨v, -, rfl⟩ := List.mem_map.mp hitem
    exact volumeTyped_toJson v
  -- whatever becomes of the containers, the volumes are written at last
  have hlast : ∀ middle, SpecTyped middle →
      Yields (middle.assign "volumes" (.arr (result.1 ++ own.map PodVolume.toJson))) SpecTyped := by
    intro middle hmiddle
    refine (Json.yields_assign hmiddle.isObject).mono fun spec' hassign => ?_
    exact ⟨Json.isObject_of_assign hassign, hmiddle.containers.assign hassign (by decide),
      hmiddle.inits.assign hassign (by decide),
      Json.given_assign hassign (.inr ⟨_, rfl, hvolumes⟩),
      hmiddle.pullSecrets.assign hassign (by decide)⟩
  refine (Json.yields_find h.isObject).bind ?_
  rintro found rfl
  dsimp only
  split
  next containers hget =>
    split
    · exact hlast spec h
    · obtain hnull | ⟨xs, hxs, htyped⟩ := h.containers _ hget
      · cases hnull
      cases hxs
      refine (yields_mapM fun container hcontainer =>
        yields_propagateIn (htyped container hcontainer)).bind fun containers' hcontainers' => ?_
      exact (Json.yields_assign h.isObject).bind fun middle hassign =>
        hlast middle (h.assign_containers hassign hcontainers')
  next => exact hlast spec h

theorem yields_mergeTexts {texts : Keyed String} {metadata : Json} (hobject : metadata.IsObject)
    (h : Given (Nullable IsObject) key metadata) :
    Yields (mergeTexts key texts metadata) fun metadata' => ∃ ms,
      metadata.assign key (.obj ms) = .ok metadata' := by
  refine (Json.yields_findD hobject h (.inl rfl)).bind fun old hold => ?_
  refine (Json.yields_membersFor hold).bind fun members _ => ?_
  exact (Json.yields_assign hobject).mono fun metadata' hassign => ⟨_, hassign⟩

theorem yields_mergeLabels {labels : Keyed String} {metadata : Json} (h : MetadataTyped metadata) :
    Yields (mergeLabels labels metadata) MetadataTyped := by
  refine (yields_mergeTexts h.isObject h.labels).mono ?_
  rintro metadata' ⟨ms, hassign⟩
  exact ⟨Json.isObject_of_assign hassign, Json.given_assign hassign (.inr ⟨ms, rfl⟩),
    h.annotations.assign hassign (by decide)⟩

theorem yields_mergeAnnotations {annotations : Keyed String} {metadata : Json}
    (h : MetadataTyped metadata) : Yields (mergeAnnotations annotations metadata) MetadataTyped := by
  rw [mergeAnnotations]
  split
  · exact yields_ok h
  · refine (yields_mergeTexts h.isObject h.annotations).mono ?_
    rintro metadata' ⟨ms, hassign⟩
    exact ⟨Json.isObject_of_assign hassign, h.labels.assign hassign (by decide),
      Json.given_assign hassign (.inr ⟨ms, rfl⟩)⟩

theorem yields_adoptServiceAccount {name : String} (h : SpecTyped spec) :
    Yields (adoptServiceAccount name spec) SpecTyped := by
  have hown : Yields (spec.findD "serviceAccountName" .null) fun _ => True :=
    Json.yields_findD h.isObject (fun _ _ => trivial) trivial
  refine hown.bind fun own _ => ?_
  split
  · exact yields_ok h
  · exact (Json.yields_assign h.isObject).mono fun spec' hassign => h.assign hassign (by decide)

theorem yields_addContainer {container : Json} (h : SpecTyped spec)
    (hcontainer : ContainerTyped container) : Yields (addContainer container spec) SpecTyped := by
  refine (yields_specItems h.isObject h.containers).bind fun containers hcontainers => ?_
  exact (Json.yields_assign h.isObject).mono fun spec' hassign =>
    h.assign_containers hassign (List.forall_mem_cons.mpr ⟨hcontainer, hcontainers⟩)

theorem pullSecretTyped_named (name : String) : PullSecretTyped (.obj [("name", .str name)]) := by
  refine ⟨⟨_, rfl⟩, ?_⟩
  rintro _ ⟨⟩
  exact .inr ⟨name, rfl⟩

theorem yields_addPullSecrets {names : List String} (h : SpecTyped spec) :
    Yields (addPullSecrets names spec) SpecTyped := by
  rw [addPullSecrets]
  split
  · exact yields_ok h
  · refine (yields_specItems h.isObject h.pullSecrets).bind fun old hold => ?_
    have hpresent : Yields (old.mapM fun item => do
        let name ← item.findD "name" .null
        comparable name
        return name) fun _ => True := by
      refine (yields_mapM (P := fun _ => True) fun item hitem => ?_).mono fun _ _ => trivial
      refine (Json.yields_findD (hold item hitem).isObject (hold item hitem).name (.inl rfl)).bind
        fun name hname => ?_
      exact (yields_comparable hname).bind fun _ _ => yields_ok trivial
    refine hpresent.bind fun present _ => ?_
    refine (Json.yields_assign h.isObject).mono fun spec' hassign => ?_
    refine ⟨Json.isObject_of_assign hassign, h.containers.assign hassign (by decide),
      h.inits.assign hassign (by decide), h.volumes.assign hassign (by decide),
      Json.given_assign hassign (.inr ⟨_, rfl, List.forall_mem_append.mpr ⟨hold, ?_⟩⟩)⟩
    intro item hitem
    obtain ⟨name, -, rfl⟩ := List.mem_map.mp hitem
    exact pullSecretTyped_named name

/-- A sidecar keeps to the schema. -/
theorem containerTyped_container (s : Sidecar) : ContainerTyped s.container := by
  refine ⟨⟨s.name, rfl⟩, ?_, ?_⟩
  · rintro _ ⟨⟩
    exact ⟨s.image, rfl⟩
  · rintro _ ⟨⟩
    refine .inr ⟨s.mounts, rfl, List.forall_mem_append.mpr ⟨fun mount hmount => ?_,
      fun mount hmount => ?_⟩⟩
    · obtain ⟨m, -, rfl⟩ := List.mem_map.mp hmount
      refine ⟨⟨_, rfl⟩, ?_⟩
      rintro _ ⟨⟩
      exact .inr ⟨m.mountPath, rfl⟩
    · obtain ⟨m, -, rfl⟩ := Option.map_eq_some_iff.mp (Option.mem_toList.mp hmount)
      refine ⟨⟨_, rfl⟩, ?_⟩
      rintro _ ⟨⟩
      exact .inr ⟨m.mountPath, rfl⟩

/-- **Injection.** A sidecar is put into a well-typed pod without fail, and the pod stays well-typed. -/
theorem yields_inject (h : WellTyped pod) (c : Config) (claim : String) (s : Sidecar) :
    Yields (inject c claim s pod) WellTyped := by
  refine (yields_onSpec h fun spec hspec => yields_fillVolumes hspec).bind fun pod₁ h₁ => ?_
  refine (yields_onMetadata h₁ fun metadata hmetadata => yields_mergeLabels hmetadata).bind
    fun pod₂ h₂ => ?_
  have hadded : ∀ pod, WellTyped pod → Yields (do
      let pod ← onSpec pod (adoptServiceAccount s.serviceAccountName)
      let pod ← onSpec pod (addContainer s.container)
      onSpec pod (addPullSecrets c.imagePullSecrets)) WellTyped := by
    intro pod hpod
    refine (yields_onSpec hpod fun spec hspec => yields_adoptServiceAccount hspec).bind
      fun pod₃ h₃ => ?_
    refine (yields_onSpec h₃ fun spec hspec =>
      yields_addContainer hspec (containerTyped_container s)).bind fun pod₄ h₄ => ?_
    exact yields_onSpec h₄ fun spec hspec => yields_addPullSecrets hspec
  dsimp only
  split
  · exact hadded pod₂ h₂
  · refine (yields_onMetadata h₂ fun metadata hmetadata =>
      yields_mergeAnnotations hmetadata).bind fun pod₃ h₃ => ?_
    exact hadded pod₃ h₃

end Pod

open Pod (WellTyped SpecTyped ContainerTyped MetadataTyped Named listed)

/-! ### The runtime class -/

/-- A known class is put into a well-typed pod. -/
theorem RuntimeClass.yields_inject {c : Config} {name : String} {domain : RuntimeDomain} {pod : Json}
    (h : WellTyped pod) (hdomain : domainOf c name = .ok domain) :
    Yields (inject c pod name) WellTyped := by
  refine Yields.bind ⟨domain, hdomain, trivial⟩ fun own (_ : True) => ?_
  refine (Pod.yields_spec h).bind fun spec hspec => ?_
  refine (Json.yields_assign hspec.isObject).bind fun spec' hspec' => ?_
  refine (Json.yields_assign h.isObject).bind fun pod₁ hpod₁ => ?_
  have hmetadata₁ : Given MetadataTyped "metadata" pod₁ := h.metadata.assign hpod₁ (by decide)
  refine (Json.yields_findD (Json.isObject_of_assign hpod₁) hmetadata₁
    Pod.metadataTyped_empty).bind fun metadata hmetadata => ?_
  refine (Json.yields_findD hmetadata.isObject hmetadata.annotations (.inl rfl)).bind
    fun old hold => ?_
  -- what is absent gives way to an empty object
  have hobject : (if old.isPresent then old else .obj []).IsObject := by
    obtain rfl | hobject := hold
    · exact ⟨[], rfl⟩
    · split
      · exact hobject
      · exact ⟨[], rfl⟩
  refine (Json.yields_assign hobject).bind fun annotations hannotations => ?_
  refine (Json.yields_assign hmetadata.isObject).bind fun metadata' hmetadata' => ?_
  refine (Json.yields_assign (Json.isObject_of_assign hpod₁)).mono fun pod' hpod' => ?_
  refine ⟨⟨spec', ?_, hspec.assign hspec' (by decide)⟩, Json.given_assign hpod' ⟨?_, ?_, ?_⟩⟩
  · rw [Json.get?_assign hpod', if_neg (by decide), Json.get?_assign hpod₁, if_pos rfl]
  · exact Json.isObject_of_assign hmetadata'
  · exact hmetadata.labels.assign hmetadata' (by decide)
  · exact Json.given_assign hmetadata' (.inr (Json.isObject_of_assign hannotations))

/-! ### The init container -/

namespace InitContainer

/-- All mounts of the containers with a name have names themselves. -/
def MountsNamed (name : String) (pod : Json) : Prop :=
  ∀ container ∈ listed pod "containers", container.get? "name" = some (.str name) →
    ∃ volumes, MountsOnly volumes container

variable {pod spec : Json} {name : String}

theorem yields_commaList {items : List Json} (h : ∀ item ∈ items, IsText item) :
    Yields (commaList items) fun _ => True := by
  refine (yields_mapM (P := fun _ => True) ?_).bind fun _ _ => yields_ok trivial
  rintro ⟨item, i⟩ hitem
  obtain ⟨text, rfl⟩ := h item (List.fst_mem_of_mem_zipIdx hitem)
  exact yields_ok trivial

/-- The images of a well-typed pod are all texts. -/
theorem yields_images (h : WellTyped pod) : Yields (images pod) fun _ => True := by
  refine (Pod.yields_spec h).bind fun spec hspec => ?_
  refine (Pod.yields_specItems hspec.isObject hspec.containers).bind fun containers hcontainers => ?_
  refine (yields_mapM (P := IsText) fun container hcontainer => ?_).bind fun _ himages =>
    yields_commaList himages
  have htyped := hcontainers container hcontainer
  exact Json.yields_findD htyped.named.isObject htyped.image ⟨"", rfl⟩

theorem yields_firstOf {f : Json → Except Failure (Option Json)} {xs : List Json}
    (h : ∀ x ∈ xs, Yields (f x) fun _ => True) : Yields (firstOf f xs) fun _ => True := by
  induction xs with
  | nil => exact yields_ok trivial
  | cons x xs ih =>
    refine (h x (.head _)).bind fun found _ => ?_
    cases found with
    | some y => exact yields_ok trivial
    | none => exact ih fun x hx => h x (.tail _ hx)

theorem yields_sharedMount {mount value : Json} (h : Pod.MountTyped mount)
    (hname : mount.get? "name" = some value) : Yields (sharedMount mount) fun _ => True := by
  refine (Json.yields_findD h.isObject h.path (.inl rfl)).bind fun path _ => ?_
  split
  · split
    · exact (Json.yields_entry hname).bind fun _ _ => yields_ok trivial
    · exact yields_ok trivial
  · exact yields_ok trivial

theorem yields_mountOf {container : Json} (h : ContainerTyped container)
    (hmounts : container.get? "name" = some (.str name) → ∃ volumes, MountsOnly volumes container) :
    Yields (mountOf name container) fun _ => True := by
  obtain ⟨own, hown⟩ := h.named
  refine (Json.yields_entry hown).bind ?_
  rintro _ rfl
  dsimp only
  split
  next heq =>
    -- only here mounts are read, so that those of other containers need no names
    subst heq
    obtain ⟨volumes, honly⟩ := hmounts hown
    rw [← bind_assoc]
    refine (Json.yields_items h.named.isObject h.mounts).bind ?_
    rintro _ ⟨rfl, hmounts⟩
    refine yields_firstOf fun mount hmount => ?_
    obtain ⟨volume, -, hname⟩ := honly mount hmount
    exact yields_sharedMount (hmounts mount hmount) hname
  next => exact yields_ok trivial

/-- The mount that is shared with the first sidecar is found, if the mounts of that have names. -/
theorem yields_confMount {sidecars : List String} (hpod : pod.get? "spec" = some spec)
    (h : SpecTyped spec) (hfirst : ∀ name ∈ sidecars.head?, MountsNamed name pod) :
    Yields (confMount sidecars spec) fun _ => True := by
  cases sidecars with
  | nil => exact yields_ok trivial
  | cons name rest =>
    refine (Json.yields_items h.isObject h.containers).bind ?_
    rintro _ ⟨rfl, hcontainers⟩
    refine yields_firstOf fun container hcontainer => ?_
    refine yields_mountOf (hcontainers container hcontainer) (hfirst name rfl container ?_)
    rwa [Pod.listed_of_get? hpod]

/-- **The init container** is put into a well-typed pod without fail, if the first sidecar mounts
nothing without a name. -/
theorem yields_inject {incoming : Json} (c : Config) (s : PodSummary) (hincoming : WellTyped incoming)
    (h : WellTyped pod) (hfirst : ∀ name ∈ s.sidecars.head?, MountsNamed name pod) :
    Yields (inject c s incoming pod) fun _ => True := by
  refine (yields_images hincoming).bind fun images _ => ?_
  obtain ⟨_, hspec, htyped⟩ := h.spec
  refine (Json.yields_entry hspec).bind ?_
  rintro spec rfl
  have hadd : Yields (addTo c s images spec) fun _ => True := by
    refine (Pod.yields_containerNames htyped).bind fun taken _ => ?_
    refine (yields_confMount hspec htyped hfirst).bind fun mount _ => ?_
    refine (Pod.yields_specItems htyped.isObject htyped.inits).bind fun others _ => ?_
    exact (Json.yields_assign htyped.isObject).mono fun _ _ => trivial
  refine hadd.bind fun spec' _ => ?_
  exact (Json.yields_assign h.isObject).mono fun _ _ => trivial

/-! ### Sidecars and their mounts -/

/-- Whatever a sidecar mounts has a name. -/
theorem exists_mountsOnly_container (s : Sidecar) : ∃ volumes, MountsOnly volumes s.container := by
  refine ⟨s.mounts.filterMap (·.get? "name"), fun mount hmount => ?_⟩
  have hmem : mount ∈ s.mounts := hmount
  obtain ⟨name, hname⟩ : ∃ name, mount.get? "name" = some name := by
    obtain hmount | hmount := List.mem_append.mp hmem
    · obtain ⟨m, -, rfl⟩ := List.mem_map.mp hmount
      exact ⟨.str m.name, rfl⟩
    · obtain ⟨m, -, rfl⟩ := Option.map_eq_some_iff.mp (Option.mem_toList.mp hmount)
      exact ⟨m.name, rfl⟩
  exact ⟨name, List.mem_filterMap.mpr ⟨mount, hmem, hname⟩, hname⟩

variable {s : Sidecar} {pod' : Json}

/-- With one more sidecar, mounts have names still. -/
theorem MountsNamed.injected (h : MountsNamed name pod) (hinjected : Pod.Injected s pod pod') :
    MountsNamed name pod' := by
  obtain ⟨containers, hpropagated, hlisted⟩ := hinjected.containers
  intro container hcontainer hname
  rw [hlisted] at hcontainer
  obtain rfl | hcontainer := List.mem_cons.mp hcontainer
  · exact exists_mountsOnly_container s
  · obtain ⟨old, hold, hsame⟩ := exists_match hpropagated.flip hcontainer
    obtain ⟨volumes, honly⟩ := h old hold (hsame.name_eq.symm.trans hname)
    exact ⟨volumes, honly.propagated hsame⟩

/-- If there is no container with its name, the mounts of a sidecar have names. -/
theorem mountsNamed_of_injected {c : Config} {p : Pair} (hfits : s.Fits c p pod)
    (hinjected : Pod.Injected s pod pod') : MountsNamed s.name pod' := by
  have hnone : MountsNamed s.name pod := fun container hcontainer hname =>
    absurd (List.mem_append_left _ (Pod.mem_namesOf.mpr ⟨container, hcontainer, hname⟩))
      hfits.name_free
  exact hnone.injected hinjected

end InitContainer

end SubpathCsi
