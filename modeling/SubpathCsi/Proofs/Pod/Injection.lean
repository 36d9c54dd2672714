import SubpathCsi.Proofs.Pod.Filling

/-!
# What a sidecar leaves of a pod

When a sidecar is put into a pod, its container comes first and its volumes come last. Of what was
there, the containers only see more of their mounts, and the volumes of the claim are emptied under
their own names.

* `Propagated`: a container, but for what it sees of its mounts;
* `Pod.Injected`: what an injection alters in a pod, and what it leaves;
* `Pod.Filled`, `Pod.filled_of_inject`: what it makes of the lists of a pod.
-/

namespace SubpathCsi

/-! ### Containers -/

/-- The container `b` is the container `a`, but for what it sees of its mounts. -/
structure Propagated (a b : Json) : Prop where
  /-- Only mounts are altered. -/
  altered : Json.Altered ["volumeMounts"] a b
  /-- Of a mount, only its propagation is altered. -/
  mounts : List.Forall₂ (Json.Altered ["mountPropagation"]) (a.listAt "volumeMounts")
    (b.listAt "volumeMounts")

namespace Propagated

theorem refl (a : Json) : Propagated a a :=
  ⟨.refl _ a, List.forall₂_same.mpr fun m _ => .refl _ m⟩

theorem trans {a b d : Json} (h : Propagated a b) (h' : Propagated b d) : Propagated a d :=
  ⟨h.altered.trans h'.altered, trans_match (fun _ _ _ hm hn => hm.trans hn) h.mounts h'.mounts⟩

theorem name_eq {a b : Json} (h : Propagated a b) : b.get? "name" = a.get? "name" :=
  h.altered.get?_eq _ (by decide)

/-- What a container sees of the volumes that are filled makes no other difference. -/
theorem seeingIn (names : List Json) (container : Json) :
    Propagated container (Pod.seeingIn names container) := by
  refine ⟨Pod.altered_seeingIn names container, ?_⟩
  rw [Pod.listAt_seeingIn, List.forall₂_map_right_iff]
  exact List.forall₂_same.mpr fun mount _ => Pod.altered_seeing names mount

/-- Containers keep their names. -/
theorem names_eq {as bs : List Json} (h : List.Forall₂ Propagated as bs) :
    bs.map (·.get? "name") = as.map (·.get? "name") := by
  induction h with
  | nil => rfl
  | cons hab _ ih => rw [List.map_cons, List.map_cons, ih, hab.name_eq]

end Propagated

namespace Pod

variable {pod pod' spec spec' : Json} {key : String}

/-! ### The parts of an injection -/

/-- Metadata that tells that a pod has its sidecars. -/
structure Labelled (metadata metadata' : Json) : Prop where
  /-- Nothing else is altered. -/
  altered : Json.Altered ["labels", "annotations"] metadata metadata'
  /-- The label is set, among others. -/
  labels : ∃ labels, metadata'.get? "labels" = some labels ∧
    labels.get? doneLabel = some (.str trueText) ∧
    ((∀ old, metadata.get? "labels" = some old → old.Distinct) → labels.Distinct)

/-- Once the label is set, it stays set. -/
theorem Labelled.trans {a b d : Json} (h : Labelled a b) (h' : Labelled b d) : Labelled a d := by
  obtain ⟨labels, hlabels, -, hdistinct⟩ := h.labels
  obtain ⟨labels', hlabels', hdone, hdistinct'⟩ := h'.labels
  refine ⟨h.altered.trans h'.altered, labels', hlabels', hdone, fun hold => hdistinct' ?_⟩
  intro old hget
  rw [hlabels] at hget
  cases hget
  exact hdistinct hold

/-- The label of a pod that has its sidecars is set. -/
theorem labelled_of_mergeLabels {labels : Keyed String} {metadata metadata' : Json}
    (h : mergeLabels labels metadata = .ok metadata') : Labelled metadata metadata' := by
  obtain ⟨value, hvalue, h⟩ := bind_eq_ok.mp h
  obtain ⟨old, hold, h⟩ := bind_eq_ok.mp h
  refine ⟨(Json.altered_assign h).mono (by simp), _, (Json.get?_assign h _).trans (if_pos rfl),
    ?_, fun hdistinct => ?_⟩
  · change Keyed.get? (Keyed.merge old _) doneLabel = _
    -- the label is the last of all texts, so that it wins
    rw [Keyed.get?_merge, List.map_append, List.reverse_append]
    rfl
  · rintro _ ⟨⟩
    refine Keyed.nodup_merge ?_ _
    obtain ⟨-, rfl⟩ := Json.findD_eq_ok.mp hvalue
    unfold Json.membersFor at hold
    split at hold
    · cases hold
      exact List.nodup_nil
    · split at hold
      next hms =>
        cases hold
        cases hlabels : metadata.get? "labels" with
        | none =>
          rw [hlabels] at hms
          cases hms
        | some labels =>
          rw [hlabels] at hms
          exact hdistinct labels hlabels old hms
      next => cases hold

theorem mergeAnnotations_eq_ok {annotations : Keyed String} {metadata metadata' : Json}
    (h : mergeAnnotations annotations metadata = .ok metadata') :
    Json.Altered ["annotations"] metadata metadata' := by
  rw [mergeAnnotations] at h
  split at h
  · cases h
    exact .refl _ metadata
  · obtain ⟨value, -, h⟩ := bind_eq_ok.mp h
    obtain ⟨old, -, h⟩ := bind_eq_ok.mp h
    exact Json.altered_assign h

theorem adoptServiceAccount_eq_ok {name : String} (h : adoptServiceAccount name spec = .ok spec') :
    Json.Altered ["serviceAccountName"] spec spec' := by
  obtain ⟨own, -, h⟩ := bind_eq_ok.mp h
  split at h
  · cases h
    exact .refl _ spec
  · exact Json.altered_assign h

/-- A container comes before the others. -/
theorem addContainer_eq_ok {container : Json} (h : addContainer container spec = .ok spec')
    (hlists : Lists spec "containers") :
    Json.Altered ["containers"] spec spec' ∧
      spec'.listAt "containers" = container :: spec.listAt "containers" := by
  obtain ⟨containers, hcontainers, h⟩ := bind_eq_ok.mp h
  refine ⟨Json.altered_assign h, ?_⟩
  rw [Json.listAt_assign h, hlists containers hcontainers]

/-! ### The whole injection -/

/-- What the injection of a sidecar does to a pod. -/
structure Injected (s : Sidecar) (pod pod' : Json) : Prop where
  /-- Nothing is altered but the specification and the metadata. -/
  altered : Json.Altered ["spec", "metadata"] pod pod'
  /-- Of the specification, only these members are altered. -/
  spec : ∃ spec spec', pod.get? "spec" = some spec ∧ pod'.get? "spec" = some spec' ∧
    Json.Altered ["volumes", "containers", "serviceAccountName", "imagePullSecrets"] spec spec'
  /-- The sidecar comes before the containers, which are the same but for what they see. -/
  containers : ∃ containers, List.Forall₂ Propagated (listed pod "containers") containers ∧
    listed pod' "containers" = s.container :: containers
  /-- The volumes of the sidecar come after the volumes, which have their names still. -/
  volumes : ∃ volumes, volumes.map (·.get? "name") = (listed pod "volumes").map (·.get? "name") ∧
    listed pod' "volumes" = volumes ++ s.volumes.map PodVolume.toJson
  /-- The metadata tell of it. -/
  metadata : ∃ metadata', pod'.get? "metadata" = some metadata' ∧
    Labelled ((pod.get? "metadata").getD (.obj [])) metadata'

/-- What becomes of the lists of a pod when a sidecar is put into it for a claim, with secrets to
pull images with. -/
structure Filled (secrets : List String) (claim : String) (s : Sidecar) (pod pod' : Json) : Prop
    extends Injected s pod pod' where
  /-- The containers see what is mounted into the volumes of the claim. -/
  containers_eq : listed pod' "containers" = s.container ::
    (listed pod "containers").map (seeingIn (namesFor [claim] (listed pod "volumes")))
  /-- The volumes of the claim are filled. -/
  volumes_eq : listed pod' "volumes" =
    (listed pod "volumes").map (fill [claim]) ++ s.volumes.map PodVolume.toJson
  /-- The secrets that are missing are added. -/
  secrets_eq : listed pod' "imagePullSecrets" = listed pod "imagePullSecrets" ++
    (missing secrets (textNames (listed pod "imagePullSecrets"))).map pullSecret

/-- Annotations are no labels. -/
theorem Labelled.annotated {a b d : Json} (h : Labelled a b)
    (haltered : Json.Altered ["annotations"] b d) : Labelled a d := by
  obtain ⟨labels, hlabels, hdone, hdistinct⟩ := h.labels
  exact ⟨h.altered.trans (haltered.mono (by simp)), labels,
    (haltered.get?_eq _ (by decide)).trans hlabels, hdone, hdistinct⟩

/-- A specification that is changed in a row. -/
theorem onSpec_eq_ok_of_get? {f : Json → Except Failure Json} (h : onSpec pod f = .ok pod')
    (hspec : pod.get? "spec" = some spec) :
    ∃ spec', f spec = .ok spec' ∧ pod'.get? "spec" = some spec' ∧
      Json.Altered ["spec"] pod pod' := by
  obtain ⟨_, spec', hother, hf, hspec', haltered⟩ := onSpec_eq_ok h
  rw [hspec] at hother
  cases hother
  exact ⟨spec', hf, hspec', haltered⟩

/-- Only the metadata are altered, and they tell that a pod has its sidecars. -/
structure Told (pod pod' : Json) : Prop where
  /-- Only the metadata are altered. -/
  altered : Json.Altered ["metadata"] pod pod'
  /-- They tell of the sidecars. -/
  metadata : ∃ metadata', pod'.get? "metadata" = some metadata' ∧
    Labelled ((pod.get? "metadata").getD (.obj [])) metadata'

theorem told_of_mergeLabels {labels : Keyed String}
    (h : onMetadata pod (mergeLabels labels) = .ok pod') : Told pod pod' := by
  obtain ⟨metadata', hmerge, hmetadata', haltered⟩ := onMetadata_eq_ok h
  exact ⟨haltered, metadata', hmetadata', labelled_of_mergeLabels hmerge⟩

theorem Told.mergeAnnotations {annotations : Keyed String} {pod'' : Json} (h : Told pod pod')
    (hmerge : onMetadata pod' (Pod.mergeAnnotations annotations) = .ok pod'') : Told pod pod'' := by
  obtain ⟨metadata', hmetadata', hlabelled⟩ := h.metadata
  obtain ⟨metadata'', hannotate, hmetadata'', haltered⟩ := onMetadata_eq_ok hmerge
  rw [hmetadata', Option.getD_some] at hannotate
  exact ⟨h.altered.trans haltered, metadata'', hmetadata'',
    hlabelled.annotated (mergeAnnotations_eq_ok hannotate)⟩

/-- An account, a container and secrets are added to the specification. -/
theorem added_of_inject {account : String} {container : Json} {secrets : List String}
    (h : (do
      let pod ← onSpec pod (adoptServiceAccount account)
      let pod ← onSpec pod (addContainer container)
      onSpec pod (addPullSecrets secrets)) = .ok pod')
    (hspec : pod.get? "spec" = some spec) (hlists : Lists spec "containers") :
    Json.Altered ["spec"] pod pod' ∧ ∃ spec', pod'.get? "spec" = some spec' ∧
      Json.Altered ["containers", "serviceAccountName", "imagePullSecrets"] spec spec' ∧
      spec'.listAt "containers" = container :: spec.listAt "containers" ∧
      spec'.listAt "imagePullSecrets" = spec.listAt "imagePullSecrets" ++
        (missing secrets (textNames (spec.listAt "imagePullSecrets"))).map pullSecret := by
  obtain ⟨pod₁, h₁, h⟩ := bind_eq_ok.mp h
  obtain ⟨pod₂, h₂, h₃⟩ := bind_eq_ok.mp h
  obtain ⟨spec₁, hadopt, hspec₁, haltered₁⟩ := onSpec_eq_ok_of_get? h₁ hspec
  obtain ⟨spec₂, hadd, hspec₂, haltered₂⟩ := onSpec_eq_ok_of_get? h₂ hspec₁
  obtain ⟨spec₃, hsecrets, hspec₃, haltered₃⟩ := onSpec_eq_ok_of_get? h₃ hspec₂
  have hadopted := adoptServiceAccount_eq_ok hadopt
  have hlists₁ : Lists spec₁ "containers" := by
    refine hlists.congr (hadopted.get?_eq _ (by decide)) ?_
    obtain ⟨own, hown, -⟩ := bind_eq_ok.mp hadopt
    exact (Json.findD_eq_ok.mp hown).1
  obtain ⟨hadded, hcontainers⟩ := addContainer_eq_ok hadd hlists₁
  obtain ⟨hpulled, hlisted⟩ := addPullSecrets_eq_ok hsecrets
  have hold : spec₂.listAt "imagePullSecrets" = spec.listAt "imagePullSecrets" :=
    (hadded.listAt_eq (by decide)).trans (hadopted.listAt_eq (by decide))
  refine ⟨(haltered₁.trans haltered₂).trans haltered₃, spec₃, hspec₃, ?_, ?_, ?_⟩
  · exact ((hadopted.mono (by simp)).trans (hadded.mono (by simp))).trans (hpulled.mono (by simp))
  · rw [hpulled.listAt_eq (by decide), hcontainers, hadopted.listAt_eq (by decide)]
  · rw [hlisted, hold]

/-- **Injection.** A sidecar that is put into a pod does this to it, and no more. -/
theorem filled_of_inject {c : Config} {claim : String} {s : Sidecar}
    (h : inject c claim s pod = .ok pod')
    (hlists : ∀ spec, pod.get? "spec" = some spec → Lists spec "containers") :
    Filled c.imagePullSecrets claim s pod pod' := by
  obtain ⟨pod₁, h₁, h⟩ := bind_eq_ok.mp h
  obtain ⟨pod₂, h₂, h⟩ := bind_eq_ok.mp h
  obtain ⟨spec, spec₁, hspec, hfill, hspec₁, haltered₁⟩ := onSpec_eq_ok h₁
  obtain ⟨hfilled, hlists₁, hseeing, hvolumes, hnames⟩ :=
    fillVolumes_eq_ok hfill (hlists spec hspec)
  obtain ⟨pod₃, htold, h⟩ : ∃ pod₃, Told pod₁ pod₃ ∧ (do
      let pod ← onSpec pod₃ (adoptServiceAccount s.serviceAccountName)
      let pod ← onSpec pod (addContainer s.container)
      onSpec pod (addPullSecrets c.imagePullSecrets)) = .ok pod' := by
    dsimp only at h
    split at h
    · exact ⟨pod₂, told_of_mergeLabels h₂, h⟩
    · obtain ⟨pod₃, h₃, h⟩ := bind_eq_ok.mp h
      exact ⟨pod₃, (told_of_mergeLabels h₂).mergeAnnotations h₃, h⟩
  have hspec₃ : pod₃.get? "spec" = some spec₁ :=
    (htold.altered.get?_eq _ (by decide)).trans hspec₁
  obtain ⟨haltered₃, spec', hspec', hadded, hcontainers, hsecrets⟩ :=
    added_of_inject h hspec₃ hlists₁
  obtain ⟨metadata, hmetadata, hlabelled⟩ := htold.metadata
  have hpod : ∀ key, listed pod key = spec.listAt key := fun key => listed_of_get? hspec
  have hpod' : ∀ key, listed pod' key = spec'.listAt key := fun key => listed_of_get? hspec'
  have hvolumes' : spec'.listAt "volumes" = spec₁.listAt "volumes" :=
    hadded.listAt_eq (by decide)
  have hpropagated :
      List.Forall₂ Propagated (spec.listAt "containers") (spec₁.listAt "containers") := by
    rw [hseeing, List.forall₂_map_right_iff]
    exact List.forall₂_same.mpr fun container _ => .seeingIn _ container
  refine ⟨⟨?_, ⟨spec, spec', hspec, hspec', ?_⟩, ⟨spec₁.listAt "containers", ?_, ?_⟩,
    ⟨(spec.listAt "volumes").map (fill [claim]), ?_, ?_⟩, ⟨metadata, ?_, ?_⟩⟩, ?_, ?_, ?_⟩
  · exact ((haltered₁.mono (by simp)).trans (htold.altered.mono (by simp))).trans
      (haltered₃.mono (by simp))
  · exact (hfilled.mono (by simp)).trans (hadded.mono (by simp))
  · rwa [hpod]
  · rw [hpod', hcontainers]
  · rwa [hpod]
  · rw [hpod', hvolumes', hvolumes]
  · rw [haltered₃.get?_eq _ (by decide), hmetadata]
  · rwa [haltered₁.get?_eq _ (by decide)] at hlabelled
  · rw [hpod', hpod, hpod, hcontainers, hseeing]
  · rw [hpod', hpod, hvolumes', hvolumes]
  · rw [hpod', hpod, hsecrets, hfilled.listAt_eq (by decide)]

end Pod

end SubpathCsi
