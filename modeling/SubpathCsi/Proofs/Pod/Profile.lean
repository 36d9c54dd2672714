import SubpathCsi.Proofs.Pod.Runtime
import SubpathCsi.Proofs.Pod.Workload
import SubpathCsi.Proofs.Yaml.Node

/-!
# Labels, annotations and the account of a pod

Each sidecar that is put into a pod brings labels, annotations and perhaps a service account. Labels
and annotations override those that are there, so that the last pair wins. An account does not: the
pod wins, and then the first pair. With each sidecar the pod is labelled as one that has its
sidecars, whatever the labels of volumes say; the annotation of the trust domain comes last of all.

* `Pod.Profile`, `Pod.Extras`: what this is about in a pod, and what a sidecar brings to it;
* `Pod.profile_of_inject`: one sidecar is put into a pod;
* `Pod.Profile.get?_labels_foldl`, `Pod.Profile.annotations_foldl`, `Pod.Profile.account_foldl`: what
  becomes of a profile with many of them;
* `Pair.Brings`, `Pair.brings_of_prepare`: what a pair brings, by its volume and the configuration;
* `Mutation.Profiled`, `Mutation.profiled_of_run`: what becomes of it in a run.
-/

namespace SubpathCsi

/-- The members of the object under a key; none if there is no object. -/
def Json.membersAt (j : Json) (key : String) : Keyed Json := ((j.get? key).bind members?).getD []

theorem Json.membersAt_eq (j : Json) (key : String) :
    j.membersAt key = ((j.get? key).getD .null).members?.getD [] := by
  rw [membersAt]
  cases j.get? key <;> rfl

theorem Json.membersAt_assign {j j' : Json} {key : String} {ms : Keyed Json}
    (h : j.assign key (.obj ms) = .ok j') : j'.membersAt key = ms := by
  rw [membersAt, get?_assign h, if_pos rfl]
  rfl

/-- What is taken for the members of a value are those of an object, or there are none. -/
theorem Json.membersFor_eq_ok {j : Json} {use : String} {ms : Keyed Json}
    (h : j.membersFor use = .ok ms) : j.members?.getD [] = ms := by
  unfold membersFor at h
  cases j with
  | obj members =>
    cases members <;> cases h <;> rfl
  | null | bool | int | float | str | arr =>
    split at h
    · cases h
      rfl
    · cases h

/-- An object in the place of an absent value has no members. -/
theorem Json.members_of_isPresent {j : Json} {ms : Keyed Json}
    (h : (if j.isPresent then j else .obj []) = .obj ms) : j.members?.getD [] = ms := by
  cases j with
  | obj members => cases members <;> cases h <;> rfl
  | null | bool | int | float | str | arr =>
    split at h
    · cases h
    · cases h
      rfl

namespace Keyed

variable {α : Type} {m n : Keyed α} {key : String}

theorem isSome_get?_iff : (get? m key).isSome = true ↔ key ∈ keys m := by
  induction m with
  | nil => exact iff_of_false Bool.false_ne_true List.not_mem_nil
  | cons p m ih =>
    rw [get?_cons, keys, List.map_cons, List.mem_cons, eq_comm (a := key)]
    split
    · next hp => exact iff_of_true rfl (.inl hp)
    · next hp => rw [ih, or_iff_right hp, keys]

/-- An overridden list has the keys of both. -/
theorem mem_keys_merge : key ∈ keys (merge m n) ↔ key ∈ keys m ∨ key ∈ keys n := by
  rw [← isSome_get?_iff, get?_merge, Option.isSome_or, Bool.or_eq_true, isSome_get?_iff,
    isSome_get?_iff, or_comm, keys, keys, List.map_reverse, List.mem_reverse, keys]

/-- Lists in which the same is found have the same keys. -/
theorem mem_keys_congr (h : ∀ key, get? m key = get? n key) : key ∈ keys m ↔ key ∈ keys n := by
  rw [← isSome_get?_iff, h, isSome_get?_iff]

end Keyed

/-! ### Profiles -/

namespace Pod

/-- What the labels, the annotations and the account of a pod are. -/
@[ext]
structure Profile where
  /-- The labels. -/
  labels : Keyed Json
  /-- The annotations. -/
  annotations : Keyed Json
  /-- The service account, if the pod names one. -/
  account : Option Json

/-- The profile of a pod. A value in the place of the labels or of the annotations that is not an
object has none. -/
def profile (pod : Json) : Profile where
  labels := (pod.objectAt "metadata").membersAt "labels"
  annotations := (pod.objectAt "metadata").membersAt "annotations"
  account := (pod.objectAt "spec").get? "serviceAccountName"

/-- What a sidecar brings to the profile of a pod. -/
structure Extras where
  /-- Labels. -/
  labels : Keyed String
  /-- Annotations. -/
  annotations : Keyed String
  /-- A service account; the empty text for none. -/
  account : String

/-- Texts as values. -/
def texts (m : Keyed String) : Keyed Json := m.map fun p => (p.1, .str p.2)

namespace Profile

/-- The profile with what a sidecar brings. -/
def add (p : Profile) (e : Extras) : Profile where
  labels := Keyed.merge p.labels (texts (e.labels ++ [(doneLabel, trueText)]))
  annotations := Keyed.merge p.annotations (texts e.annotations)
  account :=
    if e.account.isEmpty || p.account.any Json.isPresent then p.account else some (.str e.account)

end Profile

end Pod

/-- What a sidecar brings. -/
def Sidecar.extras (s : Sidecar) : Pod.Extras := ⟨s.labels, s.annotations, s.serviceAccountName⟩

/-- What the sidecar of a mount brings. -/
def MountSettings.extras (s : MountSettings) : Pod.Extras :=
  ⟨s.mountPodLabels, s.podAnnotations, s.serviceAccountName⟩

/-! ### One sidecar -/

namespace Pod

variable {pod pod' spec spec' metadata metadata' : Json} {key : String}

/-- Texts are merged under one key. -/
theorem mergeTexts_eq_ok {m : Keyed String} {object object' : Json}
    (h : mergeTexts key m object = .ok object') :
    Json.Altered [key] object object' ∧
      object'.membersAt key = Keyed.merge (object.membersAt key) (texts m) := by
  obtain ⟨value, hvalue, h⟩ := bind_eq_ok.mp h
  obtain ⟨old, hold, hassign⟩ := bind_eq_ok.mp h
  obtain ⟨-, rfl⟩ := Json.findD_eq_ok.mp hvalue
  refine ⟨Json.altered_assign hassign, ?_⟩
  rw [Json.membersAt_assign hassign, Json.membersAt_eq, Json.membersFor_eq_ok hold]
  rfl

theorem mergeAnnotations_members {annotations : Keyed String}
    (h : mergeAnnotations annotations metadata = .ok metadata') :
    metadata'.membersAt "annotations" =
      Keyed.merge (metadata.membersAt "annotations") (texts annotations) := by
  rw [mergeAnnotations] at h
  split at h
  · next hnone =>
    cases h
    rw [List.isEmpty_iff.mp hnone]
    rfl
  · exact (mergeTexts_eq_ok h).2

/-- An account is adopted by a specification that has none. -/
theorem adoptServiceAccount_account {name : String}
    (h : adoptServiceAccount name spec = .ok spec') :
    spec'.get? "serviceAccountName" =
      if name.isEmpty || (spec.get? "serviceAccountName").any Json.isPresent then
        spec.get? "serviceAccountName" else some (.str name) := by
  obtain ⟨own, hown, h⟩ := bind_eq_ok.mp h
  obtain ⟨-, rfl⟩ := Json.findD_eq_ok.mp hown
  have hpresent : ((spec.get? "serviceAccountName").getD .null).isPresent =
      (spec.get? "serviceAccountName").any Json.isPresent := by
    cases spec.get? "serviceAccountName" <;> rfl
  rw [hpresent] at h
  split at h
  · next hkept =>
    cases h
    rw [if_pos hkept]
  · next hadopted => rw [if_neg hadopted, Json.get?_assign h, if_pos rfl]

/-- What is done to the specification leaves the metadata. -/
theorem objectAt_of_onSpec {f : Json → Except Failure Json} (h : onSpec pod f = .ok pod') :
    f (pod.objectAt "spec") = .ok (pod'.objectAt "spec") ∧
      pod'.objectAt "metadata" = pod.objectAt "metadata" := by
  obtain ⟨spec, spec', hspec, hf, hspec', haltered⟩ := onSpec_eq_ok h
  rw [Json.objectAt, Json.objectAt, Json.objectAt, Json.objectAt, hspec, hspec',
    haltered.get?_eq _ (by decide)]
  exact ⟨hf, rfl⟩

/-- What is done to the metadata leaves the specification. -/
theorem objectAt_of_onMetadata {f : Json → Except Failure Json} (h : onMetadata pod f = .ok pod') :
    f (pod.objectAt "metadata") = .ok (pod'.objectAt "metadata") ∧
      pod'.objectAt "spec" = pod.objectAt "spec" := by
  obtain ⟨metadata, hf, hmetadata, haltered⟩ := onMetadata_eq_ok h
  rw [Json.objectAt, Json.objectAt, Json.objectAt, Json.objectAt, hmetadata,
    haltered.get?_eq _ (by decide)]
  exact ⟨hf, rfl⟩

/-- Annotations are merged after the labels, if there are any. -/
theorem annotated_of_inject {annotations : Keyed String} {rest : Json → Except Failure Json}
    (h : (do
      let pod ← if annotations.isEmpty then pure pod
        else onMetadata pod (mergeAnnotations annotations)
      rest pod) = .ok pod') :
    ∃ pod₁, pod₁.objectAt "spec" = pod.objectAt "spec" ∧
      (pod₁.objectAt "metadata").membersAt "labels" =
        (pod.objectAt "metadata").membersAt "labels" ∧
      (pod₁.objectAt "metadata").membersAt "annotations" =
        Keyed.merge ((pod.objectAt "metadata").membersAt "annotations") (texts annotations) ∧
      rest pod₁ = .ok pod' := by
  dsimp only at h
  split at h
  · next hnone =>
    rw [List.isEmpty_iff.mp hnone]
    exact ⟨pod, rfl, rfl, rfl, h⟩
  · obtain ⟨pod₁, h₁, h⟩ := bind_eq_ok.mp h
    obtain ⟨hmerge, hspec⟩ := objectAt_of_onMetadata h₁
    refine ⟨pod₁, hspec, ?_, mergeAnnotations_members hmerge, h⟩
    rw [Json.membersAt, Json.membersAt, (mergeAnnotations_eq_ok hmerge).get?_eq _ (by decide)]

/-- **One sidecar** is put into a pod. -/
theorem profile_of_inject {c : Config} {claim : String} {s : Sidecar}
    (h : inject c claim s pod = .ok pod')
    (hlists : ∀ spec, pod.get? "spec" = some spec → Lists spec "containers") :
    profile pod' = (profile pod).add s.extras := by
  obtain ⟨pod₁, h₁, h⟩ := bind_eq_ok.mp h
  obtain ⟨pod₂, h₂, h⟩ := bind_eq_ok.mp h
  obtain ⟨pod₃, hspec₃, hlabels₃, hannotations₃, h⟩ := annotated_of_inject h
  obtain ⟨pod₄, h₄, h⟩ := bind_eq_ok.mp h
  obtain ⟨pod₅, h₅, h₆⟩ := bind_eq_ok.mp h
  obtain ⟨hfill, hmetadata₁⟩ := objectAt_of_onSpec h₁
  obtain ⟨hlabel, hspec₂⟩ := objectAt_of_onMetadata h₂
  obtain ⟨hadopt, hmetadata₄⟩ := objectAt_of_onSpec h₄
  obtain ⟨hcontainer, hmetadata₅⟩ := objectAt_of_onSpec h₅
  obtain ⟨hsecrets, hmetadata₆⟩ := objectAt_of_onSpec h₆
  -- of the metadata, two steps alter what they are about and leave the rest
  obtain ⟨hlabelled, hlabels₂⟩ := mergeTexts_eq_ok hlabel
  have hannotations₂ : (pod₂.objectAt "metadata").membersAt "annotations" =
      (pod₁.objectAt "metadata").membersAt "annotations" := by
    rw [Json.membersAt, Json.membersAt, hlabelled.get?_eq _ (by decide)]
  have hmetadata : pod'.objectAt "metadata" = pod₃.objectAt "metadata" :=
    (hmetadata₆.trans hmetadata₅).trans hmetadata₄
  -- of the specification, one
  have hlists : Lists (pod.objectAt "spec") "containers" := by
    obtain ⟨spec, -, hspec, -⟩ := onSpec_eq_ok h₁
    rw [Json.objectAt, hspec]
    exact hlists spec hspec
  obtain ⟨hfilled, -⟩ := fillVolumes_eq_ok hfill hlists
  obtain ⟨containers, -, hassign⟩ := bind_eq_ok.mp hcontainer
  have haccount : (pod'.objectAt "spec").get? "serviceAccountName" =
      (pod₄.objectAt "spec").get? "serviceAccountName" :=
    ((addPullSecrets_eq_ok hsecrets).1.get?_eq _ (by decide)).trans
      ((Json.altered_assign hassign).get?_eq _ (by decide))
  refine Profile.ext ?_ ?_ ?_
  · rw [profile, hmetadata, hlabels₃, hlabels₂, hmetadata₁]
    rfl
  · rw [profile, hmetadata, hannotations₃, hannotations₂, hmetadata₁]
    rfl
  · rw [profile, haccount, adoptServiceAccount_account hadopt, hspec₃, hspec₂,
      hfilled.get?_eq _ (by decide)]
    rfl

/-! ### Many sidecars -/

/-- A keyed list, overridden by texts of many, and by some at last. -/
def overridden (base : Keyed Json) (own : List (Keyed String)) (last : Keyed String) : Keyed Json :=
  Keyed.merge base (texts (own.flatten ++ last))

theorem merge_texts_append (base : Keyed Json) (m n : Keyed String) :
    Keyed.merge base (texts (m ++ n)) = Keyed.merge (Keyed.merge base (texts m)) (texts n) := by
  rw [texts, List.map_append, Keyed.merge, List.foldl_append]
  rfl

/-- What is written last under another key makes no difference. -/
theorem get?_merge_put {base m : Keyed Json} {x : Json} {last : String} (h : key ≠ last) :
    Keyed.get? (Keyed.merge (Keyed.put base last x) m) key = Keyed.get? (Keyed.merge base m) key := by
  rw [Keyed.get?_merge, Keyed.get?_merge, Keyed.get?_put, if_neg h.symm]

/-- The one text that is written last is found. -/
theorem get?_overridden_last (base : Keyed Json) (own : List (Keyed String)) (key text : String) :
    Keyed.get? (overridden base own [(key, text)]) key = some (.str text) := by
  rw [overridden, merge_texts_append]
  exact (Keyed.get?_put _ _ _ _).trans (if_pos rfl)

/-- **No key is lost**, and none comes from elsewhere. -/
theorem mem_keys_overridden {base : Keyed Json} {own : List (Keyed String)} {last : Keyed String} :
    key ∈ Keyed.keys (overridden base own last) ↔
      key ∈ Keyed.keys base ∨ (∃ m ∈ own, key ∈ Keyed.keys m) ∨ key ∈ Keyed.keys last := by
  have htexts : Keyed.keys (texts (own.flatten ++ last)) = Keyed.keys (own.flatten ++ last) := by
    rw [Keyed.keys, texts, List.map_map]
    rfl
  have hown : key ∈ Keyed.keys own.flatten ↔ ∃ m ∈ own, key ∈ Keyed.keys m := by
    rw [Keyed.keys, List.map_flatten, List.mem_flatten]
    simp [Keyed.keys]
  rw [overridden, Keyed.mem_keys_merge, htexts, ← hown]
  simp [Keyed.keys]

namespace Profile

variable {p : Profile} {extras : List Extras}

theorem get?_labels_doneLabel (hne : extras ≠ []) :
    Keyed.get? (extras.foldl add p).labels doneLabel = some (.str trueText) := by
  rw [← List.dropLast_append_getLast hne, List.foldl_append]
  -- the last one has written it after its own labels
  change Keyed.get? (Keyed.merge _ (texts (_ ++ [(doneLabel, trueText)]))) _ = _
  rw [merge_texts_append]
  exact (Keyed.get?_put _ _ _ _).trans (if_pos rfl)

theorem get?_labels_of_ne (hkey : key ≠ doneLabel) :
    Keyed.get? (extras.foldl add p).labels key =
      Keyed.get? (overridden p.labels (extras.map Extras.labels) []) key := by
  induction extras generalizing p with
  | nil => rfl
  | cons e extras ih =>
    rw [List.foldl_cons, ih]
    simp only [overridden, List.append_nil, List.map_cons, List.flatten_cons, merge_texts_append,
      add]
    exact get?_merge_put hkey

/-- Labels: those that come later win, and last of all the label of a pod with sidecars. -/
theorem get?_labels_foldl (extras : List Extras) (p : Profile) (key : String) :
    Keyed.get? (extras.foldl add p).labels key =
      Keyed.get? (overridden p.labels (extras.map Extras.labels)
        (if extras = [] then [] else [(doneLabel, trueText)])) key := by
  by_cases hne : extras = []
  · subst hne
    rfl
  rw [if_neg hne]
  by_cases hkey : key = doneLabel
  · rw [hkey, get?_labels_doneLabel hne, get?_overridden_last]
  · rw [get?_labels_of_ne hkey, overridden, overridden, List.append_nil, merge_texts_append]
    exact (get?_merge_put (m := []) hkey).symm

/-- Annotations: those that come later win. -/
theorem annotations_foldl (extras : List Extras) (p : Profile) :
    (extras.foldl add p).annotations =
      overridden p.annotations (extras.map Extras.annotations) [] := by
  induction extras generalizing p with
  | nil => rfl
  | cons e extras ih =>
    rw [List.foldl_cons, ih]
    simp only [overridden, List.append_nil, List.map_cons, List.flatten_cons, merge_texts_append,
      add]

/-- The account: that of the pod wins, then the first one. -/
theorem account_foldl (extras : List Extras) (p : Profile) :
    (extras.foldl add p).account =
      if p.account.any Json.isPresent then p.account
      else ((extras.map Extras.account).find? fun name => !name.isEmpty).elim p.account
        fun name => some (.str name) := by
  induction extras generalizing p with
  | nil => exact (ite_self _).symm
  | cons e extras ih =>
    rw [List.foldl_cons, ih, add, List.map_cons, List.find?_cons]
    cases hown : p.account.any Json.isPresent with
    | true =>
      rw [Bool.or_true, if_pos rfl, hown]
      rfl
    | false =>
      cases hname : e.account.isEmpty with
      | true =>
        rw [Bool.or_false, if_pos rfl, hown]
        rfl
      | false =>
        have hpresent : (Option.any Json.isPresent (some (Json.str e.account))) = true := by
          rw [Option.any_some, Json.isPresent, hname]
          rfl
        rw [Bool.or_false, if_neg Bool.false_ne_true, hpresent]
        rfl

end Profile

end Pod

/-! ### What a pair brings -/

/-- The attribute of a pair's volume; the empty text if there is none. -/
def Pair.attributeAt (p : Pair) (key : String) : String :=
  textAt ((p.volume.csi.map (·.attributes)).getD []) key

/-- The text, as a value under a key, if it is not empty. -/
def entryOf (key text : String) : Keyed String := if text = "" then [] else [(key, text)]

/-- What a pair brings to the profile of its pod. -/
structure Pair.Brings (c : Config) (p : Pair) (e : Pod.Extras) : Prop where
  /-- The labels of the configuration are overridden by those of the volume. -/
  labels : ∃ shared own, TextMap.parse c.mountLabels = .ok shared ∧
    TextMap.parse (p.attributeAt Attribute.labels) = .ok own ∧ e.labels = Keyed.merge shared own
  /-- The annotations of the volume are overridden by its delay, and by the removal of its cache. -/
  annotations : ∃ own, TextMap.parse (p.attributeAt Attribute.annotations) = .ok own ∧
    e.annotations = Keyed.merge own
      (entryOf deleteDelayKey (p.attributeAt Attribute.deleteDelay) ++
        if p.attributeAt Attribute.cleanCache = trueText then [(cleanCacheKey, trueText)]
        else [])
  /-- The account is that of the volume. -/
  account : e.account = p.attributeAt Attribute.serviceAccount

/-- An empty text holds the empty map. -/
theorem TextMap.parse_empty : parse "" = .ok [] := rfl

/-- A text of plain scalars, by its tokens and the value that they make. -/
theorem TextMap.parse_of_flatTokens {text : String} (members : List (String × String))
    {v : Yaml.Value} {m : Keyed String}
    (htokens : Yaml.Token.ofText text.toList = Yaml.flatTokens members)
    (hvalue : Yaml.Value.ofNode (2 * (Yaml.flatTokens members).length + 2)
      (.mapping .map (members.map fun m => (Yaml.plainNode m.1, Yaml.plainNode m.2))) = .ok v)
    (hm : ofYaml v = .ok m) : parse text = .ok m := by
  have hread : Yaml.Value.ofText text.toList = .ok v := by
    rw [Yaml.Value.ofText, htokens, Yaml.Node.ofTokens_flatTokens]
    exact hvalue
  rw [parse, hread]
  exact hm

theorem MountSettings.mapAt_eq (m : Keyed String) (key : String) :
    mapAt m key = TextMap.parse (textAt m key) := by
  rw [mapAt]
  split
  · next hempty => rw [String.isEmpty_iff.mp hempty, TextMap.parse_empty]
  · rfl

theorem MountSettings.readLabels_eq_ok {c : Config} {attributes labels : Keyed String}
    (h : readLabels c attributes = .ok labels) : ∃ shared own,
      TextMap.parse c.mountLabels = .ok shared ∧
      TextMap.parse (textAt attributes Attribute.labels) = .ok own ∧
      labels = Keyed.merge shared own := by
  obtain ⟨shared, hshared, h⟩ : ∃ shared, TextMap.parse c.mountLabels = .ok shared ∧ (do
      let own ← mapAt attributes Attribute.labels
      return Keyed.merge shared own) = .ok labels := by
    rw [readLabels] at h
    dsimp only at h
    split at h
    · next hempty =>
      rw [String.isEmpty_iff.mp hempty]
      exact ⟨[], TextMap.parse_empty, h⟩
    · exact bind_eq_ok.mp h
  obtain ⟨own, hown, h⟩ := bind_eq_ok.mp h
  cases h
  exact ⟨shared, own, hshared, (mapAt_eq _ _).symm.trans hown, rfl⟩

theorem MountSettings.readDelay_eq_ok {attributes : Keyed String} {delay : String}
    (h : readDelay attributes = .ok delay) : delay = textAt attributes Attribute.deleteDelay := by
  unfold readDelay at h
  dsimp only at h
  split at h
  · next hempty =>
    cases h
    exact (String.isEmpty_iff.mp hempty).symm
  · split at h
    · cases h
      rfl
    · cases h

/-- The delay and the removal of the cache are written over the annotations of a volume. -/
theorem MountSettings.podAnnotations_eq (s : MountSettings) :
    s.podAnnotations = Keyed.merge s.mountPodAnnotations
      (entryOf deleteDelayKey s.deletedDelay ++
        if s.cleanCache = true then [(cleanCacheKey, trueText)] else []) := by
  rw [podAnnotations, entryOf]
  by_cases hdelay : s.deletedDelay = ""
  · cases s.cleanCache <;> simp [hdelay, Keyed.merge]
  · cases s.cleanCache <;> simp [hdelay, Keyed.merge, String.isEmpty_iff]

/-- **What is prepared** for a pair brings what the pair brings. -/
theorem Pair.brings_of_prepare {c : Config} {p : Pair} {settings : MountSettings} {capacity : Int}
    (h : p.prepare c = .ok (settings, capacity)) : p.Brings c settings.extras := by
  obtain ⟨⟨attributes, options⟩, hinput, h⟩ := bind_eq_ok.mp h
  obtain ⟨_, hresolve, h⟩ := bind_eq_ok.mp h
  obtain ⟨_, -, h⟩ := bind_eq_ok.mp h
  cases h
  have hattributes : ∀ key, p.attributeAt key = textAt attributes key := by
    intro key
    rw [attributeAt]
    unfold Volume.mountInput at hinput
    split at hinput
    · cases hinput
    · next hcsi =>
      cases hinput
      rw [hcsi]
      rfl
  obtain ⟨_, ⟨⟩, h⟩ := bind_eq_ok.mp hresolve
  obtain ⟨⟨caches, options⟩, -, h⟩ := bind_eq_ok.mp h
  obtain ⟨resources, -, h⟩ := bind_eq_ok.mp h
  obtain ⟨delay, hdelay, h⟩ := bind_eq_ok.mp h
  obtain ⟨labels, hlabels, h⟩ := bind_eq_ok.mp h
  obtain ⟨annotations, hannotations, h⟩ := bind_eq_ok.mp h
  cases h
  cases MountSettings.readDelay_eq_ok hdelay
  rw [MountSettings.mapAt_eq] at hannotations
  constructor
  · rw [hattributes]
    exact MountSettings.readLabels_eq_ok hlabels
  · refine ⟨annotations, ?_, ?_⟩
    · rw [hattributes]
      exact hannotations
    · rw [hattributes, hattributes]
      refine (MountSettings.podAnnotations_eq _).trans ?_
      simp only [decide_eq_true_eq]
  · rw [hattributes]
    rfl

/-! ### A run -/

theorem Sidecar.extras_rename (s : Sidecar) (containers volumes : List String) (index : Int) :
    (s.rename containers volumes index).extras = s.extras := rfl

theorem Sidecar.extras_finished (s : Sidecar) (c : Config) (p : Pair) :
    (s.finished c p).extras = s.extras := rfl

theorem Mutation.extras_placed (p : Pair) (s : MountSettings) (path : String) (space : Json) :
    (placed p s path space).extras = s.extras := rfl

theorem Sidecar.extras_of_buildFor {c : Config} {settings : MountSettings} {capacity : Int}
    {volumeName : Json} {s : Sidecar} (h : buildFor c settings capacity volumeName = .ok s) :
    s.extras = settings.extras := by
  obtain ⟨script, -, h⟩ := bind_eq_ok.mp h
  obtain ⟨_, -, h⟩ := bind_eq_ok.mp h
  cases h
  rfl

namespace RuntimeClass

variable {c : Config} {pod pod' : Json} {name : String} {domain : RuntimeDomain}

/-- The annotation of the trust domain is written over the others, and nothing else. -/
theorem profile_of_inject (h : inject c pod name = .ok pod')
    (hdomain : domainOf c name = .ok domain) :
    Pod.profile pod' = { Pod.profile pod with
      annotations := Keyed.put (Pod.profile pod).annotations runtimeKey
        (.str domain.name) } := by
  obtain ⟨own, hown, h⟩ := bind_eq_ok.mp h
  cases hdomain.symm.trans hown
  obtain ⟨spec, hspec, h⟩ := bind_eq_ok.mp h
  obtain ⟨spec', hspec', h⟩ := bind_eq_ok.mp h
  obtain ⟨pod₁, hpod₁, h⟩ := bind_eq_ok.mp h
  obtain ⟨metadata, hmetadata, h⟩ := bind_eq_ok.mp h
  obtain ⟨old, hold, h⟩ := bind_eq_ok.mp h
  obtain ⟨annotations, hannotations, h⟩ := bind_eq_ok.mp h
  obtain ⟨metadata', hmetadata', hpod'⟩ := bind_eq_ok.mp h
  obtain ⟨-, rfl⟩ := Json.findD_eq_ok.mp hspec
  obtain ⟨-, rfl⟩ := Json.findD_eq_ok.mp hmetadata
  obtain ⟨-, rfl⟩ := Json.findD_eq_ok.mp hold
  obtain ⟨ms, hms, rfl⟩ := Json.assign_eq_ok.mp hannotations
  have hafter : pod'.objectAt "spec" = spec' ∧ pod'.objectAt "metadata" = metadata' := by
    rw [Json.objectAt, Json.objectAt, Json.get?_assign hpod', Json.get?_assign hpod',
      Json.get?_assign hpod₁]
    exact ⟨rfl, rfl⟩
  have hbefore : (pod₁.get? "metadata").getD (.obj []) = pod.objectAt "metadata" := by
    rw [Json.get?_assign hpod₁]
    rfl
  rw [hbefore] at hmetadata' hms
  have hmembers : (pod.objectAt "metadata").membersAt "annotations" = ms := by
    rw [Json.membersAt_eq]
    exact Json.members_of_isPresent hms
  refine Pod.Profile.ext ?_ ?_ ?_
  · rw [Pod.profile, hafter.2, Json.membersAt, Json.get?_assign hmetadata']
    rfl
  · rw [Pod.profile, hafter.2, Json.membersAt_assign hmetadata', ← hmembers]
    rfl
  · rw [Pod.profile, hafter.1, Json.get?_assign hspec']
    rfl

end RuntimeClass

theorem InitContainer.Started.profile_eq {sidecars : List String} {pod pod' : Json}
    (h : Started sidecars pod pod') : Pod.profile pod' = Pod.profile pod := by
  obtain ⟨spec, spec', hspec, hspec', haltered⟩ := h.spec
  rw [Pod.profile, Pod.profile, Json.objectAt, Json.objectAt, Json.objectAt, Json.objectAt,
    h.altered.get?_eq _ (by decide), hspec, hspec', Option.getD_some, Option.getD_some,
    haltered.get?_eq _ (by decide)]

namespace Mutation

open Pod (profile overridden)

variable {c : Config} {es : List Exchange} {pod pod' out : Json} {pairs : List Pair}

/-- **All sidecars** bring what their settings say, one after another. -/
theorem profile_of_addSidecars {rest : List (Nat × Pair × MountSettings × Int)}
    {names : List String} (h : (addSidecars c rest pod).Trace es (.ok (pod', names))) :
    profile pod' = (rest.map fun step => step.2.2.1.extras).foldl Pod.Profile.add (profile pod) := by
  induction rest generalizing pod names es with
  | nil =>
    cases h.2
    rfl
  | cons step rest ih =>
    obtain ⟨index, p, settings, capacity⟩ := step
    rw [addSidecars] at h
    obtain ⟨⟨pod₁, name⟩, _, _, hfirst, h, -⟩ := Act.trace_bind_ok.mp h
    obtain ⟨⟨pod₂, others⟩, _, _, hothers, h, -⟩ := Act.trace_bind_ok.mp h
    cases h.2
    obtain ⟨space, path, draws, built, s, -, hbuilt, hs, hinject, -⟩ := steps_of_addSidecar hfirst
    obtain ⟨hlists, containers, volumes, rfl, -⟩ := Sidecar.renameIn_eq_ok hs
    -- neither the place of the mount nor the names of the sidecar are part of what it brings
    rw [ih hothers, Pod.profile_of_inject hinject hlists, Sidecar.extras_finished,
      Sidecar.extras_rename, Sidecar.extras_of_buildFor hbuilt, extras_placed, List.map_cons,
      List.foldl_cons]

/-- What a pod's labels, annotations and account are after a run. -/
structure Profiled (c : Config) (pod : Json) (pairs : List Pair) (extras : List Pod.Extras)
    (domain : RuntimeDomain) (out : Json) : Prop where
  /-- Each pair brings what its volume and the configuration say. -/
  brings : List.Forall₂ (Pair.Brings c) pairs extras
  /-- The labels are overridden by those of the pairs, in order, and if there is a pair by the label
  of a pod with sidecars. -/
  labels : ∀ key, Keyed.get? (profile out).labels key = Keyed.get? (overridden (profile pod).labels
    (extras.map (·.labels)) (if pairs = [] then [] else [(doneLabel, trueText)])) key
  /-- The annotations are overridden by those of the pairs, in order, and by that of the domain. -/
  annotations : (profile out).annotations = overridden (profile pod).annotations
    (extras.map (·.annotations)) [(runtimeKey, domain.name)]
  /-- The account is that of the pod, if there is one, else the first one of a pair. With none at
  all it is left as it is. -/
  account : (profile out).account =
    if (profile pod).account.any Json.isPresent then (profile pod).account
    else ((extras.map (·.account)).find? fun name => !name.isEmpty).elim (profile pod).account
      fun name => some (.str name)
  /-- No label is lost, and none comes from elsewhere. -/
  mem_labels : ∀ key, key ∈ Keyed.keys (profile out).labels ↔
    key ∈ Keyed.keys (profile pod).labels ∨ (∃ e ∈ extras, key ∈ Keyed.keys e.labels) ∨
      pairs ≠ [] ∧ key = doneLabel
  /-- No annotation is lost, and none comes from elsewhere. -/
  mem_annotations : ∀ key, key ∈ Keyed.keys (profile out).annotations ↔
    key ∈ Keyed.keys (profile pod).annotations ∨ (∃ e ∈ extras, key ∈ Keyed.keys e.annotations) ∨
      key = runtimeKey

theorem map_extras_numbered {prepared : List (MountSettings × Int)}
    (h : prepared.length = pairs.length) :
    ((numbered pairs prepared).map fun step => step.2.2.1.extras) =
      prepared.map fun x => x.1.extras := by
  have hsnd : (pairs.zip prepared).map Prod.snd = prepared := List.map_snd_zip h.le
  calc ((numbered pairs prepared).map fun step => step.2.2.1.extras)
      = (((pairs.zip prepared).zipIdx.map Prod.fst).map Prod.snd).map fun x => x.1.extras := by
        rw [numbered, List.map_map, List.map_map, List.map_map]
        rfl
    _ = prepared.map fun x => x.1.extras := by rw [List.zipIdx_map_fst, hsnd]

/-- **Labels, annotations and the account** of a pod that gets its sidecars. -/
theorem profiled_of_run (h : (run c pod pairs).Trace es (.ok out)) :
    ∃ extras name domain, RuntimeClass.RunsUnder c out name domain ∧
      Profiled c pod pairs extras domain out := by
  rw [run] at h
  obtain ⟨signer, -, h⟩ := Act.trace_liftM_bind_ok.mp h
  obtain ⟨prepared, hprepared, h⟩ := Act.trace_liftM_bind_ok.mp h
  obtain ⟨name, -, h⟩ := Act.trace_liftM_bind_ok.mp h
  obtain ⟨⟨dressed, names⟩, _, _, hadd, h, -⟩ := Act.trace_bind_ok.mp h
  obtain ⟨mid, hmid, h⟩ := Act.trace_liftM_bind_ok.mp h
  obtain ⟨-, hinject⟩ := Act.trace_liftM.mp h
  have hstarted := InitContainer.started_of_inject hinject.symm
  obtain ⟨domain, hdomain, -⟩ := bind_eq_ok.mp hmid
  have hmatch := mapM_eq_ok.mp hprepared
  let extras := prepared.map fun x => x.1.extras
  have hbrings : List.Forall₂ (Pair.Brings c) pairs extras :=
    List.forall₂_map_right_iff.mpr (hmatch.imp fun _ _ => Pair.brings_of_prepare)
  have hprofile : profile out = { extras.foldl Pod.Profile.add (profile pod) with
      annotations := Keyed.put (extras.foldl Pod.Profile.add (profile pod)).annotations
        runtimeKey (.str domain.name) } := by
    rw [hstarted.profile_eq, RuntimeClass.profile_of_inject hmid hdomain,
      profile_of_addSidecars hadd, map_extras_numbered hmatch.length_eq.symm]
  have hnone : extras = [] ↔ pairs = [] := by
    rw [← List.length_eq_zero_iff, ← List.length_eq_zero_iff, hbrings.length_eq]
  have hlabels : ∀ key, Keyed.get? (profile out).labels key =
      Keyed.get? (overridden (profile pod).labels (extras.map (·.labels))
        (if pairs = [] then [] else [(doneLabel, trueText)])) key := by
    intro key
    rw [hprofile]
    simpa only [hnone] using Pod.Profile.get?_labels_foldl extras (profile pod) key
  have hannotations : (profile out).annotations = overridden (profile pod).annotations
      (extras.map (·.annotations)) [(runtimeKey, domain.name)] := by
    rw [hprofile, Pod.Profile.annotations_foldl, overridden, overridden, List.append_nil,
      Pod.merge_texts_append]
    rfl
  refine ⟨extras, name, domain, (RuntimeClass.runsUnder_of_inject hmid hdomain).started hstarted,
    hbrings, hlabels, hannotations, ?_, fun key => ?_, fun key => ?_⟩
  · rw [hprofile]
    exact Pod.Profile.account_foldl extras (profile pod)
  · rw [Keyed.mem_keys_congr hlabels, Pod.mem_keys_overridden]
    by_cases hpairs : pairs = [] <;> simp [hpairs, Keyed.keys]
  · rw [hannotations, Pod.mem_keys_overridden]
    simp [Keyed.keys]

/-- A pair whose volume has these attributes. -/
def attributedPair (name : String) (attributes : Keyed String) : Pair :=
  { barePair with
    volumeName := .str name
    volume := {
      metadata := { name := "pv-of-" ++ name }
      csi := some {
        driver := "csi.cfs.confidentialfilesystems.com"
        volumeHandle := "pv-of-" ++ name
        volumeAttributes := some attributes } } }

/-- All sidecars bring labels. -/
def tieredConfig : Config := { mountLabels := "team: shared\ntier: gold" }

/-- Attributes that ask for a label, for an annotation and for a delay. -/
def firstAttributes : Keyed String :=
  [(Attribute.labels, "team: a"), (Attribute.annotations, "note: first"),
    (Attribute.deleteDelay, "10m")]

/-- Attributes that ask for others in their places and under reserved keys, and for an account. -/
def secondAttributes : Keyed String :=
  [(Attribute.labels, "team: b\n" ++ doneLabel ++ ": never"),
    (Attribute.annotations, runtimeKey ++ ": tee"), (Attribute.deleteDelay, "1h"),
    (Attribute.cleanCache, "true"), (Attribute.serviceAccount, "runner")]

/-- Two pairs that bring different texts under the same keys. -/
def rivalPairs : List Pair :=
  [attributedPair "first" firstAttributes, attributedPair "second" secondAttributes]

/-- A pod with labels, with nothing in the place of annotations, and with an empty account. -/
def unnamedPod : Json :=
  .obj [("metadata", .obj [("name", .str "app"), ("namespace", .str "default"),
      ("labels", .obj [("team", .str "own"), (doneLabel, .str "false"), ("app", .str "web")]),
      ("annotations", .null)]),
    ("spec", .obj [("serviceAccountName", .str ""),
      ("containers", .arr [.obj [("name", .str "app"), ("image", .str "busybox")]])])]

/-- The texts of a profile: of its labels, of its annotations, and the account. -/
structure ProfileTexts where
  /-- The labels. -/
  labels : List (String × Option String)
  /-- The annotations. -/
  annotations : List (String × Option String)
  /-- The account. -/
  account : Option String
  deriving DecidableEq

/-- The texts of the profile of a pod. -/
def profileTexts (pod : Json) : ProfileTexts where
  labels := (profile pod).labels.map fun p => (p.1, p.2.str?)
  annotations := (profile pod).annotations.map fun p => (p.1, p.2.str?)
  account := (profile pod).account.bind Json.str?

/-- An act ends with a pod whose profile has these texts. -/
def endsWithTexts (texts : ProfileTexts) (a : Act Json) : Bool :=
  match (a.run {}).1 with
  | .ok out => profileTexts out = texts
  | .error _ => false

/-- What holds of each pod that an act ends with holds of one with these texts. -/
theorem exists_trace_of_endsWithTexts {texts : ProfileTexts} {a : Act Json} {P : Json → Prop}
    (h : endsWithTexts texts a = true)
    (hP : ∀ es out, a.Trace es (.ok out) → profileTexts out = texts → P out) :
    ∃ es out, a.Trace es (.ok out) ∧ profileTexts out = texts ∧ P out := by
  have htrace := a.trace_run {}
  rw [endsWithTexts] at h
  cases hend : (a.run {}).1 with
  | error f =>
    rw [hend] at h
    cases h
  | ok out =>
    rw [hend] at h htrace
    have htexts := of_decide_eq_true h
    exact ⟨_, out, htrace, htexts, hP _ out htrace htexts⟩

/-- The settings for attributes whose texts hold these labels and annotations. -/
def rivalSettings (attributes labels annotations : Keyed String) : MountSettings where
  isCe := true
  cacheDirs := [defaultCacheDir]
  clientConfPath := tieredConfig.clientConfPath
  resources := Resources.usual tieredConfig
  mountPodLabels := labels
  mountPodAnnotations := annotations
  deletedDelay := textAt attributes Attribute.deleteDelay
  cleanCache := textAt attributes Attribute.cleanCache = trueText
  serviceAccountName := textAt attributes Attribute.serviceAccount
  image := tieredConfig.ceMountImage

theorem parse_tieredConfig :
    TextMap.parse tieredConfig.mountLabels = .ok [("team", "shared"), ("tier", "gold")] :=
  TextMap.parse_of_flatTokens [("team", "shared"), ("tier", "gold")]
    (by decide +kernel) rfl rfl

theorem parse_firstLabels : TextMap.parse (textAt firstAttributes Attribute.labels) =
    .ok [("team", "a")] :=
  TextMap.parse_of_flatTokens [("team", "a")] (by decide +kernel) rfl rfl

theorem parse_firstAnnotations : TextMap.parse (textAt firstAttributes Attribute.annotations) =
    .ok [("note", "first")] :=
  TextMap.parse_of_flatTokens [("note", "first")] (by decide +kernel) rfl rfl

theorem parse_secondLabels : TextMap.parse (textAt secondAttributes Attribute.labels) =
    .ok [("team", "b"), (doneLabel, "never")] :=
  TextMap.parse_of_flatTokens [("team", "b"), (doneLabel, "never")]
    (by decide +kernel) rfl rfl

theorem parse_secondAnnotations : TextMap.parse (textAt secondAttributes Attribute.annotations) =
    .ok [(runtimeKey, "tee")] :=
  TextMap.parse_of_flatTokens [(runtimeKey, "tee")]
    (by decide +kernel) rfl rfl

theorem readLabels_tieredConfig {attributes own : Keyed String}
    (h : TextMap.parse (textAt attributes Attribute.labels) = .ok own) :
    MountSettings.readLabels tieredConfig attributes =
      .ok (Keyed.merge [("team", "shared"), ("tier", "gold")] own) := by
  change (TextMap.parse tieredConfig.mountLabels >>= fun shared =>
    MountSettings.mapAt attributes Attribute.labels >>= fun own =>
      pure (Keyed.merge shared own)) = _
  rw [parse_tieredConfig, MountSettings.mapAt_eq, h]
  rfl

theorem prepare_first : (attributedPair "first" firstAttributes).prepare tieredConfig =
    .ok (rivalSettings firstAttributes [("team", "a"), ("tier", "gold")] [("note", "first")], 1) := by
  have hresolve : MountSettings.resolve none firstAttributes [] tieredConfig =
      .ok (rivalSettings firstAttributes [("team", "a"), ("tier", "gold")] [("note", "first")]) := by
    rw [MountSettings.resolve, readLabels_tieredConfig parse_firstLabels, MountSettings.mapAt_eq,
      parse_firstAnnotations]
    rfl
  change (MountSettings.resolve none firstAttributes [] tieredConfig >>= _) = _
  rw [hresolve]
  rfl

theorem prepare_second : (attributedPair "second" secondAttributes).prepare tieredConfig =
    .ok (rivalSettings secondAttributes
      [("team", "b"), ("tier", "gold"), (doneLabel, "never")] [(runtimeKey, "tee")], 1) := by
  have hresolve : MountSettings.resolve none secondAttributes [] tieredConfig =
      .ok (rivalSettings secondAttributes
        [("team", "b"), ("tier", "gold"), (doneLabel, "never")] [(runtimeKey, "tee")]) := by
    rw [MountSettings.resolve, readLabels_tieredConfig parse_secondLabels, MountSettings.mapAt_eq,
      parse_secondAnnotations]
    rfl
  change (MountSettings.resolve none secondAttributes [] tieredConfig >>= _) = _
  rw [hresolve]
  rfl

/-- What the pod with both pairs has in the end. -/
def rivalTexts : ProfileTexts where
  labels := [("team", some "b"), (doneLabel, some "true"), ("app", some "web"),
    ("tier", some "gold")]
  annotations := [("note", some "first"), (deleteDelayKey, some "1h"),
    (runtimeKey, some "vm"), (cleanCacheKey, some "true")]
  account := some "runner"

theorem endsWithTexts_rivalPairs :
    endsWithTexts rivalTexts (run tieredConfig unnamedPod rivalPairs) = true := by
  have hprepared : rivalPairs.mapM (Pair.prepare tieredConfig) = .ok
      [(rivalSettings firstAttributes [("team", "a"), ("tier", "gold")] [("note", "first")], 1),
        (rivalSettings secondAttributes [("team", "b"), ("tier", "gold"), (doneLabel, "never")]
          [(runtimeKey, "tee")], 1)] :=
    mapM_eq_ok.mpr (.cons prepare_first (.cons prepare_second .nil))
  rw [endsWithTexts, run, hprepared]
  decide +kernel

theorem profiled_of_run_rivalPairs :
    ∃ es out, (run tieredConfig unnamedPod rivalPairs).Trace es (.ok out) ∧
      profileTexts out = rivalTexts ∧
      ∃ extras name domain, RuntimeClass.RunsUnder tieredConfig out name domain ∧
        Profiled tieredConfig unnamedPod rivalPairs extras domain out :=
  exists_trace_of_endsWithTexts endsWithTexts_rivalPairs fun es out htrace _ =>
    @profiled_of_run tieredConfig es unnamedPod out rivalPairs htrace

/-- A pod that gets no sidecar is not labelled as one that has any, and its empty account stays. -/
theorem run_unnamedPod :
    ∃ es out, (run {} unnamedPod []).Trace es (.ok out) ∧
      profileTexts out = {
        labels := [("team", some "own"), (doneLabel, some "false"), ("app", some "web")]
        annotations := [(runtimeKey, some "vm")]
        account := some "" } ∧
      Keyed.get? (profile out).labels doneLabel ≠ some (.str trueText) ∧
      (profile out).account ≠ none := by
  refine exists_trace_of_endsWithTexts (by decide +kernel) fun _ out _ htexts => ⟨?_, ?_⟩
  · intro hdone
    have hlabels := congrArg (fun t => Keyed.get? t.labels doneLabel) htexts
    simp only [profileTexts] at hlabels
    rw [Keyed.get?_map _ (fun _ => Json.str?), hdone] at hlabels
    exact absurd hlabels (by decide)
  · intro hnone
    have haccount := congrArg ProfileTexts.account htexts
    rw [profileTexts, hnone] at haccount
    cases haccount

end Mutation

end SubpathCsi
