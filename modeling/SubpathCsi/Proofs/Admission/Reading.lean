import SubpathCsi.Proofs.Admission.Verdict
import SubpathCsi.Proofs.Json.Typed

/-!
# The answer for a pod that can be read

Where the metadata of a pod have the shape that a review expects, nothing goes wrong before the
volumes of the pod are looked up: the pod is passed over for one of its labels, or else it is the
look-up that decides.

* `Admission.Readable`: a pod whose metadata and labels can be read;
* `Admission.review_eq`: the review of a request that brings an object;
* `Admission.skipReason?_cases`: why it is passed over, told by its labels;
* `Admission.answerPod_cases`: the answer for it.
-/

namespace SubpathCsi

/-- What asks nothing and succeeds is followed by the rest at once. -/
theorem Act.liftM_ok_bind {α β : Type} (a : α) (k : α → Act β) :
    ((liftM (.ok a : Except Failure α) : Act α) >>= k) = k a := rfl

namespace Admission

open Json (Given IsObject Nullable)

variable {c : Config} {j request raw metadata labels : Json}

/-- The metadata and the labels of a pod can be read. -/
structure Readable (raw : Json) : Prop where
  /-- The pod is an object. -/
  pod : raw.IsObject
  /-- Its metadata are an object, if there are any. -/
  metadata : Given IsObject "metadata" raw
  /-- Its labels are an object, if there are any. -/
  labels : ∀ metadata, raw.get? "metadata" = some metadata →
    Given (Nullable IsObject) "labels" metadata

namespace Readable

theorem metadata_getD (h : Readable raw) : ((raw.get? "metadata").getD (.obj [])).IsObject := by
  cases hget : raw.get? "metadata" with
  | none => exact ⟨[], rfl⟩
  | some metadata => exact h.metadata metadata hget

theorem labels_getD (h : Readable raw) :
    Given (Nullable IsObject) "labels" ((raw.get? "metadata").getD (.obj [])) := by
  cases hget : raw.get? "metadata" with
  | none =>
    rintro _ ⟨⟩
  | some metadata => exact h.labels metadata hget

/-- A pod that has a label can be read. -/
theorem of_marked {key : String} (h : Marked raw key) : Readable raw := by
  obtain ⟨labels, hlabels, hlabel⟩ := Option.bind_eq_some_iff.mp h
  obtain ⟨metadata, hmetadata, hlabels⟩ := Option.bind_eq_some_iff.mp hlabels
  refine ⟨Json.isObject_of_get? hmetadata, fun m hm => ?_, fun m hm l hl => ?_⟩
  · cases hmetadata.symm.trans hm
    exact Json.isObject_of_get? hlabels
  · cases hmetadata.symm.trans hm
    cases hlabels.symm.trans hl
    exact .inr (Json.isObject_of_get? hlabel)

end Readable

/-! ### The request -/

/-- **The review of a pod** is the answer for the pod, unless that fails. -/
theorem review_eq (hrequest : j.get? "request" = some request)
    (hraw : request.get? "object" = some raw) (hobject : raw.IsObject) :
    review c j = (answerPod c request ((request.get? "uid").getD (.str "")) raw).rescueAll
      fun f => do
        return .errored (← request.findD "uid" (.str "")) 500 ("internal error: " ++ f.message) := by
  have hfind : j.findD "request" .null = .ok request :=
    Json.findD_eq_ok.mpr ⟨Json.isObject_of_get? hrequest, by rw [hrequest, Option.getD_some]⟩
  have huid : request.findD "uid" (.str "") = .ok ((request.get? "uid").getD (.str "")) :=
    Json.findD_eq_ok.mpr ⟨Json.isObject_of_get? hraw, rfl⟩
  have hpod : request.find "object" = .ok (some raw) :=
    Json.find_eq_ok.mpr ⟨Json.isObject_of_get? hraw, hraw⟩
  obtain ⟨ms, rfl⟩ := hobject
  rw [review, hfind, Act.liftM_ok_bind]
  dsimp only
  rw [if_pos (Json.isPresent_of_get? hraw), decide, huid, Act.liftM_ok_bind, hpod,
    Act.liftM_ok_bind]

/-- The namespace of a request can be given to every pod. -/
theorem yields_withSpace (hrequest : request.IsObject) (hmetadata : metadata.IsObject) :
    Yields (withSpace request metadata) fun _ => True := by
  refine (Json.yields_findD (P := fun _ => True) hmetadata (fun _ _ => trivial) trivial).bind
    fun own _ => ?_
  refine (Json.yields_findD (P := fun _ => True) hrequest (fun _ _ => trivial) trivial).bind
    fun given _ => ?_
  split
  · exact (Json.yields_assign hmetadata).mono fun _ _ => trivial
  · exact yields_ok trivial

/-- What has been given a namespace is an object. -/
theorem isObject_of_withSpace {old : Json} (h : withSpace request old = .ok metadata) :
    metadata.IsObject := by
  obtain ⟨own, hown, h⟩ := bind_eq_ok.mp h
  obtain ⟨given, -, h⟩ := bind_eq_ok.mp h
  split at h
  · exact Json.isObject_of_assign h
  · cases h
    exact (Json.findD_eq_ok.mp hown).1

theorem yields_nameOf (h : metadata.IsObject) :
    Yields (EventTarget.nameOf metadata) fun _ => True := by
  refine (Json.yields_findD (P := fun _ => True) h (fun _ _ => trivial) trivial).bind
    fun name _ => ?_
  split
  · exact yields_ok trivial
  · exact Json.yields_findD h (fun _ _ => trivial) trivial

/-! ### Labels -/

theorem hasLabel_of_get? {key : String} (h : labels.get? key = some (.str trueText)) :
    hasLabel labels key = .ok true := by
  have hvalue : labels.findD key .null = .ok (.str trueText) :=
    Json.findD_eq_ok.mpr ⟨Json.isObject_of_get? h, by rw [h, Option.getD_some]⟩
  exact bind_eq_ok.mpr ⟨_, hvalue, rfl⟩

theorem hasLabel_of_get?_ne {key : String} (hlabels : labels.IsObject)
    (h : labels.get? key ≠ some (.str trueText)) : hasLabel labels key = .ok false := by
  have hvalue : labels.findD key .null = .ok ((labels.get? key).getD .null) :=
    Json.findD_eq_ok.mpr ⟨hlabels, rfl⟩
  refine bind_eq_ok.mpr ⟨_, hvalue, congrArg Except.ok ?_⟩
  refine Bool.eq_false_iff.mpr fun hsame => h ?_
  have hnull := Patch.same_str hsame
  cases hget : labels.get? key with
  | none =>
    rw [hget] at hnull
    cases hnull
  | some value =>
    rw [hget] at hnull
    exact congrArg some hnull

/-- The labels of a pod, as a review reads them. -/
theorem exists_labels (hraw : Readable raw)
    (hmetadata : withSpace request ((raw.get? "metadata").getD (.obj [])) = .ok metadata) :
    ∃ labels, metadata.findD "labels" .null = .ok labels ∧
      (if labels.isPresent then labels else .obj []).IsObject ∧
      ∀ key, (if labels.isPresent then labels else .obj []).get? key = some (.str trueText) ↔
        Marked raw key := by
  have hlabels := (altered_of_withSpace hmetadata).get?_eq "labels" (by decide)
  have hmarked : ∀ key, Marked raw key ↔
      (metadata.get? "labels").bind (·.get? key) = some (.str trueText) := by
    intro key
    rw [Marked, hlabels]
    cases raw.get? "metadata" <;> rfl
  refine ⟨_, Json.findD_eq_ok.mpr ⟨isObject_of_withSpace hmetadata, rfl⟩, ?_, fun key => ?_⟩
  · split
    · next hpresent =>
      cases hget : metadata.get? "labels" with
      | none =>
        rw [hget] at hpresent
        cases hpresent
      | some labels =>
        rw [hget] at hpresent
        rw [hlabels] at hget
        obtain rfl | hlabels := hraw.labels_getD labels hget
        · cases hpresent
        · exact hlabels
    · exact ⟨[], rfl⟩
  · rw [hmarked]
    cases hget : metadata.get? "labels" with
    | none => exact Iff.rfl
    | some labels =>
      rw [Option.getD_some, Option.bind_some]
      split
      · exact Iff.rfl
      · next hpresent =>
        refine ⟨fun h => ?_, fun h => absurd (Json.isPresent_of_get? h) hpresent⟩
        cases h

/-- Why a pod is passed over, told by its labels. -/
theorem skipReason?_cases (hraw : Readable raw)
    (hmetadata : withSpace request ((raw.get? "metadata").getD (.obj [])) = .ok metadata) :
    (Marked raw doneLabel ∧
      skipReason? metadata = .ok (some "skip mutating the pod because injection is done")) ∨
    (¬ Marked raw doneLabel ∧ Marked raw disableLabel ∧
      skipReason? metadata = .ok (some "skip mutating the pod because injection is disabled")) ∨
    (¬ Marked raw doneLabel ∧ ¬ Marked raw disableLabel ∧ skipReason? metadata = .ok none) := by
  obtain ⟨labels, hlabels, hlabelsObject, hmarked⟩ := exists_labels hraw hmetadata
  have hset : ∀ key, Marked raw key →
      hasLabel (if labels.isPresent then labels else .obj []) key = .ok true :=
    fun key h => hasLabel_of_get? ((hmarked key).mpr h)
  have hunset : ∀ key, ¬ Marked raw key →
      hasLabel (if labels.isPresent then labels else .obj []) key = .ok false :=
    fun key h => hasLabel_of_get?_ne hlabelsObject fun hget => h ((hmarked key).mp hget)
  by_cases hdone : Marked raw doneLabel
  · have hfirst := hset _ hdone
    exact .inl ⟨hdone, bind_eq_ok.mpr ⟨labels, hlabels, bind_eq_ok.mpr ⟨true, hfirst, rfl⟩⟩⟩
  have hfirst := hunset _ hdone
  by_cases hdisabled : Marked raw disableLabel
  · have hsecond := hset _ hdisabled
    exact .inr (.inl ⟨hdone, hdisabled, bind_eq_ok.mpr ⟨labels, hlabels,
      bind_eq_ok.mpr ⟨false, hfirst, bind_eq_ok.mpr ⟨true, hsecond, rfl⟩⟩⟩⟩)
  · have hsecond := hunset _ hdisabled
    exact .inr (.inr ⟨hdone, hdisabled, bind_eq_ok.mpr ⟨labels, hlabels,
      bind_eq_ok.mpr ⟨false, hfirst, bind_eq_ok.mpr ⟨false, hsecond, rfl⟩⟩⟩⟩)

/-- **The answer for a pod that can be read.** It is passed over for one of its labels, or else
the look-up of its volumes decides. -/
theorem answerPod_cases (hrequest : request.IsObject) (hraw : Readable raw) (c : Config)
    (uid : Json) :
    (Marked raw doneLabel ∧ answerPod c request uid raw =
      return .allowed uid "skip mutating the pod because injection is done") ∨
    (¬ Marked raw doneLabel ∧ Marked raw disableLabel ∧ answerPod c request uid raw =
      return .allowed uid "skip mutating the pod because injection is disabled") ∨
    (¬ Marked raw doneLabel ∧ ¬ Marked raw disableLabel ∧
      ∃ pod name, Prepared request raw pod ∧ answerPod c request uid raw = do
        match ← (some <$> Pair.ofPod c pod).rescueReported fun _ => return none with
        | none => return .errored uid 400 "could not get pv from pod"
        | some [] => return .allowed uid "skip mutating the pod because it doesn't use CFS volume"
        | some pairs => mutate c uid raw pod name pairs) := by
  obtain ⟨metadata, hmetadata, -⟩ := yields_withSpace hrequest hraw.metadata_getD
  obtain ⟨name, hname, -⟩ := yields_nameOf (isObject_of_withSpace hmetadata)
  have hassign : Yields (raw.assign "metadata" metadata) (raw.assign "metadata" metadata = .ok ·) :=
    Json.yields_assign hraw.pod
  obtain ⟨pod, hpod, -⟩ := hassign
  have hold : raw.findD "metadata" (.obj []) = .ok ((raw.get? "metadata").getD (.obj [])) :=
    Json.findD_eq_ok.mpr ⟨hraw.pod, rfl⟩
  rw [answerPod, hold, Act.liftM_ok_bind, hmetadata, Act.liftM_ok_bind, hpod, Act.liftM_ok_bind,
    hname, Act.liftM_ok_bind]
  obtain ⟨hdone, hskip⟩ | ⟨hdone, hdisabled, hskip⟩ | ⟨hdone, hdisabled, hskip⟩ :=
    skipReason?_cases hraw hmetadata
  · rw [hskip]
    exact .inl ⟨hdone, rfl⟩
  · rw [hskip]
    exact .inr (.inl ⟨hdone, hdisabled, rfl⟩)
  · rw [hskip]
    exact .inr (.inr ⟨hdone, hdisabled, pod, name, ⟨metadata, hmetadata, hpod⟩, rfl⟩)

end Admission

end SubpathCsi
