import SubpathCsi.Admission.Review
import SubpathCsi.Proofs.Json.Patch
import SubpathCsi.Proofs.Pod.Mutation

/-!
# The ways of a review

A review of a pod ends in one of few ways. It is passed over for one of its labels or because it
uses no filesystem of this driver, or it gets its sidecars. Everything that goes wrong on the way,
be it at the remote ends or in the request, rejects it.

* `Admission.Prepared`: the pod of a request, with the namespace of the request;
* `Admission.space_eq_of_prepared`: the namespace in which its claims are looked for;
* `Admission.Verdict`, `Admission.verdict_of_review`: the ways in which a review may end, and that
  there are no others.
-/

namespace SubpathCsi

/-- Going on after a reported error with a value that stands for it. -/
theorem Act.trace_rescueReported_return {α : Type} {a : Act α} {g : ControllerError → α}
    {es : List Exchange} {y : α}
    (h : (a.rescueReported fun e => return g e).Trace es (.ok y)) :
    a.Trace es (.ok y) ∨ ∃ e, y = g e := by
  obtain ha | ⟨e, _, _, -, hh, -⟩ := trace_rescueReported_ok.mp h
  · exact .inl ha
  · cases hh.2
    exact .inr ⟨e, rfl⟩

namespace Admission

variable {c : Config} {j request raw pod out : Json} {es : List Exchange} {r : Response}

/-! ### The pod of a request -/

/-- A label of a pod is set. -/
def Marked (pod : Json) (key : String) : Prop :=
  ((pod.get? "metadata").bind (·.get? "labels")).bind (·.get? key) = some (.str trueText)

/-- The namespace of a pod in a request: its own, or else that of the request. -/
def spaceOf (request raw : Json) : Json :=
  let own := (raw.get? "metadata").bind (·.get? "namespace")
  let given := request.get? "namespace"
  ((own.filter Json.isPresent).or (given.filter Json.isPresent)).getD (own.getD (.str ""))

/-- The pod of a request, with the namespace of the request if it has none of its own. -/
def Prepared (request raw pod : Json) : Prop :=
  ∃ metadata, withSpace request ((raw.get? "metadata").getD (.obj [])) = .ok metadata ∧
    raw.assign "metadata" metadata = .ok pod

theorem altered_of_withSpace {metadata metadata' : Json}
    (h : withSpace request metadata = .ok metadata') :
    Json.Altered ["namespace"] metadata metadata' := by
  obtain ⟨own, -, h⟩ := bind_eq_ok.mp h
  obtain ⟨given, -, h⟩ := bind_eq_ok.mp h
  split at h
  · exact Json.altered_assign h
  · cases h
    exact .refl _ metadata

theorem filter_isPresent (x : Option Json) :
    x.filter Json.isPresent = if (x.getD .null).isPresent then x else none := by
  cases x with
  | none => rfl
  | some v =>
    rw [Option.filter_some]
    rfl

/-- What is present may be read with anything in its place. -/
theorem getD_of_isPresent {x : Option Json} (h : (x.getD .null).isPresent = true)
    (y z : Json) : x.getD y = x.getD z := by
  cases x with
  | none => cases h
  | some v => rfl

/-- The namespace in metadata that have been given the namespace of a request. -/
theorem space_of_withSpace {old metadata : Json} (h : withSpace request old = .ok metadata) :
    (metadata.get? "namespace").getD (.str "") =
      (((old.get? "namespace").filter Json.isPresent).or
        ((request.get? "namespace").filter Json.isPresent)).getD
          ((old.get? "namespace").getD (.str "")) := by
  obtain ⟨own, hown, h⟩ := bind_eq_ok.mp h
  obtain ⟨-, rfl⟩ := Json.findD_eq_ok.mp hown
  obtain ⟨given, hgiven, h⟩ := bind_eq_ok.mp h
  obtain ⟨-, rfl⟩ := Json.findD_eq_ok.mp hgiven
  rw [filter_isPresent, filter_isPresent]
  cases hown : ((old.get? "namespace").getD .null).isPresent with
  | true =>
    rw [hown, Bool.not_true, Bool.false_and, if_neg Bool.false_ne_true] at h
    cases h
    rw [if_pos rfl, Option.getD_or]
    exact getD_of_isPresent hown _ _
  | false =>
    rw [hown, Bool.not_false, Bool.true_and] at h
    rw [if_neg Bool.false_ne_true, Option.none_or]
    cases hgiven : ((request.get? "namespace").getD .null).isPresent with
    | true =>
      rw [hgiven, if_pos rfl] at h
      rw [Json.get?_assign h, if_pos rfl, if_pos rfl]
      exact getD_of_isPresent hgiven _ _
    | false =>
      rw [hgiven, if_neg Bool.false_ne_true] at h
      cases h
      rfl

/-- The namespace of the pod of a request. -/
theorem space_eq_of_prepared (hpod : Prepared request raw pod) {space : Json}
    (h : Pod.space pod = .ok space) : space = spaceOf request raw := by
  obtain ⟨metadata, hwith, hassign⟩ := hpod
  obtain ⟨m, hm, hspace⟩ := bind_eq_ok.mp h
  obtain ⟨-, rfl⟩ := Json.findD_eq_ok.mp hm
  obtain ⟨-, rfl⟩ := Json.findD_eq_ok.mp hspace
  have hold : (raw.get? "metadata").bind (·.get? "namespace") =
      ((raw.get? "metadata").getD (.obj [])).get? "namespace" := by
    cases raw.get? "metadata" <;> rfl
  rw [Json.get?_assign hassign, if_pos rfl, Option.getD_some, space_of_withSpace hwith, spaceOf, hold]

/-! ### The ways of a review -/

theorem get?_of_hasLabel {labels : Json} {key : String} (h : hasLabel labels key = .ok true) :
    labels.get? key = some (.str trueText) := by
  obtain ⟨value, hvalue, h⟩ := bind_eq_ok.mp h
  have hsame : value.same (.str trueText) = true := Except.ok.inj h
  rw [Patch.same_str hsame] at hvalue
  exact Json.get?_of_findD hvalue rfl rfl

/-- A pod is only passed over for one of its labels. -/
theorem marked_of_skipReason? {metadata : Json} {reason : String}
    (hpod : withSpace request ((raw.get? "metadata").getD (.obj [])) = .ok metadata)
    (h : skipReason? metadata = .ok (some reason)) :
    Marked raw doneLabel ∨ Marked raw disableLabel := by
  -- the label is one of the pod as it came
  have hraw : ∀ labels key, metadata.findD "labels" .null = .ok labels →
      hasLabel (if labels.isPresent then labels else .obj []) key = .ok true → Marked raw key := by
    intro labels key hlabels hlabel
    have hget := get?_of_hasLabel hlabel
    split at hget
    · next hpresent =>
      have hfound := Json.get?_of_findD hlabels hpresent rfl
      rw [(altered_of_withSpace hpod).get?_eq _ (by decide)] at hfound
      cases hmetadata : raw.get? "metadata" with
      | none =>
        rw [hmetadata] at hfound
        cases hfound
      | some m =>
        rw [hmetadata, Option.getD_some] at hfound
        rw [Marked, hmetadata, Option.bind_some, hfound]
        exact hget
    · cases hget
  obtain ⟨labels, hlabels, h⟩ := bind_eq_ok.mp h
  obtain ⟨done, hdone, h⟩ := bind_eq_ok.mp h
  cases done with
  | true => exact .inl (hraw labels doneLabel hlabels hdone)
  | false =>
    obtain ⟨disabled, hdisabled, h⟩ := bind_eq_ok.mp h
    cases disabled with
    | true => exact .inr (hraw labels disableLabel hlabels hdisabled)
    | false => cases h

/-- The ways in which a review of a pod may end, and what has gone before. -/
inductive Verdict (c : Config) (request raw : Json) (es : List Exchange) : Response → Prop
  /-- The pod is rejected. -/
  | rejected (uid : Json) (code : Int) (message : String) :
      Verdict c request raw es (.errored uid code message)
  /-- A label says that the pod is to be passed over. -/
  | marked (uid : Json) (message : String)
      (hmarked : Marked raw doneLabel ∨ Marked raw disableLabel) :
      Verdict c request raw es (.allowed uid message)
  /-- There are no pairs. -/
  | unused (uid : Json) (message : String) (pod : Json) (found : List Exchange)
      (hpod : Prepared request raw pod) (hpairs : (Pair.ofPod c pod).Trace found (.ok []))
      (hfound : found ⊆ es) : Verdict c request raw es (.allowed uid message)
  /-- There are pairs, and the pod gets its sidecars. -/
  | served (uid : Json) (operations : List Json) (pod : Json) (pairs : List Pair)
      (found during : List Exchange) (out : Json) (hpod : Prepared request raw pod)
      (hne : pairs ≠ []) (hpairs : (Pair.ofPod c pod).Trace found (.ok pairs)) (hfound : found ⊆ es)
      (hrun : (Mutation.run c pod pairs).Trace during (.ok out))
      (hpatch : patchOf raw out = .ok operations) :
      Verdict c request raw es (.patched uid operations)

theorem verdict_of_mutate {uid name : Json} {pairs : List Pair} {found during : List Exchange}
    (hpod : Prepared request raw pod) (hne : pairs ≠ [])
    (hpairs : (Pair.ofPod c pod).Trace found (.ok pairs)) (hfound : found ⊆ es)
    (h : (mutate c uid raw pod name pairs).Trace during (.ok r)) : Verdict c request raw es r := by
  rw [mutate] at h
  obtain ⟨out, first, rest, hout, h, -⟩ := Act.trace_bind_ok.mp h
  cases out with
  | error e =>
    obtain ⟨-, _, _, -, h, -⟩ := Act.trace_bind_ok.mp h
    cases h.2
    exact .rejected _ _ _
  | ok out =>
    obtain ⟨operations, hpatch, h⟩ := Act.trace_liftM_bind_ok.mp h
    cases h.2
    obtain hout | ⟨e, he⟩ := Act.trace_rescueReported_return hout
    · obtain ⟨o, hrun, ho⟩ := Act.trace_map.mp hout
      cases o with
      | error f => cases ho
      | ok out' =>
        cases ho
        exact .served uid operations pod pairs found first out hpod hne hpairs hfound hrun
          hpatch
    · cases he

theorem verdict_of_answerPod {uid : Json}
    (h : (answerPod c request uid raw).Trace es (.ok r)) : Verdict c request raw es r := by
  rw [answerPod] at h
  obtain ⟨old, hold, h⟩ := Act.trace_liftM_bind_ok.mp h
  obtain ⟨metadata, hmetadata, h⟩ := Act.trace_liftM_bind_ok.mp h
  obtain ⟨pod, hpod, h⟩ := Act.trace_liftM_bind_ok.mp h
  obtain ⟨name, -, h⟩ := Act.trace_liftM_bind_ok.mp h
  obtain ⟨reason, hreason, h⟩ := Act.trace_liftM_bind_ok.mp h
  obtain ⟨-, rfl⟩ := Json.findD_eq_ok.mp hold
  cases reason with
  | some reason =>
    cases h.2
    exact .marked _ _ (marked_of_skipReason? hmetadata hreason)
  | none =>
    obtain ⟨pairs, found, after, hpairs, h, hes⟩ := Act.trace_bind_ok.mp h
    have hprepared : Prepared request raw pod := ⟨metadata, hmetadata, hpod⟩
    have hsubset : found ⊆ es := by
      rw [hes]
      exact List.subset_append_left found after
    cases pairs with
    | none =>
      cases h.2
      exact .rejected _ _ _
    | some pairs =>
      obtain hfound | ⟨e, he⟩ := Act.trace_rescueReported_return hpairs
      · obtain ⟨o, hpairs, ho⟩ := Act.trace_map.mp hfound
        cases o with
        | error f => cases ho
        | ok pairs' =>
          cases ho
          cases pairs with
          | nil =>
            cases h.2
            exact .unused _ _ pod found hprepared hpairs hsubset
          | cons p pairs =>
            exact verdict_of_mutate hprepared (List.cons_ne_nil p pairs) hpairs hsubset h
      · cases he

theorem verdict_of_decide (hraw : request.get? "object" = some raw)
    (h : (decide c request).Trace es (.ok r)) : Verdict c request raw es r := by
  rw [decide] at h
  obtain ⟨uid, -, h⟩ := Act.trace_liftM_bind_ok.mp h
  obtain ⟨object, hobject, h⟩ := Act.trace_liftM_bind_ok.mp h
  obtain ⟨-, hobject⟩ := Json.find_eq_ok.mp hobject
  rw [hraw] at hobject
  subst hobject
  split at h
  next ms heq =>
    cases heq
    exact verdict_of_answerPod h
  next =>
    cases h.2
    exact .rejected _ _ _

/-- **The ways of a review.** However the remote ends answer, a review ends in one of them. -/
theorem verdict_of_review (hrequest : j.get? "request" = some request)
    (hraw : request.get? "object" = some raw) (h : (review c j).Trace es (.ok r)) :
    Verdict c request raw es r := by
  rw [review] at h
  obtain ⟨found, hfound, h⟩ := Act.trace_liftM_bind_ok.mp h
  obtain ⟨-, hfound⟩ := Json.findD_eq_ok.mp hfound
  rw [hrequest, Option.getD_some] at hfound
  subst hfound
  rw [if_pos (Json.isPresent_of_get? hraw)] at h
  obtain ⟨r', hdecide, hr⟩ | ⟨f, before, after, -, hrescue, -⟩ := Act.trace_rescue.mp h
  · cases hr
    exact verdict_of_decide hraw hdecide
  · -- whatever fails without being foreseen rejects the pod
    have hrejected : ∀ message, (do
        let uid ← request.findD "uid" (.str "")
        return .errored uid 500 message : Act Response).Trace after (.ok r) →
        Verdict c request raw es r := by
      intro message hanswer
      obtain ⟨uid, -, hanswer⟩ := Act.trace_liftM_bind_ok.mp hanswer
      cases hanswer.2
      exact .rejected _ _ _
    cases f with
    | reported e => exact hrejected _ hrescue
    | defect reason => exact hrejected _ hrescue
    | interrupted => cases hrescue.2

end Admission

end SubpathCsi
