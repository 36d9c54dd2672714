import SubpathCsi.Proofs.Admission.Reading
import SubpathCsi.Proofs.Admission.Review

/-!
# Admission, once more

A pod may come to admission again after it got its sidecars. Its label says so, and it is admitted
as it is before anything is looked up. The label survives whatever labels the pod came with and
whatever labels the volumes give, since it is written after all of them.

* `Admission.review_of_marked`: a pod that has its sidecars is admitted, and nothing is asked;
* `Admission.review_of_patch`: so is every pod that a patch of a review makes.
-/

namespace SubpathCsi

namespace Admission

variable {c : Config} {j request raw : Json} {r : Response}

/-- **A pod that has its sidecars** is admitted as it is, and nothing is asked for it. -/
theorem review_of_marked (hrequest : j.get? "request" = some request)
    (hraw : request.get? "object" = some raw) (hdone : Marked raw doneLabel) (c : Config) :
    ∃ uid, review c j = return .allowed uid "skip mutating the pod because injection is done" := by
  have hreadable := Readable.of_marked hdone
  refine ⟨(request.get? "uid").getD (.str ""), ?_⟩
  obtain ⟨-, hanswer⟩ | ⟨hnot, -⟩ | ⟨hnot, -⟩ :=
    answerPod_cases (Json.isObject_of_get? hraw) hreadable c ((request.get? "uid").getD (.str ""))
  · rw [review_eq hrequest hraw hreadable.pod, hanswer]
    rfl
  · exact absurd hdone hnot
  · exact absurd hdone hnot

/-- **Admission, once more.** If a review answers with a patch, every review of the pod that the
patch makes, with whatever request it comes, asks nothing, and admits the pod as it is. This holds
for all clusters, faults and services, for all labels of the pod and of the volumes, and with or
without a namespace in the pod. -/
theorem review_of_patch {w : Remote} (hrequest : j.get? "request" = some request)
    (hraw : request.get? "object" = some raw) (hkeys : DistinctKeys raw)
    (h : ((review c j).run w).1 = .ok r) {patch : Json}
    (hpatch : r.toJson.get? "patch" = some patch) :
    ∃ operations, patch = .str (Response.encode operations) ∧
      ∀ again request', again.get? "request" = some request' →
        request'.get? "object" = some (Patch.apply raw (operations.filterMap Patch.opOfJson?)) →
        ∃ uid message, review c again = return .allowed uid message := by
  have htrace := (review c j).trace_run w
  rw [h] at htrace
  cases verdict_of_review hrequest hraw htrace with
  | rejected | marked | unused => cases hpatch
  | served uid operations pod pairs found during out hpod hne hpairs hfound hrun hpatchOf =>
    obtain ⟨hmarked, -⟩ := follows_patchOf hkeys hpod hne hpairs hrun hpatchOf
    rw [Response.patch_eq] at hpatch
    split at hpatch
    · cases hpatch
    · refine ⟨operations, (Option.some.inj hpatch).symm, fun again request' hagain hobject => ?_⟩
      obtain ⟨uid, hreview⟩ := review_of_marked hagain hobject hmarked c
      exact ⟨uid, _, hreview⟩

/-- A pod without a namespace of its own, whose label says that it has no sidecars. -/
def unplacedPod : Json :=
  .obj [("metadata", Mutation.named "app" [("labels", .obj [(doneLabel, .str "false")])]),
    ("spec", .obj [("containers", .arr [Mutation.named "app"]),
      ("volumes", .arr [Mutation.claimed "data" "claim-1"])])]

/-- A review of a pod that is created in a namespace. -/
def reviewIn (space : String) (pod : Json) : Json :=
  .obj [("request", .obj [("uid", .str "uid-1"), ("namespace", .str space), ("object", pod)])]

theorem distinctKeys_unplacedPod : DistinctKeys unplacedPod := by
  refine ⟨fun top htop => ?_, fun spec hspec => ?_, fun metadata hmetadata => ?_,
    fun labels hlabels => ?_⟩
  · cases htop
    rintro _ ⟨⟩
    exact (by decide : ["metadata", "spec"].Nodup)
  · cases hspec
    rintro _ ⟨⟩
    exact (by decide : ["containers", "volumes"].Nodup)
  · cases hmetadata
    rintro _ ⟨⟩
    exact (by decide : ["name", "labels"].Nodup)
  · cases hlabels
    rintro _ ⟨⟩
    exact List.nodup_singleton doneLabel

theorem review_of_patch_unplacedPod :
    let w : Remote := { cluster := Mutation.crowdedCluster }
    ∃ r patch, ((review {} (reviewIn "default" unplacedPod)).run w).1 = .ok r ∧
      r.toJson.get? "patch" = some patch ∧
      ∃ operations, patch = .str (Response.encode operations) ∧
        ∀ again request', again.get? "request" = some request' →
          request'.get? "object" =
            some (Patch.apply unplacedPod (operations.filterMap Patch.opOfJson?)) →
          ∃ uid message, review {} again = return .allowed uid message := by
  intro w
  have hchanges : changes ((review {} (reviewIn "default" unplacedPod)).run w).1 = true := by
    decide +kernel
  obtain ⟨uid, operation, operations, hpatched⟩ := changes_eq_true hchanges
  exact ⟨_, _, hpatched, rfl,
    review_of_patch rfl rfl distinctKeys_unplacedPod hpatched rfl⟩

end Admission

end SubpathCsi
