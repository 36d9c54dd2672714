import SubpathCsi.Proofs.Admission.Reading
import SubpathCsi.Proofs.Admission.Review
import SubpathCsi.Proofs.Calls

/-!
# Pods of others

The webhook sees every pod of the cluster. A pod whose claims are all those of other drivers is
none of its business, and is admitted as it is; unless a claim is not bound and names a storage class
that does not exist. The look-up of that class is an error like any other, and rejects the pod.

* `Claim.Foreign`, `Claim.Dangles`: claims of other drivers, and those whose storage class is
  missing;
* `Pair.hinges_ofItems`: what the look-up of the volumes of such a pod comes to;
* `Admission.allowed_iff_of_foreign`: which of these pods are admitted;
* `Admission.rejected_manualPod`: one that is not.
-/

namespace SubpathCsi

open Pod (listed)

/-! ### Claims of others -/

/-- In a cluster, a claim is none of this driver: it is bound to a volume without a CSI source or of
another driver, or it is not bound, and no storage class of its name has this driver as its
provisioner. -/
inductive Claim.Foreign (c : Config) (k : Cluster) (claim : Claim) : Prop
  /-- It is bound to a volume without a CSI source, or of another driver. -/
  | bound (volume : String) (v : Volume)
      (hbound : claim.volumeName.filter (!·.isEmpty) = some volume)
      (hvolume : k.volume? (.str volume) = some v)
      (hdriver : ∀ source, v.csi = some source → source.driver ≠ c.driverName)
  /-- It is not bound, and there is no storage class by which this driver would make its volume. -/
  | unbound (hbound : claim.volumeName.filter (!·.isEmpty) = none)
      (hdriver : ∀ className made, claim.storageClassName.filter (!·.isEmpty) = some className →
        k.class? (.str className) = some made → made.provisioner ≠ c.driverName)

/-- A claim is not bound, and there is no storage class of the name that it gives. -/
def Claim.Dangles (k : Cluster) (claim : Claim) : Prop :=
  claim.volumeName.filter (!·.isEmpty) = none ∧
    ∃ className, claim.storageClassName.filter (!·.isEmpty) = some className ∧
      k.class? (.str className) = none

/-- If a volume of a pod stands for a claim, the claim is in the cluster, and satisfies `P`. -/
def Pod.Claims (k : Cluster) (space : Json) (P : Claim → Prop) (item : Json) : Prop :=
  ∀ source, Pod.claimSource? item = .ok (some source) →
    ∃ name claim, source.get? "claimName" = some name ∧ k.claim? name space = some claim ∧ P claim

/-- A computation comes to a result if `p` holds, and else to an error that is reported. -/
structure Hinges {α : Type} (p : Prop) (x : Except Failure α) (a : α) : Prop where
  /-- The result. -/
  ok : p → x = .ok a
  /-- The error. -/
  reported : ¬ p → ∃ e, x = .error (.reported e)

/-! ### Looking up -/

namespace Pair

variable {c : Config} {w w' : Remote} {space item : Json}

/-- A volume of another driver makes no pair. -/
theorem run_ofBound (h : w.Steady w') {claim : Claim} {volume : String} {v : Volume}
    (hvolume : w.cluster.volume? (.str volume) = some v)
    (hdriver : ∀ source, v.csi = some source → source.driver ≠ c.driverName) (item : Json) :
    ((ofBound c item claim volume).run w').1 = .ok none := by
  have hours : isOurs c v = false := by
    rw [isOurs]
    cases hcsi : v.csi with
    | none => rfl
    | some source => exact decide_eq_false (hdriver source hcsi)
  rw [ofBound, Act.run_bind_of_ok (Kube.run_volume h hvolume), hours]
  rfl

/-- Whether this driver is to make the volume of a claim is known if its storage class exists. -/
theorem hinges_isProvisioned (h : w.Steady w') {claim : Claim}
    (hbound : claim.volumeName.filter (!·.isEmpty) = none)
    (hdriver : ∀ className made, claim.storageClassName.filter (!·.isEmpty) = some className →
      w.cluster.class? (.str className) = some made → made.provisioner ≠ c.driverName) :
    Hinges (¬ claim.Dangles w.cluster) ((isProvisioned c claim).run w').1 false := by
  rw [isProvisioned]
  cases hname : className? claim with
  | none =>
    refine ⟨fun _ => rfl, fun hdangles => absurd ?_ hdangles⟩
    rintro ⟨-, className, hsome, -⟩
    cases hname.symm.trans hsome
  | some className =>
    cases hclass : w.cluster.class? (.str className) with
    | none =>
      have hdangles : claim.Dangles w.cluster := ⟨hbound, className, hname, hclass⟩
      obtain ⟨e, he⟩ := Kube.run_storageClass_of_absent (c := c) h hclass
      exact ⟨fun hnot => absurd hdangles hnot, fun _ => ⟨e, Act.run_bind_of_error he _⟩⟩
    | some made =>
      refine ⟨fun _ => ?_, fun hdangles => absurd ?_ hdangles⟩
      · dsimp only
        rw [Act.run_bind_of_ok (Kube.run_storageClass h hclass),
          decide_eq_false (hdriver className made hname hclass)]
        rfl
      · rintro ⟨-, className', hname', hclass'⟩
        cases hname.symm.trans hname'
        cases hclass.symm.trans hclass'

/-- **The look-up of a claim of others** finds no pair, if the storage class exists that a claim
that is not bound names. -/
theorem hinges_ofItem (h : w.Steady w') (hitem : item.IsObject)
    (hforeign : Pod.Claims w.cluster space (·.Foreign c w.cluster) item) :
    Hinges (Pod.Claims w.cluster space (¬ ·.Dangles w.cluster) item)
      ((ofItem c space item).run w').1 none := by
  have hread : Yields (Pod.claimSource? item) fun _ => True := by
    refine (Json.yields_findD (P := fun _ => True) hitem (fun _ _ => trivial) trivial).bind
      fun source _ => yields_ok trivial
  obtain ⟨source?, hsource, -⟩ := hread
  rw [ofItem, hsource, Act.liftM_ok_bind]
  cases source? with
  | none =>
    refine ⟨fun _ => rfl, fun hnot => absurd ?_ hnot⟩
    intro source hsome
    cases hsource.symm.trans hsome
  | some source =>
    obtain ⟨name, claim, hname, hclaim, hforeign⟩ := hforeign source hsource
    -- of the pod nothing matters but this claim
    have hiff : Pod.Claims w.cluster space (¬ ·.Dangles w.cluster) item ↔
        ¬ claim.Dangles w.cluster := by
      constructor
      · intro hall
        obtain ⟨name', claim', hname', hclaim', hnot⟩ := hall source hsource
        cases hname.symm.trans hname'
        cases hclaim.symm.trans hclaim'
        exact hnot
      · intro hnot source' hsource'
        cases hsource.symm.trans hsource'
        exact ⟨name, claim, hname, hclaim, hnot⟩
    have hentry : source.entry "claimName" = .ok name := Json.entry_eq_ok.mpr hname
    rw [hiff]
    dsimp only
    rw [hentry, Act.liftM_ok_bind, Act.run_bind_of_ok (Kube.run_claim h hclaim)]
    have hrest := h.run (Kube.claim c name space)
    cases hforeign with
    | bound volume v hbound hvolume hdriver =>
      rw [hbound]
      refine ⟨fun _ => run_ofBound hrest hvolume hdriver item, fun hdangles => absurd ?_ hdangles⟩
      rintro ⟨hunbound, -⟩
      cases hbound.symm.trans hunbound
    | unbound hbound hdriver =>
      rw [hbound]
      have hmade := hinges_isProvisioned hrest hbound hdriver
      refine ⟨fun hexists => ?_, fun hdangles => ?_⟩
      · dsimp only
        rw [Act.run_bind_of_ok (hmade.ok hexists)]
        rfl
      · obtain ⟨e, he⟩ := hmade.reported hdangles
        exact ⟨e, Act.run_bind_of_error he _⟩

/-- The look-up of several volumes hinges on all of them. -/
theorem hinges_ofItems {items : List Json} (h : w.Steady w')
    (hitems : ∀ item ∈ items, item.IsObject ∧
      Pod.Claims w.cluster space (·.Foreign c w.cluster) item) :
    Hinges (∀ item ∈ items, Pod.Claims w.cluster space (¬ ·.Dangles w.cluster) item)
      ((ofItems c space items).run w').1 [] := by
  induction items generalizing w' with
  | nil => exact ⟨fun _ => rfl, fun hnot => absurd (List.forall_mem_nil _) hnot⟩
  | cons item items ih =>
    obtain ⟨⟨hobject, hforeign⟩, hrest⟩ := List.forall_mem_cons.mp hitems
    have hfirst := hinges_ofItem h hobject hforeign
    have hothers := ih (h.run (ofItem c space item)) hrest
    rw [ofItems]
    by_cases hitem : Pod.Claims w.cluster space (¬ ·.Dangles w.cluster) item
    · rw [Act.run_bind_of_ok (hfirst.ok hitem)]
      refine ⟨fun hall => ?_, fun hnot => ?_⟩
      · rw [Act.run_bind_of_ok (hothers.ok (List.forall_mem_cons.mp hall).2)]
        rfl
      · obtain ⟨e, he⟩ := hothers.reported fun hall =>
          hnot (List.forall_mem_cons.mpr ⟨hitem, hall⟩)
        exact ⟨e, Act.run_bind_of_error he _⟩
    · refine ⟨fun hall => absurd (List.forall_mem_cons.mp hall).1 hitem, fun _ => ?_⟩
      obtain ⟨e, he⟩ := hfirst.reported hitem
      exact ⟨e, Act.run_bind_of_error he _⟩

end Pair

/-! ### Pods -/

namespace Admission

open Json (Given IsListOf IsObject Nullable)

variable {c : Config} {j request raw pod : Json} {r : Response} {w : Remote}

/-- What a review reads of a pod before it gives it sidecars can be read. -/
structure Legible (raw : Json) : Prop extends Readable raw where
  /-- Its specification is an object, if there is one. -/
  spec : Given IsObject "spec" raw
  /-- Its volumes are objects, if there are any. -/
  volumes : ∀ spec, raw.get? "spec" = some spec → Given (Nullable (IsListOf IsObject)) "volumes" spec

/-- The volumes that a pod lists are read. -/
theorem yields_volumes (hraw : Legible raw) (hpod : Prepared request raw pod) :
    Yields (do (← (← Pod.spec pod).findD "volumes" .null).each) fun items =>
      items = listed raw "volumes" ∧ ∀ item ∈ items, item.IsObject := by
  obtain ⟨metadata, hmetadata, hassign⟩ := hpod
  have hspec : pod.get? "spec" = raw.get? "spec" :=
    (Json.altered_assign hassign).get?_eq "spec" (by decide)
  have hobject : ((raw.get? "spec").getD (.obj [])).IsObject := by
    cases hget : raw.get? "spec" with
    | none => exact ⟨[], rfl⟩
    | some spec => exact hraw.spec spec hget
  have hvolumes : Given (Nullable (IsListOf IsObject)) "volumes"
      ((raw.get? "spec").getD (.obj [])) := by
    cases hget : raw.get? "spec" with
    | none =>
      rintro _ ⟨⟩
    | some spec => exact hraw.volumes spec hget
  have hread : Pod.spec pod = .ok ((raw.get? "spec").getD (.obj [])) :=
    Json.findD_eq_ok.mpr ⟨Json.isObject_of_assign hassign, by rw [hspec]⟩
  rw [hread, Pod.listed_eq]
  exact Json.yields_items hobject hvolumes

/-- **The look-up of a pod of others** finds no pairs, if the storage classes exist that its claims
name, and else ends with an error. -/
theorem hinges_ofPod (hw : w.faults = []) (hraw : Legible raw) (hpod : Prepared request raw pod)
    (hforeign : ∀ item ∈ listed raw "volumes",
      Pod.Claims w.cluster (spaceOf request raw) (·.Foreign c w.cluster) item) :
    Hinges (∀ item ∈ listed raw "volumes",
        Pod.Claims w.cluster (spaceOf request raw) (¬ ·.Dangles w.cluster) item)
      ((Pair.ofPod c pod).run w).1 [] := by
  obtain ⟨items, hitems, rfl, hobjects⟩ := yields_volumes hraw hpod
  obtain ⟨space, hspace⟩ : ∃ space, Pod.space pod = .ok space := by
    obtain ⟨metadata, hmetadata, hassign⟩ := hpod
    have hread : Pod.metadata pod = .ok metadata :=
      Json.findD_eq_ok.mpr ⟨Json.isObject_of_assign hassign, by
        rw [Json.get?_assign hassign, if_pos rfl, Option.getD_some]⟩
    exact ⟨_, bind_eq_ok.mpr ⟨metadata, hread,
      Json.findD_eq_ok.mpr ⟨isObject_of_withSpace hmetadata, rfl⟩⟩⟩
  cases space_eq_of_prepared hpod hspace
  obtain ⟨spec, hspec, hitems⟩ := bind_eq_ok.mp hitems
  obtain ⟨value, hvalue, hitems⟩ := bind_eq_ok.mp hitems
  rw [Pair.ofPod, hspace, Act.liftM_ok_bind, hspec, Act.liftM_ok_bind, hvalue, Act.liftM_ok_bind,
    hitems, Act.liftM_ok_bind]
  exact Pair.hinges_ofItems (.refl hw) fun item hitem => ⟨hobjects item hitem, hforeign item hitem⟩

/-- An answer that comes to be is that of the review. -/
theorem run_review (hrequest : j.get? "request" = some request)
    (hraw : request.get? "object" = some raw) (hobject : raw.IsObject)
    (h : ((answerPod c request ((request.get? "uid").getD (.str "")) raw).run w).1 = .ok r) :
    ((review c j).run w).1 = .ok r := by
  rw [review_eq hrequest hraw hobject]
  exact Act.run_rescue_of_ok h _

/-- **Pods of others.** Without faults, a pod all of whose claims exist and are of other drivers gets
no patch. It is admitted if a label says that it is to be passed over, or if there is a storage class
for each claim that is not bound and names one; and rejected if not. -/
theorem allowed_iff_of_foreign (hw : w.faults = []) (hrequest : j.get? "request" = some request)
    (hraw : request.get? "object" = some raw) (hlegible : Legible raw)
    (hforeign : ∀ item ∈ listed raw "volumes",
      Pod.Claims w.cluster (spaceOf request raw) (·.Foreign c w.cluster) item) :
    ∃ r, ((review c j).run w).1 = .ok r ∧ r.toJson.get? "patch" = none ∧
      (r.toJson.get? "allowed" = some (.bool true) ↔
        Marked raw doneLabel ∨ Marked raw disableLabel ∨
          ∀ item ∈ listed raw "volumes",
            Pod.Claims w.cluster (spaceOf request raw) (¬ ·.Dangles w.cluster) item) := by
  have hreview := fun r => run_review (c := c) (r := r) (w := w) hrequest hraw hlegible.pod
  generalize (request.get? "uid").getD (.str "") = uid at hreview
  obtain ⟨hdone, hanswer⟩ | ⟨-, hdisabled, hanswer⟩ | ⟨hdone, hdisabled, pod, name, hpod, hanswer⟩ :=
    answerPod_cases (Json.isObject_of_get? hraw) hlegible.toReadable c uid
  · rw [hanswer] at hreview
    exact ⟨_, hreview _ rfl, rfl, iff_of_true rfl (.inl hdone)⟩
  · rw [hanswer] at hreview
    exact ⟨_, hreview _ rfl, rfl, iff_of_true rfl (.inr (.inl hdisabled))⟩
  rw [hanswer] at hreview
  have hlookup := hinges_ofPod hw hlegible hpod hforeign
  by_cases hexist : ∀ item ∈ listed raw "volumes",
      Pod.Claims w.cluster (spaceOf request raw) (¬ ·.Dangles w.cluster) item
  · have hpairs : (((some <$> Pair.ofPod c pod).rescueReported fun _ => return none).run w).1 =
        .ok (some []) := by
      refine Act.run_rescue_of_ok ?_ _
      rw [map_eq_pure_bind, Act.run_bind_of_ok (hlookup.ok hexist)]
      rfl
    refine ⟨.allowed uid "skip mutating the pod because it doesn't use CFS volume", hreview _ ?_, rfl,
      iff_of_true rfl (.inr (.inr hexist))⟩
    rw [Act.run_bind_of_ok hpairs]
    rfl
  · obtain ⟨e, he⟩ := hlookup.reported hexist
    have hpairs : (((some <$> Pair.ofPod c pod).rescueReported fun _ => return none).run w).1 =
        .ok none := by
      have hfails : ((some <$> Pair.ofPod c pod).run w).1 = .error (.reported e) := by
        rw [map_eq_pure_bind]
        exact Act.run_bind_of_error he _
      rw [Act.rescueReported, Act.run_rescue_of_error hfails]
      rfl
    refine ⟨.errored uid 400 "could not get pv from pod", hreview _ ?_, rfl, iff_of_false ?_ ?_⟩
    · rw [Act.run_bind_of_ok hpairs]
      rfl
    · intro h
      cases h
    · rintro (h | h | h)
      · exact hdone h
      · exact hdisabled h
      · exact hexist h

/-- A pod with two claims: one is bound to a volume of the host, the other waits for somebody to make
a volume by hand. -/
def manualPod : Json :=
  .obj [("metadata", Mutation.named "app" [("namespace", .str "default")]),
    ("spec", .obj [("containers", .arr [Mutation.named "app"]),
      ("volumes", .arr [Mutation.claimed "data" "claim-1", Mutation.claimed "scratch" "claim-2"])])]

/-- A cluster with the claims of this pod, and with storage classes. -/
def manualCluster (classes : List StorageClass) : Cluster where
  volumes := [{ metadata := { name := "pv-1" } }]
  claims := [Mutation.boundClaim "claim-1" "pv-1",
    { metadata := { name := "claim-2", space := some "default" },
      storageClassName := some "manual" }]
  classes := classes

/-- A storage class for volumes that are made by hand. -/
def manualClass : StorageClass where
  metadata := { name := "manual" }
  provisioner := "kubernetes.io/no-provisioner"

theorem legible_manualPod : Legible manualPod := by
  refine ⟨⟨⟨_, rfl⟩, ?_, ?_⟩, ?_, ?_⟩
  · rintro _ ⟨⟩
    exact ⟨_, rfl⟩
  · rintro _ ⟨⟩ _ ⟨⟩
  · rintro _ ⟨⟩
    exact ⟨_, rfl⟩
  · rintro _ ⟨⟩ _ ⟨⟩
    refine .inr ⟨_, rfl, ?_⟩
    rintro _ (_ | ⟨_, _ | ⟨_, ⟨⟩⟩⟩)
    · exact ⟨_, rfl⟩
    · exact ⟨_, rfl⟩

/-- None of the claims is of this driver. -/
theorem foreign_manualPod {classes : List StorageClass}
    (hclasses : ∀ made ∈ classes, made.provisioner ≠ ({} : Config).driverName) :
    ∀ item ∈ listed manualPod "volumes", Pod.Claims (manualCluster classes) (.str "default")
      (·.Foreign {} (manualCluster classes)) item := by
  rintro _ (_ | ⟨_, _ | ⟨_, ⟨⟩⟩⟩)
  · rintro _ ⟨⟩
    exact ⟨.str "claim-1", _, rfl, rfl, .bound "pv-1" _ rfl rfl nofun⟩
  · rintro _ ⟨⟩
    refine ⟨.str "claim-2", _, rfl, rfl, .unbound rfl fun className made _ hmade => ?_⟩
    exact hclasses made (List.mem_of_find?_eq_some hmade)

theorem allowed_iff_of_foreign_manualPod :
    let w : Remote := { cluster := manualCluster [manualClass] }
    w.faults = [] ∧ Legible manualPod ∧
      (∀ item ∈ listed manualPod "volumes",
        Pod.Claims w.cluster (.str "default") (·.Foreign {} w.cluster) item) ∧
      ∃ r, ((review {} (reviewOf manualPod)).run w).1 = .ok r ∧ r.toJson.get? "patch" = none ∧
        r.toJson.get? "allowed" = some (.bool true) := by
  intro w
  have hforeign : ∀ item ∈ listed manualPod "volumes",
      Pod.Claims w.cluster (.str "default") (·.Foreign {} w.cluster) item := by
    refine foreign_manualPod ?_
    rintro _ (_ | ⟨_, ⟨⟩⟩)
    exact (by decide)
  have hrequest : (reviewOf manualPod).get? "request" =
      some (.obj [("uid", .str "uid-1"), ("object", manualPod)]) := rfl
  obtain ⟨r, hrun, hpatch, hallowed⟩ :=
    allowed_iff_of_foreign (c := {}) (w := w) rfl hrequest rfl legible_manualPod hforeign
  refine ⟨rfl, legible_manualPod, hforeign, r, hrun, hpatch, hallowed.mpr (.inr (.inr ?_))⟩
  rintro _ (_ | ⟨_, _ | ⟨_, ⟨⟩⟩⟩)
  · rintro _ ⟨⟩
    exact ⟨.str "claim-1", _, rfl, rfl, nofun⟩
  · rintro _ ⟨⟩
    refine ⟨.str "claim-2", _, rfl, rfl, ?_⟩
    rintro ⟨-, _, ⟨⟩, habsent⟩
    cases habsent

/-- The pod is rejected. -/
def rejects : Except Failure Response → Bool
  | .ok (.errored ..) => true
  | _ => false

theorem rejects_eq_true {r : Except Failure Response} (h : rejects r = true) :
    ∃ uid code message, r = .ok (.errored uid code message) := by
  unfold rejects at h
  split at h
  · exact ⟨_, _, _, rfl⟩
  · cases h

/-- **A pod of others that is rejected.** None of its claims is of this driver, all of them exist, and
so does the volume of the one that is bound. -/
theorem rejected_manualPod :
    let w : Remote := { cluster := manualCluster [] }
    w.faults = [] ∧
      (∀ item ∈ listed manualPod "volumes",
        Pod.Claims w.cluster (.str "default") (·.Foreign {} w.cluster) item) ∧
      ∃ r, ((review {} (reviewOf manualPod)).run w).1 = .ok r ∧
        r.toJson.get? "allowed" = some (.bool false) := by
  intro w
  have hrejects : rejects ((review {} (reviewOf manualPod)).run w).1 = true := by decide +kernel
  obtain ⟨uid, code, message, hrun⟩ := rejects_eq_true hrejects
  exact ⟨rfl, foreign_manualPod (List.forall_mem_nil _), _, hrun, rfl⟩

end Admission

end SubpathCsi
