import SubpathCsi.Proofs.Volume.Deletion
import SubpathCsi.Proofs.Volume.Provision

/-!
# Taking along a sibling's subpath

The removal of a volume without a path pattern takes it that the subpath is its own. Two provisioned
volumes may lie at one subpath all the same: the pattern may come out empty for one of them, which
then lies under its own name, and come out as that name for the other; or a parameter may give the
subpath of both.

* `Volume.MayTake`: with some answers, a removal takes along the subpath of another volume that the
  API server holds;
* `Volume.mayTake_iff`: this is so exactly for volumes at one subpath, when the one that goes has no
  pattern;
* `mayTake_provisioned_iff`: the same in terms of what the two volumes were made for.
-/

namespace SubpathCsi

variable {c : Config} {v : Volume}

namespace Volume

/-! ### Volumes -/

/-- The removal of `v` may take along the subpath of `u`, while the API server holds both. -/
def MayTake (c : Config) (v u : Volume) : Prop :=
  ∃ es o, (v.delete c).Trace es o ∧ (∀ vs, listing c (.ok vs) ∈ es → v ∈ vs ∧ u ∈ vs) ∧
    ∃ e ∈ es, e.request.Removes u.subpath

variable {u : Volume}

/-- A sibling of the class loses its subpath to the removal of a volume exactly if both lie at one
subpath, and the volume that goes has no path pattern. -/
theorem mayTake_iff {name : String} (hpolicy : v.reclaimPolicy = some reclaimDelete)
    (hcsi : v.csi ≠ none) (hclaim : v.claimRef ≠ none)
    (hdescriptor : filled? v.attributes descriptorKey = some name) (hname : u.name ≠ v.name)
    (hlive : u.metadata.isLive = true) (hclass : u.storageClassName = v.storageClassName) :
    v.MayTake c u ↔ (v.pathPattern?.getD "").isEmpty = true ∧ u.subpath = v.subpath := by
  constructor
  · rintro ⟨es, o, htrace, hheld, e, he, hremoves⟩
    obtain ⟨hown, vs, hlisted, hmay⟩ :=
      (course_of_trace htrace).removes (mem_removals.mpr ⟨he, hremoves.1⟩)
    -- the removal is that of `v`, so both subpaths are what it tells
    have hsubpath : u.subpath = v.subpath := by
      have htold := hremoves.2.symm.trans hown.2
      injections
    refine ⟨?_, hsubpath⟩
    rw [mayDeleteSubpath, Bool.or_eq_true, Bool.not_eq_true'] at hmay
    refine hmay.resolve_right fun hnone => ?_
    have hshares : v.sharesSubpath u = true :=
      sharesSubpath_iff.mpr ⟨hname, hlive, hclass, hsubpath⟩
    exact absurd hshares (List.any_eq_false.mp hnone u (hheld vs hlisted).2)
  · rintro ⟨hpattern, hsubpath⟩
    obtain ⟨source, hcsi⟩ := Option.ne_none_iff_exists'.mp hcsi
    obtain ⟨ref, hclaim⟩ := Option.ne_none_iff_exists'.mp hclaim
    -- obliging remote ends, which list just the two, let the removal through
    obtain ⟨es, o, htrace, hreply⟩ := Act.exists_trace (v.delete c) (obligingReply [v, u])
    have hlisted : ∀ x, listing c x ∈ es → x = .ok [v, u] := fun x hx => hreply _ hx
    have hmay : mayDeleteSubpath [v, u] v v.pathPattern? = true := by
      rw [mayDeleteSubpath, hpattern, Bool.true_or]
    have hremoved := (course_of_trace htrace).removes_once hpolicy hcsi hclaim hdescriptor
      (fun x hx => ⟨_, hlisted x hx, hmay⟩) (fun y hy => isStanding_of_reply (hreply _ hy))
      fun e he => isObliging_of_reply (hreply e he)
    obtain ⟨e, hone, hremoves⟩ := hremoved
    have he : e ∈ removals es := by rw [hone]; exact .head _
    refine ⟨es, o, htrace, ?_, e, (mem_removals.mp he).1, hsubpath ▸ hremoves⟩
    intro vs hvs
    cases hlisted _ hvs
    exact ⟨.head _, .tail _ (.head _)⟩

/-- The volume that was made for a claim, as the API server holds it: bound, and with metadata that
may have grown. -/
def held (v : Volume) (claim : Claim) (m : ObjectMeta) : Volume :=
  { v.boundTo claim with metadata := m }

end Volume

/-! ### Orders -/

namespace VolumeOrder

variable {o p : VolumeOrder}

/-- The volume of `o` has no path pattern, and lies where the volume of `p` lies. There are two ways
to this: the pattern comes out empty for `o`, and as the name of its volume for `p`; or a parameter
gives the subpath of both. -/
def Overlaps (o p : VolumeOrder) : Prop :=
  filled? o.parameters pathPatternKey = none ∧
    ((Keyed.get? o.parameters subpathKey = none ∧
        filled? p.parameters pathPatternKey = some o.name) ∨
      ∃ text, Keyed.get? o.parameters subpathKey = some text ∧
        Keyed.get? p.parameters subpathKey = some text)

theorem filled?_eq_none {m : Keyed String} {key : String} :
    filled? m key = none ↔ ((Keyed.get? m key).getD "").isEmpty = true := by
  rw [filled?]
  cases Keyed.get? m key with
  | none => simp
  | some text => simp

/-- Without a subpath among its parameters, the volume of `p` lies under the name of another volume
exactly if its pattern comes out as that name. -/
theorem subpath_eq_iff {name : String} (hname : p.name ≠ name) :
    p.subpath = name ↔ filled? p.parameters pathPatternKey = some name := by
  rw [subpath]
  cases filled? p.parameters pathPatternKey with
  | none => exact ⟨fun h => absurd h hname, nofun⟩
  | some text => exact Option.some_inj.symm

/-- Two volumes of one class lie at one subpath, and the first has no pattern. -/
theorem overlaps_iff (hclass : p.storageClass = o.storageClass) (hname : p.name ≠ o.name)
    (hkeys : (Keyed.keys o.storageClass.parameterMap).Nodup) (text bytes text' bytes' : String) :
    ((o.volume c text bytes).pathPattern?.getD "").isEmpty = true ∧
        (p.volume c text' bytes').subpath = (o.volume c text bytes).subpath ↔
      o.Overlaps p := by
  rw [pathPattern?_volume hkeys, subpath_volume hkeys, subpath_volume (hclass ▸ hkeys),
    ← filled?_eq_none, Overlaps]
  refine and_congr_right fun hpattern => ?_
  have hsubpath : o.subpath = o.name := by rw [subpath, hpattern, Option.getD_none]
  -- both have a parameter for the subpath, or neither has
  rw [get?_parameters o subpathKey, get?_parameters p subpathKey, hclass]
  cases Keyed.get? o.storageClass.parameterMap subpathKey with
  | none =>
    rw [Option.map_none, Option.map_none, Option.getD_none, Option.getD_none, hsubpath,
      subpath_eq_iff hname]
    simp
  | some value => simp [eq_comm]

end VolumeOrder

/-- **Who loses a subpath.** Two volumes were made for claims of a class with removal as its policy,
which gives each of its parameters once, and the API server holds both, the second of them live.
With some answers, the removal of the first takes along the subpath of the second: exactly if their
orders overlap. -/
theorem mayTake_provisioned_iff {o p : VolumeOrder} {u : Volume} {es es' : List Exchange}
    {name : String} {m n : ObjectMeta}
    (hpolicy : o.storageClass.reclaimPolicy.getD reclaimDelete = reclaimDelete)
    (hkeys : (Keyed.keys o.storageClass.parameterMap).Nodup)
    (hclass : p.storageClass = o.storageClass) (hname : p.name ≠ o.name)
    (hv : (provision c o).Trace es (.ok v)) (hu : (provision c p).Trace es' (.ok u))
    (hdescriptor : filled? v.attributes descriptorKey = some name)
    (hm : m.name = v.name) (hn : n.name = u.name) (hlive : n.isLive = true) :
    (v.held o.claim m).MayTake c (u.held p.claim n) ↔ o.Overlaps p := by
  obtain ⟨-, -, -, -, -, -, hv⟩ := trace_provision.mp hv
  obtain ⟨-, -, -, -, -, -, hu⟩ := trace_provision.mp hu
  obtain ⟨text, -, bytes, -, -, rfl⟩ := VolumeOrder.made_eq_ok.mp hv
  obtain ⟨text', -, bytes', -, -, rfl⟩ := VolumeOrder.made_eq_ok.mp hu
  rw [← VolumeOrder.overlaps_iff (c := c) hclass hname hkeys text bytes text' bytes']
  refine Volume.mayTake_iff ?_ nofun nofun hdescriptor ?_ hlive ?_
  · change some ((o.storageClass.reclaimPolicy.filter (!·.isEmpty)).getD reclaimDelete) = _
    cases hgiven : o.storageClass.reclaimPolicy with
    | none => rfl
    | some policy =>
      rw [hgiven, Option.getD_some] at hpolicy
      rw [hpolicy]
      rfl
  · change n.name ≠ m.name
    rw [hm, hn]
    exact hname
  · change (p.volume c text' bytes').storageClassName = (o.volume c text bytes).storageClassName
    rw [VolumeOrder.volume, VolumeOrder.volume, hclass]

/-- An order of a class whose path pattern is a label of the claim. -/
def teamOrder (name : String) (labels : Keyed String) : VolumeOrder where
  name
  claim := {
    metadata := { name := "claim-of-" ++ name, space := some "default", labels := some labels }
    requests := some (some [("storage", "1Gi")]) }
  storageClass := {
    metadata := { name := "cfs" }
    provisioner := "csi.cfs.confidentialfilesystems.com"
    parameters := some
      [(descriptorKey, "shared-fs"), (pathPatternKey, "$\x7b.pvc.labels.team\x7d")]
    reclaimPolicy := some reclaimDelete }

/-- A claim without a team. -/
def strayOrder : VolumeOrder := teamOrder "pvc-1" []

/-- A claim whose team has the name of the stray's volume. -/
def guestOrder : VolumeOrder := teamOrder "pvc-2" [("team", "pvc-1")]

/-- The volume of an order for one gibibyte. -/
def gibibyte (o : VolumeOrder) : Volume := o.volume {} "1Gi" "1073741824"

/-- An order for one gibibyte that needs no refusal is met, if the services oblige. -/
theorem exists_provision_gibibyte {o : VolumeOrder} (hselector : o.claim.selector = none)
    (hreads : o.readsNothing = false) (hsize : o.size.toOption = some ("1Gi", 1073741824)) :
    ∃ es, (provision {} o).Trace es (.ok (gibibyte o)) := by
  have hgrants : grants (.ok obligingResponse) = true := by decide +kernel
  obtain ⟨credential, hgrant⟩ := Credential.outcome_of_grants hgrants o.claim.metadata.spaceJson
    o.claim.metadata.nameJson .create
  refine ⟨_, trace_provision.mpr ⟨hselector, hreads, _, credential, rfl, hgrant, ?_⟩⟩
  have hbytes : (VolumeOrder.bytesText 1073741824).toOption = some "1073741824" := by
    decide +kernel
  exact VolumeOrder.made_eq_ok.mpr
    ⟨_, _, _, toOption_eq_some.mp hsize, toOption_eq_some.mp hbytes, rfl⟩

theorem exists_provision_strayOrder :
    ∃ es, (provision {} strayOrder).Trace es (.ok (gibibyte strayOrder)) :=
  exists_provision_gibibyte rfl rfl rfl

theorem exists_provision_guestOrder :
    ∃ es, (provision {} guestOrder).Trace es (.ok (gibibyte guestOrder)) :=
  exists_provision_gibibyte rfl rfl rfl

theorem mayTake_provisioned_iff_strayOrder :
    (∃ es es', (provision {} strayOrder).Trace es (.ok (gibibyte strayOrder)) ∧
        (provision {} guestOrder).Trace es' (.ok (gibibyte guestOrder))) ∧
      (((gibibyte strayOrder).held strayOrder.claim { name := "pvc-1" }).MayTake {}
          ((gibibyte guestOrder).held guestOrder.claim { name := "pvc-2" }) ↔
        strayOrder.Overlaps guestOrder) := by
  obtain ⟨es, hstray⟩ := exists_provision_strayOrder
  obtain ⟨es', hguest⟩ := exists_provision_guestOrder
  have hdescriptor : filled? (gibibyte strayOrder).attributes descriptorKey = some "shared-fs" := by
    decide +kernel
  exact ⟨⟨es, es', hstray, hguest⟩, mayTake_provisioned_iff rfl (by decide) rfl (by decide) hstray
    hguest hdescriptor rfl rfl rfl⟩

/-- The pattern comes out empty for the stray, and as the name of the stray's volume for the guest:
the removal of the one may take along the subpath of the other, which is live. -/
theorem stray_mayTake_guest :
    (∃ es, (provision {} strayOrder).Trace es (.ok (gibibyte strayOrder))) ∧
      (∃ es, (provision {} guestOrder).Trace es (.ok (gibibyte guestOrder))) ∧
      guestOrder.storageClass = strayOrder.storageClass ∧
      strayOrder.storageClass.reclaimPolicy = some reclaimDelete ∧
      (gibibyte guestOrder).name ≠ (gibibyte strayOrder).name ∧
      filled? (gibibyte strayOrder).attributes descriptorKey = some "shared-fs" ∧
      filled? (gibibyte guestOrder).attributes descriptorKey = some "shared-fs" ∧
      (gibibyte guestOrder).metadata.isLive = true ∧
      ((gibibyte strayOrder).boundTo strayOrder.claim).MayTake {}
        ((gibibyte guestOrder).boundTo guestOrder.claim) := by
  have hdescriptor : filled? (gibibyte strayOrder).attributes descriptorKey = some "shared-fs" := by
    decide +kernel
  have hdescriptor' :
      filled? (gibibyte guestOrder).attributes descriptorKey = some "shared-fs" := by
    decide +kernel
  have hname : (gibibyte guestOrder).name ≠ (gibibyte strayOrder).name := by decide
  have hpattern : ((gibibyte strayOrder).pathPattern?.getD "").isEmpty = true := by decide +kernel
  have hsubpath : (gibibyte guestOrder).subpath = (gibibyte strayOrder).subpath := by
    decide +kernel
  refine ⟨exists_provision_strayOrder, exists_provision_guestOrder, rfl, rfl, hname, hdescriptor,
    hdescriptor', rfl, ?_⟩
  refine (Volume.mayTake_iff (v := (gibibyte strayOrder).boundTo strayOrder.claim)
    (u := (gibibyte guestOrder).boundTo guestOrder.claim) rfl ?_ ?_ hdescriptor hname rfl rfl).mpr
    ⟨hpattern, hsubpath⟩
  · exact nofun
  · exact nofun

end SubpathCsi
