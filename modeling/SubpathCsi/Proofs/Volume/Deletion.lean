import SubpathCsi.Proofs.Services
import SubpathCsi.Volume.Deletion

/-!
# The course of a removal

All ways in which the removal of a volume may go, whatever the API server, the resource server and
the filesystem manager answer.

* `Volume.course_of_trace`, `Volume.subpathCourse_of_trace`: the paths through a removal, each with
  its exchanges, its end, and what it depends on;
* `Volume.Course.removes`: a filesystem manager is only ever asked to remove the volume's own
  subpath, and only when the volumes that were listed permit it;
* `Volume.Course.removes_once`: if the remote ends are obliging, and the volumes that were listed
  permit it, the manager is asked exactly once;
* `Volume.accounted_of_delete`: a removal that ends well has a reason to leave the subpath, or has
  removed it.
-/

namespace SubpathCsi

variable {c : Config} {v : Volume} {es : List Exchange}

/-- The list of volumes, as the API server is asked for it. -/
def listing (c : Config) (x : Except ApiFault (List Volume)) : Exchange :=
  ⟨.api c.requestTimeout .listVolumes, x⟩

/-- A descriptor, as the API server is asked for it. -/
def lookup (c : Config) (name : String) (y : Except ApiFault Json) : Exchange :=
  ⟨.api c.requestTimeout (.readDescriptor (.str name)), y⟩

theorem removals_listing_cons (x : Except ApiFault (List Volume)) (es : List Exchange) :
    removals (listing c x :: es) = removals es := rfl

theorem removals_lookup_cons (name : String) (y : Except ApiFault Json) (es : List Exchange) :
    removals (lookup c name y :: es) = removals es := rfl

/-! ### Siblings -/

/-- A volume shares the subpath of `v` if it is live, has another name, and is of the same class and
at the same subpath. -/
theorem Volume.sharesSubpath_iff {u : Volume} :
    v.sharesSubpath u = true ↔
      u.name ≠ v.name ∧ u.metadata.isLive = true ∧ u.storageClassName = v.storageClassName ∧
        u.subpath = v.subpath := by
  simp only [sharesSubpath, isSibling, Bool.and_eq_true, decide_eq_true_eq, and_assoc]

/-- A subpath is kept for a sibling, and only under a path pattern. -/
theorem mayDeleteSubpath_eq_false {vs : List Volume} {pattern : Option String} :
    mayDeleteSubpath vs v pattern = false ↔
      (∃ text, pattern = some text ∧ text ≠ "") ∧ ∃ u ∈ vs, v.sharesSubpath u = true := by
  have hempty : (pattern.getD "").isEmpty = false ↔ ∃ text, pattern = some text ∧ text ≠ "" := by
    cases pattern with
    | none => simp
    | some text => simp
  rw [mayDeleteSubpath, Bool.or_eq_false_iff, hempty, Bool.not_eq_false', List.any_eq_true]

namespace Volume

/-! ### What follows the subpath -/

/-- The end of a removal: the secret, if a finalizer keeps it for the volume. -/
def finish (c : Config) (v : Volume) (source : CsiSource) : Act Unit :=
  if Keyed.get? v.attributes secretFinalizerKey = some trueText then
    match source.nodePublishSecretRef with
    | none => return
    | some ref => v.releaseSecret c ref
  else return

/-- Releasing a secret asks the API server alone. -/
theorem asks_releaseSecret (c : Config) (v : Volume) (ref : ObjectRef) :
    (v.releaseSecret c ref).Asks fun r => r.isHttp = false := by
  have hcall : ∀ r, (Kube.call c r).Asks fun r => r.isHttp = false := by
    intro r
    rw [Kube.call_eq_once]
    exact Act.asks_once (P := fun r => r.isHttp = false) rfl _
  refine (hcall _).bind fun volumes => ?_
  split
  · refine Act.Asks.bind (hcall _).optional fun secret => ?_
    cases secret with
    | none => exact Act.asks_pure _
    | some secret =>
      dsimp only
      split
      · exact (hcall _).bind fun _ => Act.asks_pure _
      · exact Act.asks_pure _
  · exact Act.asks_pure _

theorem asks_finish (c : Config) (v : Volume) (source : CsiSource) :
    (v.finish c source).Asks fun r => r.isHttp = false := by
  rw [finish]
  split
  · split
    · exact Act.asks_pure _
    · exact asks_releaseSecret ..
  · exact Act.asks_pure _

/-! ### The subpath -/

/-- The check whether the claim of a volume may remove it. -/
def removalCheck (c : Config) (ref : ObjectRef) (x : Except HttpFault HttpResponse) : Exchange :=
  ⟨.http (Credential.requestFor c (.ofText? ref.space) (.ofText? ref.name) .delete), x⟩

/-- What the check comes to. -/
def removalGrant (c : Config) (ref : ObjectRef) (x : Except HttpFault HttpResponse) :
    Except Failure Credential :=
  Credential.outcome c (.ofText? ref.space) (.ofText? ref.name) .delete x

theorem removals_removalCheck_cons (ref : ObjectRef) (x : Except HttpFault HttpResponse)
    (es : List Exchange) : removals (removalCheck c ref x :: es) = removals es := rfl

/-- The ways in which the removal of a subpath may go. -/
inductive SubpathCourse (c : Config) (v : Volume) : List Exchange → Except Failure Unit → Prop
  /-- The volume is bound to no claim. -/
  | unclaimed (hclaim : v.claimRef = none) :
      SubpathCourse c v [] (.error (.reported (.invalidArgument (.noClaim v.metadata.nameWord))))
  /-- The claim may not remove it. -/
  | refused (ref : ObjectRef) (x : Except HttpFault HttpResponse) (f : Failure)
      (hclaim : v.claimRef = some ref) (hgrant : removalGrant c ref x = .error f) :
      SubpathCourse c v [removalCheck c ref x] (.error f)
  /-- It names no descriptor. -/
  | nameless (ref : ObjectRef) (x : Except HttpFault HttpResponse) (credential : Credential)
      (hclaim : v.claimRef = some ref) (hgrant : removalGrant c ref x = .ok credential)
      (hname : filled? v.attributes descriptorKey = none) :
      SubpathCourse c v [removalCheck c ref x]
        (.error (.reported (.invalidArgument (.noDescriptor v.metadata.nameWord))))
  /-- The descriptor cannot be read. -/
  | unread (ref : ObjectRef) (x : Except HttpFault HttpResponse) (credential : Credential)
      (name : String) (y : Except ApiFault Json) (f : Failure)
      (hclaim : v.claimRef = some ref) (hgrant : removalGrant c ref x = .ok credential)
      (hname : filled? v.attributes descriptorKey = some name)
      (hread : Kube.descriptorOutcome (.str name) y = .error f) :
      SubpathCourse c v [removalCheck c ref x, lookup c name y] (.error f)
  /-- The filesystem is gone. -/
  | gone (ref : ObjectRef) (x : Except HttpFault HttpResponse) (credential : Credential)
      (name reason : String)
      (hclaim : v.claimRef = some ref) (hgrant : removalGrant c ref x = .ok credential)
      (hname : filled? v.attributes descriptorKey = some name) :
      SubpathCourse c v [removalCheck c ref x, lookup c name (.error (.status 404 reason))] (.ok ())
  /-- The filesystem is going. -/
  | going (ref : ObjectRef) (x : Except HttpFault HttpResponse) (credential : Credential)
      (name : String) (raw : Json) (d : Descriptor)
      (hclaim : v.claimRef = some ref) (hgrant : removalGrant c ref x = .ok credential)
      (hname : filled? v.attributes descriptorKey = some name)
      (hread : Descriptor.ofJson raw = .ok d) (hgoing : d.isDeleting = true) :
      SubpathCourse c v [removalCheck c ref x, lookup c name (.ok raw)] (.ok ())
  /-- The manager is asked. -/
  | asked (ref : ObjectRef) (x : Except HttpFault HttpResponse) (credential : Credential)
      (name : String) (raw : Json) (d : Descriptor) (rest : List Exchange)
      (o : Except Failure Unit)
      (hclaim : v.claimRef = some ref) (hgrant : removalGrant c ref x = .ok credential)
      (hname : filled? v.attributes descriptorKey = some name)
      (hread : Descriptor.ofJson raw = .ok d) (hgoing : d.isDeleting = false)
      (hasked : (Manager.deleteSubpath c d credential v.subpath).Trace rest o) :
      SubpathCourse c v (removalCheck c ref x :: lookup c name (.ok raw) :: rest) o

theorem subpathCourse_of_trace {o : Except Failure Unit} (h : (v.deleteSubpath c).Trace es o) :
    SubpathCourse c v es o := by
  rw [deleteSubpath] at h
  cases hclaim : v.claimRef with
  | none =>
    rw [hclaim] at h
    obtain ⟨rfl, rfl⟩ := h
    exact .unclaimed hclaim
  | some ref =>
    rw [hclaim] at h
    dsimp only at h
    rw [Credential.check_eq_once, Act.trace_bind] at h
    simp only [Act.trace_once] at h
    obtain ⟨f, ⟨x, rfl, hx⟩, rfl⟩ | ⟨credential, _, _, ⟨x, rfl, hx⟩, h, rfl⟩ := h
    · exact .refused ref x f hclaim hx.symm
    cases hname : filled? v.attributes descriptorKey with
    | none =>
      rw [hname] at h
      obtain ⟨rfl, rfl⟩ := h
      exact .nameless ref x credential hclaim hx.symm hname
    | some name =>
      rw [hname] at h
      dsimp only at h
      rw [Kube.descriptor_eq_once, Act.trace_bind] at h
      simp only [Act.trace_optional, Act.trace_once] at h
      obtain ⟨f, hf, rfl⟩ | ⟨found, _, after, hfound, h, rfl⟩ := h
      -- the descriptor may be absent, but no other failure is passed over
      · obtain ⟨_, -, hf⟩ | ⟨_, _, -, hf⟩ | ⟨g, -, ⟨y, rfl, hy⟩, hf⟩ := hf
        · cases hf
        · cases hf
        · cases hf
          exact .unread ref x credential name y f hclaim hx.symm hname hy.symm
      · obtain ⟨d, ⟨y, rfl, hy⟩, hf⟩ | ⟨kind, word, ⟨y, rfl, hy⟩, hf⟩ | ⟨g, -, -, hf⟩ := hfound
        · cases hf
          obtain ⟨raw, rfl, hread⟩ := Kube.descriptorOutcome_eq_ok.mp hy.symm
          dsimp only at h
          cases hgoing : d.isDeleting with
          | true =>
            rw [if_pos hgoing] at h
            obtain ⟨rfl, rfl⟩ := h
            exact .going ref x credential name raw d hclaim hx.symm hname hread hgoing
          | false =>
            rw [if_neg (by rw [hgoing]; exact Bool.false_ne_true)] at h
            exact .asked ref x credential name raw d after o hclaim hx.symm hname hread hgoing h
        · cases hf
          obtain ⟨reason, rfl⟩ := Kube.descriptorOutcome_eq_notFound hy.symm
          obtain ⟨rfl, rfl⟩ := h
          exact .gone ref x credential name reason hclaim hx.symm hname
        · cases hf

/-- A manager is only asked to remove the subpath of the volume. -/
theorem SubpathCourse.removes {o : Except Failure Unit} (h : SubpathCourse c v es o)
    {e : Exchange} (he : e ∈ removals es) : e.request.Removes v.subpath := by
  cases h with
  | asked ref x credential name raw d rest o hclaim hgrant hname hread hgoing hasked =>
    rw [removals_removalCheck_cons, removals_lookup_cons] at he
    obtain ⟨hnone, -⟩ | ⟨_, tls, y, -, -, hone, -⟩ := Manager.trace_deleteSubpath hasked
    · rw [hnone] at he
      cases he
    · rw [hone, List.mem_singleton] at he
      rw [he]
      exact Manager.removalRequest_removes ..
  | unclaimed | refused | nameless | unread | gone | going => cases he

/-- With obliging services, a subpath that is to be removed is removed by one request. -/
theorem SubpathCourse.removes_once {o : Except Failure Unit} {ref : ObjectRef} {name : String}
    (h : SubpathCourse c v es o) (hclaim : v.claimRef = some ref)
    (hname : filled? v.attributes descriptorKey = some name)
    (hstanding : ∀ y, lookup c name y ∈ es → isStanding y = true)
    (hobliging : ∀ e ∈ es, e.isObliging = true) :
    ∃ e, removals es = [e] ∧ e.request.Removes v.subpath := by
  -- the check is granted, and the descriptor that is read is the one that is named
  have hgrants : ∀ {ref x es' f}, es = removalCheck c ref x :: es' →
      removalGrant c ref x ≠ .error f := by
    rintro ref x es' f rfl hf
    have hx : grants x = true := hobliging _ (.head _)
    obtain ⟨credential, hcredential⟩ := Credential.outcome_of_grants hx (.ofText? ref.space)
      (.ofText? ref.name) .delete
    rw [removalGrant, hcredential] at hf
    cases hf
  cases h with
  | unclaimed hnone =>
    rw [hclaim] at hnone
    cases hnone
  | refused ref x f hclaim hgrant => exact absurd hgrant (hgrants rfl)
  | nameless ref x credential hclaim hgrant hnone =>
    rw [hname] at hnone
    cases hnone
  | unread ref x credential other y f hclaim hgrant hother hread =>
    rw [hname] at hother
    cases hother
    obtain ⟨raw, d, rfl, hd, -⟩ := isStanding_iff.mp (hstanding y (.tail _ (.head _)))
    rw [Kube.descriptorOutcome_eq_ok.mpr ⟨raw, rfl, hd⟩] at hread
    cases hread
  | gone ref x credential other reason hclaim hgrant hother =>
    rw [hname] at hother
    cases hother
    cases hstanding _ (.tail _ (.head _))
  | going ref x credential other raw d hclaim hgrant hother hread hgoing =>
    rw [hname] at hother
    cases hother
    obtain ⟨raw', d', hy, hd, hstay⟩ := isStanding_iff.mp (hstanding _ (.tail _ (.head _)))
    cases hy
    rw [hread] at hd
    cases hd
    rw [hstay] at hgoing
    cases hgoing
  | asked ref x credential other raw d rest o hclaim hgrant hother hread hgoing hasked =>
    rw [removals_removalCheck_cons, removals_lookup_cons]
    obtain ⟨-, z, f, hz, rfl, -⟩ | ⟨z, tls, y, -, -, hone, -⟩ :=
      Manager.trace_deleteSubpath hasked
    · have hcerts : certifies z = true := hobliging _ (.tail _ (.tail _ (.head _)))
      obtain ⟨tls, htls⟩ := Manager.tlsOf_of_certifies hcerts credential.owner
      rw [hz] at htls
      cases htls
    · exact ⟨_, hone, Manager.removalRequest_removes ..⟩

/-! ### The whole removal -/

/-- The ways in which the removal of a volume may go. -/
inductive Course (c : Config) (v : Volume) : List Exchange → Except Failure Unit → Prop
  /-- The volume is to stay. -/
  | retained (hpolicy : v.reclaimPolicy ≠ some reclaimDelete) : Course c v [] (.ok ())
  /-- It has no source. -/
  | sourceless (hpolicy : v.reclaimPolicy = some reclaimDelete) (hcsi : v.csi = none) :
      Course c v [] (.error (.reported (.invalidArgument (.noCsiSource v.metadata.nameWord))))
  /-- The volumes cannot be listed. -/
  | unlisted (source : CsiSource) (fault : ApiFault)
      (hpolicy : v.reclaimPolicy = some reclaimDelete) (hcsi : v.csi = some source) :
      Course c v [listing c (.error fault)] (.error (fault.failure .listVolumes))
  /-- The subpath is kept for a sibling. -/
  | kept (source : CsiSource) (vs : List Volume)
      (hpolicy : v.reclaimPolicy = some reclaimDelete) (hcsi : v.csi = some source)
      (hmay : mayDeleteSubpath vs v v.pathPattern? = false) :
      Course c v [listing c (.ok vs)] (.ok ())
  /-- The subpath cannot be removed. -/
  | failed (source : CsiSource) (vs : List Volume) (es : List Exchange) (f : Failure)
      (hpolicy : v.reclaimPolicy = some reclaimDelete) (hcsi : v.csi = some source)
      (hmay : mayDeleteSubpath vs v v.pathPattern? = true)
      (hsub : SubpathCourse c v es (.error f)) :
      Course c v (listing c (.ok vs) :: es) (.error f)
  /-- The subpath is removed, or needs no removal; the secret is next. -/
  | cleared (source : CsiSource) (vs : List Volume) (es rest : List Exchange)
      (o : Except Failure Unit)
      (hpolicy : v.reclaimPolicy = some reclaimDelete) (hcsi : v.csi = some source)
      (hmay : mayDeleteSubpath vs v v.pathPattern? = true)
      (hsub : SubpathCourse c v es (.ok ())) (hrest : (v.finish c source).Trace rest o) :
      Course c v (listing c (.ok vs) :: (es ++ rest)) o

/-- What follows the subpath removes nothing. -/
theorem removals_finish {source : CsiSource} {x : Except ApiFault (List Volume)}
    {first rest : List Exchange} {o : Except Failure Unit} (h : (v.finish c source).Trace rest o) :
    removals (listing c x :: (first ++ rest)) = removals first := by
  have hasks := (asks_finish c v source).mono fun _ => Request.isRemoval_of_isHttp
  rw [removals_listing_cons, removals_append, removals_eq_nil_of_asks hasks h, List.append_nil]

theorem course_of_trace {o : Except Failure Unit} (h : (v.delete c).Trace es o) :
    v.Course c es o := by
  rw [delete] at h
  by_cases hpolicy : v.reclaimPolicy = some reclaimDelete
  · rw [if_neg fun hne => hne hpolicy] at h
    cases hcsi : v.csi with
    | none =>
      rw [hcsi] at h
      obtain ⟨rfl, rfl⟩ := h
      exact .sourceless hpolicy hcsi
    | some source =>
      rw [hcsi] at h
      dsimp only at h
      rw [Kube.volumes, Kube.trace_call_bind] at h
      obtain ⟨fault, rfl, rfl⟩ | ⟨vs, after, rfl, h⟩ := h
      · exact .unlisted source fault hpolicy hcsi
      · cases hmay : mayDeleteSubpath vs v v.pathPattern? with
        | false =>
          rw [hmay] at h
          obtain ⟨rfl, rfl⟩ := h
          exact .kept source vs hpolicy hcsi hmay
        | true =>
          rw [hmay, if_pos rfl, Act.trace_bind] at h
          obtain ⟨f, hsub, rfl⟩ | ⟨_, first, last, hsub, hrest, rfl⟩ := h
          · exact .failed source vs after f hpolicy hcsi hmay (subpathCourse_of_trace hsub)
          · exact .cleared source vs first last o hpolicy hcsi hmay
              (subpathCourse_of_trace hsub) hrest
  · rw [if_pos hpolicy] at h
    obtain ⟨rfl, rfl⟩ := h
    exact .retained hpolicy

/-- **What a removal may remove.** A filesystem manager is only asked to remove the subpath of the
volume, and only after volumes were listed that permit it. -/
theorem Course.removes {o : Except Failure Unit} (h : v.Course c es o) {e : Exchange}
    (he : e ∈ removals es) :
    e.request.Removes v.subpath ∧
      ∃ vs, listing c (.ok vs) ∈ es ∧ mayDeleteSubpath vs v v.pathPattern? = true := by
  cases h with
  | failed source vs rest f hpolicy hcsi hmay hsub =>
    rw [removals_listing_cons] at he
    exact ⟨hsub.removes he, vs, List.mem_cons_self, hmay⟩
  | cleared source vs first rest o hpolicy hcsi hmay hsub hrest =>
    rw [removals_finish hrest] at he
    exact ⟨hsub.removes he, vs, List.mem_cons_self, hmay⟩
  | retained | sourceless | unlisted | kept => cases he

/-- With obliging services, a volume with a policy to be removed, bound to a claim, and with a
filesystem that stands, is removed by one request, if the volumes that are listed permit it. -/
theorem Course.removes_once {o : Except Failure Unit} {source : CsiSource} {ref : ObjectRef}
    {name : String} (h : v.Course c es o) (hpolicy : v.reclaimPolicy = some reclaimDelete)
    (hcsi : v.csi = some source) (hclaim : v.claimRef = some ref)
    (hname : filled? v.attributes descriptorKey = some name)
    (hlisted : ∀ x, listing c x ∈ es →
      ∃ vs, x = .ok vs ∧ mayDeleteSubpath vs v v.pathPattern? = true)
    (hstanding : ∀ y, lookup c name y ∈ es → isStanding y = true)
    (hobliging : ∀ e ∈ es, e.isObliging = true) :
    ∃ e, removals es = [e] ∧ e.request.Removes v.subpath := by
  cases h with
  | retained hother => exact absurd hpolicy hother
  | sourceless _ hnone =>
    rw [hcsi] at hnone
    cases hnone
  | unlisted source fault =>
    obtain ⟨vs, hx, -⟩ := hlisted _ (.head _)
    cases hx
  | kept source vs _ _ hkept =>
    obtain ⟨vs', hx, hmay⟩ := hlisted _ (.head _)
    cases hx
    rw [hkept] at hmay
    cases hmay
  | failed source vs rest f _ _ hmay hsub =>
    rw [removals_listing_cons]
    exact hsub.removes_once hclaim hname (fun y hy => hstanding y (.tail _ hy))
      fun e he => hobliging e (.tail _ he)
  | cleared source vs first rest o _ _ hmay hsub hrest =>
    rw [removals_finish hrest]
    exact hsub.removes_once hclaim hname
      (fun y hy => hstanding y (.tail _ (List.mem_append_left _ hy)))
      fun e he => hobliging e (.tail _ (List.mem_append_left _ he))

/-! ### Ending well -/

/-- The subpath `s` of a filesystem was removed: by one request in all, which went well. -/
def RemovedOnce (d : Descriptor) (s : String) (es : List Exchange) : Prop :=
  ∃ r response, removals es = [⟨.http r, .ok response⟩] ∧ (Request.http r).Removes s ∧
    (Request.http r).told? "name" = some (.str d.filesystemName) ∧ response.status < 400

/-- Why nothing of a volume is left behind unnoticed. -/
inductive Accounted (c : Config) (v : Volume) (es : List Exchange) : Prop
  /-- The volume is to stay. -/
  | retained (hpolicy : v.reclaimPolicy ≠ some reclaimDelete)
  /-- A live sibling of the same class lies at the same subpath, which a path pattern gives. -/
  | shared (pattern : String) (vs : List Volume) (u : Volume)
      (hpattern : v.pathPattern? = some pattern) (hne : pattern ≠ "")
      (hlisted : listing c (.ok vs) ∈ es) (hu : u ∈ vs) (hname : u.name ≠ v.name)
      (hlive : u.metadata.isLive = true) (hclass : u.storageClassName = v.storageClassName)
      (hsubpath : u.subpath = v.subpath)
  /-- The filesystem is gone. -/
  | gone (name reason : String) (hname : filled? v.attributes descriptorKey = some name)
      (hlookup : lookup c name (.error (.status 404 reason)) ∈ es)
  /-- The filesystem is going. -/
  | going (name : String) (raw : Json) (d : Descriptor)
      (hname : filled? v.attributes descriptorKey = some name)
      (hlookup : lookup c name (.ok raw) ∈ es) (hread : Descriptor.ofJson raw = .ok d)
      (hgoing : d.isDeleting = true)
  /-- The subpath was removed from the filesystem. -/
  | removed (name : String) (raw : Json) (d : Descriptor)
      (hname : filled? v.attributes descriptorKey = some name)
      (hlookup : lookup c name (.ok raw) ∈ es) (hread : Descriptor.ofJson raw = .ok d)
      (honce : RemovedOnce d v.subpath es)

/-- More exchanges change no account, as long as they remove nothing. -/
theorem Accounted.mono {es' : List Exchange} (h : v.Accounted c es) (hmem : ∀ e ∈ es, e ∈ es')
    (hremovals : removals es' = removals es) : v.Accounted c es' := by
  cases h with
  | retained hpolicy => exact .retained hpolicy
  | shared pattern vs u hpattern hne hlisted hu hname hlive hclass hsubpath =>
    exact .shared pattern vs u hpattern hne (hmem _ hlisted) hu hname hlive hclass hsubpath
  | gone name reason hname hlookup => exact .gone name reason hname (hmem _ hlookup)
  | going name raw d hname hlookup hread hgoing =>
    exact .going name raw d hname (hmem _ hlookup) hread hgoing
  | removed name raw d hname hlookup hread honce =>
    refine .removed name raw d hname (hmem _ hlookup) hread ?_
    rwa [RemovedOnce, hremovals]

/-- When the removal of a subpath ends well, the filesystem is gone or going, or it is removed. -/
theorem SubpathCourse.accounted (h : SubpathCourse c v es (.ok ())) : v.Accounted c es := by
  cases h with
  | gone ref x credential name reason hclaim hgrant hname =>
    exact .gone name reason hname (.tail _ (.head _))
  | going ref x credential name raw d hclaim hgrant hname hread hgoing =>
    exact .going name raw d hname (.tail _ (.head _)) hread hgoing
  | asked ref x credential name raw d rest o hclaim hgrant hname hread hgoing hasked =>
    refine .removed name raw d hname (.tail _ (.head _)) hread ?_
    obtain ⟨-, _, f, -, -, hf⟩ | ⟨_, tls, y, -, -, hone, hy⟩ := Manager.trace_deleteSubpath hasked
    · cases hf
    · obtain ⟨response, rfl, hstatus⟩ := Manager.outcome_eq_ok hy.symm
      refine ⟨Manager.removalRequest c tls d credential v.subpath, response, ?_,
        Manager.removalRequest_removes .., Manager.told?_removalRequest_name .., hstatus⟩
      rw [removals_removalCheck_cons, removals_lookup_cons, hone]

/-- **No silent orphan.** A removal that ends well accounts for the subpath, whatever the API
server, the resource server and the filesystem manager have answered. -/
theorem accounted_of_delete (h : (v.delete c).Trace es (.ok ())) : v.Accounted c es := by
  generalize ho : (.ok () : Except Failure Unit) = o at h
  cases course_of_trace h with
  | retained hpolicy => exact .retained hpolicy
  | sourceless | unlisted | failed => cases ho
  | kept source vs hpolicy hcsi hmay =>
    obtain ⟨⟨pattern, hpattern, hne⟩, u, hu, hshares⟩ := mayDeleteSubpath_eq_false.mp hmay
    obtain ⟨hname, hlive, hclass, hsubpath⟩ := sharesSubpath_iff.mp hshares
    exact .shared pattern vs u hpattern hne List.mem_cons_self hu hname hlive hclass hsubpath
  | cleared source vs first rest o hpolicy hcsi hmay hsub hrest =>
    -- the secret may take more exchanges, but no removal
    exact hsub.accounted.mono (fun e he => .tail _ (List.mem_append_left _ he))
      (removals_finish hrest)

/-- A volume at a subpath of its own. -/
def loneVolume : Volume where
  metadata := { name := "pv-1" }
  csi := some {
    driver := "csi.cfs.confidentialfilesystems.com"
    volumeHandle := "pv-1"
    volumeAttributes := some [(subpathKey, "pv-1"), (descriptorKey, "shared-fs")] }
  claimRef := some { name := some "claim-1", space := some "default" }
  reclaimPolicy := some reclaimDelete

/-- A filesystem that is there, as its descriptor is stored. -/
def sharedFs : Json :=
  .obj [("metadata", .obj [("name", .str "shared-fs")]),
    ("spec", .obj [("filesystem", .obj [("name", .str "data")])])]

theorem accounted_of_delete_loneVolume :
    let w : Remote := { cluster := { volumes := [loneVolume], descriptors := [sharedFs] } }
    ((loneVolume.delete {}).run w).1.isOk = true ∧
      loneVolume.Accounted {} ((loneVolume.delete {}).exchanges w) := by
  intro w
  have hok : ((loneVolume.delete {}).run w).1.isOk = true := by decide +kernel
  obtain ⟨⟨⟩, htrace⟩ := Act.exists_trace_of_isOk hok
  exact ⟨hok, accounted_of_delete htrace⟩

end Volume

end SubpathCsi
