import SubpathCsi.Proofs.Act.Effect
import SubpathCsi.Proofs.ApiServer
import SubpathCsi.Proofs.Volume.Deletion

/-!
# Releasing secrets

A volume may keep the secret that it is mounted with, by a finalizer of the controller. When the
volume is removed, the finalizer is taken off at the very end: after the subpath, and only if no live
sibling is mounted with the secret.

* `Volume.ReleaseCourse`, `Volume.releaseCourse_of_trace`: all ways in which that may go;
* `Volume.released_of_delete`: a removal that changes a secret has ended well, and has done nothing to
  secrets but that;
* `Volume.isHeld_after_delete`: a removal that ends well leaves no finalizer behind, unless the
  subpath is kept for a sibling.
-/

namespace SubpathCsi

variable {c : Config} {v : Volume} {ref : ObjectRef} {es : List Exchange}

/-! ### Secrets that are held -/

namespace Secret

/-- The finalizers. -/
def finalizers (s : Secret) : List String := s.metadata.finalizers.getD []

/-- The finalizer of the controller keeps the secret. -/
def IsHeld (s : Secret) : Prop := secretFinalizer ∈ s.finalizers

instance (s : Secret) : Decidable s.IsHeld := inferInstanceAs (Decidable (_ ∈ _))

/-- The secret without the finalizer of the controller. All others stay as they are. -/
def released (s : Secret) : Secret :=
  s.withFinalizers (s.finalizers.filter (· ≠ secretFinalizer))

theorem not_isHeld_released (s : Secret) : ¬s.released.IsHeld := by
  intro h
  have hmem : secretFinalizer ∈ s.finalizers.filter (· ≠ secretFinalizer) := h
  simp at hmem

/-- A secret is held by its content. -/
theorem isHeld_congr {s t : Secret} (h : s.content = t.content) : s.IsHeld ↔ t.IsHeld := by
  have hfinalizers : s.finalizers = t.finalizers := congrArg (·.metadata.finalizers.getD []) h
  rw [IsHeld, IsHeld, hfinalizers]

end Secret

/-- Setting finalizers changes nothing but the secret that is found, and what becomes of it is found
in its place then. -/
theorem ApiServer.answer_setFinalizers {server : ApiServer} {k : Cluster} {s : Secret}
    {name space : Option String} (hserver : server.SetsFinalizers) (finalizers : List String)
    (hs : k.secret? (.ofText? name) (.ofText? space) = some s) :
    let k' := (server.answer (.setFinalizers (.ofText? name) (.ofText? space) finalizers) k).2
    k'.secret? (.ofText? name) (.ofText? space) = some (server.patch s finalizers) ∧
      ∃ before after, k.secrets = before ++ s :: after ∧
        k'.secrets = before ++ server.patch s finalizers :: after := by
  obtain ⟨⟨rfl, rfl⟩, before, after, hsecrets, hbefore⟩ := Cluster.secret?_eq_some_iff.mp hs
  intro k'
  have hkept : (server.patch s finalizers).LiesAt s.name s.metadata.space :=
    .of_content (hserver s finalizers) ⟨rfl, rfl⟩
  have hk' : k' = k.putSecret (server.patch s finalizers) := by
    change (answer _ _ k).2 = _
    rw [answer, hs]
  have hput : k'.secrets = before ++ server.patch s finalizers :: after := by
    rw [hk', Cluster.putSecret_eq hkept, hsecrets]
    exact putBy_append hbefore (Cluster.isAt_of_liesAt ⟨rfl, rfl⟩)
  refine ⟨?_, before, after, hsecrets, hput⟩
  rw [hk']
  exact Cluster.secret?_putSecret k hkept

/-! ### The course of a release -/

/-- An object counts as absent only if the API server says so. -/
theorem Kube.outcome_eq_notFound {r : ApiRequest} {x : Except ApiFault r.Answer} {kind word : String}
    (h : outcome r x = .error (.reported (.notFound kind word))) :
    ∃ reason, x = .error (.status 404 reason) := by
  cases x with
  | ok answer => cases h
  | error fault =>
    have hfault : fault.failure r = .reported (.notFound kind word) := Except.error.inj h
    unfold ApiFault.failure at hfault
    split at hfault
    · exact ⟨_, rfl⟩
    all_goals cases hfault

/-- A secret, as the API server is asked for it. -/
def secretLookup (c : Config) (ref : ObjectRef) (x : Except ApiFault Secret) : Exchange :=
  ⟨.api c.requestTimeout (.readSecret (.ofText? ref.name) (.ofText? ref.space)), x⟩

/-- The request that takes the finalizer of the controller off a secret. -/
def releaseRequest (ref : ObjectRef) (s : Secret) : ApiRequest :=
  .setFinalizers (.ofText? ref.name) (.ofText? ref.space)
    (s.finalizers.filter (· ≠ secretFinalizer))

/-- The exchanges of a release: the volumes are listed again, the secret is read, and the finalizer is
taken off. -/
def releasing (c : Config) (ref : ObjectRef) (vs : List Volume) (s : Secret)
    (x : Except ApiFault (releaseRequest ref s).Answer) : List Exchange :=
  [listing c (.ok vs), secretLookup c ref (.ok s), ⟨.api c.requestTimeout (releaseRequest ref s), x⟩]

/-- What a release leaves. The volumes and the secret come out of the cluster as it was; then the
finalizer is gone, unless the last request meets a fault. -/
theorem Remote.cluster_of_releasing {w : Remote} {first : List Exchange} {vs : List Volume}
    {s : Secret} {x : Except ApiFault (releaseRequest ref s).Answer}
    (h : w.Answers (first ++ releasing c ref vs s x))
    (hfirst : ∀ e ∈ first, e.request.writesSecret = false) :
    vs = w.cluster.volumes ∧ w.cluster.secret? (.ofText? ref.name) (.ofText? ref.space) = some s ∧
      ((∃ fault, x = .error fault ∧ (w.after (first ++ releasing c ref vs s x)).cluster = w.cluster) ∨
        (∃ answer, x = .ok answer) ∧ (w.after (first ++ releasing c ref vs s x)).cluster =
          (w.server.answer (releaseRequest ref s) w.cluster).2) := by
  have hlisted : Except.ok w.cluster.volumes = .ok vs := answer_of_answers h hfirst
  have hfound : Cluster.found (w.cluster.secret? (.ofText? ref.name) (.ofText? ref.space)) = .ok s := by
    have hread : w.Answers ((first ++ [listing c (.ok vs)]) ++ secretLookup c ref (.ok s) ::
        [⟨.api c.requestTimeout (releaseRequest ref s), x⟩]) := by
      rwa [List.append_assoc]
    refine answer_of_answers hread ?_
    exact List.forall_mem_append.mpr ⟨hfirst, List.forall_mem_singleton.mpr rfl⟩
  have hsecret := Cluster.found_eq_ok.mp hfound
  refine ⟨(Except.ok.inj hlisted).symm, hsecret, ?_⟩
  -- the last request is answered by a cluster that is still the same
  have hfront : ∀ e ∈ first ++ [listing c (.ok vs), secretLookup c ref (.ok s)],
      e.request.writesSecret = false := by
    refine List.forall_mem_append.mpr ⟨hfirst, ?_⟩
    exact List.forall_mem_cons.mpr ⟨rfl, List.forall_mem_singleton.mpr rfl⟩
  have hsplit : first ++ releasing c ref vs s x =
      (first ++ [listing c (.ok vs), secretLookup c ref (.ok s)]) ++
        [⟨.api c.requestTimeout (releaseRequest ref s), x⟩] := by
    rw [List.append_assoc]
    rfl
  rw [hsplit] at h ⊢
  obtain ⟨-, hlast, -⟩ := answers_append.mp h
  rw [after_append]
  have hsame := cluster_after (w := w) hfront
  have hserver := (w.holds_after (first ++ [listing c (.ok vs), secretLookup c ref (.ok s)])).server
  generalize w.after (first ++ [listing c (.ok vs), secretLookup c ref (.ok s)]) = w'
    at hlast hsame hserver ⊢
  have hx : x = (w'.answer (.api c.requestTimeout (releaseRequest ref s))).1 := hlast
  obtain ⟨fault, hfault, hkeep⟩ | ⟨hanswer, hcluster⟩ :=
    answer_api_cases w' c.requestTimeout (releaseRequest ref s)
  · exact .inl ⟨fault, hx.trans hfault, hkeep.trans hsame⟩
  · rw [hsame, hserver] at hanswer hcluster
    refine .inr ⟨?_, hcluster⟩
    rw [hx, hanswer, releaseRequest, ApiServer.answer, hsecret]
    exact ⟨_, rfl⟩

namespace Volume

/-- The ways in which the release of a secret may go. -/
inductive ReleaseCourse (c : Config) (v : Volume) (ref : ObjectRef) :
    List Exchange → Except Failure Unit → Prop
  /-- The volumes cannot be listed. -/
  | unlisted (fault : ApiFault) :
      ReleaseCourse c v ref [listing c (.error fault)] (.error (fault.failure .listVolumes))
  /-- A live sibling uses the secret. -/
  | used (vs : List Volume) (hmay : mayReleaseSecret vs v = false) :
      ReleaseCourse c v ref [listing c (.ok vs)] (.ok ())
  /-- The secret is gone. -/
  | gone (vs : List Volume) (reason : String) (hmay : mayReleaseSecret vs v = true) :
      ReleaseCourse c v ref [listing c (.ok vs), secretLookup c ref (.error (.status 404 reason))]
        (.ok ())
  /-- The secret cannot be read. -/
  | unread (vs : List Volume) (fault : ApiFault) (f : Failure) (hmay : mayReleaseSecret vs v = true) :
      ReleaseCourse c v ref [listing c (.ok vs), secretLookup c ref (.error fault)] (.error f)
  /-- Nothing keeps the secret. -/
  | free (vs : List Volume) (s : Secret) (hmay : mayReleaseSecret vs v = true) (hfree : ¬s.IsHeld) :
      ReleaseCourse c v ref [listing c (.ok vs), secretLookup c ref (.ok s)] (.ok ())
  /-- The finalizer is taken off. -/
  | released (vs : List Volume) (s : Secret) (x : Except ApiFault (releaseRequest ref s).Answer)
      (hmay : mayReleaseSecret vs v = true) (hheld : s.IsHeld) :
      ReleaseCourse c v ref (releasing c ref vs s x)
        ((Kube.outcome (releaseRequest ref s) x).map fun _ => ())

theorem releaseCourse_of_trace {o : Except Failure Unit} (h : (v.releaseSecret c ref).Trace es o) :
    v.ReleaseCourse c ref es o := by
  rw [releaseSecret, Kube.volumes, Kube.trace_call_bind] at h
  obtain ⟨fault, rfl, rfl⟩ | ⟨vs, after, rfl, h⟩ := h
  · exact .unlisted fault
  cases hmay : mayReleaseSecret vs v with
  | false =>
    rw [hmay] at h
    obtain ⟨rfl, rfl⟩ := h
    exact .used vs hmay
  | true =>
    rw [hmay, if_pos rfl] at h
    dsimp only at h
    rw [Kube.secret, Kube.call_eq_once, Act.trace_bind] at h
    simp only [Act.trace_optional, Act.trace_once] at h
    obtain ⟨f, hf, rfl⟩ | ⟨found, _, rest, hfound, h, rfl⟩ := h
    -- the secret may be absent, but no other failure is passed over
    · obtain ⟨_, -, hf⟩ | ⟨_, _, -, hf⟩ | ⟨g, -, ⟨y, rfl, hy⟩, hf⟩ := hf
      · cases hf
      · cases hf
      · cases y with
        | ok s => cases hy
        | error fault => exact .unread vs fault f hmay
    · obtain ⟨s, ⟨y, rfl, hy⟩, hf⟩ | ⟨kind, word, ⟨y, rfl, hy⟩, hf⟩ | ⟨g, -, -, hf⟩ := hfound
      · obtain rfl : y = .ok s := mapError_eq_ok.mp hy.symm
        cases hf
        dsimp only at h
        by_cases hheld : s.IsHeld
        · rw [if_pos (by simpa [Secret.IsHeld, Secret.finalizers] using hheld)] at h
          rw [Kube.setFinalizers, Kube.call_eq_once] at h
          obtain ⟨o', ho', rfl⟩ := (Act.trace_bind_liftM (g := fun _ => .ok ())).mp h
          obtain ⟨z, rfl, rfl⟩ := Act.trace_once.mp ho'
          exact .released vs s z hmay hheld
        · rw [if_neg (by simpa [Secret.IsHeld, Secret.finalizers] using hheld)] at h
          obtain ⟨rfl, rfl⟩ := h
          exact .free vs s hmay hheld
      · obtain ⟨reason, rfl⟩ := Kube.outcome_eq_notFound hy.symm
        cases hf
        obtain ⟨rfl, rfl⟩ := h
        exact .gone vs reason hmay
      · cases hf

/-- A release that does not take the finalizer off writes nothing. -/
theorem ReleaseCourse.released_or_quiet {o : Except Failure Unit} (h : v.ReleaseCourse c ref es o) :
    (∀ e ∈ es, e.request.writesSecret = false) ∨
      ∃ vs s x, mayReleaseSecret vs v = true ∧ s.IsHeld ∧
        es = releasing c ref vs s x ∧
        o = (Kube.outcome (releaseRequest ref s) x).map fun _ => () := by
  cases h with
  | released vs s x hmay hheld => exact .inr ⟨vs, s, x, hmay, hheld, rfl, rfl⟩
  | unlisted | used | gone | unread | free =>
    refine .inl fun e he => ?_
    simp only [List.mem_cons, List.not_mem_nil, or_false] at he
    first
    | (rw [he]; rfl)
    | (obtain rfl | rfl := he <;> rfl)

end Volume

/-! ### What else a removal asks -/

/-- The request asks nothing of the API server but a descriptor. -/
def Request.isAside : Request → Bool
  | .api _ (.readDescriptor _) => true
  | .api .. => false
  | _ => true

theorem Request.writesSecret_of_isAside {r : Request} (h : r.isAside = true) :
    r.writesSecret = false := by
  cases r with
  | api timeout r =>
    cases r with
    | createSecret | replaceSecret | setFinalizers => cases h
    | readVolume | listVolumes | readClaim | readClass | readSecret | readReplicaSet | createEvent
      | readDescriptor => rfl
  | http | close | draw | useClusterConfig | useLocalConfig | serve => rfl

namespace Volume

/-- The removal of a subpath neither lists volumes nor touches a secret. -/
theorem SubpathCourse.isAside {o : Except Failure Unit} (h : SubpathCourse c v es o) {e : Exchange}
    (he : e ∈ es) : e.request.isAside = true := by
  cases h with
  | unclaimed => cases he
  | refused | nameless =>
    rw [List.mem_singleton.mp he]
    rfl
  | unread | gone | going =>
    obtain rfl | he := List.mem_cons.mp he
    · rfl
    · rw [List.mem_singleton.mp he]
      rfl
  | asked ref x credential name raw d rest o hclaim hgrant hname hread hgoing hasked =>
    obtain rfl | he := List.mem_cons.mp he
    · rfl
    obtain rfl | he := List.mem_cons.mp he
    · rfl
    obtain ⟨y, ⟨f, -, rfl, -⟩ | ⟨tls, z, -, rfl, -⟩⟩ := Manager.trace_send.mp hasked
    · rw [List.mem_singleton.mp he]
      rfl
    · simp only [Manager.sent, List.mem_cons, List.not_mem_nil, or_false] at he
      obtain rfl | rfl | rfl := he <;> rfl

/-- The end of a removal is nothing, or the release of the secret. -/
theorem finish_cases {source : CsiSource} {o : Except Failure Unit}
    (h : (v.finish c source).Trace es o) :
    (es = [] ∧ o = .ok ()) ∨ ∃ ref, Keyed.get? v.attributes secretFinalizerKey = some trueText ∧
      source.nodePublishSecretRef = some ref ∧ v.ReleaseCourse c ref es o := by
  rw [finish] at h
  split at h
  next hkeeps =>
    cases href : source.nodePublishSecretRef with
    | none =>
      rw [href] at h
      exact .inl h
    | some ref =>
      rw [href] at h
      exact .inr ⟨ref, hkeeps, rfl, releaseCourse_of_trace h⟩
  next => exact .inl h

/-- A removal writes nothing, or it ends with the release of the secret. -/
theorem quiet_or_releases {o : Except Failure Unit} (h : v.Course c es o) :
    (∀ e ∈ es, e.request.writesSecret = false) ∨
      v.reclaimPolicy = some reclaimDelete ∧
        Keyed.get? v.attributes secretFinalizerKey = some trueText ∧
        ∃ ref vs vs' between s x, v.secretRef? = some ref ∧ mayReleaseSecret vs' v = true ∧ s.IsHeld ∧
          (∀ e ∈ between, e.request.isAside = true) ∧
          es = listing c (.ok vs) :: between ++ releasing c ref vs' s x ∧
          o = (Kube.outcome (releaseRequest ref s) x).map fun _ => () := by
  cases h with
  | retained | sourceless => exact .inl (List.forall_mem_nil _)
  | unlisted | kept => exact .inl (List.forall_mem_singleton.mpr rfl)
  | failed source vs between f hpolicy hcsi hmay hsub =>
    exact .inl (List.forall_mem_cons.mpr
      ⟨rfl, fun e he => Request.writesSecret_of_isAside (hsub.isAside he)⟩)
  | cleared source vs between rest o hpolicy hcsi hmay hsub hrest =>
    have haside : ∀ e ∈ between, e.request.isAside = true := fun e he => hsub.isAside he
    have hquiet : ∀ e ∈ between, e.request.writesSecret = false := fun e he =>
      Request.writesSecret_of_isAside (haside e he)
    obtain ⟨rfl, -⟩ | ⟨ref, hkeeps, href, hrelease⟩ := finish_cases hrest
    · refine .inl (List.forall_mem_cons.mpr ⟨rfl, ?_⟩)
      rwa [List.append_nil]
    · obtain hrest | ⟨vs', s, x, hmay', hheld, rfl, rfl⟩ := hrelease.released_or_quiet
      · exact .inl (List.forall_mem_cons.mpr ⟨rfl, List.forall_mem_append.mpr ⟨hquiet, hrest⟩⟩)
      · have hsecret : v.secretRef? = some ref := by rw [secretRef?, hcsi, Option.bind_some, href]
        exact .inr ⟨hpolicy, hkeeps, ref, vs, vs', between, s, x, hsecret, hmay', hheld, haside,
          by simp, rfl⟩

/-- A volume uses the secret that `v` refers to if it is live, has another name, and refers to the
same one. -/
theorem usesSecret_iff {u : Volume} :
    v.usesSecret ref u = true ↔ u.name ≠ v.name ∧ u.metadata.isLive = true ∧
      ∃ own, u.secretRef? = some own ∧ own.name = ref.name ∧ own.space = ref.space := by
  simp only [usesSecret, isSibling, Bool.and_eq_true, decide_eq_true_eq, and_assoc,
    Option.any_eq_true, ObjectRef.sameObject]

theorem mayReleaseSecret_iff {vs : List Volume} (href : v.secretRef? = some ref) :
    mayReleaseSecret vs v = true ↔ ∀ u ∈ vs, v.usesSecret ref u = false := by
  rw [mayReleaseSecret, href, Bool.not_eq_true', List.any_eq_false]
  simp only [Bool.not_eq_true]

/-- **Safe release.** Let the API server set finalizers as it is asked to. If a removal changes any
secret, it has ended well, and the volume goes with its claim and keeps a secret by a finalizer. That
secret has lost the finalizer, and nothing else in the cluster is changed. When the volumes were listed
for the second time, no live sibling used it. -/
theorem released_of_delete {w : Remote} (hserver : w.server.SetsFinalizers)
    (hchanged : ((v.delete c).run w).2.cluster.secrets ≠ w.cluster.secrets) :
    ((v.delete c).run w).1 = .ok () ∧ v.reclaimPolicy = some reclaimDelete ∧
      Keyed.get? v.attributes secretFinalizerKey = some trueText ∧
      ∃ ref s kept before after, v.secretRef? = some ref ∧ ref.name = some s.name ∧
        ref.space = s.metadata.space ∧ s.IsHeld ∧ w.cluster.secrets = before ++ s :: after ∧
        kept = w.server.patch s (s.finalizers.filter (· ≠ secretFinalizer)) ∧
        kept.content = s.released.content ∧
        ((v.delete c).run w).2.cluster =
          { w.cluster with secrets := before ++ kept :: after } ∧
        (∃ vs between last, (v.delete c).exchanges w =
            listing c (.ok vs) :: (between ++ listing c (.ok w.cluster.volumes) :: last) ∧
          ∀ x, listing c x ∉ between) ∧
        ∀ u ∈ w.cluster.volumes, u.name ≠ v.name → u.metadata.isLive = true →
          ∀ own, u.secretRef? = some own → ¬(own.name = ref.name ∧ own.space = ref.space) := by
  have hanswers := (v.delete c).answers_exchanges w
  have hafter := (v.delete c).after_exchanges w
  have hcourse := course_of_trace ((v.delete c).trace_run w)
  obtain hquiet | ⟨hpolicy, hkeeps, ref, vs, vs', between, s, x, href, hmay, hheld, haside, hes, ho⟩ :=
    quiet_or_releases hcourse
  · -- nothing was written, so that no secret can have changed
    rw [← hafter, Remote.cluster_after hquiet] at hchanged
    exact absurd rfl hchanged
  have hbetween : ∀ e ∈ listing c (.ok vs) :: between, e.request.writesSecret = false :=
    List.forall_mem_cons.mpr ⟨rfl, fun e he => Request.writesSecret_of_isAside (haside e he)⟩
  rw [hes] at hanswers hafter
  obtain ⟨rfl, hsecret, ⟨fault, -, hkept⟩ | ⟨⟨answer, rfl⟩, hcluster⟩⟩ :=
    Remote.cluster_of_releasing hanswers hbetween
  · rw [← hafter, hkept] at hchanged
    exact absurd rfl hchanged
  obtain ⟨⟨hname, hspace⟩, -⟩ := Cluster.secret?_eq_some_iff.mp hsecret
  obtain ⟨-, before, after, hbefore, hsecrets⟩ := ApiServer.answer_setFinalizers hserver
    (s.finalizers.filter (· ≠ secretFinalizer)) hsecret
  refine ⟨ho, hpolicy, hkeeps, ref, s, _, before, after, href, hname, hspace, hheld, hbefore, rfl,
    hserver _ _, ?_, ⟨vs, between, _, hes, fun y hy => ?_⟩, fun u hu hne hlive own hown hsame => ?_⟩
  · rw [← hafter, hcluster, ApiServer.answer_keeps, releaseRequest, hsecrets]
  · cases haside _ hy
  · have hunused := (mayReleaseSecret_iff href).mp hmay u hu
    rw [usesSecret_iff.mpr ⟨hne, hlive, own, hown, hsame⟩] at hunused
    cases hunused

/-- A reference to a secret. -/
def fsSecretRef : ObjectRef where
  name := some "fs-secret"
  space := some "default"

/-- A volume that keeps the secret it is mounted with. -/
def keepingVolume (name subpath : String) : Volume where
  metadata := { name }
  csi := some {
    driver := "csi.cfs.confidentialfilesystems.com"
    volumeHandle := name
    volumeAttributes := some [(subpathKey, subpath), (pathPatternKey, subpath),
      (descriptorKey, "shared-fs"), (secretFinalizerKey, trueText)]
    nodePublishSecretRef := some fsSecretRef }
  claimRef := some { name := some "claim-1", space := some "default" }
  reclaimPolicy := some reclaimDelete

/-- A secret with two finalizers, one of them that of the controller. -/
def heldSecret : Secret where
  metadata := {
    name := "fs-secret"
    space := some "default"
    finalizers := some [secretFinalizer, "example.com/backup"] }

theorem eq_ok_of_isOk {x : Except Failure Unit} (h : x.isOk = true) : x = .ok () := by
  cases x with
  | error f => cases h
  | ok u => rfl

/-- Remote ends with these volumes and the secret, and an API server that keeps versions. -/
def holding (volumes : List Volume) : Remote where
  cluster := { volumes, secrets := [heldSecret], descriptors := [sharedFs] }
  server := .numbering

theorem released_of_delete_keepingVolume :
    let v := keepingVolume "pv-1" "team"
    let w := holding [v]
    w.server.SetsFinalizers ∧ ((v.delete {}).run w).2.cluster.secrets ≠ w.cluster.secrets ∧
      ((v.delete {}).run w).1 = .ok () ∧
      ∃ s kept before after, w.cluster.secrets = before ++ s :: after ∧
        kept.content = s.released.content ∧
        ((v.delete {}).run w).2.cluster =
          { w.cluster with secrets := before ++ kept :: after } := by
  intro v w
  have hserver : w.server.SetsFinalizers := ApiServer.setsFinalizers_numbering
  have hchanged : ((v.delete {}).run w).2.cluster.secrets ≠ w.cluster.secrets := fun hsame =>
    absurd (congrArg (List.map Secret.finalizers) hsame) (by decide +kernel)
  obtain ⟨hok, -, -, ref, s, kept, before, after, -, -, -, -, hbefore, -, hcontent, hcluster, -⟩ :=
    released_of_delete hserver hchanged
  exact ⟨hserver, hchanged, hok, s, kept, before, after, hbefore, hcontent, hcluster⟩

/-! ### Finalizers that stay -/

theorem finish_of_keeps {source : CsiSource}
    (hkeeps : Keyed.get? v.attributes secretFinalizerKey = some trueText)
    (href : source.nodePublishSecretRef = some ref) : v.finish c source = v.releaseSecret c ref := by
  rw [finish, if_pos hkeeps, href]

/-- Without faults, and if no live sibling uses the secret, a release that ends well leaves no
finalizer on it. -/
theorem ReleaseCourse.not_isHeld {w : Remote} {first : List Exchange} {s : Secret}
    (h : v.ReleaseCourse c ref es (.ok ())) (hserver : w.server.SetsFinalizers)
    (hfaults : w.faults = []) (hanswers : w.Answers (first ++ es))
    (hfirst : ∀ e ∈ first, e.request.writesSecret = false)
    (href : v.secretRef? = some ref) (hunused : ∀ u ∈ w.cluster.volumes, v.usesSecret ref u = false)
    (hs : (w.after (first ++ es)).cluster.secret? (.ofText? ref.name) (.ofText? ref.space) = some s) :
    ¬s.IsHeld := by
  have hread : ∀ {vs x}, es = [listing c (.ok vs), secretLookup c ref x] →
      x = Cluster.found (w.cluster.secret? (.ofText? ref.name) (.ofText? ref.space)) ∧
        (w.after (first ++ es)).cluster = w.cluster := by
    rintro vs x rfl
    have hfront : ∀ e ∈ first ++ [listing c (.ok vs)], e.request.writesSecret = false :=
      List.forall_mem_append.mpr ⟨hfirst, List.forall_mem_singleton.mpr rfl⟩
    rw [List.append_cons] at hanswers ⊢
    refine ⟨Remote.eq_answer_of_answers hanswers hfaults hfront, Remote.cluster_after ?_⟩
    exact List.forall_mem_append.mpr ⟨hfront, List.forall_mem_singleton.mpr rfl⟩
  generalize ho : (.ok () : Except Failure Unit) = o at h
  cases h with
  | unlisted | unread => cases ho
  | used vs hmay =>
    have hlisted : Except.ok w.cluster.volumes = .ok vs := Remote.answer_of_answers hanswers hfirst
    cases hlisted
    rw [(mayReleaseSecret_iff href).mpr hunused] at hmay
    cases hmay
  | gone vs reason hmay =>
    obtain ⟨habsent, hkept⟩ := hread rfl
    rw [← hkept, hs] at habsent
    cases habsent
  | free vs t hmay hfree =>
    obtain ⟨hfound, hkept⟩ := hread rfl
    rw [← hkept, hs] at hfound
    cases hfound
    exact hfree
  | released vs t x hmay hheld =>
    obtain ⟨-, hsecret, ⟨fault, rfl, -⟩ | ⟨-, hcluster⟩⟩ :=
      Remote.cluster_of_releasing hanswers hfirst
    · cases ho
    · rw [hcluster, releaseRequest, (ApiServer.answer_setFinalizers hserver _ hsecret).1] at hs
      cases hs
      exact fun hkept => t.not_isHeld_released ((Secret.isHeld_congr (hserver _ _)).mp hkept)

/-- **Finalizers that stay.** Let the API server set finalizers as it is asked to. Without faults, let a
removal end well that is to take the finalizer off a secret which no live sibling uses. If the secret
is there, it has the finalizer still exactly if it has had it before and the subpath is kept for a
sibling. -/
theorem isHeld_after_delete {w : Remote} {s : Secret} (hserver : w.server.SetsFinalizers)
    (hfaults : w.faults = []) (hpolicy : v.reclaimPolicy = some reclaimDelete)
    (hkeeps : Keyed.get? v.attributes secretFinalizerKey = some trueText)
    (href : v.secretRef? = some ref) (hok : ((v.delete c).run w).1 = .ok ())
    (hunused : ∀ u ∈ w.cluster.volumes, v.usesSecret ref u = false)
    (hs : ((v.delete c).run w).2.cluster.secret? (.ofText? ref.name) (.ofText? ref.space) = some s) :
    s.IsHeld ↔ mayDeleteSubpath w.cluster.volumes v v.pathPattern? = false ∧
      ∃ old, w.cluster.secret? (.ofText? ref.name) (.ofText? ref.space) = some old ∧ old.IsHeld := by
  have hanswers := (v.delete c).answers_exchanges w
  have htrace := (v.delete c).trace_run w
  rw [← (v.delete c).after_exchanges w] at hs
  rw [hok] at htrace
  generalize (v.delete c).exchanges w = es at hanswers htrace hs
  generalize ho : (.ok () : Except Failure Unit) = o at htrace
  cases course_of_trace htrace with
  | retained hother => exact absurd hpolicy hother
  | sourceless | unlisted | failed => cases ho
  | kept source vs _ hcsi hmay =>
    have hlisted : Except.ok w.cluster.volumes = .ok vs := Remote.answer_of_answers_head hanswers
    cases hlisted
    rw [Remote.cluster_after (List.forall_mem_singleton.mpr rfl)] at hs
    refine ⟨fun hheld => ⟨hmay, s, hs, hheld⟩, ?_⟩
    rintro ⟨-, old, hold, hheld⟩
    rw [hs] at hold
    cases hold
    exact hheld
  | cleared source vs between rest o _ hcsi hmay hsub hrest =>
    have hlisted : Except.ok w.cluster.volumes = .ok vs := Remote.answer_of_answers_head hanswers
    cases hlisted
    have hsource : source.nodePublishSecretRef = some ref := by
      rwa [secretRef?, hcsi, Option.bind_some] at href
    rw [finish_of_keeps hkeeps hsource] at hrest
    subst ho
    have hfirst : ∀ e ∈ listing c (.ok w.cluster.volumes) :: between, e.request.writesSecret = false :=
      List.forall_mem_cons.mpr
        ⟨rfl, fun e he => Request.writesSecret_of_isAside (hsub.isAside he)⟩
    have hfree : ¬s.IsHeld :=
      (releaseCourse_of_trace hrest).not_isHeld hserver hfaults hanswers hfirst href hunused hs
    refine iff_of_false hfree ?_
    rintro ⟨hkept, -⟩
    rw [hmay] at hkept
    cases hkept

theorem isHeld_after_delete_keepingVolume :
    let v := keepingVolume "pv-1" "team"
    let w := holding [v]
    w.server.SetsFinalizers ∧ v.reclaimPolicy = some reclaimDelete ∧
      Keyed.get? v.attributes secretFinalizerKey = some trueText ∧ ((v.delete {}).run w).1 = .ok () ∧
      (∀ u ∈ w.cluster.volumes, v.usesSecret fsSecretRef u = false) ∧
      ∃ s, ((v.delete {}).run w).2.cluster.secret? (.str "fs-secret") (.str "default") = some s ∧
        ¬s.IsHeld := by
  intro v w
  have hok : ((v.delete {}).run w).1 = .ok () := eq_ok_of_isOk (by decide +kernel)
  have hunused : ∀ u ∈ w.cluster.volumes, v.usesSecret fsSecretRef u = false := by decide +kernel
  have hmay : mayDeleteSubpath w.cluster.volumes v v.pathPattern? = true := by decide +kernel
  obtain ⟨s, hs⟩ := Option.isSome_iff_exists.mp (by decide +kernel :
    (((v.delete {}).run w).2.cluster.secret? (.str "fs-secret") (.str "default")).isSome = true)
  have hserver : w.server.SetsFinalizers := ApiServer.setsFinalizers_numbering
  refine ⟨hserver, rfl, rfl, hok, hunused, s, hs, fun hheld => ?_⟩
  have hkept := ((isHeld_after_delete (c := {}) hserver rfl rfl rfl rfl hok hunused hs).mp hheld).1
  rw [hmay] at hkept
  cases hkept

/-- A volume at the same subpath, which uses no secret. -/
def sharingVolume : Volume :=
  { loneVolume with
    metadata := { name := "pv-2" }
    csi := some {
      driver := "csi.cfs.confidentialfilesystems.com"
      volumeHandle := "pv-2"
      volumeAttributes := some [(subpathKey, "team"), (descriptorKey, "shared-fs")] } }

/-- A finalizer that nothing needs stays when the subpath is kept for a sibling. -/
theorem isHeld_sharingVolume :
    let v := keepingVolume "pv-1" "team"
    let w := holding [v, sharingVolume]
    w.faults = [] ∧ v.reclaimPolicy = some reclaimDelete ∧
      Keyed.get? v.attributes secretFinalizerKey = some trueText ∧
      v.secretRef? = some fsSecretRef ∧ ((v.delete {}).run w).1 = .ok () ∧
      (∀ u ∈ w.cluster.volumes, v.usesSecret fsSecretRef u = false) ∧
      ∃ s, ((v.delete {}).run w).2.cluster.secret? (.str "fs-secret") (.str "default") = some s ∧
        s.IsHeld := by
  intro v w
  have hheld : (((v.delete {}).run w).2.cluster.secret? (.str "fs-secret") (.str "default")).any
      (fun s => decide s.IsHeld) = true := by decide +kernel
  obtain ⟨s, hs, hheld⟩ := (Option.any_eq_true _ _).mp hheld
  exact ⟨rfl, rfl, rfl, rfl, eq_ok_of_isOk (by decide +kernel), by decide +kernel, s, hs,
    of_decide_eq_true hheld⟩

end Volume

end SubpathCsi
