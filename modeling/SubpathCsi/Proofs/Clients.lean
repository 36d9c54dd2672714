import SubpathCsi.Kube.Client
import SubpathCsi.Manager
import SubpathCsi.Proofs.Act.Trace

/-!
# Traces of the clients

Each client asks little: the API server and the resource server are asked once, and a filesystem
manager is asked between a request for certificates and the end of the connection. What a call comes
to is a function of the answers alone.

* `Kube.call_eq_once`, `Kube.descriptor_eq_once`: one exchange with the API server;
* `Credential.check_eq_once`, `Certificates.ofOwner_eq_once`: one with the resource server;
* `Manager.trace_send`: certificates, the request itself, the end of the connection; no request at
  all when the certificates are not good;
* `Manager.trace_deleteSubpath`: the removal of a subpath, by one request or none;
* `Request.isRemoval`, `Request.told?`: which requests remove a subpath, and what they tell.
-/

namespace SubpathCsi

variable {c : Config} {es : List Exchange}

/-! ### What is asked of managers -/

namespace Request

/-- The request removes a subpath from a filesystem. -/
def isRemoval : Request → Bool
  | .http r =>
    match r.service with
    | .manager _ => r.method = .delete
    | .resourceServer _ => false
  | _ => false

/-- The request goes to a filesystem manager. -/
def asksManager : Request → Bool
  | .http r =>
    match r.service with
    | .manager _ => true
    | .resourceServer _ => false
  | _ => false

/-- The request goes to a service over HTTP. -/
def isHttp : Request → Bool
  | .http _ => true
  | _ => false

/-- Without a service, nothing is removed. -/
theorem isRemoval_of_isHttp {r : Request} (h : r.isHttp = false) : r.isRemoval = false := by
  cases r with
  | http r => cases h
  | api | close | draw | useClusterConfig | useLocalConfig | serve => rfl

/-- What the body of a request says under a key. -/
def told? (r : Request) (key : String) : Option Json :=
  match r with
  | .http r => r.body.bind (·.get? key)
  | _ => none

/-- The request removes the subpath `s`. -/
def Removes (r : Request) (s : String) : Prop :=
  r.isRemoval = true ∧ r.told? "subpath" = some (.str s)

end Request

/-- The exchanges that remove something. -/
def removals (es : List Exchange) : List Exchange := es.filter (·.request.isRemoval)

@[simp] theorem removals_nil : removals [] = [] := rfl

theorem removals_append (es es' : List Exchange) :
    removals (es ++ es') = removals es ++ removals es' := List.filter_append ..

theorem mem_removals {e : Exchange} :
    e ∈ removals es ↔ e ∈ es ∧ e.request.isRemoval = true := List.mem_filter

/-- An act that never asks for a removal has none in its traces. -/
theorem removals_eq_nil_of_asks {α : Type} {a : Act α} {o : Except Failure α}
    (ha : a.Asks fun r => r.isRemoval = false) (h : a.Trace es o) : removals es = [] := by
  refine List.filter_eq_nil_iff.mpr fun e he => ?_
  rw [ha.of_mem h he]
  exact Bool.false_ne_true

/-! ### The API server -/

namespace Kube

/-- What a call comes to, by the answer. -/
def outcome (r : ApiRequest) (x : Except ApiFault r.Answer) : Except Failure r.Answer :=
  x.mapError (·.failure r)

theorem call_eq_once (c : Config) (r : ApiRequest) :
    call c r = Act.once (.api c.requestTimeout r) (outcome r) := by
  change Act.ask _ _ = Act.ask _ _
  congr 1
  funext x
  cases x <;> rfl

/-- What the API server has handed out. -/
def fetched (c : Config) (r : ApiRequest) (x : r.Answer) : Exchange :=
  ⟨.api c.requestTimeout r, .ok x⟩

/-- A call succeeds if the API server answers it. -/
theorem trace_call_ok {r : ApiRequest} {x : r.Answer} :
    (call c r).Trace es (.ok x) ↔ es = [fetched c r x] := by
  rw [call_eq_once, Act.trace_once]
  constructor
  · rintro ⟨y, rfl, hy⟩
    rw [mapError_eq_ok.mp hy.symm]
    rfl
  · rintro rfl
    exact ⟨.ok x, rfl, rfl⟩

/-- A call at the beginning is refused, and that is the end; or what is answered is gone on with. -/
theorem trace_call_bind {α : Type} {r : ApiRequest} {k : r.Answer → Act α} {o : Except Failure α} :
    (call c r >>= k).Trace es o ↔
      (∃ fault, es = [⟨.api c.requestTimeout r, .error fault⟩] ∧ o = .error (fault.failure r)) ∨
        ∃ x rest, es = fetched c r x :: rest ∧ (k x).Trace rest o := by
  rw [call_eq_once, Act.trace_bind]
  simp only [Act.trace_once]
  constructor
  · rintro (⟨f, ⟨y, rfl, hy⟩, rfl⟩ | ⟨x, _, rest, ⟨y, rfl, hy⟩, h, rfl⟩)
    · cases y with
      | ok x => cases hy
      | error fault =>
        cases hy
        exact .inl ⟨fault, rfl, rfl⟩
    · obtain rfl : y = .ok x := mapError_eq_ok.mp hy.symm
      exact .inr ⟨x, rest, rfl, h⟩
  · rintro (⟨fault, rfl, rfl⟩ | ⟨x, rest, rfl, h⟩)
    · exact .inl ⟨_, ⟨.error fault, rfl, rfl⟩, rfl⟩
    · exact .inr ⟨x, _, rest, ⟨.ok x, rfl, rfl⟩, h, rfl⟩

/-- What reading a descriptor comes to, by the answer. -/
def descriptorOutcome (name : Json) (x : Except ApiFault Json) : Except Failure Descriptor :=
  outcome (.readDescriptor name) x >>= fun raw =>
    (Descriptor.ofJson raw).mapError fun count => .defect (.malformedDescriptor count)

theorem descriptor_eq_once (c : Config) (name : Json) :
    descriptor c name =
      Act.once (.api c.requestTimeout (.readDescriptor name)) (descriptorOutcome name) := by
  rw [descriptor, call_eq_once]
  refine Eq.trans (congrArg (Act.bind _) (funext fun raw => ?_))
    (Act.once_bind_liftM _ _ fun raw =>
      (Descriptor.ofJson raw).mapError fun count => .defect (.malformedDescriptor count))
  cases Descriptor.ofJson raw <;> rfl

theorem descriptorOutcome_eq_ok {name : Json} {y : Except ApiFault Json} {d : Descriptor} :
    descriptorOutcome name y = .ok d ↔ ∃ raw, y = .ok raw ∧ Descriptor.ofJson raw = .ok d := by
  rw [descriptorOutcome, bind_eq_ok]
  simp only [outcome, mapError_eq_ok]

/-- A descriptor counts as absent only if the API server says so. -/
theorem descriptorOutcome_eq_notFound {name : Json} {y : Except ApiFault Json}
    {kind word : String}
    (h : descriptorOutcome name y = .error (.reported (.notFound kind word))) :
    ∃ reason, y = .error (.status 404 reason) := by
  cases y with
  | ok raw =>
    -- a descriptor that is there is faulty at worst
    change (Descriptor.ofJson raw).mapError _ = _ at h
    cases hraw : Descriptor.ofJson raw <;> (rw [hraw] at h; cases h)
  | error fault =>
    have hf : fault.failure (.readDescriptor name) = .reported (.notFound kind word) := by
      injection h
    unfold ApiFault.failure at hf
    split at hf
    · exact ⟨_, rfl⟩
    all_goals cases hf

end Kube

/-! ### The resource server -/

namespace ResourceServer

/-- The request by which the server is asked. -/
def requestTo (c : Config) (method : HttpMethod) (path : String) (body : Option Json) :
    HttpRequest :=
  { service := .resourceServer retries, method, url := address c ++ path, body,
    timeout := c.resourceServerTimeout }

/-- What asking comes to, by the answer. -/
def outcome (c : Config) (purpose : String) (x : Except HttpFault HttpResponse) :
    Except Failure Json :=
  match x with
  | .error fault => .error (.reported (faultError c fault))
  | .ok r => (read purpose r).mapError .reported

theorem ask_eq_once (c : Config) (method : HttpMethod) (path purpose : String)
    (body : Option Json) :
    ask c method path purpose body =
      Act.once (.http (requestTo c method path body)) (outcome c purpose) := by
  change Act.ask _ _ = Act.ask _ _
  congr 1
  funext x
  cases x with
  | error fault => rfl
  | ok r =>
    dsimp only [outcome, Act.bind]
    cases read purpose r <;> rfl

end ResourceServer

namespace Credential

/-- The request for permission to act for a claim. -/
def requestFor (c : Config) (space name : Json) (action : FsAction) : HttpRequest :=
  ResourceServer.requestTo c .post ResourceServer.claimsPath (some (question space name action))

/-- What the check comes to, by the answer. -/
def outcome (c : Config) (space name : Json) (action : FsAction)
    (x : Except HttpFault HttpResponse) : Except Failure Credential :=
  ResourceServer.outcome c action.name x >>= ofAnswer space name action

theorem check_eq_once (c : Config) (space name : Json) (action : FsAction) :
    check c space name action =
      Act.once (.http (requestFor c space name action)) (outcome c space name action) := by
  rw [check, ResourceServer.ask_eq_once]
  exact Act.once_bind_liftM _ _ _

end Credential

namespace Certificates

/-- The request for the certificates of an owner. -/
def requestFor (c : Config) (owner : Json) : HttpRequest :=
  ResourceServer.requestTo c .get (ResourceServer.certsPath ++ owner.display) none

/-- What fetching certificates comes to, by the answer. -/
def outcome (c : Config) (owner : Json) (x : Except HttpFault HttpResponse) :
    Except Failure Certificates :=
  ResourceServer.outcome c "get client certs" x >>= ofAnswer owner

theorem ofOwner_eq_once (c : Config) (owner : Json) :
    ofOwner c owner = Act.once (.http (requestFor c owner)) (outcome c owner) := by
  rw [ofOwner, ResourceServer.ask_eq_once]
  exact Act.once_bind_liftM _ _ _

end Certificates

/-! ### Filesystem managers -/

namespace Manager

/-- The request by which the manager of a filesystem is asked. -/
def requestTo (c : Config) (tls : ClientTls) (method : HttpMethod) (path : String)
    (d : Descriptor) (body : Json) : HttpRequest :=
  { service := .manager tls, method, url := address c d ++ path, body := some body,
    timeout := c.fsManagerTimeout }

/-- What the manager is shown, by the answer to the request for certificates. -/
def tlsOf (c : Config) (owner : Json) (x : Except HttpFault HttpResponse) :
    Except Failure ClientTls :=
  Certificates.outcome c owner x >>= clientTls c

/-- What asking the manager comes to, by the answer. -/
def outcome (c : Config) (y : Except HttpFault HttpResponse) : Except Failure Unit :=
  match y with
  | .error fault => .error (.reported (faultError c fault))
  | .ok r => read r

/-- A request to a manager in two parts: what it is shown, and then what it is asked. -/
theorem send_eq (c : Config) (method : HttpMethod) (path : String) (d : Descriptor)
    (owner body : Json) :
    send c method path d owner body =
      Act.once (.http (Certificates.requestFor c owner)) (tlsOf c owner) >>= fun tls =>
        Act.ask (.http (requestTo c tls method path d body)) fun y =>
          Act.ask .close fun _ => liftM (outcome c y) := by
  have hsplit : Act.once (.http (Certificates.requestFor c owner)) (tlsOf c owner) =
      Certificates.ofOwner c owner >>= fun certs => liftM (clientTls c certs) := by
    rw [Certificates.ofOwner_eq_once, Act.once_bind_liftM]
    rfl
  -- both sides go on with the same connection, whatever comes back
  rw [hsplit, bind_assoc, send]
  congr 1
  funext certs
  congr 1
  funext tls
  change Act.ask _ _ = Act.ask _ _
  congr 1
  funext y
  cases y <;> rfl

/-- The exchanges of a request to a manager, once the certificates are good. -/
def sent (c : Config) (tls : ClientTls) (method : HttpMethod) (path : String) (d : Descriptor)
    (owner body : Json) (x y : Except HttpFault HttpResponse) : List Exchange :=
  [⟨.http (Certificates.requestFor c owner), x⟩, ⟨.http (requestTo c tls method path d body), y⟩,
    ⟨.close, ()⟩]

/-- **A request to a manager.** Either there are no good certificates, and the manager is not asked;
or it is asked once, and then the connection is closed. -/
theorem trace_send {method : HttpMethod} {path : String} {d : Descriptor} {owner body : Json}
    {o : Except Failure Unit} :
    (send c method path d owner body).Trace es o ↔
      ∃ x, (∃ f, tlsOf c owner x = .error f ∧
          es = [⟨.http (Certificates.requestFor c owner), x⟩] ∧ o = .error f) ∨
        ∃ tls y, tlsOf c owner x = .ok tls ∧ es = sent c tls method path d owner body x y ∧
          o = outcome c y := by
  rw [send_eq, Act.trace_bind]
  simp only [Act.trace_once]
  constructor
  · rintro (⟨f, ⟨x, rfl, hx⟩, rfl⟩ | ⟨tls, _, _, ⟨x, rfl, hx⟩, ⟨y, _, rfl, ⟨⟩, _, rfl, h⟩, rfl⟩)
    · exact ⟨x, .inl ⟨f, hx.symm, rfl, rfl⟩⟩
    · obtain ⟨rfl, rfl⟩ := Act.trace_liftM.mp h
      exact ⟨x, .inr ⟨tls, y, hx.symm, rfl, rfl⟩⟩
  · rintro ⟨x, ⟨f, hf, rfl, rfl⟩ | ⟨tls, y, htls, rfl, rfl⟩⟩
    · exact .inl ⟨f, ⟨x, rfl, hf.symm⟩, rfl⟩
    · exact .inr ⟨tls, [_], _, ⟨x, rfl, htls.symm⟩,
        ⟨y, _, rfl, (), [], rfl, Act.trace_liftM.mpr ⟨rfl, rfl⟩⟩, rfl⟩

/-- A manager has done what it was asked only if its response is good. -/
theorem outcome_eq_ok {y : Except HttpFault HttpResponse} (h : outcome c y = .ok ()) :
    ∃ r, y = .ok r ∧ r.status < 400 := by
  cases y with
  | error fault => cases h
  | ok r =>
    refine ⟨r, rfl, Int.not_le.mp fun hle => ?_⟩
    change read r = .ok () at h
    rw [read, if_pos hle] at h
    obtain ⟨reason, -, h⟩ := bind_eq_ok.mp h
    cases h

/-- The request to remove a subpath. -/
def removalRequest (c : Config) (tls : ClientTls) (d : Descriptor) (credential : Credential)
    (subpath : String) : HttpRequest :=
  requestTo c tls .delete subpathPath d
    (.obj [("name", .str d.filesystemName), ("action", credential.action),
      ("subpath", .str subpath)])

theorem removalRequest_removes (tls : ClientTls) (d : Descriptor) (credential : Credential)
    (subpath : String) :
    (Request.http (removalRequest c tls d credential subpath)).Removes subpath := ⟨rfl, rfl⟩

theorem told?_removalRequest_name (tls : ClientTls) (d : Descriptor) (credential : Credential)
    (subpath : String) :
    (Request.http (removalRequest c tls d credential subpath)).told? "name" =
      some (.str d.filesystemName) := rfl

/-- A removal fails before the manager is asked, or it is the one removal that is asked for. -/
theorem trace_deleteSubpath {d : Descriptor} {credential : Credential} {subpath : String}
    {o : Except Failure Unit} (h : (deleteSubpath c d credential subpath).Trace es o) :
    (removals es = [] ∧ ∃ x f, tlsOf c credential.owner x = .error f ∧
        es = [⟨.http (Certificates.requestFor c credential.owner), x⟩] ∧ o = .error f) ∨
      ∃ x tls y, tlsOf c credential.owner x = .ok tls ∧
        (⟨.http (Certificates.requestFor c credential.owner), x⟩ : Exchange) ∈ es ∧
        removals es = [⟨.http (removalRequest c tls d credential subpath), y⟩] ∧
        o = outcome c y := by
  obtain ⟨x, ⟨f, hf, rfl, rfl⟩ | ⟨tls, y, htls, rfl, rfl⟩⟩ := trace_send.mp h
  · exact .inl ⟨rfl, x, f, hf, rfl, rfl⟩
  · exact .inr ⟨x, tls, y, htls, List.mem_cons_self, rfl, rfl⟩

end Manager

end SubpathCsi
