import SubpathCsi.Act
import SubpathCsi.Config
import SubpathCsi.Json.Display
import SubpathCsi.Json.Reader
import SubpathCsi.Json.Shape

/-!
# Credentials

The resource server decides whether a claim may be acted for, and hands out the certificates with
which a filesystem manager is talked to.

* `Credential.check`: the credential for an action on a claim, or a refusal;
* `Certificates.ofOwner`: the certificates for the filesystems of an owner.
-/

namespace SubpathCsi

/-- What a claim may be acted for. -/
inductive FsAction where
  /-- Making a volume. -/
  | create
  /-- Changing a filesystem. -/
  | update
  /-- Removing a volume. -/
  | delete
  deriving DecidableEq, Repr

namespace FsAction

/-- The name of an action. -/
def name : FsAction → String
  | create => "CREATE"
  | update => "UPDATE"
  | delete => "DELETE"

/-- All actions. -/
def all : List FsAction := [create, update, delete]

/-- The action with a name. -/
def ofName (s : String) : Except Failure FsAction :=
  match all.find? (·.name = s) with
  | some a => .ok a
  | none => .error (.defect (.badValue (quoted s ++ " is not a valid FsAction")))

end FsAction

namespace ResourceServer

/-- The name of the service in messages. -/
def serviceName : String := "resource server"

/-- The path under which claims are decided on. -/
def claimsPath : String := "/v1/auth/claims"

/-- What the paths of certificates begin with. -/
def certsPath : String := "/v1/certs/"

/-- The address of the service, without slashes at its end. -/
def address (c : Config) : String :=
  String.ofList (c.resourceServerUrl.toList.reverse.dropWhile (· = '/')).reverse

/-- When requests are sent again. They change nothing at the service, also those that are posted. -/
def retries : RetryPolicy where
  total := 3
  backoff := 1
  statuses := [429, 500, 502, 503, 504]
  methods := [.get, .post]

/-- The error for a request that got no response. -/
def faultError (c : Config) : HttpFault → ControllerError :=
  HttpFault.caught (.timeout serviceName c.resourceServerTimeout) (.connection serviceName)
    fun text => .internal (serviceName ++ " request failed: " ++ text)

/-- What a response tells to one who asked for something. A status of 401 or 403 is a refusal, whose
reason is the text, if there is any. -/
def read (purpose : String) (r : HttpResponse) : Except ControllerError Json :=
  if r.status = 401 || r.status = 403 then
    let reason := trimmed r.text
    .error (.permissionDenied purpose
      (if reason.isEmpty then "HTTP " ++ toString r.status else reason))
  else if r.status ≥ 400 then
    .error (.internal (serviceName ++ " HTTP " ++ toString r.status ++ ": " ++ r.text))
  else match Json.parse r.text with
    | .ok j => .ok j
    | .error _ => .error (.internal (serviceName ++ " returned a non-JSON body"))

/-- Asks the resource server. -/
def ask (c : Config) (method : HttpMethod) (path purpose : String) (body : Option Json) :
    Act Json := do
  let response ← Act.request (.http
    { service := .resourceServer retries, method, url := address c ++ path, body,
      timeout := c.resourceServerTimeout })
  match response with
  | .error fault => Act.report (faultError c fault)
  | .ok r =>
    match read purpose r with
    | .ok j => return j
    | .error e => Act.report e

end ResourceServer

/-- The permission to act for a claim. -/
structure Credential where
  /-- Who owns the filesystem. -/
  owner : Json
  /-- What is permitted. -/
  action : Json
  deriving Repr

namespace Credential

/-- What the resource server is asked for a claim. -/
def question (space name : Json) (action : FsAction) : Json :=
  .obj [("namespace", space), ("name", name), ("action", .str action.name)]

/-- The credential in an answer. Without an owner there is no permission. -/
def ofAnswer (space name : Json) (action : FsAction) (answer : Json) :
    Except Failure Credential := do
  let owner ← answer.findD "owner" .null
  if !owner.isPresent then
    throw (.reported (.permissionDenied action.name
      ("no owner granted for " ++ ApiRequest.spaced name space)))
  let granted ← answer.findD "action" .null
  return { owner, action := if granted.isPresent then granted else .str action.name }

/-- The credential for an action on a claim. -/
def check (c : Config) (space name : Json) (action : FsAction) : Act Credential := do
  let answer ← ResourceServer.ask c .post ResourceServer.claimsPath action.name
    (some (question space name action))
  ofAnswer space name action answer

end Credential

/-- The certificates for the filesystems of an owner. -/
structure Certificates where
  /-- The certificate of the authority. -/
  ca : Json
  /-- The certificate of the client. -/
  cert : Json
  /-- The key of the client. -/
  key : Json
  deriving Repr

namespace Certificates

/-- One part of the certificates in an answer. -/
def part (owner : Json) (answer : Json) (key : String) : Except Failure Json :=
  match answer.entry key with
  | .error (.defect (.missingKey key)) =>
    .error (.reported (.internal
      ("client certs of " ++ owner.display ++ " missing " ++ quoted key)))
  | r => r

/-- The certificates in an answer. -/
def ofAnswer (owner : Json) (answer : Json) : Except Failure Certificates := do
  return { ca := ← part owner answer "ca", cert := ← part owner answer "cert",
           key := ← part owner answer "key" }

/-- The certificates for the filesystems of an owner. -/
def ofOwner (c : Config) (owner : Json) : Act Certificates := do
  let answer ← ResourceServer.ask c .get (ResourceServer.certsPath ++ owner.display)
    "get client certs" none
  ofAnswer owner answer

end Certificates

end SubpathCsi
