import SubpathCsi.Credential
import SubpathCsi.Descriptor.Basic

/-!
# Filesystem managers

Every filesystem has a manager beside its metadata server. The manager is talked to with
certificates of the filesystem's owner, which are fetched for each request anew, and the connection
is closed after it, whatever comes back.
-/

namespace SubpathCsi.Manager

/-- The name of the service in messages. -/
def serviceName : String := "filesystem manager"

/-- The path under which filesystems are changed. -/
def filesystemPath : String := "/v1/mgmt/filesystem"

/-- The path under which subpaths are removed. -/
def subpathPath : String := "/v1/mgmt/filesystem/subpath"

/-- The address of the manager of a filesystem. -/
def address (c : Config) (d : Descriptor) : String :=
  "https://" ++ d.serviceHost ++ ":" ++ toString c.fsManagerPort

/-- A certificate as it is written to a file. -/
def pem (j : Json) : Except Failure String :=
  match j with
  | .str s => .ok s
  | j => .error (.defect (.wrongType ("write() argument must be str, not " ++ j.typeName)))

/-- What the manager is shown. -/
def clientTls (c : Config) (certs : Certificates) : Except Failure ClientTls := do
  return { ca := ← pem certs.ca, cert := ← pem certs.cert, key := ← pem certs.key,
           serverName := c.serverCommonName }

/-- The error for a request that got no response. -/
def faultError (c : Config) : HttpFault → ControllerError :=
  HttpFault.caught (.timeout serviceName c.fsManagerTimeout) (.connection serviceName)
    .managerFailure

/-- The reason that a response with an error gives: a code and a message, or else its text. -/
def reason (text : String) : Except Failure String :=
  match Json.parse text with
  | .error _ => .ok text
  | .ok j => do
    let code ← j.findD "code" .null
    let message ← j.findD "message" .null
    return "code " ++ code.display ++ ": " ++ message.display

/-- A response is good if its status is below 400. -/
def read (r : HttpResponse) : Except Failure Unit :=
  if r.status ≥ 400 then do
    let reason ← reason r.text
    throw (.reported (.managerFailure ("HTTP " ++ toString r.status ++ ": " ++ reason)))
  else .ok ()

/-- Sends one request to the manager of a filesystem. -/
def send (c : Config) (method : HttpMethod) (path : String) (d : Descriptor) (owner body : Json) :
    Act Unit := do
  let certs ← Certificates.ofOwner c owner
  let tls ← clientTls c certs
  let response ← Act.request (.http
    { service := .manager tls, method, url := address c d ++ path, body := some body,
      timeout := c.fsManagerTimeout })
  Act.request .close
  match response with
  | .error fault => Act.report (faultError c fault)
  | .ok r => read r

/-- Tells the manager that the claims of a filesystem have changed. -/
def updateFilesystem (c : Config) (d : Descriptor) (credential : Credential) : Act Unit :=
  send c .put filesystemPath d credential.owner
    (.obj [("name", .str d.filesystemName), ("action", credential.action)])

/-- Removes one subpath and its data. -/
def deleteSubpath (c : Config) (d : Descriptor) (credential : Credential) (subpath : String) :
    Act Unit :=
  send c .delete subpathPath d credential.owner
    (.obj [("name", .str d.filesystemName), ("action", credential.action),
      ("subpath", .str subpath)])

end SubpathCsi.Manager
