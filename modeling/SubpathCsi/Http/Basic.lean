import SubpathCsi.Json.Basic

/-!
# Requests over HTTP

What the controller sends to the resource server and to filesystem managers, and what may come back:
a response with a status and a text, or an exception of the HTTP library.
-/

namespace SubpathCsi

/-- The methods in use. -/
inductive HttpMethod where
  /-- Reads. -/
  | get
  /-- Asks for something to be decided. -/
  | post
  /-- Brings up to date. -/
  | put
  /-- Removes. -/
  | delete
  deriving DecidableEq, Repr

namespace HttpMethod

/-- The name of a method. -/
def name : HttpMethod → String
  | get => "GET"
  | post => "POST"
  | put => "PUT"
  | delete => "DELETE"

/-- All methods. -/
def all : List HttpMethod := [get, post, put, delete]

/-- The method with a name. -/
def ofName? (s : String) : Option HttpMethod := all.find? (·.name = s)

end HttpMethod

/-- What a client shows a filesystem manager, and whom it expects. -/
structure ClientTls where
  /-- The certificate of the authority. -/
  ca : String
  /-- The certificate of the client. -/
  cert : String
  /-- The key of the client. -/
  key : String
  /-- The name that the server's certificate has to bear. -/
  serverName : String
  deriving DecidableEq, Repr

/-- When a request is sent again. -/
structure RetryPolicy where
  /-- How often at most. -/
  total : Nat
  /-- The first pause, in seconds; each further one is twice as long. -/
  backoff : Nat
  /-- The statuses after which it is. -/
  statuses : List Nat
  /-- The methods with which it is. -/
  methods : List HttpMethod
  deriving DecidableEq, Repr

/-- A service that is asked over HTTP, with the session in which it is asked. -/
inductive Service where
  /-- The resource server, which decides on permissions and hands out certificates. -/
  | resourceServer (retry : RetryPolicy)
  /-- A filesystem manager. -/
  | manager (tls : ClientTls)
  deriving DecidableEq, Repr

/-- A request over HTTP. -/
structure HttpRequest where
  /-- The service that is asked. -/
  service : Service
  /-- The method. -/
  method : HttpMethod
  /-- The address. -/
  url : String
  /-- The body, if there is one. -/
  body : Option Json
  /-- The time that the answer may take, in seconds. -/
  timeout : Int
  deriving Repr

/-- A response. -/
structure HttpResponse where
  /-- The status. -/
  status : Int
  /-- The text. -/
  text : String
  deriving DecidableEq, Repr

/-- A class of the exceptions that the HTTP library raises. -/
inductive HttpFaultClass where
  /-- Any that the library raises. -/
  | request
  /-- Something takes too long. -/
  | timeout
  /-- The response does. -/
  | readTimeout
  /-- Connecting does. -/
  | connectTimeout
  /-- There is no connection. -/
  | connection
  /-- The certificates do not fit. -/
  | ssl
  /-- The proxy does not connect. -/
  | proxy
  /-- The address is none. -/
  | invalidUrl
  /-- The responses lead on and on. -/
  | tooManyRedirects
  /-- The request has been sent again as often as it may be. -/
  | retries
  /-- Any other class that extends `request` only. -/
  | other
  deriving DecidableEq, Repr

namespace HttpFaultClass

/-- A class and those that it extends, directly or through others. -/
def lineage : HttpFaultClass → List HttpFaultClass
  | request => [request]
  | timeout => [timeout, request]
  | readTimeout => [readTimeout, timeout, request]
  | connectTimeout => [connectTimeout, connection, timeout, request]
  | connection => [connection, request]
  | ssl => [ssl, connection, request]
  | proxy => [proxy, connection, request]
  | invalidUrl => [invalidUrl, request]
  | tooManyRedirects => [tooManyRedirects, request]
  | retries => [retries, request]
  | other => [other, request]

/-- A clause for `base` catches exceptions of class `k`. -/
def isA (k base : HttpFaultClass) : Bool := k.lineage.contains base

end HttpFaultClass

/-- Why there is no response: an exception of the HTTP library. -/
structure HttpFault where
  /-- Its class. -/
  kind : HttpFaultClass
  /-- Its text. -/
  text : String
  deriving DecidableEq, Repr

/-- What becomes of an exception. The clauses are tried in this order, and the last one is for
`request`, so it catches whatever is left. A timeout while connecting is a timeout, although it is a
connection error too. -/
def HttpFault.caught {α : Type} (late : α) (unconnected broken : String → α) (fault : HttpFault) :
    α :=
  if fault.kind.isA .timeout then late
  else if fault.kind.isA .connection then unconnected fault.text
  else broken fault.text

end SubpathCsi
