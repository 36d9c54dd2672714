import SubpathCsi.Act
import SubpathCsi.Config
import SubpathCsi.Json.Reader
import SubpathCsi.Text.LetterCase
import SubpathCsi.Text.Split

/-!
# The webhook's server

Two paths are served: one takes admission reviews, the other tells that the server is alive. A slash
at the end of a path is passed over. A body that is no review is refused before any handler sees it.
-/

namespace SubpathCsi.Admission

/-- The title of the server. -/
def serverTitle : String := "CFS sidecar webhook"

/-- The path of admission reviews. -/
def sidecarPath : String := "/cfs/inject-v1-pod"

/-- The path of the question whether the server is alive. -/
def healthPath : String := "/healthz"

/-- What comes back from the server. -/
inductive Answer where
  /-- All is well. -/
  | ok (body : Json)
  /-- The request is refused with a status. -/
  | refused (status : Nat)
  /-- The handler failed. -/
  | failed
  deriving Repr

namespace Answer

/-- The status of an answer. -/
def status : Answer → Nat
  | ok _ => 200
  | refused status => status
  | failed => 500

/-- What is told of a failure that nothing foresees, under the identifier of the request. -/
def failureBody (requestId : String) : Json :=
  .obj [("request_id", .str requestId), ("status", .str "error"),
    ("error", .obj [("code", .str "INTERNAL_ERROR"), ("message", .str "Internal server error"),
      ("details", .obj [])])]

end Answer

/-- The path of an address, without the part after a question mark. -/
def pathOf (address : String) : String := String.ofList (address.toList.takeWhile (· ≠ '?'))

/-- A path with its slashes at the end taken off, or with one put there. -/
def otherPath (path : String) : String :=
  let cs := path.toList
  if cs.getLast? = some '/' then String.ofList (cs.reverse.dropWhile (· = '/')).reverse
  else path ++ "/"

/-- The method that a path is served with. -/
def methodOf? (path : String) : Option String :=
  if path = sidecarPath then some "POST" else if path = healthPath then some "GET" else none

/-- The path that serves a request: its own, or the one that differs in slashes at the end. -/
def served? (path : String) : Option String :=
  if (methodOf? path).isSome then some path
  else if path ≠ "/" && (methodOf? (otherPath path)).isSome then some (otherPath path)
  else none

/-- The text under a key, or under another if that is missing, is a text or missing. -/
def isTextUnder (ms : Keyed Json) (keys : List String) : Bool :=
  match keys.findSome? (Keyed.get? ms) with
  | none => true
  | some (.str _) => true
  | some _ => false

/-- A body that is a review: an object whose version and kind are texts and whose request is an
object, or null. -/
def isReview (j : Json) : Bool :=
  match j with
  | .obj ms =>
    isTextUnder ms ["apiVersion", "api_version"] && isTextUnder ms ["kind"] &&
      (match Keyed.get? ms "request" with
        | none | some .null | some (.obj _) => true
        | some _ => false)
  | _ => false

/-- The answer for a review in a body. -/
def answerReview (handler : Json → Act Json) (body : String) : Act Answer :=
  match Json.parse body with
  | .error _ => return .refused 422
  | .ok j =>
    if isReview j then (Answer.ok <$> handler j).rescueAll fun _ => return .failed
    else return .refused 422

/-- The answer to a request. -/
def answer (handler : Json → Act Json) (method address body : String) : Act Answer :=
  match served? (pathOf address) with
  | none => return .refused 404
  | some path =>
    if methodOf? path ≠ some (Text.upper method) then return .refused 405
    else if path = healthPath then return .ok (.obj [("status", .str "ok")])
    else answerReview handler body

end SubpathCsi.Admission
