import SubpathCsi.Admission.Event
import SubpathCsi.Admission.Response
import SubpathCsi.Json.Patch
import SubpathCsi.Pod.Mutation

/-!
# Admission of pods

A request brings a pod. A pod that has its sidecars already, or wants none, or uses no filesystem of
this driver, is admitted as it is; every other pod gets its sidecars, by a patch. If that fails, the
pod is rejected.

* `Admission.decide`: the answer to a request;
* `Admission.review`: the answer to a review, whatever goes wrong with its request.
-/

namespace SubpathCsi.Admission

/-- The reason of events about pods that get no sidecars. -/
def eventReason : String := "Injecting"

/-- The pod with the namespace of the request, if it has none of its own. -/
def withSpace (request metadata : Json) : Except Failure Json := do
  let own ← metadata.findD "namespace" .null
  let given ← request.findD "namespace" .null
  if !own.isPresent && given.isPresent then metadata.assign "namespace" given
  else return metadata

/-- A pod has a label that is set. -/
def hasLabel (labels : Json) (key : String) : Except Failure Bool := do
  return (← labels.findD key .null).same (.str trueText)

/-- Why a pod is admitted without a look at its volumes, if it is. -/
def skipReason? (metadata : Json) : Except Failure (Option String) := do
  let labels ← metadata.findD "labels" .null
  let labels := if labels.isPresent then labels else .obj []
  if ← hasLabel labels doneLabel then
    return some "skip mutating the pod because injection is done"
  else if ← hasLabel labels disableLabel then
    return some "skip mutating the pod because injection is disabled"
  else return none

/-- A pod without its namespace. -/
def withoutSpace (pod : Json) : Json :=
  match pod, pod.get? "metadata" with
  | .obj ms, some (.obj metadata) =>
    .obj (Keyed.put ms "metadata" (.obj (Keyed.erase metadata "namespace")))
  | pod, _ => pod

/-- The pod as it came has a namespace. -/
def hasSpace (raw : Json) : Except Failure Bool := do
  return (← (← raw.findD "metadata" (.obj [])).findD "namespace" .null).isPresent

/-- The patch that gives a pod its sidecars. The namespace of the request is no part of it. -/
def patchOf (raw out : Json) : Except Failure (List Json) := do
  let out := if ← hasSpace raw then out else withoutSpace out
  return (Patch.between raw out).map Patch.opToJson

/-- Records that a pod gets no sidecars, if the pod has a name. -/
def recordFailure (c : Config) (pod name : Json) (error : String) : Act Unit := do
  if name.isPresent then
    warn c pod eventReason ("Failed to inject sidecar container: " ++ error)

/-- The answer for a pod that uses filesystems. -/
def mutate (c : Config) (uid raw pod name : Json) (pairs : List Pair) : Act Response := do
  let out ← (Except.ok <$> Mutation.run c pod pairs).rescueReported fun e => return .error e
  match (out : Except ControllerError Json) with
  | .ok out => return .patched uid (← patchOf raw out)
  | .error e =>
    let error := "mutate err: " ++ e.message
    recordFailure c pod name error
    return .errored uid 400 error

/-- The answer for a pod, which is an object. -/
def answerPod (c : Config) (request uid raw : Json) : Act Response := do
  let metadata ← withSpace request (← raw.findD "metadata" (.obj []))
  let pod ← raw.assign "metadata" metadata
  let name ← EventTarget.nameOf metadata
  match ← skipReason? metadata with
  | some reason => return .allowed uid reason
  | none =>
    let pairs ← (some <$> Pair.ofPod c pod).rescueReported fun _ => return none
    match pairs with
    | none => return .errored uid 400 "could not get pv from pod"
    | some [] => return .allowed uid "skip mutating the pod because it doesn't use CFS volume"
    | some pairs => mutate c uid raw pod name pairs

/-- The answer to a request. -/
def decide (c : Config) (request : Json) : Act Response := do
  let uid ← request.findD "uid" (.str "")
  match ← request.find "object" with
  | some (.obj ms) => answerPod c request uid (.obj ms)
  | _ => return .errored uid 400 "unable to decode pod from request"

/-- The answer to a review. A failure that nothing foresees rejects the pod. -/
def review (c : Config) (j : Json) : Act Response := do
  let request ← j.findD "request" .null
  let request := if request.isPresent then request else .obj []
  (decide c request).rescueAll fun f => do
    return .errored (← request.findD "uid" (.str "")) 500 ("internal error: " ++ f.message)

end SubpathCsi.Admission
