import SubpathCsi.Json.Shape
import SubpathCsi.Kube.Client

/-!
# Events

When a pod cannot get its sidecars, an event tells of it. It is about what the pod belongs to: its
first owner, and in the place of a replica set the deployment behind it. Whatever goes wrong with an
event is passed over.
-/

namespace SubpathCsi.Admission

/-- What an event is about. -/
structure EventTarget where
  /-- The version of its API. -/
  apiVersion : Json
  /-- Its kind. -/
  kind : Json
  /-- Its name. -/
  name : Json
  /-- Its namespace. -/
  space : Json
  /-- Its identifier. -/
  uid : Json
  deriving Repr

namespace EventTarget

/-- Writes a target. -/
def toJson (t : EventTarget) : Json :=
  .obj [("apiVersion", t.apiVersion), ("kind", t.kind), ("name", t.name), ("namespace", t.space),
    ("uid", t.uid)]

/-- The name of an object, or what names are generated from. -/
def nameOf (metadata : Json) : Except Failure Json := do
  let name ← metadata.findD "name" .null
  if name.isPresent then return name else metadata.findD "generateName" (.str "")

/-- The pod itself. -/
def ofPod (metadata space : Json) : Except Failure EventTarget := do
  return {
    apiVersion := .str "v1"
    kind := .str "Pod"
    name := ← nameOf metadata
    space
    uid := ← metadata.findD "uid" (.str "") }

/-- The owner of a pod. -/
def ofOwner (owner space : Json) : Except Failure EventTarget := do
  return {
    apiVersion := ← owner.findD "apiVersion" (.str "")
    kind := ← owner.findD "kind" (.str "")
    name := ← owner.findD "name" (.str "")
    space
    uid := ← owner.findD "uid" (.str "") }

/-- The kind of replica sets. -/
def replicaSetKind : Json := .str "ReplicaSet"

/-- The deployment behind a replica set, if there is one. -/
def deployment? (s : ReplicaSet) (space : Json) : Option EventTarget :=
  ((s.metadata.ownerReferences.getD []).find? (·.kind = "Deployment")).map fun o =>
    { apiVersion := .str o.apiVersion, kind := .str o.kind, name := .str o.name, space,
      uid := .str o.uid }

/-- What an event about the owner of a pod is about. -/
def behindOwner (c : Config) (owner space : Json) : Act EventTarget := do
  let target ← ofOwner owner space
  if target.kind.same replicaSetKind then
    let name ← owner.entry "name"
    let set ← (some <$> Kube.replicaSet c name space).rescueReported fun _ => return none
    return ((set.bind (deployment? · space)).getD target)
  else return target

/-- The first item of a list. -/
def firstItem (j : Json) : Except Failure Json :=
  match j with
  | .arr (x :: _) => .ok x
  | _ => .error (.defect (.missingKey "0"))

/-- What an event about a pod is about. -/
def find (c : Config) (pod : Json) : Act EventTarget := do
  let metadata ← pod.findD "metadata" (.obj [])
  let space ← metadata.findD "namespace" (.str "")
  let owners ← metadata.findD "ownerReferences" .null
  if owners.isPresent then behindOwner c (← firstItem owners) space
  else ofPod metadata space

end EventTarget

/-- The part of the controller that records events. -/
def eventComponent : String := "cfs-sidecar-webhook"

/-- A warning about a target. -/
def warningBody (t : EventTarget) (reason message : String) : Json :=
  .obj
    [("apiVersion", .str "v1"), ("kind", .str "Event"),
     ("metadata", .obj [("generateName", .str (t.name.display ++ ".")), ("namespace", t.space)]),
     ("involvedObject", t.toJson), ("reason", .str reason), ("message", .str message),
     ("type", .str "Warning"), ("source", .obj [("component", .str eventComponent)]),
     ("count", .int 1)]

/-- Records a warning about a pod. Failures are passed over. -/
def warn (c : Config) (pod : Json) (reason message : String) : Act Unit :=
  Act.rescueAll (do
    let target ← EventTarget.find c pod
    Kube.createEvent c target.space (warningBody target reason message)) fun _ => return

end SubpathCsi.Admission
