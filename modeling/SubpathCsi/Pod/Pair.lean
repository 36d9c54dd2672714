import SubpathCsi.Json.Shape
import SubpathCsi.Kube.Client
import SubpathCsi.Sharing
import SubpathCsi.Volume.Provision

/-!
# The filesystems of a pod

A volume of a pod may stand for a claim, the claim may be bound to a volume of the cluster, and that
may be one of this driver. Then the pod uses the filesystem behind it, and the three belong together
as a pair.

A claim that is not bound is left alone, unless it is this driver that has to make its volume.
-/

namespace SubpathCsi

/-- A volume of a pod with the claim, the volume of the cluster and the filesystem behind it. -/
structure Pair where
  /-- The name of the volume in the pod, as the pod gives it. -/
  volumeName : Json
  /-- The volume of the cluster. -/
  volume : Volume
  /-- The claim. -/
  claim : Claim
  /-- The filesystem. -/
  filesystem : Descriptor
  deriving Repr

namespace Pair

/-- The address of the owner of the filesystem. -/
def owner (p : Pair) : String := p.filesystem.owner

/-- The name of the volume for the driver. -/
def volumeHandle (p : Pair) : String := (p.volume.csi.map (·.volumeHandle)).getD ""

end Pair

namespace Pod

/-- The metadata of a pod. -/
def metadata (pod : Json) : Except Failure Json := pod.findD "metadata" (.obj [])

/-- The specification of a pod. -/
def spec (pod : Json) : Except Failure Json := pod.findD "spec" (.obj [])

/-- The namespace of a pod, as the pod gives it. -/
def space (pod : Json) : Except Failure Json := do (← metadata pod).findD "namespace" (.str "")

/-- What the log calls a pod: its namespace, and its name or what that is generated from. -/
def logged (pod : Json) : Except Failure (Json × Json) := do
  let metadata ← metadata pod
  let space ← metadata.findD "namespace" .null
  let name ← metadata.findD "name" .null
  if name.isPresent then return (space, name)
  else return (space, ← metadata.findD "generateName" .null)

/-- The source of a volume that stands for a claim; an absent one stands for none. -/
def claimSource? (item : Json) : Except Failure (Option Json) := do
  let source ← item.findD "persistentVolumeClaim" .null
  return if source.isPresent then some source else none

end Pod

namespace Pair

/-- The name of the storage class of a claim, unless it is empty. -/
def className? (claim : Claim) : Option String :=
  claim.storageClassName.filter (!·.isEmpty)

/-- It is this driver that makes the volume of a claim. -/
def isProvisioned (c : Config) (claim : Claim) : Act Bool := do
  match className? claim with
  | none => return false
  | some name => return (← Kube.storageClass c (.str name)).provisioner = c.driverName

/-- The name of the descriptor of a volume: from its own attributes, or else from the parameters of
its storage class. It may be empty. -/
def descriptorName (c : Config) (v : Volume) (claim : Claim) : Act String := do
  match filled? v.attributes descriptorKey, className? claim with
  | some name, _ => return name
  | none, none => return ""
  | none, some name =>
    return (Keyed.get? (← Kube.storageClass c (.str name)).parameterMap descriptorKey).getD ""

/-- A volume is one of this driver. -/
def isOurs (c : Config) (v : Volume) : Bool := v.csi.any (·.driver = c.driverName)

/-- The pair of a volume of a pod whose claim is bound to a volume of the cluster. -/
def ofBound (c : Config) (item : Json) (claim : Claim) (volume : String) : Act (Option Pair) := do
  let v ← Kube.volume c (.str volume)
  if isOurs c v then
    let name ← descriptorName c v claim
    if name.isEmpty then Act.refuse (.noDescriptor v.metadata.nameWord)
    let filesystem ← Kube.descriptor c (.str name)
    let volumeName ← item.entry "name"
    return some { volumeName, volume := v, claim, filesystem }
  else return none

/-- The pair of a volume of a pod, if it uses a filesystem of this driver. -/
def ofItem (c : Config) (space item : Json) : Act (Option Pair) := do
  match ← Pod.claimSource? item with
  | none => return none
  | some source =>
    let claim ← Kube.claim c (← source.entry "claimName") space
    match claim.volumeName.filter (!·.isEmpty) with
    | some volume => ofBound c item claim volume
    | none =>
      if ← isProvisioned c claim then
        Act.refuse (.unboundClaim space.display claim.metadata.nameWord)
      else return none

/-- The pairs of volumes of a pod. -/
def ofItems (c : Config) (space : Json) : List Json → Act (List Pair)
  | [] => return []
  | item :: items => do
    let pair ← ofItem c space item
    let pairs ← ofItems c space items
    return pair.toList ++ pairs

/-- The pairs of a pod, in the order of its volumes. -/
def ofPod (c : Config) (pod : Json) : Act (List Pair) := do
  let space ← Pod.space pod
  let items ← (← (← Pod.spec pod).findD "volumes" .null).each
  ofItems c space items

end Pair

end SubpathCsi
