import SubpathCsi.Credential
import SubpathCsi.MountInput
import SubpathCsi.Number.Integer
import SubpathCsi.Sharing
import SubpathCsi.Template.Claim

/-!
# Making volumes

A volume is made for a claim out of the filesystem that a storage class names. All volumes share the
filesystem; each lies at a subpath, which a path pattern names, or else the volume itself. Making a
volume asks only whether the claim may have one: nothing is made yet on the filesystem.
-/

namespace SubpathCsi

/-- The type of the filesystem of every volume. -/
def fsType : String := "cfs"

/-- A volume with this policy is removed when its claim is gone. -/
def reclaimDelete : String := "Delete"

/-- The attribute that holds the size of a volume in bytes. -/
def capacityKey : String := "capacity"

/-- What a volume is made for. -/
structure VolumeOrder where
  /-- The name that it has to take. -/
  name : String
  /-- The claim. -/
  claim : Claim
  /-- The storage class. -/
  storageClass : StorageClass
  /-- The node that was chosen for its first user, if one was. -/
  node : Option ObjectMeta := none
  deriving Repr

/-- The text under a key, unless it is missing or empty. -/
def filled? (m : Keyed String) (key : String) : Option String :=
  (Keyed.get? m key).filter (!·.isEmpty)

/-- A reference to a secret, if both its name and its namespace are given. -/
def secretRef? (parameters : Keyed String) (nameKey spaceKey : String) : Option ObjectRef :=
  match filled? parameters nameKey, filled? parameters spaceKey with
  | some name, some space => some { name := some name, space := some space }
  | _, _ => none

/-- The name of an object, as a request has it; null if it has none. -/
def ObjectMeta.nameJson (m : ObjectMeta) : Json :=
  if m.name.isEmpty then .null else .str m.name

/-- The namespace of an object, as a request has it. -/
def ObjectMeta.spaceJson (m : ObjectMeta) : Json := .ofText? m.space

/-- The name of an object in messages. -/
def ObjectMeta.nameWord (m : ObjectMeta) : String := m.nameJson.display

namespace VolumeOrder

/-- What templates may refer to. -/
def names (o : VolumeOrder) : Template.Names :=
  Template.Names.ofClaim o.claim o.node o.name

/-- The parameters of the storage class with their templates filled. Those that name secrets have
their own way of writing templates. -/
def parameters (o : VolumeOrder) : Keyed String :=
  o.storageClass.parameterMap.map fun (key, value) =>
    (key, if beginsWith csiParameterStart key then o.names.secret value
      else o.names.parameter value)

/-- The subpath: what the path pattern gives, or else the name of the volume. -/
def subpath (o : VolumeOrder) : String := (filled? o.parameters pathPatternKey).getD o.name

/-- How the volume is to be mounted. -/
def accessModes (o : VolumeOrder) : List String := o.claim.accessModes.getD []

/-- A subpath that is named after the volume is empty, so nothing is there to be read. -/
def readsNothing (o : VolumeOrder) : Bool :=
  o.accessModes.contains readOnlyMany &&
    (filled? o.storageClass.parameterMap pathPatternKey).isNone

/-- The mount options with their templates filled. Each may hold several, between commas. -/
def mountOptions (o : VolumeOrder) : List String :=
  (o.storageClass.mountOptions.getD []).flatMap fun option =>
    (fields ',' (trimmed (o.names.parameter option))).map trimmed

/-- The size that the claim asks for, as it is written and in bytes. -/
def size (o : VolumeOrder) : Except Failure (String × Int) :=
  match (o.claim.requested? "storage").filter (!·.isEmpty) with
  | none => badArgument (.noStorageRequest o.claim.metadata.nameWord)
  | some text => do return (text, ← wholePart (← quantity text))

/-- The text of a number of bytes. -/
def bytesText (n : Int) : Except Failure String :=
  if Integer.isWritable n then .ok (Integer.text n)
  else .error (.defect (.badValue Integer.unwritableMessage))

/-- The volume. -/
def volume (c : Config) (o : VolumeOrder) (sizeText bytes : String) : Volume where
  metadata := { name := o.name }
  capacity := some [("storage", sizeText)]
  accessModes := some o.accessModes
  csi := some {
    driver := c.driverName
    volumeHandle := o.name
    fsType := some fsType
    readOnly := some false
    volumeAttributes :=
      some (Keyed.merge [(subpathKey, o.subpath), (capacityKey, bytes)] o.parameters)
    nodePublishSecretRef := secretRef? o.parameters publishSecretName publishSecretNamespace
    controllerExpandSecretRef := secretRef? o.parameters expandSecretName expandSecretNamespace }
  mountOptions := some o.mountOptions
  reclaimPolicy := some ((o.storageClass.reclaimPolicy.filter (!·.isEmpty)).getD reclaimDelete)
  storageClassName := if o.storageClass.name.isEmpty then none else some o.storageClass.name
  volumeMode := o.claim.volumeMode
  others := [("apiVersion", .str "v1"), ("kind", .str "PersistentVolume")]

end VolumeOrder

/-- Makes the volume for an order. -/
def provision (c : Config) (o : VolumeOrder) : Act Volume := do
  if o.claim.selector.isSome then Act.refuse .claimSelector
  if o.readsNothing then Act.refuse .readOnlyWithoutPattern
  let _ ← Credential.check c o.claim.metadata.spaceJson o.claim.metadata.nameJson .create
  let (text, bytes) ← o.size
  return o.volume c text (← VolumeOrder.bytesText bytes)

/-- These failures to make a volume are counted. -/
def countsAsProvisionError : Failure → Bool
  | .reported (.invalidArgument .readOnlyWithoutPattern) => true
  | .reported (.permissionDenied ..) => true
  | _ => false

/-- The number of counted failures after one more attempt. -/
def provisionErrors {α : Type} (before : Nat) : Except Failure α → Nat
  | .error f => if countsAsProvisionError f then before + 1 else before
  | .ok _ => before

/-- The volume, bound to a claim. -/
def Volume.boundTo (v : Volume) (claim : Claim) : Volume :=
  let ref : ObjectRef :=
    { name := if claim.metadata.name.isEmpty then none else some claim.metadata.name
      space := claim.metadata.space }
  { v with claimRef := some ref }

/-- The claim, bound to a volume. -/
def Claim.boundTo (claim : Claim) (v : Volume) : Claim := { claim with volumeName := some v.name }

end SubpathCsi
