import SubpathCsi.Kube.Client
import SubpathCsi.Manager
import SubpathCsi.Volume.Capability
import SubpathCsi.Volume.Provision

/-!
# Expanding volumes

A volume grows when the manager of its filesystem is told that its claim has grown. The claim has to
be permitted to change the filesystem.
-/

namespace SubpathCsi

/-- The size that a volume is to have, in bytes. -/
structure CapacityRange where
  /-- The least size. -/
  required : Int := 0
  /-- The greatest size, if it is above zero. -/
  limit : Int := 0
  deriving DecidableEq, Repr

/-- What an expansion has come to. -/
structure Expansion where
  /-- The size of the volume, in bytes. -/
  capacity : Int
  /-- Nodes have to do something too. -/
  nodeExpansionRequired : Bool := false
  deriving DecidableEq, Repr

namespace Expansion

/-- The base service expands nothing. -/
def unsupported : Except Failure Expansion :=
  .error (.reported (.unimplemented "ControllerExpandVolume"))

/-- The size that a request asks for, if the request is in order. -/
def ordered (volume : String) (range : Option CapacityRange)
    (capability : Option VolumeCapability) : Except Failure CapacityRange :=
  if volume.isEmpty then badArgument .noVolumeId
  else match range with
    | none => badArgument .noCapacityRange
    | some r =>
      if r.limit > 0 && r.limit < r.required then badArgument .aboveLimit
      else if capability.isNone then badArgument .noCapability
      else .ok r

/-- An error of the manager, as the one who expands a volume sees it. -/
def managerError (d : Descriptor) (claim : Claim) (e : ControllerError) : ControllerError :=
  .internal ("unable to expand volume: fail to update fs " ++ d.name ++ ", subpath " ++
    claim.metadata.nameWord ++ ", err: " ++ e.message)

/-- Expands a volume to a size. -/
def run (c : Config) (volume : String) (range : CapacityRange) : Act Expansion := do
  let v ← (Kube.volume c (.str volume)).rescueNotFound fun e =>
    Act.refuse (.volumeLookup volume e.message)
  match v.claimRef, v.csi with
  | some ref, some _ =>
    let space := Json.ofText? ref.space
    let claim ← (Kube.claim c (.ofText? ref.name) space).rescueNotFound fun e =>
      Act.refuse (.claimLookup (orNone ref.name) (orNone ref.space) e.message)
    let credential ← Credential.check c space claim.metadata.nameJson .update
    let name := (Keyed.get? v.attributes descriptorKey).getD ""
    let descriptor ← (Kube.descriptor c (.str name)).rescueNotFound fun e =>
      Act.refuse (.descriptorLookup name e.message)
    (Manager.updateFilesystem c descriptor credential).rescueReported fun e =>
      Act.report (managerError descriptor claim e)
    return { capacity := range.required }
  | _, _ => Act.refuse (.noClaimOrCsi volume)

/-- Expands a volume, if the request is in order. -/
def request (c : Config) (volume : String) (range : Option CapacityRange)
    (capability : Option VolumeCapability) : Act Expansion := do
  run c volume (← ordered volume range capability)

end Expansion

end SubpathCsi
