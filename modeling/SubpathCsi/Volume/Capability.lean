import SubpathCsi.Kube.Client

/-!
# Capabilities

What the controller service can do, and which uses of a volume it supports.
-/

namespace SubpathCsi

/-- A way of using a volume. -/
structure VolumeCapability where
  /-- How it is mounted. -/
  accessMode : String := "ReadWriteMany"
  /-- Flags for mounting it. -/
  mountFlags : List String := []
  /-- The type of its filesystem. -/
  fsType : String := ""
  deriving DecidableEq, Repr

/-- The ways of mounting a volume that are supported. -/
def supportedAccessModes : List String :=
  ["ReadWriteOnce", "ReadOnlyMany", "ReadWriteMany", "ReadWriteOncePod"]

/-- What the controller service can do. -/
def serviceCapabilities : List String := ["CREATE_DELETE_VOLUME", "EXPAND_VOLUME"]

/-- Whether all capabilities are supported. -/
structure CapabilityVerdict where
  /-- They are. -/
  confirmed : Bool
  /-- Why they are not. -/
  message : String := ""
  /-- The capabilities, if they are supported. -/
  capabilities : List VolumeCapability := []
  deriving DecidableEq, Repr

namespace CapabilityVerdict

/-- The verdict on capabilities: the first that is not supported decides. -/
def of (capabilities : List VolumeCapability) : CapabilityVerdict :=
  match capabilities.find? (!supportedAccessModes.contains ·.accessMode) with
  | some bad => {
      confirmed := false
      message := "access mode " ++ bad.accessMode ++ " is not supported" }
  | none => { confirmed := true, capabilities }

end CapabilityVerdict

/-- Whether a volume, which has to be there, can be used in all the ways. -/
def validateCapabilities (c : Config) (volume : String) (capabilities : List VolumeCapability) :
    Act CapabilityVerdict := do
  if volume.isEmpty then Act.refuse .noVolumeId
  if capabilities.isEmpty then Act.refuse .noCapabilities
  let _ ← Kube.volume c (.str volume)
  return .of capabilities

/-- Volumes are only made for claims, so the service makes none. -/
def createVolume : Except Failure Unit := .error (.reported (.unimplemented "CreateVolume"))

/-- Volumes are only removed with their claims, so the service removes none. -/
def deleteVolume : Except Failure Unit := .error (.reported (.unimplemented "DeleteVolume"))

end SubpathCsi
