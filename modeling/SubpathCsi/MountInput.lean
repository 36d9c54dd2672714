import SubpathCsi.Failure
import SubpathCsi.Kube.Claim
import SubpathCsi.Kube.Volume

/-!
# What a mount is made from

The attributes and options of a volume, from which its mount settings are resolved, and the size
that its claim asks for.
-/

namespace SubpathCsi

/-- The attribute that lists further mount options. -/
def mountOptionsKey : String := "mountOptions"

/-- Volumes that are mounted for reading only, by any number of nodes. -/
def readOnlyMany : String := "ReadOnlyMany"

namespace Volume

/-- The attributes and the mount options: `ro` if reading is the only access, then the options of
the volume, then those that an attribute lists between commas. -/
def mountInput (v : Volume) : Except Failure (Keyed String × List String) :=
  match v.csi with
  | none => .error (.defect (.missingMember
      "'NoneType' object has no attribute 'volume_attributes'"))
  | some source =>
    let attributes := source.attributes
    let access := if v.accessModes.getD [] = [readOnlyMany] then ["ro"] else []
    let listed := match Keyed.get? attributes mountOptionsKey with
      | some text => fields ',' text
      | none => []
    .ok (attributes, access ++ v.mountOptions.getD [] ++ listed)

end Volume

/-- The bytes of one GiB. -/
def gib : Int := 1024 * 1024 * 1024

namespace Claim

/-- The bytes that a claim asks for, in whole GiB. Less than one is too small, and then the bytes
are told. -/
def capacityGib (c : Claim) : Except Failure Int := do
  let bytes ← wholePart (← quantity ((c.requested? "storage").getD "0"))
  if bytes < gib then
    checkWritable bytes
    .error (.reported (.capacityTooSmall bytes))
  else return bytes / gib

end Claim

end SubpathCsi
