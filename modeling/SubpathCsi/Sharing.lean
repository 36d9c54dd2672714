import SubpathCsi.Kube.Volume

/-!
# What volumes share

Several volumes may lie at one subpath, and several may be mounted with one secret. What they share
may only go when no other live volume uses it.

* `mayDeleteSubpath`: no live sibling of the same storage class lies at the subpath;
* `mayReleaseSecret`: no live sibling is mounted with the secret.
-/

namespace SubpathCsi

/-- The attribute that tells the subpath of a volume. -/
def subpathKey : String := "subPath"

/-- The parameter and attribute that holds the path pattern. -/
def pathPatternKey : String := "pathPattern"

namespace Volume

/-- The subpath; empty if none is given. -/
def subpath (v : Volume) : String := (Keyed.get? v.attributes subpathKey).getD ""

/-- The path pattern, if one is given. -/
def pathPattern? (v : Volume) : Option String := Keyed.get? v.attributes pathPatternKey

/-- A live volume other than `v`. -/
def isSibling (v candidate : Volume) : Bool :=
  candidate.name ≠ v.name && candidate.metadata.isLive

/-- A live volume other than `v`, of the same storage class and at the same subpath. -/
def sharesSubpath (v candidate : Volume) : Bool :=
  v.isSibling candidate && candidate.storageClassName = v.storageClassName &&
    candidate.subpath = v.subpath

/-- The secret that the volume is mounted with. -/
def secretRef? (v : Volume) : Option ObjectRef := v.csi.bind (·.nodePublishSecretRef)

/-- A live volume other than `v` that is mounted with the secret. -/
def usesSecret (v : Volume) (ref : ObjectRef) (candidate : Volume) : Bool :=
  v.isSibling candidate && candidate.secretRef?.any (·.sameObject ref)

end Volume

/-- The subpath of a volume may be removed. Without a path pattern every volume has a subpath of its
own. -/
def mayDeleteSubpath (volumes : List Volume) (v : Volume) (pattern : Option String) : Bool :=
  (pattern.getD "").isEmpty || !volumes.any v.sharesSubpath

/-- The secret of a volume may be released. -/
def mayReleaseSecret (volumes : List Volume) (v : Volume) : Bool :=
  match v.secretRef? with
  | none => false
  | some ref => !volumes.any (v.usesSecret ref)

end SubpathCsi
