import SubpathCsi.Kube.Client
import SubpathCsi.Manager
import SubpathCsi.Sharing
import SubpathCsi.Volume.Provision

/-!
# Removing volumes

When a volume goes, its subpath goes with it, unless a live sibling lies there too. The claim has to
be permitted to remove it; a filesystem that is gone or going itself needs no request. At last the
secret of the volume is released, if no live sibling is mounted with it.
-/

namespace SubpathCsi

/-- The attribute of volumes whose secret is kept by a finalizer. -/
def secretFinalizerKey : String := "secretFinalizer"

namespace Volume

/-- Releases the secret of a volume: takes the finalizer of the controller off, if the secret is
there and no live sibling is mounted with it. -/
def releaseSecret (c : Config) (v : Volume) (ref : ObjectRef) : Act Unit := do
  let volumes ← Kube.volumes c
  if mayReleaseSecret volumes v then
    let name := Json.ofText? ref.name
    let space := Json.ofText? ref.space
    let secret ← (some <$> Kube.secret c name space).rescueNotFound fun _ => return none
    match secret with
    | none => return
    | some secret =>
      let finalizers := secret.metadata.finalizers.getD []
      if finalizers.contains secretFinalizer then
        let _ ← Kube.setFinalizers c name space (finalizers.filter (· ≠ secretFinalizer))

/-- Removes the subpath of a volume, which no live sibling shares. -/
def deleteSubpath (c : Config) (v : Volume) : Act Unit := do
  match v.claimRef with
  | none => Act.refuse (.noClaim v.metadata.nameWord)
  | some ref =>
    let credential ← Credential.check c (.ofText? ref.space) (.ofText? ref.name) .delete
    match filled? v.attributes descriptorKey with
    | none => Act.refuse (.noDescriptor v.metadata.nameWord)
    | some name =>
      let descriptor ← (some <$> Kube.descriptor c (.str name)).rescueNotFound fun _ => return none
      match descriptor with
      | none => return
      | some d => if d.isDeleting then return else Manager.deleteSubpath c d credential v.subpath

/-- Removes a volume. -/
def delete (c : Config) (v : Volume) : Act Unit := do
  if v.reclaimPolicy ≠ some reclaimDelete then return
  match v.csi with
  | none => Act.refuse (.noCsiSource v.metadata.nameWord)
  | some source =>
    let volumes ← Kube.volumes c
    if mayDeleteSubpath volumes v v.pathPattern? then
      v.deleteSubpath c
      if Keyed.get? v.attributes secretFinalizerKey = some trueText then
        match source.nodePublishSecretRef with
        | none => return
        | some ref => v.releaseSecret c ref

end Volume

end SubpathCsi
