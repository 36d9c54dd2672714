import SubpathCsi.MountInput
import SubpathCsi.Pod.InitContainer
import SubpathCsi.Pod.Injection
import SubpathCsi.Pod.MountPath
import SubpathCsi.Pod.Pair
import SubpathCsi.Pod.RuntimeClass
import SubpathCsi.Settings.Resolve

/-!
# Giving a pod its sidecars

A pod gets one sidecar for each of its filesystems. First everything is checked that can be checked:
all filesystems have one owner, the settings and sizes are good, and there is a runtime class. Only
then are secrets written and sidecars put into the pod, one after another. At last come the runtime
class and the init container.
-/

namespace SubpathCsi

namespace Pair

/-- The failure for two owners that differ. The log tells of the pod first, so a pod that has no name
for it makes that break. -/
def mismatch (pod : Json) (expected actual : String) : Failure :=
  match Pod.logged pod with
  | .ok _ => .reported (.signerMismatch expected actual)
  | .error f => f

/-- The owner of all filesystems of a pod. An empty address is as good as none, until the first that
is not. -/
def signerFrom (pod : Json) : String → List Pair → Except Failure String
  | signer, [] => .ok signer
  | signer, p :: ps =>
    if signer.isEmpty then signerFrom pod p.owner ps
    else if signer = p.owner then signerFrom pod signer ps
    else .error (mismatch pod signer p.owner)

/-- The owner of all filesystems of a pod. -/
def signer (pod : Json) (pairs : List Pair) : Except Failure String := signerFrom pod "" pairs

/-- The settings of the mount of a pair, and its size. -/
def prepare (c : Config) (p : Pair) : Except Failure (MountSettings × Int) := do
  let (attributes, options) ← p.volume.mountInput
  let settings ← MountSettings.resolve none attributes options c
  return (settings, ← p.claim.capacityGib)

/-- The name of the secret of a pair's sidecar. -/
def secretName (p : Pair) : String := p.claim.metadata.nameWord ++ "-secret"

/-- The address of the metadata server that the sidecar connects to. -/
def metaService (c : Config) (p : Pair) : String :=
  if c.testMode && !c.testMetaUrl.isEmpty then c.testMetaUrl else p.filesystem.metadataService

/-- What the sidecar connects to. -/
def metaUrl (c : Config) (p : Pair) : String :=
  "rediss://" ++ p.metaService c ++ "/1?tls-cert-file=/etc/cfs/conf/certs/client.cert" ++
    "&tls-key-file=/etc/cfs/conf/certs/client.key" ++
    "&tls-ca-cert-file=/etc/cfs/conf/certs/ca" ++
    "&tls-server-name=" ++ p.filesystem.name

end Pair

namespace Sidecar

/-- The name of the variable that tells a sidecar what to connect to. -/
def metaUrlName : String := "metaurl"

/-- The sidecar as it is put into a pod: told what to connect to, and with the image of all sidecars
if one is configured. -/
def finished (c : Config) (p : Pair) (s : Sidecar) : Sidecar :=
  { s with
    env := s.env ++ [.plain metaUrlName (p.metaUrl c)]
    image := if c.sidecarImage.isEmpty then s.image else c.sidecarImage }

end Sidecar

namespace Mutation

/-- The settings of a mount in its place: at a path, in a namespace, with a secret. -/
def placed (p : Pair) (s : MountSettings) (path : String) (space : Json) : MountSettings :=
  { s with
    mountPath := path
    space := (space.str?).getD ""
    secretName := p.secretName
    volumeId := p.volumeHandle }

/-- Gives a pod one sidecar: writes its secret, and puts it in. -/
def addSidecar (c : Config) (index : Nat) (p : Pair) (settings : MountSettings) (capacity : Int)
    (pod : Json) : Act (Json × String) := do
  let space ← Pod.space pod
  let path ← MountPath.free c pod
  let settings := placed p settings path space
  Kube.putSecret c (← sidecarSecret c settings p.claim)
  let sidecar ← Sidecar.buildFor c settings capacity p.volumeName
  let sidecar ← sidecar.renameIn pod index
  let pod ← Pod.inject c p.claim.name (sidecar.finished c p) pod
  return (pod, sidecar.name)

/-- Gives a pod its sidecars, one after another, and tells their names. -/
def addSidecars (c : Config) :
    List (Nat × Pair × MountSettings × Int) → Json → Act (Json × List String)
  | [], pod => return (pod, [])
  | (index, p, settings, capacity) :: rest, pod => do
    let (pod, name) ← addSidecar c index p settings capacity pod
    let (pod, names) ← addSidecars c rest pod
    return (pod, name :: names)

/-- What is prepared for each pair, in order. -/
def numbered (pairs : List Pair) (prepared : List (MountSettings × Int)) :
    List (Nat × Pair × MountSettings × Int) :=
  (pairs.zip prepared).zipIdx.map fun ((p, settings, capacity), i) => (i, p, settings, capacity)

/-- The pod with a sidecar for each pair. -/
def run (c : Config) (pod : Json) (pairs : List Pair) : Act Json := do
  let signer ← Pair.signer pod pairs
  let prepared ← (pairs.mapM (Pair.prepare c) : Except Failure _)
  let needed := RuntimeClass.expected (pairs.map (·.filesystem.runtime))
  let runtimeClass ← RuntimeClass.choose c pod needed
  let (out, names) ← addSidecars c (numbered pairs prepared) pod
  let out ← RuntimeClass.inject c out runtimeClass
  InitContainer.inject c
    { signer, sidecars := names, filesystems := pairs.map (·.filesystem.name), runtimeClass }
    pod out

end Mutation

end SubpathCsi
