import SubpathCsi.Kube.Claim
import SubpathCsi.Kube.Secret
import SubpathCsi.Pod.Names
import SubpathCsi.Sidecar.Basic
import SubpathCsi.Sidecar.Commands
import SubpathCsi.Sidecar.Script
import SubpathCsi.Text.Base64

/-!
# Building sidecars

The sidecar of a mount follows from its settings: its volumes are the secret with the script, the
directories for configuration, and the caches. Beside it there is the secret itself.

* `Sidecar.buildFor`: the sidecar of a mount;
* `sidecarSecret`: the secret with the script and the credentials;
* `Sidecar.rename`: the sidecar with names that are free in a pod.
-/

namespace SubpathCsi

/-- The name of the container. -/
def sidecarName : String := "cfs-mount"

/-- The name of the volume with the script. -/
def checkMountVolume : String := "cfs-check-mount"

/-- The name of the volume with certificates. -/
def confVolume : String := "cfs-conf"

/-- The directory of certificates. -/
def confDir : String := "/etc/cfs/conf"

/-- The name of the volume with the client configuration. -/
def clientConfVolume : String := "cfs-client-conf"

/-- A volume and its place. -/
abbrev Placed := PodVolume × VolumeMount

/-- A volume mounted at a path. -/
def place (name path : String) (source : VolumeSource) : Placed :=
  (⟨name, source⟩, { name, mountPath := path })

namespace MountSettings

/-- The volumes that hold caches, and further directories of the host. -/
def cacheVolumes (s : MountSettings) : List Placed :=
  (s.cachePvcs.zipIdx.map fun (cache, i) =>
    place s!"cachedir-pvc-{i}" cache.path (.claim cache.pvcName)) ++
  (s.cacheEmptyDir.map fun cache =>
    place "cachedir-empty-dir" cache.path (.emptyDir cache.medium cache.sizeLimit)).toList ++
  (s.cacheInlineVolumes.zipIdx.map fun (cache, i) =>
    place s!"cachedir-inline-volume-{i}" cache.path (.inline cache.csi)) ++
  (s.cacheDirs.zipIdx.map fun (path, i) =>
    place s!"cachedir-{i}" path (.hostPath path (some "DirectoryOrCreate"))) ++
  (s.hostPath.zipIdx.map fun (path, i) => place s!"hostpath-{i}" path (.hostPath path none))

/-- The volumes with the script and with configuration. -/
def baseVolumes (c : Config) (s : MountSettings) : List Placed :=
  [(⟨checkMountVolume, .secret s.secretName 0o755⟩,
    { name := checkMountVolume, mountPath := c.checkMountScriptPath,
      subPath := some Config.checkMountScriptName }),
   place confVolume confDir (.emptyDir "Memory" "")] ++
  (if s.clientConfPath.isEmpty then []
    else [place clientConfVolume s.clientConfPath (.emptyDir "" "")])

/-- Annotations for the pod. -/
def podAnnotations (s : MountSettings) : Keyed String :=
  let annotations := s.mountPodAnnotations
  let annotations :=
    if s.deletedDelay.isEmpty then annotations
    else Keyed.put annotations deleteDelayKey s.deletedDelay
  if s.cleanCache then Keyed.put annotations cleanCacheKey trueText else annotations

/-- The environment: the variables of the client in the order of their names, then the
credentials, which come from the secret. -/
def env (s : MountSettings) : List EnvVar :=
  ((s.envs.mergeSort fun a b => !(b.1 < a.1)).map fun p => .plain p.1 p.2) ++
  (((Keyed.keys s.credentials).mergeSort fun a b => !(b < a)).map fun k =>
    .fromSecret k s.secretName)

end MountSettings

namespace Sidecar

/-- The sidecar of a mount that fills a volume of a pod, under the name that the pod gives it. The
command after the start tells the capacity. -/
def buildFor (c : Config) (s : MountSettings) (capacityGib : Int) (volumeName : Json) :
    Except Failure Sidecar := do
  let mountScript ← s.mountCommand c
  checkWritable capacityGib
  let placed := s.baseVolumes c ++ s.cacheVolumes
  return {
    name := sidecarName
    image := s.image
    mountScript
    postStart := s.postStartCommand c capacityGib
    unmountScript := s.unmountCommand
    env := s.env
    resources := s.resources
    generatedMounts := placed.map (·.2)
    podMount :=
      if volumeName.isPresent then some { name := volumeName, mountPath := s.mountPath } else none
    volumes := placed.map (·.1)
    annotations := s.podAnnotations
    labels := s.mountPodLabels
    serviceAccountName := s.serviceAccountName }

/-- The sidecar of a mount that fills a volume with a name, if there is one. -/
def build (c : Config) (s : MountSettings) (capacityGib : Int) (volumeName : Option String) :
    Except Failure Sidecar :=
  buildFor c s capacityGib (.ofText? volumeName)

/-- New names for volumes whose names are taken, one volume after another; what the old names have
become. -/
def renameVolumes (container : String) (index : Int) :
    List PodVolume → List String → List PodVolume × List (String × String)
  | [], _ => ([], [])
  | v :: vs, taken =>
    if v.name ∈ taken then
      let name := uniqueName (container ++ "-" ++ v.name) taken index
      let (vs, renamed) := renameVolumes container index vs (name :: taken)
      ({ v with name } :: vs, (v.name, name) :: renamed)
    else
      let (vs, renamed) := renameVolumes container index vs (v.name :: taken)
      (v :: vs, renamed)

/-- The sidecar with a name and volumes whose names are free, among `containers` and `volumes` that
are taken. Mounts follow their volumes. -/
def rename (s : Sidecar) (containers volumes : List String) (index : Int) : Sidecar :=
  let name := uniqueName s.name containers index
  let (own, renamed) := renameVolumes name index s.volumes volumes
  { s with
    name
    volumes := own
    generatedMounts := s.generatedMounts.map fun m =>
      { m with name := ((renamed.reverse.lookup m.name)).getD m.name } }

end Sidecar

/-- The secret of a sidecar, with the script and the credentials. It belongs to the claim. -/
def sidecarSecret (c : Config) (s : MountSettings) (claim : Claim) : Except Failure Secret :=
  match claim.metadata.uid with
  | none => .error (.defect (.badValue "Invalid value for `uid`, must not be `None`"))
  | some uid =>
    let script := checkMountScript c defaultRetries
    let credentials := s.credentials.map fun p => (p.1, Base64.ofString p.2)
    .ok {
      metadata := {
        name := s.secretName
        space := some s.space
        ownerReferences := some [{
          apiVersion := "v1"
          kind := "PersistentVolumeClaim"
          name := claim.name
          uid
          blockOwnerDeletion := some true
          controller := some true }] }
      data := some (Keyed.merge [(Config.checkMountScriptName, Base64.ofString script)] credentials)
      others := [("apiVersion", .str "v1"), ("kind", .str "Secret")] }

end SubpathCsi
