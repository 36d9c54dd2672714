import SubpathCsi.Json.Shape
import SubpathCsi.Pod.Taken
import SubpathCsi.Sidecar.Build

/-!
# What a sidecar changes in a pod

The volumes of a claim become empty directories, into which the sidecar mounts and from which the
containers of the pod see the mount. The sidecar comes before the other containers, its own volumes
after the other volumes; labels, annotations, a service account and pull secrets are merged.

* `Pod.fillVolumes`: the volumes, and the mounts of the containers;
* `Pod.mergeLabels`, `Pod.mergeAnnotations`, `Pod.adoptServiceAccount`: the metadata and the account;
* `Pod.addContainer`, `Pod.addPullSecrets`: what is put beside what is there;
* `Pod.inject`: all of it.
-/

namespace SubpathCsi.Pod

/-- Changes the specification of a pod. -/
def onSpec (pod : Json) (f : Json → Except Failure Json) : Except Failure Json := do
  pod.assign "spec" (← f (← pod.entry "spec"))

/-- Changes the metadata of a pod. -/
def onMetadata (pod : Json) (f : Json → Except Failure Json) : Except Failure Json := do
  pod.assign "metadata" (← f (← pod.findD "metadata" (.obj [])))

/-! ### Volumes -/

/-- A volume of a pod stands for a claim. -/
def standsFor (claim : String) (item : Json) : Except Failure Bool := do
  let source ← item.findD "persistentVolumeClaim" .null
  if !source.isPresent then return false
  match ← source.find "claimName" with
  | some (.str name) => return name = claim
  | _ => return false

/-- A volume as it is filled by a sidecar: an empty directory in the place of the claim. -/
def emptied (name : Json) : Json := .obj [("name", name), ("emptyDir", .obj [])]

/-- The volumes of a pod with empty directories in the place of a claim, and the names of those. -/
def emptyClaims (claim : String) : List Json → Except Failure (List Json × List Json)
  | [] => return ([], [])
  | item :: items => do
    if ← standsFor claim item then
      let name ← item.entry "name"
      let (items, names) ← emptyClaims claim items
      return (emptied name :: items, name :: names)
    else
      let (items, names) ← emptyClaims claim items
      return (item :: items, names)

/-- The way in which a container sees mounts below a mount of its own. -/
def hostToContainer : Json := .str "HostToContainer"

/-- A mount that sees what the sidecar mounts, if it is one of the volumes. -/
def propagate (names : List Json) (mount : Json) : Except Failure Json := do
  let name ← mount.findD "name" .null
  if names.any (Json.same name) then mount.assign "mountPropagation" hostToContainer
  else return mount

/-- A container whose mounts of the volumes see what the sidecar mounts. -/
def propagateIn (names : List Json) (container : Json) : Except Failure Json := do
  match ← container.find "volumeMounts" with
  | some (.arr mounts) => container.assign "volumeMounts" (.arr (← mounts.mapM (propagate names)))
  | _ => return container

/-- The specification with the volumes of a claim emptied, and with further volumes. -/
def fillVolumes (claim : String) (own : List PodVolume) (spec : Json) : Except Failure Json := do
  let items ← specItems spec "volumes"
  let (items, names) ← emptyClaims claim items
  let spec ← match ← spec.find "containers" with
    | some (.arr containers) =>
      if names.isEmpty then pure spec
      else spec.assign "containers" (.arr (← containers.mapM (propagateIn names)))
    | _ => pure spec
  spec.assign "volumes" (.arr (items ++ own.map PodVolume.toJson))

/-! ### Metadata -/

/-- A member of an object, overridden by texts. -/
def mergeTexts (key : String) (texts : Keyed String) (object : Json) : Except Failure Json := do
  let old ← (← object.findD key .null).membersFor "update"
  object.assign key (.obj (Keyed.merge old (texts.map fun p => (p.1, .str p.2))))

/-- The metadata with labels of a sidecar, and with the label of a pod that has its sidecars. -/
def mergeLabels (labels : Keyed String) (metadata : Json) : Except Failure Json :=
  mergeTexts "labels" (labels ++ [(doneLabel, trueText)]) metadata

/-- The metadata with annotations of a sidecar. -/
def mergeAnnotations (annotations : Keyed String) (metadata : Json) : Except Failure Json :=
  if annotations.isEmpty then .ok metadata else mergeTexts "annotations" annotations metadata

/-! ### Containers and accounts -/

/-- The specification with a service account, unless it has one of its own. -/
def adoptServiceAccount (name : String) (spec : Json) : Except Failure Json := do
  let own ← spec.findD "serviceAccountName" .null
  if name.isEmpty || own.isPresent then return spec
  else spec.assign "serviceAccountName" (.str name)

/-- The specification with a container before the others. -/
def addContainer (container : Json) (spec : Json) : Except Failure Json := do
  let containers ← specItems spec "containers"
  spec.assign "containers" (.arr (container :: containers))

/-- The names that are not there yet, each once. -/
def missing : List String → List String → List String
  | [], _ => []
  | name :: names, present =>
    if name ∈ present then missing names present
    else name :: missing names (name :: present)

/-- The specification with secrets to pull images with. -/
def addPullSecrets (names : List String) (spec : Json) : Except Failure Json := do
  if names.isEmpty then return spec
  let old ← specItems spec "imagePullSecrets"
  let present ← old.mapM fun item => do
    let name ← item.findD "name" .null
    comparable name
    return name
  let added := missing names (present.filterMap Json.str?)
  spec.assign "imagePullSecrets"
    (.arr (old ++ added.map fun name => .obj [("name", .str name)]))

/-- The pod with a sidecar, for the volumes of a claim. -/
def inject (c : Config) (claim : String) (s : Sidecar) (pod : Json) : Except Failure Json := do
  let pod ← onSpec pod (fillVolumes claim s.volumes)
  let pod ← onMetadata pod (mergeLabels s.labels)
  let pod ← if s.annotations.isEmpty then pure pod
    else onMetadata pod (mergeAnnotations s.annotations)
  let pod ← onSpec pod (adoptServiceAccount s.serviceAccountName)
  let pod ← onSpec pod (addContainer s.container)
  onSpec pod (addPullSecrets c.imagePullSecrets)

end SubpathCsi.Pod
