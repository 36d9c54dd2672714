import SubpathCsi.Pod.Names
import SubpathCsi.Pod.Taken
import SubpathCsi.Sidecar.Build

/-!
# The init container

A pod with sidecars starts with a container that fetches the credentials of its filesystems. It is
told of the pod in its environment, and shares the directory of certificates with the first sidecar.
-/

namespace SubpathCsi

/-- What the init container is told of a pod. -/
structure PodSummary where
  /-- The owner of the filesystems. -/
  signer : String
  /-- The names of the sidecars. -/
  sidecars : List String
  /-- The names of the filesystems, one for each sidecar. -/
  filesystems : List String
  /-- The runtime class. -/
  runtimeClass : String
  deriving Repr

namespace InitContainer

/-- The name of the container, if it is free. -/
def usualName : String := "cfs-init"

/-- Texts between commas. All have to be texts. -/
def commaList (items : List Json) : Except Failure String := do
  let texts ← items.zipIdx.mapM fun (item, i) => item.textFor i
  return joined "," texts

/-- The images of the containers of a pod. A container without an image has an empty one. -/
def images (pod : Json) : Except Failure String := do
  let spec ← pod.findD "spec" (.obj [])
  let images ← (← Pod.specItems spec "containers").mapM (·.findD "image" (.str ""))
  commaList images

/-- The environment. -/
def env (c : Config) (s : PodSummary) (images : String) : List EnvVar :=
  [.plain "RESOURCE_SERVER_URL" c.resourceServerUrl,
   .plain "AUTH_EXPIRE_IN_SECONDS" (toString c.resourceAuthExpireIn),
   .plain "SIDECAR_CONTAINER_NAMES" (joined "," s.sidecars),
   .plain "FILESYSTEM_NAMES" (joined "," s.filesystems),
   .plain "SIGNER" s.signer,
   .plain "WORKLOAD_IMAGES" images,
   .plain "RUNTIME_CLASS" s.runtimeClass]

/-- A mount of the directory of certificates, as another container can have it. -/
def sharedMount (mount : Json) : Except Failure (Option Json) := do
  match ← mount.findD "mountPath" .null with
  | .str path =>
    if path = confDir then
      return some (.obj [("name", ← mount.entry "name"), ("mountPath", .str path)])
    else return none
  | _ => return none

/-- The first result in a list. -/
def firstOf (f : Json → Except Failure (Option Json)) : List Json → Except Failure (Option Json)
  | [] => return none
  | x :: xs => do
    match ← f x with
    | some y => return some y
    | none => firstOf f xs

/-- The mount of the directory of certificates in the container with a name. -/
def mountOf (name : String) (container : Json) : Except Failure (Option Json) := do
  match ← container.entry "name" with
  | .str own =>
    if own = name then firstOf sharedMount (← (← container.findD "volumeMounts" .null).each)
    else return none
  | _ => return none

/-- The mount of the directory of certificates that is shared with the first sidecar. -/
def confMount (sidecars : List String) (spec : Json) : Except Failure (Option Json) := do
  match sidecars with
  | [] => return none
  | name :: _ => firstOf (mountOf name) (← Pod.specItems spec "containers")

/-- The specification with the init container before the others. -/
def addTo (c : Config) (s : PodSummary) (images : String) (spec : Json) :
    Except Failure Json := do
  let taken ← Pod.containerNames spec
  let mount ← confMount s.sidecars spec
  let container : Json := .obj
    [("name", .str (uniqueName usualName taken 0)),
     ("image", .str c.initImage),
     ("env", .arr ((env c s images).map EnvVar.toJson)),
     ("volumeMounts", .arr mount.toList)]
  let others ← Pod.specItems spec "initContainers"
  spec.assign "initContainers" (.arr (container :: others))

/-- The pod with the init container. It is told of the images of the pod as it was. -/
def inject (c : Config) (s : PodSummary) (incoming pod : Json) : Except Failure Json := do
  let images ← images incoming
  let spec ← addTo c s images (← pod.entry "spec")
  pod.assign "spec" spec

end InitContainer

end SubpathCsi
