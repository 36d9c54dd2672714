import SubpathCsi.Settings.Basic

/-!
# Sidecars

A sidecar is a container that mounts one filesystem into a pod, with the volumes that it needs and
what the pod gets for it. `Sidecar.container` writes the container as it stands in a pod.
-/

namespace SubpathCsi

/-- The place of a volume in a container. -/
structure VolumeMount where
  /-- The name of the volume. -/
  name : String
  /-- Where it is mounted. -/
  mountPath : String
  /-- The part of it that is mounted, if not all. -/
  subPath : Option String := none
  deriving DecidableEq, Repr

/-- Writes a mount. -/
def VolumeMount.toJson (m : VolumeMount) : Json :=
  .obj ([("name", .str m.name), ("mountPath", .str m.mountPath)] ++
    (m.subPath.map fun s => ("subPath", Json.str s)).toList)

/-- The place of the volume of a pod that a sidecar fills. What is mounted there reaches the other
containers. -/
structure PodMount where
  /-- The name of the volume, as the pod gives it. -/
  name : Json
  /-- Where it is mounted. -/
  mountPath : String
  deriving Repr

/-- Writes the mount of the volume that is filled. -/
def PodMount.toJson (m : PodMount) : Json :=
  .obj [("name", m.name), ("mountPath", .str m.mountPath),
    ("mountPropagation", .str "Bidirectional")]

/-- An environment variable. -/
inductive EnvVar where
  /-- It has a value. -/
  | plain (name value : String)
  /-- Its value is in a secret, under its own name. -/
  | fromSecret (name secret : String)
  deriving DecidableEq, Repr

/-- Writes an environment variable. -/
def EnvVar.toJson : EnvVar → Json
  | plain name value => .obj [("name", .str name), ("value", .str value)]
  | fromSecret name secret => .obj [("name", .str name), ("valueFrom", .obj
      [("secretKeyRef", .obj [("name", .str secret), ("key", .str name)])])]

/-- Where the content of a volume of a pod comes from. -/
inductive VolumeSource where
  /-- A secret; its files have a mode. -/
  | secret (name : String) (mode : Nat)
  /-- A directory that lives as long as the pod; medium and size limit are empty for the usual. -/
  | emptyDir (medium sizeLimit : String)
  /-- A claim. -/
  | claim (name : String)
  /-- An inline volume of a CSI driver. -/
  | inline (source : Keyed Json)
  /-- A directory of the host, made if it is missing when the type says so. -/
  | hostPath (path : String) (type : Option String)
  deriving Repr

/-- Writes the source of a volume: its kind and what belongs to it. -/
def VolumeSource.toJson : VolumeSource → String × Json
  | secret name mode =>
    ("secret", .obj [("secretName", .str name), ("defaultMode", .int mode)])
  | emptyDir medium sizeLimit =>
    ("emptyDir", .obj ((if medium.isEmpty then [] else [("medium", .str medium)]) ++
      (if sizeLimit.isEmpty then [] else [("sizeLimit", .str sizeLimit)])))
  | claim name => ("persistentVolumeClaim", .obj [("claimName", .str name)])
  | inline source => ("csi", .obj source)
  | hostPath path type =>
    ("hostPath", .obj ([("path", .str path)] ++ (type.map fun t => ("type", Json.str t)).toList))

/-- A volume of a pod. -/
structure PodVolume where
  /-- The name. -/
  name : String
  /-- Where its content comes from. -/
  source : VolumeSource
  deriving Repr

/-- Writes a volume. -/
def PodVolume.toJson (v : PodVolume) : Json := .obj [("name", .str v.name), v.source.toJson]

/-- A sidecar. -/
structure Sidecar where
  /-- The name of the container. -/
  name : String
  /-- The image. -/
  image : String
  /-- The script that mounts the filesystem. -/
  mountScript : String
  /-- What runs after the start. -/
  postStart : List String
  /-- The script that unmounts the filesystem. -/
  unmountScript : String
  /-- The environment. -/
  env : List EnvVar
  /-- The resources. -/
  resources : Resources
  /-- The mounts of the sidecar's own volumes. -/
  generatedMounts : List VolumeMount
  /-- The mount of the volume of the pod that it fills. -/
  podMount : Option PodMount
  /-- The sidecar's own volumes. -/
  volumes : List PodVolume
  /-- Annotations for the pod. -/
  annotations : Keyed String
  /-- Labels for the pod. -/
  labels : Keyed String
  /-- The service account for the pod. -/
  serviceAccountName : String
  deriving Repr

namespace Sidecar

/-- All mounts of the container. -/
def mounts (s : Sidecar) : List Json :=
  s.generatedMounts.map VolumeMount.toJson ++ (s.podMount.map PodMount.toJson).toList

/-- The container as it stands in a pod. -/
def container (s : Sidecar) : Json :=
  .obj
    [("name", .str s.name),
     ("image", .str s.image),
     ("command", Json.ofTexts ["sh", "-c", s.mountScript]),
     ("env", .arr (s.env.map EnvVar.toJson)),
     ("resources", .obj
       [("limits", Json.ofStrings s.resources.limits),
        ("requests", Json.ofStrings s.resources.requests)]),
     ("securityContext", .obj [("privileged", .bool true), ("runAsUser", .int 0)]),
     ("lifecycle", .obj
       [("postStart", .obj [("exec", .obj [("command", Json.ofTexts s.postStart)])]),
        ("preStop", .obj [("exec", .obj
          [("command", Json.ofTexts ["sh", "-c", s.unmountScript])])])]),
     ("volumeMounts", .arr s.mounts)]

end Sidecar

end SubpathCsi
