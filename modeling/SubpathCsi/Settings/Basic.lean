import SubpathCsi.Json.Basic
import SubpathCsi.Keyed

/-!
# Mount settings

The settings of one mount: which filesystem, how the client caches, with which credentials, and
what the pod gets for it. They are resolved once and then only read.
-/

namespace SubpathCsi

/-- A claim that holds a cache. -/
structure CachePvc where
  /-- The name of the claim. -/
  pvcName : String
  /-- Where it is mounted. -/
  path : String
  deriving DecidableEq, Repr

/-- A directory of the pod that holds a cache. -/
structure CacheEmptyDir where
  /-- The medium; empty for the usual one. -/
  medium : String
  /-- Where it is mounted. -/
  path : String
  /-- The largest size; empty for none. -/
  sizeLimit : String := ""
  deriving DecidableEq, Repr

/-- An inline volume that holds a cache. -/
structure CacheInlineVolume where
  /-- The source of the volume. -/
  csi : Keyed Json
  /-- Where it is mounted. -/
  path : String
  deriving Repr

/-- The resources of a container. -/
structure Resources where
  /-- What it may use at most. -/
  limits : Keyed String := []
  /-- What is reserved for it. -/
  requests : Keyed String := []
  deriving DecidableEq, Repr

/-- The settings of one mount. -/
structure MountSettings where
  /-- The name of the filesystem. -/
  name : String := ""
  /-- The kind of its object storage. -/
  storage : String := ""
  /-- The address of its metadata server, as given. -/
  metaUrl : String := ""
  /-- What is mounted. -/
  source : String := ""
  /-- It is a community filesystem. -/
  isCe : Bool := false
  /-- Claims that hold caches. -/
  cachePvcs : List CachePvc := []
  /-- The directory of the pod that holds a cache. -/
  cacheEmptyDir : Option CacheEmptyDir := none
  /-- Inline volumes that hold caches. -/
  cacheInlineVolumes : List CacheInlineVolume := []
  /-- Directories of the host that hold caches. -/
  cacheDirs : List String := []
  /-- The directory of the client configuration. -/
  clientConfPath : String := ""
  /-- The format options. -/
  formatOptions : String := ""
  /-- The secret key. -/
  secretKey : String := ""
  /-- The second secret key. -/
  secretKey2 : String := ""
  /-- The token. -/
  token : String := ""
  /-- The passphrase. -/
  passphrase : String := ""
  /-- Environment variables of the client. -/
  envs : Keyed String := []
  /-- Files of the client. -/
  configs : Keyed String := []
  /-- The resources of the sidecar. -/
  resources : Resources := {}
  /-- Labels for the pod. -/
  mountPodLabels : Keyed String := []
  /-- Annotations for the pod. -/
  mountPodAnnotations : Keyed String := []
  /-- The delay before the mount is removed. -/
  deletedDelay : String := ""
  /-- The cache is removed with the pod. -/
  cleanCache : Bool := false
  /-- Directories of the host that are mounted as well. -/
  hostPath : List String := []
  /-- The service account for the pod. -/
  serviceAccountName : String := ""
  /-- The image of the sidecar. -/
  image : String := ""
  /-- Mount options. -/
  options : List String := []
  /-- The part of the filesystem that is mounted. -/
  subpath : String := ""
  /-- Where it is mounted. -/
  mountPath : String := ""
  /-- The name of the secret of the sidecar. -/
  secretName : String := ""
  /-- The namespace of the secret of the sidecar. -/
  space : String := ""
  /-- The handle of the volume. -/
  volumeId : String := ""
  deriving Repr

namespace MountSettings

/-- The credentials that are not empty, by the names of their keys in the secret. -/
def credentials (s : MountSettings) : Keyed String :=
  [("token", s.token), ("secretkey", s.secretKey), ("secretkey2", s.secretKey2),
   ("passphrase", s.passphrase)].filter fun p => !p.2.isEmpty

end MountSettings

end SubpathCsi
