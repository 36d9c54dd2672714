import SubpathCsi.Config
import SubpathCsi.Json.Reader
import SubpathCsi.Settings.Basic
import SubpathCsi.TextMap

/-!
# Resolving mount settings

Settings come from the secret of the filesystem, the attributes and options of the volume, and the
configuration.

* `Resources.resolve`: limits and requests, a quantity that is not positive removing one;
* `CacheSources`: where the client caches, in the order claims, pod directory, inline volumes,
  host directories, all of them named by one option `cache-dir`;
* `MountSettings.resolve`: all settings of a mount.
-/

namespace SubpathCsi

/-! ### Resources -/

namespace Resources

/-- The usual resources. -/
def usual (c : Config) : Resources where
  limits := [("cpu", c.defaultCpuLimit), ("memory", c.defaultMemoryLimit)]
  requests := [("cpu", c.defaultCpuRequest), ("memory", c.defaultMemoryRequest)]

/-- Puts a quantity in place, if one is given. One that is not positive removes the entry, so that
the default of the cluster applies. -/
def override (m : Keyed String) (key raw : String) : Except Failure (Keyed String) := do
  let raw := trimmed raw
  if raw.isEmpty then return m
  else
    let d ← quantity raw
    match d.isNonpositive with
    | .error e => .error (.defect (.decimal e))
    | .ok true => return Keyed.erase m key
    | .ok false => return Keyed.put m key raw

/-- The usual resources with the quantities that are given. -/
def resolve (c : Config) (cpuLimit memoryLimit cpuRequest memoryRequest : String) :
    Except Failure Resources := do
  let limits ← override (usual c).limits "cpu" cpuLimit
  let limits ← override limits "memory" memoryLimit
  let requests ← override (usual c).requests "cpu" cpuRequest
  let requests ← override requests "memory" memoryRequest
  return { limits, requests }

end Resources

/-! ### Attributes of volumes -/

namespace Attribute

/-- Claims that hold caches, between commas. -/
def cachePvc : String := "cfs/mount-cache-pvc"
/-- A directory of the pod that holds a cache: medium and size limit with a colon between them. -/
def cacheEmptyDir : String := "cfs/mount-cache-emptydir"
/-- Inline volumes that hold caches: a list of sources as JSON. -/
def cacheInlineVolume : String := "cfs/mount-cache-inline-volume"
/-- The limit on processor time. -/
def cpuLimit : String := "cfs/mount-cpu-limit"
/-- The limit on memory. -/
def memoryLimit : String := "cfs/mount-memory-limit"
/-- The request of processor time. -/
def cpuRequest : String := "cfs/mount-cpu-request"
/-- The request of memory. -/
def memoryRequest : String := "cfs/mount-memory-request"
/-- Labels for the pod, a map of texts. -/
def labels : String := "cfs/mount-labels"
/-- Annotations for the pod, a map of texts. -/
def annotations : String := "cfs/mount-annotations"
/-- The service account for the pod. -/
def serviceAccount : String := "cfs/mount-service-account"
/-- The image of the sidecar. -/
def image : String := "cfs/mount-image"
/-- The delay before the mount is removed. -/
def deleteDelay : String := "cfs/mount-delete-delay"
/-- The cache is removed with the pod. -/
def cleanCache : String := "cfs/clean-cache"
/-- Directories of the host that are mounted as well, between commas. -/
def hostPath : String := "cfs/host-path"
/-- The part of the filesystem that is mounted. -/
def subPath : String := "subPath"

end Attribute

/-- The text under a key; the empty text if there is none. -/
def textAt (m : Keyed String) (key : String) : String := (Keyed.get? m key).getD ""

/-! ### Caches -/

/-- The host directory that holds a cache when no other place is named. -/
def defaultCacheDir : String := "/var/cfsCache"

/-- The option that names the places of the caches. -/
def cacheDirOption : String := "cache-dir"

/-- The first option that begins with `cache-dir` and has one equals sign is taken out; the options
that remain, and the directories that it names. -/
def takeCacheDirs : List String → List String × List String
  | [] => ([], [])
  | option :: options =>
    let rest :=
      let (kept, dirs) := takeCacheDirs options
      (option :: kept, dirs)
    if beginsWith cacheDirOption option then
      match fields '=' option with
      | [_, dirs] => (options, fields ':' (trimmed dirs))
      | _ => rest
    else rest

/-- Where the client caches. -/
structure CacheSources where
  /-- Claims. -/
  pvcs : List CachePvc := []
  /-- A directory of the pod. -/
  emptyDir : Option CacheEmptyDir := none
  /-- Inline volumes. -/
  inlineVolumes : List CacheInlineVolume := []
  /-- Directories of the host. -/
  hostDirs : List String := []
  deriving Repr

namespace CacheSources

/-- All places, in order. -/
def paths (s : CacheSources) : List String :=
  s.pvcs.map (·.path) ++ (s.emptyDir.map (·.path)).toList ++ s.inlineVolumes.map (·.path) ++
    s.hostDirs

/-- The claims that a text names between commas; an empty name is none, and the place of a claim is
numbered by its position. -/
def readPvcs (text : String) : List CachePvc :=
  if (trimmed text).isEmpty then []
  else
    (fields ',' (trimmed text)).zipIdx.filterMap fun (name, i) =>
      if name.isEmpty then none else some ⟨trimmed name, s!"/var/cfsCache-{i}"⟩

/-- The directory of the pod that a text describes: medium and size limit with a colon between
them. -/
def readEmptyDir (text : String) : Except Failure CacheEmptyDir := do
  let path := "/var/cfsCache-emptyDir"
  match (fields ':' (trimmed text)).map trimmed with
  | [medium] => return { medium, path }
  | [medium, sizeLimit] =>
    if !sizeLimit.isEmpty then
      let _ ← quantity sizeLimit
    return { medium, path, sizeLimit }
  | _ => return { medium := "", path }

/-- The inline volumes that a text lists. -/
def readInlineVolumes (text : String) : Except Failure (List CacheInlineVolume) :=
  match Json.parse text with
  | .error reason => badArgument (.inlineVolumes reason)
  | .ok (.arr items) =>
    match items.mapM Json.members? with
    | some sources => .ok <| sources.zipIdx.map fun (csi, i) =>
        ⟨csi, s!"/var/cfsCache-inlineVolume-{i}"⟩
    | none => badArgument (.inlineVolumes "expected a list of CSI volume sources")
  | .ok _ => badArgument (.inlineVolumes "expected a list of CSI volume sources")

/-- The places that attributes and one option name; the options that remain. -/
def read (attributes : Keyed String) (options : List String) :
    Except Failure (CacheSources × List String) := do
  let pvcs := readPvcs (textAt attributes Attribute.cachePvc)
  let emptyDir ← (Keyed.get? attributes Attribute.cacheEmptyDir).mapM readEmptyDir
  let inlineVolumes ←
    match Keyed.get? attributes Attribute.cacheInlineVolume with
    | some text => readInlineVolumes text
    | none => .ok []
  let (options, hostDirs) := takeCacheDirs options
  return ({ pvcs, emptyDir, inlineVolumes, hostDirs }, options)

/-- The options of the client: all places named by one option, if there are any. -/
def clientOptions (s : CacheSources) (options : List String) : List String :=
  if s.paths.isEmpty then options
  else options ++ [cacheDirOption ++ "=" ++ joined ":" s.paths]

/-- The directories of the host that hold caches: those named, or the usual one if no place is
named at all. A cache in memory needs none. -/
def hostCaches (s : CacheSources) : List String :=
  (if s.paths.isEmpty then [defaultCacheDir] else s.hostDirs).filter (· ≠ "memory")

end CacheSources

/-! ### Settings -/

namespace MountSettings

/-- The text under the first of two keys, or under the second if that is missing or empty. -/
def eitherText (m : Keyed String) (first second : String) : String :=
  if (textAt m first).isEmpty then textAt m second else textAt m first

/-- The map of texts under a key; the empty map if there is no text. -/
def mapAt (m : Keyed String) (key : String) : Except Failure (Keyed String) :=
  if (textAt m key).isEmpty then .ok [] else TextMap.parse (textAt m key)

/-- What the secret of a filesystem gives. A volume without a secret is of the community kind. -/
def ofSecret : Option (Keyed String) → Except Failure MountSettings
  | none => .ok { isCe := true }
  | some secret => do
    let name := textAt secret "name"
    if name.isEmpty then badArgument .emptyName
    else
      let configs ← mapAt secret "configs"
      let envs ← mapAt secret "envs"
      return {
        name
        storage := textAt secret "storage"
        formatOptions := textAt secret "format-options"
        token := textAt secret "token"
        passphrase := textAt secret "passphrase"
        secretKey := eitherText secret "secretkey" "secret-key"
        secretKey2 := eitherText secret "secretkey2" "secret-key2"
        configs
        envs }

/-- What is mounted: the metadata server that the secret names, which makes it a community
filesystem, or the filesystem by its name. -/
def withSource (secret : Option (Keyed String)) (s : MountSettings) : MountSettings :=
  match secret.bind fun m => Keyed.get? m "metaurl" with
  | none => { s with source := s.name }
  | some url =>
    { s with
      metaUrl := url
      isCe := true
      source := if occursIn "://" url then url else "redis://" ++ url }

/-- The image of the sidecar. -/
def imageFor (c : Config) (attributes : Keyed String) (isCe : Bool) : String :=
  let own := textAt attributes Attribute.image
  if !own.isEmpty then own else if isCe then c.ceMountImage else c.eeMountImage

/-- The delay that attributes give; it has to be a duration. -/
def readDelay (attributes : Keyed String) : Except Failure String :=
  let delay := textAt attributes Attribute.deleteDelay
  if delay.isEmpty then .ok ""
  else match Duration.parse delay with
    | .ok _ => .ok delay
    | .error _ => badArgument (.delay delay)

/-- The labels for the pod: those of the configuration, overridden by those of the volume. -/
def readLabels (c : Config) (attributes : Keyed String) : Except Failure (Keyed String) := do
  let shared ← if c.mountLabels.isEmpty then .ok [] else TextMap.parse c.mountLabels
  let own ← mapAt attributes Attribute.labels
  return Keyed.merge shared own

/-- The settings of a mount from the secret of its filesystem, the attributes and options of its
volume, and the configuration. -/
def resolve (secret : Option (Keyed String)) (attributes : Keyed String) (options : List String)
    (c : Config) : Except Failure MountSettings := do
  let s ← ofSecret secret
  let (caches, options) ← CacheSources.read attributes options
  let s := s.withSource secret
  let resources ← Resources.resolve c
    (textAt attributes Attribute.cpuLimit) (textAt attributes Attribute.memoryLimit)
    (textAt attributes Attribute.cpuRequest) (textAt attributes Attribute.memoryRequest)
  let deletedDelay ← readDelay attributes
  let mountPodLabels ← readLabels c attributes
  let mountPodAnnotations ← mapAt attributes Attribute.annotations
  return { s with
    cachePvcs := caches.pvcs
    cacheEmptyDir := caches.emptyDir
    cacheInlineVolumes := caches.inlineVolumes
    cacheDirs := caches.hostCaches
    clientConfPath := c.clientConfPath
    image := imageFor c attributes s.isCe
    resources
    deletedDelay
    mountPodLabels
    mountPodAnnotations
    hostPath := Setting.listItems (textAt attributes Attribute.hostPath)
    cleanCache := textAt attributes Attribute.cleanCache = trueText
    serviceAccountName := textAt attributes Attribute.serviceAccount
    subpath := textAt attributes Attribute.subPath
    options := caches.clientOptions options }

end MountSettings

end SubpathCsi
