import SubpathCsi.Duration
import SubpathCsi.Failure
import SubpathCsi.Number.Integer
import SubpathCsi.Text.LetterCase

/-!
# Configuration

A configuration is read once at the start. Each setting comes from the environment variable
`CFS_<KEY>`, else from the section `controller` of a file, else from its default.

* `Setting.all` is the table of settings: the key of each and what its text means;
* `Config.load` reads all settings in the order of the table;
* `Config.authLifetime` is the lifetime that a text gives to an authorization.
-/

namespace SubpathCsi

/-- The version of the program. -/
def programVersion : String := "0.1.0"

/-! ### Keys shared by all parts -/

/-- The key of the parameter that names the secret of a volume. -/
def publishSecretName : String := "csi.storage.k8s.io/node-publish-secret-name"

/-- The key of the parameter that names the namespace of the secret of a volume. -/
def publishSecretNamespace : String := "csi.storage.k8s.io/node-publish-secret-namespace"

/-- The key of the parameter that names the secret for expanding a volume. -/
def expandSecretName : String := "csi.storage.k8s.io/controller-expand-secret-name"

/-- The key of the parameter that names the namespace of the secret for expanding a volume. -/
def expandSecretNamespace : String := "csi.storage.k8s.io/controller-expand-secret-namespace"

/-- What the keys of parameters begin with that are not for the driver. -/
def csiParameterStart : String := "csi.storage.k8s.io/"

/-- The key of the parameter that names the descriptor of the filesystem. -/
def descriptorKey : String := "csi.storage.cfs.io/provisioner-cr-name"

/-- The domain of the labels and annotations. -/
def cfsDomain : String := "confidentialfilesystems.com"

/-- The finalizer that keeps a secret while volumes use it. -/
def secretFinalizer : String := "cfs." ++ cfsDomain ++ "/finalizer"

/-- The label of a pod that has its sidecars. -/
def doneLabel : String := "done.sidecar." ++ cfsDomain ++ "/inject"

/-- The label of a pod that wants no sidecars. -/
def disableLabel : String := "disable.sidecar." ++ cfsDomain ++ "/inject"

/-- The key of the annotation that names a trust domain. -/
def runtimeKey : String := cfsDomain ++ "/runtime"

/-- The key of the annotation that names the owner of a filesystem. -/
def ownerKey : String := cfsDomain ++ "/owner"

/-- The key of the annotation of a pod that delays the removal of its mount. -/
def deleteDelayKey : String := "cfs-delete-delay"

/-- The key of the annotation of a pod whose cache is removed with it. -/
def cleanCacheKey : String := "cfs-clean-cache"

/-- The text of a label, annotation or attribute that is set. -/
def trueText : String := "true"

/-! ### The record -/

/-- The usual lifetime of an authorization, in seconds. -/
def defaultAuthLifetime : Int := 3600

/-- The shortest lifetime of an authorization, in seconds. -/
def minAuthLifetime : Int := 60

/-- The configuration of the controller. -/
structure Config where
  /-- The name of the driver. -/
  driverName : String := "csi.cfs.confidentialfilesystems.com"
  /-- The webhook is served. -/
  webhook : Bool := true
  /-- The image that mounts community filesystems. -/
  ceMountImage : String := "confidentialfilesystems/mount:ce-nightly"
  /-- The image that mounts enterprise filesystems. -/
  eeMountImage : String := "confidentialfilesystems/mount:ee-nightly"
  /-- The image of all sidecars, if it is not empty. -/
  sidecarImage : String := ""
  /-- The image of the init container. -/
  initImage : String := "docker.io/library/busybox:latest"
  /-- The secrets to pull images with. -/
  imagePullSecrets : List String := []
  /-- The directory that filesystems are mounted under. -/
  podMountBase : String := "/cfs"
  /-- Labels of all pods with sidecars, as a map of texts. -/
  mountLabels : String := ""
  /-- The directory of the client configuration. -/
  clientConfPath : String := "/root/.cfs"
  /-- The program that mounts community filesystems. -/
  ceMountPath : String := "/bin/mount.cfs"
  /-- The program that mounts enterprise filesystems. -/
  eeMountPath : String := "/sbin/mount.cfs"
  /-- The command line tool of community filesystems. -/
  ceCliPath : String := "/usr/local/bin/cfs"
  /-- The directory of the script that waits for a mount. -/
  checkMountScriptDir : String := "/usr/local/bin"
  /-- The usual limit on processor time. -/
  defaultCpuLimit : String := "1000m"
  /-- The usual limit on memory. -/
  defaultMemoryLimit : String := "1Gi"
  /-- The usual request of processor time. -/
  defaultCpuRequest : String := "100m"
  /-- The usual request of memory. -/
  defaultMemoryRequest : String := "100Mi"
  /-- Runtime classes of the confidential domain, the preferred one first. -/
  teeRuntimeClassNames : List String := ["kata-cc"]
  /-- Runtime classes of the virtual machine domain, the preferred one first. -/
  vmRuntimeClassNames : List String := ["kata-qemu"]
  /-- The address of the resource server. -/
  resourceServerUrl : String := "https://cfs-resource-server.cfs-system.svc:8443"
  /-- The port of filesystem managers. -/
  fsManagerPort : Int := 8090
  /-- The name in the certificates of filesystem managers. -/
  serverCommonName : String := "cfs-fs-manager"
  /-- The lifetime of an authorization, in seconds. -/
  resourceAuthExpireIn : Int := defaultAuthLifetime
  /-- The time that requests to the API server may take, in seconds. -/
  requestTimeout : Int := 30
  /-- The time that requests to filesystem managers may take, in seconds. -/
  fsManagerTimeout : Int := 30
  /-- The time that requests to the resource server may take, in seconds. -/
  resourceServerTimeout : Int := 30
  /-- The address that the webhook listens on. -/
  apiHost : String := "0.0.0.0"
  /-- The port that the webhook listens on. -/
  apiPort : Int := 9443
  /-- The file of the webhook's certificate. -/
  tlsCertFile : Option String := none
  /-- The file of the webhook's key. -/
  tlsKeyFile : Option String := none
  /-- Mounts use one metadata server for tests. -/
  testMode : Bool := false
  /-- The address of that metadata server. -/
  testMetaUrl : String := ""
  deriving DecidableEq, Repr

namespace Config

/-- The name of the script that waits for a mount. -/
def checkMountScriptName : String := "check_mount.sh"

/-- The path of the script that waits for a mount. -/
def checkMountScriptPath (c : Config) : String :=
  let dir := (c.checkMountScriptDir.toList.reverse.dropWhile (· = '/')).reverse
  String.ofList dir ++ "/" ++ checkMountScriptName

/-- The lifetime that a text gives to an authorization: a duration in whole seconds. The usual
lifetime stands for texts that are none and for durations that are too short. -/
def authLifetime (raw : String) : Except Failure Int :=
  if raw.isEmpty then .ok defaultAuthLifetime
  else match Duration.parse raw with
    | .error _ => .ok defaultAuthLifetime
    | .ok seconds =>
      match seconds.truncate? with
      | some n => .ok (if n < minAuthLifetime then defaultAuthLifetime else n)
      | none => .error (.defect (.outOfRange "cannot convert float infinity to integer"))

end Config

/-! ### The settings -/

/-- What the text of a setting means, and where it goes. -/
inductive SettingValue where
  /-- The text itself. -/
  | text (get : Config → String) (set : Config → String → Config)
  /-- An integer. -/
  | number (get : Config → Int) (set : Config → Int → Config)
  /-- A truth value. -/
  | flag (get : Config → Bool) (set : Config → Bool → Config)
  /-- Texts between commas. -/
  | list (get : Config → List String) (set : Config → List String → Config)
  /-- The text itself, unless it is empty. -/
  | optional (get : Config → Option String) (set : Config → Option String → Config)
  /-- The lifetime of an authorization. -/
  | lifetime (get : Config → Int) (set : Config → Int → Config)

/-- A setting. -/
structure Setting where
  /-- The key in the file; in the environment it is in upper case after `CFS_`. -/
  key : String
  /-- What its text means. -/
  value : SettingValue

namespace Setting

/-- All settings, in the order in which they are read. -/
def all : List Setting :=
  [⟨"driver_name", .text (·.driverName) fun c v => { c with driverName := v }⟩,
   ⟨"webhook", .flag (·.webhook) fun c v => { c with webhook := v }⟩,
   ⟨"ce_mount_image", .text (·.ceMountImage) fun c v => { c with ceMountImage := v }⟩,
   ⟨"ee_mount_image", .text (·.eeMountImage) fun c v => { c with eeMountImage := v }⟩,
   ⟨"sidecar_image", .text (·.sidecarImage) fun c v => { c with sidecarImage := v }⟩,
   ⟨"init_image", .text (·.initImage) fun c v => { c with initImage := v }⟩,
   ⟨"sidecar_image_pull_secrets",
    .list (·.imagePullSecrets) fun c v => { c with imagePullSecrets := v }⟩,
   ⟨"pod_mount_base", .text (·.podMountBase) fun c v => { c with podMountBase := v }⟩,
   ⟨"mount_labels", .text (·.mountLabels) fun c v => { c with mountLabels := v }⟩,
   ⟨"client_conf_path", .text (·.clientConfPath) fun c v => { c with clientConfPath := v }⟩,
   ⟨"ce_mount_path", .text (·.ceMountPath) fun c v => { c with ceMountPath := v }⟩,
   ⟨"ee_mount_path", .text (·.eeMountPath) fun c v => { c with eeMountPath := v }⟩,
   ⟨"ce_cli_path", .text (·.ceCliPath) fun c v => { c with ceCliPath := v }⟩,
   ⟨"check_mount_script_dir",
    .text (·.checkMountScriptDir) fun c v => { c with checkMountScriptDir := v }⟩,
   ⟨"default_cpu_limit", .text (·.defaultCpuLimit) fun c v => { c with defaultCpuLimit := v }⟩,
   ⟨"default_memory_limit",
    .text (·.defaultMemoryLimit) fun c v => { c with defaultMemoryLimit := v }⟩,
   ⟨"default_cpu_request",
    .text (·.defaultCpuRequest) fun c v => { c with defaultCpuRequest := v }⟩,
   ⟨"default_memory_request",
    .text (·.defaultMemoryRequest) fun c v => { c with defaultMemoryRequest := v }⟩,
   ⟨"tee_runtime_class_names",
    .list (·.teeRuntimeClassNames) fun c v => { c with teeRuntimeClassNames := v }⟩,
   ⟨"vm_runtime_class_names",
    .list (·.vmRuntimeClassNames) fun c v => { c with vmRuntimeClassNames := v }⟩,
   ⟨"resource_server_url",
    .text (·.resourceServerUrl) fun c v => { c with resourceServerUrl := v }⟩,
   ⟨"fs_manager_port", .number (·.fsManagerPort) fun c v => { c with fsManagerPort := v }⟩,
   ⟨"server_common_name", .text (·.serverCommonName) fun c v => { c with serverCommonName := v }⟩,
   ⟨"resource_auth_expire_in",
    .lifetime (·.resourceAuthExpireIn) fun c v => { c with resourceAuthExpireIn := v }⟩,
   ⟨"request_timeout", .number (·.requestTimeout) fun c v => { c with requestTimeout := v }⟩,
   ⟨"fs_manager_timeout",
    .number (·.fsManagerTimeout) fun c v => { c with fsManagerTimeout := v }⟩,
   ⟨"resource_server_timeout",
    .number (·.resourceServerTimeout) fun c v => { c with resourceServerTimeout := v }⟩,
   ⟨"api_host", .text (·.apiHost) fun c v => { c with apiHost := v }⟩,
   ⟨"api_port", .number (·.apiPort) fun c v => { c with apiPort := v }⟩,
   ⟨"tls_cert_file", .optional (·.tlsCertFile) fun c v => { c with tlsCertFile := v }⟩,
   ⟨"tls_key_file", .optional (·.tlsKeyFile) fun c v => { c with tlsKeyFile := v }⟩,
   ⟨"test", .flag (·.testMode) fun c v => { c with testMode := v }⟩,
   ⟨"test_meta_url", .text (·.testMetaUrl) fun c v => { c with testMetaUrl := v }⟩]

/-- The name of the environment variable of a setting. -/
def envName (s : Setting) : String := "CFS_" ++ Text.upper s.key

/-- A text for "true". -/
def isTrueWord (s : String) : Bool := ["1", "true", "yes", "on"].contains (Text.lower s)

/-- The texts between commas, without blanks around them and without empty ones. -/
def listItems (s : String) : List String := ((fields ',' s).map trimmed).filter (!·.isEmpty)

/-- Puts the text of a setting, without blanks around it, in place. A setting that is an integer
keeps its value if the text is none. -/
def assign (s : Setting) (c : Config) (raw : String) : Except Failure Config :=
  let raw := trimmed raw
  match s.value with
  | .text _ set => .ok (set c raw)
  | .number get set => .ok (set c ((Integer.ofText? raw).getD (get c)))
  | .flag _ set => .ok (set c (isTrueWord raw))
  | .list _ set => .ok (set c (listItems raw))
  | .optional _ set => .ok (set c (if raw.isEmpty then none else some raw))
  | .lifetime _ set => (Config.authLifetime raw).map (set c)

end Setting

namespace Config

/-- The section of the file that holds the settings. -/
def sectionName : String := "controller"

/-- The file that is read when no other is named. -/
def defaultPath : String := "/etc/cfs-csi/controller.conf"

/-- The text of a setting from the environment, else from the file. -/
def lookup (path : String) (file : Option Ini.File) (env : Keyed String) (s : Setting) :
    Except Failure (Option String) :=
  match Keyed.get? env s.envName, file with
  | some raw, _ => .ok (some raw)
  | none, some f =>
    match f.value sectionName s.key with
    | .ok raw => .ok raw
    | .error e => .error (.defect (.configFile path e))
  | none, none => .ok none

/-- Reads the settings one after another; one without a text keeps its value. -/
def read (path : String) (file : Option Ini.File) (env : Keyed String) :
    List Setting → Config → Except Failure Config
  | [], c => .ok c
  | s :: ss, c => do
    match ← lookup path file env s with
    | some raw => read path file env ss (← s.assign c raw)
    | none => read path file env ss c

/-- The configuration from the text of a file at `path`, if there is one, and the environment. -/
def load (path : String) (source : Option String) (env : Keyed String) :
    Except Failure Config :=
  match source.map Ini.parse with
  | some (.error e) => .error (.defect (.configFile path e))
  | some (.ok file) => read path (some file) env Setting.all {}
  | none => read path none env Setting.all {}

end Config

end SubpathCsi
