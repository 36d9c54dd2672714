import SubpathCsi.Admission.Server
import SubpathCsi.CommandLine.Arguments
import SubpathCsi.Kube.Client
import SubpathCsi.Sharing
import SubpathCsi.Volume.Provision

/-!
# Commands

What a command does, what it prints and how it ends. Every command reads the configuration first and
then takes the credentials for the cluster.

* `Command.subpathReport`: which volumes share the subpath of a volume;
* `Command.descriptorReport`: a filesystem descriptor;
* `Command.run`: a command; `Outcome.ofResult`: how the program ends.
-/

namespace SubpathCsi

/-- How a program ends. -/
structure Outcome where
  /-- The exit status. -/
  exit : Nat := 0
  /-- What is printed. -/
  output : String := ""
  /-- What is printed for errors. -/
  errors : String := ""
  deriving DecidableEq, Repr

namespace Outcome

/-- The exit status after a mistake of usage. -/
def usageStatus : Nat := 2

/-- The exit status after an interruption. -/
def interruptedStatus : Nat := 130

/-- An end with an error. -/
def failed (message : String) : Outcome := { exit := 1, errors := message ++ "\n" }

/-- An end with lines printed. -/
def ofLines (lines : List String) : Outcome :=
  { output := String.join (lines.map (· ++ "\n")) }

/-- How the program ends when its commands have come to a result. -/
def ofResult : Except Failure Outcome → Outcome
  | .ok o => o
  | .error .interrupted =>
    { exit := interruptedStatus, errors := "\nOperation cancelled by user\n" }
  | .error f => failed ("Error: " ++ f.message)

end Outcome

/-- Where the configuration comes from. -/
structure ConfigSource where
  /-- The path of the file. -/
  path : String := Config.defaultPath
  /-- The text of the file, if it is there. -/
  file : Option String := none
  /-- The environment. -/
  env : Keyed String := []
  deriving Repr

/-- The configuration from its source. -/
def ConfigSource.load (s : ConfigSource) : Except Failure Config := Config.load s.path s.file s.env

namespace Command

/-- Takes the credentials for the cluster: those of the cluster that the program runs in, or else
those of the user. -/
def connect : Act Unit := do
  let inCluster ← Act.request .useClusterConfig
  if inCluster then return else Act.request .useLocalConfig

/-! ### Serving -/

/-- The words for how much to say. -/
def logLevels : List String :=
  ["CRITICAL", "FATAL", "ERROR", "WARN", "WARNING", "INFO", "DEBUG", "NOTSET"]

/-- A word for how much to say has to be known. -/
def checkLogLevel (level : String) : Except Failure Unit :=
  let level := Text.upper level
  if level ∈ logLevels then .ok ()
  else .error (.defect (.badValue ("Unknown level: " ++ quoted level)))

/-- The settings to serve with. What the command line leaves open, or empty, the configuration
tells. -/
def serveSettings (c : Config) (host : Option String) (port : Option Int) (logLevel : String) :
    ServeSettings where
  host := (host.filter (!·.isEmpty)).getD c.apiHost
  port := (port.filter (· ≠ 0)).getD c.apiPort
  certFile := c.tlsCertFile
  keyFile := c.tlsKeyFile
  logLevel := Text.lower logLevel

/-- Serves the webhook. -/
def runServe (source : ConfigSource) (host : Option String) (port : Option Int)
    (logLevel : String) : Act Outcome := do
  checkLogLevel logLevel
  let c ← source.load
  if c.webhook then
    connect
    Act.request (.serve (serveSettings c host port logLevel))
    return {}
  else return .failed "Webhook is disabled in configuration"

/-! ### Shared subpaths -/

/-- Another volume of the same storage class whose attributes name the subpath. -/
def isShared (name : String) (v other : Volume) : Bool :=
  other.name ≠ name && other.csi.isSome && other.storageClassName = v.storageClassName &&
    Keyed.get? other.attributes subpathKey = some v.subpath

/-- The line for a volume that shares the subpath. -/
def sharedLine (other : Volume) : String :=
  "  shared with " ++ other.name ++
    (if other.metadata.deletionTimestamp.any (!·.isEmpty) then " (deleting)" else " (live)")

/-- A text, or a dash in the place of an empty one. -/
def orDash (s : String) : String := if s.isEmpty then "-" else s

/-- The lines on the subpath of a volume. -/
def subpathReport (name : String) (v : Volume) (volumes : List Volume) : List String :=
  ["Volume:        " ++ name,
   "Subpath:       " ++ v.subpath,
   "Path pattern:  " ++ orDash (v.pathPattern?.getD "")] ++
  ((volumes.filter (isShared name v)).map sharedLine) ++
  ["Deletable:     " ++ (if mayDeleteSubpath volumes v v.pathPattern? then "yes" else "no")]

/-- Shows which volumes share the subpath of a volume. -/
def inspectVolume (c : Config) (name : String) : Act Outcome :=
  Act.rescueAll (do
    let v ← Kube.volume c (.str name)
    if v.csi.isSome then
      let volumes ← Kube.volumes c
      return .ofLines (subpathReport name v volumes)
    else return .failed (name ++ " is not a CSI volume"))
    fun f => return .failed ("Error inspecting volume: " ++ f.message)

/-! ### Descriptors -/

/-- The lines on a descriptor. -/
def descriptorReport (d : Descriptor) : List String :=
  ["Name:        " ++ d.name,
   "Filesystem:  " ++ d.filesystemName,
   "Owner:       " ++ orDash d.owner,
   "Runtime:     " ++ d.runtime.name,
   "Service:     " ++ orDash d.metadataService,
   "Phase:       " ++ (d.phase.map Phase.name).getD "-"] ++
  (if d.reason.isEmpty then [] else ["Reason:      " ++ d.reason])

/-- Shows a descriptor. -/
def inspectDescriptor (c : Config) (name : String) : Act Outcome :=
  Act.rescueAll (do return .ofLines (descriptorReport (← Kube.descriptor c (.str name))))
    fun f => return .failed ("Error getting descriptor: " ++ f.message)

/-! ### Commands -/

/-- Does what a command says. -/
def body (source : ConfigSource) : Command → Act Outcome
  | serve host port logLevel => runServe source host port logLevel
  | subpathRefs name => do
    let c ← source.load
    connect
    inspectVolume c name
  | descriptor name => do
    let c ← source.load
    connect
    inspectDescriptor c name

/-- Runs a command. An interruption ends it without a word. -/
def run (source : ConfigSource) (command : Command) : Act Outcome :=
  (body source command).rescue fun f =>
    match f with
    | .interrupted => return { exit := Outcome.interruptedStatus }
    | f => Act.fail f

/-- Runs the program with arguments. -/
def runArgs (source : ConfigSource) (args : List String) : Act Outcome :=
  match ofArgs? args with
  | some command => run source command
  | none => return { exit := Outcome.usageStatus }

end Command

end SubpathCsi
