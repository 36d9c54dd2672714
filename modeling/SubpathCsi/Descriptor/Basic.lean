import SubpathCsi.Calendar
import SubpathCsi.Config

/-!
# Filesystem descriptors

A descriptor is the object of the cluster that tells which filesystem stands behind a volume: who
owns it, where its metadata server is, under which trust domain its users run, and how far it has
come in its life.
-/

namespace SubpathCsi

/-- The trust domain that a workload runs under. -/
inductive RuntimeDomain where
  /-- A trusted execution environment. -/
  | tee
  /-- A virtual machine. -/
  | vm
  deriving DecidableEq, Repr

/-- The name of a trust domain. -/
def RuntimeDomain.name : RuntimeDomain → String
  | tee => "tee"
  | vm => "vm"

/-- The trust domain with a name. -/
def RuntimeDomain.ofName? (s : String) : Option RuntimeDomain :=
  if s = tee.name then some tee else if s = vm.name then some vm else none

/-- How far a filesystem has come in its life. -/
inductive Phase where
  /-- It is being made. -/
  | createUnfinished
  /-- It is there. -/
  | createFinished
  /-- It is being removed. -/
  | deleteUnfinished
  /-- It is gone. -/
  | deleteFinished
  deriving DecidableEq, Repr

namespace Phase

/-- The name of a phase. -/
def name : Phase → String
  | createUnfinished => "CreateUnfinished"
  | createFinished => "CreateFinished"
  | deleteUnfinished => "DeleteUnfinished"
  | deleteFinished => "DeleteFinished"

/-- All phases. -/
def all : List Phase := [createUnfinished, createFinished, deleteUnfinished, deleteFinished]

/-- The phase with a name. -/
def ofName? (s : String) : Option Phase := all.find? (·.name = s)

end Phase

/-- A filesystem descriptor. -/
structure Descriptor where
  /-- The name of the descriptor. -/
  name : String := ""
  /-- The annotations. -/
  annotations : Keyed String := []
  /-- The labels. -/
  labels : Keyed String := []
  /-- The name of the filesystem. -/
  filesystemName : String := ""
  /-- What is to be done with the filesystem. -/
  filesystemAction : String := ""
  /-- The storage class of its volumes. -/
  filesystemStorageClass : String := ""
  /-- The claim of its metadata. -/
  metadataClaim : String := ""
  /-- The host and port of its metadata server. -/
  metadataService : String := ""
  /-- The kind of its object storage. -/
  storageType : String := ""
  /-- The size of its object storage. -/
  storageCapacity : String := ""
  /-- How its object storage may be used. -/
  storageAccess : String := ""
  /-- The phase. -/
  phase : Option Phase := none
  /-- Why it is in its phase. -/
  reason : String := ""
  /-- When its phase changed. -/
  lastUpdateTime : Option DateTime := none
  /-- When it was made. -/
  createTime : Option DateTime := none
  deriving Repr

namespace Descriptor

/-- The address of the owner; empty if none is given. -/
def owner (d : Descriptor) : String := (Keyed.get? d.annotations ownerKey).getD ""

/-- The trust domain that users of the filesystem need; a virtual machine unless a trusted
execution environment is asked for. -/
def runtime (d : Descriptor) : RuntimeDomain :=
  let word := Text.lower (trimmed ((Keyed.get? d.annotations runtimeKey).getD ""))
  if word = RuntimeDomain.tee.name then .tee else .vm

/-- The filesystem is there. -/
def isCreated (d : Descriptor) : Bool := d.phase = some .createFinished

/-- The filesystem is being removed or gone. -/
def isDeleting (d : Descriptor) : Bool :=
  d.phase = some .deleteUnfinished || d.phase = some .deleteFinished

/-- The host of the metadata server: what comes before the last colon. -/
def serviceHost (d : Descriptor) : String :=
  let cs := d.metadataService.toList
  if cs.contains ':' then
    String.ofList ((cs.reverse.dropWhile (· ≠ ':')).drop 1).reverse
  else d.metadataService

end Descriptor

end SubpathCsi
