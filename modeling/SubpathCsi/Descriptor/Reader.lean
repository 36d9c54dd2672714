import SubpathCsi.Calendar.Reader
import SubpathCsi.Descriptor.Basic
import SubpathCsi.Json.Basic

/-!
# Reading descriptors

A descriptor is read from an object of the cluster. Every field may be missing, and members that
are no fields are passed over. A field of the wrong type, a null where none is allowed and an
unknown phase are faults; reading goes on, so that all faults are counted.
-/

namespace SubpathCsi

/-- A value and the number of faults met in reading it. -/
structure Checked (α : Type) where
  /-- The value, a stand-in where it is faulty. -/
  value : α
  /-- The number of faults. -/
  faults : Nat := 0

namespace Descriptor

/-- The first member that is there under one of the names of a field. -/
def named? (ms : Keyed Json) (names : List String) : Option Json :=
  names.findSome? (Keyed.get? ms)

/-- A text. -/
def readText (ms : Keyed Json) (names : List String) : Checked String :=
  match named? ms names with
  | none => ⟨"", 0⟩
  | some (.str s) => ⟨s, 0⟩
  | some _ => ⟨"", 1⟩

/-- A map of texts. -/
def readTextMap (ms : Keyed Json) (names : List String) : Checked (Keyed String) :=
  match named? ms names with
  | none => ⟨[], 0⟩
  | some (.obj vs) =>
    ⟨vs.filterMap fun p => p.2.str?.map fun s => (p.1, s),
      (vs.filter fun p => p.2.str?.isNone).length⟩
  | some _ => ⟨[], 1⟩

/-- A group of fields. -/
def readGroup (ms : Keyed Json) (names : List String) : Checked (Keyed Json) :=
  match named? ms names with
  | none => ⟨[], 0⟩
  | some (.obj vs) => ⟨vs, 0⟩
  | some _ => ⟨[], 1⟩

/-- A phase, which may be null. -/
def readPhase (ms : Keyed Json) (names : List String) : Checked (Option Phase) :=
  match named? ms names with
  | none | some .null => ⟨none, 0⟩
  | some (.str s) =>
    match Phase.ofName? s with
    | some p => ⟨some p, 0⟩
    | none => ⟨none, 1⟩
  | some _ => ⟨none, 1⟩

/-- A point of time, which may be null. -/
def readTime (ms : Keyed Json) (names : List String) : Checked (Option DateTime) :=
  let known (t : Option DateTime) : Checked (Option DateTime) :=
    if t.isSome then ⟨t, 0⟩ else ⟨none, 1⟩
  match named? ms names with
  | none | some .null => ⟨none, 0⟩
  | some (.str s) => known (DateTime.ofText? s)
  | some (.int n) => known (DateTime.ofCount? n)
  | some (.float x) =>
    match x.truncate? with
    | some n => known (DateTime.ofCount? n)
    | none => ⟨none, 1⟩
  | some _ => ⟨none, 1⟩

/-- Reads a descriptor; fails with the number of faults. -/
def ofJson (j : Json) : Except Nat Descriptor :=
  match j with
  | .obj ms =>
    let object := readGroup ms ["metadata"]
    let name := readText object.value ["name"]
    let annotations := readTextMap object.value ["annotations"]
    let labels := readTextMap object.value ["labels"]
    let spec := readGroup ms ["spec"]
    let filesystem := readGroup spec.value ["filesystem"]
    let filesystemName := readText filesystem.value ["name"]
    let filesystemAction := readText filesystem.value ["action"]
    let filesystemClass := readText filesystem.value ["storageClass", "storage_class"]
    let metadata := readGroup spec.value ["metadata"]
    let metadataClaim := readText metadata.value
      ["persistentVolumeClaim", "persistent_volume_claim"]
    let metadataService := readText metadata.value ["service"]
    let storage := readGroup spec.value ["storage"]
    let storageType := readText storage.value ["type"]
    let storageCapacity := readText storage.value ["capacity"]
    let storageAccess := readText storage.value ["access"]
    let status := readGroup ms ["status"]
    let phase := readPhase status.value ["phase"]
    let reason := readText status.value ["reason"]
    let lastUpdate := readTime status.value ["lastUpdateTime", "last_update_time"]
    let create := readTime status.value ["createTime", "create_time"]
    let faults := [object.faults, name.faults, annotations.faults, labels.faults, spec.faults,
      filesystem.faults, filesystemName.faults, filesystemAction.faults, filesystemClass.faults,
      metadata.faults, metadataClaim.faults, metadataService.faults, storage.faults,
      storageType.faults, storageCapacity.faults, storageAccess.faults, status.faults,
      phase.faults, reason.faults, lastUpdate.faults, create.faults].foldl (· + ·) 0
    if faults = 0 then .ok {
      name := name.value
      annotations := annotations.value
      labels := labels.value
      filesystemName := filesystemName.value
      filesystemAction := filesystemAction.value
      filesystemStorageClass := filesystemClass.value
      metadataClaim := metadataClaim.value
      metadataService := metadataService.value
      storageType := storageType.value
      storageCapacity := storageCapacity.value
      storageAccess := storageAccess.value
      phase := phase.value
      reason := reason.value
      lastUpdateTime := lastUpdate.value
      createTime := create.value }
    else .error faults
  | _ => .error 1

end Descriptor

end SubpathCsi
