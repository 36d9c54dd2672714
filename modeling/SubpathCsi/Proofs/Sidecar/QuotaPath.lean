import SubpathCsi.Proofs.Path
import SubpathCsi.Proofs.Sidecar.MountOptions

/-!
# The directory of the quota

A sidecar mounts the subpath, and it sets the quota of the claim on a directory of the filesystem.
The two are told apart in one case: an option `subdir` that a mount at a subpath drops still counts
for the quota, which is set on the subpath below that directory.

* `MountSettings.subdir_eq`: the last option that gives a directory counts;
* `MountSettings.resolve_quotaPath`: the directory of the quota is the subpath, below what is left
  of the directory that is given;
* `MountSettings.resolve_quotaPath_eq_iff`: when the quota is set on the directory that is mounted.
-/

namespace SubpathCsi

namespace MountSettings

variable {s : MountSettings}

/-! ### The directory that options give -/

/-- The directory that an option gives, if it gives one. A value that holds an equals sign is not
taken for a directory. -/
def subdirValue? (option : String) : Option String :=
  match fields '=' option with
  | ["subdir", value] => some value
  | _ => none

/-- The directory that the options give: the last one counts. -/
def givenSubdir? (s : MountSettings) : Option String :=
  (s.options.filterMap subdirValue?).getLast?

/-- The directory that counts, seen from the root. -/
theorem subdir_eq (s : MountSettings) :
    s.subdir = (s.givenSubdir?.map (joinPath "/")).getD "" := by
  have hstep : ∀ dir option, (match fields '=' option with
      | ["subdir", value] => joinPath "/" value
      | _ => dir) = ((subdirValue? option).map (joinPath "/")).getD dir := by
    intro dir option
    rw [subdirValue?]
    split <;> rfl
  rw [subdir, givenSubdir?]
  -- the options are read from the first to the last, so the last one is taken off
  induction s.options using List.reverseRecOn with
  | nil => rfl
  | append_singleton options option ih =>
    rw [List.foldl_append, List.foldl_cons, List.foldl_nil, ih, List.filterMap_append]
    refine (hstep _ option).trans ?_
    cases h : subdirValue? option with
    | none =>
      rw [List.filterMap_cons_none h, List.filterMap_nil, List.append_nil]
      rfl
    | some value =>
      rw [List.filterMap_cons_some h, List.filterMap_nil, List.getLast?_concat]
      rfl

/-! ### The two directories -/

/-- What the directory of the quota lies below, apart from the subpath: what is left of the
directory that the options give when the subpath has climbed out of it, and nothing if the subpath
begins at the root. -/
def aboveQuota (s : MountSettings) : List String :=
  if beginsWith "/" s.subpath then []
  else (Path.resolve (s.givenSubdir?.getD "")).drop (Path.climb 0 (Path.names s.subpath))

/-- A path leads to the same directory if it is made to begin at the root. -/
theorem resolve_joinPath_root (path : String) :
    Path.resolve (joinPath "/" path) = Path.resolve path := by
  have hroot : Path.resolve "/" = [] := by rfl
  rw [Path.resolve_joinPath, hroot, List.drop_nil, ite_self, List.append_nil]

theorem resolve_subdir (s : MountSettings) :
    Path.resolve s.subdir = Path.resolve (s.givenSubdir?.getD "") := by
  rw [subdir_eq]
  cases s.givenSubdir? with
  | none => rfl
  | some value => exact resolve_joinPath_root value

/-- **The directory of the quota** is the subpath, below what is left of the directory that the
options give. -/
theorem resolve_quotaPath (s : MountSettings) :
    Path.resolve s.quotaPath = Path.resolve s.subpath ++ s.aboveQuota := by
  rw [quotaPath, aboveQuota, ← resolve_subdir]
  split
  · next hnone =>
    have hroot : Path.resolve "" = [] := by decide
    rw [String.isEmpty_iff.mp hnone, hroot, List.drop_nil, ite_self, List.append_nil]
  · exact Path.resolve_joinPath s.subdir s.subpath

/-- There is nothing left of the directory that the options give if the subpath begins at the root,
or climbs out of all of it. -/
theorem aboveQuota_eq_nil_iff :
    s.aboveQuota = [] ↔ beginsWith "/" s.subpath = true ∨
      ∀ dir, s.givenSubdir? = some dir →
        (Path.resolve dir).length ≤ Path.climb 0 (Path.names s.subpath) := by
  have hroot : Path.resolve "" = [] := by decide
  rw [aboveQuota]
  split
  · next hbegins => simp [hbegins]
  · next hbegins =>
    rw [List.drop_eq_nil_iff]
    cases s.givenSubdir? with
    | none => simp [hroot]
    | some dir => simp [hbegins]

/-- **The quota and the mount.** For a mount at a subpath whose options hold no commas, the mount
command selects the subpath and nothing else, if the subpath holds no comma either; and the quota is
set on this very directory exactly if the subpath begins at the root, or climbs out of the directory
that the last option `subdir` gives, if there is one. -/
theorem resolve_quotaPath_eq_iff (hsubpath : s.subpath ≠ "")
    (hoptions : ∀ o ∈ s.options, ',' ∉ o.toList) :
    (s.subdirs = ["subdir=" ++ s.subpath] ↔ ',' ∉ s.subpath.toList) ∧
      (Path.resolve s.quotaPath = Path.resolve s.subpath ↔
        beginsWith "/" s.subpath = true ∨ ∀ dir, s.givenSubdir? = some dir →
          (Path.resolve dir).length ≤ Path.climb 0 (Path.names s.subpath)) := by
  constructor
  · rw [subdirs_eq_singleton_iff hsubpath]
    refine and_iff_left_of_imp fun _ o ho hdropped p hp => ?_
    rw [fields_of_notMem (hoptions o ho), List.mem_singleton] at hp
    exact hp ▸ hdropped
  · rw [resolve_quotaPath, ← aboveQuota_eq_nil_iff]
    exact List.append_right_eq_self

/-- A mount whose subpath climbs out of the directory that an option gives. -/
def climbingMount : MountSettings where
  options := ["subdir=/tenant", "ro", "subdir=shared/"]
  subpath := "../team/./pvc-1"

theorem resolve_quotaPath_climbingMount :
    climbingMount.subpath ≠ "" ∧ (∀ o ∈ climbingMount.options, ',' ∉ o.toList) ∧
      climbingMount.subdirs = ["subdir=../team/./pvc-1"] ∧
      climbingMount.quotaPath = "/shared/../team/./pvc-1" ∧
      Path.resolve climbingMount.quotaPath = Path.resolve climbingMount.subpath := by
  have hsubpath : climbingMount.subpath ≠ "" := by decide
  have hoptions : ∀ o ∈ climbingMount.options, ',' ∉ o.toList := by decide
  have hgiven : climbingMount.givenSubdir? = some "shared/" := by rfl
  obtain ⟨hselects, hsame⟩ := resolve_quotaPath_eq_iff hsubpath hoptions
  refine ⟨hsubpath, hoptions, hselects.mpr (by decide), by rfl,
    hsame.mpr (.inr fun dir hdir => ?_)⟩
  cases hgiven.symm.trans hdir
  decide

/-- A mount at a subpath with an option that gives a directory. -/
def strayingMount : MountSettings where
  isCe := true
  options := ["subdir=tenant"]
  subpath := "pvc-1"
  mountPath := "/cfs/abcdef"

/-- The subpath is mounted, and the quota is set on a directory of the same name elsewhere. -/
theorem resolve_quotaPath_strayingMount :
    strayingMount.subpath ≠ "" ∧ (∀ o ∈ strayingMount.options, ',' ∉ o.toList) ∧
      strayingMount.subdirs = ["subdir=pvc-1"] ∧
      Path.resolve "pvc-1" = ["pvc-1"] ∧
      strayingMount.quotaPath = "/tenant/pvc-1" ∧
      Path.resolve strayingMount.quotaPath = ["pvc-1", "tenant"] := by
  have hpath : strayingMount.quotaPath = "/tenant/pvc-1" := by rfl
  refine ⟨by decide, by decide, by rfl, by rfl, hpath, ?_⟩
  rw [hpath]
  rfl

end MountSettings

end SubpathCsi
