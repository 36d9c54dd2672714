import SubpathCsi.Proofs.Sidecar.MountCommand

/-!
# The directory that a mount selects

The mount options are a list, but the mounting program gets one text and cuts it at the commas. A
mount at a subpath drops the options that begin with `subdir=` and adds its own. What stands behind
a comma inside an option, or inside the subpath, is not looked at: it is a part of the text like
any other, and may begin with `subdir=` itself.

* `MountSettings.fields_optionText_of_subpath`: the parts of the text, for a mount at a subpath;
* `MountSettings.subdirs_eq_singleton_iff`: when the text selects the subpath, and it alone;
* `MountSettings.subdirs_mountCommand_iff`: the same of the mount command.
-/

namespace SubpathCsi

namespace MountSettings

variable {c : Config} {s : MountSettings}

/-- The option, or the part of one, selects a directory. -/
def isSubdir (option : String) : Bool := beginsWith "subdir=" option

/-- The parts of the text of the options that select a directory. -/
def subdirs (s : MountSettings) : List String := (fields ',' s.optionText).filter isSubdir

/-- The given options that a mount at a subpath keeps. -/
def keptOptions (s : MountSettings) : List String :=
  s.options.filter fun o => !o.isEmpty && !isSubdir o

theorem isSubdir_append (path : String) : isSubdir ("subdir=" ++ path) = true := by
  rw [isSubdir, beginsWith, String.toList_append]
  exact List.isPrefixOf_iff_prefix.mpr (List.prefix_append _ _)

theorem fields_foregroundOptions (s : MountSettings) :
    (s.foregroundOptions.filter (!·.isEmpty)).flatMap (fields ',') = s.foregroundOptions := by
  rw [foregroundOptions]
  split
  · rfl
  · decide

theorem filter_isSubdir_foregroundOptions (s : MountSettings) :
    s.foregroundOptions.filter isSubdir = [] := by
  rw [foregroundOptions]
  split
  · rfl
  · decide

/-! ### The parts of the text -/

/-- **The parts of the text**, for a mount at a subpath: those of the options that are kept, those
of the one that is added, and the one for the foreground. -/
theorem fields_optionText_of_subpath (hsubpath : s.subpath ≠ "") :
    fields ',' s.optionText = s.keptOptions.flatMap (fields ',') ++
      (fields ',' ("subdir=" ++ s.subpath) ++ s.foregroundOptions) := by
  have hempty : s.subpath.isEmpty = false := by simpa using hsubpath
  have hplaced : s.placedOptions =
      s.options.filter (!isSubdir ·) ++ ["subdir=" ++ s.subpath] := by
    rw [placedOptions, hempty]
    rfl
  have hadded : (["subdir=" ++ s.subpath].filter (!·.isEmpty)) = ["subdir=" ++ s.subpath] := by
    simp
  rw [fields_optionText, mountOptions_eq, hplaced, List.filter_append,
    List.filter_append, List.filter_filter, hadded, List.flatMap_append, List.flatMap_append,
    fields_foregroundOptions, List.flatMap_singleton, List.append_assoc]
  rfl

/-- The added option alone selects the subpath, and its other parts select nothing, exactly if the
subpath holds no comma. -/
theorem fields_subpath_iff {p : String} {ps : List String}
    (hparts : fields ',' s.subpath = p :: ps) :
    "subdir=" ++ p = "subdir=" ++ s.subpath ∧ ps.filter isSubdir = [] ↔
      ',' ∉ s.subpath.toList := by
  constructor
  · rintro ⟨hp, -⟩
    have hmem : p ∈ fields ',' s.subpath := by
      rw [hparts]
      exact .head _
    have heq : p = s.subpath := by simpa [← String.toList_inj] using hp
    exact heq ▸ notMem_of_mem_fields hmem
  · intro hcomma
    obtain ⟨rfl, rfl⟩ := List.cons_eq_cons.mp (hparts.symm.trans (fields_of_notMem hcomma))
    exact ⟨rfl, rfl⟩

/-- The options that are kept select nothing exactly if no part of a given option does, but for the
options that begin so, which are dropped. -/
theorem filter_isSubdir_keptOptions_iff :
    (s.keptOptions.flatMap (fields ',')).filter isSubdir = [] ↔
      ∀ o ∈ s.options, isSubdir o = false → ∀ p ∈ fields ',' o, isSubdir p = false := by
  rw [List.filter_eq_nil_iff]
  constructor
  · intro h o ho hdropped p hp
    by_cases hempty : o = ""
    · have hnone : ∀ p ∈ fields ',' "", isSubdir p = false := by decide
      exact hnone p (hempty ▸ hp)
    · have hkept : o ∈ s.keptOptions := List.mem_filter.mpr ⟨ho, by simp [hempty, hdropped]⟩
      exact Bool.eq_false_iff.mpr (h p (List.mem_flatMap.mpr ⟨o, hkept, hp⟩))
  · intro h p hp
    obtain ⟨o, hkept, hp⟩ := List.mem_flatMap.mp hp
    obtain ⟨ho, hkeeps⟩ := List.mem_filter.mp hkept
    have hdropped : isSubdir o = false := by
      rw [Bool.and_eq_true, Bool.not_eq_true'] at hkeeps
      simpa using hkeeps.2
    exact Bool.eq_false_iff.mp (h o ho hdropped p hp)

/-- **The directory.** The text selects the subpath and nothing else exactly if the subpath holds no
comma, and no option that is kept selects a directory behind one. -/
theorem subdirs_eq_singleton_iff (hsubpath : s.subpath ≠ "") :
    s.subdirs = ["subdir=" ++ s.subpath] ↔ ',' ∉ s.subpath.toList ∧
      ∀ o ∈ s.options, isSubdir o = false → ∀ p ∈ fields ',' o, isSubdir p = false := by
  obtain ⟨p, ps, hparts⟩ := exists_fields_eq_cons ',' s.subpath
  have hadded : fields ',' ("subdir=" ++ s.subpath) = ("subdir=" ++ p) :: ps :=
    fields_append_of_notMem (by decide) hparts
  rw [subdirs, fields_optionText_of_subpath hsubpath, hadded, List.filter_append,
    List.filter_append, filter_isSubdir_foregroundOptions, List.append_nil,
    List.filter_cons_of_pos (isSubdir_append p), List.append_eq_singleton_iff,
    ← fields_subpath_iff hparts, ← filter_isSubdir_keptOptions_iff]
  simp [and_comm]

/-! ### The mount command -/

/-- What follows `-o` in the script of a mount is the text of the options. -/
theorem exists_eq_append_optionText {script : String} (h : s.mountCommand c = .ok script) :
    ∃ front, script = front ++ " -o " ++ s.optionText := by
  obtain ⟨lines, -, rfl⟩ := mountCommand_eq_ok.mp h
  refine ⟨String.ofList (lines.flatMap fun l => l.toList ++ ['\n']) ++ ("exec " ++
    s.mountProgram c ++ " " ++ s.mountTarget ++ " " ++ Shell.quote s.mountPath), ?_⟩
  rw [← String.toList_inj, Shell.toList_joined_lines]
  simp [mountFront]

/-- **A mount at its subpath only.** The mount command gives its options as one text. Cut at the
commas, the text holds the parts of all given options that are not empty and do not begin with
`subdir=`, in order, and the one for the foreground. It selects the subpath and nothing else exactly
if the subpath holds no comma, and no part of these options begins with `subdir=`. -/
theorem subdirs_mountCommand_iff (hsubpath : s.subpath ≠ "") :
    (∀ script, s.mountCommand c = .ok script →
        ∃ front, script = front ++ " -o " ++ s.optionText) ∧
      s.keptOptions.flatMap (fields ',') <+: fields ',' s.optionText ∧
      "foreground" ∈ fields ',' s.optionText ∧
      (s.subdirs = ["subdir=" ++ s.subpath] ↔ ',' ∉ s.subpath.toList ∧
        ∀ o ∈ s.options, isSubdir o = false → ∀ p ∈ fields ',' o, isSubdir p = false) := by
  refine ⟨fun script h => exists_eq_append_optionText h, ?_, s.foreground_mem_fields,
    subdirs_eq_singleton_iff hsubpath⟩
  rw [fields_optionText_of_subpath hsubpath]
  exact List.prefix_append _ _

/-- A mount with options of two parts, and one that asks for another directory. -/
def tenantMount : MountSettings where
  isCe := true
  options := ["ro,writeback", "subdir=other", "", "cache-size=2048"]
  subpath := "team/pvc-1"
  mountPath := "/cfs/abcdef"

theorem subdirs_mountCommand_iff_tenantMount :
    tenantMount.subpath ≠ "" ∧
      tenantMount.subdirs = ["subdir=team/pvc-1"] ∧
      ["ro", "writeback", "cache-size=2048"] <+: fields ',' tenantMount.optionText := by
  have hsubpath : tenantMount.subpath ≠ "" := by decide
  obtain ⟨-, hkept, -, hsubdirs⟩ := subdirs_mountCommand_iff (c := {}) hsubpath
  have hparts : tenantMount.keptOptions.flatMap (fields ',') =
      ["ro", "writeback", "cache-size=2048"] := by rfl
  exact ⟨hsubpath, hsubdirs.mpr ⟨by decide, by decide⟩, hparts ▸ hkept⟩

/-- A mount with an option that asks for another directory behind a comma. -/
def intrudingMount : MountSettings where
  isCe := true
  options := ["ro,subdir=other"]
  subpath := "pvc-1"
  mountPath := "/cfs/abcdef"

/-- The other directory is asked for as well. -/
theorem subdirs_intrudingMount :
    intrudingMount.subpath ≠ "" ∧
      intrudingMount.mountCommand {} = .ok (joined "\n" [intrudingMount.makeLine,
        intrudingMount.mountFront {} ++ "ro,subdir=other,subdir=pvc-1,foreground"]) ∧
      intrudingMount.optionText = "ro,subdir=other,subdir=pvc-1,foreground" ∧
      fields ',' intrudingMount.optionText = ["ro", "subdir=other", "subdir=pvc-1", "foreground"] ∧
      intrudingMount.subdirs ≠ ["subdir=pvc-1"] := by
  have htext : intrudingMount.optionText = "ro,subdir=other,subdir=pvc-1,foreground" := by rfl
  have hparts : fields ',' intrudingMount.optionText =
      ["ro", "subdir=other", "subdir=pvc-1", "foreground"] := by
    rw [htext]
    rfl
  refine ⟨by decide, ?_, htext, hparts, ?_⟩
  · rw [← htext]
    exact mountCommand_eq_ok.mpr ⟨_, rfl, rfl⟩
  · rw [subdirs, hparts]
    decide

end MountSettings

end SubpathCsi
