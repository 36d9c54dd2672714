import SubpathCsi.Proofs.Pod.Rejection
import SubpathCsi.Proofs.Sidecar.MountCommand

/-!
# The command after the start, as the shell reads it

After the start of a sidecar a script waits for the mount and sets the quota. What it has to know is
put before it on its line, as variables of its environment: a name, an equals sign, and a text in
quotes, which together are one word. So whatever the texts are, the shell reads the words that were
meant, and then that what the script writes goes to the log of the container.

* `MountSettings.hookWords`, `MountSettings.hookTokens`: the line, as it is meant;
* `MountSettings.read_checkMountLine`: what the shell reads;
* `MountSettings.begins_checkMountLine`: what it reads first, wherever the script is;
* `MountSettings.exists_buildFor_iff`: when there is a sidecar at all;
* `MountSettings.read_postStartCommand_iff`: both together.
-/

namespace SubpathCsi

namespace MountSettings

variable {c : Config} {s : MountSettings} {capacity : Int}

/-! ### The line as it is meant -/

/-- The words of the line before the redirection: what the script has to know, the script, and where
the filesystem is mounted. -/
def hookWords (c : Config) (s : MountSettings) (capacity : Int) : List String :=
  ["time", "subpath=" ++ s.subpath, "name=" ++ s.name, "capacity=" ++ toString capacity,
    "community=" ++ (if s.isCe then "ce" else "ee"), "quotaPath=" ++ s.quotaPath,
    c.checkMountScriptPath, s.mountPath]

/-- The tokens of the line: its words, and what is written is appended to the log of the container. -/
def hookTokens (c : Config) (s : MountSettings) (capacity : Int) : List Shell.Token :=
  (s.hookWords c capacity).map (fun text => .word (Shell.literal text)) ++
    [.operator ">>", .word (Shell.literal "/proc/1/fd/1")]

/-! ### The line as it is read -/

/-- The decimal text of a number needs no quotes. -/
theorem isSafe_of_mem_toString {n : Nat} : ∀ x ∈ (toString n).toList, Shell.isSafe x = true := by
  intro x hx
  have hmem : x ∈ Nat.toDigits 10 n := by simpa using hx
  have hdigit := Nat.isDigit_of_mem_toDigits (by decide) (by decide) hmem
  rw [Shell.isSafe, Char.isAlphanum, hdigit, Bool.or_true]
  rfl

/-- Nor does that of an integer. -/
theorem isBare_capacity (capacity : Int) : Shell.IsBare ("capacity=" ++ toString capacity) := by
  have hdigits : ∀ x ∈ (toString capacity).toList, Shell.isSafe x = true := by
    cases capacity with
    | ofNat n => exact isSafe_of_mem_toString
    | negSucc n =>
      have htext : toString (Int.negSucc n) = "-" ++ toString (n + 1) := rfl
      rw [htext, String.toList_append]
      exact List.forall_mem_append.mpr ⟨(by decide : Shell.IsBare "-").2, isSafe_of_mem_toString⟩
  constructor
  · simp
  · rw [String.toList_append]
    exact List.forall_mem_append.mpr ⟨(by decide : Shell.IsBare "capacity=").2, hdigits⟩

/-- The words of the line before the redirection, as they are written. -/
def hookParts (c : Config) (s : MountSettings) (capacity : Int) : List String :=
  ["time", "subpath=" ++ Shell.quote s.subpath, "name=" ++ Shell.quote s.name,
    "capacity=" ++ toString capacity, "community=" ++ s.community,
    "quotaPath=" ++ Shell.quote s.quotaPath, c.checkMountScriptPath, Shell.quote s.mountPath]

theorem toList_checkMountLine (c : Config) (s : MountSettings) (capacity : Int) :
    (s.checkMountLine c capacity).toList =
      ((s.hookParts c capacity).flatMap fun p => p.toList ++ [' ']) ++
        ">> /proc/1/fd/1".toList := by
  unfold checkMountLine hookParts
  -- what these two texts are made of plays no part
  generalize toString capacity = size
  generalize c.checkMountScriptPath = script
  simp

/-- Each part is one word: a name with an equals sign goes on with the text in quotes after it. -/
theorem readsWord_hookParts (hpath : Shell.IsBare c.checkMountScriptPath) :
    List.Forall₂ (fun p w => Shell.ReadsWord p.toList w) (s.hookParts c capacity)
      ((s.hookWords c capacity).map Shell.literal) := by
  rw [hookParts, hookWords, List.forall₂_map_right_iff]
  refine .cons ?_ (.cons ?_ (.cons ?_ (.cons ?_ (.cons ?_ (.cons ?_ (.cons ?_ (.cons ?_ .nil)))))))
  · exact Shell.readsWord_of_isBare (by decide)
  · exact Shell.readsWord_bare_quote (s := "subpath=") (by decide) s.subpath
  · exact Shell.readsWord_bare_quote (s := "name=") (by decide) s.name
  · exact Shell.readsWord_of_isBare (isBare_capacity capacity)
  · rw [community]
    split <;> exact Shell.readsWord_of_isBare (by decide)
  · exact Shell.readsWord_bare_quote (s := "quotaPath=") (by decide) s.quotaPath
  · exact Shell.readsWord_of_isBare hpath
  · exact Shell.readsWord_quote s.mountPath

/-- **What the shell reads.** With a script in a safe place, whatever the texts are, the tokens of
the line are those that were meant. -/
theorem read_checkMountLine (hpath : Shell.IsBare c.checkMountScriptPath) :
    Shell.read (s.checkMountLine c capacity) = some (s.hookTokens c capacity) := by
  have hend : Shell.readFrom {} ">> /proc/1/fd/1".toList =
      some [.operator ">>", .word (Shell.literal "/proc/1/fd/1")] := by rfl
  rw [Shell.read, toList_checkMountLine, Shell.steps_blanks (readsWord_hookParts hpath), hend,
    hookTokens, List.map_map]
  rfl

/-- Wherever the script is, the first words of the line are the subpath, the name and the capacity. -/
theorem begins_checkMountLine (c : Config) (s : MountSettings) (capacity : Int) :
    Shell.Begins (s.checkMountLine c capacity) ["time", "subpath=" ++ s.subpath, "name=" ++ s.name,
      "capacity=" ++ toString capacity] := by
  refine Shell.begins_of_readsWord ((s.hookParts c capacity).take 4)
    (((s.hookParts c capacity).drop 4).flatMap (fun p => p.toList ++ [' ']) ++
      ">> /proc/1/fd/1".toList) ?_ ?_
  · rw [toList_checkMountLine, ← List.append_assoc, ← List.flatMap_append, List.take_append_drop]
  · refine .cons ?_ (.cons ?_ (.cons ?_ (.cons ?_ .nil)))
    · exact Shell.readsWord_of_isBare (by decide)
    · exact Shell.readsWord_bare_quote (s := "subpath=") (by decide) s.subpath
    · exact Shell.readsWord_bare_quote (s := "name=") (by decide) s.name
    · exact Shell.readsWord_of_isBare (isBare_capacity capacity)

/-! ### Sidecars with the command -/

theorem checkWritable_eq_ok {u : Unit} :
    checkWritable capacity = .ok u ↔ Integer.isWritable capacity = true := by
  rw [checkWritable]
  cases Integer.isWritable capacity with
  | true => exact iff_of_true rfl rfl
  | false => constructor <;> intro h <;> cases h

/-- There is a sidecar if there is a mount command for it, and its size can be written. -/
theorem exists_buildFor_iff (volumeName : Json) :
    (∃ sidecar, Sidecar.buildFor c s capacity volumeName = .ok sidecar ∧
        sidecar.postStart = s.postStartCommand c capacity) ↔
      s.IsMountable ∧ Integer.isWritable capacity = true := by
  rw [← exists_linesBefore_iff (c := c)]
  constructor
  · rintro ⟨sidecar, h, -⟩
    obtain ⟨script, hscript, h⟩ := bind_eq_ok.mp h
    obtain ⟨_, hcheck, -⟩ := bind_eq_ok.mp h
    obtain ⟨lines, hlines, -⟩ := mountCommand_eq_ok.mp hscript
    exact ⟨⟨lines, hlines⟩, checkWritable_eq_ok.mp hcheck⟩
  · rintro ⟨⟨lines, hlines⟩, hcapacity⟩
    have hscript := mountCommand_eq_ok.mpr ⟨lines, hlines, rfl⟩
    have hcheck : checkWritable capacity = .ok () := checkWritable_eq_ok.mpr hcapacity
    exact ⟨_, bind_eq_ok.mpr ⟨_, hscript, bind_eq_ok.mpr ⟨(), hcheck, rfl⟩⟩, rfl⟩

/-- **The command after the start.** Outside of tests, and with the script in a safe place, it is one
line for `bash`, which reads the eight words that were meant and a redirection that appends to the
log, whatever the settings are. A sidecar has it exactly if it has a mount command and a size whose
text has no more digits than a text may have. -/
theorem read_postStartCommand_iff (htest : c.testMode = false)
    (hpath : Shell.IsBare c.checkMountScriptPath) (s : MountSettings) (capacity : Int) :
    (∃ line, s.postStartCommand c capacity = ["bash", "-c", line] ∧
      Shell.read line = some (s.hookTokens c capacity)) ∧
    ∀ volumeName, (∃ sidecar, Sidecar.buildFor c s capacity volumeName = .ok sidecar ∧
        sidecar.postStart = s.postStartCommand c capacity) ↔
      s.IsMountable ∧ Integer.isWritable capacity = true := by
  refine ⟨⟨s.checkMountLine c capacity, ?_, read_checkMountLine hpath⟩, exists_buildFor_iff⟩
  rw [postStartCommand, htest]
  rfl

theorem read_postStartCommand_iff_enterpriseMount :
    ({} : Config).testMode = false ∧ Shell.IsBare (Config.checkMountScriptPath {}) ∧
    ∃ line, enterpriseMount.postStartCommand {} 20 = ["bash", "-c", line] ∧
      Shell.read line = some (["time", "subpath=pvc-1", "name=team fs", "capacity=20",
        "community=ee", "quotaPath=pvc-1", "/usr/local/bin/check_mount.sh", "/cfs/it's"].map
          (fun text => .word (Shell.literal text)) ++
        [.operator ">>", .word (Shell.literal "/proc/1/fd/1")]) ∧
      ∃ sidecar, Sidecar.buildFor {} enterpriseMount 20 (.str "data") = .ok sidecar ∧
        sidecar.postStart = ["bash", "-c", line] := by
  have hpath : Shell.IsBare (Config.checkMountScriptPath {}) := by decide
  have hwritable : Integer.isWritable 20 = true := by decide +kernel
  obtain ⟨⟨line, hcommand, hread⟩, hiff⟩ :=
    read_postStartCommand_iff (c := {}) rfl hpath enterpriseMount 20
  obtain ⟨sidecar, hbuilt, hpost⟩ := (hiff (.str "data")).mpr ⟨.inr ⟨_, rfl⟩, hwritable⟩
  exact ⟨rfl, hpath, line, hcommand, hread, sidecar, hbuilt, hpost.trans hcommand⟩

/-- A size that has too many digits. -/
def unwritableCapacity : Int := 10 ^ 4300

/-- A sidecar for which the size cannot be written has no command after the start, for it is not
built. -/
theorem buildFor_unwritableCapacity :
    ({} : Config).testMode = false ∧ Shell.IsBare (Config.checkMountScriptPath {}) ∧
    ∀ volumeName, Sidecar.buildFor {} rebootingMount unwritableCapacity volumeName =
      .error (.defect (.badValue Integer.unwritableMessage)) := by
  have hunwritable : Integer.isWritable unwritableCapacity = false := by decide +kernel
  refine ⟨rfl, by decide, fun volumeName => ?_⟩
  cases hbuilt : Sidecar.buildFor {} rebootingMount unwritableCapacity volumeName with
  | ok sidecar =>
    have hpost := (Sidecar.parts_of_buildFor hbuilt).2.1
    have hwritable := ((exists_buildFor_iff volumeName).mp ⟨sidecar, hbuilt, hpost⟩).2
    rw [hunwritable] at hwritable
    cases hwritable
  | error f => exact congrArg _ (Sidecar.buildFor_eq_error rfl hbuilt).2

end MountSettings

end SubpathCsi
