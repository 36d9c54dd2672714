import SubpathCsi.Failure
import SubpathCsi.Proofs.Act.Trace
import SubpathCsi.Proofs.Shell.Flags
import SubpathCsi.Proofs.Shell.Plain
import SubpathCsi.Proofs.Text.Split
import SubpathCsi.Sidecar.Commands

/-!
# The mount command, as the shell reads it

The script of a sidecar makes the directory, lets an enterprise client authenticate, and in its last
line puts the mounting program in the place of the shell. All that comes from outside is quoted, but
for the mount options, which stand at the end as they are. A shell therefore reads the words of the
script as they were meant, up to the options; and these it reads as one word exactly if no character
of them means anything to the shell.

* `MountSettings.mountCommand_eq_ok`: the script, line by line;
* `MountSettings.read_mountCommand`: what the shell reads is fixed, up to the options;
* `MountSettings.lastLine_mountCommand_iff`: when the last line is the six words that were meant.
-/

namespace SubpathCsi

/-- The programs of the sidecar have paths of safe characters. -/
structure Config.HasBarePaths (c : Config) : Prop where
  /-- The program that mounts community filesystems. -/
  ceMount : Shell.IsBare c.ceMountPath
  /-- The program that mounts enterprise filesystems. -/
  eeMount : Shell.IsBare c.eeMountPath
  /-- The program by which clients authenticate. -/
  ceCli : Shell.IsBare c.ceCliPath

namespace MountSettings

variable {c : Config} {s : MountSettings} {script : String}

/-! ### The script -/

/-- The value of the argument `-o` of the mount command: the options that are not empty, with commas
between them. -/
def optionText (s : MountSettings) : String := joined "," (s.mountOptions.filter (!·.isEmpty))

/-- The program that mounts. -/
def mountProgram (c : Config) (s : MountSettings) : String :=
  if s.isCe then c.ceMountPath else c.eeMountPath

/-- What is mounted: the metadata server, which is known in the container only, or else the
filesystem by its name. -/
def mountTarget (s : MountSettings) : String :=
  if s.isCe then "$\x7bmetaurl\x7d" else Shell.quote s.name

/-- The line that makes the directory. -/
def makeLine (s : MountSettings) : String := "mkdir -p " ++ Shell.quote s.mountPath

/-- The line that mounts, up to the options. -/
def mountFront (c : Config) (s : MountSettings) : String :=
  "exec " ++ s.mountProgram c ++ " " ++ s.mountTarget ++ " " ++ Shell.quote s.mountPath ++ " -o "

/-- The lines before the one that mounts. -/
def linesBefore (c : Config) (s : MountSettings) : Except Failure (List String) :=
  if s.isCe then .ok [s.makeLine] else do return [s.makeLine, ← s.authCommand c]

/-- **The script**, line by line. -/
theorem mountCommand_eq (c : Config) (s : MountSettings) :
    s.mountCommand c = (s.linesBefore c).map fun lines =>
      joined "\n" (lines ++ [s.mountFront c ++ s.optionText]) := by
  rw [mountCommand, linesBefore, mountFront, mountProgram, mountTarget]
  cases s.isCe with
  | true =>
    have htext : "exec " ++ c.ceMountPath ++ " $\x7bmetaurl\x7d " ++ Shell.quote s.mountPath ++
        " -o " ++ s.optionText = "exec " ++ c.ceMountPath ++ " " ++ "$\x7bmetaurl\x7d" ++ " " ++
        Shell.quote s.mountPath ++ " -o " ++ s.optionText := by
      rw [← String.toList_inj]
      simp
    exact congrArg (fun line => Except.ok (joined "\n" [s.makeLine, line])) htext
  | false => cases s.authCommand c <;> rfl

theorem mountCommand_eq_ok :
    s.mountCommand c = .ok script ↔ ∃ lines, s.linesBefore c = .ok lines ∧
      script = joined "\n" (lines ++ [s.mountFront c ++ s.optionText]) := by
  rw [mountCommand_eq]
  cases s.linesBefore c with
  | error f => simp [Except.map]
  | ok lines => simp [Except.map, eq_comm]

/-- There is a script unless the client has to authenticate and the format options cannot be
read. -/
def IsMountable (s : MountSettings) : Prop :=
  s.isCe = true ∨ ∃ options, FormatOptions.parse s.formatOptions = .ok options

theorem exists_linesBefore_iff : (∃ lines, s.linesBefore c = .ok lines) ↔ s.IsMountable := by
  rw [linesBefore, IsMountable]
  cases s.isCe with
  | true => simp
  | false =>
    rw [authCommand]
    cases FormatOptions.parse s.formatOptions with
    | error f =>
      constructor
      · rintro ⟨lines, h⟩
        cases h
      · rintro (h | ⟨options, h⟩) <;> cases h
    | ok options => exact ⟨fun _ => .inr ⟨options, rfl⟩, fun _ => ⟨_, rfl⟩⟩

/-! ### Lines before the last -/

/-- Every credential has the name of a parameter for its key. -/
theorem isName_of_mem_keys (s : MountSettings) :
    ∀ key ∈ Keyed.keys s.credentials, Shell.isName key.toList = true := by
  intro key hkey
  have hnames : ∀ k ∈ ["token", "secretkey", "secretkey2", "passphrase"],
      Shell.isName k.toList = true := by decide
  refine hnames key ?_
  obtain ⟨p, hp, rfl⟩ := List.mem_map.mp hkey
  exact List.mem_map_of_mem (f := Prod.fst) (List.mem_filter.mp hp).1

/-- The line that makes the directory is read to its end. -/
theorem steps_makeLine (s : MountSettings) :
    Shell.Steps {} (s.makeLine.toList ++ ['\n'])
      ([Shell.literal "mkdir", Shell.literal "-p", Shell.literal s.mountPath].map .word ++
        [.newline]) {} := by
  have htext : s.makeLine = joined " " ["mkdir", "-p", Shell.quote s.mountPath] := by
    rw [← String.toList_inj, makeLine]
    simp [joined, Text.join]
  rw [htext]
  refine Shell.steps_joined (List.cons_ne_nil _ _) (.cons ?_ (.cons ?_ (.cons ?_ .nil)))
  · exact Shell.readsWord_of_isBare (by decide)
  · exact Shell.readsWord_of_isBare (by decide)
  · exact Shell.readsWord_quote s.mountPath

/-- The options of the line that authenticates the client, the credentials last. -/
def authOptions (s : MountSettings) (parsed : List (String × String)) : List (String × String) :=
  parsed ++ s.credentials.mergeSort fun a b => !(b.1 < a.1)

/-- The line that authenticates the client is read to its end as well: one word for each option. -/
theorem steps_authCommand (hc : c.HasBarePaths) {auth : String} (h : s.authCommand c = .ok auth) :
    ∃ parsed, FormatOptions.parse s.formatOptions = .ok parsed ∧
      Shell.Steps {} (auth.toList ++ ['\n'])
        (([Shell.literal c.ceCliPath, Shell.literal "auth", Shell.literal s.name] ++
          (s.authOptions parsed).map (Shell.flagWord (Keyed.keys s.credentials))).map .word ++
            [.newline]) {} := by
  obtain ⟨parsed, hparsed, hauth⟩ := bind_eq_ok.mp h
  cases hauth
  have hflags := Shell.readsWord_flags s.isName_of_mem_keys (s.authOptions parsed)
  refine ⟨parsed, hparsed, Shell.steps_joined (List.cons_ne_nil _ _)
    (.cons ?_ (.cons ?_ (.cons ?_ hflags)))⟩
  · exact Shell.readsWord_of_isBare hc.ceCli
  · exact Shell.readsWord_of_isBare (by decide)
  · exact Shell.readsWord_quote s.name

theorem steps_linesBefore (hc : c.HasBarePaths) {lines : List String}
    (h : s.linesBefore c = .ok lines) :
    ∃ ts, Shell.Steps {} (lines.flatMap fun l => l.toList ++ ['\n']) (ts ++ [.newline]) {} := by
  have hmake := s.steps_makeLine
  rw [linesBefore] at h
  split at h
  · cases h
    refine Shell.steps_lines (List.cons_ne_nil _ _) ?_
    simpa using ⟨_, hmake⟩
  · obtain ⟨auth, hauth, hlines⟩ := bind_eq_ok.mp h
    cases hlines
    obtain ⟨parsed, -, hsteps⟩ := steps_authCommand hc hauth
    refine Shell.steps_lines (List.cons_ne_nil _ _) ?_
    simpa using ⟨⟨_, hmake⟩, ⟨_, hsteps⟩⟩

/-! ### The last line -/

/-- The words of the last line before the options, as they are meant. -/
def frontWords (c : Config) (s : MountSettings) : List Shell.Word :=
  [Shell.literal "exec", Shell.literal (s.mountProgram c),
    if s.isCe then [.param false "metaurl"] else Shell.literal s.name,
    Shell.literal s.mountPath, Shell.literal "-o"]

/-- The words of the last line, as they are meant: the mounting program in the place of the shell,
what it mounts, where, and the options. -/
def mountWords (c : Config) (s : MountSettings) : List Shell.Word :=
  s.frontWords c ++ [Shell.literal s.optionText]

theorem readsWord_mountTarget (s : MountSettings) :
    Shell.ReadsWord s.mountTarget.toList
      (if s.isCe then [.param false "metaurl"] else Shell.literal s.name) := by
  rw [mountTarget]
  split
  · have hname : Shell.isName "metaurl".toList = true := by decide
    have htext : "$\x7bmetaurl\x7d" = "$\x7b" ++ "metaurl" ++ "\x7d" := by decide
    rw [htext]
    exact Shell.readsWord_param hname
  · exact Shell.readsWord_quote s.name

theorem steps_mountFront (hc : c.HasBarePaths) :
    Shell.Steps {} (s.mountFront c).toList ((s.frontWords c).map .word) {} := by
  have htext : (s.mountFront c).toList = ["exec", s.mountProgram c, s.mountTarget,
      Shell.quote s.mountPath, "-o"].flatMap fun p => p.toList ++ [' '] := by
    simp [mountFront]
  have hprogram : Shell.IsBare (s.mountProgram c) := by
    rw [mountProgram]
    split
    · exact hc.ceMount
    · exact hc.eeMount
  rw [htext]
  refine Shell.steps_blanks (.cons ?_ (.cons ?_ (.cons ?_ (.cons ?_ (.cons ?_ .nil)))))
  · exact Shell.readsWord_of_isBare (by decide)
  · exact Shell.readsWord_of_isBare hprogram
  · exact s.readsWord_mountTarget
  · exact Shell.readsWord_quote s.mountPath
  · exact Shell.readsWord_of_isBare (by decide)

/-- **What the shell reads.** Up to the options the tokens are those that were meant, whatever the
settings are; then the options are read by themselves. -/
theorem read_mountCommand (hc : c.HasBarePaths) (h : s.mountCommand c = .ok script) :
    ∃ front, Shell.read script = (Shell.read s.optionText).map fun more =>
      front ++ .newline :: ((s.frontWords c).map .word ++ more) := by
  obtain ⟨lines, hlines, rfl⟩ := mountCommand_eq_ok.mp h
  obtain ⟨front, hfront⟩ := steps_linesBefore hc hlines
  refine ⟨front, ?_⟩
  have hsteps := hfront.trans (steps_mountFront (s := s) hc)
  rw [Shell.read, Shell.toList_joined_lines, String.toList_append, ← List.append_assoc, hsteps,
    Shell.read]
  simp

/-- The options at the subpath, if there is one. -/
def placedOptions (s : MountSettings) : List String :=
  if s.subpath.isEmpty then s.options
  else s.options.filter (!beginsWith "subdir=" ·) ++ ["subdir=" ++ s.subpath]

/-- The option by which the mount is in the foreground, if it is not given. -/
def foregroundOptions (s : MountSettings) : List String :=
  if s.placedOptions.contains "foreground" then [] else ["foreground"]

theorem mountOptions_eq (s : MountSettings) :
    s.mountOptions = s.placedOptions ++ s.foregroundOptions := by
  change (if s.placedOptions.contains "foreground" then s.placedOptions
    else s.placedOptions ++ ["foreground"]) = _
  rw [foregroundOptions]
  split <;> simp

/-- The filesystem is mounted in the foreground. -/
theorem foreground_mem_mountOptions (s : MountSettings) : "foreground" ∈ s.mountOptions := by
  rw [mountOptions_eq, foregroundOptions]
  split
  · next h => exact List.mem_append_left _ (List.contains_iff_mem.mp h)
  · exact List.mem_append_right _ (List.mem_singleton_self _)

theorem foreground_mem_filter (s : MountSettings) :
    "foreground" ∈ s.mountOptions.filter (!·.isEmpty) :=
  List.mem_filter.mpr ⟨s.foreground_mem_mountOptions, by decide⟩

/-- The text of the options, cut at the commas: the parts of each option. -/
theorem fields_optionText (s : MountSettings) :
    fields ',' s.optionText = (s.mountOptions.filter (!·.isEmpty)).flatMap (fields ',') :=
  fields_joined (by decide) (List.ne_nil_of_mem s.foreground_mem_filter)

theorem foreground_mem_fields (s : MountSettings) :
    "foreground" ∈ fields ',' s.optionText := by
  have hfields : "foreground" ∈ fields ',' "foreground" := by decide
  rw [fields_optionText]
  exact List.mem_flatMap.mpr ⟨_, s.foreground_mem_filter, hfields⟩

theorem toList_optionText_ne_nil (s : MountSettings) : s.optionText.toList ≠ [] := by
  intro h
  have hmem := s.foreground_mem_fields
  rw [fields, h] at hmem
  exact absurd hmem (by decide)

/-- **The mount command is safe** if nothing in the options means anything to the shell, and only
then. With safe paths, there is a script unless format options that are needed cannot be read, and
its last line is the six words that were meant: exactly if the options, which are not quoted, need
no quotes. -/
theorem lastLine_mountCommand_iff (hc : c.HasBarePaths) :
    (∃ script, s.mountCommand c = .ok script ∧
        Shell.lastLine script = some ((s.mountWords c).map .word)) ↔
      s.IsMountable ∧ Shell.IsPlainText s.optionText := by
  have hline : Shell.Token.newline ∉ (s.frontWords c).map Shell.Token.word := by simp
  have hheld : 0 < Shell.held ((s.frontWords c).map Shell.Token.word) := by
    have hexec : (Shell.literal "exec").held = 4 := by decide
    rw [frontWords, List.map_cons, Shell.held_cons, Shell.Token.held, hexec]
    omega
  -- what the last line is hinges on how the options are read
  have hlast : ∀ script, s.mountCommand c = .ok script →
      (Shell.lastLine script = some ((s.mountWords c).map .word) ↔
        Shell.IsPlainText s.optionText) := by
    intro script hscript
    obtain ⟨front, hread⟩ := read_mountCommand hc hscript
    rw [← Shell.read_eq_literal_iff s.toList_optionText_ne_nil, Shell.lastLine, hread, mountWords,
      List.map_append, List.map_singleton]
    cases hmore : Shell.read s.optionText with
    | none => simp
    | some more =>
      have hle : Shell.held more ≤ s.optionText.toList.length := by
        simpa [Shell.State.held] using Shell.held_readFrom hmore
      have hiff := Shell.lastOf_eq_literal_iff front hline hheld hle
      rw [Option.map_some, Option.map_some, Option.some_inj, Option.some_inj]
      exact hiff
  constructor
  · rintro ⟨script, hscript, hwords⟩
    obtain ⟨lines, hlines, -⟩ := mountCommand_eq_ok.mp hscript
    exact ⟨exists_linesBefore_iff.mp ⟨lines, hlines⟩, (hlast script hscript).mp hwords⟩
  · rintro ⟨hmountable, hplain⟩
    obtain ⟨lines, hlines⟩ := exists_linesBefore_iff (c := c).mpr hmountable
    have hscript := mountCommand_eq_ok.mpr ⟨lines, hlines, rfl⟩
    exact ⟨_, hscript, (hlast _ hscript).mpr hplain⟩

/-- A mount of an enterprise filesystem. Its name and its place need quotes; its options do not. -/
def enterpriseMount : MountSettings where
  name := "team fs"
  formatOptions := "bucket=https://b, compress"
  token := "secret"
  options := ["writeback", "", "cache-size=2048"]
  subpath := "pvc-1"
  mountPath := "/cfs/it's"

theorem lastLine_mountCommand_iff_enterpriseMount :
    Config.HasBarePaths {} ∧ ∃ script, enterpriseMount.mountCommand {} = .ok script ∧
      Shell.lastLine script = some ((enterpriseMount.mountWords {}).map .word) := by
  have hpaths : Config.HasBarePaths {} := ⟨by decide, by decide, by decide⟩
  have hmountable : enterpriseMount.IsMountable := .inr ⟨_, rfl⟩
  have htext : enterpriseMount.optionText =
      "writeback,cache-size=2048,subdir=pvc-1,foreground" := by rfl
  have hplain : Shell.IsPlainText enterpriseMount.optionText := by
    rw [htext]
    decide
  exact ⟨hpaths, (lastLine_mountCommand_iff hpaths).mpr ⟨hmountable, hplain⟩⟩

/-- A mount at a subpath that holds an operator of the shell. -/
def rebootingMount : MountSettings where
  isCe := true
  subpath := "team;reboot"
  mountPath := "/cfs/abcdef"

/-- The subpath ends the mount command, and a second command follows. -/
theorem lastLine_rebootingMount :
    Config.HasBarePaths {} ∧ ∃ script, rebootingMount.mountCommand {} = .ok script ∧
      Shell.lastLine script = some ((rebootingMount.frontWords {}).map .word ++
        [.word (Shell.literal "subdir=team"), .operator ";",
          .word (Shell.literal "reboot,foreground")]) ∧
      Shell.lastLine script ≠ some ((rebootingMount.mountWords {}).map .word) := by
  have hpaths : Config.HasBarePaths {} := ⟨by decide, by decide, by decide⟩
  have hscript : rebootingMount.mountCommand {} = .ok _ := mountCommand_eq_ok.mpr ⟨_, rfl, rfl⟩
  obtain ⟨front, hread⟩ := read_mountCommand hpaths hscript
  have hoptions : Shell.read rebootingMount.optionText = some [.word (Shell.literal "subdir=team"),
      .operator ";", .word (Shell.literal "reboot,foreground")] := by rfl
  rw [hoptions, Option.map_some] at hread
  have hlast := congrArg (Option.map Shell.lastOf) hread
  rw [Option.map_some, Shell.lastOf_of_notMem front (by simp)] at hlast
  refine ⟨hpaths, _, hscript, hlast, fun hwords => ?_⟩
  -- there are more words than the six
  have hsame := Option.some_inj.mp (hlast.symm.trans hwords)
  simp [mountWords] at hsame

end MountSettings

end SubpathCsi
