import SubpathCsi.Proofs.Shell.Expansion
import SubpathCsi.Proofs.Sidecar.Credentials

/-!
# The arguments of the client

Before an enterprise filesystem is mounted, its client authenticates. On its line the name and the
format options are quoted, so that each of them is one argument, whatever it is. The credentials are
not on the line: a parameter stands for each, and the shell puts the value in from the environment.
The parameter is not quoted, so the shell cuts the value at its blanks.

* `MountSettings.read_authCommand`: the words of the line;
* `MountSettings.arguments_authCommand`: the arguments that they come to;
* `MountSettings.arguments_authCommand_iff`: when every credential arrives as one argument.
-/

namespace SubpathCsi

namespace MountSettings

variable {c : Config} {s : MountSettings} {parsed : List (String × String)} {env : String → String}

/-- The credentials in the order of their keys. -/
def sortedCredentials (s : MountSettings) : Keyed String :=
  s.credentials.mergeSort fun a b => !(b.1 < a.1)

theorem mem_sortedCredentials {p : String × String} :
    p ∈ s.sortedCredentials ↔ p ∈ s.credentials := List.mem_mergeSort

/-- What stands before the value of a credential. -/
def credentialStart (key : String) : String := "--" ++ key ++ "="

theorem credentialStart_ne_empty (key : String) : credentialStart key ≠ "" := by
  rw [credentialStart, ← String.toList_inj.ne]
  simp

/-- The words of the line: the program, the name, the format options and the credentials. -/
theorem read_authCommand (hcli : Shell.IsBare c.ceCliPath)
    (hparsed : FormatOptions.parse s.formatOptions = .ok parsed) :
    ∃ line, s.authCommand c = .ok line ∧
      Shell.read line = some (([Shell.literal c.ceCliPath, Shell.literal "auth",
        Shell.literal s.name] ++ (s.authOptions parsed).map
          (Shell.flagWord (Keyed.keys s.credentials))).map .word) := by
  have hflags := Shell.readsWord_flags s.isName_of_mem_keys (s.authOptions parsed)
  refine ⟨_, authCommand_eq_ok hparsed, ?_⟩
  rw [← joined_authArguments]
  refine Shell.read_joined (List.cons_ne_nil _ _) (.cons ?_ (.cons ?_ (.cons ?_ hflags)))
  · exact Shell.readsWord_of_isBare hcli
  · exact Shell.readsWord_of_isBare (by decide)
  · exact Shell.readsWord_quote s.name

/-- A format option is one argument, if its key is not that of a credential. -/
theorem fields_flagWord_of_notMem {keys : List String} {option : String × String}
    (hkey : option.1 ∉ keys) :
    (Shell.flagWord keys option).fields env = [Shell.flagText option] := by
  have hshown : ¬(!option.2.isEmpty && keys.contains option.1) = true := by simp [hkey]
  rw [Shell.flagWord, if_neg hshown]
  exact Shell.fields_literal env _

/-- A credential is what its value comes to. -/
theorem fields_flagWord_of_mem {p : String × String} (hp : p ∈ s.credentials)
    (henv : env p.1 = p.2) :
    (Shell.flagWord (Keyed.keys s.credentials) p).fields env =
      Shell.paramFields (credentialStart p.1) p.2 := by
  have hvalue : (!p.2.isEmpty) = true := (List.mem_filter.mp hp).2
  have hkey : (Keyed.keys s.credentials).contains p.1 = true :=
    List.contains_iff_mem.mpr (List.mem_map_of_mem hp)
  rw [Shell.flagWord, if_pos (Bool.and_eq_true_iff.mpr ⟨hvalue, hkey⟩), ← henv]
  exact Shell.fields_param (credentialStart_ne_empty p.1) env p.1

/-- **The arguments** of the client: the credentials come last, each as what is left of its value
between the blanks. -/
theorem arguments_authCommand (hcli : Shell.IsBare c.ceCliPath)
    (hparsed : FormatOptions.parse s.formatOptions = .ok parsed)
    (hkeys : ∀ o ∈ parsed, o.1 ∉ Keyed.keys s.credentials)
    (henv : ∀ p ∈ s.credentials, env p.1 = p.2) :
    ∃ line, s.authCommand c = .ok line ∧
      Shell.arguments env line = some ([c.ceCliPath, "auth", s.name] ++
        parsed.map Shell.flagText ++
        s.sortedCredentials.flatMap fun p => Shell.paramFields (credentialStart p.1) p.2) := by
  obtain ⟨line, hline, hread⟩ := read_authCommand hcli hparsed
  refine ⟨line, hline, (Shell.arguments_of_read hread).trans (congrArg some ?_)⟩
  have hfront : [Shell.literal c.ceCliPath, Shell.literal "auth", Shell.literal s.name].flatMap
      (Shell.Word.fields env) = [c.ceCliPath, "auth", s.name] := by
    simp [Shell.fields_literal]
  have hoptions : (parsed.flatMap fun o =>
      (Shell.flagWord (Keyed.keys s.credentials) o).fields env) = parsed.map Shell.flagText := by
    rw [List.map_eq_flatMap]
    exact List.flatMap_congr fun o ho => fields_flagWord_of_notMem (hkeys o ho)
  have hcredentials : (s.sortedCredentials.flatMap fun p =>
      (Shell.flagWord (Keyed.keys s.credentials) p).fields env) =
        s.sortedCredentials.flatMap fun p => Shell.paramFields (credentialStart p.1) p.2 := by
    refine List.flatMap_congr fun p hp => ?_
    have hmem := mem_sortedCredentials.mp hp
    exact fields_flagWord_of_mem hmem (henv p hmem)
  rw [List.flatMap_append, hfront, List.flatMap_map, authOptions, List.flatMap_append, hoptions,
    ← List.append_assoc]
  exact congrArg ([c.ceCliPath, "auth", s.name] ++ parsed.map Shell.flagText ++ ·) hcredentials

/-- **Credentials as arguments.** Run where every credential is in the environment, the line by
which a client authenticates gives the program its own name, `auth`, the name of the filesystem, one
argument for each format option in order and one for each credential in the order of the keys,
exactly if no credential holds a space, a tab or a line feed. -/
theorem arguments_authCommand_iff (hcli : Shell.IsBare c.ceCliPath)
    (hparsed : FormatOptions.parse s.formatOptions = .ok parsed)
    (hkeys : ∀ o ∈ parsed, o.1 ∉ Keyed.keys s.credentials)
    (henv : ∀ p ∈ s.credentials, env p.1 = p.2) :
    ∃ line, s.authCommand c = .ok line ∧
      (Shell.arguments env line = some ([c.ceCliPath, "auth", s.name] ++
          parsed.map Shell.flagText ++
          s.sortedCredentials.map fun p => "--" ++ p.1 ++ "=" ++ p.2) ↔
        ∀ p ∈ s.credentials, ∀ x ∈ p.2.toList, x ∉ [' ', '\t', '\n']) := by
  obtain ⟨line, hline, harguments⟩ := arguments_authCommand hcli hparsed hkeys henv
  have hgap : ∀ x : Char, Shell.isGap x = false ↔ x ∉ [' ', '\t', '\n'] := by
    intro x
    simp [Shell.isGap, and_assoc]
  have hvalues := Shell.flatMap_paramFields_eq_iff s.sortedCredentials
    (fun p => credentialStart p.1) Prod.snd
  refine ⟨line, hline, ?_⟩
  rw [harguments, Option.some_inj, List.append_right_inj]
  refine hvalues.trans ?_
  simp only [mem_sortedCredentials, hgap]

/-- A mount of an enterprise filesystem with two credentials of other characters. -/
def vaultMount : MountSettings where
  name := "team fs"
  formatOptions := "bucket=https://b c, compress"
  token := "$(id)*"
  passphrase := "it's"

/-- The environment of a sidecar of the mount. -/
def vaultEnvironment (name : String) : String :=
  if name = "token" then "$(id)*" else if name = "passphrase" then "it's" else ""

theorem arguments_authCommand_iff_vaultMount :
    Shell.IsBare (Config.ceCliPath {}) ∧
      FormatOptions.parse vaultMount.formatOptions =
        .ok [("bucket", "https://b c"), ("compress", "")] ∧
      (∀ p ∈ vaultMount.credentials, vaultEnvironment p.1 = p.2) ∧
      ∃ line, vaultMount.authCommand {} = .ok line ∧
        Shell.arguments vaultEnvironment line = some (["/usr/local/bin/cfs", "auth", "team fs",
          "--bucket=https://b c", "--compress"] ++
            vaultMount.sortedCredentials.map fun p => "--" ++ p.1 ++ "=" ++ p.2) := by
  have hcli : Shell.IsBare (Config.ceCliPath {}) := by decide
  have hparsed : FormatOptions.parse vaultMount.formatOptions =
      .ok [("bucket", "https://b c"), ("compress", "")] := by rfl
  have henv : ∀ p ∈ vaultMount.credentials, vaultEnvironment p.1 = p.2 := by decide
  have hkeys : ∀ o ∈ [("bucket", "https://b c"), ("compress", "")],
      o.1 ∉ Keyed.keys vaultMount.credentials := by decide
  have hgaps : vaultMount.credentials.all
      (fun p => p.2.toList.all fun x => x ∉ [' ', '\t', '\n']) = true := by decide
  obtain ⟨line, hline, hiff⟩ := arguments_authCommand_iff hcli hparsed hkeys henv
  simp only [List.all_eq_true, decide_eq_true_eq] at hgaps
  exact ⟨hcli, hparsed, henv, line, hline, hiff.mpr hgaps⟩

/-- A mount of an enterprise filesystem with a passphrase of two words. -/
def phraseMount : MountSettings where
  name := "data"
  passphrase := "correct horse"
  mountPath := "/cfs/abcdef"

/-- The environment of a sidecar of the mount. -/
def phraseEnvironment (name : String) : String :=
  if name = "passphrase" then "correct horse" else ""

/-- The passphrase arrives as two arguments. -/
theorem arguments_phraseMount :
    phraseMount.authCommand {} =
        .ok "/usr/local/bin/cfs auth data --passphrase=$\x7bpassphrase\x7d" ∧
      FormatOptions.parse phraseMount.formatOptions = .ok [] ∧
      phraseMount.credentials = [("passphrase", "correct horse")] ∧
      (∀ p ∈ phraseMount.credentials, phraseEnvironment p.1 = p.2) ∧
      Shell.arguments phraseEnvironment
          "/usr/local/bin/cfs auth data --passphrase=$\x7bpassphrase\x7d" =
        some ["/usr/local/bin/cfs", "auth", "data", "--passphrase=correct", "horse"] ∧
      Shell.arguments phraseEnvironment
          "/usr/local/bin/cfs auth data --passphrase=$\x7bpassphrase\x7d" ≠
        some ["/usr/local/bin/cfs", "auth", "data", "--passphrase=correct horse"] := by
  have hcredentials : phraseMount.credentials = [("passphrase", "correct horse")] := by decide
  have hparsed : FormatOptions.parse phraseMount.formatOptions = .ok [] := by rfl
  have harguments : Shell.arguments phraseEnvironment
      "/usr/local/bin/cfs auth data --passphrase=$\x7bpassphrase\x7d" =
        some ["/usr/local/bin/cfs", "auth", "data", "--passphrase=correct", "horse"] := by
    decide +kernel
  refine ⟨?_, hparsed, hcredentials, by decide, harguments, ?_⟩
  · rw [authCommand_eq_ok hparsed, authArguments, authOptions, hcredentials,
      List.mergeSort_singleton]
    rfl
  · rw [harguments]
    decide

end MountSettings

end SubpathCsi
