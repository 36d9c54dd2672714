import SubpathCsi.Proofs.Json.Shape
import SubpathCsi.Proofs.Pod.Placed
import SubpathCsi.Proofs.Shell.References
import SubpathCsi.Proofs.Sidecar.MountCommand
import SubpathCsi.Proofs.Text.Base64

/-!
# Credentials under one set of keys

The credentials of a filesystem are told in three places: the secret of a sidecar holds them, the
environment of the sidecar takes them from the secret, and the line that authenticates an enterprise
client takes them from the environment. The three agree. The secret holds besides the script that
waits for the mount, under a key that is none of theirs, and the sidecar mounts it from there.

* `Json.secretRefs`: what the environment of a container takes from secrets;
* `MountSettings.secretRefs_container`: what that of a sidecar takes;
* `MountSettings.exists_sidecarSecret`: what the secret of a sidecar holds;
* `MountSettings.exists_read_arguments`: what the line that authenticates a client takes;
* `MountSettings.IsMountScript`: what the script does, line by line;
* `MountSettings.mem_generatedMounts_iff`: where the script is mounted from;
* `MountSettings.credentialsAgree`: all of them together.
-/

namespace SubpathCsi

/-! ### What a container takes from secrets -/

/-- An environment variable whose value is in a secret. -/
structure SecretRef where
  /-- The name of the variable. -/
  name : Json
  /-- The name of the secret. -/
  secret : Json
  /-- The key in the secret. -/
  key : Json

/-- Reads an environment variable whose value is in a secret. -/
def Json.secretRef? (j : Json) : Option SecretRef := do
  let source ← (← j.get? "valueFrom").get? "secretKeyRef"
  return ⟨← j.get? "name", ← source.get? "name", ← source.get? "key"⟩

/-- The environment variables of a container whose values are in secrets, in order. -/
def Json.secretRefs (container : Json) : List SecretRef :=
  (container.listAt "env").filterMap secretRef?

namespace MountSettings

variable {c : Config} {s : MountSettings} {claim : Claim} {capacity : Int} {volumeName : Json}
  {sidecar : Sidecar}

/-! ### The environment -/

/-- The keys of the credentials, in the order in which they are used. -/
def sortedKeys (s : MountSettings) : List String :=
  (Keyed.keys s.credentials).mergeSort fun a b => !(b < a)

theorem mem_sortedKeys {key : String} : key ∈ s.sortedKeys ↔ key ∈ Keyed.keys s.credentials :=
  (List.mergeSort_perm _ _).mem_iff

/-- **The environment** of a sidecar takes the credentials from its secret, each into the variable
that has the name of its key, and nothing else. -/
theorem secretRefs_container (h : Sidecar.buildFor c s capacity volumeName = .ok sidecar) :
    sidecar.container.secretRefs =
      s.sortedKeys.map fun key => ⟨.str key, .str s.secretName, .str key⟩ := by
  obtain ⟨henv, -⟩ := Sidecar.parts_of_buildFor h
  have hlist : sidecar.container.listAt "env" = s.env.map EnvVar.toJson := by
    rw [← henv]
    exact Json.listAt_of_get? rfl
  have hplain : (s.envs.mergeSort fun a b => !(b.1 < a.1)).filterMap
      (fun p => (EnvVar.plain p.1 p.2).toJson.secretRef?) = [] :=
    List.filterMap_eq_nil_iff.mpr fun _ _ => rfl
  have hsecret : s.sortedKeys.filterMap
      (fun key => (EnvVar.fromSecret key s.secretName).toJson.secretRef?) =
        s.sortedKeys.map fun key => ⟨.str key, .str s.secretName, .str key⟩ :=
    congrFun List.filterMap_eq_map' _
  rw [Json.secretRefs, hlist, List.filterMap_map, env, List.filterMap_append, List.filterMap_map,
    List.filterMap_map]
  exact (congrArg₂ (· ++ ·) hplain hsecret).trans (List.nil_append _)

/-! ### The secret -/

/-- What the secret of a sidecar is for: the script and the credentials. -/
def secretTexts (c : Config) (s : MountSettings) : Keyed String :=
  (Config.checkMountScriptName, checkMountScript c defaultRetries) :: s.credentials

/-- No credential lies under the key of the script. -/
theorem nodup_secretTexts (c : Config) (s : MountSettings) :
    (Keyed.keys (s.secretTexts c)).Nodup := by
  have hall : [Config.checkMountScriptName, "token", "secretkey", "secretkey2",
      "passphrase"].Nodup := by decide
  exact hall.sublist ((List.filter_sublist.map Prod.fst).cons_cons _)

/-- **The secret** of a sidecar holds the script and the credentials, in base 64. -/
theorem exists_sidecarSecret {uid : String} (h : claim.metadata.uid = some uid) :
    ∃ secret, sidecarSecret c s claim = .ok secret ∧ secret.name = s.secretName ∧
      secret.data = some ((s.secretTexts c).map fun p => (p.1, Base64.ofString p.2)) := by
  have hkeys : Keyed.keys ((s.secretTexts c).map fun p => (p.1, Base64.ofString p.2)) =
      Keyed.keys (s.secretTexts c) := by
    rw [Keyed.keys, List.map_map]
    rfl
  have hnodup := nodup_secretTexts c s
  rw [← hkeys] at hnodup
  rw [sidecarSecret, h]
  exact ⟨_, rfl, rfl, congrArg some (Keyed.merge_of_nodup hnodup)⟩

/-- What is read from base 64 is what was written. -/
theorem get?_map_ofString (m : Keyed String) (key : String) :
    (Keyed.get? (m.map fun p => (p.1, Base64.ofString p.2)) key).bind Base64.toString? =
      Keyed.get? m key := by
  rw [Keyed.get?_map m fun _ => Base64.ofString]
  cases Keyed.get? m key with
  | none => rfl
  | some text => exact Base64.toString?_ofString text

/-! ### The line that authenticates a client -/

/-- What the line that authenticates a client tells the program. -/
def authArguments (s : MountSettings) (parsed : List (String × String)) : List String :=
  ["auth", Shell.quote s.name] ++
    FormatOptions.flags (Keyed.keys s.credentials) (s.authOptions parsed)

theorem joined_authArguments (path : String) (s : MountSettings)
    (parsed : List (String × String)) :
    joined " " (path :: s.authArguments parsed) =
      path ++ " " ++ joined " " (s.authArguments parsed) := by
  rw [← String.toList_inj, authArguments]
  simp [joined, Text.join]

theorem authCommand_eq_ok {parsed : List (String × String)}
    (h : FormatOptions.parse s.formatOptions = .ok parsed) :
    s.authCommand c = .ok (c.ceCliPath ++ " " ++ joined " " (s.authArguments parsed)) := by
  rw [authCommand, h, ← joined_authArguments]
  rfl

/-- **The line that authenticates a client** takes the credentials from the environment, and nothing
else. -/
theorem exists_read_arguments (s : MountSettings) (parsed : List (String × String)) :
    ∃ tokens, Shell.read (joined " " (s.authArguments parsed)) = some tokens ∧
      (∀ key, key ∈ Shell.references tokens ↔ key ∈ Keyed.keys s.credentials) ∧
      ∀ path program, Shell.ReadsWord path.toList program →
        Shell.read (path ++ " " ++ joined " " (s.authArguments parsed)) =
          some (.word program :: tokens) := by
  have hflags := Shell.readsWord_flags s.isName_of_mem_keys (s.authOptions parsed)
  have hwords : List.Forall₂ (fun p w => Shell.ReadsWord p.toList w) (s.authArguments parsed)
      ([Shell.literal "auth", Shell.literal s.name] ++
        (s.authOptions parsed).map (Shell.flagWord (Keyed.keys s.credentials))) :=
    .cons (Shell.readsWord_of_isBare (by decide)) (.cons (Shell.readsWord_quote s.name) hflags)
  refine ⟨_, Shell.read_joined (List.cons_ne_nil _ _) hwords, fun key => ?_,
    fun path program hpath => ?_⟩
  · rw [Shell.mem_references_words]
    constructor
    · rintro ⟨w, hw, hkey⟩
      obtain hw | hw := List.mem_append.mp hw
      · obtain rfl | rfl : w = Shell.literal "auth" ∨ w = Shell.literal s.name := by simpa using hw
        · rw [Shell.references_literal] at hkey
          cases hkey
        · rw [Shell.references_literal] at hkey
          cases hkey
      · obtain ⟨o, -, rfl⟩ := List.mem_map.mp hw
        exact (Shell.mem_references_flagWord.mp hkey).2.2
    · intro hkey
      -- a credential has a value, and its flag comes after those of the format options
      obtain ⟨p, hp, rfl⟩ := List.mem_map.mp hkey
      have hvalue : p.2 ≠ "" := by simpa using (List.mem_filter.mp hp).2
      have hoption : p ∈ s.authOptions parsed :=
        List.mem_append_right _ ((List.mergeSort_perm _ _).mem_iff.mpr hp)
      refine ⟨_, List.mem_append_right _ (List.mem_map_of_mem hoption), ?_⟩
      exact Shell.mem_references_flagWord.mpr ⟨rfl, hvalue, hkey⟩
  · rw [← joined_authArguments]
    exact Shell.read_joined (List.cons_ne_nil _ _) (.cons hpath hwords)

/-! ### The script -/

/-- The lines by which a script waits. Its argument is the place of the mount; it looks there up to
sixty times, a second apart, and fails if there is no mount then. -/
def waitingLines : List String :=
  ["mount_path=\"$1\"",
   "for i in $(seq 1 60); do",
   "  if mountpoint -q \"$mount_path\"; then",
   "    break",
   "  fi",
   "  sleep 1",
   "done",
   "if ! mountpoint -q \"$mount_path\"; then",
   "  echo \"$(date) $mount_path is not mounted after 60s\"",
   "  exit 1",
   "fi"]

/-- The lines by which it makes the subpath, if one is given. -/
def subpathLines : List String :=
  ["if [ -n \"$subpath\" ]; then",
   "  mkdir -p \"$mount_path/$subpath\"",
   "fi"]

/-- The lines by which it sets the quota with a tool, if one is given. A community filesystem is
named by the address of its metadata, and any other one by its name. -/
def quotaLines (cli : String) : List String :=
  ["if [ -n \"$quotaPath\" ] && [ \"$capacity\" -gt 0 ]; then",
   "  if [ \"$community\" = \"ce\" ]; then",
   "    " ++ cli ++ " quota set \"$metaurl\" --path \"$quotaPath\" --capacity \"$capacity\"",
   "  else",
   "    " ++ cli ++ " quota set \"$name\" --path \"$quotaPath\" --capacity \"$capacity\"",
   "  fi",
   "fi"]

/-- A text is a script that waits for a mount, makes the subpath in it, and sets the quota. -/
def IsMountScript (cli script : String) : Prop :=
  ∃ lines, script = joined "\n" lines ∧ lines.head? = some "#!/bin/bash" ∧
    waitingLines ++ [""] ++ subpathLines ++ [""] ++ quotaLines cli <:+: lines

theorem isMountScript_checkMountScript (c : Config) :
    IsMountScript c.ceCliPath (checkMountScript c defaultRetries) :=
  ⟨checkMountLines c.ceCliPath defaultRetries, rfl, rfl,
    (checkMountLines c.ceCliPath defaultRetries).take 4, ["echo \"$(date) $mount_path is ready\""], rfl⟩

/-- The volume that is the secret, and the mount of the script from it. -/
def placedScript (c : Config) (s : MountSettings) : Placed :=
  (⟨checkMountVolume, .secret s.secretName 0o755⟩, Sidecar.scriptMount c checkMountVolume)

theorem placedScript_mem (c : Config) (s : MountSettings) :
    s.placedScript c ∈ s.baseVolumes c ++ s.cacheVolumes := List.mem_append_left _ (.head _)

/-- Of a sidecar's own volumes, only that one has its name. -/
theorem eq_placedScript {p : Placed} (hp : p ∈ s.baseVolumes c ++ s.cacheVolumes)
    (hname : p.1.name = checkMountVolume) : p = s.placedScript c :=
  List.inj_on_of_nodup_map (nodup_placedNames c s) hp (placedScript_mem c s) hname

/-- **The script** is mounted from a key of the secret, into a sidecar that is built. -/
theorem mem_generatedMounts_iff (h : Sidecar.buildFor c s capacity volumeName = .ok sidecar)
    {m : VolumeMount} : m ∈ sidecar.generatedMounts ∧ m.name = checkMountVolume ↔
      m = Sidecar.scriptMount c checkMountVolume := by
  obtain ⟨-, -, -, hmounts⟩ := Sidecar.parts_of_buildFor h
  rw [hmounts]
  constructor
  · rintro ⟨hm, hname⟩
    obtain ⟨p, hp, rfl⟩ := List.mem_map.mp hm
    have hsame := (Sidecar.name_of_mem_placed hp).symm.trans hname
    exact congrArg Prod.snd (eq_placedScript hp hsame)
  · rintro rfl
    exact ⟨List.mem_map_of_mem (f := Prod.snd) (placedScript_mem c s), rfl⟩

/-- The volume that it is mounted from is the secret. -/
theorem mem_volumes_iff (h : Sidecar.buildFor c s capacity volumeName = .ok sidecar)
    {v : PodVolume} : v ∈ sidecar.volumes ∧ v.name = checkMountVolume ↔
      v = ⟨checkMountVolume, .secret s.secretName 0o755⟩ := by
  obtain ⟨-, -, hvolumes, -⟩ := Sidecar.parts_of_buildFor h
  rw [hvolumes]
  constructor
  · rintro ⟨hv, hname⟩
    obtain ⟨p, hp, rfl⟩ := List.mem_map.mp hv
    exact congrArg Prod.fst (eq_placedScript hp hname)
  · rintro rfl
    exact ⟨List.mem_map_of_mem (f := Prod.fst) (placedScript_mem c s), rfl⟩

/-! ### Agreement -/

/-- Secret, environment and command line have the same credentials. -/
structure CredentialsAgree (c : Config) (s : MountSettings) (claim : Claim) : Prop where
  /-- For a claim that exists there is a secret. Its keys are those of the credentials and that of
  the script; under them lie, in base 64, the credentials and the script, which is one for mounts. -/
  secret : ∀ uid, claim.metadata.uid = some uid → ∃ secret data,
    sidecarSecret c s claim = .ok secret ∧ secret.name = s.secretName ∧ secret.data = some data ∧
    Keyed.keys data = Config.checkMountScriptName :: Keyed.keys s.credentials ∧
    (Keyed.get? data Config.checkMountScriptName).bind Base64.toString? =
      some (checkMountScript c defaultRetries) ∧
    IsMountScript c.ceCliPath (checkMountScript c defaultRetries) ∧
    ∀ key ∈ Keyed.keys s.credentials,
      (Keyed.get? data key).bind Base64.toString? = Keyed.get? s.credentials key
  /-- What the environment of a sidecar takes from secrets are the credentials, from that one. -/
  environment : ∀ capacity volumeName sidecar,
    Sidecar.buildFor c s capacity volumeName = .ok sidecar →
    (∀ key : String, (∃ r ∈ sidecar.container.secretRefs, r.key = .str key) ↔
      key ∈ Keyed.keys s.credentials) ∧
    ∀ r ∈ sidecar.container.secretRefs, r.secret = .str s.secretName ∧ r.name = r.key
  /-- What the line that authenticates a client takes from the environment are the credentials,
  after the program, whose path is not quoted. -/
  commandLine : ∀ parsed, FormatOptions.parse s.formatOptions = .ok parsed → ∃ arguments tokens,
    s.authCommand c = .ok (c.ceCliPath ++ " " ++ arguments) ∧
    Shell.read arguments = some tokens ∧
    (∀ key, key ∈ Shell.references tokens ↔ key ∈ Keyed.keys s.credentials) ∧
    ∀ program, Shell.ReadsWord c.ceCliPath.toList program →
      Shell.read (c.ceCliPath ++ " " ++ arguments) = some (.word program :: tokens)
  /-- The mount and the volume of the script are the only ones of their name in a sidecar. The mount
  is from a key of the secret, and the volume is the secret. -/
  script : ∀ capacity volumeName sidecar,
    Sidecar.buildFor c s capacity volumeName = .ok sidecar →
    ∃ path, ∃ key ∈ Config.checkMountScriptName :: Keyed.keys s.credentials,
      (∀ m, m ∈ sidecar.generatedMounts ∧ m.name = checkMountVolume ↔
        m = ⟨checkMountVolume, path, some key⟩) ∧
      ∀ v, v ∈ sidecar.volumes ∧ v.name = checkMountVolume ↔
        v = ⟨checkMountVolume, .secret s.secretName 0o755⟩

theorem get?_secretTexts_of_mem {key : String} (h : key ∈ Keyed.keys s.credentials) :
    Keyed.get? (s.secretTexts c) key = Keyed.get? s.credentials key := by
  have hfresh : Config.checkMountScriptName ∉ Keyed.keys s.credentials :=
    (List.nodup_cons.mp (nodup_secretTexts c s)).1
  have hne : Config.checkMountScriptName ≠ key := fun he => hfresh (he ▸ h)
  rw [secretTexts, Keyed.get?_cons, if_neg hne]

/-- **Credentials.** For all settings and claims, secret, environment and command line have the same
ones. -/
theorem credentialsAgree (c : Config) (s : MountSettings) (claim : Claim) :
    CredentialsAgree c s claim where
  secret := by
    intro uid huid
    obtain ⟨secret, hsecret, hname, hdata⟩ := exists_sidecarSecret (c := c) (s := s) huid
    refine ⟨secret, _, hsecret, hname, hdata, ?_, ?_, isMountScript_checkMountScript c,
      fun key hkey => ?_⟩
    · rw [Keyed.keys, List.map_map]
      rfl
    · rw [get?_map_ofString, secretTexts, Keyed.get?_cons, if_pos rfl]
    · rw [get?_map_ofString, get?_secretTexts_of_mem hkey]
  environment := by
    intro capacity volumeName sidecar h
    rw [secretRefs_container h]
    refine ⟨fun key => ?_, fun r hr => ?_⟩
    · rw [← mem_sortedKeys]
      constructor
      · rintro ⟨r, hr, hkey⟩
        obtain ⟨k, hk, rfl⟩ := List.mem_map.mp hr
        cases hkey
        exact hk
      · intro hkey
        exact ⟨_, List.mem_map_of_mem hkey, rfl⟩
    · obtain ⟨k, -, rfl⟩ := List.mem_map.mp hr
      exact ⟨rfl, rfl⟩
  commandLine := by
    intro parsed hparsed
    obtain ⟨tokens, hread, hreferences, hline⟩ := exists_read_arguments s parsed
    exact ⟨_, tokens, authCommand_eq_ok hparsed, hread, hreferences, hline c.ceCliPath⟩
  script := by
    intro capacity volumeName sidecar h
    exact ⟨_, _, .head _, fun m => mem_generatedMounts_iff h, fun v => mem_volumes_iff h⟩

/-- A mount of an enterprise filesystem with two credentials. The format options name a token and a
passphrase as well, and write a reference to a parameter. -/
def keyedMount : MountSettings where
  name := "team fs"
  formatOptions := "token=shown,label=$\x7bhome\x7d,passphrase"
  token := "geheim€"
  passphrase := "it's"
  subpath := "pvc-1"
  mountPath := "/cfs/abcdef"
  secretName := "data-secret"
  space := "lab"

/-- The claim of the mount. -/
def keyedClaim : Claim where
  metadata := { name := "data", space := some "lab", uid := some "uid-data" }

theorem credentialsAgree_keyedMount :
    (∃ sidecar, Sidecar.buildFor {} keyedMount 1 (.str "data") = .ok sidecar ∧
      ∀ key : String, (∃ r ∈ sidecar.container.secretRefs, r.key = .str key) ↔
        key ∈ ["token", "passphrase"]) ∧
    (∃ secret data, sidecarSecret {} keyedMount keyedClaim = .ok secret ∧
      secret.data = some data ∧
      (Keyed.get? data "token").bind Base64.toString? = some "geheim€") ∧
    ∃ line tokens, keyedMount.authCommand {} = .ok line ∧ Shell.read line = some tokens ∧
      ∀ key, key ∈ Shell.references tokens ↔ key ∈ ["token", "passphrase"] := by
  have hagree := credentialsAgree {} keyedMount keyedClaim
  have hkeys : Keyed.keys keyedMount.credentials = ["token", "passphrase"] := by decide
  refine ⟨?_, ?_, ?_⟩
  · have hok : (Sidecar.buildFor {} keyedMount 1 (.str "data")).isOk = true := by decide +kernel
    cases hbuilt : Sidecar.buildFor {} keyedMount 1 (.str "data") with
    | error f =>
      rw [hbuilt] at hok
      cases hok
    | ok sidecar =>
      refine ⟨sidecar, rfl, ?_⟩
      rw [← hkeys]
      exact (hagree.environment _ _ sidecar hbuilt).1
  · obtain ⟨secret, data, hsecret, -, hdata, -, -, -, hdecoded⟩ := hagree.secret _ rfl
    refine ⟨secret, data, hsecret, hdata, ?_⟩
    rw [hdecoded "token" (by rw [hkeys]; exact .head _)]
    rfl
  · obtain ⟨arguments, tokens, hauth, -, hreferences, hline⟩ := hagree.commandLine _ rfl
    have hpath : Shell.IsBare (Config.ceCliPath {}) := by decide
    refine ⟨_, _, hauth, hline _ (Shell.readsWord_of_isBare hpath), fun key => ?_⟩
    rw [← hkeys, ← hreferences key, Shell.references_cons, Shell.references_literal,
      List.nil_append]

end MountSettings

end SubpathCsi
