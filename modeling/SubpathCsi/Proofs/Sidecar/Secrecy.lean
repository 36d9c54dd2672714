import SubpathCsi.Settings.Resolve
import SubpathCsi.Sidecar.Build

/-!
# Sidecars tell no credentials

The token, the two secret keys and the passphrase of a filesystem go into the secret of a sidecar.
The sidecar itself stands in the pod, where everybody reads it. It names the credentials by their
keys only: the environment refers to the secret, and the line that authenticates the client leaves
the values to the shell. So from the sidecar one learns which credentials there are, and no more.

Two runs are compared. Settings that differ in the values of credentials alone are
`Indistinguishable`, and two runs are `Related` if they fail for one reason or end with results
that are.

* `MountSettings.authCommand_eq`: the line that authenticates the client, told by the keys;
* `MountSettings.related_resolve`: alike secrets give indistinguishable settings;
* `Sidecar.buildFor_congr`: indistinguishable settings give one sidecar;
* `Sidecar.buildFor_resolve_congr`: alike secrets give one sidecar, or fail for one reason.
-/

namespace SubpathCsi

/-! ### Two runs -/

/-- Two runs have the same failure, or results that are related. -/
inductive Related {α β : Type} (R : α → β → Prop) : Except Failure α → Except Failure β → Prop
  /-- Both fail, for one reason. -/
  | error (f : Failure) : Related R (.error f) (.error f)
  /-- Both succeed. -/
  | ok {a : α} {b : β} (h : R a b) : Related R (.ok a) (.ok b)

namespace Related

variable {α β γ δ : Type} {R : α → β → Prop} {Q : γ → δ → Prop}

/-- Runs that are continued alike. -/
theorem bind {x : Except Failure α} {y : Except Failure β} {f : α → Except Failure γ}
    {g : β → Except Failure δ} (h : Related R x y)
    (hfg : ∀ a b, R a b → Related Q (f a) (g b)) : Related Q (x >>= f) (y >>= g) := by
  cases h with
  | error e => exact .error e
  | ok hab => exact hfg _ _ hab

/-- One run is continued in two ways. -/
theorem bind_same (x : Except Failure α) {f : α → Except Failure γ} {g : α → Except Failure δ}
    (hfg : ∀ a, Related Q (f a) (g a)) : Related Q (x >>= f) (x >>= g) := by
  cases x with
  | error e => exact .error e
  | ok a => exact hfg a

/-- Runs with related results are the same for whoever does not tell the results apart. -/
theorem bind_eq {x : Except Failure α} {y : Except Failure β} {f : α → Except Failure γ}
    {g : β → Except Failure γ} (h : Related R x y) (hfg : ∀ a b, R a b → f a = g b) :
    (x >>= f) = (y >>= g) := by
  cases h with
  | error e => rfl
  | ok hab => exact hfg _ _ hab

end Related

namespace MountSettings

/-! ### What differs -/

/-- The keys in the secret of a filesystem under which credentials lie. -/
def credentialKeys : List String :=
  ["token", "passphrase", "secretkey", "secret-key", "secretkey2", "secret-key2"]

/-- Two secrets of a filesystem have the same texts but for the credentials, and of these the same
are not empty. -/
structure SecretsAlike (m n : Keyed String) : Prop where
  /-- What is no credential is the same. -/
  rest : ∀ key ∉ credentialKeys, Keyed.get? m key = Keyed.get? n key
  /-- Both or none have a token. -/
  token : (textAt m "token").isEmpty = (textAt n "token").isEmpty
  /-- Both or none have a passphrase. -/
  passphrase : (textAt m "passphrase").isEmpty = (textAt n "passphrase").isEmpty
  /-- Both or none have a secret key, under whichever of its names. -/
  secretKey : (eitherText m "secretkey" "secret-key").isEmpty
    = (eitherText n "secretkey" "secret-key").isEmpty
  /-- Both or none have a second secret key, under whichever of its names. -/
  secretKey2 : (eitherText m "secretkey2" "secret-key2").isEmpty
    = (eitherText n "secretkey2" "secret-key2").isEmpty

/-- The second settings have other credentials than the first, and of these the same are not
empty. -/
inductive Indistinguishable (s : MountSettings) : MountSettings → Prop
  /-- The settings with four texts for the credentials. -/
  | replace {token secretKey secretKey2 passphrase : String}
    (htoken : s.token.isEmpty = token.isEmpty)
    (hsecretKey : s.secretKey.isEmpty = secretKey.isEmpty)
    (hsecretKey2 : s.secretKey2.isEmpty = secretKey2.isEmpty)
    (hpassphrase : s.passphrase.isEmpty = passphrase.isEmpty) :
    Indistinguishable s { s with token, secretKey, secretKey2, passphrase }

variable {s t : MountSettings} {m n : Keyed String}

/-- Which credentials there are is told by which of the four texts are empty. -/
theorem keys_credentials (s : MountSettings) :
    Keyed.keys s.credentials = (([("token", s.token.isEmpty), ("secretkey", s.secretKey.isEmpty),
      ("secretkey2", s.secretKey2.isEmpty), ("passphrase", s.passphrase.isEmpty)]).filter
        fun p => !p.2).map (·.1) := by
  have hempty : [("token", s.token.isEmpty), ("secretkey", s.secretKey.isEmpty),
      ("secretkey2", s.secretKey2.isEmpty), ("passphrase", s.passphrase.isEmpty)]
      = [("token", s.token), ("secretkey", s.secretKey), ("secretkey2", s.secretKey2),
        ("passphrase", s.passphrase)].map fun p => (p.1, p.2.isEmpty) := rfl
  rw [hempty, List.filter_map, List.map_map]
  rfl

/-- Indistinguishable settings have the same credentials, if not the same values. -/
theorem keys_credentials_congr (h : s.Indistinguishable t) :
    Keyed.keys s.credentials = Keyed.keys t.credentials := by
  obtain ⟨htoken, hsecretKey, hsecretKey2, hpassphrase⟩ := h
  rw [keys_credentials, keys_credentials, htoken, hsecretKey, hsecretKey2, hpassphrase]

/-! ### The sidecar -/

/-- Among the flags, credentials stand without their values, in the order of their keys. -/
theorem flags_credentials (s : MountSettings) :
    FormatOptions.flags (Keyed.keys s.credentials) (s.credentials.mergeSort fun a b => !(b.1 < a.1))
      = ((Keyed.keys s.credentials).mergeSort fun a b => !(b < a)).map
          FormatOptions.referenceFlag := by
  have hsort : (Keyed.keys s.credentials).mergeSort (fun a b => !(b < a))
      = (s.credentials.mergeSort fun a b => !(b.1 < a.1)).map (·.1) :=
    (List.map_mergeSort (f := Prod.fst) fun _ _ _ _ => rfl).symm
  rw [hsort, List.map_map]
  refine List.map_congr_left fun p hp => if_pos ?_
  -- a credential has a value, and its key is among the keys
  have hp : p ∈ s.credentials := (List.mergeSort_perm _ _).mem_iff.mp hp
  have hvalue : (!p.2.isEmpty) = true := (List.mem_filter.mp hp).2
  rw [hvalue, Bool.true_and]
  exact List.contains_iff_mem.mpr (List.mem_map_of_mem hp)

/-- The line that authenticates the client, told by the keys of the credentials. -/
theorem authCommand_eq (c : Config) (s : MountSettings) :
    s.authCommand c = (do
      let parsed ← FormatOptions.parse s.formatOptions
      let keys := Keyed.keys s.credentials
      return joined " " ([c.ceCliPath, "auth", Shell.quote s.name] ++
        (FormatOptions.flags keys parsed ++
          (keys.mergeSort fun a b => !(b < a)).map FormatOptions.referenceFlag))) := by
  have hflags : ∀ parsed, FormatOptions.flags (Keyed.keys s.credentials)
      (parsed ++ s.credentials.mergeSort fun a b => !(b.1 < a.1))
      = FormatOptions.flags (Keyed.keys s.credentials) parsed ++
        ((Keyed.keys s.credentials).mergeSort fun a b => !(b < a)).map
          FormatOptions.referenceFlag := by
    intro parsed
    rw [← flags_credentials]
    exact List.map_append
  simp only [authCommand, hflags]

theorem authCommand_congr (c : Config) (h : s.Indistinguishable t) :
    s.authCommand c = t.authCommand c := by
  rw [authCommand_eq, authCommand_eq, keys_credentials_congr h]
  cases h
  rfl

theorem mountCommand_congr (c : Config) (h : s.Indistinguishable t) :
    s.mountCommand c = t.mountCommand c := by
  rw [mountCommand, mountCommand, authCommand_congr c h]
  cases h
  rfl

/-- The environment refers to the credentials by their keys. -/
theorem env_congr (h : s.Indistinguishable t) : s.env = t.env := by
  rw [env, env, keys_credentials_congr h]
  cases h
  rfl

end MountSettings

/-- Indistinguishable settings give one sidecar, or fail for one reason. -/
theorem Sidecar.buildFor_congr {s t : MountSettings} (h : s.Indistinguishable t) (c : Config)
    (capacity : Int) (volumeName : Json) :
    buildFor c s capacity volumeName = buildFor c t capacity volumeName := by
  rw [buildFor, buildFor, MountSettings.mountCommand_congr c h, MountSettings.env_congr h]
  cases h
  rfl

namespace MountSettings

variable {s t : MountSettings} {m n : Keyed String}

/-! ### The settings -/

namespace SecretsAlike

/-- A text that is no credential is the same. -/
theorem textAt_eq (h : SecretsAlike m n) (key : String) (hkey : key ∉ credentialKeys) :
    textAt m key = textAt n key := by rw [textAt, textAt, h.rest key hkey]

/-- A map that is no credential is the same. -/
theorem mapAt_eq (h : SecretsAlike m n) (key : String) (hkey : key ∉ credentialKeys) :
    mapAt m key = mapAt n key := by rw [mapAt, mapAt, h.textAt_eq key hkey]

end SecretsAlike

/-- What two alike secrets give. -/
theorem related_ofSecret (h : SecretsAlike m n) :
    Related Indistinguishable (ofSecret (some m)) (ofSecret (some n)) := by
  rw [ofSecret, ofSecret, ← h.textAt_eq "name" (by decide),
    ← h.textAt_eq "storage" (by decide),
    ← h.textAt_eq "format-options" (by decide),
    ← h.mapAt_eq "configs" (by decide), ← h.mapAt_eq "envs" (by decide)]
  split
  · exact .error _
  · refine .bind_same _ fun configs => .bind_same _ fun envs => .ok ?_
    exact .replace h.token h.secretKey h.secretKey2 h.passphrase

/-- The metadata server is no credential. -/
theorem Indistinguishable.withSource (h : s.Indistinguishable t) (hmn : SecretsAlike m n) :
    (s.withSource (some m)).Indistinguishable (t.withSource (some n)) := by
  have hurl : Keyed.get? m "metaurl" = Keyed.get? n "metaurl" := hmn.rest "metaurl" (by decide)
  obtain ⟨htoken, hsecretKey, hsecretKey2, hpassphrase⟩ := h
  simp only [MountSettings.withSource, Option.bind_some, hurl]
  split
  · exact .replace htoken hsecretKey hsecretKey2 hpassphrase
  · exact .replace htoken hsecretKey hsecretKey2 hpassphrase

/-- The place of a mount is no credential. -/
theorem Indistinguishable.inPlace (h : s.Indistinguishable t)
    (mountPath secretName space volumeId : String) :
    Indistinguishable { s with mountPath, secretName, space, volumeId }
      { t with mountPath, secretName, space, volumeId } := by
  obtain ⟨htoken, hsecretKey, hsecretKey2, hpassphrase⟩ := h
  exact .replace htoken hsecretKey hsecretKey2 hpassphrase

/-- Alike secrets give indistinguishable settings, or are refused for one reason. -/
theorem related_resolve (h : SecretsAlike m n) (attributes : Keyed String)
    (options : List String) (c : Config) :
    Related Indistinguishable (resolve (some m) attributes options c)
      (resolve (some n) attributes options c) := by
  refine (related_ofSecret h).bind fun s t hst => .bind_same _ fun (caches, options) => ?_
  have hsource := hst.withSource h
  generalize s.withSource (some m) = s, t.withSource (some n) = t at hsource
  obtain ⟨htoken, hsecretKey, hsecretKey2, hpassphrase⟩ := hsource
  refine .bind_same _ fun resources => .bind_same _ fun deletedDelay => .bind_same _ fun labels =>
    .bind_same _ fun annotations => .ok ?_
  exact .replace htoken hsecretKey hsecretKey2 hpassphrase

end MountSettings

/-! ### Secrets and sidecars -/

namespace Sidecar

open MountSettings

/-- **Sidecars tell no credentials.** Two secrets of a filesystem that differ in the values of
credentials alone give the same sidecar, whatever the volume, its place and its size; or both are
refused, for one reason. -/
theorem buildFor_resolve_congr {m n : Keyed String} (h : SecretsAlike m n) (c : Config)
    (attributes : Keyed String) (options : List String)
    (mountPath secretName space volumeId : String) (capacity : Int) (volumeName : Json) :
    (do
      let s ← resolve (some m) attributes options c
      buildFor c { s with mountPath, secretName, space, volumeId } capacity volumeName)
    = (do
      let s ← resolve (some n) attributes options c
      buildFor c { s with mountPath, secretName, space, volumeId } capacity volumeName) := by
  refine (related_resolve h attributes options c).bind_eq fun s t hst => ?_
  exact buildFor_congr (hst.inPlace mountPath secretName space volumeId) c capacity volumeName

/-- The secret of an enterprise filesystem, whose format options name a token as well. -/
def firstSecret : Keyed String :=
  [("name", "data"), ("format-options", "token=shown,trash-days=1,passphrase"),
   ("token", "one"), ("secret-key", "two")]

/-- The same secret when token and secret key have been changed, the latter under its other name. -/
def rotatedSecret : Keyed String :=
  [("name", "data"), ("token", "three"), ("secretkey", "four"), ("secret-key", "two"),
   ("format-options", "token=shown,trash-days=1,passphrase")]

theorem secretsAlike_rotatedSecret : SecretsAlike firstSecret rotatedSecret where
  rest := by
    intro key hkey
    simp only [credentialKeys, List.mem_cons, not_or] at hkey
    obtain ⟨htoken, -, hsecretKey, hsecretKey', -⟩ := hkey
    simp only [firstSecret, rotatedSecret, Keyed.get?_cons, Ne.symm htoken, Ne.symm hsecretKey,
      Ne.symm hsecretKey', if_false]
  token := by decide
  passphrase := by decide
  secretKey := by decide
  secretKey2 := by decide

/-- The sidecar of a mount with a secret. -/
def rotationRun (secret : Keyed String) : Except Failure Sidecar := do
  let s ← resolve (some secret) [] ["subdir=a"] {}
  buildFor {} { s with
    mountPath := "/mnt", secretName := "claim-secret", space := "default", volumeId := "pvc-1" }
    1 (.str "data")

theorem buildFor_resolve_congr_rotatedSecret :
    SecretsAlike firstSecret rotatedSecret ∧
      ∃ s, rotationRun firstSecret = .ok s ∧ rotationRun rotatedSecret = .ok s := by
  have hok : (rotationRun firstSecret).isOk = true := by decide +kernel
  have hsame : rotationRun firstSecret = rotationRun rotatedSecret :=
    buildFor_resolve_congr secretsAlike_rotatedSecret {} [] ["subdir=a"] "/mnt" "claim-secret"
      "default" "pvc-1" 1 (.str "data")
  refine ⟨secretsAlike_rotatedSecret, ?_⟩
  rw [← hsame]
  cases hrun : rotationRun firstSecret with
  | ok s => exact ⟨s, rfl, rfl⟩
  | error f =>
    rw [hrun] at hok
    cases hok

end Sidecar

end SubpathCsi
