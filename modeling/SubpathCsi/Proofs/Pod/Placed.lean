import SubpathCsi.Proofs.Pod.Dressed

/-!
# What a sidecar has

A sidecar is told what to connect to and how large its volume is, fills the volume of its pair, and
brings volumes of its own. The names of these are pairwise different from the start: without the
number at its end, a name tells the kind of volume. So when they are renamed in a pod, one function
on names renames the volumes and the mounts alike, and each mount follows its volume.

* `MountSettings.nodup_placedNames`: the names of a sidecar's own volumes are pairwise different;
* `Sidecar.exists_rename`: a function on names that renames volumes and mounts;
* `Sidecar.Equipped`, `Sidecar.equipped_of_renameIn`: what a sidecar for a pair has;
* `Sidecar.own_of_renameIn`: its own volumes are those that were built, but for their names.
-/

namespace SubpathCsi

/-! ### Names with numbers -/

/-- A name without the number at its end, last letter first. -/
def stem (name : String) : List Char := name.toList.reverse.dropWhile Char.isDigit

/-- A number at the end of a name does not change its stem. -/
theorem stem_append_toString (name : String) (i : Nat) : stem (name ++ toString i) = stem name := by
  have hdigits : ∀ x ∈ (toString i).toList.reverse, Char.isDigit x = true := by
    intro x hx
    have hmem : x ∈ Nat.toDigits 10 i := by
      rw [List.mem_reverse] at hx
      simpa using hx
    exact Nat.isDigit_of_mem_toDigits (by decide) (by decide) hmem
  rw [stem, stem, String.toList_append, List.reverse_append, List.dropWhile_append_of_pos hdigits]

/-- Names with the numbers of the items of a list. -/
def numberedFor {α : Type} (name : String) (xs : List α) : List String :=
  xs.zipIdx.map fun q => name ++ toString q.2

theorem nodup_numberedFor {α : Type} (name : String) (xs : List α) :
    (numberedFor name xs).Nodup := by
  have hmap : numberedFor name xs =
      (xs.zipIdx.map Prod.snd).map fun i : Nat => name ++ toString i := by
    rw [numberedFor, List.map_map]
    rfl
  rw [hmap, List.zipIdx_map_snd]
  refine List.Nodup.map ?_ List.nodup_range'
  intro i j hij
  exact Nat.repr_injective ((String.append_right_inj name).mp hij)

theorem stem_of_mem_numberedFor {α : Type} {name n : String} {xs : List α}
    (h : n ∈ numberedFor name xs) : stem n = stem name := by
  obtain ⟨q, -, rfl⟩ := List.mem_map.mp h
  exact stem_append_toString name q.2

/-- Names of different stems are different: it is enough that those of one stem are. -/
theorem nodup_of_stems {groups : List (List Char × List String)}
    (hstems : (groups.map Prod.fst).Nodup)
    (hgroups : ∀ g ∈ groups, g.2.Nodup ∧ ∀ name ∈ g.2, stem name = g.1) :
    (groups.map Prod.snd).flatten.Nodup := by
  induction groups with
  | nil => exact List.nodup_nil
  | cons group groups ih =>
    obtain ⟨hfresh, hstems⟩ := List.nodup_cons.mp hstems
    obtain ⟨⟨hnodup, hown⟩, hgroups⟩ := List.forall_mem_cons.mp hgroups
    rw [List.map_cons, List.flatten_cons]
    refine hnodup.append (ih hstems hgroups) fun name hname hother => ?_
    obtain ⟨names, hnames, hmem⟩ := List.mem_flatten.mp hother
    obtain ⟨g, hg, rfl⟩ := List.mem_map.mp hnames
    have hstem : g.1 = group.1 := ((hgroups g hg).2 name hmem).symm.trans (hown name hname)
    exact hfresh (hstem ▸ List.mem_map_of_mem hg)

/-! ### The names of a sidecar's own volumes -/

namespace MountSettings

/-- The names of a sidecar's own volumes, with their stems. -/
def placedNames (s : MountSettings) : List (List Char × List String) :=
  [(stem checkMountVolume, [checkMountVolume]),
   (stem confVolume, [confVolume]),
   (stem clientConfVolume, if s.clientConfPath.isEmpty then [] else [clientConfVolume]),
   (stem "cachedir-pvc-", numberedFor "cachedir-pvc-" s.cachePvcs),
   (stem "cachedir-empty-dir", s.cacheEmptyDir.toList.map fun _ => "cachedir-empty-dir"),
   (stem "cachedir-inline-volume-", numberedFor "cachedir-inline-volume-" s.cacheInlineVolumes),
   (stem "cachedir-", numberedFor "cachedir-" s.cacheDirs),
   (stem "hostpath-", numberedFor "hostpath-" s.hostPath)]

theorem names_placed (c : Config) (s : MountSettings) :
    (s.baseVolumes c ++ s.cacheVolumes).map (·.1.name) = (s.placedNames.map Prod.snd).flatten := by
  have hclient : (if s.clientConfPath.isEmpty then []
      else [place clientConfVolume s.clientConfPath (.emptyDir "" "")]).map (·.1.name) =
        if s.clientConfPath.isEmpty then [] else [clientConfVolume] := by
    split <;> rfl
  have hempty : (s.cacheEmptyDir.map fun cache => place "cachedir-empty-dir" cache.path
      (.emptyDir cache.medium cache.sizeLimit)).toList.map (·.1.name) =
        s.cacheEmptyDir.toList.map fun _ => "cachedir-empty-dir" := by
    cases s.cacheEmptyDir <;> rfl
  simp only [baseVolumes, cacheVolumes, placedNames, numberedFor, List.map_append, List.map_map,
    hclient, hempty, List.map_cons, List.map_nil, List.flatten_cons, List.flatten_nil,
    List.append_nil, List.append_assoc]
  rfl

/-- **Own volumes.** Their names are pairwise different. -/
theorem nodup_placedNames (c : Config) (s : MountSettings) :
    ((s.baseVolumes c ++ s.cacheVolumes).map (·.1.name)).Nodup := by
  rw [names_placed]
  have hstems : [stem checkMountVolume, stem confVolume, stem clientConfVolume,
      stem "cachedir-pvc-", stem "cachedir-empty-dir", stem "cachedir-inline-volume-",
      stem "cachedir-", stem "hostpath-"].Nodup := by decide +kernel
  refine nodup_of_stems hstems ?_
  have hnumbered : ∀ {α : Type} (name : String) (xs : List α),
      (numberedFor name xs).Nodup ∧ ∀ n ∈ numberedFor name xs, stem n = stem name :=
    fun name xs => ⟨nodup_numberedFor name xs, fun _ => stem_of_mem_numberedFor⟩
  have hsingle : ∀ name : String, [name].Nodup ∧ ∀ n ∈ [name], stem n = stem name := by
    intro name
    simp
  have hclient : (if s.clientConfPath.isEmpty then [] else [clientConfVolume]).Nodup ∧
      ∀ n ∈ if s.clientConfPath.isEmpty then [] else [clientConfVolume],
        stem n = stem clientConfVolume := by
    split
    · simp
    · exact hsingle _
  have hempty : (s.cacheEmptyDir.toList.map fun _ => "cachedir-empty-dir").Nodup ∧
      ∀ n ∈ s.cacheEmptyDir.toList.map fun _ => "cachedir-empty-dir",
        stem n = stem "cachedir-empty-dir" := by
    cases s.cacheEmptyDir with
    | none => simp
    | some cache => exact hsingle _
  rintro g hg
  simp only [placedNames, List.mem_cons, List.not_mem_nil, or_false] at hg
  rcases hg with rfl | rfl | rfl | rfl | rfl | rfl | rfl | rfl
  · exact hsingle _
  · exact hsingle _
  · exact hclient
  · exact hnumbered _ _
  · exact hempty
  · exact hnumbered _ _
  · exact hnumbered _ _
  · exact hnumbered _ _

end MountSettings

/-! ### New names -/

namespace Sidecar

variable {container old : String} {index : Int} {v : PodVolume} {vs : List PodVolume}
  {taken : List String}

theorem renameVolumes_cons_of_mem (container : String) (index : Int) (vs : List PodVolume)
    (h : v.name ∈ taken) :
    ∃ name, renameVolumes container index (v :: vs) taken =
      ({ v with name } :: (renameVolumes container index vs (name :: taken)).1,
        (v.name, name) :: (renameVolumes container index vs (name :: taken)).2) := by
  refine ⟨uniqueName (container ++ "-" ++ v.name) taken index, ?_⟩
  rw [renameVolumes, if_pos h]

theorem renameVolumes_cons_of_notMem (h : v.name ∉ taken) :
    renameVolumes container index (v :: vs) taken =
      (v :: (renameVolumes container index vs (v.name :: taken)).1,
        (renameVolumes container index vs (v.name :: taken)).2) := by
  rw [renameVolumes, if_neg h]

/-- What a name has become, if volumes have these new names. -/
def newName (renamed : List (String × String)) (old : String) : String :=
  (renamed.reverse.lookup old).getD old

theorem newName_cons_self {name : String} {renamed : List (String × String)}
    (h : renamed.reverse.lookup old = none) : newName ((old, name) :: renamed) old = name := by
  rw [newName, List.reverse_cons, List.lookup_append, h, List.lookup_cons_self]
  rfl

theorem newName_cons_of_ne {name other : String} {renamed : List (String × String)}
    (h : old ≠ other) : newName ((other, name) :: renamed) old = newName renamed old := by
  have hlast : List.lookup old [(other, name)] = none := by
    rw [List.lookup_cons, beq_false_of_ne h]
    rfl
  rw [newName, newName, List.reverse_cons, List.lookup_append, hlast, Option.or_none]

/-- The name of no volume becomes no other. -/
theorem lookup_renamed_eq_none (h : old ∉ volumeNames vs) :
    (renameVolumes container index vs taken).2.reverse.lookup old = none := by
  induction vs generalizing taken with
  | nil => rfl
  | cons v vs ih =>
    obtain ⟨hv, hvs⟩ : old ≠ v.name ∧ old ∉ volumeNames vs := by
      simpa [volumeNames] using h
    by_cases htaken : v.name ∈ taken
    · obtain ⟨name, hrenamed⟩ := renameVolumes_cons_of_mem container index vs htaken
      rw [hrenamed, List.reverse_cons, List.lookup_append, ih hvs, List.lookup_cons,
        beq_false_of_ne hv]
      rfl
    · rw [renameVolumes_cons_of_notMem htaken]
      exact ih hvs

/-- Volumes with different names have the new names of these. -/
theorem renameVolumes_eq_map (h : (volumeNames vs).Nodup) :
    (renameVolumes container index vs taken).1 = vs.map fun v =>
      { v with name := newName (renameVolumes container index vs taken).2 v.name } := by
  induction vs generalizing taken with
  | nil => rfl
  | cons v vs ih =>
    obtain ⟨hfresh, hnodup⟩ := List.nodup_cons.mp h
    by_cases htaken : v.name ∈ taken
    · obtain ⟨name, hrenamed⟩ := renameVolumes_cons_of_mem container index vs htaken
      rw [hrenamed, List.map_cons, newName_cons_self (lookup_renamed_eq_none hfresh)]
      refine congrArg (_ :: ·) ((ih hnodup).trans (List.map_congr_left fun u hu => ?_))
      -- a later volume has another name than the first one
      have hne : u.name ≠ v.name := by
        intro heq
        exact hfresh (List.mem_map.mpr ⟨u, hu, heq⟩)
      rw [newName_cons_of_ne hne]
    · have hself : newName (renameVolumes container index vs (v.name :: taken)).2 v.name =
          v.name := by
        rw [newName, lookup_renamed_eq_none hfresh]
        rfl
      rw [renameVolumes_cons_of_notMem htaken, List.map_cons, hself]
      exact congrArg (v :: ·) (ih hnodup)

/-- A name that a volume of a sidecar may get: its own, or else one that is made free of that of the
sidecar and its own. -/
def MayBecome (container : String) (index : Int) (old new : String) : Prop :=
  new = old ∨ ∃ taken, new = uniqueName (container ++ "-" ++ old) taken index

theorem mayBecome_newName (old : String) (vs : List PodVolume) (taken : List String) :
    MayBecome container index old (newName (renameVolumes container index vs taken).2 old) := by
  induction vs generalizing taken with
  | nil => exact .inl rfl
  | cons v vs ih =>
    rw [renameVolumes]
    split
    next hv =>
      generalize hname : uniqueName (container ++ "-" ++ v.name) taken index = name
      -- the last new name counts, and it is one of a later volume if there is any
      cases hlater : (renameVolumes container index vs (name :: taken)).2.reverse.lookup old with
      | some later =>
        have hrest := ih (name :: taken)
        rw [newName, hlater] at hrest
        rw [newName, List.reverse_cons, List.lookup_append, hlater]
        exact hrest
      | none =>
        by_cases heq : old = v.name
        · subst heq
          rw [newName_cons_self hlater]
          exact .inr ⟨taken, hname.symm⟩
        · rw [newName_cons_of_ne heq]
          exact ih (name :: taken)
    next => exact ih (v.name :: taken)

/-- **Mounts and volumes** get their new names from one function, if the volumes have different
names. -/
theorem exists_rename {s : Sidecar} (hs : (volumeNames s.volumes).Nodup)
    (containers volumes : List String) (index : Int) : ∃ f : String → String,
      (s.rename containers volumes index).volumes =
        s.volumes.map (fun v => { v with name := f v.name }) ∧
      (s.rename containers volumes index).generatedMounts =
        s.generatedMounts.map (fun m => { m with name := f m.name }) ∧
      ∀ name, MayBecome (s.rename containers volumes index).name index name (f name) :=
  ⟨_, renameVolumes_eq_map hs, rfl, fun name => mayBecome_newName name s.volumes volumes⟩

end Sidecar

/-! ### What a sidecar for a pair has -/

theorem MountSettings.env_eq_nil {s : MountSettings} (henvs : s.envs = [])
    (hcredentials : s.credentials = []) : s.env = [] := by
  simp [env, henvs, hcredentials, Keyed.keys]

/-- A volume without a secret of its own gives a sidecar no variables. -/
theorem MountSettings.env_of_prepare {c : Config} {p : Pair} {settings : MountSettings}
    {capacity : Int} (h : p.prepare c = .ok (settings, capacity)) (path : String) (space : Json) :
    (Mutation.placed p settings path space).env = [] := by
  obtain ⟨⟨attributes, options⟩, -, h⟩ := bind_eq_ok.mp h
  obtain ⟨settings', hsettings, h⟩ := bind_eq_ok.mp h
  obtain ⟨capacity', -, h⟩ := bind_eq_ok.mp h
  cases h
  obtain ⟨_, ⟨⟩, h⟩ := bind_eq_ok.mp hsettings
  obtain ⟨⟨caches, options⟩, -, h⟩ := bind_eq_ok.mp h
  obtain ⟨resources, -, h⟩ := bind_eq_ok.mp h
  obtain ⟨delay, -, h⟩ := bind_eq_ok.mp h
  obtain ⟨labels, -, h⟩ := bind_eq_ok.mp h
  obtain ⟨annotations, -, h⟩ := bind_eq_ok.mp h
  cases h
  exact env_eq_nil rfl rfl

namespace Sidecar

/-- The mount of the script, from a volume. -/
def scriptMount (c : Config) (volume : String) : VolumeMount :=
  { name := volume
    mountPath := c.checkMountScriptPath
    subPath := some Config.checkMountScriptName }

/-- The mount of the directory of certificates, from a volume. -/
def confMount (volume : String) : VolumeMount := { name := volume, mountPath := confDir }

/-- A sidecar has what it needs for a pair: it is told what to connect to and how large the volume
is, and it fills the volume at a path. Before all other volumes of its own it has that with the
script, which is in the secret of the pair, and that for certificates. -/
structure Equipped (c : Config) (p : Pair) (settings : MountSettings) (capacity : Int)
    (path : String) (s : Sidecar) : Prop where
  /-- It has one variable. -/
  env : s.env = [.plain metaUrlName (p.metaUrl c)]
  /-- After its start, it sets the capacity. -/
  postStart : s.postStart = { settings with mountPath := path }.postStartCommand c capacity
  /-- It fills the volume of the pair, if that has a name. -/
  podMount : s.podMount = if p.volumeName.isPresent then some ⟨p.volumeName, path⟩ else none
  /-- It has a script and a place for certificates. -/
  own : ∃ script conf volumes mounts,
    s.volumes = ⟨script, .secret p.secretName 0o755⟩ :: ⟨conf, .emptyDir "Memory" ""⟩ :: volumes ∧
    s.generatedMounts = scriptMount c script :: confMount conf :: mounts

/-- What a sidecar gets from its settings. -/
theorem parts_of_buildFor {c : Config} {settings : MountSettings} {capacity : Int}
    {volumeName : Json} {s : Sidecar} (h : buildFor c settings capacity volumeName = .ok s) :
    s.env = settings.env ∧ s.postStart = settings.postStartCommand c capacity ∧
      s.volumes = (settings.baseVolumes c ++ settings.cacheVolumes).map (·.1) ∧
      s.generatedMounts = (settings.baseVolumes c ++ settings.cacheVolumes).map (·.2) := by
  obtain ⟨script, -, h⟩ := bind_eq_ok.mp h
  obtain ⟨_, -, h⟩ := bind_eq_ok.mp h
  cases h
  exact ⟨rfl, rfl, rfl, rfl⟩

/-- The names of the volumes of a sidecar that is built are pairwise different. -/
theorem nodup_of_buildFor {c : Config} {settings : MountSettings} {capacity : Int}
    {volumeName : Json} {s : Sidecar} (h : buildFor c settings capacity volumeName = .ok s) :
    (volumeNames s.volumes).Nodup := by
  obtain ⟨-, -, hvolumes, -⟩ := parts_of_buildFor h
  rw [volumeNames, hvolumes, List.map_map]
  exact MountSettings.nodup_placedNames c settings

/-- **Equipment.** A sidecar that is built for a pair and renamed in a pod has what it needs. -/
theorem equipped_of_renameIn {c : Config} {p : Pair} {settings : MountSettings}
    {capacity index : Int} {path : String} {space pod : Json} {built s : Sidecar}
    (hprepared : p.prepare c = .ok (settings, capacity))
    (hbuilt : buildFor c (Mutation.placed p settings path space) capacity p.volumeName = .ok built)
    (hs : built.renameIn pod index = .ok s) :
    (s.finished c p).Equipped c p settings capacity path := by
  obtain ⟨henv, hpostStart, hvolumes, hmounts⟩ := parts_of_buildFor hbuilt
  obtain ⟨-, hpodMount⟩ := buildFor_eq_ok hbuilt
  obtain ⟨-, containers, volumes, rfl, -, -⟩ := renameIn_eq_ok hs
  obtain ⟨f, hrenamed, hfollow, -⟩ := exists_rename (nodup_of_buildFor hbuilt) containers volumes index
  rw [hvolumes] at hrenamed
  rw [hmounts] at hfollow
  refine ⟨?_, hpostStart, hpodMount, f checkMountVolume, f confVolume, _, _, hrenamed, hfollow⟩
  change built.env ++ [_] = _
  rw [henv, MountSettings.env_of_prepare hprepared]
  rfl

/-- **Own volumes.** What a sidecar brings: the volumes and mounts that were built, under names that
they may get; each mount has the name of its volume. -/
theorem own_of_renameIn {c : Config} {settings : MountSettings} {capacity index : Int}
    {volumeName pod : Json} {built s : Sidecar}
    (hbuilt : buildFor c settings capacity volumeName = .ok built)
    (hs : built.renameIn pod index = .ok s) :
    (∃ f : String → String,
      s.volumes = built.volumes.map (fun v => { v with name := f v.name }) ∧
      s.generatedMounts = built.generatedMounts.map (fun m => { m with name := f m.name }) ∧
      ∀ name, MayBecome s.name index name (f name)) ∧
    List.Forall₂ (fun v m => m.name = v.name) s.volumes s.generatedMounts := by
  obtain ⟨-, -, hvolumes, hmounts⟩ := parts_of_buildFor hbuilt
  obtain ⟨-, containers, volumes, rfl, -, -⟩ := renameIn_eq_ok hs
  obtain ⟨f, hrenamed, hfollow, hnames⟩ :=
    exists_rename (nodup_of_buildFor hbuilt) containers volumes index
  refine ⟨⟨f, hrenamed, hfollow, hnames⟩, ?_⟩
  rw [hrenamed, hfollow, hvolumes, hmounts, List.map_map, List.map_map,
    List.forall₂_map_left_iff, List.forall₂_map_right_iff]
  exact List.forall₂_same.mpr fun q hq => congrArg f (name_of_mem_placed hq)

end Sidecar

end SubpathCsi
