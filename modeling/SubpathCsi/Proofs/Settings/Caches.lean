import SubpathCsi.Proofs.Act.Trace
import SubpathCsi.Proofs.Text.Split
import SubpathCsi.Settings.Resolve

/-!
# Where caches are wanted

The attributes of a volume and one of its options say where the client is to cache: in claims, in a
directory of the pod, in inline volumes, in directories of the host. To read them may fail, but what
they say does not hang on that. Told without the failures, each text has its sources, and reading
comes to these or to nothing.

* `takeCacheDirs_eq`: the option that is taken out is the first of its form;
* `CacheSources.ofVolume`, `CacheSources.read_eq_ok`: the sources, and that reading comes to them;
* `CacheSources.ownPaths`: the places of those sources that attributes give;
* `MountSettings.Caching`, `MountSettings.caching_of_resolve`: what resolved settings have of them.
-/

namespace SubpathCsi

/-! ### The option -/

/-- The option names directories: it begins with `cache-dir` and has one equals sign. -/
def namesDirs (option : String) : Bool :=
  beginsWith cacheDirOption option && (fields '=' option).length == 2

/-- The directories that such an option names, behind its equals sign. -/
def dirsOf (option : String) : List String :=
  fields ':' (trimmed ((fields '=' option).getLastD ""))

/-- The directories that options name: the first that names any counts. -/
def namedDirs (options : List String) : List String :=
  ((options.find? namesDirs).map dirsOf).getD []

theorem namedDirs_cons (option : String) (options : List String) :
    namedDirs (option :: options) =
      if namesDirs option then dirsOf option else namedDirs options := by
  cases h : namesDirs option with
  | false => simp [namedDirs, h]
  | true => simp [namedDirs, h]

/-- **The option that is taken out** is the first that names directories; the others stay. -/
theorem takeCacheDirs_eq (options : List String) :
    takeCacheDirs options = (options.eraseP namesDirs, namedDirs options) := by
  induction options with
  | nil => rfl
  | cons option options ih =>
    rw [takeCacheDirs, ih, namedDirs_cons, List.eraseP_cons, namesDirs, dirsOf]
    cases beginsWith cacheDirOption option with
    | false => simp
    | true =>
      generalize fields '=' option = parts
      match parts with
      | [] | [_] | [_, _] | _ :: _ :: _ :: _ => simp

theorem dirsOf_ne_nil (option : String) : dirsOf option ≠ [] := by
  obtain ⟨dir, dirs, h⟩ :=
    exists_fields_eq_cons ':' (trimmed ((fields '=' option).getLastD ""))
  rw [dirsOf, h]
  exact List.cons_ne_nil dir dirs

/-- Directories are named if an option names some. -/
theorem namedDirs_eq_nil_iff {options : List String} :
    namedDirs options = [] ↔ ∀ o ∈ options, namesDirs o = false := by
  induction options with
  | nil => simp [namedDirs]
  | cons option options ih =>
    rw [namedDirs_cons, List.forall_mem_cons]
    split
    · next hnames => simp [hnames, dirsOf_ne_nil]
    · next hnames => simp [hnames, ih]

/-- No directory of an option holds a colon. -/
theorem notMem_of_mem_namedDirs {options : List String} {dir : String}
    (h : dir ∈ namedDirs options) : ':' ∉ dir.toList := by
  induction options with
  | nil => cases h
  | cons option options ih =>
    rw [namedDirs_cons] at h
    split at h
    · exact notMem_of_mem_fields h
    · exact ih h

/-! ### The sources -/

namespace CacheSources

/-- The claims that a text lists: every name between commas that is not empty, at a place with the
number of its position. -/
def pvcsOf (text : String) : List CachePvc :=
  ((fields ',' (trimmed text)).zipIdx.filter fun q => !q.1.isEmpty).map fun (name, i) =>
    ⟨trimmed name, s!"/var/cfsCache-{i}"⟩

theorem readPvcs_eq (text : String) : readPvcs text = pvcsOf text := by
  have hfields : fields ',' "" = [""] := by decide
  rw [readPvcs, pvcsOf]
  split
  · next hempty =>
    rw [String.isEmpty_iff.mp hempty, hfields]
    rfl
  · generalize (fields ',' (trimmed text)).zipIdx = named
    rw [← List.filterMap_eq_map, List.filterMap_filter]
    refine congrArg (List.filterMap · named) (funext fun q => ?_)
    cases hname : q.1.isEmpty <;> simp [hname]

theorem mem_pvcsOf_iff {text : String} {cache : CachePvc} :
    cache ∈ pvcsOf text ↔ ∃ name i, (name, i) ∈ (fields ',' (trimmed text)).zipIdx ∧ name ≠ "" ∧
      cache = ⟨trimmed name, s!"/var/cfsCache-{i}"⟩ := by
  simp only [pvcsOf, List.mem_map, List.mem_filter, Prod.exists, Bool.not_eq_true',
    String.isEmpty_eq_false_iff, and_assoc, eq_comm (a := cache)]

/-- Claims are listed if a name between commas is not empty. -/
theorem pvcsOf_ne_nil_iff {text : String} :
    pvcsOf text ≠ [] ↔ ∃ name ∈ fields ',' (trimmed text), name ≠ "" := by
  constructor
  · intro hne
    obtain ⟨cache, hcache⟩ := List.exists_mem_of_ne_nil _ hne
    obtain ⟨name, i, hname, hne, -⟩ := mem_pvcsOf_iff.mp hcache
    exact ⟨name, List.fst_mem_of_mem_zipIdx hname, hne⟩
  · rintro ⟨name, hname, hne⟩
    obtain ⟨i, hi⟩ := List.mem_iff_getElem?.mp hname
    refine List.ne_nil_of_mem (mem_pvcsOf_iff.mpr ⟨name, i, ?_, hne, rfl⟩)
    exact List.mem_zipIdx_iff_getElem?.mpr hi

/-- The directory of the pod that a text describes. -/
def emptyDirOf (text : String) : CacheEmptyDir :=
  let path := "/var/cfsCache-emptyDir"
  match (fields ':' (trimmed text)).map trimmed with
  | [medium] => { medium, path }
  | [medium, sizeLimit] => { medium, path, sizeLimit }
  | _ => { medium := "", path }

theorem path_emptyDirOf (text : String) : (emptyDirOf text).path = "/var/cfsCache-emptyDir" := by
  rw [emptyDirOf]
  split <;> rfl

/-- The sources of the inline volumes that a text lists. -/
def inlineSources (text : String) : List (Keyed Json) :=
  match Json.parse text with
  | .ok (.arr items) => items.filterMap Json.members?
  | _ => []

/-- The inline volumes that a text lists. -/
def inlineVolumesOf (text : String) : List CacheInlineVolume :=
  (inlineSources text).zipIdx.map fun (csi, i) => ⟨csi, s!"/var/cfsCache-inlineVolume-{i}"⟩

/-- The sources that the attributes and options of a volume ask for. -/
def ofVolume (attributes : Keyed String) (options : List String) : CacheSources where
  pvcs := pvcsOf (textAt attributes Attribute.cachePvc)
  emptyDir := (Keyed.get? attributes Attribute.cacheEmptyDir).map emptyDirOf
  inlineVolumes := ((Keyed.get? attributes Attribute.cacheInlineVolume).map inlineVolumesOf).getD []
  hostDirs := namedDirs options

section Fields

variable (attributes : Keyed String) (options : List String)

theorem pvcs_ofVolume : (ofVolume attributes options).pvcs =
    pvcsOf (textAt attributes Attribute.cachePvc) := by rw [ofVolume]

theorem emptyDir_ofVolume : (ofVolume attributes options).emptyDir =
    (Keyed.get? attributes Attribute.cacheEmptyDir).map emptyDirOf := by rw [ofVolume]

theorem inlineVolumes_ofVolume : (ofVolume attributes options).inlineVolumes =
    ((Keyed.get? attributes Attribute.cacheInlineVolume).map inlineVolumesOf).getD [] := by
  rw [ofVolume]

theorem hostDirs_ofVolume : (ofVolume attributes options).hostDirs = namedDirs options := by
  rw [ofVolume]

end Fields

theorem eq_emptyDirOf {text : String} {d : CacheEmptyDir} (h : readEmptyDir text = .ok d) :
    d = emptyDirOf text := by
  rw [readEmptyDir] at h
  rw [emptyDirOf]
  generalize (fields ':' (trimmed text)).map trimmed = parts at h ⊢
  match parts with
  | [] | [_] | _ :: _ :: _ :: _ =>
    cases h
    rfl
  | [medium, sizeLimit] =>
    dsimp only at h
    split at h
    · obtain ⟨q, -, h⟩ := bind_eq_ok.mp h
      cases h
      rfl
    · cases h
      rfl

theorem eq_map_emptyDirOf {text? : Option String} {dir? : Option CacheEmptyDir}
    (h : text?.mapM readEmptyDir = .ok dir?) : dir? = text?.map emptyDirOf := by
  cases text? with
  | none =>
    cases h
    rfl
  | some text =>
    rw [Option.mapM_some] at h
    cases hdir : readEmptyDir text with
    | error f =>
      rw [hdir] at h
      cases h
    | ok dir =>
      rw [hdir] at h
      cases h
      rw [eq_emptyDirOf hdir, Option.map_some]

theorem filterMap_of_mapM {α β : Type} {f : α → Option β} {xs : List α} {ys : List β}
    (h : xs.mapM f = some ys) : xs.filterMap f = ys := by
  induction xs generalizing ys with
  | nil =>
    cases h
    rfl
  | cons x xs ih =>
    rw [List.mapM_cons] at h
    obtain ⟨y, hy, h⟩ := Option.bind_eq_some_iff.mp h
    obtain ⟨ys, hys, h⟩ := Option.bind_eq_some_iff.mp h
    cases h
    rw [List.filterMap_cons_some hy, ih hys]

theorem eq_inlineVolumesOf {text : String} {vs : List CacheInlineVolume}
    (h : readInlineVolumes text = .ok vs) : vs = inlineVolumesOf text := by
  rw [readInlineVolumes] at h
  rw [inlineVolumesOf, inlineSources]
  generalize Json.parse text = parsed at h ⊢
  match parsed with
  | .ok (.arr items) =>
    dsimp only at h ⊢
    cases hitems : items.mapM Json.members? with
    | none =>
      rw [hitems] at h
      cases h
    | some sources =>
      rw [hitems] at h
      cases h
      rw [filterMap_of_mapM hitems]
  | .error _ | .ok .null | .ok (.bool _) | .ok (.int _) | .ok (.float _) | .ok (.str _)
  | .ok (.obj _) => cases h

variable {attributes : Keyed String} {options : List String}

/-- The places that attributes give. -/
def ownPaths (r : CacheSources) : List String :=
  r.pvcs.map (·.path) ++ (r.emptyDir.map (·.path)).toList ++ r.inlineVolumes.map (·.path)

theorem paths_eq (r : CacheSources) : r.paths = r.ownPaths ++ r.hostDirs := rfl

/-- A place that attributes give has a number, but for that of the directory of the pod. -/
theorem cases_of_mem_ownPaths {path : String} (h : path ∈ (ofVolume attributes options).ownPaths) :
    path = "/var/cfsCache-emptyDir" ∨
      ∃ i : Nat, path = "/var/cfsCache-" ++ toString i ∨
        path = "/var/cfsCache-inlineVolume-" ++ toString i := by
  simp only [ownPaths, List.mem_append, List.mem_map, Option.mem_toList,
    Option.map_eq_some_iff] at h
  obtain (⟨cache, hcache, rfl⟩ | ⟨cache, hcache, rfl⟩) | ⟨cache, hcache, rfl⟩ := h
  · rw [pvcs_ofVolume] at hcache
    obtain ⟨name, i, -, -, rfl⟩ := mem_pvcsOf_iff.mp hcache
    exact .inr ⟨i, .inl rfl⟩
  · rw [emptyDir_ofVolume] at hcache
    obtain ⟨text, -, rfl⟩ := Option.map_eq_some_iff.mp hcache
    exact .inl (path_emptyDirOf text)
  · rw [inlineVolumes_ofVolume] at hcache
    cases htext : Keyed.get? attributes Attribute.cacheInlineVolume with
    | none => simp [htext] at hcache
    | some text =>
      simp only [htext, Option.map_some, Option.getD_some, inlineVolumesOf, List.mem_map] at hcache
      obtain ⟨⟨csi, i⟩, -, rfl⟩ := hcache
      exact .inr ⟨i, .inr rfl⟩

/-- A place that attributes give begins at the root and holds no colon. -/
theorem root_of_mem_ownPaths {path : String} (h : path ∈ (ofVolume attributes options).ownPaths) :
    beginsWith "/" path = true ∧ ':' ∉ path.toList := by
  have hnumber (i : Nat) : ':' ∉ Nat.toDigits 10 i := fun hcolon =>
    absurd (Nat.isDigit_of_mem_toDigits (by decide) (by decide) hcolon) (by decide)
  obtain rfl | ⟨i, rfl | rfl⟩ := cases_of_mem_ownPaths h
  · decide
  · refine ⟨beginsWith_iff.mpr ⟨"var/cfsCache-" ++ toString i, ?_⟩, ?_⟩
    · rw [← String.append_assoc]
      rfl
    · simp [hnumber i]
  · refine ⟨beginsWith_iff.mpr ⟨"var/cfsCache-inlineVolume-" ++ toString i, ?_⟩, ?_⟩
    · rw [← String.append_assoc]
      rfl
    · simp [hnumber i]

/-- **Reading** comes to the sources that are asked for, and to the options without the one that is
taken out. -/
theorem read_eq_ok {r : CacheSources × List String} (h : read attributes options = .ok r) :
    r = (ofVolume attributes options, options.eraseP namesDirs) := by
  rw [read, takeCacheDirs_eq, readPvcs_eq] at h
  rw [ofVolume]
  generalize pvcsOf (textAt attributes Attribute.cachePvc) = pvcs at h ⊢
  obtain ⟨emptyDir, hemptyDir, h⟩ := bind_eq_ok.mp h
  rw [← eq_map_emptyDirOf hemptyDir]
  cases htext : Keyed.get? attributes Attribute.cacheInlineVolume with
  | none =>
    rw [htext] at h
    cases h
    rfl
  | some text =>
    rw [htext] at h
    obtain ⟨inlineVolumes, hinline, h⟩ := bind_eq_ok.mp h
    rw [Option.map_some, Option.getD_some, ← eq_inlineVolumesOf hinline]
    exact (Except.ok.inj h).symm

end CacheSources

/-! ### Settings -/

namespace MountSettings

/-- What the settings have of the sources that the attributes and options of a volume ask for, and
of further directories. -/
structure Caching (c : Config) (attributes : Keyed String) (options : List String)
    (s : MountSettings) : Prop where
  /-- The claims. -/
  pvcs : s.cachePvcs = (CacheSources.ofVolume attributes options).pvcs
  /-- The directory of the pod. -/
  emptyDir : s.cacheEmptyDir = (CacheSources.ofVolume attributes options).emptyDir
  /-- The inline volumes. -/
  inlineVolumes : s.cacheInlineVolumes = (CacheSources.ofVolume attributes options).inlineVolumes
  /-- The directories of the host. -/
  dirs : s.cacheDirs = (CacheSources.ofVolume attributes options).hostCaches
  /-- The options: one of them tells all places. -/
  options : s.options = (CacheSources.ofVolume attributes options).clientOptions
    (options.eraseP namesDirs)
  /-- Further directories of the host. -/
  hostPath : s.hostPath = Setting.listItems (textAt attributes Attribute.hostPath)
  /-- The directory of the client. -/
  clientConfPath : s.clientConfPath = c.clientConfPath

variable {secret : Option (Keyed String)} {attributes : Keyed String} {options : List String}
  {c : Config} {s : MountSettings}

theorem caching_of_resolve (h : resolve secret attributes options c = .ok s) :
    s.Caching c attributes options := by
  obtain ⟨own, -, h⟩ := bind_eq_ok.mp h
  obtain ⟨⟨caches, kept⟩, hread, h⟩ := bind_eq_ok.mp h
  have hr := CacheSources.read_eq_ok hread
  rw [Prod.mk.injEq] at hr
  obtain ⟨hcaches, hkept⟩ := hr
  obtain ⟨resources, -, h⟩ := bind_eq_ok.mp h
  obtain ⟨delay, -, h⟩ := bind_eq_ok.mp h
  obtain ⟨labels, -, h⟩ := bind_eq_ok.mp h
  obtain ⟨annotations, -, h⟩ := bind_eq_ok.mp h
  cases h
  constructor
  · rw [← hcaches]
  · rw [← hcaches]
  · rw [← hcaches]
  · rw [← hcaches]
  · rw [← hcaches, ← hkept]
  · rfl
  · rfl

end MountSettings

end SubpathCsi
