import SubpathCsi.Proofs.Pod.Placed
import SubpathCsi.Proofs.Pod.Rejection
import SubpathCsi.Proofs.Settings.CacheOption

/-!
# Caches and their mounts

The client is told the places of its caches by an option, and a sidecar has a mount for each of
them. The option is written when the settings are resolved, the volumes are numbered anew when the
sidecar is built, and both follow the same sources in the same order. A cache in memory is told to
the client and needs no mount.

* `CacheSources.places`: the places of caches, and what the volume at each of them is;
* `Sidecar.cacheMounts_of_buildFor`: the mounts of a sidecar for caches, and their volumes;
* `Sidecar.CachesAgree`, `Sidecar.cachesAgree_of_buildFor`: the option tells these mounts, for a
  volume with at most one option that begins with `cache-dir`.
-/

namespace SubpathCsi

/-! ### Places -/

namespace CacheSources

/-- **The places** of caches that need a volume, and where the content of that comes from: claims, a
directory of the pod, inline volumes, directories of the host. -/
def places (r : CacheSources) : List (String × VolumeSource) :=
  r.pvcs.map (fun cache => (cache.path, .claim cache.pvcName)) ++
  (r.emptyDir.map fun cache => (cache.path, .emptyDir cache.medium cache.sizeLimit)).toList ++
  r.inlineVolumes.map (fun cache => (cache.path, .inline cache.csi)) ++
  r.hostCaches.map fun dir => (dir, .hostPath dir (some "DirectoryOrCreate"))

theorem map_fst_places (r : CacheSources) :
    r.places.map Prod.fst = r.ownPaths ++ r.hostCaches := by
  have hid : (Prod.fst ∘ fun dir : String =>
      (dir, VolumeSource.hostPath dir (some "DirectoryOrCreate"))) = id := rfl
  rw [places, ownPaths]
  cases r.emptyDir <;> simp [hid, Function.comp_def]

variable {attributes : Keyed String} {options : List String}

/-- Told to the client are the places, and the memory if an option names it. -/
theorem filter_paths (h : (ofVolume attributes options).paths ≠ []) :
    (ofVolume attributes options).paths.filter (· ≠ "memory") =
      (ofVolume attributes options).ownPaths ++ (ofVolume attributes options).hostCaches := by
  have hown : (ofVolume attributes options).ownPaths.filter (· ≠ "memory") =
      (ofVolume attributes options).ownPaths := by
    refine List.filter_eq_self.mpr fun path hpath => ?_
    have hroot := (root_of_mem_ownPaths hpath).1
    simp only [ne_eq, decide_not, Bool.not_eq_eq_eq_not, Bool.not_true, decide_eq_false_iff_not]
    rintro rfl
    exact absurd hroot (by decide)
  have hempty : (ofVolume attributes options).paths.isEmpty = false := by simpa using h
  rw [hostCaches, hempty, paths_eq, List.filter_append, hown]
  rfl

/-- The places that are told come apart at the colons between them. -/
theorem fields_joined_paths (h : (ofVolume attributes options).paths ≠ []) :
    fields ':' (joined ":" (ofVolume attributes options).paths) =
      (ofVolume attributes options).paths := by
  have hcolon : ":".toList = [':'] := by decide
  have hpaths : ∀ path ∈ (ofVolume attributes options).paths, fields ':' path = [path] := by
    intro path hpath
    refine fields_of_notMem ?_
    rw [paths_eq, hostDirs_ofVolume] at hpath
    obtain hown | hnamed := List.mem_append.mp hpath
    · exact (root_of_mem_ownPaths hown).2
    · exact notMem_of_mem_namedDirs hnamed
  rw [fields_joined hcolon h, List.flatMap_congr hpaths, List.flatMap_singleton']

end CacheSources

/-! ### Mounts -/

namespace MountSettings

/-- The volumes that hold caches. -/
def cachePlaced (s : MountSettings) : List Placed :=
  (s.cachePvcs.zipIdx.map fun (cache, i) =>
    place s!"cachedir-pvc-{i}" cache.path (.claim cache.pvcName)) ++
  (s.cacheEmptyDir.map fun cache =>
    place "cachedir-empty-dir" cache.path (.emptyDir cache.medium cache.sizeLimit)).toList ++
  (s.cacheInlineVolumes.zipIdx.map fun (cache, i) =>
    place s!"cachedir-inline-volume-{i}" cache.path (.inline cache.csi)) ++
  s.cacheDirs.zipIdx.map fun (path, i) =>
    place s!"cachedir-{i}" path (.hostPath path (some "DirectoryOrCreate"))

/-- Further directories of the host. -/
def hostPlaced (s : MountSettings) : List Placed :=
  s.hostPath.zipIdx.map fun (path, i) => place s!"hostpath-{i}" path (.hostPath path none)

theorem cacheVolumes_eq (s : MountSettings) : s.cacheVolumes = s.cachePlaced ++ s.hostPlaced := rfl

theorem map_zipIdx {α β : Type} (f : α → β) (xs : List α) :
    (xs.zipIdx.map fun q => f q.1) = xs.map f := by
  conv_rhs => rw [← List.zipIdx_map_fst 0 xs, List.map_map]
  rfl

variable {c : Config} {attributes : Keyed String} {options : List String} {s : MountSettings}

/-- The volumes that hold caches are at the places, with the content that these have. -/
theorem map_cachePlaced (h : s.Caching c attributes options) :
    s.cachePlaced.map (fun q => (q.2.mountPath, q.1.source)) =
      (CacheSources.ofVolume attributes options).places := by
  have hpvcs := map_zipIdx fun cache : CachePvc => (cache.path, VolumeSource.claim cache.pvcName)
  have hinline := map_zipIdx fun cache : CacheInlineVolume =>
    (cache.path, VolumeSource.inline cache.csi)
  have hdirs := map_zipIdx fun dir : String =>
    (dir, VolumeSource.hostPath dir (some "DirectoryOrCreate"))
  rw [cachePlaced, h.pvcs, h.emptyDir, h.inlineVolumes, h.dirs, CacheSources.places]
  generalize CacheSources.ofVolume attributes options = r
  simp only [List.map_append, List.map_map, Function.comp_def, place]
  rw [hpvcs, hinline, hdirs]
  cases r.emptyDir <;> rfl

/-- The names tell the volumes that hold caches from the others. -/
theorem filter_placed (c : Config) (s : MountSettings) :
    (s.baseVolumes c ++ s.cacheVolumes).filter (fun q => beginsWith "cachedir-" q.2.name) =
      s.cachePlaced := by
  have hbase : (s.baseVolumes c).filter (fun q => beginsWith "cachedir-" q.2.name) = [] := by
    have hscript : beginsWith "cachedir-" checkMountVolume = false := by decide
    have hconf : beginsWith "cachedir-" confVolume = false := by decide
    have hclient : beginsWith "cachedir-" clientConfVolume = false := by decide
    rw [baseVolumes]
    split <;> simp [place, hscript, hconf, hclient]
  have hcache : s.cachePlaced.filter (fun q => beginsWith "cachedir-" q.2.name) =
      s.cachePlaced := by
    refine List.filter_eq_self.mpr fun q hq => ?_
    simp only [cachePlaced, List.mem_append, List.mem_map, Option.mem_toList,
      Option.map_eq_some_iff, or_assoc] at hq
    obtain ⟨⟨cache, i⟩, -, rfl⟩ | ⟨cache, -, rfl⟩ | ⟨⟨cache, i⟩, -, rfl⟩ | ⟨⟨dir, i⟩, -, rfl⟩ := hq
    · exact beginsWith_iff.mpr ⟨"pvc-" ++ toString i, by rw [← String.append_assoc]; rfl⟩
    · exact beginsWith_iff.mpr ⟨"empty-dir", rfl⟩
    · exact beginsWith_iff.mpr ⟨"inline-volume-" ++ toString i, by rw [← String.append_assoc]; rfl⟩
    · exact beginsWith_iff.mpr ⟨toString i, rfl⟩
  have hhost : s.hostPlaced.filter (fun q => beginsWith "cachedir-" q.2.name) = [] := by
    refine List.filter_eq_nil_iff.mpr fun q hq => ?_
    obtain ⟨⟨path, i⟩, -, rfl⟩ := List.mem_map.mp hq
    change ¬beginsWith "cachedir-" ("hostpath-" ++ toString i) = true
    simp [beginsWith]
  rw [cacheVolumes_eq, List.filter_append, List.filter_append, hbase, hcache, hhost,
    List.nil_append, List.append_nil]

end MountSettings

namespace Sidecar

/-- The mounts for caches. -/
def cacheMounts (s : Sidecar) : List VolumeMount :=
  s.generatedMounts.filter fun m => beginsWith "cachedir-" m.name

/-- Where the content of the volume at a mount comes from. -/
def sourceAt (s : Sidecar) (m : VolumeMount) : Option VolumeSource :=
  (s.volumes.find? (·.name == m.name)).map (·.source)

/-- Of volumes with different names, each is found by its name. -/
theorem find?_of_nodup_names {vs : List PodVolume} {v : PodVolume} (h : (volumeNames vs).Nodup)
    (hv : v ∈ vs) : vs.find? (·.name == v.name) = some v := by
  induction vs with
  | nil => cases hv
  | cons first vs ih =>
    obtain ⟨hfresh, hnodup⟩ := List.nodup_cons.mp h
    obtain rfl | hv := List.mem_cons.mp hv
    · rw [List.find?_cons, beq_self_eq_true]
    · have hne : first.name ≠ v.name := fun heq => hfresh (List.mem_map.mpr ⟨v, hv, heq.symm⟩)
      rw [List.find?_cons, beq_false_of_ne hne]
      exact ih hnodup hv

variable {attributes : Keyed String} {options : List String} {c : Config} {s : MountSettings}
  {capacity : Int} {volumeName : Json} {sidecar : Sidecar}

theorem cacheMounts_eq (h : buildFor c s capacity volumeName = .ok sidecar) :
    sidecar.cacheMounts = s.cachePlaced.map (·.2) := by
  obtain ⟨-, -, -, hmounts⟩ := parts_of_buildFor h
  rw [cacheMounts, hmounts, List.filter_map]
  exact congrArg _ (MountSettings.filter_placed c s)

theorem sourceAt_of_mem (h : buildFor c s capacity volumeName = .ok sidecar) {q : Placed}
    (hq : q ∈ s.cachePlaced) : sidecar.sourceAt q.2 = some q.1.source := by
  obtain ⟨-, -, hvolumes, -⟩ := parts_of_buildFor h
  have hplaced : q ∈ s.baseVolumes c ++ s.cacheVolumes := by
    rw [MountSettings.cacheVolumes_eq]
    exact List.mem_append_right _ (List.mem_append_left _ hq)
  have hmem : q.1 ∈ sidecar.volumes := hvolumes ▸ List.mem_map_of_mem hplaced
  rw [sourceAt, name_of_mem_placed hplaced, find?_of_nodup_names (nodup_of_buildFor h) hmem]
  rfl

/-- **The mounts for caches** are at the places, and the volumes at them have the content that these
places ask for. -/
theorem cacheMounts_of_buildFor (hs : s.Caching c attributes options)
    (h : buildFor c s capacity volumeName = .ok sidecar) :
    sidecar.cacheMounts.map (fun m => (m.mountPath, sidecar.sourceAt m)) =
      (CacheSources.ofVolume attributes options).places.map fun p => (p.1, some p.2) := by
  rw [cacheMounts_eq h, ← MountSettings.map_cachePlaced hs, List.map_map, List.map_map]
  exact List.map_congr_left fun q hq => by simp [sourceAt_of_mem h hq]

/-! ### The option and the mounts -/

/-- If no place is told, there is one mount, at the usual directory. -/
theorem cacheMounts_of_paths_eq_nil (hs : s.Caching c attributes options)
    (h : buildFor c s capacity volumeName = .ok sidecar)
    (hpaths : (CacheSources.ofVolume attributes options).paths = []) :
    sidecar.cacheMounts = [{ name := "cachedir-0", mountPath := defaultCacheDir }] := by
  have hdirs : (CacheSources.ofVolume attributes options).hostCaches = [defaultCacheDir] := by
    rw [CacheSources.hostCaches, hpaths]
    rfl
  obtain ⟨hpvcs, hemptyDir, hinline, -⟩ := (CacheSources.paths_eq_nil_iff _).mp hpaths
  rw [cacheMounts_eq h, MountSettings.cachePlaced, hs.pvcs, hs.emptyDir, hs.inlineVolumes, hs.dirs,
    hpvcs, hemptyDir, hinline, hdirs]
  rfl

/-- If places are told, those besides the memory are the places of the mounts. -/
theorem fields_eq_mountPaths (hs : s.Caching c attributes options)
    (h : buildFor c s capacity volumeName = .ok sidecar)
    (hpaths : (CacheSources.ofVolume attributes options).paths ≠ []) :
    (fields ':' (joined ":" (CacheSources.ofVolume attributes options).paths)).filter
        (· ≠ "memory") = sidecar.cacheMounts.map (·.mountPath) := by
  have hplaces := congrArg (List.map Prod.fst) (cacheMounts_of_buildFor hs h)
  rw [List.map_map, List.map_map] at hplaces
  rw [CacheSources.fields_joined_paths hpaths, CacheSources.filter_paths hpaths,
    ← CacheSources.map_fst_places]
  exact hplaces.symm

/-- **The option of the client and the mounts of its sidecar** are about the same caches. -/
structure CachesAgree (attributes : Keyed String) (options : List String) (s : MountSettings)
    (sidecar : Sidecar) : Prop where
  /-- An option `cache-dir` tells the places of the mounts, in their order, and nothing else but
  memory. -/
  told : ∀ o ∈ s.options, isCacheDir o = true → ∃ value, o = cacheDirOption ++ "=" ++ value ∧
    (fields ':' value).filter (· ≠ "memory") = sidecar.cacheMounts.map (·.mountPath)
  /-- Without such an option, there is one mount, at the usual directory. -/
  untold : (∀ o ∈ s.options, isCacheDir o = false) →
    sidecar.cacheMounts = [{ name := "cachedir-0", mountPath := defaultCacheDir }]
  /-- The volume at each mount has the content that its place asks for. -/
  content : sidecar.cacheMounts.map (fun m => (m.mountPath, sidecar.sourceAt m)) =
    (CacheSources.ofVolume attributes options).places.map fun p => (p.1, some p.2)

/-- If at most one option begins with `cache-dir` and that one names directories, none is left when
it is taken out. -/
theorem filter_eraseP_namesDirs
    (honce : (options.filter (beginsWith cacheDirOption)).length ≤ 1)
    (hnames : ∀ o ∈ options, beginsWith cacheDirOption o = true → namesDirs o = true) :
    (options.eraseP namesDirs).filter (beginsWith cacheDirOption) = [] := by
  induction options with
  | nil => rfl
  | cons option options ih =>
    obtain ⟨hoption, hnames⟩ := List.forall_mem_cons.mp hnames
    cases hbegins : beginsWith cacheDirOption option with
    | true =>
      rw [List.filter_cons_of_pos hbegins, List.length_cons] at honce
      rw [List.eraseP_cons_of_pos (hoption hbegins)]
      exact List.eq_nil_of_length_eq_zero (by omega)
    | false =>
      have hnot : namesDirs option = false := by rw [namesDirs, hbegins, Bool.false_and]
      rw [List.filter_cons_of_neg (by simp [hbegins])] at honce
      rw [List.eraseP_cons_of_neg (by simp [hnot]), List.filter_cons_of_neg (by simp [hbegins])]
      exact ih honce hnames

/-- **Caches and their mounts.** The settings of a volume with at most one option that begins with
`cache-dir`, which has one equals sign, tell the client the places of the mounts of their
sidecar. -/
theorem cachesAgree_of_buildFor {secret : Option (Keyed String)}
    (hs : MountSettings.resolve secret attributes options c = .ok s)
    (honce : (options.filter (beginsWith cacheDirOption)).length ≤ 1)
    (hequals : ∀ o ∈ options, beginsWith cacheDirOption o = true → (fields '=' o).length = 2)
    (h : buildFor c s capacity volumeName = .ok sidecar) :
    sidecar.CachesAgree attributes options s := by
  have hcaching := MountSettings.caching_of_resolve hs
  have hleft : ∀ o ∈ options.eraseP namesDirs, isCacheDir o = false := by
    intro o ho
    have hnames : ∀ o ∈ options, beginsWith cacheDirOption o = true → namesDirs o = true := by
      intro o ho hbegins
      rw [namesDirs, hbegins, hequals o ho hbegins]
      rfl
    have hnone := List.filter_eq_nil_iff.mp (filter_eraseP_namesDirs honce hnames) o ho
    cases hkey : isCacheDir o with
    | false => rfl
    | true => exact absurd (beginsWith_of_isCacheDir hkey) hnone
  have hoptions := hcaching.options
  rw [CacheSources.clientOptions] at hoptions
  by_cases hpaths : (CacheSources.ofVolume attributes options).paths = []
  · rw [if_pos (by simpa using hpaths)] at hoptions
    refine ⟨fun o ho hkey => ?_, fun _ => ?_, cacheMounts_of_buildFor hcaching h⟩
    · exact absurd hkey (by simp [hleft o (hoptions ▸ ho)])
    · exact cacheMounts_of_paths_eq_nil hcaching h hpaths
  · rw [if_neg (by simpa using hpaths)] at hoptions
    refine ⟨fun o ho hkey => ?_, fun hnone => ?_, cacheMounts_of_buildFor hcaching h⟩
    · rw [hoptions] at ho
      obtain ho | ho := List.mem_append.mp ho
      · exact absurd hkey (by simp [hleft o ho])
      · exact ⟨_, List.mem_singleton.mp ho, fields_eq_mountPaths hcaching h hpaths⟩
    · have hlast := hnone _ (hoptions ▸ List.mem_append_right _ (List.mem_singleton_self _))
      rw [isCacheDir_append] at hlast
      cases hlast

/-- Attributes that give claims, a directory of the pod and an inline volume. -/
def mixedAttributes : Keyed String :=
  [(Attribute.cachePvc, "cache-a,, cache-b"), (Attribute.cacheEmptyDir, "Memory:1Gi"),
   (Attribute.cacheInlineVolume, "[\x7b\"driver\": \"disk.csi.example\"\x7d]")]

/-- Options that name the memory and a directory of the host. -/
def mixedOptions : List String := ["ro", "cache-dir=memory:/data/a", "cache-size=1024"]

theorem cachesAgree_of_buildFor_mixedVolume : ∃ s sidecar,
    MountSettings.resolve none mixedAttributes mixedOptions {} = .ok s ∧
      s.options = ["ro", "cache-size=1024", "cache-dir=/var/cfsCache-0:/var/cfsCache-2:" ++
        "/var/cfsCache-emptyDir:/var/cfsCache-inlineVolume-0:memory:/data/a"] ∧
      buildFor {} s 1 (.str "data") = .ok sidecar ∧
      sidecar.CachesAgree mixedAttributes mixedOptions s := by
  obtain ⟨s, hs, hoptions⟩ : ∃ s,
      MountSettings.resolve none mixedAttributes mixedOptions {} = .ok s ∧
      s.options = ["ro", "cache-size=1024", "cache-dir=/var/cfsCache-0:/var/cfsCache-2:" ++
        "/var/cfsCache-emptyDir:/var/cfsCache-inlineVolume-0:memory:/data/a"] := ⟨_, rfl, by rfl⟩
  have hcapacity : Integer.isWritable 1 = true := by decide +kernel
  obtain ⟨sidecar, h⟩ :=
    exists_buildFor (MountSettings.isCe_of_resolve hs) hcapacity (.str "data")
  exact ⟨s, sidecar, hs, hoptions, h, cachesAgree_of_buildFor hs (by decide) (by decide) h⟩

end Sidecar

end SubpathCsi
