import SubpathCsi.Proofs.Sidecar.CacheMounts

/-!
# Mounts at different places

A container is refused if two of its mounts are at one place, if a mount is at none, or if a volume
is of a claim without a name. The places that a sidecar chooses for itself are pairwise different.
The directories of the host that a volume names are taken as they are, those of caches and the
further ones, so that two of them may be the same, or be a place of the sidecar.

* `CacheSources.nodup_ownPaths`: the places of the sidecar itself;
* `hostPlaces`, `Sidecar.mountPaths_of_buildFor`: the directories of the host, and all places;
* `Sidecar.nodup_mountPaths_iff`: when all places are pairwise different.
-/

namespace SubpathCsi

/-! ### Places of the sidecar -/

/-- Of the usual configuration: the script, and the directories for certificates and for the
client. -/
def usualPaths : List String :=
  [Config.checkMountScriptPath {}, confDir, Config.clientConfPath {}]

namespace CacheSources

variable (attributes : Keyed String) (options : List String)

/-- Claims are at numbered places. -/
theorem paths_pvcsOf (text : String) : ((pvcsOf text).map (·.path)).Sublist
    (numberedFor "/var/cfsCache-" (fields ',' (trimmed text))) := by
  rw [pvcsOf, List.map_map]
  exact List.filter_sublist.map _

/-- Inline volumes are at numbered places. -/
theorem paths_inlineVolumesOf (text : String) : (inlineVolumesOf text).map (·.path) =
    numberedFor "/var/cfsCache-inlineVolume-" (inlineSources text) := by
  rw [inlineVolumesOf, numberedFor, List.map_map]
  rfl

/-- The places of the sidecar, by their stems. -/
def stemmedPaths : List (List Char × List String) :=
  usualPaths.map (fun path => (stem path, [path])) ++
    [(stem "/var/cfsCache-", (ofVolume attributes options).pvcs.map (·.path)),
     (stem "/var/cfsCache-emptyDir",
      ((ofVolume attributes options).emptyDir.map (·.path)).toList),
     (stem "/var/cfsCache-inlineVolume-", (ofVolume attributes options).inlineVolumes.map (·.path))]

theorem flatten_stemmedPaths : ((stemmedPaths attributes options).map Prod.snd).flatten =
    usualPaths ++ (ofVolume attributes options).ownPaths := by
  simp [stemmedPaths, usualPaths, ownPaths]

/-- **The places of the sidecar** are pairwise different. -/
theorem nodup_ownPaths : (usualPaths ++ (ofVolume attributes options).ownPaths).Nodup := by
  have hstems : [stem (Config.checkMountScriptPath {}), stem confDir,
      stem (Config.clientConfPath {}), stem "/var/cfsCache-", stem "/var/cfsCache-emptyDir",
      stem "/var/cfsCache-inlineVolume-"].Nodup := by decide +kernel
  have hnumbered : ∀ {α : Type} {start : String} {xs : List α} {paths : List String},
      paths.Sublist (numberedFor start xs) →
        paths.Nodup ∧ ∀ path ∈ paths, stem path = stem start :=
    fun h => ⟨(nodup_numberedFor _ _).sublist h, fun _ hpath =>
      stem_of_mem_numberedFor (h.subset hpath)⟩
  have hsingle : ∀ path : String, [path].Nodup ∧ ∀ p ∈ [path], stem p = stem path := by simp
  rw [← flatten_stemmedPaths]
  refine nodup_of_stems hstems fun g hg => ?_
  simp only [stemmedPaths, usualPaths, List.map_cons, List.map_nil, List.cons_append,
    List.nil_append, List.mem_cons, List.not_mem_nil, or_false] at hg
  rcases hg with rfl | rfl | rfl | rfl | rfl | rfl
  · exact hsingle _
  · exact hsingle _
  · exact hsingle _
  · have hclaims := paths_pvcsOf (textAt attributes Attribute.cachePvc)
    rw [← pvcs_ofVolume attributes options] at hclaims
    generalize (ofVolume attributes options).pvcs.map (·.path) = paths at hclaims ⊢
    exact hnumbered hclaims
  · rw [emptyDir_ofVolume, Option.map_map]
    cases Keyed.get? attributes Attribute.cacheEmptyDir with
    | none => simp
    | some text => simp [path_emptyDirOf]
  · rw [inlineVolumes_ofVolume]
    cases Keyed.get? attributes Attribute.cacheInlineVolume with
    | none => simp
    | some text =>
      rw [Option.map_some, Option.getD_some, paths_inlineVolumesOf]
      exact hnumbered (List.Sublist.refl _)

end CacheSources

/-! ### Directories of the host -/

/-- The directories of the host that a sidecar mounts: those of caches, which is the usual one if
there is no other place for a cache, and the further ones that the volume names. -/
def hostPlaces (attributes : Keyed String) (options : List String) : List String :=
  (CacheSources.ofVolume attributes options).hostCaches ++
    Setting.listItems (textAt attributes Attribute.hostPath)

variable {attributes : Keyed String} {options : List String} {c : Config} {s : MountSettings}

/-- No directory is empty, if the option names no empty one. -/
theorem ne_empty_of_mem_hostPlaces (hdirs : "" ∉ namedDirs options) {dir : String}
    (h : dir ∈ hostPlaces attributes options) : dir ≠ "" := by
  rintro rfl
  obtain hcache | hfurther := List.mem_append.mp h
  · rw [CacheSources.hostCaches, List.mem_filter] at hcache
    obtain ⟨hmem, -⟩ := hcache
    split at hmem
    · exact absurd hmem (by decide)
    · exact hdirs (CacheSources.hostDirs_ofVolume attributes options ▸ hmem)
  · rw [Setting.listItems, List.mem_filter] at hfurther
    exact absurd hfurther.2 (by decide)

namespace Sidecar

variable {secret : Option (Keyed String)} {capacity : Int} {volumeName : Json} {sidecar : Sidecar}

/-- **All places** of a sidecar with the usual configuration: its own, and the directories of the
host. -/
theorem mountPaths_of_buildFor (hs : MountSettings.resolve secret attributes options {} = .ok s)
    (h : buildFor {} s capacity volumeName = .ok sidecar) :
    sidecar.generatedMounts.map (·.mountPath) =
      usualPaths ++ (CacheSources.ofVolume attributes options).ownPaths ++
        hostPlaces attributes options := by
  have hcaching := MountSettings.caching_of_resolve hs
  have hbase : (s.baseVolumes {}).map (·.2.mountPath) = usualPaths := by
    rw [MountSettings.baseVolumes, hcaching.clientConfPath]
    rfl
  have hcache : s.cachePlaced.map (·.2.mountPath) =
      (CacheSources.ofVolume attributes options).ownPaths ++
        (CacheSources.ofVolume attributes options).hostCaches := by
    rw [← CacheSources.map_fst_places, ← MountSettings.map_cachePlaced hcaching, List.map_map]
    rfl
  have hhost : s.hostPlaced.map (·.2.mountPath) =
      Setting.listItems (textAt attributes Attribute.hostPath) := by
    rw [← hcaching.hostPath, MountSettings.hostPlaced, List.map_map]
    exact (MountSettings.map_zipIdx id s.hostPath).trans (List.map_id _)
  obtain ⟨-, -, -, hmounts⟩ := parts_of_buildFor h
  rw [hmounts, List.map_map, MountSettings.cacheVolumes_eq, List.map_append, List.map_append]
  change (s.baseVolumes {}).map (·.2.mountPath) ++ (s.cachePlaced.map (·.2.mountPath) ++
    s.hostPlaced.map (·.2.mountPath)) = _
  rw [hbase, hcache, hhost, hostPlaces, List.append_assoc, List.append_assoc]

/-- The volumes of a sidecar that are of claims are those of the claims that hold caches. -/
theorem exists_claim_iff (h : buildFor c s capacity volumeName = .ok sidecar) {claim : String} :
    (∃ v ∈ sidecar.volumes, v.source = .claim claim) ↔
      ∃ cache ∈ s.cachePvcs, cache.pvcName = claim := by
  obtain ⟨-, -, hvolumes, -⟩ := parts_of_buildFor h
  rw [hvolumes]
  constructor
  · rintro ⟨v, hv, hclaim⟩
    obtain ⟨q, hq, rfl⟩ := List.mem_map.mp hv
    simp only [MountSettings.baseVolumes, MountSettings.cacheVolumes, List.mem_append,
      List.mem_cons, List.not_mem_nil, or_false, List.mem_map, Option.mem_toList,
      Option.map_eq_some_iff, or_assoc] at hq
    obtain rfl | rfl | hq | ⟨⟨cache, i⟩, hcache, rfl⟩ | ⟨cache, -, rfl⟩ | ⟨⟨cache, i⟩, -, rfl⟩ |
      ⟨⟨dir, i⟩, -, rfl⟩ | ⟨⟨dir, i⟩, -, rfl⟩ := hq
    · cases hclaim
    · cases hclaim
    · split at hq
      · cases hq
      · cases List.mem_singleton.mp hq
        cases hclaim
    · cases hclaim
      exact ⟨cache, List.fst_mem_of_mem_zipIdx hcache, rfl⟩
    · cases hclaim
    · cases hclaim
    · cases hclaim
    · cases hclaim
  · rintro ⟨cache, hcache, rfl⟩
    obtain ⟨i, hi⟩ := List.mem_iff_getElem?.mp hcache
    have hplaced : place s!"cachedir-pvc-{i}" cache.path (.claim cache.pvcName) ∈
        s.baseVolumes c ++ s.cacheVolumes := by
      simp only [MountSettings.cacheVolumes, List.mem_append, or_assoc]
      exact .inr (.inl (List.mem_map.mpr ⟨(cache, i), List.mem_zipIdx_iff_getElem?.mpr hi, rfl⟩))
    exact ⟨_, List.mem_map_of_mem hplaced, rfl⟩

/-- **Mounts at different places.** A volume without a secret of its own gets a sidecar. If no
directory in the option is empty, no mount is at the empty place; and if none of the claims that are
listed is blank, no volume is of a claim without a name. The places are pairwise different exactly if
the directories of the host are, and none of these is a place of the sidecar itself. -/
theorem nodup_mountPaths_iff (hs : MountSettings.resolve none attributes options {} = .ok s)
    (hcapacity : Integer.isWritable capacity = true) (volumeName : Json) :
    ∃ sidecar, buildFor {} s capacity volumeName = .ok sidecar ∧
      ("" ∉ namedDirs options → ∀ m ∈ sidecar.generatedMounts, m.mountPath ≠ "") ∧
      ((∀ name ∈ fields ',' (trimmed (textAt attributes Attribute.cachePvc)),
          name ≠ "" → trimmed name ≠ "") →
        ∀ v ∈ sidecar.volumes, ∀ claim, v.source = .claim claim → claim ≠ "") ∧
      ((sidecar.generatedMounts.map (·.mountPath)).Nodup ↔
        (hostPlaces attributes options).Nodup ∧ ∀ dir ∈ hostPlaces attributes options,
          dir ∉ usualPaths ++ (CacheSources.ofVolume attributes options).ownPaths) := by
  obtain ⟨sidecar, h⟩ := exists_buildFor (MountSettings.isCe_of_resolve hs) hcapacity volumeName
  have hpaths := mountPaths_of_buildFor hs h
  refine ⟨sidecar, h, fun hdirs m hm => ?_, fun hclaims v hv claim hclaim => ?_, ?_⟩
  · have hmem : m.mountPath ∈ sidecar.generatedMounts.map (·.mountPath) := List.mem_map_of_mem hm
    rw [hpaths, List.mem_append, List.mem_append] at hmem
    obtain (husual | hown) | hhost := hmem
    · rintro hempty
      rw [hempty] at husual
      exact absurd husual (by decide)
    · rintro hempty
      have hroot := (CacheSources.root_of_mem_ownPaths hown).1
      rw [hempty] at hroot
      exact absurd hroot (by decide)
    · exact ne_empty_of_mem_hostPlaces hdirs hhost
  · obtain ⟨cache, hcache, rfl⟩ := (exists_claim_iff h).mp ⟨v, hv, hclaim⟩
    rw [(MountSettings.caching_of_resolve hs).pvcs, CacheSources.pvcs_ofVolume] at hcache
    obtain ⟨name, i, hname, hne, rfl⟩ := CacheSources.mem_pvcsOf_iff.mp hcache
    exact hclaims name (List.fst_mem_of_mem_zipIdx hname) hne
  · rw [hpaths, List.nodup_append]
    refine (and_iff_right (CacheSources.nodup_ownPaths attributes options)).trans
      (and_congr_right fun _ => ?_)
    refine ⟨fun hdisjoint dir hdir hown => ?_, fun hapart path hpath dir hdir => ?_⟩
    · exact hdisjoint dir hown dir hdir rfl
    · rintro rfl
      exact hapart path hdir hpath

/-- Attributes that give two claims and two further directories. -/
def spreadAttributes : Keyed String :=
  [(Attribute.cachePvc, "cache-a, cache-b"), (Attribute.hostPath, "/data, /srv")]

theorem nodup_mountPaths_spreadVolume : ∃ s sidecar,
    MountSettings.resolve none spreadAttributes ["cache-dir=/fast:memory"] {} = .ok s ∧
      buildFor {} s 1 (.str "data") = .ok sidecar ∧
      (∀ m ∈ sidecar.generatedMounts, m.mountPath ≠ "") ∧
      (∀ v ∈ sidecar.volumes, ∀ claim, v.source = .claim claim → claim ≠ "") ∧
      (sidecar.generatedMounts.map (·.mountPath)).Nodup := by
  obtain ⟨s, hs⟩ : ∃ s,
      MountSettings.resolve none spreadAttributes ["cache-dir=/fast:memory"] {} = .ok s := ⟨_, rfl⟩
  have hcapacity : Integer.isWritable 1 = true := by decide +kernel
  obtain ⟨sidecar, h, hplaced, hclaims, hnodup⟩ :=
    nodup_mountPaths_iff hs hcapacity (.str "data")
  exact ⟨s, sidecar, hs, h, hplaced (by decide), hclaims (by decide), hnodup.mpr (by decide)⟩

/-- A directory that is named twice is mounted twice at one place. A blank name between two commas
is a claim without a name, and an empty directory of the option is a mount at no place. -/
theorem repeated_mountPaths :
    (∃ s sidecar, MountSettings.resolve none [(Attribute.hostPath, "/data,/data")] [] {} = .ok s ∧
      buildFor {} s 1 (.str "data") = .ok sidecar ∧
      ¬(sidecar.generatedMounts.map (·.mountPath)).Nodup) ∧
    (∃ s sidecar,
      MountSettings.resolve none [(Attribute.cachePvc, "cache-a, ,cache-b")] [] {} = .ok s ∧
      buildFor {} s 1 (.str "data") = .ok sidecar ∧
      ∃ v ∈ sidecar.volumes, v.source = .claim "") ∧
    ∃ s sidecar, MountSettings.resolve none [] ["cache-dir=/data/a:"] {} = .ok s ∧
      buildFor {} s 1 (.str "data") = .ok sidecar ∧
      ∃ m ∈ sidecar.generatedMounts, m.mountPath = "" := by
  have hcapacity : Integer.isWritable 1 = true := by decide +kernel
  have hbuilt {attributes : Keyed String} {options : List String} {s : MountSettings}
      (hs : MountSettings.resolve none attributes options {} = .ok s) :
      ∃ sidecar, buildFor {} s 1 (.str "data") = .ok sidecar :=
    exists_buildFor (MountSettings.isCe_of_resolve hs) hcapacity _
  refine ⟨?_, ?_, ?_⟩
  · obtain ⟨s, hs⟩ : ∃ s,
        MountSettings.resolve none [(Attribute.hostPath, "/data,/data")] [] {} = .ok s := ⟨_, rfl⟩
    obtain ⟨sidecar, h⟩ := hbuilt hs
    refine ⟨s, sidecar, hs, h, ?_⟩
    rw [mountPaths_of_buildFor hs h]
    decide
  · obtain ⟨s, hs⟩ : ∃ s,
        MountSettings.resolve none [(Attribute.cachePvc, "cache-a, ,cache-b")] [] {} = .ok s :=
      ⟨_, rfl⟩
    obtain ⟨sidecar, h⟩ := hbuilt hs
    have hpvcs := (MountSettings.caching_of_resolve hs).pvcs
    rw [CacheSources.pvcs_ofVolume] at hpvcs
    refine ⟨s, sidecar, hs, h, (exists_claim_iff h).mpr ⟨⟨"", "/var/cfsCache-1"⟩, ?_, rfl⟩⟩
    rw [hpvcs]
    decide
  · obtain ⟨s, hs⟩ : ∃ s, MountSettings.resolve none [] ["cache-dir=/data/a:"] {} = .ok s :=
      ⟨_, rfl⟩
    obtain ⟨sidecar, h⟩ := hbuilt hs
    have hempty : "" ∈ sidecar.generatedMounts.map (·.mountPath) := by
      rw [mountPaths_of_buildFor hs h]
      decide
    exact ⟨s, sidecar, hs, h, List.mem_map.mp hempty⟩

end Sidecar

end SubpathCsi
