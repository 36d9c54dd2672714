import SubpathCsi.Proofs.Settings.Caches

/-!
# One option for all caches

Whatever says where to cache, the client is told by one option, whose key is `cache-dir`. An option
of this key that the volume brings is taken out, and its directories are told by the new one. But
the option that is taken out is looked for by how it begins and by its equals signs, not by its key:
only the first is taken, it may be one of a longer key, and one whose value holds an equals sign is
left.

* `isCacheDir`, `isCacheDir_iff`: the options of this key;
* `GivesCache`, `CacheSources.paths_ofVolume_ne_nil_iff`: when there is a place to tell;
* `MountSettings.Collapsed`, `Collapsible`: all places are told by one option, and no other option
  is lost; the volumes for which it is so;
* `MountSettings.collapsed_iff`: it is so for these volumes, and for no others.
-/

namespace SubpathCsi

/-! ### Keys of options -/

/-- The key of an option: what stands before its first equals sign. -/
def optionKey (option : String) : String := (fields '=' option).headD ""

/-- The option has the key `cache-dir`. -/
def isCacheDir (option : String) : Bool := optionKey option == cacheDirOption

theorem isCacheDir_append (value : String) :
    isCacheDir (cacheDirOption ++ "=" ++ value) = true := by
  have hequals : "=".toList = ['='] := by decide
  rw [isCacheDir, optionKey, fields_append hequals]
  rfl

/-- An option has the key if it is the key alone or begins with the key and an equals sign. -/
theorem isCacheDir_iff {option : String} : isCacheDir option = true ↔
    option = cacheDirOption ∨ beginsWith (cacheDirOption ++ "=") option = true := by
  constructor
  · intro h
    obtain ⟨key, rest, hfields⟩ := exists_fields_eq_cons '=' option
    have hkey : key = cacheDirOption := by
      rw [isCacheDir, optionKey, hfields] at h
      exact eq_of_beq h
    subst hkey
    have hequals : "=".toList = ['='] := by decide
    obtain ⟨hoption, -⟩ | hoption := eq_append_of_fields hequals hfields
    · exact .inl hoption
    · exact .inr (beginsWith_iff.mpr hoption)
  · rintro (rfl | h)
    · decide
    · obtain ⟨value, rfl⟩ := beginsWith_iff.mp h
      exact isCacheDir_append value

theorem beginsWith_of_isCacheDir {option : String} (h : isCacheDir option = true) :
    beginsWith cacheDirOption option = true := by
  obtain rfl | h := isCacheDir_iff.mp h
  · decide
  · obtain ⟨value, rfl⟩ := beginsWith_iff.mp h
    rw [String.append_assoc]
    exact beginsWith_iff.mpr ⟨_, rfl⟩

/-- An option of the key that names directories has an equals sign behind the key. -/
theorem beginsWith_of_namesDirs {option : String} (hkey : isCacheDir option = true)
    (hnames : namesDirs option = true) : beginsWith (cacheDirOption ++ "=") option = true := by
  obtain rfl | h := isCacheDir_iff.mp hkey
  · exact absurd hnames (by decide)
  · exact h

/-! ### Places to tell -/

/-- The attributes of a volume say where to cache: in a claim that is listed, in a directory of the
pod, or in an inline volume that is listed. -/
def GivesCache (attributes : Keyed String) : Prop :=
  (∃ name ∈ fields ',' (trimmed (textAt attributes Attribute.cachePvc)), name ≠ "") ∨
  (∃ text, Keyed.get? attributes Attribute.cacheEmptyDir = some text) ∨
  ∃ text, Keyed.get? attributes Attribute.cacheInlineVolume = some text ∧
    CacheSources.inlineSources text ≠ []

namespace CacheSources

variable (attributes : Keyed String) (options : List String)

theorem inlineVolumes_ofVolume_ne_nil_iff : (ofVolume attributes options).inlineVolumes ≠ [] ↔
    ∃ text, Keyed.get? attributes Attribute.cacheInlineVolume = some text ∧
      inlineSources text ≠ [] := by
  rw [inlineVolumes_ofVolume]
  cases Keyed.get? attributes Attribute.cacheInlineVolume <;> simp [inlineVolumesOf]

theorem emptyDir_ofVolume_ne_none_iff : (ofVolume attributes options).emptyDir ≠ none ↔
    ∃ text, Keyed.get? attributes Attribute.cacheEmptyDir = some text := by
  rw [emptyDir_ofVolume]
  cases Keyed.get? attributes Attribute.cacheEmptyDir <;> simp

theorem paths_eq_nil_iff (r : CacheSources) : r.paths = [] ↔
    r.pvcs = [] ∧ r.emptyDir = none ∧ r.inlineVolumes = [] ∧ r.hostDirs = [] := by
  rw [paths]
  cases r.emptyDir <;> simp

/-- There is a place to tell if the attributes give one or an option names directories. -/
theorem paths_ofVolume_ne_nil_iff : (ofVolume attributes options).paths ≠ [] ↔
    GivesCache attributes ∨ ∃ o ∈ options, namesDirs o = true := by
  have hdirs : (ofVolume attributes options).hostDirs ≠ [] ↔ ∃ o ∈ options, namesDirs o = true := by
    rw [ne_eq, hostDirs_ofVolume, namedDirs_eq_nil_iff]
    simp
  rw [GivesCache, ← pvcsOf_ne_nil_iff, ← pvcs_ofVolume attributes options,
    ← emptyDir_ofVolume_ne_none_iff attributes options,
    ← inlineVolumes_ofVolume_ne_nil_iff attributes options, ← hdirs, ne_eq, paths_eq_nil_iff]
  simp only [Classical.not_and_iff_not_or_not, or_assoc, ne_eq]

end CacheSources

/-! ### The options of the client -/

namespace MountSettings

/-- **All places are told by one option**, and no other option is lost. -/
structure Collapsed (attributes : Keyed String) (options : List String) (s : MountSettings) :
    Prop where
  /-- At most one option has the key. -/
  once : (s.options.filter isCacheDir).length ≤ 1
  /-- There is one if a place for caches is given: by the attributes, or by an option of the key
  with an equals sign. -/
  given : (∃ o ∈ s.options, isCacheDir o = true) ↔
    GivesCache attributes ∨ ∃ o ∈ options, beginsWith (cacheDirOption ++ "=") o = true
  /-- The options with other keys are as they were. -/
  rest : s.options.filter (!isCacheDir ·) = options.filter (!isCacheDir ·)

/-- The options of a volume are such that the one that is taken out is the only one of its key. -/
structure Collapsible (attributes : Keyed String) (options : List String) : Prop where
  /-- The option that is taken out has the key. -/
  taken : ∀ o, options.find? namesDirs = some o → isCacheDir o = true
  /-- At most one option has the key. -/
  once : (options.filter isCacheDir).length ≤ 1
  /-- An option of the key names directories, or else holds several equals signs while the
  attributes give no place for caches. -/
  names : ∀ o ∈ options, isCacheDir o = true → namesDirs o = true ∨
    beginsWith (cacheDirOption ++ "=") o = true ∧ ¬GivesCache attributes

variable {attributes : Keyed String} {options : List String} {s : MountSettings}

/-- If at most one option has the key, then any two that have it are the same. -/
theorem eq_of_isCacheDir (honce : (options.filter isCacheDir).length ≤ 1) {o o' : String}
    (ho : o ∈ options) (ho' : o' ∈ options) (hkey : isCacheDir o = true)
    (hkey' : isCacheDir o' = true) : o = o' := by
  have hmem := List.mem_filter.mpr ⟨ho, hkey⟩
  have hmem' := List.mem_filter.mpr ⟨ho', hkey'⟩
  generalize options.filter isCacheDir = keyed at honce hmem hmem'
  match keyed, honce with
  | [only], _ => rw [List.mem_singleton.mp hmem, List.mem_singleton.mp hmem']

/-- The option that tells the places is added to those of the key. -/
theorem filter_isCacheDir_added (kept : List String) (value : String) :
    (kept ++ [cacheDirOption ++ "=" ++ value]).filter isCacheDir =
      kept.filter isCacheDir ++ [cacheDirOption ++ "=" ++ value] := by
  rw [List.filter_append, List.filter_cons_of_pos (isCacheDir_append value), List.filter_nil]

/-- If no option names directories, none is taken out. -/
theorem isCacheDir_of_find?_namesDirs (hnames : ∀ o ∈ options, namesDirs o = false) (o : String)
    (ho : options.find? namesDirs = some o) : isCacheDir o = true := by
  have hfound := List.find?_some ho
  rw [hnames o (List.mem_of_find?_eq_some ho)] at hfound
  cases hfound

section Taken

variable {before after : List String} {option value : String}

/-- One option is taken out and another is added: that one tells all places if the one that was
taken out was the only one of the key. -/
theorem collapsed_iff_of_taken (hnames : namesDirs option = true)
    (hs : s.options = before ++ after ++ [cacheDirOption ++ "=" ++ value]) :
    s.Collapsed attributes (before ++ option :: after) ↔
      isCacheDir option = true ∧ (before ++ after).filter isCacheDir = [] := by
  have hvalue := isCacheDir_append value
  have hadded := hs ▸ filter_isCacheDir_added (before ++ after) value
  constructor
  · intro h
    refine ⟨?_, ?_⟩
    · have hlength := congrArg List.length h.rest
      rw [hs] at hlength
      cases hkey : isCacheDir option with
      | true => rfl
      | false => simp [hvalue, hkey] at hlength
    · have honce := h.once
      rw [hadded, List.length_append, List.length_singleton] at honce
      exact List.eq_nil_of_length_eq_zero (by omega)
  · rintro ⟨hkey, hothers⟩
    refine ⟨?_, ?_, ?_⟩
    · simp [hadded, hothers]
    · refine iff_of_true ⟨_, hs ▸ List.mem_append_right _ (List.mem_singleton_self _), hvalue⟩
        (.inr ⟨option, List.mem_append_right _ (List.mem_cons_self ..), ?_⟩)
      exact beginsWith_of_namesDirs hkey hnames
    · simp [hs, hkey, hvalue]

/-- The options are collapsible if the one that is taken out is the only one of the key. -/
theorem collapsible_iff_of_taken (hnames : namesDirs option = true)
    (hbefore : ∀ o ∈ before, namesDirs o = false) :
    Collapsible attributes (before ++ option :: after) ↔
      isCacheDir option = true ∧ (before ++ after).filter isCacheDir = [] := by
  have hfind : (before ++ option :: after).find? namesDirs = some option :=
    List.find?_eq_some_iff_append.mpr ⟨hnames, before, after, rfl, by simpa using hbefore⟩
  have hlength (hkey : isCacheDir option = true) :
      ((before ++ option :: after).filter isCacheDir).length =
        ((before ++ after).filter isCacheDir).length + 1 := by
    simp only [List.filter_append, List.filter_cons_of_pos hkey, List.length_append,
      List.length_cons, Nat.add_assoc]
  constructor
  · intro h
    have hkey := h.taken option hfind
    have honce := h.once
    rw [hlength hkey] at honce
    exact ⟨hkey, List.eq_nil_of_length_eq_zero (by omega)⟩
  · rintro ⟨hkey, hothers⟩
    refine ⟨fun o ho => ?_, ?_, fun o ho hown => .inl ?_⟩
    · cases hfind.symm.trans ho
      exact hkey
    · rw [hlength hkey, hothers]
      exact Nat.le_refl 1
    · -- no other option than the one that is taken out has the key
      obtain hother | rfl : o ∈ before ++ after ∨ o = option := by
        simp only [List.mem_append, List.mem_cons] at ho ⊢
        exact ho.elim (fun h => .inl (.inl h)) fun h => h.elim .inr fun h => .inl (.inr h)
      · exact absurd hown (List.filter_eq_nil_iff.mp hothers o hother)
      · exact hnames

end Taken

/-- No option is taken out, and one is added for the places that the attributes give. -/
theorem collapsed_iff_of_added {value : String} (hnames : ∀ o ∈ options, namesDirs o = false)
    (hgives : GivesCache attributes)
    (hs : s.options = options ++ [cacheDirOption ++ "=" ++ value]) :
    s.Collapsed attributes options ↔ Collapsible attributes options := by
  have hvalue := isCacheDir_append value
  have hadded := hs ▸ filter_isCacheDir_added options value
  constructor
  · intro h
    have honce := h.once
    rw [hadded, List.length_append, List.length_singleton] at honce
    have hnone : options.filter isCacheDir = [] := List.eq_nil_of_length_eq_zero (by omega)
    refine ⟨isCacheDir_of_find?_namesDirs hnames, by simp [hnone], fun o ho hown => ?_⟩
    exact absurd hown (List.filter_eq_nil_iff.mp hnone o ho)
  · intro h
    have hnone : options.filter isCacheDir = [] := by
      refine List.filter_eq_nil_iff.mpr fun o ho hown => ?_
      obtain hdirs | ⟨-, hnot⟩ := h.names o ho hown
      · exact absurd hdirs (by simp [hnames o ho])
      · exact hnot hgives
    refine ⟨by simp [hadded, hnone], ?_, by simp [hs, hvalue]⟩
    exact iff_of_true ⟨_, hs ▸ List.mem_append_right _ (List.mem_singleton_self _), hvalue⟩
      (.inl hgives)

/-- No option is taken out and none is added. -/
theorem collapsed_iff_of_kept (hnames : ∀ o ∈ options, namesDirs o = false)
    (hgives : ¬GivesCache attributes) (hs : s.options = options) :
    s.Collapsed attributes options ↔ Collapsible attributes options := by
  constructor
  · intro h
    have honce := hs ▸ h.once
    refine ⟨isCacheDir_of_find?_namesDirs hnames, honce, fun o ho hown => .inr ⟨?_, hgives⟩⟩
    obtain hgiven | ⟨o', ho', hvalue⟩ := h.given.mp ⟨o, hs ▸ ho, hown⟩
    · exact absurd hgiven hgives
    · rwa [eq_of_isCacheDir honce ho ho' hown (isCacheDir_iff.mpr (.inr hvalue))]
  · intro h
    refine ⟨hs ▸ h.once, ?_, by rw [hs]⟩
    rw [or_iff_right hgives, hs]
    refine exists_congr fun o => and_congr_right fun ho => ⟨fun hown => ?_, fun hvalue => ?_⟩
    · obtain hdirs | ⟨hvalue, -⟩ := h.names o ho hown
      · exact absurd hdirs (by simp [hnames o ho])
      · exact hvalue
    · exact isCacheDir_iff.mpr (.inr hvalue)

/-- **One option for all caches.** The places are told by one option, and no other option is lost,
exactly for the volumes whose options are such. -/
theorem collapsed_iff {secret : Option (Keyed String)} {c : Config}
    (h : resolve secret attributes options c = .ok s) :
    s.Collapsed attributes options ↔ Collapsible attributes options := by
  have hoptions := (caching_of_resolve h).options
  rw [CacheSources.clientOptions] at hoptions
  cases hfind : options.find? namesDirs with
  | some option =>
    obtain ⟨hnames, before, after, rfl, hbefore⟩ := List.find?_eq_some_iff_append.mp hfind
    replace hbefore : ∀ o ∈ before, namesDirs o = false := by simpa using hbefore
    have hpaths := (CacheSources.paths_ofVolume_ne_nil_iff attributes _).mpr
      (.inr ⟨option, List.mem_of_find?_eq_some hfind, hnames⟩)
    rw [if_neg (by simpa using hpaths), List.eraseP_append_right _ (by simpa using hbefore),
      List.eraseP_cons_of_pos hnames] at hoptions
    rw [collapsed_iff_of_taken hnames hoptions, collapsible_iff_of_taken hnames hbefore]
  | none =>
    have hnames : ∀ o ∈ options, namesDirs o = false := by simpa using hfind
    have hpaths :
        (CacheSources.ofVolume attributes options).paths ≠ [] ↔ GivesCache attributes := by
      rw [CacheSources.paths_ofVolume_ne_nil_iff, or_iff_left]
      rintro ⟨o, ho, hdirs⟩
      exact absurd hdirs (by simp [hnames o ho])
    rw [List.eraseP_of_forall_not (by simpa using hnames)] at hoptions
    by_cases hgives : GivesCache attributes
    · rw [if_neg (by simpa using hpaths.mpr hgives)] at hoptions
      exact collapsed_iff_of_added hnames hgives hoptions
    · rw [if_pos (by simpa using mt hpaths.mp hgives)] at hoptions
      exact collapsed_iff_of_kept hnames hgives hoptions

/-- Attributes that give two claims and a directory of the pod. -/
def cachingAttributes : Keyed String :=
  [(Attribute.cachePvc, "cache-a, cache-b"), (Attribute.cacheEmptyDir, "Memory")]

/-- Options one of which names directories. -/
def cachingOptions : List String := ["ro", "cache-dir=/data/a:memory", "cache-size=1024"]

theorem collapsed_iff_cachingVolume :
    ∃ s, resolve none cachingAttributes cachingOptions {} = .ok s ∧
      s.options = ["ro", "cache-size=1024",
        "cache-dir=/var/cfsCache-0:/var/cfsCache-1:/var/cfsCache-emptyDir:/data/a:memory"] ∧
      s.Collapsed cachingAttributes cachingOptions := by
  obtain ⟨s, hs, hoptions⟩ : ∃ s, resolve none cachingAttributes cachingOptions {} = .ok s ∧
      s.options = ["ro", "cache-size=1024",
        "cache-dir=/var/cfsCache-0:/var/cfsCache-1:/var/cfsCache-emptyDir:/data/a:memory"] :=
    ⟨_, rfl, by rfl⟩
  have hnames : ∀ o ∈ cachingOptions, isCacheDir o = true → namesDirs o = true := by decide
  refine ⟨s, hs, hoptions, (collapsed_iff hs).mpr ⟨fun o ho => ?_, by decide, ?_⟩⟩
  · cases ho
    decide
  · exact fun o ho hown => .inl (hnames o ho hown)

/-- Two options of the key: the first is taken out and comes back behind the second. An option of a
longer key: it is taken out, and its value is told as a place. -/
theorem not_collapsed_repeatedOptions :
    (∃ s, resolve none [] ["cache-dir=/data/a", "cache-dir=/data/b"] {} = .ok s ∧
      s.options = ["cache-dir=/data/b", "cache-dir=/data/a"] ∧
      ¬s.Collapsed [] ["cache-dir=/data/a", "cache-dir=/data/b"]) ∧
    ∃ s, resolve none [] ["cache-dir-mode=x", "ro"] {} = .ok s ∧
      s.options = ["ro", "cache-dir=x"] ∧ ¬s.Collapsed [] ["cache-dir-mode=x", "ro"] := by
  refine ⟨⟨_, rfl, by rfl, fun h => ?_⟩, ⟨_, rfl, by rfl, fun h => ?_⟩⟩
  · exact absurd h.once (by decide)
  · exact absurd h.rest (by decide)

end MountSettings

end SubpathCsi
