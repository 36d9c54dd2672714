import SubpathCsi.Proofs.Config.Lifetime
import SubpathCsi.Proofs.Ini

/-!
# Files and the environment

A setting may be given in a file or in the environment, and means the same in both. Where both give
it, the environment does, and nothing else in the configuration changes.

* `Setting.isOptionName_of_mem`, `Setting.eq_of_envName_eq`: the names of settings;
* `Config.read_congr`: texts are read without the blanks around them;
* `Config.load_option`: one setting, from the environment or from a file;
* `Config.content_put`, `Config.meaning_put`: a setting that is given in the environment;
* `Config.load_option_and_put`: files and the environment agree, and the environment goes first.
-/

namespace SubpathCsi

/-! ### Names -/

namespace Setting

variable {s t : Setting}

/-- The key of every setting is a name that an option line gives back. -/
theorem isOptionName_of_mem (hs : s ∈ all) : Ini.IsOptionName s.key := by
  have hall : (all.map key).all (fun k => decide (Ini.IsOptionName k)) = true := by decide +kernel
  exact of_decide_eq_true (List.all_eq_true.mp hall _ (List.mem_map_of_mem hs))

/-- No two settings share a variable of the environment. -/
theorem eq_of_envName_eq (hs : s ∈ all) (ht : t ∈ all) (h : s.envName = t.envName) : s = t := by
  have hnodup : (all.map envName).Nodup := by decide +kernel
  exact List.inj_on_of_nodup_map hnodup hs ht h

theorem envName_eq_iff (hs : s ∈ all) (ht : t ∈ all) : s.envName = t.envName ↔ s.key = t.key := by
  constructor
  · intro h
    rw [eq_of_envName_eq hs ht h]
  · intro h
    rw [envName, envName, h]

/-- Blanks around a text do not matter. -/
theorem assign_trimmed (s : Setting) (c : Config) (raw : String) :
    s.assign c (trimmed raw) = s.assign c raw := by
  rw [assign, assign, trimmed_trimmed]

end Setting

namespace Config

variable {path path' : String} {file file' : Option Ini.File} {source : Option String}
  {env env' : Keyed String} {s t : Setting} {v : String} {c c' : Config}

/-! ### One setting -/

/-- Look-ups that find the same texts, blanks around them aside, give one configuration. -/
theorem read_congr {ss : List Setting}
    (h : ∀ s ∈ ss, (lookup path file env s).map (·.map trimmed) =
      (lookup path' file' env' s).map (·.map trimmed)) (c : Config) :
    read path file env ss c = read path' file' env' ss c := by
  induction ss generalizing c with
  | nil => rfl
  | cons s ss ih =>
    obtain ⟨hs, hss⟩ := List.forall_mem_cons.mp h
    have hassign : ∀ {raw raw'}, trimmed raw = trimmed raw' → s.assign c raw = s.assign c raw' := by
      intro raw raw' htrimmed
      rw [← s.assign_trimmed, htrimmed, s.assign_trimmed]
    rw [read, read]
    rcases hfound : lookup path file env s with f | raw? <;>
      rcases hfound' : lookup path' file' env' s with f' | raw?' <;>
      rw [hfound, hfound'] at hs
    · cases hs
      rfl
    · cases hs
    · cases hs
    · have htrimmed : raw?.map trimmed = raw?'.map trimmed := Except.ok.inj hs
      rcases raw? with _ | raw <;> rcases raw?' with _ | raw'
      · exact ih hss c
      · cases htrimmed
      · cases htrimmed
      · change (s.assign c raw >>= fun next => read path file env ss next) =
          s.assign c raw' >>= fun next => read path' file' env' ss next
        rw [hassign (Option.some.inj htrimmed)]
        exact congrArg (s.assign c raw' >>= ·) (funext (ih hss))

/-- A setting that only the file gives. -/
theorem lookup_of_value {f : Ini.File} {raw? : Option String}
    (hget : Keyed.get? env s.envName = none) (hvalue : f.value sectionName s.key = .ok raw?) :
    lookup path (some f) env s = .ok raw? := by
  unfold lookup
  rw [hget]
  dsimp only
  rw [hvalue]

/-- A file that gives one setting. -/
def optionText (s : Setting) (v ending : String) : String :=
  "[" ++ sectionName ++ "]\n" ++ s.key ++ " = " ++ v ++ ending

theorem fileOf_optionText (hs : s ∈ Setting.all) (hv : ∀ c ∈ v.toList, Ini.IsInLine c)
    {ending : String} (hending : ending = "" ∨ ending = "\n") :
    fileOf path (some (optionText s v ending)) =
      .ok (some ⟨[], [(sectionName, [(s.key, trimmed v)])]⟩) := by
  have hname : ∀ c ∈ sectionName.toList, Ini.IsInLine c := by
    have hall : sectionName.toList.all (fun c => decide (Ini.IsInLine c)) = true := by decide
    exact fun c hc => of_decide_eq_true (List.all_eq_true.mp hall c hc)
  have hkey := Setting.isOptionName_of_mem hs
  rw [fileOf, optionText, Ini.parse_option (by decide) (by decide) hname hkey hv hending]
  rfl

/-- **Files and the environment agree.** A setting that is given alone means the same in both. -/
theorem load_option (hs : s ∈ Setting.all) (hv : ∀ c ∈ v.toList, Ini.IsInLine c)
    (hpercent : '%' ∉ v.toList) {ending : String} (hending : ending = "" ∨ ending = "\n") :
    load path none [(s.envName, v)] = load path' (some (optionText s v ending)) [] := by
  have htrimmed : '%' ∉ (trimmed v).toList := by
    rw [trimmed, String.toList_ofList]
    exact fun hmem => hpercent (Text.mem_of_mem_trim hmem)
  rw [load_eq, load_eq, fileOf_optionText hs hv hending]
  change read path none [(s.envName, v)] Setting.all {} = read path' _ [] Setting.all {}
  refine read_congr (fun t ht => ?_) _
  rw [lookup_without_file,
    lookup_of_value (Keyed.get?_nil _) (Ini.File.value_option htrimmed t.key), Keyed.get?_cons]
  by_cases heq : s.key = t.key
  · rw [if_pos ((Setting.envName_eq_iff hs ht).mpr heq), if_pos heq]
    exact congrArg (fun x => Except.ok (some x)) (trimmed_trimmed v).symm
  · rw [if_neg fun henv => heq ((Setting.envName_eq_iff hs ht).mp henv), if_neg heq]
    rfl

/-! ### Settings of the environment -/

/-- A setting that is given in the environment leaves all others as they are. -/
theorem content_put (hs : s ∈ Setting.all) (h : load path source env = .ok c)
    (h' : load path source (Keyed.put env s.envName v) = .ok c') (ht : t ∈ Setting.all)
    (hne : t.key ≠ s.key) : t.content c' = t.content c := by
  obtain ⟨file, hfile, hfound⟩ := load_eq_ok_iff.mp h
  obtain ⟨file', hfile', hfound'⟩ := load_eq_ok_iff.mp h'
  obtain rfl : file = file' := Except.ok.inj (hfile.symm.trans hfile')
  have henv : s.envName ≠ t.envName := by
    intro heq
    exact hne ((Setting.envName_eq_iff hs ht).mp heq).symm
  have hlookup : lookup path file (Keyed.put env s.envName v) t = lookup path file env t := by
    unfold lookup
    rw [Keyed.get?_put, if_neg henv]
  have hsame := hfound' t ht
  rw [found, hlookup] at hsame
  exact Except.ok.inj (hsame.symm.trans (hfound t ht))

/-- What a setting comes to that is given in the environment is said by its text alone. -/
theorem meaning_put (hs : s ∈ Setting.all)
    (h : load path source (Keyed.put env s.envName v) = .ok c) :
    s.meaning v = .ok (s.content c) := by
  obtain ⟨file, -, hfound⟩ := load_eq_ok_iff.mp h
  have hget : Keyed.get? (Keyed.put env s.envName v) s.envName = some v := by
    rw [Keyed.get?_put, if_pos rfl]
  obtain ⟨raw?, hlookup, hresult⟩ := found_eq_ok.mp (hfound s hs)
  rw [lookup_of_get? hget] at hlookup
  cases hlookup
  exact hresult

/-- **Files and the environment.** A setting that is given alone, with a text of one line and
without a percent sign, means the same in the environment and in a file. One that is given in the
environment changes no other setting, whatever else there is, and comes to what its text alone
says, so to the same under any other file and environment. -/
theorem load_option_and_put :
    (∀ s ∈ Setting.all, ∀ v : String, (∀ c ∈ v.toList, Ini.IsInLine c) → '%' ∉ v.toList →
      ∀ path path' ending, ending = "" ∨ ending = "\n" →
        load path none [(s.envName, v)] = load path' (some (optionText s v ending)) []) ∧
    ∀ s ∈ Setting.all, ∀ v path source env c c', load path source env = .ok c →
      load path source (Keyed.put env s.envName v) = .ok c' →
        (∀ t ∈ Setting.all, t.key ≠ s.key → t.content c' = t.content c) ∧
        s.meaning v = .ok (s.content c') ∧
        ∀ path₁ source₁ env₁ c₁, load path₁ source₁ (Keyed.put env₁ s.envName v) = .ok c₁ →
          s.content c₁ = s.content c' := by
  refine ⟨?_, ?_⟩
  · intro s hs v hv hpercent path path' ending hending
    exact load_option hs hv hpercent hending
  · intro s hs v path source env c c' h h'
    have hmeaning : s.meaning v = .ok (s.content c') := meaning_put hs h'
    refine ⟨fun t ht hne => content_put hs h h' ht hne, hmeaning, ?_⟩
    intro path₁ source₁ env₁ c₁ h₁
    exact Except.ok.inj ((meaning_put hs h₁).symm.trans hmeaning)

/-- A text with the signs of an INI file, and blanks around it. -/
def signedText : String := "\u00a0[meta]:1 = x ; # y\t"

theorem load_option_and_put_signedText :
    ∃ s ∈ Setting.all, ∃ t ∈ Setting.all, s.key = "test_meta_url" ∧ t.key = "fs_manager_port" ∧
      load defaultPath none [(s.envName, signedText)] =
        load defaultPath (some (optionText s signedText "\n")) [] ∧
      ∃ c c', load defaultPath (some (optionText t "8091" "")) [] = .ok c ∧
        load defaultPath (some (optionText t "8091" "")) [(s.envName, signedText)] = .ok c' ∧
        t.content c' = t.content c ∧ s.content c' = .text "[meta]:1 = x ; # y" := by
  obtain ⟨s, hs, hskey, hmeaning⟩ : ∃ s ∈ Setting.all, s.key = "test_meta_url" ∧
      s.meaning signedText = .ok (.text (trimmed signedText)) :=
    ⟨_, List.mem_of_getElem? (i := 32) rfl, rfl, rfl⟩
  obtain ⟨t, ht, htkey⟩ : ∃ t ∈ Setting.all, t.key = "fs_manager_port" :=
    ⟨_, List.mem_of_getElem? (i := 21) rfl, rfl⟩
  have hinLine : ∀ v ∈ [signedText, "8091"], ∀ c ∈ v.toList, Ini.IsInLine c := by
    have hall : [signedText, "8091"].all (fun v =>
        v.toList.all fun c => decide (Ini.IsInLine c)) = true := by
      decide +kernel
    intro v hv c hc
    exact of_decide_eq_true (List.all_eq_true.mp (List.all_eq_true.mp hall v hv) c hc)
  have hfile := @fileOf_optionText defaultPath t "8091" ht (hinLine _ (.tail _ (.head _))) ""
    (.inl rfl)
  have hpercent : '%' ∉ (trimmed "8091").toList := by decide +kernel
  -- the file gives a port, and no lifetime
  have hload : ∀ env, Keyed.get? env Setting.authLifetime.envName = none →
      ∃ c, load defaultPath (some (optionText t "8091" "")) env = .ok c := by
    intro env henv
    refine exists_load_iff.mpr ⟨_, hfile, ?_, ?_⟩
    · intro u _
      cases hget : Keyed.get? env u.envName with
      | none => exact ⟨_, lookup_of_value hget (Ini.File.value_option hpercent u.key)⟩
      | some raw => exact ⟨_, lookup_of_get? hget⟩
    · intro given hgiven
      rw [lookup_of_value henv (Ini.File.value_option hpercent _), if_neg (by rw [htkey]; decide)]
        at hgiven
      cases hgiven
  have hother : s.envName ≠ Setting.authLifetime.envName := by
    intro henv
    have hkey := (Setting.envName_eq_iff hs Setting.authLifetime_mem).mp henv
    rw [hskey] at hkey
    exact absurd hkey (by decide)
  obtain ⟨c, hc⟩ := hload [] rfl
  obtain ⟨c', hc'⟩ := hload [(s.envName, signedText)] (by rw [Keyed.get?_cons, if_neg hother]; rfl)
  obtain ⟨hothers, hgiven, -⟩ := load_option_and_put.2 s hs signedText _ _ [] c c' hc hc'
  refine ⟨s, hs, t, ht, hskey, htkey, ?_, c, c', hc, hc', hothers t ht ?_, ?_⟩
  · exact load_option_and_put.1 s hs signedText (hinLine _ (.head _)) (by decide +kernel) _ _ _
      (.inr rfl)
  · rw [hskey, htkey]
    decide
  · have htrimmed : trimmed signedText = "[meta]:1 = x ; # y" := by decide +kernel
    rw [← htrimmed]
    exact (Except.ok.inj (hmeaning.symm.trans hgiven)).symm

end Config

end SubpathCsi
