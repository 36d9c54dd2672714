import Mathlib.Data.List.Nodup
import SubpathCsi.Config
import SubpathCsi.Proofs.Act.Trace

/-!
# Settings, one by one

The settings are read one after another into one record, and an integer that cannot be read leaves
what is there. All the same no setting depends on another one: each field of the record is written
for one setting only, and has its default until then.

* `Config.contents`, `Config.ext_contents`: the fields are those of the table of settings;
* `Setting.Spares`, `Setting.pairwise_spares`: reading a setting leaves the fields of all others;
* `Setting.result`: what a field holds, given the text of its setting alone;
* `Config.exists_read_iff`, `Config.load_eq_ok_iff`: when the configuration is read, and what it is.
-/

namespace SubpathCsi

/-! ### Fields -/

/-- What a field of a configuration holds. -/
inductive Content where
  /-- A text. -/
  | text (s : String)
  /-- An integer. -/
  | number (n : Int)
  /-- A truth value. -/
  | flag (b : Bool)
  /-- Texts. -/
  | list (items : List String)
  /-- A text that may be absent. -/
  | optional (s : Option String)
  deriving DecidableEq, Repr

/-- What a configuration holds under a setting. -/
def Setting.content (s : Setting) (c : Config) : Content :=
  match s.value with
  | .text get _ => .text (get c)
  | .number get _ => .number (get c)
  | .flag get _ => .flag (get c)
  | .list get _ => .list (get c)
  | .optional get _ => .optional (get c)
  | .lifetime get _ => .number (get c)

/-- All that a configuration holds, in the order of the settings. -/
def Config.contents (c : Config) : List Content := Setting.all.map (·.content c)

/-- **Completeness of the table.** A configuration has no fields but those of the settings. -/
theorem Config.ext_contents {c c' : Config} (h : c.contents = c'.contents) : c = c' := by
  cases c
  cases c'
  simp only [contents, Setting.all, List.map_cons, List.map_nil, Setting.content, List.cons.injEq,
    Content.text.injEq, Content.number.injEq, Content.flag.injEq, Content.list.injEq,
    Content.optional.injEq] at h
  rw [Config.mk.injEq]
  grind

/-- `set` writes the field at a place: what is written is read again, and all other fields stay. -/
def Config.WritesAt {α : Type} (place : Nat) (wrap : α → Content) (get : Config → α)
    (set : Config → α → Config) : Prop :=
  ∀ c v, get (set c v) = v ∧ (set c v).contents = c.contents.set place (wrap v)

namespace Setting

/-- The setting is for the field at a place. -/
def IsAt (s : Setting) (place : Nat) : Prop :=
  match s.value with
  | .text get set => Config.WritesAt place .text get set
  | .number get set => Config.WritesAt place .number get set
  | .flag get set => Config.WritesAt place .flag get set
  | .list get set => Config.WritesAt place .list get set
  | .optional get set => Config.WritesAt place .optional get set
  | .lifetime get set => Config.WritesAt place .number get set

/-- Every setting is for the field at its own place in the table. -/
theorem isAt_of_mem_zipIdx : ∀ p ∈ all.zipIdx, p.1.IsAt p.2 := by
  simp only [all, List.zipIdx_cons, List.zipIdx_nil, List.forall_mem_cons, List.not_mem_nil,
    false_imp_iff, implies_true, and_true]
  and_intros
  all_goals exact fun c v => ⟨rfl, rfl⟩

theorem isAt_getElem {i : Nat} (h : i < all.length) : all[i].IsAt i :=
  isAt_of_mem_zipIdx (all[i], i) (List.mk_mem_zipIdx_iff_getElem?.mpr (List.getElem?_eq_getElem h))

/-! ### Texts -/

variable {s t : Setting} {c c' : Config} {raw : String} {f : Failure}

/-- What a text comes to under a setting. An integer that cannot be read is the default. -/
def meaning (s : Setting) (raw : String) : Except Failure Content :=
  match s.value with
  | .text .. => .ok (.text (trimmed raw))
  | .number get _ => .ok (.number ((Integer.ofText? (trimmed raw)).getD (get {})))
  | .flag .. => .ok (.flag (isTrueWord (trimmed raw)))
  | .list .. => .ok (.list (listItems (trimmed raw)))
  | .optional .. =>
    .ok (.optional (if (trimmed raw).isEmpty then none else some (trimmed raw)))
  | .lifetime .. => (Config.authLifetime (trimmed raw)).map .number

/-- What a field holds, given the text of its setting, if there is one. -/
def result (s : Setting) : Option String → Except Failure Content
  | some raw => s.meaning raw
  | none => .ok (s.content {})

/-- Whether a text is refused does not depend on what the configuration holds so far. -/
theorem exists_assign_iff (s : Setting) (c : Config) (raw : String) :
    (∃ c', s.assign c raw = .ok c') ↔ ∃ x, s.meaning raw = .ok x := by
  unfold assign meaning
  cases s.value with
  | text | number | flag | list | optional => exact ⟨fun _ => ⟨_, rfl⟩, fun _ => ⟨_, rfl⟩⟩
  | lifetime get set =>
    dsimp only
    cases Config.authLifetime (trimmed raw) with
    | error f => simp only [Except.map, reduceCtorEq, exists_false]
    | ok n => simp only [Except.map, Except.ok.injEq, exists_eq']

/-- A text is put in its own place, and means there what it means to a configuration of defaults. -/
theorem assign_eq_ok {i : Nat} (hs : s.IsAt i) (h : s.assign c raw = .ok c') :
    c'.contents = c.contents.set i (s.content c') ∧
      (s.content c = s.content {} → s.meaning raw = .ok (s.content c')) := by
  unfold IsAt at hs
  unfold assign at h
  unfold meaning content
  cases hvalue : s.value with
  | text get set | flag get set | list get set | optional get set =>
    simp only [hvalue] at hs h ⊢
    cases h
    obtain ⟨hget, hset⟩ := hs c _
    exact ⟨by rw [hset, hget], fun _ => by rw [hget]⟩
  | number get set =>
    simp only [hvalue, Content.number.injEq] at hs h ⊢
    cases h
    obtain ⟨hget, hset⟩ := hs c _
    exact ⟨by rw [hset, hget], fun hdefault => by rw [hget, hdefault]⟩
  | lifetime get set =>
    simp only [hvalue] at hs h ⊢
    cases hn : Config.authLifetime (trimmed raw) with
    | error f =>
      rw [hn] at h
      cases h
    | ok n =>
      rw [hn] at h
      cases h
      obtain ⟨hget, hset⟩ := hs c n
      exact ⟨by rw [hset, hget], fun _ => by rw [hget]; rfl⟩

/-- Reading a setting leaves what the configuration holds under another one. -/
def Spares (s t : Setting) : Prop :=
  ∀ {c c' : Config} {raw : String}, s.assign c raw = .ok c' → t.content c' = t.content c

/-- No two settings write one field. -/
theorem pairwise_spares : all.Pairwise fun s t => s.Spares t ∧ t.Spares s := by
  have hspares : ∀ i j (hi : i < all.length) (hj : j < all.length), i ≠ j →
      all[i].Spares all[j] := by
    intro i j hi hj hne c c' raw h
    have hcontents := (assign_eq_ok (isAt_getElem hi) h).1
    have hat : ∀ c : Config, c.contents[j]? = some (all[j].content c) := by
      intro c
      rw [Config.contents, List.getElem?_map, List.getElem?_eq_getElem hj, Option.map_some]
    have hj' := hat c'
    rw [hcontents, List.getElem?_set_ne hne, hat c] at hj'
    exact (Option.some.inj hj').symm
  rw [List.pairwise_iff_getElem]
  intro i j hi hj hlt
  exact ⟨hspares i j hi hj (by omega), hspares j i hj hi (by omega)⟩

end Setting

/-! ### Reading -/

namespace Config

variable {path : String} {file : Option Ini.File} {source : Option String} {env : Keyed String}
  {ss : List Setting} {c c' : Config}

/-- The environment goes before the file. -/
theorem lookup_of_get? {s : Setting} {raw : String} (h : Keyed.get? env s.envName = some raw) :
    lookup path file env s = .ok (some raw) := by
  unfold lookup
  rw [h]

/-- Without a file there is only the environment. -/
theorem lookup_without_file (s : Setting) :
    lookup path none env s = .ok (Keyed.get? env s.envName) := by
  unfold lookup
  cases Keyed.get? env s.envName <;> rfl

/-- What the field of a setting holds when a file and the environment are read. -/
def found (path : String) (file : Option Ini.File) (env : Keyed String) (s : Setting) :
    Except Failure Content := lookup path file env s >>= s.result

theorem found_eq_ok {s : Setting} {x : Content} : found path file env s = .ok x ↔
    ∃ raw?, lookup path file env s = .ok raw? ∧ s.result raw? = .ok x := bind_eq_ok

/-- One setting, and those after it. -/
theorem read_cons_eq_ok {s : Setting} : read path file env (s :: ss) c = .ok c' ↔
    (lookup path file env s = .ok none ∧ read path file env ss c = .ok c') ∨
      ∃ raw next, lookup path file env s = .ok (some raw) ∧ s.assign c raw = .ok next ∧
        read path file env ss next = .ok c' := by
  rw [read, bind_eq_ok]
  constructor
  · rintro ⟨_ | raw, hlookup, h⟩
    · exact .inl ⟨hlookup, h⟩
    · obtain ⟨next, hassign, h⟩ := bind_eq_ok.mp h
      exact .inr ⟨raw, next, hlookup, hassign, h⟩
  · rintro (⟨hlookup, h⟩ | ⟨raw, next, hlookup, hassign, h⟩)
    · exact ⟨none, hlookup, h⟩
    · exact ⟨some raw, hlookup, bind_eq_ok.mpr ⟨next, hassign, h⟩⟩

/-- A field that the settings spare stays as it is. -/
theorem content_read {t : Setting} (ht : ∀ s ∈ ss, s.Spares t)
    (h : read path file env ss c = .ok c') : t.content c' = t.content c := by
  induction ss generalizing c with
  | nil =>
    cases h
    rfl
  | cons s ss ih =>
    obtain ⟨hs, hss⟩ := List.forall_mem_cons.mp ht
    rcases read_cons_eq_ok.mp h with ⟨-, h⟩ | ⟨raw, next, -, hassign, h⟩
    · exact ih hss h
    · rw [ih hss h, hs hassign]

/-- What is read under each setting is what is found for it alone. -/
theorem found_of_read (hat : ∀ s ∈ ss, ∃ i, s.IsAt i)
    (hss : ss.Pairwise fun s t => s.Spares t ∧ t.Spares s)
    (hdefault : ∀ s ∈ ss, s.content c = s.content {}) (h : read path file env ss c = .ok c') :
    ∀ s ∈ ss, found path file env s = .ok (s.content c') := by
  induction ss generalizing c with
  | nil => exact nofun
  | cons s ss ih =>
    obtain ⟨hs, hss⟩ := List.pairwise_cons.mp hss
    obtain ⟨hdefault, hdefaults⟩ := List.forall_mem_cons.mp hdefault
    obtain ⟨⟨i, hi⟩, hat⟩ := List.forall_mem_cons.mp hat
    have hkept : ∀ t ∈ ss, t.Spares s := fun t ht => (hs t ht).2
    rcases read_cons_eq_ok.mp h with ⟨hlookup, h⟩ | ⟨raw, next, hlookup, hassign, h⟩
    · refine List.forall_mem_cons.mpr ⟨?_, ih hat hss hdefaults h⟩
      rw [content_read hkept h, hdefault]
      exact found_eq_ok.mpr ⟨none, hlookup, rfl⟩
    · -- the settings that follow still have their defaults
      have hnext : ∀ t ∈ ss, t.content next = t.content {} := fun t ht => by
        rw [(hs t ht).1 hassign, hdefaults t ht]
      refine List.forall_mem_cons.mpr ⟨?_, ih hat hss hnext h⟩
      rw [content_read hkept h]
      exact found_eq_ok.mpr ⟨some raw, hlookup, (Setting.assign_eq_ok hi hassign).2 hdefault⟩

/-- All settings can be read if something is found for each. -/
theorem exists_read_iff (c : Config) : (∃ c', read path file env ss c = .ok c') ↔
    ∀ s ∈ ss, ∃ x, found path file env s = .ok x := by
  induction ss generalizing c with
  | nil => exact ⟨fun _ => nofun, fun _ => ⟨c, rfl⟩⟩
  | cons s ss ih =>
    rw [List.forall_mem_cons]
    constructor
    · rintro ⟨c', h⟩
      rcases read_cons_eq_ok.mp h with ⟨hlookup, h⟩ | ⟨raw, next, hlookup, hassign, h⟩
      · exact ⟨⟨_, found_eq_ok.mpr ⟨none, hlookup, rfl⟩⟩, (ih c).mp ⟨c', h⟩⟩
      · obtain ⟨x, hx⟩ := (s.exists_assign_iff c raw).mp ⟨next, hassign⟩
        exact ⟨⟨x, found_eq_ok.mpr ⟨some raw, hlookup, hx⟩⟩, (ih next).mp ⟨c', h⟩⟩
    · rintro ⟨⟨x, hx⟩, hss⟩
      obtain ⟨_ | raw, hlookup, hresult⟩ := found_eq_ok.mp hx
      · obtain ⟨c', h⟩ := (ih c).mpr hss
        exact ⟨c', read_cons_eq_ok.mpr (.inl ⟨hlookup, h⟩)⟩
      · obtain ⟨next, hassign⟩ := (s.exists_assign_iff c raw).mpr ⟨x, hresult⟩
        obtain ⟨c', h⟩ := (ih next).mpr hss
        exact ⟨c', read_cons_eq_ok.mpr (.inr ⟨raw, next, hlookup, hassign, h⟩)⟩

/-- **Settings are independent.** Under every setting the configuration holds what is found for it
alone. -/
theorem read_eq_ok_iff : read path file env Setting.all {} = .ok c ↔
    ∀ s ∈ Setting.all, found path file env s = .ok (s.content c) := by
  have hat : ∀ s ∈ Setting.all, ∃ i, s.IsAt i := by
    intro s hs
    obtain ⟨i, hi, rfl⟩ := List.mem_iff_getElem.mp hs
    exact ⟨i, Setting.isAt_getElem hi⟩
  have hfound : ∀ {c}, read path file env Setting.all {} = .ok c →
      ∀ s ∈ Setting.all, found path file env s = .ok (s.content c) :=
    fun h => found_of_read hat Setting.pairwise_spares (fun _ _ => rfl) h
  refine ⟨hfound, fun h => ?_⟩
  obtain ⟨c', hc'⟩ := (exists_read_iff {}).mpr fun s hs => ⟨_, h s hs⟩
  have hcontents : c'.contents = c.contents := by
    refine List.map_congr_left fun s hs => ?_
    have hsame := (hfound hc' s hs).symm.trans (h s hs)
    exact Except.ok.inj hsame
  rw [hc', ext_contents hcontents]

/-! ### Files -/

/-- The file that a text writes, if there is one. -/
def fileOf (path : String) : Option String → Except Failure (Option Ini.File)
  | none => .ok none
  | some text => (Ini.parse text).map some |>.mapError fun e => .defect (.configFile path e)

theorem load_eq (path : String) (source : Option String) (env : Keyed String) :
    load path source env =
      fileOf path source >>= fun file => read path file env Setting.all {} := by
  rw [load]
  cases source with
  | none => rfl
  | some text =>
    rw [fileOf, Option.map_some]
    cases Ini.parse text <;> rfl

theorem load_eq_ok_iff : load path source env = .ok c ↔
    ∃ file, fileOf path source = .ok file ∧
      ∀ s ∈ Setting.all, found path file env s = .ok (s.content c) := by
  rw [load_eq, bind_eq_ok]
  exact exists_congr fun file => and_congr_right fun _ => read_eq_ok_iff

end Config

end SubpathCsi
