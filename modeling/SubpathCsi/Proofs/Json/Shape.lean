import Mathlib.Data.List.Forall2
import SubpathCsi.Json.Shape
import SubpathCsi.Proofs.Act.Trace
import SubpathCsi.Proofs.Keyed

/-!
# Values of a shape that was met

A reader that succeeds has met an object, and gives what is in it. A writer that succeeds has
altered one member of an object.

* `mapM_eq_ok`: a reader that goes through a list succeeds with every item;
* `Json.entry_eq_ok`, `Json.find_eq_ok`, `Json.findD_eq_ok`: what was read is the member under the
  key;
* `Json.get?_assign`, `Json.altered_assign`: what was written is one member of the object;
* `Json.set`: a member that is set, in an object or in vain;
* `Json.Altered`: values that differ at most in some of their members;
* `Json.listAt`: the items of the list under a key.
-/

namespace SubpathCsi

/-- A computation goes through a list if it succeeds with every item. -/
theorem mapM_eq_ok {α β : Type} {f : α → Except Failure β} {xs : List α} {ys : List β} :
    xs.mapM f = .ok ys ↔ List.Forall₂ (fun x y => f x = .ok y) xs ys := by
  induction xs generalizing ys with
  | nil =>
    rw [List.mapM_nil, List.forall₂_nil_left_iff]
    refine ⟨fun h => ?_, fun h => ?_⟩
    · cases h
      rfl
    · rw [h]
      rfl
  | cons x xs ih =>
    rw [List.mapM_cons, List.forall₂_cons_left_iff, bind_eq_ok]
    constructor
    · rintro ⟨y, hy, h⟩
      obtain ⟨ys, hys, h⟩ := bind_eq_ok.mp h
      cases h
      exact ⟨y, ys, hy, ih.mp hys, rfl⟩
    · rintro ⟨y, ys, hy, hys, rfl⟩
      exact ⟨y, hy, bind_eq_ok.mpr ⟨ys, ih.mpr hys, rfl⟩⟩

/-- If a computation that succeeds gives what a function does, it maps that function over a list. -/
theorem eq_map_of_mapM {α β : Type} {f : α → Except Failure β} {g : α → β} {xs : List α}
    {ys : List β} (h : xs.mapM f = .ok ys) (hg : ∀ x y, f x = .ok y → y = g x) :
    ys = xs.map g := by
  induction mapM_eq_ok.mp h with
  | nil => rfl
  | cons hxy hrest ih => rw [List.map_cons, hg _ _ hxy, ih (mapM_eq_ok.mpr hrest)]

/-- Of two lists that match item by item, an item of the first has a match in the second. -/
theorem exists_match {α β : Type} {R : α → β → Prop} {xs : List α} {ys : List β}
    (h : List.Forall₂ R xs ys) {x : α} (hx : x ∈ xs) : ∃ y ∈ ys, R x y := by
  induction h with
  | nil => cases hx
  | cons hxy _ ih =>
    obtain ⟨⟩ | ⟨_, hx⟩ := hx
    · exact ⟨_, .head _, hxy⟩
    · obtain ⟨y, hy, hR⟩ := ih hx
      exact ⟨y, .tail _ hy, hR⟩

/-- Lists that match a list in two parts fall into two parts themselves. -/
theorem split_match {α β : Type} {R : α → β → Prop} {xs ys : List α} {zs : List β}
    (h : List.Forall₂ R (xs ++ ys) zs) :
    ∃ first rest, zs = first ++ rest ∧ List.Forall₂ R xs first ∧ List.Forall₂ R ys rest := by
  induction xs generalizing zs with
  | nil => exact ⟨[], zs, rfl, .nil, h⟩
  | cons x xs ih =>
    obtain ⟨z, zs, hxz, hrest, rfl⟩ := List.forall₂_cons_left_iff.mp h
    obtain ⟨first, rest, rfl, hfirst, hrest⟩ := ih hrest
    exact ⟨z :: first, rest, rfl, .cons hxz hfirst, hrest⟩

/-- Matches go on from list to list. -/
theorem trans_match {α β γ : Type} {P : α → β → Prop} {Q : β → γ → Prop} {R : α → γ → Prop}
    (hR : ∀ x y z, P x y → Q y z → R x z) {xs : List α} {ys : List β} {zs : List γ}
    (h : List.Forall₂ P xs ys) (h' : List.Forall₂ Q ys zs) : List.Forall₂ R xs zs := by
  induction h generalizing zs with
  | nil =>
    cases h'
    exact .nil
  | cons hxy _ ih =>
    cases h' with
    | cons hyz h' => exact .cons (hR _ _ _ hxy hyz) (ih h')

namespace Json

variable {j j' v : Json} {key : String}

/-! ### Reading -/

/-- A member that has to be there is read if it is there. -/
theorem entry_eq_ok : j.entry key = .ok v ↔ j.get? key = some v := by
  cases j with
  | obj ms =>
    rw [entry, get?]
    cases Keyed.get? ms key with
    | none =>
      refine ⟨fun h => ?_, fun h => ?_⟩
      · cases h
      · cases h
    | some w => rw [Except.ok.injEq, Option.some_inj]
  | null | bool | int | float | str | arr =>
    refine ⟨fun h => ?_, fun h => ?_⟩
    · cases h
    · cases h

/-- A member that may be missing is looked for in an object. -/
theorem find_eq_ok {x : Option Json} :
    j.find key = .ok x ↔ (∃ ms, j = .obj ms) ∧ j.get? key = x := by
  cases j with
  | obj ms =>
    rw [find, Except.ok.injEq]
    exact (and_iff_right ⟨ms, rfl⟩).symm
  | null | bool | int | float | str | arr =>
    refine ⟨fun h => ?_, ?_⟩
    · cases h
    · rintro ⟨⟨ms, h⟩, -⟩
      cases h

theorem findD_eq_ok {default : Json} :
    j.findD key default = .ok v ↔ (∃ ms, j = .obj ms) ∧ (j.get? key).getD default = v := by
  cases j with
  | obj ms =>
    change Except.ok _ = _ ↔ _
    rw [Except.ok.injEq]
    exact (and_iff_right ⟨ms, rfl⟩).symm
  | null | bool | int | float | str | arr =>
    refine ⟨fun h => ?_, ?_⟩
    · cases h
    · rintro ⟨⟨ms, h⟩, -⟩
      cases h

/-- What is present is read as it stands, whatever else stands for a missing member. -/
theorem get?_of_findD {default : Json} (h : j.findD key default = .ok v)
    (hv : v.isPresent = true) (hdefault : default.isPresent = false) : j.get? key = some v := by
  obtain ⟨-, h⟩ := findD_eq_ok.mp h
  cases hget : j.get? key with
  | none =>
    rw [hget] at h
    rw [← h, Option.getD_none, hdefault] at hv
    cases hv
  | some w =>
    rw [hget] at h
    exact congrArg some h

/-- The value is an object. -/
def IsObject (j : Json) : Prop := ∃ ms, j = .obj ms

theorem isObject_of_get? (h : j.get? key = some v) : j.IsObject := by
  cases j with
  | obj ms => exact ⟨ms, rfl⟩
  | null | bool | int | float | str | arr => cases h

/-- What has a member is present. -/
theorem isPresent_of_get? (h : j.get? key = some v) : j.isPresent = true := by
  obtain ⟨ms, rfl⟩ := isObject_of_get? h
  cases ms with
  | nil => cases h
  | cons m ms => rfl

/-- The items of the list under a key; none if there is no list. -/
def listAt (j : Json) (key : String) : List Json := ((j.get? key).bind items?).getD []

theorem listAt_of_get? {xs : List Json} (h : j.get? key = some (.arr xs)) : j.listAt key = xs := by
  rw [listAt, h]
  rfl

/-- Items are those of a list. -/
theorem get?_of_listAt {xs : List Json} (h : j.listAt key = xs) (hxs : xs ≠ []) :
    j.get? key = some (.arr xs) := by
  rw [listAt] at h
  cases hget : j.get? key with
  | none =>
    rw [hget] at h
    exact absurd h.symm hxs
  | some value =>
    rw [hget] at h
    cases value with
    | arr ys =>
      cases h
      rfl
    | null | bool | int | float | str | obj => exact absurd h.symm hxs

/-- Whatever is taken for the items of a value, if one is an object they are those of a list. -/
theorem eq_arr_of_each {xs : List Json} {x : Json} (h : j.each = .ok xs) (hx : x ∈ xs)
    (hobject : x.IsObject) : j = .arr xs := by
  -- what is no list has texts for its items
  have htexts : ∀ ys : List String, xs ≠ ys.map str := by
    rintro ys rfl
    obtain ⟨s, -, rfl⟩ := List.mem_map.mp hx
    obtain ⟨ms, h⟩ := hobject
    cases h
  unfold each at h
  split at h
  · cases h
    cases hx
  · cases j with
    | arr ys =>
      cases h
      rfl
    | obj ms =>
      refine absurd ?_ (htexts (ms.map (·.1)))
      cases h
      rw [List.map_map]
      rfl
    | str s =>
      refine absurd ?_ (htexts (s.toList.map String.singleton))
      cases h
      rw [List.map_map]
      rfl
    | null | bool | int | float => cases h

/-- If all items are objects, there is a list of them or there is none. -/
theorem items_of_each {xs : List Json} (h : j.each = .ok xs) (hxs : ∀ x ∈ xs, x.IsObject) :
    xs = j.items?.getD [] := by
  cases xs with
  | cons x xs =>
    rw [eq_arr_of_each h (.head _) (hxs x (.head _))]
    rfl
  | nil =>
    cases j with
    | arr ys =>
      cases ys with
      | nil => rfl
      | cons y ys => cases h
    | null | bool | int | float | str | obj => rfl

theorem listAt_of_each {xs : List Json} (hfind : j.findD key .null = .ok v)
    (heach : v.each = .ok xs) (hxs : ∀ x ∈ xs, x.IsObject) : xs = j.listAt key := by
  obtain ⟨-, rfl⟩ := findD_eq_ok.mp hfind
  rw [items_of_each heach hxs, listAt]
  cases j.get? key <;> rfl

/-! ### Writing -/

/-- A member is written into an object. -/
theorem assign_eq_ok :
    j.assign key v = .ok j' ↔ ∃ ms, j = .obj ms ∧ j' = .obj (Keyed.put ms key v) := by
  cases j with
  | obj ms =>
    rw [assign, Except.ok.injEq]
    refine ⟨fun h => ⟨ms, rfl, h.symm⟩, ?_⟩
    rintro ⟨_, ⟨⟩, rfl⟩
    rfl
  | null | bool | int | float | str | arr =>
    refine ⟨fun h => ?_, ?_⟩
    · cases h
    · rintro ⟨ms, h, -⟩
      cases h

/-- After an assignment the new value is found under its key, and the old ones elsewhere. -/
theorem get?_assign (h : j.assign key v = .ok j') (key' : String) :
    j'.get? key' = if key = key' then some v else j.get? key' := by
  obtain ⟨ms, rfl, rfl⟩ := assign_eq_ok.mp h
  exact Keyed.get?_put ms key v key'

theorem listAt_assign {xs : List Json} (h : j.assign key (.arr xs) = .ok j') :
    j'.listAt key = xs :=
  listAt_of_get? ((get?_assign h key).trans (if_pos rfl))

/-- The value with a member under a key. What is no object stays as it is. -/
def set (j : Json) (key : String) (v : Json) : Json :=
  match j with
  | obj ms => obj (Keyed.put ms key v)
  | _ => j

/-- An assignment to an object sets a member. -/
theorem assign_eq_ok_iff : j.assign key v = .ok j' ↔ j.IsObject ∧ j' = j.set key v := by
  rw [assign_eq_ok]
  constructor
  · rintro ⟨ms, rfl, rfl⟩
    exact ⟨⟨ms, rfl⟩, rfl⟩
  · rintro ⟨⟨ms, rfl⟩, rfl⟩
    exact ⟨ms, rfl, rfl⟩

theorem set_set (j : Json) (key : String) (v w : Json) : (j.set key v).set key w = j.set key w := by
  cases j with
  | obj ms => exact congrArg obj (Keyed.put_put ms key v w)
  | null | bool | int | float | str | arr => rfl

/-- To set a member as it is changes nothing. -/
theorem set_of_get? (h : j.get? key = some v) : j.set key v = j := by
  cases j with
  | obj ms => exact congrArg obj (Keyed.put_of_get? h)
  | null | bool | int | float | str | arr => cases h

/-! ### Altered values -/

/-- No key of an object stands twice. -/
def Distinct (j : Json) : Prop := ∀ ms, j = .obj ms → (Keyed.keys ms).Nodup

/-- The value `b` is `a`, altered at most under some keys. If no key stood twice, none does. -/
structure Altered (keys : List String) (a b : Json) : Prop where
  /-- Under all other keys there is what there was. -/
  get?_eq : ∀ key, key ∉ keys → b.get? key = a.get? key
  /-- Keys stay distinct. -/
  distinct : a.Distinct → b.Distinct

namespace Altered

variable {a b d : Json} {keys keys' : List String}

theorem refl (keys : List String) (a : Json) : Altered keys a a := ⟨fun _ _ => rfl, id⟩

theorem trans (h : Altered keys a b) (h' : Altered keys b d) : Altered keys a d :=
  ⟨fun key hkey => (h'.get?_eq key hkey).trans (h.get?_eq key hkey),
    fun hdistinct => h'.distinct (h.distinct hdistinct)⟩

theorem mono (h : Altered keys a b) (hkeys : keys ⊆ keys') : Altered keys' a b :=
  ⟨fun key hkey => h.get?_eq key fun hmem => hkey (hkeys hmem), h.distinct⟩

/-- Lists under other keys are as they were. -/
theorem listAt_eq (h : Altered keys a b) {key : String} (hkey : key ∉ keys) :
    b.listAt key = a.listAt key := by
  rw [listAt, listAt, h.get?_eq key hkey]

end Altered

/-- An assignment alters an object under one key. -/
theorem altered_assign (h : j.assign key v = .ok j') : Altered [key] j j' := by
  refine ⟨fun key' hkey' => ?_, fun hdistinct => ?_⟩
  · rw [get?_assign h, if_neg fun he => hkey' (List.mem_singleton.mpr he.symm)]
  · obtain ⟨ms, rfl, rfl⟩ := assign_eq_ok.mp h
    rintro _ ⟨⟩
    exact Keyed.nodup_put (hdistinct ms rfl) key v

/-- So does a member that is set. -/
theorem altered_set (j : Json) (key : String) (v : Json) : Altered [key] j (j.set key v) := by
  cases j with
  | obj ms =>
    have hassign : (obj ms).assign key v = .ok ((obj ms).set key v) := rfl
    exact altered_assign hassign
  | null | bool | int | float | str | arr => exact .refl _ _

theorem get?_set (h : j.IsObject) (key key' : String) (v : Json) :
    (j.set key v).get? key' = if key = key' then some v else j.get? key' :=
  get?_assign (assign_eq_ok_iff.mpr ⟨h, rfl⟩) key'

end Json

end SubpathCsi
