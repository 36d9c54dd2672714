import SubpathCsi.Proofs.Act.Ends
import SubpathCsi.Proofs.Json.Shape

/-!
# Values that are read without fail

Where a value has the shape that a reader expects, the reader succeeds. What may be missing may also
be `null`, unless a reader takes that for a value.

* `Json.Given`: what stands under a key, if anything does, is of some kind;
* `Json.Nullable`, `Json.IsText`, `Json.IsListOf`: kinds of values;
* `Json.yields_items`, `Json.yields_assign` and their kin: readers and writers that succeed.
-/

namespace SubpathCsi

namespace Json

variable {P Q : Json → Prop} {j j' v : Json} {key key' : String}

/-! ### Kinds of values -/

/-- The value is a text. -/
def IsText (j : Json) : Prop := ∃ s, j = .str s

/-- The value is a list of values that satisfy `P`. -/
def IsListOf (P : Json → Prop) (j : Json) : Prop := ∃ xs, j = .arr xs ∧ ∀ x ∈ xs, P x

/-- The value satisfies `P`, or is `null`. -/
def Nullable (P : Json → Prop) (j : Json) : Prop := j = .null ∨ P j

/-- What stands under the key satisfies `P`, if anything does. -/
def Given (P : Json → Prop) (key : String) (j : Json) : Prop := ∀ v, j.get? key = some v → P v

theorem Given.congr (h : Given P key j) (hget : j'.get? key = j.get? key) : Given P key j' :=
  fun v hv => h v (hget ▸ hv)

/-- A member that is written is what was given for it. -/
theorem given_assign (h : j.assign key v = .ok j') (hv : P v) : Given P key j' := by
  intro w hw
  rw [get?_assign h, if_pos rfl] at hw
  cases hw
  exact hv

/-- The other members are as before. -/
theorem Given.assign (h : Given P key' j) (hassign : j.assign key v = .ok j') (hne : key ≠ key') :
    Given P key' j' :=
  h.congr ((get?_assign hassign key').trans (if_neg hne))

theorem isObject_of_assign (h : j.assign key v = .ok j') : j'.IsObject := by
  obtain ⟨ms, -, rfl⟩ := assign_eq_ok.mp h
  exact ⟨_, rfl⟩

/-! ### Readers and writers that succeed -/

theorem yields_find (hj : j.IsObject) : Yields (j.find key) (· = j.get? key) :=
  ⟨_, find_eq_ok.mpr ⟨hj, rfl⟩, rfl⟩

/-- A member that is not there is read as the default. -/
theorem yields_findD {default : Json} (hj : j.IsObject) (h : Given P key j) (hdefault : P default) :
    Yields (j.findD key default) P := by
  refine ⟨_, findD_eq_ok.mpr ⟨hj, rfl⟩, ?_⟩
  cases hget : j.get? key with
  | none => exact hdefault
  | some v => exact h v hget

/-- A value that is no object has no members to look for. -/
theorem exists_findD_eq_error (h : ¬j.IsObject) (key : String) (default : Json) :
    ∃ cause, j.findD key default = .error (.defect cause) := by
  cases j with
  | obj ms => exact absurd ⟨ms, rfl⟩ h
  | null | bool | int | float | str | arr => exact ⟨_, rfl⟩

theorem yields_entry (h : j.get? key = some v) : Yields (j.entry key) (· = v) :=
  ⟨v, entry_eq_ok.mpr h, rfl⟩

/-- An object can be written into. -/
theorem yields_assign (hj : j.IsObject) : Yields (j.assign key v) (j.assign key v = .ok ·) := by
  obtain ⟨ms, rfl⟩ := hj
  exact ⟨_, rfl, rfl⟩

/-- The items of the list under a key are read, and there are none if there is no list. -/
theorem yields_items (hj : j.IsObject) (h : Given (Nullable (IsListOf P)) key j) :
    Yields (j.findD key .null >>= each) fun xs => xs = j.listAt key ∧ ∀ x ∈ xs, P x := by
  refine Yields.bind ⟨_, findD_eq_ok.mpr ⟨hj, rfl⟩, rfl⟩ ?_
  rintro _ rfl
  rw [listAt]
  cases hget : j.get? key with
  | none => exact yields_ok ⟨rfl, List.forall_mem_nil _⟩
  | some v =>
    obtain rfl | ⟨xs, rfl, hxs⟩ := h v hget
    · exact yields_ok ⟨rfl, List.forall_mem_nil _⟩
    · cases xs with
      | nil => exact yields_ok ⟨rfl, hxs⟩
      | cons x xs => exact yields_ok ⟨rfl, hxs⟩

/-- The members of an object are read, and there are none if there is no object. -/
theorem yields_membersFor {use : String} (h : Nullable IsObject j) :
    Yields (j.membersFor use) fun _ => True := by
  obtain rfl | ⟨ms, rfl⟩ := h
  · exact yields_ok trivial
  · cases ms with
    | nil => exact yields_ok trivial
    | cons m ms => exact yields_ok trivial

end Json

end SubpathCsi
