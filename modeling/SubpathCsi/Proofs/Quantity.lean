import SubpathCsi.Failure

/-!
# When a quantity has no value

A quantity is a number that a suffix may scale. The number may be one that has no value, or be
infinite, as numerals go; so a text may follow the grammar, and still nothing comes of it. A product
with the factor of a suffix has no result for a number that signals, and none beyond the largest
exponent. And a number without a value has no sign, so it cannot be compared with zero.

* `Quantity.operands?`: what a text multiplies;
* `Quantity.parse_eq`: the value of a text, told by its operands;
* `Quantity.IsUnscalable`, `Quantity.IsUnordered`: texts of which no value comes, or one without a
  sign;
* `quantity_cases`: what comes of reading a quantity.
-/

namespace SubpathCsi

namespace Decimal

/-- The number has no value. -/
def IsNan : Decimal → Prop
  | nan .. => True
  | _ => False

/-- The number has no value, and refuses to be computed with. -/
def IsSignaling : Decimal → Prop
  | nan signaling .. => signaling = true
  | _ => False

/-- Rounding gives a finite number, unless it is too large. -/
theorem round_cases (negative : Bool) (coefficient : Nat) (exponent : Int) :
    round negative coefficient exponent = .error .overflow ∨
      ∃ c e, round negative coefficient exponent = .ok (.finite negative c e) := by
  -- whatever is rounded, the last step decides
  have hlast : ∀ {p : Prop} [Decidable p] {c : Nat} {e : Int},
      (if p then Except.error DecimalError.overflow else .ok (finite negative c e)) =
          .error .overflow ∨
        ∃ c' e', (if p then Except.error DecimalError.overflow else .ok (finite negative c e)) =
          .ok (finite negative c' e') := by
    intro p _ c e
    split
    · exact .inl rfl
    · exact .inr ⟨c, e, rfl⟩
  exact hlast

/-- A product with a finite number that is not zero fails if the other number signals, and else only
if it is too large. -/
theorem mul_finite_eq_error {d : Decimal} {negative : Bool} {coefficient : Nat} {exponent : Int}
    {r : DecimalError} (hne : coefficient ≠ 0) :
    d.mul (.finite negative coefficient exponent) = .error r ↔
      r = .invalidOperation ∧ d.IsSignaling ∨
        r = .overflow ∧ d.mul (.finite negative coefficient exponent) = .error .overflow := by
  cases d with
  | finite s c e =>
    refine ⟨fun h => ?_, ?_⟩
    · obtain hround | ⟨c', e', hround⟩ :=
        round_cases (s != negative) (c * coefficient) (e + exponent)
      · cases hround.symm.trans h
        exact .inr ⟨rfl, h⟩
      · cases hround.symm.trans h
    · rintro (⟨-, h⟩ | ⟨rfl, h⟩)
      · cases h
      · exact h
  | infinite s =>
    rw [mul, if_neg hne]
    simp [IsSignaling]
  | nan signaling s p => cases signaling <;> simp [mul, IsSignaling, eq_comm]

/-- A product with such a number has no value exactly if the other number has none. -/
theorem isNan_mul_finite_iff {d x : Decimal} {negative : Bool} {coefficient : Nat} {exponent : Int}
    (hne : coefficient ≠ 0) (h : d.mul (.finite negative coefficient exponent) = .ok x) :
    x.IsNan ↔ d.IsNan := by
  cases d with
  | finite s c e =>
    obtain hround | ⟨c', e', hround⟩ := round_cases (s != negative) (c * coefficient) (e + exponent)
    · cases hround.symm.trans h
    · cases hround.symm.trans h
      exact Iff.rfl
  | infinite s =>
    rw [mul, if_neg hne] at h
    cases h
    exact Iff.rfl
  | nan signaling s p =>
    cases signaling with
    | true => cases h
    | false =>
      cases h
      exact Iff.rfl

/-- Only what has no value has no sign. -/
theorem exists_isNonpositive_eq_error_iff {d : Decimal} :
    (∃ r, d.isNonpositive = .error r) ↔ d.IsNan := by
  cases d <;> simp [isNonpositive, IsNan]

end Decimal

namespace Quantity

/-! ### Operands -/

/-- The factor that a suffix stands for, if it is known: small `k` with `i` is not. -/
def Scale.factor? : Scale → Option (Option Decimal)
  | .none => some .none
  | .decimal _ p => some (some (decimalFactor p))
  | .binary letter p => if letter = 'k' then .none else some (some (binaryFactor p))

/-- The number that a text writes and the factor of its suffix, if it has one; nothing if the text
is no quantity. -/
def operands? (s : String) : Option (Decimal × Option Decimal) := do
  let (number, scale) := splitReversed s.toList.reverse
  let d ← Decimal.ofText? (String.ofList number.reverse)
  return (d, ← scale.factor?)

/-- The value of a text is its number, or the product with the factor. -/
theorem parse_eq (s : String) :
    (∃ reason, operands? s = none ∧ parse s = .error (.malformed s reason)) ∨
    (∃ d, operands? s = some (d, none) ∧ parse s = .ok d) ∨
    ∃ d factor, operands? s = some (d, some factor) ∧
      parse s = (d.mul factor).mapError .arithmetic := by
  rw [parse, operands?]
  generalize splitReversed s.toList.reverse = parts
  obtain ⟨number, scale⟩ := parts
  dsimp only
  cases Decimal.ofText? (String.ofList number.reverse) with
  | none => exact .inl ⟨_, rfl, rfl⟩
  | some d =>
    cases scale with
    | none => exact .inr (.inl ⟨d, rfl, rfl⟩)
    | decimal letter p => exact .inr (.inr ⟨d, _, rfl, rfl⟩)
    | binary letter p =>
      by_cases hk : letter = 'k'
      · subst hk
        exact .inl ⟨_, rfl, rfl⟩
      · refine .inr (.inr ⟨d, binaryFactor p, ?_, if_neg hk⟩)
        have hfactor : (Scale.binary letter p).factor? = some (some (binaryFactor p)) := if_neg hk
        simp [hfactor]

/-- A factor is a finite number, and not zero. -/
theorem exists_factor_eq {scale : Scale} {factor : Decimal}
    (h : scale.factor? = some (some factor)) :
    ∃ negative coefficient exponent, factor = .finite negative coefficient exponent ∧
      coefficient ≠ 0 := by
  cases scale with
  | none => cases h
  | decimal letter p =>
    cases h
    exact ⟨false, 1, 3 * p, rfl, Nat.one_ne_zero⟩
  | binary letter p =>
    have hfactor : factor = binaryFactor p := by
      rw [Scale.factor?] at h
      split at h
      · cases h
      · cases h
        rfl
    have hpos : ∀ base n : Nat, 0 < base → Nat.pow base n ≠ 0 := fun base n hbase =>
      Nat.ne_of_gt (Nat.pow_pos hbase)
    rw [hfactor, binaryFactor]
    split
    · exact ⟨false, _, 0, rfl, hpos 1024 _ (by decide)⟩
    · exact ⟨false, _, _, rfl, hpos 5 _ (by decide)⟩

/-! ### Texts of which no value comes -/

/-- The text scales a number that signals, or one that is too large for its suffix. -/
def IsUnscalable (s : String) : Prop :=
  ∃ d factor, operands? s = some (d, some factor) ∧
    (d.IsSignaling ∨ d.mul factor = .error .overflow)

/-- The text writes a number that has no value, with or without a suffix. -/
def IsUnordered (s : String) : Prop := ∃ d factor?, operands? s = some (d, factor?) ∧ d.IsNan

theorem exists_scale_of_operands? {s : String} {d : Decimal} {factor? : Option Decimal}
    (h : operands? s = some (d, factor?)) : ∃ scale : Scale, scale.factor? = some factor? := by
  rw [operands?] at h
  obtain ⟨d', -, h⟩ := Option.bind_eq_some_iff.mp h
  obtain ⟨factor?', hfactor, h⟩ := Option.bind_eq_some_iff.mp h
  cases h
  exact ⟨_, hfactor⟩

/-- Nothing comes of a product with the factor of a suffix if the text is unscalable. -/
theorem isUnscalable_iff {s : String} {d factor : Decimal}
    (h : operands? s = some (d, some factor)) :
    IsUnscalable s ↔ ∃ r, d.mul factor = .error r := by
  obtain ⟨scale, hscale⟩ := exists_scale_of_operands? h
  obtain ⟨negative, coefficient, exponent, rfl, hne⟩ := exists_factor_eq hscale
  constructor
  · rintro ⟨d', factor', h', hbad⟩
    cases h.symm.trans h'
    obtain hsignals | hlarge := hbad
    · exact ⟨_, (Decimal.mul_finite_eq_error hne).mpr (.inl ⟨rfl, hsignals⟩)⟩
    · exact ⟨_, hlarge⟩
  · rintro ⟨r, hr⟩
    obtain ⟨-, hsignals⟩ | ⟨-, hlarge⟩ := (Decimal.mul_finite_eq_error hne).mp hr
    · exact ⟨d, _, h, .inl hsignals⟩
    · exact ⟨d, _, h, .inr hlarge⟩

end Quantity

/-! ### Failures -/

/-- Reading a quantity gives its value, tells that the text is none, or breaks. -/
theorem quantity_cases (s : String) :
    (∃ d, quantity s = .ok d ∧ (d.IsNan ↔ Quantity.IsUnordered s) ∧ ¬Quantity.IsUnscalable s) ∨
    (∃ cause, quantity s = badArgument cause ∧ ¬Quantity.IsUnscalable s ∧
      ¬Quantity.IsUnordered s) ∨
    ∃ reason, quantity s = .error (.defect reason) ∧ Quantity.IsUnscalable s := by
  rw [quantity]
  obtain ⟨reason, hnone, hparse⟩ | ⟨d, hsome, hparse⟩ | ⟨d, factor, hsome, hparse⟩ :=
    Quantity.parse_eq s
  · rw [hparse]
    refine .inr (.inl ⟨_, rfl, ?_, ?_⟩)
    · rintro ⟨d, factor, h, -⟩
      cases hnone.symm.trans h
    · rintro ⟨d, factor?, h, -⟩
      cases hnone.symm.trans h
  · rw [hparse]
    refine .inl ⟨d, rfl, ⟨fun h => ⟨d, none, hsome, h⟩, ?_⟩, ?_⟩
    · rintro ⟨d', factor?, h, hnan⟩
      cases hsome.symm.trans h
      exact hnan
    · rintro ⟨d', factor, h, -⟩
      cases hsome.symm.trans h
  · rw [hparse, Quantity.isUnscalable_iff hsome]
    cases hmul : d.mul factor with
    | error r => exact .inr (.inr ⟨_, rfl, r, rfl⟩)
    | ok x =>
      obtain ⟨scale, hscale⟩ := Quantity.exists_scale_of_operands? hsome
      obtain ⟨negative, coefficient, exponent, rfl, hne⟩ := Quantity.exists_factor_eq hscale
      have hnan := Decimal.isNan_mul_finite_iff hne hmul
      refine .inl ⟨x, rfl, hnan.trans ⟨fun h => ⟨d, _, hsome, h⟩, ?_⟩, ?_⟩
      · rintro ⟨d', factor?, h, hd⟩
        cases hsome.symm.trans h
        exact hd
      · rintro ⟨r, hr⟩
        cases hr

end SubpathCsi
