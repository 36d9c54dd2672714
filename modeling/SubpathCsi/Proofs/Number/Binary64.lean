import Mathlib.Algebra.Order.Field.Power
import Mathlib.Tactic.FieldSimp
import Mathlib.Tactic.Linarith
import Mathlib.Tactic.Positivity
import Mathlib.Tactic.Ring
import SubpathCsi.Number.Binary64

/-!
# Bounds of floating-point numbers

Numbers that are not below zero stay so when they are added and multiplied, and no power of two that
bounds a quotient is passed by rounding. A result is therefore finite as long as the bounds of what
it is computed from say so, without a look at any rounding error.

* `Binary64.IsMagnitude`: numbers that are not below zero, infinity among them;
* `Binary64.AtMost`: finite numbers between zero and a power of two;
* `Binary64.atMost_ofRatio`: rounding passes no power of two;
* `Binary64.AtMost.add`, `Binary64.AtMost.mul`: the bounds of sums and products.
-/

namespace SubpathCsi

namespace Binary64

/-! ### Numbers that are not below zero -/

/-- The number is zero or above it, and may be infinite. -/
inductive IsMagnitude : Binary64 → Prop
  /-- It is infinite. -/
  | infinite : IsMagnitude (.infinite false)
  /-- It is finite. -/
  | finite (m : Nat) (e : Int) : IsMagnitude (.finite false m e)

variable {x y : Binary64}

theorem isMagnitude_ofRatio (num den : Nat) : IsMagnitude (ofRatio false num den) := by
  fun_cases ofRatio false num den
  · exact .finite ..
  · exact .infinite
  · exact .finite ..

theorem isMagnitude_ofDecimal (digits : Nat) (power : Int) :
    IsMagnitude (ofDecimal false digits power) := by
  rw [ofDecimal]
  split
  · exact .finite ..
  split
  · exact .infinite
  split
  · exact .finite ..
  split <;> exact isMagnitude_ofRatio ..

/-- A finite number above zero. -/
def isPositive : Binary64 → Bool
  | nan | infinite _ => false
  | finite negative m _ => !negative && m != 0

theorem isPositive_iff : x.isPositive = true ↔ ∃ m e, x = finite false m e ∧ m ≠ 0 := by
  cases x with
  | nan | infinite => exact iff_of_false nofun (by rintro ⟨_, _, ⟨⟩, _⟩)
  | finite negative m e => cases negative <;> simp [isPositive]

/-- A sum of finite numbers that are not below zero is a natural number, scaled and rounded. -/
theorem exists_add_finite_eq (m n : Nat) (e f : Int) :
    ∃ total : Nat, total = m * 2 ^ (e - min e f).toNat + n * 2 ^ (f - min e f).toNat ∧
      (finite false m e).add (finite false n f) =
        ofRatio false (scale total 1 (min e f)).1 (scale total 1 (min e f)).2 := by
  refine ⟨_, rfl, ?_⟩
  generalize htotal : m * 2 ^ (e - min e f).toNat + n * 2 ^ (f - min e f).toNat = total
  have hint : signed false m * Int.pow 2 (e - min e f).toNat +
      signed false n * Int.pow 2 (f - min e f).toNat = (total : Int) := by
    rw [← htotal]
    simp [signed, ← Int.pow_eq]
  rw [Binary64.add]
  dsimp only
  rw [hint, Int.natAbs_natCast]
  split
  · next hzero =>
    rw [Int.natCast_eq_zero.mp hzero]
    have hscale : (scale 0 1 (min e f)).1 = 0 := by
      rw [scale]
      split
      · exact Nat.zero_mul _
      · rfl
    rw [hscale]
    rfl
  · rw [decide_eq_false (by omega)]

theorem IsMagnitude.add (hx : IsMagnitude x) (hy : IsMagnitude y) : IsMagnitude (x.add y) := by
  cases hx with
  | infinite => cases hy <;> exact .infinite
  | finite m e =>
    cases hy with
    | infinite => exact .infinite
    | finite n f =>
      obtain ⟨total, -, h⟩ := exists_add_finite_eq m n e f
      rw [h]
      exact isMagnitude_ofRatio ..

/-- Only zero and infinity have no product. -/
theorem IsMagnitude.mul (hx : IsMagnitude x) {n : Nat} (hn : n ≠ 0) (f : Int) :
    IsMagnitude (x.mul (.finite false n f)) := by
  cases hx with
  | infinite =>
    rw [Binary64.mul, if_neg hn]
    exact .infinite
  | finite m e => exact isMagnitude_ofRatio ..

/-! ### Rounding -/

/-- Scaling multiplies a quotient by a power of two. -/
theorem scale_fst_div_snd (num den : Nat) (e : Int) :
    ((scale num den e).1 : ℚ) / (scale num den e).2 = num / den * 2 ^ e := by
  rw [scale]
  split
  · next he =>
    obtain ⟨k, rfl⟩ := Int.eq_ofNat_of_zero_le he
    simp
    ring
  · next he =>
    obtain ⟨k, rfl⟩ : ∃ k : Nat, e = -(k : Int) := ⟨(-e).toNat, by omega⟩
    simp [div_eq_mul_inv]
    ring

theorem scale_snd_pos (num : Nat) {den : Nat} (hden : 0 < den) (e : Int) :
    0 < (scale num den e).2 := by
  rw [scale]
  split
  · exact hden
  · exact Nat.mul_pos hden (Nat.pow_pos (by decide))

/-- A quotient is rounded to at most its bound. -/
theorem roundHalfEven_le {num den bound : Nat} (hden : 0 < den) (h : num ≤ bound * den) :
    roundHalfEven num den ≤ bound := by
  have hq : num / den ≤ bound := Nat.div_le_of_le_mul (by rwa [Nat.mul_comm])
  obtain hlt | heq := Nat.lt_or_eq_of_le hq
  · rw [roundHalfEven]
    split
    · exact hq
    · split
      · exact hlt
      · split
        · exact hq
        · exact hlt
  · -- nothing is left over
    have hnum : num = bound * den := by
      refine Nat.le_antisymm h ?_
      rw [← heq]
      exact Nat.div_mul_le_self ..
    rw [roundHalfEven_eq_of_dvd ⟨bound, by rw [hnum, Nat.mul_comm]⟩ hden]
    exact hq

/-- The number is finite and lies between zero and a power of two. -/
def AtMost (x : Binary64) (k : Int) : Prop :=
  ∃ (m : Nat) (e : Int), x = .finite false m e ∧ (m : ℚ) * 2 ^ e ≤ 2 ^ k

theorem AtMost.mono {k l : Int} (h : AtMost x k) (hkl : k ≤ l) : AtMost x l := by
  obtain ⟨m, e, rfl, h⟩ := h
  exact ⟨m, e, rfl, h.trans (zpow_le_zpow_right₀ (by norm_num) hkl)⟩

theorem atMost_zero (k : Int) : AtMost (zero false) k := by
  refine ⟨0, -1074, rfl, ?_⟩
  simp
  positivity

/-- What is scaled for rounding is rounded below the bound. -/
theorem roundHalfEven_mul_le {num den n d : Nat} {q k : Int} (hden : 0 < den)
    (h : (num : ℚ) / den ≤ 2 ^ k) (hscale : scale num den (-q) = (n, d)) (hq : q ≤ k) :
    (roundHalfEven n d : ℚ) * 2 ^ q ≤ 2 ^ k := by
  obtain ⟨j, rfl⟩ : ∃ j : Nat, k = j + q := ⟨(k - q).toNat, by omega⟩
  have hd : 0 < d := by
    have hpos := scale_snd_pos num hden (-q)
    rwa [hscale] at hpos
  have hquotient : (n : ℚ) / d ≤ 2 ^ j := by
    have hratio := scale_fst_div_snd num den (-q)
    rw [hscale] at hratio
    calc (n : ℚ) / d = num / den * 2 ^ (-q) := hratio
      _ ≤ 2 ^ (j + q) * 2 ^ (-q) := mul_le_mul_of_nonneg_right h (by positivity)
      _ = 2 ^ j := by rw [← zpow_add₀ (by norm_num), add_neg_cancel_right, zpow_natCast]
  have hn : n ≤ 2 ^ j * d := by
    rw [div_le_iff₀ (by exact_mod_cast hd)] at hquotient
    exact_mod_cast hquotient
  have hrounded : (roundHalfEven n d : ℚ) ≤ 2 ^ j := by exact_mod_cast roundHalfEven_le hd hn
  calc (roundHalfEven n d : ℚ) * 2 ^ q ≤ 2 ^ j * 2 ^ q :=
        mul_le_mul_of_nonneg_right hrounded (by positivity)
    _ = 2 ^ (j + q) := by rw [zpow_add₀ (by norm_num), zpow_natCast]

/-- The bits of a quotient are those of its bound at most. -/
theorem log2_sub_log2_le {num den : Nat} {k : Int} (hnum : num ≠ 0) (hden : 0 < den)
    (h : (num : ℚ) / den ≤ 2 ^ k) : (num.log2 : Int) - den.log2 ≤ k := by
  have hlow : (2 : ℚ) ^ num.log2 ≤ num := by exact_mod_cast Nat.log2_self_le hnum
  have hhigh : (den : ℚ) < 2 ^ (den.log2 + 1) := by exact_mod_cast @Nat.lt_log2_self den
  have hlt : (2 : ℚ) ^ (num.log2 : Int) < 2 ^ (k + (den.log2 + 1 : Nat)) := by
    rw [zpow_natCast, zpow_add₀ (by norm_num), zpow_natCast]
    calc (2 : ℚ) ^ num.log2 ≤ num := hlow
      _ ≤ 2 ^ k * den := (div_le_iff₀ (by exact_mod_cast hden)).mp h
      _ < 2 ^ k * 2 ^ (den.log2 + 1) := mul_lt_mul_of_pos_left hhigh (by positivity)
  have := (zpow_lt_zpow_iff_right₀ (by norm_num)).mp hlt
  omega

/-- Rounding passes no power of two. -/
theorem atMost_ofRatio {num den : Nat} {k : Int} (hden : 0 < den) (h : (num : ℚ) / den ≤ 2 ^ k)
    (hk : -1074 ≤ k) (hk' : k ≤ 1023) : AtMost (ofRatio false num den) k := by
  -- a number of 53 bits that is below the bound, and the same number after a carry
  have hcarry : ∀ {s m : Nat} {q e : Int}, q ≤ max (k - 52) (-1074) → (s : ℚ) * 2 ^ q ≤ 2 ^ k →
      (if s = Nat.pow 2 53 then (Nat.pow 2 52, q + 1) else (s, q)) = (m, e) →
      e ≤ 971 ∧ (m : ℚ) * 2 ^ e ≤ 2 ^ k := by
    intro s m q e hq hs hme
    split at hme
    · next hcarry =>
      cases hme
      subst hcarry
      have hvalue : ((Nat.pow 2 52 : Nat) : ℚ) * 2 ^ (q + 1) = (Nat.pow 2 53 : Nat) * 2 ^ q := by
        rw [zpow_add_one₀ (by norm_num)]
        norm_num
        ring
      have hexponent : (2 : ℚ) ^ (53 + q) ≤ 2 ^ k := by
        refine le_of_eq_of_le ?_ hs
        rw [zpow_add₀ (by norm_num)]
        norm_num
      have : 53 + q ≤ k := (zpow_le_zpow_iff_right₀ (by norm_num)).mp hexponent
      exact ⟨by omega, by rwa [hvalue]⟩
    · cases hme
      exact ⟨by omega, hs⟩
  fun_cases ofRatio false num den
  · exact atMost_zero k
  · next hnum _ _ _ _ q _ _ hscale _ _ _ hrounded hlarge =>
    have hlog := log2_sub_log2_le hnum hden h
    have hq : q ≤ max (k - 52) (-1074) := by omega
    have := (hcarry hq (roundHalfEven_mul_le hden h hscale (by omega)) hrounded).1
    omega
  · next hnum _ _ _ _ q _ _ hscale _ _ _ hrounded hsmall =>
    have hlog := log2_sub_log2_le hnum hden h
    have hq : q ≤ max (k - 52) (-1074) := by omega
    exact ⟨_, _, rfl, (hcarry hq (roundHalfEven_mul_le hden h hscale (by omega)) hrounded).2⟩

/-- A decimal that is no more than its digits. -/
theorem atMost_ofDecimal {digits j : Nat} {power : Int} (hdigits : digits ≤ 2 ^ j) (hj : j ≤ 1023)
    (hpower : power ≤ 0) : AtMost (ofDecimal false digits power) j := by
  have hbound : (digits : ℚ) ≤ 2 ^ (j : Int) := by
    rw [zpow_natCast]
    exact_mod_cast hdigits
  rw [ofDecimal]
  split
  · exact atMost_zero _
  rw [if_neg (by omega)]
  split
  · exact atMost_zero _
  split
  · obtain rfl : power = 0 := by omega
    exact atMost_ofRatio (by decide) (by simpa using hbound) (by omega) (by omega)
  · refine atMost_ofRatio (Nat.pow_pos (by decide)) ?_ (by omega) (by omega)
    refine (div_le_self (by positivity) ?_).trans hbound
    exact_mod_cast Nat.one_le_pow _ _ (by decide)

/-! ### Sums and products -/

theorem AtMost.add {k : Int} (hx : AtMost x k) (hy : AtMost y k) (hk : -1075 ≤ k) (hk' : k ≤ 1022) :
    AtMost (x.add y) (k + 1) := by
  obtain ⟨m, e, rfl, hm⟩ := hx
  obtain ⟨n, f, rfl, hn⟩ := hy
  obtain ⟨total, htotal, h⟩ := exists_add_finite_eq m n e f
  rw [h]
  refine atMost_ofRatio (scale_snd_pos _ (by decide) _) ?_ (by omega) (by omega)
  have hshift : ∀ {n : Nat} {f low : Int}, low ≤ f →
      (n : ℚ) * 2 ^ (f - low).toNat * 2 ^ low = n * 2 ^ f := by
    intro n f low hlow
    obtain ⟨j, rfl⟩ : ∃ j : Nat, f = j + low := ⟨(f - low).toNat, by omega⟩
    rw [add_sub_cancel_right, Int.toNat_natCast, zpow_add₀ (by norm_num), zpow_natCast]
    ring
  calc ((scale total 1 (min e f)).1 : ℚ) / (scale total 1 (min e f)).2
      = total * 2 ^ min e f := by rw [scale_fst_div_snd, Nat.cast_one, div_one]
    _ = m * 2 ^ e + n * 2 ^ f := by
        rw [htotal, Nat.cast_add, add_mul]
        push_cast
        rw [hshift (min_le_left e f), hshift (min_le_right e f)]
    _ ≤ 2 ^ k + 2 ^ k := add_le_add hm hn
    _ = 2 ^ (k + 1) := by rw [zpow_add_one₀ (by norm_num), mul_two]

theorem AtMost.mul {k l : Int} (hx : AtMost x k) (hy : AtMost y l) (hk : -1074 ≤ k + l)
    (hk' : k + l ≤ 1023) : AtMost (x.mul y) (k + l) := by
  obtain ⟨m, e, rfl, hm⟩ := hx
  obtain ⟨n, f, rfl, hn⟩ := hy
  refine atMost_ofRatio (scale_snd_pos _ (by decide) _) ?_ hk hk'
  calc ((scale (m * n) 1 (e + f)).1 : ℚ) / (scale (m * n) 1 (e + f)).2
      = m * 2 ^ e * (n * 2 ^ f) := by
        rw [scale_fst_div_snd, zpow_add₀ (by norm_num)]
        push_cast
        ring
    _ ≤ 2 ^ k * 2 ^ l := mul_le_mul hm hn (by positivity) (by positivity)
    _ = 2 ^ (k + l) := (zpow_add₀ (by norm_num) k l).symm

end Binary64

end SubpathCsi
