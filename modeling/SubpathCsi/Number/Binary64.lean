/-!
# Binary floating-point numbers of 64 bits

A finite number is `± significand * 2 ^ exponent` with at most 53 significant bits. `ofRatio`
rounds a quotient of naturals to the nearest such number, a tie to the even significand; sums,
products and decimal numerals are exact computations followed by this one rounding.

* `roundHalfEven_eq_of_dvd`: an exact quotient is not changed.
-/

namespace SubpathCsi

/-- A binary floating-point number: not a number, infinite, or finite. A finite number has a
significand below `2 ^ 53`, and one below `2 ^ 52` only with the least exponent `-1074`. -/
inductive Binary64 where
  /-- No number. -/
  | nan
  /-- Beyond all finite numbers. -/
  | infinite (negative : Bool)
  /-- `± significand * 2 ^ exponent`. -/
  | finite (negative : Bool) (significand : Nat) (exponent : Int)
  deriving DecidableEq, Repr, Inhabited

namespace Binary64

/-- The natural number nearest to `num / den`, a tie to the even one. -/
def roundHalfEven (num den : Nat) : Nat :=
  let q := num / den
  let r := num % den
  if 2 * r < den then q
  else if 2 * r > den then q + 1
  else if q % 2 = 0 then q else q + 1

theorem roundHalfEven_eq_of_dvd {num den : Nat} (h : den ∣ num) (hd : 0 < den) :
    roundHalfEven num den = num / den := by
  simp [roundHalfEven, Nat.mod_eq_zero_of_dvd h, hd]

/-- Zero with a sign. -/
def zero (negative : Bool) : Binary64 := .finite negative 0 (-1074)

/-- `num * 2 ^ e / den` as a quotient of naturals. -/
def scale (num den : Nat) (e : Int) : Nat × Nat :=
  if 0 ≤ e then (num * Nat.pow 2 e.toNat, den) else (num, den * Nat.pow 2 (-e).toNat)

/-- The number nearest to `± num / den`, a tie to the even significand. -/
def ofRatio (negative : Bool) (num den : Nat) : Binary64 :=
  if num = 0 then zero negative
  else
    -- `2 ^ (k - 1) < num / den < 2 ^ (k + 1)`
    let k : Int := (num.log2 : Int) - (den.log2 : Int)
    let (n, d) := scale num den (53 - k)
    let q := max (if n < d * Nat.pow 2 53 then k - 53 else k - 52) (-1074)
    let (n, d) := scale num den (-q)
    let s := roundHalfEven n d
    let (s, q) := if s = Nat.pow 2 53 then (Nat.pow 2 52, q + 1) else (s, q)
    if q > 971 then .infinite negative else .finite negative s q

/-- The number nearest to `± digits * 10 ^ power`. Powers that leave the range of finite numbers,
whatever the digits, are answered without forming them. -/
def ofDecimal (negative : Bool) (digits : Nat) (power : Int) : Binary64 :=
  if digits = 0 then zero negative
  else if power > 400 then .infinite negative
  else if power < -((digits.log2 : Int) + 1100) then zero negative
  else if 0 ≤ power then ofRatio negative (digits * Nat.pow 10 power.toNat) 1
  else ofRatio negative digits (Nat.pow 10 (-power).toNat)

/-- A natural number as a floating-point number. -/
def ofNat (n : Nat) : Binary64 := ofRatio false n 1

/-- The number with the other sign. -/
def neg : Binary64 → Binary64
  | nan => nan
  | infinite s => .infinite !s
  | finite s m e => .finite (!s) m e

/-- The significand with its sign. -/
def signed (negative : Bool) (m : Nat) : Int := if negative then -(m : Int) else m

/-- The sum, rounded once. Opposite infinities have no sum; a sum of zero is positive unless both
numbers are negative zeros. -/
def add : Binary64 → Binary64 → Binary64
  | nan, _ => nan
  | _, nan => nan
  | infinite s, infinite t => if s = t then .infinite s else nan
  | infinite s, finite .. => .infinite s
  | finite .., infinite t => .infinite t
  | finite s m e, finite t n f =>
    let low := min e f
    let total := signed s m * Int.pow 2 (e - low).toNat + signed t n * Int.pow 2 (f - low).toNat
    if total = 0 then zero (s && t)
    else
      let (num, den) := scale total.natAbs 1 low
      ofRatio (total < 0) num den

/-- The product, rounded once. Zero times infinity is no number. -/
def mul : Binary64 → Binary64 → Binary64
  | nan, _ => nan
  | _, nan => nan
  | infinite s, infinite t => .infinite (s != t)
  | infinite s, finite t n _ => if n = 0 then nan else .infinite (s != t)
  | finite s m _, infinite t => if m = 0 then nan else .infinite (s != t)
  | finite s m e, finite t n f =>
    let (num, den) := scale (m * n) 1 (e + f)
    ofRatio (s != t) num den

/-- The whole number that remains when the fraction is dropped; none for an infinite number or no
number. -/
def truncate? : Binary64 → Option Int
  | finite s m e =>
    let (num, den) := scale m 1 e
    some (signed s (num / den))
  | _ => none

/-- The 64 bits of the interchange format: sign, eleven bits of exponent, 52 of significand. -/
def toBits : Binary64 → Nat
  | nan => 0x7FF8000000000000
  | infinite s => (if s then Nat.pow 2 63 else 0) + 0x7FF0000000000000
  | finite s m e =>
    (if s then Nat.pow 2 63 else 0) +
      (if m < Nat.pow 2 52 then m else (e + 1075).toNat * Nat.pow 2 52 + (m - Nat.pow 2 52))

/-- The number is zero, of either sign. -/
def isZero : Binary64 → Bool
  | finite _ 0 _ => true
  | _ => false

end Binary64

end SubpathCsi
