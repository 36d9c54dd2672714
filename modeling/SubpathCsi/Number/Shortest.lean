import SubpathCsi.Number.Binary64

/-!
# The shortest decimal text of a number

`shortestDigits` finds the fewest decimal digits that read back as a given positive finite number,
and of those the digits nearest to it:

* **Interval**: the reals that round to the number, its ends included when the significand is even;
* **Search**: for 1, 2, … 17 digits, the two neighbours of the number on that decimal grid.

`Binary64.text` writes the digits positionally from `10 ^ -4` up to below `10 ^ 16`, with `.0` after
a whole number, and with an exponent of at least two digits elsewhere.
-/

namespace SubpathCsi.Binary64

/-- A positive number `num / den` and the interval that rounds to it. -/
structure Rounding where
  /-- Numerator of the number. -/
  num : Nat
  /-- Numerator of the lower end. -/
  low : Nat
  /-- Numerator of the upper end. -/
  high : Nat
  /-- The denominator of all three. -/
  den : Nat
  /-- The ends belong to the interval. -/
  closed : Bool

/-- The interval of reals that round to `significand * 2 ^ exponent`. Below a power of two the
neighbours lie twice as dense. -/
def Rounding.of (significand : Nat) (exponent : Int) : Rounding :=
  let tight := significand = Nat.pow 2 52 && exponent > -1074
  let e := exponent - 2
  let up (n : Nat) : Nat := if 0 ≤ e then n * Nat.pow 2 e.toNat else n
  { num := up (4 * significand)
    low := up (if tight then 4 * significand - 1 else 4 * significand - 2)
    high := up (4 * significand + 2)
    den := if 0 ≤ e then 1 else Nat.pow 2 (-e).toNat
    closed := significand % 2 = 0 }

/-- `n * 10 ^ power` lies in the interval. -/
def Rounding.holds (r : Rounding) (n : Nat) (power : Int) : Bool :=
  let (a, b) :=
    if 0 ≤ power then (n * Nat.pow 10 power.toNat, 1) else (n, Nat.pow 10 (-power).toNat)
  let x := a * r.den
  if r.closed then r.low * b ≤ x && x ≤ r.high * b else r.low * b < x && x < r.high * b

/-- The decimal point of the number: the least `p` with `num / den < 10 ^ p`, counted up from a
start that is not above it. -/
def Rounding.pointFrom (r : Rounding) : Nat → Int → Int
  | 0, p => p
  | fuel + 1, p =>
    let below :=
      if 0 ≤ p then decide (r.num < r.den * Nat.pow 10 p.toNat)
      else decide (r.num * Nat.pow 10 (-p).toNat < r.den)
    if below then p else r.pointFrom fuel (p + 1)

/-- The decimal point of the number. -/
def Rounding.point (r : Rounding) : Int :=
  let k : Int := (r.num.log2 : Int) - (r.den.log2 : Int)
  -- `num / den` is at least `2 ^ (k - 1)`, and `10 ^ p` is at most that for `p = (k - 1) * 3 / 10 - 1`
  r.pointFrom 12 ((k - 1) * 30103 / 100000 - 1)

/-- The neighbour on the grid of step `10 ^ power` that reads back, the nearer one of two. -/
def Rounding.onGrid? (r : Rounding) (power : Int) : Option Nat :=
  let (n, d) :=
    if 0 ≤ power then (r.num, r.den * Nat.pow 10 power.toNat)
    else (r.num * Nat.pow 10 (-power).toNat, r.den)
  let lo := n / d
  let hi := lo + 1
  match r.holds lo power && lo ≠ 0, r.holds hi power with
  | true, true => some (roundHalfEven n d)
  | true, false => some lo
  | false, true => some hi
  | false, false => none

/-- The first grid with a neighbour that reads back, from `count` digits on. -/
def Rounding.search (r : Rounding) (point : Int) : Nat → Nat → Nat × Int
  | 0, count => (r.num / r.den, point - count)
  | fuel + 1, count =>
    match r.onGrid? (point - count) with
    | some n => (n, point - count)
    | none => r.search point fuel (count + 1)

/-- The fewest digits `n` and the power `p` such that `n * 10 ^ p` reads back. -/
def shortestDigits (significand : Nat) (exponent : Int) : Nat × Int :=
  let r := Rounding.of significand exponent
  r.search r.point 17 1

/-- The digits of a natural number in base ten. -/
def decimalDigits (n : Nat) : List Char := Nat.toDigits 10 n

/-- Digits without the zeros they end with, and how many zeros went. -/
def dropZeros (ds : List Char) : List Char × Nat :=
  let kept := (ds.reverse.dropWhile (· = '0')).reverse
  (kept, ds.length - kept.length)

/-- Writes the digits `ds` with the decimal point after `point` of them. -/
def layout (ds : List Char) (point : Int) : List Char :=
  if -4 < point && point ≤ 16 then
    if point ≤ 0 then '0' :: '.' :: (List.replicate (-point).toNat '0' ++ ds)
    else
      let whole := ds.take point.toNat
      let part := ds.drop point.toNat
      whole ++ List.replicate (point.toNat - ds.length) '0' ++
        '.' :: (if part.isEmpty then ['0'] else part)
  else
    let e := point - 1
    let power := decimalDigits e.natAbs
    let power := if power.length < 2 then '0' :: power else power
    let mantissa := match ds with
      | [] => ['0']
      | [d] => [d]
      | d :: rest => d :: '.' :: rest
    mantissa ++ ['e', if e < 0 then '-' else '+'] ++ power

/-- The shortest decimal text of a number. -/
def textChars : Binary64 → List Char
  | nan => "nan".toList
  | infinite s => if s then "-inf".toList else "inf".toList
  | finite s m e =>
    let sign := if s then ['-'] else []
    if m = 0 then sign ++ "0.0".toList
    else
      let (n, p) := shortestDigits m e
      let (ds, zeros) := dropZeros (decimalDigits n)
      sign ++ layout ds (p + zeros + ds.length)

/-- The shortest decimal text of a number. -/
def text (x : Binary64) : String := String.ofList x.textChars

end SubpathCsi.Binary64
