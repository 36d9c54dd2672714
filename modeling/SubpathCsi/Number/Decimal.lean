import SubpathCsi.Text.Blank
import SubpathCsi.Text.Digit
import SubpathCsi.Number.Binary64

/-!
# Decimal numbers

A decimal is `± coefficient * 10 ^ exponent`, infinite, or no number. Reading a text is exact;
`Decimal.mul` rounds to 28 digits, a half to the even neighbour, and refuses results beyond
`10 ^ 1000000`.

* `Decimal.ofText?` reads a numeral: underscores are dropped, digits may be of any script;
* `Decimal.text` writes without an exponent and without the zeros that end a fraction;
* `Decimal.truncate` drops the fraction.
-/

namespace SubpathCsi

/-- A decimal number. A quiet "not a number" passes through products, a signaling one refuses
them; both may carry a diagnostic payload. -/
inductive Decimal where
  /-- `± coefficient * 10 ^ exponent`. -/
  | finite (negative : Bool) (coefficient : Nat) (exponent : Int)
  /-- Beyond all finite numbers. -/
  | infinite (negative : Bool)
  /-- No number. -/
  | nan (signaling negative : Bool) (payload : Nat)
  deriving DecidableEq, Repr, Inhabited

/-- Why a computation with decimals has no result. -/
inductive DecimalError where
  /-- The operands have no product, or no order. -/
  | invalidOperation
  /-- The result is too large. -/
  | overflow
  deriving DecidableEq, Repr

namespace Decimal

/-- Products keep this many digits. -/
def precision : Nat := 28

/-- The largest decimal exponent of the leading digit of a product. -/
def maxExponent : Int := 999999

/-- The exponent of the last digit of the smallest product. -/
def leastExponent : Int := -1000026

/-- The bounds of the exponents that a numeral may write. -/
def maxWritten : Nat := 999999999999999999

/-- The number of decimal digits of `n`; zero has one. -/
def digitCount (n : Nat) : Nat := (Nat.toDigits 10 n).length

/-! ### Reading -/

/-- The digits at the front of a text and what follows them. -/
def spanDigits (cs : List Char) : List Char × List Char := cs.span Text.isAsciiDigit

/-- A text begins with `word`, letter case aside; what follows it. -/
def dropWord? (word : List Char) (cs : List Char) : Option (List Char) :=
  let front := cs.take word.length
  if front.map Char.toLower = word then some (cs.drop word.length) else none

/-- The exponent part of a numeral: nothing, or `e` with a sign and digits. -/
def exponent? : List Char → Option Int
  | [] => some 0
  | e :: rest =>
    if e.toLower ≠ 'e' then none
    else
      let (negative, ds) := match rest with
        | '-' :: ds => (true, ds)
        | '+' :: ds => (false, ds)
        | _ => (false, rest)
      if ds.isEmpty || !ds.all Text.isAsciiDigit then none
      else
        let n : Int := Text.digitsValue ds
        some (if negative then -n else n)

/-- A numeral without its sign: digits with a point and an exponent, infinity, or no number. -/
def unsigned? (negative : Bool) (cs : List Char) : Option Decimal :=
  match dropWord? "infinity".toList cs, dropWord? "inf".toList cs,
      dropWord? "nan".toList cs, dropWord? "snan".toList cs with
  | some [], _, _, _ => some (.infinite negative)
  | _, some [], _, _ => some (.infinite negative)
  | _, _, some ds, _ =>
    if ds.all Text.isAsciiDigit then some (.nan false negative (Text.digitsValue ds)) else none
  | _, _, _, some ds =>
    if ds.all Text.isAsciiDigit then some (.nan true negative (Text.digitsValue ds)) else none
  | _, _, _, _ =>
    let (whole, rest) := spanDigits cs
    let (part, rest) := match rest with
      | '.' :: more => spanDigits more
      | _ => ([], rest)
    if whole.isEmpty && part.isEmpty then none
    else do
      let e ← exponent? rest
      let e := e - part.length
      if e.natAbs > maxWritten then none
      else some (.finite negative (Text.digitsValue (whole ++ part)) e)

/-- The characters of a numeral in ASCII: blanks around it and underscores go, digits of other
scripts become ASCII digits. -/
def plainNumeral (cs : List Char) : List Char :=
  ((Text.trim cs).filter (· ≠ '_')).map fun c =>
    match Text.digitValue? c with
    | some d => Char.ofNat ('0'.toNat + d)
    | none => c

/-- The decimal that a text writes. -/
def ofText? (s : String) : Option Decimal :=
  match plainNumeral s.toList with
  | '-' :: cs => unsigned? true cs
  | '+' :: cs => unsigned? false cs
  | cs => unsigned? false cs

/-! ### Computing -/

/-- Keeps at most 28 digits and no digit below the least exponent. -/
def round (negative : Bool) (coefficient : Nat) (exponent : Int) : Except DecimalError Decimal :=
  let excess : Int := (digitCount coefficient : Int) - precision
  let drop := (max excess (leastExponent - exponent)).toNat
  let c := if drop > digitCount coefficient + 1 then 0
    else if drop = 0 then coefficient
    else Binary64.roundHalfEven coefficient (Nat.pow 10 drop)
  let e := exponent + drop
  let (c, e) := if digitCount c > precision then (c / 10, e + 1) else (c, e)
  if c ≠ 0 ∧ e + digitCount c - 1 > maxExponent then .error .overflow
  else .ok (.finite negative c e)

/-- The product, rounded to 28 digits. -/
def mul : Decimal → Decimal → Except DecimalError Decimal
  | nan true .., _ => .error .invalidOperation
  | _, nan true .. => .error .invalidOperation
  | nan false s p, _ => .ok (.nan false s (p % Nat.pow 10 precision))
  | _, nan false s p => .ok (.nan false s (p % Nat.pow 10 precision))
  | infinite s, infinite t => .ok (.infinite (s != t))
  | infinite s, finite t c _ =>
    if c = 0 then .error .invalidOperation else .ok (.infinite (s != t))
  | finite s c _, infinite t =>
    if c = 0 then .error .invalidOperation else .ok (.infinite (s != t))
  | finite s c e, finite t d f => round (s != t) (c * d) (e + f)

/-- The number is zero or below. -/
def isNonpositive : Decimal → Except DecimalError Bool
  | nan .. => .error .invalidOperation
  | infinite s => .ok s
  | finite s c _ => .ok (s || c = 0)

/-- Why a decimal has no whole part. -/
inductive NoWhole where
  /-- It is no number. -/
  | nan
  /-- It is infinite. -/
  | infinite
  deriving DecidableEq, Repr

/-- The whole number that remains when the fraction is dropped. -/
def truncate : Decimal → Except NoWhole Int
  | nan .. => .error .nan
  | infinite _ => .error .infinite
  | finite s c e =>
    let n := if 0 ≤ e then c * Nat.pow 10 e.toNat
      else if digitCount c ≤ (-e).toNat then 0
      else c / Nat.pow 10 (-e).toNat
    .ok (if s then -(n : Int) else n)

/-! ### Writing -/

/-- The digits of a finite number, without an exponent and without zeros that end a fraction. -/
def plainDigits (coefficient : Nat) (exponent : Int) : List Char :=
  let ds := Nat.toDigits 10 coefficient
  if 0 ≤ exponent then
    if coefficient = 0 then ['0'] else ds ++ List.replicate exponent.toNat '0'
  else
    let places := (-exponent).toNat
    let ds := List.replicate (places + 1 - ds.length) '0' ++ ds
    let whole := ds.take (ds.length - places)
    let part := ((ds.drop (ds.length - places)).reverse.dropWhile (· = '0')).reverse
    if part.isEmpty then whole else whole ++ '.' :: part

/-- The text of a number. -/
def text : Decimal → String
  | finite s c e => (if s then "-" else "") ++ String.ofList (plainDigits c e)
  | infinite s => if s then "-Infinity" else "Infinity"
  | nan signaling s p =>
    (if s then "-" else "") ++ (if signaling then "sNaN" else "NaN") ++
      (if p = 0 then "" else toString p)

end Decimal

end SubpathCsi
