import SubpathCsi.Number.Shortest

/-!
# Decimal text with a chosen number of digits

A finite number is written with a given number of decimal places, positionally or with an exponent,
or with a given number of significant digits in the shorter of both forms. Digits that do not fit
are rounded to the nearest text, a tie to the even digit. `point` keeps a decimal point that no
digit follows.
-/

namespace SubpathCsi.Binary64

/-- A whole part and a fraction, with a decimal point between them where one is due. -/
def pointed (point : Bool) (whole part : List Char) : List Char :=
  if part.isEmpty && !point then whole else whole ++ '.' :: part

/-- Positional text of `significand * 2 ^ exponent`. -/
def fixedChars (point : Bool) (places significand : Nat) (exponent : Int) : List Char :=
  let (num, den) := scale significand 1 exponent
  let ds := decimalDigits (roundHalfEven (num * Nat.pow 10 places) den)
  let ds := List.replicate (places + 1 - ds.length) '0' ++ ds
  let k := ds.length - places
  pointed point (ds.take k) (ds.drop k)

/-- The first `count` significant digits, and the decimal point among them. -/
def leadingDigits (count significand : Nat) (exponent : Int) : List Char × Int :=
  if significand = 0 then (List.replicate count '0', 1)
  else
    let r := Rounding.of significand exponent
    let k := r.point
    let shift := (count : Int) - k
    let (n, d) := if 0 ≤ shift then (r.num * Nat.pow 10 shift.toNat, r.den)
      else (r.num, r.den * Nat.pow 10 (-shift).toNat)
    let c := roundHalfEven n d
    if c = Nat.pow 10 count then (decimalDigits (c / 10), k + 1) else (decimalDigits c, k)

/-- The exponent part of a numeral, of at least two digits. -/
def exponentChars (e : Int) : List Char :=
  let ds := decimalDigits e.natAbs
  'e' :: (if e < 0 then '-' else '+') :: (List.replicate (2 - ds.length) '0' ++ ds)

/-- Text of `significand * 2 ^ exponent` with one digit before the point and an exponent. -/
def scientificChars (point : Bool) (places significand : Nat) (exponent : Int) : List Char :=
  let (ds, k) := leadingDigits (places + 1) significand exponent
  pointed point (ds.take 1) (ds.drop 1) ++ exponentChars (k - 1)

/-- Text of `significand * 2 ^ exponent` with `count` significant digits, positional from `10 ^ -4`
up to below `10 ^ count`. Zeros that end a fraction are left out unless the point is kept. -/
def generalChars (point : Bool) (count significand : Nat) (exponent : Int) : List Char :=
  let count := max count 1
  let (ds, k) := leadingDigits count significand exponent
  let ds := if point then ds else
    match (dropZeros ds).1 with
    | [] => ['0']
    | kept => kept
  if -4 < k && k ≤ count then
    if k ≤ 0 then pointed point ['0'] (List.replicate (-k).toNat '0' ++ ds)
    else
      let whole := ds.take k.toNat
      pointed point (whole ++ List.replicate (k.toNat - ds.length) '0') (ds.drop k.toNat)
  else pointed point (ds.take 1) (ds.drop 1) ++ exponentChars (k - 1)

end SubpathCsi.Binary64
