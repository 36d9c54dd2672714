import SubpathCsi.Number.Binary64
import SubpathCsi.Number.Integer

/-!
# Numerals

Two more readers of numbers: floating-point numerals, and integers in base 2, 8 or 16. Both allow
blanks around the numeral, a sign, and digits of any script.
-/

namespace SubpathCsi

namespace Text

/-- A sign at the front of a text, and what follows. -/
def takeSign : List Char → Bool × List Char
  | '-' :: cs => (true, cs)
  | '+' :: cs => (false, cs)
  | cs => (false, cs)

/-- The value of a digit or letter as a digit of a large base. -/
def anyDigit? (c : Char) : Option Nat :=
  match digitValue? c with
  | some d => some d
  | none =>
    let l := c.toLower
    if 'a' ≤ l && l ≤ 'z' then some (l.toNat - 'a'.toNat + 10) else none

end Text

/-- The letter after the zero that may begin a numeral in a base. -/
def baseLetter? : Nat → Option Char
  | 2 => some 'b'
  | 8 => some 'o'
  | 16 => some 'x'
  | _ => none

/-- The integer that a text writes in a base. -/
def Integer.ofBase? (base : Nat) (cs : List Char) : Option Int := do
  let (negative, body) := Text.takeSign (Text.trim cs)
  let body := match body with
    | '0' :: l :: rest => if baseLetter? base = some l.toLower then rest else body
    | _ => body
  if body.isEmpty then none
  else
    let n ← body.foldlM (fun n c =>
      match Text.anyDigit? c with
      | some d => if d < base then some (base * n + d) else none
      | none => none) 0
    return if negative then -(n : Int) else n

namespace Binary64

/-- The exponent that ends a numeral: nothing, or `e` with a sign and digits. -/
def exponent? : List Char → Option Int
  | [] => some 0
  | e :: rest =>
    if e = 'e' || e = 'E' then
      let (negative, ds) := Text.takeSign rest
      if ds.isEmpty || !ds.all Text.isDigit then none
      else some (if negative then -(Text.digitsValue ds : Int) else Text.digitsValue ds)
    else none

/-- The number that a text writes: digits with a point and an exponent, `inf`, `infinity` or `nan`
in either case. -/
def ofText? (cs : List Char) : Option Binary64 :=
  let (negative, body) := Text.takeSign (Text.trim cs)
  let word := body.map Char.toLower
  if word = "inf".toList || word = "infinity".toList then some (.infinite negative)
  else if word = "nan".toList then some .nan
  else
    let (whole, rest) := body.span Text.isDigit
    let (part, rest) := match rest with
      | '.' :: more => more.span Text.isDigit
      | _ => ([], rest)
    if whole.isEmpty && part.isEmpty then none
    else (exponent? rest).map fun e =>
      .ofDecimal negative (Text.digitsValue (whole ++ part)) (e - part.length)

end Binary64

end SubpathCsi
