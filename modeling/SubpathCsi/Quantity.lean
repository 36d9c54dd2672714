import SubpathCsi.Number.Decimal
import SubpathCsi.Text.Quoted

/-!
# Resource quantities

A quantity is a decimal numeral with an optional suffix: `n u m k K M G T P E` scale by powers of
1000, the same letters with an `i` by powers of 1024. `Quantity.parse` gives the value; a text
that is no quantity fails with its reason.
-/

namespace SubpathCsi.Quantity

/-- Why a text is no quantity. -/
inductive Error where
  /-- The text before the suffix is no decimal numeral. -/
  | badNumber (number : String)
  /-- The suffix scales by no known factor. -/
  | unknownSuffix (quantity : String)
  deriving DecidableEq, Repr

/-- The reason in words. -/
def Error.message : Error → String
  | badNumber number => s!"Invalid number format: {number}"
  | unknownSuffix quantity => s!"{quantity} has unknown suffix"

/-- The power of the base that a suffix letter stands for. -/
def power? : Char → Option Int
  | 'n' => some (-3)
  | 'u' => some (-2)
  | 'm' => some (-1)
  | 'K' => some 1
  | 'k' => some 1
  | 'M' => some 2
  | 'G' => some 3
  | 'T' => some 4
  | 'P' => some 5
  | 'E' => some 6
  | _ => none

/-- How a quantity scales its number. -/
inductive Scale where
  /-- No suffix: the number as it is. -/
  | none
  /-- A letter: powers of 1000. -/
  | decimal (letter : Char) (power : Int)
  /-- A letter and `i`: powers of 1024. -/
  | binary (letter : Char) (power : Int)
  deriving DecidableEq, Repr

/-- The text of the number and the scale that the end of the text gives. The text is taken from
its end, last character first. -/
def splitReversed : List Char → List Char × Scale
  | 'i' :: c :: rest =>
    match power? c with
    | some p => (rest, .binary c p)
    | Option.none => ('i' :: c :: rest, .none)
  | c :: rest =>
    match power? c with
    | some p => (rest, .decimal c p)
    | Option.none => (c :: rest, .none)
  | [] => ([], .none)

/-- A power of 1024 as a decimal: `1024 ^ -1` is `5 ^ 10 * 10 ^ -10`. -/
def binaryFactor (power : Int) : Decimal :=
  if 0 ≤ power then .finite false (Nat.pow 1024 power.toNat) 0
  else
    let places := 10 * (-power).toNat
    .finite false (Nat.pow 5 places) (-(places : Int))

/-- A power of 1000 as a decimal. -/
def decimalFactor (power : Int) : Decimal := .finite false 1 (3 * power)

/-- What can go wrong with a quantity: the text is none, or its value is out of range. -/
inductive Failure where
  /-- The text is no quantity. -/
  | malformed (text : String) (reason : Error)
  /-- The value cannot be computed. -/
  | arithmetic (reason : DecimalError)
  deriving DecidableEq, Repr

/-- The value of a quantity. -/
def parse (s : String) : Except Failure Decimal :=
  let (number, scale) := splitReversed s.toList.reverse
  let number := String.ofList number.reverse
  match Decimal.ofText? number with
  | none => .error (.malformed s (.badNumber number))
  | some d =>
    match scale with
    | .none => .ok d
    | .decimal _ p => (d.mul (decimalFactor p)).mapError .arithmetic
    | .binary letter p =>
      if letter = 'k' then .error (.malformed s (.unknownSuffix s))
      else (d.mul (binaryFactor p)).mapError .arithmetic

end SubpathCsi.Quantity
