import SubpathCsi.Text.Blank
import SubpathCsi.Text.Digit

/-!
# Integers in text

`Integer.ofText?` reads an optional sign and decimal digits of any script, with single underscores
allowed between digits and blanks around the whole. Texts of more than `Integer.maxDigits` digits
are refused.
-/

namespace SubpathCsi.Integer

/-- The most digits that the text of an integer may have. -/
def maxDigits : Nat := 4300

/-- The digits of a text in which every underscore stands between two digits. -/
def groupedDigits? : List Char → Option (List Char)
  | [] => none
  | [c] => if Text.isDigit c then some [c] else none
  | c :: '_' :: rest => if Text.isDigit c then (groupedDigits? rest).map (c :: ·) else none
  | c :: rest => if Text.isDigit c then (groupedDigits? rest).map (c :: ·) else none

/-- The integer that a text without blanks around it writes. -/
def ofTrimmed? (cs : List Char) : Option Int :=
  let (negative, body) := match cs with
    | '-' :: rest => (true, rest)
    | '+' :: rest => (false, rest)
    | _ => (false, cs)
  match groupedDigits? body with
  | none => none
  | some ds =>
    if ds.length > maxDigits then none
    else
      let n : Int := Text.digitsValue ds
      some (if negative then -n else n)

/-- The integer that a text writes. -/
def ofText? (s : String) : Option Int := ofTrimmed? (Text.trim s.toList)

/-- What is said of a text with too many digits. -/
def tooLongMessage (count : Nat) : String :=
  s!"Exceeds the limit ({maxDigits} digits) for integer string conversion: value has {count} " ++
    "digits; use sys.set_int_max_str_digits() to increase the limit"

/-- What is said of an integer that has too many digits to be written. -/
def unwritableMessage : String :=
  s!"Exceeds the limit ({maxDigits} digits) for integer string conversion; " ++
    "use sys.set_int_max_str_digits() to increase the limit"

/-- An integer has no more digits than a text of it may have. -/
def isWritable (n : Int) : Bool := n.natAbs < Nat.pow 10 maxDigits

/-- The decimal text of an integer. -/
def text (n : Int) : String := toString n

end SubpathCsi.Integer
