import SubpathCsi.Json.Display
import SubpathCsi.Number.Places
import SubpathCsi.Text.Digit

/-!
# Placeholders

A placeholder of a message template shows one argument. Between its percent sign and the letter of
its conversion it may hold flags, a least width and a precision:

* `s`, `r`, `a`: the argument as a message shows it, as it is shown inside an array, and that in
  ASCII; a precision cuts the text;
* `d`, `i`, `u`, `o`, `x`, `X`: a whole number in base ten, eight or sixteen; a precision is the
  least number of digits;
* `e`, `f`, `g` and their capitals: a number with decimal places;
* `c`: one character, given itself or by its number.

`Placeholder.show?` is the text of an argument, `Placeholder.pad` its layout.
-/

namespace SubpathCsi

/-- Why a template cannot be filled. -/
inductive TemplateError where
  /-- A placeholder names no argument. -/
  | missing (name : String)
  /-- A percent sign starts no placeholder, or the argument has no whole part. -/
  | malformed
  /-- An argument does not fit its placeholder. -/
  | wrongType
  /-- A number is too large for its placeholder. -/
  | outOfRange
  deriving DecidableEq, Repr

/-- What stands between a percent sign and the letter of a conversion. -/
structure Placeholder where
  /-- `-`: padding goes to the right. -/
  leftAligned : Bool := false
  /-- `+`: numbers carry a sign. -/
  plus : Bool := false
  /-- A space: numbers that carry no sign have a space in its place. -/
  blank : Bool := false
  /-- `#`: bases are marked, decimal points are kept. -/
  alternate : Bool := false
  /-- `0`: numbers are padded with zeros. -/
  zeros : Bool := false
  /-- The least number of characters. -/
  width : Nat := 0
  /-- The number after a point. -/
  precision : Option Nat := none
  deriving DecidableEq, Repr

namespace Placeholder

/-- The greatest width. -/
def maxWidth : Nat := Nat.pow 2 63 - 1

/-- The greatest precision. -/
def maxPrecision : Nat := Nat.pow 2 31 - 1

/-- A placeholder with the flag that a character stands for. -/
def flag? (p : Placeholder) : Char → Option Placeholder
  | '-' => some { p with leftAligned := true }
  | '+' => some { p with plus := true }
  | ' ' => some { p with blank := true }
  | '#' => some { p with alternate := true }
  | '0' => some { p with zeros := true }
  | _ => none

/-- The flags at the front of a text, and what follows them. -/
def takeFlags (p : Placeholder) : List Char → Placeholder × List Char
  | [] => (p, [])
  | c :: rest =>
    match p.flag? c with
    | some q => q.takeFlags rest
    | none => (p, c :: rest)

/-- The text of a whole number: its sign, the mark of its base and its digits. -/
structure Digits where
  /-- The number is below zero. -/
  negative : Bool := false
  /-- The mark of the base. -/
  mark : List Char := []
  /-- The digits. -/
  digits : List Char

/-- How the text of an argument is laid out: numbers have a sign, texts have none. -/
inductive Shown where
  /-- A text. -/
  | plain (cs : List Char)
  /-- A number. -/
  | number (d : Digits)

/-- A shown argument within its width: blanks stand before the sign, zeros behind the sign and the
mark. -/
def pad (p : Placeholder) : Shown → List Char
  | .plain cs =>
    let fill := List.replicate (p.width - cs.length) ' '
    if p.leftAligned then cs ++ fill else fill ++ cs
  | .number d =>
    let sign := if d.negative then ['-'] else if p.plus then ['+'] else if p.blank then [' '] else []
    let front := sign ++ d.mark
    let missing := p.width - (front.length + d.digits.length)
    if p.leftAligned then front ++ d.digits ++ List.replicate missing ' '
    else if p.zeros then front ++ List.replicate missing '0' ++ d.digits
    else List.replicate missing ' ' ++ front ++ d.digits

/-- A text in ASCII: other characters become escapes. -/
def asciiOnly (cs : List Char) : List Char :=
  cs.flatMap fun c =>
    if c.toNat < 0x80 then [c]
    else if c.toNat < 0x100 then '\\' :: 'x' :: Text.hexPadded 2 c.toNat
    else if c.toNat < 0x10000 then '\\' :: 'u' :: Text.hexPadded 4 c.toNat
    else '\\' :: 'U' :: Text.hexPadded 8 c.toNat

/-- A text, cut to the precision. -/
def cut (p : Placeholder) (cs : List Char) : Shown :=
  .plain (match p.precision with
    | some n => cs.take n
    | none => cs)

/-- A whole number in base 8, 10 or 16. -/
def wholeNumber (p : Placeholder) (base : Nat) (mark : List Char) (n : Int) : Shown :=
  let ds := Nat.toDigits base n.natAbs
  .number
    { negative := n < 0
      mark := if p.alternate then mark else []
      digits := List.replicate (p.precision.getD 0 - ds.length) '0' ++ ds }

/-- The whole part of a number; other arguments have none. -/
def whole? : Json → Except TemplateError Int
  | .int n => .ok n
  | .bool b => .ok (if b then 1 else 0)
  | .float .nan => .error .malformed
  | .float (.infinite _) => .error .outOfRange
  | .float x => .ok (x.truncate?.getD 0)
  | _ => .error .wrongType

/-- A whole number; other arguments are none. -/
def integer? : Json → Except TemplateError Int
  | .int n => .ok n
  | .bool b => .ok (if b then 1 else 0)
  | _ => .error .wrongType

/-- The floating-point number nearest to a number. -/
def number? : Json → Except TemplateError Binary64
  | .float x => .ok x
  | j => do
    let n ← integer? j
    match Binary64.ofRatio (n < 0) n.natAbs 1 with
    | .infinite _ => .error .outOfRange
    | x => .ok x

/-- A number with decimal places, in the form of a conversion: `e`, `f` or `g`. -/
def decimal (p : Placeholder) (form : Char) : Binary64 → Digits
  | .nan => { digits := "nan".toList }
  | .infinite s => { negative := s, digits := "inf".toList }
  | .finite s m e =>
    let places := p.precision.getD 6
    { negative := s
      digits :=
        if form = 'e' then Binary64.scientificChars p.alternate places m e
        else if form = 'f' then Binary64.fixedChars p.alternate places m e
        else Binary64.generalChars p.alternate places m e }

/-- A number whose letters are capitals. -/
def Digits.capital (d : Digits) : Digits :=
  { d with mark := d.mark.map Char.toUpper, digits := d.digits.map Char.toUpper }

/-- A character, given by itself or by its number. -/
def character? : Json → Except TemplateError Char
  | .str s =>
    match s.toList with
    | [c] => .ok c
    | _ => .error .wrongType
  | j => do
    let n ← integer? j
    if 0 ≤ n ∧ n < 0x110000 then .ok (Char.ofNat n.toNat) else .error .outOfRange

/-- An argument as a conversion shows it. -/
def show? (p : Placeholder) (conversion : Char) (v : Json) : Except TemplateError Shown :=
  match conversion with
  | 's' => .ok (p.cut v.display.toList)
  | 'r' => .ok (p.cut v.nestedText.toList)
  | 'a' => .ok (p.cut (asciiOnly v.nestedText.toList))
  | 'd' | 'i' | 'u' => (whole? v).map (p.wholeNumber 10 [])
  | 'o' => (integer? v).map (p.wholeNumber 8 ['0', 'o'])
  | 'x' => (integer? v).map (p.wholeNumber 16 ['0', 'x'])
  | 'X' => (integer? v).map fun n =>
    match p.wholeNumber 16 ['0', 'x'] n with
    | .number d => .number d.capital
    | s => s
  | 'e' | 'f' | 'g' => (number? v).map fun x => .number (p.decimal conversion x)
  | 'E' | 'F' | 'G' => (number? v).map fun x => .number (p.decimal conversion.toLower x).capital
  | 'c' => (character? v).map fun c => .plain [c]
  | _ => .error .malformed

/-! ### Reading -/

/-- What remains of a template while it is filled: the argument that the next conversion shows, if
one is left, and the text that follows. -/
structure Rest where
  /-- The argument of the next conversion. -/
  value : Option Json
  /-- The text that follows. -/
  text : List Char

/-- A number written as a star, which the argument gives, or as digits; zero digits are none. -/
def takeNumber (limit : Nat) (r : Rest) : Except TemplateError (Option Int × Rest) :=
  match r.text with
  | '*' :: more =>
    match r.value with
    | some v => do
      let n ← integer? v
      if -(limit : Int) - 1 ≤ n ∧ n ≤ limit then return (some n, ⟨none, more⟩)
      else throw .outOfRange
    | none => .error .wrongType
  | cs =>
    let (ds, more) := cs.span Text.isAsciiDigit
    if ds.isEmpty then .ok (none, r)
    else if Text.digitsValue ds > limit then .error .malformed
    else .ok (some (Text.digitsValue ds), { r with text := more })

/-- The width of a placeholder. A width below zero puts the padding to the right. -/
def takeWidth (p : Placeholder) (r : Rest) : Except TemplateError (Placeholder × Rest) := do
  match ← takeNumber maxWidth r with
  | (some n, r) =>
    return ({ p with width := n.natAbs, leftAligned := p.leftAligned || n < 0 }, r)
  | (none, r) => return (p, r)

/-- The precision of a placeholder, after a point. -/
def takePrecision (p : Placeholder) (r : Rest) : Except TemplateError (Placeholder × Rest) :=
  match r.text with
  | '.' :: more => do
    let (n, r) ← takeNumber maxPrecision { r with text := more }
    return ({ p with precision := some (n.getD 0).toNat }, r)
  | _ => .ok (p, r)

/-- A size letter before a conversion says nothing. -/
def dropSize : List Char → List Char
  | 'h' :: rest => rest
  | 'l' :: rest => rest
  | 'L' :: rest => rest
  | cs => cs

/-- The text of a placeholder, from its flags to the letter of its conversion, and what remains. -/
def fillNext (r : Rest) : Except TemplateError (List Char × Rest) := do
  let (p, text) := takeFlags {} r.text
  let (p, r) ← p.takeWidth { r with text := text }
  let (p, r) ← p.takePrecision r
  match dropSize r.text with
  | [] => throw .malformed
  | conversion :: more =>
    match r.value with
    | none => throw .wrongType
    | some v => return (p.pad (← p.show? conversion v), ⟨none, more⟩)

end Placeholder

end SubpathCsi
