import SubpathCsi.Number.Binary64
import SubpathCsi.Text.Blank
import SubpathCsi.Text.Digit
import SubpathCsi.Text.Quoted

/-!
# Durations

A duration is an optional sign followed by `0` or by one or more parts, each a number and a unit:
`1h30m`, `-1.5h`, `90s`. Its value is a count of seconds. The parts are added from left to right,
each rounded as a floating-point number.
-/

namespace SubpathCsi.Duration

/-- A unit of time. -/
inductive TimeUnit where
  /-- Nanoseconds, `ns`. -/
  | nanosecond
  /-- Microseconds, `us` or the same with a micro sign or a Greek mu. -/
  | microsecond
  /-- Milliseconds, `ms`. -/
  | millisecond
  /-- Seconds, `s`. -/
  | second
  /-- Minutes, `m`. -/
  | minute
  /-- Hours, `h`. -/
  | hour
  deriving DecidableEq, Repr

/-- The seconds of one unit. -/
def TimeUnit.seconds : TimeUnit → Binary64
  | nanosecond => .ofDecimal false 1 (-9)
  | microsecond => .ofDecimal false 1 (-6)
  | millisecond => .ofDecimal false 1 (-3)
  | second => .ofNat 1
  | minute => .ofNat 60
  | hour => .ofNat 3600

/-- The unit at the front of a text and what follows it. Where two units fit, as `m` and `ms`, it
is the longer one. -/
def takeUnit? : List Char → Option (TimeUnit × List Char)
  | 'n' :: 's' :: rest => some (.nanosecond, rest)
  | 'u' :: 's' :: rest => some (.microsecond, rest)
  | 'µ' :: 's' :: rest => some (.microsecond, rest)
  | 'μ' :: 's' :: rest => some (.microsecond, rest)
  | 'm' :: 's' :: rest => some (.millisecond, rest)
  | 's' :: rest => some (.second, rest)
  | 'm' :: rest => some (.minute, rest)
  | 'h' :: rest => some (.hour, rest)
  | _ => none

/-- A number: its digits before and after the point. -/
structure Number where
  /-- The digits before the point. -/
  whole : List Char
  /-- The digits after the point. -/
  part : List Char
  deriving DecidableEq, Repr

/-- The value of a number. -/
def Number.value (n : Number) : Binary64 :=
  .ofDecimal false (Text.digitsValue (n.whole ++ n.part)) (-(n.part.length : Int))

/-- The number at the front of a text and what follows it: digits, a point between or around
them. -/
def takeNumber? (cs : List Char) : Option (Number × List Char) :=
  let (whole, rest) := cs.span Text.isDigit
  match rest with
  | '.' :: more =>
    let (part, rest) := more.span Text.isDigit
    if whole.isEmpty && part.isEmpty then none else some (⟨whole, part⟩, rest)
  | _ => if whole.isEmpty then none else some (⟨whole, []⟩, rest)

/-- The part at the front of a text, its seconds, and what follows it. -/
def takePart? (cs : List Char) : Option (Binary64 × List Char) := do
  let (number, rest) ← takeNumber? cs
  let (unit, rest) ← takeUnit? rest
  return (number.value.mul unit.seconds, rest)

/-- The seconds of the parts that a text consists of, added to `total`. Every part takes at least
one character, so `fuel` above the length of the text is enough. -/
def sumParts? : Nat → Binary64 → List Char → Option Binary64
  | _, total, [] => some total
  | 0, _, _ => none
  | fuel + 1, total, cs => do
    let (seconds, rest) ← takePart? cs
    sumParts? fuel (total.add seconds) rest

/-- Why a text is no duration. -/
inductive Error where
  /-- There is nothing but blanks. -/
  | empty
  /-- The text does not follow the grammar. -/
  | malformed (text : String)
  deriving DecidableEq, Repr

/-- The reason in words. -/
def Error.message : Error → String
  | empty => "Duration cannot be empty"
  | malformed text => s!"Invalid duration: {quoted text}"

/-- The sign at the front of a text and what follows it. -/
def takeSign : List Char → Bool × List Char
  | '-' :: rest => (true, rest)
  | '+' :: rest => (false, rest)
  | cs => (false, cs)

/-- The seconds of a duration. -/
def parse (s : String) : Except Error Binary64 :=
  match Text.trim s.toList with
  | [] => .error .empty
  | cs =>
    match takeSign cs with
    | (_, ['0']) => .ok (.zero false)
    | (_, []) => .error (.malformed s)
    | (negative, body) =>
      match sumParts? body.length (.zero false) body with
      | none => .error (.malformed s)
      | some total => .ok (if negative then total.neg else total)

end SubpathCsi.Duration
