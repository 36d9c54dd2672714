import SubpathCsi.Calendar
import SubpathCsi.Text.Digit

/-!
# Reading points of time

A point of time is written as a day and a time, `2024-01-15T10:00:00Z`. Seconds, their fraction and
the distance from Universal Time may be missing; a day alone means its first moment. A whole number
counts seconds from the beginning of 1970, or milliseconds if it is large.
-/

namespace SubpathCsi

namespace Date

/-- The day that comes `days` days after the first of January of the year 1. -/
def ofDayNumber (days : Nat) : Date :=
  -- a cycle of 400 years has 146097 days; years start in March, so that a leap day comes last
  let n := days + 306
  let cycle := n / 146097
  let inCycle := n % 146097
  let yearInCycle := (inCycle - inCycle / 1460 + inCycle / 36524 - inCycle / 146096) / 365
  let inYear := inCycle - (365 * yearInCycle + yearInCycle / 4 - yearInCycle / 100)
  let shifted := (5 * inYear + 2) / 153
  let day := inYear - (153 * shifted + 2) / 5 + 1
  let month := if shifted < 10 then shifted + 3 else shifted - 9
  let year := 400 * cycle + yearInCycle + (if month ≤ 2 then 1 else 0)
  ⟨year, month, day⟩

end Date

namespace DateTime

/-- A number of `width` digits at the front of a text, and what follows. -/
def digits? (width : Nat) (cs : List Char) : Option (Nat × List Char) :=
  let ds := cs.take width
  if ds.length = width && ds.all Text.isAsciiDigit then some (Text.digitsValue ds, cs.drop width)
  else none

/-- What follows one of the characters. -/
def afterAny? (options : List Char) : List Char → Option (List Char)
  | c :: cs => if options.contains c then some cs else none
  | [] => none

/-- The day at the front of a text. -/
def day? (cs : List Char) : Option (Date × List Char) := do
  let (year, cs) ← digits? 4 cs
  let cs ← afterAny? ['-'] cs
  let (month, cs) ← digits? 2 cs
  let cs ← afterAny? ['-'] cs
  let (day, cs) ← digits? 2 cs
  match Date.ofNumbers year month day with
  | .ok d => some (d, cs)
  | .error _ => none

/-- The distance from Universal Time, in seconds, that a text consists of. -/
def zone? : List Char → Option (Option Int)
  | [] => some none
  | ['Z'] => some (some 0)
  | ['z'] => some (some 0)
  | sign :: cs => do
    let negative ← if sign = '+' then some false
      else if sign = '-' || sign = '\u2212' then some true else none
    let (hours, cs) ← digits? 2 cs
    let cs := (afterAny? [':'] cs).getD cs
    let (minutes, cs) ← digits? 2 cs
    if !cs.isEmpty || minutes ≥ 60 || hours ≥ 24 then none
    else
      let seconds : Int := (hours * 3600 + minutes * 60 : Nat)
      some (some (if negative then -seconds else seconds))

/-- The fraction of a second at the front of a text, in millionths, and what follows. -/
def fraction? (cs : List Char) : Option (Nat × List Char) :=
  match afterAny? ['.', ','] cs with
  | none => some (0, cs)
  | some rest =>
    let (ds, rest) := rest.span Text.isAsciiDigit
    if ds.isEmpty then none
    else some (Text.digitsValue ((ds ++ List.replicate 6 '0').take 6), rest)

/-- The point of time that a text writes as a day and a time, or as a day. -/
def ofIso? (cs : List Char) : Option DateTime := do
  let (date, cs) ← day? cs
  if cs.isEmpty then some ⟨date, 0, 0, 0, 0, none⟩
  else
    let cs ← afterAny? ['T', 't', ' ', '_'] cs
    let (hour, cs) ← digits? 2 cs
    let cs ← afterAny? [':'] cs
    let (minute, cs) ← digits? 2 cs
    let (second, micro, cs) ← match afterAny? [':'] cs with
      | none => some (0, 0, cs)
      | some cs => do
        let (second, cs) ← digits? 2 cs
        let (micro, cs) ← fraction? cs
        some (second, micro, cs)
    let zone ← zone? cs
    match ofNumbers date.year date.month date.day hour minute second micro zone with
    | .ok t => some t
    | .error _ => none

/-- Numbers above this count milliseconds. -/
def largestSeconds : Nat := 20000000000

/-- The first moment of 1970, in microseconds from the first of January of the year 1. -/
def unixStart : Int := 62135596800000000

/-- The point of time that a whole number counts from the beginning of 1970. -/
def ofCount? (n : Int) : Option DateTime :=
  let micros := (if n.natAbs > largestSeconds then n * 1000 else n * 1000000) + unixStart
  if micros < 0 then none
  else
    let m := micros.toNat
    let date := Date.ofDayNumber (m / 86400000000)
    if date.year > 9999 then none
    else
      let inDay := m % 86400000000
      let seconds := inDay / 1000000
      some ⟨date, seconds / 3600, seconds / 60 % 60, seconds % 60, inDay % 1000000, some 0⟩

/-- The whole number that a text writes with ASCII digits and a sign. -/
def count? : List Char → Option Int
  | '-' :: ds => if !ds.isEmpty && ds.all Text.isAsciiDigit then some (-(Text.digitsValue ds : Int))
    else none
  | '+' :: ds => if !ds.isEmpty && ds.all Text.isAsciiDigit then some (Text.digitsValue ds) else none
  | ds => if !ds.isEmpty && ds.all Text.isAsciiDigit then some (Text.digitsValue ds) else none

/-- The point of time that a text writes. -/
def ofText? (s : String) : Option DateTime :=
  match ofIso? s.toList with
  | some t => some t
  | none => (count? s.toList).bind ofCount?

end DateTime

end SubpathCsi
