import SubpathCsi.Calendar
import SubpathCsi.Text.Digit
import SubpathCsi.Yaml.Cursor

/-!
# Timestamps of YAML

A timestamp is a day, `2024-01-15`, or a day and a time, with a fraction of a second and a
distance from Universal Time if wanted: `2001-12-14T21:59:43.10-05:00`. Beside `T`, blanks and
tabs may stand between the two.
-/

namespace SubpathCsi.Yaml

/-- The time in a timestamp. -/
structure TimeOfDay where
  /-- The hour. -/
  hour : Nat
  /-- The minute. -/
  minute : Nat
  /-- The second. -/
  second : Nat
  /-- The digits after the point. -/
  fraction : List Char
  /-- Minutes ahead of Universal Time. -/
  zone : Option Int
  deriving DecidableEq, Repr

/-- The parts of a timestamp. -/
structure Timestamp where
  /-- The year. -/
  year : Nat
  /-- The month. -/
  month : Nat
  /-- The day. -/
  day : Nat
  /-- Month and day have two digits each. -/
  isPadded : Bool
  /-- The time of day. -/
  time : Option TimeOfDay
  deriving DecidableEq, Repr

namespace Timestamp

/-- A number of one or two digits, their count, and what follows. -/
def shortNumber? : List Char → Option (Nat × Nat × List Char)
  | a :: b :: cs =>
    if Text.isAsciiDigit a then
      if Text.isAsciiDigit b then some (Text.digitsValue [a, b], 2, cs)
      else some (Text.digitsValue [a], 1, b :: cs)
    else none
  | [a] => if Text.isAsciiDigit a then some (Text.digitsValue [a], 1, []) else none
  | [] => none

/-- A number of two digits and what follows. -/
def twoDigits? (cs : List Char) : Option (Nat × List Char) :=
  match shortNumber? cs with
  | some (n, 2, rest) => some (n, rest)
  | _ => none

/-- What follows a character. -/
def after? (c : Char) : List Char → Option (List Char)
  | x :: cs => if x = c then some cs else none
  | [] => none

/-- The distance from Universal Time, in minutes, that ends a timestamp. -/
def zone? (cs : List Char) : Option (Option Int) :=
  match cs.dropWhile fun c => c = ' ' || c = '\t' with
  | [] => if cs.isEmpty then some none else none
  | ['Z'] => some (some 0)
  | sign :: rest =>
    if sign = '+' || sign = '-' then do
      let (hours, _, rest) ← shortNumber? rest
      let minutes ← match rest with
        | [] => some 0
        | ':' :: rest => do
          let (minutes, rest) ← twoDigits? rest
          if rest.isEmpty then some minutes else none
        | _ => none
      let total : Int := (hours * 60 + minutes : Nat)
      return some (if sign = '-' then -total else total)
    else none

/-- The time of day that ends a timestamp. -/
def time? (cs : List Char) : Option TimeOfDay := do
  let (hour, _, cs) ← shortNumber? cs
  let cs ← after? ':' cs
  let (minute, cs) ← twoDigits? cs
  let cs ← after? ':' cs
  let (second, cs) ← twoDigits? cs
  let (fraction, cs) := match cs with
    | '.' :: rest => rest.span Text.isAsciiDigit
    | _ => ([], cs)
  let zone ← zone? cs
  return ⟨hour, minute, second, fraction, zone⟩

/-- The parts of a timestamp. A line end at the end of the text is not looked at. -/
def ofText? (text : List Char) : Option Timestamp := do
  let text := if text.getLast? = some '\n' then text.dropLast else text
  let year := text.take 4
  if year.length < 4 || !year.all Text.isAsciiDigit then none
  else
    let cs ← after? '-' (text.drop 4)
    let (month, monthDigits, cs) ← shortNumber? cs
    let cs ← after? '-' cs
    let (day, dayDigits, cs) ← shortNumber? cs
    let time ← match cs with
      | [] => some none
      | c :: rest =>
        if c = 'T' || c = 't' then (time? rest).map some
        else if c = ' ' || c = '\t' then
          (time? (rest.dropWhile fun c => c = ' ' || c = '\t')).map some
        else none
    return ⟨Text.digitsValue year, month, day, monthDigits = 2 && dayDigits = 2, time⟩

/-- A plain scalar with this text is a timestamp; a day alone needs two digits for month and
day. -/
def isSpelling (text : List Char) : Bool :=
  match ofText? text with
  | some t => t.time.isSome || t.isPadded
  | none => false

/-- The millionths of a second that digits after a point write. -/
def microseconds (fraction : List Char) : Nat :=
  Text.digitsValue ((fraction ++ List.replicate 6 '0').take 6)

/-- The day or the point of time. -/
inductive Moment where
  /-- A day. -/
  | date (d : Date)
  /-- A point of time. -/
  | time (t : DateTime)
  deriving DecidableEq, Repr

/-- The minutes of a day. -/
def dayMinutes : Nat := 24 * 60

/-- What is said of a distance from Universal Time of a day or more. -/
def zoneMessage (minutes : Int) : String :=
  let seconds := minutes * 60
  let days := seconds / 86400
  let rest := seconds % 86400
  "offset must be a timedelta strictly between -timedelta(hours=24) and timedelta(hours=24), not " ++
    s!"datetime.timedelta(days={days}" ++
    (if rest = 0 then "" else s!", seconds={rest}") ++ ")."

/-- The moment that a timestamp names; numbers out of range cannot be formed. -/
def moment (t : Timestamp) : Except Problem Moment :=
  match t.time with
  | none =>
    match Date.ofNumbers t.year t.month t.day with
    | .ok d => .ok (.date d)
    | .error e => .error (.defect (.badValue e.message))
  | some c =>
    match c.zone with
    | some minutes =>
      if minutes.natAbs < dayMinutes then point c (some (minutes * 60))
      else .error (.defect (.badValue (zoneMessage minutes)))
    | none => point c none
where
  /-- The point of time with a distance from Universal Time in seconds. -/
  point (c : TimeOfDay) (offset : Option Int) : Except Problem Moment :=
    match DateTime.ofNumbers t.year t.month t.day c.hour c.minute c.second
        (microseconds c.fraction) offset with
    | .ok d => .ok (.time d)
    | .error e => .error (.defect (.badValue e.message))

end Timestamp

end SubpathCsi.Yaml
