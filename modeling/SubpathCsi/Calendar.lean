/-!
# Dates and times

Days of the Gregorian calendar, and points of time written as a day, a time of day and possibly
the distance from Universal Time.

* `Date.text`, `DateTime.text`: the written forms, `2024-01-15` and `2024-01-15T10:00:00+02:00`;
* `DateTime.instant?`: the point of time that a distance from Universal Time fixes.
-/

namespace SubpathCsi

/-- A natural number with zeros in front, at least `width` digits. -/
def zeroPadded (width n : Nat) : String :=
  let ds := Nat.toDigits 10 n
  String.ofList (List.replicate (width - ds.length) '0' ++ ds)

/-- Why numbers form no point of time. -/
inductive CalendarError where
  /-- There is no such year. -/
  | year (year : Nat)
  /-- There is no such month. -/
  | month
  /-- The month has no such day. -/
  | day
  /-- There is no such hour. -/
  | hour
  /-- There is no such minute. -/
  | minute
  /-- There is no such second. -/
  | second
  deriving DecidableEq, Repr

/-- The reason in words. -/
def CalendarError.message : CalendarError → String
  | year n => s!"year {n} is out of range"
  | month => "month must be in 1..12"
  | day => "day is out of range for month"
  | hour => "hour must be in 0..23"
  | minute => "minute must be in 0..59"
  | second => "second must be in 0..59"

/-- A day. -/
structure Date where
  /-- The year. -/
  year : Nat
  /-- The month, from 1. -/
  month : Nat
  /-- The day of the month, from 1. -/
  day : Nat
  deriving DecidableEq, Repr

namespace Date

/-- The year has 366 days. -/
def isLeap (year : Nat) : Bool := year % 4 = 0 && (year % 100 ≠ 0 || year % 400 = 0)

/-- The number of days of a month. -/
def monthLength (year month : Nat) : Nat :=
  if month = 2 then (if isLeap year then 29 else 28)
  else if month = 4 || month = 6 || month = 9 || month = 11 then 30
  else 31

/-- The day with these numbers. -/
def ofNumbers (year month day : Nat) : Except CalendarError Date :=
  if year < 1 || 9999 < year then .error (.year year)
  else if month < 1 || 12 < month then .error .month
  else if day < 1 || monthLength year month < day then .error .day
  else .ok ⟨year, month, day⟩

/-- The days from the first of January of the year 1 to this day. -/
def dayNumber (d : Date) : Int :=
  let y := d.year - 1
  let months := (List.range (d.month - 1)).map fun m => monthLength d.year (m + 1)
  (365 * y + y / 4 - y / 100 + y / 400 + months.foldl (· + ·) 0 + d.day : Nat) - (1 : Int)

/-- The day as year, month and day with dashes. -/
def text (d : Date) : String :=
  zeroPadded 4 d.year ++ "-" ++ zeroPadded 2 d.month ++ "-" ++ zeroPadded 2 d.day

end Date

/-- A point of time. -/
structure DateTime where
  /-- The day. -/
  date : Date
  /-- The hour. -/
  hour : Nat
  /-- The minute. -/
  minute : Nat
  /-- The second. -/
  second : Nat
  /-- The millionth of a second. -/
  microsecond : Nat
  /-- Seconds ahead of Universal Time, if known. -/
  offset : Option Int
  deriving DecidableEq, Repr

namespace DateTime

/-- The point of time with these numbers. -/
def ofNumbers (year month day hour minute second microsecond : Nat) (offset : Option Int) :
    Except CalendarError DateTime := do
  let date ← Date.ofNumbers year month day
  if 23 < hour then .error .hour
  else if 59 < minute then .error .minute
  else if 59 < second then .error .second
  else return ⟨date, hour, minute, second, microsecond, offset⟩

/-- Microseconds of the day and time as written. -/
def localMicros (t : DateTime) : Int :=
  ((t.date.dayNumber * 24 + t.hour) * 60 + t.minute) * 60000000 + t.second * 1000000 + t.microsecond

/-- Microseconds on the clock of Universal Time. -/
def instant? (t : DateTime) : Option Int := t.offset.map fun o => t.localMicros - o * 1000000

/-- A distance from Universal Time: sign, hours and minutes, and seconds if there are any. -/
def offsetText (seconds : Int) : String :=
  let n := seconds.natAbs
  (if seconds < 0 then "-" else "+") ++ zeroPadded 2 (n / 3600) ++ ":" ++
    zeroPadded 2 (n / 60 % 60) ++
    (if n % 60 = 0 then "" else ":" ++ zeroPadded 2 (n % 60))

/-- The point of time as day and time with `separator` between them. -/
def text (separator : String) (t : DateTime) : String :=
  t.date.text ++ separator ++ zeroPadded 2 t.hour ++ ":" ++ zeroPadded 2 t.minute ++ ":" ++
    zeroPadded 2 t.second ++
    (if t.microsecond = 0 then "" else "." ++ zeroPadded 6 t.microsecond) ++
    (match t.offset with
      | none => ""
      | some o => offsetText o)

end DateTime

end SubpathCsi
