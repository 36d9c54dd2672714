import SubpathCsi.Yaml.Value

/-!
# Values of YAML as text

A text is shown as it is, and between quotes inside a collection. Days and points of time are
written in the usual form by themselves and as their numbers inside a collection.
-/

namespace SubpathCsi.Yaml.Value

/-- An octet between quotes `quote`. -/
def octetText (quote : Char) (b : UInt8) : List Char :=
  let c := Char.ofNat b.toNat
  if c = quote || c = '\\' then ['\\', c]
  else if c = '\t' then ['\\', 't']
  else if c = '\n' then ['\\', 'n']
  else if c = '\r' then ['\\', 'r']
  else if 0x20 ≤ b.toNat && b.toNat < 0x7F then [c]
  else '\\' :: 'x' :: Text.hexPadded 2 b.toNat

/-- Octets between quotes. -/
def octetsText (bytes : List UInt8) : String :=
  let quote := Text.quoteOf (bytes.map fun b => Char.ofNat b.toNat)
  String.ofList ('b' :: quote :: bytes.flatMap (octetText quote) ++ [quote])

/-- A distance from Universal Time as its numbers. -/
def zoneText (seconds : Int) : String :=
  if seconds = 0 then "datetime.timezone.utc"
  else
    let days := seconds / 86400
    let rest := seconds % 86400
    let parts :=
      (if days = 0 then [] else [s!"days={days}"]) ++ (if rest = 0 then [] else [s!"seconds={rest}"])
    "datetime.timezone(datetime.timedelta(" ++ joined ", " parts ++ "))"

/-- A day or a point of time as its numbers. -/
def momentNumbers : Timestamp.Moment → String
  | .date d => s!"datetime.date({d.year}, {d.month}, {d.day})"
  | .time t =>
    let parts := [t.date.year, t.date.month, t.date.day, t.hour, t.minute] ++
      (if t.second = 0 ∧ t.microsecond = 0 then [] else [t.second]) ++
      (if t.microsecond = 0 then [] else [t.microsecond])
    let zone := match t.offset with
      | none => []
      | some o => ["tzinfo=" ++ zoneText o]
    "datetime.datetime(" ++ joined ", " (parts.map toString ++ zone) ++ ")"

mutual

/-- A value inside a collection. -/
def nestedText : Value → String
  | null => "None"
  | bool b => if b then "True" else "False"
  | int n => Integer.text n
  | float x => x.text
  | text s => quoted s
  | octets bytes => octetsText bytes
  | moment m => momentNumbers m
  | list items => "[" ++ joined ", " (nestedItems items) ++ "]"
  | pairs items => "[" ++ joined ", " (nestedPairs items) ++ "]"
  | dict members => "\x7b" ++ joined ", " (nestedMembers members) ++ "\x7d"
  | set [] => "set()"
  | set items => "\x7b" ++ joined ", " (nestedItems items) ++ "\x7d"
  | loop isMapping => if isMapping then "\x7b...\x7d" else "[...]"

/-- The texts of items. -/
def nestedItems : List Value → List String
  | [] => []
  | x :: xs => nestedText x :: nestedItems xs

/-- The texts of pairs. -/
def nestedPairs : List (Value × Value) → List String
  | [] => []
  | (k, v) :: ps => ("(" ++ nestedText k ++ ", " ++ nestedText v ++ ")") :: nestedPairs ps

/-- The texts of members. -/
def nestedMembers : List (Value × Value) → List String
  | [] => []
  | (k, v) :: ms => (nestedText k ++ ": " ++ nestedText v) :: nestedMembers ms

end

/-- A value by itself. -/
def display : Value → String
  | text s => s
  | moment (.date d) => d.text
  | moment (.time t) => t.text " "
  | v => nestedText v

mutual

/-- All integers in a value can be written. -/
def isWritable : Value → Bool
  | int n => Integer.isWritable n
  | list items | set items => areWritable items
  | pairs items | dict items => pairsAreWritable items
  | _ => true

/-- All integers in values can be written. -/
def areWritable : List Value → Bool
  | [] => true
  | x :: xs => isWritable x && areWritable xs

/-- All integers in pairs can be written. -/
def pairsAreWritable : List (Value × Value) → Bool
  | [] => true
  | (k, v) :: ps => isWritable k && isWritable v && pairsAreWritable ps

end

/-- The name of the type of a value. -/
def typeName : Value → String
  | null => "NoneType"
  | bool _ => "bool"
  | int _ => "int"
  | float _ => "float"
  | text _ => "str"
  | octets _ => "bytes"
  | moment (.date _) => "date"
  | moment (.time _) => "datetime"
  | list _ | pairs _ => "list"
  | dict _ => "dict"
  | set _ => "set"
  | loop isMapping => if isMapping then "dict" else "list"

end SubpathCsi.Yaml.Value
