import SubpathCsi.Text.Digit
import SubpathCsi.Yaml.Timestamp

/-!
# Tags of YAML

A tag tells what kind of value a node is. A plain scalar without a tag gets one from its text:
the first of truth values, floating-point numbers, integers, the merge key, null, timestamps and
the value key whose spelling it has, or else text.
-/

namespace SubpathCsi.Yaml

/-- The kind of value that a node is. -/
inductive Tag where
  | bool
  | float
  | int
  /-- The key `<<`, whose value is merged into the mapping. -/
  | merge
  | null
  | timestamp
  /-- The key `=`. -/
  | value
  /-- A lone indicator. -/
  | indicator
  | str
  | seq
  | map
  | binary
  | omap
  | pairs
  | set
  /-- No value can be formed. -/
  | unknown
  deriving DecidableEq, Repr

namespace Tag

/-- The start of the names of the standard tags. -/
def standard : String := "tag:yaml.org,2002:"

/-- The standard tags under their names. -/
def names : List (String × Tag) :=
  [("bool", bool), ("float", float), ("int", int), ("merge", merge), ("null", null),
   ("timestamp", timestamp), ("value", value), ("yaml", indicator), ("str", str), ("seq", seq),
   ("map", map), ("binary", binary), ("omap", omap), ("pairs", pairs), ("set", set)]

/-- The tag with a name. -/
def ofName (name : String) : Tag :=
  ((names.find? fun p => standard ++ p.1 = name).map (·.2)).getD unknown

/-! ### Spellings -/

/-- Drops a sign, if there is one. -/
def unsigned : List Char → List Char
  | '+' :: cs => cs
  | '-' :: cs => cs
  | cs => cs

/-- Digits of a numeral: ASCII digits and underscores. -/
def isNumeral (c : Char) : Bool := Text.isAsciiDigit c || c = '_'

/-- A text that starts with an ASCII digit and continues with digits and underscores; what
follows. -/
def dropNumeral? : List Char → Option (List Char)
  | d :: cs => if Text.isAsciiDigit d then some (cs.dropWhile isNumeral) else none
  | [] => none

/-- Nothing, or an exponent with a sign and digits. -/
def isExponent : List Char → Bool
  | [] => true
  | e :: s :: ds =>
    (e = 'e' || e = 'E') && (s = '-' || s = '+') && !ds.isEmpty && ds.all Text.isAsciiDigit
  | _ => false

/-- Parts of a number in base sixty, each a colon and one or two digits; what follows, if there is
such a part. -/
def dropSixties? : List Char → Option (List Char)
  | ':' :: a :: b :: cs =>
    if '0' ≤ a && a ≤ '5' && Text.isAsciiDigit b then
      some ((dropSixties? cs).getD cs)
    else if Text.isAsciiDigit a then some ((dropSixties? (b :: cs)).getD (b :: cs))
    else none
  | [':', a] => if Text.isAsciiDigit a then some [] else none
  | _ => none

/-- The text is spelled like a truth value. -/
def isBool (cs : List Char) : Bool :=
  ["yes", "Yes", "YES", "no", "No", "NO", "true", "True", "TRUE", "false", "False", "FALSE",
   "on", "On", "ON", "off", "Off", "OFF"].contains (String.ofList cs)

/-- The text is spelled like a floating-point number. -/
def isFloat (cs : List Char) : Bool :=
  let body := unsigned cs
  (match dropNumeral? body with
    | some ('.' :: rest) => isExponent (rest.dropWhile isNumeral)
    | some rest =>
      match dropSixties? rest with
      | some ('.' :: rest) => rest.all isNumeral
      | _ => false
    | none => false) ||
  (match cs with
    | '.' :: rest =>
      match dropNumeral? rest with
      | some rest => isExponent rest
      | none => false
    | _ => false) ||
  [".inf", ".Inf", ".INF"].contains (String.ofList body) ||
  [".nan", ".NaN", ".NAN"].contains (String.ofList cs)

/-- The text is spelled like an integer. -/
def isInt (cs : List Char) : Bool :=
  match unsigned cs with
  | '0' :: 'b' :: ds => !ds.isEmpty && ds.all fun c => c = '0' || c = '1' || c = '_'
  | '0' :: 'x' :: ds =>
    !ds.isEmpty && ds.all fun c => isNumeral c || ('a' ≤ c && c ≤ 'f') || ('A' ≤ c && c ≤ 'F')
  | '0' :: ds => ds.all fun c => ('0' ≤ c && c ≤ '7') || c = '_'
  | ds =>
    match dropNumeral? ds with
    | some [] => true
    | some rest => dropSixties? rest = some []
    | none => false

/-- The text is spelled like null. -/
def isNull (cs : List Char) : Bool := ["~", "null", "Null", "NULL", ""].contains (String.ofList cs)

/-- The tag of a plain scalar. A line end at the end of the text is not looked at. -/
def ofPlain (text : String) : Tag :=
  let cs := text.toList
  let cs := if cs.length > 1 && cs.getLast? = some '\n' then cs.dropLast else cs
  if isBool cs then bool
  else if isFloat cs then float
  else if isInt cs then int
  else if cs = ['<', '<'] then merge
  else if isNull cs then null
  else if Timestamp.isSpelling cs then timestamp
  else if cs = ['='] then value
  else if cs = ['!'] || cs = ['&'] || cs = ['*'] then indicator
  else str

end Tag

end SubpathCsi.Yaml
