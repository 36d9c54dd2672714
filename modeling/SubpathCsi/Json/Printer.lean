import SubpathCsi.Json.Basic
import SubpathCsi.Number.Shortest
import SubpathCsi.Text.Quoted

/-!
# Writing JSON

One line, a blank after each comma and colon, only ASCII characters: all others are written as
`\u` escapes, beyond the basic plane as a surrogate pair.
-/

namespace SubpathCsi.Json

/-- A UTF-16 unit as an escape. -/
def unitEscape (n : Nat) : List Char := '\\' :: 'u' :: Text.hexPadded 4 n

/-- A character inside a string. -/
def charText (c : Char) : List Char :=
  if c = '"' then ['\\', '"']
  else if c = '\\' then ['\\', '\\']
  else if c = '\n' then ['\\', 'n']
  else if c = '\r' then ['\\', 'r']
  else if c = '\t' then ['\\', 't']
  else if c = '\x08' then ['\\', 'b']
  else if c = '\x0c' then ['\\', 'f']
  else if 0x20 ≤ c.toNat && c.toNat < 0x7F then [c]
  else if c.toNat < 0x10000 then unitEscape c.toNat
  else
    let n := c.toNat - 0x10000
    unitEscape (0xD800 + n / 1024) ++ unitEscape (0xDC00 + n % 1024)

/-- A string with its quotes. -/
def stringText (s : String) : List Char := '"' :: s.toList.flatMap charText ++ ['"']

/-- A floating-point number. -/
def floatText : Binary64 → List Char
  | .nan => "NaN".toList
  | .infinite s => if s then "-Infinity".toList else "Infinity".toList
  | x => x.textChars

mutual

/-- A value as text. -/
def textChars : Json → List Char
  | null => "null".toList
  | bool b => if b then "true".toList else "false".toList
  | int n => (toString n).toList
  | float x => floatText x
  | str s => stringText s
  | arr xs => '[' :: itemsText xs ++ [']']
  | obj ms => '{' :: membersText ms ++ ['}']

/-- Items with commas between them. -/
def itemsText : List Json → List Char
  | [] => []
  | [x] => textChars x
  | x :: y :: xs => textChars x ++ ',' :: ' ' :: itemsText (y :: xs)

/-- Members with commas between them. -/
def membersText : List (String × Json) → List Char
  | [] => []
  | [(k, v)] => stringText k ++ ':' :: ' ' :: textChars v
  | (k, v) :: m :: ms => stringText k ++ ':' :: ' ' :: textChars v ++ ',' :: ' ' :: membersText (m :: ms)

end

/-- A value as text. -/
def text (j : Json) : String := String.ofList j.textChars

end SubpathCsi.Json
