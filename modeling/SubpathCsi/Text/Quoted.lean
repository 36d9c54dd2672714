import SubpathCsi.Text.Printable

/-!
# Quoted values in messages

A message that names a value shows it between quotes. The quotes are single unless the value
holds a single quote and no double one. Backslashes, the chosen quote and characters that do not
show are written as escapes.
-/

namespace SubpathCsi.Text

/-- The lower-case hexadecimal digits of `n`, padded with zeros to `width`. -/
def hexPadded (width n : Nat) : List Char :=
  let digits := Nat.toDigits 16 n
  List.replicate (width - digits.length) '0' ++ digits

/-- A character between quotes `quote`. -/
def quotedChar (quote c : Char) : List Char :=
  if c = quote || c = '\\' then ['\\', c]
  else if c = '\t' then ['\\', 't']
  else if c = '\n' then ['\\', 'n']
  else if c = '\r' then ['\\', 'r']
  else if isPrintable c then [c]
  else if c.toNat < 0x100 then '\\' :: 'x' :: hexPadded 2 c.toNat
  else if c.toNat < 0x10000 then '\\' :: 'u' :: hexPadded 4 c.toNat
  else '\\' :: 'U' :: hexPadded 8 c.toNat

/-- The quote that a text is shown between. -/
def quoteOf (cs : List Char) : Char :=
  if cs.contains '\'' && !cs.contains '"' then '"' else '\''

/-- A text between quotes, with escapes. -/
def quotedText (cs : List Char) : List Char :=
  let quote := quoteOf cs
  quote :: cs.flatMap (quotedChar quote) ++ [quote]

end SubpathCsi.Text

namespace SubpathCsi

/-- A string as a message shows it: between quotes, with escapes. -/
def quoted (s : String) : String := String.ofList (Text.quotedText s.toList)

end SubpathCsi
