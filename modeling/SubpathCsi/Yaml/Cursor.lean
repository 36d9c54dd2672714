import SubpathCsi.Failure

/-!
# Positions in a YAML text

A cursor stands before a character and knows its offset, its line and its column. Five characters
end a line; the byte order mark takes no column.
-/

namespace SubpathCsi.Yaml

/-- Why a text cannot be loaded. -/
inductive Problem where
  /-- It breaks the rules of the format. -/
  | malformed
  /-- A value in it cannot be formed. -/
  | defect (reason : Defect)
  deriving DecidableEq, Repr

/-- A position in a text. -/
structure Cursor where
  /-- The characters to come. -/
  rest : List Char
  /-- Characters passed. -/
  offset : Nat := 0
  /-- Lines passed. -/
  line : Nat := 0
  /-- Columns passed in this line. -/
  column : Nat := 0

/-- Characters that end a line. -/
def isBreak (c : Char) : Bool :=
  c = '\n' || c = '\r' || c = '\x85' || c = '\u2028' || c = '\u2029'

/-- The end of the text, a blank, a tab or a line end. -/
def isGap : Option Char → Bool
  | none => true
  | some c => c = ' ' || c = '\t' || isBreak c

/-- The end of the text, a blank or a line end. -/
def isGapNoTab : Option Char → Bool
  | some '\t' => false
  | c => isGap c

/-- The end of the text or a line end. -/
def isLineEnd : Option Char → Bool
  | none => true
  | some c => isBreak c

/-- Letters, digits, `-` and `_`: the characters of names. -/
def isNameChar (c : Char) : Bool := c.isAlphanum || c = '-' || c = '_'

/-- Characters that a text may hold. -/
def isAllowed (c : Char) : Bool :=
  let n := c.toNat
  n = 0x9 || n = 0xA || n = 0xD || (0x20 ≤ n && n ≤ 0x7E) || n = 0x85 ||
    (0xA0 ≤ n && n ≤ 0xD7FF) || (0xE000 ≤ n && n ≤ 0xFFFD) || 0x10000 ≤ n

namespace Cursor

/-- The next character. -/
def peek (c : Cursor) : Option Char := c.rest.head?

/-- The character `k` places ahead. -/
def peekAt (c : Cursor) (k : Nat) : Option Char := c.rest[k]?

/-- Moves past one character. -/
def next (c : Cursor) : Cursor :=
  match c.rest with
  | [] => c
  | x :: rest =>
    if isBreak x && !(x = '\r' && rest.head? = some '\n') then
      ⟨rest, c.offset + 1, c.line + 1, 0⟩
    else if x = '\uFEFF' then ⟨rest, c.offset + 1, c.line, c.column⟩
    else ⟨rest, c.offset + 1, c.line, c.column + 1⟩

/-- Moves past `n` characters. -/
def advance (c : Cursor) : Nat → Cursor
  | 0 => c
  | n + 1 => c.next.advance n

/-- The characters to come that satisfy `p`. -/
def run (c : Cursor) (p : Char → Bool) : List Char := c.rest.takeWhile p

/-- Moves past the characters that satisfy `p`. -/
def skip (c : Cursor) (p : Char → Bool) : Cursor := c.advance (c.run p).length

/-- Moves past blanks. -/
def skipSpaces (c : Cursor) : Cursor := c.skip (· = ' ')

/-- Moves to the end of the line. -/
def skipLine (c : Cursor) : Cursor := c.skip (!isBreak ·)

/-- Moves past a line end; the character that stands for it. A carriage return, a line feed, the
two together and the next-line mark all stand for a line feed. -/
def lineBreak? (c : Cursor) : Option (Char × Cursor) :=
  match c.rest with
  | '\r' :: '\n' :: _ => some ('\n', c.advance 2)
  | '\r' :: _ => some ('\n', c.next)
  | '\n' :: _ => some ('\n', c.next)
  | '\x85' :: _ => some ('\n', c.next)
  | '\u2028' :: _ => some ('\u2028', c.next)
  | '\u2029' :: _ => some ('\u2029', c.next)
  | _ => none

/-- Moves past a line end, if there is one. -/
def skipBreak (c : Cursor) : Cursor := (c.lineBreak?.map (·.2)).getD c

/-- Three marks `m` stand here, and a gap after them. -/
def atMarks (c : Cursor) (m : Char) : Bool :=
  [m, m, m].isPrefixOf c.rest && isGap (c.peekAt 3)

/-- The start or end of a document is marked here. -/
def atDocumentMark (c : Cursor) : Bool := c.atMarks '-' || c.atMarks '.'

/-- Moves past blanks, a comment and the line end, if nothing else is in the line. -/
def restOfLine? (c : Cursor) : Option Cursor :=
  let c := c.skipSpaces
  let c := if c.peek = some '#' then c.skipLine else c
  if isLineEnd c.peek then some c.skipBreak else none

end Cursor

end SubpathCsi.Yaml
