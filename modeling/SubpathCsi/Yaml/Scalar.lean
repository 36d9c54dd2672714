import SubpathCsi.Json.Reader
import SubpathCsi.Yaml.Cursor

/-!
# Scalars of YAML

The five ways to write a text: plain, between single quotes, between double quotes, literal and
folded blocks. Each reader takes a cursor on the first character of the scalar and returns the
text and the cursor behind it.

* **Quoted**: a line end becomes a blank, unless empty lines follow, which stay;
* **Plain**: ends at a comment, at a colon before a gap, and at a line indented too little;
* **Block**: lines of one indentation; the header says what becomes of the line ends at the end.

A text has no surrogates, so `charOfCode` reads an escape for one as U+FFFD.
-/

namespace SubpathCsi.Yaml

/-- A text and the cursor behind it. -/
abbrev Read := Except Problem (List Char × Cursor)

/-! ### Quoted scalars -/

/-- The character that a letter after a backslash stands for. -/
def escape? : Char → Option Char
  | '0' => some '\x00'
  | 'a' => some '\x07'
  | 'b' => some '\x08'
  | 't' => some '\t'
  | '\t' => some '\t'
  | 'n' => some '\n'
  | 'v' => some '\x0b'
  | 'f' => some '\x0c'
  | 'r' => some '\r'
  | 'e' => some '\x1b'
  | ' ' => some ' '
  | '"' => some '"'
  | '\\' => some '\\'
  | '/' => some '/'
  | 'N' => some '\x85'
  | '_' => some '\xa0'
  | 'L' => some '\u2028'
  | 'P' => some '\u2029'
  | _ => none

/-- How many hexadecimal digits follow a letter after a backslash. -/
def escapeWidth? : Char → Option Nat
  | 'x' => some 2
  | 'u' => some 4
  | 'U' => some 8
  | _ => none

/-- The number that hexadecimal digits write. -/
def hexNumber? (ds : List Char) : Option Nat :=
  ds.foldlM (fun n d => (Json.hexValue? d).map (16 * n + ·)) 0

/-- The character with a code, which is U+FFFD for the code of a surrogate; a code beyond the last
character cannot be formed. -/
def charOfCode (n : Nat) : Except Problem Char :=
  if n > 0x7FFFFFFF then
    .error (.defect (.outOfRange "Python int too large to convert to C int"))
  else if n > 0x10FFFF then
    .error (.defect (.badValue "chr() arg not in range(0x110000)"))
  else if 0xD800 ≤ n && n ≤ 0xDFFF then .ok '\uFFFD'
  else .ok (Char.ofNat n)

/-- Line ends and the blanks around them inside a quoted scalar. -/
def quotedBreaks : Nat → List Char → Cursor → Read
  | 0, seen, c => .ok (seen.reverse, c)
  | fuel + 1, seen, c =>
    if c.atDocumentMark then .error .malformed
    else
      let c := c.skip fun x => x = ' ' || x = '\t'
      match c.lineBreak? with
      | some (b, c) => quotedBreaks fuel (b :: seen) c
      | none => .ok (seen.reverse, c)

/-- What a gap inside a quoted scalar stands for. -/
def quotedGap (c : Cursor) : Read := do
  let blanks := c.run fun x => x = ' ' || x = '\t'
  let c := c.advance blanks.length
  match c.peek with
  | none => .error .malformed
  | some _ =>
    match c.lineBreak? with
    | none => return (blanks, c)
    | some (b, c) => do
      let (breaks, c) ← quotedBreaks (c.rest.length + 1) [] c
      let first := if b ≠ '\n' then [b] else if breaks.isEmpty then [' '] else []
      return (first ++ breaks, c)

/-- A quoted scalar after its opening quote; the text so far is in `seen`, last character first. -/
def quotedBody (double : Bool) : Nat → List Char → Cursor → Read
  | 0, _, _ => .error .malformed
  | fuel + 1, seen, c =>
    match c.rest with
    | [] => .error .malformed
    | '\'' :: rest =>
      if double then quotedBody double fuel ('\'' :: seen) c.next
      else if rest.head? = some '\'' then quotedBody double fuel ('\'' :: seen) (c.advance 2)
      else .ok (seen.reverse, c.next)
    | '"' :: _ =>
      if double then .ok (seen.reverse, c.next) else quotedBody double fuel ('"' :: seen) c.next
    | '\\' :: rest =>
      if !double then quotedBody double fuel ('\\' :: seen) c.next
      else match rest with
        | [] => .error .malformed
        | e :: _ =>
          match escape? e, escapeWidth? e with
          | some x, _ => quotedBody double fuel (x :: seen) (c.advance 2)
          | none, some width => do
            let after := c.advance 2
            let digits := after.rest.take width
            if digits.length < width then .error .malformed
            else match hexNumber? digits with
              | none => .error .malformed
              | some n => do
                let x ← charOfCode n
                quotedBody double fuel (x :: seen) (after.advance width)
          | none, none =>
            if isBreak e then do
              let c := c.next.skipBreak
              let (breaks, c) ← quotedBreaks (c.rest.length + 1) [] c
              quotedBody double fuel (breaks.reverse ++ seen) c
            else .error .malformed
    | x :: _ =>
      if x = ' ' || x = '\t' || isBreak x then do
        let (gap, c) ← quotedGap c
        quotedBody double fuel (gap.reverse ++ seen) c
      else quotedBody double fuel (x :: seen) c.next

/-- A scalar between quotes. -/
def quotedScalar (c : Cursor) : Read :=
  quotedBody (c.peek = some '"') (c.rest.length + 1) [] c.next

/-! ### Plain scalars -/

/-- Does a plain scalar end before the characters `cs`? Inside flow collections it also ends at
their punctuation. -/
def endsPlain (inFlow : Bool) : List Char → Bool
  | [] => true
  | x :: rest =>
    isGap (some x) ||
    (x = ':' && (isGap rest.head? || (inFlow && ",[]\x7b\x7d".toList.any (rest.head? = some ·)))) ||
    (inFlow && ",?[]\x7b\x7d".toList.contains x)

/-- The characters of a plain scalar up to the next gap or its end. -/
def plainWord (inFlow : Bool) : List Char → List Char
  | [] => []
  | x :: rest => if endsPlain inFlow (x :: rest) then [] else x :: plainWord inFlow rest

/-- A gap inside a plain scalar. -/
structure PlainGap where
  /-- The characters that the gap stands for; none at the mark of a document. -/
  text : List Char
  /-- The gap holds a line end. -/
  broken : Bool
  /-- The cursor behind the gap. -/
  cursor : Cursor

/-- Line ends after the first one; none of the texts at the mark of a document. -/
def plainBreaks : Nat → List Char → Cursor → Option (List Char) × Cursor
  | 0, seen, c => (some seen.reverse, c)
  | fuel + 1, seen, c =>
    match c.peek with
    | some ' ' => plainBreaks fuel seen c.next
    | _ =>
      match c.lineBreak? with
      | some (b, c) =>
        if c.atDocumentMark then (none, c) else plainBreaks fuel (b :: seen) c
      | none => (some seen.reverse, c)

/-- What a gap inside a plain scalar stands for. -/
def plainGap (c : Cursor) : PlainGap :=
  let blanks := c.run (· = ' ')
  let c := c.advance blanks.length
  match c.lineBreak? with
  | none => ⟨blanks, false, c⟩
  | some (b, c) =>
    if c.atDocumentMark then ⟨[], true, c⟩
    else match plainBreaks (c.rest.length + 1) [] c with
      | (none, c) => ⟨[], true, c⟩
      | (some breaks, c) =>
        let first := if b ≠ '\n' then [b] else if breaks.isEmpty then [' '] else []
        ⟨first ++ breaks, true, c⟩

/-- The rest of a plain scalar: the words read so far, the gap after them, whether the last word is
followed by a line end, and the cursor. -/
def plainWords (inFlow : Bool) (indent : Nat) :
    Nat → List Char → List Char → Bool → Cursor → List Char × Bool × Cursor
  | 0, text, _, broken, c => (text, broken, c)
  | fuel + 1, text, gap, broken, c =>
    if c.peek = some '#' then (text, broken, c)
    else
      let word := plainWord inFlow c.rest
      if word.isEmpty then (text, broken, c)
      else
        let text := text ++ gap ++ word
        let g := plainGap (c.advance word.length)
        if g.text.isEmpty || g.cursor.peek = some '#' ||
            (!inFlow && g.cursor.column < indent) then (text, g.broken, g.cursor)
        else plainWords inFlow indent fuel text g.text g.broken g.cursor

/-- A plain scalar, whether a line end follows its last word, and the cursor behind it. -/
def plainScalar (inFlow : Bool) (indent : Nat) (c : Cursor) : List Char × Bool × Cursor :=
  plainWords inFlow indent (c.rest.length + 1) [] [] false c

/-! ### Block scalars -/

/-- What becomes of the line ends at the end of a block scalar. -/
inductive Chomping where
  /-- One is kept. -/
  | clip
  /-- None is kept. -/
  | strip
  /-- All are kept. -/
  | keep
  deriving DecidableEq, Repr

/-- The chomping that a sign stands for. -/
def chomping? : Option Char → Option Chomping
  | some '+' => some .keep
  | some '-' => some .strip
  | _ => none

/-- The indentation that a digit stands for, if one comes. -/
def increment (c : Cursor) : Except Problem (Option Nat × Cursor) :=
  match c.peek with
  | some d =>
    if Text.isAsciiDigit d then
      if d = '0' then .error .malformed else .ok (some (d.toNat - '0'.toNat), c.next)
    else .ok (none, c)
  | none => .ok (none, c)

/-- The header of a block scalar after its `|` or `>`: a sign and a digit in either order. -/
def blockHeader (c : Cursor) : Except Problem (Chomping × Option Nat × Cursor) := do
  let (chomp, digit, c) ← match chomping? c.peek with
    | some chomp => do
      let (digit, c) ← increment c.next
      pure (chomp, digit, c)
    | none => do
      let (digit, c) ← increment c
      match digit, chomping? c.peek with
      | some _, some chomp => pure (chomp, digit, c.next)
      | _, _ => pure (Chomping.clip, digit, c)
  if isGapNoTab c.peek then
    match c.restOfLine? with
    | some c => return (chomp, digit, c)
    | none => .error .malformed
  else .error .malformed

/-- The empty lines at the start of a block scalar and the deepest indentation among the lines up
to the first that holds something. -/
def blockIndentation : Nat → List Char → Nat → Cursor → List Char × Nat × Cursor
  | 0, seen, deepest, c => (seen.reverse, deepest, c)
  | fuel + 1, seen, deepest, c =>
    match c.peek with
    | some ' ' =>
      let c := c.next
      blockIndentation fuel seen (max deepest c.column) c
    | _ =>
      match c.lineBreak? with
      | some (b, c) => blockIndentation fuel (b :: seen) deepest c
      | none => (seen.reverse, deepest, c)

/-- Moves past blanks up to a column. -/
def indentTo (indent : Nat) (c : Cursor) : Cursor :=
  c.advance ((c.rest.take (indent - c.column)).takeWhile (· = ' ')).length

/-- The empty lines at the cursor. -/
def blockBreaks (indent : Nat) : Nat → List Char → Cursor → List Char × Cursor
  | 0, seen, c => (seen.reverse, c)
  | fuel + 1, seen, c =>
    let c := indentTo indent c
    match c.lineBreak? with
    | some (b, c) => blockBreaks indent fuel (b :: seen) c
    | none => (seen.reverse, c)

/-- The lines of a block scalar: the text so far, the line end of the last line, and the empty
lines before the cursor. -/
def blockLines (folded : Bool) (indent : Nat) :
    Nat → List Char → List Char → List Char → Cursor → List Char × List Char × List Char × Cursor
  | 0, text, last, breaks, c => (text, last, breaks, c)
  | fuel + 1, text, last, breaks, c =>
    if c.column = indent && c.peek.isSome then
      let flush := !(c.peek = some ' ' || c.peek = some '\t')
      let line := c.run (!isBreak ·)
      let text := text ++ breaks ++ line
      let c := c.advance line.length
      let (last, c) := match c.lineBreak? with
        | some (b, c) => ([b], c)
        | none => ([], c)
      let (breaks, c) := blockBreaks indent (c.rest.length + 1) [] c
      if c.column = indent && c.peek.isSome then
        let joint :=
          if folded && last = ['\n'] && flush && !(c.peek = some ' ' || c.peek = some '\t') then
            if breaks.isEmpty then [' '] else []
          else last
        blockLines folded indent fuel (text ++ joint) last breaks c
      else (text, last, breaks, c)
    else (text, last, breaks, c)

/-- A block scalar; `parent` is the indentation of the collection around it, `-1` at the top. -/
def blockScalar (parent : Int) (c : Cursor) : Read := do
  let folded := c.peek = some '>'
  let (chomp, digit, c) ← blockHeader c.next
  let least := (max (parent + 1) 1).toNat
  let (breaks, indent, c) := match digit with
    | none =>
      let (breaks, deepest, c) := blockIndentation (c.rest.length + 1) [] 0 c
      (breaks, max least deepest, c)
    | some d =>
      let indent := least + d - 1
      let (breaks, c) := blockBreaks indent (c.rest.length + 1) [] c
      (breaks, indent, c)
  let (text, last, breaks, c) := blockLines folded indent (c.rest.length + 1) [] [] breaks c
  let tail := match chomp with
    | .strip => []
    | .clip => last
    | .keep => last ++ breaks
  return (text ++ tail, c)

end SubpathCsi.Yaml
