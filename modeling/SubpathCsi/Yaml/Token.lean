import SubpathCsi.Number.Integer
import SubpathCsi.Json.Reader
import SubpathCsi.Yaml.Cursor

/-!
# Tokens of YAML

A text is cut into tokens before its structure is read. This module has the token type and the
readers of the tokens that are words: directives, anchors, aliases and tags. Each reader takes a
cursor on the first character of the token.
-/

namespace SubpathCsi.Yaml

/-- A token. -/
inductive Token where
  /-- The directive that gives the major version of the format. -/
  | version (major : Nat)
  /-- The directive that lets a handle stand for the start of tags. -/
  | tagHandle (handle start : String)
  /-- Any other directive. -/
  | directive
  /-- `---`. -/
  | documentStart
  /-- `...`. -/
  | documentEnd
  /-- A sequence of lines that begin with `-` starts. -/
  | blockSequenceStart
  /-- A mapping of lines with `:` starts. -/
  | blockMappingStart
  /-- A block collection ends. -/
  | blockEnd
  /-- `[`. -/
  | flowSequenceStart
  /-- `]`. -/
  | flowSequenceEnd
  /-- `\x7b`. -/
  | flowMappingStart
  /-- `\x7d`. -/
  | flowMappingEnd
  /-- `-`. -/
  | blockEntry
  /-- `,`. -/
  | flowEntry
  /-- A key of a mapping follows. -/
  | key
  /-- `:`. -/
  | value
  /-- `*name`. -/
  | alias (name : String)
  /-- `&name`. -/
  | anchor (name : String)
  /-- A tag, with a handle or in full. -/
  | tag (handle : Option String) (suffix : String)
  /-- A scalar, and whether it is written without quotes. -/
  | scalar (text : String) (plain : Bool)
  /-- The text ends. -/
  | streamEnd
  /-- No token can be read from here on. -/
  | failure (reason : Problem)
  deriving DecidableEq, Repr

namespace Token

/-- Reads a token. -/
abbrev Reader := Cursor → Except Problem (Token × Cursor)

/-- The end of the text, a blank or a line end follows. -/
def atBlankOrEnd (c : Cursor) : Bool := isGapNoTab c.peek

/-! ### Anchors and aliases -/

/-- What may follow the name of an anchor. -/
def endsName (x : Option Char) : Bool :=
  isGap x || "?:,]\x7d%@`".toList.any (x = some ·)

/-- The name of an anchor or alias, after its first character. -/
def anchorName (c : Cursor) : Except Problem (String × Cursor) :=
  let c := c.next
  let name := c.run isNameChar
  let c := c.advance name.length
  if name.isEmpty || !endsName c.peek then .error .malformed else .ok (String.ofList name, c)

/-! ### Tags -/

/-- Characters of tags, the escape sign included. -/
def isTagChar (c : Char) : Bool := c.isAlphanum || "-;/?:@&=+$,_.!~*'()[]%".toList.contains c

/-- Octets written `%XX` at the front of a text. -/
def escapedOctets : List Char → Except Problem (List UInt8 × List Char)
  | '%' :: a :: b :: rest =>
    match Json.hexValue? a, Json.hexValue? b with
    | some x, some y => do
      let (octets, rest) ← escapedOctets rest
      return (UInt8.ofNat (16 * x + y) :: octets, rest)
    | _, _ => .error .malformed
  | '%' :: _ => .error .malformed
  | cs => .ok ([], cs)

/-- The characters of a tag, with octets written out: the text and how many characters it took. -/
def tagText : Nat → List Char → Except Problem (List Char × Nat)
  | 0, _ => .ok ([], 0)
  | fuel + 1, cs =>
    match cs with
    | [] => .ok ([], 0)
    | '%' :: _ => do
      let (octets, rest) ← escapedOctets cs
      match String.fromUTF8? (ByteArray.mk octets.toArray) with
      | none => .error .malformed
      | some s =>
        let (more, n) ← tagText fuel rest
        return (s.toList ++ more, cs.length - rest.length + n)
    | x :: rest =>
      if isTagChar x then do
        let (more, n) ← tagText fuel rest
        return (x :: more, n + 1)
      else .ok ([], 0)

/-- The text of a tag, which must not be empty. -/
def tagSuffix (c : Cursor) : Except Problem (String × Cursor) := do
  let (text, n) ← tagText (c.rest.length + 1) c.rest
  if n = 0 then .error .malformed else .ok (String.ofList text, c.advance n)

/-- A tag handle: `!`, or a name between two of them. -/
def tagHandleName (c : Cursor) : Except Problem (String × Cursor) :=
  match c.rest with
  | '!' :: ' ' :: _ => .ok ("!", c.next)
  | '!' :: rest =>
    let name := rest.takeWhile isNameChar
    if rest[name.length]? = some '!' then
      .ok (String.ofList ('!' :: name ++ ['!']), c.advance (name.length + 2))
    else .error .malformed
  | _ => .error .malformed

/-- A tag: in angle brackets, `!` alone, or a handle and a suffix. -/
def readTag : Reader := fun c => do
  let (handle, suffix, c) ← match c.peekAt 1 with
    | some '<' => do
      let (suffix, c) ← tagSuffix (c.advance 2)
      if c.peek = some '>' then pure (none, suffix, c.next) else .error .malformed
    | x =>
      if isGap x then pure (none, "!", c.next)
      else
        let word := c.next.run fun y => !(y = ' ' || isBreak y)
        if word.contains '!' then do
          let (handle, c) ← tagHandleName c
          let (suffix, c) ← tagSuffix c
          pure (some handle, suffix, c)
        else do
          let (suffix, c) ← tagSuffix c.next
          pure (some "!", suffix, c)
  if atBlankOrEnd c then return (.tag handle suffix, c) else .error .malformed

/-! ### Directives -/

/-- A number of a version. -/
def versionNumber (c : Cursor) : Except Problem (Nat × Cursor) :=
  let digits := c.run Text.isAsciiDigit
  if digits.isEmpty then .error .malformed
  else if digits.length > Integer.maxDigits then
    .error (.defect (.badValue (Integer.tooLongMessage digits.length)))
  else .ok (Text.digitsValue digits, c.advance digits.length)

/-- The version after the name of its directive. -/
def readVersion : Reader := fun c => do
  let (major, c) ← versionNumber c.skipSpaces
  if c.peek = some '.' then
    let (_, c) ← versionNumber c.next
    if atBlankOrEnd c then return (.version major, c) else .error .malformed
  else .error .malformed

/-- A tag handle and what it stands for, after the name of their directive. -/
def readTagHandle : Reader := fun c => do
  let (handle, c) ← tagHandleName c.skipSpaces
  if c.peek = some ' ' then
    let (start, c) ← tagSuffix c.skipSpaces
    if atBlankOrEnd c then return (.tagHandle handle start, c) else .error .malformed
  else .error .malformed

/-- A directive, up to the end of its line. -/
def readDirective : Reader := fun c => do
  let c := c.next
  let name := c.run isNameChar
  let c := c.advance name.length
  if name.isEmpty || !atBlankOrEnd c then .error .malformed
  else
    let (token, c) ←
      if name = "YAML".toList then readVersion c
      else if name = "TAG".toList then readTagHandle c
      else .ok (.directive, c.skipLine)
    match c.restOfLine? with
    | some c => return (token, c)
    | none => .error .malformed

end Token

end SubpathCsi.Yaml
