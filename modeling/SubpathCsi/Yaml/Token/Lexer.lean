import SubpathCsi.Yaml.Scalar
import SubpathCsi.Yaml.Token

/-!
# From text to tokens

The lexer keeps a cursor, the columns of the open block collections and, for each open flow
collection and for the block around them, the token that may turn out to be a key.

* A colon makes the pending token a key: the key mark, and where a mapping begins its start, are
  put before that token.
* A line that is indented less than the open block collections closes them.
* A key without a key mark stays in its line and within 1024 characters.

`Token.ofText` gives the tokens of a text. The list ends with `streamEnd`, or with a `failure`
where no token can be read.
-/

namespace SubpathCsi.Yaml

/-- A token that may turn out to be a key. -/
structure PendingKey where
  /-- The number of tokens before it. -/
  position : Nat
  /-- A colon has to follow. -/
  required : Bool
  /-- Where the token begins. -/
  start : Cursor

/-- The state of the lexer. -/
structure Lexer where
  /-- What is still to be read. -/
  cursor : Cursor
  /-- The tokens read, the last one first. -/
  tokens : List Token := []
  /-- The number of tokens read. -/
  count : Nat := 0
  /-- The column of the innermost block collection; `-1` outside. -/
  indent : Int := -1
  /-- The columns of the block collections around it. -/
  outer : List Int := []
  /-- A key without a key mark may begin here. -/
  allowKey : Bool := true
  /-- The pending key of the innermost collection. -/
  pending : Option PendingKey := none
  /-- The pending keys of the collections around the open flow collections, innermost first. -/
  enclosing : List (Option PendingKey) := []

/-- The longest key without a key mark, in characters. -/
def maxKeyLength : Nat := 1024

namespace Lexer

/-- Some flow collection is open. -/
def inFlow (l : Lexer) : Bool := !l.enclosing.isEmpty

/-- Adds a token at the end. -/
def push (l : Lexer) (t : Token) : Lexer :=
  { l with tokens := t :: l.tokens, count := l.count + 1 }

/-- Adds a token so that `position` tokens are before it. -/
def insert (l : Lexer) (position : Nat) (t : Token) : Lexer :=
  let later := l.count - position
  { l with
    tokens := l.tokens.take later ++ t :: l.tokens.drop later
    count := l.count + 1 }

/-- Moves to the next token: past blanks, comments and line ends. A line end allows a key. -/
def skipGaps : Nat → Lexer → Lexer
  | 0, l => l
  | fuel + 1, l =>
    let c := l.cursor.skipSpaces
    let c := if c.peek = some '#' then c.skipLine else c
    match c.lineBreak? with
    | none => { l with cursor := c }
    | some (_, c) => skipGaps fuel { l with cursor := c, allowKey := l.allowKey || !l.inFlow }

/-- A pending key that can no longer be one is dropped; if it has to be one, this is an error. -/
def refresh (c : Cursor) : Option PendingKey → Except Problem (Option PendingKey)
  | none => .ok none
  | some k =>
    if k.start.line ≠ c.line || c.offset - k.start.offset > maxKeyLength then
      if k.required then .error .malformed else .ok none
    else .ok (some k)

/-- Drops the pending keys that are out of reach. -/
def dropStale (l : Lexer) : Except Problem Lexer := do
  let pending ← refresh l.cursor l.pending
  let enclosing ← l.enclosing.mapM (refresh l.cursor)
  return { l with pending, enclosing }

/-- Drops the pending key of the innermost collection. -/
def forgetKey (l : Lexer) : Except Problem Lexer :=
  match l.pending with
  | some k => if k.required then .error .malformed else .ok { l with pending := none }
  | none => .ok l

/-- Notes that the next token may turn out to be a key. -/
def noteKey (l : Lexer) : Except Problem Lexer :=
  if l.allowKey then do
    let required := !l.inFlow && l.indent = l.cursor.column
    let l ← l.forgetKey
    return { l with pending := some ⟨l.count, required, l.cursor⟩ }
  else .ok l

/-- Closes the block collections that are indented more than `column`. -/
def closeBlocks (column : Int) : List Int → Lexer → Lexer
  | [], l => l
  | i :: is, l =>
    if l.indent > column then closeBlocks column is { l.push .blockEnd with indent := i, outer := is }
    else l

/-- Closes the block collections that a line indented by `column` leaves. -/
def unwind (l : Lexer) (column : Int) : Lexer :=
  if l.inFlow then l else closeBlocks column l.outer l

/-- Opens a block collection at a column, if that is deeper than the open ones. -/
def deepen? (l : Lexer) (column : Nat) : Option Lexer :=
  if l.indent < column then some { l with indent := column, outer := l.indent :: l.outer } else none

/-- Adds a token that takes `n` characters. -/
def take (l : Lexer) (n : Nat) (t : Token) : Lexer := { l.push t with cursor := l.cursor.advance n }

/-- Ends the block collections and the pending key before a directive or the mark of a document. -/
def leaveDocument (l : Lexer) : Except Problem Lexer := do
  let l ← (l.unwind (-1)).forgetKey
  return { l with allowKey := false }

/-- A bracket that opens a flow collection. -/
def openFlow (l : Lexer) (t : Token) : Except Problem Lexer := do
  let l ← l.noteKey
  let l := l.take 1 t
  return { l with allowKey := true, pending := none, enclosing := l.pending :: l.enclosing }

/-- A bracket that closes a flow collection. -/
def closeFlow (l : Lexer) (t : Token) : Except Problem Lexer := do
  let l ← l.forgetKey
  match l.enclosing with
  | [] => .error .malformed
  | k :: ks => return { l.take 1 t with allowKey := false, pending := k, enclosing := ks }

/-- A mark before an entry or a key in a block collection, which it may open. -/
def blockMark (l : Lexer) (start mark : Token) : Except Problem Lexer := do
  let l ←
    if l.inFlow then pure l
    else if !l.allowKey then .error .malformed
    else pure (((l.deepen? l.cursor.column).map (·.push start)).getD l)
  let l ← l.forgetKey
  return l.take 1 mark

/-- `-` before an entry. -/
def entryMark (l : Lexer) : Except Problem Lexer := do
  let l ← l.blockMark .blockSequenceStart .blockEntry
  return { l with allowKey := true }

/-- `?` before a key. -/
def keyMark (l : Lexer) : Except Problem Lexer := do
  let l ← l.blockMark .blockMappingStart .key
  return { l with allowKey := !l.inFlow }

/-- `:` before a value. -/
def valueMark (l : Lexer) : Except Problem Lexer :=
  match l.pending with
  | some k =>
    let l := { l with pending := none, allowKey := false }
    let l := l.insert k.position .key
    let l :=
      if l.inFlow then l
      else match l.deepen? k.start.column with
        | some l => l.insert k.position .blockMappingStart
        | none => l
    .ok (l.take 1 .value)
  | none => do
    let l ← l.blockMark .blockMappingStart .value
    return { l with allowKey := !l.inFlow }

/-- A token that is a node or begins one. -/
def word (l : Lexer) (read : Token.Reader) : Except Problem Lexer := do
  let l ← l.noteKey
  let (t, c) ← read l.cursor
  return { l.push t with cursor := c, allowKey := false }

/-- A block scalar. -/
def block (l : Lexer) : Except Problem Lexer := do
  let l ← l.forgetKey
  let (text, c) ← blockScalar l.indent l.cursor
  return { l.push (.scalar (String.ofList text) false) with cursor := c, allowKey := true }

/-- A plain scalar. -/
def plain (l : Lexer) : Except Problem Lexer := do
  let l ← l.noteKey
  let (text, broken, c) := plainScalar l.inFlow (l.indent + 1).toNat l.cursor
  return { l.push (.scalar (String.ofList text) true) with cursor := c, allowKey := broken }

/-- A plain scalar may begin with `x` before `next`. -/
def startsPlain (inFlow : Bool) (x : Char) (next : Option Char) : Bool :=
  !(isGap (some x) || "-?:,[]\x7b\x7d#&*!|>'\"%@`".toList.contains x) ||
    (!isGap next && (x = '-' || (!inFlow && (x = '?' || x = ':'))))

/-- The token at the character `x`. -/
def token (l : Lexer) (x : Char) : Except Problem Lexer :=
  let c := l.cursor
  let next := c.peekAt 1
  if x = '%' && c.column = 0 then do
    let l ← l.leaveDocument
    let (t, c) ← Token.readDirective l.cursor
    return { l.push t with cursor := c }
  else if c.column = 0 && c.atMarks '-' then return (← l.leaveDocument).take 3 .documentStart
  else if c.column = 0 && c.atMarks '.' then return (← l.leaveDocument).take 3 .documentEnd
  else if x = '[' then l.openFlow .flowSequenceStart
  else if x = '\x7b' then l.openFlow .flowMappingStart
  else if x = ']' then l.closeFlow .flowSequenceEnd
  else if x = '\x7d' then l.closeFlow .flowMappingEnd
  else if x = ',' then do
    let l ← l.forgetKey
    return { l.take 1 .flowEntry with allowKey := true }
  else if x = '-' && isGap next then l.entryMark
  else if x = '?' && (l.inFlow || isGap next) then l.keyMark
  else if x = ':' && (l.inFlow || isGap next) then l.valueMark
  else if x = '*' then
    l.word fun c => (Token.anchorName c).map fun r => (.alias r.1, r.2)
  else if x = '&' then
    l.word fun c => (Token.anchorName c).map fun r => (.anchor r.1, r.2)
  else if x = '!' then l.word Token.readTag
  else if (x = '|' || x = '>') && !l.inFlow then l.block
  else if x = '\'' || x = '"' then
    l.word fun c => (quotedScalar c).map fun r => (.scalar (String.ofList r.1) false, r.2)
  else if startsPlain l.inFlow x next then l.plain
  else .error .malformed

/-- Reads one more token; none at the end of the text. -/
def step (l : Lexer) : Except Problem (Lexer × Bool) := do
  let l := skipGaps (l.cursor.rest.length + 1) l
  let l ← l.dropStale
  let l := l.unwind l.cursor.column
  match l.cursor.peek with
  | some x => return (← l.token x, true)
  | none =>
    let l ← l.leaveDocument
    return (l.push .streamEnd, false)

/-- Reads all tokens. Every step but the last moves the cursor, so `fuel` above the length of the
text is enough. -/
def run : Nat → Lexer → List Token
  | 0, l => (Token.failure .malformed :: l.tokens).reverse
  | fuel + 1, l =>
    match l.step with
    | .ok (l, true) => run fuel l
    | .ok (l, false) => l.tokens.reverse
    | .error p => (Token.failure p :: l.tokens).reverse

end Lexer

/-- The tokens of a text. A byte order mark at its start is skipped. -/
def Token.ofText (text : List Char) : List Token :=
  if !text.all isAllowed then [.failure .malformed]
  else
    let c : Cursor := { rest := text }
    let c := if c.peek = some '\uFEFF' then c.next else c
    Lexer.run (text.length + 2) { cursor := c }

end SubpathCsi.Yaml
