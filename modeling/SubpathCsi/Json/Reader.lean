import SubpathCsi.Json.Basic
import SubpathCsi.Number.Integer

/-!
# Reading JSON

`Json.parse` reads one value with blanks around it. A text that is none is refused with the reason
and the position where reading stopped, counted in characters from zero and shown as line, column
and offset. Beside the numbers of the standard, `NaN`, `Infinity` and `-Infinity` are read.

Objects keep the first position and the last value of a repeated key.

A text has no unpaired surrogates, so an escape for half of a pair, without the other half, is read as
U+FFFD. Arrays and objects may be nested to any depth: there is no limit, and no stack to run out of.
-/

namespace SubpathCsi.Json

/-- Why a text is no JSON. -/
inductive ErrorKind where
  /-- A value must stand here. -/
  | expectingValue
  /-- The key of a member must stand here. -/
  | expectingKey
  /-- A colon must stand here. -/
  | expectingColon
  /-- A comma must stand here. -/
  | expectingComma
  /-- Text follows the value. -/
  | extraData
  /-- A byte order mark starts the text. -/
  | byteOrderMark
  /-- A string has no closing quote. -/
  | unterminatedString
  /-- A string holds a control character. -/
  | controlCharacter
  /-- A backslash is followed by no known letter. -/
  | badEscape
  /-- `\u` is not followed by four hexadecimal digits. -/
  | badUnicodeEscape
  /-- An integer has too many digits. -/
  | tooManyDigits (count : Nat)
  deriving DecidableEq, Repr

/-- Why, and at which character, reading stopped. -/
structure Error where
  /-- The reason. -/
  kind : ErrorKind
  /-- The offset of the character. -/
  offset : Nat
  deriving DecidableEq, Repr

/-- The reason in words. -/
def ErrorKind.words : ErrorKind → String
  | expectingValue => "Expecting value"
  | expectingKey => "Expecting property name enclosed in double quotes"
  | expectingColon => "Expecting ':' delimiter"
  | expectingComma => "Expecting ',' delimiter"
  | extraData => "Extra data"
  | byteOrderMark => "Unexpected UTF-8 BOM (decode using utf-8-sig)"
  | unterminatedString => "Unterminated string starting at"
  | controlCharacter => "Invalid control character at"
  | badEscape => "Invalid \\escape"
  | badUnicodeEscape => "Invalid \\uXXXX escape"
  | tooManyDigits count => Integer.tooLongMessage count

/-- The message for an error in a text: the reason and the place. -/
def Error.message (text : List Char) (e : Error) : String :=
  match e.kind with
  | .tooManyDigits _ => e.kind.words
  | _ =>
    let before := text.take e.offset
    let line := before.count '\n' + 1
    let column := (before.reverse.takeWhile (· ≠ '\n')).length + 1
    s!"{e.kind.words}: line {line} column {column} (char {e.offset})"

/-- A position in a text: the offset and the characters from there on. -/
structure Cursor where
  /-- Characters passed. -/
  offset : Nat
  /-- Characters to come. -/
  rest : List Char

/-- The blanks of JSON. -/
def isJsonBlank (c : Char) : Bool := c = ' ' || c = '\t' || c = '\n' || c = '\r'

/-- Moves past `n` characters. -/
def Cursor.advance (c : Cursor) (n : Nat) : Cursor := ⟨c.offset + n, c.rest.drop n⟩

/-- Moves past blanks. -/
def Cursor.skipBlanks (c : Cursor) : Cursor :=
  c.advance (c.rest.takeWhile isJsonBlank).length

/-- The value of a hexadecimal digit. -/
def hexValue? (c : Char) : Option Nat :=
  if '0' ≤ c && c ≤ '9' then some (c.toNat - '0'.toNat)
  else if 'a' ≤ c && c ≤ 'f' then some (c.toNat - 'a'.toNat + 10)
  else if 'A' ≤ c && c ≤ 'F' then some (c.toNat - 'A'.toNat + 10)
  else none

/-- The number that four hexadecimal digits at the front write. -/
def hex4? : List Char → Option Nat
  | a :: b :: c :: d :: _ => do
    return (((← hexValue? a) * 16 + (← hexValue? b)) * 16 + (← hexValue? c)) * 16 + (← hexValue? d)
  | _ => none

/-- The character of a simple escape. -/
def simpleEscape? : Char → Option Char
  | '"' => some '"'
  | '\\' => some '\\'
  | '/' => some '/'
  | 'b' => some '\x08'
  | 'f' => some '\x0c'
  | 'n' => some '\n'
  | 'r' => some '\r'
  | 't' => some '\t'
  | _ => none

/-- The second half of a surrogate pair at the front, when more text follows it. -/
def lowSurrogate? : List Char → Option Nat
  | '\\' :: 'u' :: rest =>
    match hex4? rest with
    | some n => if 0xDC00 ≤ n && n ≤ 0xDFFF && 4 < rest.length then some n else none
    | none => none
  | _ => none

/-- The characters of a string after its opening quote, which stood at `opening`. Characters read
so far are in `seen`, the last one first. -/
def stringBody (opening : Nat) : Nat → List Char → Cursor → Except Error (String × Cursor)
  | 0, _, _ => .error ⟨.unterminatedString, opening⟩
  | fuel + 1, seen, cur =>
    match cur.rest with
    | [] => .error ⟨.unterminatedString, opening⟩
    | '"' :: _ => .ok (String.ofList seen.reverse, cur.advance 1)
    | '\\' :: 'u' :: rest =>
      if rest.length ≤ 4 then .error ⟨.badUnicodeEscape, cur.offset + 1⟩
      else match hex4? rest with
        | none => .error ⟨.badUnicodeEscape, cur.offset + 1⟩
        | some n =>
          let after := cur.advance 6
          if 0xD800 ≤ n && n ≤ 0xDBFF then
            match after.rest with
            | '\\' :: 'u' :: more =>
              if 4 < more.length && (hex4? more).isNone then
                .error ⟨.badUnicodeEscape, after.offset + 1⟩
              else match lowSurrogate? after.rest with
                | some m =>
                  let c := Char.ofNat (0x10000 + (n - 0xD800) * 1024 + (m - 0xDC00))
                  stringBody opening fuel (c :: seen) (after.advance 6)
                | none => stringBody opening fuel ('\uFFFD' :: seen) after
            | _ => stringBody opening fuel ('\uFFFD' :: seen) after
          else if 0xDC00 ≤ n && n ≤ 0xDFFF then stringBody opening fuel ('\uFFFD' :: seen) after
          else stringBody opening fuel (Char.ofNat n :: seen) after
    | ['\\'] => .error ⟨.unterminatedString, opening⟩
    | '\\' :: c :: _ =>
      match simpleEscape? c with
      | some e => stringBody opening fuel (e :: seen) (cur.advance 2)
      | none => .error ⟨.badEscape, cur.offset⟩
    | c :: _ =>
      if c.toNat < 0x20 then .error ⟨.controlCharacter, cur.offset⟩
      else stringBody opening fuel (c :: seen) (cur.advance 1)

/-- A string at the cursor, which stands on its opening quote. -/
def string (cur : Cursor) : Except Error (String × Cursor) :=
  stringBody cur.offset (cur.rest.length + 1) [] (cur.advance 1)

/-- The digits at the front. -/
def leadingDigits (cs : List Char) : List Char := cs.takeWhile Text.isAsciiDigit

/-- The whole part of a number: a zero, or digits that do not start with one. -/
def wholePart (cs : List Char) : List Char :=
  match cs with
  | '0' :: _ => ['0']
  | _ => leadingDigits cs

/-- The exponent at the front of a text: its length and value. -/
def exponentPart? : List Char → Option (Nat × Int)
  | e :: rest =>
    if e ≠ 'e' && e ≠ 'E' then none
    else
      let (negative, width, ds) := match rest with
        | '-' :: ds => (true, 2, ds)
        | '+' :: ds => (false, 2, ds)
        | ds => (false, 1, ds)
      let ds := leadingDigits ds
      if ds.isEmpty then none
      else
        let n : Int := Text.digitsValue ds
        some (width + ds.length, if negative then -n else n)
  | [] => none

/-- A number at the cursor. -/
def number (cur : Cursor) : Except Error (Json × Cursor) :=
  let (negative, body) := match cur.rest with
    | '-' :: cs => (true, cs)
    | cs => (false, cs)
  let sign := if negative then 1 else 0
  let whole := wholePart body
  if whole.isEmpty then .error ⟨.expectingValue, cur.offset⟩
  else
    let rest := body.drop whole.length
    let part := match rest with
      | '.' :: ds => leadingDigits ds
      | _ => []
    let partWidth := if part.isEmpty then 0 else part.length + 1
    let exponent := exponentPart? (rest.drop partWidth)
    if part.isEmpty && exponent.isNone then
      if whole.length > Integer.maxDigits then
        .error ⟨.tooManyDigits whole.length, cur.offset⟩
      else
        let n : Int := Text.digitsValue whole
        .ok (.int (if negative then -n else n), cur.advance (sign + whole.length))
    else
      let (width, e) := exponent.getD (0, 0)
      let x := Binary64.ofDecimal negative (Text.digitsValue (whole ++ part)) (e - part.length)
      .ok (.float x, cur.advance (sign + whole.length + partWidth + width))

/-- A name at the cursor that stands for a value. -/
def word? (cur : Cursor) : Option (Json × Cursor) :=
  let word (w : String) (j : Json) : Option (Json × Cursor) :=
    if w.toList.isPrefixOf cur.rest then some (j, cur.advance w.toList.length) else none
  word "null" .null <|> word "true" (.bool true) <|> word "false" (.bool false) <|>
    word "NaN" (.float .nan) <|> word "Infinity" (.float (.infinite false)) <|>
    word "-Infinity" (.float (.infinite true))

mutual

/-- A value at the cursor. The fuel bounds how deep values are nested and how many follow one
another; the length of the text is enough. -/
def value : Nat → Cursor → Except Error (Json × Cursor)
  | 0, cur => .error ⟨.expectingValue, cur.offset⟩
  | fuel + 1, cur =>
    match cur.rest with
    | '"' :: _ => do
      let (s, cur) ← string cur
      return (.str s, cur)
    | '{' :: _ =>
      let cur := (cur.advance 1).skipBlanks
      match cur.rest with
      | '}' :: _ => .ok (.obj [], cur.advance 1)
      | _ => membersFrom fuel [] cur
    | '[' :: _ =>
      let cur := (cur.advance 1).skipBlanks
      match cur.rest with
      | ']' :: _ => .ok (.arr [], cur.advance 1)
      | _ => itemsFrom fuel [] cur
    | _ =>
      match word? cur with
      | some r => .ok r
      | none => number cur

/-- The members of an object up to its closing brace; those read so far are in `seen`. -/
def membersFrom : Nat → List (String × Json) → Cursor → Except Error (Json × Cursor)
  | 0, _, cur => .error ⟨.expectingKey, cur.offset⟩
  | fuel + 1, seen, cur =>
    match cur.rest with
    | '"' :: _ => do
      let (key, cur) ← string cur
      let cur := cur.skipBlanks
      match cur.rest with
      | ':' :: _ => do
        let (v, cur) ← value fuel (cur.advance 1).skipBlanks
        let seen := Keyed.put seen key v
        let cur := cur.skipBlanks
        match cur.rest with
        | '}' :: _ => return (.obj seen, cur.advance 1)
        | ',' :: _ => membersFrom fuel seen (cur.advance 1).skipBlanks
        | _ => .error ⟨.expectingComma, cur.offset⟩
      | _ => .error ⟨.expectingColon, cur.offset⟩
    | _ => .error ⟨.expectingKey, cur.offset⟩

/-- The items of an array up to its closing bracket; those read so far are in `seen`, the last one
first. -/
def itemsFrom : Nat → List Json → Cursor → Except Error (Json × Cursor)
  | 0, _, cur => .error ⟨.expectingValue, cur.offset⟩
  | fuel + 1, seen, cur => do
    let (v, cur) ← value fuel cur
    let cur := cur.skipBlanks
    match cur.rest with
    | ']' :: _ => return (.arr (v :: seen).reverse, cur.advance 1)
    | ',' :: _ => itemsFrom fuel (v :: seen) (cur.advance 1).skipBlanks
    | _ => .error ⟨.expectingComma, cur.offset⟩

end

/-- The value that a list of characters writes. -/
def parseChars (cs : List Char) : Except Error Json :=
  match cs with
  | '\uFEFF' :: _ => .error ⟨.byteOrderMark, 0⟩
  | _ => do
    let (v, cur) ← value (cs.length + 1) (Cursor.mk 0 cs).skipBlanks
    let cur := cur.skipBlanks
    if cur.rest.isEmpty then return v else .error ⟨.extraData, cur.offset⟩

/-- The value that a text writes, or the message why there is none. -/
def parse (s : String) : Except String Json :=
  (parseChars s.toList).mapError (Error.message s.toList)

end SubpathCsi.Json
