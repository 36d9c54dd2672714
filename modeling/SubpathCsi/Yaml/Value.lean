import SubpathCsi.Number.Numeral
import SubpathCsi.Number.Shortest
import SubpathCsi.Text.Base64
import SubpathCsi.Text.LetterCase
import SubpathCsi.Yaml.Node
import SubpathCsi.Yaml.Token.Lexer

/-!
# Values of YAML

What the tags of nodes make of them: numbers, texts, octets, days, points of time, lists and
mappings. `Value.ofNode` forms the value of a tree.

* Two keys of a mapping are one key if they are equal as numbers, whatever their kinds; the first
  spelling and the last value stay.
* The members of the mappings under a merge key come before the own members of a mapping and give
  way to them.
* A problem in one of several nodes is found level by level from the root.
-/

namespace SubpathCsi.Yaml

/-- A value. -/
inductive Value where
  /-- Nothing. -/
  | null
  /-- A truth value. -/
  | bool (b : Bool)
  /-- An integer. -/
  | int (n : Int)
  /-- A floating-point number. -/
  | float (x : Binary64)
  /-- A text. -/
  | text (s : String)
  /-- Octets. -/
  | octets (bytes : List UInt8)
  /-- A day or a point of time. -/
  | moment (m : Timestamp.Moment)
  /-- A list. -/
  | list (items : List Value)
  /-- A list of pairs. -/
  | pairs (items : List (Value × Value))
  /-- A mapping. -/
  | dict (members : List (Value × Value))
  /-- A set. -/
  | set (items : List Value)
  /-- A collection that is around this place. -/
  | loop (isMapping : Bool)
  deriving Repr, Inhabited

/-! ### Scalars -/

/-- Fails because a value is out of range. -/
def badValue {α : Type} (text : String) : Except Problem α := .error (.defect (.badValue text))

/-- What is said of a text that is no integer in a base. -/
def badInteger {α : Type} (base : Nat) (cs : List Char) : Except Problem α :=
  badValue (s!"invalid literal for int() with base {base}: " ++
    String.ofList ((Text.quotedText cs).take 200))

/-- The integer of decimal digits. -/
def decimalInteger (cs : List Char) : Except Problem Int :=
  match Integer.ofTrimmed? (Text.trim cs) with
  | some n => .ok n
  | none =>
    let (_, digits) := Text.takeSign (Text.trim cs)
    if digits.all Text.isDigit && digits.length > Integer.maxDigits then
      badValue (Integer.tooLongMessage digits.length)
    else badInteger 10 cs

/-- The integer of digits in a base. -/
def baseInteger (base : Nat) (cs : List Char) : Except Problem Int :=
  match Integer.ofBase? base cs with
  | some n => .ok n
  | none => badInteger base cs

/-- The floating-point number of a numeral. -/
def floatNumber (cs : List Char) : Except Problem Binary64 :=
  match Binary64.ofText? cs with
  | some x => .ok x
  | none => badValue s!"could not convert string to float: {String.ofList (Text.quotedText cs)}"

/-- The value of an integer scalar: binary after `0b`, hexadecimal after `0x`, octal after `0`,
with parts in base sixty between colons, or decimal. -/
def integerScalar (text : String) : Except Problem Int := do
  let cs := text.toList.filter (· ≠ '_')
  if cs.isEmpty then .error (.defect (.beyondEnd "string index out of range"))
  else
    let (negative, body) := Text.takeSign cs
    let n : Int ← match body with
      | [] => .error (.defect (.beyondEnd "string index out of range"))
      | ['0'] => pure 0
      | '0' :: 'b' :: ds => baseInteger 2 ds
      | '0' :: 'x' :: ds => baseInteger 16 ds
      | '0' :: _ => baseInteger 8 body
      | _ => do
        let parts ← (Text.splitAt ':' body).mapM decimalInteger
        pure (parts.foldl (fun n d => 60 * n + d) 0)
    return if negative then -n else n

/-- The value of digits in base sixty, the last one first: each is scaled by the next power. -/
def sumSixties : List Binary64 → Nat → Binary64 → Except Problem Binary64
  | [], _, total => .ok total
  | d :: ds, power, total =>
    match Binary64.ofNat power with
    | .infinite _ => .error (.defect (.outOfRange "int too large to convert to float"))
    | scale => sumSixties ds (60 * power) (total.add (d.mul scale))

/-- The value of a floating-point scalar. -/
def floatScalar (text : String) : Except Problem Binary64 := do
  let cs := (Text.lower (String.ofList (text.toList.filter (· ≠ '_')))).toList
  if cs.isEmpty then .error (.defect (.beyondEnd "string index out of range"))
  else
    let (negative, body) := Text.takeSign cs
    let sign (x : Binary64) : Binary64 := if negative then x.neg else x
    if body = ".inf".toList then return .infinite negative
    else if body = ".nan".toList then return .nan
    else if body.contains ':' then do
      let parts ← (Text.splitAt ':' body).mapM floatNumber
      return sign (← sumSixties parts.reverse 1 (.zero false))
    else return sign (← floatNumber body)

/-- The truth value of a scalar. -/
def boolScalar (text : String) : Except Problem Bool :=
  let word := Text.lower text
  if word = "yes" || word = "true" || word = "on" then .ok true
  else if word = "no" || word = "false" || word = "off" then .ok false
  else .error (.defect (.missingKey word))

/-- Octets from letters of base 64, other characters being skipped: the letters kept so far of a
group of four, and the padding signs since. Reading ends at a complete padding. -/
def lenientOctets : List Nat → Nat → List Char → Option (List UInt8)
  | group, _, [] => if group.isEmpty then some [] else none
  | group, pads, c :: cs =>
    if c = '=' then
      if group.length ≥ 2 && group.length + pads + 1 ≥ 4 then some (partialGroup group)
      else lenientOctets group (if group.length ≥ 2 then pads + 1 else pads) cs
    else match Base64.value? c with
      | none => lenientOctets group pads cs
      | some v =>
        match group with
        | [x, y, z] => do
          let n := ((x * 64 + y) * 64 + z) * 64 + v
          let rest ← lenientOctets [] 0 cs
          return UInt8.ofNat (n / 65536) :: UInt8.ofNat (n / 256) :: UInt8.ofNat n :: rest
        | _ => lenientOctets (group ++ [v]) 0 cs
where
  /-- The octets of a group that is not complete. -/
  partialGroup : List Nat → List UInt8
    | [x, y] => [UInt8.ofNat ((x * 64 + y) / 16)]
    | [x, y, z] =>
      let n := (x * 64 + y) * 64 + z
      [UInt8.ofNat (n / 1024), UInt8.ofNat (n / 4)]
    | _ => []

/-- The octets of a binary scalar. -/
def binaryScalar (text : String) : Except Problem (List UInt8) :=
  let cs := text.toList
  if cs.all (·.toNat < 0x80) then
    match lenientOctets [] 0 cs with
    | some bytes => .ok bytes
    | none => .error .malformed
  else .error .malformed

/-- The value of a scalar with a tag; none if the tag is one of collections. -/
def scalarValue? (tag : Tag) (text : String) : Option (Except Problem Value) :=
  match tag with
  | .null => some (.ok .null)
  | .bool => some ((boolScalar text).map .bool)
  | .int => some ((integerScalar text).map .int)
  | .float => some ((floatScalar text).map .float)
  | .binary => some ((binaryScalar text).map .octets)
  | .str => some (.ok (.text text))
  | .timestamp => some <|
    match Timestamp.ofText? text.toList with
    | some t => t.moment.map .moment
    | none => .error (.defect (.missingMember "'NoneType' object has no attribute 'groupdict'"))
  | _ => none

/-! ### Collections -/

/-- A collection tag: its nodes have values of their own. -/
def Tag.isCollection : Tag → Bool
  | .seq | .map | .omap | .pairs | .set => true
  | _ => false

/-- No value can be formed for the tag. -/
def Tag.isUndefined : Tag → Bool
  | .unknown | .merge | .value | .indicator => true
  | _ => false

mutual

/-- The text of a node: its own, or that of the member under the key `=`. -/
def Node.text? : Node → Option String
  | .scalar _ text => some text
  | .mapping _ members => memberText? members
  | _ => none

/-- The text of the member under the key `=`. -/
def memberText? : List (Node × Node) → Option String
  | [] => none
  | (.scalar .value _, v) :: _ => v.text?
  | _ :: ms => memberText? ms

end

/-- The value of a node with a tag of scalars. -/
def Node.scalarValue (n : Node) (tag : Tag) : Except Problem Value :=
  match n.text? with
  | none => .error .malformed
  | some text =>
    match scalarValue? tag text, n, tag with
    | some r, .scalar .., _ => r
    | some _, _, .timestamp =>
      .error (.defect (.wrongType "expected string or bytes-like object, got 'list'"))
    | some r, _, _ => r
    | none, _, _ => .error .malformed

/-- The tag of a node. -/
def Node.tag : Node → Tag
  | .scalar t _ => t
  | .sequence t _ => t
  | .mapping t _ => t
  | .loop isMapping => if isMapping then .map else .seq

/-- A key of a mapping, where `=` is a text. -/
def plainKey : Node → Node
  | .scalar .value text => .scalar .str text
  | n => n

mutual

/-- The members of a mapping: those under merge keys, and its own. -/
def splitMembers :
    List (Node × Node) → Except Problem (List (Node × Node) × List (Node × Node))
  | [] => .ok ([], [])
  | (k, v) :: ms => do
    if k.tag = .merge then
      let here ← mergedMembers v
      let (merged, own) ← splitMembers ms
      return (here ++ merged, own)
    else
      let (merged, own) ← splitMembers ms
      return (merged, (plainKey k, v) :: own)

/-- The members that the value of a merge key gives: a mapping's, or those of several mappings, the
last ones first. -/
def mergedMembers : Node → Except Problem (List (Node × Node))
  | .mapping _ ms => do
    let (merged, own) ← splitMembers ms
    return merged ++ own
  | .sequence _ items => itemMembers items
  | .loop _ => .ok []
  | .scalar .. => .error .malformed

/-- The members of several mappings, the last mapping first. -/
def itemMembers : List Node → Except Problem (List (Node × Node))
  | [] => .ok []
  | .mapping _ ms :: items => do
    let (merged, own) ← splitMembers ms
    let later ← itemMembers items
    return later ++ (merged ++ own)
  | .loop true :: items => itemMembers items
  | _ :: _ => .error .malformed

end

/-- All members of a mapping, those under merge keys first. -/
def Node.members (n : Node) : Except Problem (List (Node × Node)) :=
  match n with
  | .mapping _ ms => do
    let (merged, own) ← splitMembers ms
    return merged ++ own
  | _ => .error .malformed

/-- The pair that an item of an ordered mapping holds. -/
def Node.pair : Node → Except Problem (Node × Node)
  | .mapping _ [p] => .ok p
  | _ => .error .malformed

/-- Checks a node whose collection is met: a scalar has to have a value at once; a collection is
looked at later. -/
def Node.meet (n : Node) : Except Problem (List Node) :=
  match n with
  | .loop _ => .ok []
  | _ =>
    if n.tag.isUndefined then .error .malformed
    else if n.tag.isCollection then .ok [n]
    else do
      let _ ← n.scalarValue n.tag
      return []

/-- Checks a key and its value. -/
def meetMember (p : Node × Node) : Except Problem (List Node) := do
  let later ← p.1.meet
  match p.1, later with
  | .loop _, _ => .error .malformed
  | _, _ :: _ => .error .malformed
  | _, [] => p.2.meet

/-- Checks the parts of a collection; the collections among them come later. -/
def Node.meetParts (n : Node) : Except Problem (List Node) :=
  match n.tag with
  | .seq =>
    match n with
    | .sequence _ items => do return (← items.mapM Node.meet).flatten
    | _ => .error .malformed
  | .omap | .pairs =>
    match n with
    | .sequence _ items => do
      let later ← items.mapM fun item => do
        let (k, v) ← item.pair
        return (← k.meet) ++ (← v.meet)
      return later.flatten
    | _ => .error .malformed
  | .map | .set => do return (← (← n.members).mapM meetMember).flatten
  | _ => .ok []

/-- Checks nodes level by level. Nodes of the next level are less deep, so `fuel` above the depth
is enough. -/
def checkLevels : Nat → List Node → Except Problem Unit
  | 0, _ => .ok ()
  | fuel + 1, nodes =>
    if nodes.isEmpty then .ok ()
    else do
      let later ← nodes.mapM Node.meetParts
      checkLevels fuel later.flatten

/-- The exact ratio of a number that is finite. -/
def Value.ratio? : Value → Option (Int × Nat)
  | .bool b => some (if b then 1 else 0, 1)
  | .int n => some (n, 1)
  | .float (.finite s m e) =>
    let (num, den) := Binary64.scale m 1 e
    some (Binary64.signed s num, den)
  | _ => none

/-- Two values are one key. -/
def Value.isSameKey (a b : Value) : Bool :=
  match a.ratio?, b.ratio? with
  | some (p, q), some (r, s) => p * s = r * q
  | none, none =>
    match a, b with
    | .null, .null => true
    | .float x, .float y => x = y
    | .text s, .text t => s = t
    | .octets s, .octets t => s = t
    | .moment (.date d), .moment (.date e) => d = e
    | .moment (.time s), .moment (.time t) =>
      match s.instant?, t.instant? with
      | some x, some y => x = y
      | none, none => s.localMicros = t.localMicros
      | _, _ => false
    | _, _ => false
  | _, _ => false

/-- Writes a value under a key. -/
def putMember : List (Value × Value) → Value → Value → List (Value × Value)
  | [], k, v => [(k, v)]
  | p :: ms, k, v => if p.1.isSameKey k then (p.1, v) :: ms else p :: putMember ms k v

/-- The mapping of pairs in order. -/
def ofMembers (ps : List (Value × Value)) : List (Value × Value) :=
  ps.foldl (fun ms p => putMember ms p.1 p.2) []

/-- The value of a node. A collection inside another one has a smaller depth, so `fuel` above the
depth is enough. -/
def Node.value : Nat → Node → Except Problem Value
  | 0, _ => .error .malformed
  | _ + 1, .loop isMapping => .ok (.loop isMapping)
  | fuel + 1, n => do
    let pair (p : Node × Node) : Except Problem (Value × Value) := do
      return (← value fuel p.1, ← value fuel p.2)
    match n.tag, n with
    | .seq, .sequence _ items => return .list (← items.mapM (value fuel))
    | .omap, .sequence _ items | .pairs, .sequence _ items =>
      return .pairs (← items.mapM fun item => do pair (← item.pair))
    | .map, _ => return .dict (ofMembers (← (← n.members).mapM pair))
    | .set, _ => return .set ((ofMembers (← (← n.members).mapM pair)).map (·.1))
    | tag, _ => n.scalarValue tag

/-- The value of the tree with a root; `fuel` bounds its depth. -/
def Value.ofNode (fuel : Nat) (root : Node) : Except Problem Value := do
  checkLevels fuel (← root.meet)
  root.value fuel

/-- The value that a text holds; null if it holds none. -/
def Value.ofText (text : List Char) : Except Problem Value := do
  let tokens := Token.ofText text
  match ← Node.ofTokens tokens with
  | none => return .null
  | some root => Value.ofNode (2 * tokens.length + 2) root

end SubpathCsi.Yaml
