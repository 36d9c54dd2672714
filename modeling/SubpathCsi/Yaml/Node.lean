import SubpathCsi.Keyed
import SubpathCsi.Yaml.Tag
import SubpathCsi.Yaml.Token

/-!
# Nodes of YAML

A document is a tree of scalars, sequences and mappings, each with a tag. `Node.ofTokens` reads
the tree of the only document of a text. An alias stands for a copy of the node with its anchor;
inside that node it is a `loop`. Collections may be nested to any depth: there is no limit, and no
stack to run out of.
-/

namespace SubpathCsi.Yaml

/-- A node. -/
inductive Node where
  /-- A text. -/
  | scalar (tag : Tag) (text : String)
  /-- A list of nodes. -/
  | sequence (tag : Tag) (items : List Node)
  /-- Pairs of nodes. -/
  | mapping (tag : Tag) (members : List (Node × Node))
  /-- A collection that is around this place. -/
  | loop (isMapping : Bool)
  deriving Repr, Inhabited

/-- What an anchor is known to stand for. -/
inductive Anchored where
  /-- A node that has been read. -/
  | known (node : Node)
  /-- A collection that is being read. -/
  | enclosing (isMapping : Bool)
  deriving Repr

/-- The state of reading nodes: the tokens to come, what the anchors stand for, and what the tag
handles stand for. -/
structure NodeReader where
  /-- The tokens to come. -/
  tokens : List Token
  /-- The anchors so far. -/
  anchors : Keyed Anchored := []
  /-- The tag handles of the document. -/
  handles : Keyed String := []

/-- The properties before a node: anchor and tag. -/
structure Properties where
  /-- The anchor. -/
  anchor : Option String := none
  /-- The full tag. -/
  tag : Option String := none

namespace NodeReader

/-- The next token. -/
def peek (r : NodeReader) : Token := r.tokens.headD .streamEnd

/-- Moves past a token. -/
def next (r : NodeReader) : NodeReader := { r with tokens := r.tokens.tail }

/-- The next token is one of these. -/
def isAt (r : NodeReader) (ts : List Token) : Bool := ts.contains r.peek

/-- The problem when none of the expected tokens comes. -/
def problem (r : NodeReader) : Problem :=
  match r.peek with
  | .failure p => p
  | _ => .malformed

/-- The tag in full. -/
def fullTag (r : NodeReader) (handle : Option String) (suffix : String) :
    Except Problem String :=
  match handle with
  | none => .ok suffix
  | some h =>
    match Keyed.get? r.handles h with
    | some start => .ok (start ++ suffix)
    | none => .error .malformed

/-- The anchor and the tag before a node, in either order. -/
def properties (r : NodeReader) : Except Problem (Properties × NodeReader) :=
  match r.tokens with
  | .anchor a :: .tag h s :: rest => do
    return (⟨some a, some (← r.fullTag h s)⟩, { r with tokens := rest })
  | .tag h s :: .anchor a :: rest => do
    return (⟨some a, some (← r.fullTag h s)⟩, { r with tokens := rest })
  | .anchor a :: rest => .ok (⟨some a, none⟩, { r with tokens := rest })
  | .tag h s :: rest => do return (⟨none, some (← r.fullTag h s)⟩, { r with tokens := rest })
  | _ => .ok ({}, r)

/-- Notes what an anchor stands for. -/
def note (r : NodeReader) (p : Properties) (a : Anchored) : NodeReader :=
  match p.anchor with
  | some name => { r with anchors := Keyed.put r.anchors name a }
  | none => r

end NodeReader

namespace Properties

/-- The tag of a collection; `!` stands for the usual one. -/
def collectionTag (p : Properties) (usual : Tag) : Tag :=
  match p.tag with
  | none => usual
  | some t => if t = "!" then usual else .ofName t

/-- The scalar with a text. One that is plain and has no tag, or has the tag `!`, gets its tag from
the text. -/
def scalar (p : Properties) (text : String) (plain : Bool) : Node :=
  match p.tag with
  | none => .scalar (if plain then .ofPlain text else .str) text
  | some t => .scalar (if t = "!" then .ofPlain text else .ofName t) text

/-- The sequence of items. -/
def sequence (p : Properties) (items : List Node) : Node :=
  .sequence (p.collectionTag .seq) items

/-- The mapping of members. -/
def mapping (p : Properties) (members : List (Node × Node)) : Node :=
  .mapping (p.collectionTag .map) members

/-- Some property is given. -/
def areGiven (p : Properties) : Bool := p.anchor.isSome || p.tag.isSome

end Properties

/-- Reads the inside of a collection. The anchor stands for a collection around until all of it is
read. -/
def NodeReader.collect {α : Type} (r : NodeReader) (p : Properties) (isMapping : Bool)
    (build : α → Node) (read : NodeReader → Except Problem (α × NodeReader)) :
    Except Problem (Node × NodeReader) := do
  let (inside, r) ← read (r.note p (.enclosing isMapping))
  let node := build inside
  return (node, r.note p (.known node))

/-- The node where no content follows: properties alone make an empty scalar. -/
def NodeReader.leave (r : NodeReader) (p : Properties) : Except Problem (Node × NodeReader) :=
  if p.areGiven then
    let node := p.scalar "" true
    .ok (node, r.note p (.known node))
  else .error r.problem

/-- The node where nothing is written. -/
def Node.empty : Node := .scalar .null ""

mutual

/-- Reads a node. In a `block`, block collections may come, and if `indentless` also a sequence that
is not indented. -/
def readNode (block indentless : Bool) : Nat → NodeReader → Except Problem (Node × NodeReader)
  | 0, _ => .error .malformed
  | fuel + 1, r =>
    match r.peek with
    | .alias name =>
      match Keyed.get? r.anchors name with
      | some (.known node) => .ok (node, r.next)
      | some (.enclosing isMapping) => .ok (.loop isMapping, r.next)
      | none => .error .malformed
    | _ => do
      let (p, r) ← r.properties
      if p.anchor.any (Keyed.has r.anchors) then .error .malformed
      else
        match r.peek with
        | .blockEntry =>
          if indentless then r.collect p false (p.sequence ·) fun r => readEntries false fuel r
          else r.leave p
        | .scalar text plain =>
          let node := p.scalar text plain
          .ok (node, r.next.note p (.known node))
        | .flowSequenceStart =>
          r.collect p false (p.sequence ·) fun r => readFlowItems true fuel r.next
        | .flowMappingStart =>
          r.collect p true (p.mapping ·) fun r => readFlowMembers true fuel r.next
        | .blockSequenceStart =>
          if block then r.collect p false (p.sequence ·) fun r => readEntries true fuel r.next
          else r.leave p
        | .blockMappingStart =>
          if block then r.collect p true (p.mapping ·) fun r => readMembers fuel r.next
          else r.leave p
        | _ => r.leave p
termination_by fuel => (fuel, 0)

/-- Reads a node, unless one of the tokens `ends` comes; then there is an empty one. -/
def readOptional (block indentless : Bool) (ends : List Token) :
    Nat → NodeReader → Except Problem (Node × NodeReader)
  | fuel, r => if r.isAt ends then .ok (.empty, r) else readNode block indentless fuel r
termination_by fuel => (fuel, 1)

/-- Reads the entries of a block sequence, with its end if it is indented. -/
def readEntries (indented : Bool) : Nat → NodeReader → Except Problem (List Node × NodeReader)
  | 0, _ => .error .malformed
  | fuel + 1, r =>
    if r.peek = .blockEntry then do
      let ends :=
        if indented then [.blockEntry, .blockEnd] else [.blockEntry, .key, .value, .blockEnd]
      let (item, r) ← readOptional true false ends fuel r.next
      let (items, r) ← readEntries indented fuel r
      return (item :: items, r)
    else if !indented then .ok ([], r)
    else if r.peek = .blockEnd then .ok ([], r.next)
    else .error r.problem
termination_by fuel => (fuel, 2)

/-- Reads the members of a block mapping and its end. -/
def readMembers : Nat → NodeReader → Except Problem (List (Node × Node) × NodeReader)
  | 0, _ => .error .malformed
  | fuel + 1, r =>
    if r.peek = .key then do
      let ends := [.key, .value, .blockEnd]
      let (key, r) ← readOptional true true ends fuel r.next
      let (value, r) ←
        if r.peek = .value then readOptional true true ends fuel r.next else .ok (.empty, r)
      let (members, r) ← readMembers fuel r
      return ((key, value) :: members, r)
    else if r.peek = .blockEnd then .ok ([], r.next)
    else .error r.problem
termination_by fuel => (fuel, 2)

/-- Reads a key after its mark and a value after its mark, if they are there. -/
def readFlowPair (close : Token) :
    Nat → NodeReader → Except Problem ((Node × Node) × NodeReader)
  | fuel, r => do
    let (key, r) ← readOptional false false [.value, .flowEntry, close] fuel r.next
    let (value, r) ←
      if r.peek = .value then readOptional false false [.flowEntry, close] fuel r.next
      else .ok (.empty, r)
    return ((key, value), r)
termination_by fuel => (fuel, 2)

/-- Reads the items of a flow sequence and its end. A pair with a colon is a mapping of its own. -/
def readFlowItems (first : Bool) : Nat → NodeReader → Except Problem (List Node × NodeReader)
  | 0, _ => .error .malformed
  | fuel + 1, r =>
    if r.peek = .flowSequenceEnd then .ok ([], r.next)
    else if !first && r.peek ≠ .flowEntry then .error r.problem
    else do
      let r := if first then r else r.next
      if r.peek = .flowSequenceEnd then return ([], r.next)
      else
        let (item, r) ←
          if r.peek = .key then do
            let (pair, r) ← readFlowPair .flowSequenceEnd fuel r
            pure (Node.mapping .map [pair], r)
          else readNode false false fuel r
        let (items, r) ← readFlowItems false fuel r
        return (item :: items, r)
termination_by fuel => (fuel, 3)

/-- Reads the members of a flow mapping and its end. A lone node is a key with an empty value. -/
def readFlowMembers (first : Bool) :
    Nat → NodeReader → Except Problem (List (Node × Node) × NodeReader)
  | 0, _ => .error .malformed
  | fuel + 1, r =>
    if r.peek = .flowMappingEnd then .ok ([], r.next)
    else if !first && r.peek ≠ .flowEntry then .error r.problem
    else do
      let r := if first then r else r.next
      if r.peek = .flowMappingEnd then return ([], r.next)
      else
        let (member, r) ←
          if r.peek = .key then readFlowPair .flowMappingEnd fuel r
          else do
            let (key, r) ← readNode false false fuel r
            pure ((key, Node.empty), r)
        let (members, r) ← readFlowMembers false fuel r
        return (member :: members, r)
termination_by fuel => (fuel, 3)

end

/-- The handles that every document has. -/
def usualHandles : Keyed String := [("!", "!"), ("!!", Tag.standard)]

/-- The directives before a document: the handles that they define, and the tokens to come. -/
def readDirectives : Bool → Keyed String → List Token → Except Problem (Keyed String × List Token)
  | versioned, handles, .version major :: ts =>
    if versioned || major ≠ 1 then .error .malformed else readDirectives true handles ts
  | versioned, handles, .tagHandle handle start :: ts =>
    if Keyed.has handles handle then .error .malformed
    else readDirectives versioned (Keyed.put handles handle start) ts
  | versioned, handles, .directive :: ts => readDirectives versioned handles ts
  | _, handles, ts => .ok (handles, ts)

/-- The only document of a text; none if the text is empty. -/
def Node.ofTokens (tokens : List Token) : Except Problem (Option Node) := do
  let fuel := 2 * tokens.length + 2
  let read (r : NodeReader) : Except Problem (Option Node) := do
    let (node, r) ← readNode true false fuel r
    finish node r
  match tokens.headD .streamEnd with
  | .streamEnd => return none
  | .version _ | .tagHandle .. | .directive | .documentStart =>
    let (own, tokens) ← readDirectives false [] tokens
    let handles := Keyed.merge usualHandles own
    match tokens with
    | .documentStart :: tokens =>
      let r : NodeReader := { tokens, handles }
      match r.peek with
      | .version _ | .tagHandle .. | .directive | .documentStart | .documentEnd | .streamEnd =>
        finish .empty r
      | _ => read r
    | _ => .error (NodeReader.problem { tokens })
  | _ => read { tokens, handles := usualHandles }
where
  /-- No other document may follow. -/
  finish (node : Node) (r : NodeReader) : Except Problem (Option Node) :=
    let r := { r with tokens := r.tokens.dropWhile (· = Token.documentEnd) }
    if r.peek = .streamEnd then .ok (some node) else .error r.problem

end SubpathCsi.Yaml
