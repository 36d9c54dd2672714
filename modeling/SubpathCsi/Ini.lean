import SubpathCsi.Keyed
import SubpathCsi.Text.Blank
import SubpathCsi.Text.LetterCase
import SubpathCsi.Text.Quoted
import SubpathCsi.Text.Split

/-!
# INI files

A file is a sequence of sections, each a list of options. Lines that start with `#` or `;` are
comments. An option line is a name, `=` or `:`, and a value; lines indented deeper than the option
continue its value, and so do empty lines. Names of options are compared in lower case. The section
`DEFAULT` lends its options to every other section.

A value may refer to another option of its section as `%(name)s`; `%%` stands for a percent sign.
`Ini.File.value` looks an option up and puts the values it refers to in place.
-/

namespace SubpathCsi.Ini

/-- Why a file, or a value in it, cannot be read. -/
inductive Error where
  /-- An option comes before the first section. -/
  | missingSectionHeader (line : Nat) (text : String)
  /-- Lines that are neither section, option nor continuation. -/
  | parsing (lines : List (Nat × String))
  /-- An option is given twice in one section. -/
  | duplicateOption (line : Nat) (name option : String)
  /-- A section is opened twice. -/
  | duplicateSection (line : Nat) (name : String)
  /-- A percent sign starts no reference. -/
  | interpolationSyntax (reason : String)
  /-- A value refers to an option that is not there. -/
  | interpolationMissingOption (option name reference raw : String)
  /-- References are nested too deep. -/
  | interpolationDepth (option name raw : String)
  deriving DecidableEq, Repr

/-- The reason in words, for a file at `path`. -/
def Error.message (path : String) : Error → String
  | missingSectionHeader line text =>
    s!"File contains no section headers.\nfile: {quoted path}, line: {line}\n{quoted text}"
  | parsing lines =>
    let rows := lines.map fun (n, text) =>
      let number := toString n
      let number := if number.length < 2 then " " ++ number else number
      s!"\n\t[line {number}]: {quoted text}"
    s!"Source contains parsing errors: {quoted path}" ++ String.join rows
  | duplicateOption line name option =>
    let number := if line < 10 then s!" {line}" else toString line
    s!"While reading from {quoted path} [line {number}]: option {quoted option} in section " ++
      s!"{quoted name} already exists"
  | duplicateSection line name =>
    let number := if line < 10 then s!" {line}" else toString line
    s!"While reading from {quoted path} [line {number}]: section {quoted name} already exists"
  | interpolationSyntax reason => reason
  | interpolationMissingOption option name reference raw =>
    s!"Bad value substitution: option {quoted option} in section {quoted name} contains an " ++
      s!"interpolation key {quoted reference} which is not a valid option name. " ++
      s!"Raw value: {quoted raw}"
  | interpolationDepth option name raw =>
    s!"Recursion limit exceeded in value substitution: option {quoted option} in section " ++
      s!"{quoted name} contains an interpolation key which cannot be substituted in 10 steps. " ++
      s!"Raw value: {quoted raw}"

/-- The name of the section that lends its options to the others. -/
def defaultName : String := "DEFAULT"

/-- The options of one section; a value is the list of its lines. -/
abbrev Options := Keyed (List String)

/-- A file that has been read. -/
structure File where
  /-- The options of the default section. -/
  defaults : Keyed String
  /-- The other sections, in order. -/
  parts : Keyed (Keyed String)
  deriving Repr

/-! ### Reading -/

/-- What is known while lines are read. -/
structure Progress where
  /-- The options of the default section. -/
  defaults : Options := []
  /-- The other sections. -/
  parts : Keyed Options := []
  /-- The section that is open. -/
  current : Option String := none
  /-- The option that continuation lines belong to. -/
  option : Option String := none
  /-- The options that the file has given, by section. -/
  given : List (String × String) := []
  /-- How deep the last header or option line was indented. -/
  indent : Nat := 0
  /-- Lines that could not be read. -/
  bad : List (Nat × String) := []

/-- The options of the section that is open. -/
def Progress.options (p : Progress) : Options :=
  match p.current with
  | none => []
  | some name => if name = defaultName then p.defaults else (Keyed.get? p.parts name).getD []

/-- Replaces the options of the section that is open. -/
def Progress.setOptions (p : Progress) (o : Options) : Progress :=
  match p.current with
  | none => p
  | some name =>
    if name = defaultName then { p with defaults := o }
    else { p with parts := Keyed.put p.parts name o }

/-- Adds a line to the value of the option that is open. -/
def Progress.extend (p : Progress) (option line : String) : Progress :=
  let o := p.options
  p.setOptions (Keyed.put o option ((Keyed.get? o option).getD [] ++ [line]))

/-- The name in a section header: what stands between the opening bracket that starts the line and
the last closing one. -/
def headerName? : List Char → Option String
  | '[' :: rest =>
    match rest.reverse.dropWhile (· ≠ ']') with
    | _ :: c :: more => some (String.ofList (c :: more).reverse)
    | _ => none
  | _ => none

/-- The name and the value of an option line: what stands before and after the first `=` or `:`. -/
def optionLine? (cs : List Char) : Option (String × String) :=
  match cs.span fun c => c ≠ '=' && c ≠ ':' with
  | (_, []) => none
  | (name, _ :: value) =>
    some (String.ofList (Text.trimEnd name), String.ofList (Text.trim value))

/-- Reads a line that holds more than blanks and comments and continues no value. -/
def Progress.header (p : Progress) (number : Nat) (line value : List Char) :
    Except Error Progress :=
  match headerName? value with
  | some name =>
    if name = defaultName then .ok { p with current := some name, option := none }
    else if Keyed.has p.parts name then .error (.duplicateSection number name)
    else .ok { p with parts := Keyed.put p.parts name [], current := some name, option := none }
  | none =>
    match p.current with
    | none => .error (.missingSectionHeader number (String.ofList line))
    | some part =>
      match optionLine? value with
      | none => .ok { p with bad := p.bad ++ [(number, String.ofList line)] }
      | some (name, text) =>
        let p := if name.isEmpty then { p with bad := p.bad ++ [(number, String.ofList line)] } else p
        let name := Text.lower name
        if p.given.contains (part, name) then .error (.duplicateOption number part name)
        else
          let p := { p with given := (part, name) :: p.given, option := some name }
          .ok (p.setOptions (Keyed.put p.options name [text]))

/-- Reads one line. -/
def Progress.line (p : Progress) (number : Nat) (line : List Char) : Except Error Progress :=
  let value := Text.trim line
  let openOption? := if p.current.isSome then p.option.filter (!·.isEmpty) else none
  match value with
  | [] =>
    match openOption? with
    | some o => .ok (p.extend o "")
    | none => .ok p
  | '#' :: _ => .ok p
  | ';' :: _ => .ok p
  | _ =>
    let depth := (line.takeWhile Text.isBlank).length
    match openOption? with
    | some o =>
      if depth > p.indent then .ok (p.extend o (String.ofList value))
      else { p with indent := depth }.header number line value
    | none => { p with indent := depth }.header number line value

/-- The lines of a text, each with its line end as `\n`; a carriage return, alone or before a line
feed, ends a line too. -/
def linesOf : List Char → List Char → List (List Char)
  | [], seen => if seen.isEmpty then [] else [seen.reverse]
  | '\r' :: '\n' :: rest, seen => ('\n' :: seen).reverse :: linesOf rest []
  | '\r' :: rest, seen => ('\n' :: seen).reverse :: linesOf rest []
  | '\n' :: rest, seen => ('\n' :: seen).reverse :: linesOf rest []
  | c :: rest, seen => linesOf rest (c :: seen)

/-- Reads lines, the first of which has the given number. -/
def Progress.readLines (p : Progress) : Nat → List (List Char) → Except Error Progress
  | _, [] => .ok p
  | number, l :: ls => do (← p.line number l).readLines (number + 1) ls

/-- The value of an option: its lines, without blanks at the end. -/
def joinLines (lines : List String) : String :=
  String.ofList (Text.trimEnd (joined "\n" lines).toList)

/-- The file that a text writes. -/
def parse (s : String) : Except Error File := do
  let p ← Progress.readLines {} 1 (linesOf s.toList [])
  if p.bad.isEmpty then
    let close (o : Options) : Keyed String := o.map fun (k, v) => (k, joinLines v)
    return ⟨close p.defaults, p.parts.map fun (k, o) => (k, close o)⟩
  else .error (.parsing p.bad)

/-! ### Values -/

/-- The options that a section sees: its own and the default ones. -/
def File.visible (f : File) (name : String) : Keyed String :=
  Keyed.merge f.defaults ((Keyed.get? f.parts name).getD [])

/-- The reference at the front of a text, which starts with `%(`: the name up to the closing
parenthesis, which an `s` follows, and the rest. -/
def reference? : List Char → Option (String × List Char)
  | '%' :: '(' :: rest =>
    match rest.span (· ≠ ')') with
    | ([], _) => none
    | (name, ')' :: 's' :: more) => some (String.ofList name, more)
    | _ => none
  | _ => none

/-- A text with its references replaced. `depth` counts how many references may still be nested,
`fuel` bounds the characters to read. -/
def expand (visible : Keyed String) (option name raw : String) :
    Nat → Nat → List Char → Except Error (List Char)
  | _, _, [] => .ok []
  | 0, _, _ => .ok []
  | fuel + 1, depth, '%' :: rest =>
    match rest with
    | '%' :: more => do return '%' :: (← expand visible option name raw fuel depth more)
    | '(' :: _ =>
      match reference? ('%' :: rest) with
      | none =>
        .error (.interpolationSyntax
          ("bad interpolation variable reference " ++ quoted (String.ofList ('%' :: rest))))
      | some (reference, more) =>
        let reference := Text.lower reference
        match Keyed.get? visible reference with
        | none => .error (.interpolationMissingOption option name reference raw)
        | some v => do
          let here ←
            if v.toList.contains '%' then
              match depth with
              | 0 => .error (.interpolationDepth option name raw)
              | depth + 1 => expand visible option name raw fuel depth v.toList
            else .ok v.toList
          return here ++ (← expand visible option name raw fuel depth more)
    | _ =>
      .error (.interpolationSyntax
        ("'%' must be followed by '%' or '(', found: " ++ quoted (String.ofList ('%' :: rest))))
  | fuel + 1, depth, c :: rest => do return c :: (← expand visible option name raw fuel depth rest)

/-- Characters to read when references are nested at most ten deep. -/
def expansionFuel (visible : Keyed String) (raw : String) : Nat :=
  raw.length + 10 * (visible.map fun p => p.2.length + 1).foldr (· + ·) 0 + 1

/-- The value of an option of a section, its references replaced; none if there is no such section
or option. -/
def File.value (f : File) (name option : String) : Except Error (Option String) :=
  let visible := if Keyed.has f.parts name then f.visible name else []
  match Keyed.get? visible option with
  | none => .ok none
  | some raw => do
    let cs ← expand visible option name raw (expansionFuel visible raw) 9 raw.toList
    return some (String.ofList cs)

end SubpathCsi.Ini
