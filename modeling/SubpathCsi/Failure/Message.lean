import SubpathCsi.Failure.Kind
import SubpathCsi.Failure.Placeholder

/-!
# Message templates

A template holds placeholders `%(name)s` for the arguments of an error; `%%` stands for a percent
sign. A placeholder without a name shows all arguments, once. `MessageTemplate.fill` puts the
arguments in place. Without any arguments a template is its own message.
-/

namespace SubpathCsi.MessageTemplate

/-- The name before a closing parenthesis, and what follows it. Parentheses inside a name are
balanced; `depth` of them are open. -/
def takeName? (depth : Nat) : List Char → Option (List Char × List Char)
  | [] => none
  | ')' :: rest =>
    match depth with
    | 0 => some ([], rest)
    | d + 1 => (takeName? d rest).map fun (name, more) => (')' :: name, more)
  | '(' :: rest => (takeName? (depth + 1) rest).map fun (name, more) => ('(' :: name, more)
  | c :: rest => (takeName? depth rest).map fun (name, more) => (c :: name, more)

/-- What remains of a template behind a percent sign, once its argument is chosen. -/
def choose (args : Keyed Json) (value : Option Json) : List Char →
    Except TemplateError Placeholder.Rest
  | '(' :: text =>
    match takeName? 0 text with
    | none => .error .malformed
    | some (name, more) =>
      match Keyed.get? args (String.ofList name) with
      | none => .error (.missing (String.ofList name))
      | some v => .ok ⟨some v, more⟩
  | text => .ok ⟨value, text⟩

/-- A template with its placeholders replaced; `fuel` bounds its length. -/
def fillChars (args : Keyed Json) : Nat → Placeholder.Rest → Except TemplateError (List Char)
  | _, ⟨_, []⟩ => .ok []
  | 0, _ => .ok []
  | fuel + 1, ⟨value, '%' :: '%' :: text⟩ => do
    return '%' :: (← fillChars args fuel ⟨value, text⟩)
  | fuel + 1, ⟨value, '%' :: text⟩ => do
    let (shown, rest) ← Placeholder.fillNext (← choose args value text)
    return shown ++ (← fillChars args fuel rest)
  | fuel + 1, ⟨value, c :: text⟩ => do return c :: (← fillChars args fuel ⟨value, text⟩)

/-- A template with its placeholders replaced. -/
def fill (template : String) (args : Keyed Json) : Except TemplateError String :=
  if args.isEmpty then .ok template
  else (fillChars args template.length ⟨some (.obj args), template.toList⟩).map String.ofList

/-- The message of an error of a kind: an own message if one is given, else the kind's template,
with the arguments in place. -/
def message (kind : ErrorKind) (own : Option String) (args : Keyed Json) :
    Except TemplateError String :=
  let template := match own with
    | some m => if m.isEmpty then kind.template else m
    | none => kind.template
  fill template args

end SubpathCsi.MessageTemplate
