import SubpathCsi.Keyed
import SubpathCsi.Text.LetterCase

/-!
# Templates in parameters

Parameters of a storage class and mount options may refer to the claim, the volume and the node.
Two dialects do so:

* **parameters**: `${.pvc.name}`, `${.pvc.namespace}`, `${.pvc.labels.key}`,
  `${.pvc.annotations.key}`, `${.pv.name}`, `${.node.name}`, `${.node.labels.key}`, where letter
  case matters in the key alone;
* **secret references**: `${pv.name}`, `${pvc.name}`, `${pvc.namespace}`,
  `${pvc.annotations['key']}`.

A text is read once from left to right: what a reference stands for is not read again, and a
reference that is not known stays as it is.
-/

namespace SubpathCsi.Template

/-- What references are resolved against. -/
structure Names where
  /-- The name of the claim. -/
  claim : String
  /-- The namespace of the claim. -/
  space : String
  /-- The labels of the claim. -/
  labels : Keyed String := []
  /-- The annotations of the claim. -/
  annotations : Keyed String := []
  /-- The name of the node. -/
  node : String := ""
  /-- The labels of the node. -/
  nodeLabels : Keyed String := []
  /-- The name of the volume; empty if it is not known. -/
  volume : String := ""
  deriving Repr

/-! ### Substitution -/

/-- The text with its references replaced. A reference stands between `$` with an opening brace and
the next closing brace; `meaning` gives what stands for the text between them, if it is a reference
that is known. -/
def substitute (meaning : List Char → Option (List Char)) : List Char → List Char
  | [] => []
  | '$' :: '\x7b' :: rest =>
    match h : rest.dropWhile (· ≠ '\x7d') with
    | [] => '$' :: substitute meaning ('\x7b' :: rest)
    | _ :: more =>
      have : more.length < rest.length := by
        have hle := (List.dropWhile_sublist (· ≠ '\x7d') (l := rest)).length_le
        rw [h] at hle
        exact hle
      match meaning (rest.takeWhile (· ≠ '\x7d')) with
      | some text => text ++ substitute meaning more
      | none => '$' :: substitute meaning ('\x7b' :: rest)
  | c :: cs => c :: substitute meaning cs
termination_by cs => cs.length

/-! ### Parameters -/

/-- A letter stands for a letter of a word, letter case aside. -/
def isLetter (c w : Char) : Bool :=
  c = w || Text.lower (String.singleton c) = String.singleton w ||
    (w = 's' && c = 'ſ') || (w = 'i' && (c = 'ı' || c = 'İ'))

/-- The text begins with a word, letter case aside; what follows. -/
def dropWord? : List Char → List Char → Option (List Char)
  | [], cs => some cs
  | _ :: _, [] => none
  | w :: ws, c :: cs => if isLetter c w then dropWord? ws cs else none

/-- What a reference asks for: the subject, the field, and the key of a label or annotation. -/
structure Query where
  /-- `pvc`, `pv` or `node`. -/
  subject : String
  /-- `name`, `namespace`, `labels` or `annotations`. -/
  field : String
  /-- The key. -/
  key : Option String
  deriving DecidableEq, Repr

/-- The subjects of references. -/
def subjects : List String := ["pvc", "pv", "node"]

/-- The fields of references. -/
def queryFields : List String := ["name", "namespace", "labels", "annotations"]

/-- The key that ends a reference: nothing, or a dot and a text that is not empty. -/
def key? : List Char → Option (Option String)
  | [] => some none
  | '.' :: k :: ks => some (some (String.ofList (k :: ks)))
  | _ => none

/-- The words of a text that has one of them at the front: the spelling in the text, in lower case,
and what follows. -/
def splitWord (words : List String) (cs : List Char) : List (String × List Char) :=
  words.filterMap fun w => (dropWord? w.toList cs).map fun rest =>
    (Text.lower (String.ofList (cs.take w.length)), rest)

/-- The query that the text of a reference writes. -/
def query? (body : List Char) : Option Query := do
  let body ← match body with
    | '.' :: rest => some rest
    | _ => none
  (splitWord subjects body).findSome? fun (subject, rest) =>
    match rest with
    | '.' :: rest =>
      (splitWord queryFields rest).findSome? fun (field, rest) =>
        (key? rest).map fun key => ⟨subject, field, key⟩
    | _ => none

/-- What stands for a query; none if it is not known. A label or annotation that is missing is
empty. -/
def Names.answer (n : Names) (q : Query) : Option String :=
  match q.subject, q.field, q.key with
  | "pvc", "name", none => some n.claim
  | "pvc", "namespace", none => some n.space
  | "pvc", "labels", some k => some ((Keyed.get? n.labels k).getD "")
  | "pvc", "annotations", some k => some ((Keyed.get? n.annotations k).getD "")
  | "pv", "name", none => if n.volume.isEmpty then none else some n.volume
  | "node", "name", none => some n.node
  | "node", "labels", some k => some ((Keyed.get? n.nodeLabels k).getD "")
  | _, _, _ => none

/-- A reference as it is written. -/
def written (body : List Char) : List Char := '$' :: '\x7b' :: body ++ ['\x7d']

/-- What stands for the text of a reference in a parameter. -/
def Names.parameterMeaning (n : Names) (body : List Char) : Option (List Char) :=
  (query? body).map fun q =>
    match n.answer q with
    | some s => s.toList
    | none => written body

/-- A parameter with its references replaced. -/
def Names.parameter (n : Names) (text : String) : String :=
  String.ofList (substitute n.parameterMeaning text.toList)

/-! ### Secret references -/

/-- The key of the annotation that a reference asks for: `pvc.annotations['key']`. A line end at
the end of the reference is not looked at. -/
def annotationKey? (body : List Char) : Option String := do
  let start := "pvc.annotations['".toList
  let body := if body.getLast? = some '\n' then body.dropLast else body
  if start.isPrefixOf body && ['\'', ']'].isSuffixOf body then
    let key := (body.drop start.length).dropLast.dropLast
    if key.isEmpty || key.contains '\'' || body.length < start.length + 2 then none
    else some (String.ofList key)
  else none

/-- What stands for a secret reference; none if it is not known. -/
def Names.secretAnswer (n : Names) (body : List Char) : Option String :=
  match String.ofList body with
  | "pv.name" => some n.volume
  | "pvc.name" => some n.claim
  | "pvc.namespace" => some n.space
  | _ => (annotationKey? body).bind (Keyed.get? n.annotations)

/-- What stands for the text of a secret reference. Anything between braces is a reference. -/
def Names.secretMeaning (n : Names) (body : List Char) : Option (List Char) :=
  if body.isEmpty then none
  else some (match n.secretAnswer body with
    | some s => s.toList
    | none => written body)

/-- A text with its secret references replaced. -/
def Names.secret (n : Names) (text : String) : String :=
  String.ofList (substitute n.secretMeaning text.toList)

end SubpathCsi.Template
