import SubpathCsi.Failure
import SubpathCsi.Json.Basic

/-!
# Values of an expected shape

A value from outside may lack the shape that its use needs. The readers here fail with a defect
that tells what is wrong: a missing key, a value without members, a value that holds no items.

* `Json.find`, `Json.entry`: a member that may be missing, and one that may not;
* `Json.assign`: a value with a member under a key;
* `Json.each`: the items of a value, none for an absent one.
-/

namespace SubpathCsi.Json

/-- The name of the type of a value. -/
def typeName : Json → String
  | null => "NoneType"
  | bool _ => "bool"
  | int _ => "int"
  | float _ => "float"
  | str _ => "str"
  | arr _ => "list"
  | obj _ => "dict"

/-- A value that is no object has no members to look up. -/
def noMembers {α : Type} (j : Json) (use : String) : Except Failure α :=
  .error (.defect (.missingMember
    ("'" ++ j.typeName ++ "' object has no attribute '" ++ use ++ "'")))

/-- The member under a key, which may be missing. -/
def find (j : Json) (key : String) : Except Failure (Option Json) :=
  match j with
  | obj ms => .ok (Keyed.get? ms key)
  | _ => j.noMembers "get"

/-- The member under a key, or `default` if it is missing. -/
def findD (j : Json) (key : String) (default : Json) : Except Failure Json :=
  (j.find key).map (·.getD default)

/-- The member under a key, which has to be there. -/
def entry (j : Json) (key : String) : Except Failure Json :=
  match j with
  | obj ms =>
    match Keyed.get? ms key with
    | some v => .ok v
    | none => .error (.defect (.missingKey key))
  | arr _ => .error (.defect (.wrongType "list indices must be integers or slices, not str"))
  | str _ => .error (.defect (.wrongType "string indices must be integers, not 'str'"))
  | _ => .error (.defect (.wrongType ("'" ++ j.typeName ++ "' object is not subscriptable")))

/-- The items of a value; an absent value has none, an object has its keys and a text its
characters. -/
def each (j : Json) : Except Failure (List Json) :=
  if !j.isPresent then .ok []
  else match j with
    | arr xs => .ok xs
    | obj ms => .ok (ms.map fun p => str p.1)
    | str s => .ok (s.toList.map fun c => str (String.singleton c))
    | _ => .error (.defect (.wrongType ("'" ++ j.typeName ++ "' object is not iterable")))

/-- The members of a value that is an object or absent; `use` names what needs them. -/
def membersFor (j : Json) (use : String) : Except Failure (Keyed Json) :=
  if !j.isPresent then .ok []
  else match j with
    | obj ms => .ok ms
    | _ => j.noMembers use

/-- The text of a value that has to be one. -/
def textFor (j : Json) (position : Nat) : Except Failure String :=
  match j with
  | str s => .ok s
  | _ => .error (.defect (.wrongType
      ("sequence item " ++ toString position ++ ": expected str instance, " ++ j.typeName ++
        " found")))

/-- Sets the member of an object under a key. -/
def assign (j : Json) (key : String) (v : Json) : Except Failure Json :=
  match j with
  | obj ms => .ok (obj (Keyed.put ms key v))
  | arr _ => .error (.defect (.wrongType "list indices must be integers or slices, not str"))
  | _ => .error (.defect (.wrongType
      ("'" ++ j.typeName ++ "' object does not support item assignment")))

end SubpathCsi.Json
