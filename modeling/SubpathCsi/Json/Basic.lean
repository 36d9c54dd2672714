import SubpathCsi.Keyed
import SubpathCsi.Number.Binary64

/-!
# JSON values

Whole numbers and floating-point numbers are told apart, and the members of an object keep their
order.
-/

namespace SubpathCsi

/-- A JSON value. -/
inductive Json where
  /-- `null`. -/
  | null
  /-- `true` or `false`. -/
  | bool (b : Bool)
  /-- A number written without point and exponent. -/
  | int (n : Int)
  /-- Any other number. -/
  | float (x : Binary64)
  /-- A string. -/
  | str (s : String)
  /-- An array. -/
  | arr (items : List Json)
  /-- An object. -/
  | obj (members : List (String × Json))
  deriving Repr, Inhabited

namespace Json

/-- The member of an object under a key; none for other values. -/
def get? (j : Json) (key : String) : Option Json :=
  match j with
  | obj ms => Keyed.get? ms key
  | _ => none

/-- The members of an object; none for other values. -/
def members? : Json → Option (Keyed Json)
  | obj ms => some ms
  | _ => none

/-- The items of an array; none for other values. -/
def items? : Json → Option (List Json)
  | arr xs => some xs
  | _ => none

/-- The text of a string; none for other values. -/
def str? : Json → Option String
  | str s => some s
  | _ => none

/-- A value counts as present when it is none of `null`, `false`, zero and the empty texts, arrays
and objects. -/
def isPresent : Json → Bool
  | null => false
  | bool b => b
  | int n => n ≠ 0
  | float x => !x.isZero
  | str s => !s.isEmpty
  | arr xs => !xs.isEmpty
  | obj ms => !ms.isEmpty

/-- An object of strings. -/
def ofStrings (m : Keyed String) : Json := obj (m.map fun p => (p.1, str p.2))

/-- An array of strings. -/
def ofTexts (xs : List String) : Json := arr (xs.map str)

mutual

/-- Two values are the same: objects with the same members in any order, numbers of one kind. -/
def same : Json → Json → Bool
  | null, null => true
  | bool a, bool b => a = b
  | int a, int b => a = b
  | float a, float b => a = b
  | str a, str b => a = b
  | arr xs, arr ys => sameItems xs ys
  | obj ms, obj ns => ms.length = ns.length && sameMembers ms ns
  | _, _ => false

/-- Item by item. -/
def sameItems : List Json → List Json → Bool
  | [], [] => true
  | x :: xs, y :: ys => same x y && sameItems xs ys
  | _, _ => false

/-- Each member of the first is the same in the second. -/
def sameMembers : List (String × Json) → List (String × Json) → Bool
  | [], _ => true
  | (k, v) :: ms, ns =>
    match Keyed.get? ns k with
    | some w => same v w && sameMembers ms ns
    | none => false

end

end Json

end SubpathCsi
