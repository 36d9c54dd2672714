import SubpathCsi.Json.Basic
import SubpathCsi.Text.Split

/-!
# JSON patches

A patch is a list of operations, each on the value that a pointer leads to: a list of keys, from the
outside in. `Patch.between` finds the operations that turn one value into another; it goes into
objects, and replaces everything else as a whole. `Patch.apply` carries operations out.
-/

namespace SubpathCsi

/-- An operation on a JSON value. -/
inductive PatchOp where
  /-- Puts a value where there is none. -/
  | add (path : List String) (value : Json)
  /-- Removes a value. -/
  | remove (path : List String)
  /-- Puts a value in the place of another. -/
  | replace (path : List String) (value : Json)
  deriving Repr

namespace Patch

/-! ### Pointers -/

/-- A key as a part of a pointer. -/
def escape : List Char → List Char
  | [] => []
  | '~' :: cs => '~' :: '0' :: escape cs
  | '/' :: cs => '~' :: '1' :: escape cs
  | c :: cs => c :: escape cs

/-- The key that a part of a pointer stands for. -/
def unescape : List Char → List Char
  | [] => []
  | '~' :: '0' :: cs => '~' :: unescape cs
  | '~' :: '1' :: cs => '/' :: unescape cs
  | c :: cs => c :: unescape cs

theorem unescape_escape (cs : List Char) : unescape (escape cs) = cs := by
  fun_induction escape cs with
  | case1 => rfl
  | case2 cs ih => simp [unescape, ih]
  | case3 cs ih => simp [unescape, ih]
  | case4 c cs h1 h2 ih =>
    have h : c ≠ '~' := fun e => h1 e
    unfold unescape
    split <;> simp_all

/-- The text of a pointer. -/
def pointer (path : List String) : String :=
  String.ofList (path.flatMap fun key => '/' :: escape key.toList)

/-- The keys of a pointer. -/
def keys (pointer : String) : List String :=
  match pointer.toList with
  | '/' :: cs => (Text.splitAt '/' cs).map fun part => String.ofList (unescape part)
  | _ => []

/-! ### Operations as JSON -/

/-- Writes an operation. -/
def opToJson : PatchOp → Json
  | .add path v => .obj [("op", .str "add"), ("path", .str (pointer path)), ("value", v)]
  | .remove path => .obj [("op", .str "remove"), ("path", .str (pointer path))]
  | .replace path v => .obj [("op", .str "replace"), ("path", .str (pointer path)), ("value", v)]

/-- Reads an operation. -/
def opOfJson? (j : Json) : Option PatchOp :=
  match j.get? "op", j.get? "path", j.get? "value" with
  | some (.str "add"), some (.str p), some v => some (.add (keys p) v)
  | some (.str "remove"), some (.str p), _ => some (.remove (keys p))
  | some (.str "replace"), some (.str p), some v => some (.replace (keys p) v)
  | _, _, _ => none

/-! ### Carrying out -/

/-- Puts a value where a pointer leads. -/
def put : List String → Json → Json → Json
  | [], v, _ => v
  | key :: path, v, .obj ms =>
    .obj (Keyed.put ms key (put path v ((Keyed.get? ms key).getD .null)))
  | _ :: _, _, j => j

/-- Removes the value where a pointer leads. -/
def drop : List String → Json → Json
  | [], _ => .null
  | [key], .obj ms => .obj (Keyed.erase ms key)
  | key :: path, .obj ms =>
    match Keyed.get? ms key with
    | some v => .obj (Keyed.put ms key (drop path v))
    | none => .obj ms
  | _ :: _, j => j

/-- Carries out one operation. -/
def applyOp (j : Json) : PatchOp → Json
  | .add path v => put path v j
  | .replace path v => put path v j
  | .remove path => drop path j

/-- Carries out operations, one after another. -/
def apply (j : Json) (ops : List PatchOp) : Json := ops.foldl applyOp j

/-! ### Finding -/

mutual

/-- The operations that turn one value into another, at the end of a pointer. -/
def betweenAt (path : List String) : Json → Json → List PatchOp
  | .obj ms, .obj ns =>
    betweenMembers path ns ms ++
      (ns.filter fun p => !Keyed.has ms p.1).map fun p => .add (path ++ [p.1]) p.2
  | a, b => if Json.same a b then [] else [.replace path b]

/-- The operations for the members of an object, which may be gone or changed. -/
def betweenMembers (path : List String) (ns : List (String × Json)) :
    List (String × Json) → List PatchOp
  | [] => []
  | (key, a) :: ms =>
    (match Keyed.get? ns key with
      | some b => betweenAt (path ++ [key]) a b
      | none => [.remove (path ++ [key])]) ++ betweenMembers path ns ms

end

/-- The operations that turn one value into another. -/
def between (a b : Json) : List PatchOp := betweenAt [] a b

end Patch

end SubpathCsi
