import SubpathCsi.Json.Basic
import SubpathCsi.Number.Shortest
import SubpathCsi.Text.Quoted
import SubpathCsi.Text.Split

/-!
# JSON values in messages

A message shows a string as it is and a string inside an array or object between quotes. `None`,
`True` and `False` stand for `null` and the truth values.
-/

namespace SubpathCsi.Json

mutual

/-- A value inside another one. -/
def nestedText : Json → String
  | null => "None"
  | bool b => if b then "True" else "False"
  | int n => toString n
  | float x => x.text
  | str s => quoted s
  | arr xs => "[" ++ joined ", " (nestedItems xs) ++ "]"
  | obj ms => "\x7b" ++ joined ", " (nestedMembers ms) ++ "\x7d"

/-- The texts of items. -/
def nestedItems : List Json → List String
  | [] => []
  | x :: xs => nestedText x :: nestedItems xs

/-- The texts of members. -/
def nestedMembers : List (String × Json) → List String
  | [] => []
  | (k, v) :: ms => (quoted k ++ ": " ++ nestedText v) :: nestedMembers ms

end

/-- A value as a message shows it. -/
def display : Json → String
  | str s => s
  | j => nestedText j

end SubpathCsi.Json
