/-!
# Cutting and joining texts

`splitAt sep` cuts a text at every `sep`, so `n` separators give `n + 1` parts, the empty ones
included. `join` puts texts together again with a separator between them.

* `join_splitAt`: cutting loses nothing.
* `not_mem_of_mem_splitAt`: no part holds the separator.
-/

namespace SubpathCsi.Text

/-- The parts of a text between the separators. -/
def splitAt (sep : Char) : List Char → List (List Char)
  | [] => [[]]
  | c :: cs =>
    if c = sep then [] :: splitAt sep cs
    else match splitAt sep cs with
      | [] => [[c]]
      | p :: ps => (c :: p) :: ps

/-- The texts with `sep` between each two. -/
def join (sep : List Char) : List (List Char) → List Char
  | [] => []
  | [p] => p
  | p :: q :: ps => p ++ sep ++ join sep (q :: ps)

theorem splitAt_ne_nil (sep : Char) (cs : List Char) : splitAt sep cs ≠ [] := by
  cases cs with
  | nil => simp [splitAt]
  | cons c cs =>
    unfold splitAt
    split
    · simp
    · split <;> simp

/-- Cutting loses nothing: joining the parts gives the text back. -/
theorem join_splitAt (sep : Char) (cs : List Char) : join [sep] (splitAt sep cs) = cs := by
  induction cs with
  | nil => rfl
  | cons c cs ih =>
    unfold splitAt
    cases hs : splitAt sep cs with
    | nil => exact absurd hs (splitAt_ne_nil sep cs)
    | cons p ps =>
      rw [hs] at ih
      split
      · next h => simp [join, ih, h]
      · cases ps with
        | nil => simpa [join] using ih
        | cons q qs => simpa [join] using ih

/-- No part holds the separator. -/
theorem not_mem_of_mem_splitAt {sep : Char} {cs p : List Char} (h : p ∈ splitAt sep cs) :
    sep ∉ p := by
  induction cs generalizing p with
  | nil => simp [splitAt] at h; simp [h]
  | cons c cs ih =>
    unfold splitAt at h
    split at h
    · rcases List.mem_cons.1 h with rfl | h
      · simp
      · exact ih h
    · next hc =>
      cases hs : splitAt sep cs with
      | nil => exact absurd hs (splitAt_ne_nil sep cs)
      | cons q qs =>
        rw [hs] at h ih
        rcases List.mem_cons.1 h with rfl | h
        · have := ih (List.mem_cons_self ..)
          simp [this, Ne.symm hc]
        · exact ih (List.mem_cons_of_mem _ h)

/-- The text up to the first `sep` and the text after it, if there is one. -/
def cutFirst? (sep : Char) (cs : List Char) : Option (List Char × List Char) :=
  match cs.span (· ≠ sep) with
  | (_, []) => none
  | (front, _ :: back) => some (front, back)

/-- `pattern` occurs in the text. -/
def contains (pattern : List Char) : List Char → Bool
  | [] => pattern.isEmpty
  | c :: cs => pattern.isPrefixOf (c :: cs) || contains pattern cs

end SubpathCsi.Text

namespace SubpathCsi

/-- The parts of a string between the separators. -/
def fields (sep : Char) (s : String) : List String :=
  (Text.splitAt sep s.toList).map String.ofList

/-- The strings with `sep` between each two. -/
def joined (sep : String) (parts : List String) : String :=
  String.ofList (Text.join sep.toList (parts.map String.toList))

/-- `s` begins with `start`. -/
def beginsWith (start s : String) : Bool := start.toList.isPrefixOf s.toList

/-- `pattern` occurs in `s`. -/
def occursIn (pattern s : String) : Bool := Text.contains pattern.toList s.toList

end SubpathCsi
