import SubpathCsi.Proofs.Shell.Flags

/-!
# What a command line takes from the environment

Outside quotes a shell puts the values of parameters into the words of a line. The names of these
parameters are what the line takes from its environment. A quoted text takes nothing, whatever is in
it; the flag of a secret option takes the parameter that has the name of the option.

* `Shell.references`: the parameters outside quotes in a line;
* `Shell.mem_references_flagWord`: what the flag of an option takes.
-/

namespace SubpathCsi.Shell

/-! ### Parameters of words -/

/-- The parameters outside quotes in a word, in order. -/
def Word.references (w : Word) : List String :=
  w.filterMap fun
    | .param false name => some name
    | _ => none

theorem references_append (v w : Word) :
    (v ++ w : Word).references = v.references ++ w.references := List.filterMap_append

/-- A text that stands for itself takes nothing. -/
theorem references_literal (s : String) : (literal s).references = [] := by
  refine List.filterMap_eq_nil_iff.mpr fun p hp => ?_
  obtain ⟨c, -, rfl⟩ := List.mem_map.mp hp
  rfl

/-- The flag of an option takes something if the value is secret: the parameter with the name of the
option. -/
theorem mem_references_flagWord {secretKeys : List String} {option : String × String}
    {name : String} :
    name ∈ (flagWord secretKeys option).references ↔
      name = option.1 ∧ option.2 ≠ "" ∧ name ∈ secretKeys := by
  have hcond : (!option.2.isEmpty && secretKeys.contains option.1) = true ↔
      option.2 ≠ "" ∧ option.1 ∈ secretKeys := by
    rw [Bool.and_eq_true, List.contains_iff_mem, Bool.not_eq_true', ← Bool.not_eq_true,
      String.isEmpty_iff]
  rw [flagWord]
  split
  · next hsecret =>
    rw [references_append, references_literal, List.nil_append]
    have hmem : name ∈ Word.references [.param false option.1] ↔ name = option.1 :=
      List.mem_singleton
    rw [hmem]
    refine ⟨fun h => ⟨h, ?_⟩, And.left⟩
    rw [h]
    exact hcond.mp hsecret
  · next hshown =>
    rw [references_literal]
    refine ⟨fun h => absurd h List.not_mem_nil, ?_⟩
    rintro ⟨rfl, hsecret⟩
    exact absurd (hcond.mpr hsecret) hshown

/-! ### Parameters of lines -/

/-- The parameters outside quotes in the words of a line, in order. -/
def references (ts : List Token) : List String :=
  ts.flatMap fun
    | .word w => w.references
    | _ => []

theorem references_cons (w : Word) (ts : List Token) :
    references (.word w :: ts) = w.references ++ references ts := List.flatMap_cons

theorem mem_references_words {ws : List Word} {name : String} :
    name ∈ references (ws.map .word) ↔ ∃ w ∈ ws, name ∈ w.references := by
  rw [references, List.flatMap_map, List.mem_flatMap]

end SubpathCsi.Shell
