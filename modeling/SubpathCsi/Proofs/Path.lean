import Mathlib.Data.List.Basic
import SubpathCsi.Proofs.Text.Split
import SubpathCsi.Sidecar.Commands

/-!
# Directories of a filesystem

A path names directories one after another, from the root or from where one is. A name leads
further in, `..` leads out again, and at the root it leads nowhere. Two paths are the same if they
lead to the same directory from the root, which is told by the names on the way to it.

A directory is given by these names, the innermost first.

* `Path.resolve`: where a path leads from the root;
* `Path.foldl_enter_append`: from inside a directory a path leads where it leads from the root,
  below what it does not climb out of;
* `Path.resolve_joinPath`: where two paths lead, one after the other.
-/

namespace SubpathCsi.Path

/-- The names in a path. Empty names and `.` lead nowhere. -/
def names (p : String) : List String := (fields '/' p).filter fun n => n ≠ "" ∧ n ≠ "."

/-- The directory that a name leads to. -/
def enter (dir : List String) (name : String) : List String :=
  if name = ".." then dir.tail else name :: dir

/-- The directory that a path leads to from the root, whether it begins there or not. -/
def resolve (p : String) : List String := (names p).foldl enter []

/-- How often a path leads out of the directory where it begins, `depth` directories further in. -/
def climb : Nat → List String → Nat
  | _, [] => 0
  | 0, n :: ns => if n = ".." then climb 0 ns + 1 else climb 1 ns
  | depth + 1, n :: ns => if n = ".." then climb depth ns else climb (depth + 2) ns

example : resolve "/data/./team//../pvc-1" = ["pvc-1", "data"] := by rfl

/-! ### Names -/

/-- The names of two paths with a slash between them. -/
theorem names_append_slash (a b : String) : names (a ++ "/" ++ b) = names a ++ names b := by
  have hslash : "/".toList = ['/'] := by decide
  rw [names, fields_append hslash, List.filter_append]
  rfl

theorem names_empty : names "" = [] := by decide

/-- A slash at the end adds no name. -/
theorem names_slash (a : String) : names (a ++ "/") = names a := by
  have h := names_append_slash a ""
  rwa [String.append_empty, names_empty, List.append_nil] at h

/-- The names of a part of a path come after those of the base, unless the part begins at the
root. -/
theorem names_joinPath (base part : String) :
    names (joinPath base part) =
      if beginsWith "/" part then names part else names base ++ names part := by
  rw [joinPath]
  split
  · rfl
  · split
    · next hbase =>
      rw [Bool.or_eq_true, decide_eq_true_eq, List.getLast?_eq_some_iff] at hbase
      rcases hbase with hempty | ⟨cs, hcs⟩
      · rw [String.isEmpty_iff.mp hempty, names_empty, String.empty_append]
        rfl
      · -- the slash at the end of the base is the one between them
        have hsplit : base = String.ofList cs ++ "/" := by
          rw [← String.toList_inj, hcs]
          simp
        rw [hsplit, names_append_slash, names_slash]
    · exact names_append_slash base part

/-! ### Directories -/

theorem climb_of_ne {n : String} (hn : n ≠ "..") (depth : Nat) (ns : List String) :
    climb depth (n :: ns) = climb (depth + 1) ns := by
  cases depth <;> rw [climb, if_neg hn]

/-- **Inside a directory** `dir`, and from there in `own`, a path leads where it leads from `own`,
below as much of `dir` as it does not climb out of. -/
theorem foldl_enter_append (own dir ns : List String) :
    ns.foldl enter (own ++ dir) = ns.foldl enter own ++ dir.drop (climb own.length ns) := by
  induction ns generalizing own dir with
  | nil => simp [climb]
  | cons n ns ih =>
    rw [List.foldl_cons, List.foldl_cons, enter, enter]
    by_cases hn : n = ".."
    · rw [if_pos hn, if_pos hn]
      cases own with
      | nil =>
        -- the path climbs out of `dir` by one
        have h := ih [] dir.tail
        rw [List.nil_append] at h
        rw [List.nil_append, List.tail_nil, h, List.length_nil, climb, if_pos hn, ← List.drop_one,
          List.drop_drop, Nat.add_comm]
      | cons m ms =>
        rw [List.cons_append, List.tail_cons, List.tail_cons, ih, List.length_cons, climb,
          if_pos hn]
    · rw [if_neg hn, if_neg hn, ← List.cons_append, ih, List.length_cons, climb_of_ne hn]

/-- Where two paths lead, one after the other: a part that begins at the root leads where it leads
alone, and any other leads there below what is left of the base. -/
theorem resolve_joinPath (base part : String) :
    resolve (joinPath base part) =
      resolve part ++ if beginsWith "/" part then [] else
        (resolve base).drop (climb 0 (names part)) := by
  rw [resolve, names_joinPath]
  split
  · rw [List.append_nil]
    rfl
  · have h := foldl_enter_append [] (resolve base) (names part)
    rw [List.nil_append] at h
    rw [List.foldl_append]
    exact h

end SubpathCsi.Path
