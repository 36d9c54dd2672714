import Mathlib.Algebra.Order.BigOperators.Group.List
import Mathlib.Algebra.Order.Group.Nat
import SubpathCsi.Proofs.Shell.Reader

/-!
# What words come to

Before it runs a command, a shell puts the values of parameters into the words of the line and cuts
the words into fields, which are the arguments of the command. A field ends at a blank of a value
that was put in outside quotes, and nowhere else; the blank itself is lost. So a value without
blanks comes through as it is, and one with blanks never does: what is left of it is shorter.

* `Shell.Word.fields`, `Shell.arguments`: the fields of a word, and of all words of a line;
* `Shell.fields_literal`: a word without parameters is one field;
* `Shell.fields_param`, `Shell.paramFields`: what a value comes to behind a text;
* `Shell.flatMap_paramFields_eq_iff`: values come through exactly if none holds a blank.
-/

namespace SubpathCsi.Shell

/-! ### Fields -/

/-- At this character a field ends, unless the environment says otherwise. -/
def isGap (c : Char) : Bool := c = ' ' || c = '\t' || c = '\n'

/-- A value outside quotes goes on with the field that the shell is in, if it is in one: the fields
that end in the value, and the one that the shell is in after it. -/
def cut : Option (List Char) → List Char → List (List Char) × Option (List Char)
  | v, [] => ([], v)
  | v, c :: cs =>
    if isGap c then
      let (fields, last) := cut none cs
      (v.toList ++ fields, last)
    else cut (some (v.getD [] ++ [c])) cs

/-- The fields of the pieces of a word, the first of which goes on with the field that the shell is
in. -/
def Word.fieldsFrom (env : String → String) : Option (List Char) → Word → List (List Char)
  | v, [] => v.toList
  | v, .char c :: w => fieldsFrom env (some (v.getD [] ++ [c])) w
  | v, .param true name :: w => fieldsFrom env (some (v.getD [] ++ (env name).toList)) w
  | v, .param false name :: w =>
    let (fields, last) := cut v (env name).toList
    fields ++ fieldsFrom env last w

/-- The fields of a word, for the values of the parameters. A word without pieces is a pair of
quotes, which is a field. Quotes that hold nothing leave no trace in other words; there they would
matter beside a parameter alone, and no line of a sidecar has them. -/
def Word.fields (env : String → String) (w : Word) : List String :=
  (fieldsFrom env (if w.isEmpty then some [] else none) w).map String.ofList

/-- The word that a token is. -/
def Token.word? : Token → Option Word
  | .word w => some w
  | .operator _ | .newline => none

/-- The arguments of a line that is one command, the program first: the fields of its words. -/
def arguments (env : String → String) (line : String) : Option (List String) := do
  let words ← (← read line).mapM Token.word?
  return words.flatMap (Word.fields env)

example : arguments (fun _ => " a  b") "echo -n '' \"$\x7bx\x7d\" y$\x7bx\x7d" =
    some ["echo", "-n", "", " a  b", "y", "a", "b"] := by
  decide +kernel

variable {env : String → String} {cs : List Char}

theorem arguments_of_read {line : String} {ws : List Word}
    (h : read line = some (ws.map .word)) :
    arguments env line = some (ws.flatMap (Word.fields env)) := by
  have hwords : (ws.map Token.word).mapM Token.word? = some ws := by
    rw [List.mapM_map]
    exact List.mapM_pure.trans (congrArg some (List.map_id ws))
  rw [arguments, h, Option.bind_eq_bind, Option.bind_some, hwords]
  rfl

/-! ### Texts -/

/-- Characters go on with the field. -/
theorem fieldsFrom_chars (v : List Char) (cs : List Char) (w : Word) :
    Word.fieldsFrom env (some v) (cs.map Piece.char ++ w) =
      Word.fieldsFrom env (some (v ++ cs)) w := by
  induction cs generalizing v with
  | nil => rw [List.map_nil, List.nil_append, List.append_nil]
  | cons c cs ih =>
    rw [List.map_cons, List.cons_append, Word.fieldsFrom, Option.getD_some, ih, List.append_assoc,
      List.singleton_append]

/-- A text before other pieces begins their first field. -/
theorem fields_literal_append (env : String → String) {text : String} (htext : text.toList ≠ [])
    (w : Word) : Word.fields env (literal text ++ w) =
      (Word.fieldsFrom env (some text.toList) w).map String.ofList := by
  obtain ⟨c, cs, hcs⟩ := List.exists_cons_of_ne_nil htext
  rw [Word.fields, literal, hcs, List.map_cons, List.cons_append, List.isEmpty_cons, if_neg nofun,
    Word.fieldsFrom, fieldsFrom_chars]
  rfl

/-- **Texts.** A word without parameters is one field. -/
theorem fields_literal (env : String → String) (text : String) :
    Word.fields env (literal text) = [text] := by
  by_cases htext : text.toList = []
  · have hempty : text = "" := String.toList_eq_nil_iff.mp htext
    rw [hempty]
    rfl
  · have h := fields_literal_append env htext []
    rw [List.append_nil] at h
    rw [h, Word.fieldsFrom, Option.toList_some, List.map_singleton, String.ofList_toList]

/-! ### Values -/

/-- Without blanks, a value goes on with the field. -/
theorem cut_of_forall_not_isGap (v : List Char) (hcs : ∀ c ∈ cs, isGap c = false) :
    cut (some v) cs = ([], some (v ++ cs)) := by
  induction cs generalizing v with
  | nil => rw [cut, List.append_nil]
  | cons c cs ih =>
    rw [List.forall_mem_cons] at hcs
    rw [cut, hcs.1, if_neg nofun, Option.getD_some, ih _ hcs.2, List.append_assoc,
      List.singleton_append]

/-- The fields hold what there is but for the blanks of the value. -/
theorem flatten_cut (v : Option (List Char)) (cs : List Char) :
    (cut v cs).1.flatten ++ (cut v cs).2.getD [] = v.getD [] ++ cs.filter (!isGap ·) := by
  induction cs generalizing v with
  | nil => rw [cut, List.flatten_nil, List.nil_append, List.filter_nil, List.append_nil]
  | cons c cs ih =>
    rw [cut]
    split
    · next hgap =>
      have hflat : v.toList.flatten = v.getD [] := by cases v <;> simp
      have hrest := ih none
      rw [Option.getD_none, List.nil_append] at hrest
      rw [List.flatten_append, List.append_assoc, hrest, hflat,
        List.filter_cons_of_neg (by simp [hgap])]
    · next hgap =>
      rw [ih, List.filter_cons_of_pos (by simpa using hgap), Option.getD_some, List.append_assoc,
        List.singleton_append]

/-- The fields of a word that is a text with a value behind it. -/
def paramFields (text value : String) : List String :=
  let (fields, last) := cut (some text.toList) value.toList
  (fields ++ last.toList).map String.ofList

theorem fields_param {text : String} (htext : text ≠ "") (env : String → String) (name : String) :
    Word.fields env (literal text ++ [.param false name]) = paramFields text (env name) := by
  have hne : text.toList ≠ [] := mt String.toList_eq_nil_iff.mp htext
  rw [fields_literal_append env hne, paramFields]
  rfl

/-- How many characters fields hold. -/
def heldIn (fields : List String) : Nat := (fields.flatMap String.toList).length

theorem heldIn_paramFields (text value : String) :
    heldIn (paramFields text value) =
      text.length + (value.toList.filter (!isGap ·)).length := by
  have hall : (paramFields text value).flatMap String.toList =
      text.toList ++ value.toList.filter (!isGap ·) := by
    have hlast : ∀ last : Option (List Char), last.toList.flatten = last.getD [] := by
      rintro (_ | cs) <;> simp
    have hflat := flatten_cut (some text.toList) value.toList
    rw [Option.getD_some, ← hlast, ← List.flatten_append] at hflat
    rw [← hflat, paramFields, List.flatMap_map]
    simp [List.flatMap_def]
  rw [heldIn, hall, List.length_append, String.length_toList]

/-- A value loses characters exactly if it holds a blank. -/
theorem heldIn_paramFields_lt_iff {text value : String} :
    heldIn (paramFields text value) < (text ++ value).length ↔
      ∃ c ∈ value.toList, isGap c = true := by
  have hfilter : (value.toList.filter (!isGap ·)).length < value.toList.length ↔
      ∃ c ∈ value.toList, isGap c = true := by
    rw [List.length_filter_lt_length_iff_exists]
    simp
  rw [← hfilter, heldIn_paramFields, String.length_append, Nat.add_lt_add_iff_left,
    String.length_toList]

theorem heldIn_paramFields_le (text value : String) :
    heldIn (paramFields text value) ≤ (text ++ value).length := by
  have hle := List.length_filter_le (!isGap ·) value.toList
  rw [String.length_toList] at hle
  rw [heldIn_paramFields, String.length_append]
  omega

theorem paramFields_of_forall_not_isGap (text : String) {value : String}
    (hvalue : ∀ c ∈ value.toList, isGap c = false) : paramFields text value = [text ++ value] := by
  rw [paramFields, cut_of_forall_not_isGap _ hvalue]
  simp

/-- **Values.** Behind texts, values come through as they are exactly if none of them holds a
blank: the blanks are lost, so that otherwise the fields hold too little. -/
theorem flatMap_paramFields_eq_iff {α : Type} (xs : List α) (text value : α → String) :
    (xs.flatMap fun x => paramFields (text x) (value x)) = xs.map (fun x => text x ++ value x) ↔
      ∀ x ∈ xs, ∀ c ∈ (value x).toList, isGap c = false := by
  rw [List.map_eq_flatMap]
  constructor
  · intro h
    by_contra hnot
    push Not at hnot
    obtain ⟨x, hx, c, hc, hgap⟩ := hnot
    have hlt : (xs.map fun x => heldIn (paramFields (text x) (value x))).sum <
        (xs.map fun x => (text x ++ value x).length).sum := by
      refine List.sum_lt_sum _ _ (fun y _ => heldIn_paramFields_le _ _) ⟨x, hx, ?_⟩
      exact heldIn_paramFields_lt_iff.mpr ⟨c, hc, by simpa using hgap⟩
    have hheld := congrArg heldIn h
    simp only [heldIn, List.flatMap_assoc, List.length_flatMap, List.flatMap_singleton,
      String.length_toList] at hheld hlt
    omega
  · intro h
    exact List.flatMap_congr fun x hx => paramFields_of_forall_not_isGap _ (h x hx)

end SubpathCsi.Shell
