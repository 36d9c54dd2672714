import Mathlib.Data.List.TakeDrop
import Mathlib.Data.List.TakeWhile
import SubpathCsi.Text.Split

/-!
# Joined texts, cut again

Texts that were joined by a separator come apart at it, and where one of them held the separator it
comes apart as well: cutting does not tell the separators that were there from those that were put
in between.

* `Text.splitAt_append`: a separator cuts what is before it from what is after it;
* `Text.cutFirst?_append`: the first separator cuts a text in two;
* `fields_joined`: the fields of joined strings are the fields of each;
* `fields_of_notMem`, `fields_append_of_notMem`: where there is no separator, nothing is cut;
* `beginsWith_iff`, `eq_append_of_fields`: the beginning of a string, and its first field.
-/

namespace SubpathCsi

namespace Text

variable {sep : Char}

/-- The text before a separator and the text after it are cut on their own. -/
theorem splitAt_append (front back : List Char) :
    splitAt sep (front ++ sep :: back) = splitAt sep front ++ splitAt sep back := by
  induction front with
  | nil => simp [splitAt]
  | cons c cs ih =>
    rw [List.cons_append, splitAt, splitAt, ih]
    split
    · rfl
    · cases hparts : splitAt sep cs with
      | nil => exact absurd hparts (splitAt_ne_nil sep cs)
      | cons p ps => rfl

/-- A text without separators is not cut. -/
theorem splitAt_of_notMem {cs : List Char} (hcs : sep ∉ cs) : splitAt sep cs = [cs] := by
  induction cs with
  | nil => rfl
  | cons c cs ih =>
    rw [List.mem_cons, not_or] at hcs
    rw [splitAt, if_neg fun hc => hcs.1 hc.symm, ih hcs.2]

/-- What is put before a text lengthens its first part. -/
theorem splitAt_append_of_notMem {front back p : List Char} {ps : List (List Char)}
    (hfront : sep ∉ front) (hback : splitAt sep back = p :: ps) :
    splitAt sep (front ++ back) = (front ++ p) :: ps := by
  induction front with
  | nil => exact hback
  | cons c cs ih =>
    rw [List.mem_cons, not_or] at hfront
    rw [List.cons_append, splitAt, if_neg fun hc => hfront.1 hc.symm, ih hfront.2]
    rfl

theorem splitAt_join {parts : List (List Char)} (hparts : parts ≠ []) :
    splitAt sep (join [sep] parts) = parts.flatMap (splitAt sep) := by
  induction parts with
  | nil => exact absurd rfl hparts
  | cons p ps ih =>
    cases ps with
    | nil => simp [join]
    | cons q qs =>
      have hjoin : join [sep] (p :: q :: qs) = p ++ sep :: join [sep] (q :: qs) := by simp [join]
      rw [hjoin, splitAt_append, ih (List.cons_ne_nil q qs)]
      rfl

/-- The first separator cuts a text in two. -/
theorem cutFirst?_append {front : List Char} (hfront : sep ∉ front) (back : List Char) :
    cutFirst? sep (front ++ sep :: back) = some (front, back) := by
  have hpass : ∀ c ∈ front, decide (c ≠ sep) = true := fun c hc =>
    decide_eq_true fun he => hfront (he ▸ hc)
  rw [cutFirst?, List.span_eq_takeWhile_dropWhile, List.takeWhile_append_of_pos hpass,
    List.dropWhile_append_of_pos hpass, List.dropWhile_cons_of_neg (by simp)]
  simp

/-- A text without separators is not cut in two. -/
theorem cutFirst?_of_notMem {cs : List Char} (hcs : sep ∉ cs) : cutFirst? sep cs = none := by
  have hpass : ∀ c ∈ cs, decide (c ≠ sep) = true := fun c hc =>
    decide_eq_true fun he => hcs (he ▸ hc)
  rw [cutFirst?, List.span_eq_takeWhile_dropWhile, List.dropWhile_eq_nil_iff.mpr hpass]

end Text

variable {sep : Char}

/-- A string begins with another one if something is put after that. -/
theorem beginsWith_iff {start s : String} :
    beginsWith start s = true ↔ ∃ rest, s = start ++ rest := by
  rw [beginsWith, List.isPrefixOf_iff_prefix]
  constructor
  · rintro ⟨rest, hrest⟩
    refine ⟨String.ofList rest, String.toList_inj.mp ?_⟩
    rw [String.toList_append, String.toList_ofList, hrest]
  · rintro ⟨rest, rfl⟩
    rw [String.toList_append]
    exact List.prefix_append _ _

/-- A string without separators is its own only field. -/
theorem fields_of_notMem {s : String} (hs : sep ∉ s.toList) : fields sep s = [s] := by
  rw [fields, Text.splitAt_of_notMem hs, List.map_singleton, String.ofList_toList]

/-- No field holds the separator. -/
theorem notMem_of_mem_fields {s p : String} (hp : p ∈ fields sep s) : sep ∉ p.toList := by
  obtain ⟨cs, hcs, rfl⟩ := List.mem_map.mp hp
  rw [String.toList_ofList]
  exact Text.not_mem_of_mem_splitAt hcs

theorem exists_fields_eq_cons (sep : Char) (s : String) : ∃ p ps, fields sep s = p :: ps :=
  List.exists_cons_of_ne_nil fun h => Text.splitAt_ne_nil sep s.toList (List.map_eq_nil_iff.mp h)

/-- What is put before a string lengthens its first field. -/
theorem fields_append_of_notMem {front s p : String} {ps : List String}
    (hfront : sep ∉ front.toList) (hs : fields sep s = p :: ps) :
    fields sep (front ++ s) = (front ++ p) :: ps := by
  obtain ⟨q, qs, hparts, rfl, rfl⟩ := List.map_eq_cons_iff.mp hs
  rw [fields, String.toList_append, Text.splitAt_append_of_notMem hfront hparts, List.map_cons,
    String.ofList_append, String.ofList_toList]

/-- What stands before the first separator, and what after it. -/
theorem eq_append_of_fields {text : String} (htext : text.toList = [sep]) {s p : String}
    {ps : List String} (hs : fields sep s = p :: ps) :
    s = p ∧ ps = [] ∨ ∃ rest, s = p ++ text ++ rest := by
  obtain ⟨q, qs, hparts, rfl, rfl⟩ := List.map_eq_cons_iff.mp hs
  have hjoin := Text.join_splitAt sep s.toList
  rw [hparts] at hjoin
  cases qs with
  | nil =>
    refine .inl ⟨String.toList_inj.mp ?_, rfl⟩
    rw [String.toList_ofList, ← hjoin]
    rfl
  | cons r rs =>
    refine .inr ⟨String.ofList (Text.join [sep] (r :: rs)), String.toList_inj.mp ?_⟩
    simp only [String.toList_append, String.toList_ofList, htext, ← hjoin]
    rfl

/-- A separator between two strings cuts them apart. -/
theorem fields_append {text : String} (htext : text.toList = [sep]) (front back : String) :
    fields sep (front ++ text ++ back) = fields sep front ++ fields sep back := by
  have hchars : (front ++ text ++ back).toList = front.toList ++ sep :: back.toList := by
    rw [String.toList_append, String.toList_append, htext, List.append_assoc,
      List.singleton_append]
  rw [fields, hchars, Text.splitAt_append, List.map_append]
  rfl

/-- **Cutting what was joined.** The fields of joined strings are the fields of each. -/
theorem fields_joined {text : String} (htext : text.toList = [sep]) {parts : List String}
    (hparts : parts ≠ []) : fields sep (joined text parts) = parts.flatMap (fields sep) := by
  have hne : parts.map String.toList ≠ [] := mt List.map_eq_nil_iff.mp hparts
  rw [fields, joined, String.toList_ofList, htext, Text.splitAt_join hne, List.flatMap_map,
    List.map_flatMap]
  rfl

end SubpathCsi
