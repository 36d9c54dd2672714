import Mathlib.Data.List.Basic
import Mathlib.Data.List.TakeWhile
import SubpathCsi.Text.Blank

/-!
# Texts without blanks around them

Trimming leaves a text as it is if it neither begins nor ends with a blank. What stands between two
such texts may hold blanks.

* `Text.IsTrimmed`, `Text.trim_eq_self`: texts that trimming leaves as they are;
* `Text.isTrimmed_append`: a text that begins and ends with such texts;
* `Text.isTrimmed_trim`, `trimmed_trimmed`: what trimming gives;
* `Text.trim_append_of_isBlank`, `Text.trimEnd_append`: blanks around a text, and inside it.
-/

namespace SubpathCsi.Text

/-- The text neither begins nor ends with a blank. -/
structure IsTrimmed (cs : List Char) : Prop where
  /-- It begins with no blank. -/
  head : ∀ c ∈ cs.head?, isBlank c = false
  /-- It ends with no blank. -/
  last : ∀ c ∈ cs.getLast?, isBlank c = false

instance (cs : List Char) : Decidable (IsTrimmed cs) :=
  decidable_of_iff (cs.head?.all (!isBlank ·) = true ∧ cs.getLast?.all (!isBlank ·) = true) <| by
    simp only [Option.all_eq_true, Bool.not_eq_true']
    exact ⟨fun h => ⟨h.1, h.2⟩, fun h => ⟨h.head, h.last⟩⟩

variable {cs front back : List Char}

/-- A text that begins with no blank has none to be taken from its front. -/
theorem dropWhile_isBlank_eq_self (h : ∀ c ∈ cs.head?, isBlank c = false) :
    cs.dropWhile isBlank = cs := by
  cases cs with
  | nil => rfl
  | cons c cs =>
    rw [List.dropWhile_cons_of_neg]
    rw [h c rfl]
    exact Bool.false_ne_true

/-- A text that ends with no blank has none to be taken from its end. -/
theorem trimEnd_eq_self (h : ∀ c ∈ cs.getLast?, isBlank c = false) : trimEnd cs = cs := by
  have hhead : ∀ c ∈ cs.reverse.head?, isBlank c = false := by
    rw [List.head?_reverse]
    exact h
  rw [trimEnd, dropWhile_isBlank_eq_self hhead, List.reverse_reverse]

theorem trim_eq_self (h : IsTrimmed cs) : trim cs = cs := by
  rw [trim, trimStart, dropWhile_isBlank_eq_self h.head, trimEnd_eq_self h.last]

/-- What begins and ends with trimmed texts is trimmed, whatever stands between them. -/
theorem isTrimmed_append (hfront : IsTrimmed front) (hback : IsTrimmed back) (hne : front ≠ [])
    (hne' : back ≠ []) (between : List Char) : IsTrimmed (front ++ between ++ back) := by
  have hhead : (front ++ between ++ back).head? = front.head? := by
    rw [List.append_assoc, List.head?_append_of_ne_nil _ hne]
  have hlast : (front ++ between ++ back).getLast? = back.getLast? :=
    List.getLast?_append_of_ne_nil _ hne'
  refine ⟨?_, ?_⟩
  · rw [hhead]
    exact hfront.head
  · rw [hlast]
    exact hback.last

/-! ### Blanks that are taken away -/

/-- Only blanks are taken from the end of a text. -/
theorem exists_eq_trimEnd_append (cs : List Char) :
    ∃ bs, (∀ b ∈ bs, isBlank b = true) ∧ cs = trimEnd cs ++ bs := by
  refine ⟨(cs.reverse.takeWhile isBlank).reverse, ?_, ?_⟩
  · intro b hb
    exact List.mem_takeWhile_imp (List.mem_reverse.mp hb)
  · rw [trimEnd, ← List.reverse_append, List.takeWhile_append_dropWhile, List.reverse_reverse]

/-- What is left ends with no blank. -/
theorem getLast?_trimEnd {c : Char} (h : c ∈ (trimEnd cs).getLast?) : isBlank c = false := by
  rw [trimEnd, List.getLast?_reverse] at h
  exact head?_trimStart h

theorem isTrimmed_trim (cs : List Char) : IsTrimmed (trim cs) := by
  refine ⟨fun c hc => ?_, fun c hc => getLast?_trimEnd hc⟩
  obtain ⟨bs, -, heq⟩ := exists_eq_trimEnd_append (trimStart cs)
  refine @head?_trimStart cs c ?_
  rw [heq, List.head?_append]
  rw [trim] at hc
  rw [hc]
  rfl

theorem mem_of_mem_trim {c : Char} (h : c ∈ trim cs) : c ∈ cs := by
  rw [trim, trimEnd, List.mem_reverse] at h
  exact (List.dropWhile_sublist _).mem (List.mem_reverse.mp ((List.dropWhile_sublist _).mem h))

theorem trimStart_append_of_isBlank (hfront : ∀ b ∈ front, isBlank b = true) :
    trimStart (front ++ cs) = trimStart cs := List.dropWhile_append_of_pos hfront

theorem trimEnd_append_of_isBlank (hback : ∀ b ∈ back, isBlank b = true) :
    trimEnd (cs ++ back) = trimEnd cs := by
  have hreverse : ∀ b ∈ back.reverse, isBlank b = true :=
    fun b hb => hback b (List.mem_reverse.mp hb)
  rw [trimEnd, List.reverse_append, List.dropWhile_append_of_pos hreverse, trimEnd]

/-- Blanks after a text do not matter. -/
theorem trim_append_of_isBlank (hback : ∀ b ∈ back, isBlank b = true) :
    trim (cs ++ back) = trim cs := by
  rw [trim, trimStart, List.dropWhile_append]
  split
  · next hempty =>
    have hnone : back.dropWhile isBlank = [] := List.dropWhile_eq_nil_iff.mpr hback
    rw [hnone, trim, trimStart, List.isEmpty_iff.mp hempty]
  · exact trimEnd_append_of_isBlank hback

/-- To trim the end first makes no difference. -/
theorem trim_trimEnd (cs : List Char) : trim (trimEnd cs) = trim cs := by
  obtain ⟨bs, hbs, heq⟩ := exists_eq_trimEnd_append cs
  calc trim (trimEnd cs) = trim (trimEnd cs ++ bs) := (trim_append_of_isBlank hbs).symm
    _ = trim cs := by rw [← heq]

/-- What stands before the last character that is no blank stays. -/
theorem trimEnd_append (hfront : ∀ c ∈ front.getLast?, isBlank c = false) :
    trimEnd (front ++ back) = front ++ trimEnd back := by
  have hkept : front.reverse.dropWhile isBlank = front.reverse := by
    refine dropWhile_isBlank_eq_self ?_
    rw [List.head?_reverse]
    exact hfront
  rw [trimEnd, List.reverse_append, List.dropWhile_append]
  split
  · next hempty =>
    rw [hkept, trimEnd, List.isEmpty_iff.mp hempty, List.reverse_reverse, List.reverse_nil,
      List.append_nil]
  · rw [List.reverse_append, List.reverse_reverse, trimEnd]

end SubpathCsi.Text

namespace SubpathCsi

/-- To trim a text twice makes no difference. -/
theorem trimmed_trimmed (s : String) : trimmed (trimmed s) = trimmed s := by
  rw [trimmed, trimmed, String.toList_ofList, Text.trim_eq_self (Text.isTrimmed_trim _)]

end SubpathCsi
