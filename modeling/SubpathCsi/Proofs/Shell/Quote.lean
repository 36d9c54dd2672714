import SubpathCsi.Proofs.Shell.Reader
import SubpathCsi.Shell.Quote

/-!
# Quoted texts are words

A shell takes a quoted text for one word, and this word is the text, whatever characters are in it.
So quoted texts may be put together: with safe characters, with other quoted texts, and with
parameters.

* `Shell.readsWord_quote`: a quoted text is read as it was before;
* `Shell.readsWord_of_isBare`: safe characters need no quotes;
* `Shell.readsWord_param`: a parameter outside quotes.
-/

namespace SubpathCsi.Shell

variable {c : Char} {cs : List Char}

/-! ### Safe characters -/

/-- A safe character stands for itself, and no comment begins with it. -/
theorem isPlain_of_isSafe (hc : isSafe c = true) : isPlain c = true ∧ c ≠ '#' := by
  have hspecial : ('#' :: specials).all (!isSafe ·) = true := by decide +kernel
  have hmem : c ∉ '#' :: specials := fun h => by
    have hnot := List.all_eq_true.mp hspecial c h
    rw [hc] at hnot
    exact Bool.false_ne_true hnot
  rw [List.mem_cons, not_or] at hmem
  exact ⟨isPlain_iff.mpr hmem.2, hmem.1⟩

/-- Safe characters are a word, or go on with one. -/
theorem readsWord_of_isSafe (hne : cs ≠ []) (hcs : ∀ c ∈ cs, isSafe c = true) :
    ReadsWord cs (cs.map .char) := by
  induction cs with
  | nil => exact absurd rfl hne
  | cons c cs ih =>
    rw [List.forall_mem_cons] at hcs
    obtain ⟨hplain, hcomment⟩ := isPlain_of_isSafe hcs.1
    have hc := readsWord_char hplain hcomment
    cases cs with
    | nil => exact hc
    | cons d ds => exact hc.append (ih (List.cons_ne_nil d ds) hcs.2)

/-- The text is a word as it stands: it is not empty, and all its characters are safe. -/
def IsBare (s : String) : Prop := s.toList ≠ [] ∧ ∀ c ∈ s.toList, isSafe c = true

-- The characters of the text are gone through, and not all characters there are.
instance (s : String) : Decidable (IsBare s) :=
  decidable_of_iff (s.toList ≠ [] ∧ s.toList.all isSafe = true) (by rw [IsBare, List.all_eq_true])

theorem readsWord_of_isBare {s : String} (h : IsBare s) : ReadsWord s.toList (literal s) :=
  readsWord_of_isSafe h.1 h.2

/-! ### Quotes -/

/-- Between single quotes, and with each of them written by quotes of the other kind, a text goes on
with the word as it is. -/
theorem steps_escapeQuotes (cs : List Char) (w : Word) :
    Steps { mode := .single, word := some w } (escapeQuotes cs) []
      { mode := .single, word := some (w ++ cs.map .char) } := by
  induction cs generalizing w with
  | nil =>
    rw [List.map_nil, List.append_nil]
    exact .refl _
  | cons c cs ih =>
    have hcs := ih (w ++ [.char c])
    rw [List.append_assoc] at hcs
    rw [escapeQuotes, List.flatMap_cons]
    split
    · next hc =>
      -- the quote is closed, written between double quotes, and opened again
      subst hc
      exact .cons rfl (.cons rfl (.cons rfl (.cons rfl (.cons rfl hcs))))
    · next hc =>
      refine .cons ?_ hcs
      rw [step, if_neg hc]
      rfl

/-- **Quoting.** The shell reads a quoted text as one word, and the word is the text. -/
theorem readsWord_quote (s : String) : ReadsWord (quote s).toList (literal s) := by
  rw [quote, String.toList_ofList, quoteText, literal]
  split
  · next hempty =>
    rw [List.isEmpty_iff.mp hempty]
    intro v
    rw [List.map_nil, List.append_nil]
    exact .cons rfl (.of_step rfl)
  · next hempty =>
    split
    · next hsafe =>
      exact readsWord_of_isSafe (mt List.isEmpty_iff.mpr hempty) (List.all_eq_true.mp hsafe)
    · intro v
      have hquoted := steps_escapeQuotes s.toList (v.getD [])
      exact .cons rfl (hquoted.trans (.of_step rfl))

/-! ### Parameters -/

theorem isNameChar_of_isName (hname : isName cs = true) : ∀ c ∈ cs, isNameChar c = true := by
  cases cs with
  | nil => exact nofun
  | cons c cs =>
    rw [isName, Bool.and_eq_true, Bool.and_eq_true, List.all_eq_true] at hname
    exact List.forall_mem_cons.mpr ⟨hname.1.1, hname.2⟩

/-- The name of a parameter is read up to the brace. -/
theorem steps_name {quoted : Bool} {v : Option Word} (front : List Char)
    (hcs : '\x7d' ∉ cs) :
    Steps { mode := .name quoted front, word := v } cs []
      { mode := .name quoted (front ++ cs), word := v } := by
  induction cs generalizing front with
  | nil =>
    rw [List.append_nil]
    exact .refl _
  | cons c cs ih =>
    rw [List.mem_cons, not_or] at hcs
    have htail := ih (front ++ [c]) hcs.2
    rw [List.append_assoc] at htail
    refine .cons ?_ htail
    rw [step, if_neg fun hc => hcs.1 hc.symm]

/-- **Parameters.** A reference to a parameter goes on with a word by its value. -/
theorem readsWord_param {name : String} (hname : isName name.toList = true) :
    ReadsWord ("$\x7b" ++ name ++ "\x7d").toList [.param false name] := by
  have hbrace : '\x7d' ∉ name.toList := fun h =>
    absurd (isNameChar_of_isName hname _ h) (by decide)
  intro v
  have hclose : step { mode := .name false name.toList, word := v } '\x7d' =
      some ({ word := extended v (.param false name) }, []) := by
    rw [step, if_pos rfl, if_pos hname, String.ofList_toList]
    rfl
  rw [String.toList_append, String.toList_append]
  exact .cons rfl (.cons rfl ((steps_name [] hbrace).trans (.of_step hclose)))

end SubpathCsi.Shell
