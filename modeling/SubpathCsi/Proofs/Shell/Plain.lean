import SubpathCsi.Proofs.Shell.Reader

/-!
# Texts that need no quotes

A text that is put on a command line without quotes is one word, and the word is the text, exactly
if all its characters stand for themselves and no comment begins with it. That nothing else comes
out as it went in is told by counting: a character adds at most one to what the words hold, and a
character that means something to the shell adds nothing.

* `Shell.held_readFrom`: the words hold no more characters than the text has;
* `Shell.plain_of_readFrom`: if they hold as many, then all of them stand for themselves;
* `Shell.read_eq_literal_iff`: the texts that are read as they are;
* `Shell.lastOf_eq_literal_iff`: the same at the end of a last line.
-/

namespace SubpathCsi.Shell

/-! ### What words hold -/

/-- How many characters a word holds. Those of a parameter are not known. -/
def Word.held (w : Word) : Nat := w.countP fun p => match p with
  | .char _ => true
  | .param .. => false

/-- How many characters the word of a token holds. -/
def Token.held : Token → Nat
  | .word w => w.held
  | .operator _ | .newline => 0

/-- How many characters the words of a line hold. -/
def held : List Token → Nat
  | [] => 0
  | t :: ts => t.held + held ts

/-- How many characters the word holds that the reader is in. A backslash between double quotes is
in it unless the next character takes it away. -/
def State.held (s : State) : Nat :=
  (s.word.getD []).held + if s.mode = .doubleEscape then 1 else 0

variable {s t : State} {c : Char} {cs : List Char} {ts out : List Token} {v : Option Word}

@[simp] theorem Word.held_nil : Word.held [] = 0 := rfl

@[simp] theorem held_nil : held [] = 0 := rfl

@[simp] theorem held_cons (t : Token) (ts : List Token) : held (t :: ts) = t.held + held ts := rfl

@[simp] theorem held_append (ts us : List Token) : held (ts ++ us) = held ts + held us := by
  induction ts with
  | nil => exact (Nat.zero_add _).symm
  | cons t ts ih => rw [List.cons_append, held_cons, held_cons, ih, Nat.add_assoc]

@[simp] theorem held_ended (v : Option Word) : held (ended v) = (v.getD []).held := by
  cases v <;> rfl

@[simp] theorem held_extended (v : Option Word) (c : Char) :
    ((extended v (.char c)).getD []).held = (v.getD []).held + 1 := by
  simp [extended, Word.held]

@[simp] theorem held_extended_param (v : Option Word) (quoted : Bool) (name : String) :
    ((extended v (.param quoted name)).getD []).held = (v.getD []).held := by
  simp [extended, Word.held]

theorem held_literal (s : String) : (literal s).held = s.toList.length := by
  simp [literal, Word.held, List.countP_map, Function.comp_def]

/-! ### Counting -/

/-- A character that means something to the shell adds nothing. -/
theorem held_special (h : special v c = some (t, out)) :
    held out + t.held = (v.getD []).held := by
  unfold special at h
  split at h <;> cases h <;> simp [State.held, Token.held]

theorem held_bare (h : bare v c = some (t, out)) : held out + t.held ≤ (v.getD []).held + 1 := by
  unfold bare at h
  split at h
  · split at h
    · next hcomment =>
      cases h
      simp [State.held, Word.held]
    · cases h
      simp [State.held]
  · have := held_special h
    omega

theorem held_double (h : double v c = some (t, out)) :
    held out + t.held ≤ (v.getD []).held + 1 := by
  unfold double at h
  split at h <;> cases h <;> simp [State.held]

/-- A character adds at most one to what the words hold. -/
theorem held_step (h : step s c = some (t, out)) : held out + t.held ≤ s.held + 1 := by
  obtain ⟨mode, v⟩ := s
  cases mode with
  | bare => simpa [State.held] using held_bare h
  | comment =>
    rw [step] at h
    split at h
    · simpa [State.held] using held_bare h
    · cases h
      simp [State.held]
  | operator d =>
    rw [step] at h
    split at h
    · cases h
    · split at h
      · cases h
        simp [State.held, Token.held]
      · obtain ⟨⟨t, out⟩, hbare, hr⟩ := Option.map_eq_some_iff.mp h
        cases hr
        simpa [State.held, Token.held] using held_bare hbare
  | double => simpa [State.held] using held_double h
  | escape | single | doubleEscape | dollar quoted | name quoted cs =>
    rw [step] at h
    split_ifs at h <;> cases h <;> simp [State.held] <;> omega

/-- What is left at the end is in the tokens. -/
theorem held_finish (h : finish s = some ts) : held ts = s.held := by
  obtain ⟨mode, v⟩ := s
  cases mode <;> cases h <;> simp [State.held, Token.held]

/-- The words hold no more characters than the text has. -/
theorem held_readFrom (h : readFrom s cs = some ts) : held ts ≤ s.held + cs.length := by
  induction cs generalizing s ts with
  | nil => exact (held_finish h).le
  | cons c cs ih =>
    obtain ⟨t, out, rest, hstep, hread, rfl⟩ := readFrom_cons_eq_some.mp h
    have hout := held_step hstep
    have hin := ih hread
    rw [held_append, List.length_cons]
    omega

/-- If the words hold as many characters as the text has, then all of them stand for themselves. -/
theorem plain_of_readFrom (h : readFrom { word := v } cs = some ts)
    (hheld : held ts = (v.getD []).held + cs.length) :
    (∀ c ∈ cs, isPlain c = true) ∧ (v = none → cs.head? ≠ some '#') := by
  induction cs generalizing v ts with
  | nil => exact ⟨nofun, nofun⟩
  | cons c cs ih =>
    obtain ⟨t, out, rest, hstep, hread, rfl⟩ := readFrom_cons_eq_some.mp h
    have hin := held_readFrom hread
    rw [held_append, List.length_cons] at hheld
    rw [step, bare] at hstep
    split at hstep
    · next hplain =>
      split at hstep
      · next hcomment =>
        cases hstep
        simp [hcomment.2, State.held] at hheld hin
        omega
      · next hcomment =>
        cases hstep
        rw [held_nil, Nat.zero_add] at hheld
        have htail := ih hread (by rw [held_extended]; omega)
        refine ⟨List.forall_mem_cons.mpr ⟨hplain, htail.1⟩, fun hv hhead => ?_⟩
        exact hcomment ⟨Option.some_inj.mp hhead, hv⟩
    · have := held_special hstep
      omega

/-! ### Plain texts -/

/-- All characters of the text stand for themselves, and no comment begins with it. -/
def IsPlainText (s : String) : Prop :=
  (∀ c ∈ s.toList, isPlain c = true) ∧ s.toList.head? ≠ some '#'

instance (s : String) : Decidable (IsPlainText s) :=
  decidable_of_iff (s.toList.all isPlain = true ∧ s.toList.head? ≠ some '#')
    (by rw [IsPlainText, List.all_eq_true])

/-- Inside a word, and at its beginning if no comment begins there, plain characters are read as
they are. -/
theorem readFrom_of_plain {v : Option Word} (hplain : ∀ c ∈ cs, isPlain c = true)
    (hcomment : v = none → cs.head? ≠ some '#') (hne : cs ≠ []) :
    readFrom { word := v } cs = some [.word (v.getD [] ++ cs.map .char)] := by
  induction cs generalizing v with
  | nil => exact absurd rfl hne
  | cons c cs ih =>
    rw [List.forall_mem_cons] at hplain
    have hnot : ¬(c = '#' ∧ v = none) := fun h => hcomment h.2 (congrArg some h.1)
    have hstep : step { word := v } c = some ({ word := extended v (.char c) }, []) := by
      rw [step, bare, if_pos hplain.1, if_neg hnot]
    rw [readFrom_cons_eq_some]
    refine ⟨_, _, _, hstep, ?_, (List.nil_append _).symm⟩
    cases cs with
    | nil => rfl
    | cons d ds =>
      have hin : extended v (.char c) ≠ none := Option.some_ne_none _
      rw [ih hplain.2 (fun h => absurd h hin) (List.cons_ne_nil d ds)]
      simp [extended]

/-- **Plain texts.** The texts that the shell reads as one word which is the text. -/
theorem read_eq_literal_iff {s : String} (hne : s.toList ≠ []) :
    read s = some [.word (literal s)] ↔ IsPlainText s := by
  constructor
  · intro h
    have hheld : held [.word (literal s)] = s.toList.length := by
      rw [held_cons, held_nil, Token.held, held_literal, Nat.add_zero]
    have hplain := plain_of_readFrom h (by rw [hheld]; simp [Word.held])
    exact ⟨hplain.1, hplain.2 rfl⟩
  · rintro ⟨hplain, hcomment⟩
    exact readFrom_of_plain hplain (fun _ => hcomment) hne

/-! ### At the end of a line -/

/-- A suffix of a line holds no more than the line. -/
theorem held_lastOf_le (ts : List Token) : held (lastOf ts) ≤ held ts := by
  obtain ⟨front, hfront⟩ : lastOf ts <:+ ts := List.rtakeWhile_suffix _ _
  have hsum := congrArg held hfront
  rw [held_append] at hsum
  omega

/-- What follows the beginning of a line completes it by one word, if that word holds as many
characters as all that follows may hold: then there is nothing else, and no further line. -/
theorem lastOf_eq_literal_iff {line more : List Token} {s : String} (front : List Token)
    (hline : .newline ∉ line) (hheld : 0 < held line) (hmore : held more ≤ s.toList.length) :
    lastOf (front ++ .newline :: (line ++ more)) = line ++ [.word (literal s)] ↔
      more = [.word (literal s)] := by
  constructor
  · intro h
    by_cases hmem : .newline ∈ more
    · -- the last line would lie in `more`, which holds too little
      have hassoc : front ++ .newline :: (line ++ more) = (front ++ .newline :: line) ++ more := by
        simp
      rw [hassoc, lastOf_of_mem _ hmem] at h
      have hle := held_lastOf_le more
      rw [h, held_append, held_cons, held_nil, Token.held, held_literal] at hle
      omega
    · have hnone : .newline ∉ line ++ more := by simp [hline, hmem]
      rw [lastOf_of_notMem front hnone] at h
      exact List.append_cancel_left h
  · rintro rfl
    have hnone : Token.newline ∉ line ++ [.word (literal s)] := by simp [hline]
    exact lastOf_of_notMem front hnone

end SubpathCsi.Shell
