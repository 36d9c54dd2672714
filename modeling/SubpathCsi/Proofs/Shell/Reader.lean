import Mathlib.Data.List.DropRight
import SubpathCsi.Text.Split

/-!
# Reading command lines

A shell cuts a command line into tokens: words, operators and ends of lines. What stands in a word
is found out on the way, for quotes are removed and parameters are noted for their values to be put
in. The reader goes through a text character by character; between two characters it knows where it
stands, in quotes or out of them, and the word that it is in, if it is in one.

The reader keeps to what a mounting script needs. Of the expansions it follows `${name}` alone, and
it follows no here-document: a text with any other has no reading, nor has one that ends inside
quotes. The number that may stand before a redirection is left as a word.

* `Shell.read`, `Shell.lastLine`: the tokens of a text, and those of its last line;
* `Shell.Steps`: what the reader makes of a part of a text, whatever follows;
* `Shell.ReadsWord`: a part of a text that is one word, or goes on with one;
* `Shell.steps_joined`, `Shell.read_joined`: words with blanks between them.
-/

namespace SubpathCsi.Shell

/-! ### Tokens -/

/-- A part of a word. -/
inductive Piece where
  /-- A character that stands for itself. -/
  | char (c : Char)
  /-- The value of a parameter. Between double quotes it stays in one piece. -/
  | param (quoted : Bool) (name : String)
  deriving DecidableEq, Repr

/-- A word without its quotes. -/
abbrev Word := List Piece

/-- The word that is just a text. -/
def literal (s : String) : Word := s.toList.map .char

/-- A token of a command line. -/
inductive Token where
  /-- A word. -/
  | word (w : Word)
  /-- An operator between commands, or one for the redirection of a file. -/
  | operator (text : String)
  /-- The end of a line. -/
  | newline
  deriving DecidableEq, Repr

/-! ### Characters -/

/-- The characters that mean something to the shell wherever they stand outside quotes. -/
def specials : List Char := " \t\n'\"\\$`&;|<>()".toList

/-- Outside quotes, the character stands for itself. -/
def isPlain (c : Char) : Bool := !specials.contains c

theorem isPlain_iff {c : Char} : isPlain c = true ↔ c ∉ specials := by
  rw [isPlain, Bool.not_eq_true', ← Bool.not_eq_true, List.contains_iff_mem]

/-- The character may stand in the name of a parameter. -/
def isNameChar (c : Char) : Bool := c.isAlphanum || c = '_'

/-- The text is the name of a parameter. -/
def isName : List Char → Bool
  | [] => false
  | c :: cs => isNameChar c && !c.isDigit && cs.all isNameChar

/-- The operators of two characters, except for the one before a here-document. -/
def longOperators : List (List Char) :=
  ["&&", "||", ";;", ";&", ">>", "<&", ">&", "<>", ">|"].map String.toList

/-! ### The reader -/

/-- Where the reader stands. -/
inductive Mode where
  /-- Outside quotes. -/
  | bare
  /-- In a comment. -/
  | comment
  /-- After the first character of an operator. -/
  | operator (c : Char)
  /-- After a backslash outside quotes. -/
  | escape
  /-- Between single quotes. -/
  | single
  /-- Between double quotes. -/
  | double
  /-- After a backslash between double quotes. -/
  | doubleEscape
  /-- After a dollar sign, between double quotes or not. -/
  | dollar (quoted : Bool)
  /-- In the name of a parameter. -/
  | name (quoted : Bool) (cs : List Char)
  deriving DecidableEq, Repr

/-- What the reader knows between two characters. -/
structure State where
  /-- Where it stands. -/
  mode : Mode := .bare
  /-- The word that it is in. -/
  word : Option Word := none
  deriving DecidableEq, Repr

/-- The word that has come to its end, if there was one. -/
def ended (w : Option Word) : List Token := (w.map Token.word).toList

/-- The word goes on with a piece, or begins with it. -/
def extended (w : Option Word) (p : Piece) : Option Word := some (w.getD [] ++ [p])

/-- Reads a character that does not stand for itself outside quotes. -/
def special (w : Option Word) (c : Char) : Option (State × List Token) :=
  match c with
  | ' ' | '\t' => some ({}, ended w)
  | '\n' => some ({}, ended w ++ [.newline])
  | '\'' => some ({ mode := .single, word := some (w.getD []) }, [])
  | '"' => some ({ mode := .double, word := some (w.getD []) }, [])
  | '\\' => some ({ mode := .escape, word := w }, [])
  | '$' => some ({ mode := .dollar false, word := w }, [])
  | '\x60' => none
  | _ => some ({ mode := .operator c }, ended w)

/-- Reads a character outside quotes. A comment begins where a word would begin. -/
def bare (w : Option Word) (c : Char) : Option (State × List Token) :=
  if isPlain c then
    if c = '#' ∧ w = none then some ({ mode := .comment }, [])
    else some ({ word := extended w (.char c) }, [])
  else special w c

/-- Reads a character between double quotes. -/
def double (w : Option Word) (c : Char) : Option (State × List Token) :=
  match c with
  | '"' => some ({ word := w }, [])
  | '\\' => some ({ mode := .doubleEscape, word := w }, [])
  | '$' => some ({ mode := .dollar true, word := w }, [])
  | '\x60' => none
  | _ => some ({ mode := .double, word := extended w (.char c) }, [])

/-- Reads a character: where the reader stands then, and the tokens that have come to their end. -/
def step : State → Char → Option (State × List Token)
  | ⟨.bare, w⟩, c => bare w c
  | ⟨.comment, w⟩, c => if c = '\n' then bare w c else some (⟨.comment, w⟩, [])
  | ⟨.operator d, w⟩, c =>
    if c = '<' ∧ d = '<' then none
    else if [d, c] ∈ longOperators then some (⟨.bare, w⟩, [.operator (String.ofList [d, c])])
    else (bare w c).map fun r => (r.1, .operator (String.ofList [d]) :: r.2)
  | ⟨.escape, w⟩, c =>
    if c = '\n' then some (⟨.bare, w⟩, []) else some (⟨.bare, extended w (.char c)⟩, [])
  | ⟨.single, w⟩, c =>
    if c = '\'' then some (⟨.bare, w⟩, []) else some (⟨.single, extended w (.char c)⟩, [])
  | ⟨.double, w⟩, c => double w c
  | ⟨.doubleEscape, w⟩, c =>
    if c = '\n' then some (⟨.double, w⟩, [])
    else if c ∈ "$`\"\\".toList then some (⟨.double, extended w (.char c)⟩, [])
    else some (⟨.double, extended (extended w (.char '\\')) (.char c)⟩, [])
  | ⟨.dollar quoted, w⟩, c => if c = '\x7b' then some (⟨.name quoted [], w⟩, []) else none
  | ⟨.name quoted cs, w⟩, c =>
    if c = '\x7d' then
      if isName cs then
        some (⟨if quoted then .double else .bare,
          extended w (.param quoted (String.ofList cs))⟩, [])
      else none
    else some (⟨.name quoted (cs ++ [c]), w⟩, [])

/-- The tokens that come to their end with the text. -/
def finish : State → Option (List Token)
  | ⟨.bare, w⟩ | ⟨.comment, w⟩ => some (ended w)
  | ⟨.operator c, w⟩ => some (.operator (String.ofList [c]) :: ended w)
  | _ => none

/-- Reads a text on. -/
def readFrom (s : State) : List Char → Option (List Token)
  | [] => finish s
  | c :: cs => (step s c).bind fun r => (readFrom r.1 cs).map (r.2 ++ ·)

/-- The tokens of a text. -/
def read (text : String) : Option (List Token) := readFrom {} text.toList

/-- The tokens after the last end of a line. -/
def lastOf (ts : List Token) : List Token := ts.rtakeWhile (· ≠ .newline)

/-- The tokens of the last line of a text. -/
def lastLine (text : String) : Option (List Token) := (read text).map lastOf

example : lastLine "cd 'a b'\nrm $\x7bdir\x7d/x>>\"log\" # gone" =
    some [.word (literal "rm"), .word (.param false "dir" :: literal "/x"), .operator ">>",
      .word (literal "log")] := by
  decide +kernel

/-! ### Parts of a text -/

/-- From `s`, the reader comes to `t` by the part `cs` of a text, and meanwhile tokens come to their
end. -/
def Steps (s : State) (cs : List Char) (out : List Token) (t : State) : Prop :=
  ∀ rest, readFrom s (cs ++ rest) = (readFrom t rest).map (out ++ ·)

variable {s t u : State} {a b cs : List Char} {out out' : List Token} {c : Char}

/-- The reading of a character and of what follows it. -/
theorem readFrom_cons_eq_some {ts : List Token} :
    readFrom s (c :: cs) = some ts ↔
      ∃ t out rest, step s c = some (t, out) ∧ readFrom t cs = some rest ∧ ts = out ++ rest := by
  rw [readFrom, Option.bind_eq_some_iff]
  constructor
  · rintro ⟨⟨t, out⟩, hstep, h⟩
    obtain ⟨rest, hrest, rfl⟩ := Option.map_eq_some_iff.mp h
    exact ⟨t, out, rest, hstep, hrest, rfl⟩
  · rintro ⟨t, out, rest, hstep, hrest, rfl⟩
    exact ⟨(t, out), hstep, Option.map_eq_some_iff.mpr ⟨rest, hrest, rfl⟩⟩

theorem Steps.refl (s : State) : Steps s [] [] s := fun rest => by
  have hid : (([] : List Token) ++ ·) = id := funext List.nil_append
  rw [List.nil_append, hid, Option.map_id_apply]

theorem Steps.trans (hab : Steps s a out t) (hbc : Steps t b out' u) :
    Steps s (a ++ b) (out ++ out') u := fun rest => by
  have happ : (out ++ ·) ∘ (out' ++ ·) = (out ++ out' ++ ·) :=
    funext fun ts => (List.append_assoc out out' ts).symm
  rw [List.append_assoc, hab, hbc, Option.map_map, happ]

/-- One character is one step. -/
theorem Steps.of_step (h : step s c = some (t, out)) : Steps s [c] out t := fun rest => by
  rw [List.singleton_append, readFrom, h, Option.bind_some]

/-- A step by which no token ends, and those after it. -/
theorem Steps.cons (h : step s c = some (t, [])) (hcs : Steps t cs out u) :
    Steps s (c :: cs) out u := (Steps.of_step h).trans hcs

/-! ### Words -/

/-- The part of a text is a word without its quotes, or goes on with the one that the reader is
in. -/
def ReadsWord (cs : List Char) (w : Word) : Prop :=
  ∀ v, Steps { word := v } cs [] { word := some (v.getD [] ++ w) }

variable {v w : Word}

theorem ReadsWord.append (ha : ReadsWord a v) (hb : ReadsWord b w) :
    ReadsWord (a ++ b) (v ++ w) := fun x => by
  have h := (ha x).trans (hb _)
  rwa [Option.getD_some, List.append_assoc] at h

theorem ReadsWord.steps (h : ReadsWord cs w) : Steps {} cs [] { word := some w } := h none

/-- A character that stands for itself, if no comment begins with it. -/
theorem readsWord_char (hc : isPlain c = true) (hcomment : c ≠ '#') :
    ReadsWord [c] [.char c] := fun x => by
  refine .of_step ?_
  rw [step, bare, if_pos hc, if_neg fun h => hcomment h.1]
  rfl

/-- A blank ends a word. -/
theorem steps_blank (w : Word) : Steps { word := some w } [' '] [.word w] {} := .of_step rfl

/-- So does the end of the line. -/
theorem steps_newline (w : Word) : Steps { word := some w } ['\n'] [.word w, .newline] {} :=
  .of_step rfl

theorem ReadsWord.blank (h : ReadsWord cs w) : Steps {} (cs ++ [' ']) [.word w] {} :=
  h.steps.trans (steps_blank w)

/-- Texts of words with a blank between each two: the reader is left in the last of them. -/
theorem exists_steps_joined {parts : List String} {ws : List Word} (hparts : parts ≠ [])
    (h : List.Forall₂ (fun p w => ReadsWord p.toList w) parts ws) :
    ∃ front last, ws = front ++ [last] ∧
      Steps {} (joined " " parts).toList (front.map Token.word) { word := some last } := by
  induction h with
  | nil => exact absurd rfl hparts
  | @cons p w ps ws hp hps ih =>
    cases hps with
    | nil =>
      have hone : (joined " " [p]).toList = p.toList := by simp [joined, Text.join]
      refine ⟨[], w, rfl, ?_⟩
      rw [hone]
      exact hp.steps
    | @cons q w' qs ws' hq hqs =>
      have hjoin : (joined " " (p :: q :: qs)).toList =
          p.toList ++ [' '] ++ (joined " " (q :: qs)).toList := by
        simp [joined, Text.join]
      obtain ⟨front, last, hws, hsteps⟩ := ih (List.cons_ne_nil q qs)
      refine ⟨w :: front, last, congrArg (w :: ·) hws, ?_⟩
      rw [hjoin]
      exact hp.blank.trans hsteps

/-- **A line.** Texts of words with a blank between each two, up to the end of the line. -/
theorem steps_joined {parts : List String} {ws : List Word} (hparts : parts ≠ [])
    (h : List.Forall₂ (fun p w => ReadsWord p.toList w) parts ws) :
    Steps {} ((joined " " parts).toList ++ ['\n']) (ws.map Token.word ++ [.newline]) {} := by
  obtain ⟨front, last, rfl, hsteps⟩ := exists_steps_joined hparts h
  have hline := hsteps.trans (steps_newline last)
  rw [List.map_append, List.append_assoc]
  exact hline

/-- A line that ends with the text. -/
theorem read_joined {parts : List String} {ws : List Word} (hparts : parts ≠ [])
    (h : List.Forall₂ (fun p w => ReadsWord p.toList w) parts ws) :
    read (joined " " parts) = some (ws.map Token.word) := by
  obtain ⟨front, last, rfl, hsteps⟩ := exists_steps_joined hparts h
  have hread := hsteps []
  rw [List.append_nil] at hread
  rw [read, hread, List.map_append]
  rfl

/-- Texts of words with a blank after each. -/
theorem steps_blanks {parts : List String} {ws : List Word}
    (h : List.Forall₂ (fun p w => ReadsWord p.toList w) parts ws) :
    Steps {} (parts.flatMap fun p => p.toList ++ [' ']) (ws.map Token.word) {} := by
  induction h with
  | nil => exact .refl _
  | cons hp _ ih => exact hp.blank.trans ih

/-- The shell reads these words at the beginning of a text, whatever may come after them. -/
def Begins (text : String) (words : List String) : Prop :=
  ∃ front rest, text = front ++ rest ∧ ∀ rest', read (front ++ rest') =
    (read rest').map (words.map (fun word => Token.word (literal word)) ++ ·)

theorem begins_of_readsWord {text : String} {words : List String} (parts : List String)
    (rest : List Char)
    (htext : text.toList = (parts.flatMap fun p => p.toList ++ [' ']) ++ rest)
    (h : List.Forall₂ (fun p w => ReadsWord p.toList w) parts (words.map literal)) :
    Begins text words := by
  refine ⟨.ofList (parts.flatMap fun p => p.toList ++ [' ']), .ofList rest, ?_, fun rest' => ?_⟩
  · rw [← String.ofList_append, ← htext, String.ofList_toList]
  · have hsteps := steps_blanks h rest'.toList
    rw [List.map_map] at hsteps
    rw [read, String.toList_append, String.toList_ofList, hsteps]
    rfl

/-! ### Lines -/

/-- Lines that are read to their ends, one after another. -/
theorem steps_lines {lines : List String} (hlines : lines ≠ [])
    (h : ∀ l ∈ lines, ∃ ts, Steps {} (l.toList ++ ['\n']) (ts ++ [.newline]) {}) :
    ∃ ts, Steps {} (lines.flatMap fun l => l.toList ++ ['\n']) (ts ++ [.newline]) {} := by
  induction lines with
  | nil => exact absurd rfl hlines
  | cons l ls ih =>
    rw [List.forall_mem_cons] at h
    obtain ⟨ts, hl⟩ := h.1
    cases ls with
    | nil =>
      rw [List.flatMap_singleton]
      exact ⟨ts, hl⟩
    | cons m ms =>
      obtain ⟨us, hls⟩ := ih (List.cons_ne_nil m ms) h.2
      refine ⟨ts ++ [.newline] ++ us, ?_⟩
      rw [List.append_assoc _ us]
      exact hl.trans hls

theorem toList_joined_lines (lines : List String) (last : String) :
    (joined "\n" (lines ++ [last])).toList =
      (lines.flatMap fun l => l.toList ++ ['\n']) ++ last.toList := by
  induction lines with
  | nil => simp [joined, Text.join]
  | cons l ls ih =>
    have hne : ls ++ [last] ≠ [] := List.append_ne_nil_of_right_ne_nil ls (List.cons_ne_nil _ _)
    obtain ⟨m, ms, hls⟩ := List.exists_cons_of_ne_nil hne
    rw [List.cons_append, List.flatMap_cons, List.append_assoc, ← ih, hls]
    simp [joined, Text.join]

theorem lastOf_of_notMem {line : List Token} (front : List Token) (h : .newline ∉ line) :
    lastOf (front ++ .newline :: line) = line := by
  have hline : ∀ t ∈ line.reverse, decide (t ≠ .newline) = true := fun t ht =>
    decide_eq_true fun he => h (he ▸ List.mem_reverse.mp ht)
  rw [lastOf, List.rtakeWhile, List.reverse_append, List.reverse_cons, List.append_assoc,
    List.takeWhile_append_of_pos hline]
  simp

/-- The last line does not depend on what is before an end of a line. -/
theorem lastOf_of_mem {back : List Token} (front : List Token) (h : .newline ∈ back) :
    lastOf (front ++ back) = lastOf back := by
  have hstop : (back.reverse.takeWhile fun t => decide (t ≠ .newline)).length ≠
      back.reverse.length := fun hlength => by
    have hwhole := (List.takeWhile_prefix _).eq_of_length hlength
    have hall := List.takeWhile_eq_self_iff.mp hwhole
    exact of_decide_eq_true (hall _ (List.mem_reverse.mpr h)) rfl
  rw [lastOf, lastOf, List.rtakeWhile, List.rtakeWhile, List.reverse_append,
    List.takeWhile_append, if_neg hstop]

end SubpathCsi.Shell
