import Mathlib.Data.List.TakeDrop
import SubpathCsi.Ini
import SubpathCsi.Proofs.Keyed
import SubpathCsi.Proofs.Text.Blank

/-!
# INI files that are read back

A header opens its section, and an option line that follows it puts the value, without the blanks
around it, under its key, whatever else the value holds: the signs that separate or start other
lines mean nothing inside a value. A value without a percent sign refers to nothing and is looked up
as it is.

* `Ini.IsOptionName`: names that an option line gives back;
* `Ini.linesOf_append`: the lines of a text;
* `Ini.Progress.line_header`, `Ini.Progress.line_option`: what one line does;
* `Ini.parse_option`: a file of one section with one option;
* `Ini.File.value_of_notMem`: values without references.
-/

namespace SubpathCsi.Ini

/-! ### Lines -/

/-- The character ends no line. -/
def IsInLine (c : Char) : Prop := c ≠ '\n' ∧ c ≠ '\r'

instance (c : Char) : Decidable (IsInLine c) := inferInstanceAs (Decidable (_ ∧ _))

/-- What ends no line belongs to the line that is being read. -/
theorem linesOf_append {cs : List Char} (h : ∀ c ∈ cs, IsInLine c) (rest seen : List Char) :
    linesOf (cs ++ rest) seen = linesOf rest (cs.reverse ++ seen) := by
  induction cs generalizing seen with
  | nil => rfl
  | cons c cs ih =>
    obtain ⟨⟨hfeed, hreturn⟩, hcs⟩ := List.forall_mem_cons.mp h
    have hstep : linesOf (c :: (cs ++ rest)) seen = linesOf (cs ++ rest) (c :: seen) := by
      rw [linesOf]
      · exact fun _ heq _ => hreturn heq
      · exact hreturn
      · exact hfeed
    rw [List.cons_append, hstep, ih hcs, List.reverse_cons, List.append_assoc]
    rfl

/-- The first line of a text. -/
theorem linesOf_line {cs : List Char} (h : ∀ c ∈ cs, IsInLine c) (rest : List Char) :
    linesOf (cs ++ '\n' :: rest) [] = (cs ++ ['\n']) :: linesOf rest [] := by
  rw [linesOf_append h, List.append_nil, linesOf, List.reverse_cons, List.reverse_reverse]

/-- The last line of a text, which need not be ended. -/
theorem linesOf_last {cs ending : List Char} (h : ∀ c ∈ cs, IsInLine c) (hne : cs ≠ [])
    (hending : ending = [] ∨ ending = ['\n']) : linesOf (cs ++ ending) [] = [cs ++ ending] := by
  rcases hending with rfl | rfl
  · rw [linesOf_append h, List.append_nil, linesOf, if_neg (by simpa using hne),
      List.reverse_reverse, List.append_nil]
  · rw [linesOf_line h]
    rfl

/-! ### Steps -/

/-- A name that an option line gives back, in front of the sign and one blank. -/
structure IsOptionName (key : String) : Prop where
  /-- There is a name. -/
  ne_empty : key ≠ ""
  /-- It stands in one line, and no sign in it ends it. -/
  inLine : ∀ c ∈ key.toList, IsInLine c ∧ c ≠ '=' ∧ c ≠ ':'
  /-- It begins neither a comment nor a header. -/
  start : ∀ c ∈ key.toList.head?, c ≠ '#' ∧ c ≠ ';' ∧ c ≠ '['
  /-- It has no blanks around it. -/
  trimmed : Text.IsTrimmed key.toList
  /-- It is in lower case. -/
  lower : Text.lower key = key

instance (key : String) : Decidable (IsOptionName key) :=
  decidable_of_iff (key ≠ "" ∧
      key.toList.all (fun c => decide (IsInLine c ∧ c ≠ '=' ∧ c ≠ ':')) = true ∧
      key.toList.head?.all (fun c => decide (c ≠ '#' ∧ c ≠ ';' ∧ c ≠ '[')) = true ∧
      Text.IsTrimmed key.toList ∧ Text.lower key = key) <| by
    simp only [List.all_eq_true, Option.all_eq_true, decide_eq_true_eq]
    exact ⟨fun ⟨hne, hline, hstart, htrim, hlower⟩ => ⟨hne, hline, hstart, htrim, hlower⟩,
      fun h => ⟨h.ne_empty, h.inLine, h.start, h.trimmed, h.lower⟩⟩

/-- A line that begins a header or an option, while no option is open. -/
theorem Progress.line_of_trim {p : Progress} {number : Nat} {line more : List Char} {c : Char}
    (hoption : p.option = none) (htrim : Text.trim line = c :: more) (hcomment : c ≠ '#' ∧ c ≠ ';')
    (hline : line.head? = some c) :
    p.line number line = { p with indent := 0 }.header number line (c :: more) := by
  have hblank : Text.isBlank c = false := by
    have htrimmed := Text.isTrimmed_trim line
    rw [htrim] at htrimmed
    exact htrimmed.head c rfl
  have hdepth : (line.takeWhile Text.isBlank).length = 0 := by
    cases line with
    | nil => rfl
    | cons d line =>
      cases hline
      rw [List.takeWhile_cons, hblank]
      rfl
  unfold Progress.line
  simp only [htrim, hoption, Option.filter_none, ite_self, hdepth]
  split
  · next heq => cases heq
  · next heq => cases heq; exact absurd rfl hcomment.1
  · next heq => cases heq; exact absurd rfl hcomment.2
  · rfl

/-- What a header does. -/
theorem Progress.line_header {p : Progress} (number : Nat) {name : String}
    (hoption : p.option = none) (hne : name ≠ "") (hdefault : name ≠ defaultName)
    (hfresh : Keyed.has p.parts name = false) :
    p.line number ('[' :: name.toList ++ [']', '\n']) =
      .ok { p with parts := Keyed.put p.parts name [], current := some name, option := none,
                   indent := 0 } := by
  have htrim : Text.trim ('[' :: name.toList ++ [']', '\n']) = '[' :: (name.toList ++ [']']) := by
    have hbrackets : Text.IsTrimmed (['['] ++ name.toList ++ [']']) :=
      Text.isTrimmed_append (by decide) (by decide) (by decide) (by decide) name.toList
    have hend : '[' :: name.toList ++ [']', '\n'] = ['['] ++ name.toList ++ [']'] ++ ['\n'] := by
      simp
    rw [hend, Text.trim_append_of_isBlank (List.forall_mem_singleton.mpr rfl),
      Text.trim_eq_self hbrackets]
    rfl
  have hheader : headerName? ('[' :: (name.toList ++ [']'])) = some name := by
    obtain ⟨c, more, hreverse⟩ : ∃ c more, name.toList.reverse = c :: more :=
      List.exists_cons_of_ne_nil (by simpa using hne)
    have hname : String.ofList (c :: more).reverse = name := by
      rw [← hreverse, List.reverse_reverse, String.ofList_toList]
    simp [headerName?, ← hname]
  rw [line_of_trim hoption htrim (by decide) rfl, Progress.header, hheader]
  simp [hdefault, hfresh]

/-- The name of an option and what follows the first sign. -/
theorem optionLine?_eq {key : String} (hkey : IsOptionName key) (back : List Char) :
    optionLine? (key.toList ++ [' ', '='] ++ back) =
      some (key, String.ofList (Text.trim back)) := by
  have hfront : ∀ c ∈ key.toList ++ [' '], (c ≠ '=' && c ≠ ':') = true := by
    intro c hc
    rcases List.mem_append.mp hc with hc | hc
    · simpa using (hkey.inLine c hc).2
    · obtain rfl : c = ' ' := by simpa using hc
      rfl
  have hspan : (key.toList ++ [' ', '='] ++ back).span (fun c => c ≠ '=' && c ≠ ':') =
      (key.toList ++ [' '], '=' :: back) := by
    have hsplit : key.toList ++ [' ', '='] ++ back = key.toList ++ [' '] ++ '=' :: back := by simp
    rw [hsplit, List.span_eq_takeWhile_dropWhile, List.takeWhile_append_of_pos hfront,
      List.dropWhile_append_of_pos hfront]
    simp
  have hname : Text.trimEnd (key.toList ++ [' ']) = key.toList := by
    rw [Text.trimEnd_append hkey.trimmed.last]
    exact List.append_nil _
  rw [optionLine?, hspan]
  dsimp only
  rw [hname, String.ofList_toList]

/-- An option that is new to its section is put there. -/
theorem Progress.header_option {p : Progress} {number : Nat} {line value : List Char}
    {name key text : String} (hname : p.current = some name) (hheader : headerName? value = none)
    (hoption : optionLine? value = some (key, text)) (hkey : IsOptionName key)
    (hfresh : (name, key) ∉ p.given) :
    p.header number line value =
      .ok ({ p with given := (name, key) :: p.given, option := some key }.setOptions
        (Keyed.put p.options key [text])) := by
  have hempty : key.isEmpty = false := by simpa using hkey.ne_empty
  have hgiven : p.given.contains (name, key) = false := by simpa using hfresh
  rw [Progress.header, hheader]
  simp only [hname, hoption, hempty, Bool.false_eq_true, if_false, hkey.lower, hgiven,
    Progress.options]

/-- What an option line does, whatever its value holds. -/
theorem Progress.line_option {p : Progress} (number : Nat) {name key : String} (value : String)
    {ending : List Char} (hoption : p.option = none) (hname : p.current = some name)
    (hkey : IsOptionName key) (hfresh : (name, key) ∉ p.given)
    (hending : ∀ b ∈ ending, Text.isBlank b = true) :
    p.line number (key.toList ++ [' ', '='] ++ (' ' :: value.toList ++ ending)) =
      .ok ({ p with indent := 0, given := (name, key) :: p.given, option := some key }.setOptions
        (Keyed.put p.options key [trimmed value])) := by
  obtain ⟨c, more, hcons⟩ : ∃ c more, key.toList = c :: more :=
    List.exists_cons_of_ne_nil (by simpa using hkey.ne_empty)
  have hstart : c ≠ '#' ∧ c ≠ ';' ∧ c ≠ '[' := hkey.start c (by rw [hcons]; rfl)
  -- the sign keeps what stands before it from being trimmed
  have htrim : Text.trim (key.toList ++ [' ', '='] ++ (' ' :: value.toList ++ ending)) =
      key.toList ++ [' ', '='] ++ Text.trimEnd (' ' :: value.toList ++ ending) := by
    have hhead : ∀ d ∈ (key.toList ++ [' ', '='] ++ (' ' :: value.toList ++ ending)).head?,
        Text.isBlank d = false := by
      intro d hd
      refine hkey.trimmed.head d ?_
      rwa [hcons] at hd ⊢
    have hlast : ∀ d ∈ (key.toList ++ [' ', '=']).getLast?, Text.isBlank d = false := by
      intro d hd
      obtain rfl : '=' = d := by simpa using hd
      rfl
    rw [Text.trim, Text.trimStart, Text.dropWhile_isBlank_eq_self hhead, Text.trimEnd_append hlast]
  have hvalue : Text.trim (Text.trimEnd (' ' :: value.toList ++ ending)) =
      Text.trim value.toList := by
    have hblank : ∀ b ∈ [' '], Text.isBlank b = true := List.forall_mem_singleton.mpr rfl
    rw [Text.trim_trimEnd, Text.trim_append_of_isBlank hending]
    exact congrArg Text.trimEnd (Text.trimStart_append_of_isBlank hblank)
  have hline := optionLine?_eq hkey (Text.trimEnd (' ' :: value.toList ++ ending))
  rw [hvalue, ← trimmed] at hline
  rw [hcons] at htrim hline ⊢
  have hheader : ∀ cs, headerName? (c :: cs) = none := by
    intro cs
    rw [headerName?]
    exact fun _ heq => hstart.2.2 (List.cons.inj heq).1
  rw [line_of_trim hoption htrim ⟨hstart.1, hstart.2.1⟩ rfl]
  exact header_option hname (hheader _) hline hkey hfresh

/-! ### Files -/

theorem joinLines_trimmed (s : String) : joinLines [trimmed s] = trimmed s := by
  have hjoined : (joined "\n" [trimmed s]).toList = Text.trim s.toList := by
    rw [joined, trimmed, String.toList_ofList]
    exact String.toList_ofList
  rw [joinLines, hjoined, Text.trimEnd_eq_self (Text.isTrimmed_trim _).last, trimmed]

/-- **Reading back.** A file of one section with one option is read as it is meant, with any value
that stands in one line. The last line need not be ended. -/
theorem parse_option {name key value ending : String} (hne : name ≠ "")
    (hdefault : name ≠ defaultName) (hname : ∀ c ∈ name.toList, IsInLine c)
    (hkey : IsOptionName key) (hvalue : ∀ c ∈ value.toList, IsInLine c)
    (hending : ending = "" ∨ ending = "\n") :
    parse ("[" ++ name ++ "]\n" ++ key ++ " = " ++ value ++ ending) =
      .ok ⟨[], [(name, [(key, trimmed value)])]⟩ := by
  have hheader : ∀ c ∈ '[' :: name.toList ++ [']'], IsInLine c := by
    simp only [List.forall_mem_append, List.forall_mem_cons]
    exact ⟨⟨by decide, hname⟩, by decide, nofun⟩
  have hoption : ∀ c ∈ key.toList ++ [' ', '='] ++ (' ' :: value.toList), IsInLine c := by
    simp only [List.forall_mem_append, List.forall_mem_cons]
    exact ⟨⟨fun c hc => (hkey.inLine c hc).1, by decide, by decide, nofun⟩, by decide, hvalue⟩
  have hending : ending.toList = [] ∨ ending.toList = ['\n'] := by
    rcases hending with rfl | rfl
    · exact .inl rfl
    · exact .inr rfl
  have hlines : linesOf ("[" ++ name ++ "]\n" ++ key ++ " = " ++ value ++ ending).toList [] =
      ['[' :: name.toList ++ [']', '\n'],
        key.toList ++ [' ', '='] ++ (' ' :: value.toList ++ ending.toList)] := by
    have hchars : ("[" ++ name ++ "]\n" ++ key ++ " = " ++ value ++ ending).toList =
        ('[' :: name.toList ++ [']']) ++ '\n' ::
          (key.toList ++ [' ', '='] ++ (' ' :: value.toList) ++ ending.toList) := by
      simp
    rw [hchars, linesOf_line hheader, linesOf_last hoption (by simp) hending]
    simp
  have hblank : ∀ b ∈ ending.toList, Text.isBlank b = true := by
    rcases hending with h | h
    · rw [h]
      exact nofun
    · rw [h]
      exact List.forall_mem_singleton.mpr rfl
  have hread : Progress.readLines {} 1 (linesOf
      ("[" ++ name ++ "]\n" ++ key ++ " = " ++ value ++ ending).toList []) =
      .ok { parts := [(name, [(key, [trimmed value])])], current := some name, option := some key,
            given := [(name, key)] } := by
    rw [hlines, Progress.readLines, Progress.line_header 1 rfl hne hdefault rfl]
    change Progress.readLines _ 2 [_] = _
    rw [Progress.readLines, Progress.line_option 2 value rfl rfl hkey (List.not_mem_nil) hblank]
    simp [Progress.setOptions, Progress.options, hdefault, Keyed.put, Keyed.get?_cons,
      Progress.readLines, bind, Except.bind]
  rw [parse, hread]
  change Except.ok _ = _
  simp [joinLines_trimmed]

/-! ### Values -/

/-- A text without a percent sign refers to nothing. -/
theorem expand_of_notMem {visible : Keyed String} {option name raw : String} {cs : List Char}
    (h : '%' ∉ cs) {fuel : Nat} (hfuel : cs.length ≤ fuel) (depth : Nat) :
    expand visible option name raw fuel depth cs = .ok cs := by
  induction cs generalizing fuel with
  | nil => cases fuel <;> rfl
  | cons c cs ih =>
    obtain ⟨fuel, rfl⟩ : ∃ n, fuel = n + 1 := ⟨fuel - 1, by simp at hfuel; omega⟩
    rw [List.mem_cons, not_or] at h
    rw [expand, ih h.2 (by simpa using hfuel)]
    · rfl
    · exact fun heq => h.1 heq.symm

/-- A value without references is looked up as it is. -/
theorem File.value_of_notMem {f : File} {name option raw : String}
    (hname : Keyed.has f.parts name = true)
    (hoption : Keyed.get? (f.visible name) option = some raw) (h : '%' ∉ raw.toList) :
    f.value name option = .ok (some raw) := by
  have hfuel : raw.toList.length ≤ expansionFuel (f.visible name) raw := by
    rw [expansionFuel, String.length_toList]
    omega
  rw [File.value]
  simp only [hname, if_true, hoption, expand_of_notMem h hfuel]
  exact congrArg (fun s => Except.ok (some s)) String.ofList_toList

/-- What a file of one section with one option holds. -/
theorem File.value_option {name key raw : String} (h : '%' ∉ raw.toList) (option : String) :
    File.value ⟨[], [(name, [(key, raw)])]⟩ name option =
      .ok (if key = option then some raw else none) := by
  have hparts : Keyed.get? [(name, [(key, raw)])] name = some [(key, raw)] := by
    rw [Keyed.get?_cons, if_pos rfl]
  have hvisible : File.visible ⟨[], [(name, [(key, raw)])]⟩ name = [(key, raw)] := by
    rw [File.visible, hparts]
    rfl
  have hhas : Keyed.has [(name, [(key, raw)])] name = true := by
    rw [Keyed.has, hparts]
    rfl
  split
  · next heq =>
    refine File.value_of_notMem hhas ?_ h
    rw [hvisible, Keyed.get?_cons, if_pos heq]
  · next hne =>
    rw [File.value]
    simp only [hhas, if_true, hvisible, Keyed.get?_cons, if_neg hne, Keyed.get?_nil]

end SubpathCsi.Ini
