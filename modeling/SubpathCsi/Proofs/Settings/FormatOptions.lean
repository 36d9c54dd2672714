import SubpathCsi.Proofs.Json.Shape
import SubpathCsi.Proofs.Shell.Flags
import SubpathCsi.Proofs.Text.Blank
import SubpathCsi.Proofs.Text.Split

/-!
# Format options, from a text to arguments

Keys and values are written with equals signs between them and commas between the options, and come
back from that text as they were: a value may hold further equals signs, and blanks inside. As flags
of a command they go through the shell, which gives the program one argument for each option. There
the key and the value are quoted one by one, and still they are one word.

* `FormatOptions.written`, `FormatOptions.IsClean`: an option as it is written, and the options that
  can be;
* `FormatOptions.parse_joined`: options come back from the text;
* `FormatOptions.read_flags`: the words of the flags;
* `FormatOptions.parse_joined_and_read_flags`: both together.
-/

namespace SubpathCsi

namespace FormatOptions

variable {option : String × String} {options : List (String × String)}

/-- An option as it is written: the key, and the value after an equals sign if there is one. -/
def written (option : String × String) : String :=
  if option.2.isEmpty then option.1 else option.1 ++ "=" ++ option.2

/-- Nothing in the option is lost when it is written among others: it has a key, key and value are
without commas and without blanks around them, and the key is without equals signs. -/
structure IsClean (option : String × String) : Prop where
  /-- The key is not empty. -/
  key_ne_empty : option.1 ≠ ""
  /-- There are no blanks around the key. -/
  key_trimmed : Text.IsTrimmed option.1.toList
  /-- The key does not end the option. -/
  key_comma : ',' ∉ option.1.toList
  /-- The key does not begin the value. -/
  key_equals : '=' ∉ option.1.toList
  /-- There are no blanks around the value. -/
  value_trimmed : Text.IsTrimmed option.2.toList
  /-- The value does not end the option. -/
  value_comma : ',' ∉ option.2.toList

/-! ### Options in a text -/

theorem IsClean.comma_notMem (h : IsClean option) : ',' ∉ (written option).toList := by
  rw [written]
  split
  · exact h.key_comma
  · simp [h.key_comma, h.value_comma]

/-- One option comes back from its text. -/
theorem option?_written (whole : String) (h : IsClean option) :
    option? whole (written option).toList = .ok (some option) := by
  obtain ⟨key, value⟩ := option
  have hkey : key.toList ≠ [] := mt String.toList_eq_nil_iff.mp h.key_ne_empty
  rw [written]
  split
  · next hempty =>
    cases String.isEmpty_iff.mp hempty
    simp [option?, Text.trim_eq_self h.key_trimmed, Text.cutFirst?_of_notMem h.key_equals, hkey]
  · next hvalue =>
    have hne : value.toList ≠ [] :=
      mt String.toList_eq_nil_iff.mp (mt String.isEmpty_iff.mpr hvalue)
    have htext : (key ++ "=" ++ value).toList = key.toList ++ '=' :: value.toList := by simp
    have htrimmed : Text.trim (key.toList ++ '=' :: value.toList) =
        key.toList ++ '=' :: value.toList := by
      have h := Text.isTrimmed_append h.key_trimmed h.value_trimmed hkey hne ['=']
      rw [List.append_assoc] at h
      exact Text.trim_eq_self h
    obtain ⟨v, vs, hcons⟩ := List.exists_cons_of_ne_nil hne
    rw [htext, option?, htrimmed, Text.cutFirst?_append h.key_equals, hcons]
    dsimp only
    rw [← hcons, Text.trim_eq_self h.key_trimmed, Text.trim_eq_self h.value_trimmed]
    simp [hkey]

/-- The text of options that are clean comes apart into these. -/
theorem splitAt_joined (hne : options ≠ []) (h : ∀ o ∈ options, IsClean o) :
    Text.splitAt ',' (joined "," (options.map written)).toList =
      options.map fun o => (written o).toList := by
  have hparts : (options.map written).map String.toList ≠ [] := by simpa using hne
  have hwhole : ∀ o ∈ options, Text.splitAt ',' (written o).toList = [(written o).toList] :=
    fun o ho => Text.splitAt_of_notMem (h o ho).comma_notMem
  rw [joined, String.toList_ofList]
  refine (Text.splitAt_join hparts).trans ?_
  rw [List.flatMap_map, List.flatMap_map, List.map_eq_flatMap]
  exact List.flatMap_congr hwhole

/-- **Round trip.** Options come back from their text. -/
theorem parse_joined (h : ∀ o ∈ options, IsClean o) :
    parse (joined "," (options.map written)) = .ok options := by
  by_cases hne : options = []
  · subst hne
    rfl
  · have hread : (options.map fun o => (written o).toList).mapM
        (option? (joined "," (options.map written))) = .ok (options.map some) := by
      rw [mapM_eq_ok, List.forall₂_map_left_iff, List.forall₂_map_right_iff, List.forall₂_same]
      exact fun o ho => option?_written _ (h o ho)
    rw [parse, splitAt_joined hne h, hread]
    change Except.ok ((options.map some).filterMap id) = _
    simp

/-! ### Options as arguments -/

theorem flagText_eq (option : String × String) : Shell.flagText option = "--" ++ written option := by
  rw [Shell.flagText, written]
  split
  · rfl
  · rw [← String.toList_inj]
    simp

/-- **Flags.** The shell reads one word for each option: the option as it is written, after two
dashes. -/
theorem read_flags (options : List (String × String)) :
    Shell.read (joined " " (options.map flag)) =
      some (options.map fun o => .word (Shell.literal ("--" ++ written o))) := by
  by_cases hne : options.map flag = []
  · cases List.map_eq_nil_iff.mp hne
    rfl
  · have hwords : List.Forall₂ (fun p w => Shell.ReadsWord p.toList w) (options.map flag)
        (options.map fun o => Shell.literal ("--" ++ written o)) := by
      rw [List.forall₂_map_left_iff, List.forall₂_map_right_iff, List.forall₂_same]
      intro o _
      rw [← flagText_eq]
      exact Shell.readsWord_flag o
    rw [Shell.read_joined hne hwords, List.map_map]
    rfl

/-- **Format options**, from a text to arguments. Clean options come back from the text that holds
them; and any options are read by the shell as one word each, which is two dashes with the key, and
with an equals sign and the value if there is one. -/
theorem parse_joined_and_read_flags :
    (∀ options : List (String × String), (∀ o ∈ options, IsClean o) →
      parse (joined "," (options.map written)) = .ok options) ∧
    ∀ options : List (String × String), Shell.read (joined " " (options.map flag)) =
      some (options.map fun o => .word (Shell.literal ("--" ++ written o))) :=
  ⟨fun _ => parse_joined, read_flags⟩

/-- Options with an equals sign and blanks inside a value, and one without a value. -/
def bucketOptions : List (String × String) :=
  [("trash-days", "1"), ("bucket", "https://b?x=1 y"), ("compress", "")]

theorem parse_joined_and_read_flags_bucketOptions :
    (∀ o ∈ bucketOptions, IsClean o) ∧
    joined "," (bucketOptions.map written) = "trash-days=1,bucket=https://b?x=1 y,compress" ∧
    parse "trash-days=1,bucket=https://b?x=1 y,compress" = .ok bucketOptions ∧
    joined " " (bucketOptions.map flag) = "--trash-days=1 --bucket='https://b?x=1 y' --compress" ∧
    Shell.read "--trash-days=1 --bucket='https://b?x=1 y' --compress" =
      some (["--trash-days=1", "--bucket=https://b?x=1 y", "--compress"].map
        fun text => .word (Shell.literal text)) := by
  have hclean : ∀ o ∈ bucketOptions, IsClean o := by
    intro o ho
    simp only [bucketOptions, List.mem_cons, List.not_mem_nil, or_false] at ho
    rcases ho with rfl | rfl | rfl <;>
      exact ⟨by decide, by decide, by decide, by decide, by decide, by decide⟩
  have htext : joined "," (bucketOptions.map written) =
      "trash-days=1,bucket=https://b?x=1 y,compress" := by rfl
  have hline : joined " " (bucketOptions.map flag) =
      "--trash-days=1 --bucket='https://b?x=1 y' --compress" := by rfl
  have hparse := parse_joined_and_read_flags.1 bucketOptions hclean
  have hread := parse_joined_and_read_flags.2 bucketOptions
  rw [htext] at hparse
  rw [hline] at hread
  exact ⟨hclean, htext, hparse, hline, hread⟩

end FormatOptions

end SubpathCsi
