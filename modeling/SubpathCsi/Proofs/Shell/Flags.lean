import Mathlib.Data.List.Forall2
import SubpathCsi.Proofs.Shell.Quote
import SubpathCsi.Settings.FormatOptions

/-!
# Flags are words

The format options of a filesystem become flags of a command. A flag is one word, which is the key
with its value; where the value is secret, a parameter stands for it.

* `Shell.readsWord_flag`: the flag of an option is read as `--key=value`;
* `Shell.readsWord_referenceFlag`: so is that of a secret option, with a parameter for the value;
* `Shell.readsWord_flags`: all flags are words, one for each option.
-/

namespace SubpathCsi.Shell

theorem literal_append (s t : String) : literal (s ++ t) = literal s ++ literal t := by
  rw [literal, String.toList_append, List.map_append]
  rfl

theorem ReadsWord.append_string {s t : String} {v w : Word} (hs : ReadsWord s.toList v)
    (ht : ReadsWord t.toList w) : ReadsWord (s ++ t).toList (v ++ w) := by
  rw [String.toList_append]
  exact hs.append ht

/-- A bare text before a quoted one. -/
theorem readsWord_bare_quote {s : String} (hs : IsBare s) (t : String) :
    ReadsWord (s ++ quote t).toList (literal (s ++ t)) := by
  rw [literal_append]
  exact (readsWord_of_isBare hs).append_string (readsWord_quote t)

/-- The text of a flag: the key, and the value if there is one. -/
def flagText (option : String × String) : String :=
  if option.2.isEmpty then "--" ++ option.1 else "--" ++ option.1 ++ "=" ++ option.2

theorem readsWord_flag (option : String × String) :
    ReadsWord (FormatOptions.flag option).toList (literal (flagText option)) := by
  have hkey := readsWord_bare_quote (s := "--") (by decide) option.1
  rw [FormatOptions.flag, flagText]
  split
  · exact hkey
  · have hequals : ReadsWord "=".toList (literal "=") := readsWord_of_isBare (by decide)
    have h := (hkey.append_string hequals).append_string (readsWord_quote option.2)
    rwa [← literal_append, ← literal_append] at h

/-- The flag of an option whose value the shell puts in. -/
theorem readsWord_referenceFlag {key : String} (hkey : isName key.toList = true) :
    ReadsWord (FormatOptions.referenceFlag key).toList
      (literal ("--" ++ key ++ "=") ++ [.param false key]) := by
  have hfront := readsWord_bare_quote (s := "--") (by decide) key
  have hequals : ReadsWord "=".toList (literal "=") := readsWord_of_isBare (by decide)
  have h := (hfront.append_string hequals).append_string (readsWord_param hkey)
  have htext : FormatOptions.referenceFlag key =
      "--" ++ quote key ++ "=" ++ ("$\x7b" ++ key ++ "\x7d") := by
    rw [← String.toList_inj, FormatOptions.referenceFlag]
    simp
  rw [htext, literal_append]
  exact h

/-- The word of the flag of an option, the values of `secretKeys` left to parameters. -/
def flagWord (secretKeys : List String) (option : String × String) : Word :=
  if !option.2.isEmpty && secretKeys.contains option.1 then
    literal ("--" ++ option.1 ++ "=") ++ [.param false option.1]
  else literal (flagText option)

/-- **Flags.** Each option is one word. -/
theorem readsWord_flags {secretKeys : List String}
    (hkeys : ∀ k ∈ secretKeys, isName k.toList = true) (options : List (String × String)) :
    List.Forall₂ (fun p w => ReadsWord p.toList w) (FormatOptions.flags secretKeys options)
      (options.map (flagWord secretKeys)) := by
  rw [FormatOptions.flags, List.forall₂_map_left_iff, List.forall₂_map_right_iff,
    List.forall₂_same]
  intro o ho
  rw [flagWord]
  split
  · next hsecret =>
    rw [Bool.and_eq_true, List.contains_iff_mem] at hsecret
    exact readsWord_referenceFlag (hkeys _ hsecret.2)
  · exact readsWord_flag o

end SubpathCsi.Shell
