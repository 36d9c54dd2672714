import SubpathCsi.Proofs.Template.Reference

/-!
# Texts of literals and references

A text that is put together from literals and references is substituted part by part: a literal
stays, a reference that is known gives what stands for it, and one that is not known stays as it is
written. What is put in is never read, so that a label whose value looks like a reference does not
become one.

* `Template.Segment`, `Template.Segment.IsPlain`: the parts of a text, and those that end where they
  seem to;
* `Template.Segment.Stands`: what becomes of a part;
* `Template.substitute_append`, `Template.substitute_flatMap`: one part, and all of them;
* `Template.parameter_and_secret_eq_iff`: both dialects.
-/

namespace SubpathCsi.Template

/-- A part of a text. -/
inductive Segment where
  /-- A text that is not a reference. -/
  | literal (text : List Char)
  /-- A reference, by the text between its braces. -/
  | reference (body : List Char)

namespace Segment

/-- A part as it is written. -/
def text : Segment → List Char
  | literal text => text
  | reference body => written body

/-- No reference begins in a literal, and none begins or ends inside another one. -/
def IsPlain : Segment → Prop
  | literal text => '$' ∉ text
  | reference body => '$' ∉ body ∧ '\x7d' ∉ body ∧ '\n' ∉ body

instance : DecidablePred IsPlain
  | literal text => inferInstanceAs (Decidable ('$' ∉ text))
  | reference body => inferInstanceAs (Decidable ('$' ∉ body ∧ '\x7d' ∉ body ∧ '\n' ∉ body))

/-- What becomes of a part where `spells` tells how references are written, and `value` what stands
for them. -/
inductive Stands (spells : Reference → List Char → Prop) (value : Reference → Option String) :
    Segment → List Char → Prop
  /-- A literal stays. -/
  | literal (text : List Char) : Stands spells value (literal text) text
  /-- A reference that is known is replaced. -/
  | known {r : Reference} {body : List Char} {s : String} (hspells : spells r body)
    (hvalue : value r = some s) : Stands spells value (reference body) s.toList
  /-- A reference that is not known stays. -/
  | unknown {body : List Char} (hnone : ∀ r, spells r body → value r = none) :
    Stands spells value (reference body) (written body)

end Segment

variable {meaning : List Char → Option (List Char)} {seg : Segment} {segments : List Segment}

/-! ### Part by part -/

/-- What the substitution puts in the place of a part. -/
def Segment.part (meaning : List Char → Option (List Char)) : Segment → List Char
  | literal text => text
  | reference body => (meaning body).getD (written body)

/-- Nothing is replaced in a text where no reference begins. -/
theorem substitute_literal {text : List Char} (h : '$' ∉ text) (rest : List Char) :
    substitute meaning (text ++ rest) = text ++ substitute meaning rest := by
  induction text with
  | nil => rfl
  | cons c cs ih =>
    rw [List.mem_cons, not_or] at h
    rw [List.cons_append, substitute, ih h.2, List.cons_append]
    exact fun _ hc _ => h.1 hc.symm

/-- A reference reaches to the first closing brace. -/
theorem substitute_reference {body : List Char} (hdollar : '$' ∉ body) (hbrace : '\x7d' ∉ body)
    (rest : List Char) : substitute meaning (written body ++ rest) =
      (meaning body).getD (written body) ++ substitute meaning rest := by
  have hinside : ∀ c ∈ body, decide (c ≠ '\x7d') = true := fun c hc =>
    decide_eq_true fun he => hbrace (he ▸ hc)
  have htext : written body ++ rest = '$' :: '\x7b' :: (body ++ '\x7d' :: rest) := by
    simp [written]
  have htake : (body ++ '\x7d' :: rest).takeWhile (· ≠ '\x7d') = body := by
    rw [List.takeWhile_append_of_pos hinside, List.takeWhile_cons_of_neg (by simp),
      List.append_nil]
  have hdrop : (body ++ '\x7d' :: rest).dropWhile (· ≠ '\x7d') = '\x7d' :: rest := by
    rw [List.dropWhile_append_of_pos hinside, List.dropWhile_cons_of_neg (by simp)]
  -- no reference begins after the dollar sign of this one
  have hkept : substitute meaning ('\x7b' :: (body ++ '\x7d' :: rest)) =
      '\x7b' :: (body ++ '\x7d' :: substitute meaning rest) := by
    have hplain : '$' ∉ '\x7b' :: body ++ ['\x7d'] := by simp [hdollar]
    have h : substitute meaning ('\x7b' :: body ++ ['\x7d'] ++ rest) =
        '\x7b' :: body ++ ['\x7d'] ++ substitute meaning rest := substitute_literal hplain rest
    simpa using h
  rw [htext, substitute]
  split
  · next hnil =>
    rw [hdrop] at hnil
    cases hnil
  · next more hmore =>
    obtain ⟨-, rfl⟩ := List.cons.inj (hdrop.symm.trans hmore)
    rw [htake, hkept]
    cases meaning body with
    | some part => rfl
    | none => simp [written]

theorem substitute_append (h : seg.IsPlain) (rest : List Char) :
    substitute meaning (seg.text ++ rest) = seg.part meaning ++ substitute meaning rest := by
  cases seg with
  | literal text => exact substitute_literal h rest
  | reference body => exact substitute_reference h.1 h.2.1 rest

/-- **Single pass.** The parts are substituted one by one, and what is put in is not read again. -/
theorem substitute_flatMap (h : ∀ seg ∈ segments, seg.IsPlain) :
    substitute meaning (segments.flatMap Segment.text) =
      segments.flatMap (Segment.part meaning) := by
  induction segments with
  | nil => rw [List.flatMap_nil, List.flatMap_nil, substitute]
  | cons seg segments ih =>
    obtain ⟨hseg, hrest⟩ := List.forall_mem_cons.mp h
    rw [List.flatMap_cons, List.flatMap_cons, substitute_append hseg, ih hrest]

/-! ### What becomes of a part -/

variable {n : Names} {spells : Reference → List Char → Prop} {value : Reference → Option String}
  {part : List Char} {body : List Char}

theorem stands_literal_iff {text : List Char} :
    (Segment.literal text).Stands spells value part ↔ text = part := by
  constructor
  · rintro ⟨⟩
    rfl
  · rintro rfl
    exact .literal text

/-- A reference gives one text: what stands for it, if that is found, and itself if not. -/
theorem stands_reference_iff {found : Option String}
    (hfound : ∀ s, found = some s ↔ ∃ r, spells r body ∧ value r = some s) :
    (Segment.reference body).Stands spells value part ↔
      found.elim (written body) String.toList = part := by
  constructor
  · rintro (_ | ⟨hspells, hvalue⟩ | hnone)
    · rw [(hfound _).mpr ⟨_, hspells, hvalue⟩]
      rfl
    · cases found with
      | none => rfl
      | some s =>
        obtain ⟨r, hspells, hvalue⟩ := (hfound s).mp rfl
        rw [hnone r hspells] at hvalue
        cases hvalue
  · rintro rfl
    cases found with
    | none =>
      refine .unknown fun r hspells => Option.eq_none_iff_forall_ne_some.mpr fun s hvalue => ?_
      cases (hfound s).mpr ⟨r, hspells, hvalue⟩
    | some s =>
      obtain ⟨r, hspells, hvalue⟩ := (hfound s).mp rfl
      exact .known hspells hvalue

/-- A part of a parameter. -/
theorem stands_parameter_iff :
    seg.Stands Reference.Spells n.value part ↔ seg.part n.parameterMeaning = part := by
  cases seg with
  | literal text => exact stands_literal_iff
  | reference body =>
    have hpart : (Segment.reference body).part n.parameterMeaning =
        ((query? body).bind n.answer).elim (written body) String.toList := by
      rw [Segment.part, Names.parameterMeaning]
      cases query? body with
      | none => rfl
      | some q =>
        rw [Option.map_some, Option.getD_some, Option.bind_some]
        cases n.answer q <;> rfl
    rw [hpart]
    exact stands_reference_iff fun s => answered_iff

/-- A part of a text with secret references. -/
theorem stands_secret_iff (h : seg.IsPlain) :
    seg.Stands Reference.SpellsSecret n.secretValue part ↔ seg.part n.secretMeaning = part := by
  cases seg with
  | literal text => exact stands_literal_iff
  | reference body =>
    have hpart : (Segment.reference body).part n.secretMeaning =
        (n.secretAnswer body).elim (written body) String.toList := by
      rw [Segment.part, Names.secretMeaning]
      cases body with
      | nil => rfl
      | cons c cs =>
        rw [if_neg (by simp), Option.getD_some]
        cases n.secretAnswer (c :: cs) <;> rfl
    rw [hpart]
    exact stands_reference_iff fun s => secretAnswer_eq_some_iff h.2.2

/-- The parts become what the substitution puts in their places. -/
theorem forall₂_stands_iff (h : ∀ seg ∈ segments, seg.IsPlain)
    (hpart : ∀ seg : Segment, seg.IsPlain → ∀ part,
      (seg.Stands spells value part ↔ seg.part meaning = part)) {parts : List (List Char)} :
    List.Forall₂ (Segment.Stands spells value) segments parts ↔
      segments.map (Segment.part meaning) = parts := by
  have hplain : ∀ R : Segment → List Char → Prop, List.Forall₂ R segments parts ↔
      List.Forall₂ (fun seg part => seg.IsPlain ∧ R seg part) segments parts := fun R => by
    rw [List.forall₂_and_left, and_iff_right h]
  have hsame : (fun (seg : Segment) part => seg.IsPlain ∧ seg.Stands spells value part) =
      fun seg part => seg.IsPlain ∧ seg.part meaning = part :=
    funext₂ fun seg part => propext (and_congr_right fun hseg => hpart seg hseg part)
  rw [hplain, hsame, ← hplain fun seg part => seg.part meaning = part]
  refine List.forall₂_map_left_iff.symm.trans ?_
  rw [List.forall₂_eq_eq_eq]

/-- A whole text, given what becomes of each part. -/
theorem substitute_eq_iff (h : ∀ seg ∈ segments, seg.IsPlain)
    (hpart : ∀ seg : Segment, seg.IsPlain → ∀ part,
      (seg.Stands spells value part ↔ seg.part meaning = part)) {result : String} :
    String.ofList (substitute meaning (segments.flatMap Segment.text)) = result ↔
      ∃ parts, List.Forall₂ (Segment.Stands spells value) segments parts ∧
        String.ofList parts.flatten = result := by
  rw [substitute_flatMap h, List.flatMap_def]
  simp only [forall₂_stands_iff h hpart, exists_eq_left']

/-- **Substitution.** A text of plain parts gives what becomes of its parts, one after another. A
literal stays; a reference that is known is replaced by what stands for it, which is not read
again; a reference that is not known stays. -/
theorem parameter_and_secret_eq_iff (n : Names) (h : ∀ seg ∈ segments, seg.IsPlain)
    (result : String) :
    (n.parameter (String.ofList (segments.flatMap Segment.text)) = result ↔
      ∃ parts, List.Forall₂ (Segment.Stands Reference.Spells n.value) segments parts ∧
        String.ofList parts.flatten = result) ∧
    (n.secret (String.ofList (segments.flatMap Segment.text)) = result ↔
      ∃ parts, List.Forall₂ (Segment.Stands Reference.SpellsSecret n.secretValue) segments parts ∧
        String.ofList parts.flatten = result) := by
  rw [Names.parameter, Names.secret, String.toList_ofList]
  exact ⟨substitute_eq_iff h fun seg _ part => stands_parameter_iff,
    substitute_eq_iff h fun seg hseg part => stands_secret_iff hseg⟩

/-- A claim whose owner and annotation look like references, without a volume. -/
def forgedNames : Names :=
  { claim := "data", space := "team-a", labels := [("Owner", "$\x7b.pvc.name\x7d")],
    annotations := [("note", "$\x7bpvc.name\x7d")], node := "node-1" }

/-- References in both dialects, with braces between them. The owner is asked for by its key, and
by another one. -/
def mixedSegments : List Segment :=
  [.reference ".PVC.Labels.Owner".toList, .literal "/\x7b\x7d\n".toList,
    .reference ".pvc.labels.owner".toList, .reference ".pv.name".toList,
    .reference "pvc.annotations['note']".toList, .literal " ".toList, .reference [],
    .reference "pvc.annotations['absent']".toList, .reference "pv.name".toList,
    .reference "pvc.namespace".toList]

theorem parameter_and_secret_eq_iff_mixedSegments :
    (∀ seg ∈ mixedSegments, seg.IsPlain) ∧
    forgedNames.parameter (String.ofList (mixedSegments.flatMap Segment.text)) =
      "$\x7b.pvc.name\x7d/\x7b\x7d\n$\x7b.pv.name\x7d$\x7bpvc.annotations['note']\x7d " ++
        "$\x7b\x7d$\x7bpvc.annotations['absent']\x7d$\x7bpv.name\x7d$\x7bpvc.namespace\x7d" ∧
    forgedNames.secret (String.ofList (mixedSegments.flatMap Segment.text)) =
      "$\x7b.PVC.Labels.Owner\x7d/\x7b\x7d\n$\x7b.pvc.labels.owner\x7d$\x7b.pv.name\x7d" ++
        "$\x7bpvc.name\x7d $\x7b\x7d$\x7bpvc.annotations['absent']\x7dteam-a" := by
  have hplain : ∀ seg ∈ mixedSegments, seg.IsPlain := by decide +kernel
  have hparameter : List.Forall₂ (Segment.Stands Reference.Spells forgedNames.value) mixedSegments
      (mixedSegments.map (Segment.part forgedNames.parameterMeaning)) :=
    (forall₂_stands_iff hplain fun _ _ _ => stands_parameter_iff).mpr rfl
  have hsecret : List.Forall₂ (Segment.Stands Reference.SpellsSecret forgedNames.secretValue)
      mixedSegments (mixedSegments.map (Segment.part forgedNames.secretMeaning)) :=
    (forall₂_stands_iff hplain fun _ hseg _ => stands_secret_iff hseg).mpr rfl
  exact ⟨hplain,
    (parameter_and_secret_eq_iff forgedNames hplain _).1.mpr ⟨_, hparameter, by decide +kernel⟩,
    (parameter_and_secret_eq_iff forgedNames hplain _).2.mpr ⟨_, hsecret, by decide +kernel⟩⟩

end SubpathCsi.Template
