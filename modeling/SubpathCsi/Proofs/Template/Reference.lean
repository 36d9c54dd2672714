import Mathlib.Data.List.Forall2
import SubpathCsi.Proofs.Text.Split
import SubpathCsi.Template

/-!
# References and how they are spelled

Both dialects refer to the same things: a claim, its volume and its node. In a parameter a reference
is a row of words with dots before them, and letter case matters in the key alone. The reader tries
one word after another, and `pv` is the beginning of `pvc`; but a word is followed by a dot or by
nothing, so that never more than one of them fits. In a secret reference each spelling is fixed.

* `Template.Reference`: what a reference asks for;
* `Template.Reference.Spells`, `Template.Reference.SpellsSecret`: the texts that spell it;
* `Template.Names.value`, `Template.Names.secretValue`: what stands for it;
* `Template.query?_eq_some_iff`: the reader finds the words that are there, and no others;
* `Template.answered_iff`, `Template.secretAnswer_eq_some_iff`: what is found are the references.
-/

namespace SubpathCsi.Template

/-! ### References -/

/-- What a reference asks for. -/
inductive Reference where
  /-- The name of the claim. -/
  | claimName
  /-- The namespace of the claim. -/
  | claimSpace
  /-- A label of the claim. -/
  | label (key : String)
  /-- An annotation of the claim. -/
  | note (key : String)
  /-- The name of the volume. -/
  | volumeName
  /-- The name of the node. -/
  | nodeName
  /-- A label of the node. -/
  | nodeLabel (key : String)
  deriving DecidableEq, Repr

/-- The words of a reference in a parameter: whose, what, and the key if there has to be one. -/
def Reference.words : Reference → String × String × Option String
  | claimName => ("pvc", "name", none)
  | claimSpace => ("pvc", "namespace", none)
  | label key => ("pvc", "labels", some key)
  | note key => ("pvc", "annotations", some key)
  | volumeName => ("pv", "name", none)
  | nodeName => ("node", "name", none)
  | nodeLabel key => ("node", "labels", some key)

/-- A key as it stands at the end of a reference. -/
def keyText : Option String → List Char
  | none => []
  | some key => '.' :: key.toList

/-- The text spells the reference in a parameter, letter case aside but for the key. A key is not
empty. -/
def Reference.Spells (r : Reference) (body : List Char) : Prop :=
  ∃ subject field : List Char,
    body = '.' :: (subject ++ '.' :: (field ++ keyText r.words.2.2)) ∧
    Text.lower (String.ofList subject) = r.words.1 ∧
    Text.lower (String.ofList field) = r.words.2.1 ∧ r.words.2.2 ≠ some ""

/-- What stands for a reference in a parameter. A label or annotation that is missing is empty; a
volume without a name is not known. -/
def Names.value (n : Names) : Reference → Option String
  | .claimName => some n.claim
  | .claimSpace => some n.space
  | .label key => some ((Keyed.get? n.labels key).getD "")
  | .note key => some ((Keyed.get? n.annotations key).getD "")
  | .volumeName => if n.volume = "" then none else some n.volume
  | .nodeName => some n.node
  | .nodeLabel key => some ((Keyed.get? n.nodeLabels key).getD "")

/-- The text spells the reference in a secret reference. The key of an annotation stands between
quotes, so that it has none itself. -/
def Reference.SpellsSecret (r : Reference) (body : List Char) : Prop :=
  match r with
  | claimName => body = "pvc.name".toList
  | claimSpace => body = "pvc.namespace".toList
  | note key => body = "pvc.annotations['".toList ++ key.toList ++ "']".toList ∧
      key ≠ "" ∧ '\'' ∉ key.toList
  | volumeName => body = "pv.name".toList
  | label _ | nodeName | nodeLabel _ => False

/-- What stands for a reference in a secret reference. An annotation that is missing is not
known. -/
def Names.secretValue (n : Names) : Reference → Option String
  | .note key => Keyed.get? n.annotations key
  | .volumeName => some n.volume
  | r => n.value r

/-! ### Words -/

/-- The text is the word, letter case aside. -/
def Matches (word : String) (cs : List Char) : Prop :=
  List.Forall₂ (fun w c => isLetter c w = true) word.toList cs

variable {word : String} {words : List String} {cs rest front body : List Char}

theorem dropWord?_eq_some_iff {ws : List Char} :
    dropWord? ws cs = some rest ↔
      ∃ front, cs = front ++ rest ∧ List.Forall₂ (fun w c => isLetter c w = true) ws front := by
  induction ws generalizing cs with
  | nil =>
    rw [dropWord?, Option.some_inj]
    constructor
    · rintro rfl
      exact ⟨[], rfl, .nil⟩
    · rintro ⟨_, rfl, ⟨⟩⟩
      rfl
  | cons w ws ih =>
    cases cs with
    | nil =>
      refine ⟨nofun, ?_⟩
      rintro ⟨_, hnil, ⟨⟩⟩
      cases hnil
    | cons c cs =>
      rw [dropWord?]
      split
      · next hletter =>
        rw [ih]
        constructor
        · rintro ⟨front, rfl, hfront⟩
          exact ⟨c :: front, rfl, .cons hletter hfront⟩
        · rintro ⟨_, hcs, hmatch⟩
          cases hmatch with
          | cons _ hfront =>
            cases hcs
            exact ⟨_, rfl, hfront⟩
      · next hletter =>
        refine ⟨nofun, ?_⟩
        rintro ⟨_, hcs, hmatch⟩
        cases hmatch with
        | cons hc _ =>
          cases hcs
          exact absurd hc hletter

/-- The words at the front of a text, as they are spelled there. -/
theorem mem_splitWord {p : String × List Char} :
    p ∈ splitWord words cs ↔ ∃ word ∈ words, ∃ front, cs = front ++ p.2 ∧ Matches word front ∧
      p.1 = Text.lower (String.ofList front) := by
  have htake : ∀ (word : String) (front : List Char), Matches word front →
      (front ++ p.2).take word.length = front := by
    intro word front hfront
    have hlength : word.length = front.length := by
      rw [← String.length_toList]
      exact hfront.length_eq
    rw [hlength, List.take_left]
  rw [splitWord, List.mem_filterMap]
  refine exists_congr fun word => and_congr_right fun _ => ?_
  rw [Option.map_eq_some_iff]
  constructor
  · rintro ⟨rest, hrest, rfl⟩
    obtain ⟨front, rfl, hfront⟩ := dropWord?_eq_some_iff.mp hrest
    refine ⟨front, rfl, hfront, ?_⟩
    exact congrArg (fun cs => Text.lower (String.ofList cs)) (htake word front hfront)
  · rintro ⟨front, rfl, hfront, hp⟩
    refine ⟨p.2, dropWord?_eq_some_iff.mpr ⟨front, rfl, hfront⟩, ?_⟩
    rw [htake word front hfront, ← hp]

/-- No word holds a dot. -/
theorem Matches.dot_notMem (h : Matches word cs) (hword : word ∈ subjects ++ queryFields) :
    '.' ∉ cs := by
  have hdots : ((subjects ++ queryFields).all fun word => word.toList.all (!isLetter '.' ·)) =
      true := by rfl
  have hnone := List.all_eq_true.mp (List.all_eq_true.mp hdots word hword)
  rw [Matches] at h
  generalize word.toList = ws at h hnone
  induction h with
  | nil => exact List.not_mem_nil
  | @cons w c ws cs hletter _ ih =>
    obtain ⟨hw, hws⟩ := List.forall_mem_cons.mp hnone
    rw [List.mem_cons, not_or]
    refine ⟨?_, ih hws⟩
    rintro rfl
    rw [hletter] at hw
    cases hw

/-- A character with one lower form is that letter, letter case aside. -/
theorem isLetter_of_lowerChar {c x : Char} (h : Text.lowerChar c = [x]) : isLetter c x = true := by
  have hlower : Text.lower (String.singleton c) = String.singleton x := by
    rw [Text.lower, String.toList_singleton, List.flatMap_singleton, h]
    rfl
  rw [isLetter, hlower]
  simp

/-- Characters with ASCII lower forms are those letters, letter case aside. -/
theorem forall₂_isLetter_lower (h : ∀ x ∈ cs.flatMap Text.lowerChar, x.toNat < 0x80) :
    List.Forall₂ (fun w c => isLetter c w = true) (cs.flatMap Text.lowerChar) cs := by
  induction cs with
  | nil => exact .nil
  | cons c cs ih =>
    rw [List.flatMap_cons, List.forall_mem_append] at h
    -- the one character with two lower forms has a dot above in them
    obtain ⟨x, hx⟩ : ∃ x, Text.lowerChar c = [x] := by
      have hchar := h.1
      rw [Text.lowerChar] at hchar ⊢
      split_ifs at hchar ⊢
      · exact ⟨_, rfl⟩
      · exact absurd (hchar _ (.tail _ (.head _))) (by decide)
      · exact ⟨_, rfl⟩
    rw [List.flatMap_cons, hx, List.singleton_append]
    exact .cons (isLetter_of_lowerChar hx) (ih h.2)

/-- A text that is a word in lower case is that word. -/
theorem matches_of_lower (h : Text.lower (String.ofList cs) = word)
    (hword : word ∈ subjects ++ queryFields) : Matches word cs := by
  have hascii : ((subjects ++ queryFields).all fun word =>
      word.toList.all (decide <| ·.toNat < 0x80)) = true := by rfl
  have hchars := List.all_eq_true.mp (List.all_eq_true.mp hascii word hword)
  have hlower : word.toList = cs.flatMap Text.lowerChar := by
    rw [← h, Text.lower, String.toList_ofList, String.toList_ofList]
  rw [hlower] at hchars
  rw [Matches, hlower]
  exact forall₂_isLetter_lower fun x hx => of_decide_eq_true (hchars x hx)

/-- The key that ends a reference. -/
theorem key?_eq_some_iff {key : Option String} :
    key? cs = some key ↔ cs = keyText key ∧ key ≠ some "" := by
  constructor
  · intro h
    unfold key? at h
    split at h
    · cases h
      exact ⟨rfl, nofun⟩
    · next k ks =>
      cases h
      refine ⟨by rw [keyText, String.toList_ofList], fun hempty => ?_⟩
      have hnil := congrArg String.toList (Option.some_inj.mp hempty)
      rw [String.toList_ofList] at hnil
      cases hnil
    · cases h
  · rintro ⟨rfl, hne⟩
    cases key with
    | none => rfl
    | some key =>
      have hchars : key.toList ≠ [] := fun hnil =>
        hne (congrArg some (String.toList_eq_nil_iff.mp hnil))
      obtain ⟨k, ks, hcons⟩ := List.exists_cons_of_ne_nil hchars
      rw [keyText, hcons, key?, ← hcons, String.ofList_toList]

/-! ### Words of references -/

/-- The text asks for what a query says. -/
def Query.Asked (q : Query) (body : List Char) : Prop :=
  ∃ subject field : List Char, body = '.' :: (subject ++ '.' :: (field ++ keyText q.key)) ∧
    (∃ word ∈ subjects, Matches word subject) ∧ (∃ word ∈ queryFields, Matches word field) ∧
    q.subject = Text.lower (String.ofList subject) ∧
    q.field = Text.lower (String.ofList field) ∧ q.key ≠ some ""

/-- Before a key there is the field, if that has no dot. -/
theorem cutFirst?_keyText (hfront : '.' ∉ front) (key : Option String) :
    Text.cutFirst? '.' (front ++ keyText key) = key.map fun k => (front, k.toList) := by
  cases key with
  | none =>
    rw [keyText, List.append_nil]
    exact Text.cutFirst?_of_notMem hfront
  | some key => exact Text.cutFirst?_append hfront key.toList

/-- A text asks for one thing only. -/
theorem Query.Asked.eq {q q' : Query} (h : q.Asked body) (h' : q'.Asked body) : q = q' := by
  obtain ⟨s, f, rfl, ⟨w, hw, hs⟩, ⟨v, hv, hf⟩, hsubject, hfield, -⟩ := h
  obtain ⟨s', f', hbody, ⟨w', hw', hs'⟩, ⟨v', hv', hf'⟩, hsubject', hfield', -⟩ := h'
  have hdot := hs.dot_notMem (List.mem_append_left _ hw)
  have hdot' := hs'.dot_notMem (List.mem_append_left _ hw')
  have hfdot := hf.dot_notMem (List.mem_append_right _ hv)
  have hfdot' := hf'.dot_notMem (List.mem_append_right _ hv')
  -- the first dot ends the subject in both, and the next one the field
  have hcut := congrArg (Text.cutFirst? '.') (List.cons_inj_right _ |>.mp hbody)
  rw [Text.cutFirst?_append hdot, Text.cutFirst?_append hdot', Option.some_inj,
    Prod.mk.injEq] at hcut
  obtain ⟨rfl, hrest⟩ := hcut
  have hkeys := congrArg (Text.cutFirst? '.') hrest
  rw [cutFirst?_keyText hfdot, cutFirst?_keyText hfdot'] at hkeys
  obtain ⟨subject, field, key⟩ := q
  obtain ⟨subject', field', key'⟩ := q'
  dsimp only at hsubject hfield hsubject' hfield' hkeys hrest
  subst hsubject hfield hsubject' hfield'
  cases key with
  | none =>
    cases key' with
    | none =>
      rw [keyText, List.append_nil, List.append_nil] at hrest
      rw [hrest]
    | some key' => cases hkeys
  | some key =>
    cases key' with
    | none => cases hkeys
    | some key' =>
      rw [Option.map_some, Option.map_some, Option.some_inj, Prod.mk.injEq,
        String.toList_inj] at hkeys
      rw [hkeys.1, hkeys.2]

theorem asked_of_query? {q : Query} (h : query? body = some q) : q.Asked body := by
  obtain ⟨rest, rfl⟩ : ∃ rest, body = '.' :: rest := by
    unfold query? at h
    dsimp only at h
    split at h
    · exact ⟨_, rfl⟩
    · cases h
  obtain ⟨⟨subject, rest⟩, hsubject, hafter⟩ := List.exists_of_findSome?_eq_some h
  obtain ⟨w, hw, s, rfl, hs, hlower⟩ := mem_splitWord.mp hsubject
  dsimp only at hafter hlower
  split at hafter
  · obtain ⟨⟨field, rest⟩, hfield, hend⟩ := List.exists_of_findSome?_eq_some hafter
    obtain ⟨v, hv, f, rfl, hf, hlower'⟩ := mem_splitWord.mp hfield
    obtain ⟨key, hkey, rfl⟩ := Option.map_eq_some_iff.mp hend
    obtain ⟨rfl, hne⟩ := key?_eq_some_iff.mp hkey
    exact ⟨s, f, rfl, ⟨w, hw, hs⟩, ⟨v, hv, hf⟩, hlower, hlower', hne⟩
  · cases hafter

/-- **Queries.** The reader finds the words that are there, and no others. -/
theorem query?_eq_some_iff {q : Query} : query? body = some q ↔ q.Asked body := by
  refine ⟨asked_of_query?, fun h => ?_⟩
  -- something is found, and there is nothing else to be found
  obtain ⟨q', hq'⟩ : ∃ q', query? body = some q' := by
    obtain ⟨s, f, rfl, ⟨w, hw, hs⟩, ⟨v, hv, hf⟩, -, -, hne⟩ := h
    rw [← Option.isSome_iff_exists]
    have hfield : (Text.lower (String.ofList f), keyText q.key) ∈
        splitWord queryFields (f ++ keyText q.key) :=
      mem_splitWord.mpr ⟨v, hv, f, rfl, hf, rfl⟩
    have hsubject : (Text.lower (String.ofList s), '.' :: (f ++ keyText q.key)) ∈
        splitWord subjects (s ++ '.' :: (f ++ keyText q.key)) :=
      mem_splitWord.mpr ⟨w, hw, s, rfl, hs, rfl⟩
    refine List.findSome?_isSome_iff.mpr ⟨_, hsubject, ?_⟩
    refine List.findSome?_isSome_iff.mpr ⟨_, hfield, ?_⟩
    dsimp only
    rw [key?_eq_some_iff.mpr ⟨rfl, hne⟩]
    rfl
  rw [hq', (asked_of_query? hq').eq h]

/-! ### Answers -/

variable {n : Names} {s : String}

theorem answer_eq_some_iff {q : Query} :
    n.answer q = some s ↔ ∃ r : Reference, r.words = (q.subject, q.field, q.key) ∧
      n.value r = some s := by
  obtain ⟨subject, field, key⟩ := q
  constructor
  · intro h
    rw [Names.answer] at h
    dsimp only at h
    split at h
    · exact ⟨.claimName, rfl, h⟩
    · exact ⟨.claimSpace, rfl, h⟩
    · exact ⟨.label _, rfl, h⟩
    · exact ⟨.note _, rfl, h⟩
    · refine ⟨.volumeName, rfl, ?_⟩
      rw [Names.value]
      simpa only [String.isEmpty_iff] using h
    · exact ⟨.nodeName, rfl, h⟩
    · exact ⟨.nodeLabel _, rfl, h⟩
    · cases h
  · rintro ⟨r, hwords, hvalue⟩
    cases r with
    | volumeName =>
      cases hwords
      rw [Names.value] at hvalue
      simpa only [Names.answer, String.isEmpty_iff] using hvalue
    | _ =>
      cases hwords
      exact hvalue

/-- **Parameters.** What the reader finds is what stands for the reference that is spelled. -/
theorem answered_iff :
    (query? body).bind n.answer = some s ↔
      ∃ r : Reference, r.Spells body ∧ n.value r = some s := by
  rw [Option.bind_eq_some_iff]
  constructor
  · rintro ⟨q, hq, hanswer⟩
    obtain ⟨r, hwords, hvalue⟩ := answer_eq_some_iff.mp hanswer
    obtain ⟨subject, field, hbody, -, -, hsubject, hfield, hkey⟩ := query?_eq_some_iff.mp hq
    refine ⟨r, ⟨subject, field, ?_⟩, hvalue⟩
    rw [hwords]
    exact ⟨hbody, hsubject.symm, hfield.symm, hkey⟩
  · rintro ⟨r, ⟨subject, field, hbody, hsubject, hfield, hkey⟩, hvalue⟩
    refine ⟨⟨r.words.1, r.words.2.1, r.words.2.2⟩, ?_, answer_eq_some_iff.mpr ⟨r, rfl, hvalue⟩⟩
    have hmem : r.words.1 ∈ subjects ∧ r.words.2.1 ∈ queryFields := by
      cases r <;> simp [Reference.words, subjects, queryFields]
    exact query?_eq_some_iff.mpr ⟨subject, field, hbody,
      ⟨_, hmem.1, matches_of_lower hsubject (List.mem_append_left _ hmem.1)⟩,
      ⟨_, hmem.2, matches_of_lower hfield (List.mem_append_right _ hmem.2)⟩,
      hsubject.symm, hfield.symm, hkey⟩

/-! ### Answers to secret references -/

/-- The key of an annotation is what stands between the quotes. -/
theorem annotationKey?_eq_some_iff {key : String} (hbody : '\n' ∉ body) :
    annotationKey? body = some key ↔ (Reference.note key).SpellsSecret body := by
  have hlast : body.getLast? ≠ some '\n' := fun h => hbody (List.mem_of_getLast? h)
  have hquotes : "']".toList = ['\'', ']'] := rfl
  rw [annotationKey?, Reference.SpellsSecret, hquotes]
  simp only [if_neg hlast]
  generalize "pvc.annotations['".toList = start
  have hinner : ∀ k : List Char,
      ((start ++ (k ++ ['\'', ']'])).drop start.length).dropLast.dropLast = k := by simp
  constructor
  · intro h
    split at h
    · next hends =>
      rw [Bool.and_eq_true, List.isPrefixOf_iff_prefix, List.isSuffixOf_iff_suffix] at hends
      obtain ⟨⟨rest, rfl⟩, hsuffix⟩ := hends
      split_ifs at h with hkey
      cases h
      simp only [Bool.or_eq_true, decide_eq_true_eq, not_or] at hkey
      obtain ⟨⟨hne, hquote⟩, hlength⟩ := hkey
      -- the beginning and the end do not overlap
      have htwo : ['\'', ']'].length ≤ rest.length := by
        rw [List.length_append] at hlength
        simp only [List.length_cons, List.length_nil]
        omega
      obtain ⟨k, rfl⟩ := List.suffix_of_suffix_length_le hsuffix (List.suffix_append _ rest) htwo
      rw [hinner] at hne hquote ⊢
      rw [String.toList_ofList, List.append_assoc]
      refine ⟨rfl, fun hempty => hne ?_, by simpa using hquote⟩
      rw [List.isEmpty_iff, ← String.ofList_eq_empty_iff, hempty]
    · cases h
  · rintro ⟨rfl, hne, hquote⟩
    have hchars : key.toList ≠ [] := mt String.toList_eq_nil_iff.mp hne
    have hends : (start.isPrefixOf (start ++ key.toList ++ ['\'', ']']) &&
        ['\'', ']'].isSuffixOf (start ++ key.toList ++ ['\'', ']'])) = true := by
      rw [Bool.and_eq_true, List.isPrefixOf_iff_prefix, List.isSuffixOf_iff_suffix]
      exact ⟨⟨_, (List.append_assoc ..).symm⟩, List.suffix_append _ _⟩
    rw [if_pos hends, List.append_assoc, hinner, if_neg, String.ofList_toList]
    simp [hchars, hquote]

/-- **Secret references.** What is found is what stands for the reference that is spelled. -/
theorem secretAnswer_eq_some_iff (hbody : '\n' ∉ body) :
    n.secretAnswer body = some s ↔
      ∃ r : Reference, r.SpellsSecret body ∧ n.secretValue r = some s := by
  constructor
  · intro h
    rw [Names.secretAnswer] at h
    split at h
    · next htext => exact ⟨.volumeName, by simp [Reference.SpellsSecret, ← htext], h⟩
    · next htext => exact ⟨.claimName, by simp [Reference.SpellsSecret, ← htext], h⟩
    · next htext => exact ⟨.claimSpace, by simp [Reference.SpellsSecret, ← htext], h⟩
    · obtain ⟨key, hkey, hvalue⟩ := Option.bind_eq_some_iff.mp h
      exact ⟨.note key, (annotationKey?_eq_some_iff hbody).mp hkey, hvalue⟩
  · rintro ⟨r, hspells, hvalue⟩
    rw [Names.secretAnswer]
    cases r with
    | claimName =>
      cases hspells
      exact hvalue
    | claimSpace =>
      cases hspells
      exact hvalue
    | volumeName =>
      cases hspells
      exact hvalue
    | note key =>
      have hkey := (annotationKey?_eq_some_iff hbody).mpr hspells
      have hbracket : '[' ∈ (String.ofList body).toList := by
        rw [hspells.1]
        simp
      split
      · next htext => exact absurd (htext ▸ hbracket) (by decide)
      · next htext => exact absurd (htext ▸ hbracket) (by decide)
      · next htext => exact absurd (htext ▸ hbracket) (by decide)
      · rw [hkey]
        exact hvalue
    | label | nodeName | nodeLabel => cases hspells

end SubpathCsi.Template
