import Mathlib.Data.List.TakeDrop
import Mathlib.Data.List.TakeWhile
import SubpathCsi.Proofs.Act.Trace
import SubpathCsi.Settings.Resolve

/-!
# The grammar of durations

A text is a duration exactly if it follows a grammar that says nothing of a scan: an optional sign,
then a zero or one or more parts, each a number and right after it a unit. The scan takes from the
front of the text what it can get, and although a unit may begin with another one, as `ms` does with
`m`, it never takes too little or too much.

* `Duration.IsNumber`, `Duration.IsPart`, `Duration.IsDuration`: the grammar;
* `Duration.takePart?_append`, `Duration.exists_of_takePart?`: one part is taken from a text,
  whatever comes after it, if this may follow a part;
* `Duration.Scan`, `Duration.scan_sumParts?`: the rounds of the scan, which come to an end;
* `MountSettings.resolve_eq_of_undelayed`: what a delay does to settings that are in order without
  one;
* `MountSettings.parse_and_resolve_iff`: durations, and delays.
-/

namespace SubpathCsi

namespace Duration

/-! ### The grammar -/

/-- A number: digits, digits with a point after or among them, or a point and digits. -/
inductive IsNumber : List Char → Prop
  /-- Digits. -/
  | whole {ds : List Char} (hne : ds ≠ []) (hds : ∀ d ∈ ds, Text.isDigit d = true) : IsNumber ds
  /-- Digits and a point; more digits may follow. -/
  | pointed {ds es : List Char} (hne : ds ≠ []) (hds : ∀ d ∈ ds, Text.isDigit d = true)
      (hes : ∀ d ∈ es, Text.isDigit d = true) : IsNumber (ds ++ '.' :: es)
  /-- A point and digits. -/
  | fraction {es : List Char} (hne : es ≠ []) (hes : ∀ d ∈ es, Text.isDigit d = true) :
      IsNumber ('.' :: es)

/-- The names of the units. -/
def unitNames : List (List Char) :=
  [['n', 's'], ['u', 's'], ['µ', 's'], ['μ', 's'], ['m', 's'], ['s'], ['m'], ['h']]

/-- A part: a number and right after it a unit. -/
inductive IsPart : List Char → Prop
  /-- The number and the unit. -/
  | mk {number unit : List Char} (hnumber : IsNumber number) (hunit : unit ∈ unitNames) :
      IsPart (number ++ unit)

/-- A duration without its sign: a zero, or one or more parts. -/
inductive IsUnsigned : List Char → Prop
  /-- The digit zero alone. -/
  | zero : IsUnsigned ['0']
  /-- Parts, one after another. -/
  | parts {parts : List (List Char)} (hne : parts ≠ []) (hparts : ∀ p ∈ parts, IsPart p) :
      IsUnsigned parts.flatten

/-- A duration. -/
inductive IsDuration : List Char → Prop
  /-- It has no sign. -/
  | unsigned {cs : List Char} (h : IsUnsigned cs) : IsDuration cs
  /-- It has a plus sign. -/
  | plus {cs : List Char} (h : IsUnsigned cs) : IsDuration ('+' :: cs)
  /-- It has a minus sign. -/
  | minus {cs : List Char} (h : IsUnsigned cs) : IsDuration ('-' :: cs)

variable {cs rest number unit p : List Char} {c : Char}

/-- A number begins with a digit or a point. -/
theorem IsNumber.head? (h : IsNumber number) :
    ∃ c more, number = c :: more ∧ (Text.isDigit c = true ∨ c = '.') := by
  cases h with
  | whole hne hds =>
    obtain ⟨d, ds, rfl⟩ := List.exists_cons_of_ne_nil hne
    exact ⟨d, ds, rfl, .inl (hds d (.head _))⟩
  | @pointed _ es hne hds =>
    obtain ⟨d, ds, rfl⟩ := List.exists_cons_of_ne_nil hne
    exact ⟨d, ds ++ '.' :: es, rfl, .inl (hds d (.head _))⟩
  | fraction => exact ⟨'.', _, rfl, .inr rfl⟩

/-- A part begins with a digit or a point. -/
theorem IsPart.head? (h : IsPart p) :
    ∃ c more, p = c :: more ∧ (Text.isDigit c = true ∨ c = '.') := by
  obtain ⟨hnumber, hunit⟩ := h
  obtain ⟨c, more, rfl, hc⟩ := hnumber.head?
  exact ⟨c, _, rfl, hc⟩

/-- A text may follow a part: it is over, or another number begins. -/
def MayFollow (rest : List Char) : Prop := ∀ c ∈ rest.head?, Text.isDigit c = true ∨ c = '.'

theorem mayFollow_flatten {parts : List (List Char)} (hparts : ∀ p ∈ parts, IsPart p) :
    MayFollow parts.flatten := by
  cases parts with
  | nil => exact nofun
  | cons p parts =>
    obtain ⟨c, more, rfl, hc⟩ := (hparts p (.head _)).head?
    intro d hd
    cases hd
    exact hc

/-! ### One part -/

/-- The digits at the front of a text are found, if no digit comes after them. -/
theorem span_isDigit {ds : List Char} (hds : ∀ d ∈ ds, Text.isDigit d = true)
    (hrest : ∀ c ∈ rest.head?, Text.isDigit c = false) :
    (ds ++ rest).span Text.isDigit = (ds, rest) := by
  have hstop : rest.takeWhile Text.isDigit = [] ∧ rest.dropWhile Text.isDigit = rest := by
    cases rest with
    | nil => exact ⟨rfl, rfl⟩
    | cons c rest =>
      have hc : ¬Text.isDigit c = true := by rw [hrest c rfl]; exact Bool.false_ne_true
      exact ⟨List.takeWhile_cons_of_neg hc, List.dropWhile_cons_of_neg hc⟩
  rw [List.span_eq_takeWhile_dropWhile, List.takeWhile_append_of_pos hds,
    List.dropWhile_append_of_pos hds, hstop.1, hstop.2, List.append_nil]

/-- What `span` takes are digits, and it loses nothing. -/
theorem of_span_isDigit {ds : List Char} (h : cs.span Text.isDigit = (ds, rest)) :
    cs = ds ++ rest ∧ ∀ d ∈ ds, Text.isDigit d = true := by
  rw [List.span_eq_takeWhile_dropWhile, Prod.mk.injEq] at h
  obtain ⟨rfl, rfl⟩ := h
  exact ⟨List.takeWhile_append_dropWhile.symm, fun d hd => List.mem_takeWhile_imp hd⟩

/-- A number is taken from a text if neither a digit nor a point comes after it. -/
theorem takeNumber?_append (h : IsNumber number)
    (hrest : ∀ c ∈ rest.head?, Text.isDigit c = false ∧ c ≠ '.') :
    ∃ n, takeNumber? (number ++ rest) = some (n, rest) := by
  have hdigit : ∀ c ∈ rest.head?, Text.isDigit c = false := fun c hc => (hrest c hc).1
  have hpoint : ∀ more : List Char, ∀ c ∈ ('.' :: more).head?, Text.isDigit c = false := by
    intro more c hc
    cases hc
    decide +kernel
  cases h with
  | whole hne hds =>
    rw [takeNumber?, span_isDigit hds hdigit]
    dsimp only
    split
    · exact absurd rfl (hrest _ rfl).2
    · exact ⟨_, if_neg (by simpa using hne)⟩
  | @pointed ds es hne hds hes =>
    rw [List.append_assoc, List.cons_append, takeNumber?]
    simp only [span_isDigit hds (hpoint _), span_isDigit hes hdigit]
    exact ⟨_, if_neg (by simp [hne])⟩
  | @fraction es hne hes =>
    have hnone : ('.' :: es ++ rest).span Text.isDigit = ([], '.' :: (es ++ rest)) :=
      @span_isDigit _ [] nofun (hpoint _)
    rw [takeNumber?]
    simp only [hnone, span_isDigit hes hdigit]
    exact ⟨_, if_neg (by simp [hne])⟩

theorem exists_of_takeNumber? {n : Number} (h : takeNumber? cs = some (n, rest)) :
    ∃ number, IsNumber number ∧ cs = number ++ rest ∧
      (n.whole ++ n.part).length ≤ number.length := by
  rw [takeNumber?] at h
  cases hspan : cs.span Text.isDigit with
  | mk ds after =>
    obtain ⟨rfl, hds⟩ := of_span_isDigit hspan
    rw [hspan] at h
    dsimp only at h
    split at h
    · next more =>
      cases hmore : more.span Text.isDigit with
      | mk es after =>
        obtain ⟨rfl, hes⟩ := of_span_isDigit hmore
        rw [hmore] at h
        dsimp only at h
        split at h
        · cases h
        · next hsome =>
          cases h
          rw [Bool.and_eq_true, List.isEmpty_iff, List.isEmpty_iff] at hsome
          by_cases hne : ds = []
          · subst hne
            exact ⟨'.' :: es, .fraction (fun he => hsome ⟨rfl, he⟩) hes, rfl, by simp⟩
          · exact ⟨ds ++ '.' :: es, .pointed hne hds hes, by simp, by simp⟩
    · split at h
      · cases h
      · next hne =>
        cases h
        exact ⟨ds, .whole (by simpa using hne) hds, rfl, by simp⟩

/-- A unit is taken from a text if no `s` comes after it, which would make one unit another. -/
theorem takeUnit?_append (h : unit ∈ unitNames) (hrest : ∀ c ∈ rest.head?, c ≠ 's') :
    ∃ u, takeUnit? (unit ++ rest) = some (u, rest) := by
  simp only [unitNames, List.mem_cons, List.not_mem_nil, or_false] at h
  obtain rfl | rfl | rfl | rfl | rfl | rfl | rfl | rfl := h
  case inr.inr.inr.inr.inr.inr.inl =>
    -- minutes, which `s` would make milliseconds
    cases rest with
    | nil => exact ⟨_, rfl⟩
    | cons c rest =>
      refine ⟨.minute, ?_⟩
      have hc : c ≠ 's' := hrest c rfl
      simp [takeUnit?, hc]
  all_goals exact ⟨_, rfl⟩

theorem exists_of_takeUnit? {u : TimeUnit} (h : takeUnit? cs = some (u, rest)) :
    ∃ unit ∈ unitNames, cs = unit ++ rest := by
  unfold takeUnit? at h
  split at h <;> cases h
  · exact ⟨['n', 's'], by decide, rfl⟩
  · exact ⟨['u', 's'], by decide, rfl⟩
  · exact ⟨['µ', 's'], by decide, rfl⟩
  · exact ⟨['μ', 's'], by decide, rfl⟩
  · exact ⟨['m', 's'], by decide, rfl⟩
  · exact ⟨['s'], by decide, rfl⟩
  · exact ⟨['m'], by decide, rfl⟩
  · exact ⟨['h'], by decide, rfl⟩

/-- No unit begins with a digit or a point. -/
theorem head?_of_mem_unitNames (h : unit ∈ unitNames) :
    ∀ c ∈ (unit ++ rest).head?, Text.isDigit c = false ∧ c ≠ '.' := by
  have hall : ∀ name ∈ unitNames, ∃ c more, name = c :: more ∧ Text.isDigit c = false ∧
      c ≠ '.' := by
    simp only [unitNames, List.forall_mem_cons, List.not_mem_nil, false_imp_iff, implies_true,
      and_true]
    refine ⟨?_, ?_, ?_, ?_, ?_, ?_, ?_, ?_⟩
    all_goals exact ⟨_, _, rfl, by decide +kernel, by decide⟩
  obtain ⟨c, more, rfl, hc⟩ := hall unit h
  intro d hd
  cases hd
  exact hc

/-- A part is taken from a text, whatever may follow it. -/
theorem takePart?_append (h : IsPart p) (hrest : MayFollow rest) :
    ∃ seconds, takePart? (p ++ rest) = some (seconds, rest) := by
  obtain @⟨number, unit, hnumber, hunit⟩ := h
  have hs : ∀ c ∈ rest.head?, c ≠ 's' := by
    rintro c hc rfl
    obtain hdigit | hpoint := hrest _ hc
    · exact absurd hdigit (by decide +kernel)
    · exact absurd hpoint (by decide)
  have hstop : ∀ c ∈ (unit ++ rest).head?, Text.isDigit c = false ∧ c ≠ '.' :=
    head?_of_mem_unitNames hunit
  obtain ⟨n, hn⟩ := takeNumber?_append hnumber hstop
  obtain ⟨u, hu⟩ := takeUnit?_append hunit hs
  refine ⟨n.value.mul u.seconds, ?_⟩
  rw [List.append_assoc, takePart?, hn]
  change ((takeUnit? _).bind fun _ => _) = _
  rw [hu]
  rfl

theorem exists_of_takePart? {seconds : Binary64} (h : takePart? cs = some (seconds, rest)) :
    ∃ p, IsPart p ∧ cs = p ++ rest := by
  obtain ⟨⟨n, after⟩, hn, h⟩ := Option.bind_eq_some_iff.mp h
  obtain ⟨⟨u, last⟩, hu, h⟩ := Option.bind_eq_some_iff.mp h
  cases h
  obtain ⟨number, hnumber, rfl, -⟩ := exists_of_takeNumber? hn
  obtain ⟨unit, hunit, rfl⟩ := exists_of_takeUnit? hu
  exact ⟨number ++ unit, ⟨hnumber, hunit⟩, (List.append_assoc ..).symm⟩

/-- What is left is shorter. -/
theorem length_lt_of_takePart? {seconds : Binary64} (h : takePart? cs = some (seconds, rest)) :
    rest.length < cs.length := by
  obtain ⟨p, hp, rfl⟩ := exists_of_takePart? h
  obtain ⟨c, more, rfl, -⟩ := hp.head?
  rw [List.length_append, List.length_cons]
  omega

/-! ### The scan -/

/-- The scan of a text, round by round, without a bound on the rounds: the seconds so far, what is
left of the text, and what comes out, which is nothing if the scan gets stuck. -/
inductive Scan : Binary64 → List Char → Option Binary64 → Prop
  /-- Nothing is left. -/
  | done (total : Binary64) : Scan total [] (some total)
  /-- No part comes next. -/
  | stuck {total : Binary64} {cs : List Char} (hne : cs ≠ []) (h : takePart? cs = none) :
      Scan total cs none
  /-- A part comes next. -/
  | round {total seconds : Binary64} {cs rest : List Char} {result : Option Binary64}
      (h : takePart? cs = some (seconds, rest)) (hrest : Scan (total.add seconds) rest result) :
      Scan total cs result

/-- **Termination.** The scan of every text comes to an end, and as many rounds as there are
characters are enough. -/
theorem scan_sumParts? {fuel : Nat} (total : Binary64) (h : cs.length ≤ fuel) :
    Scan total cs (sumParts? fuel total cs) := by
  induction fuel generalizing total cs with
  | zero =>
    cases List.length_eq_zero_iff.mp (Nat.le_zero.mp h)
    exact .done total
  | succ fuel ih =>
    cases cs with
    | nil => exact .done total
    | cons c cs =>
      rw [sumParts?]
      · cases hpart : takePart? (c :: cs) with
        | none => exact .stuck (List.cons_ne_nil _ _) hpart
        | some part =>
          obtain ⟨seconds, rest⟩ := part
          have hlength := length_lt_of_takePart? hpart
          exact .round hpart (ih _ (by omega))
      · exact nofun

/-- The scan gives a sum exactly for texts that consist of parts. -/
theorem Scan.isSome_iff {total : Binary64} {result : Option Binary64} (h : Scan total cs result) :
    result.isSome = true ↔ ∃ parts : List (List Char), (∀ p ∈ parts, IsPart p) ∧
      cs = parts.flatten := by
  induction h with
  | done total => exact ⟨fun _ => ⟨[], nofun, rfl⟩, fun _ => rfl⟩
  | stuck hne hnone =>
    refine ⟨nofun, ?_⟩
    rintro ⟨_ | ⟨p, parts⟩, hparts, rfl⟩
    · exact absurd rfl hne
    · obtain ⟨hp, hparts⟩ := List.forall_mem_cons.mp hparts
      obtain ⟨seconds, hsome⟩ := takePart?_append hp (mayFollow_flatten hparts)
      rw [List.flatten_cons, hsome] at hnone
      cases hnone
  | @round total seconds cs rest result hpart hrest ih =>
    rw [ih]
    constructor
    · rintro ⟨parts, hparts, rfl⟩
      obtain ⟨p, hp, rfl⟩ := exists_of_takePart? hpart
      exact ⟨p :: parts, List.forall_mem_cons.mpr ⟨hp, hparts⟩, rfl⟩
    · rintro ⟨_ | ⟨p, parts⟩, hparts, rfl⟩
      · cases hpart
      · -- the part that was taken is the first of these
        obtain ⟨hp, hparts⟩ := List.forall_mem_cons.mp hparts
        obtain ⟨_, hsome⟩ := takePart?_append hp (mayFollow_flatten hparts)
        rw [List.flatten_cons, hsome] at hpart
        cases hpart
        exact ⟨parts, hparts, rfl⟩

theorem isSome_sumParts?_iff (total : Binary64) (cs : List Char) :
    (sumParts? cs.length total cs).isSome = true ↔
      ∃ parts : List (List Char), (∀ p ∈ parts, IsPart p) ∧ cs = parts.flatten :=
  (scan_sumParts? total (Nat.le_refl _)).isSome_iff

/-! ### Whole texts -/

/-- A duration without its sign begins with a digit or a point. -/
theorem IsUnsigned.head? (h : IsUnsigned cs) :
    ∃ c more, cs = c :: more ∧ (Text.isDigit c = true ∨ c = '.') := by
  cases h with
  | zero => exact ⟨'0', [], rfl, .inl (by decide +kernel)⟩
  | @parts parts hne hparts =>
    obtain ⟨p, parts, rfl⟩ := List.exists_cons_of_ne_nil hne
    obtain ⟨c, more, rfl, hc⟩ := (hparts p (.head _)).head?
    exact ⟨c, more ++ parts.flatten, rfl, hc⟩

theorem isUnsigned_iff : IsUnsigned cs ↔
    cs = ['0'] ∨ cs ≠ [] ∧ (sumParts? cs.length (.zero false) cs).isSome = true := by
  rw [isSome_sumParts?_iff]
  constructor
  · intro h
    obtain ⟨c, more, hcs, -⟩ := h.head?
    cases h with
    | zero => exact .inl rfl
    | @parts parts hne hparts =>
      refine .inr ⟨?_, parts, hparts, rfl⟩
      rw [hcs]
      exact List.cons_ne_nil _ _
  · rintro (rfl | ⟨hne, parts, hparts, rfl⟩)
    · exact .zero
    · refine .parts ?_ hparts
      rintro rfl
      exact hne rfl

/-- The sign is taken off a duration. -/
theorem isDuration_iff : IsDuration cs ↔ IsUnsigned (takeSign cs).2 := by
  have hsign : ∀ {c more}, (c = '+' ∨ c = '-') → ¬IsUnsigned (c :: more) := by
    intro c more hc h
    obtain ⟨d, _, hcons, hd⟩ := h.head?
    cases hcons
    obtain rfl | rfl := hc
    all_goals
      obtain hd | hd := hd
      · exact absurd hd (by decide +kernel)
      · exact absurd hd (by decide)
  unfold takeSign
  split
  · next rest =>
    refine ⟨?_, .minus⟩
    rintro (h | h | h)
    · exact absurd h (hsign (.inr rfl))
    · exact h
  · next rest =>
    refine ⟨?_, .plus⟩
    rintro (h | h | h)
    · exact absurd h (hsign (.inl rfl))
    · exact h
  · next cs hminus hplus =>
    refine ⟨?_, .unsigned⟩
    rintro (h | h | h)
    · exact h
    · exact absurd rfl (hplus _)
    · exact absurd rfl (hminus _)

/-- **The grammar.** A text is a duration exactly if it follows the grammar, blanks around it
aside. -/
theorem exists_parse_iff (s : String) :
    (∃ x, parse s = .ok x) ↔ IsDuration (Text.trim s.toList) := by
  rw [isDuration_iff, isUnsigned_iff, parse]
  generalize Text.trim s.toList = cs
  cases cs with
  | nil =>
    refine ⟨nofun, ?_⟩
    rintro (h | ⟨h, -⟩)
    · cases h
    · exact absurd rfl h
  | cons c cs =>
    dsimp only
    generalize takeSign (c :: cs) = signed
    obtain ⟨negative, body⟩ := signed
    split
    · next h =>
      cases h
      exact ⟨fun _ => .inl rfl, fun _ => ⟨_, rfl⟩⟩
    · next h =>
      cases h
      refine ⟨nofun, ?_⟩
      rintro (h | ⟨h, -⟩)
      · cases h
      · exact absurd rfl h
    · next hzero hempty h =>
      cases h
      rw [or_iff_right hzero, and_iff_right hempty]
      cases sumParts? body.length (.zero false) body with
      | none => exact ⟨nofun, nofun⟩
      | some total => exact ⟨fun _ => rfl, fun _ => ⟨_, rfl⟩⟩

end Duration

/-! ### Delays -/

namespace MountSettings

variable {secret : Option (Keyed String)} {attributes : Keyed String} {options : List String}
  {c : Config} {s : MountSettings}

/-- The attributes without the delay. -/
def undelayed (attributes : Keyed String) : Keyed String :=
  Keyed.erase attributes Attribute.deleteDelay

theorem get?_undelayed {key : String} (hkey : key ≠ Attribute.deleteDelay) :
    Keyed.get? (undelayed attributes) key = Keyed.get? attributes key := by
  rw [undelayed, Keyed.get?_erase, if_neg (Ne.symm hkey)]

theorem textAt_undelayed {key : String} (hkey : key ≠ Attribute.deleteDelay) :
    textAt (undelayed attributes) key = textAt attributes key := by
  rw [textAt, textAt, get?_undelayed hkey]

theorem readDelay_undelayed : readDelay (undelayed attributes) = .ok "" := by
  have htext : textAt (undelayed attributes) Attribute.deleteDelay = "" := by
    rw [textAt, undelayed, Keyed.get?_erase, if_pos rfl, Option.getD_none]
  rw [readDelay, htext]
  rfl

/-- A delay that is given has to be a duration. -/
theorem readDelay_of_ne (hdelay : textAt attributes Attribute.deleteDelay ≠ "") :
    readDelay attributes = match Duration.parse (textAt attributes Attribute.deleteDelay) with
      | .ok _ => .ok (textAt attributes Attribute.deleteDelay)
      | .error _ => badArgument (.delay (textAt attributes Attribute.deleteDelay)) := by
  rw [readDelay]
  exact if_neg (by simpa using hdelay)

/-- Settings that are in order without a delay take one that is a duration, as it is written, and
refuse any other. -/
theorem resolve_eq_of_undelayed (h : resolve secret (undelayed attributes) options c = .ok s)
    (hdelay : textAt attributes Attribute.deleteDelay ≠ "") :
    resolve secret attributes options c =
      match Duration.parse (textAt attributes Attribute.deleteDelay) with
      | .ok _ => .ok { s with deletedDelay := textAt attributes Attribute.deleteDelay }
      | .error _ => badArgument (.delay (textAt attributes Attribute.deleteDelay)) := by
  have hcaches : CacheSources.read (undelayed attributes) options =
      CacheSources.read attributes options := by
    rw [CacheSources.read, CacheSources.read, textAt_undelayed (by decide),
      get?_undelayed (by decide), get?_undelayed (by decide)]
  have hmap : ∀ key, key ≠ Attribute.deleteDelay →
      mapAt (undelayed attributes) key = mapAt attributes key := by
    intro key hkey
    rw [mapAt, mapAt, textAt_undelayed hkey]
  have hlabels : readLabels c (undelayed attributes) = readLabels c attributes := by
    rw [readLabels, readLabels, hmap _ (by decide)]
  have himage : ∀ isCe, imageFor c (undelayed attributes) isCe = imageFor c attributes isCe := by
    intro isCe
    rw [imageFor, imageFor, textAt_undelayed (by decide)]
  obtain ⟨own, hown, h⟩ := bind_eq_ok.mp h
  obtain ⟨⟨caches, kept⟩, hread, h⟩ := bind_eq_ok.mp h
  obtain ⟨resources, hresources, h⟩ := bind_eq_ok.mp h
  obtain ⟨delay, hnone, h⟩ := bind_eq_ok.mp h
  obtain ⟨labels, hown', h⟩ := bind_eq_ok.mp h
  obtain ⟨annotations, hannotations, h⟩ := bind_eq_ok.mp h
  cases h
  rw [hcaches] at hread
  simp (disch := decide) only [textAt_undelayed] at hresources
  rw [hlabels] at hown'
  rw [hmap _ (by decide)] at hannotations
  rw [readDelay_undelayed] at hnone
  cases hnone
  simp only [resolve, hown, hread, hresources, readDelay_of_ne hdelay, bind, Except.bind]
  cases Duration.parse (textAt attributes Attribute.deleteDelay) with
  | error reason => rfl
  | ok seconds =>
    simp (disch := decide) only [hown', hannotations, himage, textAt_undelayed]
    rfl

/-- **Durations and delays.** A text is a duration exactly if it follows the grammar, blanks around
it aside. The scan of its parts comes to an end on every text. Settings that are in order without a
delay take one exactly if it is a duration, and keep it as it is written. -/
theorem parse_and_resolve_iff :
    (∀ text : String, (∃ x, Duration.parse text = .ok x) ↔
      Duration.IsDuration (Text.trim text.toList)) ∧
    (∀ total cs, Duration.Scan total cs (Duration.sumParts? cs.length total cs)) ∧
    ∀ secret attributes options c s,
      resolve secret (undelayed attributes) options c = .ok s →
      textAt attributes Attribute.deleteDelay ≠ "" →
      ∀ t, resolve secret attributes options c = .ok t ↔
        (∃ x, Duration.parse (textAt attributes Attribute.deleteDelay) = .ok x) ∧
          t = { s with deletedDelay := textAt attributes Attribute.deleteDelay } := by
  refine ⟨Duration.exists_parse_iff, fun total cs => Duration.scan_sumParts? total le_rfl, ?_⟩
  intro secret attributes options c s hs hdelay t
  rw [resolve_eq_of_undelayed hs hdelay]
  cases Duration.parse (textAt attributes Attribute.deleteDelay) with
  | error reason =>
    refine ⟨nofun, ?_⟩
    rintro ⟨⟨x, hx⟩, -⟩
    cases hx
  | ok seconds =>
    rw [Except.ok.injEq, and_iff_right ⟨seconds, rfl⟩]
    exact eq_comm

/-- A delay with a sign, blanks around it, digits of two scripts, and units of which one begins with
another. -/
def signedDelay : String := "\u00a0+1.h\u0663m.5ms\n"

/-- Attributes that give a cache and the delay. -/
def delayedAttributes : Keyed String :=
  [(Attribute.cachePvc, "cache-a"), (Attribute.deleteDelay, signedDelay)]

theorem parse_and_resolve_iff_signedDelay :
    (∃ x, Duration.parse signedDelay = .ok x) ∧
    ∃ s, resolve none (undelayed delayedAttributes) ["ro"] {} = .ok s ∧
      textAt delayedAttributes Attribute.deleteDelay ≠ "" ∧
      resolve none delayedAttributes ["ro"] {} = .ok { s with deletedDelay := signedDelay } := by
  have htrim : Text.trim signedDelay.toList =
      '+' :: [['1', '.', 'h'], ['\u0663', 'm'], ['.', '5', 'm', 's']].flatten := by decide +kernel
  have hdigits : ['1', '\u0663', '5'].all Text.isDigit = true := by decide +kernel
  have hgrammar : Duration.IsDuration (Text.trim signedDelay.toList) := by
    rw [htrim]
    refine .plus (.parts (List.cons_ne_nil _ _) ?_)
    simp only [List.forall_mem_cons, List.not_mem_nil, false_imp_iff, implies_true, and_true]
    have hone : Duration.IsNumber (['1'] ++ ['.']) := .pointed (by decide) (by simp_all) nofun
    have hthree : Duration.IsNumber ['\u0663'] := .whole (by decide) (by simp_all)
    have hhalf : Duration.IsNumber ['.', '5'] := .fraction (by decide) (by simp_all)
    exact ⟨.mk hone (by decide), .mk hthree (by decide), .mk hhalf (by decide)⟩
  have hparse := (parse_and_resolve_iff.1 signedDelay).mpr hgrammar
  have htext : textAt delayedAttributes Attribute.deleteDelay = signedDelay := by decide
  have hne : textAt delayedAttributes Attribute.deleteDelay ≠ "" := by decide
  obtain ⟨s, hs⟩ : ∃ s, resolve none (undelayed delayedAttributes) ["ro"] {} = .ok s := ⟨_, rfl⟩
  refine ⟨hparse, s, hs, hne, ?_⟩
  refine (parse_and_resolve_iff.2.2 none delayedAttributes ["ro"] {} s hs hne _).mpr ⟨?_, ?_⟩
  · rw [htext]
    exact hparse
  · rw [htext]

end MountSettings

end SubpathCsi
