import SubpathCsi.Proofs.Config.Fields
import SubpathCsi.Proofs.Duration
import SubpathCsi.Proofs.Number.Binary64

/-!
# The lifetime of an authorization

Any text may be given for the lifetime of an authorization. A text that is no duration, or too short
a duration, gives the usual lifetime. A duration is added up in floating-point numbers; with some
hundreds of digits the sum is infinite, and an infinite number has no whole part.

* `Duration.parse_ne_nan`: a duration is always a number, if perhaps an infinite one;
* `Duration.IsEndless`, `Config.authLifetime_cases`: the lifetimes that texts give;
* `Config.exists_load_iff`: what a configuration may fail for.
-/

namespace SubpathCsi

/-! ### Durations -/

/-- Digits write a number below the power of ten that has one digit more. -/
theorem Text.digitsValue_lt (ds : List Char) : Text.digitsValue ds < 10 ^ ds.length := by
  have hdigit : ∀ c, (Text.digitValue? c).getD 0 ≤ 9 := by
    intro c
    cases hvalue : Text.digitValue? c with
    | none => exact Nat.zero_le _
    | some v =>
      obtain ⟨z, hz, rfl⟩ := Option.map_eq_some_iff.mp hvalue
      have hrange := List.find?_some hz
      simp at hrange
      rw [Option.getD_some]
      omega
  have hfold : ∀ (ds : List Char) (n : Nat),
      ds.foldl (fun n c => 10 * n + (Text.digitValue? c).getD 0) n < (n + 1) * 10 ^ ds.length := by
    intro ds
    induction ds with
    | nil => simp
    | cons c ds ih =>
      intro n
      have hstep : 10 * n + (Text.digitValue? c).getD 0 + 1 ≤ 10 * (n + 1) := by
        have := hdigit c
        omega
      refine (ih _).trans_le ((Nat.mul_le_mul_right _ hstep).trans_eq ?_)
      rw [List.length_cons, Nat.pow_succ']
      ac_rfl
  simpa [Text.digitsValue] using hfold ds 0

namespace Duration

/-- A unit is a finite number of seconds, and not zero. -/
theorem exists_seconds_eq (u : TimeUnit) : ∃ m e, u.seconds = .finite false m e ∧ m ≠ 0 := by
  have hpositive : u.seconds.isPositive = true := by cases u <;> decide +kernel
  exact Binary64.isPositive_iff.mp hpositive

theorem isMagnitude_of_takePart? {cs rest : List Char} {seconds : Binary64}
    (h : takePart? cs = some (seconds, rest)) : seconds.IsMagnitude := by
  obtain ⟨⟨n, after⟩, -, h⟩ := Option.bind_eq_some_iff.mp h
  obtain ⟨⟨u, last⟩, -, h⟩ := Option.bind_eq_some_iff.mp h
  cases h
  obtain ⟨m, e, hseconds, hm⟩ := exists_seconds_eq u
  rw [hseconds]
  exact (Binary64.isMagnitude_ofDecimal _ _).mul hm e

/-- Sums of parts are not below zero. -/
theorem Scan.isMagnitude {total : Binary64} {cs : List Char} {result : Option Binary64}
    (h : Scan total cs result) (htotal : total.IsMagnitude) : ∀ x ∈ result, x.IsMagnitude := by
  induction h with
  | done total =>
    intro x hx
    cases hx
    exact htotal
  | stuck => exact nofun
  | round hpart hrest ih => exact ih (htotal.add (isMagnitude_of_takePart? hpart))

/-- A signed text is the sum of its parts with the sign. -/
theorem parse_of_trim {s : String} {body : List Char} (h : Text.trim s.toList = '-' :: body)
    (hne : body ≠ []) (hzero : body ≠ ['0']) :
    parse s = match sumParts? body.length (.zero false) body with
      | none => .error (.malformed s)
      | some total => .ok total.neg := by
  rw [parse, h]
  dsimp only [takeSign]
  split
  · next heq => cases heq; exact absurd rfl hzero
  · next heq => cases heq; exact absurd rfl hne
  · next heq =>
    cases heq
    rfl

/-- A duration is zero, or a sum that a scan has found. -/
theorem scan_of_parse {s : String} {x : Binary64} (h : parse s = .ok x) :
    x = .zero false ∨ ∃ (negative : Bool) (body : List Char) (total : Binary64),
      body.length ≤ s.length ∧ Scan (.zero false) body (some total) ∧
        x = if negative then total.neg else total := by
  have htrim : (Text.trim s.toList).length ≤ s.length := by
    have hends : ∀ cs : List Char, (cs.dropWhile Text.isBlank).length ≤ cs.length :=
      fun cs => (List.dropWhile_sublist _).length_le
    have hend := hends (Text.trimStart s.toList).reverse
    rw [List.length_reverse] at hend
    rw [Text.trim, Text.trimEnd, List.length_reverse, ← String.length_toList]
    exact hend.trans (hends s.toList)
  have hsign : ∀ cs, (takeSign cs).2.length ≤ cs.length := by
    intro cs
    unfold takeSign
    split <;> simp
  rw [parse] at h
  split at h
  · cases h
  · next cs _ =>
    have hbody := hsign (Text.trim s.toList)
    split at h
    · cases h
      exact .inl rfl
    · cases h
    · next negative body _ _ heq =>
      rw [heq] at hbody
      have hscan := scan_sumParts? (.zero false) (Nat.le_refl body.length)
      cases hsum : sumParts? body.length (.zero false) body with
      | none =>
        rw [hsum] at h
        cases h
      | some total =>
        rw [hsum] at h hscan
        cases h
        exact .inr ⟨negative, body, total, hbody.trans htrim, hscan, rfl⟩

/-- A duration is a number. -/
theorem parse_ne_nan {s : String} {x : Binary64} (h : parse s = .ok x) : x ≠ .nan := by
  rcases scan_of_parse h with rfl | ⟨negative, body, total, -, hscan, rfl⟩
  · exact nofun
  · have htotal := hscan.isMagnitude (.finite ..) total rfl
    cases htotal <;> cases negative <;> exact nofun

/-- The text is a duration beyond all finite numbers of seconds. -/
def IsEndless (text : String) : Prop := ∃ negative, parse text = .ok (.infinite negative)

/-! ### Short durations -/

theorem atMost_seconds (u : TimeUnit) : u.seconds.AtMost 12 := by
  have hwhole : ∀ n : Nat, n ≤ 2 ^ 12 → (Binary64.ofNat n).AtMost 12 := by
    intro n hn
    refine Binary64.atMost_ofRatio Nat.one_pos ?_ (by decide) (by decide)
    rw [Nat.cast_one, div_one]
    exact_mod_cast hn
  have hfraction : ∀ power : Int, power ≤ 0 → (Binary64.ofDecimal false 1 power).AtMost 12 :=
    fun power hpower =>
      (Binary64.atMost_ofDecimal (j := 0) le_rfl (by decide) hpower).mono (by decide)
  cases u with
  | nanosecond | microsecond | millisecond => exact hfraction _ (by decide)
  | second | minute | hour => exact hwhole _ (by decide)

/-- Four bits are enough for each character of a part, and twelve for its unit. -/
theorem atMost_of_takePart? {cs rest : List Char} {seconds : Binary64}
    (h : takePart? cs = some (seconds, rest)) (hcs : cs.length ≤ 250) :
    seconds.AtMost (4 * cs.length + 12) := by
  obtain ⟨⟨n, after⟩, hn, h⟩ := Option.bind_eq_some_iff.mp h
  obtain ⟨⟨u, last⟩, -, h⟩ := Option.bind_eq_some_iff.mp h
  cases h
  obtain ⟨number, -, rfl, hlength⟩ := exists_of_takeNumber? hn
  rw [List.length_append] at hcs ⊢
  have hdigits : Text.digitsValue (n.whole ++ n.part) ≤ 2 ^ (4 * number.length) := by
    calc Text.digitsValue (n.whole ++ n.part) ≤ 10 ^ (n.whole ++ n.part).length :=
          (Text.digitsValue_lt _).le
      _ ≤ 16 ^ number.length :=
          (Nat.pow_le_pow_left (by decide) _).trans (Nat.pow_le_pow_right (by decide) hlength)
      _ = 2 ^ (4 * number.length) := by rw [Nat.pow_mul]
  have hvalue : n.value.AtMost (4 * number.length : Nat) :=
    Binary64.atMost_ofDecimal hdigits (by omega) (by omega)
  exact (hvalue.mul (atMost_seconds u) (by omega) (by omega)).mono (by omega)

/-- A bound on the sum that leaves one bit for each character to come. -/
theorem Scan.atMost {total : Binary64} {cs : List Char} {result : Option Binary64} {k : Nat}
    (h : Scan total cs result) (hcs : 5 * cs.length + 12 ≤ k) (hk : k ≤ 1023)
    (htotal : total.AtMost (k - cs.length)) : ∀ x ∈ result, x.AtMost k := by
  induction h with
  | done total =>
    intro x hx
    cases hx
    simpa using htotal
  | stuck => exact nofun
  | @round total seconds cs rest result hpart hrest ih =>
    have hlength := length_lt_of_takePart? hpart
    have hseconds : seconds.AtMost (k - cs.length) :=
      (atMost_of_takePart? hpart (by omega)).mono (by omega)
    exact ih (by omega) ((htotal.add hseconds (by omega) (by omega)).mono (by omega))

/-- **Short durations end.** No sum of parts that are written in 200 characters is infinite. -/
theorem not_isEndless_of_length_le {text : String} (h : text.length ≤ 200) :
    ¬IsEndless text := by
  rintro ⟨infinity, hparse⟩
  rcases scan_of_parse hparse with hzero | ⟨negative, body, total, hbody, hscan, htotal⟩
  · cases hzero
  · have hbound : total.AtMost (1012 : Nat) :=
      hscan.atMost (by omega) (by decide) (Binary64.atMost_zero _) total rfl
    obtain ⟨m, e, rfl, -⟩ := hbound
    cases negative <;> cases htotal

end Duration

/-! ### Lifetimes -/

namespace Config

/-- What is said of an infinite number in the place of a lifetime. -/
def endlessFailure : Failure := .defect (.outOfRange "cannot convert float infinity to integer")

/-- A text gives a lifetime that is long enough, unless it is a duration without end. -/
theorem authLifetime_cases (raw : String) :
    (Duration.IsEndless raw ∧ authLifetime raw = .error endlessFailure) ∨
      ¬Duration.IsEndless raw ∧ ∃ n, authLifetime raw = .ok n ∧ minAuthLifetime ≤ n := by
  have husual : minAuthLifetime ≤ defaultAuthLifetime := by decide
  by_cases hempty : raw.isEmpty = true
  · have hraw : raw = "" := by simpa using hempty
    subst hraw
    refine .inr ⟨?_, defaultAuthLifetime, rfl, husual⟩
    rintro ⟨_, h⟩
    cases h
  rw [authLifetime, if_neg hempty, Duration.IsEndless]
  cases hparse : Duration.parse raw with
  | error e => exact .inr ⟨by simp, defaultAuthLifetime, rfl, husual⟩
  | ok x =>
    cases x with
    | nan => exact absurd rfl (Duration.parse_ne_nan hparse)
    | infinite negative => exact .inl ⟨⟨negative, rfl⟩, rfl⟩
    | finite negative m e =>
      refine .inr ⟨by simp, _, rfl, ?_⟩
      split
      · exact husual
      · next hlong => exact Int.not_lt.mp hlong

end Config

/-! ### Configurations -/

/-- The setting for the lifetime. -/
def Setting.authLifetime : Setting :=
  ⟨"resource_auth_expire_in",
    .lifetime (·.resourceAuthExpireIn) fun c v => { c with resourceAuthExpireIn := v }⟩

theorem Setting.authLifetime_mem : authLifetime ∈ all :=
  List.mem_of_getElem? (show all[23]? = some authLifetime from rfl)

/-- No other setting refuses a text. -/
theorem Setting.exists_meaning_iff {s : Setting} (hs : s ∈ all) (raw : String) :
    (∃ x, s.meaning raw = .ok x) ↔ (s = authLifetime → ¬Duration.IsEndless (trimmed raw)) := by
  have hall : ∀ s ∈ all, s = authLifetime ∨ ∀ raw, ∃ x, s.meaning raw = .ok x := by
    simp only [all, List.forall_mem_cons, List.not_mem_nil, false_imp_iff, implies_true, and_true]
    and_intros
    all_goals first
      | exact .inl rfl
      | exact .inr fun _ => ⟨_, rfl⟩
  have hlifetime : (∃ x, authLifetime.meaning raw = .ok x) ↔ ¬Duration.IsEndless (trimmed raw) := by
    have hmeaning :
        authLifetime.meaning raw = (Config.authLifetime (trimmed raw)).map .number := rfl
    rw [hmeaning]
    rcases Config.authLifetime_cases (trimmed raw) with ⟨hendless, h⟩ | ⟨hendless, n, h, -⟩
    · simp [h, hendless, Except.map]
    · simp [h, hendless, Except.map]
  by_cases h : s = authLifetime
  · subst h
    exact hlifetime.trans ⟨fun h _ => h, fun h => h rfl⟩
  · exact iff_of_true ((hall s hs).resolve_left h raw) fun heq => absurd heq h

namespace Config

variable {path : String} {source : Option String} {env : Keyed String} {c : Config}

/-- **Configurations that can be read.** The file is one, every setting can be looked up in it and
in the environment, and the lifetime is not endless. -/
theorem exists_load_iff : (∃ c, load path source env = .ok c) ↔
    ∃ file, fileOf path source = .ok file ∧
      (∀ s ∈ Setting.all, ∃ raw?, lookup path file env s = .ok raw?) ∧
      ∀ raw, lookup path file env .authLifetime = .ok (some raw) →
        ¬Duration.IsEndless (trimmed raw) := by
  have hfound : ∀ {file s}, s ∈ Setting.all → ((∃ x, found path file env s = .ok x) ↔
      (∃ raw?, lookup path file env s = .ok raw?) ∧ (s = .authLifetime →
        ∀ raw, lookup path file env s = .ok (some raw) → ¬Duration.IsEndless (trimmed raw))) := by
    intro file s hs
    simp only [found_eq_ok]
    cases hlookup : lookup path file env s with
    | error f => simp
    | ok raw? =>
      cases raw? with
      | none => simp [Setting.result]
      | some raw => simp [Setting.result, Setting.exists_meaning_iff hs raw]
  have hread : ∀ file, (∃ c, read path file env Setting.all {} = .ok c) ↔
      (∀ s ∈ Setting.all, ∃ raw?, lookup path file env s = .ok raw?) ∧
      ∀ raw, lookup path file env .authLifetime = .ok (some raw) →
        ¬Duration.IsEndless (trimmed raw) := by
    intro file
    rw [exists_read_iff]
    constructor
    · intro h
      refine ⟨fun s hs => ((hfound hs).mp (h s hs)).1, ?_⟩
      exact ((hfound Setting.authLifetime_mem).mp (h _ Setting.authLifetime_mem)).2 rfl
    · rintro ⟨hlookups, hlifetime⟩ s hs
      refine (hfound hs).mpr ⟨hlookups s hs, ?_⟩
      rintro rfl
      exact hlifetime
  simp only [← hread, load_eq, bind_eq_ok]
  constructor
  · rintro ⟨c, file, hfile, h⟩
    exact ⟨file, hfile, c, h⟩
  · rintro ⟨file, hfile, c, h⟩
    exact ⟨c, file, hfile, h⟩

/-- The lifetime of a configuration is long enough. -/
theorem le_resourceAuthExpireIn (h : load path source env = .ok c) :
    minAuthLifetime ≤ c.resourceAuthExpireIn := by
  obtain ⟨file, -, hall⟩ := load_eq_ok_iff.mp h
  obtain ⟨raw?, -, hresult⟩ := found_eq_ok.mp (hall _ Setting.authLifetime_mem)
  cases raw? with
  | none =>
    have hdefault : defaultAuthLifetime = c.resourceAuthExpireIn := by
      simpa [Setting.result, Setting.content, Setting.authLifetime] using hresult
    rw [← hdefault]
    decide
  | some raw =>
    have hmeaning : (authLifetime (trimmed raw)).map Content.number =
        .ok (.number c.resourceAuthExpireIn) := hresult
    rcases authLifetime_cases (trimmed raw) with ⟨-, herror⟩ | ⟨-, n, hok, hn⟩
    · rw [herror] at hmeaning
      cases hmeaning
    · rw [hok] at hmeaning
      cases hmeaning
      exact hn

/-- **Lifetimes.** A text gives a lifetime of a minute at least, unless it is an endless duration,
which raises a defect and takes more than 200 characters. A configuration is read exactly if its
file is in order, all settings can be looked up, and the lifetime is not endless; its lifetime is a
minute at least. -/
theorem authLifetime_and_load (raw path : String) (source : Option String) (env : Keyed String) :
    ((∃ n, authLifetime raw = .ok n ∧ 60 ≤ n) ↔ ¬Duration.IsEndless raw) ∧
    (Duration.IsEndless raw → authLifetime raw = .error endlessFailure ∧ 200 < raw.length) ∧
    ((∃ c, load path source env = .ok c) ↔
      ∃ file, fileOf path source = .ok file ∧
        (∀ s ∈ Setting.all, ∃ raw?, lookup path file env s = .ok raw?) ∧
        ∀ given, lookup path file env .authLifetime = .ok (some given) →
          ¬Duration.IsEndless (trimmed given)) ∧
    ∀ c, load path source env = .ok c → 60 ≤ c.resourceAuthExpireIn := by
  refine ⟨?_, fun hendless => ?_, exists_load_iff, fun c hc => le_resourceAuthExpireIn hc⟩
  · rcases authLifetime_cases raw with ⟨hendless, h⟩ | ⟨hshort, hlifetime⟩
    · rw [h]
      exact iff_of_false (by simp) fun hshort => hshort hendless
    · exact iff_of_true hlifetime hshort
  · rcases authLifetime_cases raw with ⟨-, h⟩ | ⟨hshort, -⟩
    · refine ⟨h, ?_⟩
      by_contra hlength
      exact Duration.not_isEndless_of_length_le (Nat.le_of_not_lt hlength) hendless
    · exact absurd hendless hshort

/-- The environment gives a lifetime with blanks around it. -/
def spacedLifetime : Keyed String := [("CFS_RESOURCE_AUTH_EXPIRE_IN", " 1h30m\n")]

theorem authLifetime_and_load_spacedLifetime :
    (∃ n, authLifetime "1h30m" = .ok n ∧ 60 ≤ n) ∧
    ∃ c, load defaultPath none spacedLifetime = .ok c ∧ 60 ≤ c.resourceAuthExpireIn := by
  obtain ⟨hlifetime, hlong, hload, hsafe⟩ :=
    authLifetime_and_load "1h30m" defaultPath none spacedLifetime
  have hshort : ¬Duration.IsEndless "1h30m" := by
    intro hendless
    exact absurd (hlong hendless).2 (by decide)
  have htext : Keyed.get? spacedLifetime Setting.authLifetime.envName = some " 1h30m\n" := by
    decide +kernel
  have htrimmed : trimmed " 1h30m\n" = "1h30m" := by decide +kernel
  obtain ⟨c, hc⟩ : ∃ c, load defaultPath none spacedLifetime = .ok c := by
    refine hload.mpr ⟨none, rfl, fun s _ => ⟨_, lookup_without_file s⟩, ?_⟩
    intro given hgiven
    rw [lookup_of_get? htext] at hgiven
    cases hgiven
    rwa [htrimmed]
  exact ⟨hlifetime.mpr hshort, c, hc, hsafe c hc⟩

/-- More hours than any finite number of seconds has. -/
def endlessHours : List Char := List.replicate 400 '9' ++ ['h']

/-- As many hours below zero. -/
def endlessLifetime : String := String.ofList ('-' :: endlessHours)

theorem isEndless_endlessLifetime :
    trimmed endlessLifetime = endlessLifetime ∧ Duration.IsEndless endlessLifetime := by
  have htrim : Text.trim endlessLifetime.toList = '-' :: endlessHours := by
    rw [endlessLifetime, String.toList_ofList]
    decide +kernel
  have hsum : Duration.sumParts? endlessHours.length (.zero false) endlessHours =
      some (.infinite false) := by
    decide +kernel
  refine ⟨by rw [trimmed, htrim, endlessLifetime], true, ?_⟩
  rw [Duration.parse_of_trim htrim (by decide +kernel) (by decide +kernel), hsum]
  rfl

theorem not_exists_load_endlessLifetime :
    ¬(∀ raw, ∃ n, authLifetime raw = .ok n ∧ 60 ≤ n) ∧
      (∃ c, load defaultPath none [] = .ok c) ∧
      ¬∃ c, load defaultPath none [(Setting.authLifetime.envName, endlessLifetime)] = .ok c := by
  obtain ⟨htrimmed, hendless⟩ := isEndless_endlessLifetime
  refine ⟨?_, ?_, ?_⟩
  · intro hall
    obtain ⟨n, hn, -⟩ := hall endlessLifetime
    rcases authLifetime_cases endlessLifetime with ⟨-, h⟩ | ⟨h, -⟩
    · rw [h] at hn
      cases hn
    · exact h hendless
  · refine exists_load_iff.mpr ⟨none, rfl, fun s _ => ⟨_, lookup_without_file s⟩, ?_⟩
    intro raw hraw
    cases hraw
  · intro hload
    obtain ⟨file, hfile, -, hall⟩ := exists_load_iff.mp hload
    cases hfile
    have htext : Keyed.get? [(Setting.authLifetime.envName, endlessLifetime)]
        Setting.authLifetime.envName = some endlessLifetime := by
      rw [Keyed.get?_cons, if_pos rfl]
    refine hall _ (lookup_of_get? htext) ?_
    rwa [htrimmed]

end Config

end SubpathCsi
