import SubpathCsi.Proofs.Act.Trace
import SubpathCsi.Proofs.Quantity
import SubpathCsi.Proofs.Yaml.Value
import SubpathCsi.Settings.Resolve

/-!
# Texts in settings

The settings of a mount are read from texts in several languages: maps of texts, quantities,
durations, lists of volumes. They are read in a fixed order, and the first that is refused decides.
A text that is none of its language is a malformed argument. But a text may also follow its
language and still break the reading: a number in it is too large, or has no value; a day in it is
none of the calendar.

* `Settles`: a computation succeeds, refuses its argument, or breaks under a condition;
* `Embedded`, `embedded`: the texts of settings and the order in which they are read;
* `Embedded.Breaks`, `TextMap.cases_of_breaks`: the texts of each language that break;
* `MountSettings.resolve_ends`: what reading settings comes to.
-/

namespace SubpathCsi

variable {α β : Type}

/-! ### Computations that refuse their argument -/

/-- A computation succeeds, refuses a malformed argument, or breaks, the last under one
condition. -/
structure Settles (x : Except Failure α) (breaks : Prop) : Prop where
  /-- It has no other end. -/
  ends : (∃ a, x = .ok a) ∨ (∃ cause, x = .error (.reported (.invalidArgument cause))) ∨
    ∃ reason, x = .error (.defect reason)
  /-- It breaks exactly under the condition. -/
  breaks_iff : (∃ reason, x = .error (.defect reason)) ↔ breaks

theorem settles_ok (a : α) : Settles (.ok a) False := ⟨.inl ⟨a, rfl⟩, by simp⟩

theorem settles_badArgument (cause : BadArgument) : Settles (badArgument cause : Except Failure α)
    False := ⟨.inr (.inl ⟨cause, rfl⟩), by simp [badArgument]⟩

theorem settles_defect (reason : Defect) : Settles (.error (.defect reason) : Except Failure α)
    True := ⟨.inr (.inr ⟨reason, rfl⟩), by simp⟩

theorem Settles.congr {x : Except Failure α} {p q : Prop} (h : Settles x p) (hpq : p ↔ q) :
    Settles x q := ⟨h.ends, h.breaks_iff.trans hpq⟩

/-- How a computation ends, but for its result. -/
def forget (x : Except Failure α) : Except Failure Unit := x.map fun _ => ()

theorem forget_eq_error_iff {x : Except Failure α} {f : Failure} :
    forget x = .error f ↔ x = .error f := by
  cases x <;> simp [forget, Except.map]

theorem settles_forget {x : Except Failure α} {p : Prop} (h : Settles x p) :
    Settles (forget x) p := by
  refine ⟨?_, by simpa only [forget_eq_error_iff] using h.breaks_iff⟩
  obtain ⟨a, rfl⟩ | ⟨cause, rfl⟩ | ⟨reason, rfl⟩ := h.ends
  · exact .inl ⟨(), rfl⟩
  · exact .inr (.inl ⟨cause, rfl⟩)
  · exact .inr (.inr ⟨reason, rfl⟩)

theorem Settles.of_forget {x : Except Failure α} {p : Prop} (h : Settles (forget x) p) :
    Settles x p := by
  have hends := h.ends
  have hbreaks := h.breaks_iff
  simp only [forget_eq_error_iff] at hends hbreaks
  refine ⟨?_, hbreaks⟩
  obtain ⟨u, hu⟩ | hrest := hends
  · cases x with
    | ok a => exact .inl ⟨a, rfl⟩
    | error f => cases hu
  · exact .inr hrest

/-- Two computations, the second of which ends alike whatever the first results in. -/
theorem forget_bind {x : Except Failure α} {k : α → Except Failure β} {y z : Except Failure Unit}
    (hx : forget x = y) (hk : ∀ a, forget (k a) = z) : forget (x >>= k) = y >>= fun _ => z := by
  subst hx
  cases x with
  | ok a => exact hk a
  | error f => rfl

/-- A computation whose result is put into another one. -/
theorem forget_bind_pure {x : Except Failure α} {k : α → β} {y : Except Failure Unit}
    (hx : forget x = y) : forget (x >>= fun a => pure (k a)) = y := by
  subst hx
  cases x <;> rfl

/-! ### Languages -/

/-- A text in settings, by the language that it is in. -/
inductive Embedded where
  /-- The name of a filesystem. -/
  | name (text : String)
  /-- A map of texts. -/
  | map (text : String)
  /-- A quantity that bounds the size of a directory. -/
  | sizeLimit (text : String)
  /-- A list of inline volumes. -/
  | inlineVolumes (text : String)
  /-- A quantity of a resource, which is compared with zero. -/
  | resource (text : String)
  /-- A duration. -/
  | delay (text : String)

/-- A map of texts breaks if YAML does, and if it holds an integer that cannot be written. -/
def TextMap.Breaks (text : String) : Prop :=
  (∃ reason, Yaml.Value.ofText text.toList = .error (.defect reason)) ∨
    ∃ members, Yaml.Value.ofText text.toList = .ok (.dict members) ∧
      Yaml.Value.pairsAreWritable members = false

namespace Embedded

/-- Reads a text. -/
def read : Embedded → Except Failure Unit
  | name text => if text.isEmpty then badArgument .emptyName else .ok ()
  | map text => forget (TextMap.parse text)
  | sizeLimit text => forget (quantity text)
  | inlineVolumes text => forget (CacheSources.readInlineVolumes text)
  | resource text => do
    let d ← quantity text
    match d.isNonpositive with
    | .error reason => .error (.defect (.decimal reason))
    | .ok _ => .ok ()
  | delay text =>
    match Duration.parse text with
    | .ok _ => .ok ()
    | .error _ => badArgument (.delay text)

/-- The texts that break the reading. -/
def Breaks : Embedded → Prop
  | map text => TextMap.Breaks text
  | sizeLimit text => Quantity.IsUnscalable text
  | resource text => Quantity.IsUnscalable text ∨ Quantity.IsUnordered text
  | name _ | inlineVolumes _ | delay _ => False

end Embedded

/-- JSON never breaks. -/
theorem TextMap.settles_ofJson (j : Json) : Settles (ofJson j) False := by
  cases j with
  | null | obj => exact settles_ok _
  | bool | int | float | str | arr => exact settles_badArgument _

theorem TextMap.settles_parse (text : String) : Settles (parse text) (Breaks text) := by
  rw [parse, Breaks]
  cases Yaml.Value.ofText text.toList with
  | error problem =>
    cases problem with
    | defect reason => exact (settles_defect reason).congr (by simp)
    | malformed =>
      cases Json.parse text with
      | error reason => exact (settles_badArgument _).congr (by simp)
      | ok j => exact (settles_ofJson j).congr (by simp)
  | ok v =>
    cases v with
    | null => exact (settles_ok _).congr (by simp)
    | dict members =>
      change Settles (if _ then _ else _) _
      split
      · next hwritable => exact (settles_ok _).congr (by simp [hwritable])
      · next hwritable => exact (settles_defect _).congr (by simpa using hwritable)
    | bool | int | float | text | octets | moment | list | pairs | set | loop =>
      exact (settles_badArgument _).congr (by simp)

/-- A map of texts breaks at a token, at a scalar, or at an integer that cannot be written. -/
theorem TextMap.cases_of_breaks {text : String} (h : Breaks text) :
    (∃ reason, .failure (.defect reason) ∈ Yaml.Token.ofText text.toList) ∨
    (∃ root reason, Yaml.Node.ofTokens (Yaml.Token.ofText text.toList) = .ok (some root) ∧
      root.Faulty reason) ∨
    ∃ members, Yaml.Value.ofText text.toList = .ok (.dict members) ∧
      Yaml.Value.pairsAreWritable members = false := by
  obtain ⟨reason, hreason⟩ | hmembers := h
  · obtain htoken | ⟨root, hroot, hfaulty⟩ :=
      (Yaml.Value.gives_ofText text.toList).defect reason hreason
    · exact .inl ⟨reason, htoken⟩
    · exact .inr (.inl ⟨root, reason, hroot, hfaulty⟩)
  · exact .inr (.inr hmembers)

theorem CacheSources.settles_readInlineVolumes (text : String) :
    Settles (readInlineVolumes text) False := by
  rw [readInlineVolumes]
  cases Json.parse text with
  | error reason => exact settles_badArgument _
  | ok j =>
    cases j with
    | arr items =>
      dsimp only
      cases items.mapM Json.members? with
      | none => exact settles_badArgument _
      | some sources => exact settles_ok _
    | null | bool | int | float | str | obj => exact settles_badArgument _

theorem settles_quantity (text : String) :
    Settles (quantity text) (Quantity.IsUnscalable text) := by
  obtain ⟨d, hd, -, hnot⟩ | ⟨cause, hcause, hnot, -⟩ | ⟨reason, hreason, hbad⟩ :=
    quantity_cases text
  · rw [hd]
    exact (settles_ok d).congr (iff_of_false id hnot)
  · rw [hcause]
    exact (settles_badArgument cause).congr (iff_of_false id hnot)
  · rw [hreason]
    exact (settles_defect reason).congr (iff_of_true trivial hbad)

theorem Embedded.settles_resource (text : String) : Settles (resource text).read
    (Quantity.IsUnscalable text ∨ Quantity.IsUnordered text) := by
  rw [read]
  obtain ⟨d, hd, hnan, hnot⟩ | ⟨cause, hcause, hnot, hordered⟩ | ⟨reason, hreason, hbad⟩ :=
    quantity_cases text
  · rw [hd, or_iff_right hnot, ← hnan, ← Decimal.exists_isNonpositive_eq_error_iff]
    change Settles (match d.isNonpositive with
      | .error reason => .error (.defect (.decimal reason))
      | .ok _ => .ok ()) _
    cases d.isNonpositive with
    | error reason => exact (settles_defect _).congr (by simp)
    | ok b => exact (settles_ok ()).congr (by simp)
  · rw [hcause]
    exact (settles_badArgument cause).congr (by simp [hnot, hordered])
  · rw [hreason]
    exact (settles_defect reason).congr (by simp [hbad])

/-- **Languages.** Reading a text succeeds, refuses it, or breaks under the condition of its
language. -/
theorem Embedded.settles_read (e : Embedded) : Settles e.read e.Breaks := by
  cases e with
  | name text =>
    rw [read]
    split
    · exact settles_badArgument _
    · exact settles_ok ()
  | map text => exact settles_forget (TextMap.settles_parse text)
  | sizeLimit text => exact settles_forget (settles_quantity text)
  | inlineVolumes text => exact settles_forget (CacheSources.settles_readInlineVolumes text)
  | resource text => exact settles_resource text
  | delay text =>
    rw [read]
    cases Duration.parse text with
    | error reason => exact settles_badArgument _
    | ok seconds => exact settles_ok ()

/-! ### The order of reading -/

namespace Embedded

/-- A text breaks, and all those before it are accepted. -/
def FirstBreaks (es : List Embedded) : Prop :=
  ∃ before e after, es = before ++ e :: after ∧ (∀ e' ∈ before, e'.read = .ok ()) ∧ e.Breaks

theorem firstBreaks_cons {e : Embedded} {es : List Embedded} :
    FirstBreaks (e :: es) ↔ e.Breaks ∨ e.read = .ok () ∧ FirstBreaks es := by
  constructor
  · rintro ⟨before, e', after, hes, hbefore, hbreaks⟩
    cases before with
    | nil =>
      cases hes
      exact .inl hbreaks
    | cons first before =>
      cases hes
      rw [List.forall_mem_cons] at hbefore
      exact .inr ⟨hbefore.1, before, e', after, rfl, hbefore.2, hbreaks⟩
  · rintro (hbreaks | ⟨hread, before, e', after, rfl, hbefore, hbreaks⟩)
    · exact ⟨[], e, es, rfl, nofun, hbreaks⟩
    · exact ⟨e :: before, e', after, rfl, List.forall_mem_cons.mpr ⟨hread, hbefore⟩, hbreaks⟩

/-- Texts that are read one after another. -/
theorem settles_forM (es : List Embedded) : Settles (forM es read) (FirstBreaks es) := by
  induction es with
  | nil => exact (settles_ok ()).congr (by simp [FirstBreaks])
  | cons e es ih =>
    have he := e.settles_read
    rw [List.forM_cons]
    cases hread : e.read with
    | error f =>
      rw [hread] at he
      have hfirst : e.Breaks ↔ FirstBreaks (e :: es) := by
        rw [firstBreaks_cons, hread]
        simp
      exact he.congr hfirst
    | ok u =>
      rw [hread] at he
      have hnot : ¬e.Breaks := by
        rw [← he.breaks_iff]
        rintro ⟨reason, h⟩
        cases h
      have hfirst : FirstBreaks es ↔ FirstBreaks (e :: es) := by
        rw [firstBreaks_cons, hread, or_iff_right hnot]
        exact (and_iff_right rfl).symm
      exact ih.congr hfirst

end Embedded

/-- A text that is read unless it is empty. -/
def given (text : String) (language : String → Embedded) : List Embedded :=
  if text.isEmpty then [] else [language text]

namespace Embedded

theorem forM_singleton (e : Embedded) : forM [e] read = e.read := by
  rw [List.forM_cons, List.forM_nil]
  cases e.read <;> rfl

theorem forM_given (text : String) (language : String → Embedded) :
    forM (given text language) read = if text.isEmpty then .ok () else (language text).read := by
  rw [given]
  split
  · rfl
  · exact forM_singleton (language text)

/-- The texts of a secret. -/
def ofSecret : Option (Keyed String) → List Embedded
  | none => []
  | some m => .name (textAt m "name") ::
      (given (textAt m "configs") .map ++ given (textAt m "envs") .map)

/-- The size limit in the description of a directory. -/
def ofEmptyDir (text : String) : List Embedded :=
  match (fields ':' (trimmed text)).map trimmed with
  | [_, limit] => given limit .sizeLimit
  | _ => []

/-- The texts that describe caches. -/
def ofCaches (attributes : Keyed String) : List Embedded :=
  ((Keyed.get? attributes Attribute.cacheEmptyDir).map ofEmptyDir).getD [] ++
    ((Keyed.get? attributes Attribute.cacheInlineVolume).map .inlineVolumes).toList

/-- The texts that describe resources. -/
def ofResources (attributes : Keyed String) : List Embedded :=
  [Attribute.cpuLimit, Attribute.memoryLimit, Attribute.cpuRequest, Attribute.memoryRequest].flatMap
    fun key => given (trimmed (textAt attributes key)) .resource

/-- The texts that give labels. -/
def ofLabels (c : Config) (attributes : Keyed String) : List Embedded :=
  given c.mountLabels .map ++ given (textAt attributes Attribute.labels) .map

/-- The texts that describe the pod. -/
def ofPod (c : Config) (attributes : Keyed String) : List Embedded :=
  given (textAt attributes Attribute.deleteDelay) .delay ++ ofLabels c attributes ++
    given (textAt attributes Attribute.annotations) .map

end Embedded

/-- The texts of settings, in the order in which they are read. -/
def embedded (secret : Option (Keyed String)) (attributes : Keyed String) (c : Config) :
    List Embedded :=
  Embedded.ofSecret secret ++ Embedded.ofCaches attributes ++ Embedded.ofResources attributes ++
    Embedded.ofPod c attributes

namespace MountSettings

variable (secret : Option (Keyed String)) (attributes : Keyed String) (options : List String)
  (c : Config)

theorem forget_mapAt (m : Keyed String) (key : String) :
    forget (mapAt m key) = forM (given (textAt m key) .map) Embedded.read := by
  rw [Embedded.forM_given, mapAt]
  split <;> rfl

theorem forget_ofSecret (secret : Option (Keyed String)) :
    forget (ofSecret secret) = forM (Embedded.ofSecret secret) Embedded.read := by
  cases secret with
  | none => rfl
  | some m =>
    rw [ofSecret, Embedded.ofSecret, List.forM_cons, List.forM_append, Embedded.read]
    split
    · rfl
    · change _ = forM (given (textAt m "configs") .map) Embedded.read >>= fun _ =>
        forM (given (textAt m "envs") .map) Embedded.read
      exact forget_bind (forget_mapAt m "configs") fun _ =>
        forget_bind_pure (forget_mapAt m "envs")

theorem forget_readEmptyDir (text : String) :
    forget (CacheSources.readEmptyDir text) = forM (Embedded.ofEmptyDir text) Embedded.read := by
  rw [CacheSources.readEmptyDir, Embedded.ofEmptyDir]
  generalize (fields ':' (trimmed text)).map trimmed = parts
  match parts with
  | [] | [_] | _ :: _ :: _ :: _ => rfl
  | [medium, limit] =>
    rw [Embedded.forM_given, Embedded.read]
    dsimp only
    generalize quantity limit = q
    cases limit.isEmpty with
    | true => rfl
    | false => exact forget_bind_pure rfl

theorem forget_caches (attributes : Keyed String) (options : List String) :
    forget (CacheSources.read attributes options) =
      forM (Embedded.ofCaches attributes) Embedded.read := by
  rw [CacheSources.read, Embedded.ofCaches, List.forM_append]
  refine forget_bind ?_ fun emptyDir => ?_
  · cases Keyed.get? attributes Attribute.cacheEmptyDir with
    | none => rfl
    | some text =>
      rw [Option.mapM_some, Option.map_some, Option.getD_some, ← forget_readEmptyDir]
      cases CacheSources.readEmptyDir text <;> rfl
  · cases Keyed.get? attributes Attribute.cacheInlineVolume with
    | none => rfl
    | some text =>
      rw [Option.map_some, Option.toList_some, Embedded.forM_singleton, Embedded.read]
      dsimp only
      exact forget_bind_pure rfl

theorem forget_override (m : Keyed String) (key raw : String) :
    forget (Resources.override m key raw) =
      forM (given (trimmed raw) .resource) Embedded.read := by
  rw [Embedded.forM_given, Resources.override, Embedded.read]
  generalize trimmed raw = raw
  generalize quantity raw = q
  cases raw.isEmpty with
  | true => rfl
  | false =>
    cases q with
    | error f => rfl
    | ok d =>
      rcases hsign : d.isNonpositive with e | (_ | _)
      all_goals
        dsimp only [bind, Except.bind]
        rw [hsign]
        rfl

theorem forget_resources (c : Config) (attributes : Keyed String) :
    forget (Resources.resolve c
      (textAt attributes Attribute.cpuLimit) (textAt attributes Attribute.memoryLimit)
      (textAt attributes Attribute.cpuRequest) (textAt attributes Attribute.memoryRequest)) =
      forM (Embedded.ofResources attributes) Embedded.read := by
  rw [Resources.resolve, Embedded.ofResources]
  simp only [List.flatMap_cons, List.flatMap_nil, List.append_nil, List.forM_append]
  exact forget_bind (forget_override ..) fun _ => forget_bind (forget_override ..) fun _ =>
    forget_bind (forget_override ..) fun _ => forget_bind_pure (forget_override ..)

theorem forget_readDelay (attributes : Keyed String) : forget (readDelay attributes) =
    forM (given (textAt attributes Attribute.deleteDelay) .delay) Embedded.read := by
  rw [Embedded.forM_given, readDelay, Embedded.read]
  split
  · rfl
  · cases Duration.parse (textAt attributes Attribute.deleteDelay) <;> rfl

theorem forget_readLabels (c : Config) (attributes : Keyed String) :
    forget (readLabels c attributes) = forM (Embedded.ofLabels c attributes) Embedded.read := by
  rw [readLabels, Embedded.ofLabels, List.forM_append, Embedded.forM_given]
  split
  · exact forget_bind rfl fun _ => forget_bind_pure (forget_mapAt attributes Attribute.labels)
  · exact forget_bind rfl fun _ => forget_bind_pure (forget_mapAt attributes Attribute.labels)

theorem forget_resolve : forget (resolve secret attributes options c) =
    forM (embedded secret attributes c) Embedded.read := by
  simp only [resolve, embedded, Embedded.ofPod, List.append_assoc, List.forM_append]
  exact forget_bind (forget_ofSecret secret) fun _ =>
    forget_bind (forget_caches attributes options) fun _ =>
    forget_bind (forget_resources c attributes) fun _ =>
    forget_bind (forget_readDelay attributes) fun _ =>
    forget_bind (forget_readLabels c attributes) fun _ =>
    forget_bind_pure (forget_mapAt attributes Attribute.annotations)

/-- **Settings.** Reading them succeeds, refuses a malformed argument, or breaks. It breaks exactly
if a text in them breaks and all texts that are read before are accepted. -/
theorem resolve_ends :
    ((∃ s, resolve secret attributes options c = .ok s) ∨
      (∃ cause, resolve secret attributes options c =
        .error (.reported (.invalidArgument cause))) ∨
      ∃ reason, resolve secret attributes options c = .error (.defect reason)) ∧
    ((∃ reason, resolve secret attributes options c = .error (.defect reason)) ↔
      Embedded.FirstBreaks (embedded secret attributes c)) := by
  have h := Embedded.settles_forM (embedded secret attributes c)
  rw [← forget_resolve secret attributes options c] at h
  exact ⟨h.of_forget.ends, h.of_forget.breaks_iff⟩

/-- The secret of a filesystem that has a name and nothing else. -/
def dataSecret : Keyed String := [("name", "data")]

theorem ofText_absentDay : Yaml.Value.ofText "a: 2024-02-30".toList =
    .error (.defect (.badValue "day is out of range for month")) := by
  have htokens : Yaml.Token.ofText "a: 2024-02-30".toList =
      Yaml.flatTokens [("a", "2024-02-30")] := by decide +kernel
  rw [Yaml.Value.ofText, htokens, Yaml.Node.ofTokens_flatTokens]
  rfl

/-- A limit that has no value, a size that is too large for its suffix, and a label that is a day no
month has. -/
theorem resolve_dataSecret :
    resolve (some dataSecret) [(Attribute.cpuLimit, "NaN")] [] {} =
      .error (.defect (.decimal .invalidOperation)) ∧
    resolve (some dataSecret) [(Attribute.cacheEmptyDir, ":1e999999E")] [] {} =
      .error (.defect (.decimal .overflow)) ∧
    resolve (some dataSecret) [(Attribute.labels, "a: 2024-02-30")] [] {} =
      .error (.defect (.badValue "day is out of range for month")) := by
  refine ⟨rfl, rfl, ?_⟩
  have hparse : TextMap.parse "a: 2024-02-30" =
      .error (.defect (.badValue "day is out of range for month")) := by
    rw [TextMap.parse, ofText_absentDay]
  rw [← forget_eq_error_iff, forget_resolve]
  change forget (TextMap.parse "a: 2024-02-30") >>= _ = _
  rw [hparse]
  rfl

end MountSettings

end SubpathCsi
