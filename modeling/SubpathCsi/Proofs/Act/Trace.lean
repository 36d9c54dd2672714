import SubpathCsi.Remote

/-!
# Traces of acts

A trace of an act is a list of exchanges with the outside and the end that they lead to. Nothing is
said of who answers: a statement about all traces holds whatever the remote ends do, and however
they change their minds between two requests. A run on the remote ends of the project is one trace
(`Act.trace_run`), and for any way of answering there is a trace (`Act.exists_trace`).

* `bind_eq_ok` and its kin: when a computation succeeds;
* `Act.trace_bind`, `Act.trace_rescue`: where one act goes on after another, its trace falls into
  the exchanges before and those after;
* `Act.Asks`: every request of an act is of some kind, on all branches; `Act.Asks.of_mem` carries
  that over to the exchanges of a trace.
-/

namespace SubpathCsi

/-- A request and the answer to it. -/
structure Exchange where
  /-- What was asked. -/
  request : Request
  /-- What was answered. -/
  reply : Reply request

variable {α β : Type}

/-! ### Results -/

/-- A computation in two parts succeeds if both parts do. -/
theorem bind_eq_ok {x : Except Failure α} {k : α → Except Failure β} {b : β} :
    x >>= k = .ok b ↔ ∃ a, x = .ok a ∧ k a = .ok b := by
  cases x with
  | error f =>
    refine ⟨fun h => ?_, ?_⟩
    · cases h
    · rintro ⟨a, ha, -⟩
      cases ha
  | ok a =>
    refine ⟨fun h => ⟨a, rfl, h⟩, ?_⟩
    rintro ⟨a', ha, h⟩
    cases ha
    exact h

theorem mapError_eq_ok {ε : Type} {x : Except ε α} {g : ε → Failure} {a : α} :
    x.mapError g = .ok a ↔ x = .ok a := by
  cases x with
  | error e =>
    refine ⟨fun h => ?_, fun h => ?_⟩
    · cases h
    · cases h
  | ok b =>
    refine ⟨fun h => ?_, fun h => ?_⟩
    · cases h
      rfl
    · cases h
      rfl

theorem toOption_eq_some {ε : Type} {x : Except ε α} {a : α} :
    x.toOption = some a ↔ x = .ok a := by
  cases x with
  | error e =>
    refine ⟨fun h => ?_, fun h => ?_⟩
    · cases h
    · cases h
  | ok b =>
    rw [Except.toOption, Option.some_inj, Except.ok.injEq]

namespace Act

/-- An act may go through these exchanges and come to this end. -/
def Trace : Act α → List Exchange → Except Failure α → Prop
  | pure a, es, o => es = [] ∧ o = .ok a
  | fail f, es, o => es = [] ∧ o = .error f
  | ask r next, es, o => ∃ x rest, es = ⟨r, x⟩ :: rest ∧ (next x).Trace rest o

variable {es : List Exchange}

/-! ### One act after another -/

/-- What asks nothing has an empty trace. -/
theorem trace_liftM {x o : Except Failure α} :
    (liftM x : Act α).Trace es o ↔ es = [] ∧ o = x := by
  cases x <;> exact Iff.rfl

/-- **Sequence.** The first act fails, and so does the whole; or it comes to a result, with which
the second goes on. -/
theorem trace_bind {a : Act α} {k : α → Act β} {o : Except Failure β} :
    (a >>= k).Trace es o ↔
      (∃ f, a.Trace es (.error f) ∧ o = .error f) ∨
        ∃ x before after, a.Trace before (.ok x) ∧ (k x).Trace after o ∧ es = before ++ after := by
  change (a.bind k).Trace es o ↔ _
  -- each request takes the first exchange, so the rest of the exchanges varies
  induction a generalizing es with
  | pure b =>
    constructor
    · exact fun h => .inr ⟨b, [], es, ⟨rfl, rfl⟩, h, rfl⟩
    · rintro (⟨f, ⟨-, hf⟩, -⟩ | ⟨x, before, after, ⟨rfl, hx⟩, h, rfl⟩)
      · cases hf
      · cases hx
        exact h
  | fail f =>
    constructor
    · rintro ⟨rfl, rfl⟩
      exact .inl ⟨f, ⟨rfl, rfl⟩, rfl⟩
    · rintro (⟨g, ⟨rfl, hg⟩, rfl⟩ | ⟨x, before, after, ⟨-, hx⟩, -⟩)
      · cases hg
        exact ⟨rfl, rfl⟩
      · cases hx
  | ask r next ih =>
    constructor
    · rintro ⟨y, rest, rfl, h⟩
      obtain ⟨f, hf, rfl⟩ | ⟨x, before, after, ha, hk, rfl⟩ := (ih y).mp h
      · exact .inl ⟨f, ⟨y, rest, rfl, hf⟩, rfl⟩
      · exact .inr ⟨x, ⟨r, y⟩ :: before, after, ⟨y, before, rfl, ha⟩, hk, rfl⟩
    · -- with the first exchange taken off, both ways are those of the branch
      rintro (⟨f, ⟨y, rest, rfl, hf⟩, rfl⟩ | ⟨x, before, after, ⟨y, rest, rfl, ha⟩, hk, rfl⟩)
      · exact ⟨y, rest, rfl, (ih y).mpr (.inl ⟨f, hf, rfl⟩)⟩
      · exact ⟨y, rest ++ after, rfl, (ih y).mpr (.inr ⟨x, rest, after, ha, hk, rfl⟩)⟩

/-- A sequence that succeeds is a first act that does, and a second that does with its result. -/
theorem trace_bind_ok {a : Act α} {k : α → Act β} {y : β} :
    (a >>= k).Trace es (.ok y) ↔
      ∃ x before after, a.Trace before (.ok x) ∧ (k x).Trace after (.ok y) ∧
        es = before ++ after := by
  rw [trace_bind]
  refine or_iff_right ?_
  rintro ⟨f, -, hf⟩
  cases hf

/-- What asks nothing at the beginning only has to succeed. -/
theorem trace_liftM_bind_ok {x : Except Failure α} {k : α → Act β} {y : β} :
    ((liftM x : Act α) >>= k).Trace es (.ok y) ↔ ∃ a, x = .ok a ∧ (k a).Trace es (.ok y) := by
  cases x with
  | ok a =>
    refine ⟨fun h => ⟨a, rfl, h⟩, ?_⟩
    rintro ⟨_, ⟨⟩, h⟩
    exact h
  | error f =>
    refine ⟨fun h => ?_, ?_⟩
    · cases h.2
    · rintro ⟨a, ha, -⟩
      cases ha

/-- What asks nothing only changes the end. -/
theorem trace_bind_liftM {a : Act α} {g : α → Except Failure β} {o : Except Failure β} :
    (a >>= fun x => liftM (g x)).Trace es o ↔ ∃ o', a.Trace es o' ∧ o = o' >>= g := by
  simp only [trace_bind, trace_liftM]
  constructor
  · rintro (⟨f, h, rfl⟩ | ⟨x, before, after, h, ⟨rfl, rfl⟩, rfl⟩)
    · exact ⟨.error f, h, rfl⟩
    · exact ⟨.ok x, by rwa [List.append_nil], rfl⟩
  · rintro ⟨o', h, rfl⟩
    cases o' with
    | error f => exact .inl ⟨f, h, rfl⟩
    | ok x => exact .inr ⟨x, es, [], h, ⟨rfl, rfl⟩, (List.append_nil es).symm⟩

/-- **Rescue.** What comes after a failure goes on from there. -/
theorem trace_rescue {a : Act α} {h : Failure → Act α} {o : Except Failure α} :
    (a.rescue h).Trace es o ↔
      (∃ x, a.Trace es (.ok x) ∧ o = .ok x) ∨
        ∃ f before after, a.Trace before (.error f) ∧ (h f).Trace after o ∧
          es = before ++ after := by
  induction a generalizing es with
  | pure b =>
    constructor
    · rintro ⟨rfl, rfl⟩
      exact .inl ⟨b, ⟨rfl, rfl⟩, rfl⟩
    · rintro (⟨x, ⟨rfl, hx⟩, rfl⟩ | ⟨f, before, after, ⟨-, hf⟩, -⟩)
      · cases hx
        exact ⟨rfl, rfl⟩
      · cases hf
  | fail f =>
    constructor
    · exact fun h => .inr ⟨f, [], es, ⟨rfl, rfl⟩, h, rfl⟩
    · rintro (⟨x, ⟨-, hx⟩, -⟩ | ⟨g, before, after, ⟨rfl, hg⟩, h, rfl⟩)
      · cases hx
      · cases hg
        exact h
  | ask r next ih =>
    constructor
    · rintro ⟨y, rest, rfl, ht⟩
      obtain ⟨x, hx, rfl⟩ | ⟨f, before, after, ha, hh, rfl⟩ := (ih y).mp ht
      · exact .inl ⟨x, ⟨y, rest, rfl, hx⟩, rfl⟩
      · exact .inr ⟨f, ⟨r, y⟩ :: before, after, ⟨y, before, rfl, ha⟩, hh, rfl⟩
    · rintro (⟨x, ⟨y, rest, rfl, hx⟩, rfl⟩ | ⟨f, before, after, ⟨y, rest, rfl, ha⟩, hh, rfl⟩)
      · exact ⟨y, rest, rfl, (ih y).mpr (.inl ⟨x, hx, rfl⟩)⟩
      · exact ⟨y, rest ++ after, rfl, (ih y).mpr (.inr ⟨f, rest, after, ha, hh, rfl⟩)⟩

/-- An act whose errors are handled succeeds, or one of its errors does when it is handled. -/
theorem trace_rescueReported_ok {a : Act α} {h : ControllerError → Act α} {x : α} :
    (a.rescueReported h).Trace es (.ok x) ↔
      a.Trace es (.ok x) ∨ ∃ e before after, a.Trace before (.error (.reported e)) ∧
        (h e).Trace after (.ok x) ∧ es = before ++ after := by
  rw [rescueReported, trace_rescue]
  constructor
  · rintro (⟨y, ha, hy⟩ | ⟨f, before, after, ha, hh, rfl⟩)
    · cases hy
      exact .inl ha
    · cases f with
      | reported e => exact .inr ⟨e, before, after, ha, hh, rfl⟩
      | defect | interrupted => cases hh.2
  · rintro (ha | ⟨e, before, after, ha, hh, rfl⟩)
    · exact .inl ⟨x, ha, rfl⟩
    · exact .inr ⟨.reported e, before, after, ha, hh, rfl⟩

/-- Changing the result changes no exchange. -/
theorem trace_map {a : Act α} {g : α → β} {o : Except Failure β} :
    (g <$> a).Trace es o ↔ ∃ o', a.Trace es o' ∧ o = o'.map g := by
  rw [map_eq_pure_bind]
  exact trace_bind_liftM (g := fun x => .ok (g x))

/-- **Optional objects.** Looking for an object that may be absent comes to the object, to nothing
if it is reported to be absent, or to any other failure. -/
theorem trace_optional {a : Act α} {o : Except Failure (Option α)} :
    ((some <$> a).rescueNotFound fun _ => return none).Trace es o ↔
      (∃ x, a.Trace es (.ok x) ∧ o = .ok (some x)) ∨
      (∃ kind name, a.Trace es (.error (.reported (.notFound kind name))) ∧ o = .ok none) ∨
      ∃ f, (∀ kind name, f ≠ .reported (.notFound kind name)) ∧ a.Trace es (.error f) ∧
        o = .error f := by
  rw [rescueNotFound, rescueReported, trace_rescue]
  simp only [trace_map]
  constructor
  · rintro (⟨x, ⟨o', ha, hx⟩, rfl⟩ | ⟨f, before, after, ⟨o', ha, hf⟩, hh, rfl⟩)
    · cases o' with
      | error g => cases hx
      | ok y =>
        cases hx
        exact .inl ⟨y, ha, rfl⟩
    · cases o' with
      | ok y => cases hf
      | error g =>
        cases hf
        -- only one failure has a handler of its own; the others are failures again
        split at hh
        · split at hh
          · obtain ⟨rfl, rfl⟩ := hh
            exact .inr (.inl ⟨_, _, by rwa [List.append_nil], rfl⟩)
          · next hne =>
            obtain ⟨rfl, rfl⟩ := hh
            exact .inr (.inr ⟨_, fun kind name h => hne kind name (by injection h),
              by rwa [List.append_nil], rfl⟩)
        · next hne =>
          obtain ⟨rfl, rfl⟩ := hh
          exact .inr (.inr ⟨_, fun kind name h => hne _ h, by rwa [List.append_nil], rfl⟩)
  · rintro (⟨x, ha, rfl⟩ | ⟨kind, name, ha, rfl⟩ | ⟨f, hne, ha, rfl⟩)
    · exact .inl ⟨some x, ⟨.ok x, ha, rfl⟩, rfl⟩
    · exact .inr ⟨_, es, [], ⟨_, ha, rfl⟩, ⟨rfl, rfl⟩, (List.append_nil es).symm⟩
    · refine .inr ⟨f, es, [], ⟨_, ha, rfl⟩, ?_, (List.append_nil es).symm⟩
      split
      · split
        · exact absurd rfl (hne _ _)
        · exact ⟨rfl, rfl⟩
      · exact ⟨rfl, rfl⟩

/-! ### Asking once -/

/-- Asks once; the answer decides what it comes to. -/
def once (r : Request) (g : Reply r → Except Failure α) : Act α :=
  ask r fun x => liftM (g x)

/-- Asking once is a single exchange, with any answer. -/
theorem trace_once {r : Request} {g : Reply r → Except Failure α} {o : Except Failure α} :
    (once r g).Trace es o ↔ ∃ x, es = [⟨r, x⟩] ∧ o = g x := by
  constructor
  · rintro ⟨x, rest, rfl, h⟩
    obtain ⟨rfl, rfl⟩ := trace_liftM.mp h
    exact ⟨x, rfl, rfl⟩
  · rintro ⟨x, rfl, rfl⟩
    exact ⟨x, [], rfl, trace_liftM.mpr ⟨rfl, rfl⟩⟩

/-- What asks nothing may come before the end of an act that asks once. -/
theorem once_bind_liftM (r : Request) (g : Reply r → Except Failure α)
    (h : α → Except Failure β) :
    (once r g >>= fun x => liftM (h x)) = once r fun x => g x >>= h := by
  change ask r (fun x => (liftM (g x) : Act α).bind fun y => liftM (h y)) = _
  rw [once]
  congr 1
  funext x
  cases g x <;> rfl

/-! ### What an act asks -/

/-- Every request of an act satisfies `P`, on all branches. -/
def Asks (P : Request → Prop) : Act α → Prop
  | pure _ => True
  | fail _ => True
  | ask r next => P r ∧ ∀ x, (next x).Asks P

section Asks

variable {P : Request → Prop}

theorem asks_pure (a : α) : (Pure.pure a : Act α).Asks P := trivial

theorem asks_liftM (x : Except Failure α) : (liftM x : Act α).Asks P := by
  cases x <;> exact trivial

theorem asks_once {r : Request} (h : P r) (g : Reply r → Except Failure α) :
    (once r g).Asks P := ⟨h, fun x => asks_liftM (g x)⟩

theorem Asks.bind {a : Act α} {k : α → Act β} (ha : a.Asks P) (hk : ∀ x, (k x).Asks P) :
    (a >>= k).Asks P := by
  change (a.bind k).Asks P
  induction a with
  | pure x => exact hk x
  | fail f => trivial
  | ask r next ih => exact ⟨ha.1, fun x => ih x (ha.2 x)⟩

theorem Asks.rescue {a : Act α} {h : Failure → Act α} (ha : a.Asks P) (hh : ∀ f, (h f).Asks P) :
    (a.rescue h).Asks P := by
  induction a with
  | pure x => trivial
  | fail f => exact hh f
  | ask r next ih => exact ⟨ha.1, fun x => ih x (ha.2 x)⟩

theorem Asks.optional {a : Act α} (ha : a.Asks P) :
    ((some <$> a).rescueNotFound fun _ => return none).Asks P := by
  refine Asks.rescue ?_ fun f => ?_
  · rw [map_eq_pure_bind]
    exact ha.bind fun x => asks_pure _
  · split
    · dsimp only
      split <;> trivial
    · trivial

theorem Asks.mono {Q : Request → Prop} {a : Act α} (ha : a.Asks P) (hPQ : ∀ r, P r → Q r) :
    a.Asks Q := by
  induction a with
  | pure x => trivial
  | fail f => trivial
  | ask r next ih => exact ⟨hPQ r ha.1, fun x => ih x (ha.2 x)⟩

/-- What an act asks on all branches, it asks in every trace. -/
theorem Asks.of_mem {a : Act α} {o : Except Failure α} (ha : a.Asks P) (h : a.Trace es o)
    {e : Exchange} (he : e ∈ es) : P e.request := by
  induction a generalizing es with
  | pure x =>
    obtain ⟨rfl, -⟩ := h
    cases he
  | fail f =>
    obtain ⟨rfl, -⟩ := h
    cases he
  | ask r next ih =>
    obtain ⟨x, rest, rfl, h⟩ := h
    obtain rfl | he := List.mem_cons.mp he
    · exact ha.1
    · exact ih x (ha.2 x) h he

end Asks

/-! ### Runs -/

/-- The exchanges of an act that runs on the remote ends. -/
def exchanges : Act α → Remote → List Exchange
  | pure _, _ => []
  | fail _, _ => []
  | ask r next, w => ⟨r, (w.answer r).1⟩ :: (next (w.answer r).1).exchanges (w.answer r).2

/-- A run is a trace. -/
theorem trace_run (a : Act α) (w : Remote) : a.Trace (a.exchanges w) (a.run w).1 := by
  induction a generalizing w with
  | pure x => exact ⟨rfl, rfl⟩
  | fail f => exact ⟨rfl, rfl⟩
  | ask r next ih => exact ⟨(w.answer r).1, _, rfl, ih _ _⟩

/-- A run that succeeds is a trace that does. -/
theorem exists_trace_of_isOk {a : Act α} {w : Remote} (h : (a.run w).1.isOk = true) :
    ∃ x, a.Trace (a.exchanges w) (.ok x) := by
  have htrace := a.trace_run w
  cases hend : (a.run w).1 with
  | error f =>
    rw [hend] at h
    cases h
  | ok x =>
    rw [hend] at htrace
    exact ⟨x, htrace⟩

/-- A run that succeeds with what passes a test is a trace that does. -/
theorem exists_trace_of_any {a : Act α} {w : Remote} {test : α → Bool}
    (h : (a.run w).1.toOption.any test = true) :
    ∃ x, a.Trace (a.exchanges w) (.ok x) ∧ test x = true := by
  have htrace := a.trace_run w
  cases hend : (a.run w).1 with
  | error f =>
    rw [hend] at h
    cases h
  | ok x =>
    rw [hend] at h htrace
    exact ⟨x, htrace, h⟩

/-- However requests are answered, an act has a trace with these answers. -/
theorem exists_trace (a : Act α) (answer : ∀ r, Reply r) :
    ∃ es o, a.Trace es o ∧ ∀ e ∈ es, e.reply = answer e.request := by
  induction a with
  | pure x => exact ⟨[], _, ⟨rfl, rfl⟩, by simp⟩
  | fail f => exact ⟨[], _, ⟨rfl, rfl⟩, by simp⟩
  | ask r next ih =>
    obtain ⟨es, o, h, he⟩ := ih (answer r)
    refine ⟨⟨r, answer r⟩ :: es, o, ⟨_, _, rfl, h⟩, ?_⟩
    rintro e (_ | ⟨_, hmem⟩)
    · rfl
    · exact he e hmem

end Act

end SubpathCsi
