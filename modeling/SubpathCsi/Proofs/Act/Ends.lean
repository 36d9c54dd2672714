import SubpathCsi.Proofs.Act.Trace

/-!
# How computations and acts end

What a computation yields, and how an act may end, whatever is answered. Both are shown part by part,
in the order of the program: what is known of a first part is what the second may rely on.

* `Yields`: a computation succeeds, with a result of which something is known;
* `Act.Ends`: something is known of each result of an act, and of each failure together with the
  exchanges before it;
* `Lasting`: what is known of a failure does not depend on how the exchanges begin;
* `Act.ends_bind`, `Act.Ends.bind`, `Act.Ends.rescueReported`, `Act.Ends.rescueNotFound`: one act after
  another.
-/

namespace SubpathCsi

variable {α β : Type} {P Q : α → Prop} {R : β → Prop}

/-! ### Computations that succeed -/

section Yields

variable {x : Except Failure α}

/-- The computation succeeds, with a result that satisfies `P`. -/
def Yields (x : Except Failure α) (P : α → Prop) : Prop := ∃ a, x = .ok a ∧ P a

theorem yields_ok {a : α} (h : P a) : Yields (.ok a) P := ⟨a, rfl, h⟩

theorem Yields.mono (h : Yields x P) (hPQ : ∀ a, P a → Q a) : Yields x Q := by
  obtain ⟨a, hx, ha⟩ := h
  exact ⟨a, hx, hPQ a ha⟩

/-- In a sequence, the second part may rely on what the first yields. -/
theorem Yields.bind {k : α → Except Failure β} (h : Yields x P) (hk : ∀ a, P a → Yields (k a) R) :
    Yields (x >>= k) R := by
  obtain ⟨a, rfl, ha⟩ := h
  exact hk a ha

/-- What succeeds with every item of a list succeeds with the list. -/
theorem yields_mapM {f : β → Except Failure α} {xs : List β} (h : ∀ x ∈ xs, Yields (f x) P) :
    Yields (xs.mapM f) fun ys => ∀ y ∈ ys, P y := by
  induction xs with
  | nil => exact yields_ok (List.forall_mem_nil _)
  | cons x xs ih =>
    rw [List.mapM_cons]
    have hrest := ih fun x hx => h x (.tail _ hx)
    refine (h x (.head _)).bind fun y hy => hrest.bind fun ys hys => ?_
    exact yields_ok (List.forall_mem_cons.mpr ⟨hy, hys⟩)

end Yields

/-! ### Acts that end -/

/-- However the exchanges began before a failure of this kind, it is one of this kind. -/
def Lasting (F : List Exchange → Failure → Prop) : Prop :=
  ∀ before es f, F es f → F (before ++ es) f

namespace Act

variable {F : List Exchange → Failure → Prop}

/-- Whatever is answered, each result of the act satisfies `Q`, and each failure satisfies `F`
together with the exchanges that lead to it. -/
structure Ends (a : Act α) (Q : α → Prop) (F : List Exchange → Failure → Prop) : Prop where
  /-- The results. -/
  ok : ∀ {es x}, a.Trace es (.ok x) → Q x
  /-- The failures. -/
  error : ∀ {es f}, a.Trace es (.error f) → F es f

theorem ends_pure {x : α} (h : Q x) : (Pure.pure x : Act α).Ends Q F := by
  constructor
  · rintro es y ⟨-, ⟨⟩⟩
    exact h
  · rintro es f ⟨-, hf⟩
    cases hf

theorem ends_fail {f : Failure} (h : F [] f) : (fail f : Act α).Ends Q F := by
  constructor
  · rintro es y ⟨-, hy⟩
    cases hy
  · rintro es g ⟨rfl, hg⟩
    cases hg
    exact h

/-- What asks nothing and succeeds has no failure. -/
theorem ends_of_yields {x : Except Failure α} (h : Yields x Q) : (liftM x : Act α).Ends Q F := by
  obtain ⟨a, rfl, ha⟩ := h
  exact ends_pure ha

/-- Asking once ends as the answer decides. -/
theorem ends_once {r : Request} {g : Reply r → Except Failure α} (hok : ∀ y x, g y = .ok x → Q x)
    (herror : ∀ y f, g y = .error f → F [⟨r, y⟩] f) : (once r g).Ends Q F := by
  constructor
  · intro es x h
    obtain ⟨y, -, hy⟩ := trace_once.mp h
    exact hok y x hy.symm
  · intro es f h
    obtain ⟨y, rfl, hy⟩ := trace_once.mp h
    exact herror y f hy.symm

variable {a : Act α}

theorem Ends.mono {G : List Exchange → Failure → Prop} (h : a.Ends P F) (hPQ : ∀ x, P x → Q x)
    (hFG : ∀ es f, F es f → G es f) : a.Ends Q G :=
  ⟨fun ht => hPQ _ (h.ok ht), fun ht => hFG _ _ (h.error ht)⟩

/-- In a sequence, the second act goes on after the exchanges of the first. -/
theorem ends_bind {k : α → Act β} (herror : ∀ es f, a.Trace es (.error f) → F es f)
    (hok : ∀ before x, a.Trace before (.ok x) → (k x).Ends R fun es f => F (before ++ es) f) :
    (a >>= k).Ends R F := by
  constructor
  · intro es y h
    obtain ⟨x, before, after, hx, hy, -⟩ := trace_bind_ok.mp h
    exact (hok before x hx).ok hy
  · intro es f h
    obtain ⟨g, hg, heq⟩ | ⟨x, before, after, hx, hf, rfl⟩ := trace_bind.mp h
    · cases heq
      exact herror es _ hg
    · exact (hok before x hx).error hf

/-- The second act may rely on what is known of the results of the first. -/
theorem Ends.bind {k : α → Act β} (hF : Lasting F) (ha : a.Ends Q F)
    (hk : ∀ x, Q x → (k x).Ends R F) : (a >>= k).Ends R F :=
  ends_bind (fun _ _ => ha.error) fun before x hx =>
    (hk x (ha.ok hx)).mono (fun _ => id) (hF before)

/-- What asks nothing at the beginning is no exchange. -/
theorem ends_liftM_bind {x : Except Failure α} {k : α → Act β} (herror : ∀ f, x = .error f → F [] f)
    (hok : ∀ y, x = .ok y → (k y).Ends R F) : ((liftM x : Act α) >>= k).Ends R F := by
  cases x with
  | ok y => exact hok y rfl
  | error f => exact ends_fail (herror f rfl)

theorem ends_yields_bind {x : Except Failure α} {k : α → Act β} (h : Yields x Q)
    (hk : ∀ y, Q y → (k y).Ends R F) : ((liftM x : Act α) >>= k).Ends R F := by
  obtain ⟨y, rfl, hy⟩ := h
  exact hk y hy

/-- Changing the result changes no failure. -/
theorem Ends.map {g : α → β} (ha : a.Ends Q F) (hg : ∀ x, Q x → R (g x)) : (g <$> a).Ends R F := by
  constructor
  · intro es y h
    obtain ⟨o, ho, hy⟩ := trace_map.mp h
    cases o with
    | error f => cases hy
    | ok x =>
      cases hy
      exact hg x (ha.ok ho)
  · intro es f h
    obtain ⟨o, ho, hf⟩ := trace_map.mp h
    cases o with
    | error g =>
      cases hf
      exact ha.error ho
    | ok x => cases hf

/-- What handles a failure goes on after the exchanges that led to it. -/
theorem Ends.rescue {h : Failure → Act α} (ha : a.Ends Q F)
    (hh : ∀ before f, F before f → (h f).Ends Q fun es g => F (before ++ es) g) :
    (a.rescue h).Ends Q F := by
  constructor
  · intro es x ht
    obtain ⟨y, hy, heq⟩ | ⟨f, before, after, hf, hx, -⟩ := trace_rescue.mp ht
    · cases heq
      exact ha.ok hy
    · exact (hh before f (ha.error hf)).ok hx
  · intro es g ht
    obtain ⟨y, -, heq⟩ | ⟨f, before, after, hf, hg, rfl⟩ := trace_rescue.mp ht
    · cases heq
    · exact (hh before f (ha.error hf)).error hg

/-- What handles errors either reports them again, or ends as well. -/
theorem Ends.rescueReported {h : ControllerError → Act α} (hF : Lasting F) (ha : a.Ends Q F)
    (hh : ∀ e, h e = report e ∨ (h e).Ends Q F) : (a.rescueReported h).Ends Q F := by
  refine ha.rescue fun before f hf => ?_
  have hagain : (fail f : Act α).Ends Q fun es g => F (before ++ es) g := by
    refine ends_fail ?_
    rwa [List.append_nil]
  split
  next e =>
    obtain heq | hends := hh e
    · rw [heq]
      exact hagain
    · exact hends.mono (fun _ => id) (hF before)
  next => exact hagain

theorem Ends.rescueNotFound {h : ControllerError → Act α} (hF : Lasting F) (ha : a.Ends Q F)
    (hh : ∀ e, (h e).Ends Q F) : (a.rescueNotFound h).Ends Q F := by
  refine ha.rescueReported hF fun e => ?_
  cases e with
  | notFound kind name => exact .inr (hh _)
  | _ => exact .inl rfl

end Act

end SubpathCsi
