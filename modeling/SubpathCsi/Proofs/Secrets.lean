import SubpathCsi.Proofs.Clients
import SubpathCsi.Remote

/-!
# Secrets in their places

The place of a secret is its name and its namespace. A cluster keeps at most one secret in a place
that it was put into, and a secret that is written takes the place of the one before it.

* `ObjectMeta.isAt_iff`, `Cluster.secret?_eq_some_iff`: what is found in a place;
* `Cluster.secret?_putSecret`, `Cluster.putSecret_putSecret`, `Cluster.putSecret_of_secret?`: putting
  a secret in its place, once or twice;
* `Exchange.putsSecret`: a secret was written.
-/

namespace SubpathCsi

/-! ### Objects in a list -/

section PutBy

variable {α : Type} {same : α → Bool} {x y : α} {xs : List α}

/-- An object takes the place of the first one that it is put for. -/
theorem putBy_append {before after : List α} (hbefore : ∀ z ∈ before, same z = false)
    (hy : same y = true) : putBy same x (before ++ y :: after) = before ++ x :: after := by
  induction before with
  | nil => exact if_pos hy
  | cons z before ih =>
    have hz : same z = false := hbefore z (.head _)
    have hrest := ih fun z hz => hbefore z (.tail _ hz)
    rw [List.cons_append, putBy, hz, if_neg Bool.false_ne_true, hrest, List.cons_append]

theorem putBy_of_find?_eq_none (h : xs.find? same = none) : putBy same x xs = xs ++ [x] := by
  induction xs with
  | nil => rfl
  | cons z xs ih =>
    have hz := List.find?_eq_none.mp h z (.head _)
    rw [List.find?_cons_of_neg hz] at h
    rw [putBy, if_neg hz, ih h, List.cons_append]

theorem find?_putBy (hx : same x = true) (xs : List α) :
    (putBy same x xs).find? same = some x := by
  induction xs with
  | nil => exact List.find?_cons_of_pos hx
  | cons z xs ih =>
    rw [putBy]
    split
    · exact List.find?_cons_of_pos hx
    · next hz => rwa [List.find?_cons_of_neg hz]

/-- What is put first leaves no mark when another object is put after it. -/
theorem putBy_putBy (hx : same x = true) (xs : List α) :
    putBy same y (putBy same x xs) = putBy same y xs := by
  induction xs with
  | nil => exact if_pos hx
  | cons z xs ih =>
    by_cases hz : same z = true
    · rw [putBy, if_pos hz, putBy, if_pos hx, putBy, if_pos hz]
    · rw [putBy, if_neg hz, putBy, if_neg hz, ih, putBy, if_neg hz]

/-- An object that is in its place is not put anew. -/
theorem putBy_of_find?_eq_some (h : xs.find? same = some x) : putBy same x xs = xs := by
  obtain ⟨hx, before, after, rfl, hbefore⟩ := List.find?_eq_some_iff_append.mp h
  exact putBy_append (fun z hz => Bool.not_eq_true' _ ▸ hbefore z hz) hx

end PutBy

/-! ### Places -/

/-- An object is found where a reference points to. -/
theorem ObjectMeta.isAt_iff {m : ObjectMeta} {name space : Option String} :
    m.isAt (.ofText? name) (.ofText? space) = true ↔ name = some m.name ∧ space = m.space := by
  have hname : (Json.ofText? name).isText m.name = true ↔ name = some m.name := by
    cases name <;> simp [Json.ofText?, Json.isText]
  have hspace : (Json.ofText? space).isText? m.space = true ↔ space = m.space := by
    cases space <;> cases m.space <;> simp [Json.ofText?, Json.isText?, Json.isText]
  rw [isAt, Bool.and_eq_true, hname, hspace]

/-- Objects of the same name and namespace are found at the same place. -/
theorem ObjectMeta.sameAs_eq_isAt (m n : ObjectMeta) :
    m.sameAs n = m.isAt (.ofText? (some n.name)) (.ofText? n.space) := by
  rw [Bool.eq_iff_iff, isAt_iff, Option.some_inj, sameAs, Bool.and_eq_true, decide_eq_true_eq,
    decide_eq_true_eq, eq_comm (a := m.name), eq_comm (a := m.space)]

/-- The secret has this name, in this namespace. -/
def Secret.LiesAt (s : Secret) (name : String) (space : Option String) : Prop :=
  s.name = name ∧ s.metadata.space = space

namespace Cluster

/-- A secret that is found is the first in its place. -/
theorem secret?_eq_some_iff {k : Cluster} {s : Secret} {name space : Option String} :
    k.secret? (.ofText? name) (.ofText? space) = some s ↔
      (name = some s.name ∧ space = s.metadata.space) ∧ ∃ before after,
        k.secrets = before ++ s :: after ∧
          ∀ t ∈ before, t.metadata.isAt (.ofText? name) (.ofText? space) = false := by
  rw [secret?, List.find?_eq_some_iff_append, ObjectMeta.isAt_iff]
  simp only [Bool.not_eq_true', Secret.name]

variable {k : Cluster} {s t : Secret} {name : String} {space : Option String}

theorem liesAt_of_secret? (h : k.secret? (.str name) (.ofText? space) = some s) :
    s.LiesAt name space := by
  have hfound : k.secret? (.ofText? (some name)) (.ofText? space) = some s := h
  obtain ⟨⟨hname, hspace⟩, -⟩ := secret?_eq_some_iff.mp hfound
  exact ⟨(Option.some.inj hname).symm, hspace.symm⟩

theorem putSecret_eq (hs : s.LiesAt name space) :
    k.putSecret s =
      { k with secrets := putBy (·.metadata.isAt (.str name) (.ofText? space)) s k.secrets } := by
  obtain ⟨rfl, rfl⟩ := hs
  rw [putSecret]
  simp only [ObjectMeta.sameAs_eq_isAt]
  rfl

theorem isAt_of_liesAt (hs : s.LiesAt name space) :
    s.metadata.isAt (.str name) (.ofText? space) = true := by
  have hplace : some name = some s.metadata.name ∧ space = s.metadata.space :=
    ⟨congrArg some hs.1.symm, hs.2.symm⟩
  exact ObjectMeta.isAt_iff.mpr hplace

/-- A secret that is put in its place is found there. -/
theorem secret?_putSecret (k : Cluster) (hs : s.LiesAt name space) :
    (k.putSecret s).secret? (.str name) (.ofText? space) = some s := by
  rw [putSecret_eq hs]
  exact find?_putBy (x := s) (isAt_of_liesAt hs) k.secrets

/-- Of two secrets that are put in one place, one after the other, the second stays. -/
theorem putSecret_putSecret (k : Cluster) (hs : s.LiesAt name space) (ht : t.LiesAt name space) :
    (k.putSecret s).putSecret t = k.putSecret t := by
  rw [putSecret_eq ht, putSecret_eq ht, putSecret_eq hs]
  exact congrArg (fun secrets => ({ k with secrets } : Cluster))
    (putBy_putBy (x := s) (isAt_of_liesAt hs) k.secrets)

/-- Putting a secret where it is changes nothing. -/
theorem putSecret_of_secret? (h : k.secret? (.str name) (.ofText? space) = some s) :
    k.putSecret s = k := by
  rw [putSecret_eq (liesAt_of_secret? h), putBy_of_find?_eq_some h]

/-- A secret goes to the end if there is none in its place. -/
theorem putSecret_of_absent (hs : s.LiesAt name space)
    (h : k.secret? (.str name) (.ofText? space) = none) :
    k.putSecret s = { k with secrets := k.secrets ++ [s] } := by
  rw [putSecret_eq hs, putBy_of_find?_eq_none h]

end Cluster

/-- The API server has made or replaced a secret. -/
def Exchange.putsSecret : Exchange → Bool
  | ⟨.api _ (.createSecret _), .ok _⟩ | ⟨.api _ (.replaceSecret _), .ok _⟩ => true
  | _ => false

theorem Exchange.putsSecret_refused {timeout : Int} {r : ApiRequest} {fault : ApiFault} :
    putsSecret ⟨.api timeout r, .error fault⟩ = false := by cases r <;> rfl

end SubpathCsi
