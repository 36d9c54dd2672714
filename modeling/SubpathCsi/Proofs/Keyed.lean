import Mathlib.Data.List.Nodup
import SubpathCsi.Keyed

/-!
# Look-ups in keyed lists

A look-up finds the first pair under a key, and under distinct keys there is no other.

* `Keyed.get?_eq_some_iff`: what is found is in the list;
* `Keyed.get?_map`, `Keyed.get?_reverse`, `Keyed.get?_filter`: look-ups in lists that are changed;
* `Keyed.put_put`, `Keyed.put_of_get?`, `Keyed.filter_put`: writes that make no difference;
* `Keyed.get?_merge_of_nodup`: look-ups in a list that is overridden;
* `Keyed.merge_of_nodup`: a list whose keys are all new.
-/

namespace SubpathCsi

namespace Keyed

variable {α β : Type}

/-- Values that are changed with a regard to their keys. -/
theorem get?_map (m : Keyed α) (g : String → α → β) (k : String) :
    get? (m.map fun p => (p.1, g p.1 p.2)) k = (get? m k).map (g k) := by
  induction m with
  | nil => rfl
  | cons p m ih =>
    rw [List.map_cons, get?_cons, get?_cons, ih]
    by_cases hp : p.1 = k
    · rw [if_pos hp, if_pos hp, hp]
      rfl
    · rw [if_neg hp, if_neg hp]

/-- Of two writes under one key, the second one counts. -/
theorem put_put (m : Keyed α) (k : String) (x y : α) : put (put m k x) k y = put m k y := by
  induction m with
  | nil => exact if_pos rfl
  | cons p m ih =>
    rw [put, put]
    split
    · exact if_pos rfl
    · next hp =>
      rw [put, if_neg hp, ih]

/-- To write what is there changes nothing. -/
theorem put_of_get? {m : Keyed α} {k : String} {x : α} (h : get? m k = some x) :
    put m k x = m := by
  induction m with
  | nil => cases h
  | cons p m ih =>
    rw [get?_cons] at h
    rw [put]
    split
    · next hp =>
      rw [if_pos hp] at h
      cases h
      rw [← hp]
    · next hp =>
      rw [if_neg hp] at h
      rw [ih h]

theorem mem_of_get?_eq_some {m : Keyed α} {k : String} {x : α} (h : get? m k = some x) :
    (k, x) ∈ m := by
  induction m with
  | nil => cases h
  | cons p m ih =>
    rw [get?_cons] at h
    split at h
    · next hp =>
      cases h
      rw [← hp]
      exact .head _
    · exact .tail _ (ih h)

/-- Under distinct keys, a pair of the list is what is found under its key. -/
theorem get?_eq_some_iff {m : Keyed α} (hm : (keys m).Nodup) {k : String} {x : α} :
    get? m k = some x ↔ (k, x) ∈ m := by
  refine ⟨mem_of_get?_eq_some, fun h => ?_⟩
  induction m with
  | nil => cases h
  | cons p m ih =>
    obtain ⟨hfresh, hm⟩ := List.nodup_cons.mp hm
    rw [get?_cons]
    obtain ⟨⟩ | ⟨_, h⟩ := h
    · exact if_pos rfl
    · rw [if_neg fun hp => hfresh (List.mem_map.mpr ⟨_, h, hp.symm⟩)]
      exact ih hm h

/-- Under distinct keys, the order does not matter. -/
theorem get?_reverse {m : Keyed α} (hm : (keys m).Nodup) (k : String) :
    get? m.reverse k = get? m k := by
  have hr : (keys m.reverse).Nodup := by
    rw [keys, List.map_reverse]
    exact (List.reverse_perm _).nodup_iff.mpr hm
  refine Option.ext fun x => ?_
  rw [get?_eq_some_iff hr, get?_eq_some_iff hm, List.mem_reverse]

/-- Under distinct keys, an overriding list has its values, and the overridden list the rest. -/
theorem get?_merge_of_nodup (m : Keyed α) {n : Keyed α} (hn : (keys n).Nodup) (k : String) :
    get? (merge m n) k = (get? n k).or (get? m k) := by
  rw [get?_merge, get?_reverse hn]

/-- Members are dropped by their keys. -/
theorem get?_filter (m : Keyed α) (f : String → Bool) (k : String) :
    get? (m.filter fun p => f p.1) k = if f k then get? m k else none := by
  induction m with
  | nil => rw [List.filter_nil, get?_nil, ite_self]
  | cons p m ih =>
    by_cases hp : p.1 = k
    · subst hp
      rw [List.filter_cons]
      split
      · rw [get?_cons, get?_cons, if_pos rfl, if_pos rfl]
      · next hf => rw [ih, if_neg hf]
    · rw [get?_cons, if_neg hp, ← ih, List.filter_cons]
      split
      · rw [get?_cons, if_neg hp]
      · rfl

/-- Members that are dropped may be written first. -/
theorem filter_put {f : String → Bool} {k : String} (hk : f k = false) (m : Keyed α) (x : α) :
    (put m k x).filter (fun p => f p.1) = m.filter fun p => f p.1 := by
  induction m with
  | nil => simp [put, hk]
  | cons p m ih =>
    rw [put]
    split
    next hp => simp only [List.filter_cons, hp, hk, Bool.false_eq_true, if_false]
    next => rw [List.filter_cons, List.filter_cons, ih]

/-- A new key goes to the end. -/
theorem put_of_notMem {m : Keyed α} {k : String} (h : k ∉ keys m) (x : α) :
    put m k x = m ++ [(k, x)] := by
  induction m with
  | nil => rfl
  | cons p m ih =>
    rw [keys, List.map_cons, List.mem_cons, not_or] at h
    rw [put, if_neg fun hp => h.1 hp.symm, ih h.2]
    rfl

/-- A list whose keys are all new goes to the end of the one that it overrides. -/
theorem merge_of_nodup {m n : Keyed α} (h : (keys (m ++ n)).Nodup) : merge m n = m ++ n := by
  induction n generalizing m with
  | nil => rw [List.append_nil]; rfl
  | cons p n ih =>
    have hfresh : p.1 ∉ keys m := by
      rw [keys, List.map_append] at h
      exact fun hp => (List.nodup_append.mp h).2.2 _ hp _ (.head _) rfl
    have hstep : merge m (p :: n) = merge (put m p.1 p.2) n := rfl
    rw [List.append_cons] at h ⊢
    rw [hstep, put_of_notMem hfresh, ih h]

theorem nodup_filter {m : Keyed α} (hm : (keys m).Nodup) (f : String × α → Bool) :
    (keys (m.filter f)).Nodup := hm.sublist (List.filter_sublist.map _)

end Keyed

end SubpathCsi
