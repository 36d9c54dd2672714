/-!
# Keyed lists

A keyed list maps strings to values and remembers the order in which the keys first came. Writing
a key that is there changes its value in place; a new key goes to the end.

* `get?_put`, `get?_erase`: what a look-up sees after a write.
* `get?_merge`: the second list wins.
* `nodup_put`, `nodup_merge`: keys stay distinct.
-/

namespace SubpathCsi

/-- Values under string keys, in the order of the keys' first appearance. -/
abbrev Keyed (α : Type) := List (String × α)

namespace Keyed

variable {α : Type}

/-- The value under a key. -/
def get? (m : Keyed α) (k : String) : Option α := m.lookup k

/-- Writes a value under a key. -/
def put : Keyed α → String → α → Keyed α
  | [], k, v => [(k, v)]
  | p :: m, k, v => if p.1 = k then (k, v) :: m else p :: put m k v

/-- Removes a key. -/
def erase (m : Keyed α) (k : String) : Keyed α := m.filter (·.1 ≠ k)

/-- The key is there. -/
def has (m : Keyed α) (k : String) : Bool := (get? m k).isSome

/-- The first list overridden by the second. -/
def merge (m n : Keyed α) : Keyed α := n.foldl (fun acc p => put acc p.1 p.2) m

/-- The keyed list of a list of pairs: of two values under one key the later one stays. -/
def ofPairs (ps : List (String × α)) : Keyed α := merge [] ps

/-- The keys, in order. -/
def keys (m : Keyed α) : List String := m.map (·.1)

@[simp] theorem get?_nil (k : String) : get? ([] : Keyed α) k = none := rfl

theorem get?_cons (p : String × α) (m : Keyed α) (k : String) :
    get? (p :: m) k = if p.1 = k then some p.2 else get? m k := by
  obtain ⟨q, v⟩ := p
  rw [get?, List.lookup_cons]
  by_cases h : q = k
  · rw [if_pos h, h, beq_self_eq_true]
  · rw [if_neg h, beq_false_of_ne (Ne.symm h)]
    rfl

/-- After a write, a look-up sees the new value under the key and the old ones elsewhere. -/
theorem get?_put (m : Keyed α) (k : String) (v : α) (j : String) :
    get? (put m k v) j = if k = j then some v else get? m j := by
  induction m with
  | nil => simp [put, get?_cons]
  | cons p m ih =>
    unfold put
    split
    · next h =>
      subst h
      by_cases hj : p.1 = j <;> simp [get?_cons, hj]
    · next h =>
      by_cases hj : p.1 = j
      · have hk : k ≠ j := fun e => h (hj.trans e.symm)
        simp [get?_cons, hj, hk]
      · simp [get?_cons, hj, ih]

/-- After a removal, the key is gone and the others are as they were. -/
theorem get?_erase (m : Keyed α) (k j : String) :
    get? (erase m k) j = if k = j then none else get? m j := by
  induction m with
  | nil => simp [erase]
  | cons p m ih =>
    by_cases h : p.1 = k
    · have : erase (p :: m) k = erase m k := by simp [erase, h]
      rw [this, ih]
      by_cases hj : k = j
      · simp [hj]
      · simp [hj, get?_cons, h]
    · have : erase (p :: m) k = p :: erase m k := by simp [erase, h]
      rw [this, get?_cons, ih, get?_cons]
      by_cases hj : p.1 = j
      · have hk : k ≠ j := fun e => h (hj.trans e.symm)
        simp [hj, hk]
      · simp [hj]

/-- In an overridden list a look-up sees the last value of the second list, else the first. -/
theorem get?_merge (m n : Keyed α) (k : String) :
    get? (merge m n) k = (get? n.reverse k).or (get? m k) := by
  induction n generalizing m with
  | nil => simp [merge]
  | cons p n ih =>
    have hstep : merge m (p :: n) = merge (put m p.1 p.2) n := rfl
    rw [hstep, ih, get?_put]
    have happ : get? (p :: n).reverse k
        = (get? n.reverse k).or (if p.1 = k then some p.2 else none) := by
      rw [List.reverse_cons]
      generalize n.reverse = l
      induction l with
      | nil => simp [get?_cons]
      | cons q l ihl =>
        rw [List.cons_append, get?_cons, get?_cons, ihl]
        by_cases h : q.1 = k <;> simp [h]
    rw [happ]
    by_cases h : p.1 = k <;> cases get? n.reverse k <;> simp [h]

/-- The keys after a write. -/
theorem keys_put (m : Keyed α) (k : String) (v : α) :
    keys (put m k v) = if k ∈ keys m then keys m else keys m ++ [k] := by
  induction m with
  | nil => simp [put, keys]
  | cons p m ih =>
    unfold put
    split
    · next h => simp [keys, h]
    · next h =>
      have h' : k ≠ p.1 := fun e => h e.symm
      simp only [keys, List.map_cons, List.mem_cons, h', false_or] at ih ⊢
      rw [ih]
      split <;> simp_all

/-- A write keeps the keys distinct. -/
theorem nodup_put {m : Keyed α} (h : (keys m).Nodup) (k : String) (v : α) :
    (keys (put m k v)).Nodup := by
  rw [keys_put]
  split
  · exact h
  · next hk => simp [List.nodup_append, h]; intro a ha e; exact hk (e ▸ ha)

/-- Overriding keeps the keys distinct. -/
theorem nodup_merge {m : Keyed α} (h : (keys m).Nodup) (n : Keyed α) :
    (keys (merge m n)).Nodup := by
  induction n generalizing m with
  | nil => exact h
  | cons p n ih => exact ih (nodup_put h p.1 p.2)

end Keyed

end SubpathCsi
