import Mathlib
import SubpathCsi.Pod.Names

/-!
# The least number that makes a name free

A name that is taken and its first numbered names, as many as there are names taken, are pairwise
different, so one of these is free. A search that counts up therefore is over after so many rounds,
and the name that it comes to has the least number. The one thing that can keep it from there is a
number with too many digits, which is not written.

* `freeNumbers`: the numbers from an index on that make a name free;
* `exists_isLeast_freeNumbers`: if the name is taken, one of them is the least, and is not far;
* `uniqueName_eq_numbered`, `uniqueName_notMem`: the name with numbers of any size;
* `searchFrom_eq`: what the search comes to, given rounds enough;
* `searchName_ends`: the search ends, and the name that it comes to.
-/

namespace SubpathCsi

variable {name : String} {taken : List String} {index k : Int}

/-! ### Names with numbers -/

/-- Different numbers make different names. -/
theorem numbered_injective (name : String) : Function.Injective (numbered name) := by
  intro k l h
  rw [numbered, numbered] at h
  exact Int.repr_injective ((String.append_right_inj _).mp h)

/-- A number makes another name. -/
theorem numbered_ne (name : String) (k : Int) : numbered name k ≠ name := by
  intro h
  have hlength := congrArg String.length h
  rw [numbered, String.length_append, String.length_append] at hlength
  have hdash : "-".length = 1 := rfl
  omega

/-- The numbers from `index` on that make a name free. -/
def freeNumbers (name : String) (taken : List String) (index : Int) : Set Int :=
  {k | index ≤ k ∧ numbered name k ∉ taken}

/-- Of the first numbered names, as many as there are names taken, one is free. -/
theorem exists_numbered_notMem (h : name ∈ taken) (index : Int) :
    ∃ i < taken.length, numbered name (index + (i : Nat)) ∉ taken := by
  by_contra hnone
  push Not at hnone
  -- with the name itself they would be too many names for the list
  have hnodup : (name :: (List.range taken.length).map
      fun i : Nat => numbered name (index + i)).Nodup := by
    refine List.nodup_cons.mpr ⟨?_, List.nodup_range.map fun i j hij => ?_⟩
    · intro hmem
      obtain ⟨i, -, hi⟩ := List.mem_map.mp hmem
      exact numbered_ne name _ hi
    · have hsum := numbered_injective name hij
      omega
  have hsubset : (name :: (List.range taken.length).map
      fun i : Nat => numbered name (index + i)) ⊆ taken := by
    refine List.cons_subset.mpr ⟨h, fun candidate hmem => ?_⟩
    obtain ⟨i, hi, rfl⟩ := List.mem_map.mp hmem
    exact hnone i (List.mem_range.mp hi)
  have hle := (hnodup.subperm hsubset).length_le
  rw [List.length_cons, List.length_map, List.length_range] at hle
  omega

/-- **The least number.** If a name is taken, one of the numbers that make it free is the least, and
fewer numbers are tried before it than there are names taken. -/
theorem exists_isLeast_freeNumbers (h : name ∈ taken) (index : Int) :
    ∃ k, IsLeast (freeNumbers name taken index) k ∧ k < index + taken.length := by
  obtain ⟨i, hi, hfree⟩ := exists_numbered_notMem h index
  have hmem : index + (i : Nat) ∈ freeNumbers name taken index := ⟨by omega, hfree⟩
  obtain ⟨k, hk, hleast⟩ := Int.exists_least_of_bdd (P := (· ∈ freeNumbers name taken index))
    ⟨index, fun _ hl => hl.1⟩ ⟨_, hmem⟩
  have hle := hleast _ hmem
  exact ⟨k, ⟨hk, fun l hl => hleast l hl⟩, by omega⟩

/-- What is counted before the least number is taken. -/
theorem numbered_mem_of_lt (hk : IsLeast (freeNumbers name taken index) k) {l : Int}
    (hl : index ≤ l) (hlt : l < k) : numbered name l ∈ taken := by
  by_contra hfree
  have hle := hk.2 ⟨hl, hfree⟩
  omega

/-- The least number stays the least when what comes before it is left out. -/
theorem isLeast_freeNumbers_succ (hk : IsLeast (freeNumbers name taken index) k)
    (hlt : index < k) : IsLeast (freeNumbers name taken (index + 1)) k := by
  refine ⟨⟨by omega, hk.1.2⟩, fun l hl => hk.2 ⟨?_, hl.2⟩⟩
  have hle := hl.1
  omega

/-- If a name has been given with one number, the next one makes it free again. -/
theorem isLeast_freeNumbers_pair (name : String) (k : Int) :
    IsLeast (freeNumbers name [name, numbered name k] k) (k + 1) := by
  constructor
  · refine ⟨by omega, fun hmem => ?_⟩
    obtain h | h := List.mem_pair.mp hmem
    · exact numbered_ne name _ h
    · have hsucc := numbered_injective name h
      omega
  · rintro l ⟨hle, hfree⟩
    have hne : l ≠ k := by
      rintro rfl
      exact hfree (List.mem_pair.mpr (.inr rfl))
    omega

/-! ### The name with numbers of any size -/

theorem uniqueName_of_notMem (h : name ∉ taken) : uniqueName name taken index = name := if_pos h

/-- A name that is taken gets the least number that makes it free. -/
theorem uniqueName_eq_numbered (h : name ∈ taken)
    (hk : IsLeast (freeNumbers name taken index) k) :
    uniqueName name taken index = numbered name k := by
  obtain ⟨l, hl, hlt⟩ := exists_isLeast_freeNumbers h index
  obtain rfl := hk.unique hl
  have hle := hk.1.1
  obtain ⟨i, rfl⟩ : ∃ i : Nat, k = index + i := ⟨(k - index).toNat, by omega⟩
  have hfind : (List.range (taken.length + 1)).find?
      ((fun candidate => decide (candidate ∉ taken)) ∘ fun j : Nat => numbered name (index + j)) =
        some i := by
    refine List.find?_range_eq_some.mpr ⟨decide_eq_true hk.1.2, List.mem_range.mpr (by omega), ?_⟩
    intro j hj
    have hmem : numbered name (index + j) ∈ taken :=
      numbered_mem_of_lt hk (by omega) (by omega)
    simp [hmem]
  rw [uniqueName, if_neg (not_not_intro h)]
  dsimp only
  rw [List.find?_map, hfind]
  rfl

/-- **Free names.** A name that is made unique is none of those that are taken. -/
theorem uniqueName_notMem (name : String) (taken : List String) (index : Int) :
    uniqueName name taken index ∉ taken := by
  by_cases h : name ∈ taken
  · obtain ⟨k, hk, -⟩ := exists_isLeast_freeNumbers h index
    rw [uniqueName_eq_numbered h hk]
    exact hk.1.2
  · rwa [uniqueName_of_notMem h]

/-! ### The search -/

/-- Between two numbers that can be written all numbers can. -/
theorem isWritable_of_between {i j l : Int} (hi : Integer.isWritable i = true)
    (hl : Integer.isWritable l = true) (hij : i ≤ j) (hjl : j ≤ l) :
    Integer.isWritable j = true := by
  rw [Integer.isWritable, decide_eq_true_eq] at *
  omega

/-- What is said of a number that cannot be written. -/
def unwritable : Failure := .defect (.badValue Integer.unwritableMessage)

/-- The search goes no further than a number that cannot be written. -/
theorem searchFrom_succ_of_unwritable (rounds : Nat) (h : Integer.isWritable k = false) :
    searchFrom name taken (rounds + 1) k = some (.error unwritable) := by
  rw [searchFrom, if_neg (Bool.not_eq_true _ ▸ h)]
  rfl

/-- From a number whose name is taken the search goes on to the next. -/
theorem searchFrom_succ_of_mem (rounds : Nat) (h : Integer.isWritable k = true)
    (hmem : numbered name k ∈ taken) :
    searchFrom name taken (rounds + 1) k = searchFrom name taken rounds (k + 1) := by
  rw [searchFrom, if_pos h, if_pos hmem]

/-- At a number whose name is free the search is over. -/
theorem searchFrom_succ_of_notMem (rounds : Nat) (h : Integer.isWritable k = true)
    (hfree : numbered name k ∉ taken) :
    searchFrom name taken (rounds + 1) k = some (.ok (numbered name k)) := by
  rw [searchFrom, if_pos h, if_neg hfree]

/-- A search that is over stays so: with more rounds it has the same outcome. -/
theorem searchFrom_mono {rounds more : Nat} {outcome : Except Failure String}
    (hle : rounds ≤ more) (h : searchFrom name taken rounds k = some outcome) :
    searchFrom name taken more k = some outcome := by
  induction rounds generalizing more k with
  | zero => cases h
  | succ rounds ih =>
    obtain ⟨more, rfl⟩ : ∃ n, more = n + 1 := ⟨more - 1, by omega⟩
    cases hwritable : Integer.isWritable k with
    | false =>
      rw [searchFrom_succ_of_unwritable _ hwritable] at h ⊢
      exact h
    | true =>
      by_cases hmem : numbered name k ∈ taken
      · rw [searchFrom_succ_of_mem _ hwritable hmem] at h ⊢
        exact ih (by omega) h
      · rw [searchFrom_succ_of_notMem _ hwritable hmem] at h ⊢
        exact h

/-- What a search comes to if `index` is the number that it starts with, and `k` the least one that
makes the name free. -/
def searchOutcome (name : String) (index k : Int) : Except Failure String :=
  if Integer.isWritable index && Integer.isWritable k then .ok (numbered name k)
  else .error unwritable

theorem searchOutcome_of_isWritable (hindex : Integer.isWritable index = true)
    (hk : Integer.isWritable k = true) : searchOutcome name index k = .ok (numbered name k) := by
  rw [searchOutcome, hindex, hk]
  rfl

theorem searchOutcome_of_unwritable (hindex : Integer.isWritable index = false) :
    searchOutcome name index k = .error unwritable := by
  rw [searchOutcome, hindex]
  rfl

theorem eq_of_searchOutcome_eq_ok {result : String} (h : searchOutcome name index k = .ok result) :
    result = numbered name k := by
  rw [searchOutcome] at h
  split at h
  · exact (Except.ok.inj h).symm
  · cases h

/-- A step towards the least number does not change what the search comes to. -/
theorem searchOutcome_succ (h : Integer.isWritable index = true) (hlt : index < k) :
    searchOutcome name (index + 1) k = searchOutcome name index k := by
  rw [searchOutcome, searchOutcome, h]
  cases hk : Integer.isWritable k with
  | true => rw [isWritable_of_between h hk (by omega) hlt]
  | false => rw [Bool.and_false, Bool.and_false]

/-- **The search ends.** With enough rounds to come to it, its outcome is the least number that makes
the name free, or, if the search has to start or to end with a number that cannot be written, a
failure. -/
theorem searchFrom_eq {rounds : Nat} (hk : IsLeast (freeNumbers name taken index) k)
    (hrounds : k < index + rounds) :
    searchFrom name taken rounds index = some (searchOutcome name index k) := by
  induction rounds generalizing index with
  | zero =>
    have hle := hk.1.1
    omega
  | succ rounds ih =>
    cases hwritable : Integer.isWritable index with
    | false =>
      rw [searchFrom_succ_of_unwritable rounds hwritable, searchOutcome_of_unwritable hwritable]
    | true =>
      obtain rfl | hlt := hk.1.1.eq_or_lt
      · rw [searchFrom_succ_of_notMem rounds hwritable hk.1.2,
          searchOutcome_of_isWritable hwritable hwritable]
      · rw [searchFrom_succ_of_mem rounds hwritable (numbered_mem_of_lt hk le_rfl hlt),
          ih (isLeast_freeNumbers_succ hk hlt) (by omega), searchOutcome_succ hwritable hlt]

theorem searchName_of_notMem (rounds : Nat) (h : name ∉ taken) :
    searchName name taken index rounds = some (.ok name) := if_pos h

theorem searchName_of_mem {rounds : Nat} (h : name ∈ taken)
    (hk : IsLeast (freeNumbers name taken index) k) (hrounds : k < index + rounds) :
    searchName name taken index rounds = some (searchOutcome name index k) := by
  rw [searchName, if_neg (not_not_intro h), searchFrom_eq hk hrounds]

/-- Where all the numbers that may be needed can be written, the search comes to the name with
numbers of any size. -/
theorem searchName_eq_uniqueName (hindex : Integer.isWritable index = true)
    (hlast : Integer.isWritable (index + taken.length) = true) :
    searchName name taken index taken.length = some (.ok (uniqueName name taken index)) := by
  by_cases h : name ∈ taken
  · obtain ⟨k, hk, hlt⟩ := exists_isLeast_freeNumbers h index
    have hwritable := isWritable_of_between hindex hlast hk.1.1 hlt.le
    rw [searchName_of_mem h hk hlt, searchOutcome_of_isWritable hindex hwritable,
      uniqueName_eq_numbered h hk]
  · rw [searchName_of_notMem _ h, uniqueName_of_notMem h]

/-- **Unique names.** The search for one is over after as many rounds as there are names taken,
whatever the names and the index are. A name that is not taken stays as it is. One that is taken gets
the least number from the index on that makes it free; but if the index or that number cannot be
written, the search fails and says so. A name that it comes to is free, and is the one with numbers
of any size. -/
theorem searchName_ends (name : String) (taken : List String) (index : Int) :
    ∃ outcome, (∀ rounds, taken.length ≤ rounds →
        searchName name taken index rounds = some outcome) ∧
      (name ∉ taken → outcome = .ok name) ∧
      (name ∈ taken → ∃ k, IsLeast (freeNumbers name taken index) k ∧
        outcome = searchOutcome name index k) ∧
      ∀ result, outcome = .ok result →
        result ∉ taken ∧ result = uniqueName name taken index := by
  by_cases h : name ∈ taken
  · obtain ⟨k, hk, hlt⟩ := exists_isLeast_freeNumbers h index
    refine ⟨searchOutcome name index k, fun rounds hrounds => ?_, absurd h,
      fun _ => ⟨k, hk, rfl⟩, fun result hok => ?_⟩
    · exact searchName_of_mem h hk (by omega)
    · have hresult := eq_of_searchOutcome_eq_ok hok
      rw [uniqueName_eq_numbered h hk, hresult]
      exact ⟨hk.1.2, rfl⟩
  · refine ⟨.ok name, fun rounds _ => searchName_of_notMem rounds h, fun _ => rfl,
      fun hmem => absurd hmem h, ?_⟩
    rintro _ ⟨⟩
    exact ⟨h, (uniqueName_of_notMem h).symm⟩

/-- The containers of a pod that has sidecars already. -/
def sidecarNames : List String := ["app", "cfs-mount", "cfs-mount-1", "cfs-mount-3"]

theorem searchName_ends_sidecarNames :
    "cfs-mount" ∈ sidecarNames ∧
      searchName "cfs-mount" sidecarNames 1 4 = some (.ok "cfs-mount-2") ∧
      uniqueName "cfs-mount" sidecarNames 1 = "cfs-mount-2" := by
  have hmem : "cfs-mount" ∈ sidecarNames := by decide
  obtain ⟨outcome, hsearch, -, htaken, hresult⟩ := searchName_ends "cfs-mount" sidecarNames 1
  obtain ⟨k, hk, hends⟩ := htaken hmem
  have hone : k ≠ 1 := by
    rintro rfl
    exact hk.1.2 (by decide +kernel)
  have hge := hk.1.1
  have hle : k ≤ 2 := hk.2 ⟨by decide, by decide +kernel⟩
  obtain rfl : k = 2 := by omega
  have hname : outcome = .ok "cfs-mount-2" :=
    hends.trans (searchOutcome_of_isWritable (by decide +kernel) (by decide +kernel))
  have hover := hsearch 4 le_rfl
  rw [hname] at hover
  exact ⟨hmem, hover, (hresult _ hname).2.symm⟩

/-- The greatest number that can be written. -/
def lastNumber : Int := Int.ofNat (Nat.pow 10 Integer.maxDigits - 1)

/-- A name that has been given with the last number has a least free number, but no search comes to a
name with it. -/
theorem not_exists_searchName_lastNumber :
    IsLeast (freeNumbers "cfs-mount" ["cfs-mount", numbered "cfs-mount" lastNumber] lastNumber)
        (lastNumber + 1) ∧
      ¬∃ rounds result, searchName "cfs-mount" ["cfs-mount", numbered "cfs-mount" lastNumber]
        lastNumber rounds = some (.ok result) := by
  have hleast := isLeast_freeNumbers_pair "cfs-mount" lastNumber
  have hunwritable : Integer.isWritable (lastNumber + 1) = false := by decide +kernel
  refine ⟨hleast, ?_⟩
  rintro ⟨rounds, result, h⟩
  rw [searchName, if_neg (not_not_intro (.head _))] at h
  have hlonger := searchFrom_mono (Nat.le_add_right rounds 2) h
  rw [searchFrom_eq hleast (by omega), searchOutcome, hunwritable, Bool.and_false] at hlonger
  cases hlonger

end SubpathCsi
