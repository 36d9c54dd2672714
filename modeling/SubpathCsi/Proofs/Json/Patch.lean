import SubpathCsi.Json.Patch
import SubpathCsi.Proofs.Json.Shape
import SubpathCsi.Proofs.Keyed
import SubpathCsi.Proofs.Text.Split

/-!
# What patches do

A patch that was found between two values is carried out member by member: what becomes of a member
is what becomes of it under the patch that is found for the member alone.

* `Patch.keys_pointer`, `Patch.opOfJson?_opToJson`: pointers and operations can be read back;
* `Patch.get?_patched_obj`, `Patch.get?_becomes`: the law of members;
* `Patch.becomes_str`, `Patch.becomes_arr`: texts, and lists of another length, are written as they
  are to be.
-/

namespace SubpathCsi

namespace Patch

/-! ### Reading back -/

theorem slash_notMem_escape (cs : List Char) : '/' ∉ escape cs := by
  fun_induction escape cs with
  | case1 => exact List.not_mem_nil
  | case2 cs ih => simpa using ih
  | case3 cs ih => simpa using ih
  | case4 c cs h1 h2 ih =>
    rw [List.mem_cons, not_or]
    exact ⟨fun hc => h2 hc.symm, ih⟩

/-- The text of a pointer, cut at its slashes. -/
theorem splitAt_pointer (key : String) (path : List String) :
    Text.splitAt '/' (escape key.toList ++ path.flatMap fun k => '/' :: escape k.toList) =
      (key :: path).map fun k => escape k.toList := by
  induction path generalizing key with
  | nil =>
    rw [List.flatMap_nil, List.append_nil, Text.splitAt_of_notMem (slash_notMem_escape _)]
    rfl
  | cons next path ih =>
    rw [List.flatMap_cons, List.cons_append, Text.splitAt_append,
      Text.splitAt_of_notMem (slash_notMem_escape _), ih]
    rfl

/-- **Pointers** lead where they were made for. -/
theorem keys_pointer (path : List String) : keys (pointer path) = path := by
  cases path with
  | nil => rfl
  | cons key path =>
    have hread : (fun part => String.ofList (unescape part)) ∘ (fun k : String => escape k.toList) =
        id := funext fun k => by
      rw [Function.comp_apply, unescape_escape, String.ofList_toList]
      rfl
    have htext : (pointer (key :: path)).toList =
        '/' :: (escape key.toList ++ path.flatMap fun k => '/' :: escape k.toList) := by
      rw [pointer, String.toList_ofList, List.flatMap_cons, List.cons_append]
    rw [keys, htext]
    change (Text.splitAt '/' _).map _ = _
    rw [splitAt_pointer, List.map_map, hread, List.map_id]

theorem opOfJson?_opToJson (op : PatchOp) : opOfJson? (opToJson op) = some op := by
  cases op with
  | add path v | replace path v | remove path =>
    change some _ = _
    rw [keys_pointer]

/-! ### Operations under a key -/

/-- An operation on what is under a key. -/
def under (key : String) : PatchOp → PatchOp
  | .add path v => .add (key :: path) v
  | .remove path => .remove (key :: path)
  | .replace path v => .replace (key :: path) v

/-- What is found under a key is found as it is anywhere. -/
theorem betweenAt_cons (key : String) (path : List String) (a b : Json) :
    betweenAt (key :: path) a b = (betweenAt path a b).map (under key) := by
  refine betweenAt.induct
    (fun path a b => betweenAt (key :: path) a b = (betweenAt path a b).map (under key))
    (fun path ns ms =>
      betweenMembers (key :: path) ns ms = (betweenMembers path ns ms).map (under key))
    ?objects ?same ?replaced ?nil ?cons path a b
  case objects =>
    intro path ms ns ih
    rw [betweenAt, betweenAt, ih, List.map_append, List.map_map]
    rfl
  case same =>
    intro path a b hkind hsame
    rw [betweenAt.eq_2 _ _ _ hkind, betweenAt.eq_2 _ _ _ hkind, if_pos hsame, if_pos hsame]
    rfl
  case replaced =>
    intro path a b hkind hsame
    rw [betweenAt.eq_2 _ _ _ hkind, betweenAt.eq_2 _ _ _ hkind, if_neg hsame, if_neg hsame]
    rfl
  case nil =>
    intro path ns
    rfl
  case cons =>
    intro path ns k a ms hmember hrest
    rw [betweenMembers, betweenMembers, List.map_append, hrest]
    congr 1
    split
    · exact hmember _
    · rfl

theorem not_remove_of_mem_betweenMembers {ns ms : List (String × Json)} {op : PatchOp}
    (h : op ∈ betweenMembers [] ns ms) : op ≠ .remove [] := by
  induction ms with
  | nil => cases h
  | cons p ms ih =>
    obtain ⟨k, a⟩ := p
    rw [betweenMembers] at h
    obtain h | h := List.mem_append.mp h
    · split at h
      · rw [List.nil_append, betweenAt_cons] at h
        obtain ⟨op, -, rfl⟩ := List.mem_map.mp h
        cases op <;> exact fun hremove => nomatch hremove
      · cases List.mem_singleton.mp h
        exact fun hremove => nomatch hremove
    · exact ih h

/-- No patch removes the whole value. -/
theorem not_remove_of_mem_between {a b : Json} {op : PatchOp} (h : op ∈ between a b) :
    op ≠ .remove [] := by
  rw [between] at h
  by_cases hkind : ∀ ms ns, a = .obj ms → b = .obj ns → False
  · rw [betweenAt.eq_2 _ _ _ hkind] at h
    split at h
    · cases h
    · cases List.mem_singleton.mp h
      exact fun hremove => nomatch hremove
  · push Not at hkind
    obtain ⟨ms, ns, rfl, rfl, -⟩ := hkind
    rw [betweenAt] at h
    obtain h | h := List.mem_append.mp h
    · exact not_remove_of_mem_betweenMembers h
    · obtain ⟨p, -, rfl⟩ := List.mem_map.mp h
      exact fun hremove => nomatch hremove

/-- Operations under a key change what is there, and nothing else. -/
theorem apply_under {ms : List (String × Json)} {key : String} {a : Json} {ops : List PatchOp}
    (hget : Keyed.get? ms key = some a) (hops : ∀ op ∈ ops, op ≠ .remove []) :
    ∃ ms', apply (.obj ms) (ops.map (under key)) = .obj ms' ∧
      ∀ k, Keyed.get? ms' k = if key = k then some (apply a ops) else Keyed.get? ms k := by
  induction ops generalizing ms a with
  | nil =>
    refine ⟨ms, rfl, fun k => ?_⟩
    split
    · next h => rw [← h, hget]; rfl
    · rfl
  | cons op ops ih =>
    obtain ⟨hop, hops⟩ := List.forall_mem_cons.mp hops
    have hstep : applyOp (.obj ms) (under key op) = .obj (Keyed.put ms key (applyOp a op)) := by
      cases op with
      | add path v | replace path v =>
        change Json.obj _ = _
        rw [hget]
        rfl
      | remove path =>
        cases path with
        | nil => exact absurd rfl hop
        | cons next path =>
          change drop (key :: next :: path) (.obj ms) = _
          rw [drop, hget]
          · rfl
          · exact fun hnil => List.cons_ne_nil _ _ hnil
    obtain ⟨ms', happly, hms'⟩ := ih ((Keyed.get?_put ms key _ key).trans (if_pos rfl)) hops
    refine ⟨ms', ?_, fun k => ?_⟩
    · rw [List.map_cons, apply, List.foldl_cons, hstep]
      exact happly
    · rw [hms' k, Keyed.get?_put]
      split <;> rfl

/-! ### The law of members -/

theorem apply_append (j : Json) (ops ops' : List PatchOp) :
    apply j (ops ++ ops') = apply (apply j ops) ops' := List.foldl_append

/-- What a patch between two values makes of the first. -/
def patched (a b : Json) : Json := apply a (between a b)

/-- The operations for one member, by what there is to be under its key. -/
def memberOps (key : String) (a : Json) : Option Json → List PatchOp
  | some b => (between a b).map (under key)
  | none => [.remove [key]]

theorem betweenMembers_cons (ns ms : List (String × Json)) (key : String) (a : Json) :
    betweenMembers [] ns ((key, a) :: ms) =
      memberOps key a (Keyed.get? ns key) ++ betweenMembers [] ns ms := by
  rw [betweenMembers]
  congr 1
  cases Keyed.get? ns key with
  | some b => exact betweenAt_cons key [] a b
  | none => rfl

theorem apply_memberOps {cur : List (String × Json)} {key : String} {a : Json}
    (hget : Keyed.get? cur key = some a) (b? : Option Json) :
    ∃ cur', apply (.obj cur) (memberOps key a b?) = .obj cur' ∧
      ∀ k, Keyed.get? cur' k = if key = k then b?.map (patched a) else Keyed.get? cur k := by
  cases b? with
  | some b => exact apply_under hget fun op => not_remove_of_mem_between
  | none => exact ⟨_, rfl, Keyed.get?_erase cur key⟩

/-- The members that there were become what there is to be of them. -/
theorem apply_betweenMembers (ns : List (String × Json)) {ms : List (String × Json)}
    (cur : List (String × Json)) (hms : (Keyed.keys ms).Nodup)
    (hcur : ∀ k ∈ Keyed.keys ms, Keyed.get? cur k = Keyed.get? ms k) :
    ∃ cur', apply (.obj cur) (betweenMembers [] ns ms) = .obj cur' ∧
      ∀ k, Keyed.get? cur' k = if k ∈ Keyed.keys ms then
        (Keyed.get? ns k).bind fun b => (Keyed.get? ms k).map fun a => patched a b
      else Keyed.get? cur k := by
  induction ms generalizing cur with
  | nil => exact ⟨cur, rfl, fun k => rfl⟩
  | cons p ms ih =>
    obtain ⟨key, a⟩ := p
    obtain ⟨hkey, hms⟩ : key ∉ Keyed.keys ms ∧ (Keyed.keys ms).Nodup := List.nodup_cons.mp hms
    have hget : Keyed.get? cur key = some a := by
      rw [hcur key (.head _), Keyed.get?_cons, if_pos rfl]
    have hcons : ∀ k, k ≠ key → Keyed.get? ((key, a) :: ms) k = Keyed.get? ms k := fun k hk => by
      rw [Keyed.get?_cons, if_neg hk.symm]
    obtain ⟨mid, hfirst, hmid⟩ := apply_memberOps hget (Keyed.get? ns key)
    obtain ⟨cur', hrest, hcur'⟩ := ih mid hms fun k hk => by
      have hne : k ≠ key := fun he => hkey (he ▸ hk)
      rw [hmid, if_neg hne.symm, hcur k (.tail _ hk), hcons k hne]
    refine ⟨cur', ?_, fun k => ?_⟩
    · rw [betweenMembers_cons, apply_append, hfirst, hrest]
    · rw [hcur' k]
      by_cases hk : k = key
      · subst hk
        have hhead : k ∈ Keyed.keys ((k, a) :: ms) := .head _
        rw [if_neg hkey, if_pos hhead, hmid, if_pos rfl, Keyed.get?_cons, if_pos rfl]
        cases Keyed.get? ns k <;> rfl
      · have hmem : k ∈ Keyed.keys ((key, a) :: ms) ↔ k ∈ Keyed.keys ms :=
          List.mem_cons.trans (or_iff_right hk)
        rw [hmid, if_neg (Ne.symm hk), hcons k hk]
        simp only [hmem]

/-- Members that are added come to those that are there. -/
theorem apply_add (cur ns : List (String × Json)) :
    apply (.obj cur) (ns.map fun p => .add [p.1] p.2) = .obj (Keyed.merge cur ns) := by
  induction ns generalizing cur with
  | nil => rfl
  | cons p ns ih =>
    exact ih (Keyed.put cur p.1 p.2)

/-- **The law of members.** What a patch makes of an object has the members that there are to be:
those that there were under the patch for the member alone, and the others as they are. -/
theorem get?_patched_obj {ms ns : List (String × Json)} (hms : (Keyed.keys ms).Nodup)
    (hns : (Keyed.keys ns).Nodup) (key : String) :
    (patched (.obj ms) (.obj ns)).get? key =
      (Keyed.get? ns key).map fun b => ((Keyed.get? ms key).map (patched · b)).getD b := by
  obtain ⟨mid, hmid, hget⟩ := apply_betweenMembers ns ms hms fun _ _ => rfl
  rw [patched, between, betweenAt, apply_append, hmid]
  have hadded := apply_add mid (ns.filter fun p => !Keyed.has ms p.1)
  have hnew := Keyed.nodup_filter hns fun p => !Keyed.has ms p.1
  change (apply (.obj mid) ((ns.filter fun p => !Keyed.has ms p.1).map
    fun p => .add [p.1] p.2)).get? key = _
  rw [hadded]
  change Keyed.get? (Keyed.merge mid _) key = _
  rw [Keyed.get?_merge_of_nodup mid hnew, Keyed.get?_filter ns fun k => !Keyed.has ms k, hget,
    Keyed.has]
  cases hold : Keyed.get? ms key with
  | none =>
    rw [Option.isSome_none, Bool.not_false, if_pos rfl]
    cases Keyed.get? ns key <;> simp
  | some a =>
    have hmem : key ∈ Keyed.keys ms := List.mem_map_of_mem (Keyed.mem_of_get?_eq_some hold)
    rw [Option.isSome_some, Bool.not_true, if_neg Bool.false_ne_true, if_pos hmem, Option.none_or]
    cases Keyed.get? ns key <;> rfl

/-! ### Following a patch -/

/-- What becomes of a value that there may have been under the patch that makes it `b`. -/
def becomes (a? : Option Json) (b : Json) : Json := (a?.map (patched · b)).getD b

/-- Unless both are objects, a value is replaced by the other if it is not the same. -/
theorem patched_eq {a b : Json} (hkind : ∀ ms ns, a = .obj ms → b = .obj ns → False) :
    patched a b = if Json.same a b then a else b := by
  rw [patched, between, betweenAt.eq_2 _ _ _ hkind]
  split <;> rfl

/-- Members of an object, one by one. -/
theorem get?_becomes {a? : Option Json} {b : Json} (ha : ∀ a, a? = some a → a.Distinct)
    (hb : b.Distinct) (hobject : b.IsObject) (key : String) :
    (becomes a? b).get? key = (b.get? key).map (becomes (a?.bind (·.get? key))) := by
  obtain ⟨ns, rfl⟩ := hobject
  cases a? with
  | none =>
    change Json.get? (.obj ns) key = _
    cases Json.get? (.obj ns) key <;> rfl
  | some a =>
    cases a with
    | obj ms => exact get?_patched_obj (ha _ rfl ms rfl) (hb ns rfl) key
    | null | bool | int | float | str | arr =>
      refine (congrArg (Json.get? · key) (patched_eq fun ms ns h _ => ?_)).trans ?_
      · cases h
      · change Json.get? (.obj ns) key = _
        cases Json.get? (.obj ns) key <;> rfl

theorem same_str {a : Json} {s : String} (h : a.same (.str s) = true) : a = .str s := by
  cases a with
  | str t =>
    rw [Json.same] at h
    rw [of_decide_eq_true h]
  | null | bool | int | float | arr | obj => cases h

/-- A text is written as it is. -/
theorem becomes_str (a? : Option Json) (s : String) : becomes a? (.str s) = .str s := by
  cases a? with
  | none => rfl
  | some a =>
    refine (patched_eq fun ms ns _ h => ?_).trans ?_
    · cases h
    · split
      · next h => exact same_str h
      · rfl

theorem length_eq_of_sameItems {xs ys : List Json} (h : Json.sameItems xs ys = true) :
    xs.length = ys.length := by
  induction xs generalizing ys with
  | nil =>
    cases ys with
    | nil => rfl
    | cons y ys => cases h
  | cons x xs ih =>
    cases ys with
    | nil => cases h
    | cons y ys =>
      rw [Json.sameItems, Bool.and_eq_true] at h
      rw [List.length_cons, List.length_cons, ih h.2]

/-- A list is written as it is, unless it takes the place of one of the same length. -/
theorem becomes_arr {a? : Option Json} {ys : List Json}
    (h : ∀ xs, a? = some (.arr xs) → xs.length ≠ ys.length) : becomes a? (.arr ys) = .arr ys := by
  cases a? with
  | none => rfl
  | some a =>
    refine (patched_eq fun ms ns _ h => ?_).trans ?_
    · cases h
    · cases a with
      | arr xs =>
        refine if_neg fun hsame => h xs rfl ?_
        rw [Json.same] at hsame
        exact length_eq_of_sameItems hsame
      | null | bool | int | float | str | obj => rfl

/-- Carrying out operations that were written down. -/
theorem apply_opsOfJson (a b : Json) :
    apply a (((between a b).map opToJson).filterMap opOfJson?) = becomes (some a) b := by
  have hread : opOfJson? ∘ opToJson = some := funext opOfJson?_opToJson
  rw [List.filterMap_map, hread, List.filterMap_some]
  rfl

end Patch

end SubpathCsi
