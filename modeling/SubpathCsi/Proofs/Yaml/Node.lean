import SubpathCsi.Yaml.Node

/-!
# Reading the tree of a text

The tree is read from tokens. A token that could not be read is a failure: it is malformed, or
something in it is out of range. The readers add nothing to the latter; what else they refuse is
malformed. A block mapping whose keys and values are plain scalars is read as its members, in their
order.

* `Gives`: what a computation results in, and why it breaks;
* `Node.gives_ofTokens`: why reading a tree breaks;
* `Node.ofTokens_flatTokens`: the tree of a mapping of plain scalars.
-/

namespace SubpathCsi.Yaml

variable {α β : Type}

/-! ### Results and reasons -/

/-- A computation: what it results in, and why it breaks. -/
structure Gives (x : Except Problem α) (result : α → Prop) (reasons : Defect → Prop) : Prop where
  /-- All results have a property. -/
  ok : ∀ a, x = .ok a → result a
  /-- It breaks for no other reasons. -/
  defect : ∀ reason, x = .error (.defect reason) → reasons reason

namespace Gives

variable {result : α → Prop} {reasons : Defect → Prop}

theorem pure {a : α} (h : result a) : Gives (.ok a) result reasons where
  ok := by
    rintro _ ⟨⟩
    exact h
  defect := nofun

theorem malformed : Gives (.error .malformed) result reasons := ⟨nofun, nofun⟩

theorem bind {x : Except Problem α} {k : α → Except Problem β} {final : β → Prop}
    (hx : Gives x result reasons) (hk : ∀ a, result a → Gives (k a) final reasons) :
    Gives (x >>= k) final reasons := by
  cases x with
  | error problem => exact ⟨nofun, fun reason h => hx.defect reason (by cases h; rfl)⟩
  | ok a => exact hk a (hx.ok a rfl)

theorem imp {x : Except Problem α} {weaker : α → Prop} (h : Gives x result reasons)
    (himp : ∀ a, result a → weaker a) : Gives x weaker reasons :=
  ⟨fun a ha => himp a (h.ok a ha), h.defect⟩

theorem mapM {f : α → Except Problem β} {results : β → Prop} {l : List α}
    (h : ∀ a ∈ l, Gives (f a) results reasons) :
    Gives (l.mapM f) (fun bs => ∀ b ∈ bs, results b) reasons := by
  induction l with
  | nil => exact .pure nofun
  | cons a l ih =>
    rw [List.forall_mem_cons] at h
    rw [List.mapM_cons]
    exact h.1.bind fun b hb => (ih h.2).bind fun bs hbs =>
      .pure (List.forall_mem_cons.mpr ⟨hb, hbs⟩)

end Gives

/-! ### Readers -/

namespace NodeReader

/-- Reading with some of the tokens leaves some of them, and breaks only at one that could not be
read. -/
abbrev Reads (ts : List Token) (x : Except Problem (α × NodeReader)) : Prop :=
  Gives x (fun p => p.2.tokens ⊆ ts) fun reason => .failure (.defect reason) ∈ ts

variable {ts : List Token} {r : NodeReader}

theorem Reads.bind {x : Except Problem (α × NodeReader)}
    {k : α × NodeReader → Except Problem (β × NodeReader)} (hx : Reads ts x)
    (hk : ∀ a r, r.tokens ⊆ ts → Reads ts (k (a, r))) : Reads ts (x >>= k) :=
  Gives.bind hx fun p hp => hk p.1 p.2 hp

theorem next_subset (h : r.tokens ⊆ ts) : r.next.tokens ⊆ ts :=
  fun _ ht => h (List.mem_of_mem_tail ht)

theorem start_subset (first : Bool) (h : r.tokens ⊆ ts) :
    (if first = true then r else r.next).tokens ⊆ ts := by
  split
  · exact h
  · exact next_subset h

theorem note_tokens (p : Properties) (a : Anchored) : (r.note p a).tokens = r.tokens := by
  rw [note]
  split <;> rfl

theorem gives_problem {result : α → Prop} (h : r.tokens ⊆ ts) :
    Gives (.error r.problem) result fun reason => .failure (.defect reason) ∈ ts := by
  refine ⟨nofun, fun reason hreason => h ?_⟩
  obtain ⟨tokens, anchors, handles⟩ := r
  cases tokens with
  | nil => cases hreason
  | cons t tokens =>
    cases t with
    | failure problem =>
      cases hreason
      exact .head _
    | _ => cases hreason

theorem gives_fullTag (handle : Option String) (suffix : String) :
    Gives (r.fullTag handle suffix) (fun _ => True)
      fun reason => .failure (.defect reason) ∈ ts := by
  cases handle with
  | none => exact .pure trivial
  | some handle =>
    rw [fullTag.eq_def]
    dsimp only
    split
    · exact .pure trivial
    · exact .malformed

theorem reads_properties (h : r.tokens ⊆ ts) : Reads ts r.properties := by
  have htail {t : Token} {rest : List Token} (hrest : r.tokens = t :: rest) : rest ⊆ ts :=
    fun _ ht => h (hrest ▸ .tail _ ht)
  rw [properties]
  split
  · next htokens =>
    exact (gives_fullTag _ _).bind fun _ _ => .pure fun _ ht => htail htokens (.tail _ ht)
  · next htokens =>
    exact (gives_fullTag _ _).bind fun _ _ => .pure fun _ ht => htail htokens (.tail _ ht)
  · next htokens => exact .pure (htail htokens)
  · next htokens =>
    exact (gives_fullTag _ _).bind fun _ _ => .pure (htail htokens)
  · exact .pure h

theorem reads_leave (p : Properties) (h : r.tokens ⊆ ts) : Reads ts (r.leave p) := by
  rw [leave]
  split
  · refine .pure ?_
    rwa [note_tokens]
  · exact gives_problem h

theorem reads_collect (p : Properties) (isMapping : Bool) (build : α → Node)
    {read : NodeReader → Except Problem (α × NodeReader)} (h : r.tokens ⊆ ts)
    (hread : ∀ r, r.tokens ⊆ ts → Reads ts (read r)) :
    Reads ts (r.collect p isMapping build read) := by
  rw [collect]
  refine (hread _ ?_).bind fun inside r hr => .pure ?_
  · rwa [note_tokens]
  · dsimp only
    rwa [note_tokens]

/-- The readers of nodes, entries, members and items, with an amount of fuel. -/
structure ReadsAll (ts : List Token) (fuel : Nat) : Prop where
  node : ∀ block indentless r, r.tokens ⊆ ts → Reads ts (readNode block indentless fuel r)
  entries : ∀ indented r, r.tokens ⊆ ts → Reads ts (readEntries indented fuel r)
  members : ∀ r, r.tokens ⊆ ts → Reads ts (readMembers fuel r)
  flowItems : ∀ first r, r.tokens ⊆ ts → Reads ts (readFlowItems first fuel r)
  flowMembers : ∀ first r, r.tokens ⊆ ts → Reads ts (readFlowMembers first fuel r)

variable {fuel : Nat}

theorem ReadsAll.optional (h : ReadsAll ts fuel) (block indentless : Bool) (ends : List Token)
    (hr : r.tokens ⊆ ts) : Reads ts (readOptional block indentless ends fuel r) := by
  rw [readOptional]
  split
  · exact .pure hr
  · exact h.node block indentless r hr

theorem ReadsAll.flowPair (h : ReadsAll ts fuel) (close : Token) (hr : r.tokens ⊆ ts) :
    Reads ts (readFlowPair close fuel r) := by
  rw [readFlowPair]
  refine (h.optional false false _ (next_subset hr)).bind fun key r hr => ?_
  dsimp only
  split
  · exact (h.optional false false _ (next_subset hr)).bind fun value r hr => .pure hr
  · exact .pure hr

/-- One step of each reader, whatever the readers with less fuel are given. -/
theorem ReadsAll.succ (h : ReadsAll ts fuel) : ReadsAll ts (fuel + 1) where
  node := by
    intro block indentless r hr
    rw [readNode]
    split
    · split
      · exact .pure (next_subset hr)
      · exact .pure (next_subset hr)
      · exact .malformed
    · refine (reads_properties hr).bind fun p r hr => ?_
      dsimp only
      split
      · exact .malformed
      · split
        · split
          · exact reads_collect p false _ hr fun r hr => h.entries false r hr
          · exact reads_leave p hr
        · refine .pure ?_
          rw [note_tokens]
          exact next_subset hr
        · exact reads_collect p false _ hr fun r hr => h.flowItems true _ (next_subset hr)
        · exact reads_collect p true _ hr fun r hr => h.flowMembers true _ (next_subset hr)
        · split
          · exact reads_collect p false _ hr fun r hr => h.entries true _ (next_subset hr)
          · exact reads_leave p hr
        · split
          · exact reads_collect p true _ hr fun r hr => h.members _ (next_subset hr)
          · exact reads_leave p hr
        · exact reads_leave p hr
  entries := by
    intro indented r hr
    rw [readEntries]
    split
    · refine (h.optional true false _ (next_subset hr)).bind fun item r hr => ?_
      exact (h.entries indented r hr).bind fun items r hr => .pure hr
    · split
      · exact .pure hr
      · split
        · exact .pure (next_subset hr)
        · exact gives_problem hr
  members := by
    intro r hr
    have hmore (key value : Node) (r : NodeReader) (hr : r.tokens ⊆ ts) :
        Reads ts (readMembers fuel r >>= fun p => pure ((key, value) :: p.1, p.2)) :=
      (h.members r hr).bind fun members r hr => .pure hr
    rw [readMembers]
    split
    · refine (h.optional true true _ (next_subset hr)).bind fun key r hr => ?_
      dsimp only
      split
      · exact (h.optional true true _ (next_subset hr)).bind fun value r hr => hmore key value r hr
      · exact hmore key .empty r hr
    · split
      · exact .pure (next_subset hr)
      · exact gives_problem hr
  flowItems := by
    intro first r hr
    have hmore (item : Node) (r : NodeReader) (hr : r.tokens ⊆ ts) :
        Reads ts (readFlowItems false fuel r >>= fun p => pure (item :: p.1, p.2)) :=
      (h.flowItems false r hr).bind fun items r hr => .pure hr
    rw [readFlowItems]
    split
    · exact .pure (next_subset hr)
    · split
      · exact gives_problem hr
      · have hstart := start_subset first hr
        dsimp only
        generalize (if first = true then r else r.next) = r at hstart ⊢
        split
        · exact .pure (next_subset hstart)
        · split
          · exact (h.flowPair _ hstart).bind fun pair r hr => hmore (.mapping .map [pair]) r hr
          · exact (h.node false false _ hstart).bind fun item r hr => hmore item r hr
  flowMembers := by
    intro first r hr
    have hmore (member : Node × Node) (r : NodeReader) (hr : r.tokens ⊆ ts) :
        Reads ts (readFlowMembers false fuel r >>= fun p => pure (member :: p.1, p.2)) :=
      (h.flowMembers false r hr).bind fun members r hr => .pure hr
    rw [readFlowMembers]
    split
    · exact .pure (next_subset hr)
    · split
      · exact gives_problem hr
      · have hstart := start_subset first hr
        dsimp only
        generalize (if first = true then r else r.next) = r at hstart ⊢
        split
        · exact .pure (next_subset hstart)
        · split
          · exact (h.flowPair _ hstart).bind fun member r hr => hmore member r hr
          · exact (h.node false false _ hstart).bind fun key r hr => hmore (key, .empty) r hr

theorem readsAll (ts : List Token) (fuel : Nat) : ReadsAll ts fuel := by
  -- a reader calls others only with less fuel, so nothing need be known of the order among them
  induction fuel with
  | zero =>
    constructor
    · intro block indentless r hr
      rw [readNode]
      exact .malformed
    · intro indented r hr
      rw [readEntries]
      exact .malformed
    · intro r hr
      rw [readMembers]
      exact .malformed
    · intro first r hr
      rw [readFlowItems]
      exact .malformed
    · intro first r hr
      rw [readFlowMembers]
      exact .malformed
  | succ fuel ih => exact ih.succ

end NodeReader

theorem gives_readDirectives (versioned : Bool) (handles : Keyed String) (ts : List Token)
    (reasons : Defect → Prop) :
    Gives (readDirectives versioned handles ts) (fun p => p.2 ⊆ ts) reasons := by
  fun_induction readDirectives versioned handles ts with
  | case1 | case3 => exact .malformed
  | case2 _ _ _ _ _ ih => exact ih.imp fun _ h => List.subset_cons_of_subset _ h
  | case4 _ _ _ _ _ _ ih => exact ih.imp fun _ h => List.subset_cons_of_subset _ h
  | case5 _ _ _ ih => exact ih.imp fun _ h => List.subset_cons_of_subset _ h
  | case6 => exact .pure fun _ h => h

variable {ts : List Token}

theorem Node.gives_finish (n : Node) {r : NodeReader} (h : r.tokens ⊆ ts) :
    Gives (ofTokens.finish n r) (fun _ => True) fun reason => .failure (.defect reason) ∈ ts := by
  have hrest : r.tokens.dropWhile (· = Token.documentEnd) ⊆ ts :=
    fun _ ht => h ((List.dropWhile_suffix _).subset ht)
  rw [ofTokens.finish]
  split
  · exact .pure trivial
  · exact NodeReader.gives_problem hrest

/-- **Tokens.** Reading a tree breaks only at a token that could not be read. -/
theorem Node.gives_ofTokens (ts : List Token) :
    Gives (ofTokens ts) (fun _ => True) fun reason => .failure (.defect reason) ∈ ts := by
  have hread (r : NodeReader) (hr : r.tokens ⊆ ts) :
      Gives (readNode true false (2 * ts.length + 2) r >>= fun p => ofTokens.finish p.1 p.2)
        (fun _ => True) fun reason => .failure (.defect reason) ∈ ts :=
    Gives.bind ((NodeReader.readsAll ts _).node true false r hr) fun p hp => gives_finish p.1 hp
  rw [ofTokens]
  dsimp only
  split
  case h_1 => exact .pure trivial
  case h_2 | h_3 | h_4 | h_5 =>
    refine (gives_readDirectives false [] ts _).bind fun ⟨own, rest⟩ hrest => ?_
    dsimp only
    split
    · next rest =>
      have hrest : rest ⊆ ts := fun _ ht => hrest (.tail _ ht)
      split
      case h_7 => exact hread _ hrest
      all_goals exact gives_finish .empty hrest
    · exact NodeReader.gives_problem hrest
  case h_6 => exact hread _ (List.Subset.refl ts)

/-! ### Flat mappings -/

/-- The tokens of a member between plain scalars. -/
def memberTokens (m : String × String) : List Token :=
  [.key, .scalar m.1 true, .value, .scalar m.2 true]

/-- The tokens of a block mapping of plain scalars. -/
def flatTokens (members : List (String × String)) : List Token :=
  .blockMappingStart :: (members.flatMap memberTokens ++ [.blockEnd, .streamEnd])

/-- The node of a plain scalar. -/
def plainNode (text : String) : Node := .scalar (.ofPlain text) text

section Flat

variable (block indentless : Bool) (fuel : Nat) (anchors : Keyed Anchored) (handles : Keyed String)

theorem readNode_plain (text : String) (rest : List Token) :
    readNode block indentless (fuel + 1) ⟨.scalar text true :: rest, anchors, handles⟩ =
      .ok (plainNode text, ⟨rest, anchors, handles⟩) := by
  rw [readNode]
  rfl

/-- A scalar where a node may be left out. -/
theorem readOptional_plain {ends : List Token} {text : String} (rest : List Token)
    (h : Token.scalar text true ∉ ends) :
    readOptional block indentless ends (fuel + 1) ⟨.scalar text true :: rest, anchors, handles⟩ =
      .ok (plainNode text, ⟨rest, anchors, handles⟩) := by
  have hat : NodeReader.isAt ⟨.scalar text true :: rest, anchors, handles⟩ ends = false := by
    simpa [NodeReader.isAt, NodeReader.peek] using h
  rw [readOptional, hat, if_neg Bool.false_ne_true, readNode_plain]

theorem readMembers_memberTokens (m : String × String) (rest : List Token) :
    readMembers (fuel + 2) ⟨memberTokens m ++ rest, anchors, handles⟩ =
      readMembers (fuel + 1) ⟨rest, anchors, handles⟩ >>= fun p =>
        pure ((plainNode m.1, plainNode m.2) :: p.1, p.2) := by
  have hends (text : String) : Token.scalar text true ∉ [.key, .value, .blockEnd] := by simp
  rw [readMembers]
  change (readOptional true true _ (fuel + 1) ⟨.scalar m.1 true :: _, anchors, handles⟩ >>= _) = _
  rw [readOptional_plain true true fuel anchors handles _ (hends m.1)]
  change (readOptional true true _ (fuel + 1) ⟨.scalar m.2 true :: _, anchors, handles⟩ >>= _) = _
  rw [readOptional_plain true true fuel anchors handles _ (hends m.2)]
  rfl

/-- Every member takes one step of reading, and the end one more. -/
theorem readMembers_flatMap (members : List (String × String)) (rest : List Token)
    (h : members.length < fuel) :
    readMembers fuel ⟨members.flatMap memberTokens ++ .blockEnd :: rest, anchors, handles⟩ =
      .ok (members.map fun m => (plainNode m.1, plainNode m.2), ⟨rest, anchors, handles⟩) := by
  induction members generalizing fuel with
  | nil =>
    obtain ⟨fuel, rfl⟩ := Nat.exists_eq_add_one_of_ne_zero (Nat.ne_of_gt h)
    rw [readMembers]
    rfl
  | cons m members ih =>
    obtain ⟨fuel, rfl⟩ : ∃ n, fuel = n + 2 := ⟨fuel - 2, by simp at h; omega⟩
    rw [List.flatMap_cons, List.append_assoc, readMembers_memberTokens, ih _ (by simpa using h)]
    rfl

/-- A mapping of plain scalars where a block may come. -/
theorem readNode_flatTokens (members : List (String × String)) (h : members.length < fuel) :
    readNode true indentless (fuel + 1) ⟨flatTokens members, [], handles⟩ =
      .ok (.mapping .map (members.map fun m => (plainNode m.1, plainNode m.2)),
        ⟨[.streamEnd], [], handles⟩) := by
  rw [readNode]
  change NodeReader.collect ⟨flatTokens members, [], handles⟩ {} true (Properties.mapping {})
    (fun r => readMembers fuel r.next) = _
  change readMembers fuel ⟨members.flatMap memberTokens ++ .blockEnd :: [.streamEnd], [], handles⟩
    >>= _ = _
  rw [readMembers_flatMap fuel [] handles members _ h]
  rfl

end Flat

/-- **Flat mappings.** What is read from the tokens of a mapping of plain scalars is the mapping
with these members. -/
theorem Node.ofTokens_flatTokens (members : List (String × String)) :
    Node.ofTokens (flatTokens members) =
      .ok (some (.mapping .map (members.map fun m => (plainNode m.1, plainNode m.2)))) := by
  have hlength : members.length < 2 * (flatTokens members).length + 1 := by
    have hmembers : (members.flatMap memberTokens).length = 4 * members.length := by
      simp [List.length_flatMap, memberTokens, List.map_const', Nat.mul_comm]
    simp only [flatTokens, List.length_cons, List.length_append, hmembers]
    omega
  change (readNode true false (2 * (flatTokens members).length + 1 + 1)
    ⟨flatTokens members, [], usualHandles⟩ >>= _) = _
  rw [readNode_flatTokens false _ usualHandles members hlength]
  rfl

end SubpathCsi.Yaml
