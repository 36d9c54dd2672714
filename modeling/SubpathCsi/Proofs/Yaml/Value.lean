import SubpathCsi.Proofs.Yaml.Node
import SubpathCsi.Yaml.Value

/-!
# Why a value cannot be formed

The value of a tree is formed of its parts, the members under merge keys among them. Apart from
what is malformed, only a scalar can be without a value: a number that is too large to be read, a
day that is none of the calendar, a text that its tag does not fit.

* `Node.Part`: the parts of a node;
* `Node.Faulty`: a part has no value, for a reason;
* `Value.gives_ofText`: why reading the value of a text breaks.
-/

namespace SubpathCsi.Yaml

/-! ### Parts -/

/-- The parts of a node: the node, and the items, keys and values of its parts. -/
inductive Node.Part (root : Node) : Node → Prop where
  /-- The node itself. -/
  | root : Part root root
  /-- An item of a sequence. -/
  | item {tag : Tag} {items : List Node} {n : Node} :
      Part root (.sequence tag items) → n ∈ items → Part root n
  /-- A key of a mapping. -/
  | key {tag : Tag} {members : List (Node × Node)} {p : Node × Node} :
      Part root (.mapping tag members) → p ∈ members → Part root p.1
  /-- A value of a mapping. -/
  | value {tag : Tag} {members : List (Node × Node)} {p : Node × Node} :
      Part root (.mapping tag members) → p ∈ members → Part root p.2

namespace Node

/-- A node of which a value is formed: a part, or a key that is taken for a text. -/
def Formed (root n : Node) : Prop := root.Part n ∨ ∃ text, n = .scalar .str text

/-- No value can be formed of a part, for a reason other than being malformed. -/
def Faulty (root : Node) (reason : Defect) : Prop :=
  ∃ n, root.Part n ∧ n.scalarValue n.tag = .error (.defect reason)

/-- Nodes of which values are formed. -/
def FormedNodes (root : Node) (nodes : List Node) : Prop := ∀ n ∈ nodes, root.Formed n

/-- Members of which a mapping is formed. -/
def FormedMembers (root : Node) (members : List (Node × Node)) : Prop :=
  ∀ p ∈ members, root.Formed p.1 ∧ root.Formed p.2

variable {root n : Node} {reasons : Defect → Prop}

theorem gives_scalarValue (h : root.Formed n) :
    Gives (n.scalarValue n.tag) (fun _ => True) root.Faulty := by
  obtain hpart | ⟨text, rfl⟩ := h
  · exact ⟨fun _ _ => trivial, fun reason hreason => ⟨n, hpart, hreason⟩⟩
  · exact .pure trivial

/-! ### Members -/

theorem formed_plainKey (h : root.Part n) : root.Formed (plainKey n) := by
  rw [plainKey.eq_def]
  split
  · exact .inr ⟨_, rfl⟩
  · exact .inl h

/-- The members that mappings and merge keys give are made of parts. -/
theorem gives_mergedMembers :
    (∀ members, (∀ p ∈ members, root.Part p.1 ∧ root.Part p.2) → Gives (splitMembers members)
      (fun r => root.FormedMembers r.1 ∧ root.FormedMembers r.2) reasons) ∧
    (∀ n, root.Part n → Gives (mergedMembers n) root.FormedMembers reasons) ∧
    ∀ items, (∀ n ∈ items, root.Part n) → Gives (itemMembers items) root.FormedMembers reasons := by
  have happend {first second : List (Node × Node)} (hfirst : root.FormedMembers first)
      (hsecond : root.FormedMembers second) : root.FormedMembers (first ++ second) :=
    List.forall_mem_append.mpr ⟨hfirst, hsecond⟩
  have hparts {tag : Tag} {members : List (Node × Node)} (h : root.Part (.mapping tag members)) :
      ∀ p ∈ members, root.Part p.1 ∧ root.Part p.2 := fun p hp => ⟨h.key hp, h.value hp⟩
  -- the three functions call one another, so there is one induction for all of them; its cases are
  -- the four kinds of nodes, the lists of items, and the lists of members
  refine splitMembers.mutual_induct _ _ _ ?_ ?_ ?_ ?_ ?_ ?_ ?_ ?_ ?_ ?_ ?_
  case refine_1 =>
    intro tag members ih h
    rw [mergedMembers]
    exact (ih (hparts h)).bind fun r hr => .pure (happend hr.1 hr.2)
  case refine_2 =>
    intro tag items ih h
    rw [mergedMembers]
    exact ih fun n hn => h.item hn
  case refine_3 =>
    intro isMapping h
    exact .pure nofun
  case refine_4 =>
    intro tag text h
    exact .malformed
  case refine_5 =>
    intro h
    exact .pure nofun
  case refine_6 =>
    intro tag members items ihmembers ihitems h
    rw [List.forall_mem_cons] at h
    rw [itemMembers]
    exact (ihmembers (hparts h.1)).bind fun r hr => (ihitems h.2).bind fun later hlater =>
      .pure (happend hlater (happend hr.1 hr.2))
  case refine_7 =>
    intro items ih h
    rw [itemMembers]
    exact ih (List.forall_mem_cons.mp h).2
  case refine_8 =>
    intro item items hmapping hloop h
    rw [itemMembers]
    · exact .malformed
    · exact hmapping
    · exact hloop
  case refine_9 =>
    intro h
    exact .pure ⟨nofun, nofun⟩
  case refine_10 =>
    intro k v members hmerge ihvalue ihmembers h
    rw [List.forall_mem_cons] at h
    rw [splitMembers, if_pos hmerge]
    exact (ihvalue h.1.2).bind fun here hhere => (ihmembers h.2).bind fun r hr =>
      .pure ⟨happend hhere hr.1, hr.2⟩
  case refine_11 =>
    intro k v members hmerge ihmembers h
    rw [List.forall_mem_cons] at h
    rw [splitMembers, if_neg hmerge]
    refine (ihmembers h.2).bind fun r hr => .pure ⟨hr.1, List.forall_mem_cons.mpr ⟨?_, hr.2⟩⟩
    exact ⟨formed_plainKey h.1.1, .inl h.1.2⟩

theorem gives_members (h : root.Formed n) : Gives n.members root.FormedMembers reasons := by
  obtain hpart | ⟨text, rfl⟩ := h
  · cases n with
    | mapping tag members =>
      refine (gives_mergedMembers.1 members fun p hp => ⟨hpart.key hp, hpart.value hp⟩).bind ?_
      exact fun r hr => .pure (List.forall_mem_append.mpr hr)
    | scalar | sequence | loop => exact .malformed
  · exact .malformed

theorem gives_pair (h : root.Part n) :
    Gives n.pair (fun p => root.Formed p.1 ∧ root.Formed p.2) reasons := by
  rw [pair.eq_def]
  split
  · exact .pure ⟨.inl (h.key (.head _)), .inl (h.value (.head _))⟩
  · exact .malformed

/-- The items of a sequence of which a value is formed are parts. -/
theorem part_of_mem_items {tag : Tag} {items : List Node} (h : root.Formed (.sequence tag items))
    {item : Node} (hitem : item ∈ items) : root.Part item := by
  obtain hpart | ⟨text, htext⟩ := h
  · exact hpart.item hitem
  · cases htext

/-! ### Checks -/

/-- What is met later is made of parts. -/
theorem gives_meet (h : root.Formed n) : Gives n.meet root.FormedNodes root.Faulty := by
  rw [meet.eq_def]
  split
  · exact .pure nofun
  · split
    · exact .malformed
    · split
      · exact .pure (List.forall_mem_singleton.mpr h)
      · exact (gives_scalarValue h).bind fun _ _ => .pure nofun

theorem gives_meetMember {p : Node × Node} (h : root.Formed p.1 ∧ root.Formed p.2) :
    Gives (meetMember p) root.FormedNodes root.Faulty := by
  rw [meetMember]
  refine (gives_meet h.1).bind fun later hlater => ?_
  split
  · exact .malformed
  · exact .malformed
  · exact gives_meet h.2

theorem gives_meetPair {item : Node} (h : root.Part item) :
    Gives (item.pair >>= fun p => p.1.meet >>= fun ks => p.2.meet >>= fun vs => pure (ks ++ vs))
      root.FormedNodes root.Faulty :=
  (gives_pair h).bind fun _ hp => (gives_meet hp.1).bind fun _ hks =>
    (gives_meet hp.2).bind fun _ hvs => .pure (List.forall_mem_append.mpr ⟨hks, hvs⟩)

theorem formedNodes_flatten {ls : List (List Node)} (h : ∀ l ∈ ls, root.FormedNodes l) :
    root.FormedNodes ls.flatten := by
  intro n hn
  obtain ⟨l, hl, hn⟩ := List.mem_flatten.mp hn
  exact h l hl n hn

theorem gives_meetParts (h : root.Formed n) : Gives n.meetParts root.FormedNodes root.Faulty := by
  rw [meetParts.eq_def]
  split
  case h_1 =>
    split
    · exact (Gives.mapM fun item hitem => gives_meet (.inl (part_of_mem_items h hitem))).bind
        fun ls hls => .pure (formedNodes_flatten hls)
    · exact .malformed
  case h_2 | h_3 =>
    split
    · exact (Gives.mapM fun item hitem => gives_meetPair (part_of_mem_items h hitem)).bind
        fun ls hls => .pure (formedNodes_flatten hls)
    · exact .malformed
  case h_4 | h_5 =>
    exact (gives_members h).bind fun members hmembers =>
      (Gives.mapM fun p hp => gives_meetMember (hmembers p hp)).bind
        fun ls hls => .pure (formedNodes_flatten hls)
  case h_6 => exact .pure nofun

theorem gives_checkLevels (fuel : Nat) {nodes : List Node} (h : root.FormedNodes nodes) :
    Gives (checkLevels fuel nodes) (fun _ => True) root.Faulty := by
  induction fuel generalizing nodes with
  | zero => exact .pure trivial
  | succ fuel ih =>
    rw [checkLevels]
    split
    · exact .pure trivial
    · exact (Gives.mapM fun n hn => gives_meetParts (h n hn)).bind fun ls hls =>
        ih (formedNodes_flatten hls)

/-! ### Values -/

theorem gives_value (fuel : Nat) (h : root.Formed n) :
    Gives (n.value fuel) (fun _ => True) root.Faulty := by
  induction fuel generalizing n with
  | zero => exact .malformed
  | succ fuel ih =>
    have hpair {p : Node × Node} (hp : root.Formed p.1 ∧ root.Formed p.2) :
        Gives (p.1.value fuel >>= fun k => p.2.value fuel >>= fun v => pure (k, v))
          (fun _ => True) root.Faulty :=
      (ih hp.1).bind fun _ _ => (ih hp.2).bind fun _ _ => .pure trivial
    have hmembers (hn : root.Formed n) (form : List (Value × Value) → Value) :
        Gives (n.members >>= fun ms =>
          ms.mapM (fun p => p.1.value fuel >>= fun k => p.2.value fuel >>= fun v => pure (k, v)) >>=
            fun vs => pure (form vs)) (fun _ => True) root.Faulty :=
      (gives_members hn).bind fun _ hms => (Gives.mapM fun p hp => hpair (hms p hp)).bind
        fun _ _ => .pure trivial
    rw [value.eq_def]
    split
    case h_1 hfuel => cases hfuel
    case h_2 => exact .pure trivial
    case h_3 hfuel hloop =>
      cases hfuel
      dsimp only
      split
      case h_1 =>
        exact (Gives.mapM fun item hitem => ih (.inl (part_of_mem_items h hitem))).bind
          fun _ _ => .pure trivial
      case h_2 | h_3 =>
        exact (Gives.mapM fun item hitem => (gives_pair (part_of_mem_items h hitem)).bind
          fun _ hp => hpair hp).bind fun _ _ => .pure trivial
      case h_4 | h_5 => exact hmembers h _
      case h_6 => exact gives_scalarValue h

end Node

/-- A value that cannot be formed of a tree cannot be formed of a part of it. -/
theorem Value.gives_ofNode (fuel : Nat) (root : Node) :
    Gives (ofNode fuel root) (fun _ => True) root.Faulty := by
  rw [ofNode]
  exact (Node.gives_meet (.inl .root)).bind fun _ hlater =>
    (Node.gives_checkLevels fuel hlater).bind fun _ _ => Node.gives_value fuel (.inl .root)

/-- **Values.** Reading the value of a text breaks only at a token that could not be read, or at a
scalar in the tree that has no value. -/
theorem Value.gives_ofText (text : List Char) :
    Gives (ofText text) (fun _ => True) fun reason =>
      .failure (.defect reason) ∈ Token.ofText text ∨
        ∃ root, Node.ofTokens (Token.ofText text) = .ok (some root) ∧ root.Faulty reason := by
  have htree := Node.gives_ofTokens (Token.ofText text)
  rw [ofText]
  cases hread : Node.ofTokens (Token.ofText text) with
  | error problem =>
    rw [hread] at htree
    exact ⟨nofun, fun reason hreason => .inl (htree.defect reason (by cases hreason; rfl))⟩
  | ok tree =>
    cases tree with
    | none => exact .pure trivial
    | some root =>
      refine ⟨fun _ _ => trivial, fun reason hreason => .inr ⟨root, rfl, ?_⟩⟩
      exact (gives_ofNode _ root).defect reason hreason

end SubpathCsi.Yaml
