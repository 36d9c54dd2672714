import SubpathCsi.Pod.Pair
import SubpathCsi.Proofs.Act.Run
import SubpathCsi.Proofs.Clients
import SubpathCsi.Proofs.Pod.Injection

/-!
# How pairs are found

Each volume of a pod is looked up on its own: its claim, then the volume of the cluster that the
claim is bound to, or else the storage class that is to make one. Whatever is not found is a
failure; a volume is only passed over for what was found.

* `Pair.Course`: the ways in which the look-up of a volume may go if it succeeds;
* `Pair.course_of_trace`: there are no others;
* `Pair.Found`, `Pair.found_of_ofItems`: what was found for the volumes of a pod, one by one;
* `Pair.Uses`, `Pair.Found.uses`: the pairs that belong to the volumes of a pod in a cluster.
-/

namespace SubpathCsi

namespace Pair

variable {c : Config} {space item : Json} {es : List Exchange}

open Kube (fetched)

/-- The exchanges and the result of the look-up of a volume of a pod, if it succeeds. -/
inductive Course (c : Config) (space item : Json) : List Exchange → Option Pair → Prop
  /-- The volume stands for no claim. -/
  | claimless (hsource : Pod.claimSource? item = .ok none) : Course c space item [] none
  /-- The claim is not bound, and has no storage class. -/
  | classless (source name : Json) (claim : Claim)
      (hsource : Pod.claimSource? item = .ok (some source))
      (hname : source.get? "claimName" = some name)
      (hbound : claim.volumeName.filter (!·.isEmpty) = none) (hclass : className? claim = none) :
      Course c space item [fetched c (.readClaim name space) claim] none
  /-- The claim is not bound, and is of a storage class of another driver. -/
  | unbound (source name : Json) (claim : Claim) (className : String) (made : StorageClass)
      (hsource : Pod.claimSource? item = .ok (some source))
      (hname : source.get? "claimName" = some name)
      (hbound : claim.volumeName.filter (!·.isEmpty) = none)
      (hclass : className? claim = some className) (hdriver : made.provisioner ≠ c.driverName) :
      Course c space item [fetched c (.readClaim name space) claim,
        fetched c (.readClass (.str className)) made] none
  /-- The claim is bound to a volume of another driver, or of none. -/
  | foreign (source name : Json) (claim : Claim) (volume : String) (v : Volume)
      (hsource : Pod.claimSource? item = .ok (some source))
      (hname : source.get? "claimName" = some name)
      (hbound : claim.volumeName.filter (!·.isEmpty) = some volume) (hours : isOurs c v = false) :
      Course c space item [fetched c (.readClaim name space) claim,
        fetched c (.readVolume (.str volume)) v] none
  /-- The claim is bound to a volume of this driver. -/
  | ours (source name : Json) (volume : String) (p : Pair) (rest : List Exchange)
      (hsource : Pod.claimSource? item = .ok (some source))
      (hname : source.get? "claimName" = some name)
      (hbound : p.claim.volumeName.filter (!·.isEmpty) = some volume)
      (hours : isOurs c p.volume = true) (hitem : item.get? "name" = some p.volumeName) :
      Course c space item (fetched c (.readClaim name space) p.claim ::
        fetched c (.readVolume (.str volume)) p.volume :: rest) (some p)

/-- A volume of this driver makes a pair, and one of another driver makes none. -/
theorem trace_ofBound_ok {claim : Claim} {volume : String} {found : Option Pair}
    (h : (ofBound c item claim volume).Trace es (.ok found)) :
    ∃ v rest, es = fetched c (.readVolume (.str volume)) v :: rest ∧
      ((isOurs c v = false ∧ rest = [] ∧ found = none) ∨
        isOurs c v = true ∧ ∃ p, found = some p ∧ p.volume = v ∧ p.claim = claim ∧
          item.get? "name" = some p.volumeName) := by
  rw [ofBound, Act.trace_bind_ok] at h
  obtain ⟨v, first, rest, hv, h, rfl⟩ := h
  cases Kube.trace_call_ok.mp hv
  refine ⟨v, rest, rfl, ?_⟩
  cases hours : isOurs c v with
  | false =>
    rw [hours] at h
    obtain ⟨rfl, hfound⟩ := h
    cases hfound
    exact .inl ⟨rfl, rfl, rfl⟩
  | true =>
    rw [hours, if_pos rfl, Act.trace_bind_ok] at h
    obtain ⟨name, es₁, es₂, -, h, rfl⟩ := h
    dsimp only at h
    split at h
    · cases h.2
    · obtain ⟨filesystem, _, _, -, h, -⟩ := Act.trace_bind_ok.mp h
      obtain ⟨volumeName, hname, h⟩ := Act.trace_liftM_bind_ok.mp h
      cases h.2
      exact .inr ⟨rfl, _, rfl, rfl, rfl, Json.entry_eq_ok.mp hname⟩

/-- The storage class of a claim is looked up, if it has one. -/
theorem trace_isProvisioned_ok {claim : Claim} {provisioned : Bool}
    (h : (isProvisioned c claim).Trace es (.ok provisioned)) :
    (className? claim = none ∧ es = [] ∧ provisioned = false) ∨
      ∃ name made, className? claim = some name ∧
        es = [fetched c (.readClass (.str name)) made] ∧
        provisioned = decide (made.provisioner = c.driverName) := by
  rw [isProvisioned] at h
  cases hclass : className? claim with
  | none =>
    rw [hclass] at h
    obtain ⟨rfl, hprovisioned⟩ := h
    cases hprovisioned
    exact .inl ⟨rfl, rfl, rfl⟩
  | some name =>
    rw [hclass] at h
    dsimp only at h
    rw [Act.trace_bind_ok] at h
    obtain ⟨made, es₁, es₂, hmade, h, rfl⟩ := h
    cases Kube.trace_call_ok.mp hmade
    obtain ⟨rfl, hprovisioned⟩ := h
    cases hprovisioned
    exact .inr ⟨name, made, rfl, rfl, rfl⟩

/-- **The look-up of a volume.** If it succeeds, it goes one of these ways. -/
theorem course_of_trace {found : Option Pair} (h : (ofItem c space item).Trace es (.ok found)) :
    Course c space item es found := by
  rw [ofItem, Act.trace_liftM_bind_ok] at h
  obtain ⟨source?, hsource, h⟩ := h
  cases source? with
  | none =>
    obtain ⟨rfl, hfound⟩ := h
    cases hfound
    exact .claimless hsource
  | some source =>
    dsimp only at h
    rw [Act.trace_liftM_bind_ok] at h
    obtain ⟨name, hname, h⟩ := h
    rw [Act.trace_bind_ok] at h
    obtain ⟨claim, es₁, es₂, hclaim, h, rfl⟩ := h
    cases Kube.trace_call_ok.mp hclaim
    have hget := Json.entry_eq_ok.mp hname
    cases hbound : claim.volumeName.filter (!·.isEmpty) with
    | some volume =>
      rw [hbound] at h
      obtain ⟨v, rest, rfl, ⟨hours, rfl, rfl⟩ | ⟨hours, p, rfl, rfl, rfl, hitem⟩⟩ :=
        trace_ofBound_ok h
      · exact .foreign source name claim volume v hsource hget hbound hours
      · exact .ours source name volume p rest hsource hget hbound hours hitem
    | none =>
      rw [hbound] at h
      dsimp only at h
      rw [Act.trace_bind_ok] at h
      obtain ⟨provisioned, es₇, es₈, hprovisioned, h, rfl⟩ := h
      cases provisioned with
      | true => cases h.2
      | false =>
        obtain ⟨rfl, hfound⟩ := h
        cases hfound
        rw [List.append_nil]
        obtain ⟨hclass, rfl, -⟩ | ⟨className, made, hclass, rfl, hdriver⟩ :=
          trace_isProvisioned_ok hprovisioned
        · exact .classless source name claim hsource hget hbound hclass
        · exact .unbound source name claim className made hsource hget hbound hclass
            (of_decide_eq_false hdriver.symm)

/-- What was found for the volumes of a pod, in order: for some of them a pair. -/
inductive Found (c : Config) (space : Json) : List Json → List Exchange → List Pair → Prop
  | nil : Found c space [] [] []
  | cons (item : Json) (items : List Json) (first rest : List Exchange) (found : Option Pair)
      (pairs : List Pair) (hitem : Course c space item first found)
      (hitems : Found c space items rest pairs) :
      Found c space (item :: items) (first ++ rest) (found.toList ++ pairs)

theorem found_of_ofItems {items : List Json} {pairs : List Pair}
    (h : (ofItems c space items).Trace es (.ok pairs)) : Found c space items es pairs := by
  induction items generalizing es pairs with
  | nil =>
    obtain ⟨rfl, hpairs⟩ := h
    cases hpairs
    exact .nil
  | cons item items ih =>
    rw [ofItems, Act.trace_bind_ok] at h
    obtain ⟨found, first, rest, hitem, h, rfl⟩ := h
    rw [Act.trace_bind_ok] at h
    obtain ⟨others, rest, last, hitems, h, rfl⟩ := h
    obtain ⟨rfl, hpairs⟩ := h
    cases hpairs
    rw [List.append_nil]
    exact .cons item items first rest found others (course_of_trace hitem) (ih hitems)

/-- What was looked up is an object. -/
theorem Course.isObject {found : Option Pair} (h : Course c space item es found) :
    item.IsObject := by
  have hobject : ∀ {source?}, Pod.claimSource? item = .ok source? → item.IsObject := by
    intro source? hsource
    obtain ⟨source, hsource, -⟩ := bind_eq_ok.mp hsource
    exact (Json.findD_eq_ok.mp hsource).1
  cases h <;> exact hobject ‹_›

theorem Found.isObject {items : List Json} {pairs : List Pair} (h : Found c space items es pairs) :
    ∀ item ∈ items, item.IsObject := by
  induction h with
  | nil => exact List.forall_mem_nil _
  | cons item items first rest found pairs hitem _ ih =>
    exact List.forall_mem_cons.mpr ⟨hitem.isObject, ih⟩

/-- Each pair is that of a volume that the pod lists. -/
theorem Found.exists_item {items : List Json} {pairs : List Pair}
    (h : Found c space items es pairs) {p : Pair} (hp : p ∈ pairs) :
    ∃ item ∈ items, item.get? "name" = some p.volumeName := by
  induction h with
  | nil => cases hp
  | cons item items first rest found pairs hitem _ ih =>
    obtain hp | hp := List.mem_append.mp hp
    · cases hitem with
      | ours source name volume q rest hsource hname hbound hours hitem =>
        cases List.mem_singleton.mp hp
        exact ⟨item, .head _, hitem⟩
      | claimless | classless | unbound | foreign => cases hp
    · obtain ⟨item', hmem, hname⟩ := ih hp
      exact ⟨item', .tail _ hmem, hname⟩

/-- **The pairs of a pod** are what was found for the volumes that it lists. -/
theorem found_of_ofPod {pod : Json} {pairs : List Pair} (h : (ofPod c pod).Trace es (.ok pairs)) :
    ∃ space, Pod.space pod = .ok space ∧ Found c space (Pod.listed pod "volumes") es pairs := by
  rw [ofPod] at h
  obtain ⟨space, hspace, h⟩ := Act.trace_liftM_bind_ok.mp h
  obtain ⟨spec, hspec, h⟩ := Act.trace_liftM_bind_ok.mp h
  obtain ⟨value, hvalue, h⟩ := Act.trace_liftM_bind_ok.mp h
  obtain ⟨items, hitems, h⟩ := Act.trace_liftM_bind_ok.mp h
  have hfound := found_of_ofItems h
  refine ⟨space, hspace, ?_⟩
  obtain ⟨-, rfl⟩ := Json.findD_eq_ok.mp hspec
  rwa [Pod.listed_eq, ← Json.listAt_of_each hvalue hitems hfound.isObject]

end Pair

/-! ### Pairs in a cluster -/

/-- In a cluster, a claim has nothing to do with this driver. -/
inductive Claim.Elsewhere (c : Config) (k : Cluster) (claim : Claim) : Prop
  /-- It is bound to a volume without a CSI source, or of another driver. -/
  | bound (volume : String) (v : Volume)
      (hbound : claim.volumeName.filter (!·.isEmpty) = some volume)
      (hvolume : k.volume? (.str volume) = some v)
      (hdriver : ∀ source, v.csi = some source → source.driver ≠ c.driverName)
  /-- It is not bound, and has no storage class. -/
  | classless (hbound : claim.volumeName.filter (!·.isEmpty) = none)
      (hclass : claim.storageClassName.filter (!·.isEmpty) = none)
  /-- It is not bound, and its storage class is of another provisioner. -/
  | unbound (className : String) (made : StorageClass)
      (hbound : claim.volumeName.filter (!·.isEmpty) = none)
      (hclass : claim.storageClassName.filter (!·.isEmpty) = some className)
      (hmade : k.class? (.str className) = some made)
      (hdriver : made.provisioner ≠ c.driverName)

namespace Pair

variable {c : Config} {k : Cluster} {space : Json}

/-- A volume of a pod belongs to a pair in a cluster: its claim is bound to a volume of this
driver. -/
structure Backs (c : Config) (k : Cluster) (space item : Json) (p : Pair) : Prop where
  /-- The volume of the pod stands for the claim. -/
  claim : ∃ source name, Pod.claimSource? item = .ok (some source) ∧
    source.get? "claimName" = some name ∧ k.claim? name space = some p.claim
  /-- The claim is bound to the volume of the cluster. -/
  volume : ∃ volume, p.claim.volumeName.filter (!·.isEmpty) = some volume ∧
    k.volume? (.str volume) = some p.volume
  /-- That is one of this driver. -/
  driver : ∃ source, p.volume.csi = some source ∧ source.driver = c.driverName
  /-- The pair knows the name of the volume in the pod. -/
  name : item.get? "name" = some p.volumeName

/-- The pairs of volumes of a pod in a cluster: there is one for each volume whose claim is bound to
a volume of this driver, and the claims of all others have nothing to do with it. -/
inductive Uses (c : Config) (k : Cluster) (space : Json) : List Json → List Pair → Prop
  | nil : Uses c k space [] []
  /-- A volume that stands for no claim. -/
  | claimless (item : Json) (items : List Json) (pairs : List Pair)
      (hitem : Pod.claimSource? item = .ok none) (hitems : Uses c k space items pairs) :
      Uses c k space (item :: items) pairs
  /-- A volume whose claim has nothing to do with this driver. -/
  | elsewhere (item source name : Json) (claim : Claim) (items : List Json) (pairs : List Pair)
      (hsource : Pod.claimSource? item = .ok (some source))
      (hname : source.get? "claimName" = some name) (hclaim : k.claim? name space = some claim)
      (helsewhere : claim.Elsewhere c k) (hitems : Uses c k space items pairs) :
      Uses c k space (item :: items) pairs
  /-- A volume of this driver. -/
  | backed (item : Json) (items : List Json) (p : Pair) (pairs : List Pair)
      (hitem : Backs c k space item p) (hitems : Uses c k space items pairs) :
      Uses c k space (item :: items) (p :: pairs)

theorem isOurs_eq_true {v : Volume} (h : isOurs c v = true) :
    ∃ source, v.csi = some source ∧ source.driver = c.driverName := by
  rw [isOurs] at h
  cases hsource : v.csi with
  | none =>
    rw [hsource] at h
    cases h
  | some source =>
    rw [hsource] at h
    exact ⟨source, rfl, of_decide_eq_true h⟩

theorem isOurs_eq_false {v : Volume} (h : isOurs c v = false) {source : CsiSource}
    (hsource : v.csi = some source) : source.driver ≠ c.driverName := by
  rw [isOurs, hsource] at h
  exact of_decide_eq_false h

/-- **Pairs in a cluster.** What is found in a run is what the cluster has, whatever the faults. -/
theorem Found.uses {α : Type} {a : Act α} {w : Remote} {items : List Json} {es : List Exchange}
    {pairs : List Pair} (h : Found c space items es pairs) (hes : es ⊆ a.exchanges w) :
    Uses c w.cluster space items pairs := by
  induction h with
  | nil => exact .nil
  | cons item items first rest found pairs hcourse _ ih =>
    have hrest := ih fun e he => hes (List.mem_append_right _ he)
    replace hes : first ⊆ a.exchanges w := fun e he => hes (List.mem_append_left _ he)
    cases hcourse with
    | claimless hsource => exact .claimless item items pairs hsource hrest
    | classless source name claim hsource hname hbound hclass =>
      have hclaim := Act.claim?_of_mem_exchanges (hes (.head _))
      exact .elsewhere item source name claim items pairs hsource hname hclaim
        (.classless hbound hclass) hrest
    | unbound source name claim className made hsource hname hbound hclass hdriver =>
      have hclaim := Act.claim?_of_mem_exchanges (hes (.head _))
      have hmade := Act.class?_of_mem_exchanges (hes (.tail _ (.head _)))
      exact .elsewhere item source name claim items pairs hsource hname hclaim
        (.unbound className made hbound hclass hmade hdriver) hrest
    | foreign source name claim volume v hsource hname hbound hours =>
      have hclaim := Act.claim?_of_mem_exchanges (hes (.head _))
      have hvolume := Act.volume?_of_mem_exchanges (hes (.tail _ (.head _)))
      exact .elsewhere item source name claim items pairs hsource hname hclaim
        (.bound volume v hbound hvolume fun _ => isOurs_eq_false hours) hrest
    | ours source name volume p others hsource hname hbound hours hitem =>
      have hclaim := Act.claim?_of_mem_exchanges (hes (.head _))
      have hvolume := Act.volume?_of_mem_exchanges (hes (.tail _ (.head _)))
      exact .backed item items p pairs ⟨⟨source, name, hsource, hname, hclaim⟩,
        ⟨volume, hbound, hvolume⟩, isOurs_eq_true hours, hitem⟩ hrest

end Pair

end SubpathCsi
