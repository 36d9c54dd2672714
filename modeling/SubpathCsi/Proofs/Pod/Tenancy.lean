import SubpathCsi.Pod.Mutation
import SubpathCsi.Proofs.Act.Trace
import SubpathCsi.Proofs.Json.Typed

/-!
# Single tenancy

All filesystems of a pod are to have one owner, who signs for the pod. The check goes through the
pairs and remembers the owner; as long as no owner has been met, what it remembers is empty, and so
is the owner of a filesystem that has none. Pairs without owner in front are therefore passed over.

* `Pair.signer_eq_ok`: what the check lets through, and `Pair.signer_eq_error`: how it refuses;
* `InitContainer.signer_of_inject`: the init container is told who signs;
* `Mutation.run_owners`: what a pod with sidecars tells of the owners, and which pods are refused
  before anything is asked.
-/

namespace SubpathCsi

/-! ### What the log calls a pod -/

namespace Pod

/-- The log has a name for the pod, or tells that it has none: the pod is an object, and its metadata
are one if there are any. -/
def IsNamed (pod : Json) : Prop := pod.IsObject ∧ Json.Given Json.IsObject "metadata" pod

variable {pod : Json}

theorem exists_logged_of_isNamed (h : IsNamed pod) : ∃ names, logged pod = .ok names := by
  have hmetadata : Yields (metadata pod) Json.IsObject := Json.yields_findD h.1 h.2 ⟨[], rfl⟩
  have hlogged : Yields (logged pod) fun _ => True := by
    refine hmetadata.bind fun m hm => ?_
    refine (Json.yields_findD hm (fun _ _ => trivial) trivial).bind fun space _ => ?_
    refine (Json.yields_findD hm (fun _ _ => trivial) trivial).bind fun name _ => ?_
    split
    · exact yields_ok trivial
    · exact (Json.yields_findD hm (fun _ _ => trivial) trivial).bind fun _ _ => yields_ok trivial
  obtain ⟨names, hnames, -⟩ := hlogged
  exact ⟨names, hnames⟩

theorem exists_logged_of_not_isNamed (h : ¬IsNamed pod) :
    ∃ cause, logged pod = .error (.defect cause) := by
  by_cases hpod : pod.IsObject
  · obtain ⟨m, hget, hm⟩ : ∃ m, pod.get? "metadata" = some m ∧ ¬m.IsObject := by
      have hgiven : ¬Json.Given Json.IsObject "metadata" pod := fun hgiven => h ⟨hpod, hgiven⟩
      simpa [Json.Given] using hgiven
    obtain ⟨cause, hcause⟩ := Json.exists_findD_eq_error hm "namespace" .null
    have hmetadata : metadata pod = .ok m := Json.findD_eq_ok.mpr ⟨hpod, by rw [hget]; rfl⟩
    refine ⟨cause, ?_⟩
    rw [logged, hmetadata]
    change (m.findD "namespace" .null >>= _) = _
    rw [hcause]
    rfl
  · obtain ⟨cause, hcause⟩ := Json.exists_findD_eq_error hpod "metadata" (.obj [])
    refine ⟨cause, ?_⟩
    rw [logged, metadata, hcause]
    rfl

end Pod

/-! ### The check of owners -/

namespace Pair

/-- All pairs have the owner `s`. -/
def OwnedBy (s : String) (pairs : List Pair) : Prop := ∀ p ∈ pairs, p.owner = s

/-- Pairs without owner come first, and after them pairs of an owner `s`. -/
def MaskedBy (s : String) (pairs : List Pair) : Prop :=
  s ≠ "" ∧ ∃ bare owned, pairs = bare ++ owned ∧ bare ≠ [] ∧ owned ≠ [] ∧ OwnedBy "" bare ∧
    OwnedBy s owned

variable {pod : Json} {s t : String} {p : Pair} {pairs : List Pair}

theorem ownedBy_nil : OwnedBy s [] := List.forall_mem_nil _

theorem ownedBy_cons : OwnedBy s (p :: pairs) ↔ p.owner = s ∧ OwnedBy s pairs :=
  List.forall_mem_cons

/-- Once an owner is met, all pairs have to have it. -/
theorem signerFrom_eq_ok (ht : t ≠ "") :
    signerFrom pod t pairs = .ok s ↔ s = t ∧ OwnedBy t pairs := by
  have hfilled : t.isEmpty = false := by simpa using ht
  induction pairs with
  | nil =>
    rw [signerFrom, Except.ok.injEq, and_iff_left ownedBy_nil]
    exact eq_comm
  | cons p ps ih =>
    rw [signerFrom, if_neg (by rw [hfilled]; exact Bool.false_ne_true), ownedBy_cons]
    by_cases hp : t = p.owner
    · rw [if_pos hp, and_iff_right hp.symm]
      exact ih
    · rw [if_neg hp]
      refine ⟨fun h => ?_, fun h => absurd h.2.1.symm hp⟩
      cases h

/-- **The check.** It lets pairs through if all that follow the pairs without owner have one. -/
theorem signer_eq_ok :
    signer pod pairs = .ok s ↔
      ∃ bare owned, pairs = bare ++ owned ∧ OwnedBy "" bare ∧ OwnedBy s owned ∧
        (owned = [] → s = "") := by
  rw [signer]
  -- as long as nothing but empty owners has been met, the check starts over with the rest
  induction pairs with
  | nil =>
    constructor
    · intro h
      rw [signerFrom, Except.ok.injEq] at h
      exact ⟨[], [], rfl, ownedBy_nil, ownedBy_nil, fun _ => h.symm⟩
    · rintro ⟨bare, owned, happ, -, -, hs⟩
      rw [hs (List.append_eq_nil_iff.mp happ.symm).2]
      rfl
  | cons p ps ih =>
    rw [signerFrom, if_pos (by decide)]
    by_cases hp : p.owner = ""
    · rw [hp, ih]
      constructor
      · rintro ⟨bare, owned, rfl, hbare, howned, hs⟩
        exact ⟨p :: bare, owned, rfl, ownedBy_cons.mpr ⟨hp, hbare⟩, howned, hs⟩
      · rintro ⟨bare, owned, happ, hbare, howned, hs⟩
        cases bare with
        | nil =>
          -- the owner of all is the empty one: nothing was passed over
          subst happ
          obtain ⟨hs', howned⟩ := ownedBy_cons.mp howned
          exact ⟨[], ps, rfl, hbare, howned, fun _ => hs'.symm.trans hp⟩
        | cons q bare =>
          cases happ
          exact ⟨bare, owned, rfl, (ownedBy_cons.mp hbare).2, howned, hs⟩
    · rw [signerFrom_eq_ok hp]
      constructor
      · rintro ⟨rfl, howned⟩
        exact ⟨[], p :: ps, rfl, ownedBy_nil, ownedBy_cons.mpr ⟨rfl, howned⟩,
          fun h => absurd h (List.cons_ne_nil _ _)⟩
      · rintro ⟨bare, owned, happ, hbare, howned, -⟩
        cases bare with
        | nil =>
          subst happ
          obtain ⟨rfl, howned⟩ := ownedBy_cons.mp howned
          exact ⟨rfl, howned⟩
        | cons q bare =>
          cases happ
          exact absurd (ownedBy_cons.mp hbare).1 hp

/-- Pairs that are let through have one owner, or those without owner come first. -/
theorem owned_or_masked (h : signer pod pairs = .ok s) : OwnedBy s pairs ∨ MaskedBy s pairs := by
  obtain ⟨bare, owned, rfl, hbare, howned, hs⟩ := signer_eq_ok.mp h
  by_cases hempty : s = ""
  · subst hempty
    exact .inl (List.forall_mem_append.mpr ⟨hbare, howned⟩)
  · have hne : owned ≠ [] := fun h => hempty (hs h)
    cases bare with
    | nil => exact .inl howned
    | cons p bare =>
      exact .inr ⟨hempty, p :: bare, owned, rfl, List.cons_ne_nil _ _, hne, hbare, howned⟩

/-- Pairs of one owner are let through, and so are those behind pairs without owner. -/
theorem exists_signer_iff :
    (∃ s, signer pod pairs = .ok s) ↔ ∃ s, OwnedBy s pairs ∨ MaskedBy s pairs := by
  constructor
  · rintro ⟨s, h⟩
    exact ⟨s, owned_or_masked h⟩
  · rintro ⟨s, howned | ⟨-, bare, owned, happ, -, hne, hbare, howned⟩⟩
    · cases pairs with
      | nil => exact ⟨"", rfl⟩
      | cons p ps =>
        exact ⟨s, signer_eq_ok.mpr ⟨[], p :: ps, rfl, ownedBy_nil, howned,
          fun h => absurd h (List.cons_ne_nil _ _)⟩⟩
    · exact ⟨s, signer_eq_ok.mpr ⟨bare, owned, happ, hbare, howned, fun h => absurd h hne⟩⟩

/-- **Order.** Among pairs that all have an owner, the order does not matter to the check. -/
theorem exists_signer_perm {order : List Pair} (horder : order.Perm pairs)
    (hfilled : ∀ p ∈ pairs, p.owner ≠ "") :
    (∃ s, signer pod order = .ok s) ↔ ∃ s, signer pod pairs = .ok s := by
  have hmasked : ∀ {qs : List Pair}, qs.Perm pairs → ∀ s, ¬MaskedBy s qs := by
    rintro qs hqs s ⟨-, bare, owned, rfl, hbare, -, hempty, -⟩
    obtain ⟨p, hp⟩ := List.exists_mem_of_ne_nil bare hbare
    exact hfilled p (hqs.mem_iff.mp (List.mem_append_left _ hp)) (hempty p hp)
  have howned : ∀ s, OwnedBy s order ↔ OwnedBy s pairs := fun s =>
    ⟨fun h p hp => h p (horder.mem_iff.mpr hp), fun h p hp => h p (horder.mem_iff.mp hp)⟩
  rw [exists_signer_iff, exists_signer_iff]
  refine exists_congr fun s => ?_
  rw [or_iff_left (hmasked horder s), or_iff_left (hmasked (.refl _) s), howned]

theorem mismatch_of_isNamed (h : Pod.IsNamed pod) :
    mismatch pod s t = .reported (.signerMismatch s t) := by
  obtain ⟨names, hnames⟩ := Pod.exists_logged_of_isNamed h
  rw [mismatch, hnames]

theorem exists_mismatch_of_not_isNamed (h : ¬Pod.IsNamed pod) :
    ∃ cause, mismatch pod s t = .defect cause := by
  obtain ⟨cause, hcause⟩ := Pod.exists_logged_of_not_isNamed h
  rw [mismatch, hcause]
  exact ⟨cause, rfl⟩

/-- The check refuses with two owners that differ, the one that it has met and the next one. -/
theorem signerFrom_eq_error {f : Failure} (h : signerFrom pod t pairs = .error f) :
    ∃ e, (e = t ∨ ∃ p ∈ pairs, p.owner = e) ∧ e ≠ "" ∧
      ∃ q ∈ pairs, e ≠ q.owner ∧ f = mismatch pod e q.owner := by
  induction pairs generalizing t with
  | nil => cases h
  | cons p ps ih =>
    rw [signerFrom] at h
    split at h
    · obtain ⟨e, he, hne, q, hq, hdiffers, rfl⟩ := ih h
      refine ⟨e, .inr ?_, hne, q, .tail _ hq, hdiffers, rfl⟩
      obtain rfl | ⟨p', hp', he⟩ := he
      · exact ⟨p, .head _, rfl⟩
      · exact ⟨p', .tail _ hp', he⟩
    · next hfilled =>
      split at h
      · obtain ⟨e, he, hne, q, hq, hdiffers, rfl⟩ := ih h
        refine ⟨e, ?_, hne, q, .tail _ hq, hdiffers, rfl⟩
        exact he.imp_right fun ⟨p', hp', he⟩ => ⟨p', .tail _ hp', he⟩
      · next hdiffers =>
        cases h
        have hne : t ≠ "" := fun ht => hfilled (by rw [ht]; rfl)
        exact ⟨t, .inl rfl, hne, p, .head _, hdiffers, rfl⟩

theorem signer_eq_error {f : Failure} (h : signer pod pairs = .error f) :
    ∃ p ∈ pairs, ∃ q ∈ pairs, p.owner ≠ q.owner ∧ f = mismatch pod p.owner q.owner := by
  obtain ⟨e, rfl | ⟨p, hp, rfl⟩, hne, q, hq, hdiffers, rfl⟩ := signerFrom_eq_error h
  · exact absurd rfl hne
  · exact ⟨p, hp, q, hq, hdiffers, rfl⟩

end Pair

/-! ### Who signs -/

namespace InitContainer

/-- The name of the variable that tells who signs. -/
def signerName : String := "SIGNER"

/-- The first init container of a pod. -/
def first? (pod : Json) : Option Json :=
  match (pod.get? "spec").bind (·.get? "initContainers") with
  | some (.arr (container :: _)) => some container
  | _ => none

/-- The value of a variable in the environment of a container. -/
def value? (name : String) (container : Json) : Option Json :=
  match container.get? "env" with
  | some (.arr vars) =>
    (vars.find? fun v => (v.get? "name").bind Json.str? = some name).bind (·.get? "value")
  | _ => none

/-- Who signs for a pod, as its first init container is told. -/
def signer? (pod : Json) : Option Json := (first? pod).bind (value? signerName)

variable {c : Config} {s : PodSummary}

/-- A container with the environment of an init container is told who signs. -/
theorem value?_env {container : Json} {images : String}
    (henv : container.get? "env" = some (.arr ((env c s images).map EnvVar.toJson))) :
    value? signerName container = some (.str s.signer) := by
  rw [value?, henv]
  simp [env, EnvVar.toJson, Json.get?, Json.str?, Keyed.get?_cons, signerName]

theorem get?_of_addTo {images : String} {spec spec' : Json}
    (h : addTo c s images spec = .ok spec') :
    ∃ container others, spec'.get? "initContainers" = some (.arr (container :: others)) ∧
      container.get? "env" = some (.arr ((env c s images).map EnvVar.toJson)) := by
  rw [addTo] at h
  obtain ⟨taken, -, h⟩ := bind_eq_ok.mp h
  obtain ⟨mount, -, h⟩ := bind_eq_ok.mp h
  obtain ⟨others, -, h⟩ := bind_eq_ok.mp h
  exact ⟨_, others, (Json.get?_assign h _).trans (if_pos rfl), rfl⟩

/-- **The init container** is the first of the pod, and is told who signs. -/
theorem signer_of_inject {incoming pod out : Json} (h : inject c s incoming pod = .ok out) :
    signer? out = some (.str s.signer) := by
  rw [inject] at h
  obtain ⟨images, -, h⟩ := bind_eq_ok.mp h
  obtain ⟨spec, -, h⟩ := bind_eq_ok.mp h
  obtain ⟨spec', hadd, h⟩ := bind_eq_ok.mp h
  obtain ⟨container, others, hinit, henv⟩ := get?_of_addTo hadd
  have hspec : out.get? "spec" = some spec' := (Json.get?_assign h _).trans (if_pos rfl)
  rw [signer?, first?, hspec, Option.bind_some, hinit]
  exact value?_env henv

end InitContainer

/-! ### Pods -/

namespace Mutation

/-- A pod that gets its sidecars has passed the check, and tells who signs. -/
theorem signer_of_run {c : Config} {pod out : Json} {pairs : List Pair} {es : List Exchange}
    (h : (run c pod pairs).Trace es (.ok out)) :
    ∃ s, Pair.signer pod pairs = .ok s ∧ InitContainer.signer? out = some (.str s) := by
  rw [run] at h
  obtain ⟨s, _, _, hsigner, h, -⟩ := Act.trace_bind_ok.mp h
  obtain ⟨prepared, _, _, -, h, -⟩ := Act.trace_bind_ok.mp h
  obtain ⟨runtimeClass, _, _, -, h, -⟩ := Act.trace_bind_ok.mp h
  obtain ⟨⟨pod', names⟩, _, _, -, h, -⟩ := Act.trace_bind_ok.mp h
  obtain ⟨pod'', _, _, -, h, -⟩ := Act.trace_bind_ok.mp h
  obtain ⟨-, hsigner⟩ := Act.trace_liftM.mp hsigner
  obtain ⟨-, hinject⟩ := Act.trace_liftM.mp h
  exact ⟨s, hsigner.symm, InitContainer.signer_of_inject hinject.symm⟩

/-- A pod that does not pass the check is refused before anything is asked. -/
theorem run_eq_fail {c : Config} {pod : Json} {pairs : List Pair} {f : Failure}
    (h : Pair.signer pod pairs = .error f) : run c pod pairs = .fail f := by
  rw [run, h]
  rfl

/-- **Single tenancy.** A pod that gets its sidecars is told of one owner, who owns all filesystems
but for those without owner that come before all others. If two owners differ in any other way, the
pod is refused before anything is asked; in this way they pass the check. Without such filesystems,
the order of the pairs does not matter. -/
theorem run_owners (c : Config) (pod : Json) (pairs : List Pair) :
    (∀ es out, (run c pod pairs).Trace es (.ok out) →
        ∃ s, InitContainer.signer? out = some (.str s) ∧
          (Pair.OwnedBy s pairs ∨ Pair.MaskedBy s pairs)) ∧
      ((∃ p ∈ pairs, ∃ q ∈ pairs, p.owner ≠ q.owner) → (∀ s, ¬Pair.MaskedBy s pairs) →
        ∃ p ∈ pairs, ∃ q ∈ pairs, p.owner ≠ q.owner ∧ ∃ f, run c pod pairs = .fail f ∧
          (Pod.IsNamed pod → f = .reported (.signerMismatch p.owner q.owner)) ∧
          (¬Pod.IsNamed pod → ∃ cause, f = .defect cause)) ∧
      (∀ s, Pair.MaskedBy s pairs → Pair.signer pod pairs = .ok s) ∧
      ((∀ p ∈ pairs, p.owner ≠ "") → ∀ order, order.Perm pairs →
        ((∃ s, Pair.signer pod order = .ok s) ↔ ∃ s, Pair.signer pod pairs = .ok s)) := by
  refine ⟨?_, ?_, ?_, fun hfilled order horder => Pair.exists_signer_perm horder hfilled⟩
  · intro es out h
    obtain ⟨s, hsigner, hout⟩ := signer_of_run h
    exact ⟨s, hout, Pair.owned_or_masked hsigner⟩
  · rintro ⟨p, hp, q, hq, hdiffers⟩ hmasked
    cases hsigner : Pair.signer pod pairs with
    | error f =>
      obtain ⟨p, hp, q, hq, hdiffers, rfl⟩ := Pair.signer_eq_error hsigner
      exact ⟨p, hp, q, hq, hdiffers, _, run_eq_fail hsigner, Pair.mismatch_of_isNamed,
        Pair.exists_mismatch_of_not_isNamed⟩
    | ok s =>
      have howned := (Pair.owned_or_masked hsigner).resolve_right (hmasked s)
      exact absurd ((howned p hp).trans (howned q hq).symm) hdiffers
  · rintro s ⟨-, bare, owned, happ, -, hne, hbare, howned⟩
    exact Pair.signer_eq_ok.mpr ⟨bare, owned, happ, hbare, howned, fun h => absurd h hne⟩

/-- A pair with a filesystem that has these annotations. -/
def annotatedPair (name : String) (annotations : Keyed String) : Pair where
  volumeName := .str name
  volume := {
    metadata := { name := "pv-of-" ++ name }
    csi := some {
      driver := "csi.cfs.confidentialfilesystems.com"
      volumeHandle := "pv-of-" ++ name } }
  claim := {
    metadata := { name, space := some "default", uid := some ("uid-of-" ++ name) }
    requests := some (some [("storage", "1Gi")]) }
  filesystem := { name := "fs-of-" ++ name, annotations }

/-- A pair without owner. -/
def barePair : Pair := annotatedPair "bare" []

/-- A pair with an owner. -/
def ownedPair : Pair := annotatedPair "owned" [(ownerKey, "0xabc")]

/-- A pod with one container. -/
def plainPod : Json :=
  .obj [("metadata", .obj [("name", .str "app"), ("namespace", .str "default")]),
    ("spec", .obj [("containers", .arr [.obj [("name", .str "app"), ("image", .str "busybox")]])])]

theorem isNamed_plainPod : Pod.IsNamed plainPod := by
  refine ⟨⟨_, rfl⟩, fun m hm => ?_⟩
  cases hm
  exact ⟨_, rfl⟩

theorem isOk_run_barePair :
    ((run {} plainPod [barePair, ownedPair]).run {}).1.isOk = true := by decide +kernel

theorem run_owners_barePair :
    ∃ es out, (run {} plainPod [barePair, ownedPair]).Trace es (.ok out) ∧
      ∃ s, InitContainer.signer? out = some (.str s) ∧
        (Pair.OwnedBy s [barePair, ownedPair] ∨ Pair.MaskedBy s [barePair, ownedPair]) := by
  obtain ⟨out, htrace⟩ := Act.exists_trace_of_isOk isOk_run_barePair
  exact ⟨_, out, htrace, (run_owners {} plainPod [barePair, ownedPair]).1 _ out htrace⟩

/-- A pod with two owners gets its sidecars, and is refused in the other order. -/
theorem run_barePair_order :
    barePair.owner ≠ ownedPair.owner ∧
      (∃ es out, (run {} plainPod [barePair, ownedPair]).Trace es (.ok out)) ∧
      run {} plainPod [ownedPair, barePair] =
        .fail (.reported (.signerMismatch ownedPair.owner barePair.owner)) := by
  have hdiffers : barePair.owner ≠ ownedPair.owner := by decide +kernel
  have hfilled : ownedPair.owner.isEmpty = false := by decide +kernel
  obtain ⟨out, htrace⟩ := Act.exists_trace_of_isOk isOk_run_barePair
  refine ⟨hdiffers, ⟨_, out, htrace⟩, run_eq_fail ?_⟩
  rw [Pair.signer, Pair.signerFrom, if_pos (by decide), Pair.signerFrom,
    if_neg (by rw [hfilled]; exact Bool.false_ne_true), if_neg hdiffers.symm,
    Pair.mismatch_of_isNamed isNamed_plainPod]

end Mutation

end SubpathCsi
