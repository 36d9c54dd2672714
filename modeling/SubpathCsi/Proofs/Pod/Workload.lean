import SubpathCsi.Proofs.Pod.Mutation
import SubpathCsi.Proofs.Pod.Tenancy

/-!
# What a mutation leaves of a workload

Each round goes through all containers and volumes, those of the rounds before as well, and a claim
may have several volumes. Still the rounds together do no more to the pod of before than to fill the
volumes of the claims: its containers see what is mounted into these, and its volumes are filled in
their places. All the rest stays, or has something put before or after it.

* `Mutation.Kept`, `Mutation.kept_of_rounds`: the containers and volumes of a pod after some rounds;
* `Mutation.Workload`, `Mutation.workload_of_run`: all that a pod is after a run.
-/

namespace SubpathCsi

open Pod (listed namesOf namesUnder isOf fill namesFor seeing seeingIn missing textNames pullSecret)

/-- The names of the claims of pairs. -/
def Pair.claimNames (pairs : List Pair) : List String := pairs.map (·.claim.name)

/-- The object under a key; the empty one if there is none. -/
def Json.objectAt (j : Json) (key : String) : Json := (j.get? key).getD (.obj [])

namespace Mutation

variable {c : Config} {es : List Exchange} {pod₀ pod pod' out : Json} {pairs : List Pair}
  {claims : List String} {rounds : List Round} {r : Round}

/-! ### Containers and volumes -/

/-- The containers and volumes of a pod after some rounds. -/
structure Kept (claims : List String) (n : Nat) (pod₀ pod : Json) : Prop where
  /-- The volumes of before come first, those of the claims filled. What comes after them has other
  names. -/
  volumes : ∃ own, listed pod "volumes" = (listed pod₀ "volumes").map (fill claims) ++ own ∧
    ∀ name ∈ namesOf own, ∃ text, name = .str text ∧ .str text ∉ namesUnder pod₀ "volumes"
  /-- Volumes that are filled keep their names. -/
  names : ∀ item ∈ listed pod₀ "volumes", (fill claims item).get? "name" = item.get? "name"
  /-- The containers of before come last, and see what is mounted into the volumes of the claims. -/
  containers : ∃ sidecars, sidecars.length = n ∧ listed pod "containers" =
    sidecars ++ (listed pod₀ "containers").map
      (seeingIn (namesFor claims (listed pod₀ "volumes")))

theorem Kept.refl (pod : Json) : Kept [] 0 pod pod := by
  refine ⟨⟨[], ?_, List.forall_mem_nil _⟩, fun item _ => by rw [Pod.fill_nil, id], [], rfl, ?_⟩
  · rw [Pod.fill_nil, List.map_id, List.append_nil]
  · rw [Pod.namesFor_nil, Pod.seeingIn_nil, List.map_id, List.nil_append]

/-- No volume loses its name. -/
theorem Kept.volumes_subset {n : Nat} (h : Kept claims n pod₀ pod) :
    namesUnder pod₀ "volumes" ⊆ namesUnder pod "volumes" := by
  intro name hname
  obtain ⟨own, hvolumes, -⟩ := h.volumes
  obtain ⟨item, hitem, hget⟩ := Pod.mem_namesOf.mp hname
  have hmem : fill claims item ∈ listed pod "volumes" := by
    rw [hvolumes]
    exact List.mem_append_left _ (List.mem_map_of_mem hitem)
  exact Pod.mem_namesOf.mpr ⟨_, hmem, (h.names item hitem).trans hget⟩

/-- A container that mounts nothing but volumes of the pod sees no more of these when there are
other volumes beside them. -/
theorem seeingIn_append_of_mountsOnly {volumes names own : List Json} {container : Json}
    (hmounts : MountsOnly volumes container)
    (hown : ∀ name ∈ own, ∃ text, name = .str text ∧ .str text ∉ volumes) :
    seeingIn (names ++ own) container = seeingIn names container := by
  refine Pod.seeingIn_congr fun mount hmount => Pod.seeing_congr ?_
  obtain ⟨volume, hvolume, hname⟩ := hmounts mount hmount
  have hnone : own.any (Json.same volume) = false := by
    rw [List.any_eq_false]
    intro name hmem hsame
    obtain ⟨text, rfl, hfree⟩ := hown name hmem
    exact hfree (Pod.eq_of_same hsame rfl ▸ hvolume)
  rw [hname, Option.getD_some, List.any_append, hnone, Bool.or_false]

/-- What a container of before sees after one more claim is filled, in a pod whose further volumes
have other names. -/
theorem seeingIn_taken {volumes own : List Json} {claim : String} {container : Json}
    (hmounts : MountsOnly (namesOf volumes) container)
    (hown : ∀ name ∈ namesOf own, ∃ text, name = .str text ∧ .str text ∉ namesOf volumes) :
    seeingIn (namesFor [claim] (volumes.map (fill claims) ++ own))
        (seeingIn (namesFor claims volumes) container) =
      seeingIn (namesFor (claims ++ [claim]) volumes) container := by
  have hothers : ∀ name ∈ namesFor [claim] own,
      ∃ text, name = .str text ∧ .str text ∉ namesOf volumes :=
    fun name hname => hown name (Pod.namesFor_subset _ _ hname)
  have hall : seeingIn (namesFor (claims ++ [claim]) volumes) =
      seeingIn (namesFor claims volumes ++ namesFor [claim] (volumes.map (fill claims))) := by
    refine Pod.seeingIn_congr_mem fun name => ?_
    rw [Pod.mem_namesFor_append, List.mem_append]
  rw [Pod.seeingIn_seeingIn, Pod.namesFor_append, ← List.append_assoc,
    seeingIn_append_of_mountsOnly hmounts hothers, hall]

/-- **One round** does to the containers and volumes of before what it has to do for its claim. -/
theorem Kept.taken {n : Nat} (h : Kept claims n pod₀ pod) (hr : r.Taken c pod pod')
    (hmounts : ∀ container ∈ listed pod₀ "containers",
      MountsOnly (namesUnder pod₀ "volumes") container) :
    Kept (claims ++ [r.pair.claim.name]) (n + 1) pod₀ pod' := by
  obtain ⟨own, hvolumes, hown⟩ := h.volumes
  obtain ⟨sidecars, hlength, hcontainers⟩ := h.containers
  have hnamed : ∀ item ∈ listed pod "volumes", ∃ name, item.get? "name" = some name := by
    intro item hitem
    obtain ⟨name, hname, -⟩ := hr.named item hitem
    exact ⟨name, hname⟩
  rw [hvolumes] at hnamed
  obtain ⟨hnamed, hnamedOwn⟩ := List.forall_mem_append.mp hnamed
  constructor
  · refine ⟨own.map (fill [r.pair.claim.name]) ++ r.sidecar.volumes.map PodVolume.toJson, ?_, ?_⟩
    · have hfill : fill (claims ++ [r.pair.claim.name]) =
          fill [r.pair.claim.name] ∘ fill claims := by
        funext item
        exact Pod.fill_fill.symm
      rw [hr.filled.volumes_eq, hvolumes, List.map_append, hfill, List.map_map, List.append_assoc]
    · -- the volumes of this round have free names, and the others keep theirs
      intro name hname
      rw [Pod.namesOf_append, Pod.namesOf_congr (Pod.map_name_fill hnamedOwn), List.mem_append]
        at hname
      rcases hname with hname | hname
      · exact hown name hname
      · obtain ⟨item, hitem, hget⟩ := Pod.mem_namesOf.mp hname
        obtain ⟨v, hv, rfl⟩ := List.mem_map.mp hitem
        cases hget
        refine ⟨v.name, rfl, fun hmem => ?_⟩
        exact hr.fits.volumes_free v.name (List.mem_map_of_mem hv) (h.volumes_subset hmem)
  · intro item hitem
    obtain ⟨name, hname⟩ := hnamed _ (List.mem_map_of_mem hitem)
    rw [← Pod.fill_fill, Pod.get?_name_fill hname, ← hname, h.names item hitem]
  · refine ⟨r.sidecar.container :: sidecars.map
      (seeingIn (namesFor [r.pair.claim.name] (listed pod "volumes"))), ?_, ?_⟩
    · rw [List.length_cons, List.length_map, hlength]
    · have hold : (listed pod₀ "containers").map
          (seeingIn (namesFor [r.pair.claim.name] (listed pod "volumes")) ∘
            seeingIn (namesFor claims (listed pod₀ "volumes"))) =
          (listed pod₀ "containers").map
            (seeingIn (namesFor (claims ++ [r.pair.claim.name]) (listed pod₀ "volumes"))) := by
        rw [hvolumes]
        refine List.map_congr_left fun container hcontainer => ?_
        exact seeingIn_taken (hmounts container hcontainer) hown
      rw [hr.filled.containers_eq, hcontainers, List.map_append, List.map_map, hold,
        List.cons_append]

/-- **Containers and volumes.** All rounds together do what they have to do for all claims. -/
theorem kept_of_rounds (h : Rounds c pod₀ rounds pod)
    (hmounts : ∀ container ∈ listed pod₀ "containers",
      MountsOnly (namesUnder pod₀ "volumes") container) :
    Kept (Pair.claimNames (rounds.map (·.pair))) rounds.length pod₀ pod := by
  induction h with
  | bare => exact .refl pod₀
  | more r _ hr ih =>
    have hkept := ih.taken hr hmounts
    rwa [Pair.claimNames, List.map_append, List.map_append, List.length_append]

/-! ### Pull secrets -/

theorem missing_eq_nil {wanted present : List String} (h : wanted ⊆ present) :
    missing wanted present = [] := by
  refine List.eq_nil_of_subset_nil fun name hname => ?_
  obtain ⟨hwanted, hnew⟩ := Pod.mem_missing.mp hname
  exact absurd (h hwanted) hnew

/-- **Pull secrets.** The first round adds what is missing, and the others have nothing to add. -/
theorem secrets_of_rounds (h : Rounds c pod₀ rounds pod) :
    ∃ added : List String, listed pod "imagePullSecrets" =
        listed pod₀ "imagePullSecrets" ++ added.map pullSecret ∧
      added = if rounds = [] then []
        else missing c.imagePullSecrets (textNames (listed pod₀ "imagePullSecrets")) := by
  induction h with
  | bare => exact ⟨[], (List.append_nil _).symm, rfl⟩
  | @more rounds pod pod' r _ hr ih =>
    obtain ⟨added, hadded, hall⟩ := ih
    have hsecrets := hr.filled.secrets_eq
    refine ⟨missing c.imagePullSecrets (textNames (listed pod₀ "imagePullSecrets")), ?_, ?_⟩
    · by_cases hfirst : rounds = []
      · rw [if_pos hfirst] at hall
        rw [hall, List.map_nil, List.append_nil] at hadded
        rw [hsecrets, hadded]
      · rw [if_neg hfirst] at hall
        have hnone :
            missing c.imagePullSecrets (textNames (listed pod "imagePullSecrets")) = [] := by
          refine missing_eq_nil fun name hname => ?_
          rw [hadded, Pod.textNames_append_pullSecret, List.mem_append, hall]
          by_cases hpresent : name ∈ textNames (listed pod₀ "imagePullSecrets")
          · exact .inl hpresent
          · exact .inr (Pod.mem_missing.mpr ⟨hname, hpresent⟩)
        rw [hsecrets, hnone, List.map_nil, List.append_nil, hadded, hall]
    · rw [if_neg (List.append_ne_nil_of_right_ne_nil _ (List.cons_ne_nil r []))]

/-! ### Everything else -/

/-- What else the rounds alter of a pod: nothing but some members of the specification and of the
metadata. -/
structure Framed (keys : List String) (pod₀ pod : Json) : Prop where
  /-- Nothing is altered but the specification and the metadata. -/
  altered : Json.Altered ["spec", "metadata"] pod₀ pod
  /-- Of the specification, only these members are altered. -/
  spec : Json.Altered keys (pod₀.objectAt "spec") (pod.objectAt "spec")
  /-- Of the metadata, only labels and annotations are altered. -/
  metadata : Json.Altered ["labels", "annotations"] (pod₀.objectAt "metadata")
    (pod.objectAt "metadata")

theorem Framed.trans {keys : List String} (h : Framed keys pod₀ pod) (h' : Framed keys pod pod') :
    Framed keys pod₀ pod' :=
  ⟨h.altered.trans h'.altered, h.spec.trans h'.spec, h.metadata.trans h'.metadata⟩

theorem Framed.mono {keys keys' : List String} (h : Framed keys pod₀ pod) (hkeys : keys ⊆ keys') :
    Framed keys' pod₀ pod := ⟨h.altered, h.spec.mono hkeys, h.metadata⟩

/-- The members of a specification that the rounds alter. -/
def roundKeys : List String := ["volumes", "containers", "serviceAccountName", "imagePullSecrets"]

theorem Round.Taken.framed (hr : r.Taken c pod pod') : Framed roundKeys pod pod' := by
  obtain ⟨spec, spec', hspec, hspec', haltered⟩ := hr.filled.spec
  obtain ⟨metadata, hmetadata, hlabelled⟩ := hr.filled.metadata
  refine ⟨hr.filled.altered, ?_, ?_⟩
  · rwa [Json.objectAt, Json.objectAt, hspec, hspec']
  · rw [Json.objectAt, Json.objectAt, hmetadata]
    exact hlabelled.altered

theorem framed_of_rounds (h : Rounds c pod₀ rounds pod) : Framed roundKeys pod₀ pod := by
  induction h with
  | bare => exact ⟨.refl _ _, .refl _ _, .refl _ _⟩
  | more r _ hr ih => exact ih.trans hr.framed

theorem framed_of_class {name : String} (h : RuntimeClass.inject c pod name = .ok pod') :
    Framed ["runtimeClassName"] pod pod' := by
  obtain ⟨haltered, ⟨spec, hspec, hclassed⟩, metadata, hmetadata, hannotated⟩ :=
    RuntimeClass.altered_of_inject h
  refine ⟨haltered, ?_, ?_⟩
  · rwa [Json.objectAt, Json.objectAt, hspec]
  · rw [Json.objectAt, Json.objectAt, hmetadata]
    exact hannotated.mono (by simp)

theorem framed_of_started {names : List String} (h : InitContainer.Started names pod pod') :
    Framed ["initContainers"] pod pod' := by
  obtain ⟨spec, spec', hspec, hspec', haltered⟩ := h.spec
  refine ⟨h.altered.mono (by simp), ?_, ?_⟩
  · rwa [Json.objectAt, Json.objectAt, hspec, hspec']
  · rw [Json.objectAt, Json.objectAt, h.altered.get?_eq _ (by decide)]
    exact .refl _ _

/-! ### The whole run -/

/-- The members of a specification that a run alters. -/
def runKeys : List String := ["volumes", "containers", "initContainers", "imagePullSecrets",
  "serviceAccountName", "runtimeClassName"]

/-- What a pod is after a run: what it was, and what its sidecars need. -/
structure Workload (c : Config) (pairs : List Pair) (pod out : Json) : Prop where
  /-- Its volumes come first, those of the claims filled; its containers come last, and see what is
  mounted into these. -/
  kept : Kept (Pair.claimNames pairs) pairs.length pod out
  /-- Its init containers come after a new one. -/
  inits : ∃ init, listed out "initContainers" = init :: listed pod "initContainers"
  /-- If there is a sidecar, the configured secrets that are missing come after those it has. -/
  secrets : ∃ added : List String, listed out "imagePullSecrets" =
      listed pod "imagePullSecrets" ++ added.map pullSecret ∧
    added.Nodup ∧ added.Sublist c.imagePullSecrets ∧
    ∀ name, name ∈ added ↔ pairs ≠ [] ∧ name ∈ c.imagePullSecrets ∧
      name ∉ textNames (listed pod "imagePullSecrets")
  /-- Nothing else is altered but an account, a class, labels and annotations. -/
  framed : Framed runKeys pod out

/-- **Workload.** A run leaves the workload alone. -/
theorem workload_of_run (hmounts : ∀ container ∈ listed pod "containers",
      MountsOnly (namesUnder pod "volumes") container)
    (h : (run c pod pairs).Trace es (.ok out)) : Workload c pairs pod out := by
  obtain ⟨rounds, dressed, mid, signer, runtimeClass, hrounds, rfl, -, hclass, hinit⟩ :=
    rounds_of_run h
  have hstarted := InitContainer.started_of_inject hinit
  have hlisted : ∀ key, key ≠ "runtimeClassName" → key ≠ "initContainers" →
      listed out key = listed dressed key := fun key hruntime hinits =>
    (hstarted.listed_eq hinits).trans (RuntimeClass.listed_of_inject hclass hruntime)
  obtain ⟨hvolumes, hnames, hcontainers⟩ := kept_of_rounds hrounds hmounts
  constructor
  · refine ⟨?_, hnames, ?_⟩
    · rwa [hlisted "volumes" (by decide) (by decide)]
    · rwa [hlisted "containers" (by decide) (by decide), List.length_map]
  · obtain ⟨init, name, hinits, -⟩ := hstarted.container
    rw [RuntimeClass.listed_of_inject hclass (by decide), hrounds.dressed.listed_inits] at hinits
    exact ⟨init, hinits⟩
  · obtain ⟨added, hadded, hall⟩ := secrets_of_rounds hrounds
    rw [hlisted "imagePullSecrets" (by decide) (by decide)]
    refine ⟨added, hadded, ?_⟩
    rw [Ne, List.map_eq_nil_iff, hall]
    split
    next hnone => simp [hnone]
    next hsome =>
      refine ⟨Pod.nodup_missing _ _, Pod.missing_sublist _ _, fun name => ?_⟩
      rw [Pod.mem_missing]
      exact (and_iff_right hsome).symm
  · have hdressed : Framed runKeys pod dressed := (framed_of_rounds hrounds).mono (by decide)
    have hmid : Framed runKeys dressed mid := (framed_of_class hclass).mono (by decide)
    have hout : Framed runKeys mid out := (framed_of_started hstarted).mono (by decide)
    exact (hdressed.trans hmid).trans hout

/-- A mount of a volume. -/
def mounted (name path : String) : Json := named name [("mountPath", .str path)]

/-- A pod whose container mounts two volumes of one claim, and one that stands for no claim. -/
def mountingPod : Json :=
  .obj [("metadata", named "app" [("namespace", .str "default")]),
    ("spec", .obj [
      ("containers", .arr [named "app" [("volumeMounts", .arr
        [mounted "data" "/data", mounted "scratch" "/scratch", mounted "same" "/same"])]]),
      ("volumes", .arr
        [claimed "data" "claim-1", named "scratch" [("emptyDir", .obj [])],
          claimed "same" "claim-1"])])]

/-- Images are pulled with a secret. -/
def pulling : Config := { imagePullSecrets := ["regcred"] }

/-- The pairs of the pod in a cluster. -/
def mountingPairs : List Pair :=
  (((Pair.ofPod pulling mountingPod).run { cluster := crowdedCluster }).1.toOption).getD []

theorem mountsOnly_mountingPod : ∀ container ∈ listed mountingPod "containers",
    MountsOnly (namesUnder mountingPod "volumes") container := by
  intro container hcontainer
  cases List.mem_singleton.mp hcontainer
  intro mount hmount
  have hmount : mount ∈ [mounted "data" "/data", mounted "scratch" "/scratch",
    mounted "same" "/same"] := hmount
  have hvolumes : namesUnder mountingPod "volumes" =
    [.str "data", .str "scratch", .str "same"] := rfl
  rw [hvolumes]
  simp only [List.mem_cons, List.not_mem_nil, or_false] at hmount
  rcases hmount with rfl | rfl | rfl
  · exact ⟨_, .head _, rfl⟩
  · exact ⟨_, .tail _ (.head _), rfl⟩
  · exact ⟨_, .tail _ (.tail _ (.head _)), rfl⟩

theorem workload_of_run_mountingPod :
    (∀ container ∈ listed mountingPod "containers",
      MountsOnly (namesUnder mountingPod "volumes") container) ∧
    mountingPairs.length = 2 ∧ ∃ es out,
      (run pulling mountingPod mountingPairs).Trace es (.ok out) ∧
      Workload pulling mountingPairs mountingPod out := by
  have hrun : ((run pulling mountingPod mountingPairs).run { cluster := crowdedCluster }).1.isOk =
      true := by decide +kernel
  obtain ⟨out, htrace⟩ := Act.exists_trace_of_isOk hrun
  exact ⟨mountsOnly_mountingPod, by decide +kernel, _, out, htrace,
    workload_of_run mountsOnly_mountingPod htrace⟩

/-- An act ends with a pod that lists nothing under a key. -/
def endsWithout (key : String) (a : Act Json) : Bool :=
  match (a.run {}).1 with
  | .ok out => (listed out key).isEmpty
  | .error _ => false

/-- A pod that gets no sidecar gets no secret to pull images with either. -/
theorem secrets_plainPod :
    (∀ container ∈ listed plainPod "containers",
      MountsOnly (namesUnder plainPod "volumes") container) ∧
    (Pair.ofPod pulling plainPod).Trace [] (.ok []) ∧
    "regcred" ∈ pulling.imagePullSecrets ∧
    "regcred" ∉ textNames (listed plainPod "imagePullSecrets") ∧
    ∃ es out, (run pulling plainPod []).Trace es (.ok out) ∧
      listed out "imagePullSecrets" = [] := by
  have hends : endsWithout "imagePullSecrets" (run pulling plainPod []) = true := by decide +kernel
  refine ⟨fun container hcontainer => ?_, ⟨rfl, rfl⟩, .head _, List.not_mem_nil, ?_⟩
  · cases List.mem_singleton.mp hcontainer
    exact List.forall_mem_nil _
  · have htrace := (run pulling plainPod []).trace_run {}
    rw [endsWithout] at hends
    cases hend : ((run pulling plainPod []).run {}).1 with
    | error f =>
      rw [hend] at hends
      cases hends
    | ok out =>
      rw [hend] at hends htrace
      exact ⟨_, out, htrace, List.isEmpty_iff.mp hends⟩

end Mutation

end SubpathCsi
