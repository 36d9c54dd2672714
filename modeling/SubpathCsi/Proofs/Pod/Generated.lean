import SubpathCsi.Proofs.Pod.Standing
import SubpathCsi.Proofs.Pod.Workload

/-!
# What is left of the volumes of sidecars

A round fills all volumes of its claim, and does not ask where they come from. So a volume that an
earlier sidecar keeps its cache in is filled like one of the workload, if it stands for the claim of
a later pair: its source is gone, and the sidecar sees what is mounted into it. All other volumes of
sidecars, and their mounts, stay as they were built.

* `Pod.fillPlaced`: a volume and its mount, when sidecars serve some claims;
* `Mutation.leftovers`: what is left of all that the rounds bring, the later rounds being done;
* `Mutation.leftovers_eq_iff`: everything is left if no volume stands for the claim of a later pair;
* `Mutation.Generated`, `Mutation.generated_of_run`: the volumes and mounts of sidecars after a run.
-/

namespace SubpathCsi

open Pod (listed namesOf namesUnder claimName? emptied isOf fill namesFor seeing seeingIn
  hostToContainer isCalled)

namespace Pod

variable {claims claims' : List String} {e : Json × Json} {volumes : List Json} {item mount : Json}
  {name : String}

/-! ### A volume and its mount -/

/-- A volume and its mount, when sidecars serve these claims. -/
def fillPlaced (claims : List String) (e : Json × Json) : Json × Json :=
  if isOf claims e.1 then
    (emptied ((e.1.get? "name").getD .null), e.2.set "mountPropagation" hostToContainer)
  else e

theorem fillPlaced_fst : (fillPlaced claims e).1 = fill claims e.1 := by
  rw [fillPlaced, fill]
  split <;> rfl

theorem fillPlaced_nil : fillPlaced [] = id := by
  funext e
  rw [fillPlaced, isOf_nil]
  rfl

/-- One claim after another is all of them at once. -/
theorem fillPlaced_fillPlaced :
    fillPlaced claims' (fillPlaced claims e) = fillPlaced (claims ++ claims') e := by
  rw [fillPlaced, fillPlaced_fst, fill, fillPlaced, fillPlaced, isOf_append]
  cases isOf claims e.1 <;> rfl

/-- A volume and its mount are changed only if the volume stands for one of the claims. -/
theorem fillPlaced_eq_self_iff : fillPlaced claims e = e ↔ isOf claims e.1 = false := by
  constructor
  · intro h
    -- a volume that is filled stands for no claim
    have hfst : fill claims e.1 = e.1 := fillPlaced_fst.symm.trans (congrArg Prod.fst h)
    by_contra hof
    rw [Bool.not_eq_false] at hof
    rw [fill, if_pos hof] at hfst
    rw [← hfst] at hof
    cases hof
  · intro hof
    rw [fillPlaced, hof]
    rfl

/-- A mount keeps its name. -/
theorem get?_name_fillPlaced (claims : List String) (e : Json × Json) :
    (fillPlaced claims e).2.get? "name" = e.2.get? "name" := by
  rw [fillPlaced]
  split
  · exact (Json.altered_set _ _ _).get?_eq _ (by decide)
  · rfl

/-- What a mount sees depends on the volume with its name, if that is the only one. -/
theorem seeing_of_filter (hnamed : ∀ item ∈ volumes,
      ∃ name, item.get? "name" = some name ∧ comparable name = .ok ())
    (hsole : volumes.filter (isCalled name) = [item])
    (hname : mount.get? "name" = some (.str name)) :
    seeing (namesFor claims volumes) mount = (fillPlaced claims (item, mount)).2 := by
  have hmem : item ∈ volumes.filter (isCalled name) := by rw [hsole]; exact .head _
  obtain ⟨hitem, hcalled⟩ := List.mem_filter.mp hmem
  have hany : (namesFor claims volumes).any (Json.same (.str name)) = isOf claims item := by
    rw [Bool.eq_iff_iff, List.any_eq_true]
    constructor
    · rintro ⟨other, hother, hsame⟩
      obtain ⟨item', hitem', hget⟩ := mem_namesOf.mp hother
      obtain ⟨hitem', hof⟩ := List.mem_filter.mp hitem'
      obtain ⟨other', hget', hcomparable⟩ := hnamed item' hitem'
      cases hget.symm.trans hget'
      cases eq_of_same hsame hcomparable
      have hmem' : item' ∈ volumes.filter (isCalled name) :=
        List.mem_filter.mpr ⟨hitem', isCalled_iff.mpr hget⟩
      rw [hsole, List.mem_singleton] at hmem'
      rwa [← hmem']
    · intro hof
      refine ⟨.str name, mem_namesOf.mpr ⟨item, List.mem_filter.mpr ⟨hitem, hof⟩, ?_⟩, ?_⟩
      · exact isCalled_iff.mp hcalled
      · simp [Json.same]
  rw [seeing, hname, Option.getD_some, hany, fillPlaced]
  split <;> rfl

end Pod

open Pod (fillPlaced)

namespace Mutation

variable {c : Config} {es : List Exchange} {pod₀ pod pod' out : Json} {pairs : List Pair}
  {rounds : List Round} {r r' : Round}

/-! ### What is left -/

/-- What a round brings: volumes, each with its mount. -/
def Round.own (r : Round) : List (Json × Json) :=
  (r.sidecar.volumes.zip r.sidecar.generatedMounts).map fun q => (q.1.toJson, q.2.toJson)

/-- What is left of all that rounds bring when they are done. Each round fills what stands for its
claim among what the rounds before it have brought. -/
def leftovers : List Round → List (Round × List (Json × Json))
  | [] => []
  | r :: rounds =>
    (r, r.own.map (fillPlaced (Pair.claimNames (rounds.map (·.pair))))) :: leftovers rounds

theorem claimNames_append (rounds : List Round) (r : Round) :
    Pair.claimNames ((rounds ++ [r]).map (·.pair)) =
      Pair.claimNames (rounds.map (·.pair)) ++ [r.pair.claim.name] := by
  rw [Pair.claimNames, List.map_append, List.map_append]
  rfl

/-- One more round fills what stands for its claim. -/
theorem leftovers_append (rounds : List Round) (r : Round) :
    leftovers (rounds ++ [r]) =
      (leftovers rounds).map (fun q => (q.1, q.2.map (fillPlaced [r.pair.claim.name]))) ++
        [(r, r.own)] := by
  induction rounds with
  | nil =>
    change [(r, r.own.map (fillPlaced []))] = [(r, r.own)]
    rw [Pod.fillPlaced_nil, List.map_id]
  | cons r₁ rounds ih =>
    have hown : r₁.own.map (fillPlaced (Pair.claimNames ((rounds ++ [r]).map (·.pair)))) =
        (r₁.own.map (fillPlaced (Pair.claimNames (rounds.map (·.pair))))).map
          (fillPlaced [r.pair.claim.name]) := by
      rw [claimNames_append, List.map_map]
      exact List.map_congr_left fun e _ => Pod.fillPlaced_fillPlaced.symm
    rw [List.cons_append, leftovers, leftovers, ih, hown]
    rfl

/-- Of the volumes that are left, one more round fills those of its claim, and its own come last. -/
theorem volumes_leftovers_append (rounds : List Round) (r : Round) :
    ((leftovers (rounds ++ [r])).flatMap (·.2)).map (·.1) =
      (((leftovers rounds).flatMap (·.2)).map (·.1)).map (fill [r.pair.claim.name]) ++
        r.own.map (·.1) := by
  have hfst : (·.1) ∘ fillPlaced [r.pair.claim.name] = fill [r.pair.claim.name] ∘ (·.1) := by
    funext e
    exact Pod.fillPlaced_fst
  rw [leftovers_append, List.flatMap_append, List.map_append, List.flatMap_singleton,
    List.flatMap_map, ← List.map_flatMap, List.map_map, List.map_map, hfst]

/-- **Survival.** All that rounds bring is left as it was if, and only if, none of their volumes
stands for the claim of a later round. -/
theorem leftovers_eq_iff : leftovers rounds = rounds.map (fun r => (r, r.own)) ↔
    rounds.Pairwise fun r r' => ∀ e ∈ r.own, claimName? e.1 ≠ some r'.pair.claim.name := by
  induction rounds with
  | nil => exact ⟨fun _ => .nil, fun _ => rfl⟩
  | cons r rounds ih =>
    have hself : ∀ claims : List String,
        r.own.map (fillPlaced claims) = r.own ↔ ∀ e ∈ r.own, isOf claims e.1 = false := by
      intro claims
      have hall : r.own.map (fillPlaced claims) = r.own.map id ↔
          ∀ e ∈ r.own, fillPlaced claims e = e := List.map_inj_left
      rw [List.map_id] at hall
      exact hall.trans (forall₂_congr fun e _ => Pod.fillPlaced_eq_self_iff)
    have hof : ∀ e : Json × Json, isOf (Pair.claimNames (rounds.map (·.pair))) e.1 = false ↔
        ∀ r' ∈ rounds, claimName? e.1 ≠ some r'.pair.claim.name := by
      intro e
      rw [isOf, Pair.claimNames]
      cases claimName? e.1 <;> simp [eq_comm]
    rw [leftovers, List.map_cons, List.cons.injEq, ih, List.pairwise_cons, Prod.mk.injEq, hself]
    simp only [true_and, hof]
    rw [forall₂_comm]

/-- The container of a sidecar, with what is left of what its round has brought. -/
structure Round.Left (r : Round) (left : List (Json × Json)) (container : Json) : Prop where
  /-- It is as it was put there, but for what it sees of its mounts. -/
  kept : Propagated r.sidecar.container container
  /-- Its mounts are those that are left, and that of the volume that it fills, if there is one. -/
  mounts : ∃ filled, container.listAt "volumeMounts" = left.map (·.2) ++ filled ∧
    filled.length = r.sidecar.podMount.toList.length

/-- The volumes and sidecars of a pod after some rounds. -/
structure Generated (rounds : List Round) (pod₀ pod : Json) : Prop where
  /-- After the volumes of before, those of the claims filled, comes what is left of the volumes of
  the sidecars, round by round. -/
  volumes : listed pod "volumes" =
    (listed pod₀ "volumes").map (fill (Pair.claimNames (rounds.map (·.pair)))) ++
      ((leftovers rounds).flatMap (·.2)).map (·.1)
  /-- Before the containers of before come the sidecars, that of the last round first, with what is
  left of their mounts. -/
  containers : ∃ sidecars others, listed pod "containers" = sidecars.reverse ++ others ∧
    List.Forall₂ (fun q => q.1.Left q.2) (leftovers rounds) sidecars ∧
    List.Forall₂ Propagated (listed pod₀ "containers") others

/-- The volume is the only one of a pod with the name of the mount. -/
def IsSole (pod : Json) (e : Json × Json) : Prop :=
  ∃ name, e.2.get? "name" = some (.str name) ∧
    (listed pod "volumes").filter (isCalled name) = [e.1]

/-! ### One round -/

namespace Round.Taken

/-- What a round brings is there, each volume the only one with its name. -/
theorem sole_own (hr : r.Taken c pod pod') : ∀ e ∈ r.own, IsSole pod' e := by
  intro e he
  obtain ⟨⟨v, m⟩, hmem, rfl⟩ := List.mem_map.mp he
  have hname : m.name = v.name := List.forall₂_zip hr.brings.matched hmem
  refine ⟨v.name, congrArg (some ∘ Json.str) hname, ?_⟩
  exact hr.filter_own (List.of_mem_zip hmem).1

theorem map_fst_own (hr : r.Taken c pod pod') :
    r.own.map (·.1) = r.sidecar.volumes.map PodVolume.toJson := by
  calc r.own.map (·.1)
      = ((r.sidecar.volumes.zip r.sidecar.generatedMounts).map (·.1)).map PodVolume.toJson := by
        rw [Round.own, List.map_map, List.map_map]
        rfl
    _ = r.sidecar.volumes.map PodVolume.toJson := by
        rw [List.map_fst_zip hr.brings.matched.length_eq.le]

theorem map_snd_own (hr : r.Taken c pod pod') :
    r.own.map (·.2) = r.sidecar.generatedMounts.map VolumeMount.toJson := by
  calc r.own.map (·.2)
      = ((r.sidecar.volumes.zip r.sidecar.generatedMounts).map (·.2)).map VolumeMount.toJson := by
        rw [Round.own, List.map_map, List.map_map]
        rfl
    _ = r.sidecar.generatedMounts.map VolumeMount.toJson := by
        rw [List.map_snd_zip hr.brings.matched.length_eq.ge]

/-- The sidecar of a round has its mounts. -/
theorem left_own (hr : r.Taken c pod pod') : r.Left r.own r.sidecar.container := by
  refine ⟨.refl _, (r.sidecar.podMount.map PodMount.toJson).toList, ?_, ?_⟩
  · rw [Sidecar.listAt_mounts, hr.map_snd_own]
  · cases r.sidecar.podMount <;> rfl

/-- A volume that is the only one with its name is so after one more round. -/
theorem sole_fillPlaced (hr : r.Taken c pod pod') {e : Json × Json} (h : IsSole pod e) :
    IsSole pod' (fillPlaced [r.pair.claim.name] e) := by
  obtain ⟨name, hname, hsole⟩ := h
  refine ⟨name, (Pod.get?_name_fillPlaced _ e).trans hname, ?_⟩
  rw [hr.filter_volumes (Pod.mem_namesOf_of_filter hsole), hsole, List.map_singleton,
    Pod.fillPlaced_fst]

/-- A sidecar of before has what is left of its mounts after one more round. -/
theorem left_seeingIn (hr : r'.Taken c pod pod') {left : List (Json × Json)} {container : Json}
    (h : r.Left left container) (hsole : ∀ e ∈ left, IsSole pod e) :
    r.Left (left.map (fillPlaced [r'.pair.claim.name]))
      (seeingIn (namesFor [r'.pair.claim.name] (listed pod "volumes")) container) := by
  obtain ⟨filled, hmounts, hlength⟩ := h.mounts
  refine ⟨h.kept.trans (.seeingIn _ container),
    filled.map (seeing (namesFor [r'.pair.claim.name] (listed pod "volumes"))), ?_, ?_⟩
  · rw [Pod.listAt_seeingIn, hmounts, List.map_append, List.map_map, List.map_map]
    refine congrArg (· ++ _) (List.map_congr_left fun e he => ?_)
    obtain ⟨name, hname, hfilter⟩ := hsole e he
    exact Pod.seeing_of_filter hr.named hfilter hname
  · rw [List.length_map, hlength]

end Round.Taken

/-- **One round** fills what stands for its claim among what is left of the rounds before it, and
brings its own. -/
theorem Generated.taken (h : Generated rounds pod₀ pod)
    (hsole : ∀ q ∈ leftovers rounds, ∀ e ∈ q.2, IsSole pod e) (hr : r.Taken c pod pod') :
    Generated (rounds ++ [r]) pod₀ pod' := by
  constructor
  · have hfill : fill (Pair.claimNames ((rounds ++ [r]).map (·.pair))) =
        fill [r.pair.claim.name] ∘ fill (Pair.claimNames (rounds.map (·.pair))) := by
      funext item
      rw [claimNames_append]
      exact Pod.fill_fill.symm
    rw [hr.filled.volumes_eq, h.volumes, List.map_append, List.map_map, hfill,
      volumes_leftovers_append, hr.map_fst_own, List.append_assoc]
  · obtain ⟨sidecars, others, hcontainers, hlefts, hothers⟩ := h.containers
    let see := seeingIn (namesFor [r.pair.claim.name] (listed pod "volumes"))
    refine ⟨sidecars.map see ++ [r.sidecar.container], others.map see, ?_, ?_, ?_⟩
    · rw [hr.filled.containers_eq, hcontainers, List.map_append, List.reverse_append,
        List.map_reverse]
      rfl
    · rw [leftovers_append]
      refine List.rel_append ?_ (.cons hr.left_own .nil)
      rw [List.forall₂_map_left_iff, List.forall₂_map_right_iff]
      refine List.forall₂_iff_zip.mpr ⟨hlefts.length_eq, fun hmem => ?_⟩
      exact hr.left_seeingIn (List.forall₂_zip hlefts hmem) (hsole _ (List.of_mem_zip hmem).1)
    · refine trans_match (fun _ _ _ hab hbd => hab.trans hbd) hothers ?_
      rw [List.forall₂_map_right_iff]
      exact List.forall₂_same.mpr fun container _ => .seeingIn _ container

/-- After one more round, each volume that is left is the only one with its name. -/
theorem Round.Taken.sole_leftovers (hr : r.Taken c pod pod')
    (h : ∀ q ∈ leftovers rounds, ∀ e ∈ q.2, IsSole pod e) :
    ∀ q ∈ leftovers (rounds ++ [r]), ∀ e ∈ q.2, IsSole pod' e := by
  rw [leftovers_append]
  refine List.forall_mem_append.mpr ⟨fun q hq e he => ?_, List.forall_mem_singleton.mpr hr.sole_own⟩
  obtain ⟨q, hold, rfl⟩ := List.mem_map.mp hq
  obtain ⟨e, hkept, rfl⟩ := List.mem_map.mp he
  exact hr.sole_fillPlaced (h q hold e hkept)

/-- **All rounds.** By induction, with it that each volume that is left is the only one with its
name: a later round tells the mounts of a sidecar by their names. -/
theorem generated_of_rounds (h : Rounds c pod₀ rounds pod) :
    Generated rounds pod₀ pod ∧ ∀ q ∈ leftovers rounds, ∀ e ∈ q.2, IsSole pod e := by
  induction h with
  | bare =>
    refine ⟨⟨?_, ?_⟩, List.forall_mem_nil _⟩
    · change _ = (listed pod₀ "volumes").map (fill []) ++ []
      rw [Pod.fill_nil, List.map_id, List.append_nil]
    · exact ⟨[], _, rfl, .nil, List.forall₂_same.mpr fun container _ => .refl container⟩
  | more r _ hr ih =>
    obtain ⟨hgenerated, hsole⟩ := ih
    exact ⟨hgenerated.taken hsole hr, hr.sole_leftovers hsole⟩

/-- What the sidecars of all rounds bring was built for their pairs. -/
theorem brings_of_rounds (h : Rounds c pod₀ rounds pod) : ∀ r ∈ rounds, r.Brings c := by
  induction h with
  | bare => exact List.forall_mem_nil _
  | more r _ hr ih => exact List.forall_mem_append.mpr ⟨ih, List.forall_mem_singleton.mpr hr.brings⟩

/-! ### The whole run -/

/-- **Generated volumes.** After a run, the volumes and mounts of all sidecars are there as they were
built, in the order of the pairs, but for the volumes that stand for the claim of a later pair: these
are filled. So they are all there as they were built if, and only if, there is no such volume. -/
theorem generated_of_run (h : (run c pod pairs).Trace es (.ok out)) :
    ∃ rounds : List Round, rounds.map (·.pair) = pairs ∧
      (∀ r ∈ rounds, r.pair.prepare c = .ok (r.settings, r.capacity) ∧ r.Brings c) ∧
      Generated rounds pod out ∧
      (leftovers rounds = rounds.map (fun r => (r, r.own)) ↔
        rounds.Pairwise fun r r' => ∀ e ∈ r.own, claimName? e.1 ≠ some r'.pair.claim.name) := by
  obtain ⟨rounds, dressed, mid, signer, runtimeClass, hrounds, hpairs, hprepared, hclass, hinit⟩ :=
    rounds_of_run h
  have hstarted := InitContainer.started_of_inject hinit
  have hlisted : ∀ key, key ≠ "runtimeClassName" → key ≠ "initContainers" →
      listed out key = listed dressed key := fun key hruntime hinits =>
    (hstarted.listed_eq hinits).trans (RuntimeClass.listed_of_inject hclass hruntime)
  obtain ⟨⟨hvolumes, hcontainers⟩, -⟩ := generated_of_rounds hrounds
  refine ⟨rounds, hpairs, fun r hr => ⟨hprepared r hr, brings_of_rounds hrounds r hr⟩,
    ⟨?_, ?_⟩, leftovers_eq_iff⟩
  · rwa [hlisted "volumes" (by decide) (by decide)]
  · rwa [hlisted "containers" (by decide) (by decide)]

/-- A pod with volumes for two claims. -/
def cachingPod : Json :=
  .obj [("metadata", named "app" [("namespace", .str "default")]),
    ("spec", .obj [
      ("containers", .arr [named "app"]),
      ("volumes", .arr [claimed "data" "claim-1", claimed "other" "claim-2"])])]

/-- The sidecar of the first claim keeps its cache in the second. -/
def cachingVolume : Volume where
  metadata := { name := "pv-1" }
  csi := some {
    driver := "csi.cfs.confidentialfilesystems.com"
    volumeHandle := "pv-1"
    volumeAttributes := some [(descriptorKey, "shared-fs"), (Attribute.cachePvc, "claim-2")] }

/-- A cluster in which that is so. -/
def cachingCluster : Cluster :=
  { crowdedCluster with volumes := [cachingVolume, claimedVolume "pv-2"] }

/-- The pairs of the pod in the cluster. -/
def cachingPairs : List Pair :=
  (((Pair.ofPod {} cachingPod).run { cluster := cachingCluster }).1.toOption).getD []

/-- The claims that the sidecar of a pair keeps its cache in. -/
def cacheClaims (c : Config) (p : Pair) : List String :=
  ((p.prepare c).toOption.map fun q => q.1.cachePvcs.map (·.pvcName)).getD []

/-- For each volume of a pod with a name, the claim that it stands for. -/
def claimsOf (name : String) (pod : Json) : List (Option String) :=
  ((listed pod "volumes").filter (isCalled name)).map claimName?

theorem generated_of_run_cachingPod : cachingPairs.length = 2 ∧ ∃ es out,
    (run {} cachingPod cachingPairs).Trace es (.ok out) ∧
    ∃ rounds : List Round, rounds.map (·.pair) = cachingPairs ∧
      (∀ r ∈ rounds, r.pair.prepare {} = .ok (r.settings, r.capacity) ∧ r.Brings {}) ∧
      Generated rounds cachingPod out ∧
      (leftovers rounds = rounds.map (fun r => (r, r.own)) ↔
        rounds.Pairwise fun r r' => ∀ e ∈ r.own, claimName? e.1 ≠ some r'.pair.claim.name) := by
  have hrun : ((run {} cachingPod cachingPairs).run { cluster := cachingCluster }).1.isOk = true := by
    decide +kernel
  obtain ⟨out, htrace⟩ := Act.exists_trace_of_isOk hrun
  exact ⟨by decide +kernel, _, out, htrace, generated_of_run htrace⟩

/-- A cache is lost, or not, as the pairs come in one order or the other. -/
theorem claimsOf_cachingPod :
    cachingPairs.map (fun p => (p.claim.name, cacheClaims {} p)) =
      [("claim-1", ["claim-2"]), ("claim-2", [])] ∧
    (∃ es out, (run {} cachingPod cachingPairs).Trace es (.ok out) ∧
      claimsOf "cachedir-pvc-0" out = [none]) ∧
    ∃ es out, (run {} cachingPod cachingPairs.reverse).Trace es (.ok out) ∧
      claimsOf "cachedir-pvc-0" out = [some "claim-2"] := by
  let w : Remote := { cluster := cachingCluster }
  have hlost : ((run {} cachingPod cachingPairs).run w).1.toOption.any
      (fun out => claimsOf "cachedir-pvc-0" out = [none]) = true := by decide +kernel
  have hkept : ((run {} cachingPod cachingPairs.reverse).run w).1.toOption.any
      (fun out => claimsOf "cachedir-pvc-0" out = [some "claim-2"]) = true := by decide +kernel
  obtain ⟨lost, hlostTrace, hlost⟩ := Act.exists_trace_of_any hlost
  obtain ⟨kept, hkeptTrace, hkept⟩ := Act.exists_trace_of_any hkept
  exact ⟨by decide +kernel, ⟨_, lost, hlostTrace, of_decide_eq_true hlost⟩, _, kept, hkeptTrace,
    of_decide_eq_true hkept⟩

end Mutation

end SubpathCsi
