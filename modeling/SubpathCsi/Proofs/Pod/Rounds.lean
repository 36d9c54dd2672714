import SubpathCsi.Proofs.Pod.Placed

/-!
# Rounds of a mutation

A pod gets its sidecars in rounds, one for each pair. A round draws a path that no container has,
and puts a sidecar that fits and has what it needs before the containers that the rounds before have
left. What holds in the end of all pairs together is shown by going from round to round.

* `Pod.mountPaths`, `MountPath.notMem_of_free`: a path that is drawn is no path of a mount;
* `Mutation.Round`, `Mutation.Round.Brings`: what a round is about, and what its sidecar brings;
* `Mutation.Round.Taken`: what a round does to a pod;
* `Mutation.Rounds`, `Mutation.rounds_of_run`: a run goes through a round for each pair, in order.
-/

namespace SubpathCsi

open Pod (listed namesOf namesUnder Filled)

/-! ### Paths -/

namespace Pod

/-- The paths of the mounts of all containers of a pod. -/
def mountPaths (pod : Json) : List Json :=
  (listed pod "containers").flatMap fun container =>
    (container.listAt "volumeMounts").filterMap (·.get? "mountPath")

end Pod

namespace MountPath

variable {es : List Exchange} {c : Config} {base path : String} {pod : Json}

theorem mem_of_mountsPaths {mounts : List Json} {found : List String}
    (h : mountsPaths mounts = .ok found) :
    (∀ mount ∈ mounts, mount.IsObject) ∧
      ∀ path, Json.str path ∈ mounts.filterMap (·.get? "mountPath") → path ∈ found := by
  obtain ⟨values, hvalues, h⟩ := bind_eq_ok.mp h
  cases h
  obtain ⟨hobjects, hfound⟩ := Pod.filterMap_of_comparable hvalues
  refine ⟨hobjects, fun path hpath => ?_⟩
  obtain ⟨mount, hmount, hget⟩ := List.mem_filterMap.mp hpath
  rw [hfound]
  refine List.mem_filterMap.mpr ⟨mount, hmount, ?_⟩
  rw [hget]
  rfl

/-- The texts among the paths of mounts are taken. -/
theorem mem_of_taken {found : List String} (h : taken pod = .ok found)
    (hpath : .str path ∈ Pod.mountPaths pod) : path ∈ found := by
  obtain ⟨spec, hspec, h⟩ := bind_eq_ok.mp h
  obtain ⟨containers, hcontainers, h⟩ := bind_eq_ok.mp h
  obtain ⟨paths, hpaths, h⟩ := bind_eq_ok.mp h
  cases h
  obtain ⟨-, rfl⟩ := Json.findD_eq_ok.mp hspec
  -- each container is an object with a list of mounts, or with none
  have hread : ∀ container ∈ containers, ∃ own ∈ paths, container.IsObject ∧ ∀ path,
      Json.str path ∈ (container.listAt "volumeMounts").filterMap (·.get? "mountPath") →
        path ∈ own := by
    intro container hcontainer
    obtain ⟨own, hown, h⟩ := exists_match (mapM_eq_ok.mp hpaths) hcontainer
    obtain ⟨value, hvalue, h⟩ := bind_eq_ok.mp h
    obtain ⟨mounts, hmounts, h⟩ := bind_eq_ok.mp h
    obtain ⟨hobjects, htexts⟩ := mem_of_mountsPaths h
    rw [Json.listAt_of_each hvalue hmounts hobjects] at htexts
    exact ⟨own, hown, (Json.findD_eq_ok.mp hvalue).1, htexts⟩
  have hobjects : ∀ container ∈ containers, container.IsObject := by
    intro container hcontainer
    obtain ⟨own, -, hobject, -⟩ := hread container hcontainer
    exact hobject
  rw [Pod.mountPaths, Pod.listed_eq,
    ← Pod.lists_of_isObject hcontainers hobjects containers hcontainers] at hpath
  obtain ⟨container, hcontainer, hmem⟩ := List.mem_flatMap.mp hpath
  obtain ⟨own, hown, -, htexts⟩ := hread container hcontainer
  exact List.mem_flatten.mpr ⟨own, hown, htexts path hmem⟩

/-- A path is that of a directory under a base, with a name of six letters. -/
def IsDrawn (base path : String) : Prop :=
  ∃ word : List Char, word.length = nameLength ∧ (∀ x ∈ word, x ∈ letters) ∧
    path = joinPath base (String.ofList word)

theorem letter_mem (n : Int) : letter n ∈ letters := by
  have hpos : (0 : Int) < letters.length := by decide
  have hnonneg := Int.emod_nonneg n hpos.ne'
  have hbound := Int.emod_lt_of_pos n hpos
  have hlt : (n % letters.length).toNat < letters.length := by omega
  rw [letter, List.getD_eq_getElem letters 'a' hlt]
  exact List.getElem_mem hlt

theorem mem_letters_of_drawLetters {n : Nat} {word : List Char}
    (h : (drawLetters n).Trace es (.ok word)) :
    word.length = n ∧ ∀ x ∈ word, x ∈ letters := by
  induction n generalizing es word with
  | zero =>
    cases h.2
    exact ⟨rfl, List.forall_mem_nil _⟩
  | succ n ih =>
    obtain ⟨i, rest, rfl, h⟩ := h
    have hrest : (drawLetters n >>= fun others => pure (letter i :: others)).Trace rest
        (.ok word) := h
    obtain ⟨others, _, _, hothers, hword, -⟩ := Act.trace_bind_ok.mp hrest
    cases hword.2
    obtain ⟨hlength, hletters⟩ := ih hothers
    exact ⟨congrArg Nat.succ hlength, List.forall_mem_cons.mpr ⟨letter_mem i, hletters⟩⟩

/-- A path that is found is drawn, and is not taken. -/
theorem isDrawn_of_drawFree {found : List String} {n : Nat}
    (h : (drawFree base found n).Trace es (.ok path)) : IsDrawn base path ∧ path ∉ found := by
  induction n generalizing es with
  | zero => cases h.2
  | succ n ih =>
    rw [drawFree] at h
    obtain ⟨drawn, _, _, hdrawn, h, -⟩ := Act.trace_bind_ok.mp h
    split at h
    · exact ih h
    next hfree =>
      cases h.2
      obtain ⟨word, _, _, hword, hdrawn, -⟩ := Act.trace_bind_ok.mp hdrawn
      cases hdrawn.2
      obtain ⟨hlength, hletters⟩ := mem_letters_of_drawLetters hword
      exact ⟨⟨word, hlength, hletters, rfl⟩, hfree⟩

/-- **Paths.** A path that is found for a pod is drawn, and no container of the pod has it. -/
theorem notMem_of_free (h : (free c pod).Trace es (.ok path)) :
    IsDrawn c.podMountBase path ∧ .str path ∉ Pod.mountPaths pod := by
  rw [free] at h
  obtain ⟨found, hfound, h⟩ := Act.trace_liftM_bind_ok.mp h
  obtain ⟨hdrawn, hfree⟩ := isDrawn_of_drawFree h
  exact ⟨hdrawn, fun hmem => hfree (mem_of_taken hfound hmem)⟩

end MountPath

/-! ### Rounds -/

namespace Mutation

/-- What a round of a mutation is about. -/
structure Round where
  /-- The pair. -/
  pair : Pair
  /-- What was prepared for it. -/
  settings : MountSettings
  /-- The size that was prepared for it. -/
  capacity : Int
  /-- The path that was drawn. -/
  path : String
  /-- The sidecar. -/
  sidecar : Sidecar

/-- What the sidecar of a round brings: the volumes and mounts that were built for the pair, under
names that they may get. -/
structure Round.Brings (c : Config) (r : Round) : Prop where
  /-- They were built for the pair, with what was prepared. -/
  built : ∃ space built index, ∃ f : String → String,
    Sidecar.buildFor c (placed r.pair r.settings r.path space) r.capacity r.pair.volumeName =
      .ok built ∧
    r.sidecar.volumes = built.volumes.map (fun v => { v with name := f v.name }) ∧
    r.sidecar.generatedMounts = built.generatedMounts.map (fun m => { m with name := f m.name }) ∧
    ∀ name, Sidecar.MayBecome r.sidecar.name index name (f name)
  /-- Each mount is that of a volume. -/
  matched : List.Forall₂ (fun v m => m.name = v.name) r.sidecar.volumes r.sidecar.generatedMounts

/-- What a round does to a pod. -/
structure Round.Taken (c : Config) (r : Round) (pod pod' : Json) : Prop where
  /-- The path is drawn. -/
  drawn : MountPath.IsDrawn c.podMountBase r.path
  /-- No container of the pod has the path. -/
  path_free : .str r.path ∉ Pod.mountPaths pod
  /-- The volumes of the pod have names, which can be compared. -/
  named : ∀ item ∈ listed pod "volumes",
    ∃ name, item.get? "name" = some name ∧ Pod.comparable name = .ok ()
  /-- The sidecar fits. -/
  fits : r.sidecar.Fits c r.pair pod
  /-- It has what it needs. -/
  equipped : r.sidecar.Equipped c r.pair r.settings r.capacity r.path
  /-- It brings its own volumes. -/
  brings : r.Brings c
  /-- It is put into the pod. -/
  filled : Filled c.imagePullSecrets r.pair.claim.name r.sidecar pod pod'

/-- A pod after some rounds. -/
inductive Rounds (c : Config) (pod₀ : Json) : List Round → Json → Prop
  /-- There was none. -/
  | bare : Rounds c pod₀ [] pod₀
  /-- There was one more. -/
  | more {rounds : List Round} {pod pod' : Json} (r : Round) (h : Rounds c pod₀ rounds pod)
      (hr : r.Taken c pod pod') : Rounds c pod₀ (rounds ++ [r]) pod'

variable {c : Config} {es : List Exchange} {pod₀ pod pod' : Json} {pairs : List Pair}

/-- The steps in which a pod gets one sidecar: a path is found, and the sidecar is built, renamed
and put in. -/
theorem steps_of_addSidecar {index : Nat} {p : Pair} {settings : MountSettings} {capacity : Int}
    {name : String}
    (h : (addSidecar c index p settings capacity pod).Trace es (.ok (pod', name))) :
    ∃ space path draws built s, (MountPath.free c pod).Trace draws (.ok path) ∧
      Sidecar.buildFor c (placed p settings path space) capacity p.volumeName = .ok built ∧
      built.renameIn pod index = .ok s ∧
      Pod.inject c p.claim.name (s.finished c p) pod = .ok pod' ∧ s.name = name := by
  rw [addSidecar] at h
  obtain ⟨space, -, h⟩ := Act.trace_liftM_bind_ok.mp h
  obtain ⟨path, draws, _, hpath, h, -⟩ := Act.trace_bind_ok.mp h
  obtain ⟨secret, -, h⟩ := Act.trace_liftM_bind_ok.mp h
  obtain ⟨-, _, _, -, h, -⟩ := Act.trace_bind_ok.mp h
  obtain ⟨built, hbuilt, h⟩ := Act.trace_liftM_bind_ok.mp h
  obtain ⟨s, hs, h⟩ := Act.trace_liftM_bind_ok.mp h
  obtain ⟨out, hinject, h⟩ := Act.trace_liftM_bind_ok.mp h
  cases h.2
  exact ⟨space, path, draws, built, s, hpath, hbuilt, hs, hinject, rfl⟩

/-- **One sidecar** is put into a pod in a round. -/
theorem taken_of_addSidecar {index : Nat} {p : Pair} {settings : MountSettings} {capacity : Int}
    {name : String} (hprepared : p.prepare c = .ok (settings, capacity))
    (h : (addSidecar c index p settings capacity pod).Trace es (.ok (pod', name))) :
    ∃ path s, s.name = name ∧ Round.Taken c ⟨p, settings, capacity, path, s⟩ pod pod' := by
  obtain ⟨space, path, draws, built, s, hpath, hbuilt, hs, hinject, hname⟩ := steps_of_addSidecar h
  obtain ⟨hdrawn, hfree⟩ := MountPath.notMem_of_free hpath
  obtain ⟨⟨f, hvolumes, hmounts, hnames⟩, hmatched⟩ := Sidecar.own_of_renameIn hbuilt hs
  exact ⟨path, s.finished c p, hname, hdrawn, hfree, Sidecar.named_of_renameIn hs,
    Sidecar.fits_of_renameIn hbuilt hs, Sidecar.equipped_of_renameIn hprepared hbuilt hs,
    ⟨⟨space, built, index, f, hbuilt, hvolumes, hmounts, hnames⟩, hmatched⟩,
    Pod.filled_of_inject hinject (Sidecar.renameIn_eq_ok hs).1⟩

/-- All sidecars, one round after another. -/
theorem rounds_of_addSidecars {rest : List (Nat × Pair × MountSettings × Int)}
    {served : List Round} {names : List String} (hpod : Rounds c pod₀ served pod)
    (hrest : ∀ step ∈ rest, step.2.1.prepare c = .ok step.2.2)
    (h : (addSidecars c rest pod).Trace es (.ok (pod', names))) :
    ∃ rounds : List Round, Rounds c pod₀ (served ++ rounds) pod' ∧
      rounds.map (fun r => (r.pair, r.settings, r.capacity)) = rest.map (·.2) ∧
      rounds.map (·.sidecar.name) = names := by
  induction rest generalizing served pod names es with
  | nil =>
    cases h.2
    exact ⟨[], by rwa [List.append_nil], rfl, rfl⟩
  | cons step rest ih =>
    obtain ⟨index, p, settings, capacity⟩ := step
    obtain ⟨hprepared, hrest⟩ := List.forall_mem_cons.mp hrest
    rw [addSidecars] at h
    obtain ⟨⟨pod₁, name⟩, _, _, hfirst, h, -⟩ := Act.trace_bind_ok.mp h
    obtain ⟨⟨pod₂, others⟩, _, _, hothers, h, -⟩ := Act.trace_bind_ok.mp h
    cases h.2
    obtain ⟨path, s, rfl, htaken⟩ := taken_of_addSidecar hprepared hfirst
    obtain ⟨rounds, hrounds, hsteps, rfl⟩ := ih (.more _ hpod htaken) hrest hothers
    rw [List.append_assoc] at hrounds
    exact ⟨_, hrounds, congrArg (_ :: ·) hsteps, rfl⟩

/-- After some rounds, the pod has their sidecars. -/
theorem Rounds.dressed {rounds : List Round} (h : Rounds c pod₀ rounds pod) :
    Dressed c pod₀ (rounds.map fun r => (r.pair, r.sidecar.name)).reverse pod := by
  induction h with
  | bare => exact .bare
  | more r _ hr ih =>
    rw [List.map_append, List.reverse_append]
    exact .more r.pair r.sidecar ih hr.fits hr.filled.toInjected

/-- What is prepared is prepared pair by pair. -/
theorem map_numbered {prepared : List (MountSettings × Int)}
    (h : prepared.length = pairs.length) : (numbered pairs prepared).map (·.2.1) = pairs := by
  have hfst : (pairs.zip prepared).map Prod.fst = pairs := List.map_fst_zip h.ge
  calc (numbered pairs prepared).map (·.2.1)
      = ((pairs.zip prepared).zipIdx.map Prod.fst).map Prod.fst := by
        rw [numbered, List.map_map, List.map_map]
        rfl
    _ = pairs := by rw [List.zipIdx_map_fst, hfst]

/-- What is numbered is one of the pairs with what is prepared for it. -/
theorem prepare_of_mem_numbered {prepared : List (MountSettings × Int)}
    (hprepared : pairs.mapM (Pair.prepare c) = .ok prepared)
    {step : Nat × Pair × MountSettings × Int} (hstep : step ∈ numbered pairs prepared) :
    step.2.1 ∈ pairs ∧ Pair.prepare c step.2.1 = .ok step.2.2 := by
  obtain ⟨⟨⟨p, settings, capacity⟩, i⟩, hmem, rfl⟩ := List.mem_map.mp hstep
  have hzip := List.fst_mem_of_mem_zipIdx hmem
  exact ⟨(List.of_mem_zip hzip).1, List.forall₂_zip (mapM_eq_ok.mp hprepared) hzip⟩

/-- **A run** goes through a round for each pair, and then the pod gets its runtime class and its
init container. -/
theorem rounds_of_run {out : Json} (h : (run c pod pairs).Trace es (.ok out)) :
    ∃ rounds dressed mid signer runtimeClass, Rounds c pod rounds dressed ∧
      rounds.map (·.pair) = pairs ∧
      (∀ r ∈ rounds, r.pair.prepare c = .ok (r.settings, r.capacity)) ∧
      RuntimeClass.inject c dressed runtimeClass = .ok mid ∧
      InitContainer.inject c
        { signer, sidecars := rounds.map (·.sidecar.name),
          filesystems := pairs.map (·.filesystem.name), runtimeClass } pod mid = .ok out := by
  rw [run] at h
  obtain ⟨signer, -, h⟩ := Act.trace_liftM_bind_ok.mp h
  obtain ⟨prepared, hprepared, h⟩ := Act.trace_liftM_bind_ok.mp h
  obtain ⟨runtimeClass, -, h⟩ := Act.trace_liftM_bind_ok.mp h
  obtain ⟨⟨dressed, names⟩, _, _, hadd, h, -⟩ := Act.trace_bind_ok.mp h
  obtain ⟨mid, hmid, h⟩ := Act.trace_liftM_bind_ok.mp h
  obtain ⟨-, hinject⟩ := Act.trace_liftM.mp h
  have hlength := (mapM_eq_ok.mp hprepared).length_eq
  have hsteps : ∀ step ∈ numbered pairs prepared, step.2.1.prepare c = .ok step.2.2 := by
    intro step hstep
    exact (prepare_of_mem_numbered hprepared hstep).2
  obtain ⟨rounds, hrounds, hmap, rfl⟩ := rounds_of_addSidecars .bare hsteps hadd
  refine ⟨rounds, dressed, mid, signer, runtimeClass, hrounds, ?_, ?_, hmid, hinject.symm⟩
  · calc rounds.map (·.pair)
        = (rounds.map fun r => (r.pair, r.settings, r.capacity)).map Prod.fst := by
          rw [List.map_map]
          rfl
      _ = (numbered pairs prepared).map (·.2.1) := by
          rw [hmap, List.map_map]
          rfl
      _ = pairs := map_numbered hlength.symm
  · intro r hr
    have hmem : (r.pair, r.settings, r.capacity) ∈ (numbered pairs prepared).map (·.2) := by
      rw [← hmap]
      exact List.mem_map_of_mem hr
    obtain ⟨step, hstep, heq⟩ := List.mem_map.mp hmem
    have hstep := hsteps step hstep
    rwa [heq] at hstep

end Mutation

end SubpathCsi
