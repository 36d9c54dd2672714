import SubpathCsi.Proofs.Pod.Runtime
import SubpathCsi.Proofs.Pod.Schema
import SubpathCsi.Proofs.Secrets

/-!
# Pods that are rejected

Owners, settings, sizes and the runtime class are checked before anything is asked, and nothing can go
wrong when sidecars are put into a well-typed pod. Secrets are written in between, so that a pod that
is rejected later leaves some of them behind. Beside the API server, two things make this happen that
no check before foresees: a claim without an identifier, and a size that cannot be written in the
command after the start.

* `Kube.Refused`: the API server has refused a call for a secret;
* `Mutation.Late`: why a pod is rejected late;
* `Mutation.ends_addSidecar`, `Mutation.ends_addSidecars`: what is known of a pod with its sidecars;
* `Mutation.late_of_run`: a pod fails a check and is rejected before anything is asked, or it is
  rejected late.
-/

namespace SubpathCsi

open Pod (WellTyped listed)

/-! ### Calls for secrets -/

/-- The request is one of those that put a secret in its place. -/
def ApiRequest.isForSecret : ApiRequest → Bool
  | readSecret .. | createSecret _ | replaceSecret _ => true
  | _ => false

namespace Kube

variable {c : Config}

/-- A call for a secret comes last, the API server does not answer it, and so it fails. -/
def Refused (c : Config) (es : List Exchange) (f : Failure) : Prop :=
  ∃ before r fault, r.isForSecret = true ∧
    es = before ++ [⟨.api c.requestTimeout r, .error fault⟩] ∧ f = fault.failure r

theorem lasting_refused : Lasting (Refused c) := by
  rintro before _ f ⟨es, r, fault, hr, rfl, hf⟩
  exact ⟨before ++ es, r, fault, hr, (List.append_assoc ..).symm, hf⟩

theorem ends_call {r : ApiRequest} (hr : r.isForSecret = true) :
    (call c r).Ends (fun _ => True) (Refused c) := by
  rw [call_eq_once]
  refine Act.ends_once (fun _ _ _ => trivial) fun y f h => ?_
  cases y with
  | ok x => cases h
  | error fault =>
    cases h
    exact ⟨[], r, fault, hr, rfl, rfl⟩

/-- Putting a secret in its place fails only if the API server refuses one of the calls. -/
theorem ends_putSecret (c : Config) (s : Secret) :
    (putSecret c s).Ends (fun _ => True) (Refused c) := by
  have hread : (some <$> secret c s.nameJson s.spaceJson).Ends (fun _ => True) (Refused c) :=
    (ends_call rfl).map fun _ _ => trivial
  have hcreate : ((fun _ => none) <$> createSecret c s : Act (Option Secret)).Ends (fun _ => True)
      (Refused c) := (ends_call rfl).map fun _ _ => trivial
  refine Act.Ends.bind (Q := fun _ => True) lasting_refused ?_ fun existing _ => ?_
  · refine hread.rescueNotFound lasting_refused fun _ => ?_
    refine hcreate.rescueReported lasting_refused fun e => ?_
    -- only a secret that is there already is read again
    cases e with
    | alreadyExists kind name => exact .inr hread
    | _ => exact .inl rfl
  · cases existing with
    | none => exact Act.ends_pure trivial
    | some old => exact (ends_call rfl).bind lasting_refused fun _ _ => Act.ends_pure trivial

/-- If a secret has been put in its place, it was by the last exchange. -/
theorem exists_putsSecret {s : Secret} {es : List Exchange} (h : (putSecret c s).Trace es (.ok ())) :
    ∃ before e, es = before ++ [e] ∧ e.putsSecret = true := by
  have hsome : ∀ {a : Act Secret} {es}, ¬(some <$> a).Trace es (.ok none) := by
    intro a es h
    obtain ⟨o, -, ho⟩ := Act.trace_map.mp h
    cases o <;> cases ho
  obtain ⟨existing, first, last, hexisting, h, rfl⟩ := Act.trace_bind_ok.mp h
  cases existing with
  | some old =>
    obtain ⟨_, _, _, hreplace, ⟨rfl, -⟩, rfl⟩ := Act.trace_bind_ok.mp h
    rw [List.append_nil, trace_call_ok.mp hreplace]
    exact ⟨first, _, rfl, rfl⟩
  | none =>
    obtain ⟨rfl, -⟩ := h
    rw [List.append_nil]
    -- nothing was read, so that the secret was absent at first, and then made
    obtain hread | ⟨e, before, after, -, hmake, rfl⟩ := Act.trace_rescueReported_ok.mp hexisting
    · exact absurd hread hsome
    cases e with
    | notFound kind name =>
      obtain hcreate | ⟨e, _, _, -, hagain, -⟩ := Act.trace_rescueReported_ok.mp hmake
      · obtain ⟨o, hcall, ho⟩ := Act.trace_map.mp hcreate
        cases o with
        | error f => cases ho
        | ok made =>
          rw [trace_call_ok.mp hcall]
          exact ⟨before, _, rfl, rfl⟩
      · cases e with
        | alreadyExists => exact absurd hagain hsome
        | _ => cases hagain.2
    | _ => cases hmake.2

end Kube

/-! ### Random paths -/

namespace MountPath

variable {es : List Exchange} {base : String} {taken : List String} {o : Except Failure String}

/-- The exchanges are so many draws. -/
def Draws (n : Nat) (es : List Exchange) : Prop := es.length = n ∧ ∀ e ∈ es, e.request = .draw

theorem Draws.append {m n : Nat} {es' : List Exchange} (h : Draws m es) (h' : Draws n es') :
    Draws (m + n) (es ++ es') :=
  ⟨by rw [List.length_append, h.1, h'.1], List.forall_mem_append.mpr ⟨h.2, h'.2⟩⟩

theorem trace_drawLetters {n : Nat} {o : Except Failure (List Char)}
    (h : (drawLetters n).Trace es o) : Draws n es ∧ ∃ letters, o = .ok letters := by
  induction n generalizing es o with
  | zero =>
    obtain ⟨rfl, rfl⟩ := h
    exact ⟨⟨rfl, List.forall_mem_nil _⟩, [], rfl⟩
  | succ n ih =>
    obtain ⟨i, rest, rfl, h⟩ := h
    obtain ⟨o', hrest, rfl⟩ := (Act.trace_bind_liftM (g := fun rest => .ok (letter i :: rest))).mp h
    obtain ⟨⟨hlength, hdraws⟩, letters, rfl⟩ := ih hrest
    exact ⟨⟨congrArg Nat.succ hlength, List.forall_mem_cons.mpr ⟨rfl, hdraws⟩⟩, _, rfl⟩

/-- Drawing a path does not fail, and takes a draw for each letter. -/
theorem trace_draw (h : (draw base).Trace es o) :
    Draws nameLength es ∧ ∃ path, o = .ok path := by
  obtain ⟨o', hletters, rfl⟩ := (Act.trace_bind_liftM
    (g := fun letters => .ok (joinPath base (String.ofList letters)))).mp h
  obtain ⟨hdraws, letters, rfl⟩ := trace_drawLetters hletters
  exact ⟨hdraws, _, rfl⟩

/-- A path is found after some attempts; or none is, after as many as there may be. -/
theorem trace_drawFree {n : Nat} (h : (drawFree base taken n).Trace es o) :
    (∃ k path, Draws ((k + 1) * nameLength) es ∧ o = .ok path) ∨
      Draws (n * nameLength) es ∧ o = .error .interrupted := by
  induction n generalizing es with
  | zero =>
    obtain ⟨rfl, rfl⟩ := h
    exact .inr ⟨⟨rfl, List.forall_mem_nil _⟩, rfl⟩
  | succ n ih =>
    rw [drawFree] at h
    obtain ⟨g, hg, -⟩ | ⟨path, before, after, hpath, hnext, rfl⟩ := Act.trace_bind.mp h
    · obtain ⟨-, path, hpath⟩ := trace_draw hg
      cases hpath
    have hfirst := (trace_draw hpath).1
    split at hnext
    · -- the path is taken, so that the attempts go on
      have hmore : ∀ {m}, Draws (m * nameLength) after →
          Draws ((m + 1) * nameLength) (before ++ after) := by
        intro m hdraws
        rw [Nat.succ_mul, Nat.add_comm]
        exact hfirst.append hdraws
      obtain ⟨k, path, hdraws, ho⟩ | ⟨hdraws, ho⟩ := ih hnext
      · exact .inl ⟨k + 1, path, hmore hdraws, ho⟩
      · exact .inr ⟨hmore hdraws, ho⟩
    · obtain ⟨rfl, rfl⟩ := hnext
      rw [List.append_nil]
      refine .inl ⟨0, path, ?_, rfl⟩
      rwa [Nat.zero_add, Nat.one_mul]

section Free

variable {c : Config} {pod : Json}

/-- In a well-typed pod, only the attempts decide. -/
theorem trace_free (hpod : WellTyped pod) (h : (free c pod).Trace es o) :
    ∃ taken, (drawFree c.podMountBase taken attempts).Trace es o := by
  obtain ⟨taken, htaken, -⟩ := Pod.yields_taken hpod
  rw [free, htaken] at h
  exact ⟨taken, h⟩

theorem draws_of_free {path : String} (hpod : WellTyped pod) (h : (free c pod).Trace es (.ok path)) :
    ∃ k, Draws ((k + 1) * nameLength) es := by
  obtain ⟨taken, h⟩ := trace_free hpod h
  obtain ⟨k, -, hdraws, -⟩ | ⟨-, heq⟩ := trace_drawFree h
  · exact ⟨k, hdraws⟩
  · cases heq

theorem draws_of_free_error {f : Failure} (hpod : WellTyped pod)
    (h : (free c pod).Trace es (.error f)) :
    Draws (attempts * nameLength) es ∧ f = .interrupted := by
  obtain ⟨taken, h⟩ := trace_free hpod h
  obtain ⟨_, _, -, heq⟩ | ⟨hdraws, heq⟩ := trace_drawFree h
  · cases heq
  · cases heq
    exact ⟨hdraws, rfl⟩

end Free

end MountPath

/-! ### What is prepared -/

/-- A volume that has no secret of its own is of the community kind. -/
theorem MountSettings.isCe_of_resolve {c : Config} {attributes : Keyed String}
    {options : List String} {s : MountSettings} (h : resolve none attributes options c = .ok s) :
    s.isCe = true := by
  obtain ⟨_, ⟨⟩, h⟩ := bind_eq_ok.mp h
  obtain ⟨⟨caches, options⟩, -, h⟩ := bind_eq_ok.mp h
  obtain ⟨resources, -, h⟩ := bind_eq_ok.mp h
  obtain ⟨delay, -, h⟩ := bind_eq_ok.mp h
  obtain ⟨labels, -, h⟩ := bind_eq_ok.mp h
  obtain ⟨annotations, -, h⟩ := bind_eq_ok.mp h
  cases h
  rfl

theorem MountSettings.yields_mountCommand {s : MountSettings} (c : Config) (h : s.isCe = true) :
    Yields (s.mountCommand c) fun _ => True := by
  rw [mountCommand, if_pos h]
  exact yields_ok trivial

theorem sidecarSecret_eq_error {c : Config} {settings : MountSettings} {claim : Claim} {f : Failure}
    (h : sidecarSecret c settings claim = .error f) : claim.metadata.uid = none ∧
      f = .defect (.badValue "Invalid value for `uid`, must not be `None`") := by
  rw [sidecarSecret] at h
  split at h
  next huid =>
    cases h
    exact ⟨huid, rfl⟩
  next => cases h

/-- The sidecar of a community filesystem is built, if its size can be written. -/
theorem Sidecar.buildFor_eq_error {c : Config} {settings : MountSettings} {capacity : Int}
    {volumeName : Json} {f : Failure} (hce : settings.isCe = true)
    (h : buildFor c settings capacity volumeName = .error f) :
    Integer.isWritable capacity = false ∧ f = .defect (.badValue Integer.unwritableMessage) := by
  obtain ⟨script, hscript, -⟩ := MountSettings.yields_mountCommand c hce
  rw [buildFor, hscript, checkWritable] at h
  cases hwritable : Integer.isWritable capacity with
  | true =>
    rw [hwritable] at h
    cases h
  | false =>
    rw [hwritable] at h
    cases h
    exact ⟨rfl, rfl⟩

theorem Sidecar.exists_buildFor {c : Config} {settings : MountSettings} {capacity : Int}
    (hce : settings.isCe = true) (hcapacity : Integer.isWritable capacity = true)
    (volumeName : Json) : ∃ s, buildFor c settings capacity volumeName = .ok s := by
  cases hbuilt : buildFor c settings capacity volumeName with
  | ok s => exact ⟨s, rfl⟩
  | error f =>
    have hunwritable := (buildFor_eq_error hce hbuilt).1
    rw [hcapacity] at hunwritable
    cases hunwritable

theorem Pair.prepare_eq_ok {c : Config} {p : Pair} {settings : MountSettings} {capacity : Int}
    (h : prepare c p = .ok (settings, capacity)) :
    settings.isCe = true ∧ p.claim.capacityGib = .ok capacity := by
  obtain ⟨⟨attributes, options⟩, -, h⟩ := bind_eq_ok.mp h
  obtain ⟨settings', hsettings, h⟩ := bind_eq_ok.mp h
  obtain ⟨capacity', hcapacity, h⟩ := bind_eq_ok.mp h
  cases h
  exact ⟨MountSettings.isCe_of_resolve hsettings, hcapacity⟩

namespace Mutation

open InitContainer (MountsNamed)

variable {c : Config} {pod : Json} {pairs : List Pair}

/-! ### Late rejections -/

/-- A pod with these pairs is rejected late: after some exchanges, with a failure. -/
inductive Late (c : Config) (pairs : List Pair) : List Exchange → Failure → Prop
  /-- The API server refuses a call for a secret. -/
  | refused {es : List Exchange} {f : Failure} (h : Kube.Refused c es f) : Late c pairs es f
  /-- All paths that are drawn for a sidecar are taken. -/
  | undrawn (before : List Exchange) {draws : List Exchange}
    (h : MountPath.Draws (MountPath.attempts * MountPath.nameLength) draws) :
    Late c pairs (before ++ draws) .interrupted
  /-- A claim has no identifier, so that no secret can belong to it. This is met when a path has been
  found for the sidecar, and its secret is not called for any more. -/
  | unidentified (before : List Exchange) {draws : List Exchange} {k : Nat} {p : Pair} (hp : p ∈ pairs)
    (huid : p.claim.metadata.uid = none)
    (h : MountPath.Draws ((k + 1) * MountPath.nameLength) draws) :
    Late c pairs (before ++ draws)
      (.defect (.badValue "Invalid value for `uid`, must not be `None`"))
  /-- The size that a claim asks for has too many digits. This is met right after the secret of the
  sidecar has been put in its place. -/
  | unwritable (before : List Exchange) {e : Exchange} {p : Pair} {capacity : Int} (hp : p ∈ pairs)
    (hcapacity : p.claim.capacityGib = .ok capacity) (hdigits : Integer.isWritable capacity = false)
    (h : e.putsSecret = true) :
    Late c pairs (before ++ [e]) (.defect (.badValue Integer.unwritableMessage))

theorem lasting_late : Lasting (Late c pairs) := by
  intro before es f h
  cases h with
  | refused h => exact .refused (Kube.lasting_refused before _ _ h)
  | undrawn _ h =>
    rw [← List.append_assoc]
    exact .undrawn _ h
  | unidentified _ hp huid h =>
    rw [← List.append_assoc]
    exact .unidentified _ hp huid h
  | unwritable _ hp hcapacity hdigits h =>
    rw [← List.append_assoc]
    exact .unwritable _ hp hcapacity hdigits h

variable {p : Pair} {settings : MountSettings} {capacity : Int}

/-- What is known of a pod that has got sidecars, from the name of the first one on: it is well-typed,
and its containers that had only named mounts still have. -/
structure Grown (pod : Json) (first : Option String) (pod' : Json) : Prop where
  /-- The pod is well-typed. -/
  wellTyped : WellTyped pod'
  /-- Named mounts are kept. -/
  kept : ∀ name, MountsNamed name pod → MountsNamed name pod'
  /-- The first sidecar has only named mounts. -/
  first : ∀ name ∈ first, MountsNamed name pod'

/-- **One sidecar** is put into a well-typed pod, or the pod is rejected late. -/
theorem ends_addSidecar {index : Nat} (hpod : WellTyped pod) (hp : p ∈ pairs)
    (hprepared : Pair.prepare c p = .ok (settings, capacity)) :
    (addSidecar c index p settings capacity pod).Ends (fun out => Grown pod (some out.2) out.1)
      (Late c pairs) := by
  obtain ⟨hce, hcapacity⟩ := Pair.prepare_eq_ok hprepared
  have hends : (addSidecar c index p settings capacity pod).Ends (fun out => WellTyped out.1)
      (Late c pairs) := by
    refine Act.ends_yields_bind (Pod.yields_space hpod) fun space _ => ?_
    refine Act.ends_bind (fun es f ht => ?_) fun draws path ht => ?_
    · obtain ⟨hdraws, rfl⟩ := MountPath.draws_of_free_error hpod ht
      exact .undrawn [] hdraws
    obtain ⟨k, hdraws⟩ := MountPath.draws_of_free hpod ht
    refine Act.ends_liftM_bind (fun f hf => ?_) fun secret _ => ?_
    · obtain ⟨huid, rfl⟩ := sidecarSecret_eq_error hf
      rw [List.append_nil]
      exact .unidentified [] hp huid hdraws
    -- from here on, it does not matter what was drawn
    refine Act.Ends.mono ?_ (fun _ => id) (lasting_late draws)
    refine Act.ends_bind (fun es f hf => .refused ((Kube.ends_putSecret c secret).error hf))
      fun before _ hput => ?_
    obtain ⟨first, e, rfl, he⟩ := Kube.exists_putsSecret hput
    refine Act.ends_liftM_bind (fun f hf => ?_) fun built _ => ?_
    · have hplaced : (placed p settings path space).isCe = true := hce
      obtain ⟨hdigits, rfl⟩ := Sidecar.buildFor_eq_error hplaced hf
      rw [List.append_nil]
      exact .unwritable first hp hcapacity hdigits he
    refine Act.ends_yields_bind (Pod.yields_renameIn hpod built index) fun renamed _ => ?_
    refine Act.ends_yields_bind (Pod.yields_inject hpod c p.claim.name (renamed.finished c p))
      fun pod' hpod' => ?_
    exact Act.ends_pure hpod'
  refine ⟨fun ht => ?_, hends.error⟩
  -- of the mounts, it only matters which sidecar was put in
  obtain ⟨path, s, hname, htaken⟩ := taken_of_addSidecar hprepared ht
  have hinjected := htaken.filled.toInjected
  refine ⟨hends.ok ht, fun name hnamed => hnamed.injected hinjected, ?_⟩
  rintro _ ⟨⟩
  rw [← hname]
  exact InitContainer.mountsNamed_of_injected htaken.fits hinjected

/-- **All sidecars** are put into a well-typed pod, or the pod is rejected late. -/
theorem ends_addSidecars {steps : List (Nat × Pair × MountSettings × Int)} (hpod : WellTyped pod)
    (hsteps : ∀ step ∈ steps, step.2.1 ∈ pairs ∧ Pair.prepare c step.2.1 = .ok step.2.2) :
    (addSidecars c steps pod).Ends (fun out => Grown pod out.2.head? out.1) (Late c pairs) := by
  -- all pairs stay in view, so that the reasons of a rejection are the same at each step
  induction steps generalizing pod with
  | nil => exact Act.ends_pure ⟨hpod, fun _ => id, nofun⟩
  | cons step steps ih =>
    obtain ⟨index, p, settings, capacity⟩ := step
    obtain ⟨⟨hp, hprepared⟩, hsteps⟩ := List.forall_mem_cons.mp hsteps
    rw [addSidecars]
    refine (ends_addSidecar hpod hp hprepared).bind lasting_late ?_
    rintro ⟨pod₁, name⟩ hfirst
    refine (ih hfirst.wellTyped hsteps).bind lasting_late ?_
    rintro ⟨pod₂, names⟩ hrest
    refine Act.ends_pure ⟨hrest.wellTyped, fun n hn => hrest.kept n (hfirst.kept n hn), ?_⟩
    rintro _ ⟨⟩
    exact hrest.kept name (hfirst.first name rfl)

/-- After its sidecars, a pod gets its class and its init container. -/
theorem ends_equipped {signer name : String} {domain : RuntimeDomain}
    {prepared : List (MountSettings × Int)} (hpod : WellTyped pod)
    (hprepared : pairs.mapM (Pair.prepare c) = .ok prepared)
    (hdomain : RuntimeClass.domainOf c name = .ok domain) :
    (equipped c pod pairs signer prepared name).Ends (fun _ => True) (Late c pairs) := by
  refine (ends_addSidecars hpod fun step => prepare_of_mem_numbered hprepared).bind lasting_late ?_
  rintro ⟨out, names⟩ hout
  obtain ⟨mid, hmid, htyped⟩ := RuntimeClass.yields_inject hout.wellTyped hdomain
  refine Act.ends_yields_bind ⟨mid, hmid, rfl⟩ ?_
  rintro _ rfl
  -- the class leaves the containers alone, so that the first sidecar is still as it was
  refine Act.ends_of_yields (InitContainer.yields_inject c _ hpod htyped fun first hfirst => ?_)
  have hnamed := hout.first first hfirst
  rwa [MountsNamed, RuntimeClass.listed_of_inject hmid (by decide)]

theorem mapM_of_checked {signer : String} {prepared : List (MountSettings × Int)}
    (h : checked c pod pairs = .ok (signer, prepared)) :
    pairs.mapM (Pair.prepare c) = .ok prepared := by
  obtain ⟨_, -, h⟩ := bind_eq_ok.mp h
  obtain ⟨_, hprepared, heq⟩ := bind_eq_ok.mp h
  cases heq
  exact hprepared

/-- **Late rejections.** A pod that fails a check is rejected before anything is asked. If a well-typed
pod is rejected in any other way, it is rejected late: by the API server, for want of a path, or
because of what no check before foresees. -/
theorem late_of_run (hpod : WellTyped pod) :
    (∀ f, FailsCheck c pod pairs f → run c pod pairs = .fail f) ∧
      ∀ es f, (run c pod pairs).Trace es (.error f) →
        es = [] ∧ FailsCheck c pod pairs f ∨ Late c pairs es f := by
  refine ⟨fun f => run_of_failsCheck, fun es f h => ?_⟩
  -- a trace of a rejected act is empty
  have hfail : ∀ {g}, FailsCheck c pod pairs g → es = [] ∧ FailsCheck c pod pairs f := by
    intro g hg
    rw [run_of_failsCheck hg] at h
    obtain ⟨rfl, hf⟩ := h
    cases hf
    exact ⟨rfl, hg⟩
  cases hchecked : checked c pod pairs with
  | error g => exact .inl (hfail (.inl hchecked))
  | ok x =>
    obtain ⟨signer, prepared⟩ := x
    cases hchoose : RuntimeClass.choose c pod (needed pairs) with
    | error g => exact .inl (hfail (.inr ⟨⟨_, hchecked⟩, hchoose⟩))
    | ok name =>
      rw [run_eq_bind, hchecked, hchoose] at h
      obtain ⟨request, -, hselect⟩ := bind_eq_ok.mp hchoose
      obtain ⟨domain, hdomain, -⟩ := (RuntimeClass.select_eq_ok.mp hselect).domainOf
      exact .inr ((ends_equipped hpod (mapM_of_checked hchecked) hdomain).error h)

theorem wellTyped_plainPod : WellTyped plainPod := by
  refine ⟨⟨_, rfl, ⟨_, rfl⟩, ?_, nofun, nofun, nofun⟩, ?_⟩
  · rintro _ ⟨⟩
    refine .inr ⟨_, rfl, List.forall_mem_singleton.mpr ⟨⟨"app", rfl⟩, ?_, nofun⟩⟩
    rintro _ ⟨⟩
    exact ⟨"busybox", rfl⟩
  · rintro _ ⟨⟩
    exact ⟨⟨_, rfl⟩, nofun, nofun⟩

/-- Remote ends where the secret of one pair cannot be read. -/
def unreadableSecret : Remote where
  faults := [{ verb := some .readSecret, name := some "owned-secret", effect := .status 500 "down" }]

theorem late_of_run_unreadableSecret : WellTyped plainPod ∧ ∃ es f,
    (run {} plainPod [barePair, ownedPair]).Trace es (.error f) ∧
      es.any Exchange.putsSecret = true ∧
      (es = [] ∧ FailsCheck {} plainPod [barePair, ownedPair] f ∨
        Late {} [barePair, ownedPair] es f) := by
  let a := run {} plainPod [barePair, ownedPair]
  have hfails : (a.run unreadableSecret).1.isOk = false := by decide +kernel
  have hputs : (a.exchanges unreadableSecret).any Exchange.putsSecret = true := by decide +kernel
  have htrace := a.trace_run unreadableSecret
  cases hend : (a.run unreadableSecret).1 with
  | ok out =>
    rw [hend] at hfails
    cases hfails
  | error f =>
    rw [hend] at htrace
    exact ⟨wellTyped_plainPod, _, f, htrace, hputs, (late_of_run wellTyped_plainPod).2 _ f htrace⟩

/-- An act that runs fails with this failure, right after a secret has been put in its place. -/
def failsAfterSecret (a : Act Json) (w : Remote) (f : Failure) : Bool :=
  (match (a.run w).1 with
    | .error g => decide (g = f)
    | .ok _ => false) &&
  (a.exchanges w).getLast?.any Exchange.putsSecret

theorem exists_trace_of_failsAfterSecret {a : Act Json} {w : Remote} {f : Failure}
    (h : failsAfterSecret a w f = true) :
    ∃ es, a.Trace es (.error f) ∧ es.any Exchange.putsSecret = true ∧ ∀ c, ¬Kube.Refused c es f := by
  obtain ⟨hfails, hputs⟩ := Bool.and_eq_true_iff.mp h
  have htrace := a.trace_run w
  refine ⟨a.exchanges w, ?_, ?_, ?_⟩
  · cases hend : (a.run w).1 with
    | ok out =>
      rw [hend] at hfails
      cases hfails
    | error g =>
      rw [hend] at hfails htrace
      rwa [of_decide_eq_true hfails] at htrace
  · obtain ⟨e, he, hput⟩ := (Option.any_eq_true _ _).mp hputs
    exact List.any_eq_true.mpr ⟨e, List.mem_of_getLast? he, hput⟩
  · -- the last exchange is that of a secret that was put in its place
    rintro c ⟨before, r, fault, -, hes, -⟩
    rw [hes, List.getLast?_concat, Option.any_some, Exchange.putsSecret_refused] at hputs
    cases hputs

/-- A pair whose claim asks for more bytes than can be counted in 4300 digits. -/
def oversizedPair : Pair :=
  { barePair with
    claim := { barePair.claim with requests := some (some [("storage", "1e5000")]) } }

/-- A pod is rejected because of a size, after a secret has been made for it. -/
theorem run_oversizedPair : WellTyped plainPod ∧ ∃ es,
    (run {} plainPod [oversizedPair]).Trace es
      (.error (.defect (.badValue Integer.unwritableMessage))) ∧
      es.any Exchange.putsSecret = true ∧
      ∀ c, ¬Kube.Refused c es (.defect (.badValue Integer.unwritableMessage)) :=
  ⟨wellTyped_plainPod, exists_trace_of_failsAfterSecret (w := {}) (by decide +kernel)⟩

end Mutation

end SubpathCsi
