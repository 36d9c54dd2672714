import SubpathCsi.Proofs.Pod.Mutation
import SubpathCsi.Proofs.Pod.Tenancy

/-!
# The trust domain of a pod

A pod runs under one class, and the class belongs to a trust domain. One volume that needs a trusted
execution environment is enough for the whole pod: the class that the pod asks for is kept only if
it is trusted enough. A name may stand in both lists of classes, and then it is trusted.

* `RuntimeClass.domainOf_eq_tee`, `RuntimeClass.domainOf_eq_vm`: the domain of a class;
* `RuntimeClass.select_eq_ok`: how a class is chosen;
* `RuntimeClass.RunsUnder`: what a pod tells of its class and its domain;
* `Mutation.FailsCheck`, `Mutation.run_of_failsCheck`: what a pod is rejected for beforehand;
* `Mutation.run_runtime`: under what a pod with sidecars runs, and which pods are rejected before
  anything is asked.
-/

namespace SubpathCsi

/-! ### Classes and domains -/

namespace RuntimeClass

variable {c : Config} {name : String} {domain needed : RuntimeDomain} {pod pod' : Json}

theorem domainOf_eq_tee : domainOf c name = .ok .tee ↔ name ∈ c.teeRuntimeClassNames := by
  rw [domainOf]
  by_cases htee : name ∈ c.teeRuntimeClassNames
  · simp [htee]
  · by_cases hvm : name ∈ c.vmRuntimeClassNames <;> simp [htee, hvm, unsupported]

/-- A class that is in both lists is none of a virtual machine. -/
theorem domainOf_eq_vm :
    domainOf c name = .ok .vm ↔ name ∉ c.teeRuntimeClassNames ∧ name ∈ c.vmRuntimeClassNames := by
  rw [domainOf]
  by_cases htee : name ∈ c.teeRuntimeClassNames
  · simp [htee]
  · by_cases hvm : name ∈ c.vmRuntimeClassNames <;> simp [htee, hvm, unsupported]

/-- The class is in one of the lists. -/
def Known (c : Config) (name : String) : Prop :=
  name ∈ c.teeRuntimeClassNames ∨ name ∈ c.vmRuntimeClassNames

theorem known_of_domainOf (h : domainOf c name = .ok domain) : Known c name := by
  cases domain with
  | tee => exact .inl (domainOf_eq_tee.mp h)
  | vm => exact .inr (domainOf_eq_vm.mp h).2

theorem domainOf_of_not_known (h : ¬Known c name) : domainOf c name = unsupported name := by
  obtain ⟨htee, hvm⟩ := not_or.mp h
  simp [domainOf, htee, hvm]

/-- The classes of a domain, the preferred one first. -/
def classes (c : Config) : RuntimeDomain → List String
  | .tee => c.teeRuntimeClassNames
  | .vm => c.vmRuntimeClassNames

theorem preferred_eq_ok : preferred c domain = .ok name ↔ (classes c domain).head? = some name := by
  cases domain with
  | tee => cases h : c.teeRuntimeClassNames <;> simp [preferred, classes, h, unsupported]
  | vm => cases h : c.vmRuntimeClassNames <;> simp [preferred, classes, h, unsupported]

/-- A class that a domain prefers is known, and trusted if the domain is. -/
theorem domainOf_of_head? (h : (classes c domain).head? = some name) :
    ∃ own, domainOf c name = .ok own ∧ (domain = .tee → own = .tee) := by
  have hmem := List.mem_of_mem_head? (Option.mem_def.mpr h)
  by_cases htee : name ∈ c.teeRuntimeClassNames
  · exact ⟨.tee, domainOf_eq_tee.mpr htee, fun _ => rfl⟩
  · cases domain with
    | tee => exact absurd hmem htee
    | vm => exact ⟨.vm, domainOf_eq_vm.mpr ⟨htee, hmem⟩, nofun⟩

/-! ### The needed domain -/

theorem expected_eq_tee {domains : List RuntimeDomain} : expected domains = .tee ↔ .tee ∈ domains := by
  by_cases h : RuntimeDomain.tee ∈ domains <;> simp [expected, h]

theorem expected_eq_vm {domains : List RuntimeDomain} : expected domains = .vm ↔ .tee ∉ domains := by
  by_cases h : RuntimeDomain.tee ∈ domains <;> simp [expected, h]

/-- The order of the domains does not matter. -/
theorem expected_eq_of_perm {domains domains' : List RuntimeDomain} (h : domains.Perm domains') :
    expected domains = expected domains' := by
  by_cases htee : RuntimeDomain.tee ∈ domains
  · rw [expected_eq_tee.mpr htee, expected_eq_tee.mpr (h.mem_iff.mp htee)]
  · rw [expected_eq_vm.mpr htee, expected_eq_vm.mpr fun h' => htee (h.mem_iff.mpr h')]

/-! ### The choice of a class -/

/-- What a pod asks for: the member of its specification, unless it is empty. -/
def asked? (pod : Json) : Option Json :=
  ((pod.get? "spec").bind (·.get? "runtimeClassName")).filter Json.isPresent

/-- What is not there and what is empty asks for nothing. -/
theorem asked?_of_findD {spec value : Json} (hspec : pod.findD "spec" (.obj []) = .ok spec)
    (hvalue : spec.findD "runtimeClassName" .null = .ok value) :
    asked? pod = if value.isPresent then some value else none := by
  obtain ⟨-, rfl⟩ := Json.findD_eq_ok.mp hspec
  obtain ⟨-, rfl⟩ := Json.findD_eq_ok.mp hvalue
  rw [asked?]
  cases hget : pod.get? "spec" with
  | none => rfl
  | some spec =>
    rw [Option.bind_some, Option.getD_some]
    cases hclass : spec.get? "runtimeClassName" with
    | none => rfl
    | some value => rfl

/-- A request that is read is a text, or there is none. -/
theorem asked?_of_requested {request : Option String} (h : requested pod = .ok request) :
    asked? pod = request.map .str := by
  obtain ⟨spec, hspec, h⟩ := bind_eq_ok.mp h
  obtain ⟨value, hvalue, h⟩ := bind_eq_ok.mp h
  rw [asked?_of_findD hspec hvalue]
  split at h
  next habsent =>
    cases h
    rw [if_neg fun hpresent => by rw [hpresent] at habsent; cases habsent]
    rfl
  next hpresent =>
    rw [if_pos (by simpa using hpresent)]
    split at h
    · cases h
      rfl
    · cases h

/-- What a pod asks for is read before anything else is known of it. -/
theorem requested_of_asked? {value : Json} (h : asked? pod = some value) :
    requested pod =
      if value.str?.isSome then .ok value.str? else unsupported value.display := by
  obtain ⟨hvalue, hpresent⟩ := Option.filter_eq_some_iff.mp h
  obtain ⟨spec, hspec, hclass⟩ := Option.bind_eq_some_iff.mp hvalue
  have hfindSpec : pod.findD "spec" (.obj []) = .ok spec :=
    Json.findD_eq_ok.mpr ⟨Json.isObject_of_get? hspec, by rw [hspec]; rfl⟩
  have hfindClass : spec.findD "runtimeClassName" .null = .ok value :=
    Json.findD_eq_ok.mpr ⟨Json.isObject_of_get? hclass, by rw [hclass]; rfl⟩
  simp only [requested, hfindSpec, hfindClass, bind, Except.bind, hpresent]
  cases value <;> rfl

/-- How a class is called in a rejection. -/
def word (value : Json) : String := value.str?.getD value.display

/-- A class that is not known is not chosen, whether it is a text or not. -/
theorem choose_of_not_known {value : Json} (hasked : asked? pod = some value)
    (hunknown : ∀ name, value = .str name → ¬Known c name) :
    choose c pod needed = unsupported (word value) := by
  rw [choose, requested_of_asked? hasked]
  cases value with
  | str name =>
    change select c (some name) needed = unsupported name
    simp only [select, domainOf_of_not_known (hunknown name rfl)]
    rfl
  | null | bool | int | float | arr | obj => rfl

/-- The class is chosen for a pod that asks for this one, or for none, where a domain is needed. -/
inductive Chosen (c : Config) (needed : RuntimeDomain) : Option String → String → Prop where
  /-- Without a request, the preferred class is taken. -/
  | preferred {name : String} (hname : (classes c needed).head? = some name) :
    Chosen c needed none name
  /-- A class that is trusted enough is kept. -/
  | kept {name : String} {domain : RuntimeDomain} (hdomain : domainOf c name = .ok domain)
    (htrusted : ¬(domain = .vm ∧ needed = .tee)) : Chosen c needed (some name) name
  /-- A class that is not trusted enough gives way to the preferred one. -/
  | lifted {request name : String} (hdomain : domainOf c request = .ok .vm) (hneeded : needed = .tee)
    (hname : c.teeRuntimeClassNames.head? = some name) : Chosen c needed (some request) name

theorem select_eq_ok {request : Option String} :
    select c request needed = .ok name ↔ Chosen c needed request name := by
  constructor
  · intro h
    cases request with
    | none => exact .preferred (preferred_eq_ok.mp h)
    | some request =>
      obtain ⟨domain, hdomain, h⟩ := bind_eq_ok.mp h
      split at h
      next hlift =>
        obtain ⟨rfl, hneeded⟩ : domain = .vm ∧ needed = .tee := by simpa using hlift
        have hname : (classes c .tee).head? = some name := preferred_eq_ok.mp h
        exact .lifted hdomain hneeded hname
      next htrusted =>
        cases h
        exact .kept hdomain (by simpa using htrusted)
  · intro h
    cases h with
    | preferred hname => exact preferred_eq_ok.mpr hname
    | @kept _ domain hdomain htrusted =>
      exact bind_eq_ok.mpr ⟨domain, hdomain, if_neg (by simpa using htrusted)⟩
    | lifted hdomain hneeded hname =>
      subst hneeded
      have hpreferred : preferred c .tee = .ok name := preferred_eq_ok.mpr hname
      exact bind_eq_ok.mpr ⟨.vm, hdomain, hpreferred⟩

namespace Chosen

variable {request : Option String}

/-- **Escalation.** The class that is chosen is known, and trusted if that is needed. -/
theorem domainOf (h : Chosen c needed request name) :
    ∃ domain, RuntimeClass.domainOf c name = .ok domain ∧ (needed = .tee → domain = .tee) := by
  cases h with
  | preferred hname => exact domainOf_of_head? hname
  | lifted hdomain hneeded hname =>
    have hfirst : (classes c needed).head? = some name := by
      rw [hneeded]
      exact hname
    exact domainOf_of_head? hfirst
  | @kept _ domain hdomain htrusted =>
    refine ⟨domain, hdomain, fun hneeded => ?_⟩
    cases domain with
    | tee => rfl
    | vm => exact absurd ⟨rfl, hneeded⟩ htrusted

/-- A class that is asked for is known. It is kept exactly if it is trusted enough; else the first
trusted class takes its place. -/
theorem of_some {request : String} (h : Chosen c needed (some request) name) :
    ∃ domain, RuntimeClass.domainOf c request = .ok domain ∧
      (name = request ↔ ¬(domain = .vm ∧ needed = .tee)) ∧
      (domain = .vm → needed = .tee → c.teeRuntimeClassNames.head? = some name) := by
  cases h with
  | @kept _ domain hdomain htrusted =>
    exact ⟨domain, hdomain, iff_of_true rfl htrusted, fun hvm htee => absurd ⟨hvm, htee⟩ htrusted⟩
  | lifted hdomain hneeded hname =>
    refine ⟨.vm, hdomain, iff_of_false ?_ fun hnot => hnot ⟨rfl, hneeded⟩, fun _ _ => hname⟩
    -- a class of a virtual machine is in no list of trusted ones
    rintro rfl
    exact (domainOf_eq_vm.mp hdomain).1 (List.mem_of_mem_head? (Option.mem_def.mpr hname))

end Chosen

/-! ### What a pod tells of its class -/

/-- The pod runs under a class, and its annotation names the domain of the class. -/
structure RunsUnder (c : Config) (pod : Json) (name : String) (domain : RuntimeDomain) : Prop where
  /-- The specification names the class. -/
  class_eq : (pod.get? "spec").bind (·.get? "runtimeClassName") = some (.str name)
  /-- The class is one of the domain. -/
  domain_eq : domainOf c name = .ok domain
  /-- The annotation names the domain. -/
  annotation_eq : ((pod.get? "metadata").bind (·.get? "annotations")).bind
    (·.get? runtimeKey) = some (.str domain.name)

/-- A pod that gets a class runs under it, whatever annotations it has had. -/
theorem runsUnder_of_inject (h : inject c pod name = .ok pod')
    (hdomain : domainOf c name = .ok domain) : RunsUnder c pod' name domain := by
  obtain ⟨own, hown, h⟩ := bind_eq_ok.mp h
  cases hdomain.symm.trans hown
  obtain ⟨spec, -, h⟩ := bind_eq_ok.mp h
  obtain ⟨spec', hspec', h⟩ := bind_eq_ok.mp h
  obtain ⟨pod₁, hpod₁, h⟩ := bind_eq_ok.mp h
  obtain ⟨metadata, -, h⟩ := bind_eq_ok.mp h
  obtain ⟨old, -, h⟩ := bind_eq_ok.mp h
  obtain ⟨annotations, hannotations, h⟩ := bind_eq_ok.mp h
  obtain ⟨metadata', hmetadata', h⟩ := bind_eq_ok.mp h
  refine ⟨?_, hdomain, ?_⟩
  · rw [Json.get?_assign h, if_neg (by decide), Json.get?_assign hpod₁, if_pos rfl, Option.bind_some,
      Json.get?_assign hspec', if_pos rfl]
  · rw [Json.get?_assign h, if_pos rfl, Option.bind_some, Json.get?_assign hmetadata', if_pos rfl,
      Option.bind_some, Json.get?_assign hannotations, if_pos rfl]

/-- The init container changes neither the class nor the annotation. -/
theorem RunsUnder.started {sidecars : List String} (h : RunsUnder c pod name domain)
    (hstarted : InitContainer.Started sidecars pod pod') : RunsUnder c pod' name domain := by
  obtain ⟨spec, spec', hspec, hspec', haltered⟩ := hstarted.spec
  refine ⟨?_, h.domain_eq, ?_⟩
  · rw [hspec', Option.bind_some, haltered.get?_eq _ (by decide), ← h.class_eq, hspec,
      Option.bind_some]
  · rw [hstarted.altered.get?_eq _ (by decide)]
    exact h.annotation_eq

end RuntimeClass

/-! ### Pods -/

namespace Mutation

variable {c : Config} {pod out : Json} {pairs : List Pair} {es : List Exchange}

/-- The domain that all filesystems together need. -/
def needed (pairs : List Pair) : RuntimeDomain :=
  RuntimeClass.expected (pairs.map (·.filesystem.runtime))

/-- A filesystem of one of the pairs needs a trusted execution environment. -/
def NeedsTee (pairs : List Pair) : Prop := ∃ p ∈ pairs, p.filesystem.runtime = .tee

theorem needed_eq_tee : needed pairs = .tee ↔ NeedsTee pairs := by
  rw [needed, RuntimeClass.expected_eq_tee, List.mem_map, NeedsTee]

theorem needed_eq_vm : needed pairs = .vm ↔ ¬NeedsTee pairs := by
  rw [← needed_eq_tee]
  cases needed pairs <;> simp

/-- What is checked of the pairs before a class is chosen: their owners, settings and sizes. -/
def checked (c : Config) (pod : Json) (pairs : List Pair) :
    Except Failure (String × List (MountSettings × Int)) := do
  let signer ← Pair.signer pod pairs
  return (signer, ← pairs.mapM (Pair.prepare c))

/-- The pod with a sidecar for each pair, with a class, and with the init container. -/
def equipped (c : Config) (pod : Json) (pairs : List Pair) (signer : String)
    (prepared : List (MountSettings × Int)) (runtimeClass : String) : Act Json := do
  let (out, names) ← addSidecars c (numbered pairs prepared) pod
  let out ← RuntimeClass.inject c out runtimeClass
  InitContainer.inject c
    { signer, sidecars := names, filesystems := pairs.map (·.filesystem.name), runtimeClass } pod out

/-- A run checks the pairs and chooses a class before it asks for anything. -/
theorem run_eq_bind : run c pod pairs =
    (liftM (checked c pod pairs) >>= fun (signer, prepared) =>
      liftM (RuntimeClass.choose c pod (needed pairs)) >>= equipped c pod pairs signer prepared) := by
  rw [run, checked]
  cases Pair.signer pod pairs with
  | error f => rfl
  | ok signer =>
    cases pairs.mapM (Pair.prepare c) with
    | error f => rfl
    | ok prepared => rfl

/-- A check fails that comes before everything else: one of the pairs, or else the choice of a class. -/
def FailsCheck (c : Config) (pod : Json) (pairs : List Pair) (f : Failure) : Prop :=
  checked c pod pairs = .error f ∨
    (∃ x, checked c pod pairs = .ok x) ∧ RuntimeClass.choose c pod (needed pairs) = .error f

/-- Then the pod is rejected before anything is asked. -/
theorem run_of_failsCheck {f : Failure} (h : FailsCheck c pod pairs f) :
    run c pod pairs = .fail f := by
  rw [run_eq_bind]
  obtain hchecked | ⟨⟨x, hchecked⟩, hchoose⟩ := h
  · rw [hchecked]
    rfl
  · rw [hchecked, hchoose]
    rfl

/-- A pod that gets its sidecars runs under the class that is chosen for it. -/
theorem runsUnder_of_run (h : (run c pod pairs).Trace es (.ok out)) :
    ∃ name domain, RuntimeClass.choose c pod (needed pairs) = .ok name ∧
      RuntimeClass.RunsUnder c out name domain := by
  rw [run_eq_bind] at h
  obtain ⟨⟨signer, prepared⟩, -, h⟩ := Act.trace_liftM_bind_ok.mp h
  obtain ⟨name, hname, h⟩ := Act.trace_liftM_bind_ok.mp h
  obtain ⟨⟨dressed, names⟩, _, _, -, h, -⟩ := Act.trace_bind_ok.mp h
  obtain ⟨mid, hmid, h⟩ := Act.trace_liftM_bind_ok.mp h
  obtain ⟨-, hinject⟩ := Act.trace_liftM.mp h
  obtain ⟨domain, hdomain, -⟩ := bind_eq_ok.mp hmid
  exact ⟨name, domain, hname, (RuntimeClass.runsUnder_of_inject hmid hdomain).started
    (InitContainer.started_of_inject hinject.symm)⟩

/-- Without a class for it, a pod is rejected before anything is asked. -/
theorem run_of_choose_eq_error {f : Failure}
    (h : RuntimeClass.choose c pod (needed pairs) = .error f) :
    ∃ g, run c pod pairs = .fail g ∧
      (checked c pod pairs = .error g ∨ (∃ x, checked c pod pairs = .ok x) ∧ g = f) := by
  cases hchecked : checked c pod pairs with
  | error g => exact ⟨g, run_of_failsCheck (.inl hchecked), .inl rfl⟩
  | ok x => exact ⟨f, run_of_failsCheck (.inr ⟨⟨x, hchecked⟩, h⟩), .inr ⟨⟨x, rfl⟩, rfl⟩⟩

/-- The class does not depend on the order of the domains. -/
theorem needed_of_perm {order : List Pair}
    (h : (order.map (·.filesystem.runtime)).Perm (pairs.map (·.filesystem.runtime))) :
    needed order = needed pairs := RuntimeClass.expected_eq_of_perm h

/-- **Trust domains.** A pod that gets its sidecars runs under a known class, which is trusted if one
of the filesystems needs it, and its annotation names the domain of the class. It is the class that
the pod asks for, exactly if that is trusted enough; else it is the first class of the domain that is
needed. Pairs whose domains are the same in another order lead to the same class. A pod that asks for
a class that is not known is rejected before anything is asked: because of the class, unless a check
before has failed. -/
theorem run_runtime (c : Config) (pod : Json) (pairs : List Pair) :
    (∀ es out, (run c pod pairs).Trace es (.ok out) → ∃ name domain,
      RuntimeClass.RunsUnder c out name domain ∧ RuntimeClass.Known c name ∧
      (NeedsTee pairs → domain = .tee) ∧
      (RuntimeClass.asked? pod = none →
        (NeedsTee pairs → c.teeRuntimeClassNames.head? = some name) ∧
        (¬NeedsTee pairs → c.vmRuntimeClassNames.head? = some name)) ∧
      (∀ value, RuntimeClass.asked? pod = some value → ∃ request own, value = .str request ∧
        RuntimeClass.domainOf c request = .ok own ∧
        (name = request ↔ ¬(own = .vm ∧ NeedsTee pairs)) ∧
        (own = .vm → NeedsTee pairs → c.teeRuntimeClassNames.head? = some name)) ∧
      ∀ order : List Pair,
        (order.map (·.filesystem.runtime)).Perm (pairs.map (·.filesystem.runtime)) →
        ∀ es' out', (run c pod order).Trace es' (.ok out') →
          RuntimeClass.RunsUnder c out' name domain) ∧
    (∀ value, RuntimeClass.asked? pod = some value →
      (∀ name, value = .str name → ¬RuntimeClass.Known c name) →
      ∃ f, run c pod pairs = .fail f ∧
        (checked c pod pairs = .error f ∨ (∃ x, checked c pod pairs = .ok x) ∧
          f = .reported (.unsupportedRuntimeClass (RuntimeClass.word value)))) ∧
    ∀ order : List Pair,
      (order.map (·.filesystem.runtime)).Perm (pairs.map (·.filesystem.runtime)) →
      RuntimeClass.choose c pod (needed order) = RuntimeClass.choose c pod (needed pairs) := by
  refine ⟨fun es out h => ?_, fun value hasked hunknown => ?_, fun order horder => ?_⟩
  · obtain ⟨name, domain, hchoose, hruns⟩ := runsUnder_of_run h
    obtain ⟨request, hrequest, hselect⟩ := bind_eq_ok.mp hchoose
    have hchosen := RuntimeClass.select_eq_ok.mp hselect
    have hasked := RuntimeClass.asked?_of_requested hrequest
    obtain ⟨own, hown, htrusted⟩ := hchosen.domainOf
    cases hruns.domain_eq.symm.trans hown
    refine ⟨name, domain, hruns, RuntimeClass.known_of_domainOf hown,
      fun htee => htrusted (needed_eq_tee.mpr htee), fun hnone => ?_, fun value hvalue => ?_,
      fun order horder es' out' h' => ?_⟩
    · rw [hasked, Option.map_eq_none_iff] at hnone
      subst hnone
      cases hchosen with
      | preferred hname =>
        refine ⟨fun htee => ?_, fun hvm => ?_⟩
        · rwa [needed_eq_tee.mpr htee] at hname
        · rwa [needed_eq_vm.mpr hvm] at hname
    · rw [hasked] at hvalue
      obtain ⟨text, rfl, rfl⟩ := Option.map_eq_some_iff.mp hvalue
      obtain ⟨own, hown, hkept, hlifted⟩ := hchosen.of_some
      rw [needed_eq_tee] at hkept hlifted
      exact ⟨text, own, rfl, hown, hkept, hlifted⟩
    · obtain ⟨name', domain', hchoose', hruns'⟩ := runsUnder_of_run h'
      rw [needed_of_perm horder, hchoose] at hchoose'
      cases hchoose'
      cases hruns.domain_eq.symm.trans hruns'.domain_eq
      exact hruns'
  · exact run_of_choose_eq_error (RuntimeClass.choose_of_not_known hasked hunknown)
  · rw [needed_of_perm horder]

/-- A configuration with a class that is in both lists. -/
def sharedClass : Config :=
  { teeRuntimeClassNames := ["kata-cc", "kata"], vmRuntimeClassNames := ["kata-qemu", "kata"] }

/-- A pair that needs a trusted execution environment. -/
def trustedPair : Pair := annotatedPair "trusted" [(runtimeKey, " TEE")]

/-- A pod that asks for a class, and has an annotation that names a domain. -/
def askingPod (name : String) : Json :=
  .obj [("metadata", .obj [("namespace", .str "default"),
      ("annotations", .obj [(runtimeKey, .str "vm")])]),
    ("spec", .obj [("runtimeClassName", .str name),
      ("containers", .arr [.obj [("name", .str "app"), ("image", .str "busybox")]])])]

theorem run_runtime_trustedPair :
    (∃ es out, (run sharedClass (askingPod "kata-qemu") [barePair, trustedPair]).Trace es (.ok out) ∧
      RuntimeClass.RunsUnder sharedClass out "kata-cc" .tee) ∧
    run sharedClass (askingPod "runc") [barePair, trustedPair] =
      .fail (.reported (.unsupportedRuntimeClass "runc")) := by
  have hneeds : NeedsTee [barePair, trustedPair] := ⟨trustedPair, by simp, by decide +kernel⟩
  have hrun : ((run sharedClass (askingPod "kata-qemu") [barePair, trustedPair]).run {}).1.isOk =
      true := by decide +kernel
  constructor
  · obtain ⟨out, htrace⟩ := Act.exists_trace_of_isOk hrun
    obtain ⟨name, domain, hruns, -, htee, -, hasked, -⟩ :=
      (run_runtime sharedClass (askingPod "kata-qemu") [barePair, trustedPair]).1 _ out htrace
    obtain ⟨request, own, hrequest, hown, -, hlifted⟩ := hasked (.str "kata-qemu") rfl
    cases hrequest
    have hvm : RuntimeClass.domainOf sharedClass "kata-qemu" = .ok .vm :=
      RuntimeClass.domainOf_eq_vm.mpr ⟨by decide, by decide⟩
    cases hvm.symm.trans hown
    obtain rfl : "kata-cc" = name := Option.some.inj (hlifted rfl hneeds)
    exact ⟨_, out, htrace, htee hneeds ▸ hruns⟩
  · have hunknown : ∀ name, Json.str "runc" = .str name → ¬RuntimeClass.Known sharedClass name := by
      rintro _ ⟨⟩
      exact not_or.mpr ⟨by decide, by decide⟩
    have hchecked : (checked sharedClass (askingPod "runc") [barePair, trustedPair]).isOk = true := by
      decide +kernel
    obtain ⟨f, hfail, hearlier | ⟨-, rfl⟩⟩ :=
      (run_runtime sharedClass (askingPod "runc") [barePair, trustedPair]).2.1 _ rfl hunknown
    · rw [hearlier] at hchecked
      cases hchecked
    · exact hfail

end Mutation

end SubpathCsi
