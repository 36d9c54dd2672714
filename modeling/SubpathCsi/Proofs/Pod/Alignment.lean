import SubpathCsi.Proofs.Pod.Standing
import SubpathCsi.Proofs.Pod.Tenancy
import SubpathCsi.Proofs.Sidecar.PostStart

/-!
# Sidecars and their volumes

The init container of a pod is told the names of the sidecars and those of the filesystems, and
takes it that they belong together in this order. Names are made unique, containers are put before
others, and later rounds come back to the containers of earlier ones; yet each name is that of one
container only, and this container connects to the filesystem of its pair, fills the volume of its
pair and knows how large that is.

* `Pair.Aligned`: a container that is the sidecar of a pair;
* `InitContainer.Shares`: the certificates that an init container shares with a sidecar;
* `Mutation.aligned_of_run`: the names that the init container is told are those of the sidecars of
  the pairs, in order.
-/

namespace SubpathCsi

open Pod (listed namesOf namesUnder isCalled seeing seeingIn mountPaths)

namespace Pod

/-- A mount lets through what is mounted into it. -/
def isBidirectional (mount : Json) : Bool :=
  (mount.get? "mountPropagation").bind Json.str? = some "Bidirectional"

/-- The command that runs after the start of a container. -/
def postStart? (container : Json) : Option Json := do
  let hooks ← container.get? "lifecycle"
  let hook ← hooks.get? "postStart"
  let exec ← hook.get? "exec"
  exec.get? "command"

end Pod

open Pod (isBidirectional)

/-! ### What a container says of itself -/

/-- The address of a filesystem at a metadata service, for a client that shows a certificate. -/
def metaAddress (service filesystem : String) : String :=
  "rediss://" ++ service ++ "/1" ++
    "?tls-cert-file=/etc/cfs/conf/certs/client.cert&tls-key-file=/etc/cfs/conf/certs/client.key" ++
    "&tls-ca-cert-file=/etc/cfs/conf/certs/ca&tls-server-name=" ++ filesystem

/-- The metadata service of a pair: for tests it may be configured, else it is that of the
filesystem. -/
structure Pair.IsServedBy (c : Config) (p : Pair) (service : String) : Prop where
  /-- The service that is configured for tests. -/
  test : c.testMode = true → c.testMetaUrl ≠ "" → service = c.testMetaUrl
  /-- The service of the filesystem. -/
  own : c.testMode = false ∨ c.testMetaUrl = "" → service = p.filesystem.metadataService

/-- A container of a pod is the sidecar of a pair, under a name and at a path. -/
structure Pair.Aligned (c : Config) (p : Pair) (name path : String) (pod container : Json) :
    Prop where
  /-- It is the only container with the name. -/
  sole : (listed pod "containers").filter (isCalled name) = [container]
  /-- No init container has the name. -/
  inits : (listed pod "initContainers").filter (isCalled name) = []
  /-- It is told to connect to the filesystem of the pair at its service, and nothing else. -/
  metaUrl : ∃ service, p.IsServedBy c service ∧ container.listAt "env" =
    [.obj [("name", .str "metaurl"), ("value", .str (metaAddress service p.filesystem.name))]]
  /-- Of its mounts, one lets through what is mounted into it: that of the volume of the pair. -/
  filled : (container.listAt "volumeMounts").filter isBidirectional =
    [(⟨p.volumeName, path⟩ : PodMount).toJson]
  /-- Its script is in the only volume with some name, which comes from the secret that is named for
  the claim of the pair. -/
  script : ∃ volume : String, ∃ mount ∈ container.listAt "volumeMounts",
    mount.get? "name" = some (.str volume) ∧
    mount.get? "mountPath" = some (.str c.checkMountScriptPath) ∧
    (listed pod "volumes").filter (isCalled volume) =
      [(⟨volume, .secret (p.claim.metadata.nameWord ++ "-secret") 0o755⟩ : PodVolume).toJson]
  /-- After its start, it sets the capacity that the claim asks for, in whole GiB, by a line of which
  the shell reads this among the first words. For tests the line is only shown. -/
  capacity : ∃ settings bytes line,
    (do wholePart (← quantity ((p.claim.requested? "storage").getD "0"))) = .ok bytes ∧
    p.prepare c = .ok (settings, bytes / 2 ^ 30) ∧ 1 ≤ bytes / 2 ^ 30 ∧
    Pod.postStart? container = some (Json.ofTexts
      (if c.testMode = true then ["sh", "-c", "echo \"" ++ line ++ "\""] else ["bash", "-c", line])) ∧
    line = { settings with mountPath := path }.checkMountLine c (bytes / 2 ^ 30) ∧
    Shell.Begins line ["time", "subpath=" ++ settings.subpath, "name=" ++ settings.name,
      "capacity=" ++ toString (bytes / 2 ^ 30)]

/-- An init container mounts one volume, for certificates: one that a container mounts for them as
well, and that lives in the memory of the pod. -/
def InitContainer.Shares (pod container init : Json) : Prop :=
  ∃ volume : String, init.listAt "volumeMounts" =
      [.obj [("name", .str volume), ("mountPath", .str confDir)]] ∧
    (∃ mount ∈ container.listAt "volumeMounts", mount.get? "name" = some (.str volume) ∧
      mount.get? "mountPath" = some (.str confDir)) ∧
    (listed pod "volumes").filter (isCalled volume) =
      [(⟨volume, .emptyDir "Memory" ""⟩ : PodVolume).toJson]

/-! ### Services and capacities -/

/-- What a sidecar is told to connect to. -/
theorem Pair.exists_service_metaUrl (c : Config) (p : Pair) :
    ∃ service, p.IsServedBy c service ∧ p.metaUrl c = metaAddress service p.filesystem.name := by
  refine ⟨p.metaService c, ⟨fun htest hurl => ?_, fun hown => ?_⟩, ?_⟩
  · simp [metaService, htest, hurl]
  · obtain htest | hurl := hown
    · simp [metaService, htest]
    · simp [metaService, hurl]
  · simp [metaUrl, metaAddress, String.append_assoc]

/-- The capacity that is prepared is what the claim asks for, in whole GiB. -/
theorem Pair.exists_bytes_of_prepare {c : Config} {p : Pair} {settings : MountSettings}
    {capacity : Int} (h : p.prepare c = .ok (settings, capacity)) : ∃ bytes,
      (do wholePart (← quantity ((p.claim.requested? "storage").getD "0"))) = .ok bytes ∧
      capacity = bytes / 2 ^ 30 ∧ 1 ≤ capacity := by
  obtain ⟨⟨attributes, options⟩, -, h⟩ := bind_eq_ok.mp h
  obtain ⟨settings', -, h⟩ := bind_eq_ok.mp h
  obtain ⟨capacity', hcapacity, h⟩ := bind_eq_ok.mp h
  cases h
  obtain ⟨d, hd, h⟩ := bind_eq_ok.mp hcapacity
  obtain ⟨bytes, hbytes, h⟩ := bind_eq_ok.mp h
  refine ⟨bytes, bind_eq_ok.mpr ⟨d, hd, hbytes⟩, ?_⟩
  split at h
  next =>
    obtain ⟨_, -, h⟩ := bind_eq_ok.mp h
    cases h
  next hlarge =>
    cases h
    have hgib : (0 : Int) < gib := by decide
    refine ⟨rfl, ?_⟩
    rw [Int.le_ediv_iff_mul_le hgib, one_mul]
    exact Int.not_lt.mp hlarge

/-! ### What the init container is told -/

/-- The script is not where the certificates are. -/
theorem Config.checkMountScriptPath_ne_confDir (c : Config) : c.checkMountScriptPath ≠ confDir := by
  intro h
  have hscript : c.checkMountScriptPath.toList.getLast? = some 'h' := by
    rw [checkMountScriptPath, String.toList_append]
    exact List.getLast?_append_of_ne_nil _ (by decide)
  rw [h] at hscript
  revert hscript
  decide

namespace InitContainer

variable {c : Config} {s : PodSummary} {spec pod pod' mount : Json} {name path : String}

theorem sharedMount_of_get? (hname : mount.get? "name" = some (.str name))
    (hpath : mount.get? "mountPath" = some (.str path)) :
    sharedMount mount = .ok (if path = confDir then
      some (.obj [("name", .str name), ("mountPath", .str path)]) else none) := by
  have hfind : mount.findD "mountPath" .null = .ok (.str path) :=
    Json.findD_eq_ok.mpr ⟨Json.isObject_of_get? hpath, by rw [hpath]; rfl⟩
  have hentry : mount.entry "name" = .ok (.str name) := Json.entry_eq_ok.mpr hname
  rw [sharedMount, hfind]
  change (if path = confDir then (do
    let name ← mount.entry "name"
    return some (Json.obj [("name", name), ("mountPath", .str path)])) else .ok none) = _
  rw [hentry]
  split <;> rfl

/-- What is found in a list does not depend on items for which there is nothing. -/
theorem firstOf_append_cons {f : Json → Except Failure (Option Json)} {before after : List Json}
    {x y : Json} {result : Option Json} (h : firstOf f (before ++ x :: after) = .ok result)
    (hbefore : ∀ b ∈ before, ∀ z, f b ≠ .ok (some z)) (hx : f x = .ok (some y)) :
    result = some y := by
  induction before with
  | nil =>
    rw [List.nil_append, firstOf, hx] at h
    cases h
    rfl
  | cons b before ih =>
    obtain ⟨hb, hbefore⟩ := List.forall_mem_cons.mp hbefore
    obtain ⟨found, hfound, h⟩ := bind_eq_ok.mp h
    cases found with
    | some z => exact absurd hfound (hb z)
    | none => exact ih h hbefore

/-- **Certificates.** What a sidecar shares is the mount of its volume for certificates: the first
of its mounts is that of the script, and this is the second. -/
theorem mountOf_sidecar {s : Sidecar} {script conf : String} {mounts : List VolumeMount}
    (hmounts : s.generatedMounts =
      Sidecar.scriptMount c script :: Sidecar.confMount conf :: mounts) (names : List Json) :
    mountOf s.name (seeingIn names s.container) =
      .ok (some (.obj [("name", .str conf), ("mountPath", .str confDir)])) := by
  have haltered := Pod.altered_seeingIn names s.container
  have hname : (seeingIn names s.container).entry "name" = .ok (.str s.name) :=
    Json.entry_eq_ok.mpr ((haltered.get?_eq _ (by decide)).trans rfl)
  obtain ⟨rest, hlist⟩ : ∃ rest, (seeingIn names s.container).listAt "volumeMounts" =
      seeing names (Sidecar.scriptMount c script).toJson ::
        seeing names (Sidecar.confMount conf).toJson :: rest := by
    rw [Pod.listAt_seeingIn, Sidecar.listAt_mounts, hmounts]
    exact ⟨_, rfl⟩
  have hget := Json.get?_of_listAt hlist (List.cons_ne_nil _ _)
  have hfind : (seeingIn names s.container).findD "volumeMounts" .null = .ok _ :=
    Json.findD_eq_ok.mpr ⟨Json.isObject_of_get? hget, congrArg (·.getD .null) hget⟩
  have hshared : ∀ m : VolumeMount, sharedMount (seeing names m.toJson) =
      .ok (if m.mountPath = confDir then
        some (.obj [("name", .str m.name), ("mountPath", .str m.mountPath)]) else none) := by
    intro m
    have hseen := Pod.altered_seeing names m.toJson
    exact sharedMount_of_get? (hseen.get?_eq _ (by decide)) (hseen.get?_eq _ (by decide))
  have hscript := hshared (Sidecar.scriptMount c script)
  have hconf := hshared (Sidecar.confMount conf)
  have helsewhere : (Sidecar.scriptMount c script).mountPath ≠ confDir :=
    c.checkMountScriptPath_ne_confDir
  have hthere : (Sidecar.confMount conf).mountPath = confDir := rfl
  rw [if_neg helsewhere] at hscript
  rw [if_pos hthere] at hconf
  rw [mountOf, hname]
  change (if s.name = s.name then (do
    let mounts ← (seeingIn names s.container).findD "volumeMounts" .null
    firstOf sharedMount (← mounts.each)) else .ok none) = _
  rw [if_pos rfl, hfind]
  change firstOf sharedMount (_ :: _ :: _) = _
  rw [firstOf, hscript]
  change firstOf sharedMount (_ :: _) = _
  rw [firstOf, hconf]
  rfl

/-- **The first sidecar** is the one that the init container shares a mount with. -/
theorem confMount_of_filter {sidecars : List String} {mount? : Option Json}
    {container shared : Json}
    (h : confMount (name :: sidecars) spec = .ok mount?) (hlists : Pod.Lists spec "containers")
    (hsole : (spec.listAt "containers").filter (isCalled name) = [container])
    (hshared : mountOf name container = .ok (some shared)) : mount? = some shared := by
  obtain ⟨items, hitems, h⟩ := bind_eq_ok.mp h
  rw [hlists items hitems] at h
  obtain ⟨before, after, hsplit, hbefore, -⟩ := List.filter_eq_cons_iff.mp hsole
  rw [hsplit] at h
  refine firstOf_append_cons h (fun b hb y hy => hbefore b hb ?_) hshared
  exact Pod.isCalled_iff.mpr (mountOf_eq_ok hy).1

/-- What the init container of a pod is told, and what it mounts. -/
theorem told_of_inject {incoming : Json} (h : inject c s incoming pod = .ok pod') :
    ∃ init mount? spec, listed pod' "initContainers" = init :: listed pod "initContainers" ∧
      value? "SIDECAR_CONTAINER_NAMES" init = some (.str (joined "," s.sidecars)) ∧
      value? "FILESYSTEM_NAMES" init = some (.str (joined "," s.filesystems)) ∧
      init.listAt "volumeMounts" = mount?.toList ∧
      pod.get? "spec" = some spec ∧ Pod.Lists spec "containers" ∧
      confMount s.sidecars spec = .ok mount? := by
  obtain ⟨images, -, h⟩ := bind_eq_ok.mp h
  obtain ⟨spec, spec', hspec, hadd, hspec', -⟩ := Pod.onSpec_eq_ok h
  obtain ⟨taken, htaken, hadd⟩ := bind_eq_ok.mp hadd
  obtain ⟨mount?, hmount, hadd⟩ := bind_eq_ok.mp hadd
  obtain ⟨others, hothers, hadd⟩ := bind_eq_ok.mp hadd
  obtain ⟨hlists, hinitLists, -⟩ := Pod.mem_of_containerNames htaken
  have hlisted := Json.listAt_assign hadd
  rw [hinitLists others hothers, ← Pod.listed_of_get? hspec, ← Pod.listed_of_get? hspec'] at hlisted
  have hvalue : ∀ name, value? name (.obj
      [("name", .str (uniqueName usualName taken 0)), ("image", .str c.initImage),
       ("env", .arr ((env c s images).map EnvVar.toJson)),
       ("volumeMounts", .arr mount?.toList)]) =
      (((env c s images).map EnvVar.toJson).find? fun v =>
        (v.get? "name").bind Json.str? = some name).bind (·.get? "value") := fun name => rfl
  refine ⟨_, mount?, spec, hlisted, ?_, ?_, rfl, hspec, hlists, hmount⟩
  · rw [hvalue]
    simp [env, EnvVar.toJson, Json.get?, Json.str?, Keyed.get?_cons]
  · rw [hvalue]
    simp [env, EnvVar.toJson, Json.get?, Json.str?, Keyed.get?_cons]

end InitContainer

/-! ### The sidecar of a round -/

namespace Mutation

variable {c : Config} {es found : List Exchange} {pod₀ pod out : Json} {pairs : List Pair}
  {r : Round} {names : List Json}

/-- A mount of a sidecar's own volume does not let through what is mounted into it. -/
theorem isBidirectional_seeing (names : List Json) (m : VolumeMount) :
    isBidirectional (seeing names m.toJson) = false := by
  rw [seeing]
  split
  · have hobject : m.toJson.IsObject := ⟨_, rfl⟩
    rw [isBidirectional, Json.get?_set hobject, if_pos rfl]
    rfl
  · cases hsub : m.subPath <;>
      simp [VolumeMount.toJson, hsub, isBidirectional, Json.get?, Keyed.get?_cons]

/-- A sidecar sees nothing more of the volume that it fills. -/
theorem seeing_podMount {m : PodMount} (h : ∀ name ∈ names, Json.same m.name name = false) :
    seeing names m.toJson = m.toJson := by
  have hname : (m.toJson.get? "name").getD .null = m.name := rfl
  have hnone : names.any (Json.same m.name) = false := by
    rw [List.any_eq_false]
    intro name hmem
    rw [h name hmem]
    exact Bool.false_ne_true
  rw [seeing, hname, hnone, if_neg Bool.false_ne_true]

/-- Of the mounts of a sidecar, that of its pair's volume is the only one that lets through what is
mounted into it, whatever else it sees. -/
theorem filter_isBidirectional {s : Sidecar} {m : PodMount} (hs : s.podMount = some m)
    (hnames : ∀ name ∈ names, Json.same m.name name = false) :
    ((seeingIn names s.container).listAt "volumeMounts").filter isBidirectional = [m.toJson] := by
  have hown : ((s.generatedMounts.map VolumeMount.toJson).map (seeing names)).filter
      isBidirectional = [] := by
    rw [List.filter_eq_nil_iff]
    intro mount hmount
    obtain ⟨old, hold, rfl⟩ := List.mem_map.mp hmount
    obtain ⟨m, -, rfl⟩ := List.mem_map.mp hold
    rw [isBidirectional_seeing]
    exact Bool.false_ne_true
  have hlast : ((s.podMount.map PodMount.toJson).toList.map (seeing names)).filter
      isBidirectional = [m.toJson] := by
    rw [hs, Option.map_some, Option.toList_some, List.map_singleton, seeing_podMount hnames]
    rfl
  rw [Pod.listAt_seeingIn, Sidecar.listAt_mounts, List.map_append, List.filter_append, hown, hlast,
    List.nil_append]

/-- What a container sees makes no difference to where its volumes are mounted. -/
theorem exists_mount_seeingIn (names : List Json) {s : Sidecar} {m : VolumeMount}
    (hm : m ∈ s.generatedMounts) :
    ∃ mount ∈ (seeingIn names s.container).listAt "volumeMounts",
      mount.get? "name" = some (.str m.name) ∧
      mount.get? "mountPath" = some (.str m.mountPath) := by
  have haltered := Pod.altered_seeing names m.toJson
  refine ⟨seeing names m.toJson, ?_, haltered.get?_eq _ (by decide),
    haltered.get?_eq _ (by decide)⟩
  rw [Pod.listAt_seeingIn, Sidecar.listAt_mounts]
  exact List.mem_map_of_mem (List.mem_append_left _ (List.mem_map_of_mem hm))

/-- **A sidecar that stands** and has what it needs is that of its pair. -/
theorem Round.Stands.aligned (h : r.Stands pod)
    (hequipped : r.sidecar.Equipped c r.pair r.settings r.capacity r.path)
    (hprepared : r.pair.prepare c = .ok (r.settings, r.capacity))
    (hpresent : r.pair.volumeName.isPresent = true) :
    ∃ names, r.pair.Aligned c r.sidecar.name r.path pod (seeingIn names r.sidecar.container) := by
  obtain ⟨names, hnames, hsole⟩ := h.container
  obtain ⟨script, conf, volumes, mounts, hvolumes, hmounts⟩ := hequipped.own
  obtain ⟨bytes, hbytes, hcapacity, hpositive⟩ := Pair.exists_bytes_of_prepare hprepared
  have hpodMount := hequipped.podMount
  have hpostStart := hequipped.postStart
  rw [if_pos hpresent] at hpodMount
  rw [hcapacity] at hprepared hpositive hpostStart
  have haltered := Pod.altered_seeingIn names r.sidecar.container
  have henv : (seeingIn names r.sidecar.container).listAt "env" =
      r.sidecar.env.map EnvVar.toJson := haltered.listAt_eq (by decide)
  have hhooks : (seeingIn names r.sidecar.container).get? "lifecycle" =
      r.sidecar.container.get? "lifecycle" := haltered.get?_eq _ (by decide)
  obtain ⟨service, hservice, hurl⟩ := r.pair.exists_service_metaUrl c
  refine ⟨names, hsole, h.inits, ⟨service, hservice, ?_⟩, filter_isBidirectional hpodMount hnames, ?_,
    r.settings, bytes, _, hbytes, hprepared, hpositive, ?_, rfl,
    MountSettings.begins_checkMountLine c _ _⟩
  · rw [henv, hequipped.env, hurl]
    rfl
  · have hscript : (⟨script, .secret r.pair.secretName 0o755⟩ : PodVolume) ∈ r.sidecar.volumes := by
      rw [hvolumes]
      exact .head _
    have hmount : Sidecar.scriptMount c script ∈ r.sidecar.generatedMounts := by
      rw [hmounts]
      exact .head _
    obtain ⟨mount, hmount, hname, hpath⟩ := exists_mount_seeingIn names hmount
    exact ⟨script, mount, hmount, hname, hpath, h.volumes _ hscript rfl⟩
  · rw [Pod.postStart?, hhooks]
    change some (Json.ofTexts r.sidecar.postStart) = _
    rw [hpostStart]
    rfl

/-- The init container shares the certificates of a sidecar that stands and has what it needs, if it
looks for that sidecar first. -/
theorem Round.Stands.shares {rest : List String} {spec container init : Json} {mount? : Option Json}
    (h : r.Stands pod) (hequipped : r.sidecar.Equipped c r.pair r.settings r.capacity r.path)
    (hconf : InitContainer.confMount (r.sidecar.name :: rest) spec = .ok mount?)
    (hlists : Pod.Lists spec "containers")
    (hlisted : spec.listAt "containers" = listed pod "containers")
    (hsole : (listed pod "containers").filter (isCalled r.sidecar.name) = [container])
    (hinit : init.listAt "volumeMounts" = mount?.toList) :
    InitContainer.Shares pod container init := by
  obtain ⟨names, -, hcontainer⟩ := h.container
  obtain ⟨script, conf, volumes, mounts, hvolumes, hmounts⟩ := hequipped.own
  cases hsole.symm.trans hcontainer
  have hvolume : (⟨conf, .emptyDir "Memory" ""⟩ : PodVolume) ∈ r.sidecar.volumes := by
    rw [hvolumes]
    exact .tail _ (.head _)
  have hmount : Sidecar.confMount conf ∈ r.sidecar.generatedMounts := by
    rw [hmounts]
    exact .tail _ (.head _)
  rw [← hlisted] at hsole
  rw [InitContainer.confMount_of_filter hconf hlists hsole
    (InitContainer.mountOf_sidecar hmounts names)] at hinit
  exact ⟨conf, hinit, exists_mount_seeingIn names hmount, h.volumes _ hvolume rfl⟩

/-! ### The whole run -/

theorem equipped_of_rounds {rounds : List Round} (h : Rounds c pod₀ rounds pod) :
    ∀ r ∈ rounds, r.sidecar.Equipped c r.pair r.settings r.capacity r.path := by
  induction h with
  | bare => exact List.forall_mem_nil _
  | more r _ hr ih =>
    exact List.forall_mem_append.mpr ⟨ih, List.forall_mem_singleton.mpr hr.equipped⟩

/-- A sidecar that stands in a pod still does when the pod has a runtime class and an init container
with a name that is free. -/
theorem Round.Stands.started {mid init : Json} {name : String} (h : r.Stands pod)
    (hmid : ∀ key, key ≠ "runtimeClassName" → listed mid key = listed pod key)
    (hout : ∀ key, key ≠ "initContainers" → listed out key = listed mid key)
    (hinits : listed out "initContainers" = init :: listed mid "initContainers")
    (hname : init.get? "name" = some (.str name))
    (hfree : .str name ∉ namesUnder mid "containers" ++ namesUnder mid "initContainers") :
    r.Stands out := by
  have hcontainers : listed out "containers" = listed pod "containers" :=
    (hout _ (by decide)).trans (hmid _ (by decide))
  have hvolumes : listed out "volumes" = listed pod "volumes" :=
    (hout _ (by decide)).trans (hmid _ (by decide))
  obtain ⟨names, hnames, hsole⟩ := h.container
  have hother : isCalled r.sidecar.name init = false := by
    rw [List.mem_append, not_or, namesUnder, hmid _ (by decide)] at hfree
    exact Pod.isCalled_eq_false hname hfree.1 (Pod.mem_namesOf_of_filter hsole)
  constructor
  · exact ⟨names, hnames, by rw [hcontainers, hsole]⟩
  · rw [hinits, List.filter_cons, hother, if_neg Bool.false_ne_true, hmid _ (by decide), h.inits]
  · rw [hvolumes]
    exact h.volumes
  · rw [namesUnder, hvolumes]
    exact h.filled

/-- **Sidecars and their volumes.** For each pair of a pod whose volumes have different names, none
of them empty, the init container is told the name of the pair's filesystem and, at the same place,
the name of one container only, which is the sidecar of the pair. The paths of the sidecars are
drawn, are pairwise different and are no paths of mounts of the pod. The init container mounts the
certificates of the first sidecar. -/
theorem aligned_of_run (hvolumes : (namesUnder pod "volumes").Nodup)
    (hpresent : ∀ name ∈ namesUnder pod "volumes", name.isPresent = true)
    (hpairs : (Pair.ofPod c pod).Trace found (.ok pairs)) (hnames : ∀ e ∈ found, e.namesClaim)
    (h : (run c pod pairs).Trace es (.ok out)) :
    ∃ (init : Json) (names filesystems paths : List String),
      listed out "initContainers" = init :: listed pod "initContainers" ∧
      InitContainer.value? "SIDECAR_CONTAINER_NAMES" init = some (.str (joined "," names)) ∧
      InitContainer.value? "FILESYSTEM_NAMES" init = some (.str (joined "," filesystems)) ∧
      names.length = pairs.length ∧ filesystems.length = pairs.length ∧
      paths.length = pairs.length ∧ paths.Nodup ∧
      (∀ path ∈ paths, MountPath.IsDrawn c.podMountBase path ∧ .str path ∉ mountPaths pod) ∧
      ∀ i p, pairs[i]? = some p → ∃ name path container,
        names[i]? = some name ∧ filesystems[i]? = some p.filesystem.name ∧
        paths[i]? = some path ∧ p.Aligned c name path out container ∧
        (i = 0 → InitContainer.Shares out container init) := by
  have howns : ∀ p ∈ pairs, p.Owns pod := fun p hp => Pair.owns_of_ofPod hpairs hnames hvolumes hp
  obtain ⟨rounds, dressed, mid, signer, runtimeClass, hrounds, rfl, hprepared, hclass, hinit⟩ :=
    rounds_of_run h
  have hown : ∀ r ∈ rounds, r.pair.Owns pod := fun r hr => howns r.pair (List.mem_map_of_mem hr)
  have hnamed : ∀ r ∈ rounds, r.pair.volumeName.isPresent = true :=
    fun r hr => hpresent _ (hown r hr).mem
  have hstarted := InitContainer.started_of_inject hinit
  obtain ⟨init, name, hinits, hname, hfree, -⟩ := hstarted.container
  obtain ⟨init', mount?, spec, hinits', hsidecars, hfilesystems, hmounts, hspec, hlists, hconf⟩ :=
    InitContainer.told_of_inject hinit
  cases hinits.symm.trans hinits'
  have hmid : ∀ key, key ≠ "runtimeClassName" → listed mid key = listed dressed key :=
    fun key hkey => RuntimeClass.listed_of_inject hclass hkey
  have hout : ∀ key, key ≠ "initContainers" → listed out key = listed mid key :=
    fun key hkey => hstarted.listed_eq hkey
  have hstands : ∀ r ∈ rounds, r.Stands out := fun r hr =>
    (stands_of_rounds hrounds hown r hr).started hmid hout hinits hname hfree
  have hequipped := equipped_of_rounds hrounds
  obtain ⟨hnodup, hdrawn⟩ := paths_of_rounds hrounds hnamed
  refine ⟨init, rounds.map (·.sidecar.name), (rounds.map (·.pair)).map (·.filesystem.name),
    rounds.map (·.path), ?_, hsidecars, hfilesystems, by simp, by simp, by simp, hnodup, ?_, ?_⟩
  · rw [hinits, hmid _ (by decide), hrounds.dressed.listed_inits]
  · intro path hpath
    obtain ⟨r, hr, rfl⟩ := List.mem_map.mp hpath
    exact hdrawn r hr
  · intro i p hp
    obtain ⟨r, hr, rfl⟩ : ∃ r, rounds[i]? = some r ∧ r.pair = p := by
      rw [List.getElem?_map] at hp
      exact Option.map_eq_some_iff.mp hp
    have hmem := List.mem_of_getElem? hr
    obtain ⟨names, haligned⟩ :=
      (hstands r hmem).aligned (hequipped r hmem) (hprepared r hmem) (hnamed r hmem)
    refine ⟨r.sidecar.name, r.path, _, ?_, ?_, ?_, haligned, ?_⟩
    · rw [List.getElem?_map, hr, Option.map_some]
    · rw [List.getElem?_map, hp, Option.map_some]
    · rw [List.getElem?_map, hr, Option.map_some]
    · rintro rfl
      -- the first sidecar is the one that the init container looks for
      obtain ⟨rest, hrest⟩ : ∃ rest, rounds = r :: rest := by
        cases rounds with
        | nil => cases hr
        | cons r₁ rest =>
          cases hr
          exact ⟨rest, rfl⟩
      rw [hrest, List.map_cons] at hconf
      have hlisted : spec.listAt "containers" = listed out "containers" := by
        rw [hout _ (by decide), Pod.listed_of_get? hspec]
      exact (hstands r hmem).shares (hequipped r hmem) hconf hlists hlisted haligned.sole hmounts

theorem trace_crowdedPairs : (Pair.ofPod {} crowdedPod).Trace
    ((Pair.ofPod {} crowdedPod).exchanges { cluster := crowdedCluster }) (.ok crowdedPairs) := by
  have htrace := (Pair.ofPod {} crowdedPod).trace_run { cluster := crowdedCluster }
  have hfound : ((Pair.ofPod {} crowdedPod).run { cluster := crowdedCluster }).1.isOk = true := by
    decide +kernel
  cases hend : ((Pair.ofPod {} crowdedPod).run { cluster := crowdedCluster }).1 with
  | error f =>
    rw [hend] at hfound
    cases hfound
  | ok pairs =>
    have heq : crowdedPairs = pairs := by
      rw [crowdedPairs, hend]
      rfl
    rwa [hend, ← heq] at htrace

theorem aligned_of_run_crowdedPod :
    (namesUnder crowdedPod "volumes").Nodup ∧
    (∀ name ∈ namesUnder crowdedPod "volumes", name.isPresent = true) ∧
    crowdedPairs.length = 2 ∧
    ∃ found, (Pair.ofPod {} crowdedPod).Trace found (.ok crowdedPairs) ∧
      (∀ e ∈ found, e.namesClaim) ∧
      ∃ es out, (run {} crowdedPod crowdedPairs).Trace es (.ok out) ∧
        ∃ (init : Json) (names filesystems paths : List String),
          listed out "initContainers" = init :: listed crowdedPod "initContainers" ∧
          InitContainer.value? "SIDECAR_CONTAINER_NAMES" init = some (.str (joined "," names)) ∧
          InitContainer.value? "FILESYSTEM_NAMES" init = some (.str (joined "," filesystems)) ∧
          names.length = crowdedPairs.length ∧ filesystems.length = crowdedPairs.length ∧
          paths.length = crowdedPairs.length ∧ paths.Nodup ∧
          (∀ path ∈ paths, MountPath.IsDrawn ({} : Config).podMountBase path ∧
            .str path ∉ mountPaths crowdedPod) ∧
          ∀ i p, crowdedPairs[i]? = some p → ∃ name path container,
            names[i]? = some name ∧ filesystems[i]? = some p.filesystem.name ∧
            paths[i]? = some path ∧ p.Aligned {} name path out container ∧
            (i = 0 → InitContainer.Shares out container init) := by
  have hvolumes := distinctNames_crowdedPod.volumes
  have hpresent : ∀ name ∈ namesUnder crowdedPod "volumes", name.isPresent = true := by
    have hnames : namesUnder crowdedPod "volumes" =
      [.str "cfs-conf", .str "cfs-mount-1-cfs-conf"] := rfl
    rw [hnames]
    exact List.forall_mem_cons.mpr ⟨by decide, List.forall_mem_singleton.mpr (by decide)⟩
  have hclaims : ∀ e ∈ (Pair.ofPod {} crowdedPod).exchanges { cluster := crowdedCluster },
      e.namesClaim := fun e he => Exchange.namesClaim_of_mem_exchanges (by decide) he
  have hrun : ((run {} crowdedPod crowdedPairs).run { cluster := crowdedCluster }).1.isOk =
      true := by decide +kernel
  obtain ⟨out, htrace⟩ := Act.exists_trace_of_isOk hrun
  exact ⟨hvolumes, hpresent, by decide +kernel, _, trace_crowdedPairs, hclaims, _, out, htrace,
    aligned_of_run hvolumes hpresent trace_crowdedPairs hclaims htrace⟩

end Mutation

end SubpathCsi
