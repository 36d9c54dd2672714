import SubpathCsi.Proofs.Act.Run
import SubpathCsi.Proofs.Volume.Deletion

/-!
# The last removal

Volumes that share a subpath are removed one after another, in any order, each of them dropped by
the API server before the next. The subpath outlives all of them but the last.

* `Act.eq_of_listing_mem`, `Act.eq_of_lookup_mem`: what a faultless API server hands out;
* `Volume.SharedBy`: some volumes share a subpath, and no other live volume lies there; this holds
  of the others when one of them is dropped (`Volume.SharedBy.drop`);
* `Volume.removals_removeEach`: only the last removal asks a manager, and it asks once.
-/

namespace SubpathCsi

/-! ### A faultless API server -/

namespace Act

variable {α : Type} {w : Remote}

theorem eq_of_listing_mem {a : Act α} {x : Except ApiFault (List Volume)} (hw : w.faults = [])
    (he : listing c x ∈ a.exchanges w) : x = .ok w.cluster.volumes := by
  obtain ⟨w', hw', hfaults, hreply⟩ := reply_of_mem_exchanges he
  change x = _ at hreply
  rw [hreply, ← hw'.volumes]
  exact congrArg Prod.fst (Remote.answer_api (hfaults hw) _ _)

theorem eq_of_lookup_mem {a : Act α} {name : String} {y : Except ApiFault Json}
    (hw : w.faults = []) (he : lookup c name y ∈ a.exchanges w) :
    y = Cluster.found (w.cluster.descriptor? (.str name)) := by
  obtain ⟨w', hw', hfaults, hreply⟩ := reply_of_mem_exchanges he
  change y = _ at hreply
  rw [hreply, Cluster.descriptor?, ← hw'.descriptors]
  exact congrArg Prod.fst (Remote.answer_api (hfaults hw) _ _)

end Act

namespace Volume

/-! ### Volumes that share a subpath -/

/-- The volume is live, is to be removed with its claim, lies where a path pattern says, and its
filesystem stands. -/
structure Removable (k : Cluster) (v : Volume) : Prop where
  /-- Its policy is removal. -/
  policy : v.reclaimPolicy = some reclaimDelete
  /-- It has a source. -/
  csi : v.csi ≠ none
  /-- It is bound to a claim. -/
  claim : v.claimRef ≠ none
  /-- It has a path pattern. -/
  pattern : ∃ text, v.pathPattern? = some text ∧ text ≠ ""
  /-- It is live. -/
  live : v.metadata.isLive = true
  /-- Its descriptor is there, and is that of a filesystem neither gone nor going. -/
  filesystem : ∃ name, filled? v.attributes descriptorKey = some name ∧
    isStanding (Cluster.found (k.descriptor? (.str name))) = true

/-- Whether a volume is removable depends on the descriptors alone. -/
theorem Removable.congr {k k' : Cluster} {v : Volume} (h : v.Removable k)
    (hdescriptors : k'.descriptors = k.descriptors) : v.Removable k' := by
  obtain ⟨hpolicy, hcsi, hclaim, hpattern, hlive, name, hname, hstanding⟩ := h
  refine ⟨hpolicy, hcsi, hclaim, hpattern, hlive, name, hname, ?_⟩
  rwa [Cluster.descriptor?, hdescriptors]

/-- The volumes `vs` of a cluster share the subpath `s` of a class: all of them lie there, and no
other live volume does. -/
structure SharedBy (k : Cluster) (class? : Option String) (s : String) (vs : List Volume) :
    Prop where
  /-- No two have one name. -/
  names : (vs.map (·.name)).Nodup
  /-- The cluster holds them. -/
  held : ∀ v ∈ vs, v ∈ k.volumes
  /-- All can be removed. -/
  removable : ∀ v ∈ vs, v.Removable k
  /-- All are of the class. -/
  ofClass : ∀ v ∈ vs, v.storageClassName = class?
  /-- All lie at the subpath. -/
  atSubpath : ∀ v ∈ vs, v.subpath = s
  /-- No other live volume does. -/
  only : ∀ u ∈ k.volumes, u.metadata.isLive = true → u.storageClassName = class? →
    u.subpath = s → u.name ∈ vs.map (·.name)

section SharedBy

variable {k : Cluster} {class? : Option String} {s : String} {vs : List Volume}

/-- The order of the volumes does not matter. -/
theorem SharedBy.perm {order : List Volume} (h : SharedBy k class? s vs)
    (horder : order.Perm vs) : SharedBy k class? s order where
  names := (horder.map _).nodup_iff.mpr h.names
  held v hv := h.held v (horder.mem_iff.mp hv)
  removable v hv := h.removable v (horder.mem_iff.mp hv)
  ofClass v hv := h.ofClass v (horder.mem_iff.mp hv)
  atSubpath v hv := h.atSubpath v (horder.mem_iff.mp hv)
  only u hu hlive hclass hsubpath :=
    (horder.map _).mem_iff.mpr (h.only u hu hlive hclass hsubpath)

/-- Nothing but the volumes and the descriptors matters. -/
theorem SharedBy.congr {k' : Cluster} (h : SharedBy k class? s vs)
    (hvolumes : k'.volumes = k.volumes) (hdescriptors : k'.descriptors = k.descriptors) :
    SharedBy k' class? s vs where
  names := h.names
  held v hv := hvolumes ▸ h.held v hv
  removable v hv := (h.removable v hv).congr hdescriptors
  ofClass := h.ofClass
  atSubpath := h.atSubpath
  only u hu := h.only u (hvolumes ▸ hu)

/-- When one of the volumes is dropped, the others share the subpath. -/
theorem SharedBy.drop {k' : Cluster} (h : SharedBy k class? s (v :: vs))
    (hvolumes : k'.volumes = k.volumes) (hdescriptors : k'.descriptors = k.descriptors) :
    SharedBy (k'.dropVolume v.name) class? s vs := by
  obtain ⟨hfresh, hnames⟩ := List.nodup_cons.mp h.names
  have hheld : ∀ {u}, u ∈ (k'.dropVolume v.name).volumes ↔ u ∈ k.volumes ∧ u.name ≠ v.name := by
    intro u
    rw [← hvolumes]
    simp only [Cluster.dropVolume, List.mem_filter, decide_eq_true_eq]
  refine ⟨hnames, ?_, ?_, ?_, ?_, ?_⟩
  · intro u hu
    exact hheld.mpr ⟨h.held u (.tail _ hu), fun he => hfresh (List.mem_map.mpr ⟨u, hu, he⟩)⟩
  · -- dropping a volume leaves the descriptors alone
    exact fun u hu => (h.removable u (.tail _ hu)).congr hdescriptors
  · exact fun u hu => h.ofClass u (.tail _ hu)
  · exact fun u hu => h.atSubpath u (.tail _ hu)
  · intro u hu hlive hclass hsubpath
    obtain ⟨hu, hne⟩ := hheld.mp hu
    obtain he | hmem := List.mem_cons.mp (h.only u hu hlive hclass hsubpath)
    · exact absurd he hne
    · exact hmem

/-- Of two volumes that share the subpath, neither may take it along. -/
theorem SharedBy.mayDeleteSubpath_cons {u : Volume} (h : SharedBy k class? s (v :: u :: vs)) :
    mayDeleteSubpath k.volumes v v.pathPattern? = false := by
  have hu : u ∈ v :: u :: vs := .tail _ (.head _)
  have hname : u.name ≠ v.name := fun he =>
    (List.nodup_cons.mp h.names).1 (List.mem_map.mpr ⟨u, .head _, he⟩)
  refine mayDeleteSubpath_eq_false.mpr ⟨(h.removable v (.head _)).pattern, u, h.held u hu, ?_⟩
  refine sharesSubpath_iff.mpr ⟨hname, (h.removable u hu).live, ?_, ?_⟩
  · rw [h.ofClass u hu, h.ofClass v (.head _)]
  · rw [h.atSubpath u hu, h.atSubpath v (.head _)]

/-- The only volume at the subpath may take it along. -/
theorem SharedBy.mayDeleteSubpath_singleton (h : SharedBy k class? s [v]) :
    mayDeleteSubpath k.volumes v v.pathPattern? = true := by
  refine Bool.not_eq_false _ ▸ fun hmay => ?_
  obtain ⟨-, u, hu, hshares⟩ := mayDeleteSubpath_eq_false.mp hmay
  obtain ⟨hname, hlive, hclass, hsubpath⟩ := sharesSubpath_iff.mp hshares
  have hmem := h.only u hu hlive (hclass.trans (h.ofClass v (.head _)))
    (hsubpath.trans (h.atSubpath v (.head _)))
  exact hname (List.mem_singleton.mp hmem)

/-! ### One removal -/

variable {w : Remote}

/-- While another volume shares the subpath, its removal removes nothing. -/
theorem SharedBy.removals_eq_nil {u : Volume} (h : SharedBy w.cluster class? s (v :: u :: vs))
    (hw : w.faults = []) : removals ((v.delete c).exchanges w) = [] := by
  refine List.eq_nil_iff_forall_not_mem.mpr fun e he => ?_
  obtain ⟨-, listed, hlisted, hmay⟩ := (course_of_trace (Act.trace_run _ w)).removes he
  -- what was listed are the volumes of the cluster, the other one among them
  cases Act.eq_of_listing_mem hw hlisted
  rw [h.mayDeleteSubpath_cons] at hmay
  cases hmay

/-- The removal of the only volume at a subpath asks a manager once. -/
theorem SharedBy.removals_eq_singleton (h : SharedBy w.cluster class? s [v]) (hw : w.faults = [])
    (hobliging : ∀ e ∈ (v.delete c).exchanges w, e.isObliging = true) :
    ∃ e, removals ((v.delete c).exchanges w) = [e] ∧ e.request.Removes s := by
  obtain ⟨hpolicy, hcsi, hclaim, -, -, name, hname, hstanding⟩ := h.removable v (.head _)
  obtain ⟨source, hcsi⟩ := Option.ne_none_iff_exists'.mp hcsi
  obtain ⟨ref, hclaim⟩ := Option.ne_none_iff_exists'.mp hclaim
  have hlisted : ∀ x, listing c x ∈ (v.delete c).exchanges w →
      ∃ vs, x = .ok vs ∧ mayDeleteSubpath vs v v.pathPattern? = true :=
    fun x hx => ⟨_, Act.eq_of_listing_mem hw hx, h.mayDeleteSubpath_singleton⟩
  have hread : ∀ y, lookup c name y ∈ (v.delete c).exchanges w → isStanding y = true := by
    intro y hy
    rwa [Act.eq_of_lookup_mem hw hy]
  rw [← h.atSubpath v (.head _)]
  exact (course_of_trace (Act.trace_run _ w)).removes_once hpolicy hcsi hclaim hname hlisted hread
    hobliging

end SharedBy

/-! ### All removals -/

/-- The remote ends after the removal of a volume, which the API server then drops. -/
def afterRemoval (c : Config) (v : Volume) (w : Remote) : Remote :=
  let after := ((v.delete c).run w).2
  { after with cluster := after.cluster.dropVolume v.name }

/-- Removes volumes one after another, each of them dropped before the next. The exchanges of each
removal are told apart. -/
def removeEach (c : Config) : List Volume → Remote → List (List Exchange)
  | [], _ => []
  | v :: vs, w => (v.delete c).exchanges w :: removeEach c vs (v.afterRemoval c w)

/-- **Last one out.** Volumes that share a subpath are removed one after another, in any order, with
obliging services and no faults of the API server. Only the last removal asks a filesystem manager;
it asks once, and for the subpath. -/
theorem removals_removeEach {w : Remote} {class? : Option String} {s : String}
    {vs order : List Volume} (hshared : SharedBy w.cluster class? s vs) (hne : vs ≠ [])
    (horder : order.Perm vs) (hw : w.faults = [])
    (hobliging : ∀ es ∈ removeEach c order w, ∀ e ∈ es, e.isObliging = true) :
    ∃ earlier last e, removeEach c order w = earlier ++ [last] ∧
      (∀ es ∈ earlier, removals es = []) ∧ removals last = [e] ∧ e.request.Removes s := by
  -- the order is a list of its own from here on, which the induction takes apart
  replace hshared := hshared.perm horder
  replace hne : order ≠ [] := fun he => hne (by rw [he] at horder; exact horder.nil_eq.symm)
  clear horder vs
  induction order generalizing w with
  | nil => exact absurd rfl hne
  | cons v vs ih =>
    have hsteady := Act.steady_run (v.delete c) hw
    cases vs with
    | nil =>
      obtain ⟨e, hone, hremoves⟩ := hshared.removals_eq_singleton hw (hobliging _ (.head _))
      refine ⟨[], _, e, rfl, ?_, hone, hremoves⟩
      rintro es ⟨⟩
    | cons u vs =>
      -- the next one still shares the subpath: nothing is removed, and the others go on
      have hrest : SharedBy (v.afterRemoval c w).cluster class? s (u :: vs) :=
        hshared.drop hsteady.holds.volumes hsteady.holds.descriptors
      obtain ⟨earlier, last, e, hcalls, hearlier, hone, hremoves⟩ :=
        @ih (v.afterRemoval c w) hsteady.faults (fun es he => hobliging es (.tail _ he)) hrest
          (List.cons_ne_nil _ _)
      refine ⟨(v.delete c).exchanges w :: earlier, last, e, ?_, ?_, hone, hremoves⟩
      · rw [removeEach, hcalls, List.cons_append]
      · rintro es (_ | ⟨_, he⟩)
        · exact hshared.removals_eq_nil hw
        · exact hearlier es he

/-- A volume at a subpath that all volumes of its class share. -/
def teamVolume (name : String) : Volume where
  metadata := { name }
  csi := some {
    driver := "csi.cfs.confidentialfilesystems.com"
    volumeHandle := name
    volumeAttributes := some
      [(subpathKey, "team"), (pathPatternKey, "team"), (descriptorKey, "shared-fs")] }
  claimRef := some { name := some ("claim-of-" ++ name), space := some "default" }
  reclaimPolicy := some reclaimDelete
  storageClassName := some "cfs"

/-- Two volumes that share a subpath. -/
def teamVolumes : List Volume := [teamVolume "pv-1", teamVolume "pv-2"]

/-- Remote ends that hold both of them, and their filesystem. -/
def teamRemote : Remote := { cluster := { volumes := teamVolumes, descriptors := [sharedFs] } }

theorem sharedBy_teamVolumes :
    SharedBy teamRemote.cluster (some "cfs") "team" teamVolumes := by
  have hpattern : ∀ v ∈ teamVolumes, v.pathPattern? = some "team" := by decide +kernel
  have hname : ∀ v ∈ teamVolumes, filled? v.attributes descriptorKey = some "shared-fs" := by
    decide +kernel
  have hstanding : isStanding (Cluster.found
      (teamRemote.cluster.descriptor? (.str "shared-fs"))) = true := by decide +kernel
  refine ⟨by decide, fun v hv => hv, fun v hv => ?_, by decide +kernel, by decide +kernel,
    fun u hu _ _ _ => List.mem_map_of_mem hu⟩
  refine ⟨?_, ?_, ?_, ⟨"team", hpattern v hv, by decide⟩, ?_, "shared-fs", hname v hv, hstanding⟩
  all_goals obtain _ | ⟨_, _ | ⟨_, ⟨⟩⟩⟩ := hv
  all_goals first | rfl | exact nofun

theorem removals_removeEach_teamVolumes :
    SharedBy teamRemote.cluster (some "cfs") "team" teamVolumes ∧
      (∀ es ∈ removeEach {} teamVolumes.reverse teamRemote, ∀ e ∈ es, e.isObliging = true) ∧
      ∃ earlier last e, removeEach {} teamVolumes.reverse teamRemote = earlier ++ [last] ∧
        (∀ es ∈ earlier, removals es = []) ∧ removals last = [e] ∧ e.request.Removes "team" := by
  have hobliging : ∀ es ∈ removeEach {} teamVolumes.reverse teamRemote,
      ∀ e ∈ es, e.isObliging = true := by decide +kernel
  exact ⟨sharedBy_teamVolumes, hobliging,
    removals_removeEach sharedBy_teamVolumes (List.cons_ne_nil _ _)
    (List.reverse_perm teamVolumes) rfl hobliging⟩

end Volume

end SubpathCsi
