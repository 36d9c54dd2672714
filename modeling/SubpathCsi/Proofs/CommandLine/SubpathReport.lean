import Mathlib.Data.List.Basic
import SubpathCsi.CommandLine.Commands
import SubpathCsi.Proofs.Calls
import SubpathCsi.Proofs.Volume.LastRemoval

/-!
# What is said of shared subpaths

The command that shows the subpath of a volume tells whether it may be removed, and lists the
volumes that share it. The one is what a removal goes by; the other is gathered anew, and looks
closer: it lists only volumes whose attributes name the subpath. A volume that gives none lies at
the empty subpath. It keeps that subpath from being removed all the same, and is not listed.

* `Volume.keeps_iff`: removals that keep the subpath for the volumes that they list;
* `Command.run_subpathRefs`: what the command prints;
* `Command.keptLine_mem_iff`, `Command.exists_liveLine_iff`: what the lines say;
* `Command.subpathRefs_agrees_iff`: when the list accounts for the subpath that is kept.
-/

namespace SubpathCsi

variable {c : Config} {v u : Volume} {vs : List Volume} {w : Remote} {name : String}

namespace Volume

/-! ### Removals -/

/-- A removal lists the volumes, and with this it is done. -/
def Keeps (c : Config) (w : Remote) (v : Volume) : Prop :=
  (v.delete c).exchanges w = [listing c (.ok w.cluster.volumes)] ∧ ((v.delete c).run w).1 = .ok ()

/-- Without faults, a removal ends with the list exactly if the volumes do not permit it. -/
theorem keeps_iff (hw : w.faults = []) (hpolicy : v.reclaimPolicy = some reclaimDelete)
    (hcsi : v.csi ≠ none) :
    v.Keeps c w ↔ mayDeleteSubpath w.cluster.volumes v v.pathPattern? = false := by
  rw [Keeps]
  have hcourse := course_of_trace (Act.trace_run (v.delete c) w)
  have hlisted : ∀ x, listing c x ∈ (v.delete c).exchanges w → x = .ok w.cluster.volumes :=
    fun x hx => Act.eq_of_listing_mem hw hx
  generalize (v.delete c).exchanges w = es at hcourse hlisted
  generalize ((v.delete c).run w).1 = o at hcourse
  cases hcourse with
  | retained hother => exact absurd hpolicy hother
  | sourceless _ hnone => exact absurd hnone hcsi
  | unlisted source fault => cases hlisted _ (.head _)
  | kept source vs _ _ hmay =>
    cases hlisted _ (.head _)
    exact iff_of_true ⟨rfl, rfl⟩ hmay
  | failed source vs rest f _ _ hmay =>
    cases hlisted _ (.head _)
    exact iff_of_false (fun h => nomatch h.2) (by rw [hmay]; decide)
  | cleared source vs first rest o _ _ hmay hsub hrest =>
    cases hlisted _ (.head _)
    refine iff_of_false (fun h => ?_) (by rw [hmay]; decide)
    -- a subpath that was dealt with took a request at least
    obtain ⟨rfl, -⟩ := List.append_eq_nil_iff.mp (List.cons.inj h.1).2
    cases hsub

/-- The attributes of the volume give a subpath. -/
def NamesSubpath (v : Volume) : Prop := Keyed.get? v.attributes subpathKey ≠ none

end Volume

namespace Command

/-! ### Lines -/

/-- The line for a volume that is listed as live. -/
def liveLine (name : String) : String := "  shared with " ++ name ++ " (live)"

/-- The line for a subpath that stays. -/
def keptLine : String := "Deletable:     no"

/-- Lines that begin with different characters differ. -/
theorem ne_append_of_head? {line front : String} (hne : front ≠ "")
    (hhead : line.toList.head? ≠ front.toList.head?) (rest : String) : line ≠ front ++ rest := by
  rintro rfl
  rw [String.toList_append, List.head?_append_of_ne_nil _ (by simpa using hne)] at hhead
  exact hhead rfl

/-- A line on other volumes or on the end of the subpath is none of the first three. -/
theorem mem_subpathReport {line : String}
    (hline : line.toList.head? = some ' ' ∨ line.toList.head? = some 'D') :
    line ∈ subpathReport name v vs ↔
      (∃ u ∈ vs, isShared name v u = true ∧ sharedLine u = line) ∨
        line = "Deletable:     " ++
          (if mayDeleteSubpath vs v v.pathPattern? then "yes" else "no") := by
  have hfront : ∀ front ∈ ["Volume:        ", "Subpath:       ", "Path pattern:  "], ∀ rest,
      line ≠ front ++ rest := by
    intro front hfront rest
    refine ne_append_of_head? ?_ ?_ rest
    · rintro rfl
      exact absurd hfront (by decide)
    · simp only [List.mem_cons, List.not_mem_nil, or_false] at hfront
      rcases hfront with rfl | rfl | rfl <;> rcases hline with h | h <;> rw [h] <;> decide
  simp only [subpathReport, List.mem_append, List.mem_cons, List.not_mem_nil, or_false,
    List.mem_map, List.mem_filter, and_assoc]
  refine or_congr_left (or_iff_right ?_)
  rintro (h | h | h)
  · exact hfront _ (.head _) _ h
  · exact hfront _ (.tail _ (.head _)) _ h
  · exact hfront _ (.tail _ (.tail _ (.head _))) _ h

/-- The last line says whether the subpath stays. -/
theorem keptLine_mem_iff :
    keptLine ∈ subpathReport name v vs ↔ mayDeleteSubpath vs v v.pathPattern? = false := by
  have hshared : ∀ u, sharedLine u ≠ keptLine := by
    intro u
    rw [sharedLine, String.append_assoc]
    exact (ne_append_of_head? (by decide) (by decide) _).symm
  rw [mem_subpathReport (.inr rfl), or_iff_right]
  · split
    · next hmay => exact iff_of_false (by decide) (by rw [hmay]; decide)
    · next hmay => exact iff_of_true rfl (by simpa using hmay)
  · rintro ⟨u, -, -, h⟩
    exact hshared u h

theorem sharedLine_eq_liveLine_iff {other : String} :
    sharedLine u = liveLine other ↔
      u.name = other ∧ u.metadata.deletionTimestamp.any (!·.isEmpty) = false := by
  rw [sharedLine, liveLine]
  cases u.metadata.deletionTimestamp.any (!·.isEmpty) with
  | true =>
    refine iff_of_false (fun h => ?_) (by simp)
    have hchars := congrArg (fun s => s.toList.reverse) h
    simp at hchars
  | false => simp

/-- A volume is listed as live if it shares the subpath, and no time is known at which it went. -/
theorem exists_liveLine_iff :
    (∃ other, liveLine other ∈ subpathReport name v vs) ↔
      ∃ u ∈ vs, isShared name v u = true ∧
        u.metadata.deletionTimestamp.any (!·.isEmpty) = false := by
  have hhead : ∀ other, (liveLine other).toList.head? = some ' ' := by
    intro other
    simp [liveLine]
  have hlast : ∀ other rest, liveLine other ≠ "Deletable:     " ++ rest := by
    intro other rest
    exact ne_append_of_head? (by decide) (by rw [hhead]; decide) rest
  constructor
  · rintro ⟨other, h⟩
    rcases (mem_subpathReport (.inl (hhead other))).mp h with ⟨u, hu, hshared, hline⟩ | h
    · exact ⟨u, hu, hshared, (sharedLine_eq_liveLine_iff.mp hline).2⟩
    · exact absurd h (hlast _ _)
  · rintro ⟨u, hu, hshared, hlive⟩
    refine ⟨u.name, (mem_subpathReport (.inl (hhead _))).mpr (.inl ⟨u, hu, hshared, ?_⟩)⟩
    exact sharedLine_eq_liveLine_iff.mpr ⟨rfl, hlive⟩

/-! ### Volumes -/

/-- A volume that shares the subpath has another name, the same class, and attributes that name the
subpath. -/
theorem isShared_iff : isShared name v u = true ↔
    u.name ≠ name ∧ u.storageClassName = v.storageClassName ∧
      Keyed.get? u.attributes subpathKey = some v.subpath := by
  have hcsi : Keyed.get? u.attributes subpathKey = some v.subpath → u.csi.isSome = true := by
    intro h
    rw [Volume.attributes] at h
    cases hcsi : u.csi with
    | none =>
      rw [hcsi] at h
      cases h
    | some source => rfl
  simp only [isShared, Bool.and_eq_true, decide_eq_true_eq, and_assoc]
  refine and_congr_right fun _ => ⟨And.right, fun h => ⟨hcsi h.2, h⟩⟩

/-- A volume is listed as live if it keeps the subpath and names it; or if it is going, and the time
is an empty text. -/
theorem listed_iff (hname : v.name = name) :
    isShared name v u = true ∧ u.metadata.deletionTimestamp.any (!·.isEmpty) = false ↔
      (v.sharesSubpath u = true ∧ u.NamesSubpath) ∨
        (isShared name v u = true ∧ u.metadata.deletionTimestamp = some "") := by
  have hnames : u.subpath = v.subpath ∧ u.NamesSubpath ↔
      Keyed.get? u.attributes subpathKey = some v.subpath := by
    rw [Volume.NamesSubpath, Volume.subpath]
    cases Keyed.get? u.attributes subpathKey with
    | none => simp
    | some text => simp
  rw [isShared_iff, Volume.sharesSubpath_iff, hname, ObjectMeta.isLive]
  cases u.metadata.deletionTimestamp with
  | none => simp [and_assoc, hnames]
  | some time => simp

/-! ### The command -/

theorem run_connect (w : Remote) : (connect.run w).1 = .ok () := by
  have hasked : connect.run w =
      (if w.inCluster then pure () else Act.request .useLocalConfig : Act Unit).run
        (w.logged .useClusterConfig) := rfl
  rw [hasked]
  split <;> rfl

/-- What the command prints. -/
theorem run_subpathRefs {source : ConfigSource} (hw : w.faults = []) (hc : source.load = .ok c)
    (hv : w.cluster.volume? (.str name) = some v) (hcsi : v.csi ≠ none) :
    ((run source (.subpathRefs name)).run w).1 =
      .ok (.ofLines (subpathReport name v w.cluster.volumes)) := by
  have hload : ((liftM source.load : Act Config).run w).1 = .ok c := by
    rw [hc]
    rfl
  have hsteady := Remote.Steady.refl hw
  refine Act.run_rescue_of_ok ?_ _
  rw [body, Act.run_bind_of_ok hload]
  replace hsteady := hsteady.run (liftM source.load : Act Config)
  generalize ((liftM source.load : Act Config).run w).2 = w₁ at hsteady
  rw [Act.run_bind_of_ok (run_connect w₁)]
  replace hsteady := hsteady.run connect
  generalize (connect.run w₁).2 = w₂ at hsteady
  refine Act.run_rescue_of_ok ?_ _
  rw [Act.run_bind_of_ok (Kube.run_volume hsteady hv), if_pos (Option.isSome_iff_ne_none.mpr hcsi),
    Act.run_bind_of_ok (Kube.run_volumes (hsteady.run _))]
  rfl

/-- **What keeps a subpath, and what is listed.** The command says that a subpath stays exactly if
the removal of the volume ends with the volumes that it lists. This is the case exactly if there is
a path pattern and some volume is shown as live, provided that under a pattern the volumes that keep
the subpath and the ones that are shown are there together. What is shown are the volumes that keep
the subpath and name it, and the ones that are going, should the time be an empty text. -/
theorem subpathRefs_agrees_iff {source : ConfigSource} (hw : w.faults = [])
    (hc : source.load = .ok c) (hv : w.cluster.volume? (.str name) = some v) (hcsi : v.csi ≠ none) :
    ∃ lines, ((run source (.subpathRefs name)).run w).1 = .ok (.ofLines lines) ∧
      (v.reclaimPolicy = some reclaimDelete → (keptLine ∈ lines ↔ v.Keeps c w)) ∧
      ((keptLine ∈ lines ↔ (∃ text, v.pathPattern? = some text ∧ text ≠ "") ∧
          ∃ other, liveLine other ∈ lines) ↔
        ((∃ text, v.pathPattern? = some text ∧ text ≠ "") →
          ((∃ u ∈ w.cluster.volumes, v.sharesSubpath u = true) ↔
            (∃ u ∈ w.cluster.volumes, v.sharesSubpath u = true ∧ u.NamesSubpath) ∨
              ∃ u ∈ w.cluster.volumes,
                isShared name v u = true ∧ u.metadata.deletionTimestamp = some ""))) := by
  have hname : v.name = name := by
    have hfound := List.find?_some hv
    exact (of_decide_eq_true hfound).symm
  refine ⟨subpathReport name v w.cluster.volumes, run_subpathRefs hw hc hv hcsi, ?_, ?_⟩
  · intro hpolicy
    rw [keptLine_mem_iff, Volume.keeps_iff hw hpolicy hcsi]
  · rw [keptLine_mem_iff, mayDeleteSubpath_eq_false, exists_liveLine_iff, and_congr_right_iff]
    simp only [listed_iff hname, and_or_left, exists_or]

/-- A volume of the class whose attributes are these. -/
def cfsVolume (name : String) (attributes : Keyed String) : Volume where
  metadata := { name := name }
  csi := some {
    driver := "csi.cfs.confidentialfilesystems.com"
    volumeHandle := name
    volumeAttributes := some attributes }
  reclaimPolicy := some reclaimDelete
  storageClassName := some "cfs"

/-- A cluster with two volumes that share a subpath, and name it. -/
def teamCluster : Cluster where
  volumes :=
    [cfsVolume "pv-a" [(descriptorKey, "fs-a"), (pathPatternKey, "team"), (subpathKey, "team")],
     cfsVolume "pv-b" [(descriptorKey, "fs-a"), (pathPatternKey, "team"), (subpathKey, "team")]]

theorem subpathRefs_agrees_iff_teamCluster :
    ∃ lines, ((run {} (.subpathRefs "pv-a")).run { cluster := teamCluster }).1 =
        .ok (.ofLines lines) ∧
      keptLine ∈ lines ∧ ∃ other, liveLine other ∈ lines := by
  have hc : ({} : ConfigSource).load = .ok {} := by decide +kernel
  have hv : teamCluster.volume? (.str "pv-a") = some teamCluster.volumes[0] := rfl
  have hshares : teamCluster.volumes[0].sharesSubpath teamCluster.volumes[1] = true := by decide
  have hnames : teamCluster.volumes[1].NamesSubpath := Option.some_ne_none "team"
  obtain ⟨lines, hlines, hkept, hagrees⟩ := subpathRefs_agrees_iff (w := { cluster := teamCluster })
    rfl hc hv (by decide)
  have hkeeps : teamCluster.volumes[0].Keeps {} { cluster := teamCluster } :=
    (Volume.keeps_iff rfl rfl (by decide)).mpr (by decide)
  have hlisted := hagrees.mpr fun _ =>
    iff_of_true ⟨_, .tail _ (.head _), hshares⟩ (.inl ⟨_, .tail _ (.head _), hshares, hnames⟩)
  have hline := (hkept rfl).mpr hkeeps
  exact ⟨lines, hlines, hline, (hlisted.mp hline).2⟩

/-- A cluster with two volumes at the empty subpath, neither of which names it. -/
def namelessCluster : Cluster where
  volumes :=
    [cfsVolume "pv-a" [(descriptorKey, "fs-a"), (pathPatternKey, "x")],
     cfsVolume "pv-b" [(descriptorKey, "fs-a")]]

/-- The subpath is kept, and no volume is listed that keeps it. -/
theorem not_listed_namelessCluster :
    ∃ lines, ((run {} (.subpathRefs "pv-a")).run { cluster := namelessCluster }).1 =
        .ok (.ofLines lines) ∧
      keptLine ∈ lines ∧ ¬∃ other, liveLine other ∈ lines := by
  have hc : ({} : ConfigSource).load = .ok {} := by decide +kernel
  have hv : namelessCluster.volume? (.str "pv-a") = some namelessCluster.volumes[0] := rfl
  refine ⟨_, run_subpathRefs rfl hc hv (by decide), keptLine_mem_iff.mpr (by decide), ?_⟩
  rw [exists_liveLine_iff]
  decide

end Command

end SubpathCsi
