import Mathlib
import SubpathCsi.Proofs.Act.Trace
import SubpathCsi.Proofs.Pod.UniqueName
import SubpathCsi.Sidecar.Build

/-!
# Free names

A name that is made unique is not taken, whatever the names of a pod look like. The volumes of a
sidecar are renamed one after another, and each takes its new name before the next.

* `Sidecar.renameVolumes_fresh`: the new names of volumes are free, and pairwise different;
* `Sidecar.mem_volumes_of_mem_mounts_rename`: mounts follow their volumes.
-/

namespace SubpathCsi

namespace Sidecar

variable {container : String} {index : Int} {vs : List PodVolume} {taken : List String}

/-- The names of volumes. -/
def volumeNames (vs : List PodVolume) : List String := vs.map (·.name)

/-- New names of volumes are free, and pairwise different. -/
theorem renameVolumes_fresh (container : String) (index : Int) (vs : List PodVolume)
    (taken : List String) :
    (volumeNames (renameVolumes container index vs taken).1).Nodup ∧
      ∀ name ∈ volumeNames (renameVolumes container index vs taken).1, name ∉ taken := by
  induction vs generalizing taken with
  | nil => exact ⟨List.nodup_nil, List.forall_mem_nil _⟩
  | cons v vs ih =>
    -- whatever the first one is called, its name is free, and is taken for the others
    have hcons : ∀ name, name ∉ taken →
        (name :: volumeNames (renameVolumes container index vs (name :: taken)).1).Nodup ∧
          ∀ n ∈ name :: volumeNames (renameVolumes container index vs (name :: taken)).1,
            n ∉ taken := by
      intro name hname
      obtain ⟨hnodup, hfresh⟩ := ih (name :: taken)
      refine ⟨List.nodup_cons.mpr ⟨fun hmem => hfresh name hmem (.head _), hnodup⟩, ?_⟩
      refine List.forall_mem_cons.mpr ⟨hname, fun n hn hmem => hfresh n hn (.tail _ hmem)⟩
    rw [renameVolumes]
    split
    · exact hcons _ (uniqueName_notMem _ _ _)
    · next hfree => exact hcons _ hfree

/-- What a name has become is the name of a volume. -/
theorem mem_of_lookup_renamed {old new : String}
    (h : (renameVolumes container index vs taken).2.reverse.lookup old = some new) :
    new ∈ volumeNames (renameVolumes container index vs taken).1 := by
  induction vs generalizing taken with
  | nil => cases h
  | cons v vs ih =>
    rw [renameVolumes] at h ⊢
    split at h
    · next htaken =>
      rw [if_pos htaken]
      rw [List.reverse_cons, List.lookup_append, Option.or_eq_some_iff] at h
      obtain h | ⟨-, h⟩ := h
      · exact .tail _ (ih h)
      · rw [List.lookup_cons] at h
        split at h
        · cases h
          exact .head _
        · cases h
    · next hfree =>
      rw [if_neg hfree]
      exact .tail _ (ih h)

/-- A name that has become no other is still the name of a volume. -/
theorem mem_of_lookup_renamed_eq_none {name : String} (hname : name ∈ volumeNames vs)
    (h : (renameVolumes container index vs taken).2.reverse.lookup name = none) :
    name ∈ volumeNames (renameVolumes container index vs taken).1 := by
  induction vs generalizing taken with
  | nil => cases hname
  | cons v vs ih =>
    rw [renameVolumes] at h ⊢
    split at h
    · next htaken =>
      rw [if_pos htaken]
      rw [List.reverse_cons, List.lookup_append, Option.or_eq_none_iff] at h
      obtain rfl | hname := List.mem_cons.mp hname
      · -- the volume itself has become something else
        rw [List.lookup_cons_self] at h
        cases h.2
      · exact .tail _ (ih hname h.1)
    · next hfree =>
      rw [if_neg hfree]
      obtain rfl | hname := List.mem_cons.mp hname
      · exact .head _
      · exact .tail _ (ih hname h)

variable {s : Sidecar} {containers volumes : List String}

/-- The name of a renamed sidecar is free. -/
theorem name_rename_notMem (s : Sidecar) (containers volumes : List String) (index : Int) :
    (s.rename containers volumes index).name ∉ containers :=
  uniqueName_notMem _ _ _

/-- The names of the volumes of a renamed sidecar are free, and pairwise different. -/
theorem volumes_rename_fresh (s : Sidecar) (containers volumes : List String) (index : Int) :
    (volumeNames (s.rename containers volumes index).volumes).Nodup ∧
      ∀ name ∈ volumeNames (s.rename containers volumes index).volumes, name ∉ volumes :=
  renameVolumes_fresh _ _ _ _

/-- **Mounts follow their volumes.** If a sidecar mounts its own volumes, then under new names it
still does. -/
theorem mem_volumes_of_mem_mounts_rename
    (hs : ∀ m ∈ s.generatedMounts, m.name ∈ volumeNames s.volumes) {m : VolumeMount}
    (hm : m ∈ (s.rename containers volumes index).generatedMounts) :
    m.name ∈ volumeNames (s.rename containers volumes index).volumes := by
  obtain ⟨m, hmem, rfl⟩ := List.mem_map.mp hm
  change (List.lookup m.name _).getD m.name ∈ _
  cases hlookup : List.lookup m.name
      (renameVolumes (uniqueName s.name containers index) index s.volumes volumes).2.reverse with
  | none => exact mem_of_lookup_renamed_eq_none (hs m hmem) hlookup
  | some name => exact mem_of_lookup_renamed hlookup

/-- Whatever is placed has the name of its volume. -/
theorem name_of_mem_placed {c : Config} {settings : MountSettings} {p : Placed}
    (h : p ∈ settings.baseVolumes c ++ settings.cacheVolumes) : p.2.name = p.1.name := by
  have hplace : ∀ {α : Type} {xs : List α} {name path : α → String} {source : α → VolumeSource},
      p ∈ xs.map (fun x => place (name x) (path x) (source x)) → p.2.name = p.1.name := by
    intro α xs name path source hp
    obtain ⟨x, -, rfl⟩ := List.mem_map.mp hp
    rfl
  obtain h | h := List.mem_append.mp h
  · obtain h | h := List.mem_append.mp h
    · obtain rfl | h := List.mem_cons.mp h
      · rfl
      · cases List.mem_singleton.mp h
        rfl
    · split at h
      · cases h
      · cases List.mem_singleton.mp h
        rfl
  · simp only [MountSettings.cacheVolumes, List.mem_append, or_assoc] at h
    obtain h | h | h | h | h := h
    · exact hplace h
    · obtain ⟨cache, -, rfl⟩ := Option.mem_toList.mp h |> Option.map_eq_some_iff.mp
      rfl
    · exact hplace h
    · exact hplace h
    · exact hplace h

/-- A sidecar mounts its own volumes, and the volume that it fills, if that has a name. -/
theorem buildFor_eq_ok {c : Config} {settings : MountSettings} {capacity : Int}
    {volumeName : Json} (h : buildFor c settings capacity volumeName = .ok s) :
    (∀ m ∈ s.generatedMounts, m.name ∈ volumeNames s.volumes) ∧
      s.podMount = if volumeName.isPresent then
        some { name := volumeName, mountPath := settings.mountPath } else none := by
  obtain ⟨script, -, h⟩ := bind_eq_ok.mp h
  obtain ⟨_, -, h⟩ := bind_eq_ok.mp h
  cases h
  refine ⟨fun m hm => ?_, rfl⟩
  obtain ⟨p, hp, rfl⟩ := List.mem_map.mp hm
  rw [name_of_mem_placed hp, volumeNames, List.map_map]
  exact List.mem_map_of_mem hp

end Sidecar

end SubpathCsi
