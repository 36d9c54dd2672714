import SubpathCsi.Proofs.Volume.Attributes

/-!
# Volumes that are only read

A volume that is named after itself is empty when it is made, so a claim that is only going to read
needs a class with a path pattern. The class is asked for a pattern before the templates in it are
filled: one without a pattern is refused, before any permission is asked for, and the refusal is
counted. A class that has one goes on, whatever the pattern comes to for the claim.

* `VolumeOrder.pathPattern?`: the path pattern of a class, as it is written;
* `readOnly_of_provision`: what becomes of a claim that is only going to read.
-/

namespace SubpathCsi

variable {c : Config} {o : VolumeOrder} {v : Volume} {es : List Exchange}

namespace VolumeOrder

/-- The path pattern of the class, as it is written, unless it is missing or empty. -/
def pathPattern? (o : VolumeOrder) : Option String :=
  filled? o.storageClass.parameterMap pathPatternKey

theorem filled?_eq_some {m : Keyed String} {key text : String} :
    filled? m key = some text ↔ Keyed.get? m key = some text ∧ text ≠ "" := by
  rw [filled?, Option.filter_eq_some_iff, Bool.not_eq_true', ← Bool.not_eq_true, String.isEmpty_iff]

/-- A claim that is only going to read has nothing to be read exactly if there is no pattern. -/
theorem readsNothing_eq (hmode : readOnlyMany ∈ o.accessModes) :
    o.readsNothing = o.pathPattern?.isNone := by
  rw [readsNothing, List.contains_iff_mem.mpr hmode, Bool.true_and, pathPattern?]

/-- The subpath is what the pattern comes to, unless this is empty. -/
theorem subpath_of_pathPattern? {pattern : String} (hpattern : o.pathPattern? = some pattern)
    (hne : o.names.parameter pattern ≠ "") : o.subpath = o.names.parameter pattern := by
  obtain ⟨hgiven, -⟩ := filled?_eq_some.mp hpattern
  have hfilling : o.filling pathPatternKey pattern = o.names.parameter pattern := by
    have hkey : beginsWith csiParameterStart pathPatternKey = false := by decide
    rw [filling, hkey]
    rfl
  have hfilled : filled? o.parameters pathPatternKey = some (o.names.parameter pattern) := by
    rw [filled?_eq_some, get?_parameters, hgiven, Option.map_some, hfilling]
    exact ⟨rfl, hne⟩
  rw [subpath, hfilled, Option.getD_some]

end VolumeOrder

/-- **Reading only.** What becomes of an order whose claim is only going to read. A volume is made
only of a class with a path pattern; its subpath is what the pattern comes to, if that is not empty
and no parameter takes its place. A claim that makes a choice among volumes is refused, and else a
class without a pattern is, both before anything is asked, and only the latter is counted. With a
pattern, permission is asked for once, and if it is granted the volume is made. -/
theorem readOnly_of_provision (hmode : readOnlyMany ∈ o.accessModes)
    (hkeys : (Keyed.keys o.storageClass.parameterMap).Nodup) {r : Except Failure Volume}
    (h : (provision c o).Trace es r) (errors : Nat) :
    (∀ v, r = .ok v → ∃ pattern, o.pathPattern? = some pattern ∧
      (o.names.parameter pattern ≠ "" →
        Keyed.get? o.storageClass.parameterMap subpathKey = none →
        Keyed.get? v.attributes subpathKey = some (o.names.parameter pattern))) ∧
    (o.claim.selector ≠ none → es = [] ∧
      r = .error (.reported (.invalidArgument .claimSelector)) ∧
      provisionErrors errors r = errors) ∧
    (o.claim.selector = none → o.pathPattern? = none → es = [] ∧
      r = .error (.reported (.invalidArgument .readOnlyWithoutPattern)) ∧
      provisionErrors errors r = errors + 1) ∧
    (o.claim.selector = none → o.pathPattern? ≠ none →
      ∃ x, es = [⟨.http (provisionCheck c o), x⟩] ∧
        r = (provisionGrant c o x >>= fun _ => o.made c)) := by
  have hreads := o.readsNothing_eq hmode
  refine ⟨fun v hv => ?_, fun hselector => ?_, fun hselector hpattern => ?_,
    fun hselector hpattern => ?_⟩
  · subst hv
    obtain ⟨-, hnot, -, -, -, -, hmade⟩ := trace_provision.mp h
    obtain ⟨text, amount, bytes, -, -, rfl⟩ := VolumeOrder.made_eq_ok.mp hmade
    rw [hreads, Option.isNone_eq_false_iff, Option.isSome_iff_exists] at hnot
    obtain ⟨pattern, hpattern⟩ := hnot
    refine ⟨pattern, hpattern, fun hne hfree => ?_⟩
    rw [VolumeOrder.get?_attributes hkeys, VolumeOrder.get?_parameters, hfree, Option.map_none,
      Option.none_or, Keyed.get?_cons, if_pos rfl, VolumeOrder.subpath_of_pathPattern? hpattern hne]
  · rw [provision_eq, if_pos (Option.isSome_iff_ne_none.mpr hselector)] at h
    obtain ⟨rfl, rfl⟩ := h
    exact ⟨rfl, rfl, rfl⟩
  · rw [provision_eq, hreads, hselector, hpattern] at h
    obtain ⟨rfl, rfl⟩ := h
    exact ⟨rfl, rfl, rfl⟩
  · have hnot : o.readsNothing = false := by
      rwa [hreads, Option.isNone_eq_false_iff, Option.isSome_iff_ne_none]
    rw [provision_eq, hselector, hnot] at h
    exact Act.trace_once.mp h

/-- An order of a claim that is only going to read. -/
def readerOrder (parameters : Keyed String) : VolumeOrder :=
  { labOrder parameters with
    claim := { (labOrder parameters).claim with accessModes := some [readOnlyMany] } }

theorem exists_provision_readerOrder {parameters : Keyed String}
    (h : (readerOrder parameters).readsNothing = false) :
    ∃ es, (provision {} (readerOrder parameters)).Trace es
      (.ok (gibibyte (readerOrder parameters))) := by
  -- the size is that of the claim, whatever the parameters are
  have hsize : (readerOrder []).size.toOption = some ("1Gi", 1073741824) := by rfl
  exact exists_provision_gibibyte rfl h hsize

/-- The team of the claim names the subpath. -/
def datasetOrder : VolumeOrder :=
  readerOrder [(pathPatternKey, "datasets/$\x7b.pvc.labels.team\x7d")]

theorem readOnly_of_provision_datasetOrder :
    readOnlyMany ∈ datasetOrder.accessModes ∧
      (Keyed.keys datasetOrder.storageClass.parameterMap).Nodup ∧
      ∃ es, (provision {} datasetOrder).Trace es (.ok (gibibyte datasetOrder)) ∧
        Keyed.get? (gibibyte datasetOrder).attributes subpathKey = some "datasets/storage" ∧
        ∃ x, es = [⟨.http (provisionCheck {} datasetOrder), x⟩] := by
  have hmode : readOnlyMany ∈ datasetOrder.accessModes := .head _
  have hkeys : (Keyed.keys datasetOrder.storageClass.parameterMap).Nodup := by decide
  obtain ⟨es, h⟩ : ∃ es, (provision {} datasetOrder).Trace es (.ok (gibibyte datasetOrder)) :=
    exists_provision_readerOrder rfl
  obtain ⟨hmade, -, -, hasked⟩ := readOnly_of_provision hmode hkeys h 0
  obtain ⟨pattern, hpattern, hsubpath⟩ := hmade _ rfl
  have hwritten : datasetOrder.pathPattern? = some "datasets/$\x7b.pvc.labels.team\x7d" := by rfl
  cases hwritten.symm.trans hpattern
  -- templates are read by well-founded recursion
  have hplace : datasetOrder.names.parameter "datasets/$\x7b.pvc.labels.team\x7d" =
      "datasets/storage" := by with_unfolding_all rfl
  rw [hplace] at hsubpath
  have hpath : Keyed.get? (gibibyte datasetOrder).attributes subpathKey = some "datasets/storage" :=
    hsubpath (by decide) rfl
  obtain ⟨x, hx, -⟩ := hasked rfl (by rw [hwritten]; exact nofun)
  exact ⟨hmode, hkeys, es, h, hpath, x, hx⟩

/-- The pattern refers to a label that the claim does not have. -/
def unlabelledOrder : VolumeOrder :=
  readerOrder [(pathPatternKey, "$\x7b.pvc.labels.project\x7d")]

/-- The pattern comes to nothing. Permission is asked for all the same, and a volume is made, at the
subpath that is named after it. -/
theorem provision_unlabelledOrder :
    readOnlyMany ∈ unlabelledOrder.accessModes ∧ unlabelledOrder.name = "pvc-1" ∧
      unlabelledOrder.names.parameter "$\x7b.pvc.labels.project\x7d" = "" ∧
      unlabelledOrder.pathPattern? = some "$\x7b.pvc.labels.project\x7d" ∧
      ∃ es, (provision {} unlabelledOrder).Trace es (.ok (gibibyte unlabelledOrder)) ∧ es ≠ [] ∧
        Keyed.get? (gibibyte unlabelledOrder).attributes subpathKey = some "pvc-1" := by
  have hempty : unlabelledOrder.names.parameter "$\x7b.pvc.labels.project\x7d" = "" := by
    with_unfolding_all rfl
  have hsubpath : Keyed.get? (gibibyte unlabelledOrder).attributes subpathKey = some "pvc-1" := by
    with_unfolding_all rfl
  obtain ⟨es, h⟩ : ∃ es, (provision {} unlabelledOrder).Trace es
      (.ok (gibibyte unlabelledOrder)) := exists_provision_readerOrder rfl
  refine ⟨.head _, rfl, hempty, rfl, es, h, ?_, hsubpath⟩
  obtain ⟨-, -, x, credential, rfl, -⟩ := trace_provision.mp h
  exact List.cons_ne_nil _ _

end SubpathCsi
