import SubpathCsi.Proofs.Volume.SharedSubpath

/-!
# The attributes of a made volume

A volume remembers in its attributes where it lies and how large it is, and with which parameters
its class was configured. The parameters are written last. Their names are free, so one that is
called as an attribute of the controller takes its place, and what reads the attribute later is told
the parameter.

* `VolumeOrder.subpath_eq`: the subpath that is computed;
* `attributes_of_provision`: what each attribute holds.
-/

namespace SubpathCsi

variable {c : Config} {o : VolumeOrder} {v : Volume} {es : List Exchange}

namespace VolumeOrder

/-- The subpath that is computed: what the path pattern comes to, unless this is empty, and else the
name of the volume. -/
theorem subpath_eq (o : VolumeOrder) :
    o.subpath = (((Keyed.get? o.storageClass.parameterMap pathPatternKey).map
      (o.filling pathPatternKey)).filter (!·.isEmpty)).getD o.name := by
  rw [subpath, filled?, get?_parameters]

/-- It is not empty if the volume has a name. -/
theorem subpath_ne_empty (hname : o.name ≠ "") : o.subpath ≠ "" := by
  rw [subpath]
  cases hpattern : filled? o.parameters pathPatternKey with
  | none => exact hname
  | some path =>
    have hfilled := (Option.filter_eq_some_iff.mp hpattern).2
    rintro rfl
    exact absurd hfilled (by decide)

/-- An attribute holds what was computed unless there is a parameter of its name which comes to
another text. -/
theorem attribute_eq_iff {given : Option String} {fill : String → String} {computed : String} :
    (given.map fill).or (some computed) = some computed ↔
      ∀ value, given = some value → fill value = computed := by
  cases given with
  | none => simp
  | some value => simp

end VolumeOrder

/-- **Attributes.** A volume was made for a claim of a class that gives each of its parameters once.
Its attribute for the subpath is what the path pattern comes to, or else the name of the volume, and
its attribute for the size is the decimal text of the bytes that the claim asks for, each exactly if
the class has no parameter of this name which comes to another text. Every other attribute is the
parameter of its name, with its templates filled. -/
theorem attributes_of_provision (hkeys : (Keyed.keys o.storageClass.parameterMap).Nodup)
    (h : (provision c o).Trace es (.ok v)) :
    ∃ text amount, o.size = .ok (text, amount) ∧
      o.subpath = (((Keyed.get? o.storageClass.parameterMap pathPatternKey).map
        (o.filling pathPatternKey)).filter (!·.isEmpty)).getD o.name ∧
      (o.name ≠ "" → o.subpath ≠ "") ∧
      (Keyed.get? v.attributes subpathKey = some o.subpath ↔
        ∀ value, Keyed.get? o.storageClass.parameterMap subpathKey = some value →
          o.filling subpathKey value = o.subpath) ∧
      (Keyed.get? v.attributes capacityKey = some (toString amount) ↔
        ∀ value, Keyed.get? o.storageClass.parameterMap capacityKey = some value →
          o.filling capacityKey value = toString amount) ∧
      ∀ key, key ≠ subpathKey → key ≠ capacityKey →
        Keyed.get? v.attributes key =
          (Keyed.get? o.storageClass.parameterMap key).map (o.filling key) := by
  obtain ⟨-, -, -, -, -, -, hmade⟩ := trace_provision.mp h
  obtain ⟨text, amount, bytes, hsize, hbytes, rfl⟩ := VolumeOrder.made_eq_ok.mp hmade
  have hdecimal : bytes = toString amount := by
    rw [VolumeOrder.bytesText] at hbytes
    split at hbytes <;> cases hbytes
    rfl
  subst hdecimal
  have hattribute : ∀ key, Keyed.get? (o.volume c text (toString amount)).attributes key =
      ((Keyed.get? o.storageClass.parameterMap key).map (o.filling key)).or
        (Keyed.get? [(subpathKey, o.subpath), (capacityKey, toString amount)] key) := fun key => by
    rw [VolumeOrder.get?_attributes hkeys, VolumeOrder.get?_parameters]
  refine ⟨text, amount, hsize, o.subpath_eq, VolumeOrder.subpath_ne_empty, ?_, ?_, ?_⟩
  · rw [hattribute, Keyed.get?_cons, if_pos rfl]
    exact VolumeOrder.attribute_eq_iff
  · have hkey : subpathKey ≠ capacityKey := by decide
    rw [hattribute, Keyed.get?_cons, if_neg hkey, Keyed.get?_cons, if_pos rfl]
    exact VolumeOrder.attribute_eq_iff
  · intro key hsubpath hcapacity
    rw [hattribute, Keyed.get?_cons, if_neg hsubpath.symm, Keyed.get?_cons, if_neg hcapacity.symm,
      Keyed.get?_nil, Option.or_none]

/-- An order of one gibibyte, of a class with given parameters. -/
def labOrder (parameters : Keyed String) : VolumeOrder where
  name := "pvc-1"
  claim := {
    metadata := { name := "data", space := some "lab", labels := some [("team", "storage")] }
    requests := some (some [("storage", "1Gi")]) }
  storageClass := {
    metadata := { name := "cfs" }
    provisioner := "csi.cfs.confidentialfilesystems.com"
    parameters := some parameters }

theorem exists_provision_labOrder (parameters : Keyed String) :
    ∃ es, (provision {} (labOrder parameters)).Trace es (.ok (gibibyte (labOrder parameters))) := by
  -- the size is that of the claim, whatever the parameters are
  have hsize : (labOrder []).size.toOption = some ("1Gi", 1073741824) := by rfl
  exact exists_provision_gibibyte rfl rfl hsize

/-- An order whose path pattern and whose other parameters hold templates. -/
def patternOrder : VolumeOrder :=
  labOrder [(pathPatternKey, "$\x7b.pvc.namespace\x7d/$\x7b.pvc.labels.team\x7d"),
    (publishSecretName, "$\x7bpvc.name\x7d-secret"), ("owner", "$\x7b.pvc.labels.nobody\x7d")]

theorem attributes_of_provision_patternOrder :
    (Keyed.keys patternOrder.storageClass.parameterMap).Nodup ∧
      ∃ es, (provision {} patternOrder).Trace es (.ok (gibibyte patternOrder)) ∧
        Keyed.get? (gibibyte patternOrder).attributes subpathKey = some "lab/storage" ∧
        Keyed.get? (gibibyte patternOrder).attributes capacityKey = some "1073741824" ∧
        Keyed.get? (gibibyte patternOrder).attributes publishSecretName = some "data-secret" ∧
        Keyed.get? (gibibyte patternOrder).attributes "owner" = some "" := by
  have hkeys : (Keyed.keys patternOrder.storageClass.parameterMap).Nodup := by decide
  obtain ⟨es, h⟩ : ∃ es, (provision {} patternOrder).Trace es (.ok (gibibyte patternOrder)) :=
    exists_provision_labOrder _
  obtain ⟨text, amount, hsize, -, -, hsubpath, hcapacity, hothers⟩ :=
    attributes_of_provision hkeys h
  have hamount : patternOrder.size.toOption = some ("1Gi", 1073741824) := by rfl
  cases hsize.symm.trans (toOption_eq_some.mp hamount)
  have hnone : ∀ key ∈ [subpathKey, capacityKey],
      Keyed.get? patternOrder.storageClass.parameterMap key = none := by decide
  -- templates are read by well-founded recursion
  have hplace : patternOrder.subpath = "lab/storage" := by with_unfolding_all rfl
  have hdecimal : toString (1073741824 : Int) = "1073741824" := by decide
  refine ⟨hkeys, es, h, ?_, ?_, ?_, ?_⟩
  · rw [← hplace]
    exact hsubpath.mpr fun value hvalue => by simp [hnone] at hvalue
  · rw [← hdecimal]
    exact hcapacity.mpr fun value hvalue => by simp [hnone] at hvalue
  · rw [hothers _ (by decide) (by decide)]
    with_unfolding_all rfl
  · rw [hothers _ (by decide) (by decide)]
    with_unfolding_all rfl

/-- An order of a class with parameters that are called as the attributes of the controller. -/
def overridingOrder : VolumeOrder :=
  labOrder [(subpathKey, "shared"), (capacityKey, "unlimited")]

/-- The parameters take the place of the subpath and of the size. -/
theorem attributes_overridingOrder :
    (∃ es, (provision {} overridingOrder).Trace es (.ok (gibibyte overridingOrder))) ∧
      (Keyed.keys overridingOrder.storageClass.parameterMap).Nodup ∧
      Keyed.get? overridingOrder.storageClass.parameterMap pathPatternKey = none ∧
      overridingOrder.name = "pvc-1" ∧
      overridingOrder.size.toOption = some ("1Gi", 1073741824) ∧
      Keyed.get? (gibibyte overridingOrder).attributes subpathKey = some "shared" ∧
      Keyed.get? (gibibyte overridingOrder).attributes capacityKey = some "unlimited" := by
  have hsubpath : Keyed.get? (gibibyte overridingOrder).attributes subpathKey = some "shared" := by
    with_unfolding_all rfl
  have hcapacity : Keyed.get? (gibibyte overridingOrder).attributes capacityKey =
      some "unlimited" := by
    with_unfolding_all rfl
  exact ⟨exists_provision_labOrder _, by decide, rfl, rfl, rfl, hsubpath, hcapacity⟩

end SubpathCsi
