import SubpathCsi.Pod.Injection
import SubpathCsi.Proofs.Json.Shape

/-!
# What a pod lists, and how its volumes are filled

A sidecar fills the volumes of a claim: each becomes an empty directory of the same name, and the
containers that mount it see what is mounted into it. Both are told here as functions of what a pod
lists. To fill volumes for one claim after another is to fill them for all claims at once.

* `Pod.listed`, `Pod.namesUnder`: what a pod lists in its specification, and the names of that;
* `Pod.fill`, `Pod.seeingIn`: a volume and a container, when sidecars serve some claims;
* `Pod.fillVolumes_eq_ok`, `Pod.addPullSecrets_eq_ok`: what becomes of the lists of a specification.
-/

namespace SubpathCsi

namespace Pod

variable {pod pod' spec spec' : Json} {key : String} {items : List Json}

/-! ### Lists of a specification -/

/-- What a pod lists under a key of its specification. -/
def listed (pod : Json) (key : String) : List Json := ((pod.get? "spec").getD .null).listAt key

theorem listed_of_get? (h : pod.get? "spec" = some spec) : listed pod key = spec.listAt key := by
  rw [listed, h]
  rfl

/-- A pod without a specification lists nothing, and neither does one with an empty one. -/
theorem listed_eq (pod : Json) (key : String) :
    listed pod key = ((pod.get? "spec").getD (.obj [])).listAt key := by
  rw [listed]
  cases pod.get? "spec" <;> rfl

/-- What a specification lists under a key can be read as a list. -/
def Lists (spec : Json) (key : String) : Prop :=
  ∀ items, specItems spec key = .ok items → items = spec.listAt key

theorem specItems_eq_ok :
    specItems spec key = .ok items ↔
      ∃ value, spec.findD key .null = .ok value ∧ value.each = .ok items := bind_eq_ok

theorem lists_of_isObject (h : specItems spec key = .ok items)
    (hitems : ∀ item ∈ items, item.IsObject) : Lists spec key := by
  intro items' h'
  rw [h] at h'
  cases h'
  obtain ⟨value, hfind, heach⟩ := specItems_eq_ok.mp h
  exact Json.listAt_of_each hfind heach hitems

/-- A list can be read as one. -/
theorem lists_of_get? {xs : List Json} (h : spec.get? key = some (.arr xs)) : Lists spec key := by
  intro items hitems
  obtain ⟨value, hfind, heach⟩ := specItems_eq_ok.mp hitems
  obtain ⟨-, hvalue⟩ := Json.findD_eq_ok.mp hfind
  rw [h, Option.getD_some] at hvalue
  rw [Json.listAt_of_get? h]
  subst hvalue
  cases xs <;> (cases heach; rfl)

theorem Lists.congr (h : Lists spec key) (hget : spec'.get? key = spec.get? key)
    (hobject : spec.IsObject) : Lists spec' key := by
  intro items hitems
  obtain ⟨value, hfind, heach⟩ := specItems_eq_ok.mp hitems
  obtain ⟨-, hvalue⟩ := Json.findD_eq_ok.mp hfind
  rw [hget] at hvalue
  have hspec : specItems spec key = .ok items :=
    specItems_eq_ok.mpr ⟨value, Json.findD_eq_ok.mpr ⟨hobject, hvalue⟩, heach⟩
  rw [h items hspec, Json.listAt, Json.listAt, hget]

/-- Items that have names are those of a list. -/
theorem lists_of_names {found : List String}
    (h : specItems spec key = .ok items) (hnames : names items = .ok found) : Lists spec key := by
  refine lists_of_isObject h fun item hitem => ?_
  obtain ⟨values, hvalues, -⟩ := bind_eq_ok.mp hnames
  obtain ⟨value, -, hvalue⟩ := exists_match (mapM_eq_ok.mp hvalues) hitem
  obtain ⟨name, hname, -⟩ := bind_eq_ok.mp hvalue
  exact Json.isObject_of_get? (Json.entry_eq_ok.mp hname)

/-- What is done to the specification alters nothing else of a pod. -/
theorem onSpec_eq_ok {f : Json → Except Failure Json} (h : onSpec pod f = .ok pod') :
    ∃ spec spec', pod.get? "spec" = some spec ∧ f spec = .ok spec' ∧
      pod'.get? "spec" = some spec' ∧ Json.Altered ["spec"] pod pod' := by
  obtain ⟨spec, hspec, h⟩ := bind_eq_ok.mp h
  obtain ⟨spec', hf, h⟩ := bind_eq_ok.mp h
  exact ⟨spec, spec', Json.entry_eq_ok.mp hspec, hf, (Json.get?_assign h _).trans (if_pos rfl),
    Json.altered_assign h⟩

/-- What is done to the metadata alters nothing else of a pod. -/
theorem onMetadata_eq_ok {f : Json → Except Failure Json} (h : onMetadata pod f = .ok pod') :
    ∃ metadata, f ((pod.get? "metadata").getD (.obj [])) = .ok metadata ∧
      pod'.get? "metadata" = some metadata ∧ Json.Altered ["metadata"] pod pod' := by
  obtain ⟨old, hold, h⟩ := bind_eq_ok.mp h
  obtain ⟨-, rfl⟩ := Json.findD_eq_ok.mp hold
  obtain ⟨metadata, hf, h'⟩ := bind_eq_ok.mp h
  exact ⟨metadata, hf, (Json.get?_assign h' _).trans (if_pos rfl), Json.altered_assign h'⟩

/-! ### Names of items -/

/-- The names of items. -/
def namesOf (items : List Json) : List Json := items.filterMap (·.get? "name")

/-- The names of what a pod lists under a key of its specification. -/
def namesUnder (pod : Json) (key : String) : List Json := namesOf (listed pod key)

theorem namesOf_cons {item name : Json} (h : item.get? "name" = some name) :
    namesOf (item :: items) = name :: namesOf items := List.filterMap_cons_some h

theorem namesOf_append (xs ys : List Json) : namesOf (xs ++ ys) = namesOf xs ++ namesOf ys :=
  List.filterMap_append

theorem namesOf_congr {xs ys : List Json}
    (h : ys.map (·.get? "name") = xs.map (·.get? "name")) : namesOf ys = namesOf xs := by
  have hmap : ∀ zs : List Json, namesOf zs = (zs.map (·.get? "name")).filterMap id := by
    intro zs
    rw [List.filterMap_map]
    rfl
  rw [hmap, hmap, h]

theorem mem_namesOf {name : Json} :
    name ∈ namesOf items ↔ ∃ item ∈ items, item.get? "name" = some name := List.mem_filterMap

/-! ### Volumes of claims -/

/-- The claim that a volume of a pod stands for. -/
def claimName? (item : Json) : Option String :=
  (item.get? "persistentVolumeClaim").bind fun source => (source.get? "claimName").bind Json.str?

/-- A volume of a pod stands for one of these claims. -/
def isOf (claims : List String) (item : Json) : Bool := (claimName? item).any (claims.contains ·)

/-- A volume of a pod whose sidecars serve these claims. -/
def fill (claims : List String) (item : Json) : Json :=
  if isOf claims item then emptied ((item.get? "name").getD .null) else item

/-- The names of the volumes that stand for these claims. -/
def namesFor (claims : List String) (items : List Json) : List Json :=
  namesOf (items.filter (isOf claims))

variable {claim : String} {claims claims' : List String} {item : Json}

theorem isOf_append : isOf (claims ++ claims') item = (isOf claims item || isOf claims' item) := by
  rw [isOf, isOf, isOf]
  cases claimName? item with
  | none => rfl
  | some name => exact List.contains_append

theorem isOf_singleton : isOf [claim] item = decide (claimName? item = some claim) := by
  rw [isOf]
  cases claimName? item with
  | none => rfl
  | some name => simp

/-- A volume that stands for no claim is left as it is. -/
theorem fill_of_claimName? (h : claimName? item = none) : fill claims item = item := by
  rw [fill, isOf, h]
  rfl

/-- One claim after another is all of them at once. -/
theorem fill_fill : fill claims' (fill claims item) = fill (claims ++ claims') item := by
  rw [fill, fill, fill, isOf_append]
  cases isOf claims item with
  | false => rfl
  | true => rfl

/-- A volume that has a name keeps it. -/
theorem get?_name_fill {name : Json} (h : item.get? "name" = some name) :
    (fill claims item).get? "name" = some name := by
  rw [fill]
  split
  · rw [h]
    rfl
  · exact h

/-- Volumes that have names keep them. -/
theorem map_name_fill (h : ∀ item ∈ items, ∃ name, item.get? "name" = some name) :
    (items.map (fill claims)).map (·.get? "name") = items.map (·.get? "name") := by
  rw [List.map_map]
  refine List.map_congr_left fun item hitem => ?_
  obtain ⟨name, hname⟩ := h item hitem
  exact (get?_name_fill hname).trans hname.symm

theorem namesFor_append (items items' : List Json) :
    namesFor claims (items ++ items') = namesFor claims items ++ namesFor claims items' := by
  rw [namesFor, List.filter_append, namesOf_append, namesFor, namesFor]

theorem namesFor_subset (claims : List String) (items : List Json) :
    namesFor claims items ⊆ namesOf items :=
  List.Sublist.subset (List.filter_sublist.filterMap _)

theorem isOf_nil (item : Json) : isOf [] item = false := by
  rw [isOf]
  cases claimName? item <;> rfl

theorem fill_nil : fill [] = id := by
  funext item
  rw [fill, isOf_nil]
  rfl

theorem namesFor_nil (items : List Json) : namesFor [] items = [] := by
  have hnone : items.filter (isOf []) = [] :=
    List.filter_eq_nil_iff.mpr fun item _ => Bool.eq_false_iff.mp (isOf_nil item)
  rw [namesFor, hnone]
  rfl

/-- A volume is one of these claims, or else, when those are filled, one of the others. -/
theorem mem_namesFor_append {name : Json} :
    name ∈ namesFor (claims ++ claims') items ↔
      name ∈ namesFor claims items ∨ name ∈ namesFor claims' (items.map (fill claims)) := by
  have hmem : ∀ cs xs, name ∈ namesFor cs xs ↔
      ∃ item ∈ xs, isOf cs item = true ∧ item.get? "name" = some name := by
    intro cs xs
    simp [namesFor, mem_namesOf, and_assoc]
  rw [hmem, hmem, hmem]
  constructor
  · rintro ⟨item, hitem, hof, hname⟩
    rw [isOf_append, Bool.or_eq_true] at hof
    by_cases hfirst : isOf claims item = true
    · exact .inl ⟨item, hitem, hfirst, hname⟩
    · have hsame : fill claims item = item := by rw [fill, if_neg hfirst]
      exact .inr ⟨item, List.mem_map.mpr ⟨item, hitem, hsame⟩, hof.resolve_left hfirst, hname⟩
  · rintro (⟨item, hitem, hof, hname⟩ | ⟨item', hitem', hof, hname⟩)
    · exact ⟨item, hitem, by rw [isOf_append, hof, Bool.true_or], hname⟩
    · obtain ⟨item, hitem, rfl⟩ := List.mem_map.mp hitem'
      rw [fill] at hof hname
      split at hof
      next => cases hof
      next hnone =>
        rw [if_neg hnone] at hname
        exact ⟨item, hitem, by rw [isOf_append, hof, Bool.or_true], hname⟩

/-! ### Mounts of filled volumes -/

/-- A mount as it is when sidecars fill the volumes with these names. -/
def seeing (names : List Json) (mount : Json) : Json :=
  if names.any (Json.same ((mount.get? "name").getD .null)) then
    mount.set "mountPropagation" hostToContainer
  else mount

/-- A container as it is when sidecars fill the volumes with these names. -/
def seeingIn (names : List Json) (container : Json) : Json :=
  match container.get? "volumeMounts" with
  | some (.arr mounts) => container.set "volumeMounts" (.arr (mounts.map (seeing names)))
  | _ => container

variable {names names' : List Json} {mount mount' container container' : Json}

theorem altered_seeing (names : List Json) (mount : Json) :
    Json.Altered ["mountPropagation"] mount (seeing names mount) := by
  rw [seeing]
  split
  · exact Json.altered_set _ _ _
  · exact .refl _ mount

theorem altered_seeingIn (names : List Json) (container : Json) :
    Json.Altered ["volumeMounts"] container (seeingIn names container) := by
  rw [seeingIn]
  split
  · exact Json.altered_set _ _ _
  · exact .refl _ container

/-- Some volumes after others are all of them at once. -/
theorem seeing_seeing : seeing names' (seeing names mount) = seeing (names ++ names') mount := by
  have hname : (seeing names mount).get? "name" = mount.get? "name" :=
    (altered_seeing names mount).get?_eq _ (by decide)
  rw [seeing, hname, seeing, seeing, List.any_append]
  cases names.any (Json.same ((mount.get? "name").getD .null)) with
  | false => simp
  | true => simp [Json.set_set]

theorem listAt_seeingIn (names : List Json) (container : Json) :
    (seeingIn names container).listAt "volumeMounts" =
      (container.listAt "volumeMounts").map (seeing names) := by
  rw [seeingIn]
  split
  next mounts hget =>
    have hobject := Json.isObject_of_get? hget
    rw [Json.listAt_of_get? hget]
    exact Json.listAt_of_get? ((Json.get?_set hobject _ _ _).trans (if_pos rfl))
  next hget =>
    -- there is no list, so that nothing is mounted
    have hnone : container.listAt "volumeMounts" = [] := by
      by_contra hne
      exact hget _ (Json.get?_of_listAt rfl hne)
    rw [hnone]
    rfl

theorem seeing_congr (h : names.any (Json.same ((mount.get? "name").getD .null)) =
    names'.any (Json.same ((mount.get? "name").getD .null))) :
    seeing names mount = seeing names' mount := by
  rw [seeing, seeing, h]

/-- It does not matter in what order the names come. -/
theorem seeingIn_congr_mem (h : ∀ name, name ∈ names ↔ name ∈ names') :
    seeingIn names = seeingIn names' := by
  have hany : ∀ name, names.any (Json.same name) = names'.any (Json.same name) := by
    intro name
    rw [Bool.eq_iff_iff, List.any_eq_true, List.any_eq_true]
    simp only [h]
  have hseeing : seeing names = seeing names' := by
    funext mount
    exact seeing_congr (hany _)
  funext container
  rw [seeingIn, seeingIn, hseeing]

/-- The mounts are all that counts for what a container sees. -/
theorem seeingIn_congr (h : ∀ mount ∈ container.listAt "volumeMounts",
    seeing names mount = seeing names' mount) :
    seeingIn names container = seeingIn names' container := by
  rw [seeingIn, seeingIn]
  split
  next mounts hget =>
    rw [Json.listAt_of_get? hget] at h
    rw [List.map_congr_left h]
  next => rfl

theorem seeingIn_nil : seeingIn [] = id := by
  funext container
  rw [seeingIn]
  split
  next mounts hget =>
    have hmounts : mounts.map (seeing []) = mounts := List.map_id' mounts
    rw [hmounts, Json.set_of_get? hget]
    rfl
  next => rfl

theorem seeingIn_seeingIn :
    seeingIn names' (seeingIn names container) = seeingIn (names ++ names') container := by
  cases hget : container.get? "volumeMounts" with
  | none => simp only [seeingIn, hget]
  | some value =>
    cases value with
    | arr mounts =>
      have hobject := Json.isObject_of_get? hget
      have hmounts : ∀ ms : List Json, (ms.map (seeing names)).map (seeing names') =
          ms.map (seeing (names ++ names')) := by
        intro ms
        rw [List.map_map]
        exact List.map_congr_left fun mount _ => seeing_seeing
      simp only [seeingIn, hget, Json.get?_set hobject, if_pos, hmounts, Json.set_set]
    | null | bool | int | float | str | obj => simp only [seeingIn, hget]

/-! ### Filling the volumes of a claim -/

/-- What is absent has no members. -/
theorem get?_of_not_isPresent {source : Json} (h : source.isPresent = false) :
    source.get? key = none := by
  cases hget : source.get? key with
  | none => rfl
  | some value =>
    rw [Json.isPresent_of_get? hget] at h
    cases h

theorem standsFor_eq_ok {stands : Bool} (h : standsFor claim item = .ok stands) :
    item.IsObject ∧ stands = isOf [claim] item := by
  obtain ⟨source, hsource, h⟩ := bind_eq_ok.mp h
  obtain ⟨hobject, hsource⟩ := Json.findD_eq_ok.mp hsource
  refine ⟨hobject, ?_⟩
  have hname : claimName? item = (source.get? "claimName").bind Json.str? := by
    rw [claimName?, ← hsource]
    cases item.get? "persistentVolumeClaim" <;> rfl
  rw [isOf_singleton, hname]
  cases hpresent : source.isPresent with
  | false =>
    rw [hpresent] at h
    cases h
    rw [get?_of_not_isPresent hpresent]
    rfl
  | true =>
    rw [hpresent] at h
    obtain ⟨found, hfound, h⟩ := bind_eq_ok.mp h
    obtain ⟨-, rfl⟩ := Json.find_eq_ok.mp hfound
    split at h
    next name hget =>
      cases h
      rw [hget]
      exact decide_eq_decide.mpr Option.some_inj.symm
    next hget =>
      cases h
      -- a name that is no text is that of no claim
      have hnone : (source.get? "claimName").bind Json.str? = none := by
        cases hvalue : source.get? "claimName" with
        | none => rfl
        | some value =>
          cases value with
          | str name => exact absurd hvalue (hget name)
          | null | bool | int | float | arr | obj => rfl
      rw [hnone]
      rfl

/-- The volumes of the claim are filled, and have names. -/
theorem emptyClaims_eq_ok {items' : List Json}
    (h : emptyClaims claim items = .ok (items', names)) :
    items' = items.map (fill [claim]) ∧ names = namesFor [claim] items ∧
      (∀ item ∈ items, item.IsObject) ∧
      items'.map (·.get? "name") = items.map (·.get? "name") := by
  induction items generalizing items' names with
  | nil =>
    cases h
    exact ⟨rfl, rfl, List.forall_mem_nil _, rfl⟩
  | cons item items ih =>
    obtain ⟨stands, hstands, h⟩ := bind_eq_ok.mp h
    obtain ⟨hobject, rfl⟩ := standsFor_eq_ok hstands
    rw [namesFor, List.filter_cons, List.map_cons, List.map_cons, fill]
    split at h
    next hof =>
      obtain ⟨name, hname, h⟩ := bind_eq_ok.mp h
      obtain ⟨⟨rest, restNames⟩, hrest, h⟩ := bind_eq_ok.mp h
      cases h
      obtain ⟨rfl, rfl, hobjects, hkept⟩ := ih hrest
      have hget := Json.entry_eq_ok.mp hname
      rw [if_pos hof, if_pos hof, hget]
      refine ⟨rfl, (namesOf_cons hget).symm, List.forall_mem_cons.mpr ⟨hobject, hobjects⟩, ?_⟩
      rw [List.map_cons, hkept]
      rfl
    next hof =>
      obtain ⟨⟨rest, restNames⟩, hrest, h⟩ := bind_eq_ok.mp h
      cases h
      obtain ⟨rfl, rfl, hobjects, hkept⟩ := ih hrest
      rw [if_neg hof, if_neg hof, List.map_cons, hkept]
      exact ⟨rfl, rfl, List.forall_mem_cons.mpr ⟨hobject, hobjects⟩, rfl⟩

theorem propagate_eq_ok (h : propagate names mount = .ok mount') : mount' = seeing names mount := by
  obtain ⟨name, hname, h⟩ := bind_eq_ok.mp h
  obtain ⟨-, rfl⟩ := Json.findD_eq_ok.mp hname
  rw [seeing]
  split at h
  next hany =>
    rw [if_pos hany]
    exact (Json.assign_eq_ok_iff.mp h).2
  next hany =>
    cases h
    rw [if_neg hany]

theorem propagateIn_eq_ok (h : propagateIn names container = .ok container') :
    container' = seeingIn names container := by
  obtain ⟨found, hfound, h⟩ := bind_eq_ok.mp h
  obtain ⟨-, rfl⟩ := Json.find_eq_ok.mp hfound
  split at h
  next mounts hget =>
    obtain ⟨mounts', hmounts, h⟩ := bind_eq_ok.mp h
    obtain rfl := eq_map_of_mapM hmounts fun _ _ => propagate_eq_ok
    simp only [seeingIn, hget]
    exact (Json.assign_eq_ok_iff.mp h).2
  next hnone =>
    cases h
    rw [seeingIn]
    split
    next mounts hget => exact absurd hget (hnone mounts)
    next => rfl

/-- **Filled volumes.** The volumes of the claim are filled, and the sidecar's own come last; the
containers see what is mounted into those of the claim. -/
theorem fillVolumes_eq_ok {own : List PodVolume} (h : fillVolumes claim own spec = .ok spec')
    (hlists : Lists spec "containers") :
    Json.Altered ["volumes", "containers"] spec spec' ∧ Lists spec' "containers" ∧
      spec'.listAt "containers" = (spec.listAt "containers").map
        (seeingIn (namesFor [claim] (spec.listAt "volumes"))) ∧
      spec'.listAt "volumes" =
        (spec.listAt "volumes").map (fill [claim]) ++ own.map PodVolume.toJson ∧
      ((spec.listAt "volumes").map (fill [claim])).map (·.get? "name") =
        (spec.listAt "volumes").map (·.get? "name") := by
  obtain ⟨items, hitems, h⟩ := bind_eq_ok.mp h
  obtain ⟨⟨items', names⟩, hempty, h⟩ := bind_eq_ok.mp h
  obtain ⟨found, hfound, h⟩ := bind_eq_ok.mp h
  obtain ⟨hobject, rfl⟩ := Json.find_eq_ok.mp hfound
  obtain ⟨rfl, rfl, hobjects, hkept⟩ := emptyClaims_eq_ok hempty
  have hvolumes := lists_of_isObject hitems hobjects items hitems
  rw [← hvolumes]
  dsimp only at h
  -- the containers first, then the volumes
  obtain ⟨middle, ⟨haltered, hmiddle, hcontainers⟩, h⟩ : ∃ middle,
      (Json.Altered ["containers"] spec middle ∧ Lists middle "containers" ∧
        middle.listAt "containers" =
          (spec.listAt "containers").map (seeingIn (namesFor [claim] items))) ∧
      middle.assign "volumes" (.arr (items.map (fill [claim]) ++ own.map PodVolume.toJson)) =
        .ok spec' := by
    split at h
    next containers hget =>
      rw [Json.listAt_of_get? hget]
      split at h
      next hnone =>
        rw [List.isEmpty_iff.mp hnone, seeingIn_nil, List.map_id]
        exact ⟨spec, ⟨.refl _ spec, hlists, Json.listAt_of_get? hget⟩, h⟩
      next =>
        obtain ⟨containers', hcontainers', h⟩ := bind_eq_ok.mp h
        obtain rfl := eq_map_of_mapM hcontainers' fun _ _ => propagateIn_eq_ok
        obtain ⟨middle, hassign, h⟩ := bind_eq_ok.mp h
        have hlist := (Json.get?_assign hassign _).trans (if_pos rfl)
        exact ⟨middle, ⟨Json.altered_assign hassign, lists_of_get? hlist,
          Json.listAt_assign hassign⟩, h⟩
    next hnone =>
      have hempty : spec.listAt "containers" = [] := by
        by_contra hne
        exact hnone _ (Json.get?_of_listAt rfl hne)
      rw [hempty]
      exact ⟨spec, ⟨.refl _ spec, hlists, hempty⟩, h⟩
  have hassigned := Json.altered_assign h
  have hlist : spec'.listAt "containers" = middle.listAt "containers" :=
    hassigned.listAt_eq (by decide)
  refine ⟨(haltered.mono (by simp)).trans (hassigned.mono (by simp)), ?_, ?_, ?_, hkept⟩
  · refine hmiddle.congr (hassigned.get?_eq _ (by decide)) ?_
    obtain ⟨ms, hms, -⟩ := Json.assign_eq_ok.mp h
    exact ⟨ms, hms⟩
  · rw [hlist, hcontainers]
  · exact Json.listAt_assign h

/-! ### Values that are compared -/

/-- Among values that can be compared, only equal ones are the same. -/
theorem eq_of_same {a b : Json} (h : Json.same a b = true) (hb : comparable b = .ok ()) :
    a = b := by
  cases b with
  | arr | obj => cases hb
  | null | bool | int | float | str => cases a <;> simp_all [Json.same]

/-- The texts among the members of items, if all of these can be compared. -/
theorem filterMap_of_comparable {values : List Json}
    (h : (items.mapM fun item => do
      let value ← item.findD key .null
      comparable value
      return value : Except Failure _) = .ok values) :
    (∀ item ∈ items, item.IsObject) ∧
      values.filterMap Json.str? = items.filterMap fun item => (item.get? key).bind Json.str? := by
  have hread : ∀ (item value : Json), (do
      let value ← item.findD key .null
      comparable value
      return value : Except Failure Json) = .ok value →
      item.IsObject ∧ value = (item.get? key).getD .null := by
    intro item value hvalue
    obtain ⟨value', hfind, hvalue⟩ := bind_eq_ok.mp hvalue
    obtain ⟨-, -, hvalue⟩ := bind_eq_ok.mp hvalue
    cases hvalue
    obtain ⟨hobject, rfl⟩ := Json.findD_eq_ok.mp hfind
    exact ⟨hobject, rfl⟩
  constructor
  · intro item hitem
    obtain ⟨value, -, hvalue⟩ := exists_match (mapM_eq_ok.mp h) hitem
    exact (hread item value hvalue).1
  · rw [eq_map_of_mapM h fun item value hvalue => (hread item value hvalue).2,
      List.filterMap_map]
    refine List.filterMap_congr fun item _ => ?_
    cases hvalue : item.get? key with
    | none => simp [hvalue, Json.str?]
    | some value => simp [hvalue]

/-! ### Pull secrets -/

theorem mem_missing {name : String} {wanted present : List String} :
    name ∈ missing wanted present ↔ name ∈ wanted ∧ name ∉ present := by
  induction wanted generalizing present with
  | nil => simp [missing]
  | cons first wanted ih =>
    rw [missing]
    split
    next hpresent =>
      rw [ih, List.mem_cons]
      constructor
      · rintro ⟨hwanted, hnew⟩
        exact ⟨.inr hwanted, hnew⟩
      · rintro ⟨rfl | hwanted, hnew⟩
        · exact absurd hpresent hnew
        · exact ⟨hwanted, hnew⟩
    next hnew =>
      rw [List.mem_cons, ih, List.mem_cons, List.mem_cons]
      constructor
      · rintro (rfl | ⟨hwanted, hother⟩)
        · exact ⟨.inl rfl, hnew⟩
        · exact ⟨.inr hwanted, fun hmem => hother (.inr hmem)⟩
      · rintro ⟨rfl | hwanted, hother⟩
        · exact .inl rfl
        · by_cases heq : name = first
          · exact .inl heq
          · exact .inr ⟨hwanted, fun hmem => hmem.elim heq hother⟩

theorem nodup_missing (wanted present : List String) : (missing wanted present).Nodup := by
  induction wanted generalizing present with
  | nil => exact List.nodup_nil
  | cons first wanted ih =>
    rw [missing]
    split
    · exact ih present
    · refine List.nodup_cons.mpr ⟨fun hmem => ?_, ih _⟩
      exact (mem_missing.mp hmem).2 (.head _)

theorem missing_sublist (wanted present : List String) :
    (missing wanted present).Sublist wanted := by
  induction wanted generalizing present with
  | nil => exact .slnil
  | cons first wanted ih =>
    rw [missing]
    split
    · exact (ih present).cons first
    · exact (ih _).cons_cons first

/-- The texts among the names of items. -/
def textNames (items : List Json) : List String := (namesOf items).filterMap Json.str?

/-- A secret to pull images with. -/
def pullSecret (name : String) : Json := .obj [("name", .str name)]

theorem textNames_append_pullSecret (items : List Json) (added : List String) :
    textNames (items ++ added.map pullSecret) = textNames items ++ added := by
  have hadded : textNames (added.map pullSecret) = added := by
    induction added with
    | nil => rfl
    | cons name added ih =>
      have hcons : textNames ((name :: added).map pullSecret) =
          name :: textNames (added.map pullSecret) := rfl
      rw [hcons, ih]
  rw [textNames, namesOf_append, List.filterMap_append, ← textNames, ← textNames, hadded]

/-- **Pull secrets.** Those that are missing come after those that are there. -/
theorem addPullSecrets_eq_ok {secrets : List String}
    (h : addPullSecrets secrets spec = .ok spec') :
    Json.Altered ["imagePullSecrets"] spec spec' ∧
      spec'.listAt "imagePullSecrets" = spec.listAt "imagePullSecrets" ++
        (missing secrets (textNames (spec.listAt "imagePullSecrets"))).map pullSecret := by
  rw [addPullSecrets] at h
  split at h
  next hnone =>
    cases h
    rw [List.isEmpty_iff.mp hnone]
    exact ⟨.refl _ spec, (List.append_nil _).symm⟩
  next =>
    obtain ⟨old, hold, h⟩ := bind_eq_ok.mp h
    obtain ⟨present, hpresent, h⟩ := bind_eq_ok.mp h
    obtain ⟨hobjects, hnames⟩ := filterMap_of_comparable hpresent
    rw [textNames, namesOf, List.filterMap_filterMap, ← lists_of_isObject hold hobjects old hold,
      ← hnames]
    exact ⟨Json.altered_assign h, Json.listAt_assign h⟩

end Pod

end SubpathCsi
