import SubpathCsi.Proofs.Clients
import SubpathCsi.Proofs.Keyed
import SubpathCsi.Volume.Provision

/-!
# What provisioning makes

A volume that is made for an order is determined by the order and the texts of its size. Its
attributes are the parameters of the storage class with their templates filled, and under those
lie the subpath and the size that the controller has computed itself.

* `trace_provision`: making a volume asks for one permission, and comes to `VolumeOrder.volume`;
* `VolumeOrder.get?_parameters`: a parameter of an order is one of its storage class, filled;
* `VolumeOrder.get?_attributes`: an attribute is a parameter, or else what was computed.
-/

namespace SubpathCsi

variable {c : Config} {o : VolumeOrder} {v : Volume} {es : List Exchange}

/-! ### The course of provisioning -/

/-- The permission that provisioning asks for. -/
def provisionCheck (c : Config) (o : VolumeOrder) : HttpRequest :=
  Credential.requestFor c o.claim.metadata.spaceJson o.claim.metadata.nameJson .create

/-- What the permission comes to. -/
def provisionGrant (c : Config) (o : VolumeOrder) (x : Except HttpFault HttpResponse) :
    Except Failure Credential :=
  Credential.outcome c o.claim.metadata.spaceJson o.claim.metadata.nameJson .create x

/-- The volume for an order, once it is permitted. -/
def VolumeOrder.made (c : Config) (o : VolumeOrder) : Except Failure Volume := do
  let (text, amount) ← o.size
  return o.volume c text (← bytesText amount)

theorem VolumeOrder.made_eq_ok :
    o.made c = .ok v ↔
      ∃ text amount bytes, o.size = .ok (text, amount) ∧ bytesText amount = .ok bytes ∧
        v = o.volume c text bytes := by
  rw [made, bind_eq_ok]
  constructor
  · rintro ⟨⟨text, amount⟩, hsize, h⟩
    obtain ⟨bytes, hbytes, h⟩ := bind_eq_ok.mp h
    cases h
    exact ⟨text, amount, bytes, hsize, hbytes, rfl⟩
  · rintro ⟨text, amount, bytes, hsize, hbytes, rfl⟩
    exact ⟨(text, amount), hsize, bind_eq_ok.mpr ⟨bytes, hbytes, rfl⟩⟩

/-- Provisioning in one piece: two refusals, one request, and the volume. -/
theorem provision_eq (c : Config) (o : VolumeOrder) :
    provision c o =
      if o.claim.selector.isSome then Act.refuse .claimSelector
      else if o.readsNothing then Act.refuse .readOnlyWithoutPattern
      else Act.once (.http (provisionCheck c o)) fun x => provisionGrant c o x >>= fun _ =>
        o.made c := by
  have hmade : (do
      let (text, amount) ← o.size
      return o.volume c text (← VolumeOrder.bytesText amount) : Act Volume) =
      liftM (o.made c) := by
    rw [VolumeOrder.made]
    -- the text of a number is kept closed: opened, it counts digits by the thousands
    generalize o.size = size, VolumeOrder.bytesText = writing
    cases size with
    | error f => rfl
    | ok p =>
      change (liftM (writing p.2) >>= fun bytes => pure (o.volume c p.1 bytes) : Act Volume) =
        liftM (writing p.2 >>= fun bytes => pure (o.volume c p.1 bytes))
      cases writing p.2 <;> rfl
  rw [provision]
  split
  · rfl
  · dsimp only
    split
    · rfl
    · rw [Credential.check_eq_once, hmade]
      exact Act.once_bind_liftM _ _ _

/-- **Provisioning.** It succeeds if the claim makes no choice among volumes, the volume can be read
or written, its size is known, and the one request for permission is granted. -/
theorem trace_provision :
    (provision c o).Trace es (.ok v) ↔
      o.claim.selector = none ∧ o.readsNothing = false ∧
        ∃ x credential, es = [⟨.http (provisionCheck c o), x⟩] ∧
          provisionGrant c o x = .ok credential ∧ o.made c = .ok v := by
  rw [provision_eq, ← Option.not_isSome_iff_eq_none]
  split
  · next hselector =>
    refine ⟨fun h => ?_, fun h => absurd hselector h.1⟩
    cases h.2
  · next hselector =>
    split
    · next hreads =>
      refine ⟨fun h => ?_, fun h => ?_⟩
      · cases h.2
      · rw [hreads] at h
        cases h.2.1
    · next hreads =>
      rw [Act.trace_once]
      constructor
      · rintro ⟨x, rfl, hx⟩
        obtain ⟨credential, hgrant, hmade⟩ := bind_eq_ok.mp hx.symm
        exact ⟨hselector, Bool.eq_false_iff.mpr hreads, x, credential, rfl, hgrant, hmade⟩
      · rintro ⟨-, -, x, credential, rfl, hgrant, hmade⟩
        exact ⟨x, rfl, (bind_eq_ok.mpr ⟨credential, hgrant, hmade⟩).symm⟩

/-! ### Parameters and attributes -/

namespace VolumeOrder

/-- What a parameter of the storage class stands for in an order. -/
def filling (o : VolumeOrder) (key value : String) : String :=
  if beginsWith csiParameterStart key then o.names.secret value else o.names.parameter value

/-- A parameter of an order is the parameter of its storage class, with its templates filled. -/
theorem get?_parameters (o : VolumeOrder) (key : String) :
    Keyed.get? o.parameters key =
      (Keyed.get? o.storageClass.parameterMap key).map (o.filling key) :=
  Keyed.get?_map o.storageClass.parameterMap o.filling key

theorem keys_parameters (o : VolumeOrder) :
    Keyed.keys o.parameters = Keyed.keys o.storageClass.parameterMap := by
  rw [Keyed.keys, parameters, List.map_map]
  rfl

/-- **Attributes.** Under a key there is the parameter, or else the subpath or the size. -/
theorem get?_attributes (hkeys : (Keyed.keys o.storageClass.parameterMap).Nodup)
    (text bytes key : String) :
    Keyed.get? (o.volume c text bytes).attributes key =
      (Keyed.get? o.parameters key).or
        (Keyed.get? [(subpathKey, o.subpath), (capacityKey, bytes)] key) := by
  refine Keyed.get?_merge_of_nodup _ ?_ key
  rwa [keys_parameters]

/-- The subpath of a volume: a parameter of that name overrides the one that was computed. -/
theorem subpath_volume (hkeys : (Keyed.keys o.storageClass.parameterMap).Nodup)
    (text bytes : String) :
    (o.volume c text bytes).subpath = (Keyed.get? o.parameters subpathKey).getD o.subpath := by
  rw [Volume.subpath, get?_attributes hkeys]
  cases Keyed.get? o.parameters subpathKey <;> rfl

/-- The path pattern of a volume is the parameter, with its templates filled. -/
theorem pathPattern?_volume (hkeys : (Keyed.keys o.storageClass.parameterMap).Nodup)
    (text bytes : String) :
    (o.volume c text bytes).pathPattern? = Keyed.get? o.parameters pathPatternKey := by
  rw [Volume.pathPattern?, get?_attributes hkeys]
  have hnone :
      Keyed.get? [(subpathKey, o.subpath), (capacityKey, bytes)] pathPatternKey = none := by
    have hsubpath : subpathKey ≠ pathPatternKey := by decide
    have hcapacity : capacityKey ≠ pathPatternKey := by decide
    rw [Keyed.get?_cons, if_neg hsubpath, Keyed.get?_cons, if_neg hcapacity, Keyed.get?_nil]
  rw [hnone, Option.or_none]

end VolumeOrder

end SubpathCsi
