import SubpathCsi.Kube.Meta

/-!
# Storage classes

A storage class names the provisioner of its volumes and gives it parameters.
-/

namespace SubpathCsi

/-- A storage class. -/
structure StorageClass where
  /-- The metadata. -/
  metadata : ObjectMeta
  /-- The name of the driver that makes its volumes. -/
  provisioner : String
  /-- What the driver has to know. -/
  parameters : Option (Keyed String) := none
  /-- Mount options of its volumes. -/
  mountOptions : Option (List String) := none
  /-- What becomes of its volumes when their claims are gone. -/
  reclaimPolicy : Option String := none
  /-- Everything else. -/
  others : Keyed Json := []
  deriving Repr

namespace StorageClass

/-- The name. -/
def name (c : StorageClass) : String := c.metadata.name

/-- The parameters; none if absent. -/
def parameterMap (c : StorageClass) : Keyed String := c.parameters.getD []

/-- Reads a storage class. The provisioner has to be there. -/
def ofJson (j : Json) : Except String StorageClass :=
  match j.text? "provisioner" with
  | none => .error "Invalid value for `provisioner`, must not be `None`"
  | some provisioner => .ok {
      metadata := .ofJson j
      provisioner
      parameters := j.textMap? "parameters"
      mountOptions := j.texts? "mountOptions"
      reclaimPolicy := j.text? "reclaimPolicy"
      others := j.others ["allowVolumeExpansion", "allowedTopologies", "apiVersion", "kind",
        "volumeBindingMode"] }

/-- Writes a storage class. -/
def toJson (c : StorageClass) : Json :=
  .obj (c.others ++ [("metadata", c.metadata.toJson), ("provisioner", .str c.provisioner)] ++
    Json.textMapMember "parameters" c.parameters ++
    Json.textsMember "mountOptions" c.mountOptions ++
    Json.textMember "reclaimPolicy" c.reclaimPolicy)

end StorageClass

end SubpathCsi
