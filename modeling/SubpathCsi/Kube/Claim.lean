import SubpathCsi.Kube.Meta

/-!
# Persistent volume claims

A claim asks for storage and, once it is bound, names its volume.
-/

namespace SubpathCsi

/-- A persistent volume claim. -/
structure Claim where
  /-- The metadata. -/
  metadata : ObjectMeta
  /-- How its volume is to be mounted. -/
  accessModes : Option (List String) := none
  /-- What it asks for, by resource; the outer level is absent if it says nothing of resources. -/
  requests : Option (Option (Keyed String)) := none
  /-- A choice among volumes. -/
  selector : Option Json := none
  /-- The name of its storage class. -/
  storageClassName : Option String := none
  /-- A filesystem or a block device. -/
  volumeMode : Option String := none
  /-- The name of its volume. -/
  volumeName : Option String := none
  /-- Everything else it says of resources. -/
  resourceOthers : Keyed Json := []
  /-- Everything else in the specification. -/
  specOthers : Keyed Json := []
  /-- Everything else. -/
  others : Keyed Json := []
  deriving Repr

namespace Claim

/-- The name. -/
def name (c : Claim) : String := c.metadata.name

/-- What it asks for under a resource. -/
def requested? (c : Claim) (resource : String) : Option String :=
  Keyed.get? ((c.requests.getD none).getD []) resource

/-- Reads a claim. -/
def ofJson (j : Json) : Claim :=
  let spec := (j.given? "spec").getD (.obj [])
  { metadata := .ofJson j
    accessModes := spec.texts? "accessModes"
    requests := (spec.given? "resources").map (Json.textMap? · "requests")
    selector := spec.given? "selector"
    storageClassName := spec.text? "storageClassName"
    volumeMode := spec.text? "volumeMode"
    volumeName := spec.text? "volumeName"
    resourceOthers := ((spec.given? "resources").map (Json.others · ["claims", "limits"])).getD []
    specOthers := spec.others ["dataSource", "dataSourceRef"]
    others := j.others ["apiVersion", "kind", "status"] }

/-- Writes a claim. -/
def toJson (c : Claim) : Json :=
  .obj (c.others ++ [("metadata", c.metadata.toJson), ("spec", .obj (
    Json.textsMember "accessModes" c.accessModes ++
    Json.member "resources" (c.requests.map fun requests =>
      .obj (Json.textMapMember "requests" requests ++ c.resourceOthers)) ++
    Json.member "selector" c.selector ++ Json.textMember "storageClassName" c.storageClassName ++
    Json.textMember "volumeMode" c.volumeMode ++ Json.textMember "volumeName" c.volumeName ++
    c.specOthers))])

end Claim

end SubpathCsi
