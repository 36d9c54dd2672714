import SubpathCsi.Kube.Meta

/-!
# Secrets and replica sets

A secret holds values in base 64. Of a replica set only the owners matter.
-/

namespace SubpathCsi

/-- A secret. -/
structure Secret where
  /-- The metadata. -/
  metadata : ObjectMeta
  /-- The values, in base 64. -/
  data : Option (Keyed String) := none
  /-- Everything else. -/
  others : Keyed Json := []
  deriving Repr

namespace Secret

/-- The name. -/
def name (s : Secret) : String := s.metadata.name

/-- Reads a secret. -/
def ofJson (j : Json) : Secret where
  metadata := .ofJson j
  data := j.textMap? "data"
  others := j.others ["apiVersion", "immutable", "kind", "stringData", "type"]

/-- Writes a secret. -/
def toJson (s : Secret) : Json :=
  .obj (s.others ++ [("metadata", s.metadata.toJson)] ++ Json.textMapMember "data" s.data)

end Secret

/-- A replica set. -/
structure ReplicaSet where
  /-- The metadata. -/
  metadata : ObjectMeta
  /-- Everything else. -/
  others : Keyed Json := []
  deriving Repr

namespace ReplicaSet

/-- The name. -/
def name (s : ReplicaSet) : String := s.metadata.name

/-- Reads a replica set. -/
def ofJson (j : Json) : ReplicaSet where
  metadata := .ofJson j
  others := j.others ["apiVersion", "kind", "spec", "status"]

/-- Writes a replica set. -/
def toJson (s : ReplicaSet) : Json := .obj (s.others ++ [("metadata", s.metadata.toJson)])

end ReplicaSet

end SubpathCsi
