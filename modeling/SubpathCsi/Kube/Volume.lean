import SubpathCsi.Kube.Meta

/-!
# Persistent volumes

A volume of the cluster, with the source that its driver mounts and the claim that it is bound to.
-/

namespace SubpathCsi

/-- The source of a volume that a CSI driver mounts. -/
structure CsiSource where
  /-- The name of the driver. -/
  driver : String
  /-- The name of the volume for the driver. -/
  volumeHandle : String
  /-- The type of its filesystem. -/
  fsType : Option String := none
  /-- It is mounted for reading only. -/
  readOnly : Option Bool := none
  /-- What the driver has to know about the volume. -/
  volumeAttributes : Option (Keyed String) := none
  /-- The secret for mounting it. -/
  nodePublishSecretRef : Option ObjectRef := none
  /-- The secret for expanding it. -/
  controllerExpandSecretRef : Option ObjectRef := none
  /-- Everything else. -/
  others : Keyed Json := []
  deriving Repr

/-- A persistent volume. -/
structure Volume where
  /-- The metadata. -/
  metadata : ObjectMeta
  /-- Its size, by resource. -/
  capacity : Option (Keyed String) := none
  /-- How it may be mounted. -/
  accessModes : Option (List String) := none
  /-- The claim that it is bound to. -/
  claimRef : Option ObjectRef := none
  /-- The source, if a CSI driver mounts it. -/
  csi : Option CsiSource := none
  /-- Mount options. -/
  mountOptions : Option (List String) := none
  /-- What becomes of it when its claim is gone. -/
  reclaimPolicy : Option String := none
  /-- The name of its storage class. -/
  storageClassName : Option String := none
  /-- A filesystem or a block device. -/
  volumeMode : Option String := none
  /-- Everything else in the specification. -/
  specOthers : Keyed Json := []
  /-- Everything else. -/
  others : Keyed Json := []
  deriving Repr

namespace CsiSource

/-- The attributes; none if absent. -/
def attributes (s : CsiSource) : Keyed String := s.volumeAttributes.getD []

/-- Reads a source. The driver and the handle have to be there. -/
def ofJson (j : Json) : Except String CsiSource :=
  match j.text? "driver", j.text? "volumeHandle" with
  | none, _ => .error "Invalid value for `driver`, must not be `None`"
  | _, none => .error "Invalid value for `volume_handle`, must not be `None`"
  | some driver, some volumeHandle => .ok {
      driver
      volumeHandle
      fsType := j.text? "fsType"
      readOnly := j.flag? "readOnly"
      volumeAttributes := j.textMap? "volumeAttributes"
      nodePublishSecretRef := (j.given? "nodePublishSecretRef").map ObjectRef.ofSecretJson
      controllerExpandSecretRef := (j.given? "controllerExpandSecretRef").map ObjectRef.ofSecretJson
      others := j.others ["controllerPublishSecretRef", "nodeExpandSecretRef",
        "nodeStageSecretRef"] }

/-- Writes a source. -/
def toJson (s : CsiSource) : Json :=
  .obj ([("driver", .str s.driver), ("volumeHandle", .str s.volumeHandle)] ++
    Json.textMember "fsType" s.fsType ++ Json.flagMember "readOnly" s.readOnly ++
    Json.textMapMember "volumeAttributes" s.volumeAttributes ++
    Json.member "nodePublishSecretRef" (s.nodePublishSecretRef.map ObjectRef.toJson) ++
    Json.member "controllerExpandSecretRef" (s.controllerExpandSecretRef.map ObjectRef.toJson) ++
    s.others)

end CsiSource

namespace Volume

/-- The name. -/
def name (v : Volume) : String := v.metadata.name

/-- What the driver has to know; nothing for a volume without a CSI source. -/
def attributes (v : Volume) : Keyed String :=
  match v.csi with
  | some s => s.attributes
  | none => []

/-- What else the specification of a volume may say: other sources, and where it may be mounted. -/
def otherSpecKeys : List String :=
  ["awsElasticBlockStore", "azureDisk", "azureFile", "cephfs", "cinder", "fc", "flexVolume",
   "flocker", "gcePersistentDisk", "glusterfs", "hostPath", "iscsi", "local", "nfs",
   "nodeAffinity", "photonPersistentDisk", "portworxVolume", "quobyte", "rbd", "scaleIO",
   "storageos", "vsphereVolume"]

/-- Reads a volume. -/
def ofJson (j : Json) : Except String Volume := do
  let spec := (j.given? "spec").getD (.obj [])
  let csi ← (spec.given? "csi").mapM CsiSource.ofJson
  return {
    metadata := .ofJson j
    capacity := spec.textMap? "capacity"
    accessModes := spec.texts? "accessModes"
    claimRef := (spec.given? "claimRef").map ObjectRef.ofJson
    csi
    mountOptions := spec.texts? "mountOptions"
    reclaimPolicy := spec.text? "persistentVolumeReclaimPolicy"
    storageClassName := spec.text? "storageClassName"
    volumeMode := spec.text? "volumeMode"
    specOthers := spec.others otherSpecKeys
    others := j.others ["apiVersion", "kind", "status"] }

/-- Writes a volume. -/
def toJson (v : Volume) : Json :=
  .obj (v.others ++ [("metadata", v.metadata.toJson), ("spec", .obj (
    Json.textMapMember "capacity" v.capacity ++ Json.textsMember "accessModes" v.accessModes ++
    Json.member "claimRef" (v.claimRef.map ObjectRef.toJson) ++
    Json.member "csi" (v.csi.map CsiSource.toJson) ++
    Json.textsMember "mountOptions" v.mountOptions ++
    Json.textMember "persistentVolumeReclaimPolicy" v.reclaimPolicy ++
    Json.textMember "storageClassName" v.storageClassName ++
    Json.textMember "volumeMode" v.volumeMode ++ v.specOthers))])

end Volume

end SubpathCsi
