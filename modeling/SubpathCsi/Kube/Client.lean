import SubpathCsi.Act
import SubpathCsi.Descriptor.Reader

/-!
# Objects of the cluster

Reading and writing objects through the API server. An absent object, one that is there already, and
any other trouble of the server are errors that the controller reports.
-/

namespace SubpathCsi.Kube

/-- Asks the API server. -/
def call (c : Config) (r : ApiRequest) : Act r.Answer := do
  match ← Act.request (.api c.requestTimeout r) with
  | .ok answer => return answer
  | .error fault => Act.fail (fault.failure r)

/-- A volume. -/
def volume (c : Config) (name : Json) : Act Volume := call c (.readVolume name)

/-- All volumes. -/
def volumes (c : Config) : Act (List Volume) := call c .listVolumes

/-- A claim. -/
def claim (c : Config) (name space : Json) : Act Claim := call c (.readClaim name space)

/-- A storage class. -/
def storageClass (c : Config) (name : Json) : Act StorageClass := call c (.readClass name)

/-- A secret. -/
def secret (c : Config) (name space : Json) : Act Secret := call c (.readSecret name space)

/-- Makes a secret. -/
def createSecret (c : Config) (s : Secret) : Act Secret := call c (.createSecret s)

/-- Puts a secret in the place of the one with its name. -/
def replaceSecret (c : Config) (s : Secret) : Act Secret := call c (.replaceSecret s)

/-- Sets the finalizers of a secret. -/
def setFinalizers (c : Config) (name space : Json) (finalizers : List String) : Act Secret :=
  call c (.setFinalizers name space finalizers)

/-- A replica set. -/
def replicaSet (c : Config) (name space : Json) : Act ReplicaSet := call c (.readReplicaSet name space)

/-- Records an event. -/
def createEvent (c : Config) (space body : Json) : Act Unit := call c (.createEvent space body)

/-- A filesystem descriptor. One that breaks its schema is a defect. -/
def descriptor (c : Config) (name : Json) : Act Descriptor := do
  match Descriptor.ofJson (← call c (.readDescriptor name)) with
  | .ok d => return d
  | .error count => Act.fail (.defect (.malformedDescriptor count))

/-- Puts a secret in its place: makes it, or else gives its data and its owners to the one that is
there. Another writer may make the secret in between; then that one gets them. -/
def putSecret (c : Config) (s : Secret) : Act Unit := do
  let existing ← ((some <$> secret c s.nameJson s.spaceJson).rescueNotFound fun _ =>
    ((fun _ => none) <$> createSecret c s).rescueReported fun e =>
      match e with
      | .alreadyExists .. => some <$> secret c s.nameJson s.spaceJson
      | e => Act.report e)
  match existing with
  | none => return
  | some old =>
    let _ ← replaceSecret c { old with
      data := s.data
      metadata := { old.metadata with ownerReferences := s.metadata.ownerReferences } }
    return

end SubpathCsi.Kube
