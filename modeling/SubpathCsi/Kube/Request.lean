import SubpathCsi.Failure
import SubpathCsi.Kube.Claim
import SubpathCsi.Kube.Secret
import SubpathCsi.Kube.StorageClass
import SubpathCsi.Kube.Volume

/-!
# Requests to the API server

A request reads one object, lists the volumes, or writes a secret or an event. Each has its own type
of answer, `ApiRequest.Answer`; in its place the server may refuse, or not be reached at all.

Names in a request are JSON values: what a pod says in the place of a name may be anything. An
object is only ever found under a text.
-/

namespace SubpathCsi

/-- A request to the API server. -/
inductive ApiRequest where
  /-- Reads a volume. -/
  | readVolume (name : Json)
  /-- Lists all volumes. -/
  | listVolumes
  /-- Reads a claim. -/
  | readClaim (name space : Json)
  /-- Reads a storage class. -/
  | readClass (name : Json)
  /-- Reads a secret. -/
  | readSecret (name space : Json)
  /-- Makes a secret. -/
  | createSecret (secret : Secret)
  /-- Puts a secret in the place of the one with its name. -/
  | replaceSecret (secret : Secret)
  /-- Sets the finalizers of a secret. -/
  | setFinalizers (name space : Json) (finalizers : List String)
  /-- Reads a replica set. -/
  | readReplicaSet (name space : Json)
  /-- Records an event. -/
  | createEvent (space body : Json)
  /-- Reads a filesystem descriptor, which comes as it is stored. -/
  | readDescriptor (name : Json)
  deriving Repr

/-- What a request does, whatever it does it to. -/
inductive ApiVerb where
  /-- Reads a volume. -/
  | readVolume
  /-- Lists all volumes. -/
  | listVolumes
  /-- Reads a claim. -/
  | readClaim
  /-- Reads a storage class. -/
  | readClass
  /-- Reads a secret. -/
  | readSecret
  /-- Makes a secret. -/
  | createSecret
  /-- Replaces a secret. -/
  | replaceSecret
  /-- Sets the finalizers of a secret. -/
  | setFinalizers
  /-- Reads a replica set. -/
  | readReplicaSet
  /-- Records an event. -/
  | createEvent
  /-- Reads a filesystem descriptor. -/
  | readDescriptor
  deriving DecidableEq, Repr

/-- Everything that requests do. -/
def ApiVerb.all : List ApiVerb :=
  [readVolume, listVolumes, readClaim, readClass, readSecret, createSecret, replaceSecret,
   setFinalizers, readReplicaSet, createEvent, readDescriptor]

/-- Why the API server gives no answer. -/
inductive ApiFault where
  /-- It refuses, with a status. -/
  | status (code : Int) (reason : String)
  /-- It cannot be reached. -/
  | transport (text : String)
  /-- Something unexpected goes wrong on the way. -/
  | unexpected (text : String)
  /-- The caller is interrupted. -/
  | interrupted
  deriving DecidableEq, Repr

/-- The name of a secret, as a request has it. -/
def Secret.nameJson (s : Secret) : Json := .str s.name

/-- The namespace of a secret, as a request has it. -/
def Secret.spaceJson (s : Secret) : Json := .ofText? s.metadata.space

namespace ApiRequest

/-- What answers a request. -/
@[reducible] def Answer : ApiRequest → Type
  | readVolume _ => Volume
  | listVolumes => List Volume
  | readClaim .. => Claim
  | readClass _ => StorageClass
  | readSecret .. => Secret
  | createSecret _ => Secret
  | replaceSecret _ => Secret
  | setFinalizers .. => Secret
  | readReplicaSet .. => ReplicaSet
  | createEvent .. => Unit
  | readDescriptor _ => Json

/-- What a request does. -/
def verb : ApiRequest → ApiVerb
  | readVolume _ => .readVolume
  | listVolumes => .listVolumes
  | readClaim .. => .readClaim
  | readClass _ => .readClass
  | readSecret .. => .readSecret
  | createSecret _ => .createSecret
  | replaceSecret _ => .replaceSecret
  | setFinalizers .. => .setFinalizers
  | readReplicaSet .. => .readReplicaSet
  | createEvent .. => .createEvent
  | readDescriptor _ => .readDescriptor

/-- The names that a request gives: of the object, and of its namespace. -/
def names : ApiRequest → List Json
  | readVolume name => [name]
  | listVolumes => []
  | readClaim name space => [name, space]
  | readClass name => [name]
  | readSecret name space => [name, space]
  | createSecret secret => [secret.spaceJson]
  | replaceSecret secret => [secret.nameJson, secret.spaceJson]
  | setFinalizers name space _ => [name, space]
  | readReplicaSet name space => [name, space]
  | createEvent space _ => [space]
  | readDescriptor name => [name]

/-- The word for the kind of object in messages. -/
def kindWord : ApiRequest → String
  | readVolume _ | listVolumes => "PersistentVolume"
  | readClaim .. => "PersistentVolumeClaim"
  | readClass _ => "StorageClass"
  | readSecret .. | createSecret _ | replaceSecret _ | setFinalizers .. => "Secret"
  | readReplicaSet .. => "ReplicaSet"
  | createEvent .. => "Event"
  | readDescriptor _ => "cfspecs"

/-- A name in a namespace, in messages. -/
def spaced (name space : Json) : String := space.display ++ "/" ++ name.display

/-- The name of the object in messages; a star stands for all objects. -/
def nameWord : ApiRequest → String
  | readVolume name | readClass name | readDescriptor name => name.display
  | listVolumes => "*"
  | readClaim name space | readSecret name space | setFinalizers name space _
  | readReplicaSet name space => spaced name space
  | createSecret secret | replaceSecret secret => spaced secret.nameJson secret.spaceJson
  | createEvent space body =>
    spaced (((body.get? "metadata").bind (·.get? "name")).getD (.str "")) space

end ApiRequest

/-- What a fault means for the one who asked: an absent object, one that is there already, any other
trouble of the API server, or something that no rule foresees. -/
def ApiFault.failure (r : ApiRequest) : ApiFault → Failure
  | .status 404 _ => .reported (.notFound r.kindWord r.nameWord)
  | .status 409 _ => .reported (.alreadyExists r.kindWord r.nameWord)
  | .status code reason =>
    .reported (.apiServer s!"{r.kindWord} {r.nameWord}: {toString code} {reason}")
  | .transport text => .reported (.apiServer s!"{r.kindWord} {r.nameWord}: {text}")
  | .unexpected text => .defect (.unexpected text)
  | .interrupted => .interrupted

end SubpathCsi
