import SubpathCsi.Kube.Request

/-!
# The objects of a cluster

What an API server holds, and how it answers a request. Objects are found by their name, and those
that live in a namespace by their namespace as well. Only secrets are ever written, and what the
server makes of them is a parameter.

* `putBy`: an object takes the place of the one that it is put for, or goes to the end;
* `ApiServer`: what is kept of a secret that is written;
* `ApiServer.answer`: the answer to a request, and the cluster after it.
-/

namespace SubpathCsi

/-- The objects of a cluster. -/
structure Cluster where
  /-- The volumes. -/
  volumes : List Volume := []
  /-- The claims. -/
  claims : List Claim := []
  /-- The storage classes. -/
  classes : List StorageClass := []
  /-- The secrets. -/
  secrets : List Secret := []
  /-- The replica sets. -/
  replicaSets : List ReplicaSet := []
  /-- The filesystem descriptors, as they are stored. -/
  descriptors : List Json := []
  deriving Repr

/-- A name in a request is that of an object. -/
def Json.isText (j : Json) (s : String) : Bool :=
  match j with
  | .str t => t = s
  | _ => false

/-- A namespace in a request is that of an object. -/
def Json.isText? (j : Json) (s : Option String) : Bool :=
  match j, s with
  | .null, none => true
  | j, some s => j.isText s
  | _, none => false

/-- Metadata with a name, in a namespace. -/
def ObjectMeta.isAt (m : ObjectMeta) (name space : Json) : Bool :=
  name.isText m.name && space.isText? m.space

/-- Metadata of the same object. -/
def ObjectMeta.sameAs (m n : ObjectMeta) : Bool := m.name = n.name && m.space = n.space

/-- Puts an object in the place of the first that it is put for, or at the end. -/
def putBy {α : Type} (same : α → Bool) (x : α) : List α → List α
  | [] => [x]
  | y :: ys => if same y then x :: ys else y :: putBy same x ys

/-- The name of a descriptor as it is stored. -/
def descriptorName? (raw : Json) : Option String :=
  ((raw.get? "metadata").bind (·.get? "name")).bind Json.str?

namespace Cluster

/-- The refusal for an absent object. -/
def absent : ApiFault := .status 404 "Not Found"

/-- The refusal for an object that is there already. -/
def conflict : ApiFault := .status 409 "Conflict"

/-- An object that may be absent. -/
def found {α : Type} (x : Option α) : Except ApiFault α :=
  match x with
  | some x => .ok x
  | none => .error absent

/-- The volume with a name. -/
def volume? (k : Cluster) (name : Json) : Option Volume :=
  k.volumes.find? (name.isText ·.name)

/-- The claim with a name, in a namespace. -/
def claim? (k : Cluster) (name space : Json) : Option Claim :=
  k.claims.find? (·.metadata.isAt name space)

/-- The storage class with a name. -/
def class? (k : Cluster) (name : Json) : Option StorageClass :=
  k.classes.find? (name.isText ·.name)

/-- The secret with a name, in a namespace. -/
def secret? (k : Cluster) (name space : Json) : Option Secret :=
  k.secrets.find? (·.metadata.isAt name space)

/-- The replica set with a name, in a namespace. -/
def replicaSet? (k : Cluster) (name space : Json) : Option ReplicaSet :=
  k.replicaSets.find? (·.metadata.isAt name space)

/-- The descriptor with a name. -/
def descriptor? (k : Cluster) (name : Json) : Option Json :=
  k.descriptors.find? fun raw => (descriptorName? raw).any name.isText

/-- Puts a volume in its place. -/
def putVolume (k : Cluster) (v : Volume) : Cluster :=
  { k with volumes := putBy (·.metadata.sameAs v.metadata) v k.volumes }

/-- Puts a claim in its place. -/
def putClaim (k : Cluster) (c : Claim) : Cluster :=
  { k with claims := putBy (·.metadata.sameAs c.metadata) c k.claims }

/-- Puts a storage class in its place. -/
def putClass (k : Cluster) (c : StorageClass) : Cluster :=
  { k with classes := putBy (·.metadata.sameAs c.metadata) c k.classes }

/-- Puts a secret in its place. -/
def putSecret (k : Cluster) (s : Secret) : Cluster :=
  { k with secrets := putBy (·.metadata.sameAs s.metadata) s k.secrets }

/-- Puts a replica set in its place. -/
def putReplicaSet (k : Cluster) (s : ReplicaSet) : Cluster :=
  { k with replicaSets := putBy (·.metadata.sameAs s.metadata) s k.replicaSets }

/-- Puts a descriptor in its place. -/
def putDescriptor (k : Cluster) (raw : Json) : Cluster :=
  { k with descriptors := putBy (descriptorName? · = descriptorName? raw) raw k.descriptors }

/-- Drops the volumes with a name. -/
def dropVolume (k : Cluster) (name : String) : Cluster :=
  { k with volumes := k.volumes.filter (·.name ≠ name) }

/-- The secrets in the order of their namespaces and names. -/
def sortedSecrets (k : Cluster) : List Secret :=
  k.secrets.mergeSort fun a b =>
    let key (s : Secret) := (s.metadata.space.getD "", s.name)
    let (p, q) := (key a, key b)
    p.1 < q.1 || (p.1 = q.1 && !(q.2 < p.2))

end Cluster

/-- How an API server writes secrets. It may keep something else than it is sent, since a part of the
metadata is its own, and it may refuse a secret that is to take the place of another. None of this is
up to the controller. -/
structure ApiServer where
  /-- What is kept of a secret that is made. -/
  create : (sent : Secret) → Secret
  /-- What is kept of a secret that is to take the place of another, or why it may not. -/
  replace : (present sent : Secret) → Except ApiFault Secret
  /-- What becomes of a secret whose finalizers are set. -/
  patch : (present : Secret) → (finalizers : List String) → Secret

namespace ApiServer

/-- An API server that keeps what it is sent, and refuses nothing. -/
def inPlace : ApiServer where
  create sent := sent
  replace _ sent := .ok sent
  patch present finalizers :=
    { present with metadata := { present.metadata with finalizers := some finalizers } }

/-- The answer to a request, and the cluster after it. -/
def answer (server : ApiServer) :
    (r : ApiRequest) → Cluster → Except ApiFault r.Answer × Cluster
  | .readVolume name, k => (Cluster.found (k.volume? name), k)
  | .listVolumes, k => (.ok k.volumes, k)
  | .readClaim name space, k => (Cluster.found (k.claim? name space), k)
  | .readClass name, k => (Cluster.found (k.class? name), k)
  | .readSecret name space, k => (Cluster.found (k.secret? name space), k)
  | .createSecret s, k =>
    match k.secret? s.nameJson s.spaceJson with
    | some _ => (.error Cluster.conflict, k)
    | none => (.ok (server.create s), { k with secrets := k.secrets ++ [server.create s] })
  | .replaceSecret s, k =>
    match k.secret? s.nameJson s.spaceJson with
    | some old =>
      match server.replace old s with
      | .ok kept => (.ok kept, k.putSecret kept)
      | .error fault => (.error fault, k)
    | none => (.error Cluster.absent, k)
  | .setFinalizers name space finalizers, k =>
    match k.secret? name space with
    | some old => (.ok (server.patch old finalizers), k.putSecret (server.patch old finalizers))
    | none => (.error Cluster.absent, k)
  | .readReplicaSet name space, k => (Cluster.found (k.replicaSet? name space), k)
  | .createEvent .., k => (.ok (), k)
  | .readDescriptor name, k => (Cluster.found (k.descriptor? name), k)

end ApiServer

end SubpathCsi
