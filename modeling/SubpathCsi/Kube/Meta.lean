import SubpathCsi.Calendar.Reader
import SubpathCsi.Json.Display

/-!
# Parts of Kubernetes objects

Objects of the API server are read from JSON and written to it. A field that is null counts as
absent; a scalar in the place of a text is shown as one. Of the fields that the controller does not
look at, those that objects of the kind have are kept as they are, and all others are dropped.

* `ObjectMeta`: name, namespace, labels, annotations, finalizers and owners of an object;
* `ObjectRef`: a reference to an object by name and namespace.
-/

namespace SubpathCsi

namespace Json

/-- The member of an object under a key, unless it is null. -/
def given? (j : Json) (key : String) : Option Json :=
  match j.get? key with
  | some null => none
  | v => v

/-- The text of a scalar. -/
def asText : Json → String := display

/-- The text under a key. -/
def text? (j : Json) (key : String) : Option String := (j.given? key).map asText

/-- The list of texts under a key. -/
def texts? (j : Json) (key : String) : Option (List String) :=
  match j.given? key with
  | some (arr xs) => some (xs.map asText)
  | _ => none

/-- The map of texts under a key. -/
def textMap? (j : Json) (key : String) : Option (Keyed String) :=
  match j.given? key with
  | some (obj ms) => some (ms.map fun p => (p.1, asText p.2))
  | _ => none

/-- The members of an object that are not null and under one of the keys. -/
def others (j : Json) (keys : List String) : Keyed Json :=
  match j with
  | obj ms => ms.filter fun p => keys.contains p.1 && (match p.2 with
    | null => false
    | _ => true)
  | _ => []

/-- The truth value under a key. -/
def flag? (j : Json) (key : String) : Option Bool := (j.given? key).map isPresent

/-- A member for a text, if there is one. -/
def textMember (key : String) (v : Option String) : Keyed Json :=
  (v.map fun s => (key, str s)).toList

/-- A member for a list of texts, if there is one. -/
def textsMember (key : String) (v : Option (List String)) : Keyed Json :=
  (v.map fun xs => (key, ofTexts xs)).toList

/-- A member for a map of texts, if there is one. -/
def textMapMember (key : String) (v : Option (Keyed String)) : Keyed Json :=
  (v.map fun m => (key, ofStrings m)).toList

/-- A member for a truth value, if there is one. -/
def flagMember (key : String) (v : Option Bool) : Keyed Json :=
  (v.map fun b => (key, bool b)).toList

/-- A member for a value, if there is one. -/
def member (key : String) (v : Option Json) : Keyed Json := (v.map fun j => (key, j)).toList

end Json

/-- A part of a message for a value that may be absent. -/
def orNone (v : Option String) : String := v.getD "None"

/-- A text as JSON; null if it is absent. -/
def Json.ofText? (v : Option String) : Json :=
  match v with
  | some s => .str s
  | none => .null

/-- The owner of an object. -/
structure OwnerReference where
  /-- The version of its API. -/
  apiVersion : String
  /-- Its kind. -/
  kind : String
  /-- Its name. -/
  name : String
  /-- Its identifier. -/
  uid : String
  /-- Its deletion waits for this object. -/
  blockOwnerDeletion : Option Bool := none
  /-- It controls this object. -/
  controller : Option Bool := none
  deriving DecidableEq, Repr

namespace OwnerReference

/-- Reads an owner. -/
def ofJson (j : Json) : OwnerReference where
  apiVersion := (j.text? "apiVersion").getD ""
  kind := (j.text? "kind").getD ""
  name := (j.text? "name").getD ""
  uid := (j.text? "uid").getD ""
  blockOwnerDeletion := j.flag? "blockOwnerDeletion"
  controller := j.flag? "controller"

/-- Writes an owner. -/
def toJson (o : OwnerReference) : Json :=
  .obj ([("apiVersion", .str o.apiVersion), ("kind", .str o.kind), ("name", .str o.name),
    ("uid", .str o.uid)] ++ Json.flagMember "blockOwnerDeletion" o.blockOwnerDeletion ++
    Json.flagMember "controller" o.controller)

end OwnerReference

/-- What all objects have. -/
structure ObjectMeta where
  /-- The name. -/
  name : String
  /-- The namespace, for objects that live in one. -/
  space : Option String := none
  /-- The identifier. -/
  uid : Option String := none
  /-- The labels. -/
  labels : Option (Keyed String) := none
  /-- The annotations. -/
  annotations : Option (Keyed String) := none
  /-- What has to be done before the object may go. -/
  finalizers : Option (List String) := none
  /-- The owners. -/
  ownerReferences : Option (List OwnerReference) := none
  /-- When the deletion of the object was asked for. -/
  deletionTimestamp : Option String := none
  /-- When the object was made. -/
  creationTimestamp : Option String := none
  /-- Everything else. -/
  others : Keyed Json := []
  deriving Repr

namespace ObjectMeta

/-- A point of time in the usual form. -/
def timeText (s : String) : String :=
  match DateTime.ofText? s with
  | some t => t.text "T"
  | none => s

/-- Reads the metadata of an object. -/
def ofJson (object : Json) : ObjectMeta :=
  let j := (object.given? "metadata").getD (.obj [])
  { name := (j.text? "name").getD ""
    space := j.text? "namespace"
    uid := j.text? "uid"
    labels := j.textMap? "labels"
    annotations := j.textMap? "annotations"
    finalizers := j.texts? "finalizers"
    ownerReferences := match j.given? "ownerReferences" with
      | some (.arr xs) => some (xs.map OwnerReference.ofJson)
      | _ => none
    deletionTimestamp := (j.text? "deletionTimestamp").map timeText
    creationTimestamp := (j.text? "creationTimestamp").map timeText
    others := j.others ["deletionGracePeriodSeconds", "generateName", "generation",
      "managedFields", "resourceVersion", "selfLink"] }

/-- Writes metadata. -/
def toJson (m : ObjectMeta) : Json :=
  .obj (Json.textMember "name" (if m.name.isEmpty then none else some m.name) ++
    Json.textMember "namespace" m.space ++ Json.textMember "uid" m.uid ++
    Json.textMapMember "labels" m.labels ++ Json.textMapMember "annotations" m.annotations ++
    Json.textsMember "finalizers" m.finalizers ++
    Json.member "ownerReferences"
      (m.ownerReferences.map fun os => .arr (os.map OwnerReference.toJson)) ++
    Json.textMember "deletionTimestamp" m.deletionTimestamp ++
    Json.textMember "creationTimestamp" m.creationTimestamp ++ m.others)

/-- The labels; none if absent. -/
def labelMap (m : ObjectMeta) : Keyed String := m.labels.getD []

/-- The annotations; none if absent. -/
def annotationMap (m : ObjectMeta) : Keyed String := m.annotations.getD []

/-- The object is not being deleted. -/
def isLive (m : ObjectMeta) : Bool := m.deletionTimestamp.isNone

end ObjectMeta

/-- A reference to an object. -/
structure ObjectRef where
  /-- The name. -/
  name : Option String
  /-- The namespace. -/
  space : Option String
  /-- Everything else. -/
  others : Keyed Json := []
  deriving Repr

namespace ObjectRef

/-- Reads a reference to a secret: a name in a namespace. -/
def ofSecretJson (j : Json) : ObjectRef where
  name := j.text? "name"
  space := j.text? "namespace"

/-- Reads a reference to an object of any kind. -/
def ofJson (j : Json) : ObjectRef :=
  { ofSecretJson j with
    others := j.others ["apiVersion", "fieldPath", "kind", "resourceVersion", "uid"] }

/-- Writes a reference. -/
def toJson (r : ObjectRef) : Json :=
  .obj (Json.textMember "name" r.name ++ Json.textMember "namespace" r.space ++ r.others)

/-- Both references name the same object. -/
def sameObject (a b : ObjectRef) : Bool := a.name = b.name && a.space = b.space

end ObjectRef

end SubpathCsi
