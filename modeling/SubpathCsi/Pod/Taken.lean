import SubpathCsi.Json.Shape
import SubpathCsi.Sidecar.Build

/-!
# Names that a pod has

The names of the containers and volumes of a pod, which what is added to it must not have.
-/

namespace SubpathCsi

namespace Pod

/-- What a pod says under a key of its specification, item by item. -/
def specItems (spec : Json) (key : String) : Except Failure (List Json) := do
  (← spec.findD key .null).each

/-- A value that can be compared with names: a list or an object can not. -/
def comparable (j : Json) : Except Failure Unit :=
  match j with
  | .arr _ | .obj _ => .error (.defect (.wrongType ("unhashable type: '" ++ j.typeName ++ "'")))
  | _ => .ok ()

/-- The names of items. A name that is no text is no name that anything else could have. -/
def names (items : List Json) : Except Failure (List String) := do
  let values ← items.mapM fun item => do
    let name ← item.entry "name"
    comparable name
    return name
  return values.filterMap Json.str?

/-- The names of the containers and init containers that a specification lists. -/
def containerNames (spec : Json) : Except Failure (List String) := do
  let containers ← names (← specItems spec "containers")
  let inits ← names (← specItems spec "initContainers")
  return containers ++ inits

/-- The names of the volumes that a specification lists. -/
def volumeNames (spec : Json) : Except Failure (List String) := do
  names (← specItems spec "volumes")

end Pod

/-- The sidecar with names that are free in a pod. -/
def Sidecar.renameIn (s : Sidecar) (pod : Json) (index : Int) : Except Failure Sidecar := do
  let spec ← pod.findD "spec" (.obj [])
  let containers ← Pod.containerNames spec
  let volumes ← Pod.volumeNames spec
  return s.rename containers volumes index

end SubpathCsi
