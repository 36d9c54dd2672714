import SubpathCsi.Descriptor.Basic
import SubpathCsi.Json.Display
import SubpathCsi.Json.Shape

/-!
# Runtime classes

A pod runs under one trust domain. A virtual machine is the least; one volume that needs a trusted
execution environment lifts the whole pod to it.

* `RuntimeClass.expected`: the domain that all volumes together need;
* `RuntimeClass.choose`: the class of a pod, its own if that is trusted enough;
* `RuntimeClass.inject`: the pod with a class and the annotation that names its domain.
-/

namespace SubpathCsi

namespace RuntimeClass

/-- The domain that all volumes together need. -/
def expected (domains : List RuntimeDomain) : RuntimeDomain :=
  if domains.contains .tee then .tee else .vm

/-- Fails because a class is not known. -/
def unsupported {α : Type} (name : String) : Except Failure α :=
  .error (.reported (.unsupportedRuntimeClass name))

/-- The domain of a class. -/
def domainOf (c : Config) (name : String) : Except Failure RuntimeDomain :=
  if c.teeRuntimeClassNames.contains name then .ok .tee
  else if c.vmRuntimeClassNames.contains name then .ok .vm
  else unsupported name

/-- The preferred class of a domain. -/
def preferred (c : Config) (domain : RuntimeDomain) : Except Failure String :=
  let names := match domain with
    | .tee => c.teeRuntimeClassNames
    | .vm => c.vmRuntimeClassNames
  match names with
  | [] => unsupported ("<none configured for " ++ domain.name ++ ">")
  | name :: _ => .ok name

/-- The class for a pod that asks for one or for none, where a domain is needed. -/
def select (c : Config) (requested : Option String) (needed : RuntimeDomain) :
    Except Failure String :=
  match requested with
  | none => preferred c needed
  | some name => do
    let domain ← domainOf c name
    if domain = .vm && needed = .tee then preferred c .tee else return name

/-- The class that a pod asks for. A class that is no text is not known. -/
def requested (pod : Json) : Except Failure (Option String) := do
  let spec ← pod.findD "spec" (.obj [])
  let value ← spec.findD "runtimeClassName" .null
  if !value.isPresent then return none
  else match value with
    | .str name => return some name
    | other => unsupported other.display

/-- The class for a pod where a domain is needed. -/
def choose (c : Config) (pod : Json) (needed : RuntimeDomain) : Except Failure String := do
  select c (← requested pod) needed

/-- The pod with a class, and with the annotation that names the domain of the class. -/
def inject (c : Config) (pod : Json) (name : String) : Except Failure Json := do
  let domain ← domainOf c name
  let spec ← (← pod.findD "spec" (.obj [])).assign "runtimeClassName" (.str name)
  let pod ← pod.assign "spec" spec
  let metadata ← pod.findD "metadata" (.obj [])
  let old ← metadata.findD "annotations" .null
  let annotations ←
    (if old.isPresent then old else .obj []).assign runtimeKey (.str domain.name)
  let metadata ← metadata.assign "annotations" annotations
  pod.assign "metadata" metadata

end RuntimeClass

end SubpathCsi
