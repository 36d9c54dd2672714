import SubpathCsi.Act
import SubpathCsi.Pod.Taken
import SubpathCsi.Sidecar.Commands

/-!
# Mount paths

A sidecar mounts its filesystem at a path of its own: a directory with a name of six random letters
under the base of all mounts. A path that a container of the pod uses already is not taken.

Names are drawn until one is free. A loop would do so without a bound; an act comes to an end whatever
it is answered, so `drawFree` is `interrupted` where a loop would go on, after as many names in vain
as there are names (`attempts`).
-/

namespace SubpathCsi.MountPath

/-- The letters of names. -/
def letters : List Char := "abcdefghijklmnopqrstuvwxyzABCDEFGHIJKLMNOPQRSTUVWXYZ".toList

/-- The letter for a number. -/
def letter (n : Int) : Char := letters.getD (n % letters.length).toNat 'a'

/-- The number of letters of a name. -/
def nameLength : Nat := 6

/-- Random letters. -/
def drawLetters : Nat → Act (List Char)
  | 0 => return []
  | n + 1 => do
    let i ← Act.request .draw
    let rest ← drawLetters n
    return letter i :: rest

/-- A random path under a base. -/
def draw (base : String) : Act String := do
  return joinPath base (String.ofList (← drawLetters nameLength))

/-- The first random path that is not taken, of so many at most. A loop would draw on after these, and
an act is interrupted. -/
def drawFree (base : String) (taken : List String) : Nat → Act String
  | 0 => Act.fail .interrupted
  | n + 1 => do
    let path ← draw base
    if path ∈ taken then drawFree base taken n else return path

/-- How many paths are drawn at most: as many as there are names. -/
def attempts : Nat := Nat.pow letters.length nameLength

/-- The mount paths of the items of a list of mounts. -/
def mountsPaths (mounts : List Json) : Except Failure (List String) := do
  let values ← mounts.mapM fun m => do
    let path ← m.findD "mountPath" .null
    Pod.comparable path
    return path
  return values.filterMap Json.str?

/-- The mount paths of the containers of a pod. -/
def taken (pod : Json) : Except Failure (List String) := do
  let spec ← pod.findD "spec" (.obj [])
  let paths ← (← Pod.specItems spec "containers").mapM fun container => do
    mountsPaths (← (← container.findD "volumeMounts" .null).each)
  return paths.flatten

/-- A free path in a pod. -/
def free (c : Config) (pod : Json) : Act String := do
  drawFree c.podMountBase (← taken pod) attempts

end SubpathCsi.MountPath
