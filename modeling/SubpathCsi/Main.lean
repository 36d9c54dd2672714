import SubpathCsi.CommandLine.Commands
import SubpathCsi.Remote

/-!
# The command line

Reads the environment and the configuration file, runs a command, prints what it says and ends with
its status. This program has no way to remote ends of its own: to every command they are out of
reach.
-/

open SubpathCsi

/-- The variable that names the configuration file. -/
def configPathName : String := "CFS_CONFIG_PATH"

/-- The variables of the settings that are set. -/
def readEnvironment : IO (Keyed String) := do
  let pairs ← Setting.all.mapM fun s => do
    return (← IO.getEnv s.envName).map fun value => (s.envName, value)
  return pairs.filterMap id

/-- The configuration's source: a file, if there is one, and the environment. -/
def readSource : IO ConfigSource := do
  let path := (← IO.getEnv configPathName).getD Config.defaultPath
  let file ← try some <$> IO.FS.readFile path catch _ => pure none
  return { path, file, env := ← readEnvironment }

/-- Remote ends that are out of reach. -/
def outOfReach : Remote where
  faults := ApiVerb.all.map fun verb => { verb := some verb, effect := .transport "out of reach" }
  rules := [{ outcome := .error ⟨.connection, "out of reach"⟩ }]

def main (args : List String) : IO UInt32 := do
  let source ← readSource
  let outcome := Outcome.ofResult ((Command.runArgs source args).run outOfReach).1
  IO.print outcome.output
  IO.eprint outcome.errors
  return outcome.exit.toUInt32
