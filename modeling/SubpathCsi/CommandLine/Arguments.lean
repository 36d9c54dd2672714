import SubpathCsi.Number.Integer
import SubpathCsi.Text.Split

/-!
# Arguments of the command line

A command comes first, then its options and arguments in any order; after two dashes everything is
an argument. Whatever does not fit is a mistake of usage.

* `Arguments.split?` tells options and arguments apart;
* `Command.ofArgs?` reads a command.
-/

namespace SubpathCsi

/-- Options with their values, and arguments. -/
structure Arguments where
  /-- The options, in order. -/
  options : List (String × String) := []
  /-- The arguments, in order. -/
  values : List String := []
  deriving Repr

namespace Arguments

/-- The name and the value of an option that holds its value after an equals sign. -/
def inlineValue? (arg : String) : Option (String × String) :=
  (Text.cutFirst? '=' arg.toList).map fun (name, value) =>
    (String.ofList name, String.ofList value)

/-- An argument that begins with a dash, and is more than that, is an option. -/
def isOption (arg : String) : Bool := beginsWith "-" arg && arg.length > 1

/-- Tells options and arguments apart. Every option has one of the names and takes a value. -/
def split? (names : List String) : List String → Option Arguments
  | [] => some {}
  | "--" :: rest => some { values := rest }
  | [arg] =>
    if !isOption arg then some { values := [arg] }
    else match inlineValue? arg with
      | some (name, value) =>
        if name ∈ names then some { options := [(name, value)] } else none
      | none => none
  | arg :: value :: rest =>
    if !isOption arg then
      (split? names (value :: rest)).map fun a => { a with values := arg :: a.values }
    else if arg ∈ names then
      (split? names rest).map fun a => { a with options := (arg, value) :: a.options }
    else match inlineValue? arg with
      | some (name, inline) =>
        if name ∈ names then
          (split? names (value :: rest)).map fun a =>
            { a with options := (name, inline) :: a.options }
        else none
      | none => none

/-- The value of an option; of several the last. -/
def option? (a : Arguments) (name : String) : Option String := a.options.reverse.lookup name

end Arguments

/-- A command. -/
inductive Command where
  /-- Serves the webhook. -/
  | serve (host : Option String) (port : Option Int) (logLevel : String)
  /-- Shows which volumes share the subpath of a volume. -/
  | subpathRefs (volume : String)
  /-- Shows a filesystem descriptor. -/
  | descriptor (name : String)
  deriving DecidableEq, Repr

namespace Command

/-- The option that names the address to listen on. -/
def hostOption : String := "--host"

/-- The option that names the port to listen on. -/
def portOption : String := "--port"

/-- The option that tells how much to say. -/
def logLevelOption : String := "--log-level"

/-- The command that serves the webhook. -/
def serveOf? (args : List String) : Option Command := do
  let a ← Arguments.split? [hostOption, portOption, logLevelOption] args
  guard a.values.isEmpty
  let port ← match a.option? portOption with
    | none => some none
    | some text => (Integer.ofText? text).map some
  return serve (a.option? hostOption) port ((a.option? logLevelOption).getD "info")

/-- The one argument of a command without options. -/
def soleArgument? (args : List String) : Option String := do
  match (← Arguments.split? [] args).values with
  | [value] => some value
  | _ => none

/-- The command that arguments give. -/
def ofArgs? : List String → Option Command
  | "--" :: name :: args => named? name args
  | name :: args => named? name args
  | [] => none
where
  /-- The command with a name. -/
  named? (name : String) (args : List String) : Option Command :=
    match name with
    | "serve" => serveOf? args
    | "subpath-refs" => (soleArgument? args).map subpathRefs
    | "descriptor" => (soleArgument? args).map descriptor
    | _ => none

end Command

end SubpathCsi
