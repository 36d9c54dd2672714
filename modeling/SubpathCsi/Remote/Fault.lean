import SubpathCsi.Act
import SubpathCsi.Text.Split

/-!
# Faults and rules

What may go wrong on the way to the API server, and how the services that are asked over HTTP
answer. A fault or a rule says which requests it is for and how many of them.

* `Fault.first`: the fault that a request meets, and the faults after it;
* `Rule.first`: the outcome that a rule has for a request, and the rules after it.
-/

namespace SubpathCsi

/-- Takes the first of a list that fits and has uses left, and one of its uses. -/
def takeFirst {α : Type} (fits : α → Bool) (spend : α → α) : List α → Option α × List α
  | [] => (none, [])
  | x :: xs =>
    if fits x then (some x, spend x :: xs)
    else
      let (found, rest) := takeFirst fits spend xs
      (found, x :: rest)

/-- A fault on the way to the API server. -/
structure Fault where
  /-- The requests that meet it; none does if there is no such request. -/
  verb : Option ApiVerb
  /-- The name or namespace that they have to give. -/
  name : Option String := none
  /-- How often it happens still. -/
  uses : Nat := 1
  /-- What happens. -/
  effect : ApiFault
  deriving Repr

namespace Fault

/-- A request meets a fault. -/
def fits (r : ApiRequest) (f : Fault) : Bool :=
  f.uses ≠ 0 && f.verb = some r.verb &&
    f.name.all fun s => r.names.any fun j =>
      match j with
      | .str t => t = s
      | _ => false

/-- The fault that a request meets, and the faults after it. -/
def first (r : ApiRequest) (fs : List Fault) : Option ApiFault × List Fault :=
  let (found, fs) := takeFirst (fits r) (fun f => { f with uses := f.uses - 1 }) fs
  (found.map (·.effect), fs)

end Fault

/-- A rule of a service. -/
structure Rule where
  /-- The method of the requests that it is for. -/
  method : Option String := none
  /-- A part of their address. -/
  path : Option String := none
  /-- How often it is used still. -/
  uses : Nat := 1
  /-- What comes back. -/
  outcome : Except HttpFault HttpResponse

namespace Rule

/-- A rule is for a request. -/
def fits (r : HttpRequest) (rule : Rule) : Bool :=
  rule.uses ≠ 0 && rule.method.all (· = r.method.name) && rule.path.all (occursIn · r.url)

/-- The outcome that a rule has for a request, and the rules after it. -/
def first (r : HttpRequest) (rules : List Rule) :
    Option (Except HttpFault HttpResponse) × List Rule :=
  let (found, rules) := takeFirst (fits r) (fun f => { f with uses := f.uses - 1 }) rules
  (found.map (·.outcome), rules)

end Rule

end SubpathCsi
