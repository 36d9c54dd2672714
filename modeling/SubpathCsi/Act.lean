import SubpathCsi.Http.Basic
import SubpathCsi.Kube.Request

/-!
# Acts

What the controller does is an act: a tree of requests to the outside, each followed by one act for
every answer that may come. An act thereby says nothing of who answers. A statement about all its
branches holds whatever the remote ends do.

* `Request`, `Reply`: what can be asked, and what can be answered;
* `Act`: the tree, a monad in which `Act.fail` gives up;
* `Act.rescue` and its kin go on after a failure;
* `Act.bind_pure`, `Act.bind_assoc`, `Act.rescue_fail`: the laws.
-/

namespace SubpathCsi

/-- The settings that the webhook is served with. -/
structure ServeSettings where
  /-- The address that it listens on. -/
  host : String
  /-- The port that it listens on. -/
  port : Int
  /-- The file of its certificate. -/
  certFile : Option String
  /-- The file of its key. -/
  keyFile : Option String
  /-- How much it tells of its work. -/
  logLevel : String
  deriving DecidableEq, Repr

/-- What can be asked of the outside. -/
inductive Request where
  /-- Asks the API server, and waits so many seconds. -/
  | api (timeout : Int) (request : ApiRequest)
  /-- Asks a service over HTTP. -/
  | http (request : HttpRequest)
  /-- Ends a connection to a filesystem manager. -/
  | close
  /-- Draws a number at random. -/
  | draw
  /-- Takes the credentials of the cluster that the program runs in; the answer tells whether there
  is one. -/
  | useClusterConfig
  /-- Takes the credentials of the user. -/
  | useLocalConfig
  /-- Serves the webhook until it ends. -/
  | serve (settings : ServeSettings)
  deriving Repr

/-- What can be answered. -/
@[reducible] def Reply : Request → Type
  | .api _ request => Except ApiFault request.Answer
  | .http _ => Except HttpFault HttpResponse
  | .close => Unit
  | .draw => Int
  | .useClusterConfig => Bool
  | .useLocalConfig => Unit
  | .serve _ => Unit

/-- An act with a result. -/
inductive Act (α : Type) where
  /-- It is done. -/
  | pure (a : α)
  /-- It gives up. -/
  | fail (f : Failure)
  /-- It asks, and goes on with the answer. -/
  | ask (r : Request) (next : Reply r → Act α)

namespace Act

variable {α β γ : Type}

/-- One act after another, which takes the result of the first. -/
def bind : Act α → (α → Act β) → Act β
  | pure a, k => k a
  | fail f, _ => fail f
  | ask r next, k => ask r fun x => (next x).bind k

instance : Monad Act where
  pure := pure
  bind := bind

/-- Goes on after a failure. -/
def rescue : Act α → (Failure → Act α) → Act α
  | pure a, _ => pure a
  | fail f, h => h f
  | ask r next, h => ask r fun x => (next x).rescue h

/-- The result of a computation that asks nothing. -/
def ofExcept : Except Failure α → Act α
  | .ok a => pure a
  | .error f => fail f

instance : MonadLift (Except Failure) Act := ⟨ofExcept⟩

/-- Gives up with an error that the controller reports. -/
def report (e : ControllerError) : Act α := fail (.reported e)

/-- Gives up because of a malformed request. -/
def refuse (cause : BadArgument) : Act α := report (.invalidArgument cause)

/-- Asks once. -/
def request (r : Request) : Act (Reply r) := ask r pure

/-- Goes on after an error that the controller reports. -/
def rescueReported (a : Act α) (h : ControllerError → Act α) : Act α :=
  a.rescue fun f =>
    match f with
    | .reported e => h e
    | f => fail f

/-- Goes on when an object is absent. -/
def rescueNotFound (a : Act α) (h : ControllerError → Act α) : Act α :=
  a.rescueReported fun e =>
    match e with
    | .notFound .. => h e
    | e => report e

/-- Goes on after every failure but an interruption. -/
def rescueAll (a : Act α) (h : Failure → Act α) : Act α :=
  a.rescue fun f =>
    match f with
    | .interrupted => fail .interrupted
    | f => h f

/-! ### Laws -/

@[simp] theorem pure_bind (a : α) (k : α → Act β) : (pure a).bind k = k a := rfl

@[simp] theorem fail_bind (f : Failure) (k : α → Act β) : (fail f : Act α).bind k = fail f := rfl

@[simp] theorem bind_pure (a : Act α) : a.bind pure = a := by
  induction a with
  | pure | fail => rfl
  | ask r next ih => simp [bind, ih]

theorem bind_assoc (a : Act α) (k : α → Act β) (l : β → Act γ) :
    (a.bind k).bind l = a.bind fun x => (k x).bind l := by
  induction a with
  | pure | fail => rfl
  | ask r next ih => simp [bind, ih]

@[simp] theorem rescue_pure (a : α) (h : Failure → Act α) : (pure a).rescue h = pure a := rfl

@[simp] theorem rescue_fail_apply (f : Failure) (h : Failure → Act α) :
    (fail f : Act α).rescue h = h f := rfl

/-- Giving up again after every failure changes nothing. -/
@[simp] theorem rescue_fail (a : Act α) : a.rescue fail = a := by
  induction a with
  | pure | fail => rfl
  | ask r next ih => simp [rescue, ih]

instance : LawfulMonad Act :=
  LawfulMonad.mk' Act (fun a => bind_pure a) (fun _ _ => rfl) (fun a k l => bind_assoc a k l)

end Act

end SubpathCsi
