import SubpathCsi.Credential
import SubpathCsi.Json.Printer
import SubpathCsi.Remote.Cluster
import SubpathCsi.Remote.Fault

/-!
# Remote ends

The remote ends as a value: the cluster, the faults on the way to it, the rules of the services, the
numbers to be drawn, and a log of all requests. An act runs on it to a result.

* `Remote.answer`: the answer to one request;
* `Act.run`: an act, run to its end;
* `Act.run_bind`, `Act.run_rescue`: running is step by step.
-/

namespace SubpathCsi

/-- The remote ends. -/
structure Remote where
  /-- The objects of the cluster. -/
  cluster : Cluster := {}
  /-- The API server, as far as it has its own way with secrets. -/
  server : ApiServer := .inPlace
  /-- The faults on the way to it. -/
  faults : List Fault := []
  /-- The rules of the services. -/
  rules : List Rule := []
  /-- The numbers to be drawn; after them their own count is drawn. -/
  draws : List Int := []
  /-- How many numbers have been drawn. -/
  drawn : Nat := 0
  /-- The program runs in the cluster. -/
  inCluster : Bool := true
  /-- The requests so far; draws are not among them. -/
  log : List Request := []

namespace Remote

/-- The owner that claims are granted when no rule says otherwise. -/
def usualOwner : String := "0xabc"

/-- What comes after the last slash. -/
def lastPart (url : String) : String :=
  String.ofList (url.toList.reverse.takeWhile (· ≠ '/')).reverse

/-- The response of a service that has no rule for a request: claims are granted, certificates are
handed out, and everything else is well. -/
def usualResponse (r : HttpRequest) : HttpResponse :=
  let body : Json :=
    if ResourceServer.claimsPath.toList.isSuffixOf r.url.toList then
      .obj [("owner", .str usualOwner), ("action", ((r.body.bind (·.get? "action")).getD .null))]
    else if occursIn ResourceServer.certsPath r.url then
      let owner := lastPart r.url
      .obj [("ca", .str ("CA-" ++ owner)), ("cert", .str ("CERT-" ++ owner)),
        ("key", .str ("KEY-" ++ owner))]
    else .obj []
  { status := 200, text := body.text }

/-- The remote ends with one more request in the log. -/
def logged (w : Remote) (r : Request) : Remote := { w with log := w.log ++ [r] }

/-- The answer of the API server, or the fault on the way to it. -/
def answerApi (r : ApiRequest) (w : Remote) : Except ApiFault r.Answer × Remote :=
  match Fault.first r w.faults with
  | (some fault, faults) => (.error fault, { w with faults })
  | (none, faults) =>
    let (reply, cluster) := w.server.answer r w.cluster
    (reply, { w with faults, cluster })

/-- The answer of a service: as a rule has it, or the usual response. -/
def answerHttp (r : HttpRequest) (w : Remote) : Except HttpFault HttpResponse × Remote :=
  match Rule.first r w.rules with
  | (some outcome, rules) => (outcome, { w with rules })
  | (none, rules) => (.ok (usualResponse r), { w with rules })

/-- The answer to one request, which is logged first. -/
def answer : (r : Request) → Remote → Reply r × Remote
  | .api timeout r, w => (w.logged (.api timeout r)).answerApi r
  | .http r, w => (w.logged (.http r)).answerHttp r
  | .close, w => ((), w.logged .close)
  | .draw, w => (w.draws.getD w.drawn w.drawn, { w with drawn := w.drawn + 1 })
  | .useClusterConfig, w => (w.inCluster, w.logged .useClusterConfig)
  | .useLocalConfig, w => ((), w.logged .useLocalConfig)
  | .serve settings, w => ((), w.logged (.serve settings))

end Remote

namespace Act

variable {α β : Type}

/-- Runs an act to its end. -/
def run : Act α → Remote → Except Failure α × Remote
  | pure a, w => (.ok a, w)
  | fail f, w => (.error f, w)
  | ask r next, w => (next (w.answer r).1).run (w.answer r).2

/-- One act after another runs where the first has left off. -/
theorem run_bind (a : Act α) (k : α → Act β) (w : Remote) :
    (a.bind k).run w =
      match a.run w with
      | (.ok x, w) => (k x).run w
      | (.error f, w) => (.error f, w) := by
  induction a generalizing w with
  | pure | fail => rfl
  | ask r next ih => exact ih _ _

/-- What comes after a failure runs where it has happened. -/
theorem run_rescue (a : Act α) (h : Failure → Act α) (w : Remote) :
    (a.rescue h).run w =
      match a.run w with
      | (.ok x, w) => (.ok x, w)
      | (.error f, w) => (h f).run w := by
  induction a generalizing w with
  | pure | fail => rfl
  | ask r next ih => exact ih _ _

end Act

end SubpathCsi
