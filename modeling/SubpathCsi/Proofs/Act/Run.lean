import SubpathCsi.Proofs.Act.Trace

/-!
# What runs leave as it is

A run on the remote ends writes nothing but secrets: whatever else the API server holds, it holds
before and after every request, with or without faults on the way to it.

* `ApiServer.answer_keeps`: one request;
* `Remote.Holds`: remote ends with one API server, whose clusters differ in their secrets alone;
* `Act.reply_of_mem_exchanges`: every request of a run is answered by such remote ends;
* `Act.answer_of_mem_exchanges`: what is handed out in a run is in the cluster;
* `Remote.Steady`: the same, of an API server without faults;
* `Act.run_bind_of_ok`, `Act.run_bind_of_error` and their kin: runs of acts in parts;
* `Act.start`: the first exchange of an act, and what is left of it.
-/

namespace SubpathCsi

/-- A request changes nothing of a cluster but its secrets. -/
theorem ApiServer.answer_keeps (server : ApiServer) (r : ApiRequest) (k : Cluster) :
    (server.answer r k).2 = { k with secrets := (server.answer r k).2.secrets } := by
  cases r with
  | createSecret | setFinalizers =>
    rw [answer]
    split <;> rfl
  | replaceSecret s =>
    rw [answer]
    split
    · split <;> rfl
    · rfl
  | readVolume | listVolumes | readClaim | readClass | readSecret | readReplicaSet | createEvent
    | readDescriptor => rfl

theorem Cluster.found_eq_ok {α : Type} {x : Option α} {y : α} : found x = .ok y ↔ x = some y := by
  cases x with
  | none => exact ⟨(nomatch ·), (nomatch ·)⟩
  | some z => rw [found, Except.ok.injEq, Option.some_inj]

namespace Remote

variable {w w' w'' : Remote}

/-- The cluster of `w'` is that of `w`, but for its secrets. -/
structure Holds (w w' : Remote) : Prop where
  /-- Nothing differs but the secrets. -/
  cluster : w'.cluster = { w.cluster with secrets := w'.cluster.secrets }
  /-- The API server is the same. -/
  server : w'.server = w.server

namespace Holds

theorem refl (w : Remote) : Holds w w := ⟨rfl, rfl⟩

theorem trans (h : Holds w w') (h' : Holds w' w'') : Holds w w'' := by
  refine ⟨h'.cluster.trans ?_, h'.server.trans h.server⟩
  rw [h.cluster]

theorem volumes (h : Holds w w') : w'.cluster.volumes = w.cluster.volumes := by
  rw [h.cluster]

theorem descriptors (h : Holds w w') : w'.cluster.descriptors = w.cluster.descriptors := by
  rw [h.cluster]

end Holds

theorem holds_answer (w : Remote) (r : Request) : Holds w (w.answer r).2 := by
  cases r with
  | api timeout r =>
    change Holds w ((w.logged (.api timeout r)).answerApi r).2
    rw [answerApi]
    split
    · exact ⟨rfl, rfl⟩
    · exact ⟨w.server.answer_keeps r w.cluster, rfl⟩
  | http r =>
    change Holds w ((w.logged (.http r)).answerHttp r).2
    rw [answerHttp]
    split <;> exact ⟨rfl, rfl⟩
  | close | draw | useClusterConfig | useLocalConfig | serve => exact ⟨rfl, rfl⟩

/-- What the API server hands out is in the cluster, whatever the faults. -/
theorem answer_of_answer_api {timeout : Int} {r : ApiRequest} {x : r.Answer}
    (h : (w.answer (.api timeout r)).1 = .ok x) : (w.server.answer r w.cluster).1 = .ok x := by
  change ((w.logged (.api timeout r)).answerApi r).1 = .ok x at h
  rw [answerApi] at h
  split at h
  · cases h
  · exact h

/-! ### Without faults -/

/-- Without faults, a request to the API server is answered out of the cluster. -/
theorem answer_api (hw : w.faults = []) (timeout : Int) (r : ApiRequest) :
    w.answer (.api timeout r) =
      ((w.server.answer r w.cluster).1,
        { w.logged (.api timeout r) with cluster := (w.server.answer r w.cluster).2 }) := by
  obtain ⟨cluster, faults⟩ := w
  subst hw
  rfl

theorem answer_api_of_eq {r : ApiRequest} {x : Except ApiFault r.Answer} {k : Cluster}
    (hw : w.faults = []) (timeout : Int) (h : w.server.answer r w.cluster = (x, k)) :
    (w.answer (.api timeout r)).1 = x ∧ (w.answer (.api timeout r)).2.cluster = k := by
  rw [answer_api hw, h]
  exact ⟨rfl, rfl⟩

theorem faults_answer (hw : w.faults = []) (r : Request) : (w.answer r).2.faults = [] := by
  cases r with
  | api timeout r =>
    rw [answer_api hw]
    exact hw
  | http r =>
    change ((w.logged (.http r)).answerHttp r).2.faults = []
    rw [answerHttp]
    split <;> exact hw
  | close | draw | useClusterConfig | useLocalConfig | serve => exact hw

/-- There are no faults on the way to the API server, which holds what it has held. -/
structure Steady (w w' : Remote) : Prop where
  /-- There are no faults. -/
  faults : w'.faults = []
  /-- The cluster is the same, but for its secrets. -/
  holds : Holds w w'

theorem steady_answer (hw : w.faults = []) (r : Request) : Steady w (w.answer r).2 :=
  ⟨faults_answer hw r, holds_answer w r⟩

end Remote

namespace Act

variable {α : Type} {w : Remote} {a : Act α} {e : Exchange}

/-- Every request of a run is answered by remote ends that hold the same, and meet no faults if
there were none at the beginning. -/
theorem reply_of_mem_exchanges (he : e ∈ a.exchanges w) :
    ∃ w', w.Holds w' ∧ (w.faults = [] → w'.faults = []) ∧
      e.reply = (w'.answer e.request).1 := by
  induction a generalizing w with
  | pure | fail => cases he
  | ask r next ih =>
    obtain rfl | he := List.mem_cons.mp he
    · exact ⟨w, .refl w, id, rfl⟩
    · obtain ⟨w', hw', hfaults, hreply⟩ := ih _ he
      exact ⟨w', (w.holds_answer r).trans hw', fun hw => hfaults (w.faults_answer hw r), hreply⟩

/-- What the API server hands out in a run is in the cluster, but for secrets. -/
theorem answer_of_mem_exchanges {timeout : Int} {r : ApiRequest} {x : r.Answer}
    (h : ⟨.api timeout r, .ok x⟩ ∈ a.exchanges w) :
    ∃ secrets, (w.server.answer r { w.cluster with secrets }).1 = .ok x := by
  obtain ⟨w', hw', -, hreply⟩ := reply_of_mem_exchanges h
  have hanswer := Remote.answer_of_answer_api hreply.symm
  rw [hw'.cluster, hw'.server] at hanswer
  exact ⟨w'.cluster.secrets, hanswer⟩

theorem claim?_of_mem_exchanges {timeout : Int} {name space : Json} {claim : Claim}
    (h : ⟨.api timeout (.readClaim name space), .ok claim⟩ ∈ a.exchanges w) :
    w.cluster.claim? name space = some claim := by
  obtain ⟨secrets, hanswer⟩ := answer_of_mem_exchanges h
  exact Cluster.found_eq_ok.mp hanswer

theorem volume?_of_mem_exchanges {timeout : Int} {name : Json} {v : Volume}
    (h : ⟨.api timeout (.readVolume name), .ok v⟩ ∈ a.exchanges w) :
    w.cluster.volume? name = some v := by
  obtain ⟨secrets, hanswer⟩ := answer_of_mem_exchanges h
  exact Cluster.found_eq_ok.mp hanswer

theorem class?_of_mem_exchanges {timeout : Int} {name : Json} {made : StorageClass}
    (h : ⟨.api timeout (.readClass name), .ok made⟩ ∈ a.exchanges w) :
    w.cluster.class? name = some made := by
  obtain ⟨secrets, hanswer⟩ := answer_of_mem_exchanges h
  exact Cluster.found_eq_ok.mp hanswer

theorem steady_run (a : Act α) (hw : w.faults = []) : w.Steady (a.run w).2 := by
  induction a generalizing w with
  | pure | fail => exact ⟨hw, .refl w⟩
  | ask r next ih =>
    have hstep := Remote.steady_answer hw r
    have hrest := ih (w.answer r).1 hstep.faults
    exact ⟨hrest.faults, hstep.holds.trans hrest.holds⟩

end Act

/-! ### Acts in two parts -/

namespace Act

variable {α : Type} {w : Remote}

/-- The first exchange of an act that asks, what is left of the act, and the remote ends then. -/
def start : Act α → Remote → List Exchange × Act α × Remote
  | ask r next, w => ([⟨r, (w.answer r).1⟩], next (w.answer r).1, (w.answer r).2)
  | a, w => ([], a, w)

/-- The first exchange of an act and those of the rest are all its exchanges. -/
theorem exchanges_start (a : Act α) (w : Remote) :
    a.exchanges w = (a.start w).1 ++ (a.start w).2.1.exchanges (a.start w).2.2 := by
  cases a <;> rfl

/-- What is left of an act after its first exchange ends as the whole act does. -/
theorem run_start (a : Act α) (w : Remote) : (a.start w).2.1.run (a.start w).2.2 = a.run w := by
  cases a <;> rfl

theorem steady_start (a : Act α) (hw : w.faults = []) : w.Steady (a.start w).2.2 := by
  cases a with
  | pure | fail => exact ⟨hw, .refl w⟩
  | ask r next => exact Remote.steady_answer hw r

end Act

/-! ### Runs in parts -/

namespace Remote

variable {w w' : Remote}

theorem Steady.refl (hw : w.faults = []) : w.Steady w := ⟨hw, .refl w⟩

/-- Whatever is run, an API server without faults holds what it has held. -/
theorem Steady.run {α : Type} (h : w.Steady w') (a : Act α) : w.Steady (a.run w').2 :=
  have hrun := Act.steady_run a h.faults
  ⟨hrun.faults, h.holds.trans hrun.holds⟩

end Remote

namespace Act

variable {α β : Type} {w : Remote} {a : Act α}

/-- What comes after a result runs where the result was found. -/
theorem run_bind_of_ok {x : α} (h : (a.run w).1 = .ok x) (k : α → Act β) :
    (a >>= k).run w = (k x).run (a.run w).2 := by
  refine (run_bind a k w).trans ?_
  generalize a.run w = ran at h
  obtain ⟨_, w'⟩ := ran
  cases h
  rfl

/-- After a failure, nothing comes. -/
theorem run_bind_of_error {f : Failure} (h : (a.run w).1 = .error f) (k : α → Act β) :
    ((a >>= k).run w).1 = .error f := by
  have hrun : (a >>= k).run w = _ := run_bind a k w
  rw [hrun]
  generalize a.run w = ran at h
  obtain ⟨_, w'⟩ := ran
  cases h
  rfl

/-- What would handle a failure leaves a result as it is. -/
theorem run_rescue_of_ok {x : α} (h : (a.run w).1 = .ok x) (g : Failure → Act α) :
    ((a.rescue g).run w).1 = .ok x := by
  rw [run_rescue]
  generalize a.run w = ran at h
  obtain ⟨_, w'⟩ := ran
  cases h
  rfl

/-- What handles a failure runs where that has happened. -/
theorem run_rescue_of_error {f : Failure} (h : (a.run w).1 = .error f) (g : Failure → Act α) :
    (a.rescue g).run w = (g f).run (a.run w).2 := by
  rw [run_rescue]
  generalize a.run w = ran at h
  obtain ⟨_, w'⟩ := ran
  cases h
  rfl

end Act

end SubpathCsi
