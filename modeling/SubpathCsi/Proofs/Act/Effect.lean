import SubpathCsi.Proofs.Act.Run

/-!
# What runs do to secrets

A run leaves the remote ends as its exchanges do, one after another. Three requests write secrets;
all others leave the whole cluster as it is.

* `Remote.after`, `Remote.Answers`: the remote ends after a row of exchanges, all of them answered by
  these remote ends;
* `Act.answers_exchanges`, `Act.after_exchanges`: the row of a run;
* `Request.writesSecret`, `Remote.cluster_after`: without a request that writes a secret, the cluster
  stays as it is.
-/

namespace SubpathCsi

/-! ### Rows of exchanges -/

namespace Remote

variable {w : Remote} {es es' : List Exchange}

/-- The remote ends after the requests of a row of exchanges. -/
def after (w : Remote) : List Exchange → Remote
  | [] => w
  | e :: es => (w.answer e.request).2.after es

/-- The remote ends answer a row of exchanges in this way. -/
def Answers (w : Remote) : List Exchange → Prop
  | [] => True
  | e :: es => e.reply = (w.answer e.request).1 ∧ (w.answer e.request).2.Answers es

theorem after_append (w : Remote) (es es' : List Exchange) :
    w.after (es ++ es') = (w.after es).after es' := by
  induction es generalizing w with
  | nil => rfl
  | cons e es ih => exact ih _

theorem answers_append :
    w.Answers (es ++ es') ↔ w.Answers es ∧ (w.after es).Answers es' := by
  induction es generalizing w with
  | nil => exact (and_iff_right trivial).symm
  | cons e es ih =>
    change _ ∧ (w.answer e.request).2.Answers (es ++ es') ↔ (_ ∧ _) ∧ _
    rw [ih, and_assoc]
    rfl

theorem holds_after (w : Remote) (es : List Exchange) : Holds w (w.after es) := by
  induction es generalizing w with
  | nil => exact .refl w
  | cons e es ih => exact (w.holds_answer e.request).trans (ih _)

theorem faults_after (hw : w.faults = []) (es : List Exchange) : (w.after es).faults = [] := by
  induction es generalizing w with
  | nil => exact hw
  | cons e es ih => exact ih (faults_answer hw e.request)

end Remote

namespace Act

variable {α : Type}

/-- A run is answered by the remote ends that it runs on. -/
theorem answers_exchanges (a : Act α) (w : Remote) : w.Answers (a.exchanges w) := by
  induction a generalizing w with
  | pure | fail => trivial
  | ask r next ih => exact ⟨rfl, ih _ _⟩

/-- A run leaves the remote ends as its exchanges do. -/
theorem after_exchanges (a : Act α) (w : Remote) : w.after (a.exchanges w) = (a.run w).2 := by
  induction a generalizing w with
  | pure | fail => rfl
  | ask r next ih => exact ih _ _

end Act

/-! ### Writing secrets -/

/-- The request writes a secret. -/
def Request.writesSecret : Request → Bool
  | .api _ (.createSecret _) | .api _ (.replaceSecret _) | .api _ (.setFinalizers ..) => true
  | _ => false

namespace Remote

variable {w : Remote}

/-- A request that writes no secret leaves the cluster as it is. -/
theorem cluster_answer {r : Request} (hr : r.writesSecret = false) :
    (w.answer r).2.cluster = w.cluster := by
  rw [(w.holds_answer r).cluster]
  cases r with
  | api timeout r =>
    change ({ w.cluster with
      secrets := ((w.logged (.api timeout r)).answerApi r).2.cluster.secrets } : Cluster) = w.cluster
    rw [answerApi]
    split
    · rfl
    · cases r with
      | createSecret | replaceSecret | setFinalizers => cases hr
      | readVolume | listVolumes | readClaim | readClass | readSecret | readReplicaSet
        | createEvent | readDescriptor => rfl
  | http r =>
    change ({ w.cluster with
      secrets := ((w.logged (.http r)).answerHttp r).2.cluster.secrets } : Cluster) = w.cluster
    rw [answerHttp]
    split <;> rfl
  | close | draw | useClusterConfig | useLocalConfig | serve => rfl

/-- Exchanges that write no secret leave the cluster as it is. -/
theorem cluster_after {es : List Exchange} (hes : ∀ e ∈ es, e.request.writesSecret = false) :
    (w.after es).cluster = w.cluster := by
  induction es generalizing w with
  | nil => rfl
  | cons e es ih =>
    have hrest : ∀ e ∈ es, e.request.writesSecret = false := fun e he => hes e (.tail _ he)
    exact (ih hrest).trans (cluster_answer (hes e (.head _)))

/-- The API server does not see a request that meets a fault; else it answers out of the cluster. -/
theorem answer_api_cases (w : Remote) (timeout : Int) (r : ApiRequest) :
    (∃ fault, (w.answer (.api timeout r)).1 = .error fault ∧
        (w.answer (.api timeout r)).2.cluster = w.cluster) ∨
      (w.answer (.api timeout r)).1 = (w.server.answer r w.cluster).1 ∧
        (w.answer (.api timeout r)).2.cluster = (w.server.answer r w.cluster).2 := by
  have heq : w.answer (.api timeout r) = (w.logged (.api timeout r)).answerApi r := rfl
  rw [heq, answerApi]
  split
  · exact .inl ⟨_, rfl, rfl⟩
  · exact .inr ⟨rfl, rfl⟩

variable {first last : List Exchange} {timeout : Int} {r : ApiRequest}

/-- What the API server hands out before a secret is written, it hands out of the first cluster. -/
theorem answer_of_answers {x : r.Answer}
    (h : w.Answers (first ++ ⟨.api timeout r, .ok x⟩ :: last))
    (hfirst : ∀ e ∈ first, e.request.writesSecret = false) :
    (w.server.answer r w.cluster).1 = .ok x := by
  obtain ⟨-, hreply, -⟩ := answers_append.mp h
  have hanswer := answer_of_answer_api hreply.symm
  rwa [cluster_after hfirst, (w.holds_after first).server] at hanswer

theorem answer_of_answers_head {x : r.Answer} (h : w.Answers (⟨.api timeout r, .ok x⟩ :: last)) :
    (w.server.answer r w.cluster).1 = .ok x := answer_of_answer_api h.1.symm

/-- Without faults, so are its refusals. -/
theorem eq_answer_of_answers {x : Except ApiFault r.Answer}
    (h : w.Answers (first ++ ⟨.api timeout r, x⟩ :: last)) (hw : w.faults = [])
    (hfirst : ∀ e ∈ first, e.request.writesSecret = false) :
    x = (w.server.answer r w.cluster).1 := by
  obtain ⟨-, hreply, -⟩ := answers_append.mp h
  have hx : x = ((w.after first).answer (.api timeout r)).1 := hreply
  rw [hx, answer_api (faults_after hw first), cluster_after hfirst, (w.holds_after first).server]

end Remote

end SubpathCsi
