import SubpathCsi.Proofs.Json.Shape
import SubpathCsi.Proofs.Services

/-!
# What the answer of a manager comes to

A manager is asked to take note of changed claims or to remove a subpath. Its answer decides what
the call comes to. A response counts as good unless its status is 400 or above; then it is an error
of the manager, told by a body that is no JSON or that is an object. Any other JSON cannot be asked
for a reason, and the call breaks. Without a response, the call tells whether it took too long,
there was no connection, or the request did not work. The connection is closed in every case.

* `Manager.GivesReason`: a body that tells the reason of an error;
* `Manager.Task`: what a manager is asked to do;
* `Manager.answer_of_trace`: what its answer comes to.
-/

namespace SubpathCsi

variable {c : Config} {es : List Exchange}

/-- The request ends a connection. -/
def Request.isClose : Request → Bool
  | .close => true
  | _ => false

namespace Manager

/-! ### Reasons -/

/-- A body tells a reason unless it is JSON without members. -/
def GivesReason (text : String) : Prop := ∀ j, Json.parse text = .ok j → j.IsObject

theorem exists_reason_of_givesReason {text : String} (h : GivesReason text) :
    ∃ words, reason text = .ok words := by
  rw [reason]
  cases hparse : Json.parse text with
  | error e => exact ⟨text, rfl⟩
  | ok j =>
    obtain ⟨ms, rfl⟩ := h j hparse
    exact ⟨_, rfl⟩

theorem exists_defect_of_not_givesReason {text : String} (h : ¬GivesReason text) :
    ∃ cause, reason text = .error (.defect cause) := by
  rw [reason]
  cases hparse : Json.parse text with
  | error e =>
    refine absurd (fun j hj => ?_) h
    rw [hparse] at hj
    cases hj
  | ok j =>
    cases j with
    | obj ms =>
      refine absurd (fun j hj => ?_) h
      cases hparse.symm.trans hj
      exact ⟨ms, rfl⟩
    | null | bool | int | float | str | arr => exact ⟨_, rfl⟩

/-! ### Answers -/

variable {response : HttpResponse} {y : Except HttpFault HttpResponse}

theorem outcome_of_lt (h : response.status < 400) : outcome c (.ok response) = .ok () :=
  if_neg (Int.not_le.mpr h)

theorem outcome_of_le (h : 400 ≤ response.status) :
    outcome c (.ok response) = reason response.text >>= fun words =>
      .error (.reported (.managerFailure ("HTTP " ++ toString response.status ++ ": " ++ words))) :=
  if_pos h

/-- The exceptions that tell that something took too long. -/
def tooLate : List HttpFaultClass := [.timeout, .readTimeout, .connectTimeout]

/-- The exceptions that tell that no connection came about. -/
def notConnected : List HttpFaultClass := [.connection, .ssl, .proxy]

theorem isA_timeout_iff (kind : HttpFaultClass) : kind.isA .timeout = true ↔ kind ∈ tooLate := by
  cases kind <;> decide

/-- No exception tells both: connecting in time comes first. -/
theorem not_mem_notConnected {kind : HttpFaultClass} (h : kind ∈ tooLate) :
    kind ∉ notConnected := by
  revert h
  cases kind <;> decide

theorem isA_connection_iff {kind : HttpFaultClass} (h : kind ∉ tooLate) :
    kind.isA .connection = true ↔ kind ∈ notConnected := by
  revert h
  cases kind <;> decide

/-- Without a response, the class of the exception decides. -/
theorem outcome_error (kind : HttpFaultClass) (text : String) :
    outcome c (.error ⟨kind, text⟩) =
      .error (.reported (
        if kind ∈ tooLate then .timeout serviceName c.fsManagerTimeout
        else if kind ∈ notConnected then .connection serviceName text
        else .managerFailure text)) := by
  rw [outcome, faultError, HttpFault.caught]
  by_cases hlate : kind ∈ tooLate
  · rw [if_pos hlate, if_pos ((isA_timeout_iff kind).mpr hlate)]
  · rw [if_neg hlate, if_neg (mt (isA_timeout_iff kind).mp hlate)]
    simp only [isA_connection_iff hlate]

/-- What a call has come to, told by the answer of the manager, and the other way round. -/
structure Follows (c : Config) (y : Except HttpFault HttpResponse) (r : Except Failure Unit) :
    Prop where
  /-- It returns exactly after a response with a status below 400. -/
  returns : r = .ok () ↔ ∃ response, y = .ok response ∧ response.status < 400
  /-- It is an error of the manager exactly after a response with a status of 400 or above whose
  body tells a reason, and after a request that did not work. -/
  refused : (∃ details, r = .error (.reported (.managerFailure details))) ↔
    (∃ response, y = .ok response ∧ 400 ≤ response.status ∧ GivesReason response.text) ∨
      ∃ kind text, kind ∉ tooLate ∧ kind ∉ notConnected ∧ y = .error ⟨kind, text⟩
  /-- The error tells the status and the reason. -/
  told : ∀ response, y = .ok response → 400 ≤ response.status → ∀ words,
    reason response.text = .ok words → r = .error (.reported (.managerFailure
      ("HTTP " ++ toString response.status ++ ": " ++ words)))
  /-- It breaks exactly after such a response whose body tells none. -/
  breaks : (∃ cause, r = .error (.defect cause)) ↔
    ∃ response, y = .ok response ∧ 400 ≤ response.status ∧ ¬GivesReason response.text
  /-- It has taken too long exactly if there was no response in time. -/
  late : r = .error (.reported (.timeout serviceName c.fsManagerTimeout)) ↔
    ∃ kind ∈ tooLate, ∃ text, y = .error ⟨kind, text⟩
  /-- There was no connection exactly if none came about. -/
  unconnected : ∀ text, r = .error (.reported (.connection serviceName text)) ↔
    ∃ kind ∈ notConnected, y = .error ⟨kind, text⟩

/-- A response is foreseen if its status is one of success or one of an error, and in the latter
case its body tells a reason. -/
def IsForeseen (response : HttpResponse) : Prop :=
  200 ≤ response.status ∧ response.status < 300 ∨
    400 ≤ response.status ∧ GivesReason response.text

/-- After a response that is foreseen, a call returns exactly if the status is one of success, and
otherwise there is an error of the manager. -/
theorem Follows.of_isForeseen {r : Except Failure Unit} (h : Follows c (.ok response) r)
    (hforeseen : IsForeseen response) :
    (r = .ok () ↔ 200 ≤ response.status ∧ response.status < 300) ∧
      (r = .ok () ∨ ∃ details, r = .error (.reported (.managerFailure details))) := by
  obtain ⟨hle, hlt⟩ | ⟨hle, hgives⟩ := hforeseen
  · have hok : r = .ok () := h.returns.mpr ⟨response, rfl, by omega⟩
    exact ⟨iff_of_true hok ⟨hle, hlt⟩, .inl hok⟩
  · obtain ⟨details, hr⟩ := h.refused.mpr (.inl ⟨response, rfl, hle, hgives⟩)
    refine ⟨iff_of_false ?_ (by omega), .inr ⟨details, hr⟩⟩
    rw [hr]
    exact nofun

/-- What an answer comes to follows from it. -/
theorem follows_outcome (c : Config) (y : Except HttpFault HttpResponse) :
    Follows c y (outcome c y) := by
  cases y with
  | error fault =>
    obtain ⟨kind, text⟩ := fault
    rw [outcome_error]
    by_cases hlate : kind ∈ tooLate
    · rw [if_pos hlate]
      have hconnected : kind ∉ notConnected := not_mem_notConnected hlate
      constructor <;> simp [hlate, hconnected]
    · rw [if_neg hlate]
      by_cases hconnected : kind ∈ notConnected
      · rw [if_pos hconnected]
        constructor <;> simp [hlate, hconnected]
      · rw [if_neg hconnected]
        constructor <;> simp [hlate, hconnected]
  | ok response =>
    by_cases hstatus : response.status < 400
    · rw [outcome_of_lt hstatus]
      have hnot : ¬400 ≤ response.status := Int.not_le.mpr hstatus
      constructor <;> simp [hstatus, hnot]
    · have hle : 400 ≤ response.status := Int.not_lt.mp hstatus
      rw [outcome_of_le hle]
      by_cases hgives : GivesReason response.text
      · obtain ⟨words, hwords⟩ := exists_reason_of_givesReason hgives
        rw [hwords]
        change Follows c _ (.error (.reported (.managerFailure _)))
        constructor <;> simp [hstatus, hle, hgives, hwords]
      · obtain ⟨cause, hcause⟩ := exists_defect_of_not_givesReason hgives
        rw [hcause]
        change Follows c _ (.error (.defect cause))
        constructor <;> simp [hstatus, hle, hgives, hcause]

/-! ### Calls -/

/-- What a manager is asked to do. -/
inductive Task where
  /-- To take note that the claims of its filesystem have changed. -/
  | update
  /-- To remove a subpath and its data. -/
  | removal (subpath : String)

/-- The call by which the manager of a filesystem is asked. -/
def Task.act (c : Config) (d : Descriptor) (credential : Credential) : Task → Act Unit
  | update => updateFilesystem c d credential
  | removal subpath => deleteSubpath c d credential subpath

variable {d : Descriptor} {credential : Credential}

/-- Both calls send one request. -/
theorem Task.exists_act_eq (c : Config) (d : Descriptor) (credential : Credential) (task : Task) :
    ∃ method path body, task.act c d credential = send c method path d credential.owner body := by
  cases task with
  | update => exact ⟨_, _, _, rfl⟩
  | removal subpath => exact ⟨_, _, _, rfl⟩

/-- **Answers of managers.** When a manager has been asked, it was asked once, and the connection
was closed once; and what the call has come to follows from the answer. So after a response that is
foreseen it returns exactly if the status is one of success. -/
theorem answer_of_trace {task : Task} {r : Except Failure Unit}
    (h : (task.act c d credential).Trace es r)
    (hasked : ∃ e ∈ es, e.request.asksManager = true) :
    ∃ q y, es.filter (·.request.asksManager) = [⟨.http q, y⟩] ∧
      es.countP (·.request.isClose) = 1 ∧ Follows c y r ∧
      ∀ response, y = .ok response → IsForeseen response →
        (r = .ok () ↔ 200 ≤ response.status ∧ response.status < 300) ∧
          (r = .ok () ∨ ∃ details, r = .error (.reported (.managerFailure details))) := by
  obtain ⟨method, path, body, hact⟩ := task.exists_act_eq c d credential
  rw [hact] at h
  obtain ⟨x, ⟨f, -, rfl, -⟩ | ⟨tls, y, -, rfl, rfl⟩⟩ := trace_send.mp h
  · obtain ⟨e, he, hmanager⟩ := hasked
    cases List.mem_singleton.mp he
    cases hmanager
  · refine ⟨requestTo c tls method path d body, y, rfl, rfl, follows_outcome c y, ?_⟩
    rintro response rfl hforeseen
    exact (follows_outcome c (.ok response)).of_isForeseen hforeseen

/-- With good certificates a manager may give any answer. -/
theorem Task.exists_trace (task : Task) {x : Except HttpFault HttpResponse}
    (hx : certifies x = true) (y : Except HttpFault HttpResponse) :
    ∃ q es, (Request.http q).asksManager = true ∧ ⟨.http q, y⟩ ∈ es ∧
      (task.act c d credential).Trace es (outcome c y) := by
  obtain ⟨method, path, body, hact⟩ := task.exists_act_eq c d credential
  obtain ⟨tls, htls⟩ := tlsOf_of_certifies (c := c) hx credential.owner
  refine ⟨requestTo c tls method path d body, sent c tls method path d credential.owner body x y,
    rfl, .tail _ (.head _), ?_⟩
  rw [hact]
  exact trace_send.mpr ⟨x, .inr ⟨tls, y, htls, rfl, rfl⟩⟩

/-- A filesystem. -/
def teamDescriptor : Descriptor where
  name := "shared-fs"
  filesystemName := "data"
  metadataService := "meta.example:9000"

/-- The permission to remove a subpath of it. -/
def teamCredential : Credential := ⟨.str Remote.usualOwner, .str "DELETE"⟩

/-- The removal of a subpath of it. -/
def teamRemoval : Act Unit := (Task.removal "pv-1").act {} teamDescriptor teamCredential

theorem exists_trace_teamRemoval (y : Except HttpFault HttpResponse) :
    ∃ q es, (Request.http q).asksManager = true ∧ ⟨.http q, y⟩ ∈ es ∧
      teamRemoval.Trace es (outcome {} y) := by
  have hcertifies : certifies (.ok obligingResponse) = true := by decide +kernel
  exact Task.exists_trace _ hcertifies y

/-- The manager says that the subpath is in use. -/
def busyResponse : HttpResponse := ⟨409, "\x7b\"code\": 9, \"message\": \"subpath busy\"\x7d"⟩

theorem answer_of_trace_busyResponse :
    ∃ es, teamRemoval.Trace es
        (.error (.reported (.managerFailure "HTTP 409: code 9: subpath busy"))) ∧
      (∃ e ∈ es, e.request.asksManager = true) ∧ es.countP (·.request.isClose) = 1 := by
  obtain ⟨q, es, hq, hmem, h⟩ := exists_trace_teamRemoval (.ok busyResponse)
  have hasked : ∃ e ∈ es, e.request.asksManager = true := ⟨_, hmem, hq⟩
  obtain ⟨q', y, hfilter, hclose, hfollows, -⟩ := answer_of_trace h hasked
  -- the manager was asked once, so its answer is this one
  have hone : (⟨.http q, .ok busyResponse⟩ : Exchange) ∈ es.filter (·.request.asksManager) :=
    List.mem_filter.mpr ⟨hmem, hq⟩
  rw [hfilter] at hone
  cases List.mem_singleton.mp hone
  have hreason : (reason busyResponse.text).toOption = some "code 9: subpath busy" := by
    decide +kernel
  have htold := hfollows.told busyResponse rfl (by decide) _ (toOption_eq_some.mp hreason)
  refine ⟨es, ?_, hasked, hclose⟩
  rw [htold] at h
  exact h

/-- A status that is neither good nor an error lets the removal return, and a list for a body makes
it break. -/
theorem answers_teamRemoval :
    (∃ q es, (Request.http q).asksManager = true ∧ ⟨.http q, .ok ⟨304, ""⟩⟩ ∈ es ∧
      teamRemoval.Trace es (.ok ())) ∧
    ∃ q es cause, (Request.http q).asksManager = true ∧ ⟨.http q, .ok ⟨500, "[]"⟩⟩ ∈ es ∧
      teamRemoval.Trace es (.error (.defect cause)) := by
  constructor
  · obtain ⟨q, es, hq, hmem, h⟩ := exists_trace_teamRemoval (.ok ⟨304, ""⟩)
    exact ⟨q, es, hq, hmem, h⟩
  · obtain ⟨q, es, hq, hmem, h⟩ := exists_trace_teamRemoval (.ok ⟨500, "[]"⟩)
    have hnot : ¬GivesReason "[]" := by
      intro hgives
      have hparse : (Json.parse "[]").toOption.map (·.members?.isSome) = some false := by
        decide +kernel
      cases hj : Json.parse "[]" with
      | error e =>
        rw [hj] at hparse
        cases hparse
      | ok j =>
        obtain ⟨ms, rfl⟩ := hgives j hj
        rw [hj] at hparse
        cases hparse
    obtain ⟨cause, hcause⟩ := (follows_outcome {} (.ok ⟨500, "[]"⟩)).breaks.mpr
      ⟨_, rfl, by decide, hnot⟩
    rw [hcause] at h
    exact ⟨q, es, cause, hq, hmem, h⟩

end Manager

end SubpathCsi
