import SubpathCsi.Proofs.Volume.Permission

/-!
# Failures that services cause

When the resource server or a filesystem manager does not do what it is asked, the call that has asked
fails, and the failure tells its caller what to do next: a denial is final, everything else may be
tried again. That is the promise. It is kept for every answer of the two services but these: an
answer that is JSON of a shape that is not foreseen ends in a defect, and an expansion tells of
certificates that are denied as if they could be asked for again.

* `Verdict`, `Exchange.verdict`: what an answer amounts to;
* `Verdict.Causes`, `Verdict.Promises`: the failure that comes of it, and the one that is promised;
* `Act.Shows`: an act fails with the failure that a service has caused;
* `provision_shows`, `Volume.delete_shows`, `Expansion.request_shows`: the calls of the provisioning
  controller, one by one;
* `shown_of_trace`: for every answer, what comes of it, and whether the promise is kept.
-/

namespace SubpathCsi

variable {c : Config} {α β : Type}

/-! ### Verdicts -/

/-- What an answer of a service amounts to. -/
inductive Verdict where
  /-- What was asked for. -/
  | good
  /-- A refusal. -/
  | denied
  /-- A failure of a kind that is foreseen. -/
  | failed
  /-- An answer that cannot be read. -/
  | garbled
  deriving DecidableEq, Repr

namespace Verdict

/-- The verdict on an answer of the resource server, whose JSON is judged by `judge`. -/
def ofServer (judge : Json → Verdict) : Except HttpFault HttpResponse → Verdict
  | .error _ => failed
  | .ok r =>
    if r.status = 401 || r.status = 403 then denied
    else if r.status ≥ 400 then failed
    else match Json.parse r.text with
      | .ok j => judge j
      | .error _ => failed

/-- The verdict on an answer to the question whether a claim may be acted for. -/
def ofGrant : Json → Verdict
  | .obj ms => if (Keyed.get? ms "owner").any Json.isPresent then good else denied
  | _ => garbled

/-- The verdict on an answer that should hold certificates. -/
def ofCertificates : Json → Verdict
  | .obj ms =>
    if ["ca", "cert", "key"].all fun key => (Keyed.get? ms key).isSome then
      if ["ca", "cert", "key"].all fun key => ((Keyed.get? ms key).bind Json.str?).isSome then good
      else garbled
    else failed
  | _ => garbled

/-- The verdict on an answer of a filesystem manager. -/
def ofManager : Except HttpFault HttpResponse → Verdict
  | .error _ => failed
  | .ok r =>
    if r.status ≥ 400 then
      match Json.parse r.text with
      | .ok (.obj _) | .error _ => failed
      | .ok _ => garbled
    else good

/-- The failure is the one that comes of an answer. -/
def Causes : Verdict → Failure → Prop
  | good, _ => False
  | denied, f => ∃ action details, f = .reported (.permissionDenied action details)
  | failed, f => ∃ e, f = .reported e ∧ e.retryable = true
  | garbled, f => ∃ reason, f = .defect reason

/-- The failure is the one that is promised for an answer: a denial is final, and everything else may
be tried again. -/
def Promises : Verdict → Failure → Prop
  | good, _ => False
  | denied, f => ∃ action details, f = .reported (.permissionDenied action details)
  | failed, f | garbled, f => ∃ e, f = .reported e ∧ e.retryable = true

/-- A call that was given an answer has this outcome because of it, unless the answer is good. -/
def ShowsIn (v : Verdict) (o : Except Failure α) : Prop :=
  v = good ∨ ∃ f, o = .error f ∧ v.Causes f

/-- The outcome of a call that was given an answer is as promised. -/
def KeptIn (v : Verdict) (o : Except Failure α) : Prop :=
  v = good ∨ ∃ f, o = .error f ∧ v.Promises f

variable {v : Verdict} {f : Failure} {o : Except Failure α}

theorem ShowsIn.of_causes (h : v.Causes f) : v.ShowsIn (.error f : Except Failure α) :=
  .inr ⟨f, rfl, h⟩

/-- A failure is shown whatever the call was for. -/
theorem ShowsIn.error (h : v.ShowsIn (.error f : Except Failure α)) :
    v.ShowsIn (.error f : Except Failure β) := by
  obtain hgood | ⟨_, ⟨⟩, hcauses⟩ := h
  · exact .inl hgood
  · exact .inr ⟨f, rfl, hcauses⟩

/-- A call that succeeds was given a good answer. -/
theorem ShowsIn.eq_good {x : α} (h : v.ShowsIn (.ok x : Except Failure α)) : v = good := by
  obtain hgood | ⟨f, hf, -⟩ := h
  · exact hgood
  · cases hf

theorem ShowsIn.bind {x : Except Failure α} {k : α → Except Failure β} (h : v.ShowsIn x) :
    v.ShowsIn (x >>= k) := by
  cases x with
  | error f => exact h.error
  | ok a => exact .inl h.eq_good

/-- The promise is kept unless the answer cannot be read. -/
theorem ShowsIn.keptIn_iff (h : v.ShowsIn o) : v.KeptIn o ↔ v ≠ garbled := by
  obtain rfl | ⟨f, rfl, hcauses⟩ := h
  · exact iff_of_true (.inl rfl) (nofun)
  · cases v with
    | good => exact hcauses.elim
    | denied | failed => exact iff_of_true (.inr ⟨f, rfl, hcauses⟩) (nofun)
    | garbled =>
      refine iff_of_false ?_ (fun hne => hne rfl)
      obtain ⟨reason, rfl⟩ := hcauses
      rintro (hgood | ⟨_, ⟨⟩, e, he, -⟩)
      · cases hgood
      · cases he

end Verdict

/-! ### What comes of an answer -/

/-- What becomes of an exception is retryable if it is in all three clauses. -/
theorem HttpFault.retryable_caught {late : ControllerError}
    {unconnected broken : String → ControllerError} (hlate : late.retryable = true)
    (hunconnected : ∀ text, (unconnected text).retryable = true)
    (hbroken : ∀ text, (broken text).retryable = true) (fault : HttpFault) :
    (fault.caught late unconnected broken).retryable = true := by
  rw [caught]
  split
  · exact hlate
  · split
    · exact hunconnected _
    · exact hbroken _

theorem ResourceServer.retryable_faultError (fault : HttpFault) :
    (faultError c fault).retryable = true :=
  fault.retryable_caught rfl (fun _ => rfl) fun _ => rfl

theorem Manager.retryable_faultError (fault : HttpFault) :
    (faultError c fault).retryable = true :=
  fault.retryable_caught rfl (fun _ => rfl) fun _ => rfl

/-- What asking the resource server comes to shows the verdict on its answer, if what is made of the
JSON does. -/
theorem ResourceServer.outcome_shows {judge : Json → Verdict} {purpose : String}
    {k : Json → Except Failure α} (hk : ∀ j, (judge j).ShowsIn (k j))
    (x : Except HttpFault HttpResponse) :
    (Verdict.ofServer judge x).ShowsIn (outcome c purpose x >>= k) := by
  cases x with
  | error fault => exact .of_causes ⟨_, rfl, retryable_faultError fault⟩
  | ok r =>
    rw [Verdict.ofServer, outcome, read]
    by_cases hdenied : (decide (r.status = 401) || decide (r.status = 403)) = true
    · rw [if_pos hdenied, if_pos hdenied]
      exact .of_causes ⟨_, _, rfl⟩
    · rw [if_neg hdenied, if_neg hdenied]
      by_cases hfailed : r.status ≥ 400
      · rw [if_pos hfailed, if_pos hfailed]
        exact .of_causes ⟨_, rfl, rfl⟩
      · rw [if_neg hfailed, if_neg hfailed]
        cases Json.parse r.text with
        | error reason => exact .of_causes ⟨_, rfl, rfl⟩
        | ok j => exact hk j

theorem Credential.outcome_shows (space name : Json) (action : FsAction)
    (x : Except HttpFault HttpResponse) :
    (Verdict.ofServer .ofGrant x).ShowsIn (outcome c space name action x) := by
  refine ResourceServer.outcome_shows (fun j => ?_) x
  cases j with
  | obj ms =>
    rw [Verdict.ofGrant]
    split
    · exact .inl rfl
    · next howner =>
      have habsent : ((Keyed.get? ms "owner").getD .null).isPresent = false := by
        cases hget : Keyed.get? ms "owner" with
        | none => rfl
        | some owner =>
          rw [hget, Option.any_some] at howner
          exact Bool.eq_false_iff.mpr howner
      have hdenied : ofAnswer space name action (.obj ms) = .error (.reported (.permissionDenied
          action.name ("no owner granted for " ++ ApiRequest.spaced name space))) := by
        rw [ofAnswer]
        change (if (!((Keyed.get? ms "owner").getD .null).isPresent) = true then _ else _) = _
        rw [habsent]
        rfl
      rw [hdenied]
      exact .of_causes ⟨_, _, rfl⟩
  | null | bool | int | float | str | arr => exact .of_causes ⟨_, rfl⟩

/-- A part of the certificates that is missing is foreseen. -/
theorem Certificates.part_obj (owner : Json) (ms : Keyed Json) (key : String) :
    part owner (.obj ms) key =
      match Keyed.get? ms key with
      | some w => .ok w
      | none => .error (.reported (.internal
          ("client certs of " ++ owner.display ++ " missing " ++ quoted key))) := by
  rw [part, Json.entry]
  cases Keyed.get? ms key <;> rfl

/-- A certificate that is no text cannot be written. -/
theorem Manager.pem_cases (j : Json) :
    (j.str? = none ∧ ∃ reason, pem j = .error (.defect reason)) ∨
      ∃ s, j.str? = some s ∧ pem j = .ok s := by
  cases j with
  | str s => exact .inr ⟨s, rfl, rfl⟩
  | null | bool | int | float | arr | obj => exact .inl ⟨rfl, _, rfl⟩

/-- The verdict on certificates that are all there. -/
def Verdict.ofTexts (parts : List Json) : Verdict :=
  if parts.all (·.str?.isSome) then good else garbled

theorem Manager.clientTls_shows (ca cert key : Json) :
    (Verdict.ofTexts [ca, cert, key]).ShowsIn (clientTls c ⟨ca, cert, key⟩) := by
  rw [clientTls]
  obtain ⟨hca, reason, hpem⟩ | ⟨caText, hca, hcaPem⟩ := pem_cases ca
  · have hverdict : Verdict.ofTexts [ca, cert, key] = .garbled := by simp [Verdict.ofTexts, hca]
    rw [hverdict, hpem]
    exact .of_causes ⟨reason, rfl⟩
  obtain ⟨hcert, reason, hpem⟩ | ⟨certText, hcert, hcertPem⟩ := pem_cases cert
  · have hverdict : Verdict.ofTexts [ca, cert, key] = .garbled := by simp [Verdict.ofTexts, hcert]
    rw [hverdict, hcaPem, hpem]
    exact .of_causes ⟨reason, rfl⟩
  obtain ⟨hkey, reason, hpem⟩ | ⟨keyText, hkey, hkeyPem⟩ := pem_cases key
  · have hverdict : Verdict.ofTexts [ca, cert, key] = .garbled := by simp [Verdict.ofTexts, hkey]
    rw [hverdict, hcaPem, hcertPem, hpem]
    exact .of_causes ⟨reason, rfl⟩
  · exact .inl (by simp [Verdict.ofTexts, hca, hcert, hkey])

theorem Manager.tlsOf_shows (owner : Json) (x : Except HttpFault HttpResponse) :
    (Verdict.ofServer .ofCertificates x).ShowsIn (tlsOf c owner x) := by
  have hassoc : tlsOf c owner x = ResourceServer.outcome c "get client certs" x >>= fun j =>
      Certificates.ofAnswer owner j >>= clientTls c := bind_assoc ..
  rw [hassoc]
  refine ResourceServer.outcome_shows (fun j => ?_) x
  cases j with
  | null | bool | int | float | str | arr => exact .of_causes ⟨_, rfl⟩
  | obj ms =>
    have hmissing : ∀ key ∈ ["ca", "cert", "key"], Keyed.get? ms key = none →
        Verdict.ofCertificates (.obj ms) = .failed := by
      intro key hkey hnone
      refine if_neg fun hall => ?_
      have hsome := List.all_eq_true.mp hall key hkey
      rw [hnone] at hsome
      cases hsome
    rw [Certificates.ofAnswer]
    simp only [Certificates.part_obj]
    -- the first part that is missing is complained of
    cases hca : Keyed.get? ms "ca" with
    | none =>
      rw [hmissing "ca" (.head _) hca]
      exact .of_causes ⟨_, rfl, rfl⟩
    | some ca =>
      cases hcert : Keyed.get? ms "cert" with
      | none =>
        rw [hmissing "cert" (.tail _ (.head _)) hcert]
        exact .of_causes ⟨_, rfl, rfl⟩
      | some cert =>
        cases hkey : Keyed.get? ms "key" with
        | none =>
          rw [hmissing "key" (.tail _ (.tail _ (.head _))) hkey]
          exact .of_causes ⟨_, rfl, rfl⟩
        | some key =>
          have hverdict : Verdict.ofCertificates (.obj ms) = .ofTexts [ca, cert, key] := by
            simp [Verdict.ofCertificates, Verdict.ofTexts, hca, hcert, hkey]
          rw [hverdict]
          exact clientTls_shows ca cert key

theorem Manager.outcome_shows (y : Except HttpFault HttpResponse) :
    (Verdict.ofManager y).ShowsIn (outcome c y) := by
  cases y with
  | error fault => exact .of_causes ⟨_, rfl, retryable_faultError fault⟩
  | ok r =>
    rw [Verdict.ofManager, outcome, read]
    by_cases hstatus : r.status ≥ 400
    · rw [if_pos hstatus, if_pos hstatus, reason]
      cases Json.parse r.text with
      | error reason => exact .of_causes ⟨_, rfl, rfl⟩
      | ok j =>
        cases j with
        | obj ms => exact .of_causes ⟨_, rfl, rfl⟩
        | null | bool | int | float | str | arr => exact .of_causes ⟨_, rfl⟩
    · rw [if_neg hstatus, if_neg hstatus]
      exact .inl rfl

/-! ### Acts that show what services have caused -/

/-- The verdict on an exchange. The API server is not judged. -/
def Exchange.verdict : Exchange → Verdict
  | ⟨.http r, x⟩ =>
    match r.service, r.method with
    | .resourceServer _, .get => .ofServer .ofCertificates x
    | .resourceServer _, _ => .ofServer .ofGrant x
    | .manager _, _ => .ofManager x
  | _ => .good

theorem Exchange.verdict_of_isHttp {e : Exchange} (h : e.request.isHttp = false) :
    e.verdict = .good := by
  obtain ⟨r, x⟩ := e
  cases r with
  | http r => cases h
  | api | close | draw | useClusterConfig | useLocalConfig | serve => rfl

namespace Act

variable {judge : Exchange → Verdict}

/-- However the act ends, every answer on the way shows in its outcome, if it is judged by `judge`. -/
def Shows (judge : Exchange → Verdict) (a : Act α) : Prop :=
  ∀ es o, a.Trace es o → ∀ e ∈ es, (judge e).ShowsIn o

theorem shows_of_asks {a : Act α} (hjudge : ∀ e, e.request.isHttp = false → judge e = .good)
    (ha : a.Asks fun r => r.isHttp = false) : a.Shows judge := by
  intro es o h e he
  exact .inl (hjudge e (ha.of_mem h he))

theorem shows_once {r : Request} {g : Reply r → Except Failure α}
    (h : ∀ x, (judge ⟨r, x⟩).ShowsIn (g x)) : (once r g).Shows judge := by
  intro es o ht e he
  obtain ⟨x, rfl, rfl⟩ := trace_once.mp ht
  obtain rfl := List.mem_singleton.mp he
  exact h x

theorem asks_rescueNotFound_refuse {P : Request → Prop} {a : Act α}
    {g : ControllerError → BadArgument} (ha : a.Asks P) :
    (a.rescueNotFound fun e => refuse (g e)).Asks P := by
  refine ha.rescue fun f => ?_
  split
  · dsimp only
    split <;> trivial
  · trivial

/-- In a sequence, the second act goes on only after good answers. -/
theorem Shows.bind {a : Act α} {k : α → Act β} (ha : a.Shows judge)
    (hk : ∀ x, (k x).Shows judge) : (a >>= k).Shows judge := by
  intro es o h e he
  obtain ⟨f, hf, rfl⟩ | ⟨x, before, after, hx, ho, rfl⟩ := trace_bind.mp h
  · exact (ha es _ hf e he).error
  · obtain he | he := List.mem_append.mp he
    · exact .inl (ha before _ hx e he).eq_good
    · exact hk x after o ho e he

end Act

open Act (Shows)

theorem Kube.asks_call (c : Config) (r : ApiRequest) :
    (call c r).Asks fun r => r.isHttp = false := by
  rw [call_eq_once]
  exact Act.asks_once (P := fun r => r.isHttp = false) rfl _

theorem Kube.asks_descriptor (c : Config) (name : Json) :
    (descriptor c name).Asks fun r => r.isHttp = false := by
  rw [descriptor_eq_once]
  exact Act.asks_once (P := fun r => r.isHttp = false) rfl _

theorem Credential.check_shows (space name : Json) (action : FsAction) :
    (check c space name action).Shows Exchange.verdict := by
  rw [check_eq_once]
  exact Act.shows_once (outcome_shows space name action)

/-- A request to a manager shows what has become of the certificates, and of the request itself. -/
theorem Manager.send_shows (method : HttpMethod) (path : String) (d : Descriptor)
    (owner body : Json) : (send c method path d owner body).Shows Exchange.verdict := by
  rw [send_eq]
  refine (Act.shows_once (tlsOf_shows owner)).bind fun tls => ?_
  rintro es o ⟨y, _, rfl, ⟨⟩, rest, rfl, h⟩ e he
  obtain ⟨rfl, rfl⟩ := Act.trace_liftM.mp h
  obtain rfl | he := List.mem_cons.mp he
  · exact outcome_shows y
  · obtain rfl := List.mem_singleton.mp he
    exact .inl rfl

/-- What asks no service shows nothing. -/
theorem shows_of_quiet {a : Act α} (ha : a.Asks fun r => r.isHttp = false) :
    a.Shows Exchange.verdict := Act.shows_of_asks (fun _ => Exchange.verdict_of_isHttp) ha

/-! ### Volumes that are made and removed -/

theorem provision_shows (c : Config) (o : VolumeOrder) : (provision c o).Shows Exchange.verdict := by
  rw [provision_eq]
  split
  · exact shows_of_quiet trivial
  · split
    · exact shows_of_quiet trivial
    · exact Act.shows_once fun x => (Credential.outcome_shows _ _ _ x).bind

namespace Volume

theorem deleteSubpath_shows (c : Config) (v : Volume) :
    (v.deleteSubpath c).Shows Exchange.verdict := by
  rw [deleteSubpath]
  split
  · exact shows_of_quiet trivial
  · refine (Credential.check_shows _ _ _).bind fun credential => ?_
    split
    · exact shows_of_quiet trivial
    · next name _ =>
      have hread := (Kube.asks_descriptor c (.str name)).optional
      refine (shows_of_quiet hread).bind fun descriptor => ?_
      cases descriptor with
      | none => exact shows_of_quiet trivial
      | some d =>
        dsimp only
        split
        · exact shows_of_quiet trivial
        · exact Manager.send_shows _ _ _ _ _

theorem delete_shows (c : Config) (v : Volume) : (v.delete c).Shows Exchange.verdict := by
  rw [delete]
  split
  · exact shows_of_quiet trivial
  · split
    · exact shows_of_quiet trivial
    · refine (shows_of_quiet (Kube.asks_call c _)).bind fun volumes => ?_
      split
      · refine (deleteSubpath_shows c v).bind fun _ => ?_
        exact shows_of_quiet (asks_finish c v _)
      · exact shows_of_quiet trivial

end Volume

/-! ### Volumes that are expanded -/

/-- The resource server is asked for certificates. -/
def Exchange.isHandout : Exchange → Bool
  | ⟨.http r, _⟩ =>
    match r.service with
    | .resourceServer _ => r.method = .get
    | .manager _ => false
  | _ => false

theorem Verdict.ofManager_ne_denied (y : Except HttpFault HttpResponse) : ofManager y ≠ denied := by
  unfold ofManager
  split
  · nofun
  · split
    · split <;> nofun
    · nofun

/-- A manager denies nothing; only certificates may be denied on the way to it. -/
theorem Manager.isHandout_of_denied {es : List Exchange} {o : Except Failure Unit} {e : Exchange}
    {method : HttpMethod} {path : String} {d : Descriptor} {owner body : Json}
    (h : (send c method path d owner body).Trace es o) (he : e ∈ es)
    (hdenied : e.verdict = .denied) : e.isHandout = true := by
  obtain ⟨x, ⟨f, -, rfl, -⟩ | ⟨tls, y, -, rfl, -⟩⟩ := trace_send.mp h
  · obtain rfl := List.mem_singleton.mp he
    rfl
  · obtain rfl | he := List.mem_cons.mp he
    · rfl
    obtain rfl | he := List.mem_cons.mp he
    · exact absurd hdenied (Verdict.ofManager_ne_denied y)
    · obtain rfl := List.mem_singleton.mp he
      cases hdenied

namespace Expansion

/-- What an expansion makes of the verdict on an exchange: certificates that are denied count as a
failure. -/
def told (e : Exchange) : Verdict :=
  if e.isHandout && e.verdict = .denied then .failed else e.verdict

theorem told_of_isHttp {e : Exchange} (h : e.request.isHttp = false) : told e = .good := by
  rw [told, Exchange.verdict_of_isHttp h]
  simp

/-- What asks no service shows nothing. -/
theorem shows_of_quiet {a : Act α} (ha : a.Asks fun r => r.isHttp = false) : a.Shows told :=
  Act.shows_of_asks (fun _ => told_of_isHttp) ha

theorem told_of_denied {e : Exchange} (hhandout : e.isHandout = true) (h : e.verdict = .denied) :
    told e = .failed := by
  simp [told, hhandout, h]

theorem told_of_ne_denied {e : Exchange} (h : e.verdict ≠ .denied) : told e = e.verdict := by
  simp [told, h]

theorem check_shows (space name : Json) (action : FsAction) :
    (Credential.check c space name action).Shows told := by
  rw [Credential.check_eq_once]
  exact Act.shows_once (Credential.outcome_shows space name action)

/-- An error in the update of a filesystem is told in other words; it may be tried again, whatever it
was. -/
theorem update_shows (d : Descriptor) (claim : Claim) (credential : Credential) :
    ((Manager.updateFilesystem c d credential).rescueReported fun e =>
      Act.report (managerError d claim e)).Shows told := by
  intro es o h e he
  obtain ⟨x, hx, rfl⟩ | ⟨f, before, after, hf, ho, rfl⟩ := Act.trace_rescue.mp h
  · have hgood := (Manager.send_shows _ _ _ _ _ es _ hx e he).eq_good
    rw [told_of_ne_denied (by rw [hgood]; nofun)]
    exact .inl hgood
  · have hafter : after = [] := by
      split at ho <;> exact ho.1
    subst hafter
    rw [List.append_nil] at he
    obtain hgood | ⟨_, ⟨⟩, hcauses⟩ := Manager.send_shows _ _ _ _ _ before _ hf e he
    · rw [told_of_ne_denied (by rw [hgood]; nofun)]
      exact .inl hgood
    · have hhandout := Manager.isHandout_of_denied hf he
      cases hverdict : e.verdict with
      | good =>
        rw [hverdict] at hcauses
        exact hcauses.elim
      | denied =>
        rw [hverdict] at hcauses
        obtain ⟨action, details, rfl⟩ := hcauses
        obtain ⟨-, rfl⟩ := ho
        rw [told_of_denied (hhandout hverdict) hverdict]
        exact .of_causes ⟨_, rfl, rfl⟩
      | failed =>
        rw [hverdict] at hcauses
        obtain ⟨error, rfl, -⟩ := hcauses
        obtain ⟨-, rfl⟩ := ho
        rw [told_of_ne_denied (by rw [hverdict]; nofun), hverdict]
        exact .of_causes ⟨_, rfl, rfl⟩
      | garbled =>
        rw [hverdict] at hcauses
        obtain ⟨reason, rfl⟩ := hcauses
        obtain ⟨-, rfl⟩ := ho
        rw [told_of_ne_denied (by rw [hverdict]; nofun), hverdict]
        exact .of_causes ⟨_, rfl⟩

theorem run_shows (c : Config) (volume : String) (range : CapacityRange) :
    (run c volume range).Shows told := by
  rw [run]
  refine (shows_of_quiet (Act.asks_rescueNotFound_refuse (Kube.asks_call c _))).bind fun v => ?_
  split
  · refine (shows_of_quiet (Act.asks_rescueNotFound_refuse (Kube.asks_call c _))).bind
      fun claim => ?_
    refine (check_shows _ _ _).bind fun credential => ?_
    refine (shows_of_quiet (Act.asks_rescueNotFound_refuse (Kube.asks_descriptor c _))).bind
      fun descriptor => ?_
    exact (update_shows descriptor claim credential).bind fun _ => shows_of_quiet trivial
  · exact shows_of_quiet trivial

theorem request_shows (c : Config) (volume : String) (range : Option CapacityRange)
    (capability : Option VolumeCapability) : (request c volume range capability).Shows told := by
  rw [request]
  exact (shows_of_quiet (Act.asks_liftM _)).bind fun _ => run_shows c volume _

/-- The promise is broken by answers that cannot be read, and by certificates that are denied. -/
theorem keptIn_iff {e : Exchange} {o : Except Failure α} (h : (told e).ShowsIn o) :
    e.verdict.KeptIn o ↔
      e.verdict ≠ .garbled ∧ ¬(e.isHandout = true ∧ e.verdict = .denied) := by
  by_cases hdenied : e.isHandout = true ∧ e.verdict = .denied
  · rw [told_of_denied hdenied.1 hdenied.2] at h
    refine iff_of_false ?_ (fun hne => hne.2 hdenied)
    obtain ⟨⟨⟩⟩ | ⟨_, rfl, error, rfl, hretryable⟩ := h
    rw [hdenied.2]
    rintro (⟨⟨⟩⟩ | ⟨_, ⟨⟩, action, details, ⟨⟩⟩)
    cases hretryable
  · have htold : told e = e.verdict := by
      rw [told]
      refine if_neg fun hboth => hdenied ?_
      simpa using hboth
    rw [htold] at h
    rw [h.keptIn_iff, and_iff_left hdenied]

end Expansion

/-! ### The promise -/

/-- **What services cause.** Whatever the resource server and the managers answer, each answer that is
not good makes the call fail: a denial with `permissionDenied`, an answer that cannot be read with a
defect, and everything else with an error that may be tried again; but an expansion tells of
certificates that are denied as of an error that may be tried again. So the promise is kept for all
answers but these two. -/
theorem shown_of_trace (c : Config) :
    (∀ o es made, (provision c o).Trace es made → ∀ e ∈ es,
      e.verdict.ShowsIn made ∧ (e.verdict.KeptIn made ↔ e.verdict ≠ .garbled)) ∧
    (∀ (v : Volume) es o, (v.delete c).Trace es o → ∀ e ∈ es,
      e.verdict.ShowsIn o ∧ (e.verdict.KeptIn o ↔ e.verdict ≠ .garbled)) ∧
    ∀ volume range capability es o,
      (Expansion.request c volume range capability).Trace es o → ∀ e ∈ es,
        (Expansion.told e).ShowsIn o ∧ (e.verdict.KeptIn o ↔
          e.verdict ≠ .garbled ∧ ¬(e.isHandout = true ∧ e.verdict = .denied)) := by
  refine ⟨fun o es made h e he => ?_, fun v es o h e he => ?_,
    fun volume range capability es o h e he => ?_⟩
  · have hshows := provision_shows c o es made h e he
    exact ⟨hshows, hshows.keptIn_iff⟩
  · have hshows := v.delete_shows c es o h e he
    exact ⟨hshows, hshows.keptIn_iff⟩
  · have hshows := Expansion.request_shows c volume range capability es o h e he
    exact ⟨hshows, Expansion.keptIn_iff hshows⟩

/-- The remote ends of one volume, whose services answer to the first request under a path with a
status and a text. -/
def answering (path : String) (status : Int) (text : String) : Remote where
  cluster := loneCluster
  rules := [{ path := some path, outcome := .ok ⟨status, text⟩ }]

/-- A denied check, denied certificates, and a manager that fails: three calls that show it. -/
theorem shown_of_trace_loneVolume :
    let making := provision {} strayOrder
    let removal := Volume.loneVolume.delete {}
    let expansion := Expansion.request {} "pv-1" (some {}) (some {})
    let w₁ := answering "/v1/auth/claims" 403 ""
    let w₂ := answering "/v1/certs/" 403 ""
    let w₃ := answering "/v1/mgmt/filesystem" 500 "out of order"
    (∃ e ∈ making.exchanges w₁, e.verdict = .denied ∧ e.verdict.ShowsIn (making.run w₁).1) ∧
      (∃ e ∈ removal.exchanges w₂, e.verdict = .denied ∧ e.verdict.ShowsIn (removal.run w₂).1) ∧
      ∃ e ∈ expansion.exchanges w₃, e.verdict = .failed ∧
        (Expansion.told e).ShowsIn (expansion.run w₃).1 := by
  intro making removal expansion w₁ w₂ w₃
  obtain ⟨hmaking, hremoval, hexpansion⟩ := shown_of_trace {}
  have hdenied : (making.exchanges w₁).any (·.verdict = .denied) = true := by decide +kernel
  have hhandout : (removal.exchanges w₂).any (·.verdict = .denied) = true := by decide +kernel
  have hfailed : (expansion.exchanges w₃).any (·.verdict = .failed) = true := by decide +kernel
  obtain ⟨e₁, he₁, hverdict₁⟩ := List.any_eq_true.mp hdenied
  obtain ⟨e₂, he₂, hverdict₂⟩ := List.any_eq_true.mp hhandout
  obtain ⟨e₃, he₃, hverdict₃⟩ := List.any_eq_true.mp hfailed
  refine ⟨⟨e₁, he₁, of_decide_eq_true hverdict₁, ?_⟩, ⟨e₂, he₂, of_decide_eq_true hverdict₂, ?_⟩,
    e₃, he₃, of_decide_eq_true hverdict₃, ?_⟩
  · exact (hmaking _ _ _ (making.trace_run w₁) e₁ he₁).1
  · exact (hremoval _ _ _ (removal.trace_run w₂) e₂ he₂).1
  · exact (hexpansion _ _ _ _ _ (expansion.trace_run w₃) e₃ he₃).1

/-- A manager that answers with a text in JSON breaks a removal off with a defect; an expansion whose
certificates are denied is told that it may try again. -/
theorem unkept_loneVolume :
    let removal := Volume.loneVolume.delete {}
    let expansion := Expansion.request {} "pv-1" (some {}) (some {})
    let w₁ := answering "/v1/mgmt/filesystem" 502 "\"bad gateway\""
    let w₂ := answering "/v1/certs/" 403 ""
    (∃ e ∈ removal.exchanges w₁, e.verdict = .garbled ∧ ¬e.verdict.KeptIn (removal.run w₁).1) ∧
      ∃ e ∈ expansion.exchanges w₂, e.verdict = .denied ∧
        ¬e.verdict.KeptIn (expansion.run w₂).1 := by
  intro removal expansion w₁ w₂
  have hgarbled : (removal.exchanges w₁).any (·.verdict = .garbled) = true := by decide +kernel
  have hdenied : (expansion.exchanges w₂).any (fun e => e.isHandout && e.verdict = .denied) =
      true := by decide +kernel
  obtain ⟨e₁, he₁, hverdict₁⟩ := List.any_eq_true.mp hgarbled
  obtain ⟨e₂, he₂, hboth⟩ := List.any_eq_true.mp hdenied
  obtain ⟨hhandout, hverdict₂⟩ := Bool.and_eq_true_iff.mp hboth
  have hremoval := Volume.delete_shows {} _ _ _ (removal.trace_run w₁) e₁ he₁
  have hexpansion := Expansion.request_shows {} _ _ _ _ _ (expansion.trace_run w₂) e₂ he₂
  refine ⟨⟨e₁, he₁, of_decide_eq_true hverdict₁, ?_⟩, e₂, he₂, of_decide_eq_true hverdict₂, ?_⟩
  · rw [hremoval.keptIn_iff]
    exact fun hne => hne (of_decide_eq_true hverdict₁)
  · rw [Expansion.keptIn_iff hexpansion]
    exact fun hne => hne.2 ⟨hhandout, of_decide_eq_true hverdict₂⟩

end SubpathCsi
