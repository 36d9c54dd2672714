import SubpathCsi.Proofs.Clients

/-!
# Obliging services

A service obliges if it does what it is asked: the resource server grants and hands out
certificates, filesystem managers remove what they are told to. How it says so is left to it.

* `Exchange.isObliging`: the answers of obliging services;
* `Credential.outcome_of_grants`, `Manager.tlsOf_of_certifies`: what comes of such answers;
* `obligingReply`: one way to oblige, which shows that there is one.
-/

namespace SubpathCsi

variable {c : Config}

/-! ### Answers -/

/-- The object in a good response. -/
def answered (x : Except HttpFault HttpResponse) : Option (Keyed Json) :=
  match x with
  | .error _ => none
  | .ok r =>
    if r.status ≥ 400 then none
    else match Json.parse r.text with
      | .ok (.obj ms) => some ms
      | _ => none

/-- The resource server grants what it is asked: its answer names an owner. -/
def grants (x : Except HttpFault HttpResponse) : Bool :=
  (answered x).any fun ms => (Keyed.get? ms "owner").any Json.isPresent

/-- The resource server hands out certificates. -/
def certifies (x : Except HttpFault HttpResponse) : Bool :=
  (answered x).any fun ms => ["ca", "cert", "key"].all fun key =>
    ((Keyed.get? ms key).bind Json.str?).isSome

/-- A service obliges: the resource server grants and hands out certificates, and filesystem
managers do what they are asked. Nothing is said of the API server. -/
def Exchange.isObliging : Exchange → Bool
  | ⟨.http r, x⟩ =>
    match r.service, r.method with
    | .resourceServer _, .get => certifies x
    | .resourceServer _, _ => grants x
    | .manager _, _ => (x.toOption.map (·.status)) = some 200
  | _ => true

/-- The API server hands out a descriptor whose filesystem is neither gone nor going. -/
def isStanding (y : Except ApiFault Json) : Bool :=
  match y with
  | .ok raw => (Descriptor.ofJson raw).toOption.any (!·.isDeleting)
  | .error _ => false

/-! ### What comes of them -/

/-- The object in a good response is what asking the resource server comes to. -/
theorem ResourceServer.outcome_of_answered {purpose : String} {x : Except HttpFault HttpResponse}
    {ms : Keyed Json} (h : answered x = some ms) : outcome c purpose x = .ok (.obj ms) := by
  cases x with
  | error fault => cases h
  | ok r =>
    rw [answered] at h
    split at h
    · cases h
    · next hstatus =>
      have hrefused : ¬((decide (r.status = 401) || decide (r.status = 403)) = true) := by
        simp only [Bool.or_eq_true, decide_eq_true_eq]
        omega
      have hread : read purpose r = .ok (.obj ms) := by
        rw [read, if_neg hrefused, if_neg hstatus]
        cases hparse : Json.parse r.text with
        | error e =>
          rw [hparse] at h
          cases h
        | ok j =>
          rw [hparse] at h
          cases j <;> cases h
          rfl
      change (read purpose r).mapError Failure.reported = _
      rw [hread]
      rfl

/-- From a grant comes a credential. -/
theorem Credential.outcome_of_grants {x : Except HttpFault HttpResponse} (h : grants x = true)
    (space name : Json) (action : FsAction) :
    ∃ credential, outcome c space name action x = .ok credential := by
  obtain ⟨ms, hms, hany⟩ := (Option.any_eq_true _ _).mp h
  obtain ⟨owner, howner, hpresent⟩ := (Option.any_eq_true _ _).mp hany
  have hfind : (Json.obj ms).findD "owner" .null = .ok owner := by
    rw [Json.findD, Json.find, howner]
    rfl
  rw [outcome, ResourceServer.outcome_of_answered hms]
  change ∃ credential, ofAnswer space name action (.obj ms) = .ok credential
  rw [ofAnswer, hfind]
  change ∃ credential, (if (!owner.isPresent) = true then _ else _) = Except.ok credential
  rw [hpresent]
  exact ⟨_, rfl⟩

/-- With certificates that are handed out, a manager can be talked to. -/
theorem Manager.tlsOf_of_certifies {x : Except HttpFault HttpResponse} (h : certifies x = true)
    (owner : Json) : ∃ tls, tlsOf c owner x = .ok tls := by
  obtain ⟨ms, hms, hall⟩ := (Option.any_eq_true _ _).mp h
  have hpart : ∀ key ∈ ["ca", "cert", "key"],
      ∃ text, Certificates.part owner (.obj ms) key = .ok (.str text) := by
    intro key hkey
    obtain ⟨text, htext⟩ := Option.isSome_iff_exists.mp (List.all_eq_true.mp hall key hkey)
    obtain ⟨j, hj, hstr⟩ := Option.bind_eq_some_iff.mp htext
    cases j with
    | str text =>
      refine ⟨text, ?_⟩
      rw [Certificates.part, Json.entry, hj]
    | null | bool | int | float | arr | obj => cases hstr
  obtain ⟨ca, hca⟩ := hpart "ca" (.head _)
  obtain ⟨cert, hcert⟩ := hpart "cert" (.tail _ (.head _))
  obtain ⟨key, hkey⟩ := hpart "key" (.tail _ (.tail _ (.head _)))
  rw [tlsOf, Certificates.outcome, ResourceServer.outcome_of_answered hms]
  change ∃ tls, Certificates.ofAnswer owner (.obj ms) >>= clientTls c = .ok tls
  rw [Certificates.ofAnswer, hca, hcert, hkey]
  exact ⟨_, rfl⟩

theorem isStanding_iff {y : Except ApiFault Json} :
    isStanding y = true ↔
      ∃ raw d, y = .ok raw ∧ Descriptor.ofJson raw = .ok d ∧ d.isDeleting = false := by
  cases y with
  | error fault =>
    refine ⟨fun h => ?_, ?_⟩
    · cases h
    · rintro ⟨raw, d, hy, -⟩
      cases hy
  | ok raw =>
    simp only [isStanding, Option.any_eq_true, toOption_eq_some, Bool.not_eq_true', Except.ok.injEq]
    refine ⟨fun ⟨d, hd, hstay⟩ => ⟨raw, d, rfl, hd, hstay⟩, ?_⟩
    rintro ⟨_, d, rfl, hd, hstay⟩
    exact ⟨d, hd, hstay⟩

/-! ### A way to oblige -/

/-- A response with which everyone is content. -/
def obligingResponse : HttpResponse where
  status := 200
  text := (Json.obj [("owner", .str Remote.usualOwner), ("ca", .str "CA"), ("cert", .str "CERT"),
    ("key", .str "KEY")]).text

/-- The answers of obliging services, of an API server that holds the volumes `vs`, and of
filesystems that stand. -/
def obligingReply (vs : List Volume) : (r : Request) → Reply r
  | .api _ .listVolumes => .ok vs
  | .api _ (.readDescriptor _) => .ok (.obj [])
  | .api _ _ => .error Cluster.absent
  | .http _ => .ok obligingResponse
  | .close => ()
  | .draw => 0
  | .useClusterConfig => true
  | .useLocalConfig => ()
  | .serve _ => ()

theorem isObliging_of_reply {vs : List Volume} {e : Exchange}
    (h : e.reply = obligingReply vs e.request) : e.isObliging = true := by
  obtain ⟨r, x⟩ := e
  cases r with
  | http r =>
    cases h
    have hgrants : grants (.ok obligingResponse) = true := by decide +kernel
    have hcertifies : certifies (.ok obligingResponse) = true := by decide +kernel
    obtain ⟨service, method⟩ := r
    cases service with
    | manager tls => rfl
    | resourceServer retry => cases method <;> assumption
  | api | close | draw | useClusterConfig | useLocalConfig | serve => rfl

theorem isStanding_of_reply {vs : List Volume} {timeout : Int} {name : Json}
    {y : Except ApiFault Json} (h : y = obligingReply vs (.api timeout (.readDescriptor name))) :
    isStanding y = true := by
  rw [h]
  change isStanding (.ok (.obj [])) = true
  decide +kernel

end SubpathCsi
