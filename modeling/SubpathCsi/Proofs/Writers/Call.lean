import SubpathCsi.Kube.Client
import SubpathCsi.Proofs.Act.Effect
import SubpathCsi.Proofs.ApiServer

/-!
# Putting a secret in its place, request by request

A call looks for the secret, and makes it or gives its own data and owners to the one that is there.
What it gives them to is sent back in the version in which it was found, so the API server refuses
it if that is no longer the version that is there. The call does not look again then; it fails.

* `Putting`: how far a call has come;
* `Putting.Turn`: all that one request of it may do;
* `Putting.start_act`: without faults, a request does what a turn says;
* `Writer.run_act`: a call without others.
-/

namespace SubpathCsi

namespace Secret

/-- The secret, with the data and the owners of another one. -/
def taking (old s : Secret) : Secret :=
  { old with
    data := s.data
    metadata := { old.metadata with ownerReferences := s.metadata.ownerReferences } }

theorem LiesAt.taking {old : Secret} {name : String} {space : Option String}
    (h : old.LiesAt name space) (s : Secret) : (old.taking s).LiesAt name space := h

/-- Both secrets are the same but for data and owners, and for the book of the API server. -/
def Alike (s t : Secret) : Prop := ∀ new, (s.taking new).content = (t.taking new).content

namespace Alike

variable {s t u : Secret}

theorem refl (s : Secret) : s.Alike s := fun _ => rfl

theorem trans (h : s.Alike t) (h' : t.Alike u) : s.Alike u := fun new => (h new).trans (h' new)

theorem symm (h : s.Alike t) : t.Alike s := fun new => (h new).symm

theorem of_content (h : s.content = t.content) : s.Alike t := fun new =>
  congrArg (Secret.taking · new) h

theorem taking (s new : Secret) : s.Alike (s.taking new) := fun _ => rfl

theorem liesAt {name : String} {space : Option String} (h : s.Alike t) (ht : t.LiesAt name space) :
    s.LiesAt name space := .of_content (h s) (ht.taking s)

end Alike

end Secret

/-! ### One call -/

/-- How far a call has come that puts a secret in its place. -/
inductive Putting where
  /-- It is about to look for the secret. -/
  | looking
  /-- It has found none, and is about to make it. -/
  | making
  /-- Another caller has made it first, and it is about to look again. -/
  | lookingAgain
  /-- It has found a secret, and is about to give its data and owners to it. -/
  | giving (old : Secret)
  /-- It has returned. -/
  | done
  /-- What it has sent back was no longer what is there, and it has failed. -/
  | refused

/-- What a call for a place fails with when the API server refuses what it sends back. -/
def refusal (name : String) (space : Option String) : Failure :=
  .reported (.alreadyExists "Secret" (ApiRequest.spaced (.str name) (.ofText? space)))

namespace Putting

variable {c : Config} {s : Secret}

/-- What is left of a call that has found a secret. -/
def giveTo (c : Config) (s old : Secret) : Act Unit := do
  let _ ← Kube.replaceSecret c (old.taking s)
  return

/-- What is left of a call that has found a secret, or has made it. -/
def goOn (c : Config) (s : Secret) : Option Secret → Act Unit
  | none => return
  | some old => giveTo c s old

/-- What is left of a call. -/
def act (c : Config) (s : Secret) : Putting → Act Unit
  | looking => Kube.putSecret c s
  | making => do
    let existing ← ((fun _ => none) <$> Kube.createSecret c s).rescueReported fun e =>
      match e with
      | .alreadyExists .. => some <$> Kube.secret c s.nameJson s.spaceJson
      | e => Act.report e
    goOn c s existing
  | lookingAgain => do
    let existing ← some <$> Kube.secret c s.nameJson s.spaceJson
    goOn c s existing
  | giving old => giveTo c s old
  | done => return
  | refused => Act.fail (refusal s.name s.metadata.space)

/-- How many requests are left at most. -/
def ahead : Putting → Nat
  | looking => 4
  | making => 3
  | lookingAgain => 2
  | giving _ => 1
  | done | refused => 0

theorem eq_done_or_refused_of_ahead {p : Putting} (h : p.ahead = 0) : p = done ∨ p = refused := by
  cases p with
  | done => exact .inl rfl
  | refused => exact .inr rfl
  | looking | making | lookingAgain | giving => cases h

/-- There is but one way to fail. -/
theorem act_eq_fail {p : Putting} {f : Failure} (h : p.act c s = .fail f) :
    p = refused ∧ f = refusal s.name s.metadata.space := by
  cases p with
  | refused =>
    cases h
    exact ⟨rfl, rfl⟩
  | looking | making | lookingAgain | giving | done => exact nomatch h

theorem act_eq_pure {p : Putting} (h : p.act c s = .pure ()) : p = done := by
  cases p with
  | done => rfl
  | looking | making | lookingAgain | giving | refused => exact nomatch h

/-- The call looks for the secret, and is answered. -/
def lookup (c : Config) (s : Secret) (x : Except ApiFault Secret) : Exchange :=
  ⟨.api c.requestTimeout (.readSecret s.nameJson s.spaceJson), x⟩

/-- The call makes the secret, and is answered. -/
def creation (c : Config) (s : Secret) (x : Except ApiFault Secret) : Exchange :=
  ⟨.api c.requestTimeout (.createSecret s), x⟩

/-- The call replaces the secret, and is answered. -/
def replacement (c : Config) (s : Secret) (x : Except ApiFault Secret) : Exchange :=
  ⟨.api c.requestTimeout (.replaceSecret s), x⟩

/-- **A turn.** By what is in the place: what the call asks, how far it has come then, and what has
been written. -/
inductive Turn (server : ApiServer) (order : Option String → Nat) (c : Config) (s : Secret) :
    Putting → Option Secret → List Exchange → Putting → Option Secret → Prop
  /-- A secret is found. -/
  | found (old : Secret) :
    Turn server order c s looking (some old) [lookup c s (.ok old)] (giving old) none
  /-- None is found. -/
  | missing : Turn server order c s looking none [lookup c s (.error Cluster.absent)] making none
  /-- The secret is made. -/
  | made {uid time : Option String}
    (hkept : (server.create s).content = (s.identified uid time).content) :
    Turn server order c s making none [creation c s (.ok (server.create s))] done
      (some (server.create s))
  /-- It is there already. -/
  | lost (old : Secret) :
    Turn server order c s making (some old) [creation c s (.error Cluster.conflict)] lookingAgain
      none
  /-- The one that is there is found. -/
  | foundAgain (old : Secret) :
    Turn server order c s lookingAgain (some old) [lookup c s (.ok old)] (giving old) none
  /-- The secret that was found gets the data and owners. -/
  | given (old present kept : Secret) (hold : old.LiesAt s.name s.metadata.space)
    (hreplace : server.replace present (old.taking s) = .ok kept)
    (hkept : kept.content = (old.taking s).content)
    (hseen : old.version? = none ∨ old.version? = present.version?)
    (hlater : kept.version? = present.version? ∨ order present.version? < order kept.version?) :
    Turn server order c s (giving old) (some present) [replacement c (old.taking s) (.ok kept)] done
      (some kept)
  /-- The secret that was found is no longer there in this version. -/
  | beaten (old present : Secret) (hold : old.LiesAt s.name s.metadata.space)
    (hreplace : server.replace present (old.taking s) = .error Cluster.conflict)
    (hseen : old.version? ≠ none) (hother : old.version? ≠ present.version?) :
    Turn server order c s (giving old) (some present)
      [replacement c (old.taking s) (.error Cluster.conflict)] refused none
  /-- Nothing is left to do. -/
  | idle (p : Putting) (present : Option Secret) (hp : p = done ∨ p = refused) :
    Turn server order c s p present [] p none

variable {order : Option String → Nat}

theorem start_ask {α : Type} {r : Request} {next : Reply r → Act α} {x : Reply r} {w : Remote}
    (h : (w.answer r).1 = x) :
    (Act.ask r next).start w = ([⟨r, x⟩], next x, (w.answer r).2) := by
  subst h
  rfl

/-- A secret that is made as it is sent, but for its identity, lies in its place. -/
theorem liesAt_create {server : ApiServer} {uid time : Option String}
    (hkept : (server.create s).content = (s.identified uid time).content) :
    (server.create s).LiesAt s.name s.metadata.space := .of_content hkept ⟨rfl, rfl⟩

/-- Without faults, the first request of what is left of a call is a turn. -/
theorem start_act {name : String} {space : Option String} {w : Remote} {p p' : Putting}
    {es : List Exchange} {written : Option Secret} (hs : s.LiesAt name space)
    (hw : w.faults = [])
    (h : Turn w.server order c s p (w.cluster.secret? (.str name) (.ofText? space)) es p' written) :
    ∃ w', (p.act c s).start w = (es, p'.act c s, w') ∧
      w'.cluster = written.elim w.cluster w.cluster.putSecret := by
  obtain ⟨rfl, rfl⟩ := hs
  generalize hpresent : w.cluster.secret? (.str s.name) (.ofText? s.metadata.space) = present at h
  have hstart : ∀ {r : ApiRequest} {x : Except ApiFault r.Answer} {k : Cluster}
      (next : Except ApiFault r.Answer → Act Unit), w.server.answer r w.cluster = (x, k) →
      ∃ w', (Act.ask (.api c.requestTimeout r) next).start w =
        ([⟨.api c.requestTimeout r, x⟩], next x, w') ∧ w'.cluster = k := by
    intro r x k next hanswer
    obtain ⟨hreply, hcluster⟩ := Remote.answer_api_of_eq hw c.requestTimeout hanswer
    exact ⟨_, start_ask hreply, hcluster⟩
  have hfound : ∀ {old : Secret}, old.LiesAt s.name s.metadata.space →
      w.cluster.secret? (.str old.name) (.ofText? old.metadata.space) = present := by
    rintro old ⟨hname, hspace⟩
    rw [hname, hspace, hpresent]
  cases h with
  | found old | foundAgain old => exact hstart _ (ApiServer.answer_readSecret hpresent)
  | missing => exact hstart _ (ApiServer.answer_readSecret_of_absent hpresent)
  | made hkept =>
    exact hstart _ (ApiServer.answer_createSecret_of_absent hpresent (liesAt_create hkept))
  | lost old => exact hstart _ (ApiServer.answer_createSecret hpresent)
  | given old present kept hold hreplace =>
    exact hstart _ (ApiServer.answer_replaceSecret (hfound hold) hreplace)
  | beaten old present hold hreplace =>
    have hname : (refusal s.name s.metadata.space) =
        Cluster.conflict.failure (.replaceSecret (old.taking s)) := by
      rw [← hold.1, ← hold.2]
      rfl
    rw [act, act, hname]
    exact hstart _ (ApiServer.answer_replaceSecret_of_refused (hfound hold) hreplace)
  | idle p present hp => obtain rfl | rfl := hp <;> exact ⟨w, rfl, rfl⟩

/-- A turn is the beginning of a run. -/
theorem run_act (order : Option String → Nat) {name : String} {space : Option String} {w : Remote}
    {p p' : Putting}
    {es : List Exchange} {present written : Option Secret} (hs : s.LiesAt name space)
    (hw : w.faults = []) (hpresent : w.cluster.secret? (.str name) (.ofText? space) = present)
    (h : Turn w.server order c s p present es p' written) :
    ∃ w', (p.act c s).run w = (p'.act c s).run w' ∧ w'.faults = [] ∧ w'.server = w.server ∧
      w'.cluster = written.elim w.cluster w.cluster.putSecret := by
  subst hpresent
  obtain ⟨w', hstart, hcluster⟩ := start_act hs hw h
  have hrun := (p.act c s).run_start w
  have hsteady := (p.act c s).steady_start hw
  rw [hstart] at hrun hsteady
  exact ⟨w', hrun.symm, hsteady.faults, hsteady.holds.server, hcluster⟩

end Putting

/-! ### One caller -/

/-- A caller that puts a secret in its place. -/
structure Writer where
  /-- Its configuration. -/
  config : Config
  /-- The secret. -/
  secret : Secret

namespace Writer

variable {order : Option String → Nat}

/-- The call. -/
def act (v : Writer) : Act Unit := Kube.putSecret v.config v.secret

/-- A call without others returns. What it leaves in the place has its data and owners, and all else
of what was there. -/
theorem run_act (v : Writer) {w : Remote} (hserver : w.server.Versions order) (hw : w.faults = []) :
    ∃ w' kept, v.act.run w = (.ok (), w') ∧ w'.faults = [] ∧ w'.server = w.server ∧
      w'.cluster = w.cluster.putSecret kept ∧
      kept.LiesAt v.secret.name v.secret.metadata.space ∧
      (kept.taking v.secret).content = kept.content ∧
      ∀ old, w.cluster.secret? v.secret.nameJson v.secret.spaceJson = some old →
        kept.content = (old.taking v.secret).content := by
  have hplace : v.secret.LiesAt v.secret.name v.secret.metadata.space := ⟨rfl, rfl⟩
  cases hfound : w.cluster.secret? v.secret.nameJson v.secret.spaceJson with
  | none =>
    obtain ⟨uid, time, hkept⟩ := hserver.create v.secret
    obtain ⟨w₁, hlook, hw₁, hserver₁, hcluster⟩ :=
      Putting.run_act order hplace hw hfound (.missing (c := v.config))
    have hfound₁ : w₁.cluster.secret? v.secret.nameJson v.secret.spaceJson = none := by
      rw [hcluster]
      exact hfound
    rw [← hserver₁] at hkept
    obtain ⟨w₂, hmake, hw₂, hserver₂, hcluster₂⟩ :=
      Putting.run_act order hplace hw₁ hfound₁ (.made (c := v.config) hkept)
    refine ⟨w₂, _, hlook.trans hmake, hw₂, hserver₂.trans hserver₁, ?_, Putting.liesAt_create hkept,
      ?_, nofun⟩
    · rw [hcluster₂, hcluster]
      rfl
    · rw [Secret.Alike.of_content hkept v.secret, hkept]
      rfl
  | some old =>
    have hold : old.LiesAt v.secret.name v.secret.metadata.space := Cluster.liesAt_of_secret? hfound
    obtain ⟨w₁, hlook, hw₁, hserver₁, hcluster⟩ :=
      Putting.run_act order hplace hw hfound (.found (c := v.config) old)
    have hfound₁ : w₁.cluster.secret? v.secret.nameJson v.secret.spaceJson = some old := by
      rw [hcluster]
      exact hfound
    -- nobody has written the secret since, so that its version is the one that is there
    rw [← hserver₁] at hserver
    obtain ⟨kept, hreplace, hkept, hlater⟩ :=
      hserver.replace old (old.taking v.secret) (.inr rfl)
    obtain ⟨w₂, hgive, hw₂, hserver₂, hcluster₂⟩ := Putting.run_act order hplace hw₁ hfound₁
      (.given (c := v.config) old old kept hold hreplace hkept (.inr rfl) hlater)
    refine ⟨w₂, kept, hlook.trans hgive, hw₂, hserver₂.trans hserver₁, ?_,
      .of_content hkept (hold.taking _),
      (Secret.Alike.of_content hkept v.secret).trans hkept.symm, ?_⟩
    · rw [hcluster₂, hcluster]
      rfl
    · rintro _ ⟨⟩
      exact hkept

end Writer

end SubpathCsi
