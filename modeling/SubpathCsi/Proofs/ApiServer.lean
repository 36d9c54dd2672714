import SubpathCsi.Proofs.Keyed
import SubpathCsi.Proofs.Secrets

/-!
# What is relied on of the API server

The API server is no part of the controller: what it makes of the secrets that it is sent is a
parameter of the remote ends, and a statement that rests on it says so by a hypothesis.

The server keeps book in the metadata of a secret. Every state of a secret has a version there,
which is sent back when the secret is to be replaced. By it the server tells whether what it is sent
was made out of the secret that is there.

* `Secret.content`, `Secret.version?`: a secret without that book, and the version in it;
* `ApiServer.SetsFinalizers`: what a patch of the finalizers does;
* `ApiServer.Versions`: what making and replacing do, by the versions;
* `ApiServer.answer_readSecret`, `ApiServer.answer_createSecret`, `ApiServer.answer_replaceSecret`:
  the answers to the requests for one secret;
* `ApiServer.numbering`: a server whose versions are numbers.
-/

namespace SubpathCsi

/-! ### The book of the server -/

/-- The fields of the metadata that the API server writes by itself, with every change. -/
def bookFields : List String := ["managedFields", "resourceVersion"]

namespace Secret

/-- The secret without what the API server writes by itself. -/
def content (s : Secret) : Secret :=
  { s with metadata := { s.metadata with
      others := s.metadata.others.filter fun p => !bookFields.contains p.1 } }

/-- The version that the API server has given to the secret. -/
def version? (s : Secret) : Option String :=
  (Keyed.get? s.metadata.others "resourceVersion").bind Json.str?

/-- The secret with another identifier, and another time at which it was made. -/
def identified (s : Secret) (uid time : Option String) : Secret :=
  { s with metadata := { s.metadata with uid, creationTimestamp := time } }

/-- The secret with other finalizers. -/
def withFinalizers (s : Secret) (finalizers : List String) : Secret :=
  { s with metadata := { s.metadata with finalizers := some finalizers } }

/-- The secret in the version of a number. -/
def inVersion (s : Secret) (n : Nat) : Secret :=
  { s with metadata := { s.metadata with
      others := Keyed.put s.metadata.others "resourceVersion" (.str (toString n)) } }

variable {s t : Secret} {name : String} {space : Option String}

@[simp] theorem content_inVersion (s : Secret) (n : Nat) : (s.inVersion n).content = s.content := by
  have hbook : (!bookFields.contains "resourceVersion") = false := by decide
  have hothers := Keyed.filter_put (f := fun key => !bookFields.contains key) hbook
    s.metadata.others (.str (toString n))
  simp only [content, inVersion, hothers]

@[simp] theorem version?_inVersion (s : Secret) (n : Nat) :
    (s.inVersion n).version? = some (toString n) := by
  rw [version?, inVersion, Keyed.get?_put, if_pos rfl]
  rfl

/-- Secrets of the same content lie in the same place. -/
theorem LiesAt.of_content (h : s.content = t.content) (ht : t.LiesAt name space) :
    s.LiesAt name space := by
  have hname : s.name = t.name := congrArg (·.metadata.name) h
  have hspace : s.metadata.space = t.metadata.space := congrArg (·.metadata.space) h
  exact ⟨hname.trans ht.1, hspace.trans ht.2⟩

end Secret

namespace ApiServer

/-! ### What is documented of it -/

/-- Setting the finalizers of a secret changes nothing else. -/
def SetsFinalizers (server : ApiServer) : Prop :=
  ∀ present finalizers,
    (server.patch present finalizers).content = (present.withFinalizers finalizers).content

/-- Secrets are made and replaced by their versions, of which `order` tells how late they are. -/
structure Versions (server : ApiServer) (order : Option String → Nat) : Prop where
  /-- A secret is made as it is sent, but for its identifier and the time. -/
  create (sent : Secret) : ∃ uid time,
    (server.create sent).content = (sent.identified uid time).content
  /-- What comes without a version, or with the one that is there, is kept. The version stays, or a
  later one takes its place. -/
  replace (present sent : Secret)
    (h : sent.version? = none ∨ sent.version? = present.version?) :
    ∃ kept, server.replace present sent = .ok kept ∧ kept.content = sent.content ∧
      (kept.version? = present.version? ∨ order present.version? < order kept.version?)
  /-- What comes with another version is refused. -/
  refuse (present sent : Secret) (h : sent.version? ≠ none)
    (hother : sent.version? ≠ present.version?) :
    server.replace present sent = .error Cluster.conflict

/-! ### Reading and writing -/

section Answer

variable {server : ApiServer} {k : Cluster} {s t : Secret}

theorem answer_readSecret (h : k.secret? s.nameJson s.spaceJson = some t) :
    server.answer (.readSecret s.nameJson s.spaceJson) k = (.ok t, k) := by
  rw [answer, h, Cluster.found]

theorem answer_readSecret_of_absent (h : k.secret? s.nameJson s.spaceJson = none) :
    server.answer (.readSecret s.nameJson s.spaceJson) k = (.error Cluster.absent, k) := by
  rw [answer, h, Cluster.found]

/-- A secret is made where there is none. -/
theorem answer_createSecret_of_absent (h : k.secret? s.nameJson s.spaceJson = none)
    (hkept : (server.create s).LiesAt s.name s.metadata.space) :
    server.answer (.createSecret s) k = (.ok (server.create s), k.putSecret (server.create s)) := by
  rw [answer, h, Cluster.putSecret_of_absent hkept h]

/-- A secret is not made where there is one. -/
theorem answer_createSecret (h : k.secret? s.nameJson s.spaceJson = some t) :
    server.answer (.createSecret s) k = (.error Cluster.conflict, k) := by
  rw [answer, h]

theorem answer_replaceSecret {kept : Secret} (h : k.secret? s.nameJson s.spaceJson = some t)
    (hkept : server.replace t s = .ok kept) :
    server.answer (.replaceSecret s) k = (.ok kept, k.putSecret kept) := by
  rw [answer, h]
  simp only [hkept]

theorem answer_replaceSecret_of_refused {fault : ApiFault}
    (h : k.secret? s.nameJson s.spaceJson = some t) (hfault : server.replace t s = .error fault) :
    server.answer (.replaceSecret s) k = (.error fault, k) := by
  rw [answer, h]
  simp only [hfault]

end Answer

/-! ### Versions that are numbers -/

/-- The number that a version is. -/
def number (version : Option String) : Nat := Nat.ofDigitChars 10 (version.getD "").toList 0

@[simp] theorem number_toString (n : Nat) : number (some (toString n)) = n := by
  have hdigits : (toString n).toList = Nat.toDigits 10 n := by simp
  rw [number, Option.getD_some, hdigits, Nat.ofDigitChars_toDigits (by decide) (by decide)]

/-- An API server that numbers the versions of a secret, and checks them. -/
def numbering : ApiServer where
  create sent := (sent.identified (some "0") none).inVersion 1
  replace present sent :=
    if sent.version? = none ∨ sent.version? = present.version? then
      .ok (sent.inVersion (number present.version? + 1))
    else .error Cluster.conflict
  patch present finalizers :=
    (present.withFinalizers finalizers).inVersion (number present.version? + 1)

theorem versions_numbering : numbering.Versions number where
  create sent := ⟨some "0", none, Secret.content_inVersion _ _⟩
  replace present sent h := by
    refine ⟨_, if_pos h, Secret.content_inVersion _ _, .inr ?_⟩
    rw [Secret.version?_inVersion, number_toString]
    exact Nat.lt_succ_self _
  refuse present sent h hother := if_neg (not_or.mpr ⟨h, hother⟩)

theorem setsFinalizers_numbering : numbering.SetsFinalizers := fun _ _ =>
  Secret.content_inVersion _ _

end ApiServer

end SubpathCsi
