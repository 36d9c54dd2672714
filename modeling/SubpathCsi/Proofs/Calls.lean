import SubpathCsi.Proofs.Act.Run
import SubpathCsi.Proofs.Clients

/-!
# Calls without faults

Without faults on the way to the API server, a call comes to what the cluster has, however much was
done before it.

* `Kube.run_call`: a call, and what the cluster answers;
* `Kube.run_volume`, `Kube.run_volumes`, `Kube.run_claim`, `Kube.run_storageClass`: what is looked
  up.
-/

namespace SubpathCsi

namespace Kube

variable {c : Config} {w w' : Remote}

/-- Without faults, a call comes to what the cluster has. -/
theorem run_call (hw : w.faults = []) (c : Config) (r : ApiRequest) :
    ((call c r).run w).1 = outcome r (w.server.answer r w.cluster).1 := by
  rw [call_eq_once, Act.once]
  change ((liftM (outcome r (w.answer (.api c.requestTimeout r)).1) : Act _).run _).1 = _
  rw [Remote.answer_api hw]
  cases outcome r (w.server.answer r w.cluster).1 <;> rfl

theorem run_claim (h : w.Steady w') {name space : Json} {claim : Claim}
    (hclaim : w.cluster.claim? name space = some claim) :
    ((Kube.claim c name space).run w').1 = .ok claim := by
  have hanswer : (w'.server.answer (.readClaim name space) w'.cluster).1 = .ok claim := by
    rw [h.holds.cluster]
    exact Cluster.found_eq_ok.mpr hclaim
  rw [Kube.claim, run_call h.faults, hanswer]
  rfl

theorem run_volume (h : w.Steady w') {name : Json} {v : Volume}
    (hvolume : w.cluster.volume? name = some v) : ((Kube.volume c name).run w').1 = .ok v := by
  have hanswer : (w'.server.answer (.readVolume name) w'.cluster).1 = .ok v := by
    rw [h.holds.cluster]
    exact Cluster.found_eq_ok.mpr hvolume
  rw [Kube.volume, run_call h.faults, hanswer]
  rfl

theorem run_volumes (h : w.Steady w') :
    ((Kube.volumes c).run w').1 = .ok w.cluster.volumes := by
  have hanswer : (w'.server.answer .listVolumes w'.cluster).1 = .ok w.cluster.volumes := by
    rw [h.holds.cluster]
    rfl
  rw [Kube.volumes, run_call h.faults, hanswer]
  rfl

theorem run_storageClass (h : w.Steady w') {name : Json} {made : StorageClass}
    (hclass : w.cluster.class? name = some made) :
    ((Kube.storageClass c name).run w').1 = .ok made := by
  have hanswer : (w'.server.answer (.readClass name) w'.cluster).1 = .ok made := by
    rw [h.holds.cluster]
    exact Cluster.found_eq_ok.mpr hclass
  rw [Kube.storageClass, run_call h.faults, hanswer]
  rfl

/-- A storage class that does not exist is an error. -/
theorem run_storageClass_of_absent (h : w.Steady w') {name : Json}
    (hclass : w.cluster.class? name = none) :
    ∃ e, ((Kube.storageClass c name).run w').1 = .error (.reported e) := by
  have hanswer : (w'.server.answer (.readClass name) w'.cluster).1 = .error Cluster.absent := by
    rw [h.holds.cluster]
    exact congrArg Cluster.found hclass
  rw [Kube.storageClass, run_call h.faults, hanswer]
  exact ⟨_, rfl⟩

end Kube

end SubpathCsi
