import TrainingJobs.Proofs.Replica.Built
import TrainingJobs.Proofs.Lists

/-!
# Observing a pod undoes building it

A pod carries its replica in its labels, the type in small letters and the index in digits, over
whatever its template says under the same keys. Once the pod has a status, the replica is read back
from these labels and everything else from the status (`ObservedPod.Tells`), and the type that is
read finds the replicas that the pod was made from (`Replica.pod_observed`).
-/

namespace TrainingJobs

open Text

/-! ## Phases -/

theorem PodPhase.ofText_eq_iff {phase : PodPhase} (hknown : phase ≠ .unknown) (text : String) :
    ofText text = phase ↔ text = phase.name := by
  constructor
  · intro h
    unfold ofText at h
    cases hfound : all.find? fun p => p.name == text with
    | none =>
      rw [hfound, Option.getD_none] at h
      exact absurd h.symm hknown
    | some p =>
      rw [hfound, Option.getD_some] at h
      have hname := List.find?_some (p := fun p : PodPhase => p.name == text) hfound
      rw [← h]
      exact (beq_iff_eq.1 hname).symm
  · rintro rfl
    cases phase <;> rfl

theorem PodPhase.ofText_getD_eq_iff {phase : PodPhase} (hknown : phase ≠ .unknown)
    (name : Option String) : ofText (name.getD "") = phase ↔ name = some phase.name := by
  rw [ofText_eq_iff hknown]
  cases name with
  | some text => rw [Option.getD_some, Option.some.injEq]
  | none => cases phase <;> decide

/-! ## Containers -/

namespace ContainerStatus

variable {containers : List ContainerStatus} {code : Int32}

/-- A container has terminated with this code, which is not zero, and every container before it is
still running or has terminated with zero. -/
def FirstFailure (containers : List ContainerStatus) (code : Int32) : Prop :=
  HasFirst (fun c => c.exitCode = none ∨ c.exitCode = some 0)
    (fun c => c.exitCode = some code ∧ code ≠ 0) containers

theorem failureCode?_eq_some_iff :
    ObservedPod.failureCode? containers = some code ↔ FirstFailure containers code := by
  unfold ObservedPod.failureCode? FirstFailure
  induction containers with
  | nil => exact iff_of_false (fun h => nomatch h) not_hasFirst_nil
  | cons c rest ih =>
    rw [hasFirst_cons_iff, ← ih]
    cases hcode : c.exitCode with
    | none =>
      rw [List.filterMap_cons_none hcode]
      simp
    | some n =>
      rw [List.filterMap_cons_some hcode]
      by_cases hn : n = 0
      · subst hn
        rw [List.find?_cons_of_neg (by simp)]
        refine ⟨fun h => .inr ⟨.inr rfl, h⟩, ?_⟩
        rintro (⟨h, hne⟩ | ⟨-, h⟩)
        · exact absurd (Option.some.inj h).symm hne
        · exact h
      · rw [List.find?_cons_of_pos (by simpa using hn)]
        refine ⟨fun h => .inl ⟨h, Option.some.inj h ▸ hn⟩, ?_⟩
        rintro (⟨h, -⟩ | ⟨hnone | hzero, -⟩)
        · exact h
        · cases hnone
        · exact absurd (Option.some.inj hzero) hn

/-- The restarts of all containers together, however many. -/
def exactRestarts (containers : List ContainerStatus) : Int :=
  (containers.map fun c => c.restartCount.toInt).sum

theorem toInt_totalRestarts (hlow : Int32.minValue.toInt ≤ exactRestarts containers)
    (hhigh : exactRestarts containers ≤ Int32.maxValue.toInt) :
    (ObservedPod.totalRestarts containers).toInt = exactRestarts containers :=
  toInt_foldl_add_of_fits (fun c : ContainerStatus => c.restartCount) containers hlow hhigh

end ContainerStatus

/-! ## Pods -/

def PodStatus.containersOf (status : Option PodStatus) : List ContainerStatus :=
  (status.bind (·.containerStatuses)).getD []

open ContainerStatus PodStatus in
/-- What is observed is this replica of the job, in the state that the status tells. -/
structure ObservedPod.Tells (o : ObservedPod) (job type : String) (i : Int32)
    (status : Option PodStatus) : Prop where
  name : o.name = replicaName job type i
  replicaType : o.replicaType = lower type
  index : o.index = i
  /-- The phase that the status names; it is unknown if it names none of the others. -/
  phase : ∀ phase, phase ≠ .unknown → (o.phase = phase ↔ status.bind (·.phase) = some phase.name)
  /-- The restarts of all containers together, if 32 bits hold them. -/
  restarts : Int32.minValue.toInt ≤ exactRestarts (containersOf status) →
    exactRestarts (containersOf status) ≤ Int32.maxValue.toInt →
    o.restarts.toInt = exactRestarts (containersOf status)
  /-- The code of the first container that has failed. -/
  exitCode : ∀ code, o.exitCode = some code ↔ FirstFailure (containersOf status) code

theorem Pod.IsReplica.tells {p : Pod} {job type : String} {i : Int32}
    (h : p.IsReplica job type i) : (p.observedAs type i).Tells job type i p.status where
  name := h.name
  replicaType := rfl
  index := rfl
  phase _ hknown := PodPhase.ofText_getD_eq_iff hknown _
  restarts hlow hhigh := ContainerStatus.toInt_totalRestarts hlow hhigh
  exitCode _ := ContainerStatus.failureCode?_eq_some_iff

/-- A built pod is being deleted just if its template says so. -/
theorem deletionTimestamp_of_pod {j : Job} {type : String} {i : Int32} {scheduler : GangScheduler}
    {e : String × ReplicaSpec} {pod : Pod} (he : j.spec.replica? type = some e)
    (h : Replica.pod j type i scheduler = .ok pod) :
    pod.metadata.deletionTimestamp = e.2.template.metadata.bind (·.deletionTimestamp) := by
  obtain ⟨e', ns, he', -, hmeta⟩ := metadata_eq_of_pod h
  obtain rfl : e = e' := Option.some.inj (he.symm.trans he')
  rw [hmeta]
  cases e.2.template.metadata <;> cases scheduler <;> rfl

namespace Replica

variable {j : Job} {ns type : String} {e : String × ReplicaSpec}

/-- **Observing a pod undoes building it.** For every declared type in any letters, every index and
every scheduler, whatever the template says in its labels and whatever status the pod has got, the
built pod is observed as its replica in the state that the status tells, unless the template says
that it is being deleted. The observed type finds the replicas that the pod was made from; if the
types are distinct in any letters, no others can have been meant. -/
theorem pod_observed (hns : j.namespace? = some ns) (he : j.spec.replica? type = some e) (i : Int32)
    (scheduler : GangScheduler) :
    ∃ pod, Replica.pod j type i scheduler = .ok pod ∧ ∀ status : Option PodStatus,
      (e.2.template.metadata.bind (·.deletionTimestamp) = none →
        ∃ o, ObservedPod.ofPod? { pod with status := status } = some o ∧
          o.Tells j.name type i status ∧ j.spec.replica? o.replicaType = some e ∧
          (j.spec.TypesDistinct → ∀ e' ∈ j.spec.replicaSpecs.entries,
            lower e'.1 = o.replicaType → e' = e)) ∧
      (e.2.template.metadata.bind (·.deletionTimestamp) ≠ none →
        ObservedPod.ofPod? { pod with status := status } = none) := by
  obtain ⟨pod, hpod⟩ := exists_pod hns he i scheduler
  have hdeleted := deletionTimestamp_of_pod he hpod
  refine ⟨pod, hpod, fun status => ⟨fun halive => ?_, fun hgone => ?_⟩⟩
  · have hreplica : ({ pod with status := status } : Pod).IsReplica j.name type i :=
      isReplica_of_pod hpod rfl rfl (hdeleted.trans halive)
    have hfound : j.spec.replica? (lower type) = some e := by
      rw [JobSpec.replica?_congr (lower_lower type), he]
    refine ⟨_, hreplica.ofPod?_eq, hreplica.tells, hfound, fun hd e' he' hlower => ?_⟩
    have hsame : j.spec.replica? (lower type) = some e' :=
      hd.replica?_eq_some_iff.2 ⟨he', hlower.trans (lower_lower type).symm⟩
    exact Option.some.inj (hsame.symm.trans hfound)
  · rw [← hdeleted, Option.ne_none_iff_isSome] at hgone
    unfold ObservedPod.ofPod?
    rw [if_pos hgone]
    rfl

/-- Replicas whose template claims to be another replica, by its labels. -/
def disguisedReplicas : ReplicaSpec where
  template := {
    metadata := some {
      labels := some (Dict.ofList [(Label.replicaType, "PS"), (Label.replicaIndex, "7")]) } }

def disguisedJob : Job where
  metadata := { name := some "mnist", namespace_ := some "ml" }
  spec := { replicaSpecs := Dict.ofList [("Worker", disguisedReplicas)] }

/-- One container runs, one has ended well, and two have failed. -/
def mixedStatus : PodStatus where
  phase := some "Failed"
  containerStatuses := some [{ restartCount := 2 }, { exitCode := some 0, restartCount := 3 },
    { exitCode := some 137 }, { exitCode := some 1 }]

/-- Asked for in capitals and with the least of all indexes. -/
theorem pod_observed_disguised :
    ∃ pod o, Replica.pod disguisedJob "WORKER" Int32.minValue .schedulerPlugins = .ok pod ∧
      ObservedPod.ofPod? { pod with status := some mixedStatus } = some o ∧
      o.name = "mnist-worker--2147483648" ∧ o.replicaType = "worker" ∧
      o.index = Int32.minValue ∧ o.phase = .failed ∧ o.restarts.toInt = 5 ∧
      o.exitCode = some 137 ∧
      disguisedJob.spec.replica? o.replicaType = some ("Worker", disguisedReplicas) := by
  have hdeclared : disguisedJob.spec.replica? "WORKER" = some ("Worker", disguisedReplicas) := by
    decide
  obtain ⟨pod, hpod, hobserved⟩ :=
    pod_observed rfl hdeclared Int32.minValue .schedulerPlugins
  obtain ⟨o, ho, htells, hfound, -⟩ := (hobserved (some mixedStatus)).1 rfl
  refine ⟨pod, o, hpod, ho, htells.name.trans (by decide), htells.replicaType, htells.index,
    (htells.phase .failed (by decide)).2 rfl, htells.restarts (by decide) (by decide),
    (htells.exitCode 137).2 ?_, hfound⟩
  exact ⟨[{ restartCount := 2 }, { exitCode := some 0, restartCount := 3 }],
    { exitCode := some 137 }, [{ exitCode := some 1 }], rfl, by decide, rfl, by decide⟩

end Replica

end TrainingJobs
