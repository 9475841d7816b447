import Mathlib.Algebra.BigOperators.Group.Multiset.Basic
import Mathlib.Algebra.Group.Int.Defs
import TrainingJobs.Lifecycle

/-!
# What becomes of a job, without an order among its pods

`Reference.decision` decides about a job from the multiset of its pods, each reason in the terms
in which a user knows it: which replica a pod is, under which policy it failed, how many have
succeeded, whether a limit is reached. `Reference.status` is what follows from the decision. A
multiset has no order, so neither has what is told here.
-/

namespace TrainingJobs.Reference

open Text

/-! ## What a pod is and what it means -/

/-- The pod is one of the replicas that the entry declares. -/
def Declares (e : String × ReplicaSpec) (p : ObservedPod) : Prop :=
  lower e.1 = lower p.replicaType ∧ p.index < e.2.replicas

/-- A declared replica that failed under a policy without another attempt, or with an exit code
that another attempt does not mend. -/
def Lost (e : String × ReplicaSpec) (p : ObservedPod) : Prop :=
  Declares e p ∧ p.phase = .failed ∧
    (e.2.restartPolicy = .never ∨
      e.2.restartPolicy = .exitCode ∧ ∃ code ∈ p.exitCode, code < 128 ∨ 255 < code)

/-- A declared replica that failed and gets another attempt: always, or for lack of an exit code
that tells against it. -/
def Renewed (e : String × ReplicaSpec) (p : ObservedPod) : Prop :=
  Declares e p ∧ p.phase = .failed ∧
    (e.2.restartPolicy = .always ∨ e.2.restartPolicy = .onFailure ∨
      e.2.restartPolicy = .exitCode ∧ ∀ code ∈ p.exitCode, 128 ≤ code ∧ code ≤ 255)

def Rerun (e : String × ReplicaSpec) (p : ObservedPod) : Prop :=
  Declares e p ∧ (e.2.restartPolicy = .always ∨ e.2.restartPolicy = .onFailure)

def Done (e : String × ReplicaSpec) (p : ObservedPod) : Prop :=
  Declares e p ∧ p.phase = .succeeded

-- A condition on all codes of a pod is one on the single code that it may have.
instance decidableOnCode (code? : Option Int32) (P : Int32 → Prop) [DecidablePred P] :
    Decidable (∀ code ∈ code?, P code) :=
  Option.decidableForallMem code?

instance (e : String × ReplicaSpec) (p : ObservedPod) : Decidable (Declares e p) :=
  inferInstanceAs (Decidable (_ ∧ _))

instance (e : String × ReplicaSpec) (p : ObservedPod) : Decidable (Lost e p) :=
  inferInstanceAs (Decidable (_ ∧ _))

instance (e : String × ReplicaSpec) (p : ObservedPod) : Decidable (Renewed e p) :=
  inferInstanceAs (Decidable (_ ∧ _))

instance (e : String × ReplicaSpec) (p : ObservedPod) : Decidable (Rerun e p) :=
  inferInstanceAs (Decidable (_ ∧ _))

instance (e : String × ReplicaSpec) (p : ObservedPod) : Decidable (Done e p) :=
  inferInstanceAs (Decidable (_ ∧ _))

/-- The pod is so to some type that the job declares. -/
def OfSome (s : JobSpec) (P : String × ReplicaSpec → ObservedPod → Prop) (p : ObservedPod) : Prop :=
  ∃ e ∈ s.replicaSpecs.entries, P e p

instance (s : JobSpec) (P : String × ReplicaSpec → ObservedPod → Prop)
    [∀ e p, Decidable (P e p)] (p : ObservedPod) : Decidable (OfSome s P p) :=
  inferInstanceAs (Decidable (∃ e ∈ s.replicaSpecs.entries, P e p))

/-! ## What all pods mean together -/

def renewed (s : JobSpec) (pods : Multiset ObservedPod) : Multiset ObservedPod :=
  pods.filter (OfSome s Renewed)

/-- All restarts of the job: those in place, those made so far and those to be made now. -/
def allRestarts (j : Job) (pods : Multiset ObservedPod) : ℤ :=
  ((pods.filter (OfSome j.spec Rerun)).map fun p => p.restarts.toInt).sum
    + (j.status.getD {}).restartCount.toInt + (renewed j.spec pods).card

/-- The job is restarted more often than its limit allows. -/
def ExceedsLimit (j : Job) (pods : Multiset ObservedPod) : Prop :=
  ∃ limit ∈ j.spec.runPolicy.backoffLimit, limit.toInt < allRestarts j pods

/-- When the job started; one that has not, starts now. -/
def startTime (j : Job) (now : Instant) : String :=
  (j.status.getD {}).startTime.getD (Timestamp.write now)

/-- The time allowed since the start of the job is over. -/
def DeadlineReached (j : Job) (now : Instant) : Prop :=
  ∃ start ∈ Timestamp.read? (startTime j now), ∃ seconds ∈ j.spec.runPolicy.activeDeadlineSeconds,
    ∃ deadline ∈ start.later? seconds.toInt, deadline.since now ≤ 0

/-- As many replicas of the type have succeeded as there are to be. -/
def AllDone (pods : Multiset ObservedPod) (e : String × ReplicaSpec) : Prop :=
  e.2.replicas.toInt ≤ pods.countP (Done e)

/-- The first master role decides; without one, every type that asks for replicas does, and one
has to. -/
def Succeeds (s : JobSpec) (pods : Multiset ObservedPod) : Prop :=
  match s.replicaSpecs.entries.find? fun e => isMasterRole e.1 with
  | some e => 0 < e.2.replicas ∧ AllDone pods e
  | none =>
    (∃ e ∈ s.replicaSpecs.entries, 0 < e.2.replicas) ∧
      ∀ e ∈ s.replicaSpecs.entries, 0 < e.2.replicas → AllDone pods e

instance (j : Job) (pods : Multiset ObservedPod) : Decidable (ExceedsLimit j pods) :=
  inferInstanceAs (Decidable (∃ limit ∈ _, _))

instance (j : Job) (now : Instant) : Decidable (DeadlineReached j now) :=
  inferInstanceAs (Decidable (∃ start ∈ _, _))

instance (pods : Multiset ObservedPod) (e : String × ReplicaSpec) : Decidable (AllDone pods e) :=
  inferInstanceAs (Decidable (_ ≤ _))

instance (s : JobSpec) (pods : Multiset ObservedPod) : Decidable (Succeeds s pods) := by
  unfold Succeeds
  split <;> infer_instance

def counts (s : JobSpec) (pods : Multiset ObservedPod) : Dict ReplicaStatus :=
  s.replicaSpecs.mapValues fun type r =>
    let mine := pods.filter (Declares (type, r))
    { active := Int32.ofNat (mine.countP fun p => p.phase = .pending ∨ p.phase = .running)
      succeeded := Int32.ofNat (mine.countP fun p => p.phase = .succeeded)
      failed := Int32.ofNat (mine.countP fun p => p.phase = .failed) }

/-! ## The decision and what follows from it -/

inductive Decision where
  | jobFailed
  | backoffLimitExceeded
  | deadlineExceeded
  | succeeded
  | restarting
  | running
  | waiting
  deriving DecidableEq, Repr

instance (pods : Multiset ObservedPod) (P : ObservedPod → Prop) [DecidablePred P] :
    Decidable (∃ p ∈ pods, P p) :=
  Multiset.decidableExistsMultiset

/-- The decision: the first of the reasons that there is. -/
def decision (j : Job) (pods : Multiset ObservedPod) (now : Instant) : Decision :=
  if ∃ p ∈ pods, OfSome j.spec Lost p then .jobFailed
  else if ExceedsLimit j pods then .backoffLimitExceeded
  else if DeadlineReached j now then .deadlineExceeded
  else if Succeeds j.spec pods then .succeeded
  else if ∃ p ∈ pods, OfSome j.spec Renewed p then .restarting
  else if ∃ p ∈ pods, p.phase = .running then .running
  else .waiting

namespace Decision

/-- Pods that may still run have to stop, since a limit was reached. -/
def stopsActive : Decision → Bool
  | backoffLimitExceeded | deadlineExceeded => true
  | jobFailed | succeeded | restarting | running | waiting => false

def ends : Decision → Bool
  | jobFailed | backoffLimitExceeded | deadlineExceeded | succeeded => true
  | restarting | running | waiting => false

/-- The condition that is recorded, if any: `anew` pods are to be made anew, `why` is told of a
lost one. -/
def condition? (job : String) (anew : Nat) (why : String) (now : Instant) :
    Decision → Option Condition
  | jobFailed => some (.make .failed "JobFailed" why now)
  | backoffLimitExceeded => some (.make .failed "BackoffLimitExceeded"
      ("TrainingJob " ++ job ++ " has failed because it has reached the specified backoff limit.")
      now)
  | deadlineExceeded => some (.make .failed "DeadlineExceeded"
      ("TrainingJob " ++ job
        ++ " has failed because it was active longer than specified deadline.") now)
  | succeeded => some (.make .succeeded "JobSucceeded"
      ("TrainingJob " ++ job ++ " successfully completed.") now)
  | restarting => some (.make .restarting "JobRestarting"
      ("TrainingJob " ++ job ++ " is restarting because " ++ showInt anew
        ++ " replica(s) failed.") now)
  | running => some (.make .running "JobRunning" ("TrainingJob " ++ job ++ " is running.") now)
  | waiting => none

end Decision

/-- What is told of a lost pod. -/
def blame (job : String) (e : String × ReplicaSpec) (p : ObservedPod) : String :=
  "TrainingJob " ++ job ++ " has failed because " ++ e.1 ++ " replica " ++ showInt32 p.index ++
    match if e.2.restartPolicy = .exitCode then p.exitCode else none with
    | some code => " exited with code " ++ showInt32 code ++ "."
    | none => " failed."

/-- The status after the decision. -/
def status (j : Job) (pods : Multiset ObservedPod) (now : Instant) (why : String) : JobStatus :=
  let before := j.status.getD {}
  let d := decision j pods now
  let created := Conditions.record before.conditions
    (.make .created "JobCreated" ("TrainingJob " ++ j.name ++ " is created.") now)
  { before with
    conditions := (d.condition? j.name (renewed j.spec pods).card why now).elim created
      (Conditions.record created)
    replicaStatuses := counts j.spec pods
    startTime := some (startTime j now)
    completionTime :=
      if d.ends then some (before.completionTime.getD (Timestamp.write now))
      else before.completionTime
    restartCount :=
      if d = .restarting then before.restartCount + Int32.ofNat (renewed j.spec pods).card
      else before.restartCount }

/-- The sums over the pods fit into 32 bits. -/
structure SumsFit (j : Job) (pods : Multiset ObservedPod) : Prop where
  restarts : -2147483648 ≤ allRestarts j pods ∧ allRestarts j pods < 2147483648
  done : ∀ e ∈ j.spec.replicaSpecs.entries, pods.countP (Done e) < 2147483648

end TrainingJobs.Reference
