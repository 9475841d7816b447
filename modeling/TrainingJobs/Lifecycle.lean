import TrainingJobs.Job.Basic
import TrainingJobs.Observation

/-!
# The life of a job

From the pods observed of a job and the time, `nextStatus` tells what becomes of the job: created,
running and restarting in turn, and in the end succeeded or failed for good. What is decided is a
`Verdict`; a failure goes before a limit that is reached, a limit before success, and success
before going on.
-/

namespace TrainingJobs

open Text

structure Transition where
  status : JobStatus
  /-- The names of the failed pods that are to be made anew. -/
  restart : List String := []
  /-- A limit was reached: pods that may still run have to stop. -/
  terminateActive : Bool := false
  deriving DecidableEq, Repr

namespace Transition

def isFinished (t : Transition) : Bool := t.status.isFinished

end Transition

namespace Lifecycle

/-- The counts with one more pod. -/
def count (counts : ReplicaStatus) (p : ObservedPod) : ReplicaStatus :=
  match p.phase with
  | .pending | .running => { counts with active := counts.active + 1 }
  | .succeeded => { counts with succeeded := counts.succeeded + 1 }
  | .failed => { counts with failed := counts.failed + 1 }
  | .unknown => counts

/-- The pod is one of the declared replicas of the type. -/
def isReplicaOf (replicaType : String) (r : ReplicaSpec) (p : ObservedPod) : Bool :=
  sameLetters p.replicaType replicaType && p.index < r.replicas

/-- The counts of every type. Pods that the job no longer asks for are not counted. -/
def replicaStatuses (s : JobSpec) (pods : List ObservedPod) : Dict ReplicaStatus :=
  s.replicaSpecs.mapValues fun replicaType r =>
    (pods.filter (isReplicaOf replicaType r)).foldl count {}

/-- The declared replicas that the pod belongs to, if it is one of them. -/
def declared? (s : JobSpec) (p : ObservedPod) : Option (String × ReplicaSpec) :=
  (s.replica? p.replicaType).filter fun r => p.index < r.2.replicas

/-- What a failed pod means for its job. -/
inductive PodOutcome where
  /-- The job fails, for this reason. -/
  | fatal (why : String)
  /-- The pod is to be made anew. -/
  | restart
  /-- Nothing. -/
  | harmless
  deriving DecidableEq, Repr

/-- What a replica's pod means for a job of that name. -/
def outcome (jobName replicaType : String) (policy : RestartPolicy) (p : ObservedPod) :
    PodOutcome :=
  if p.phase ≠ .failed then .harmless
  else
    let failed := "TrainingJob " ++ jobName ++ " has failed because " ++ replicaType
      ++ " replica " ++ showInt32 p.index
    match policy with
    | .always | .onFailure => .restart
    | .never => .fatal (failed ++ " failed.")
    | .exitCode =>
      match p.exitCode with
      | some code =>
        if isRetryableExitCode code then .restart
        else .fatal (failed ++ " exited with code " ++ showInt32 code ++ ".")
      | none => .restart

def outcomes (jobName : String) (s : JobSpec) (pods : List ObservedPod) :
    List (ObservedPod × PodOutcome) :=
  pods.filterMap fun p =>
    (declared? s p).map fun r => (p, outcome jobName r.1 r.2.restartPolicy p)

/-- Why the job fails on account of a pod, if it does: the first reason counts. -/
def fatality? (outcomes : List (ObservedPod × PodOutcome)) : Option String :=
  outcomes.findSome? fun o =>
    match o.2 with
    | .fatal why => some why
    | .restart | .harmless => none

/-- The names of the pods to be made anew. -/
def restarts (outcomes : List (ObservedPod × PodOutcome)) : List String :=
  (outcomes.filter fun o => o.2 = .restart).map fun o => o.1.name

/-- The restarts that were made without the operator, of pods that may be restarted so. This sum,
and those with the restarts by the operator, wrap around where 32 bits do not hold them. -/
def ownRestarts (s : JobSpec) (pods : List ObservedPod) : Int32 :=
  pods.foldl (fun sum p =>
    match declared? s p with
    | some (_, r) =>
      if r.restartPolicy = .always ∨ r.restartPolicy = .onFailure then sum + p.restarts else sum
    | none => sum) 0

/-- Time left until the active deadline, if there is one. -/
def deadlineRemaining? (s : JobStatus) (deadline : Option Int64) (now : Instant) :
    Option Span := do
  let start ← Timestamp.read? (← s.startTime)
  start.remaining? (← deadline).toInt now

/-- Time left until a finished job is to be deleted, if it is to be at all. -/
def ttlRemaining? (s : JobStatus) (ttl : Option Int32) (now : Instant) : Option Span := do
  let completion ← Timestamp.read? (← s.completionTime)
  completion.remaining? (← ttl).toInt now

def succeededOf (statuses : Dict ReplicaStatus) (replicaType : String) : Int32 :=
  ((statuses.get? replicaType).map (·.succeeded)).getD 0

/-- A job with a master succeeds with it; any other succeeds when all its replicas have. -/
def isSucceeded (s : JobSpec) (statuses : Dict ReplicaStatus) : Bool :=
  match s.masterType? with
  | some master =>
    let replicas := ((s.replicaSpecs.get? master).map (·.replicas)).getD 0
    0 < replicas && replicas ≤ succeededOf statuses master
  | none =>
    let asked := s.replicaSpecs.entries.filter fun e => e.2.replicas ≠ 0
    !asked.isEmpty && asked.all fun e => e.2.replicas ≤ succeededOf statuses e.1

inductive Verdict where
  /-- A pod failed for good. -/
  | podFailed (why : String)
  | backoffLimitExceeded
  | deadlineExceeded
  | succeeded
  /-- Failed pods, at least one, are made anew. -/
  | restarting (names : List String)
  | running
  /-- Nothing new. -/
  | waiting
  deriving DecidableEq, Repr

/-- The status of an unfinished job before anything is decided: the counts of its pods, the time it
started and that it was created. -/
def begun (jobName : String) (s : JobSpec) (status : JobStatus) (pods : List ObservedPod)
    (now : Instant) : JobStatus :=
  { status with
    replicaStatuses := replicaStatuses s pods
    startTime := status.startTime.or (some (Timestamp.write now))
    conditions := Conditions.record status.conditions
      (Condition.make .created "JobCreated" ("TrainingJob " ++ jobName ++ " is created.") now) }

/-- Whether restarts beyond the limit would be needed. -/
def exceedsBackoff (s : JobSpec) (status : JobStatus) (pods : List ObservedPod)
    (restart : List String) : Bool :=
  match s.runPolicy.backoffLimit with
  | some limit =>
    limit < ownRestarts s pods + status.restartCount + Int32.ofNat restart.length
  | none => false

def isPastDeadline (s : JobSpec) (status : JobStatus) (now : Instant) : Bool :=
  (deadlineRemaining? status s.runPolicy.activeDeadlineSeconds now).any (·.isZero)

def verdict (jobName : String) (s : JobSpec) (status : JobStatus) (pods : List ObservedPod)
    (now : Instant) : Verdict :=
  let outcomes := outcomes jobName s pods
  match fatality? outcomes with
  | some why => .podFailed why
  | none =>
    if exceedsBackoff s status pods (restarts outcomes) then .backoffLimitExceeded
    else if isPastDeadline s status now then .deadlineExceeded
    else if isSucceeded s status.replicaStatuses then .succeeded
    else if !(restarts outcomes).isEmpty then .restarting (restarts outcomes)
    else if pods.any fun p => p.phase = .running then .running
    else .waiting

/-- The status with one more condition recorded. -/
def withCondition (status : JobStatus) (type : ConditionType) (reason message : String)
    (now : Instant) : JobStatus :=
  { status with
    conditions := Conditions.record status.conditions (Condition.make type reason message now) }

/-- The status of a job that ends now. -/
def finish (status : JobStatus) (type : ConditionType) (reason message : String)
    (now : Instant) : JobStatus :=
  withCondition
    { status with completionTime := status.completionTime.or (some (Timestamp.write now)) }
    type reason message now

def apply (jobName : String) (status : JobStatus) (now : Instant) : Verdict → Transition
  | .podFailed why => { status := finish status .failed "JobFailed" why now }
  | .backoffLimitExceeded =>
    { status := finish status .failed "BackoffLimitExceeded" ("TrainingJob " ++ jobName
        ++ " has failed because it has reached the specified backoff limit.") now
      terminateActive := true }
  | .deadlineExceeded =>
    { status := finish status .failed "DeadlineExceeded" ("TrainingJob " ++ jobName
        ++ " has failed because it was active longer than specified deadline.") now
      terminateActive := true }
  | .succeeded =>
    { status := finish status .succeeded "JobSucceeded"
        ("TrainingJob " ++ jobName ++ " successfully completed.") now }
  | .restarting names =>
    { status := withCondition
        { status with restartCount := status.restartCount + Int32.ofNat names.length }
        .restarting "JobRestarting" ("TrainingJob " ++ jobName ++ " is restarting because "
          ++ showInt names.length ++ " replica(s) failed.") now
      restart := names }
  | .running =>
    { status := withCondition status .running "JobRunning"
        ("TrainingJob " ++ jobName ++ " is running.") now }
  | .waiting => { status := status }

end Lifecycle

/-- What becomes of a job with these pods at this time. A finished job stays as it is. -/
def Job.nextStatus (j : Job) (pods : List ObservedPod) (now : Instant) : Transition :=
  let status := j.status.getD {}
  if status.isFinished then { status := status }
  else
    let status := Lifecycle.begun j.name j.spec status pods now
    Lifecycle.apply j.name status now (Lifecycle.verdict j.name j.spec status pods now)

/-- What becomes of the job where overflow is checked. Restarts are counted for the limit, unless a
pod has failed for good, and for the status. -/
def Job.checkedNextStatus (j : Job) (pods : List ObservedPod) (now : Instant) :
    Checked Transition := do
  let status := j.status.getD {}
  if !status.isFinished then
    let outcomes := Lifecycle.outcomes j.name j.spec pods
    let own ← Checked.sum (pods.filterMap fun p =>
      ((Lifecycle.declared? j.spec p).filter fun r =>
        r.2.restartPolicy = .always ∨ r.2.restartPolicy = .onFailure).map fun _ => p.restarts)
    if (Lifecycle.fatality? outcomes).isNone then
      let restarts := Int32.ofNat (Lifecycle.restarts outcomes).length
      let _ ← Checked.add (← Checked.add own status.restartCount) restarts
      if !(j.nextStatus pods now).restart.isEmpty then
        let _ ← Checked.add status.restartCount restarts
  return j.nextStatus pods now

theorem Job.nextStatus_of_finished {j : Job} {s : JobStatus} (hs : j.status = some s)
    (hf : s.isFinished = true) (pods : List ObservedPod) (now : Instant) :
    j.nextStatus pods now = { status := s } := by
  simp [nextStatus, hs, hf]

end TrainingJobs
