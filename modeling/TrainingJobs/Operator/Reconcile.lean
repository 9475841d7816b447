import TrainingJobs.Gang.PodGroup
import TrainingJobs.Lifecycle
import TrainingJobs.Operator.Options
import TrainingJobs.Plan
import TrainingJobs.Replica.Service

/-!
# Reconciling a job with its cluster

One reconcile of a job looks at its pods and services, decides what becomes of the job and makes
calls on the cluster until the children are as they should be and the status is reported. The
calls that follow the two listings are known beforehand, in a `Schedule`; they are made one after
the other, and the first that fails ends the reconcile.

`Backend` is what the calls are made on, so that the same reconcile runs on any cluster.
-/

namespace TrainingJobs

inductive Call where
  | listPods (ns selector : String)
  | listServiceNames (ns selector : String)
  | createPod (ns : String) (pod : Pod)
  | createService (ns : String) (service : Service)
  | deletePod (ns name : String)
  | deleteService (ns name : String)
  | applyPodGroup (ns : String) (group : PodGroup)
  | deletePodGroup (ns name : String)
  | patchStatus (ns name : String) (status : JobStatus)
  | deleteJob (ns name : String)
  deriving DecidableEq, Repr

/-- What calls are made on, with states `σ`. A call that fails leaves the state as it was. -/
structure Backend (σ : Type) where
  listPods : σ → String → String → Except ApiError (List Pod)
  listServiceNames : σ → String → String → Except ApiError NameSet
  /-- What a call other than a listing makes of the state. -/
  perform : σ → Call → Except ApiError σ

inductive Action where
  /-- When something about it changes. -/
  | await
  /-- After a time. -/
  | requeue (after : Span)
  deriving DecidableEq, Repr

/-- What the operator knows while it reconciles. -/
structure OperatorContext where
  options : OperatorOptions
  /-- The API through which statuses are written. -/
  servedVersion : GroupVersion
  deriving DecidableEq, Repr

/-- The calls that a reconcile is going to make, or the error that keeps it from one, and what it
asks for in the end. -/
structure Schedule where
  steps : List (Except OperatorError Call)
  action : Action

/-- What a reconcile did: the calls it made, the last of which may have failed, the state it left
and its result. -/
structure Reconciled (σ : Type) where
  calls : List Call
  state : σ
  result : Except OperatorError Action

namespace Schedule

variable {σ : Type}

/-- Make the calls one after the other up to the first failure. -/
def run (b : Backend σ) (state : σ) (action : Action) :
    List (Except OperatorError Call) → Reconciled σ
  | [] => ⟨[], state, .ok action⟩
  | .error e :: _ => ⟨[], state, .error e⟩
  | .ok call :: rest =>
    match b.perform state call with
    | .error e => ⟨[call], state, .error (.api e)⟩
    | .ok next =>
      let r := run b next action rest
      ⟨call :: r.calls, r.state, r.result⟩

end Schedule

namespace Job

/-- The status as it is reported: with the generation it belongs to and the API it is written
through. -/
def reported (ctx : OperatorContext) (j : Job) (status : JobStatus) : JobStatus :=
  { status with
    observedGeneration := j.metadata.generation
    servedVersion := some ctx.servedVersion }

/-- Report a status, unless the job carries it already. -/
def reportSteps (ctx : OperatorContext) (j : Job) (ns : String) (status : JobStatus) :
    List (Except OperatorError Call) :=
  match ctx.servedVersion.check with
  | .error e => [.error (.job e)]
  | .ok () =>
    let status := j.reported ctx status
    if j.status = some status then [] else [.ok (.patchStatus ns j.name status)]

def rejected (j : Job) (why : JobError) (now : Instant) : JobStatus :=
  Lifecycle.finish (j.status.getD {}) .failed "InvalidSpec" why.message now

def childSelector (j : Job) : String := selectorText (jobLabels j.name)

/-- What is done about a finished job: clean up, report, and delete the job when its time has
come. -/
def finishedSchedule (ctx : OperatorContext) (j : Job) (ns : String) (pods : List ObservedPod)
    (services : NameSet) (t : Transition) (now : Instant) : Schedule :=
  let policy := j.spec.runPolicy
  let plan := CleanupPlan.make policy.cleanPodPolicy pods services t.terminateActive
  let cleanup :=
    plan.deletePods.map (fun n => .ok (Call.deletePod ns n))
      ++ plan.deleteServices.map (fun n => .ok (Call.deleteService ns n))
      ++ (if ctx.options.gangScheduler = .none then [] else [.ok (Call.deletePodGroup ns j.name)])
      ++ j.reportSteps ctx ns t.status
  match Lifecycle.ttlRemaining? t.status policy.ttlSecondsAfterFinished now with
  | some left =>
    if left.isZero then ⟨cleanup ++ [.ok (.deleteJob ns j.name)], .await⟩
    else ⟨cleanup, .requeue left⟩
  | none => ⟨cleanup, .await⟩

/-- When an unfinished job is looked at again: before its deadline, but not at once. -/
def requeueDelay (ctx : OperatorContext) (j : Job) (status : JobStatus) (now : Instant) : Span :=
  let interval := ctx.options.requeueInterval
  match Lifecycle.deadlineRemaining? status j.spec.runPolicy.activeDeadlineSeconds now with
  | some left => (left.shorter interval).longer (Span.ofSeconds 1)
  | none => interval

/-- What is done about an unfinished job: its pod group, its missing and its superfluous children,
and the report. -/
def unfinishedSchedule (ctx : OperatorContext) (j : Job) (ns : String) (pods : List ObservedPod)
    (services : NameSet) (t : Transition) (now : Instant) : Schedule :=
  let scheduler := ctx.options.gangScheduler
  let plan := ChildPlan.make j.name j.spec pods services t.restart
  { steps :=
      ((PodGroup.ofJob? j scheduler).toList.map fun g => .ok (Call.applyPodGroup ns g))
        ++ (plan.createServices.map fun r =>
          (Replica.service j r.1 r.2).map fun s => Call.createService ns s)
        ++ (plan.createPods.map fun r =>
          (Replica.pod j r.1 r.2 scheduler).map fun p => Call.createPod ns p)
        ++ plan.deletePods.map (fun n => .ok (Call.deletePod ns n))
        ++ plan.deleteServices.map (fun n => .ok (Call.deleteService ns n))
        ++ j.reportSteps ctx ns t.status
    action := .requeue (j.requeueDelay ctx t.status now) }

def schedule (ctx : OperatorContext) (j : Job) (ns : String) (pods : List Pod)
    (services : NameSet) (now : Instant) : Schedule :=
  let observed := pods.filterMap ObservedPod.ofPod?
  let t := j.nextStatus observed now
  if t.isFinished then j.finishedSchedule ctx ns observed services t now
  else j.unfinishedSchedule ctx ns observed services t now

/-- Why an unfinished job is refused, if it is. A finished job is not looked at any more. -/
def refusal? (j : Job) : Option JobError :=
  if j.isFinished then none
  else
    match j.spec.check with
    | .ok () => none
    | .error e => some e

variable {σ : Type}

/-- Reconcile a job with its cluster. A job that is being deleted is left alone, one that is
refused is only marked as failed. -/
def reconcile (b : Backend σ) (ctx : OperatorContext) (j : Job) (state : σ) (now : Instant) :
    Reconciled σ :=
  if j.metadata.deletionTimestamp.isSome then ⟨[], state, .ok .await⟩
  else
    match j.namespace? with
    | none => ⟨[], state, .error .missingNamespace⟩
    | some ns =>
      match j.refusal? with
      | some why => Schedule.run b state .await (j.reportSteps ctx ns (j.rejected why now))
      | none =>
        let selector := j.childSelector
        let listPods := Call.listPods ns selector
        match b.listPods state ns selector with
        | .error e => ⟨[listPods], state, .error (.api e)⟩
        | .ok pods =>
          let listServices := Call.listServiceNames ns selector
          match b.listServiceNames state ns selector with
          | .error e => ⟨[listPods, listServices], state, .error (.api e)⟩
          | .ok services =>
            let s := j.schedule ctx ns pods services now
            let r := Schedule.run b state s.action s.steps
            ⟨listPods :: listServices :: r.calls, r.state, r.result⟩

/-- The sums that a reconcile makes on its way, where overflow is checked. Those for the pod group
and the pods are left out: they add up the replicas of a spec that has passed its check. -/
def sumUp (b : Backend σ) (j : Job) (state : σ) (now : Instant) : Checked Unit := do
  if j.metadata.deletionTimestamp.isSome then return
  let some ns := j.namespace? | return
  if !j.isFinished then
    let .ok () ← j.spec.validate | return
  let .ok pods := b.listPods state ns j.childSelector | return
  let observed ← pods.filterMapM ObservedPod.checkedOfPod
  let .ok _ := b.listServiceNames state ns j.childSelector | return
  let _ ← j.checkedNextStatus observed now

def checkedReconcile (b : Backend σ) (ctx : OperatorContext) (j : Job) (state : σ)
    (now : Instant) : Checked (Reconciled σ) :=
  (j.sumUp b state now).map fun _ => j.reconcile b ctx state now

end Job

def OperatorContext.afterError (ctx : OperatorContext) : Action :=
  .requeue ctx.options.errorRequeue

end TrainingJobs
