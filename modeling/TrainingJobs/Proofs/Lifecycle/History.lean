import Mathlib.Algebra.BigOperators.Group.List.Basic
import Mathlib.Algebra.GroupWithZero.Nat
import TrainingJobs.Operator.Reconcile
import TrainingJobs.Proofs.Lifecycle.Verdict
import TrainingJobs.Proofs.Reconcile.Calls

/-!
# The history of a status

A `Course` is a list of steps of a job: each makes of the status that the step before it left either
what follows from the pods, or a refusal. Every status on the way is `Lawful`. That is what makes it
harmless that a condition which is told already is not recorded again: the list tells then of the
state that the condition stands for. What a later status keeps of an earlier one is told by
`Continues`, and the restarts are added up in `Course.restartCount_eq`.
-/

namespace TrainingJobs

open Lifecycle

namespace JobStatus

/-- The conditions tell of one state, the last of them tells whether the job has ended, and it has a
completion time just if it has. -/
structure Lawful (s : JobStatus) : Prop where
  conditions : Conditions.Lawful s.conditions
  ending : s.isFinished = true ↔ ∃ c ∈ s.lastCondition?, c.type.isTerminal = true
  completed : s.completionTime.isSome = true ↔ s.isFinished = true

/-- A later status has the times that an earlier one has. -/
structure Continues (s t : JobStatus) : Prop where
  startTime : ∀ time ∈ s.startTime, t.startTime = some time
  completionTime : ∀ time ∈ s.completionTime, t.completionTime = some time

theorem Continues.refl (s : JobStatus) : Continues s s := ⟨fun _ h => h, fun _ h => h⟩

theorem Continues.trans {s t u : JobStatus} (h : Continues s t) (h' : Continues t u) :
    Continues s u :=
  ⟨fun time ht => h'.startTime time (h.startTime time ht),
    fun time ht => h'.completionTime time (h.completionTime time ht)⟩

variable {s : JobStatus}

theorem holds_of_isFinished_eq_false (h : s.isFinished = false) (t : ConditionType)
    (ht : t.isTerminal = true) : Conditions.holds s.conditions t = false := by
  rw [isFinished, Bool.or_eq_false_iff] at h
  cases t with
  | succeeded => exact h.1
  | failed => exact h.2
  | created => cases ht
  | running => cases ht
  | restarting => cases ht

/-- A status whose conditions tell of one state and of no end is lawful without a completion
time. -/
theorem lawful_of_unfinished (hconditions : Conditions.Lawful s.conditions)
    (hunfinished : s.isFinished = false) (hcompletion : s.completionTime = none) : s.Lawful where
  conditions := hconditions
  ending := by
    rw [hunfinished]
    refine iff_of_false Bool.false_ne_true ?_
    rintro ⟨c, hc, hterminal⟩
    have hholds : Conditions.holds s.conditions c.type = true :=
      Conditions.holds_iff.2
        ⟨c, List.mem_of_getLast? hc, rfl, hconditions.lastHolds c hc⟩
    rw [holds_of_isFinished_eq_false hunfinished c.type hterminal] at hholds
    cases hholds
  completed := by
    rw [hunfinished, hcompletion]
    exact Iff.rfl

theorem Lawful.completionTime_eq_none (h : s.Lawful) (hunfinished : s.isFinished = false) :
    s.completionTime = none := by
  rw [← Option.not_isSome_iff_eq_none, h.completed, hunfinished]
  exact Bool.false_ne_true

theorem lawful_default : ({} : JobStatus).Lawful :=
  lawful_of_unfinished Conditions.lawful_nil rfl rfl

theorem Lawful.state_iff {j : Job} (h : (j.status.getD {}).Lawful) :
    j.state = "Succeeded" ∨ j.state = "Failed" ↔ j.isFinished = true := by
  have hname : ∀ t : ConditionType, t.name = "Succeeded" ∨ t.name = "Failed" ↔
      t.isTerminal = true := by
    intro t
    cases t <;> decide
  have hlast : j.status.bind (·.lastCondition?) = (j.status.getD {}).lastCondition? := by
    cases j.status <;> rfl
  rw [Job.isFinished_eq, h.ending, Job.state, hlast]
  cases hc : (j.status.getD {}).lastCondition? with
  | none => exact iff_of_false (by decide) (by rintro ⟨c, hc, -⟩; cases hc)
  | some c =>
    refine (hname c.type).trans ⟨fun ht => ⟨c, rfl, ht⟩, ?_⟩
    rintro ⟨d, hd, ht⟩
    rwa [Option.mem_some_iff.1 hd]

end JobStatus

namespace Lifecycle

variable {jobName reason message : String} {s : JobSpec} {status : JobStatus}
  {pods : List ObservedPod} {now : Instant} {type : ConditionType}

/-! ## One step -/

theorem lawful_begun (h : status.Lawful) (hunfinished : status.isFinished = false) :
    (begun jobName s status pods now).Lawful :=
  JobStatus.lawful_of_unfinished
    (h.conditions.record rfl (JobStatus.holds_of_isFinished_eq_false hunfinished))
    (isFinished_begun.trans hunfinished) (h.completionTime_eq_none hunfinished)

theorem lawful_withCondition (h : status.Lawful) (hunfinished : status.isFinished = false)
    (htype : type.isTerminal = false) : (withCondition status type reason message now).Lawful :=
  JobStatus.lawful_of_unfinished
    (h.conditions.record rfl (JobStatus.holds_of_isFinished_eq_false hunfinished))
    ((isFinished_withCondition htype).trans hunfinished) (h.completionTime_eq_none hunfinished)

theorem lawful_finish (h : status.Lawful) (hunfinished : status.isFinished = false)
    (htype : type.isTerminal = true) : (finish status type reason message now).Lawful where
  conditions := h.conditions.record rfl (JobStatus.holds_of_isFinished_eq_false hunfinished)
  ending := by
    have hlast := Conditions.getLast?_record (c := Condition.make type reason message now) rfl
      (JobStatus.holds_of_isFinished_eq_false hunfinished type htype)
    exact iff_of_true (isFinished_finish htype) ⟨_, hlast, htype⟩
  completed := by
    refine iff_of_true ?_ (isFinished_finish htype)
    show (status.completionTime.or (some (Timestamp.write now))).isSome = true
    cases status.completionTime <;> rfl

theorem lawful_apply (h : status.Lawful) (hunfinished : status.isFinished = false) (v : Verdict) :
    (apply jobName status now v).status.Lawful := by
  cases v with
  | podFailed why => exact lawful_finish h hunfinished rfl
  | backoffLimitExceeded => exact lawful_finish h hunfinished rfl
  | deadlineExceeded => exact lawful_finish h hunfinished rfl
  | succeeded => exact lawful_finish h hunfinished rfl
  | restarting names =>
    have hcounted : { status with
        restartCount := status.restartCount + Int32.ofNat names.length }.Lawful :=
      ⟨h.conditions, h.ending, h.completed⟩
    exact lawful_withCondition hcounted hunfinished rfl
  | running => exact lawful_withCondition h hunfinished rfl
  | waiting => exact h

theorem continues_begun : status.Continues (begun jobName s status pods now) where
  startTime := by
    intro time htime
    show status.startTime.or _ = some time
    rw [Option.mem_def.1 htime, Option.some_or]
  completionTime := fun _ h => h

theorem continues_finish : status.Continues (finish status type reason message now) where
  startTime := fun _ h => h
  completionTime := by
    intro time htime
    show status.completionTime.or _ = some time
    rw [Option.mem_def.1 htime, Option.some_or]

theorem continues_apply (v : Verdict) : status.Continues (apply jobName status now v).status := by
  cases v with
  | podFailed why => exact continues_finish
  | backoffLimitExceeded => exact continues_finish
  | deadlineExceeded => exact continues_finish
  | succeeded => exact continues_finish
  | restarting names => exact ⟨fun _ h => h, fun _ h => h⟩
  | running => exact ⟨fun _ h => h, fun _ h => h⟩
  | waiting => exact .refl status

theorem restartCount_apply (v : Verdict) :
    (apply jobName status now v).status.restartCount =
      status.restartCount + Int32.ofNat (apply jobName status now v).restart.length := by
  cases v with
  | restarting names => rfl
  | _ => exact (Int32.add_zero status.restartCount).symm

end Lifecycle

/-- What a step of a job finds, the status of the job apart. -/
structure Moment where
  metadata : ObjectMeta
  spec : JobSpec
  pods : List ObservedPod
  now : Instant

def Moment.job (m : Moment) (status : Option JobStatus) : Job := ⟨m.metadata, m.spec, status⟩

/-- One step of a job that carries a status: what follows from its pods, or the refusal of a spec
that does not pass its check. -/
inductive Step (m : Moment) (status : Option JobStatus) : Transition → Prop
  | advance : Step m status ((m.job status).nextStatus m.pods m.now)
  | refuse {why : JobError} (h : (m.job status).refusal? = some why) :
      Step m status { status := (m.job status).rejected why m.now }

/-- The steps lead from one status that the job carries to another, each of them from the status
that the one before it left. -/
inductive Course (start : Option JobStatus) : List Transition → Option JobStatus → Prop
  | nil : Course start [] start
  | step {ts : List Transition} {s : Option JobStatus} {t : Transition} (m : Moment) :
      Course start ts s → Step m s t → Course start (ts ++ [t]) (some t.status)

section Step

variable {m : Moment} {status : Option JobStatus} {t : Transition}

theorem Job.isFinished_of_refusal? {j : Job} {why : JobError} (h : j.refusal? = some why) :
    (j.status.getD {}).isFinished = false := by
  rw [← Job.isFinished_eq]
  unfold Job.refusal? at h
  split at h
  · cases h
  next hf => exact Bool.eq_false_iff.2 hf

/-- A step is nothing for a finished job; for any other it is a refusal or a verdict. -/
theorem Step.cases (h : Step m status t) :
    ((status.getD {}).isFinished = true ∧ t = { status := status.getD {} }) ∨
    ((status.getD {}).isFinished = false ∧
      ((∃ why : JobError, t =
        { status := finish (status.getD {}) .failed "InvalidSpec" why.message m.now }) ∨
      ∃ v, t = apply (m.job status).name ((m.job status).begun m.pods m.now) m.now v)) := by
  cases h with
  | refuse hwhy => exact .inr ⟨Job.isFinished_of_refusal? hwhy, .inl ⟨_, rfl⟩⟩
  | advance =>
    have heq : (m.job status).isFinished = (status.getD {}).isFinished := Job.isFinished_eq _
    cases hf : (status.getD {}).isFinished with
    | true => exact .inl ⟨rfl, by simp [Job.nextStatus, Moment.job, hf]⟩
    | false =>
      exact .inr ⟨rfl, .inr ⟨_, Job.nextStatus_of_unfinished (heq.trans hf)⟩⟩

theorem Step.decision (j : Job) (pods : List ObservedPod) (now : Instant) :
    Step ⟨j.metadata, j.spec, pods, now⟩ j.status (j.decision pods now) := by
  unfold Job.decision
  split
  next why hwhy => exact .refuse hwhy
  next => exact .advance

theorem Step.restart_eq_nil (h : Step m status t) (hends : t.isFinished = true) :
    t.restart = [] := by
  rcases h.cases with ⟨-, rfl⟩ | ⟨hf, ⟨why, rfl⟩ | ⟨v, rfl⟩⟩
  · rfl
  · rfl
  · have hv : v.ends = true := by
      rw [← hends]
      exact (isFinished_apply (isFinished_begun.trans hf) v).symm
    cases v with
    | restarting names => cases hv
    | _ => rfl

theorem Job.goesOn_of_decision {j : Job} {pods : List ObservedPod} {now : Instant}
    (h : (j.decision pods now).isFinished = false) : j.isFinished = false ∧ j.refusal? = none := by
  rcases (Step.decision j pods now).cases with ⟨hf, heq⟩ | ⟨hf, -⟩
  · rw [heq] at h
    exact absurd hf (Bool.eq_false_iff.1 h)
  · refine ⟨(Job.isFinished_eq j).trans hf, ?_⟩
    cases hok : j.refusal? with
    | none => rfl
    | some why =>
      simp only [Job.decision, hok] at h
      exact absurd (isFinished_finish rfl) (Bool.eq_false_iff.1 h)

theorem Step.lawful (h : Step m status t) (hs : (status.getD {}).Lawful) : t.status.Lawful := by
  rcases h.cases with ⟨-, rfl⟩ | ⟨hf, ⟨why, rfl⟩ | ⟨v, rfl⟩⟩
  · exact hs
  · exact lawful_finish hs hf rfl
  · exact lawful_apply (lawful_begun hs hf) (isFinished_begun.trans hf) v

theorem Step.continues (h : Step m status t) : (status.getD {}).Continues t.status := by
  rcases h.cases with ⟨-, rfl⟩ | ⟨-, ⟨why, rfl⟩ | ⟨v, rfl⟩⟩
  · exact .refl _
  · exact continues_finish
  · exact continues_begun.trans (continues_apply v)

theorem Step.restartCount_eq (h : Step m status t) :
    t.status.restartCount = (status.getD {}).restartCount + Int32.ofNat t.restart.length := by
  rcases h.cases with ⟨-, rfl⟩ | ⟨-, ⟨why, rfl⟩ | ⟨v, rfl⟩⟩
  · exact (Int32.add_zero _).symm
  · exact (Int32.add_zero _).symm
  · exact restartCount_apply v

end Step

/-! ## All steps -/

namespace Course

variable {start s s' : Option JobStatus} {ts ts' : List Transition}

def restarts (ts : List Transition) : Nat := (ts.map (·.restart.length)).sum

theorem restarts_concat (ts : List Transition) (t : Transition) :
    restarts (ts ++ [t]) = restarts ts + t.restart.length := by
  simp [restarts]

theorem lawful (h : Course start ts s) (hstart : (start.getD {}).Lawful) : (s.getD {}).Lawful := by
  induction h with
  | nil => exact hstart
  | step m _ hstep ih => exact hstep.lawful ih

theorem continues (h : Course start ts s) : (start.getD {}).Continues (s.getD {}) := by
  induction h with
  | nil => exact .refl _
  | step m _ hstep ih => exact ih.trans hstep.continues

theorem restartCount_eq (h : Course start ts s) :
    (s.getD {}).restartCount = (start.getD {}).restartCount + Int32.ofNat (restarts ts) := by
  induction h with
  | nil => exact (Int32.add_zero _).symm
  | @step ts s t m _ hstep ih =>
    rw [Option.getD_some, hstep.restartCount_eq, ih, restarts_concat, Int32.ofNat_add,
      Int32.add_assoc]

/-- **The statuses of a job.** Whatever the steps of a job that began without a status: no type of
condition occurs twice, each is true or false, at most one of those besides `created` holds, and the
last one does, so the state of the job names its end just if it has one; the job has a completion
time just if it has ended. Neither time changes once it is there, and as long as the restarts fit
into 32 bits their number only grows. -/
theorem lifecycle (past : Course none ts s) (future : Course s ts' s') :
    let before := s.getD {}
    let after := s'.getD {}
    (after.conditions.map (·.type)).Nodup ∧
    (∀ c ∈ after.conditions, c.status = .true_ ∨ c.status = .false_) ∧
    (∀ t u, t ≠ .created → u ≠ .created → after.holds t = true → after.holds u = true → t = u) ∧
    (∀ c ∈ after.lastCondition?, c.isTrue = true) ∧
    (∀ j : Job, j.status = s' → (j.state = "Succeeded" ∨ j.state = "Failed" ↔
      j.isFinished = true)) ∧
    (after.completionTime.isSome = true ↔ after.isFinished = true) ∧
    (∀ time ∈ before.startTime, after.startTime = some time) ∧
    (∀ time ∈ before.completionTime, after.completionTime = some time) ∧
    (restarts (ts ++ ts') < 2147483648 → before.restartCount ≤ after.restartCount) := by
  intro before after
  have hlawful : after.Lawful := future.lawful (past.lawful JobStatus.lawful_default)
  have hcontinues : before.Continues after := future.continues
  refine ⟨hlawful.conditions.distinct, hlawful.conditions.decided, hlawful.conditions.exclusive,
    hlawful.conditions.lastHolds, fun j hj => ?_, hlawful.completed, hcontinues.startTime,
    hcontinues.completionTime, fun hfits => ?_⟩
  · refine JobStatus.Lawful.state_iff ?_
    rw [hj]
    exact hlawful
  · have hsum : restarts (ts ++ ts') = restarts ts + restarts ts' := by simp [restarts]
    have hbefore : before.restartCount = Int32.ofNat (restarts ts) :=
      past.restartCount_eq.trans (Int32.zero_add _)
    have hafter : after.restartCount = Int32.ofNat (restarts ts + restarts ts') := by
      rw [future.restartCount_eq, Int32.ofNat_add]
      exact congrArg (· + Int32.ofNat (restarts ts')) hbefore
    rw [hbefore, hafter, Int32.le_iff_toInt_le, Int32.toInt_ofNat_of_lt (by omega),
      Int32.toInt_ofNat_of_lt (by omega)]
    omega

/-- A job of one worker that is restarted when it fails, at a time at which its worker has come so
far. -/
def workerMoment (phase : PodPhase) (second : Int) : Moment where
  metadata := { name := some "mnist", namespace_ := some "ml" }
  spec := {
    replicaSpecs := Dict.ofList
      [("Worker",
        { template := { spec := some { containers := [{ name := "trainer" }] } }
          restartPolicy := .onFailure })] }
  pods := [{ name := "mnist-worker-0", replicaType := "worker", index := 0, phase := phase }]
  now := Instant.ofSeconds second

def workerStep (status : Option JobStatus) (phase : PodPhase) (second : Int) : Transition :=
  ((workerMoment phase second).job status).nextStatus (workerMoment phase second).pods
    (workerMoment phase second).now

/-- The worker fails, is made anew, runs and succeeds. -/
theorem lifecycle_mended :
    let failing := workerStep none .failed 1714557600
    let running := workerStep (some failing.status) .running 1714557605
    let done := workerStep (some running.status) .succeeded 1714557610
    Course none [failing] (some failing.status) ∧
    Course (some failing.status) [running, done] (some done.status) ∧
    (failing.status.restartCount = 1 ∧ failing.status.isFinished = false ∧
      done.status.isFinished = true) ∧
    (done.status.conditions.map (·.type)).Nodup ∧
    (done.status.completionTime.isSome = true ↔ done.status.isFinished = true) ∧
    (∀ time ∈ failing.status.startTime, done.status.startTime = some time) ∧
    failing.status.restartCount ≤ done.status.restartCount := by
  intro failing running done
  have past : Course none [failing] (some failing.status) :=
    .step (workerMoment .failed 1714557600) .nil .advance
  have hrunning : Course (some failing.status) [running] (some running.status) :=
    .step (workerMoment .running 1714557605) .nil .advance
  have future : Course (some failing.status) [running, done] (some done.status) :=
    .step (workerMoment .succeeded 1714557610) hrunning .advance
  obtain ⟨hdistinct, -, -, -, -, hcompleted, hstart, -, hgrows⟩ := lifecycle past future
  exact ⟨past, future, by decide, hdistinct, hcompleted, hstart, hgrows (by decide)⟩

end Course

end TrainingJobs
