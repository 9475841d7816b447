import TrainingJobs.Proofs.Lifecycle.History
import TrainingJobs.Proofs.Reconcile.Terminal

/-!
# Why a job fails

A job that fails tells why in its last condition (`JobStatus.FailedFor`). `Job.failure?` puts the
reasons in order: a pod that failed for good goes before the backoff limit, and the limit before the
deadline; a step tells just the reason that comes first (`Job.failedFor_nextStatus`).

A `Run` is a course of a job that begins without a status, all of whose steps find what is asked of
them.
-/

namespace TrainingJobs

open Lifecycle

namespace JobStatus

/-- The job has failed, and the condition recorded last gives this reason for it. -/
def FailedFor (s : JobStatus) (reason : String) : Prop :=
  ∃ c ∈ s.lastCondition?, c.type = .failed ∧ c.isTrue = true ∧ c.reason = reason

instance (s : JobStatus) (reason : String) : Decidable (s.FailedFor reason) :=
  inferInstanceAs (Decidable (∃ c ∈ s.lastCondition?, _))

theorem FailedFor.isFinished {s : JobStatus} {reason : String} (h : s.FailedFor reason) :
    s.isFinished = true := by
  obtain ⟨c, hc, htype, htrue, -⟩ := h
  have hholds : s.holds .failed = true :=
    Conditions.holds_iff.2 ⟨c, List.mem_of_getLast? hc, htype, htrue⟩
  rw [JobStatus.isFinished, hholds, Bool.or_true]

end JobStatus

namespace Lifecycle

variable {jobName reason message why : String} {s : JobSpec} {status : JobStatus}
  {pods : List ObservedPod} {now : Instant} {type : ConditionType}

/-- The reason that is told with a verdict by which a job fails. -/
def Verdict.failure? : Verdict → Option String
  | podFailed _ => some "JobFailed"
  | backoffLimitExceeded => some "BackoffLimitExceeded"
  | deadlineExceeded => some "DeadlineExceeded"
  | succeeded | restarting _ | running | waiting => none

theorem lastCondition?_finish (h : status.isFinished = false) (htype : type.isTerminal = true)
    (reason message : String) (now : Instant) :
    ∃ c, (finish status type reason message now).lastCondition? = some c ∧
      c.type = type ∧ c.isTrue = true ∧ c.reason = reason :=
  ⟨_, Conditions.getLast?_record (c := Condition.make type reason message now) rfl
    (JobStatus.holds_of_isFinished_eq_false h type htype), rfl, rfl, rfl⟩

theorem failedFor_finish (h : status.isFinished = false) :
    (finish status .failed reason message now).FailedFor why ↔ some reason = some why := by
  have hfailed : ConditionType.isTerminal .failed = true := rfl
  obtain ⟨c, hlast, htype, htrue, rfl⟩ := lastCondition?_finish h hfailed reason message now
  unfold JobStatus.FailedFor
  rw [hlast]
  simp [htype, htrue]

theorem failedFor_apply (h : status.isFinished = false) (v : Verdict) :
    (apply jobName status now v).status.FailedFor why ↔ v.failure? = some why := by
  have hgoesOn : v.ends = false →
      ¬ (apply jobName status now v).status.FailedFor why := by
    intro hends hfailed
    have hfinished : (apply jobName status now v).isFinished = true := hfailed.isFinished
    rw [isFinished_apply h, hends] at hfinished
    cases hfinished
  cases v with
  | podFailed _ => exact failedFor_finish h
  | backoffLimitExceeded => exact failedFor_finish h
  | deadlineExceeded => exact failedFor_finish h
  | succeeded =>
    refine iff_of_false ?_ nofun
    rintro ⟨c, hc, htype, -⟩
    have hterminal : ConditionType.isTerminal .succeeded = true := rfl
    obtain ⟨d, hlast, hsucceeded, -⟩ := lastCondition?_finish h hterminal "JobSucceeded"
      ("TrainingJob " ++ jobName ++ " successfully completed.") now
    have hsame : d = c := Option.some.inj (hlast.symm.trans hc)
    rw [← hsame, hsucceeded] at htype
    cases htype
  | restarting _ => exact iff_of_false (hgoesOn rfl) nofun
  | running => exact iff_of_false (hgoesOn rfl) nofun
  | waiting => exact iff_of_false (hgoesOn rfl) nofun

theorem failure?_verdict :
    (verdict jobName s status pods now).failure? =
      if ∃ p ∈ pods, FailsForGood s p then some "JobFailed"
      else if exceedsBackoff s status pods
          ((pods.filter fun p => MustRestart s p).map (·.name)) then some "BackoffLimitExceeded"
      else if isPastDeadline s status now then some "DeadlineExceeded"
      else none := by
  unfold verdict
  simp only [restarts_outcomes]
  cases hwhy : fatality? (outcomes jobName s pods) with
  | some why =>
    have hfails : ∃ p ∈ pods, FailsForGood s p := by
      refine Classical.byContradiction fun hno => ?_
      rw [fatality?_eq_none_iff.2 fun p hp hf => hno ⟨p, hp, hf⟩] at hwhy
      cases hwhy
    rw [if_pos hfails]
    rfl
  | none =>
    have hno : ¬ ∃ p ∈ pods, FailsForGood s p :=
      fun ⟨p, hp, hf⟩ => fatality?_eq_none_iff.1 hwhy p hp hf
    rw [if_neg hno]
    dsimp only
    split
    · rfl
    split
    · rfl
    split
    · rfl
    split
    · rfl
    split <;> rfl

end Lifecycle

namespace Job

variable {j : Job} {pods : List ObservedPod} {now : Instant} {reason : String}

/-- The reason for which an unfinished job fails, if it does. -/
def failure? (j : Job) (pods : List ObservedPod) (now : Instant) : Option String :=
  if ∃ p ∈ pods, FailsForGood j.spec p then some "JobFailed"
  else if exceedsBackoff j.spec (j.status.getD {}) pods
      ((pods.filter fun p => MustRestart j.spec p).map (·.name)) then some "BackoffLimitExceeded"
  else if j.deadlineReached now then some "DeadlineExceeded"
  else none

theorem failure?_verdict : (j.verdict pods now).failure? = j.failure? pods now :=
  Lifecycle.failure?_verdict

theorem failure?_eq_jobFailed_iff :
    j.failure? pods now = some "JobFailed" ↔ ∃ p ∈ pods, FailsForGood j.spec p := by
  unfold failure?
  split
  next hgood => exact iff_of_true rfl hgood
  next hgood =>
    refine iff_of_false ?_ hgood
    split
    · decide
    · split <;> decide

theorem failure?_eq_backoffLimitExceeded_iff :
    j.failure? pods now = some "BackoffLimitExceeded" ↔
      (¬ ∃ p ∈ pods, FailsForGood j.spec p) ∧
        exceedsBackoff j.spec (j.status.getD {}) pods
          ((pods.filter fun p => MustRestart j.spec p).map (·.name)) = true := by
  unfold failure?
  split
  next hgood => exact iff_of_false (by decide) fun h => h.1 hgood
  next hgood =>
  split
  next hback => exact iff_of_true rfl ⟨hgood, hback⟩
  next hback =>
    refine iff_of_false ?_ fun h => hback h.2
    split <;> decide

theorem failure?_eq_deadlineExceeded_iff :
    j.failure? pods now = some "DeadlineExceeded" ↔
      (¬ ∃ p ∈ pods, FailsForGood j.spec p) ∧
        exceedsBackoff j.spec (j.status.getD {}) pods
          ((pods.filter fun p => MustRestart j.spec p).map (·.name)) = false ∧
        j.deadlineReached now = true := by
  unfold failure?
  split
  next hgood => exact iff_of_false (by decide) fun h => h.1 hgood
  next hgood =>
  split
  next hback => exact iff_of_false (by decide) fun h => Bool.eq_false_iff.1 h.2.1 hback
  next hback =>
  split
  next hdead => exact iff_of_true rfl ⟨hgood, Bool.eq_false_iff.2 hback, hdead⟩
  next hdead => exact iff_of_false nofun fun h => hdead h.2.2

/-- A step fails an unfinished job just for the reason that comes first. -/
theorem failedFor_nextStatus (h : j.isFinished = false) :
    (j.nextStatus pods now).status.FailedFor reason ↔ j.failure? pods now = some reason := by
  rw [nextStatus_of_unfinished h, failedFor_apply (isFinished_begun h), failure?_verdict]

end Job

/-! ## Runs -/

/-- The steps of a job that begins without a status. Each finds of the job and its pods what `P`
says, and the job keeps what it leaves, as far as that tells of an outcome. -/
inductive Run (P : Moment → Option JobStatus → Prop) : List Transition → Option JobStatus → Prop
  | start : Run P [] none
  | step {ts : List Transition} {s : Option JobStatus} {t : Transition} {kept : JobStatus}
      (m : Moment) (hm : P m s) (past : Run P ts s) (hstep : Step m s t)
      (hkept : t.status.SameOutcome kept) : Run P (ts ++ [t]) (some kept)

theorem Step.eq_nextStatus {m : Moment} {s : Option JobStatus} {t : Transition}
    (h : Step m s t) (hgoesOn : t.isFinished = false) :
    (m.job s).isFinished = false ∧ t = (m.job s).nextStatus m.pods m.now := by
  have hunfinished : (m.job s).isFinished = false := by
    rw [Job.isFinished_eq]
    rcases h.cases with ⟨hf, rfl⟩ | ⟨hf, -⟩
    · exact absurd hf (Bool.eq_false_iff.1 hgoesOn)
    · exact hf
  cases h with
  | advance => exact ⟨hunfinished, rfl⟩
  | refuse hwhy => exact absurd (isFinished_finish rfl) (Bool.eq_false_iff.1 hgoesOn)

end TrainingJobs
