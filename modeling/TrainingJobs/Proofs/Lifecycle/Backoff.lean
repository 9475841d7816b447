import TrainingJobs.Proofs.Lifecycle.Failure
import TrainingJobs.Proofs.Lifecycle.FewerPods

/-!
# The backoff limit over a whole run

Three quantities meet in the limit: the restarts that were counted so far, those that the containers
of the present pods had without the operator, and the pods that are about to be made anew. The last
of them becomes part of the first, and the second may shrink when a pod is replaced; so what is kept
from step to step is that the count is the number of pods made anew and within the limit
(`Run.restartCount_eq`), and a step is told from its own pods (`Limited.exceedsBackoff_iff`).
-/

namespace TrainingJobs

open Lifecycle

/-- The restarts that were made without the operator, of pods that may be restarted so. -/
def Moment.restartsInPlace (m : Moment) : Int :=
  ((m.pods.filter fun p => RunsAgain m.spec p).map fun p => p.restarts.toInt).sum

def Moment.failures (m : Moment) : Nat := (m.pods.filter fun p => MustRestart m.spec p).length

/-- The job has this limit, and its restarts can be counted in 32 bits. -/
structure Limited (limit : Int32) (m : Moment) (s : Option JobStatus) : Prop where
  backoffLimit : m.spec.runPolicy.backoffLimit = some limit
  nonneg : ∀ p ∈ m.pods, 0 ≤ p.restarts
  countable :
    m.restartsInPlace + (s.getD {}).restartCount.toInt + m.failures < 2147483648

section Limited

variable {limit : Int32} {m : Moment} {s : Option JobStatus} {t : Transition}
  {ts : List Transition}

theorem Limited.restartsInPlace_nonneg (h : Limited limit m s) : 0 ≤ m.restartsInPlace :=
  ownRestarts_sum_nonneg h.nonneg

theorem Limited.exceedsBackoff_iff (h : Limited limit m s) :
    exceedsBackoff m.spec (s.getD {}) m.pods
        ((m.pods.filter fun p => MustRestart m.spec p).map (·.name)) = true ↔
      limit.toInt < m.restartsInPlace + (s.getD {}).restartCount.toInt + m.failures := by
  rw [Lifecycle.exceedsBackoff_iff (le_restartTotal h.nonneg) h.countable, h.backoffLimit]
  simp only [Option.mem_def, Option.some.injEq, exists_eq_left']
  rfl

/-- A step that does not end the job makes its failed pods anew and keeps the limit with them. -/
theorem Limited.restart_of_goesOn (h : Limited limit m s) (hstep : Step m s t)
    (hgoesOn : t.isFinished = false) :
    t.restart.length = m.failures ∧
      m.restartsInPlace + (s.getD {}).restartCount.toInt + m.failures ≤ limit.toInt := by
  obtain ⟨hunfinished, rfl⟩ := hstep.eq_nextStatus hgoesOn
  refine ⟨?_, Int.not_lt.1 fun hexceeds => ?_⟩
  · rw [Job.restart_nextStatus hunfinished hgoesOn, List.length_map]
    rfl
  · refine Bool.eq_false_iff.1 hgoesOn ((Job.isFinished_nextStatus_iff hunfinished).2 ?_)
    exact .inr (.inl (h.exceedsBackoff_iff.2 hexceeds))

theorem Limited.restartCount_step (h : Limited limit m s) (hstep : Step m s t)
    (hkeeps : (s.getD {}).restartCount ≤ limit) :
    t.status.restartCount.toInt = (s.getD {}).restartCount.toInt + t.restart.length ∧
      t.status.restartCount ≤ limit := by
  have hcount : t.status.restartCount =
      Int32.ofInt ((s.getD {}).restartCount.toInt + t.restart.length) := by
    rw [hstep.restartCount_eq, Int32.ofInt_add, Int32.ofInt_toInt, Int32.ofInt_eq_ofNat]
  have hle : (s.getD {}).restartCount.toInt + t.restart.length ≤ limit.toInt := by
    cases hends : t.isFinished with
    | true =>
      rw [hstep.restart_eq_nil hends, List.length_nil]
      have := Int32.le_iff_toInt_le.1 hkeeps
      omega
    | false =>
      obtain ⟨hlength, hwithin⟩ := h.restart_of_goesOn hstep hends
      have hinPlace := h.restartsInPlace_nonneg
      omega
  have hlow := (s.getD {}).restartCount.le_toInt
  have hhigh := limit.toInt_lt
  have htold : t.status.restartCount.toInt =
      (s.getD {}).restartCount.toInt + t.restart.length := by
    rw [hcount, Int32.toInt_ofInt_of_le (by omega) (by omega)]
  exact ⟨htold, Int32.le_iff_toInt_le.2 (htold ▸ hle)⟩

/-- The count of a run is the number of pods that were to be made anew, and within the limit. -/
theorem Run.restartCount_eq (run : Run (Limited limit) ts s) (hlimit : 0 ≤ limit) :
    (s.getD {}).restartCount.toInt = Course.restarts ts ∧ (s.getD {}).restartCount ≤ limit := by
  induction run with
  | start => exact ⟨rfl, hlimit⟩
  | step m hm _ hstep hkept ih =>
    obtain ⟨hcount, hkeeps⟩ := hm.restartCount_step hstep ih.2
    rw [Option.getD_some, hkept.restartCount, Course.restarts_concat, hcount, ih.1]
    exact ⟨by push_cast; rfl, hkeeps⟩

/-- **The backoff limit over a whole run.** A job begins without a status and its spec may change,
but for a limit that is not negative. After each step the count of restarts is the number of all
pods that were to be made anew, and within the limit. As long as the job is not ended, the restarts
that its present pods had without the operator keep the limit together with the count. A step of an
unfinished job that could not keep it makes no pod anew, leaves the count as it is and fails the
job: for a pod that failed for good if there is one, and else for the limit; and no other step fails
it for the limit. -/
theorem Run.backoff_respected (past : Run (Limited limit) ts s) (hlimit : 0 ≤ limit)
    (hm : Limited limit m s) :
    let before := (s.getD {}).restartCount
    let t := (m.job s).nextStatus m.pods m.now
    let exceeds := limit.toInt < m.restartsInPlace + Course.restarts ts + m.failures
    let failsForGood := ∃ p ∈ m.pods, FailsForGood m.spec p
    (t.status.restartCount.toInt = Course.restarts (ts ++ [t]) ∧ t.status.restartCount ≤ limit) ∧
    (t.isFinished = false → m.restartsInPlace + t.status.restartCount.toInt ≤ limit.toInt) ∧
    ((m.job s).isFinished = false → exceeds →
      t.restart = [] ∧ t.status.restartCount = before ∧
      t.status.FailedFor (if failsForGood then "JobFailed" else "BackoffLimitExceeded")) ∧
    ((m.job s).isFinished = false →
      (t.status.FailedFor "BackoffLimitExceeded" ↔ exceeds ∧ ¬ failsForGood)) := by
  intro before t exceeds failsForGood
  have hstep : Step m s t := .advance
  obtain ⟨hbefore, hkeeps⟩ := past.restartCount_eq hlimit
  obtain ⟨hcount, hkept⟩ := hm.restartCount_step hstep hkeeps
  have hexceeds : exceedsBackoff m.spec (s.getD {}) m.pods
      ((m.pods.filter fun p => MustRestart m.spec p).map (·.name)) = true ↔ exceeds := by
    rw [hm.exceedsBackoff_iff, hbefore]
  refine ⟨⟨?_, hkept⟩, fun hgoesOn => ?_, fun hunfinished hover => ?_, fun hunfinished => ?_⟩
  · rw [hcount, hbefore, Course.restarts_concat]
    push_cast
    rfl
  · obtain ⟨hlength, hwithin⟩ := hm.restart_of_goesOn hstep hgoesOn
    rw [hcount, hlength]
    omega
  · have hfails : t.status.FailedFor
        (if failsForGood then "JobFailed" else "BackoffLimitExceeded") := by
      by_cases hgood : failsForGood
      · rw [if_pos hgood, Job.failedFor_nextStatus hunfinished, Job.failure?_eq_jobFailed_iff]
        exact hgood
      · rw [if_neg hgood, Job.failedFor_nextStatus hunfinished,
          Job.failure?_eq_backoffLimitExceeded_iff]
        exact ⟨hgood, hexceeds.2 hover⟩
    have hnone : t.restart = [] := hstep.restart_eq_nil hfails.isFinished
    refine ⟨hnone, ?_, hfails⟩
    rw [hstep.restartCount_eq, hnone]
    exact Int32.add_zero before
  · rw [Job.failedFor_nextStatus hunfinished, Job.failure?_eq_backoffLimitExceeded_iff, and_comm,
      ← hexceeds]
    rfl

/-- A job of one worker that may be made anew once, when its worker has failed. -/
def failedOnce (second : Int) : Moment :=
  let worker := Course.workerMoment .failed second
  { worker with spec := { worker.spec with runPolicy := { backoffLimit := some 1 } } }

/-- The worker fails, is made anew and fails again. -/
theorem Run.backoff_respected_worker :
    let first := ((failedOnce 1714557600).job none).nextStatus (failedOnce 1714557600).pods
      (failedOnce 1714557600).now
    let m := failedOnce 1714557605
    let second := (m.job (some first.status)).nextStatus m.pods m.now
    (Run (Limited 1) [first] (some first.status) ∧ (0 : Int32) ≤ 1 ∧
      Limited 1 m (some first.status)) ∧
    (first.restart = ["mnist-worker-0"] ∧ first.isFinished = false ∧
      (1 : Int32).toInt < m.restartsInPlace + Course.restarts [first] + m.failures) ∧
    second.restart = [] ∧ second.status.restartCount = 1 ∧
      second.status.FailedFor "BackoffLimitExceeded" := by
  intro first m second
  have past : Run (Limited 1) [first] (some first.status) :=
    .step (failedOnce 1714557600) ⟨rfl, by decide, by decide⟩ .start .advance (.refl _)
  have hm : Limited 1 m (some first.status) := ⟨rfl, by decide, by decide⟩
  have hexceeds : (1 : Int32).toInt < m.restartsInPlace + Course.restarts [first] + m.failures := by
    decide
  obtain ⟨-, -, hover, -⟩ := past.backoff_respected (by decide) hm
  obtain ⟨hnone, hcount, hfails⟩ := hover (by decide) hexceeds
  rw [if_neg (by decide)] at hfails
  exact ⟨⟨past, by decide, hm⟩, ⟨by decide, by decide, hexceeds⟩, hnone, hcount, hfails⟩

end Limited

end TrainingJobs
