import TrainingJobs.Proofs.Lifecycle.Failure
import TrainingJobs.Proofs.Time.Clock

/-!
# The active deadline

A job remembers when it started as a text, which it reads again in every step. The text loses
nothing (`Timestamp.read?_write`), so the deadline is the same time in all of them
(`Timed.deadlineRemaining?_eq`): a step fails the job for it just if it is not ahead any more, and
as long as it is, the job is looked at again before it or a second later at most.
-/

namespace TrainingJobs

open Lifecycle

namespace Span

variable {a b : Span}

theorem nanoseconds_shorter : (a.shorter b).nanoseconds = min a.nanoseconds b.nanoseconds := by
  unfold shorter
  split <;> omega

theorem nanoseconds_longer : (a.longer b).nanoseconds = max a.nanoseconds b.nanoseconds := by
  unfold longer
  split <;> omega

end Span

/-- A job that has this deadline and starts at this time, unless it has started. -/
structure Timed (deadline : Int64) (start : Instant) (m : Moment) (s : Option JobStatus) : Prop where
  activeDeadlineSeconds : m.spec.runPolicy.activeDeadlineSeconds = some deadline
  start : s = none → m.now = start

section Timed

variable {deadline : Int64} {start : Instant} {m : Moment} {s : Option JobStatus} {t : Transition}
  {ts : List Transition}

/-! ## The start -/

/-- A step that does not end the job writes down when it started, or keeps that. -/
theorem Step.startTime_of_goesOn (h : Step m s t) (hgoesOn : t.isFinished = false) :
    t.status.startTime = (s.getD {}).startTime.or (some (Timestamp.write m.now)) := by
  obtain ⟨hunfinished, rfl⟩ := h.eq_nextStatus hgoesOn
  rw [Job.nextStatus_of_unfinished hunfinished, startTime_apply]
  rfl

/-- An unfinished job of a run tells when the run began. -/
theorem Run.startTime_eq (run : Run (Timed deadline start) ts s) :
    ∀ kept ∈ s, kept.isFinished = false → kept.startTime = some (Timestamp.write start) := by
  induction run with
  | start => exact fun _ hkept => nomatch hkept
  | @step ts s t kept m hm _ hstep hkept ih =>
    intro status hstatus hunfinished
    rw [← Option.mem_some_iff.1 hstatus] at hunfinished ⊢
    have hgoesOn : t.isFinished = false := hkept.isFinished.symm.trans hunfinished
    rw [hkept.startTime, hstep.startTime_of_goesOn hgoesOn]
    cases s with
    | none =>
      rw [hm.start rfl]
      rfl
    | some status =>
      have hbefore : status.isFinished = false :=
        (Job.isFinished_eq _).symm.trans (hstep.eq_nextStatus hgoesOn).1
      rw [Option.getD_some, ih status rfl hbefore]
      rfl

theorem Run.startTime_begun (run : Run (Timed deadline start) ts s) (hm : Timed deadline start m s)
    (hunfinished : (m.job s).isFinished = false) (pods : List ObservedPod) :
    ((m.job s).begun pods m.now).startTime = some (Timestamp.write start) := by
  show (s.getD {}).startTime.or (some (Timestamp.write m.now)) = _
  cases s with
  | none =>
    rw [hm.start rfl]
    rfl
  | some status =>
    rw [Option.getD_some, run.startTime_eq status rfl hunfinished]
    rfl

/-! ## The time that remains -/

variable (hstart : start.Recordable) (hdeadline : 1 ≤ deadline ∧ deadline ≤ 315360000)
  (hnow : m.now.isLeap = false)

include hstart hdeadline hnow

/-- What remains of the deadline of a status that tells when the run began. -/
theorem Timed.deadlineRemaining?_eq (hm : Timed deadline start m s) {status : JobStatus}
    (htold : status.startTime = some (Timestamp.write start)) :
    deadlineRemaining? status m.spec.runPolicy.activeDeadlineSeconds m.now =
      some ⟨(start.due deadline.toInt - m.now.clock).toNat⟩ := by
  have hlow : (1 : Int64).toInt ≤ deadline.toInt := Int64.le_iff_toInt_le.1 hdeadline.1
  have hhigh : deadline.toInt ≤ (315360000 : Int64).toInt := Int64.le_iff_toInt_le.1 hdeadline.2
  have hfits : -2147483648 ≤ deadline.toInt ∧ deadline.toInt ≤ 2147483647 := by
    rw [show (1 : Int64).toInt = 1 from rfl] at hlow
    rw [show (315360000 : Int64).toInt = 315360000 from rfl] at hhigh
    omega
  rw [hm.activeDeadlineSeconds, ← hstart.remaining?_eq hnow hfits]
  simp only [deadlineRemaining?, htold, Option.bind_eq_bind, Option.bind_some,
    hstart.read?_write]

/-- The deadline of a run is reached just when its seconds are over. -/
theorem Run.deadlineReached_iff (run : Run (Timed deadline start) ts s)
    (hm : Timed deadline start m s) (hunfinished : (m.job s).isFinished = false) :
    (m.job s).deadlineReached m.now = true ↔ start.due deadline.toInt ≤ m.now.clock := by
  have hremaining := hm.deadlineRemaining?_eq hstart hdeadline hnow
    (run.startTime_begun hm hunfinished [])
  show (deadlineRemaining? _ m.spec.runPolicy.activeDeadlineSeconds m.now).any (·.isZero) = true ↔ _
  rw [hremaining, Option.any_some, Span.isZero_iff, Span.zero, Span.mk.injEq]
  omega

theorem Run.requeueDelay_eq (run : Run (Timed deadline start) ts s)
    (hm : Timed deadline start m s) (ctx : OperatorContext)
    (hgoesOn : ((m.job s).nextStatus m.pods m.now).isFinished = false) :
    ((m.job s).requeueDelay ctx ((m.job s).nextStatus m.pods m.now).status m.now).nanoseconds =
      max (min (start.due deadline.toInt - m.now.clock).toNat
        ctx.options.requeueInterval.nanoseconds) 1000000000 := by
  have hstep : Step m s ((m.job s).nextStatus m.pods m.now) := .advance
  have hunfinished := (hstep.eq_nextStatus hgoesOn).1
  have htold : ((m.job s).nextStatus m.pods m.now).status.startTime =
      some (Timestamp.write start) := by
    rw [hstep.startTime_of_goesOn hgoesOn]
    exact run.startTime_begun hm hunfinished m.pods
  have hremaining : deadlineRemaining? ((m.job s).nextStatus m.pods m.now).status
      (m.job s).spec.runPolicy.activeDeadlineSeconds m.now =
        some ⟨(start.due deadline.toInt - m.now.clock).toNat⟩ :=
    hm.deadlineRemaining?_eq hstart hdeadline hnow htold
  simp only [Job.requeueDelay, hremaining, Span.nanoseconds_longer, Span.nanoseconds_shorter]
  rfl

omit hstart hdeadline hnow

/-! ## The reconciles of a run -/

/-- What a visit finds when it lists these pods. -/
def Visit.moment (v : Visit) (pods : List Pod) : Moment :=
  ⟨v.metadata, v.spec, pods.filterMap ObservedPod.ofPod?, v.now⟩

/-- A reconcile without errors of a job that goes on asks for another one after its delay. -/
theorem Visit.action_of_goesOn {v : Visit} {ns : String} {pods : List Pod} {a : Action}
    (halive : v.metadata.deletionTimestamp = none) (hns : v.metadata.namespace_ = some ns)
    (hpods : v.backend.listPods v.cluster ns (v.job s).childSelector = .ok pods)
    (haccepted : (v.job s).refusal? = none)
    (hgoesOn : ((v.job s).nextStatus (v.moment pods).pods v.now).isFinished = false)
    (hok : (v.reconcile s).result = .ok a) :
    a = .requeue ((v.job s).requeueDelay v.ctx
      ((v.job s).nextStatus (v.moment pods).pods v.now).status v.now) := by
  rcases Job.result_reconcile hok with
    ⟨hdeleted, -⟩ | ⟨-, ns', hns', ⟨why, hwhy, -⟩ | ⟨-, found, services, hfound, -, rfl⟩⟩
  · rw [show (v.job s).metadata.deletionTimestamp = none from halive] at hdeleted
    cases hdeleted
  · rw [haccepted] at hwhy
    cases hwhy
  · obtain rfl : ns = ns' := Option.some.inj (hns.symm.trans hns')
    obtain rfl : pods = found := Except.ok.inj (hpods.symm.trans hfound)
    exact congrArg Schedule.action (Job.schedule_of_goesOn hgoesOn)

/-- **The active deadline is exact.** A job begins without a status, its deadline stays the same and
its clock shows no leap second. A step of the unfinished job fails it for the deadline just if that
is over and neither a pod that failed for good nor the backoff limit goes before; and no step leaves
the job unfinished once it is over. A reconcile without errors that leaves the job unfinished asks
to be repeated, not after the deadline or a second from now, whichever is later, and after the usual
interval or a second at most. So who does as asked comes less than a second after the deadline. -/
theorem Run.deadline_exact (past : Run (Timed deadline start) ts s) (hstart : start.Recordable)
    (hdeadline : 1 ≤ deadline ∧ deadline ≤ 315360000) (hm : Timed deadline start m s)
    (hnow : m.now.isLeap = false) :
    let j := m.job s
    let due := start.due deadline.toInt
    let now := m.now.clock
    (j.isFinished = false →
      ((j.nextStatus m.pods m.now).status.FailedFor "DeadlineExceeded" ↔
        (¬ ∃ p ∈ m.pods, FailsForGood m.spec p) ∧
        exceedsBackoff m.spec (s.getD {}) m.pods
          ((m.pods.filter fun p => MustRestart m.spec p).map (·.name)) = false ∧
        due ≤ now)) ∧
    (due ≤ now → ∀ t, Step m s t → t.isFinished = true) ∧
    (∀ (v : Visit) (ns : String) (pods : List Pod) (a : Action), v.moment pods = m →
      v.metadata.deletionTimestamp = none → v.metadata.namespace_ = some ns →
      v.backend.listPods v.cluster ns (v.job s).childSelector = .ok pods →
      (j.decision m.pods m.now).isFinished = false → (v.reconcile s).result = .ok a →
      ∃ d, a = .requeue d ∧ now + d.nanoseconds ≤ max due (now + 1000000000) ∧
        d.nanoseconds ≤ max v.ctx.options.requeueInterval.nanoseconds 1000000000 ∧
        ∀ next : Instant, next.clock ≤ now + d.nanoseconds → next.clock < due + 1000000000) := by
  intro j due now
  have hends : due ≤ now → ∀ t, Step m s t → t.isFinished = true := by
    intro hdue t hstep
    cases hgoesOn : t.isFinished with
    | true => rfl
    | false =>
      obtain ⟨hunfinished, rfl⟩ := hstep.eq_nextStatus hgoesOn
      rw [← hgoesOn]
      refine (Job.isFinished_nextStatus_iff hunfinished).2 (.inr (.inr (.inl ?_)))
      exact (past.deadlineReached_iff hstart hdeadline hnow hm hunfinished).2 hdue
  refine ⟨fun hunfinished => ?_, hends, ?_⟩
  · rw [Job.failedFor_nextStatus hunfinished, Job.failure?_eq_deadlineExceeded_iff,
      past.deadlineReached_iff hstart hdeadline hnow hm hunfinished]
    rfl
  · rintro v ns pods a rfl halive hns hpods hundecided hok
    obtain ⟨-, haccepted⟩ := Job.goesOn_of_decision hundecided
    have hgoesOn : (j.nextStatus (v.moment pods).pods (v.moment pods).now).isFinished = false := by
      simpa only [Job.decision, haccepted] using hundecided
    have hearly : now < due := by
      refine Int.not_le.1 fun hdue => ?_
      exact Bool.eq_false_iff.1 hgoesOn (hends hdue _ .advance)
    obtain ⟨d, rfl, hd⟩ : ∃ d, a = .requeue d ∧ d.nanoseconds =
        max (min (due - now).toNat v.ctx.options.requeueInterval.nanoseconds) 1000000000 :=
      ⟨_, Visit.action_of_goesOn halive hns hpods haccepted hgoesOn hok,
        past.requeueDelay_eq hstart hdeadline hnow hm v.ctx hgoesOn⟩
    refine ⟨d, rfl, ?_, ?_, fun next hnext => ?_⟩
    · omega
    · omega
    · omega

/-- A job of one worker that may be active for a minute, when its worker runs. -/
def minuteMoment (now : Instant) : Moment :=
  let worker := Course.workerMoment .running 0
  { worker with
    spec := { worker.spec with runPolicy := { activeDeadlineSeconds := some 60 } }
    now := now }

def minuteVisit (now : Instant) : Visit where
  backend := Cluster.backend []
  cluster := { job := {} }
  ctx := { options := {}, servedVersion := ⟨"kubeflow.org/v1", "v1"⟩ }
  metadata := (minuteMoment now).metadata
  spec := (minuteMoment now).spec
  now := now

/-- A minute after its start the job has failed, to the nanosecond; a quarter of a minute before, it
asks for a visit that is not late. -/
theorem Run.deadline_exact_minute :
    let start : Instant := ⟨1714557600, 123456789, by decide⟩
    let first := ((minuteMoment start).job none).nextStatus (minuteMoment start).pods start
    let v := minuteVisit ⟨1714557645, 123456789, by decide⟩
    let before := minuteMoment ⟨1714557660, 123456788, by decide⟩
    let m := minuteMoment ⟨1714557660, 123456789, by decide⟩
    (Run (Timed 60 start) [first] (some first.status) ∧ start.Recordable ∧
      ((1 : Int64) ≤ 60 ∧ (60 : Int64) ≤ 315360000) ∧
      (Timed 60 start m (some first.status) ∧ m.now.isLeap = false) ∧
      (Timed 60 start (v.moment []) (some first.status) ∧ v.now.isLeap = false)) ∧
    ((before.job (some first.status)).nextStatus before.pods before.now).isFinished = false ∧
    ((m.job (some first.status)).nextStatus m.pods m.now).status.FailedFor "DeadlineExceeded" ∧
    (v.reconcile (some first.status)).result = .ok (.requeue ⟨15000000000⟩) ∧
    ∀ next : Instant, next.clock ≤ v.now.clock + 15000000000 →
      next.clock < start.due 60 + 1000000000 := by
  intro start first v before m
  have past : Run (Timed 60 start) [first] (some first.status) :=
    .step (minuteMoment start) ⟨rfl, fun _ => rfl⟩ .start .advance (.refl _)
  have hstart : start.Recordable := ⟨by decide, by decide⟩
  have hm : Timed 60 start m (some first.status) := ⟨rfl, nofun⟩
  have hv : Timed 60 start (v.moment []) (some first.status) := ⟨rfl, nofun⟩
  obtain ⟨hfails, -, -⟩ := past.deadline_exact hstart (by decide) hm (by decide)
  obtain ⟨-, -, hasks⟩ := past.deadline_exact hstart (by decide) hv (by decide)
  have hresult : (v.reconcile (some first.status)).result = .ok (.requeue ⟨15000000000⟩) := by
    decide
  obtain ⟨d, hd, -, -, hnotLate⟩ :=
    hasks v "ml" [] (.requeue ⟨15000000000⟩) rfl rfl rfl rfl (by decide) hresult
  obtain rfl := Action.requeue.inj hd
  exact ⟨⟨past, hstart, by decide, ⟨hm, by decide⟩, hv, by decide⟩, by decide,
    (hfails (by decide)).2 ⟨by decide, by decide, by decide⟩, hresult, hnotLate⟩

end Timed

end TrainingJobs
