import TrainingJobs.Proofs.Conditions
import TrainingJobs.Proofs.Lifecycle.Pods

/-!
# Verdicts and their transitions

A step for an unfinished job is a verdict and what follows from it (`nextStatus_of_unfinished`).
The job is finished afterwards just if the verdict ends it (`isFinished_apply`), and
`ends_verdict_iff` names the four reasons for that, among which the order does not matter.
-/

namespace TrainingJobs

namespace Lifecycle

variable {jobName reason message : String} {s : JobSpec} {status : JobStatus}
  {pods : List ObservedPod} {now : Instant} {type : ConditionType}

def Verdict.ends : Verdict → Bool
  | podFailed _ | backoffLimitExceeded | deadlineExceeded | succeeded => true
  | restarting _ | running | waiting => false

/-! ## What a step makes of the status -/

theorem isFinished_withCondition (h : type.isTerminal = false) :
    (withCondition status type reason message now).isFinished = status.isFinished := by
  have hkeep : ∀ t : ConditionType, t.isTerminal = true →
      (withCondition status type reason message now).holds t = status.holds t := by
    intro t ht
    refine Conditions.holds_record_of_ne ?_ ?_
    · rintro rfl
      simp [h] at ht
    · cases type <;> cases t <;> simp_all [Condition.make, ConditionType.retires,
        ConditionType.isTerminal]
  rw [JobStatus.isFinished, hkeep .succeeded rfl, hkeep .failed rfl]
  rfl

theorem isFinished_begun :
    (begun jobName s status pods now).isFinished = status.isFinished := by
  have hbegun : begun jobName s status pods now =
      withCondition
        { status with
          replicaStatuses := replicaStatuses s pods
          startTime := status.startTime.or (some (Timestamp.write now)) }
        .created "JobCreated" ("TrainingJob " ++ jobName ++ " is created.") now := rfl
  rw [hbegun, isFinished_withCondition rfl]
  rfl

theorem isFinished_finish (h : type.isTerminal = true) :
    (finish status type reason message now).isFinished = true := by
  have hholds : (finish status type reason message now).holds type = true :=
    Conditions.holds_record_self rfl
  rw [JobStatus.isFinished, Bool.or_eq_true]
  cases type with
  | succeeded => exact .inl hholds
  | failed => exact .inr hholds
  | created => cases h
  | running => cases h
  | restarting => cases h

/-- A job is finished after a step just if the verdict ends it. -/
theorem isFinished_apply (h : status.isFinished = false) (v : Verdict) :
    (apply jobName status now v).isFinished = v.ends := by
  cases v with
  | podFailed why => exact isFinished_finish rfl
  | backoffLimitExceeded => exact isFinished_finish rfl
  | deadlineExceeded => exact isFinished_finish rfl
  | succeeded => exact isFinished_finish rfl
  | restarting names =>
    show (withCondition { status with restartCount := _ } .restarting _ _ now).isFinished = false
    rw [isFinished_withCondition rfl]
    exact h
  | running => exact (isFinished_withCondition rfl).trans h
  | waiting => exact h

theorem startTime_apply (v : Verdict) :
    (apply jobName status now v).status.startTime = status.startTime := by
  cases v <;> rfl

/-! ## Why a job ends -/

theorem ends_verdict_iff :
    (verdict jobName s status pods now).ends = true ↔
      (∃ p ∈ pods, FailsForGood s p) ∨
      exceedsBackoff s status pods ((pods.filter fun p => MustRestart s p).map (·.name)) = true ∨
      isPastDeadline s status now = true ∨
      isSucceeded s status.replicaStatuses = true := by
  unfold verdict
  simp only [restarts_outcomes]
  split
  next why hwhy =>
    have hfails : ∃ p ∈ pods, FailsForGood s p := by
      refine Classical.byContradiction fun hno => ?_
      have hall : ∀ p ∈ pods, ¬ FailsForGood s p := fun p hp hf => hno ⟨p, hp, hf⟩
      rw [fatality?_eq_none_iff.2 hall] at hwhy
      cases hwhy
    exact iff_of_true rfl (.inl hfails)
  next hnone =>
    have hno : ¬ ∃ p ∈ pods, FailsForGood s p :=
      fun ⟨p, hp, hf⟩ => fatality?_eq_none_iff.1 hnone p hp hf
    split
    next hback => exact iff_of_true rfl (.inr (.inl hback))
    next hback =>
    split
    next hdead => exact iff_of_true rfl (.inr (.inr (.inl hdead)))
    next hdead =>
    split
    next hsucc => exact iff_of_true rfl (.inr (.inr (.inr hsucc)))
    next hsucc =>
    refine iff_of_false ?_ (by simp [hno, hback, hdead, hsucc])
    split
    · simp [Verdict.ends]
    · split <;> simp [Verdict.ends]

/-- The restarts of the containers, those made so far and those to be made now. -/
def restartTotal (s : JobSpec) (status : JobStatus) (pods : List ObservedPod) : Int :=
  ((pods.filter fun p => RunsAgain s p).map fun p => p.restarts.toInt).sum
    + status.restartCount.toInt + (pods.filter fun p => MustRestart s p).length

/-- As long as the restarts fit into 32 bits, they are compared with the limit as they are. -/
theorem exceedsBackoff_iff (hlow : -2147483648 ≤ restartTotal s status pods)
    (hhigh : restartTotal s status pods < 2147483648) :
    exceedsBackoff s status pods ((pods.filter fun p => MustRestart s p).map (·.name)) = true ↔
      ∃ limit ∈ s.runPolicy.backoffLimit, limit.toInt < restartTotal s status pods := by
  have hsum : ownRestarts s pods + status.restartCount +
      Int32.ofNat ((pods.filter fun p => MustRestart s p).map (·.name)).length =
      Int32.ofInt (restartTotal s status pods) := by
    rw [ownRestarts_eq, List.length_map, restartTotal, Int32.ofInt_add, Int32.ofInt_add,
      Int32.ofInt_toInt, Int32.ofInt_eq_ofNat]
  unfold exceedsBackoff
  rw [hsum]
  cases s.runPolicy.backoffLimit with
  | none => simp
  | some limit =>
    simp only [decide_eq_true_eq, Option.mem_def, Option.some.injEq, exists_eq_left']
    rw [Int32.lt_iff_toInt_lt, Int32.toInt_ofInt_of_le hlow hhigh]

/-- Success depends on the pods only through which types have all their replicas. -/
theorem isSucceeded_imp {pods' : List ObservedPod}
    (h : ∀ e ∈ s.replicaSpecs.entries,
      e.2.replicas ≤ succeededOf (replicaStatuses s pods) e.1 →
        e.2.replicas ≤ succeededOf (replicaStatuses s pods') e.1)
    (hsucc : isSucceeded s (replicaStatuses s pods) = true) :
    isSucceeded s (replicaStatuses s pods') = true := by
  unfold isSucceeded at hsucc ⊢
  cases hmaster : s.masterType? with
  | some master =>
    have hkey : master ∈ s.replicaSpecs.keys := List.mem_of_find?_eq_some hmaster
    obtain ⟨e, he, rfl⟩ := List.mem_map.1 hkey
    simp only [hmaster, Dict.mem_entries_iff.1 he, Option.map_some, Option.getD_some,
      Bool.and_eq_true, decide_eq_true_eq] at hsucc ⊢
    exact ⟨hsucc.1, h e he hsucc.2⟩
  | none =>
    simp only [hmaster, Bool.and_eq_true, List.all_eq_true, decide_eq_true_eq] at hsucc ⊢
    exact ⟨hsucc.1, fun e he => h e (List.mem_filter.1 he).1 (hsucc.2 e he)⟩

theorem isZero_ofNanoseconds? (n : Int) :
    ((Span.ofNanoseconds? n).getD Span.zero).isZero = true ↔ n ≤ 0 := by
  rw [Span.isZero_iff]
  cases n with
  | ofNat n =>
    simp only [Span.ofNanoseconds?, Option.getD_some, Span.zero, Span.mk.injEq,
      Int.ofNat_eq_natCast]
    omega
  | negSucc n =>
    simp only [Span.ofNanoseconds?, Option.getD_none, true_iff]
    omega

theorem isPastDeadline_iff :
    isPastDeadline s status now = true ↔
      ∃ text ∈ status.startTime, ∃ start ∈ Timestamp.read? text,
        ∃ seconds ∈ s.runPolicy.activeDeadlineSeconds,
          ∃ deadline ∈ start.later? seconds.toInt, deadline.since now ≤ 0 := by
  simp only [isPastDeadline, Option.any_eq_true, deadlineRemaining?, Option.bind_eq_bind,
    Option.bind_eq_some_iff, Instant.remaining?, Option.map_eq_some_iff, Option.mem_def]
  constructor
  · rintro ⟨_, ⟨text, htext, start, hstart, seconds, hseconds, deadline, hdeadline, rfl⟩, hzero⟩
    exact ⟨text, htext, start, hstart, seconds, hseconds, deadline, hdeadline,
      (isZero_ofNanoseconds? _).1 hzero⟩
  · rintro ⟨text, htext, start, hstart, seconds, hseconds, deadline, hdeadline, hpast⟩
    exact ⟨_, ⟨text, htext, start, hstart, seconds, hseconds, deadline, hdeadline, rfl⟩,
      (isZero_ofNanoseconds? _).2 hpast⟩

/-- What does not lie ahead never does again. Neither time may be in a leap second, of which the
next day begins before it ends. -/
theorem since_nonpos_mono {t : Instant} (d : Instant) (hnow : now.isLeap = false)
    (ht : t.isLeap = false)
    (hlater : now.secs < t.secs ∨ now.secs = t.secs ∧ now.nanos ≤ t.nanos)
    (h : d.since now ≤ 0) : d.since t ≤ 0 := by
  have hnow' : now.nanos < 1000000000 := Nat.lt_of_not_le (of_decide_eq_false hnow)
  have ht' : t.nanos < 1000000000 := Nat.lt_of_not_le (of_decide_eq_false ht)
  have hd := d.nanos_lt
  unfold Instant.since Instant.secondOfDay at h ⊢
  rw [hnow] at h
  rw [ht]
  simp only [Bool.false_eq_true, and_false, if_false, nanosPerSecond] at h ⊢
  cases hleap : d.isLeap with
  | false =>
    simp only [hleap, Bool.false_eq_true, and_false, if_false] at h ⊢
    omega
  | true =>
    have hlate : 1000000000 ≤ d.nanos := of_decide_eq_true hleap
    simp only [hleap, and_true] at h ⊢
    -- the leap second counts on its own day only, so the days of `now` and `t` tell how often
    split at h <;> split <;> omega

theorem isPastDeadline_mono {t : Instant} (hnow : now.isLeap = false) (ht : t.isLeap = false)
    (hlater : now.secs < t.secs ∨ now.secs = t.secs ∧ now.nanos ≤ t.nanos)
    (h : isPastDeadline s status now = true) : isPastDeadline s status t = true := by
  rw [isPastDeadline_iff] at h ⊢
  obtain ⟨text, htext, start, hstart, seconds, hseconds, deadline, hdeadline, hpast⟩ := h
  exact ⟨text, htext, start, hstart, seconds, hseconds, deadline, hdeadline,
    since_nonpos_mono deadline hnow ht hlater hpast⟩

/-- A job that does not end restarts its failed pods, if there are any. -/
theorem verdict_of_not_ends (h : (verdict jobName s status pods now).ends = false) :
    verdict jobName s status pods now =
      if pods.any fun p => MustRestart s p then
        .restarting ((pods.filter fun p => MustRestart s p).map (·.name))
      else if pods.any fun p => p.phase = .running then .running
      else .waiting := by
  have hnot := mt ends_verdict_iff.2 (Bool.eq_false_iff.1 h)
  simp only [not_or, not_exists, not_and] at hnot
  obtain ⟨hfails, hback, hdead, hsucc⟩ := hnot
  have hempty : ((pods.filter fun p => MustRestart s p).map (·.name)).isEmpty =
      !pods.any fun p => MustRestart s p := by
    rw [Bool.eq_iff_iff]
    simp
  unfold verdict
  simp only [fatality?_eq_none_iff.2 hfails, restarts_outcomes]
  rw [if_neg hback, if_neg hdead, if_neg hsucc, hempty, Bool.not_not]

theorem restart_apply_of_not_ends (h : (verdict jobName s status pods now).ends = false) :
    (apply jobName status now (verdict jobName s status pods now)).restart =
      (pods.filter fun p => MustRestart s p).map (·.name) := by
  rw [verdict_of_not_ends h]
  split
  · rfl
  next hany =>
    have hnil : (pods.filter fun p => MustRestart s p).map (·.name) = [] := by
      simpa using hany
    rw [hnil]
    split <;> rfl

end Lifecycle

namespace Job

variable {j : Job} {pods : List ObservedPod} {now : Instant}

def begun (j : Job) (pods : List ObservedPod) (now : Instant) : JobStatus :=
  Lifecycle.begun j.name j.spec (j.status.getD {}) pods now

def verdict (j : Job) (pods : List ObservedPod) (now : Instant) : Lifecycle.Verdict :=
  Lifecycle.verdict j.name j.spec (j.begun pods now) pods now

theorem isFinished_eq (j : Job) : j.isFinished = (j.status.getD {}).isFinished := by
  unfold isFinished
  cases j.status <;> rfl

theorem exists_status_of_finished (h : j.isFinished = true) :
    ∃ s, j.status = some s ∧ s.isFinished = true := by
  cases hs : j.status with
  | none => simp [isFinished, hs] at h
  | some s =>
    rw [isFinished_eq, hs] at h
    exact ⟨s, rfl, h⟩

theorem nextStatus_of_unfinished (h : j.isFinished = false) :
    j.nextStatus pods now =
      Lifecycle.apply j.name (j.begun pods now) now (j.verdict pods now) := by
  rw [isFinished_eq] at h
  simp [nextStatus, h, begun, verdict]

theorem isFinished_begun (h : j.isFinished = false) : (j.begun pods now).isFinished = false :=
  Lifecycle.isFinished_begun.trans ((isFinished_eq j).symm.trans h)

theorem isFinished_nextStatus (h : j.isFinished = false) :
    (j.nextStatus pods now).isFinished = (j.verdict pods now).ends := by
  rw [nextStatus_of_unfinished h]
  exact Lifecycle.isFinished_apply (isFinished_begun h) _

/-- Whether the deadline has been reached; a job that has not started starts now. -/
def deadlineReached (j : Job) (now : Instant) : Bool :=
  Lifecycle.isPastDeadline j.spec (j.begun [] now) now

theorem deadlineReached_congr {k : Job} (hspec : k.spec = j.spec) (hstatus : k.status = j.status)
    (now : Instant) : k.deadlineReached now = j.deadlineReached now := by
  simp only [deadlineReached, Lifecycle.isPastDeadline, Lifecycle.deadlineRemaining?, Job.begun,
    Lifecycle.begun, hspec, hstatus]

/-- The deadline of a job that has started does not move. -/
theorem deadlineReached_mono {t : Instant} (hstart : (j.status.getD {}).startTime.isSome = true)
    (hnow : now.isLeap = false) (ht : t.isLeap = false)
    (hlater : now.secs < t.secs ∨ now.secs = t.secs ∧ now.nanos ≤ t.nanos)
    (h : j.deadlineReached now = true) : j.deadlineReached t = true := by
  obtain ⟨text, htext⟩ := Option.isSome_iff_exists.1 hstart
  have hsame : ∀ u, j.deadlineReached u =
      Lifecycle.isPastDeadline j.spec { startTime := some text } u := by
    intro u
    simp only [deadlineReached, Lifecycle.isPastDeadline, Lifecycle.deadlineRemaining?, begun,
      Lifecycle.begun, htext, Option.some_or]
  rw [hsame] at h ⊢
  exact Lifecycle.isPastDeadline_mono hnow ht hlater h

theorem isFinished_nextStatus_iff (h : j.isFinished = false) :
    (j.nextStatus pods now).isFinished = true ↔
      (∃ p ∈ pods, Lifecycle.FailsForGood j.spec p) ∨
      Lifecycle.exceedsBackoff j.spec (j.status.getD {}) pods
        ((pods.filter fun p => Lifecycle.MustRestart j.spec p).map (·.name)) = true ∨
      j.deadlineReached now = true ∨
      Lifecycle.isSucceeded j.spec (Lifecycle.replicaStatuses j.spec pods) = true := by
  rw [isFinished_nextStatus h]
  exact Lifecycle.ends_verdict_iff

theorem restart_nextStatus (h : j.isFinished = false)
    (hends : (j.nextStatus pods now).isFinished = false) :
    (j.nextStatus pods now).restart =
      (pods.filter fun p => Lifecycle.MustRestart j.spec p).map (·.name) := by
  rw [isFinished_nextStatus h] at hends
  rw [nextStatus_of_unfinished h]
  exact Lifecycle.restart_apply_of_not_ends hends

end Job

end TrainingJobs
