import TrainingJobs.Proofs.Lifecycle.Verdict
import TrainingJobs.Proofs.Replicas

/-!
# Jobs that go on as they are

A status is `Steady` with pods that give no reason to end the job or to make a pod anew and of which
it tells already what there is to tell. A step that goes on and makes nothing anew leaves such a
status (`steady_nextStatus`); it is still steady when surplus pods have gone and new ones wait in
the place of missing ones (`Steady.settle`); and as long as it is steady a step changes at most the
counts (`Steady.nextStatus`).
-/

namespace TrainingJobs.Lifecycle

def createdCondition (jobName : String) (now : Instant) : Condition :=
  .make .created "JobCreated" ("TrainingJob " ++ jobName ++ " is created.") now

def runningCondition (jobName : String) (now : Instant) : Condition :=
  .make .running "JobRunning" ("TrainingJob " ++ jobName ++ " is running.") now

/-- The status tells of these pods what there is to tell, and none of them gives a reason to end
the job or is to be made anew. -/
structure Steady (jobName : String) (s : JobSpec) (status : JobStatus) (pods : List ObservedPod) :
    Prop where
  unfinished : status.isFinished = false
  started : status.startTime.isSome = true
  created : ∀ now, Conditions.Tells status.conditions (createdCondition jobName now)
  running : (∃ p ∈ pods, p.phase = .running) →
    ∀ now, Conditions.Tells status.conditions (runningCondition jobName now)
  goesOn : ∀ p ∈ pods, ¬ FailsForGood s p
  whole : ∀ p ∈ pods, ¬ MustRestart s p
  withinLimit : exceedsBackoff s status pods [] = false
  incomplete : isSucceeded s (replicaStatuses s pods) = false

/-- New pods have come in the place of missing ones and do not run yet, surplus pods have gone. -/
def Settled (s : JobSpec) (before after : List ObservedPod) : Prop :=
  ∃ new : List ObservedPod, after.Perm (before.filter s.declares ++ new) ∧
    ∀ p ∈ new, p.phase = .pending ∨ p.phase = .unknown

section Counts

variable {s : JobSpec} {pods pods' : List ObservedPod} {p : ObservedPod}

/-! ## Only declared pods count -/

theorem declares_of_isReplicaOf (hd : s.TypesDistinct) {e : String × ReplicaSpec}
    (he : e ∈ s.replicaSpecs.entries) (h : isReplicaOf e.1 e.2 p = true) :
    s.declares p = true := by
  simp only [isReplicaOf, Bool.and_eq_true, decide_eq_true_eq, Text.sameLetters_iff] at h
  have hfind : s.replica? p.replicaType = some e := hd.replica?_eq_some_iff.2 ⟨he, h.1.symm⟩
  rw [← isSome_declared?, declared?_eq_some_iff.2 ⟨hfind, h.2⟩]
  rfl

theorem Settled.succeededPods_eq (h : Settled s pods pods') (hd : s.TypesDistinct)
    {e : String × ReplicaSpec} (he : e ∈ s.replicaSpecs.entries) :
    succeededPods e.1 e.2 pods' = succeededPods e.1 e.2 pods := by
  obtain ⟨new, hperm, hnew⟩ := h
  have hzero : new.countP (fun p => isReplicaOf e.1 e.2 p && p.phase = .succeeded) = 0 := by
    rw [List.countP_eq_zero]
    intro p hp
    rcases hnew p hp with hphase | hphase <;> simp [hphase]
  unfold succeededPods
  rw [hperm.countP_eq, List.countP_append, hzero, Nat.add_zero, List.countP_filter]
  refine List.countP_congr fun p _ => ?_
  by_cases hrep : isReplicaOf e.1 e.2 p = true
  · simp [hrep, declares_of_isReplicaOf hd he hrep]
  · simp [hrep]

theorem Settled.isSucceeded_eq (h : Settled s pods pods') (hd : s.TypesDistinct) :
    isSucceeded s (replicaStatuses s pods') = isSucceeded s (replicaStatuses s pods) := by
  have hsame : ∀ e ∈ s.replicaSpecs.entries,
      succeededOf (replicaStatuses s pods') e.1 = succeededOf (replicaStatuses s pods) e.1 := by
    intro e he
    rw [succeededOf_replicaStatuses he, succeededOf_replicaStatuses he,
      h.succeededPods_eq hd he]
  rw [Bool.eq_iff_iff]
  constructor
  · refine isSucceeded_imp fun e he hle => ?_
    rwa [← hsame e he]
  · refine isSucceeded_imp fun e he hle => ?_
    rwa [hsame e he]

end Counts

section Steady

variable {jobName : String} {s : JobSpec} {status : JobStatus} {pods pods' : List ObservedPod}
  {now : Instant}

/-! ## Settling and stepping -/

theorem Settled.mem_before (h : Settled s pods pods') {p : ObservedPod} (hp : p ∈ pods') :
    p ∈ pods ∨ p.phase = .pending ∨ p.phase = .unknown := by
  obtain ⟨new, hperm, hnew⟩ := h
  rcases List.mem_append.1 (hperm.mem_iff.1 hp) with hold | hnewp
  · exact .inl (List.mem_filter.1 hold).1
  · exact .inr (hnew p hnewp)

theorem Steady.settle (h : Steady jobName s status pods) (hd : s.TypesDistinct)
    (hsettled : Settled s pods pods') (hlimit : exceedsBackoff s status pods' [] = false) :
    Steady jobName s status pods' where
  unfinished := h.unfinished
  started := h.started
  created := h.created
  running := by
    rintro ⟨p, hp, hphase⟩
    rcases hsettled.mem_before hp with hold | hnew | hnew
    · exact h.running ⟨p, hold, hphase⟩
    · rw [hphase] at hnew; cases hnew
    · rw [hphase] at hnew; cases hnew
  goesOn := by
    intro p hp hfails
    rcases hsettled.mem_before hp with hold | hnew | hnew
    · exact h.goesOn p hold hfails
    · rw [hfails.1] at hnew; cases hnew
    · rw [hfails.1] at hnew; cases hnew
  whole := by
    intro p hp hmust
    rcases hsettled.mem_before hp with hold | hnew | hnew
    · exact h.whole p hold hmust
    · rw [hmust.1] at hnew; cases hnew
    · rw [hmust.1] at hnew; cases hnew
  withinLimit := hlimit
  incomplete := by
    rw [hsettled.isSucceeded_eq hd]
    exact h.incomplete

theorem Steady.congr {status' : JobStatus} (h : Steady jobName s status pods)
    (hconditions : status'.conditions = status.conditions)
    (hstart : status'.startTime = status.startTime)
    (hcount : status'.restartCount = status.restartCount) : Steady jobName s status' pods where
  unfinished := by
    have hsame : status'.isFinished = status.isFinished := by
      simp only [JobStatus.isFinished, JobStatus.holds, hconditions]
    exact hsame.trans h.unfinished
  started := hstart ▸ h.started
  created := hconditions ▸ h.created
  running := hconditions ▸ h.running
  goesOn := h.goesOn
  whole := h.whole
  withinLimit := by
    have hlimit := h.withinLimit
    unfold exceedsBackoff at hlimit ⊢
    rwa [hcount]
  incomplete := h.incomplete

theorem Steady.begun_eq {j : Job} (h : Steady j.name j.spec status pods)
    (hstatus : j.status = some status) (now : Instant) :
    j.begun pods now = { status with replicaStatuses := replicaStatuses j.spec pods } := by
  have hstart : status.startTime.or (some (Timestamp.write now)) = status.startTime := by
    obtain ⟨time, htime⟩ := Option.isSome_iff_exists.1 h.started
    rw [htime]
    rfl
  unfold Job.begun begun
  rw [hstatus, Option.getD_some, hstart]
  exact congrArg (fun conditions => { status with
    replicaStatuses := replicaStatuses j.spec pods
    conditions := conditions }) (Conditions.record_of_tells (h.created now))

theorem Steady.ends_verdict {j : Job} (h : Steady j.name j.spec status pods)
    (hstatus : j.status = some status) (hdead : isPastDeadline j.spec status now = false) :
    (j.verdict pods now).ends = false := by
  have hnone : (pods.filter fun p => MustRestart j.spec p).map (·.name) = [] := by
    simpa using h.whole
  rw [Bool.eq_false_iff]
  unfold Job.verdict
  rw [h.begun_eq hstatus, ne_eq, ends_verdict_iff, hnone]
  rintro (⟨p, hp, hfails⟩ | hback | hpast | hsucc)
  · exact h.goesOn p hp hfails
  · exact absurd hback (Bool.eq_false_iff.1 h.withinLimit)
  · exact absurd hpast (Bool.eq_false_iff.1 hdead)
  · exact absurd hsucc (Bool.eq_false_iff.1 h.incomplete)

/-- With a steady status a step brings the counts up to date and changes nothing else. -/
theorem Steady.nextStatus {j : Job} (h : Steady j.name j.spec status pods)
    (hstatus : j.status = some status) (hdead : isPastDeadline j.spec status now = false) :
    j.nextStatus pods now =
      { status := { status with replicaStatuses := replicaStatuses j.spec pods } } := by
  have hunfinished : j.isFinished = false := by
    unfold Job.isFinished
    rw [hstatus]
    exact h.unfinished
  have hends := h.ends_verdict hstatus hdead
  rw [Job.nextStatus_of_unfinished hunfinished, h.begun_eq hstatus]
  unfold Job.verdict at hends ⊢
  rw [h.begun_eq hstatus] at hends ⊢
  have hany : (pods.any fun p => MustRestart j.spec p) = false := by simpa using h.whole
  rw [verdict_of_not_ends hends, hany, if_neg Bool.false_ne_true]
  split
  next hrunning =>
    have htells := h.running (by simpa using hrunning) now
    exact congrArg (fun conditions => ({ status := { status with
      replicaStatuses := replicaStatuses j.spec pods
      conditions := conditions } } : Transition)) (Conditions.record_of_tells htells)
  next => rfl

/-- A step that goes on without making a pod anew leaves a steady status. -/
theorem steady_nextStatus {j : Job} (hunfinished : j.isFinished = false)
    (hgoesOn : (j.nextStatus pods now).isFinished = false)
    (hrestart : (j.nextStatus pods now).restart = []) :
    Steady j.name j.spec (j.nextStatus pods now).status pods := by
  have hnames := Job.restart_nextStatus hunfinished hgoesOn
  rw [hrestart] at hnames
  have hwhole : ∀ p ∈ pods, ¬ MustRestart j.spec p := by simpa using hnames.symm
  have hends : (j.verdict pods now).ends = false := by
    rw [← Job.isFinished_nextStatus hunfinished]
    exact hgoesOn
  have hnot := mt ends_verdict_iff.2 (Bool.eq_false_iff.1 hends)
  simp only [not_or, not_exists, not_and, Bool.not_eq_true] at hnot
  obtain ⟨hfails, hback, -, hsucc⟩ := hnot
  rw [← hnames] at hback
  have hcreated : Conditions.Tells (j.begun pods now).conditions (createdCondition j.name now) :=
    Conditions.tells_record _ _
  have hstarted : (j.begun pods now).startTime.isSome = true := by
    show (Option.or _ (some _)).isSome = true
    cases (j.status.getD {}).startTime <;> rfl
  have hany : (pods.any fun p => MustRestart j.spec p) = false := by simpa using hwhole
  have hverdict : j.verdict pods now =
      if pods.any fun p => p.phase = .running then .running else .waiting := by
    unfold Job.verdict
    rw [verdict_of_not_ends hends, hany, if_neg Bool.false_ne_true]
  rw [Job.nextStatus_of_unfinished hunfinished] at hgoesOn ⊢
  rw [hverdict] at hgoesOn ⊢
  split
  next hrunning =>
    rw [if_pos hrunning] at hgoesOn
    have hkept : Conditions.Tells
        (Conditions.record (j.begun pods now).conditions (runningCondition j.name now))
        (createdCondition j.name now) :=
      hcreated.record ConditionType.noConfusion
        (by simp [createdCondition, runningCondition, Condition.make, ConditionType.retires])
    exact {
      unfinished := hgoesOn
      started := hstarted
      created := fun now' => hkept.make_at
      running := fun _ now' => (Conditions.tells_record _ (runningCondition j.name now)).make_at
      goesOn := hfails
      whole := hwhole
      withinLimit := hback
      incomplete := hsucc }
  next hidle =>
    rw [if_neg hidle] at hgoesOn
    exact {
      unfinished := hgoesOn
      started := hstarted
      created := fun now' => hcreated.make_at
      running := fun hrunning => absurd (by simpa using hrunning) hidle
      goesOn := hfails
      whole := hwhole
      withinLimit := hback
      incomplete := hsucc }

end Steady

end TrainingJobs.Lifecycle
