import TrainingJobs.Proofs.Lifecycle.Reference
import TrainingJobs.Proofs.Lifecycle.Verdict
import TrainingJobs.Proofs.Replicas

/-!
# The step of the lifecycle is its reference

The kinds of pods, the sums over them and the verdict of the lifecycle are those of the reference,
as far as the types of replicas are distinct and the sums fit into 32 bits. Only the pods to be made
anew come in the order of the list, and of several pods that failed for good one is named.
-/

namespace TrainingJobs.Reference

open Text

/-! ## Pods -/

section Pods

variable {s : JobSpec} {p : ObservedPod} {e : String × ReplicaSpec} {pods : List ObservedPod}

theorem declared?_eq_some_iff (hd : s.TypesDistinct) :
    Lifecycle.declared? s p = some e ↔ e ∈ s.replicaSpecs.entries ∧ Declares e p := by
  rw [Lifecycle.declared?_eq_some_iff, hd.replica?_eq_some_iff, and_assoc]
  rfl

theorem isRetryableExitCode_iff {code : Int32} :
    isRetryableExitCode code = true ↔ 128 ≤ code ∧ code ≤ 255 := by
  simp [isRetryableExitCode]

theorem mends_iff {policy : RestartPolicy} :
    Lifecycle.Mends policy p ↔ policy = .always ∨ policy = .onFailure ∨
      policy = .exitCode ∧ ∀ code ∈ p.exitCode, 128 ≤ code ∧ code ≤ 255 := by
  simp only [Lifecycle.Mends, Option.all_eq_true, isRetryableExitCode_iff, Option.mem_def]

theorem not_mends_iff {policy : RestartPolicy} :
    ¬ Lifecycle.Mends policy p ↔ policy = .never ∨
      policy = .exitCode ∧ ∃ code ∈ p.exitCode, code < 128 ∨ 255 < code := by
  rw [mends_iff]
  have hout : ∀ code : Int32, ¬ (128 ≤ code ∧ code ≤ 255) ↔ code < 128 ∨ 255 < code := by
    intro code
    rw [Classical.not_and_iff_not_or_not, Int32.not_le, Int32.not_le]
  cases policy with
  | always => simp
  | onFailure => simp
  | never => simp
  | exitCode =>
    simp only [reduceCtorEq, false_or, true_and, Classical.not_forall, hout]
    simp only [Option.mem_def, exists_prop]

theorem failsForGood_iff (hd : s.TypesDistinct) :
    Lifecycle.FailsForGood s p ↔ OfSome s Lost p := by
  simp only [Lifecycle.FailsForGood, Lifecycle.policy?, Option.mem_def, Option.map_eq_some_iff,
    declared?_eq_some_iff hd, OfSome, Lost]
  constructor
  · rintro ⟨hphase, _, ⟨e, ⟨he, hdecl⟩, rfl⟩, hmends⟩
    exact ⟨e, he, hdecl, hphase, not_mends_iff.1 hmends⟩
  · rintro ⟨e, he, hdecl, hphase, hlost⟩
    exact ⟨hphase, _, ⟨e, ⟨he, hdecl⟩, rfl⟩, not_mends_iff.2 hlost⟩

theorem mustRestart_iff (hd : s.TypesDistinct) :
    Lifecycle.MustRestart s p ↔ OfSome s Renewed p := by
  simp only [Lifecycle.MustRestart, Lifecycle.policy?, Option.mem_def, Option.map_eq_some_iff,
    declared?_eq_some_iff hd, OfSome, Renewed]
  constructor
  · rintro ⟨hphase, _, ⟨e, ⟨he, hdecl⟩, rfl⟩, hmends⟩
    exact ⟨e, he, hdecl, hphase, mends_iff.1 hmends⟩
  · rintro ⟨e, he, hdecl, hphase, hrenewed⟩
    exact ⟨hphase, _, ⟨e, ⟨he, hdecl⟩, rfl⟩, mends_iff.2 hrenewed⟩

theorem runsAgain_iff (hd : s.TypesDistinct) :
    Lifecycle.RunsAgain s p ↔ OfSome s Rerun p := by
  simp only [Lifecycle.RunsAgain, Lifecycle.policy?, Option.map_eq_some_iff,
    declared?_eq_some_iff hd, OfSome, Rerun]
  constructor
  · rintro (⟨e, ⟨he, hdecl⟩, hpolicy⟩ | ⟨e, ⟨he, hdecl⟩, hpolicy⟩)
    · exact ⟨e, he, hdecl, .inl hpolicy⟩
    · exact ⟨e, he, hdecl, .inr hpolicy⟩
  · rintro ⟨e, he, hdecl, hpolicy | hpolicy⟩
    · exact .inl ⟨e, ⟨he, hdecl⟩, hpolicy⟩
    · exact .inr ⟨e, ⟨he, hdecl⟩, hpolicy⟩

/-- The same pods, by kind, under two descriptions of the kind. -/
theorem card_renewed (hd : s.TypesDistinct) :
    (renewed s pods).card = (pods.filter fun p => Lifecycle.MustRestart s p).length := by
  simp only [renewed, Multiset.filter_coe, Multiset.coe_card, mustRestart_iff hd]

end Pods

/-! ## Limits, counts and success -/

section Limits

variable {j : Job} {pods : List ObservedPod} {now : Instant}

theorem exceedsBackoff_iff (hd : j.spec.TypesDistinct) (hfit : SumsFit j pods) (now : Instant) :
    Lifecycle.exceedsBackoff j.spec (j.begun pods now) pods
        ((pods.filter fun p => Lifecycle.MustRestart j.spec p).map (·.name)) = true ↔
      ExceedsLimit j pods := by
  have htotal : Lifecycle.restartTotal j.spec (j.begun pods now) pods = allRestarts j pods := by
    have hcount : (j.begun pods now).restartCount = (j.status.getD {}).restartCount := rfl
    rw [Lifecycle.restartTotal, allRestarts, card_renewed hd, hcount]
    simp only [runsAgain_iff hd, Multiset.filter_coe, Multiset.map_coe, Multiset.sum_coe]
  obtain ⟨hlow, hhigh⟩ := hfit.restarts
  rw [Lifecycle.exceedsBackoff_iff (htotal ▸ hlow) (htotal ▸ hhigh), htotal]
  rfl

theorem isPastDeadline_iff (j : Job) (pods : List ObservedPod) (now : Instant) :
    Lifecycle.isPastDeadline j.spec (j.begun pods now) now = true ↔ DeadlineReached j now := by
  have hstart : (j.begun pods now).startTime = some (startTime j now) := by
    show ((j.status.getD {}).startTime.or _) = _
    unfold startTime
    cases (j.status.getD {}).startTime <;> rfl
  rw [Lifecycle.isPastDeadline_iff, hstart]
  simp only [DeadlineReached, Option.mem_def, Option.some.injEq, exists_eq_left']

end Limits

section Counts

variable {s : JobSpec} {e : String × ReplicaSpec} {pods : List ObservedPod}

theorem isReplicaOf_iff {p : ObservedPod} :
    Lifecycle.isReplicaOf e.1 e.2 p = true ↔ Declares e p := by
  simp only [Lifecycle.isReplicaOf, Declares, Bool.and_eq_true, decide_eq_true_eq,
    sameLetters_iff, eq_comm (a := lower p.replicaType)]

theorem countP_done :
    (pods : Multiset ObservedPod).countP (Done e) = Lifecycle.succeededPods e.1 e.2 pods := by
  rw [Multiset.coe_countP, Lifecycle.succeededPods]
  refine List.countP_congr fun p _ => ?_
  simp [Done, ← isReplicaOf_iff]

/-- The counts of the step are the numbers of declared replicas by phase. -/
theorem replicaStatuses_eq : Lifecycle.replicaStatuses s pods = counts s pods := by
  have hactive : ∀ phase : PodPhase,
      phase.isActive = decide (phase = .pending ∨ phase = .running) := by
    intro phase
    cases phase <;> rfl
  have hmine : ∀ e : String × ReplicaSpec,
      pods.filter (Lifecycle.isReplicaOf e.1 e.2) = pods.filter fun p => Declares e p := by
    intro e
    refine List.filter_congr fun p _ => ?_
    rw [Bool.eq_iff_iff, isReplicaOf_iff, decide_eq_true_eq]
  refine Dict.ext_get? fun type => ?_
  simp only [Lifecycle.replicaStatuses, counts, Dict.get?_mapValues]
  refine congrArg (Option.map · _) (funext fun r => ?_)
  rw [hmine (type, r), Lifecycle.foldl_count]
  simp only [Int32.zero_add, Multiset.filter_coe, Multiset.coe_countP, hactive]

theorem le_succeededOf_iff (he : e ∈ s.replicaSpecs.entries)
    (hfit : (pods : Multiset ObservedPod).countP (Done e) < 2147483648) :
    e.2.replicas ≤ Lifecycle.succeededOf (Lifecycle.replicaStatuses s pods) e.1 ↔
      AllDone pods e := by
  rw [Lifecycle.succeededOf_replicaStatuses he, ← countP_done, Int32.le_iff_toInt_le,
    Int32.toInt_ofNat_of_lt hfit]
  rfl

theorem isSucceeded_iff (hpos : ∀ e ∈ s.replicaSpecs.entries, 0 ≤ e.2.replicas)
    (hfit : ∀ e ∈ s.replicaSpecs.entries,
      (pods : Multiset ObservedPod).countP (Done e) < 2147483648) :
    Lifecycle.isSucceeded s (Lifecycle.replicaStatuses s pods) = true ↔ Succeeds s pods := by
  have hmaster : s.masterType? =
      (s.replicaSpecs.entries.find? fun e => isMasterRole e.1).map (·.1) := by
    simp only [JobSpec.masterType?, Dict.keys, List.find?_map]
    rfl
  unfold Lifecycle.isSucceeded Succeeds
  rw [hmaster]
  cases hfind : s.replicaSpecs.entries.find? fun e => isMasterRole e.1 with
  | some e =>
    have he : e ∈ s.replicaSpecs.entries := List.mem_of_find?_eq_some hfind
    have hget : s.replicaSpecs.get? e.1 = some e.2 := Dict.mem_entries_iff.1 he
    simp only [Option.map_some, hget, Option.getD_some, Bool.and_eq_true, decide_eq_true_eq,
      le_succeededOf_iff he (hfit e he)]
  | none =>
    have hasked : ∀ e ∈ s.replicaSpecs.entries, e.2.replicas ≠ 0 ↔ 0 < e.2.replicas := by
      intro e he
      have hle := hpos e he
      rw [Int32.le_iff_toInt_le] at hle
      rw [Int32.lt_iff_toInt_lt, ne_eq, ← Int32.toInt_inj]
      simp only [Int32.toInt_zero] at hle ⊢
      omega
    simp only [Option.map_none, Bool.and_eq_true, Bool.not_eq_true', List.isEmpty_eq_false_iff,
      ne_eq, List.filter_eq_nil_iff, List.all_eq_true, List.mem_filter, decide_eq_true_eq]
    constructor
    · rintro ⟨hsome, hall⟩
      refine ⟨?_, fun e he hlt => ?_⟩
      · refine Classical.byContradiction fun hno => hsome fun e he hne => hno ⟨e, he, ?_⟩
        exact (hasked e he).1 hne
      · exact (le_succeededOf_iff he (hfit e he)).1 (hall e ⟨he, (hasked e he).2 hlt⟩)
    · rintro ⟨⟨e, he, hlt⟩, hall⟩
      refine ⟨fun hno => hno e he ((hasked e he).2 hlt), fun e he => ?_⟩
      obtain ⟨he, hne⟩ := he
      exact (le_succeededOf_iff he (hfit e he)).2 (hall e he ((hasked e he).1 hne))

end Counts

/-! ## The verdict and what follows from it -/

def Decision.verdict (names : List String) (why : String) : Decision → Lifecycle.Verdict
  | jobFailed => .podFailed why
  | backoffLimitExceeded => .backoffLimitExceeded
  | deadlineExceeded => .deadlineExceeded
  | succeeded => .succeeded
  | restarting => .restarting names
  | running => .running
  | waiting => .waiting

section Step

variable {j : Job} {pods : List ObservedPod} {now : Instant}

theorem blame_eq {e : String × ReplicaSpec} {p : ObservedPod} {why : String}
    (h : Lifecycle.outcome j.name e.1 e.2.restartPolicy p = .fatal why) :
    why = blame j.name e p := by
  unfold Lifecycle.outcome at h
  unfold blame
  split at h
  · cases h
  cases hpolicy : e.2.restartPolicy with
  | always => simp [hpolicy] at h
  | onFailure => simp [hpolicy] at h
  | never =>
    simp only [hpolicy, Lifecycle.PodOutcome.fatal.injEq] at h
    rw [← h]
    rfl
  | exitCode =>
    simp only [hpolicy] at h
    cases hcode : p.exitCode with
    | none => simp [hcode] at h
    | some code =>
      simp only [hcode] at h
      split at h
      · cases h
      · simp only [Lifecycle.PodOutcome.fatal.injEq] at h
        rw [← h]
        simp only [if_true, String.append_assoc]

theorem verdict_of_lost (hd : j.spec.TypesDistinct)
    (hlost : ∃ p ∈ (pods : Multiset ObservedPod), OfSome j.spec Lost p) (now : Instant) :
    ∃ why, j.verdict pods now = .podFailed why ∧
      ∃ p ∈ pods, ∃ e ∈ j.spec.replicaSpecs.entries, Lost e p ∧ why = blame j.name e p := by
  cases hfatal : Lifecycle.fatality? (Lifecycle.outcomes j.name j.spec pods) with
  | none =>
    obtain ⟨p, hp, hlostp⟩ := hlost
    have hgoesOn := Lifecycle.fatality?_eq_none_iff.1 hfatal p (Multiset.mem_coe.1 hp)
    exact absurd ((failsForGood_iff hd).2 hlostp) hgoesOn
  | some why =>
    refine ⟨why, ?_, ?_⟩
    · simp only [Job.verdict, Lifecycle.verdict, hfatal]
    · obtain ⟨p, hp, r, hr, hout⟩ := Lifecycle.exists_of_fatality? hfatal
      obtain ⟨he, hdecl⟩ := (declared?_eq_some_iff hd).1 hr
      obtain ⟨hphase, hmends⟩ := Lifecycle.outcome_fatal_iff.1 ⟨why, hout⟩
      exact ⟨p, hp, r, he, ⟨hdecl, hphase, not_mends_iff.1 hmends⟩, blame_eq hout⟩

theorem verdict_of_not_lost (hd : j.spec.TypesDistinct)
    (hpos : ∀ e ∈ j.spec.replicaSpecs.entries, 0 ≤ e.2.replicas) (hfit : SumsFit j pods)
    (hlost : ¬ ∃ p ∈ (pods : Multiset ObservedPod), OfSome j.spec Lost p) (why : String) :
    j.verdict pods now = (decision j pods now).verdict
      ((pods.filter fun p => Lifecycle.MustRestart j.spec p).map (·.name)) why := by
  have hnone : Lifecycle.fatality? (Lifecycle.outcomes j.name j.spec pods) = none := by
    refine Lifecycle.fatality?_eq_none_iff.2 fun p hp hfails => hlost ⟨p, hp, ?_⟩
    exact (failsForGood_iff hd).1 hfails
  have hback := exceedsBackoff_iff hd hfit now
  have hdead := isPastDeadline_iff j pods now
  have hsucc : Lifecycle.isSucceeded j.spec (j.begun pods now).replicaStatuses = true ↔
      Succeeds j.spec pods := isSucceeded_iff hpos hfit.done
  have hany : (!((pods.filter fun p => Lifecycle.MustRestart j.spec p).map
      (·.name)).isEmpty) = true ↔ ∃ p ∈ (pods : Multiset ObservedPod),
        OfSome j.spec Renewed p := by
    simp [mustRestart_iff hd]
  have hrunning : (pods.any fun p => p.phase = .running) = true ↔
      ∃ p ∈ (pods : Multiset ObservedPod), p.phase = .running := by simp
  unfold Job.verdict Lifecycle.verdict decision
  simp only [hnone, Lifecycle.restarts_outcomes]
  rw [if_neg hlost]
  by_cases h1 : ExceedsLimit j pods
  · rw [if_pos h1, if_pos (hback.2 h1)]
    rfl
  rw [if_neg h1, if_neg (mt hback.1 h1)]
  by_cases h2 : DeadlineReached j now
  · rw [if_pos h2, if_pos (hdead.2 h2)]
    rfl
  rw [if_neg h2, if_neg (mt hdead.1 h2)]
  by_cases h3 : Succeeds j.spec pods
  · rw [if_pos h3, if_pos (hsucc.2 h3)]
    rfl
  rw [if_neg h3, if_neg (mt hsucc.1 h3)]
  by_cases h4 : ∃ p ∈ (pods : Multiset ObservedPod), OfSome j.spec Renewed p
  · rw [if_pos h4, if_pos (hany.2 h4)]
    rfl
  rw [if_neg h4, if_neg (mt hany.1 h4)]
  by_cases h5 : ∃ p ∈ (pods : Multiset ObservedPod), p.phase = .running
  · rw [if_pos h5, if_pos (hrunning.2 h5)]
    rfl
  rw [if_neg h5, if_neg (mt hrunning.1 h5)]
  rfl

theorem decision_eq_jobFailed_iff :
    decision j pods now = .jobFailed ↔
      ∃ p ∈ (pods : Multiset ObservedPod), OfSome j.spec Lost p := by
  refine ⟨fun h => Classical.byContradiction fun hno => ?_, fun h => if_pos h⟩
  unfold decision at h
  rw [if_neg hno] at h
  split_ifs at h

theorem verdict_eq (hd : j.spec.TypesDistinct)
    (hpos : ∀ e ∈ j.spec.replicaSpecs.entries, 0 ≤ e.2.replicas) (hfit : SumsFit j pods)
    (now : Instant) :
    ∃ why,
      (decision j pods now = .jobFailed →
        ∃ p ∈ pods, ∃ e ∈ j.spec.replicaSpecs.entries, Lost e p ∧ why = blame j.name e p) ∧
      j.verdict pods now = (decision j pods now).verdict
        ((pods.filter fun p => Lifecycle.MustRestart j.spec p).map (·.name)) why := by
  by_cases hlost : ∃ p ∈ (pods : Multiset ObservedPod), OfSome j.spec Lost p
  · obtain ⟨why, hverdict, hblame⟩ := verdict_of_lost hd hlost now
    refine ⟨why, fun _ => hblame, ?_⟩
    rw [decision_eq_jobFailed_iff.2 hlost, hverdict]
    rfl
  · refine ⟨"", fun hfailed => absurd (decision_eq_jobFailed_iff.1 hfailed) hlost, ?_⟩
    exact verdict_of_not_lost hd hpos hfit hlost ""

theorem begun_eq :
    j.begun pods now =
      { j.status.getD {} with
        conditions := Conditions.record (j.status.getD {}).conditions
          (.make .created "JobCreated" ("TrainingJob " ++ j.name ++ " is created.") now)
        replicaStatuses := counts j.spec pods
        startTime := some (startTime j now) } := by
  have hstart : (j.status.getD {}).startTime.or (some (Timestamp.write now)) =
      some (startTime j now) := by
    unfold startTime
    cases (j.status.getD {}).startTime <;> rfl
  simp only [Job.begun, Lifecycle.begun, replicaStatuses_eq, hstart]

/-- **The step is the reference.** For an unfinished job the status after a step, the pods that are
made anew and whether a limit stops the others are those of the decision about the multiset of its
pods. -/
theorem nextStatus_eq_reference (hunfinished : j.isFinished = false)
    (hd : j.spec.TypesDistinct) (hpos : ∀ e ∈ j.spec.replicaSpecs.entries, 0 ≤ e.2.replicas)
    (hfit : SumsFit j pods) :
    ∃ why,
      (decision j pods now = .jobFailed →
        ∃ p ∈ pods, ∃ e ∈ j.spec.replicaSpecs.entries, Lost e p ∧ why = blame j.name e p) ∧
      j.nextStatus pods now =
        { status := status j pods now why
          restart :=
            if decision j pods now = .restarting then
              (pods.filter fun p => OfSome j.spec Renewed p).map (·.name)
            else []
          terminateActive := (decision j pods now).stopsActive } := by
  obtain ⟨why, hblame, hverdict⟩ := verdict_eq hd hpos hfit now
  refine ⟨why, hblame, ?_⟩
  have hnames : (pods.filter fun p => Lifecycle.MustRestart j.spec p).map (·.name) =
      (pods.filter fun p => OfSome j.spec Renewed p).map (·.name) := by
    simp only [mustRestart_iff hd]
  have hlength : ((pods.filter fun p => OfSome j.spec Renewed p).map (·.name)).length =
      (renewed j.spec pods).card := by
    rw [← hnames, List.length_map, card_renewed hd]
  have hcompletion : ∀ (time : Option String) (text : String),
      time.or (some text) = some (time.getD text) := by
    intro time text
    cases time <;> rfl
  rw [Job.nextStatus_of_unfinished hunfinished, hverdict, begun_eq, hnames]
  unfold status
  generalize decision j pods now = d
  cases d with
  | restarting =>
    simp only [Decision.verdict, Lifecycle.apply, Lifecycle.withCondition, hlength, if_true]
    rfl
  | jobFailed =>
    simp only [Decision.verdict, Lifecycle.apply, Lifecycle.finish, hcompletion]
    rfl
  | backoffLimitExceeded =>
    simp only [Decision.verdict, Lifecycle.apply, Lifecycle.finish, hcompletion]
    rfl
  | deadlineExceeded =>
    simp only [Decision.verdict, Lifecycle.apply, Lifecycle.finish, hcompletion]
    rfl
  | succeeded =>
    simp only [Decision.verdict, Lifecycle.apply, Lifecycle.finish, hcompletion]
    rfl
  | running => rfl
  | waiting => rfl

/-- A job whose workers are mended by exit code and whose servers are restarted in place. -/
def mixedJob : Job where
  metadata := { name := some "mnist", namespace_ := some "ml" }
  spec := {
    replicaSpecs := Dict.ofList
      [("Worker", { replicas := 2, restartPolicy := .exitCode }),
       ("PS", { replicas := 1, restartPolicy := .onFailure })]
    runPolicy := { backoffLimit := some 4 } }

/-- A worker killed by a signal, a server that failed after two restarts, and a surplus worker whose
exit code nothing mends. -/
def mixedPods : List ObservedPod :=
  [{ name := "mnist-worker-1", replicaType := "worker", index := 1, phase := .failed,
     exitCode := some 137 },
   { name := "mnist-worker-2", replicaType := "worker", index := 2, phase := .failed,
     exitCode := some 1 },
   { name := "mnist-ps-0", replicaType := "ps", index := 0, phase := .failed, restarts := 2 }]

/-- Of the mixed pods the two declared ones are made anew, which is within the limit. -/
theorem nextStatus_eq_reference_mixed :
    (mixedJob.isFinished = false ∧ mixedJob.spec.TypesDistinct ∧
      (∀ e ∈ mixedJob.spec.replicaSpecs.entries, 0 ≤ e.2.replicas) ∧
      SumsFit mixedJob mixedPods) ∧
    decision mixedJob mixedPods Instant.epoch = .restarting ∧
    ∃ why,
      (decision mixedJob mixedPods Instant.epoch = .jobFailed →
        ∃ p ∈ mixedPods, ∃ e ∈ mixedJob.spec.replicaSpecs.entries,
          Lost e p ∧ why = blame mixedJob.name e p) ∧
      mixedJob.nextStatus mixedPods Instant.epoch =
        { status := status mixedJob mixedPods Instant.epoch why
          restart :=
            if decision mixedJob mixedPods Instant.epoch = .restarting then
              (mixedPods.filter fun p => OfSome mixedJob.spec Renewed p).map (·.name)
            else []
          terminateActive := (decision mixedJob mixedPods Instant.epoch).stopsActive } := by
  have hunfinished : mixedJob.isFinished = false := rfl
  have hd : mixedJob.spec.TypesDistinct := by decide
  have hpos : ∀ e ∈ mixedJob.spec.replicaSpecs.entries, 0 ≤ e.2.replicas := by decide
  have hfit : SumsFit mixedJob mixedPods := ⟨by decide, by decide⟩
  have hdecision : decision mixedJob mixedPods Instant.epoch = .restarting := by decide
  exact ⟨⟨hunfinished, hd, hpos, hfit⟩, hdecision,
    nextStatus_eq_reference hunfinished hd hpos hfit⟩

end Step

end TrainingJobs.Reference
