import Mathlib.Algebra.Ring.Int.Defs
import TrainingJobs.Lifecycle
import TrainingJobs.Proofs.Dict

/-!
# What the pods say about their job

`FailsForGood`, `MustRestart` and `RunsAgain` tell of one pod what it means for its job; the
quantities that a step of the lifecycle folds out of the list of pods are told here by counting
and summing over the pods of one of these kinds.
-/

namespace TrainingJobs.Lifecycle

variable {jobName : String} {s : JobSpec} {pods : List ObservedPod} {p : ObservedPod}

/-! ## One pod -/

/-- The policy that the pod runs under, if it is a declared replica. -/
def policy? (s : JobSpec) (p : ObservedPod) : Option RestartPolicy :=
  (declared? s p).map fun r => r.2.restartPolicy

/-- A failed pod is made anew under the policy. -/
def Mends (policy : RestartPolicy) (p : ObservedPod) : Prop :=
  policy = .always ∨ policy = .onFailure ∨
    policy = .exitCode ∧ p.exitCode.all isRetryableExitCode = true

instance (policy : RestartPolicy) (p : ObservedPod) : Decidable (Mends policy p) :=
  inferInstanceAs (Decidable (_ ∨ _))

/-- The pod has failed and its job fails with it. -/
def FailsForGood (s : JobSpec) (p : ObservedPod) : Prop :=
  p.phase = .failed ∧ ∃ policy ∈ policy? s p, ¬ Mends policy p

/-- The pod has failed and is to be made anew. -/
def MustRestart (s : JobSpec) (p : ObservedPod) : Prop :=
  p.phase = .failed ∧ ∃ policy ∈ policy? s p, Mends policy p

/-- The containers of the pod are restarted without the operator. -/
def RunsAgain (s : JobSpec) (p : ObservedPod) : Prop :=
  policy? s p = some .always ∨ policy? s p = some .onFailure

instance (s : JobSpec) (p : ObservedPod) : Decidable (FailsForGood s p) :=
  inferInstanceAs (Decidable (_ ∧ _))

instance (s : JobSpec) (p : ObservedPod) : Decidable (MustRestart s p) :=
  inferInstanceAs (Decidable (_ ∧ _))

instance (s : JobSpec) (p : ObservedPod) : Decidable (RunsAgain s p) :=
  inferInstanceAs (Decidable (_ ∨ _))

theorem outcome_eq_restart_iff {replicaType : String} {policy : RestartPolicy} :
    outcome jobName replicaType policy p = .restart ↔ p.phase = .failed ∧ Mends policy p := by
  unfold outcome Mends
  by_cases hphase : p.phase = .failed
  · cases policy with
    | always => simp [hphase]
    | onFailure => simp [hphase]
    | never => simp [hphase]
    | exitCode =>
      cases hcode : p.exitCode with
      | none => simp [hphase]
      | some code => by_cases hretry : isRetryableExitCode code = true <;> simp [hphase, hretry]
  · simp [hphase]

theorem outcome_fatal_iff {replicaType : String} {policy : RestartPolicy} :
    (∃ why, outcome jobName replicaType policy p = .fatal why) ↔
      p.phase = .failed ∧ ¬ Mends policy p := by
  unfold outcome Mends
  by_cases hphase : p.phase = .failed
  · cases policy with
    | always => simp [hphase]
    | onFailure => simp [hphase]
    | never => simp [hphase]
    | exitCode =>
      cases hcode : p.exitCode with
      | none => simp [hphase]
      | some code => by_cases hretry : isRetryableExitCode code = true <;> simp [hphase, hretry]
  · simp [hphase]

theorem mem_outcomes_iff {o : PodOutcome} :
    (p, o) ∈ outcomes jobName s pods ↔
      p ∈ pods ∧ ∃ r, declared? s p = some r ∧ o = outcome jobName r.1 r.2.restartPolicy p := by
  simp only [outcomes, List.mem_filterMap, Option.map_eq_some_iff, Prod.mk.injEq]
  constructor
  · rintro ⟨q, hq, r, hr, rfl, rfl⟩
    exact ⟨hq, r, hr, rfl⟩
  · rintro ⟨hp, r, hr, rfl⟩
    exact ⟨p, hp, r, hr, rfl, rfl⟩

/-! ## All pods -/

theorem fatality?_eq_none_iff :
    fatality? (outcomes jobName s pods) = none ↔ ∀ p ∈ pods, ¬ FailsForGood s p := by
  have hfatal : ∀ p ∈ pods, FailsForGood s p ↔
      ∃ why, (p, PodOutcome.fatal why) ∈ outcomes jobName s pods := by
    intro p hp
    simp only [FailsForGood, policy?, Option.mem_def, Option.map_eq_some_iff, mem_outcomes_iff]
    constructor
    · rintro ⟨hphase, policy, ⟨r, hr, rfl⟩, hmends⟩
      obtain ⟨why, hwhy⟩ : ∃ why, outcome jobName r.1 r.2.restartPolicy p = .fatal why :=
        outcome_fatal_iff.2 ⟨hphase, hmends⟩
      exact ⟨why, hp, r, hr, hwhy.symm⟩
    · rintro ⟨why, -, r, hr, hwhy⟩
      obtain ⟨hphase, hmends⟩ := outcome_fatal_iff.1 ⟨why, hwhy.symm⟩
      exact ⟨hphase, _, ⟨r, hr, rfl⟩, hmends⟩
  unfold fatality?
  rw [List.findSome?_eq_none_iff]
  constructor
  · intro h p hp hgood
    obtain ⟨why, hmem⟩ := (hfatal p hp).1 hgood
    simpa using h _ hmem
  · rintro h ⟨p, o⟩ hmem
    have hp : p ∈ pods := (mem_outcomes_iff.1 hmem).1
    cases o with
    | fatal why => exact absurd ((hfatal p hp).2 ⟨why, hmem⟩) (h p hp)
    | restart => rfl
    | harmless => rfl

theorem exists_of_fatality? {why : String}
    (h : fatality? (outcomes jobName s pods) = some why) :
    ∃ p ∈ pods, ∃ r, declared? s p = some r ∧
      outcome jobName r.1 r.2.restartPolicy p = .fatal why := by
  obtain ⟨⟨p, o⟩, hmem, hwhy⟩ := List.exists_of_findSome?_eq_some h
  obtain ⟨hp, r, hr, rfl⟩ := mem_outcomes_iff.1 hmem
  refine ⟨p, hp, r, hr, ?_⟩
  cases ho : outcome jobName r.1 r.2.restartPolicy p with
  | fatal why' =>
    simp only [ho, Option.some.injEq] at hwhy
    rw [hwhy]
  | restart => simp [ho] at hwhy
  | harmless => simp [ho] at hwhy

theorem restarts_outcomes :
    restarts (outcomes jobName s pods) =
      (pods.filter fun p => MustRestart s p).map (·.name) := by
  unfold restarts outcomes
  induction pods with
  | nil => rfl
  | cons p rest ih =>
    cases hdecl : declared? s p with
    | none =>
      have hno : ¬ MustRestart s p := by simp [MustRestart, policy?, hdecl]
      simpa [hdecl, hno] using ih
    | some r =>
      have hiff : outcome jobName r.1 r.2.restartPolicy p = .restart ↔ MustRestart s p := by
        simp [outcome_eq_restart_iff, MustRestart, policy?, hdecl]
      by_cases hmust : MustRestart s p
      · simpa [hdecl, hmust, hiff.2 hmust] using ih
      · simpa [hdecl, hmust, mt hiff.1 hmust] using ih

/-- Restarts without the operator are added up over the pods that may be restarted so. -/
theorem ownRestarts_eq :
    ownRestarts s pods =
      Int32.ofInt ((pods.filter fun p => RunsAgain s p).map fun p => p.restarts.toInt).sum := by
  unfold ownRestarts
  rw [← Int32.zero_add (Int32.ofInt _)]
  -- the fold is told from any sum on
  generalize (0 : Int32) = sum
  induction pods generalizing sum with
  | nil => simp
  | cons p rest ih =>
    rw [List.foldl_cons, ih]
    cases hdecl : declared? s p with
    | none =>
      have hno : ¬ RunsAgain s p := by simp [RunsAgain, policy?, hdecl]
      simp [hno]
    | some r =>
      by_cases hruns : r.2.restartPolicy = .always ∨ r.2.restartPolicy = .onFailure
      · have hyes : RunsAgain s p := by simpa [RunsAgain, policy?, hdecl] using hruns
        simp only [hruns, if_true, List.filter_cons, hyes, decide_true, List.map_cons,
          List.sum_cons, Int32.ofInt_add, Int32.ofInt_toInt, Int32.add_assoc]
      · have hno : ¬ RunsAgain s p := by simpa [RunsAgain, policy?, hdecl] using hruns
        simp [hruns, hno]

/-- The counts are numbers of pods by phase. -/
theorem foldl_count (pods : List ObservedPod) (counts : ReplicaStatus) :
    pods.foldl count counts =
      { active := counts.active + Int32.ofNat (pods.countP fun p => p.phase.isActive)
        succeeded := counts.succeeded + Int32.ofNat (pods.countP fun p => p.phase = .succeeded)
        failed := counts.failed + Int32.ofNat (pods.countP fun p => p.phase = .failed) } := by
  induction pods generalizing counts with
  | nil => simp
  | cons p rest ih =>
    have hone : ∀ (a : Int32) (n : Nat), a + 1 + Int32.ofNat n = a + Int32.ofNat (n + 1) := by
      intro a n
      rw [Int32.ofNat_add, Int32.add_comm (Int32.ofNat n), Int32.add_assoc]
      rfl
    rw [List.foldl_cons, ih]
    cases hphase : p.phase <;> simp [count, hphase, PodPhase.isActive, hone]

def succeededPods (replicaType : String) (r : ReplicaSpec) (pods : List ObservedPod) : Nat :=
  pods.countP fun p => isReplicaOf replicaType r p && p.phase = .succeeded

theorem succeededOf_replicaStatuses {replicaType : String} {r : ReplicaSpec}
    (h : (replicaType, r) ∈ s.replicaSpecs.entries) :
    succeededOf (replicaStatuses s pods) replicaType =
      Int32.ofNat (succeededPods replicaType r pods) := by
  have hget : s.replicaSpecs.get? replicaType = some r := Dict.mem_entries_iff.1 h
  simp only [succeededOf, replicaStatuses, Dict.get?_mapValues, hget, Option.map_some,
    Option.getD_some, foldl_count, Int32.zero_add, succeededPods, List.countP_filter]
  congr 1
  refine List.countP_congr fun p _ => ?_
  simp [and_comm]

end TrainingJobs.Lifecycle
