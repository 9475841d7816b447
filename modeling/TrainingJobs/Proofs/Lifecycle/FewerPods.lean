import Mathlib.Algebra.Order.BigOperators.Group.List
import TrainingJobs.Proofs.Lifecycle.Verdict
import TrainingJobs.Proofs.Replicas

/-!
# The lifecycle with fewer pods

Every reason that pods give to end a job is one that more pods only strengthen
(`isFinished_nextStatus_mono`). And only replicas of declared types give a reason at all: without
pods that are none of them the same is decided (`isFinished_nextStatus_filter`).
-/

namespace TrainingJobs

open Text

namespace Lifecycle

variable {s : JobSpec} {status : JobStatus} {pods pods' : List ObservedPod} {p : ObservedPod}

/-- The restarts and the pods can be counted in 32 bits, and no container has a negative number of
restarts. -/
structure Countable (s : JobSpec) (status : JobStatus) (pods : List ObservedPod) : Prop where
  nonneg : ∀ p ∈ pods, 0 ≤ p.restarts
  restarts : restartTotal s status pods < 2147483648
  pods : pods.length < 2147483648

def IsDeclared (s : JobSpec) (p : ObservedPod) : Prop :=
  ∃ e ∈ s.replicaSpecs.entries, isReplicaOf e.1 e.2 p = true

/-! ## More pods -/

theorem ownRestarts_sum_le (h : pods.Sublist pods') (hpos : ∀ p ∈ pods', 0 ≤ p.restarts) :
    ((pods.filter fun p => RunsAgain s p).map fun p => p.restarts.toInt).sum ≤
      ((pods'.filter fun p => RunsAgain s p).map fun p => p.restarts.toInt).sum := by
  refine ((h.filter _).map _).sum_le_sum fun n hn => ?_
  obtain ⟨p, hp, rfl⟩ := List.mem_map.1 hn
  have hle := hpos p (List.mem_filter.1 hp).1
  rwa [Int32.le_iff_toInt_le, Int32.toInt_zero] at hle

theorem ownRestarts_sum_nonneg (hpos : ∀ p ∈ pods, 0 ≤ p.restarts) :
    0 ≤ ((pods.filter fun p => RunsAgain s p).map fun p => p.restarts.toInt).sum :=
  ownRestarts_sum_le (List.nil_sublist pods) hpos

theorem Countable.mono (h : Countable s status pods') (hsub : pods.Sublist pods') :
    Countable s status pods where
  nonneg := fun p hp => h.nonneg p (hsub.subset hp)
  restarts := by
    have hsum := ownRestarts_sum_le (s := s) hsub h.nonneg
    have hlen := (hsub.filter fun p => decide (MustRestart s p)).length_le
    have htotal := h.restarts
    unfold restartTotal at htotal ⊢
    omega
  pods := Nat.lt_of_le_of_lt hsub.length_le h.pods

theorem le_restartTotal (hpos : ∀ p ∈ pods, 0 ≤ p.restarts) :
    -2147483648 ≤ restartTotal s status pods := by
  have hsum := ownRestarts_sum_nonneg (s := s) hpos
  have hcount : -2147483648 ≤ status.restartCount.toInt := status.restartCount.le_toInt
  unfold restartTotal
  omega

theorem Countable.le_restartTotal (h : Countable s status pods) :
    -2147483648 ≤ restartTotal s status pods :=
  Lifecycle.le_restartTotal h.nonneg

theorem exceedsBackoff_mono (hsub : pods.Sublist pods') (h : Countable s status pods')
    (hexceeds : exceedsBackoff s status pods
      ((pods.filter fun p => MustRestart s p).map (·.name)) = true) :
    exceedsBackoff s status pods'
      ((pods'.filter fun p => MustRestart s p).map (·.name)) = true := by
  have hfew := h.mono hsub
  rw [exceedsBackoff_iff hfew.le_restartTotal hfew.restarts] at hexceeds
  rw [exceedsBackoff_iff h.le_restartTotal h.restarts]
  obtain ⟨limit, hlimit, hlt⟩ := hexceeds
  refine ⟨limit, hlimit, lt_of_lt_of_le hlt ?_⟩
  have hsum := ownRestarts_sum_le (s := s) hsub h.nonneg
  have hlen := (hsub.filter fun p => decide (MustRestart s p)).length_le
  unfold restartTotal
  omega

theorem isSucceeded_mono (hsub : pods.Sublist pods') (hlt : pods'.length < 2147483648)
    (hsucc : isSucceeded s (replicaStatuses s pods) = true) :
    isSucceeded s (replicaStatuses s pods') = true := by
  refine isSucceeded_imp (fun e he hle => ?_) hsucc
  have hcount : succeededPods e.1 e.2 pods ≤ succeededPods e.1 e.2 pods' := hsub.countP_le
  have hfits : succeededPods e.1 e.2 pods' ≤ pods'.length := List.countP_le_length
  rw [succeededOf_replicaStatuses he, Int32.le_iff_toInt_le,
    Int32.toInt_ofNat_of_lt (by omega)] at hle ⊢
  omega

/-! ## Without pods of no declared replica -/

theorem isDeclared_of_policy? {policy : RestartPolicy} (h : policy? s p = some policy) :
    IsDeclared s p := by
  obtain ⟨e, he, -⟩ := Option.map_eq_some_iff.1 h
  obtain ⟨hfind, hlt⟩ := declared?_eq_some_iff.1 he
  refine ⟨e, JobSpec.mem_entries_of_replica? hfind, ?_⟩
  have hsame : sameLetters p.replicaType e.1 = true :=
    sameLetters_iff.2 (JobSpec.lower_of_replica? hfind).symm
  simp only [isReplicaOf, hsame, hlt, decide_true, Bool.and_self]

theorem FailsForGood.isDeclared (h : FailsForGood s p) : IsDeclared s p := by
  obtain ⟨-, policy, hpolicy, -⟩ := h
  exact isDeclared_of_policy? hpolicy

theorem MustRestart.isDeclared (h : MustRestart s p) : IsDeclared s p := by
  obtain ⟨-, policy, hpolicy, -⟩ := h
  exact isDeclared_of_policy? hpolicy

theorem RunsAgain.isDeclared (h : RunsAgain s p) : IsDeclared s p := by
  rcases h with h | h
  · exact isDeclared_of_policy? h
  · exact isDeclared_of_policy? h

theorem isSucceeded_filter {keep : ObservedPod → Bool}
    (hkeep : ∀ p ∈ pods, IsDeclared s p → p.phase = .succeeded → keep p = true) :
    isSucceeded s (replicaStatuses s (pods.filter keep)) =
      isSucceeded s (replicaStatuses s pods) := by
  have hcount : ∀ e ∈ s.replicaSpecs.entries,
      succeededPods e.1 e.2 (pods.filter keep) = succeededPods e.1 e.2 pods := by
    intro e he
    unfold succeededPods
    rw [List.countP_filter]
    refine List.countP_congr fun p hp => ?_
    simp only [Bool.and_eq_true, decide_eq_true_eq, and_iff_left_iff_imp, and_imp]
    intro hreplica hphase
    exact hkeep p hp ⟨e, he, hreplica⟩ hphase
  have hsucceeded : ∀ e ∈ s.replicaSpecs.entries,
      succeededOf (replicaStatuses s (pods.filter keep)) e.1 =
        succeededOf (replicaStatuses s pods) e.1 := by
    intro e he
    rw [succeededOf_replicaStatuses he, succeededOf_replicaStatuses he, hcount e he]
  rw [Bool.eq_iff_iff]
  constructor
  · exact isSucceeded_imp fun e he hle => hsucceeded e he ▸ hle
  · exact isSucceeded_imp fun e he hle => (hsucceeded e he).symm ▸ hle

section Filter

variable {keep : ObservedPod → Bool} (hkeep : ∀ p ∈ pods, IsDeclared s p → keep p = true)

include hkeep

/-- What is counted of declared replicas is counted of those that are kept. -/
theorem filter_filter_of_isDeclared {q : ObservedPod → Bool}
    (hq : ∀ p, q p = true → IsDeclared s p) : (pods.filter keep).filter q = pods.filter q := by
  rw [List.filter_filter]
  refine List.filter_congr fun p hp => ?_
  rw [Bool.and_eq_left_iff_imp]
  intro hqp
  exact hkeep p hp (hq p hqp)

theorem exceedsBackoff_filter :
    exceedsBackoff s status (pods.filter keep)
        (((pods.filter keep).filter fun p => MustRestart s p).map (·.name)) =
      exceedsBackoff s status pods ((pods.filter fun p => MustRestart s p).map (·.name)) := by
  have hmust : (pods.filter keep).filter (fun p => MustRestart s p) =
      pods.filter fun p => MustRestart s p :=
    filter_filter_of_isDeclared hkeep fun p hp => (of_decide_eq_true hp).isDeclared
  have hown : ownRestarts s (pods.filter keep) = ownRestarts s pods := by
    rw [ownRestarts_eq, ownRestarts_eq,
      filter_filter_of_isDeclared hkeep fun p hp => (of_decide_eq_true hp).isDeclared]
  unfold exceedsBackoff
  rw [hmust, hown]

end Filter

end Lifecycle

namespace Job

open Lifecycle

variable {j k : Job} {pods pods' : List ObservedPod} {now t : Instant}

/-- A job that ends now also ends with more pods, and later, unless its deadline should no longer
be reached then. -/
theorem isFinished_nextStatus_mono (h : j.isFinished = false) (hspec : k.spec = j.spec)
    (hstatus : k.status = j.status) (hsub : pods.Sublist pods')
    (hcount : Countable j.spec (j.status.getD {}) pods')
    (hlate : j.deadlineReached now = true → j.deadlineReached t = true)
    (hends : (j.nextStatus pods now).isFinished = true) :
    (k.nextStatus pods' t).isFinished = true := by
  have hk : k.isFinished = false := by
    rw [isFinished_eq, hstatus, ← isFinished_eq]
    exact h
  rw [isFinished_nextStatus_iff h] at hends
  rw [isFinished_nextStatus_iff hk, hspec, hstatus]
  rcases hends with ⟨p, hp, hfails⟩ | hback | hdead | hsucc
  · exact .inl ⟨p, hsub.subset hp, hfails⟩
  · exact .inr (.inl (exceedsBackoff_mono hsub hcount hback))
  · refine .inr (.inr (.inl ?_))
    rw [deadlineReached_congr hspec hstatus]
    exact hlate hdead
  · exact .inr (.inr (.inr (isSucceeded_mono hsub hcount.pods hsucc)))

/-- Pods that are no replicas of a declared type do not matter. -/
theorem isFinished_nextStatus_filter (h : j.isFinished = false) {keep : ObservedPod → Bool}
    (hkeep : ∀ p ∈ pods, IsDeclared j.spec p → keep p = true) :
    (j.nextStatus (pods.filter keep) now).isFinished = (j.nextStatus pods now).isFinished := by
  have hfails : (∃ p ∈ pods.filter keep, FailsForGood j.spec p) ↔
      ∃ p ∈ pods, FailsForGood j.spec p := by
    constructor
    · rintro ⟨p, hp, hf⟩
      exact ⟨p, List.mem_of_mem_filter hp, hf⟩
    · rintro ⟨p, hp, hf⟩
      exact ⟨p, List.mem_filter.2 ⟨hp, hkeep p hp hf.isDeclared⟩, hf⟩
  rw [Bool.eq_iff_iff, isFinished_nextStatus_iff h, isFinished_nextStatus_iff h, hfails,
    exceedsBackoff_filter hkeep, isSucceeded_filter fun p hp hdecl _ => hkeep p hp hdecl]

end Job

end TrainingJobs
