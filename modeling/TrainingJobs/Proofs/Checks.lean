import TrainingJobs.Discovery
import TrainingJobs.Job.Spec
import TrainingJobs.Proofs.Lists

/-!
# What the checks accept

A check looks at one thing after the other and stops at the first that is wrong, so it accepts what
has nothing wrong: an entry of a discovery document (`GroupVersion.check_eq_ok_iff`), such an entry
in its group (`ApiGroup.checkEntry_eq_ok_iff`) and the replicas of a job
(`JobSpec.counts_of_check`).
-/

namespace TrainingJobs

/-- Checks made one after the other accept just what each of them accepts. -/
theorem forM_eq_ok_iff {α ε : Type} {check : α → Except ε Unit} {l : List α} :
    l.forM check = .ok () ↔ ∀ x ∈ l, check x = .ok () := by
  induction l with
  | nil => exact iff_of_true rfl fun _ h => nomatch h
  | cons x rest ih =>
    rw [List.forM_eq_forM, List.forM_cons, List.forall_mem_cons, ← ih]
    cases check x with
    | error e => exact iff_of_false (fun h => nomatch h) fun h => nomatch h.1
    | ok u => exact (and_iff_right rfl).symm

/-- And they stop at the first that does not. -/
theorem forM_eq_error_iff {α ε : Type} {check : α → Except ε Unit} {l : List α} {why : ε} :
    l.forM check = .error why ↔
      HasFirst (fun x => check x = .ok ()) (fun x => check x = .error why) l := by
  induction l with
  | nil => exact iff_of_false (fun h => nomatch h) not_hasFirst_nil
  | cons x rest ih =>
    rw [List.forM_eq_forM, List.forM_cons, hasFirst_cons_iff, ← ih]
    cases check x with
    | error e => exact (or_iff_left fun h => nomatch h.1).symm
    | ok u => exact ((or_iff_right fun h => nomatch h).trans (and_iff_right rfl)).symm

/-- What comes behind a check is looked at when nothing was wrong. -/
theorem throwIf_eq_ok_iff {ε : Type} {p : Prop} [Decidable p] {why : ε}
    {f : Unit → Except ε Unit} :
    (if p then throw why >>= f else f ()) = .ok () ↔ ¬ p ∧ f () = .ok () := by
  by_cases h : p
  · rw [if_pos h]
    exact iff_of_false (fun hok => nomatch hok) fun hok => hok.1 h
  · rw [if_neg h]
    exact (and_iff_right h).symm

/-- A refusal comes from the check itself or, if that accepts, from what comes behind it. -/
theorem throwIf_eq_error_iff {ε : Type} {p : Prop} [Decidable p] {why why' : ε}
    {f : Unit → Except ε Unit} :
    (if p then throw why >>= f else f ()) = .error why' ↔
      (p ∧ why = why') ∨ (¬ p ∧ f () = .error why') := by
  by_cases h : p
  · rw [if_pos h, and_iff_right h, or_iff_left fun hnot => hnot.1 h]
    exact ⟨fun herror => Except.error.inj herror, fun he => he ▸ rfl⟩
  · rw [if_neg h, and_iff_right h, or_iff_right fun hp => h hp.1]

theorem bind_eq_ok_iff {ε : Type} {x : Except ε Unit} {f : Unit → Except ε Unit} :
    (x >>= f) = .ok () ↔ x = .ok () ∧ f () = .ok () := by
  cases x with
  | error e => exact iff_of_false (fun h => nomatch h) fun h => nomatch h.1
  | ok u => exact (and_iff_right rfl).symm

theorem bind_eq_error_iff {ε : Type} {x : Except ε Unit} {f : Unit → Except ε Unit} {why : ε} :
    (x >>= f) = .error why ↔ x = .error why ∨ (x = .ok () ∧ f () = .error why) := by
  cases x with
  | error e => exact (or_iff_left fun h => nomatch h.1).symm
  | ok u => exact ((or_iff_right fun h => nomatch h).trans (and_iff_right rfl)).symm

theorem throwElse_eq_ok_iff {ε : Type} {p : Prop} [Decidable p] {why : ε} :
    (if p then throw why else .ok () : Except ε Unit) = .ok () ↔ ¬ p := by
  by_cases h : p
  · rw [if_pos h]
    exact iff_of_false (fun hok => nomatch hok) (not_not_intro h)
  · rw [if_neg h]
    exact iff_of_true rfl h

theorem throwElse_eq_error_iff {ε : Type} {p : Prop} [Decidable p] {why why' : ε} :
    (if p then throw why else .ok () : Except ε Unit) = .error why' ↔ p ∧ why = why' := by
  by_cases h : p
  · rw [if_pos h, and_iff_right h]
    exact ⟨fun herror => Except.error.inj herror, fun he => he ▸ rfl⟩
  · rw [if_neg h]
    exact iff_of_false (fun herror => nomatch herror) fun hp => h hp.1

namespace GroupVersion

variable {e : GroupVersion}

theorem check_eq_ok_iff :
    e.check = .ok () ↔ e.groupVersion = "" ∨ lastSegment e.groupVersion = e.version := by
  simp only [check, String.isEmpty_iff]
  split
  next h => exact iff_of_true rfl h
  next h => exact iff_of_false (fun hok => nomatch hok) h

theorem isValid_iff : e.isValid = true ↔ e.check = .ok () := by
  unfold isValid
  cases e.check <;> simp [Except.isOk, Except.toBool]

end GroupVersion

namespace ApiGroup

variable {g : ApiGroup} {e : GroupVersion}

theorem checkEntry_eq_ok_iff : g.checkEntry e = .ok () ↔
    e.check = .ok () ∧ (g.name = "" ∨ e.isEmpty = true ∨ e.group = g.name) := by
  unfold checkEntry
  cases e.check with
  | error why => exact iff_of_false (fun h => nomatch h) fun h => nomatch h.1
  | ok u =>
    simp only [bind, Except.bind, String.isEmpty_iff]
    split
    next h => exact iff_of_true rfl ⟨trivial, h⟩
    next h => exact iff_of_false (fun hok => nomatch hok) fun hok => h hok.2

theorem checkEntry_of_check (h : g.check = .ok ()) (he : e ∈ g.versions) :
    g.checkEntry e = .ok () :=
  forM_eq_ok_iff.1 h e (List.mem_append_left _ he)

end ApiGroup

namespace JobSpec

variable {s : JobSpec} {e : String × ReplicaSpec}

theorem checkTypes_eq_ok_iff : s.checkTypes = .ok () ↔
    ¬ s.replicaSpecs.isEmpty = true ∧ ¬ 1 < (s.replicaSpecs.keys.filter isMasterRole).length ∧
      ∀ e ∈ s.replicaSpecs.entries, checkReplica e.1 e.2 = .ok () := by
  unfold checkTypes
  dsimp only
  rw [throwIf_eq_ok_iff, throwIf_eq_ok_iff, forM_eq_ok_iff]

theorem checkCounted_eq_ok_iff {n : Int32} :
    s.checkCounted n = .ok () ↔ n ≠ 0 ∧ s.runPolicy.check = .ok () :=
  throwIf_eq_ok_iff (f := fun _ => s.runPolicy.check)

theorem check_eq_ok_iff : s.check = .ok () ↔
    ¬ s.replicaSpecs.isEmpty = true ∧ ¬ 1 < (s.replicaSpecs.keys.filter isMasterRole).length ∧
      (∀ e ∈ s.replicaSpecs.entries, checkReplica e.1 e.2 = .ok ()) ∧ s.totalReplicas ≠ 0 ∧
        s.runPolicy.check = .ok () := by
  rw [check, bind_eq_ok_iff, checkTypes_eq_ok_iff, checkCounted_eq_ok_iff, and_assoc, and_assoc]

theorem counts_of_check (h : s.check = .ok ()) (he : e ∈ s.replicaSpecs.entries) :
    0 ≤ e.2.replicas ∧ (isMasterRole e.1 = true → e.2.replicas = 1) := by
  have hreplica := (check_eq_ok_iff.1 h).2.2.1 e he
  unfold checkReplica at hreplica
  split at hreplica
  · cases hreplica
  next hpos =>
  split at hreplica
  · cases hreplica
  next hone =>
  refine ⟨Int32.not_lt.1 hpos, fun hmaster => ?_⟩
  exact Decidable.byContradiction fun hne => hone ⟨hmaster, hne⟩

end JobSpec

end TrainingJobs
