import TrainingJobs.Proofs.Cleanup
import TrainingJobs.Proofs.Lifecycle.FewerPods
import TrainingJobs.Proofs.Reconcile.Convergence
import TrainingJobs.Proofs.Reconcile.Terminal

/-!
# Interrupted cleanups

A visit that finishes a job cleans up first and reports afterwards. When it is interrupted in
between, the next visit decides anew, from the pods that are left. As long as the pods that the
cleanup spares support the decision, it stands (`Keeps.visit`); when they do not, the next visit
creates again what was deleted (`Owned.creates_after_cleaned`). A policy that deletes all pods
leaves none to support a success (`spared_all`), any other leaves all that are needed unless the
backoff limit was exceeded (`isFinished_nextStatus_spared`).
-/

namespace TrainingJobs

open Lifecycle

theorem Call.adds_of_makesChild {call : Call} (h : call.makesChild = false) :
    call.adds = false := by
  cases call with
  | createPod ns pod => cases h
  | createService ns service => cases h
  | _ => rfl

namespace Cluster

variable {c k : Cluster} {ns : String} {ctx : OperatorContext} {now t : Instant}
  {left : List ObservedPod} {call : Call} {calls : List Call} {fails : Call → Option ApiError}

/-! ## What is left when pods only go -/

theorem named_of_removing (hnamed : c.Named) (h : ∀ call ∈ calls, call.adds = false) :
    (c.afterAll calls).Named := by
  intro n p hp
  rw [get?_pods_of_removing h] at hp
  split at hp
  · cases hp
  · exact hnamed n p hp

theorem observed_of_removing (hnamed : c.Named) (h : ∀ call ∈ calls, call.adds = false) :
    (c.afterAll calls).observed = c.observed.filter fun o => !calls.any (·.removesPod o.name) := by
  unfold observed Dict.values
  rw [entries_pods_of_removing h, List.filterMap_map, List.filterMap_map, List.filterMap_filter,
    List.filter_filterMap]
  refine List.filterMap_congr fun e he => ?_
  have hname := hnamed e.1 e.2 (Dict.mem_entries_iff.1 he)
  simp only [Function.comp_apply]
  cases ho : ObservedPod.ofPod? e.2 with
  | none => simp
  | some o =>
    have hsame : o.name = e.1 := (ObservedPod.name_of_ofPod? ho).trans hname
    rw [Option.filter_some, hsame]

/-! ## Visits that finish -/

def spared (c : Cluster) (now : Instant) : List ObservedPod :=
  CleanupPlan.spared c.job.spec.runPolicy.cleanPodPolicy c.observed
    (c.transition now).terminateActive

def doomed (c : Cluster) (now : Instant) : List String :=
  CleanupPlan.doomed c.job.spec.runPolicy.cleanPodPolicy c.observed
    (c.transition now).terminateActive

theorem finishing_calls (hok : c.job.refusal? = none)
    (hends : (c.transition now).isFinished = true) (h : call ∈ (c.visit fails ctx now).calls) :
    call.makesChild = false ∧ (∀ n, call.removesPod n = true → n ∈ c.doomed now) ∧
      ∀ ns name s, call = .patchStatus ns name s →
        s = c.job.reported ctx (c.transition now).status := by
  obtain ⟨ns, -, ⟨why, hwhy, -⟩ | ⟨-, rfl | rfl | ⟨pods, services, hpods, -, hstep⟩⟩⟩ :=
    Job.mem_calls_reconcile h
  · rw [hok] at hwhy
    cases hwhy
  · exact ⟨rfl, fun _ => Bool.noConfusion, fun _ _ _ => Call.noConfusion⟩
  · exact ⟨rfl, fun _ => Bool.noConfusion, fun _ _ _ => Call.noConfusion⟩
  rw [listPods_failing hpods, schedule_of_finishes _ hends] at hstep
  rcases Job.mem_steps_finishedSchedule hstep with
    ⟨n, hn, rfl⟩ | ⟨n, -, rfl⟩ | rfl | hreport | rfl
  · refine ⟨rfl, fun m hm => ?_, fun _ _ _ => Call.noConfusion⟩
    rw [← of_decide_eq_true hm]
    exact hn
  · exact ⟨rfl, fun _ => Bool.noConfusion, fun _ _ _ => Call.noConfusion⟩
  · exact ⟨rfl, fun _ => Bool.noConfusion, fun _ _ _ => Call.noConfusion⟩
  · obtain ⟨rfl, -⟩ := Job.mem_reportSteps hreport
    refine ⟨rfl, fun _ => Bool.noConfusion, fun _ _ s hs => ?_⟩
    exact (Call.patchStatus.inj hs).2.2.symm
  · exact ⟨rfl, fun _ => Bool.noConfusion, fun _ _ _ => Call.noConfusion⟩

/-- A visit to a finished job makes no child, and the job is finished afterwards. -/
theorem visit_of_finished (hf : k.job.isFinished = true) (fails : Call → Option ApiError)
    (ctx : OperatorContext) (t : Instant) :
    (∀ call ∈ (k.visit fails ctx t).calls, call.makesChild = false) ∧
      (k.visit fails ctx t).state.job.isFinished = true := by
  obtain ⟨s, hs, hsf⟩ := Job.exists_status_of_finished hf
  refine ⟨fun call hcall => (Job.mem_calls_of_finished hs hsf hcall).1, ?_⟩
  obtain ⟨done, hdone, hstate⟩ := state_visit fails ctx k t
  rw [hstate]
  rcases job_afterAll_cases k done with hjob | ⟨ns, name, s', hs', hjob⟩
  · rw [hjob]
    exact hf
  · have hreported := (Job.mem_calls_of_finished hs hsf (hdone hs')).2 ns name s' rfl
    rw [hjob, Job.isFinished_eq]
    show s'.isFinished = true
    rw [hreported, (Job.sameOutcome_reported ctx k.job s).isFinished]
    exact hsf

/-! ## After a cleanup -/

/-- The job has the same spec and carries the same status, and the operator still sees the pods of
the list as they were. Other pods may have come, changed or gone, as long as they can be counted. -/
structure Keeps (left : List ObservedPod) (c k : Cluster) : Prop where
  spec : k.job.spec = c.job.spec
  status : k.job.status = c.job.status
  named : k.Named
  left : left.Sublist k.observed
  countable : Countable c.job.spec (c.job.status.getD {}) k.observed

/-- The clock has not been put back behind a deadline that was reached. -/
def Late (c : Cluster) (now t : Instant) : Prop :=
  c.job.deadlineReached now = true → c.job.deadlineReached t = true

/-- No later time is behind the deadline of a job that has started. -/
theorem late_of_started (hstart : (c.job.status.getD {}).startTime.isSome = true)
    (hnow : now.isLeap = false) (ht : t.isLeap = false)
    (hlater : now.secs < t.secs ∨ now.secs = t.secs ∧ now.nanos ≤ t.nanos) : c.Late now t :=
  Job.deadlineReached_mono hstart hnow ht hlater

theorem Keeps.trans {k' : Cluster} (h : Keeps left c k) (h' : Keeps left k k') :
    Keeps left c k' where
  spec := h'.spec.trans h.spec
  status := h'.status.trans h.status
  named := h'.named
  left := h'.left
  countable := by
    have hcount := h'.countable
    rwa [h.spec, h.status] at hcount

theorem Keeps.afterAll (h : Keeps left c k) (hadds : ∀ call ∈ calls, call.adds = false)
    (hjob : (k.afterAll calls).job = k.job)
    (hleft : ∀ o ∈ left, calls.any (·.removesPod o.name) = false) :
    Keeps left c (k.afterAll calls) where
  spec := by rw [hjob, h.spec]
  status := by rw [hjob, h.status]
  named := named_of_removing h.named hadds
  left := by
    have hkept : left.filter (fun o => !calls.any (·.removesPod o.name)) = left := by
      refine List.filter_eq_self.2 fun o ho => ?_
      rw [hleft o ho]
      rfl
    rw [observed_of_removing h.named hadds, ← hkept]
    exact h.left.filter _
  countable := by
    rw [observed_of_removing h.named hadds]
    exact h.countable.mono List.filter_sublist

theorem keeps_spared (hnamed : c.Named)
    (hcount : Countable c.job.spec (c.job.status.getD {}) c.observed) :
    Keeps (c.spared now) c c where
  spec := rfl
  status := rfl
  named := hnamed
  left := List.filter_sublist
  countable := hcount

/-- What may have become of a cluster: visits in which anything failed, and in between changes that
leave the spared pods alone. -/
inductive Aftermath (ctx : OperatorContext) (c : Cluster) (now : Instant) (start : Cluster) :
    Cluster → Prop
  | start : Aftermath ctx c now start start
  | visit {k : Cluster} (fails : Call → Option ApiError) {t : Instant} (hlate : c.Late now t) :
      Aftermath ctx c now start k → Aftermath ctx c now start (k.visit fails ctx t).state
  | change {k k' : Cluster} (hkeeps : Keeps (c.spared now) k k') :
      Aftermath ctx c now start k → Aftermath ctx c now start k'

section Supported

variable (hunfinished : c.job.isFinished = false) (hvalid : c.job.spec.check = .ok ())
  (hsome : c.doomed now ≠ [])
  (hsupport : (c.job.nextStatus (c.spared now) now).isFinished = true)

include hunfinished hvalid hsome hsupport

/-- As long as the pods are there that support the decision, a visit makes no child, and either it
finishes the job or the pods are still there. -/
theorem Keeps.visit (h : Keeps (c.spared now) c k) (hlate : c.Late now t)
    (fails : Call → Option ApiError) (ctx : OperatorContext) :
    (∀ call ∈ (k.visit fails ctx t).calls, call.makesChild = false) ∧
      ((k.visit fails ctx t).state.job.isFinished = true ∨
        Keeps (c.spared now) c (k.visit fails ctx t).state) := by
  have hk : k.job.isFinished = false := by
    rw [Job.isFinished_eq, h.status, ← Job.isFinished_eq]
    exact hunfinished
  have hok : k.job.refusal? = none := by
    simp only [Job.refusal?, hk, Bool.false_eq_true, if_false, h.spec, hvalid]
  have hends : (k.transition t).isFinished = true :=
    Job.isFinished_nextStatus_mono hunfinished h.spec h.status h.left h.countable hlate hsupport
  have hcalls := fun call (hcall : call ∈ (k.visit fails ctx t).calls) =>
    finishing_calls hok hends hcall
  refine ⟨fun call hcall => (hcalls call hcall).1, ?_⟩
  obtain ⟨done, hdone, hstate⟩ := state_visit fails ctx k t
  rw [hstate]
  have hadds : ∀ call ∈ done, call.adds = false :=
    fun call hcall => Call.adds_of_makesChild (hcalls call (hdone hcall)).1
  rcases job_afterAll_cases k done with hjob | ⟨ns, name, s, hs, hjob⟩
  · refine .inr (h.afterAll hadds hjob fun o ho => ?_)
    rw [List.any_eq_false]
    intro call hcall hgone
    have hdoomed := (hcalls call (hdone hcall)).2.1 o.name hgone
    unfold Cluster.doomed at hdoomed
    rw [h.spec] at hdoomed
    exact CleanupPlan.not_mem_doomed_of_spared hsome (nodup_names_observed h.named) ho
      (h.left.subset ho) hdoomed
  · left
    rw [hjob, Job.isFinished_eq]
    show s.isFinished = true
    rw [(hcalls _ (hdone hs)).2.2 ns name s rfl, (Job.sameOutcome_reported ctx k.job _).isFinished]
    exact hends

/-- Whatever has become of the cluster: the job is finished, or the pods are still there. -/
theorem Aftermath.isFinished_or_keeps {start : Cluster}
    (hstart : start.job.isFinished = true ∨ Keeps (c.spared now) c start)
    (h : Aftermath ctx c now start k) :
    k.job.isFinished = true ∨ Keeps (c.spared now) c k := by
  induction h with
  | start => exact hstart
  | visit fails hlate _ ih =>
    rcases ih with hf | hkeeps
    · exact .inl (visit_of_finished hf fails ctx _).2
    · exact (hkeeps.visit hunfinished hvalid hsome hsupport hlate fails ctx).2
  | change hchange _ ih =>
    rcases ih with hf | hkeeps
    · left
      rw [Job.isFinished_eq, hchange.status, ← Job.isFinished_eq]
      exact hf
    · exact .inr (hkeeps.trans hchange)

end Supported

/-! ## What the spared pods support -/

/-- Nothing is spared when all pods go. -/
theorem spared_all (hall : c.job.spec.runPolicy.cleanPodPolicy = .all) : c.spared now = [] := by
  rw [List.eq_nil_iff_forall_not_mem]
  intro o ho
  unfold spared at ho
  rw [hall, CleanupPlan.mem_spared_iff] at ho
  exact ho.2 (List.mem_map_of_mem ho.1)

/-- Otherwise the spared pods support every decision, except that a backoff limit may have been
exceeded on account of pods that still run. -/
theorem isFinished_nextStatus_spared (hunfinished : c.job.isFinished = false) (hnamed : c.Named)
    (hpolicy : c.job.spec.runPolicy.cleanPodPolicy ≠ .all)
    (hends : (c.transition now).isFinished = true)
    (hbackoff : exceedsBackoff c.job.spec (c.job.status.getD {}) c.observed
      ((c.observed.filter fun o => MustRestart c.job.spec o).map (·.name)) = false) :
    (c.job.nextStatus (c.spared now) now).isFinished = true := by
  have hidle : ∀ o ∈ c.observed, o.phase.isActive = false → o ∈ c.spared now := by
    intro o ho hphase
    refine CleanupPlan.mem_spared_iff.2 ⟨ho, fun hdoomed => ?_⟩
    have hactive : o.phase.isActive = true :=
      (CleanupPlan.mem_activeNames_iff (nodup_names_observed hnamed) ho).1
        (CleanupPlan.doomed_subset_activeNames hpolicy hdoomed)
    rw [hphase] at hactive
    cases hactive
  unfold transition at hends
  rw [Job.isFinished_nextStatus_iff hunfinished] at hends ⊢
  rcases hends with ⟨o, ho, hfails⟩ | hback | hdead | hsucc
  · have hphase : o.phase.isActive = false := by rw [hfails.1]; rfl
    exact .inl ⟨o, hidle o ho hphase, hfails⟩
  · rw [hbackoff] at hback
    cases hback
  · exact .inr (.inr (.inl hdead))
  · refine .inr (.inr (.inr ?_))
    unfold spared CleanupPlan.spared
    rw [isSucceeded_filter fun o ho _ hphase => ?_]
    · exact hsucc
    · have hspared := hidle o ho (by rw [hphase]; rfl)
      exact (List.mem_filter.1 hspared).2

/-! ## An interrupted visit -/

/-- Nothing fails but reports. -/
def unreported : Call → Option ApiError
  | .patchStatus .. => some (.refused ⟨500, "Test", "boom"⟩)
  | _ => none

def cleanupPlan (c : Cluster) (now : Instant) : CleanupPlan :=
  CleanupPlan.make c.job.spec.runPolicy.cleanPodPolicy c.observed c.services
    (c.transition now).terminateActive

theorem removes_groupDeletion {j : Job}
    (h : call ∈ (if ctx.options.gangScheduler = .none then []
      else [Call.deletePodGroup ns j.name])) : call.removes = false := by
  split at h
  · cases h
  · rw [List.mem_singleton.1 h]
    rfl

theorem mem_cleanup {j : Job} {plan : CleanupPlan} (h : call ∈ j.cleanup ctx ns plan) :
    call.adds = false ∧ unreported call = none ∧
      ∀ ns' name s, call ≠ .patchStatus ns' name s := by
  have hcleans := Job.cleansUp_of_mem_cleanup h
  cases call with
  | deletePod ns' n => exact ⟨rfl, rfl, fun _ _ _ => Call.noConfusion⟩
  | deleteService ns' n => exact ⟨rfl, rfl, fun _ _ _ => Call.noConfusion⟩
  | deletePodGroup ns' n => exact ⟨rfl, rfl, fun _ _ _ => Call.noConfusion⟩
  | _ => cases hcleans

/-- The cluster after the cleanup of a visit. -/
def cleaned (ctx : OperatorContext) (ns : String) (c : Cluster) (now : Instant) : Cluster :=
  c.afterAll (c.job.cleanup ctx ns (c.cleanupPlan now))

theorem state_visit_unreported (hacc : c.job.Accepted ns)
    (hserved : ctx.servedVersion.check = .ok ()) (hends : (c.transition now).isFinished = true) :
    (c.visit unreported ctx now).state = c.cleaned ctx ns now := by
  obtain ⟨-, -, e, he | he, -⟩ | ⟨-, -, hvisit⟩ := visit_cases hacc unreported ctx now
  · cases he
  · cases he
  have hreport : c.job.report ctx ns (c.transition now).status =
      [.patchStatus ns c.job.name (c.job.reported ctx (c.transition now).status)] := by
    refine if_neg fun hsame => ?_
    have hfinished : c.job.isFinished = true := by
      rw [Job.isFinished_eq, hsame]
      exact hends
    rw [hacc.unfinished] at hfinished
    cases hfinished
  have hsteps : (c.job.schedule ctx ns c.pods.values c.services now).steps =
      (c.job.cleanup ctx ns (c.cleanupPlan now) ++ c.job.report ctx ns (c.transition now).status
        ++ c.job.expiry ns (c.transition now).status now).map .ok := by
    rw [schedule_of_finishes _ hends]
    exact Job.steps_finishedSchedule hserved _ _ _ now
  rw [hvisit]
  simp only [hsteps, hreport]
  rw [List.append_assoc, List.map_append,
    Schedule.run_append fun call hcall => (mem_cleanup hcall).2.1]
  rfl

theorem job_cleaned (c : Cluster) : (c.cleaned ctx ns now).job = c.job :=
  job_afterAll fun _ hcall => (mem_cleanup hcall).2.2

theorem get?_pods_cleaned (c : Cluster) (n : String) :
    (c.cleaned ctx ns now).pods.get? n = if n ∈ c.doomed now then none else c.pods.get? n := by
  unfold cleaned
  rw [get?_pods_of_removing fun _ hcall => (mem_cleanup hcall).1]
  unfold Job.cleanup
  simp only [Job.any_removesPod_removals fun _ hcall => removes_groupDeletion hcall]
  rfl

theorem observed_cleaned (hnamed : c.Named) :
    (c.cleaned ctx ns now).observed = c.spared now := by
  unfold cleaned
  rw [observed_of_removing hnamed fun _ hcall => (mem_cleanup hcall).1]
  refine List.filter_congr fun o _ => ?_
  unfold Job.cleanup
  rw [Bool.eq_iff_iff, Bool.not_eq_true', ← Bool.not_eq_true,
    Job.any_removesPod_removals fun _ hcall => removes_groupDeletion hcall]
  simp [cleanupPlan, CleanupPlan.make]

theorem Owned.cleaned (howned : c.Owned) (ctx : OperatorContext) (ns : String) (now : Instant) :
    (c.cleaned ctx ns now).Owned := by
  intro n p hp
  rw [get?_pods_cleaned] at hp
  rw [job_cleaned]
  split at hp
  · cases hp
  · exact howned n p hp

/-- A replica of a declared type is seen under the name of a declared replica. -/
theorem Owned.exists_declaredReplica (howned : c.Owned) {o : ObservedPod} (ho : o ∈ c.observed)
    (hdecl : IsDeclared c.job.spec o) :
    ∃ r ∈ c.job.spec.declaredReplicas, replicaName c.job.name r.1 r.2 = o.name := by
  obtain ⟨p, hp, hop⟩ := (mem_observed_iff howned.named).1 ho
  obtain ⟨type, i, hi, -, hn, hop', -⟩ := howned.observed_as hp
  rw [hop, Option.some.injEq] at hop'
  obtain ⟨e, he, hreplica⟩ := hdecl
  simp only [isReplicaOf, Bool.and_eq_true, decide_eq_true_eq] at hreplica
  rw [hop'] at hreplica
  obtain ⟨hsame, hlt⟩ := hreplica
  have hlower : Text.lower e.1 = Text.lower type := by
    rw [← Text.sameLetters_iff.1 hsame]
    exact Text.lower_lower type
  refine ⟨(e.1, i), JobSpec.mem_declaredReplicas_iff.2 ⟨e.2, he, hi, hlt⟩, ?_⟩
  rw [hn]
  exact replicaName_congr hlower i

/-- When a visit that finishes the job has deleted a pod, no later visit creates one, whatever has
failed. -/
def FinishSurvives (ctx : OperatorContext) (c : Cluster) (now : Instant) : Prop :=
  ∀ fails : Call → Option ApiError,
    (∃ n ∈ c.pods.keys, n ∉ (c.visit fails ctx now).state.pods.keys) →
    ∀ k, Aftermath ctx c now (c.visit fails ctx now).state k →
    ∀ (fails' : Call → Option ApiError) (t : Instant), c.Late now t →
    ∀ call ∈ (k.visit fails' ctx t).calls, ∀ ns pod, call ≠ .createPod ns pod

/-- When the spared pods do not support the decision, the cleanup deletes a replica of a declared
type. -/
theorem exists_doomed_of_unsupported (hunfinished : c.job.isFinished = false)
    (hends : (c.transition now).isFinished = true)
    (hunsupported : (c.job.nextStatus (c.spared now) now).isFinished = false) :
    ∃ o ∈ c.observed, IsDeclared c.job.spec o ∧ o.name ∈ c.doomed now := by
  refine Classical.byContradiction fun hno => ?_
  simp only [not_exists, not_and] at hno
  have hkeep : ∀ o ∈ c.observed, IsDeclared c.job.spec o →
      (!(c.doomed now).contains o.name) = true := by
    intro o ho hdecl
    simpa using hno o ho hdecl
  have hsame : (c.job.nextStatus (c.spared now) now).isFinished = (c.transition now).isFinished :=
    Job.isFinished_nextStatus_filter hunfinished hkeep
  rw [hunsupported, hends] at hsame
  cases hsame

/-- The next visit then creates it again. -/
theorem Owned.creates_after_cleaned (howned : c.Owned) (hacc : c.job.Accepted ns)
    (hserved : ctx.servedVersion.check = .ok ())
    (hunsupported : (c.job.nextStatus (c.spared now) now).isFinished = false)
    {o : ObservedPod} (ho : o ∈ c.observed) (hdecl : IsDeclared c.job.spec o)
    (hdoomed : o.name ∈ c.doomed now) :
    ∃ pod, Call.createPod ns pod ∈
      ((c.cleaned ctx ns now).visit (fun _ => none) ctx now).calls := by
  have hjob : (c.cleaned ctx ns now).job = c.job := job_cleaned c
  have hgoesOn : ((c.cleaned ctx ns now).transition now).isFinished = false := by
    unfold transition
    rw [hjob, observed_cleaned howned.named]
    exact hunsupported
  obtain ⟨r, hr, hname⟩ := howned.exists_declaredReplica ho hdecl
  have hcreate : r ∈ (c.cleaned ctx ns now).plan.createPods := by
    rw [mem_createPods_iff (howned.cleaned ctx ns now), hjob, hname, get?_pods_cleaned,
      if_pos hdoomed]
    exact ⟨hr, rfl⟩
  obtain ⟨hcalls, -⟩ := visit_of_goesOn (hjob ▸ hacc) hserved hgoesOn
  refine ⟨(c.cleaned ctx ns now).job.childPod ctx.options.gangScheduler r, hcalls ?_⟩
  simp only [Job.additions, List.mem_append, List.mem_map]
  exact .inl (.inl (.inr ⟨r, hcreate, rfl⟩))

/-- A visit that deletes nothing leaves every pod. -/
theorem doomed_ne_nil_of_deleted (hok : c.job.refusal? = none)
    (hends : (c.transition now).isFinished = true) {n : String} (hn : n ∈ c.pods.keys)
    (hgone : n ∉ (c.visit fails ctx now).state.pods.keys) : c.doomed now ≠ [] := by
  intro hnil
  refine hgone ?_
  obtain ⟨done, hdone, hstate⟩ := state_visit fails ctx c now
  have hcalls := fun call (hcall : call ∈ done) => finishing_calls hok hends (hdone hcall)
  have hkept : done.any (·.removesPod n) = false := by
    rw [List.any_eq_false]
    intro call hcall hremoves
    have hdoomed := (hcalls call hcall).2.1 n hremoves
    rw [hnil] at hdoomed
    cases hdoomed
  obtain ⟨p, hp⟩ := Dict.mem_keys_iff.1 hn
  rw [hstate, Dict.mem_keys_iff,
    get?_pods_of_removing fun call hcall => Call.adds_of_makesChild (hcalls call hcall).1, hkept]
  exact ⟨p, hp⟩

/-- **A finish survives failing calls just if the pods that its cleanup spares support it.** -/
theorem finishSurvives_iff (hacc : c.job.Accepted ns) (howned : c.Owned)
    (hserved : ctx.servedVersion.check = .ok ())
    (hcount : Countable c.job.spec (c.job.status.getD {}) c.observed)
    (hends : (c.transition now).isFinished = true) :
    FinishSurvives ctx c now ↔ (c.job.nextStatus (c.spared now) now).isFinished = true := by
  constructor
  · intro hsurvives
    refine Classical.byContradiction fun hno => ?_
    have hunsupported := Bool.eq_false_iff.2 hno
    obtain ⟨o, ho, hdecl, hdoomed⟩ :=
      exists_doomed_of_unsupported hacc.unfinished hends hunsupported
    have hstate := state_visit_unreported hacc hserved hends
    have hdeleted : ∃ n ∈ c.pods.keys, n ∉ (c.visit unreported ctx now).state.pods.keys := by
      obtain ⟨p, hp, -⟩ := (mem_observed_iff howned.named).1 ho
      refine ⟨o.name, Dict.mem_keys_iff.2 ⟨p, hp⟩, fun hmem => ?_⟩
      obtain ⟨q, hq⟩ := Dict.mem_keys_iff.1 hmem
      rw [hstate, get?_pods_cleaned, if_pos hdoomed] at hq
      cases hq
    obtain ⟨pod, hcreate⟩ :=
      howned.creates_after_cleaned hacc hserved hunsupported ho hdecl hdoomed
    refine hsurvives unreported hdeleted _ .start (fun _ => none) now (fun h => h) _ ?_ ns pod rfl
    rw [hstate]
    exact hcreate
  · rintro hsupport fails ⟨n, hn, hgone⟩ k hafter fails' t hlate call hcall ns' pod rfl
    have hsome := doomed_ne_nil_of_deleted hacc.refusal?_eq hends hn hgone
    have hkeeps : Keeps (c.spared now) c c := keeps_spared howned.named hcount
    have hstart := (hkeeps.visit hacc.unfinished hacc.valid hsome hsupport
      (fun h => h) fails ctx).2
    rcases hafter.isFinished_or_keeps hacc.unfinished hacc.valid hsome hsupport hstart with
      hf | hk
    · have hnew := (visit_of_finished hf fails' ctx t).1 _ hcall
      cases hnew
    · have hnew := (hk.visit hacc.unfinished hacc.valid hsome hsupport hlate fails' ctx).1 _ hcall
      cases hnew

/-- A job of a master and a worker. -/
def masterJob (policy : CleanPodPolicy) : Job where
  metadata := { name := some "mnist", namespace_ := some "ml" }
  spec := {
    replicaSpecs := Dict.ofList
      [("Master", { template := { spec := some { containers := [{ name := "trainer" }] } } }),
        ("Worker", { template := { spec := some { containers := [{ name := "trainer" }] } } })]
    runPolicy := { cleanPodPolicy := policy } }

/-- Its master has succeeded and its worker waits. -/
def masterDone (policy : CleanPodPolicy) : Cluster :=
  let job := masterJob policy
  let master := { job.childPod .none ("Master", 0) with
    status := some { phase := some "Succeeded" } }
  (({ job := job } : Cluster).addPod master).addPod (fresh (job.childPod .none ("Worker", 0)))

theorem owned_masterDone (policy : CleanPodPolicy) : (masterDone policy).Owned := by
  have hempty : ({ job := masterJob policy } : Cluster).Owned := fun n p hp => by cases hp
  have hmaster : ("Master", 0) ∈ (masterJob policy).spec.declaredReplicas := by
    cases policy <;> decide
  have hworker : ("Worker", 0) ∈ (masterJob policy).spec.declaredReplicas := by
    cases policy <;> decide
  refine (hempty.addPod ?_).addPod ?_
  · exact ⟨rfl, (masterJob policy).spec, "Master", 0, .none, _, by decide,
      Job.pod_childPod rfl hmaster .none, rfl, rfl⟩
  · exact ⟨rfl, (masterJob policy).spec, "Worker", 0, .none, _, by decide,
      Job.pod_childPod rfl hworker .none, rfl, rfl⟩

/-- When only the worker goes, the success of the master survives. -/
theorem finishSurvives_masterDone :
    let c := masterDone .running
    let now := Instant.ofSeconds 1714557605
    (c.job.Accepted "ml" ∧ c.Owned ∧ plainContext.servedVersion.check = .ok () ∧
      Countable c.job.spec (c.job.status.getD {}) c.observed ∧
      (c.transition now).isFinished = true) ∧ FinishSurvives plainContext c now := by
  intro c now
  have hacc : c.job.Accepted "ml" := ⟨rfl, rfl, rfl, by decide⟩
  have hserved : plainContext.servedVersion.check = .ok () := by decide
  have hcount : Countable c.job.spec (c.job.status.getD {}) c.observed :=
    ⟨by decide, by decide, by decide⟩
  have hends : (c.transition now).isFinished = true := by decide
  have hsupport : (c.job.nextStatus (c.spared now) now).isFinished = true := by decide
  exact ⟨⟨hacc, owned_masterDone _, hserved, hcount, hends⟩,
    (finishSurvives_iff hacc (owned_masterDone _) hserved hcount hends).2 hsupport⟩

/-- When all pods go, it does not: the visit after one that could not report makes the master
anew. -/
theorem not_finishSurvives_masterDone :
    let c := masterDone .all
    let now := Instant.ofSeconds 1714557605
    (c.job.Accepted "ml" ∧ c.Owned ∧ plainContext.servedVersion.check = .ok () ∧
      Countable c.job.spec (c.job.status.getD {}) c.observed ∧
      (c.transition now).isFinished = true) ∧ ¬ FinishSurvives plainContext c now := by
  intro c now
  have hcount : Countable c.job.spec (c.job.status.getD {}) c.observed :=
    ⟨by decide, by decide, by decide⟩
  refine ⟨⟨⟨rfl, rfl, rfl, by decide⟩, owned_masterDone _, by decide, hcount, by decide⟩, ?_⟩
  intro hsurvives
  have hdeleted : ∃ n ∈ c.pods.keys,
      n ∉ (c.visit unreported plainContext now).state.pods.keys := by decide
  have hcreate : Call.createPod "ml" (c.job.childPod .none ("Master", 0)) ∈
      ((c.visit unreported plainContext now).state.visit (fun _ => none) plainContext
        (Instant.ofSeconds 1714557606)).calls := by decide
  exact hsurvives unreported hdeleted _ .start (fun _ => none) _
    (fun h => absurd h (by decide)) _ hcreate _ _ rfl

end Cluster

end TrainingJobs
