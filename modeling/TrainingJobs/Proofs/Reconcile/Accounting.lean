import TrainingJobs.Proofs.Lifecycle.Backoff
import TrainingJobs.Proofs.Reconcile.Interruption
import TrainingJobs.Proofs.Reconcile.Order

/-!
# The account of restarts

A visit deletes the failed pods one after the other and reports their number at its end. A visit
that succeeds has deleted as many pods as it reports (`visit_whole`); one that fails has reported
nothing, and the pods that it has deleted by then are never counted (`visit_failed`). Over any
history the count is short by just these pods (`Ledger.restarts_accounted`), and without them it
keeps the limit. With them nothing does: a job whose report fails each time is restarted without end
(`Ledger.failedWorker`).
-/

namespace TrainingJobs

open Lifecycle

namespace Cluster

variable {c k : Cluster} {ns : String} {ctx : OperatorContext} {now : Instant}
  {fails : Call → Option ApiError} {limit : Int32} {deleted lost : Nat}
  {calls : List Call} {restart pods services : List String}

def restartCount (c : Cluster) : Int32 := (c.job.status.getD {}).restartCount

/-- The call deletes one of these pods and does not fail. -/
def deletesOne (fails : Call → Option ApiError) (restart : List String) (call : Call) : Bool :=
  (fails call).isNone && restart.any call.removesPod

/-- The names of the pods that a visit is to make anew. -/
def restarts (c : Cluster) (now : Instant) : List String :=
  (c.job.decision c.observed now).restart

/-- How many of them it has deleted. -/
def madeAnew (fails : Call → Option ApiError) (ctx : OperatorContext) (c : Cluster)
    (now : Instant) : Nat :=
  (c.visit fails ctx now).calls.countP (deletesOne fails (c.restarts now))

/-- How many of these it cannot report any more, as it fails afterwards. -/
def unreportedDeletions (fails : Call → Option ApiError) (ctx : OperatorContext) (c : Cluster)
    (now : Instant) : Nat :=
  match (c.visit fails ctx now).result with
  | .ok _ => 0
  | .error _ => c.madeAnew fails ctx now

/-! ## The deletions of a visit -/

theorem deletesOne_of_removes_eq_false {call : Call} (h : call.removes = false) :
    deletesOne fails restart call = false := by
  have hnone : restart.any call.removesPod = false := by
    rw [List.any_eq_false]
    intro n _
    rw [Call.removesPod_of_removes_eq_false h]
    exact Bool.false_ne_true
  rw [deletesOne, hnone, Bool.and_false]

theorem countP_deletesOne_eq_zero (h : ∀ call ∈ calls, call.removes = false) :
    calls.countP (deletesOne fails restart) = 0 :=
  List.countP_eq_zero.2 fun call hcall =>
    Bool.eq_false_iff.1 (deletesOne_of_removes_eq_false (h call hcall))

/-- Of removals that succeed just the deletions of these pods count. -/
theorem countP_deletesOne_removals (h : ∀ call ∈ Job.removals ns pods services, fails call = none) :
    (Job.removals ns pods services).countP (deletesOne fails restart) =
      pods.countP fun n => restart.contains n := by
  have hservices :
      (services.map (Call.deleteService ns)).countP (deletesOne fails restart) = 0 := by
    rw [List.countP_eq_zero]
    intro call hcall
    obtain ⟨n, -, rfl⟩ := List.mem_map.1 hcall
    simp [deletesOne, Call.removesPod]
  rw [Job.removals, List.countP_append, hservices, Nat.add_zero, List.countP_map]
  refine List.countP_congr fun n hn => ?_
  have hok : fails (.deletePod ns n) = none :=
    h _ (List.mem_append_left _ (List.mem_map_of_mem hn))
  have hany : restart.any (Call.deletePod ns n).removesPod = restart.contains n := by
    rw [Bool.eq_iff_iff]
    simp [Call.removesPod]
  rw [Function.comp_apply, deletesOne, hok, Option.isNone_none, Bool.true_and, hany]

/-- The plan deletes each pod that is to be made anew, and none of them twice. -/
theorem countP_deletePods (hnamed : c.Named)
    (hrestart : restart = (c.observed.filter fun o => MustRestart c.job.spec o).map (·.name)) :
    ((ChildPlan.make c.job.name c.job.spec c.observed c.services restart).deletePods.countP
      fun n => restart.contains n) = restart.length := by
  have hmust : ∀ o ∈ c.observed, restart.contains o.name = true ↔ MustRestart c.job.spec o := by
    intro o ho
    rw [List.contains_iff_mem, hrestart, List.mem_map]
    constructor
    · rintro ⟨o', ho', hname⟩
      obtain ⟨hmem, hmust⟩ := List.mem_filter.1 ho'
      rw [← List.inj_on_of_nodup_map (nodup_names_observed hnamed) hmem ho hname]
      exact of_decide_eq_true hmust
    · intro hmust
      exact ⟨o, List.mem_filter.2 ⟨ho, decide_eq_true hmust⟩, rfl⟩
  simp only [ChildPlan.make]
  rw [List.countP_map, List.countP_filter]
  have hcount : c.observed.countP (fun o => restart.contains o.name &&
      (!c.job.spec.declares o || restart.contains o.name)) =
      c.observed.countP fun o => MustRestart c.job.spec o := by
    refine List.countP_congr fun o ho => ?_
    rw [decide_eq_true_iff, ← hmust o ho]
    cases restart.contains o.name <;> simp
  rw [hrestart, List.length_map, ← List.countP_eq_length_filter, ← hcount, hrestart]
  rfl

/-- A call on the cluster fails as the rule says or does what it is for. -/
theorem outcome_failing (c : Cluster) (call : Call) :
    (failing fails).outcome c call =
      match fails call with
      | some e => .error e
      | none => .ok (c.after call) := by
  cases call with
  | listPods ns selector =>
    simp only [Backend.outcome, failing]
    cases fails (.listPods ns selector) <;> rfl
  | listServiceNames ns selector =>
    simp only [Backend.outcome, failing]
    cases fails (.listServiceNames ns selector) <;> rfl
  | _ => rfl

theorem makes_failing (h : (failing fails).Makes c calls k) :
    k = c.afterAll calls ∧ ∀ call ∈ calls, fails call = none := by
  induction h with
  | nil => exact ⟨rfl, fun _ hcall => by cases hcall⟩
  | @cons before next last call more hcall _ ih =>
    rw [outcome_failing] at hcall
    split at hcall
    · cases hcall
    next hfirst =>
      cases hcall
      refine ⟨ih.1, fun d hd => ?_⟩
      rcases List.mem_cons.1 hd with rfl | hd
      · exact hfirst
      · exact ih.2 d hd

/-! ## One visit -/

/-- What a visit reports tells of the restarts that it has decided on. -/
theorem restartCount_of_mem_calls {name : String} {s : JobStatus}
    (h : .patchStatus ns name s ∈ (c.visit fails ctx now).calls) :
    s.restartCount = c.restartCount + Int32.ofNat (c.restarts now).length := by
  obtain ⟨-, -, found, hfound, rfl⟩ := Job.reported_of_mem_calls h
  have hsame : c.job.decision (found.filterMap ObservedPod.ofPod?) now =
      c.job.decision c.observed now := by
    cases hrefusal : c.job.refusal? with
    | some why => simp only [Job.decision, hrefusal]
    | none =>
      rw [listPods_failing (hfound hrefusal)]
      rfl
  rw [hsame]
  exact (Step.decision c.job c.observed now).restartCount_eq

theorem restartCount_visit_of_restarts_eq_nil (h : c.restarts now = []) :
    (c.visit fails ctx now).state.restartCount = c.restartCount := by
  obtain ⟨done, hdone, hstate⟩ := state_visit fails ctx c now
  rw [hstate, restartCount]
  rcases job_afterAll_cases c done with hjob | ⟨ns, name, s, hs, hjob⟩
  · rw [hjob]
    rfl
  · rw [hjob, Option.getD_some, restartCount_of_mem_calls (hdone hs), h]
    exact Int32.add_zero _

theorem goesOn_of_restarts_ne_nil (h : c.restarts now ≠ []) :
    c.job.refusal? = none ∧ c.job.isFinished = false ∧ (c.transition now).isFinished = false := by
  have hgoesOn : (c.job.decision c.observed now).isFinished = false :=
    Bool.eq_false_iff.2 fun hends => h ((Step.decision c.job c.observed now).restart_eq_nil hends)
  obtain ⟨hunfinished, hok⟩ := Job.goesOn_of_decision hgoesOn
  refine ⟨hok, hunfinished, ?_⟩
  simpa only [Job.decision, hok, transition] using hgoesOn

/-- The calls of a visit to a job that goes on, its report apart. -/
def childCalls (ctx : OperatorContext) (ns : String) (c : Cluster) (now : Instant) : List Call :=
  let plan := ChildPlan.make c.job.name c.job.spec c.observed c.services (c.transition now).restart
  c.job.additions ctx ns plan ++ Job.removals ns plan.deletePods plan.deleteServices

theorem ne_patchStatus_of_mem_childCalls {call : Call}
    (h : call ∈ [.listPods ns c.job.childSelector, .listServiceNames ns c.job.childSelector]
      ++ c.childCalls ctx ns now) (ns' name : String) (s : JobStatus) :
    call ≠ .patchStatus ns' name s := by
  rcases List.mem_append.1 h with hlisting | hchild
  · simp only [List.mem_cons, List.not_mem_nil, or_false] at hlisting
    rcases hlisting with rfl | rfl <;> exact Call.noConfusion
  · exact Job.ne_patchStatus_of_mem_children hchild ns' name s

section GoesOn

variable (hacc : c.job.Accepted ns) (hserved : ctx.servedVersion.check = .ok ())
  (hgoesOn : (c.transition now).isFinished = false)

include hacc hserved hgoesOn

theorem cut_visit_of_goesOn (fails : Call → Option ApiError) :
    ∃ action, Cut (failing fails) c
      (([.listPods ns c.job.childSelector, .listServiceNames ns c.job.childSelector]
        ++ c.childCalls ctx ns now) ++ c.job.report ctx ns (c.transition now).status)
      action (c.visit fails ctx now) := by
  have hplanned : c.job.plannedCalls ctx ns c.pods.values c.services now =
      ([.listPods ns c.job.childSelector, .listServiceNames ns c.job.childSelector]
        ++ c.childCalls ctx ns now) ++ c.job.report ctx ns (c.transition now).status := by
    rw [List.append_assoc]
    exact Job.plannedCalls_of_goesOn hacc.refusal?_eq hgoesOn
  rw [← hplanned]
  exact ⟨_, Job.cut_reconcile hacc.inNamespace hserved hacc.alive (fun _ => listPods_failing)
    (fun _ => listServiceNames_failing)⟩

/-- A visit that succeeds has deleted every pod that it was to make anew, and the job tells so. -/
theorem visit_whole (hnamed : c.Named) {a : Action}
    (hok : (c.visit fails ctx now).result = .ok a) :
    (c.visit fails ctx now).state.job =
        { c.job with status := some (c.job.reported ctx (c.transition now).status) } ∧
      c.madeAnew fails ctx now = (c.transition now).restart.length := by
  obtain ⟨action, hcut⟩ := cut_visit_of_goesOn hacc hserved hgoesOn fails
  obtain ⟨hcalls, hmakes, -⟩ := hcut.of_ok hok
  obtain ⟨hstate, hsucceed⟩ := makes_failing hmakes
  have hrestart : (c.transition now).restart =
      (c.observed.filter fun o => MustRestart c.job.spec o).map (·.name) :=
    Job.restart_nextStatus hacc.unfinished hgoesOn
  have hrestarts : c.restarts now = (c.transition now).restart := by
    simp only [restarts, Job.decision, hacc.refusal?_eq]
    rfl
  refine ⟨?_, ?_⟩
  · rw [hstate]
    exact job_afterAll_report fun call hcall => ne_patchStatus_of_mem_childCalls hcall
  · have hlistings : ∀ call ∈ [Call.listPods ns c.job.childSelector,
        .listServiceNames ns c.job.childSelector], call.removes = false := by
      intro call hcall
      simp only [List.mem_cons, List.not_mem_nil, or_false] at hcall
      rcases hcall with rfl | rfl <;> rfl
    rw [madeAnew, hcalls, childCalls, List.countP_append, List.countP_append, List.countP_append,
      countP_deletesOne_eq_zero hlistings, countP_deletesOne_eq_zero fun _ => Job.removes_additions,
      countP_deletesOne_eq_zero fun _ hcall => (Job.removes_report hcall).1,
      countP_deletesOne_removals fun call hcall => hsucceed call ?_, hrestarts,
      countP_deletePods hnamed hrestart]
    · omega
    · exact List.mem_append_left _ (List.mem_append_right _ (List.mem_append_right _ hcall))

theorem visit_failed {e : OperatorError} (he : (c.visit fails ctx now).result = .error e) :
    (c.visit fails ctx now).state.job = c.job := by
  obtain ⟨action, hcut⟩ := cut_visit_of_goesOn hacc hserved hgoesOn fails
  obtain ⟨made, call, rest, -, hplanned, -, hmakes, -, -⟩ := hcut.of_error he
  rw [(makes_failing hmakes).1]
  -- what was made is not all, so it ends before the report
  have hbefore : made <+: [.listPods ns c.job.childSelector,
      .listServiceNames ns c.job.childSelector] ++ c.childCalls ctx ns now := by
    have hmade : made <+: [.listPods ns c.job.childSelector,
        .listServiceNames ns c.job.childSelector] ++ c.childCalls ctx ns now
          ++ c.job.report ctx ns (c.transition now).status := hplanned ▸ List.prefix_append _ _
    unfold Job.report at hmade hplanned
    split at hmade
    · rwa [List.append_nil] at hmade
    next hnew =>
      rcases List.prefix_concat_iff.1 hmade with hall | hbefore
      · rw [if_neg hnew, ← hall] at hplanned
        exact absurd (congrArg List.length hplanned) (by simp)
      · exact hbefore
  exact job_afterAll fun d hd => ne_patchStatus_of_mem_childCalls (hbefore.subset hd)

end GoesOn

theorem restartCount_of_goesOn (hlimit : c.job.spec.runPolicy.backoffLimit = some limit)
    (hcount : Countable c.job.spec (c.job.status.getD {}) c.observed)
    (hgoesOn : (c.transition now).isFinished = false) :
    (c.transition now).status.restartCount.toInt =
        c.restartCount.toInt + (c.transition now).restart.length ∧
      (c.transition now).status.restartCount ≤ limit := by
  have hlimited : Limited limit ⟨c.job.metadata, c.job.spec, c.observed, now⟩ c.job.status :=
    ⟨hlimit, hcount.nonneg, hcount.restarts⟩
  obtain ⟨-, hwithin⟩ := hlimited.restart_of_goesOn .advance hgoesOn
  refine hlimited.restartCount_step .advance (Int32.le_iff_toInt_le.2 ?_)
  have hinPlace := hlimited.restartsInPlace_nonneg
  omega

/-- A visit to a job that goes on and has a namespace, or one that does nothing. -/
theorem accepted_of_goesOn (fails : Call → Option ApiError) (ctx : OperatorContext) (now : Instant)
    (hok : c.job.refusal? = none) (hunfinished : c.job.isFinished = false) :
    ((c.visit fails ctx now).calls = [] ∧ (c.visit fails ctx now).state = c) ∨
      ∃ ns, c.job.Accepted ns := by
  cases halive : c.job.metadata.deletionTimestamp with
  | some _ => exact .inl (by simp [visit, Job.reconcile, halive])
  | none =>
  cases hns : c.job.namespace? with
  | none => exact .inl (by simp [visit, Job.reconcile, halive, hns])
  | some ns =>
  have hvalid : c.job.spec.check = .ok () := by
    cases hcheck : c.job.spec.check with
    | ok _ => rfl
    | error e => simp [Job.refusal?, hunfinished, hcheck] at hok
  exact .inr ⟨ns, hns, halive, hunfinished, hvalid⟩

theorem unreportedDeletions_of_eq_zero (h : c.madeAnew fails ctx now = 0) :
    c.unreportedDeletions fails ctx now = c.madeAnew fails ctx now := by
  unfold unreportedDeletions
  split
  · exact h.symm
  · rfl

/-- Whatever fails in a visit: all of its deletions are reported and keep the limit, or none is. -/
theorem restartCount_visit_cases (hserved : ctx.servedVersion.check = .ok ()) (hnamed : c.Named)
    (hcount : Countable c.job.spec (c.job.status.getD {}) c.observed)
    (hlimit : c.job.spec.runPolicy.backoffLimit = some limit)
    (fails : Call → Option ApiError) (now : Instant) :
    ((c.visit fails ctx now).state.restartCount = c.restartCount ∧
      c.unreportedDeletions fails ctx now = c.madeAnew fails ctx now) ∨
    ((c.visit fails ctx now).state.restartCount.toInt =
        c.restartCount.toInt + c.madeAnew fails ctx now ∧
      c.unreportedDeletions fails ctx now = 0 ∧
      (c.visit fails ctx now).state.restartCount ≤ limit) := by
  by_cases hnone : c.restarts now = []
  · have hzero : c.madeAnew fails ctx now = 0 := by
      rw [madeAnew, hnone, List.countP_eq_zero]
      intro call _
      simp [deletesOne]
    exact .inl ⟨restartCount_visit_of_restarts_eq_nil hnone, unreportedDeletions_of_eq_zero hzero⟩
  obtain ⟨hok, hunfinished, hgoesOn⟩ := goesOn_of_restarts_ne_nil hnone
  obtain ⟨hcalls, hstate⟩ | ⟨ns, hacc⟩ :=
    accepted_of_goesOn fails ctx now hok hunfinished
  · have hzero : c.madeAnew fails ctx now = 0 := by
      rw [madeAnew, hcalls]
      rfl
    rw [hstate]
    exact .inl ⟨rfl, unreportedDeletions_of_eq_zero hzero⟩
  cases hresult : (c.visit fails ctx now).result with
  | error e =>
    left
    rw [restartCount, visit_failed hacc hserved hgoesOn hresult]
    exact ⟨rfl, by simp only [unreportedDeletions, hresult]⟩
  | ok a =>
    right
    obtain ⟨hjob, hmade⟩ := visit_whole hacc hserved hgoesOn hnamed hresult
    obtain ⟨hcounted, hkept⟩ := restartCount_of_goesOn hlimit hcount hgoesOn
    have htold : (c.visit fails ctx now).state.restartCount =
        (c.transition now).status.restartCount := by
      rw [restartCount, hjob]
      rfl
    rw [htold, hmade]
    exact ⟨hcounted, by simp only [unreportedDeletions, hresult], hkept⟩

/-! ## All visits -/

/-- What has become of a job that began without a status: visits in which anything failed, and in
between changes of anything but its status and its limit. The account is kept of the pods that were
deleted to be made anew, and of those among them that could not be reported. -/
inductive Ledger (limit : Int32) : Cluster → Nat → Nat → Prop
  | start {c : Cluster} (hlimit : c.job.spec.runPolicy.backoffLimit = some limit)
      (hnew : c.job.status = none) : Ledger limit c 0 0
  | visit {c : Cluster} {deleted lost : Nat} (fails : Call → Option ApiError)
      (ctx : OperatorContext) (now : Instant)
      (hserved : ctx.servedVersion.check = .ok ()) (hnamed : c.Named)
      (hcount : Countable c.job.spec (c.job.status.getD {}) c.observed) :
      Ledger limit c deleted lost →
      Ledger limit (c.visit fails ctx now).state (deleted + c.madeAnew fails ctx now)
        (lost + c.unreportedDeletions fails ctx now)
  | change {c k : Cluster} {deleted lost : Nat} (hstatus : k.job.status = c.job.status)
      (hlimit : k.job.spec.runPolicy.backoffLimit = some limit) :
      Ledger limit c deleted lost → Ledger limit k deleted lost

theorem Ledger.backoffLimit_eq (h : Ledger limit c deleted lost) :
    c.job.spec.runPolicy.backoffLimit = some limit := by
  induction h with
  | start hlimit => exact hlimit
  | @visit c _ _ fails ctx now _ _ _ _ ih =>
    obtain ⟨done, -, hstate⟩ := state_visit fails ctx c now
    rw [hstate]
    rcases job_afterAll_cases c done with hjob | ⟨_, _, _, -, hjob⟩
    · rw [hjob]
      exact ih
    · rw [hjob]
      exact ih
  | change _ hlimit => exact hlimit

/-- **The account of restarts.** Whatever becomes of a job that began without a status and whichever
calls fail, its count of restarts and the deletions that could not be reported make up all pods that
were deleted to be made anew. The count keeps the limit, so the deletions exceed it at most by those
that were not reported; and they are as many as the count tells just if none was left out. -/
theorem Ledger.restarts_accounted (h : Ledger limit c deleted lost) (hlimit : 0 ≤ limit) :
    c.restartCount.toInt + lost = deleted ∧ c.restartCount ≤ limit ∧
      (deleted : Int) ≤ limit.toInt + lost ∧
      (c.restartCount.toInt = deleted ↔ lost = 0) := by
  have haccount : c.restartCount.toInt + lost = deleted ∧ c.restartCount ≤ limit := by
    induction h with
    | start _ hnew =>
      rw [restartCount, hnew]
      exact ⟨rfl, hlimit⟩
    | @visit c deleted lost fails ctx now hserved hnamed hcount hbefore ih =>
      obtain ⟨hsum, hle⟩ := ih
      push_cast
      rcases restartCount_visit_cases hserved hnamed hcount hbefore.backoffLimit_eq fails now with
        ⟨hsame, hunreported⟩ | ⟨hcounted, hunreported, hkept⟩
      · rw [hsame, hunreported]
        exact ⟨by omega, hle⟩
      · rw [hcounted, hunreported]
        exact ⟨by omega, hkept⟩
    | @change c k _ _ hstatus _ _ ih =>
      rw [show k.restartCount = c.restartCount from congrArg (·.getD {} |>.restartCount) hstatus]
      exact ih
  obtain ⟨hsum, hle⟩ := haccount
  have hle' := Int32.le_iff_toInt_le.1 hle
  exact ⟨hsum, hle, by omega, by omega⟩

/-! ## A job that is restarted without end -/

/-- A job whose worker has failed and may be made anew once. -/
def failedWorker : Cluster :=
  let job : Job := {
    metadata := { name := some "mnist", namespace_ := some "ml" }
    spec := {
      replicaSpecs := Dict.ofList
        [("Worker",
          { template := { spec := some { containers := [{ name := "trainer" }] } }
            restartPolicy := .onFailure })]
      runPolicy := { backoffLimit := some 1 } } }
  ({ job := job } : Cluster).addPod { job.childPod .none ("Worker", 0) with
    status := some { phase := some "Failed" } }

theorem named_failedWorker : failedWorker.Named := by
  intro n p hp
  rw [failedWorker, addPod, Dict.get?_insert] at hp
  split at hp
  next hn => rw [← Option.some.inj hp, hn]
  · cases hp

theorem countable_failedWorker :
    Countable failedWorker.job.spec (failedWorker.job.status.getD {}) failedWorker.observed :=
  ⟨by decide, by decide, by decide⟩

/-- As long as its report fails, the worker is deleted again and again. -/
theorem Ledger.failedWorker (n : Nat) : Ledger 1 failedWorker n n := by
  induction n with
  | zero => exact .start rfl rfl
  | succ n ih =>
    have hvisit := ih.visit unreported plainContext (Instant.ofSeconds 1714557605)
      (by decide) named_failedWorker countable_failedWorker
    have hmade : Cluster.failedWorker.madeAnew unreported plainContext
        (Instant.ofSeconds 1714557605) = 1 := by decide
    have hlost : Cluster.failedWorker.unreportedDeletions unreported plainContext
        (Instant.ofSeconds 1714557605) = 1 := by decide
    rw [hmade, hlost] at hvisit
    exact hvisit.change (by decide) rfl

/-- A report fails, the next one does not: two deletions, of which one was reported. -/
theorem Ledger.restarts_accounted_failedWorker :
    let c := (Cluster.failedWorker.visit (fun _ => none) plainContext
      (Instant.ofSeconds 1714557606)).state
    Ledger 1 c 2 1 ∧ (0 : Int32) ≤ 1 ∧ c.restartCount = 1 ∧
      c.restartCount.toInt + (1 : Nat) = (2 : Nat) ∧
      ((2 : Nat) : Int) ≤ (1 : Int32).toInt + (1 : Nat) := by
  intro c
  have hvisit := (Ledger.failedWorker 1).visit (fun _ => none) plainContext
    (Instant.ofSeconds 1714557606) (by decide) named_failedWorker countable_failedWorker
  have hmade : Cluster.failedWorker.madeAnew (fun _ => none) plainContext
      (Instant.ofSeconds 1714557606) = 1 := by decide
  have hlost : Cluster.failedWorker.unreportedDeletions (fun _ => none) plainContext
      (Instant.ofSeconds 1714557606) = 0 := by decide
  rw [hmade, hlost] at hvisit
  obtain ⟨hsum, -, hle, -⟩ := Ledger.restarts_accounted hvisit (by decide)
  exact ⟨hvisit, by decide, by decide, hsum, hle⟩

/-- Two workers in succession were deleted where one may be, and the job, which goes on, tells of
none of them. -/
theorem Ledger.not_accounted_failedWorker :
    Ledger 1 Cluster.failedWorker 2 2 ∧ Cluster.failedWorker.job.isFinished = false ∧
      ¬ ((2 : Nat) : Int) ≤ (1 : Int32).toInt ∧
      Cluster.failedWorker.restartCount.toInt ≠ (2 : Nat) :=
  ⟨.failedWorker 2, by decide, by decide, by decide⟩

end Cluster

end TrainingJobs
