import TrainingJobs.Proofs.Reconcile.Calls
import TrainingJobs.Proofs.Reconcile.Effects
import TrainingJobs.Proofs.Replica.Built

/-!
# A visit to an accepted job

A job that is `Accepted` is neither refused nor left alone, so a visit lists its children and then
runs its schedule (`visit_cases`). The steps of the schedules are written here as plain lists of
calls: every declared replica of a job with a namespace can be built, so no step is an error
(`steps_unfinishedSchedule`, `steps_finishedSchedule`) unless the API to report through is not valid.
-/

namespace TrainingJobs

open Lifecycle

/-- The job has a namespace, is not being deleted, and is unfinished with a spec that passes its
check. -/
structure Job.Accepted (j : Job) (ns : String) : Prop where
  inNamespace : j.namespace? = some ns
  alive : j.metadata.deletionTimestamp = none
  unfinished : j.isFinished = false
  valid : j.spec.check = .ok ()

/-- The call takes away something that a job leaves behind. -/
def Call.cleansUp : Call → Bool
  | deletePod .. | deleteService .. | deletePodGroup .. => true
  | listPods .. | listServiceNames .. | createPod .. | createService .. | applyPodGroup ..
  | patchStatus .. | deleteJob .. => false

def Cluster.observed (c : Cluster) : List ObservedPod := c.pods.values.filterMap ObservedPod.ofPod?

def Cluster.transition (c : Cluster) (now : Instant) : Transition :=
  c.job.nextStatus c.observed now

namespace Job

variable {j : Job} {ns : String} {ctx : OperatorContext} {now : Instant}

theorem Accepted.refusal?_eq (h : j.Accepted ns) : j.refusal? = none := by
  simp only [refusal?, h.unfinished, Bool.false_eq_true, if_false, h.valid]

def childPod (j : Job) (scheduler : GangScheduler) (r : String × Int32) : Pod :=
  (Replica.pod j r.1 r.2 scheduler).toOption.getD {}

def childService (j : Job) (r : String × Int32) : Service :=
  (Replica.service j r.1 r.2).toOption.getD {}

/-- The call that keeps the pod group, if the job has one. -/
def groupCalls (ctx : OperatorContext) (j : Job) (ns : String) : List Call :=
  (PodGroup.ofJob? j ctx.options.gangScheduler).toList.map (Call.applyPodGroup ns)

/-- The calls by which a plan brings children into being. -/
def additions (ctx : OperatorContext) (j : Job) (ns : String) (plan : ChildPlan) : List Call :=
  j.groupCalls ctx ns
    ++ plan.createServices.map (fun r => .createService ns (j.childService r))
    ++ plan.createPods.map (fun r => .createPod ns (j.childPod ctx.options.gangScheduler r))

/-- The calls by which pods and services go. -/
def removals (ns : String) (pods services : List String) : List Call :=
  pods.map (Call.deletePod ns) ++ services.map (Call.deleteService ns)

/-- The call that reports a status, unless the job carries it already. -/
def report (ctx : OperatorContext) (j : Job) (ns : String) (status : JobStatus) : List Call :=
  if j.status = some (j.reported ctx status) then []
  else [.patchStatus ns j.name (j.reported ctx status)]

theorem removes_report {call : Call} {status : JobStatus}
    (h : call ∈ j.report ctx ns status) : call.removes = false ∧ call.adds = false := by
  unfold report at h
  split at h
  · cases h
  · rw [List.mem_singleton.1 h]
    exact ⟨rfl, rfl⟩

theorem adds_removals {call : Call} {pods services : List String}
    (h : call ∈ removals ns pods services) : call.adds = false := by
  simp only [removals, List.mem_append, List.mem_map] at h
  rcases h with ⟨n, -, rfl⟩ | ⟨n, -, rfl⟩ <;> rfl

theorem removes_additions {call : Call} {plan : ChildPlan}
    (h : call ∈ j.additions ctx ns plan) : call.removes = false := by
  simp only [additions, groupCalls, List.mem_append, List.mem_map] at h
  rcases h with (⟨g, -, rfl⟩ | ⟨r, -, rfl⟩) | ⟨r, -, rfl⟩ <;> rfl

theorem ne_patchStatus_of_mem_children {call : Call} {plan : ChildPlan}
    {pods services : List String}
    (h : call ∈ j.additions ctx ns plan ++ removals ns pods services) (ns' name : String)
    (s : JobStatus) : call ≠ .patchStatus ns' name s := by
  simp only [additions, groupCalls, removals, List.mem_append, List.mem_map] at h
  rcases h with ((⟨g, -, rfl⟩ | ⟨r, -, rfl⟩) | ⟨r, -, rfl⟩) | (⟨n, -, rfl⟩ | ⟨n, -, rfl⟩) <;>
    exact Call.noConfusion

section Removals

variable {n : String} {pods services : List String} {rest : List Call}
  (hrest : ∀ call ∈ rest, call.removes = false)

include hrest

theorem any_removesPod_removals :
    (removals ns pods services ++ rest).any (·.removesPod n) = true ↔ n ∈ pods := by
  have hnone : rest.any (·.removesPod n) = false :=
    List.any_eq_false.2 fun call hcall =>
      Bool.eq_false_iff.1 (Call.removesPod_of_removes_eq_false (hrest call hcall) n)
  rw [List.any_append, hnone, Bool.or_false, removals, List.any_append]
  simp [Call.removesPod]

theorem any_removesService_removals :
    (removals ns pods services ++ rest).any (·.removesService n) = true ↔ n ∈ services := by
  have hnone : rest.any (·.removesService n) = false :=
    List.any_eq_false.2 fun call hcall =>
      Bool.eq_false_iff.1 (Call.removesService_of_removes_eq_false (hrest call hcall) n)
  rw [List.any_append, hnone, Bool.or_false, removals, List.any_append]
  simp [Call.removesService]

end Removals

/-! ## The schedules as calls -/

theorem reportSteps_eq (hserved : ctx.servedVersion.check = .ok ()) (status : JobStatus) :
    j.reportSteps ctx ns status = (j.report ctx ns status).map .ok := by
  simp only [reportSteps, hserved, report]
  split <;> rfl

theorem reportSteps_of_unserved {e : JobError} (hunserved : ctx.servedVersion.check = .error e)
    (status : JobStatus) : j.reportSteps ctx ns status = [.error (.job e)] := by
  simp only [reportSteps, hunserved]

section Children

variable {r : String × Int32} {scheduler : GangScheduler}

theorem exists_replica?_of_mem (hr : r ∈ j.spec.declaredReplicas) :
    ∃ e, j.spec.replica? r.1 = some e := by
  obtain ⟨type, i⟩ := r
  obtain ⟨spec, he, -⟩ := JobSpec.mem_declaredReplicas_iff.1 hr
  have hfound := JobSpec.exists_replica? he
  exact hfound

theorem pod_childPod (hns : j.namespace? = some ns) (hr : r ∈ j.spec.declaredReplicas)
    (scheduler : GangScheduler) :
    Replica.pod j r.1 r.2 scheduler = .ok (j.childPod scheduler r) := by
  obtain ⟨e, he⟩ := exists_replica?_of_mem hr
  obtain ⟨pod, hpod⟩ := exists_pod hns he r.2 scheduler
  rw [childPod, hpod]
  rfl

theorem service_childService (hns : j.namespace? = some ns)
    (hr : r ∈ j.spec.declaredReplicas) :
    Replica.service j r.1 r.2 = .ok (j.childService r) ∧
      (j.childService r).metadata.displayName = replicaName j.name r.1 r.2 := by
  obtain ⟨e, he⟩ := exists_replica?_of_mem hr
  obtain ⟨service, hservice, hmeta, -⟩ := exists_service hns he r.2
  rw [childService, hservice]
  refine ⟨rfl, ?_⟩
  show service.metadata.displayName = _
  rw [hmeta]
  rfl

end Children

theorem unfinishedSchedule_steps (hns : j.namespace? = some ns) (pods : List ObservedPod)
    (services : NameSet) (t : Transition) (now : Instant) :
    let plan := ChildPlan.make j.name j.spec pods services t.restart
    (j.unfinishedSchedule ctx ns pods services t now).steps =
      (j.additions ctx ns plan ++ removals ns plan.deletePods plan.deleteServices).map .ok
        ++ j.reportSteps ctx ns t.status := by
  intro plan
  have hservices : plan.createServices.map (fun r =>
        (Replica.service j r.1 r.2).map fun s => Call.createService ns s) =
      (plan.createServices.map fun r => Call.createService ns (j.childService r)).map .ok := by
    rw [List.map_map]
    refine List.map_congr_left fun r hr => ?_
    rw [(service_childService hns (List.mem_filter.1 hr).1).1]
    rfl
  have hpods : plan.createPods.map (fun r =>
        (Replica.pod j r.1 r.2 ctx.options.gangScheduler).map fun p => Call.createPod ns p) =
      (plan.createPods.map fun r =>
        Call.createPod ns (j.childPod ctx.options.gangScheduler r)).map .ok := by
    rw [List.map_map]
    refine List.map_congr_left fun r hr => ?_
    rw [pod_childPod hns (List.mem_filter.1 hr).1]
    rfl
  simp only [unfinishedSchedule, additions, groupCalls, removals]
  rw [hservices, hpods]
  simp only [List.map_append, List.map_map, List.append_assoc]
  rfl

theorem steps_unfinishedSchedule (hns : j.namespace? = some ns)
    (hserved : ctx.servedVersion.check = .ok ()) (pods : List ObservedPod) (services : NameSet)
    (t : Transition) (now : Instant) :
    let plan := ChildPlan.make j.name j.spec pods services t.restart
    (j.unfinishedSchedule ctx ns pods services t now).steps =
      (j.additions ctx ns plan ++ removals ns plan.deletePods plan.deleteServices
        ++ j.report ctx ns t.status).map .ok := by
  intro plan
  rw [unfinishedSchedule_steps hns, reportSteps_eq hserved, ← List.map_append]

def cleanup (ctx : OperatorContext) (j : Job) (ns : String) (plan : CleanupPlan) : List Call :=
  removals ns plan.deletePods plan.deleteServices
    ++ if ctx.options.gangScheduler = .none then [] else [.deletePodGroup ns j.name]

theorem cleansUp_of_mem_cleanup {call : Call} {plan : CleanupPlan}
    (h : call ∈ j.cleanup ctx ns plan) : call.cleansUp = true := by
  simp only [cleanup, removals, List.mem_append, List.mem_map] at h
  rcases h with (⟨n, -, rfl⟩ | ⟨n, -, rfl⟩) | h
  · rfl
  · rfl
  · split at h
    · cases h
    · rw [List.mem_singleton.1 h]
      rfl

/-- The call that deletes a finished job whose time has come. -/
def expiry (j : Job) (ns : String) (status : JobStatus) (now : Instant) : List Call :=
  if (ttlRemaining? status j.spec.runPolicy.ttlSecondsAfterFinished now).any (·.isZero) then
    [.deleteJob ns j.name]
  else []

theorem finishedSchedule_steps (pods : List ObservedPod) (services : NameSet) (t : Transition)
    (now : Instant) :
    let plan := CleanupPlan.make j.spec.runPolicy.cleanPodPolicy pods services t.terminateActive
    (j.finishedSchedule ctx ns pods services t now).steps =
      (j.cleanup ctx ns plan).map .ok ++ j.reportSteps ctx ns t.status
        ++ (j.expiry ns t.status now).map .ok := by
  intro plan
  have hgroup : (if ctx.options.gangScheduler = .none then []
        else [.ok (Call.deletePodGroup ns j.name)] : List (Except OperatorError Call)) =
      (if ctx.options.gangScheduler = .none then []
        else [Call.deletePodGroup ns j.name]).map .ok := by
    split <;> rfl
  simp only [finishedSchedule, cleanup, removals, expiry]
  rw [hgroup]
  cases ttlRemaining? t.status j.spec.runPolicy.ttlSecondsAfterFinished now with
  | none =>
    simp only [Option.any_none, Bool.false_eq_true, if_false, List.map_append, List.map_map,
      List.map_nil, List.append_assoc, List.append_nil]
    rfl
  | some left =>
    simp only [Option.any_some]
    split
    · simp only [List.map_append, List.map_map, List.append_assoc]
      rfl
    · simp only [List.map_append, List.map_map, List.map_nil, List.append_assoc, List.append_nil]
      rfl

theorem steps_finishedSchedule (hserved : ctx.servedVersion.check = .ok ())
    (pods : List ObservedPod) (services : NameSet) (t : Transition) (now : Instant) :
    let plan := CleanupPlan.make j.spec.runPolicy.cleanPodPolicy pods services t.terminateActive
    (j.finishedSchedule ctx ns pods services t now).steps =
      (j.cleanup ctx ns plan ++ j.report ctx ns t.status ++ j.expiry ns t.status now).map .ok := by
  intro plan
  rw [finishedSchedule_steps, reportSteps_eq hserved, List.map_append, List.map_append]

end Job

namespace Cluster

/-- An operator without a gang scheduler. -/
def plainContext : OperatorContext where
  options := {}
  servedVersion := ⟨"kubeflow.org/v1", "v1"⟩

variable {c : Cluster} {ns : String}

/-! ## Visits -/

/-- After a report the job carries the status that was to be reported, also when it did before. -/
theorem job_afterAll_report {ctx : OperatorContext} {calls : List Call} {status : JobStatus}
    (h : ∀ call ∈ calls, ∀ ns' name s, call ≠ .patchStatus ns' name s) :
    (c.afterAll (calls ++ c.job.report ctx ns status)).job =
      { c.job with status := some (c.job.reported ctx status) } := by
  rw [afterAll_append]
  have hkeep : (c.afterAll calls).job = c.job := job_afterAll h
  unfold Job.report
  split
  next hsame => rw [afterAll_nil, hkeep, ← hsame]
  next =>
    rw [afterAll_cons, afterAll_nil]
    simp only [after, hkeep]

section Schedule

variable {ctx : OperatorContext} {now : Instant} (services : NameSet)

theorem schedule_of_finishes (hends : (c.transition now).isFinished = true) :
    c.job.schedule ctx ns c.pods.values services now =
      c.job.finishedSchedule ctx ns c.observed services (c.transition now) now :=
  Job.schedule_of_finishes hends

theorem schedule_of_goesOn (hgoesOn : (c.transition now).isFinished = false) :
    c.job.schedule ctx ns c.pods.values services now =
      c.job.unfinishedSchedule ctx ns c.observed services (c.transition now) now :=
  Job.schedule_of_goesOn hgoesOn

end Schedule

/-- A visit whose listings fail does nothing; any other runs the schedule. -/
theorem visit_cases (h : c.job.Accepted ns) (fails : Call → Option ApiError)
    (ctx : OperatorContext) (now : Instant) :
    ((c.visit fails ctx now).state = c ∧
      (∀ call ∈ (c.visit fails ctx now).calls,
        call = .listPods ns c.job.childSelector ∨
          call = .listServiceNames ns c.job.childSelector) ∧
      ∃ e, (fails (.listPods ns c.job.childSelector) = some e ∨
          fails (.listServiceNames ns c.job.childSelector) = some e) ∧
        (c.visit fails ctx now).result = .error (.api e)) ∨
    (fails (.listPods ns c.job.childSelector) = none ∧
      fails (.listServiceNames ns c.job.childSelector) = none ∧
      let s := c.job.schedule ctx ns c.pods.values c.services now
      let r := Schedule.run (failing fails) c s.action s.steps
      c.visit fails ctx now =
        ⟨.listPods ns c.job.childSelector :: .listServiceNames ns c.job.childSelector :: r.calls,
          r.state, r.result⟩) := by
  have hdelete : c.job.metadata.deletionTimestamp.isSome = false := by rw [h.alive]; rfl
  unfold visit Job.reconcile
  simp only [hdelete, Bool.false_eq_true, if_false, h.inNamespace, h.refusal?_eq]
  cases hpods : fails (.listPods ns c.job.childSelector) with
  | some e =>
    have hlist : (failing fails).listPods c ns c.job.childSelector = .error e := by
      simp only [failing, hpods]
    rw [hlist]
    exact .inl ⟨rfl, by simp, e, .inl rfl, rfl⟩
  | none =>
  have hlist : (failing fails).listPods c ns c.job.childSelector = .ok c.pods.values := by
    simp only [failing, hpods]
  rw [hlist]
  cases hservices : fails (.listServiceNames ns c.job.childSelector) with
  | some e =>
    have hnames : (failing fails).listServiceNames c ns c.job.childSelector = .error e := by
      simp only [failing, hservices]
    rw [hnames]
    exact .inl ⟨rfl, by simp, e, .inr rfl, rfl⟩
  | none =>
  have hnames : (failing fails).listServiceNames c ns c.job.childSelector = .ok c.services := by
    simp only [failing, hservices]
  rw [hnames]
  exact .inr ⟨rfl, rfl, rfl⟩

/-- What a visit does about a job that goes on, when nothing fails. -/
theorem visit_of_goesOn (h : c.job.Accepted ns) {ctx : OperatorContext} {now : Instant}
    (hserved : ctx.servedVersion.check = .ok ())
    (hgoesOn : (c.transition now).isFinished = false) :
    let plan := ChildPlan.make c.job.name c.job.spec c.observed c.services
      (c.transition now).restart
    let calls := c.job.additions ctx ns plan ++ Job.removals ns plan.deletePods plan.deleteServices
      ++ c.job.report ctx ns (c.transition now).status
    calls ⊆ (c.visit (fun _ => none) ctx now).calls ∧
      (c.visit (fun _ => none) ctx now).state = c.afterAll calls := by
  intro plan calls
  have hsteps : (c.job.schedule ctx ns c.pods.values c.services now).steps = calls.map .ok := by
    rw [schedule_of_goesOn _ hgoesOn]
    exact Job.steps_unfinishedSchedule h.inNamespace hserved _ _ _ now
  obtain ⟨-, -, e, he | he, -⟩ | ⟨-, -, hvisit⟩ := visit_cases h (fun _ => none) ctx now
  · cases he
  · cases he
  rw [hvisit]
  simp only [hsteps]
  rw [Schedule.run_all fun _ _ => rfl]
  exact ⟨fun call hcall => List.mem_cons_of_mem _ (List.mem_cons_of_mem _ hcall), rfl⟩

/-- Without a valid API to report through it does all the same but the report. -/
theorem state_visit_of_unserved (h : c.job.Accepted ns) {ctx : OperatorContext} {now : Instant}
    {e : JobError} (hunserved : ctx.servedVersion.check = .error e)
    (hgoesOn : (c.transition now).isFinished = false) :
    let plan := ChildPlan.make c.job.name c.job.spec c.observed c.services
      (c.transition now).restart
    (c.visit (fun _ => none) ctx now).state =
      c.afterAll (c.job.additions ctx ns plan
        ++ Job.removals ns plan.deletePods plan.deleteServices) := by
  intro plan
  obtain ⟨-, -, e', he | he, -⟩ | ⟨-, -, hvisit⟩ := visit_cases h (fun _ => none) ctx now
  · cases he
  · cases he
  rw [hvisit, schedule_of_goesOn _ hgoesOn]
  simp only [Job.unfinishedSchedule_steps h.inNamespace, Job.reportSteps_of_unserved hunserved]
  rw [Schedule.run_append fun _ _ => rfl]
  rfl

theorem visit_succeeds (h : c.job.Accepted ns) {ctx : OperatorContext}
    (hserved : ctx.servedVersion.check = .ok ()) {fails : Call → Option ApiError}
    (hnone : ∀ call, fails call = none) (now : Instant) :
    ∃ a, (c.visit fails ctx now).result = .ok a := by
  obtain ⟨-, -, e, he | he, -⟩ | ⟨-, -, hvisit⟩ := visit_cases h fails ctx now
  · rw [hnone] at he
    cases he
  · rw [hnone] at he
    cases he
  obtain ⟨calls, hsteps⟩ : ∃ calls : List Call,
      (c.job.schedule ctx ns c.pods.values c.services now).steps = calls.map .ok := by
    cases hends : (c.transition now).isFinished with
    | true =>
      rw [schedule_of_finishes _ hends]
      exact ⟨_, Job.steps_finishedSchedule hserved _ _ _ now⟩
    | false =>
      rw [schedule_of_goesOn _ hends]
      exact ⟨_, Job.steps_unfinishedSchedule h.inNamespace hserved _ _ _ now⟩
  rw [hvisit]
  simp only [hsteps]
  rw [Schedule.run_all fun call _ => hnone call]
  exact ⟨_, rfl⟩

end Cluster

end TrainingJobs
