import TrainingJobs.Proofs.Reconcile.Visit

/-!
# The order of calls

`Job.plannedCalls` are the calls of a reconcile in which nothing fails, in their order. Whatever
fails, a reconcile makes the first of them, up to and including the first that fails, and nothing
but that failure is its error (`Job.cut_reconcile`). So a call is made only when all that come
before it have succeeded (`Cut.exists_makes`).
-/

namespace TrainingJobs

open Lifecycle

variable {σ : Type} {b : Backend σ} {start : σ} {ctx : OperatorContext} {j : Job}
  {ns : String} {now : Instant} {call : Call} {calls front rest : List Call}

namespace Call

def isListing : Call → Bool
  | listPods .. | listServiceNames .. => true
  | createPod .. | createService .. | deletePod .. | deleteService .. | applyPodGroup ..
  | deletePodGroup .. | patchStatus .. | deleteJob .. => false

end Call

namespace Backend

/-- What any call makes of the state; a listing leaves it as it is. -/
def outcome (b : Backend σ) (state : σ) : Call → Except ApiError σ
  | .listPods ns selector => (b.listPods state ns selector).map fun _ => state
  | .listServiceNames ns selector => (b.listServiceNames state ns selector).map fun _ => state
  | call => b.perform state call

theorem outcome_of_not_listing (h : call.isListing = false) (state : σ) :
    b.outcome state call = b.perform state call := by
  cases call with
  | listPods ns selector => cases h
  | listServiceNames ns selector => cases h
  | _ => rfl

/-- A cluster in which nothing fails and that always lists the same. -/
def unfailing (pods : List Pod) (services : NameSet) : Backend Unit where
  listPods _ _ _ := .ok pods
  listServiceNames _ _ _ := .ok services
  perform _ _ := .ok ()

/-- The calls succeed one after the other and lead from one state to another. -/
inductive Makes (b : Backend σ) : σ → List Call → σ → Prop
  | nil (state : σ) : Makes b state [] state
  | cons {state next last : σ} {call : Call} {calls : List Call}
      (h : b.outcome state call = .ok next) :
      Makes b next calls last → Makes b state (call :: calls) last

theorem Makes.of_append {last : σ} (h : b.Makes start (front ++ rest) last) :
    ∃ middle, b.Makes start front middle ∧ b.Makes middle rest last := by
  induction front generalizing start with
  | nil => exact ⟨start, .nil start, h⟩
  | cons call more ih =>
    cases h with
    | cons hcall hmore =>
      obtain ⟨middle, hfront, hrest⟩ := ih hmore
      exact ⟨middle, .cons hcall hfront, hrest⟩

theorem makes_unfailing (pods : List Pod) (services : NameSet) (calls : List Call) :
    (unfailing pods services).Makes () calls () := by
  induction calls with
  | nil => exact .nil ()
  | cons call rest ih => exact .cons (by cases call <;> rfl) ih

theorem Makes.unique {last last' : σ} (h : b.Makes start calls last)
    (h' : b.Makes start calls last') : last = last' := by
  induction h with
  | nil => cases h'; rfl
  | cons hcall _ ih =>
    cases h' with
    | cons hcall' hmore =>
      obtain rfl := Except.ok.inj (hcall.symm.trans hcall')
      exact ih hmore

end Backend

/-- What becomes of calls that are to be made one after the other: all of them succeed, or the first
of them do and the next one fails, is the last and gives the error. -/
inductive Cut (b : Backend σ) (start : σ) (calls : List Call) (action : Action) :
    Reconciled σ → Prop
  | whole {last : σ} (h : b.Makes start calls last) :
      Cut b start calls action ⟨calls, last, .ok action⟩
  | failed (made : List Call) {rest : List Call} {call : Call} {before : σ} {e : ApiError}
      (hcalls : calls = made ++ call :: rest) (hmade : b.Makes start made before)
      (hfails : b.outcome before call = .error e) :
      Cut b start calls action ⟨made ++ [call], before, .error (.api e)⟩

namespace Cut

variable {action : Action} {r : Reconciled σ}

theorem cons {next : σ} (hcall : b.outcome start call = .ok next) (h : Cut b next calls action r) :
    Cut b start (call :: calls) action ⟨call :: r.calls, r.state, r.result⟩ := by
  cases h with
  | whole h => exact .whole (.cons hcall h)
  | failed made hcalls hmade hfails =>
    exact .failed (call :: made) (by rw [hcalls, List.cons_append]) (.cons hcall hmade) hfails

/-- A call is made only when those before it have succeeded. -/
theorem exists_makes (h : Cut b start (front ++ rest) action r) (hmade : call ∈ r.calls)
    (hlate : call ∉ front) : ∃ middle, b.Makes start front middle := by
  cases h with
  | whole h =>
    obtain ⟨middle, hfront, -⟩ := h.of_append
    exact ⟨middle, hfront⟩
  | @failed made more last before e hcalls hbefore hfails =>
    rcases List.append_eq_append_iff.1 hcalls with ⟨after, rfl, -⟩ | ⟨after, rfl, hmore⟩
    · obtain ⟨middle, hfront, -⟩ := hbefore.of_append
      exact ⟨middle, hfront⟩
    · cases after with
      | nil => exact ⟨before, by rwa [List.append_nil]⟩
      | cons first after =>
        -- the failed call belongs to those before, and so does every call that was made
        obtain ⟨rfl, -⟩ := List.cons.inj hmore
        refine absurd ?_ hlate
        rcases List.mem_append.1 hmade with hmem | hmem
        · exact List.mem_append_left _ hmem
        · rw [List.mem_singleton.1 hmem]
          exact List.mem_append_right _ List.mem_cons_self

theorem calls_prefix (h : Cut b start calls action r) : r.calls <+: calls := by
  cases h with
  | whole h => exact List.prefix_rfl
  | @failed made rest call before e hcalls hmade hfails =>
    refine ⟨rest, ?_⟩
    rw [hcalls]
    exact (List.append_cons made call rest).symm

/-- When the last call is made, everything before it has been made and has succeeded. -/
theorem of_last (h : Cut b start (front ++ [call]) action r) (hmade : call ∈ r.calls)
    (hlate : call ∉ front) :
    r.calls = front ++ [call] ∧ ∃ middle, b.Makes start front middle := by
  refine ⟨?_, h.exists_makes hmade hlate⟩
  rcases List.prefix_concat_iff.1 h.calls_prefix with hall | hbefore
  · exact hall
  · exact absurd (hbefore.subset hmade) hlate

theorem of_makes {last : σ} (h : Cut b start calls action r) (hall : b.Makes start r.calls last) :
    r.calls = calls ∧ r.result = .ok action := by
  cases h with
  | whole h => exact ⟨rfl, rfl⟩
  | failed made hcalls hmade hfails =>
    obtain ⟨middle, hfirst, hlast⟩ := hall.of_append
    cases hlast with
    | cons hcall _ =>
      rw [hfirst.unique hmade, hfails] at hcall
      cases hcall

theorem of_ok {a : Action} (h : Cut b start calls action r) (ha : r.result = .ok a) :
    r.calls = calls ∧ b.Makes start calls r.state ∧ a = action := by
  cases h with
  | whole h => exact ⟨rfl, h, (Except.ok.inj ha).symm⟩
  | failed made hcalls hmade hfails => cases ha

/-- Nothing but a failing call makes a reconcile fail, and the calls before it have succeeded. -/
theorem of_error {e : OperatorError} (h : Cut b start calls action r) (he : r.result = .error e) :
    ∃ made call rest a, calls = made ++ call :: rest ∧ r.calls = made ++ [call] ∧
      b.Makes start made r.state ∧ b.outcome r.state call = .error a ∧ e = .api a := by
  cases h with
  | whole h => cases he
  | failed made hcalls hmade hfails =>
    exact ⟨made, _, _, _, hcalls, rfl, hmade, hfails, (Except.error.inj he).symm⟩

end Cut

/-- Calls that are no listings are made one after the other up to the first failure. -/
theorem Schedule.cut_run (b : Backend σ) (start : σ) (action : Action) {calls : List Call}
    (h : ∀ call ∈ calls, call.isListing = false) :
    Cut b start calls action (run b start action (calls.map .ok)) := by
  induction calls generalizing start with
  | nil => exact .whole (.nil start)
  | cons call more ih =>
    have hcall := Backend.outcome_of_not_listing (b := b) (h call List.mem_cons_self) start
    rw [List.map_cons, run]
    cases hnext : b.perform start call with
    | error e => exact .failed [] rfl (.nil start) (hcall.trans hnext)
    | ok next =>
      exact (ih next fun d hd => h d (List.mem_cons_of_mem call hd)).cons (hcall.trans hnext)

namespace Job

/-! ## The calls when nothing fails -/

def scheduledCalls (ctx : OperatorContext) (j : Job) (ns : String) (pods : List ObservedPod)
    (services : NameSet) (now : Instant) : List Call :=
  let t := j.nextStatus pods now
  if t.isFinished then
    j.cleanup ctx ns
        (.make j.spec.runPolicy.cleanPodPolicy pods services t.terminateActive)
      ++ j.report ctx ns t.status ++ j.expiry ns t.status now
  else
    let plan := ChildPlan.make j.name j.spec pods services t.restart
    j.additions ctx ns plan ++ removals ns plan.deletePods plan.deleteServices
      ++ j.report ctx ns t.status

/-- The calls of a reconcile in which nothing fails. -/
def plannedCalls (ctx : OperatorContext) (j : Job) (ns : String) (pods : List Pod)
    (services : NameSet) (now : Instant) : List Call :=
  match j.refusal? with
  | some why => j.report ctx ns (j.rejected why now)
  | none =>
    [.listPods ns j.childSelector, .listServiceNames ns j.childSelector]
      ++ j.scheduledCalls ctx ns (pods.filterMap ObservedPod.ofPod?) services now

/-- What the reconcile asks for in the end. -/
def plannedAction (ctx : OperatorContext) (j : Job) (ns : String) (pods : List Pod)
    (services : NameSet) (now : Instant) : Action :=
  match j.refusal? with
  | some _ => .await
  | none => (j.schedule ctx ns pods services now).action

theorem cleansUp_cases (h : call.cleansUp = true) :
    call.isListing = false ∧ (∀ ns name s, call ≠ .patchStatus ns name s) ∧
      ∀ ns name, call ≠ .deleteJob ns name := by
  cases call with
  | deletePod ns n => exact ⟨rfl, fun _ _ _ => Call.noConfusion, fun _ _ => Call.noConfusion⟩
  | deleteService ns n => exact ⟨rfl, fun _ _ _ => Call.noConfusion, fun _ _ => Call.noConfusion⟩
  | deletePodGroup ns n => exact ⟨rfl, fun _ _ _ => Call.noConfusion, fun _ _ => Call.noConfusion⟩
  | _ => cases h

theorem isListing_report {status : JobStatus} (h : call ∈ j.report ctx ns status) :
    call.isListing = false := by
  unfold report at h
  split at h
  · cases h
  · rw [List.mem_singleton.1 h]
    rfl

theorem isListing_removals {pods services : List String} (h : call ∈ removals ns pods services) :
    call.isListing = false := by
  simp only [removals, List.mem_append, List.mem_map] at h
  rcases h with ⟨n, -, rfl⟩ | ⟨n, -, rfl⟩ <;> rfl

theorem isListing_additions {plan : ChildPlan} (h : call ∈ j.additions ctx ns plan) :
    call.isListing = false := by
  simp only [additions, groupCalls, List.mem_append, List.mem_map] at h
  rcases h with (⟨g, -, rfl⟩ | ⟨r, -, rfl⟩) | ⟨r, -, rfl⟩ <;> rfl

theorem isListing_expiry {status : JobStatus} (h : call ∈ j.expiry ns status now) :
    call.isListing = false := by
  unfold expiry at h
  split at h
  · rw [List.mem_singleton.1 h]
    rfl
  · cases h

theorem isListing_scheduledCalls {pods : List ObservedPod} {services : NameSet}
    (h : call ∈ j.scheduledCalls ctx ns pods services now) : call.isListing = false := by
  unfold scheduledCalls at h
  dsimp only at h
  split at h
  · rcases List.mem_append.1 h with h | h
    · rcases List.mem_append.1 h with h | h
      · exact (cleansUp_cases (cleansUp_of_mem_cleanup h)).1
      · exact isListing_report h
    · exact isListing_expiry h
  · rcases List.mem_append.1 h with h | h
    · rcases List.mem_append.1 h with h | h
      · exact isListing_additions h
      · exact isListing_removals h
    · exact isListing_report h

section Planned

variable (hns : j.namespace? = some ns) (hserved : ctx.servedVersion.check = .ok ())

include hns hserved

theorem steps_schedule (pods : List Pod) (services : NameSet) (now : Instant) :
    (j.schedule ctx ns pods services now).steps =
      (j.scheduledCalls ctx ns (pods.filterMap ObservedPod.ofPod?) services now).map .ok := by
  unfold schedule scheduledCalls
  dsimp only
  split
  · exact steps_finishedSchedule hserved _ _ _ now
  · exact steps_unfinishedSchedule hns hserved _ _ _ now

/-- Whatever the cluster does, a reconcile makes the planned calls up to the first that fails. -/
theorem cut_reconcile (halive : j.metadata.deletionTimestamp = none) {pods : List Pod}
    {services : NameSet}
    (hpods : ∀ found, b.listPods start ns j.childSelector = .ok found → found = pods)
    (hservices : ∀ found, b.listServiceNames start ns j.childSelector = .ok found →
      found = services) :
    Cut b start (j.plannedCalls ctx ns pods services now)
      (j.plannedAction ctx ns pods services now) (j.reconcile b ctx start now) := by
  have hdelete : j.metadata.deletionTimestamp.isSome = false := by rw [halive]; rfl
  unfold reconcile plannedCalls plannedAction
  simp only [hdelete, Bool.false_eq_true, if_false, hns]
  cases hrefusal : j.refusal? with
  | some why =>
    simp only [reportSteps_eq hserved]
    exact Schedule.cut_run b start .await fun call hcall => isListing_report hcall
  | none =>
    dsimp only
    cases hfound : b.listPods start ns j.childSelector with
    | error e =>
      refine .failed [] rfl (.nil start) ?_
      simp only [Backend.outcome, hfound, Except.map]
    | ok found =>
    obtain rfl := hpods found hfound
    have hlistPods : b.outcome start (.listPods ns j.childSelector) = .ok start := by
      simp only [Backend.outcome, hfound, Except.map]
    dsimp only
    cases hnames : b.listServiceNames start ns j.childSelector with
    | error e =>
      refine .failed [.listPods ns j.childSelector] rfl (.cons hlistPods (.nil start)) ?_
      simp only [Backend.outcome, hnames, Except.map]
    | ok names =>
    obtain rfl := hservices names hnames
    have hlistServices : b.outcome start (.listServiceNames ns j.childSelector) = .ok start := by
      simp only [Backend.outcome, hnames, Except.map]
    dsimp only
    rw [steps_schedule hns hserved]
    refine .cons hlistPods (.cons hlistServices (Schedule.cut_run b start _ fun call hcall => ?_))
    exact isListing_scheduledCalls hcall

end Planned

theorem plannedCalls_of_goesOn {pods : List Pod} {services : NameSet} (hok : j.refusal? = none)
    (hgoesOn : (j.nextStatus (pods.filterMap ObservedPod.ofPod?) now).isFinished = false) :
    let t := j.nextStatus (pods.filterMap ObservedPod.ofPod?) now
    let plan := ChildPlan.make j.name j.spec (pods.filterMap ObservedPod.ofPod?) services t.restart
    j.plannedCalls ctx ns pods services now =
      [.listPods ns j.childSelector, .listServiceNames ns j.childSelector]
        ++ (j.additions ctx ns plan ++ removals ns plan.deletePods plan.deleteServices
          ++ j.report ctx ns t.status) := by
  intro t plan
  simp only [plannedCalls, hok]
  exact congrArg _ (if_neg (Bool.eq_false_iff.1 hgoesOn))

theorem plannedCalls_of_finishes {pods : List Pod} {services : NameSet} (hok : j.refusal? = none)
    (hends : (j.nextStatus (pods.filterMap ObservedPod.ofPod?) now).isFinished = true) :
    let t := j.nextStatus (pods.filterMap ObservedPod.ofPod?) now
    let cleanup := j.cleanup ctx ns (.make j.spec.runPolicy.cleanPodPolicy
      (pods.filterMap ObservedPod.ofPod?) services t.terminateActive)
    j.plannedCalls ctx ns pods services now =
      [.listPods ns j.childSelector, .listServiceNames ns j.childSelector]
        ++ (cleanup ++ j.report ctx ns t.status ++ j.expiry ns t.status now) := by
  intro t cleanup
  simp only [plannedCalls, hok]
  exact congrArg _ (if_pos hends)

/-- The decision about a job is reported, whether it ends the job or not. -/
theorem report_subset_plannedCalls {pods : List Pod} {services : NameSet}
    (hok : j.refusal? = none) :
    j.report ctx ns (j.nextStatus (pods.filterMap ObservedPod.ofPod?) now).status ⊆
      j.plannedCalls ctx ns pods services now := by
  intro call hcall
  cases hends : (j.nextStatus (pods.filterMap ObservedPod.ofPod?) now).isFinished with
  | true =>
    rw [plannedCalls_of_finishes hok hends]
    exact List.mem_append_right _ (List.mem_append_left _ (List.mem_append_right _ hcall))
  | false =>
    rw [plannedCalls_of_goesOn hok hends]
    exact List.mem_append_right _ (List.mem_append_right _ hcall)

end Job

/-! ## What a failing call leaves undone -/

/-- When a job is looked at again after a reconcile. -/
def OperatorContext.nextLook (ctx : OperatorContext) (r : Reconciled σ) : Action :=
  match r.result with
  | .ok action => action
  | .error _ => ctx.afterError

theorem Cut.of_unfailing {pods : List Pod} {services : NameSet} {action : Action}
    {r : Reconciled Unit} (h : Cut (.unfailing pods services) () calls action r) :
    r.calls = calls ∧ r.result = .ok action :=
  h.of_makes (Backend.makes_unfailing pods services r.calls)

section Ends

variable {action : Action} {r : Reconciled σ} {plan : CleanupPlan} {status : JobStatus}
  (hcut : Cut b start ([.listPods ns j.childSelector, .listServiceNames ns j.childSelector]
    ++ (j.cleanup ctx ns plan ++ j.report ctx ns status ++ j.expiry ns status now)) action r)

include hcut

/-- A job that has ended is reported only after its cleanup has succeeded. -/
theorem Job.makes_cleanup_of_reported {ns' name : String} {s : JobStatus}
    (hpatch : .patchStatus ns' name s ∈ r.calls) :
    ∃ middle, b.Makes start ([.listPods ns j.childSelector, .listServiceNames ns j.childSelector]
      ++ j.cleanup ctx ns plan) middle := by
  rw [List.append_assoc (j.cleanup ctx ns plan), ← List.append_assoc] at hcut
  refine hcut.exists_makes hpatch fun hmem => ?_
  rcases List.mem_append.1 hmem with hlisting | hclean
  · simp at hlisting
  · exact (cleansUp_cases (cleansUp_of_mem_cleanup hclean)).2.1 ns' name s rfl

theorem Job.makes_report_of_deleted {ns' name : String} (hdelete : .deleteJob ns' name ∈ r.calls) :
    ∃ middle, b.Makes start ([.listPods ns j.childSelector, .listServiceNames ns j.childSelector]
      ++ j.cleanup ctx ns plan ++ j.report ctx ns status) middle := by
  rw [← List.append_assoc, ← List.append_assoc] at hcut
  refine hcut.exists_makes hdelete fun hmem => ?_
  rcases List.mem_append.1 hmem with hbefore | hreport
  · rcases List.mem_append.1 hbefore with hlisting | hclean
    · simp at hlisting
    · exact (cleansUp_cases (cleansUp_of_mem_cleanup hclean)).2.2 ns' name rfl
  · unfold Job.report at hreport
    split at hreport
    · cases hreport
    · cases List.mem_singleton.1 hreport

end Ends

/-- **A failing call cuts a reconcile off.** Whatever the cluster lists and whichever calls fail on
it, a reconcile of a job that is not being deleted makes the calls that it would make if nothing
failed, up to and including the first that fails, and the error of that call is its own. These calls
are: a report at most for a refused job; the listings, what is added, what is removed and a report
for one that goes on; the listings, the cleanup, a report and the deletion of the job for one that
has ended. So a job that has ended is reported only after all of its cleanup has succeeded, and
deleted only after its report has. A reconcile that fails is repeated after the time for errors. -/
theorem Job.reconcile_cut_off (hns : j.namespace? = some ns)
    (halive : j.metadata.deletionTimestamp = none) (hserved : ctx.servedVersion.check = .ok ())
    {pods : List Pod} {services : NameSet}
    (hpods : ∀ found, b.listPods start ns j.childSelector = .ok found → found = pods)
    (hservices : ∀ found, b.listServiceNames start ns j.childSelector = .ok found →
      found = services) :
    let whole := j.reconcile (.unfailing pods services) ctx () now
    let r := j.reconcile b ctx start now
    let observed := pods.filterMap ObservedPod.ofPod?
    let t := j.nextStatus observed now
    let listings := [.listPods ns j.childSelector, .listServiceNames ns j.childSelector]
    let plan := ChildPlan.make j.name j.spec observed services t.restart
    let cleanup := j.cleanup ctx ns
      (.make j.spec.runPolicy.cleanPodPolicy observed services t.terminateActive)
    (∃ action, whole.result = .ok action ∧ Cut b start whole.calls action r) ∧
    (∀ why, j.refusal? = some why → whole.calls = j.report ctx ns (j.rejected why now)) ∧
    (j.refusal? = none → t.isFinished = false →
      whole.calls = listings ++ (j.additions ctx ns plan
        ++ removals ns plan.deletePods plan.deleteServices ++ j.report ctx ns t.status) ∧
      (ctx.options.gangScheduler = .none → j.groupCalls ctx ns = [])) ∧
    (j.refusal? = none → t.isFinished = true →
      whole.calls = listings ++ (cleanup ++ j.report ctx ns t.status ++ j.expiry ns t.status now) ∧
      (∀ ns' name s, .patchStatus ns' name s ∈ r.calls →
        ∃ middle, b.Makes start (listings ++ cleanup) middle) ∧
      (∀ ns' name, .deleteJob ns' name ∈ r.calls →
        ∃ middle, b.Makes start (listings ++ cleanup ++ j.report ctx ns t.status) middle)) ∧
    (∀ a, r.result = .ok a → r.calls = whole.calls ∧ b.Makes start whole.calls r.state) ∧
    (∀ e, r.result = .error e →
      (∃ a, e = .api a) ∧ ctx.nextLook r = .requeue ctx.options.errorRequeue) := by
  intro whole r observed t listings plan cleanup
  have hcut : Cut b start (j.plannedCalls ctx ns pods services now)
      (j.plannedAction ctx ns pods services now) r :=
    cut_reconcile hns hserved halive hpods hservices
  obtain ⟨hcalls, hresult⟩ : whole.calls = j.plannedCalls ctx ns pods services now ∧
      whole.result = .ok (j.plannedAction ctx ns pods services now) :=
    (cut_reconcile hns hserved halive (fun _ h => (Except.ok.inj h).symm)
      fun _ h => (Except.ok.inj h).symm).of_unfailing
  refine ⟨⟨_, hresult, hcalls ▸ hcut⟩, fun why hwhy => ?_, fun hok hgoesOn => ⟨?_, fun hgang => ?_⟩,
    fun hok hends => ?_, fun a ha => ?_, fun e he => ?_⟩
  · rw [hcalls]
    simp only [plannedCalls, hwhy]
  · exact hcalls.trans (plannedCalls_of_goesOn hok hgoesOn)
  · unfold groupCalls PodGroup.ofJob?
    rw [hgang]
    rfl
  · have hends' : j.plannedCalls ctx ns pods services now =
        listings ++ (cleanup ++ j.report ctx ns t.status ++ j.expiry ns t.status now) :=
      plannedCalls_of_finishes hok hends
    rw [hends'] at hcut
    exact ⟨hcalls.trans hends', fun _ _ _ hpatch => makes_cleanup_of_reported hcut hpatch,
      fun _ _ hdelete => makes_report_of_deleted hcut hdelete⟩
  · obtain ⟨hall, hmakes, -⟩ := hcut.of_ok ha
    rw [hcalls]
    exact ⟨hall, hmakes⟩
  · obtain ⟨-, -, -, a, -, -, -, -, rfl⟩ := hcut.of_error he
    refine ⟨⟨a, rfl⟩, ?_⟩
    unfold OperatorContext.nextLook
    rw [he]
    rfl

/-- A job of one worker that has succeeded, all of whose pods and services are to go. -/
def doneCluster : Cluster :=
  let job : Job := {
    metadata := { name := some "mnist", namespace_ := some "ml" }
    spec := {
      replicaSpecs := Dict.ofList
        [("Worker", { template := { spec := some { containers := [{ name := "trainer" }] } } })]
      runPolicy := { cleanPodPolicy := .all } } }
  let worker := { job.childPod .none ("Worker", 0) with
    status := some { phase := some "Succeeded" } }
  ({ job := job, services := NameSet.ofNames ["mnist-worker-0"] } : Cluster).addPod worker

/-- No service can be deleted. -/
def servicesStay : Call → Option ApiError
  | .deleteService .. => some (.refused ⟨403, "Forbidden", "no"⟩)
  | _ => none

/-- Without the deletion of its service the job is not reported. -/
theorem Job.reconcile_cut_off_servicesStay :
    let c := doneCluster
    let b := Cluster.failing servicesStay
    let ctx := Cluster.plainContext
    let now := Instant.ofSeconds 1714557605
    let whole := c.job.reconcile (.unfailing c.pods.values c.services) ctx () now
    let r := c.job.reconcile b ctx c now
    (c.job.namespace? = some "ml" ∧ c.job.metadata.deletionTimestamp = none ∧
      ctx.servedVersion.check = .ok () ∧
      (∀ found, b.listPods c "ml" c.job.childSelector = .ok found → found = c.pods.values) ∧
      (∀ found, b.listServiceNames c "ml" c.job.childSelector = .ok found →
        found = c.services)) ∧
    (∃ action, whole.result = .ok action ∧ Cut b c whole.calls action r) ∧
    whole.calls.map Call.label = ["list_pods", "list_service_names", "delete_pod",
      "delete_service", "patch_status"] ∧
    r.calls.map Call.label = ["list_pods", "list_service_names", "delete_pod",
      "delete_service"] := by
  intro c b ctx now whole r
  have hserved : ctx.servedVersion.check = .ok () := if_pos (by decide)
  have hpods : ∀ found, b.listPods c "ml" c.job.childSelector = .ok found →
      found = c.pods.values := fun _ h => (Except.ok.inj h).symm
  have hservices : ∀ found, b.listServiceNames c "ml" c.job.childSelector = .ok found →
      found = c.services := fun _ h => (Except.ok.inj h).symm
  exact ⟨⟨rfl, rfl, hserved, hpods, hservices⟩,
    (Job.reconcile_cut_off rfl rfl hserved hpods hservices).1, by decide, by decide⟩

end TrainingJobs
