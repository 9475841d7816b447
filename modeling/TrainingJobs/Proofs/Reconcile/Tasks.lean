import TrainingJobs.Proofs.Reconcile.Belongings
import TrainingJobs.Proofs.Reconcile.Convergence

/-!
# Reconciles call by call

The reconciles of several jobs are under way at the same time. A `Task` is a reconcile that has
come so far; each `step` of it makes one call, and other things may happen between two of them. A
task that is stepped to its end without anything in between does what the reconcile does
(`runs_reconcile`). `Task.Within` says what the calls that are still to come may name, and a step
preserves it (`Within.step`).
-/

namespace TrainingJobs

/-- What a reconcile under way does next. -/
inductive Next where
  | listPods (ns : String)
  | listServices (ns : String) (pods : List Pod)
  | make (call : Call) (rest : List (Except OperatorError Call)) (action : Action)
  | done (result : Except OperatorError Action)

/-- Go through a schedule. -/
def Next.ofSteps (action : Action) : List (Except OperatorError Call) → Next
  | [] => .done (.ok action)
  | .error e :: _ => .done (.error e)
  | .ok call :: rest => .make call rest action

structure Task where
  ctx : OperatorContext
  job : Job
  now : Instant
  next : Next

namespace Task

def start (ctx : OperatorContext) (j : Job) (now : Instant) : Task where
  ctx := ctx
  job := j
  now := now
  next :=
    if j.metadata.deletionTimestamp.isSome then .done (.ok .await)
    else
      match j.namespace? with
      | none => .done (.error .missingNamespace)
      | some ns =>
        match j.refusal? with
        | some why => .ofSteps .await (j.reportSteps ctx ns (j.rejected why now))
        | none => .listPods ns

variable {σ : Type}

/-- Make the next call, if there is one. -/
def step (b : Backend σ) (state : σ) (t : Task) : Option (Call × σ × Task) :=
  match t.next with
  | .listPods ns =>
    let next := match b.listPods state ns t.job.childSelector with
      | .error e => .done (.error (.api e))
      | .ok pods => .listServices ns pods
    some (.listPods ns t.job.childSelector, state, { t with next := next })
  | .listServices ns pods =>
    let next := match b.listServiceNames state ns t.job.childSelector with
      | .error e => .done (.error (.api e))
      | .ok services =>
        let s := t.job.schedule t.ctx ns pods services t.now
        .ofSteps s.action s.steps
    some (.listServiceNames ns t.job.childSelector, state, { t with next := next })
  | .make call rest action =>
    match b.perform state call with
    | .error e => some (call, state, { t with next := .done (.error (.api e)) })
    | .ok after => some (call, after, { t with next := .ofSteps action rest })
  | .done _ => none

theorem step_eq_none {τ : Type} {b : Backend σ} {state : σ} {t : Task} (h : t.step b state = none)
    {b' : Backend τ} {state' : τ} : t.step b' state' = none := by
  obtain ⟨ctx, j, now, next⟩ := t
  cases next with
  | listPods ns => cases h
  | listServices ns pods => cases h
  | make call rest action =>
    simp only [step] at h
    split at h <;> cases h
  | done result => rfl

/-- Steps with nothing in between, and the calls that they make. -/
inductive Runs (b : Backend σ) : σ → Task → List Call → σ → Task → Prop
  | refl (state : σ) (t : Task) : Runs b state t [] state t
  | step {state after last : σ} {t u v : Task} {call : Call} {calls : List Call}
      (h : t.step b state = some (call, after, u)) :
      Runs b after u calls last v → Runs b state t (call :: calls) last v

/-! ## A task is a reconcile -/

theorem runs_schedule (b : Backend σ) (state : σ) (t : Task) (action : Action)
    (steps : List (Except OperatorError Call)) :
    let r := Schedule.run b state action steps
    Runs b state { t with next := .ofSteps action steps } r.calls r.state
      { t with next := .done r.result } := by
  induction steps generalizing state with
  | nil => exact .refl _ _
  | cons step rest ih =>
    cases step with
    | error e => exact .refl _ _
    | ok call =>
      simp only [Schedule.run, Next.ofSteps]
      cases hperform : b.perform state call with
      | error e =>
        refine .step (u := { t with next := .done (.error (.api e)) }) ?_ (.refl _ _)
        simp only [Task.step, hperform]
      | ok after =>
        refine .step (u := { t with next := .ofSteps action rest }) ?_ (ih after)
        simp only [Task.step, hperform]

/-- Stepped to its end without anything in between, a task makes the calls of the reconcile and
leaves its state and its result. -/
theorem runs_reconcile (b : Backend σ) (ctx : OperatorContext) (j : Job) (state : σ)
    (now : Instant) :
    let r := j.reconcile b ctx state now
    Runs b state (start ctx j now) r.calls r.state
      { start ctx j now with next := .done r.result } := by
  intro r
  have hr : j.reconcile b ctx state now = r := rfl
  unfold Job.reconcile at hr
  split at hr
  next hdeleted =>
    rw [← hr]
    simp only [start, if_pos hdeleted]
    exact .refl _ _
  next halive =>
  split at hr
  next hns =>
    rw [← hr]
    simp only [start, if_neg halive, hns]
    exact .refl _ _
  next ns hns =>
  split at hr
  next why hwhy =>
    rw [← hr]
    simp only [start, if_neg halive, hns, hwhy]
    exact runs_schedule b state (start ctx j now) .await _
  next hok =>
  have hstart : start ctx j now = { start ctx j now with next := .listPods ns } := by
    simp only [start, if_neg halive, hns, hok]
  rw [hstart]
  dsimp only at hr
  split at hr
  next e hpods =>
    rw [← hr]
    refine .step ?_ (.refl _ _)
    simp only [step, start, hpods]
  next pods hpods =>
  have hfirst : ({ start ctx j now with next := .listPods ns } : Task).step b state =
      some (.listPods ns j.childSelector, state,
        { start ctx j now with next := .listServices ns pods }) := by
    simp only [step, start, hpods]
  split at hr
  next e hservices =>
    rw [← hr]
    refine .step hfirst (.step ?_ (.refl _ _))
    simp only [step, start, hservices]
  next services hservices =>
    rw [← hr]
    let s := j.schedule ctx ns pods services now
    refine .step hfirst (.step ?_ (runs_schedule b state (start ctx j now) s.action s.steps))
    simp only [step, start, hservices, s]

end Task

/-! ## What a task may still name -/

/-- The metadata name the job by their label. -/
def ObjectMeta.BelongsTo (m : ObjectMeta) (job : String) : Prop :=
  (m.labels.getD Dict.empty).get? Label.jobName = some job

instance (m : ObjectMeta) (job : String) : Decidable (m.BelongsTo job) :=
  inferInstanceAs (Decidable (_ = _))

theorem ObjectMeta.IsChildOf.belongsTo {m : ObjectMeta} {j : Job} {ns type : String} {i : Int32}
    (h : m.IsChildOf j ns type i) : m.BelongsTo j.name := by
  obtain ⟨labels, hlabels, hcarried, -⟩ := h.labelled
  rw [BelongsTo, hlabels]
  exact hcarried _ _ (Selector.get?_jobLabels_jobName j.name)

theorem ObjectMeta.IsChildOf.mem_declaredNames {m : ObjectMeta} {j : Job} {ns type : String}
    {i : Int32} (h : m.IsChildOf j ns type i) : m.displayName ∈ j.spec.declaredNames j.name := by
  obtain ⟨r, hr⟩ := h.declared
  rw [JobSpec.mem_declaredNames_iff]
  refine ⟨(type, i), JobSpec.mem_declaredReplicas_iff.2 ⟨r, hr⟩, ?_⟩
  rw [displayName, h.name]
  rfl

/-- What is left to the reconciles of a job: the names of the children that they may make, and of
the pods and the services that they may delete. -/
structure Domain where
  job : String
  declared : String → Prop
  pods : String → Prop
  services : String → Prop

/-- What the call makes is named and labelled for the job, what it deletes may be deleted, and a
report is about the job. -/
def Call.Within (d : Domain) : Call → Prop
  | createPod _ p => d.declared p.metadata.displayName ∧ p.metadata.BelongsTo d.job
  | createService _ s => d.declared s.metadata.displayName ∧ s.metadata.BelongsTo d.job
  | deletePod _ n => d.pods n
  | deleteService _ n => d.services n
  | patchStatus _ n _ => n = d.job
  | listPods .. | listServiceNames .. | applyPodGroup .. | deletePodGroup .. | deleteJob .. => True

/-- So are all calls of a schedule, and the pods that were listed may be deleted. -/
def Next.Within (d : Domain) (j : Job) : Next → Prop
  | listPods ns => j.namespace? = some ns
  | listServices ns pods => j.namespace? = some ns ∧ ∀ p ∈ pods, d.pods p.metadata.displayName
  | make call rest _ => call.Within d ∧ ∀ c, .ok c ∈ rest → c.Within d
  | done _ => True

/-- The task is a reconcile of the job and keeps to what is left to it. -/
structure Task.Within (d : Domain) (t : Task) : Prop where
  job : t.job.name = d.job
  declared : ∀ n ∈ t.job.spec.declaredNames t.job.name, d.declared n
  next : t.next.Within d t.job

section Within

variable {d : Domain} {j : Job} {c : Call} {ns : String} {action : Action}
  {steps : List (Except OperatorError Call)}

theorem Next.within_ofSteps (h : ∀ c, .ok c ∈ steps → c.Within d) :
    (ofSteps action steps).Within d j := by
  cases steps with
  | nil => trivial
  | cons step rest =>
    cases step with
    | error e => trivial
    | ok call => exact ⟨h call List.mem_cons_self, fun c hc => h c (List.mem_cons_of_mem _ hc)⟩

namespace Job

variable {ctx : OperatorContext} {status : JobStatus} {pods : List Pod} {services : NameSet}
  {now : Instant}

theorem within_reportSteps (hname : j.name = d.job) (h : .ok c ∈ j.reportSteps ctx ns status) :
    c.Within d := by
  rw [(mem_reportSteps h).1]
  exact hname

/-- What is planned keeps to the names of the job and to what was listed. -/
theorem within_schedule (hname : j.name = d.job)
    (hdeclared : ∀ n ∈ j.spec.declaredNames j.name, d.declared n) (hns : j.namespace? = some ns)
    (hpods : ∀ p ∈ pods, d.pods p.metadata.displayName)
    (hservices : ∀ n ∈ services.keys, d.services n)
    (h : .ok c ∈ (j.schedule ctx ns pods services now).steps) : c.Within d := by
  -- the listings are those of a cluster that always lists these pods and services
  have htouches : c.Touches (Backend.unfailing pods services) () j ns := by
    unfold schedule at h
    dsimp only at h
    split at h
    · exact touches_finishedSchedule rfl rfl h
    · exact touches_unfinishedSchedule rfl rfl hns h
  cases c with
  | createPod ns' p =>
    obtain ⟨-, -, type, i, -, hchild, -⟩ := htouches
    exact ⟨hdeclared _ hchild.mem_declaredNames, hname ▸ hchild.belongsTo⟩
  | createService ns' s =>
    obtain ⟨-, -, type, i, -, hchild, -⟩ := htouches
    exact ⟨hdeclared _ hchild.mem_declaredNames, hname ▸ hchild.belongsTo⟩
  | deletePod ns' n =>
    obtain ⟨-, listed, hlisted, p, hp, -, rfl⟩ := htouches
    obtain rfl : pods = listed := Except.ok.inj hlisted
    exact hpods p hp
  | deleteService ns' n =>
    obtain ⟨-, listed, hlisted, hn⟩ := htouches
    obtain rfl : services = listed := Except.ok.inj hlisted
    exact hservices n hn
  | patchStatus ns' n s => exact htouches.2.trans hname
  | _ => trivial

end Job

namespace Task

variable {σ : Type} {b : Backend σ} {state after : σ} {t u : Task} {ctx : OperatorContext}
  {now : Instant}

theorem within_start (hname : j.name = d.job)
    (hdeclared : ∀ n ∈ j.spec.declaredNames j.name, d.declared n) :
    (start ctx j now).Within d where
  job := hname
  declared := hdeclared
  next := by
    unfold start
    dsimp only
    split
    · trivial
    split
    · trivial
    next ns hns =>
    split
    · exact Next.within_ofSteps fun c hc => Job.within_reportSteps hname hc
    · exact hns

/-- A step keeps to the domain of its task if what it lists may be deleted. -/
theorem Within.step (h : t.Within d) (hstep : t.step b state = some (c, after, u))
    (hpods : ∀ ns pods, b.listPods state ns t.job.childSelector = .ok pods →
      ∀ p ∈ pods, d.pods p.metadata.displayName)
    (hservices : ∀ ns services, b.listServiceNames state ns t.job.childSelector = .ok services →
      ∀ n ∈ services.keys, d.services n) : c.Within d ∧ u.Within d := by
  obtain ⟨ctx, j, now, next⟩ := t
  obtain ⟨hname, hdeclared, hnext⟩ := h
  cases next with
  | listPods ns =>
    obtain ⟨rfl, -, rfl⟩ := Option.some.inj hstep
    refine ⟨trivial, hname, hdeclared, ?_⟩
    dsimp only
    split
    · trivial
    next pods hlisted => exact ⟨hnext, hpods ns pods hlisted⟩
  | listServices ns pods =>
    obtain ⟨rfl, -, rfl⟩ := Option.some.inj hstep
    refine ⟨trivial, hname, hdeclared, ?_⟩
    dsimp only
    split
    · trivial
    next services hlisted =>
      exact Next.within_ofSteps fun c hc => Job.within_schedule hname hdeclared hnext.1 hnext.2
        (hservices ns services hlisted) hc
  | make call rest action =>
    simp only [Task.step] at hstep
    split at hstep
    · obtain ⟨rfl, -, rfl⟩ := Option.some.inj hstep
      exact ⟨hnext.1, hname, hdeclared, trivial⟩
    · obtain ⟨rfl, -, rfl⟩ := Option.some.inj hstep
      exact ⟨hnext.1, hname, hdeclared, Next.within_ofSteps hnext.2⟩
  | done result => cases hstep

theorem Within.mono {d' : Domain} (h : t.Within d) (hjob : d'.job = d.job)
    (hdeclared : ∀ n, d.declared n → d'.declared n) (hpods : ∀ n, d.pods n → d'.pods n)
    (hservices : ∀ n, d.services n → d'.services n) : t.Within d' := by
  have hcall : ∀ c : Call, c.Within d → c.Within d' := by
    intro c hc
    cases c with
    | createPod ns p => exact ⟨hdeclared _ hc.1, hjob ▸ hc.2⟩
    | createService ns s => exact ⟨hdeclared _ hc.1, hjob ▸ hc.2⟩
    | deletePod ns n => exact hpods n hc
    | deleteService ns n => exact hservices n hc
    | patchStatus ns n s => exact hc.trans hjob.symm
    | _ => trivial
  obtain ⟨hname, hall, hnext⟩ := h
  refine ⟨hname.trans hjob.symm, fun n hn => hdeclared n (hall n hn), ?_⟩
  obtain ⟨ctx, j, now, next⟩ := t
  cases next with
  | listPods ns => exact hnext
  | listServices ns pods => exact ⟨hnext.1, fun p hp => hpods _ (hnext.2 p hp)⟩
  | make call rest action => exact ⟨hcall call hnext.1, fun c hc => hcall c (hnext.2 c hc)⟩
  | done result => trivial

end Task

end Within

end TrainingJobs
