import TrainingJobs.Operator.Reconcile

/-!
# The calls of a reconcile

A schedule is made from its beginning, so the calls made are its first steps. `mem_calls_reconcile`
sorts every call of a reconcile: it reports a refusal, it is one of the two listings, or it is a
step of the schedule that follows them. The steps of the schedules are sorted in turn by
`mem_steps_finishedSchedule` and `mem_steps_unfinishedSchedule`. What is reported is the `decision`
of the reconcile (`reported_of_mem_calls`), and what a reconcile without errors asks for is told by
`result_reconcile`.
-/

namespace TrainingJobs

variable {σ : Type} {b : Backend σ} {state : σ} {ctx : OperatorContext} {j : Job}
  {ns : String} {now : Instant} {c : Call}

namespace Schedule

/-- The calls made are the first steps of the schedule. -/
theorem run_calls_initial (b : Backend σ) (state : σ) (action : Action)
    (steps : List (Except OperatorError Call)) :
    (run b state action steps).calls.map .ok <+: steps := by
  induction steps generalizing state with
  | nil => exact List.nil_prefix
  | cons step rest ih =>
    cases step with
    | error e => exact List.nil_prefix
    | ok call =>
      simp only [run]
      cases b.perform state call with
      | error e => exact (List.prefix_cons_inj _).2 List.nil_prefix
      | ok next => exact (List.prefix_cons_inj _).2 (ih next)

theorem mem_steps_of_mem_calls {action : Action} {steps : List (Except OperatorError Call)}
    (h : c ∈ (run b state action steps).calls) : .ok c ∈ steps :=
  (run_calls_initial b state action steps).subset (List.mem_map_of_mem h)

theorem mem_front_of_mem_calls {action : Action} {front rest : List (Except OperatorError Call)}
    {e : OperatorError} (h : c ∈ (run b state action (front ++ .error e :: rest)).calls) :
    .ok c ∈ front := by
  induction front generalizing state with
  | nil => cases h
  | cons step more ih =>
    cases step with
    | error e => cases h
    | ok call =>
      simp only [List.cons_append, run] at h
      split at h
      · rw [List.mem_singleton.1 h]
        exact List.mem_cons_self
      · rcases List.mem_cons.1 h with rfl | h
        · exact List.mem_cons_self
        · exact List.mem_cons_of_mem _ (ih h)

theorem action_of_run {a action : Action} {steps : List (Except OperatorError Call)}
    (h : (run b state action steps).result = .ok a) : a = action := by
  induction steps generalizing state with
  | nil => exact (Except.ok.inj h).symm
  | cons step rest ih =>
    cases step with
    | error e => cases h
    | ok call =>
      simp only [run] at h
      split at h
      · cases h
      next next _ => exact ih h

end Schedule

namespace Job

/-- A report is one call at most: it hands in the reported status, which the job does not carry
yet. -/
theorem mem_reportSteps {status : JobStatus} (h : .ok c ∈ j.reportSteps ctx ns status) :
    c = .patchStatus ns j.name (j.reported ctx status) ∧
      j.status ≠ some (j.reported ctx status) := by
  unfold reportSteps at h
  split at h
  · simp at h
  · dsimp only at h
    split at h
    · simp at h
    next hne => exact ⟨by simpa using h, hne⟩

theorem served_of_mem_reportSteps {status : JobStatus} (h : .ok c ∈ j.reportSteps ctx ns status) :
    ctx.servedVersion.check = .ok () := by
  unfold reportSteps at h
  split at h
  · simp at h
  next hserved => exact hserved

theorem mem_steps_finishedSchedule {pods : List ObservedPod} {services : NameSet}
    {t : Transition} (h : .ok c ∈ (j.finishedSchedule ctx ns pods services t now).steps) :
    let plan := CleanupPlan.make j.spec.runPolicy.cleanPodPolicy pods services t.terminateActive
    (∃ n ∈ plan.deletePods, c = .deletePod ns n) ∨
      (∃ n ∈ plan.deleteServices, c = .deleteService ns n) ∨
      c = .deletePodGroup ns j.name ∨
      .ok c ∈ j.reportSteps ctx ns t.status ∨
      c = .deleteJob ns j.name := by
  intro plan
  have hgroup : ∀ s : List (Except OperatorError Call), .ok c ∈ s →
      s = (if ctx.options.gangScheduler = .none then []
        else [.ok (.deletePodGroup ns j.name)]) → c = .deletePodGroup ns j.name := by
    rintro s hs rfl
    split at hs
    · simp at hs
    · simpa using hs
  -- the three endings differ only in whether the job itself is deleted
  have hsteps : .ok c ∈ plan.deletePods.map (fun n => Except.ok (Call.deletePod ns n))
        ++ plan.deleteServices.map (fun n => .ok (Call.deleteService ns n))
        ++ (if ctx.options.gangScheduler = .none then [] else [.ok (.deletePodGroup ns j.name)])
        ++ j.reportSteps ctx ns t.status ∨ c = .deleteJob ns j.name := by
    simp only [finishedSchedule] at h
    split at h
    · split at h
      · rcases List.mem_append.1 h with h | h
        · exact .inl h
        · exact .inr (by simpa using h)
      · exact .inl h
    · exact .inl h
  rcases hsteps with hsteps | hjob
  · simp only [List.mem_append, List.mem_map, Except.ok.injEq] at hsteps
    rcases hsteps with ((⟨n, hn, rfl⟩ | ⟨n, hn, rfl⟩) | hg) | hr
    · exact .inl ⟨n, hn, rfl⟩
    · exact .inr (.inl ⟨n, hn, rfl⟩)
    · exact .inr (.inr (.inl (hgroup _ hg rfl)))
    · exact .inr (.inr (.inr (.inl hr)))
  · exact .inr (.inr (.inr (.inr hjob)))

theorem mem_steps_unfinishedSchedule {pods : List ObservedPod} {services : NameSet}
    {t : Transition} (h : .ok c ∈ (j.unfinishedSchedule ctx ns pods services t now).steps) :
    let plan := ChildPlan.make j.name j.spec pods services t.restart
    (∃ g ∈ PodGroup.ofJob? j ctx.options.gangScheduler, c = .applyPodGroup ns g) ∨
      (∃ r ∈ plan.createServices, ∃ s, Replica.service j r.1 r.2 = .ok s ∧
        c = .createService ns s) ∨
      (∃ r ∈ plan.createPods, ∃ p, Replica.pod j r.1 r.2 ctx.options.gangScheduler = .ok p ∧
        c = .createPod ns p) ∨
      (∃ n ∈ plan.deletePods, c = .deletePod ns n) ∨
      (∃ n ∈ plan.deleteServices, c = .deleteService ns n) ∨
      .ok c ∈ j.reportSteps ctx ns t.status := by
  intro plan
  simp only [unfinishedSchedule, List.mem_append, List.mem_map, Except.ok.injEq,
    Option.mem_toList] at h
  rcases h with ((((⟨g, hg, rfl⟩ | ⟨r, hr, hs⟩) | ⟨r, hr, hp⟩) | ⟨n, hn, rfl⟩) | ⟨n, hn, rfl⟩) | h
  · exact .inl ⟨g, hg, rfl⟩
  · cases hs' : Replica.service j r.1 r.2 with
    | error e => rw [hs'] at hs; cases hs
    | ok s =>
      rw [hs'] at hs
      cases hs
      exact .inr (.inl ⟨r, hr, s, hs', rfl⟩)
  · cases hp' : Replica.pod j r.1 r.2 ctx.options.gangScheduler with
    | error e => rw [hp'] at hp; cases hp
    | ok p =>
      rw [hp'] at hp
      cases hp
      exact .inr (.inr (.inl ⟨r, hr, p, hp', rfl⟩))
  · exact .inr (.inr (.inr (.inl ⟨n, hn, rfl⟩)))
  · exact .inr (.inr (.inr (.inr (.inl ⟨n, hn, rfl⟩))))
  · exact .inr (.inr (.inr (.inr (.inr h))))

section Schedule

variable {pods : List Pod} {services : NameSet}

theorem schedule_of_finishes
    (hends : (j.nextStatus (pods.filterMap ObservedPod.ofPod?) now).isFinished = true) :
    j.schedule ctx ns pods services now = j.finishedSchedule ctx ns
      (pods.filterMap ObservedPod.ofPod?) services
      (j.nextStatus (pods.filterMap ObservedPod.ofPod?) now) now :=
  if_pos hends

theorem schedule_of_goesOn
    (hgoesOn : (j.nextStatus (pods.filterMap ObservedPod.ofPod?) now).isFinished = false) :
    j.schedule ctx ns pods services now = j.unfinishedSchedule ctx ns
      (pods.filterMap ObservedPod.ofPod?) services
      (j.nextStatus (pods.filterMap ObservedPod.ofPod?) now) now :=
  if_neg (Bool.eq_false_iff.1 hgoesOn)

end Schedule

/-- When both listings succeed the schedule is run. -/
theorem reconcile_of_listed {pods : List Pod} {services : NameSet}
    (halive : j.metadata.deletionTimestamp = none) (hns : j.namespace? = some ns)
    (hok : j.refusal? = none) (hpods : b.listPods state ns j.childSelector = .ok pods)
    (hservices : b.listServiceNames state ns j.childSelector = .ok services) :
    let s := j.schedule ctx ns pods services now
    let r := Schedule.run b state s.action s.steps
    j.reconcile b ctx state now =
      ⟨.listPods ns j.childSelector :: .listServiceNames ns j.childSelector :: r.calls, r.state,
        r.result⟩ := by
  simp only [reconcile, halive, Option.isSome_none, Bool.false_eq_true, if_false, hns, hok, hpods,
    hservices]

/-- Where a call of a reconcile comes from. -/
theorem mem_calls_reconcile (h : c ∈ (j.reconcile b ctx state now).calls) :
    ∃ ns, j.namespace? = some ns ∧
      ((∃ why, j.refusal? = some why ∧ .ok c ∈ j.reportSteps ctx ns (j.rejected why now)) ∨
        (j.refusal? = none ∧
          (c = .listPods ns j.childSelector ∨ c = .listServiceNames ns j.childSelector ∨
            ∃ pods services, b.listPods state ns j.childSelector = .ok pods ∧
              b.listServiceNames state ns j.childSelector = .ok services ∧
              .ok c ∈ (j.schedule ctx ns pods services now).steps))) := by
  unfold reconcile at h
  split at h
  · simp at h
  split at h
  · simp at h
  next ns hns =>
  refine ⟨ns, hns, ?_⟩
  split at h
  next why hwhy => exact .inl ⟨why, hwhy, Schedule.mem_steps_of_mem_calls h⟩
  next hok =>
  refine .inr ⟨hok, ?_⟩
  dsimp only at h
  split at h
  · exact .inl (by simpa using h)
  next pods hpods =>
  split at h
  · simp only [List.mem_cons, List.not_mem_nil, or_false] at h
    rcases h with h | h
    · exact .inl h
    · exact .inr (.inl h)
  next services hservices =>
  rcases List.mem_cons.1 h with h | h
  · exact .inl h
  rcases List.mem_cons.1 h with h | h
  · exact .inr (.inl h)
  exact .inr (.inr ⟨pods, services, hpods, hservices, Schedule.mem_steps_of_mem_calls h⟩)

/-- What a reconcile without errors asks for: nothing of a job that is being deleted or refused, and
else what its schedule says. -/
theorem result_reconcile {a : Action} (h : (j.reconcile b ctx state now).result = .ok a) :
    (j.metadata.deletionTimestamp.isSome = true ∧ a = .await) ∨
    (j.metadata.deletionTimestamp = none ∧ ∃ ns, j.namespace? = some ns ∧
      ((∃ why, j.refusal? = some why ∧ a = .await) ∨
        (j.refusal? = none ∧ ∃ pods services, b.listPods state ns j.childSelector = .ok pods ∧
          b.listServiceNames state ns j.childSelector = .ok services ∧
          a = (j.schedule ctx ns pods services now).action))) := by
  unfold reconcile at h
  split at h
  next hdeleted => exact .inl ⟨hdeleted, (Except.ok.inj h).symm⟩
  next halive =>
  refine .inr ⟨Option.not_isSome_iff_eq_none.1 halive, ?_⟩
  split at h
  · cases h
  next ns hns =>
  refine ⟨ns, hns, ?_⟩
  split at h
  next why hwhy => exact .inl ⟨why, hwhy, Schedule.action_of_run h⟩
  next hok =>
  refine .inr ⟨hok, ?_⟩
  dsimp only at h
  split at h
  · cases h
  next pods hpods =>
  split at h
  · cases h
  next services hservices =>
  exact ⟨pods, services, hpods, hservices, Schedule.action_of_run h⟩

/-! ## What is reported -/

/-- What a reconcile decides about a job with these pods. -/
def decision (j : Job) (pods : List ObservedPod) (now : Instant) : Transition :=
  match j.refusal? with
  | some why => { status := j.rejected why now }
  | none => j.nextStatus pods now

theorem alive_of_mem_calls (h : c ∈ (j.reconcile b ctx state now).calls) :
    j.metadata.deletionTimestamp = none := by
  cases halive : j.metadata.deletionTimestamp with
  | none => rfl
  | some _ => simp [reconcile, halive] at h

/-- A reconcile reports what it has decided, unless the job carries it already. -/
theorem reported_of_mem_calls {name : String} {s : JobStatus}
    (h : .patchStatus ns name s ∈ (j.reconcile b ctx state now).calls) :
    (j.namespace? = some ns ∧ ctx.servedVersion.check = .ok ()) ∧ j.status ≠ some s ∧
      ∃ pods : List Pod, (j.refusal? = none → b.listPods state ns j.childSelector = .ok pods) ∧
        s = j.reported ctx (j.decision (pods.filterMap ObservedPod.ofPod?) now).status := by
  have hreport : ∀ {ns' : String} {status : JobStatus},
      .ok (.patchStatus ns name s) ∈ j.reportSteps ctx ns' status →
        ns = ns' ∧ ctx.servedVersion.check = .ok () ∧ j.status ≠ some s ∧
          s = j.reported ctx status := by
    intro ns' status hstep
    obtain ⟨hcall, hne⟩ := mem_reportSteps hstep
    obtain ⟨rfl, rfl, rfl⟩ := Call.patchStatus.inj hcall
    exact ⟨rfl, served_of_mem_reportSteps hstep, hne, rfl⟩
  obtain ⟨ns', hns, ⟨why, hwhy, hstep⟩ | ⟨hok, hcall | hcall | hscheduled⟩⟩ := mem_calls_reconcile h
  · obtain ⟨rfl, hserved, hne, hs⟩ := hreport hstep
    refine ⟨⟨hns, hserved⟩, hne, [], fun hok => ?_, ?_⟩
    · rw [hwhy] at hok
      cases hok
    · simpa only [decision, hwhy] using hs
  · cases hcall
  · cases hcall
  obtain ⟨pods, services, hpods, -, hstep⟩ := hscheduled
  have hreported : .ok (.patchStatus ns name s) ∈ j.reportSteps ctx ns'
      (j.nextStatus (pods.filterMap ObservedPod.ofPod?) now).status := by
    unfold schedule at hstep
    dsimp only at hstep
    split at hstep
    · obtain ⟨_, _, hcall⟩ | ⟨_, _, hcall⟩ | hcall | hreport | hcall :=
        mem_steps_finishedSchedule hstep
      · cases hcall
      · cases hcall
      · cases hcall
      · exact hreport
      · cases hcall
    · obtain ⟨_, _, hcall⟩ | ⟨_, _, _, _, hcall⟩ | ⟨_, _, _, _, hcall⟩ | ⟨_, _, hcall⟩ |
        ⟨_, _, hcall⟩ | hreport := mem_steps_unfinishedSchedule hstep
      · cases hcall
      · cases hcall
      · cases hcall
      · cases hcall
      · cases hcall
      · exact hreport
  obtain ⟨rfl, hserved, hne, hs⟩ := hreport hreported
  exact ⟨⟨hns, hserved⟩, hne, pods, fun _ => hpods, by simpa only [decision, hok] using hs⟩

end Job

end TrainingJobs
