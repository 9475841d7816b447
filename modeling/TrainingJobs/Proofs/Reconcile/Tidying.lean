import TrainingJobs.Proofs.Reconcile.Belongings
import TrainingJobs.Proofs.Reconcile.Interruption

/-!
# After the cleanup

The visit that finishes a job has deleted by then all that the policy of the job takes, and so has
a visit that finds the job finished and in which nothing fails (`CleansUp.cleanedUp`). What is
left needs no cleanup (`CleansUp.tidy`), and neither further visits nor children that go on their
own change that (`Later.tidy`): no later visit deletes a pod or a service.
-/

namespace TrainingJobs

namespace Cluster

variable {c k k' : Cluster} {ns : String} {ctx : OperatorContext} {now t : Instant}
  {call : Call} {calls : List Call} {fails : Call → Option ApiError}

/-! ## Tidy clusters -/

/-- The operator has nothing to delete: it leaves the job alone, or the job is finished and its
cleanup would be empty. -/
def Tidy (c : Cluster) : Prop :=
  c.job.metadata.deletionTimestamp.isSome = true ∨
    c.job.isFinished = true ∧
      CleanupPlan.make c.job.spec.runPolicy.cleanPodPolicy c.observed c.services false = ⟨[], []⟩

/-- Pods and services have at most gone. The job may have been changed, but for its policy; it is
still finished if it was, and still being deleted. -/
structure Fewer (c k : Cluster) : Prop where
  leaving : c.job.metadata.deletionTimestamp.isSome = true →
    k.job.metadata.deletionTimestamp.isSome = true
  finished : c.job.isFinished = true → k.job.isFinished = true
  policy : k.job.spec.runPolicy.cleanPodPolicy = c.job.spec.runPolicy.cleanPodPolicy
  pods : k.observed ⊆ c.observed
  services : k.services.keys ⊆ c.services.keys

theorem Fewer.refl (c : Cluster) : Fewer c c :=
  ⟨id, id, rfl, List.Subset.refl _, List.Subset.refl _⟩

theorem Tidy.fewer (h : c.Tidy) (hfewer : Fewer c k) : k.Tidy := by
  rcases h with hleaving | ⟨hf, hnone⟩
  · exact .inl (hfewer.leaving hleaving)
  · refine .inr ⟨hfewer.finished hf, ?_⟩
    rw [hfewer.policy]
    exact CleanupPlan.make_eq_nil_mono hnone hfewer.pods hfewer.services

theorem fewer_afterAll (hadds : ∀ call ∈ calls, call.adds = false)
    (hfinished : (c.afterAll calls).job.isFinished = true) :
    Fewer c (c.afterAll calls) := by
  have hjob : (c.afterAll calls).job.metadata = c.job.metadata ∧
      (c.afterAll calls).job.spec = c.job.spec := by
    rcases job_afterAll_cases c calls with hjob | ⟨ns, name, s, -, hjob⟩ <;> rw [hjob]
    · exact ⟨rfl, rfl⟩
    · exact ⟨rfl, rfl⟩
  refine ⟨fun hleaving => ?_, fun _ => hfinished, ?_, fun o ho => ?_, fun n hn => ?_⟩
  · rwa [hjob.1]
  · rw [hjob.2]
  · obtain ⟨p, hp, hop⟩ := List.mem_filterMap.1 ho
    obtain ⟨e, he, rfl⟩ := List.mem_map.1 hp
    rw [entries_pods_of_removing hadds] at he
    exact List.mem_filterMap.2 ⟨e.2, List.mem_map_of_mem (List.mem_filter.1 he).1, hop⟩
  · exact ((mem_services_of_removing hadds n).1 hn).1

theorem visit_of_leaving (h : c.job.metadata.deletionTimestamp.isSome = true)
    (fails : Call → Option ApiError) (ctx : OperatorContext) (t : Instant) :
    c.visit fails ctx t = ⟨[], c, .ok .await⟩ :=
  if_pos h

/-- A visit to a tidy cluster deletes no child. -/
theorem Tidy.removes_visit (h : c.Tidy) (hcall : call ∈ (c.visit fails ctx t).calls) :
    call.removes = false := by
  rcases h with hleaving | ⟨hf, hnone⟩
  · rw [visit_of_leaving hleaving] at hcall
    cases hcall
  obtain ⟨s, hs, hsf⟩ := Job.exists_status_of_finished hf
  obtain ⟨ns, -, ⟨why, -, hstep⟩ | ⟨-, rfl | rfl | ⟨pods, services, hpods, hservices, hstep⟩⟩⟩ :=
    Job.mem_calls_reconcile hcall
  · rw [(Job.mem_reportSteps hstep).1]
    rfl
  · rfl
  · rfl
  have ht : c.transition t = { status := s } := Job.nextStatus_of_finished hs hsf c.observed t
  have hends : (c.transition t).isFinished = true := by
    rw [ht]
    exact hsf
  rw [listPods_failing hpods, listServiceNames_failing hservices, schedule_of_finishes _ hends,
    ht] at hstep
  rcases Job.mem_steps_finishedSchedule hstep with ⟨n, hn, rfl⟩ | ⟨n, hn, rfl⟩ | rfl | hreport | rfl
  · rw [hnone] at hn
    cases hn
  · rw [hnone] at hn
    cases hn
  · rfl
  · rw [(Job.mem_reportSteps hreport).1]
    rfl
  · rfl

theorem Tidy.fewer_visit (h : c.Tidy) (fails : Call → Option ApiError) (ctx : OperatorContext)
    (t : Instant) : Fewer c (c.visit fails ctx t).state := by
  rcases h with hleaving | ⟨hf, -⟩
  · rw [visit_of_leaving hleaving]
    exact .refl c
  · obtain ⟨done, hdone, hstate⟩ := state_visit fails ctx c t
    obtain ⟨hcalls, hfinished⟩ := visit_of_finished hf fails ctx t
    rw [hstate] at hfinished ⊢
    exact fewer_afterAll (fun d hd => Call.adds_of_makesChild (hcalls d (hdone hd))) hfinished

/-- What may have become of a cluster: further visits, in which any calls may fail, and children
that went on their own. -/
inductive Later (c : Cluster) : Cluster → Prop
  | now : Later c c
  | visit {k : Cluster} (fails : Call → Option ApiError) (ctx : OperatorContext) (t : Instant) :
      Later c k → Later c (k.visit fails ctx t).state
  | fewer {k k' : Cluster} (h : Fewer k k') : Later c k → Later c k'

theorem Later.tidy (h : Later c k) (htidy : c.Tidy) : k.Tidy := by
  induction h with
  | now => exact htidy
  | visit fails ctx t _ ih => exact ih.fewer (ih.fewer_visit fails ctx t)
  | fewer hfewer _ ih => exact ih.fewer hfewer

/-! ## Visits that clean up -/

/-- The visit finds the job finished, and nothing fails in it; or it finds the job unfinished with a
spec that passes its check, and finishes it. -/
def CleansUp (fails : Call → Option ApiError) (ctx : OperatorContext) (c : Cluster)
    (now : Instant) : Prop :=
  (c.job.isFinished = true ∧ ∃ a, (c.visit fails ctx now).result = .ok a) ∨
    (c.job.isFinished = false ∧ c.job.spec.check = .ok () ∧
      (c.visit fails ctx now).state.job.isFinished = true)

/-- What was made of a schedule reaches beyond the calls at its beginning. -/
theorem exists_more_of_prefix {done front : List Call} {rest : List (Except OperatorError Call)}
    (hfront : front.map .ok <+: done.map (.ok : Call → Except OperatorError Call))
    (h : done.map .ok <+: front.map .ok ++ rest) :
    ∃ more, done = front ++ more ∧ more.map .ok <+: rest := by
  obtain ⟨tail, htail⟩ := hfront
  obtain ⟨first, more, rfl, hfirst, rfl⟩ := List.map_eq_append_iff.1 htail.symm
  obtain rfl := (List.map_inj_right fun _ _ hab => Except.ok.inj hab).1 hfirst
  rw [List.map_append, List.prefix_append_right_inj] at h
  exact ⟨more, rfl, h⟩

/-- What follows the cleanup when a job finishes. -/
def closing (ctx : OperatorContext) (ns : String) (c : Cluster) (now : Instant) :
    List (Except OperatorError Call) :=
  c.job.reportSteps ctx ns (c.transition now).status ++
    (c.job.expiry ns (c.transition now).status now).map .ok

theorem adds_of_mem_closing (h : .ok call ∈ c.closing ctx ns now) : call.adds = false := by
  rcases List.mem_append.1 h with hreport | hexpiry
  · rw [(Job.mem_reportSteps hreport).1]
    rfl
  · obtain ⟨d, hd, heq⟩ := List.mem_map.1 hexpiry
    obtain rfl := Except.ok.inj heq
    unfold Job.expiry at hd
    split at hd
    · rw [List.mem_singleton.1 hd]
      rfl
    · cases hd

section Listed

variable (hns : c.job.namespace? = some ns) (halive : c.job.metadata.deletionTimestamp = none)
  (hok : c.job.refusal? = none) (hends : (c.transition now).isFinished = true)
  {pods : List Pod} {services : NameSet}
  (hpods : (failing fails).listPods c ns c.job.childSelector = .ok pods)
  (hservices : (failing fails).listServiceNames c ns c.job.childSelector = .ok services)

include hns halive hok hends hpods hservices

theorem exists_done_of_finishes (ctx : OperatorContext) :
    let steps := (c.job.cleanup ctx ns (c.cleanupPlan now)).map .ok ++ c.closing ctx ns now
    ∃ done : List Call, done.map .ok <+: steps ∧ (c.visit fails ctx now).state = c.afterAll done ∧
      ∀ a, (c.visit fails ctx now).result = .ok a → done.map .ok = steps := by
  intro steps
  have hsteps : (c.job.schedule ctx ns pods services now).steps = steps := by
    rw [listPods_failing hpods, listServiceNames_failing hservices, schedule_of_finishes _ hends,
      Job.finishedSchedule_steps, List.append_assoc]
    rfl
  have hvisit : c.visit fails ctx now = _ := Job.reconcile_of_listed halive hns hok hpods hservices
  obtain ⟨done, hdone, -, hstate, hall⟩ := Schedule.run_failing fails c
    (c.job.schedule ctx ns pods services now).action
    (c.job.schedule ctx ns pods services now).steps
  rw [hsteps] at hdone hall
  refine ⟨done, hdone, ?_, fun a ha => hall a ?_⟩
  · rw [hvisit]
    exact hstate
  · rwa [hvisit, hsteps] at ha

end Listed

theorem exists_report_of_finished (hunfinished : c.job.isFinished = false)
    (hf : (c.afterAll calls).job.isFinished = true) :
    ∃ ns name s, Call.patchStatus ns name s ∈ calls ∧ s.isFinished = true := by
  rcases job_afterAll_cases c calls with hjob | ⟨ns, name, s, hs, hjob⟩
  · rw [hjob, hunfinished] at hf
    cases hf
  · rw [hjob, Job.isFinished_eq] at hf
    exact ⟨ns, name, s, hs, hf⟩

/-- A visit that finishes a job has listed its children and decided that it ends. -/
theorem listed_of_finishes (hunfinished : c.job.isFinished = false) (hok : c.job.refusal? = none)
    (hf : (c.visit fails ctx now).state.job.isFinished = true) :
    (c.transition now).isFinished = true ∧ ∃ ns pods services, c.job.namespace? = some ns ∧
      (failing fails).listPods c ns c.job.childSelector = .ok pods ∧
      (failing fails).listServiceNames c ns c.job.childSelector = .ok services := by
  obtain ⟨made, hmade, hstate⟩ := state_visit fails ctx c now
  rw [hstate] at hf
  obtain ⟨ns', name, s, hs, hsf⟩ := exists_report_of_finished hunfinished hf
  obtain ⟨-, -, found, hfound, rfl⟩ := Job.reported_of_mem_calls (hmade hs)
  refine ⟨?_, ?_⟩
  · simp only [(Job.sameOutcome_reported ctx c.job _).isFinished, Job.decision, hok] at hsf
    rwa [listPods_failing (hfound hok)] at hsf
  · obtain ⟨ns, hns, ⟨why, hwhy, -⟩ | ⟨-, h | h | ⟨pods, services, hpods, hservices, -⟩⟩⟩ :=
      Job.mem_calls_reconcile (hmade hs)
    · rw [hok] at hwhy
      cases hwhy
    · cases h
    · cases h
    · exact ⟨ns, pods, services, hns, hpods, hservices⟩

/-- The visit has made all calls of its cleanup, and after them none that adds a child. -/
def CleanedUp (fails : Call → Option ApiError) (ctx : OperatorContext) (c : Cluster)
    (now : Instant) : Prop :=
  ∃ ns more, (c.visit fails ctx now).state = (c.cleaned ctx ns now).afterAll more ∧
    ∀ call ∈ more, call.adds = false

theorem cleanedUp_of_made {done : List Call}
    (hfront : (c.job.cleanup ctx ns (c.cleanupPlan now)).map .ok <+:
      done.map (.ok : Call → Except OperatorError Call))
    (hdone : done.map .ok <+:
      (c.job.cleanup ctx ns (c.cleanupPlan now)).map .ok ++ c.closing ctx ns now)
    (hstate : (c.visit fails ctx now).state = c.afterAll done) : CleanedUp fails ctx c now := by
  obtain ⟨more, rfl, hmore⟩ := exists_more_of_prefix hfront hdone
  refine ⟨ns, more, ?_, fun call hcall => ?_⟩
  · rw [hstate, afterAll_append]
    rfl
  · exact adds_of_mem_closing (hmore.subset (List.mem_map_of_mem hcall))

section Alive

variable (halive : c.job.metadata.deletionTimestamp = none)

include halive

theorem cleanedUp_of_finished (hf : c.job.isFinished = true) {a : Action}
    (ha : (c.visit fails ctx now).result = .ok a) : CleanedUp fails ctx c now := by
  have hok : c.job.refusal? = none := by simp [Job.refusal?, hf]
  obtain ⟨s, hs, hsf⟩ := Job.exists_status_of_finished hf
  have hends : (c.transition now).isFinished = true := by
    rw [transition, Job.nextStatus_of_finished hs hsf]
    exact hsf
  rcases Job.result_reconcile ha with
    ⟨hleaving, -⟩ | ⟨-, ns, hns, ⟨why, hwhy, -⟩ | ⟨-, pods, services, hpods, hservices, -⟩⟩
  · simp [halive] at hleaving
  · rw [hok] at hwhy
    cases hwhy
  obtain ⟨done, hdone, hstate, hall⟩ :=
    exists_done_of_finishes hns halive hok hends hpods hservices ctx
  refine cleanedUp_of_made ?_ hdone hstate
  rw [hall a ha]
  exact List.prefix_append _ _

theorem cleanedUp_of_finishes (hunfinished : c.job.isFinished = false)
    (hok : c.job.refusal? = none) (hf : (c.visit fails ctx now).state.job.isFinished = true) :
    CleanedUp fails ctx c now := by
  obtain ⟨hends, ns, pods, services, hns, hpods, hservices⟩ :=
    listed_of_finishes hunfinished hok hf
  obtain ⟨done, hdone, hstate, -⟩ :=
    exists_done_of_finishes hns halive hok hends hpods hservices ctx
  obtain ⟨ns', name, s, hs, -⟩ := exists_report_of_finished hunfinished (hstate ▸ hf)
  refine cleanedUp_of_made ?_ hdone hstate
  refine (List.prefix_or_prefix_of_prefix hdone (List.prefix_append _ _)).resolve_left
    fun hshort => ?_
  -- the report would belong to the cleanup
  obtain ⟨d, hd, heq⟩ := List.mem_map.1 (hshort.subset (List.mem_map_of_mem hs))
  exact (mem_cleanup hd).2.2 ns' name s (Except.ok.inj heq)

theorem CleansUp.cleanedUp (h : CleansUp fails ctx c now) : CleanedUp fails ctx c now := by
  rcases h with ⟨hf, a, ha⟩ | ⟨hunfinished, hvalid, hf⟩
  · exact cleanedUp_of_finished halive hf ha
  · have hok : c.job.refusal? = none := by simp [Job.refusal?, hunfinished, hvalid]
    exact cleanedUp_of_finishes halive hunfinished hok hf

end Alive

theorem CleansUp.isFinished (h : CleansUp fails ctx c now) :
    (c.visit fails ctx now).state.job.isFinished = true := by
  rcases h with ⟨hf, -⟩ | ⟨-, -, hf⟩
  · exact (visit_of_finished hf fails ctx now).2
  · exact hf

theorem mem_services_cleaned {n : String} : n ∈ (c.cleaned ctx ns now).services.keys ↔
    n ∈ c.services.keys ∧ n ∉ (c.cleanupPlan now).deleteServices := by
  unfold cleaned
  rw [mem_services_of_removing fun _ hcall => (mem_cleanup hcall).1, ← Bool.not_eq_true]
  unfold Job.cleanup
  rw [Job.any_removesService_removals fun _ hcall => removes_groupDeletion hcall]

/-- After a visit that cleans up nothing is left to be deleted. -/
theorem CleansUp.tidy (h : CleansUp fails ctx c now) (hnamed : c.Named) :
    (c.visit fails ctx now).state.Tidy := by
  cases hdeleted : c.job.metadata.deletionTimestamp with
  | some time =>
    have hleaving : c.job.metadata.deletionTimestamp.isSome = true := by rw [hdeleted]; rfl
    rw [visit_of_leaving hleaving]
    exact .inl hleaving
  | none =>
  obtain ⟨ns, more, hstate, hmore⟩ := h.cleanedUp hdeleted
  have hfinished := h.isFinished
  have hfewer : Fewer (c.cleaned ctx ns now) (c.visit fails ctx now).state := by
    rw [hstate] at hfinished ⊢
    exact fewer_afterAll hmore hfinished
  refine .inr ⟨hfinished, ?_⟩
  rw [hfewer.policy, job_cleaned]
  have hnone : CleanupPlan.make c.job.spec.runPolicy.cleanPodPolicy (c.spared now)
      (CleanupPlan.sparedServices c.job.spec.runPolicy.cleanPodPolicy c.observed c.services
        (c.transition now).terminateActive) false = ⟨[], []⟩ :=
    CleanupPlan.make_spared (fun hfalse => Bool.noConfusion hfalse) c.services
  refine CleanupPlan.make_eq_nil_mono hnone (fun o ho => ?_) fun n hn => ?_
  · have hleft := hfewer.pods ho
    rwa [observed_cleaned hnamed] at hleft
  · exact CleanupPlan.mem_sparedServices_iff.2 (mem_services_cleaned.1 (hfewer.services hn))

/-! ## One cleanup -/

/-- **A cleanup follows its policy and is done in one go.** For all pods and services: what a
cleanup deletes is all there is, the pods that are pending or running, or nothing, as the policy
says and whether a limit was reached; the services go with the deleted pods, or with all. All of it
is there, and the same cleanup of what remains is empty. So after a visit that has cleaned up, no
further visit deletes a pod or a service, whatever fails and whatever else goes. -/
theorem cleanup_in_one_go (policy : CleanPodPolicy) (pods : List ObservedPod) (services : NameSet)
    (active : Bool) :
    let plan := CleanupPlan.make policy pods services active
    (plan.deletePods =
        (pods.filter fun o => CleanupPlan.Takes policy active o).map (·.name) ∧
      plan.deleteServices =
        services.keys.filter fun n => policy = .all ∨ n ∈ plan.deletePods) ∧
    (plan.deletePods ⊆ pods.map (·.name) ∧ plan.deleteServices ⊆ services.keys) ∧
    CleanupPlan.make policy (CleanupPlan.spared policy pods active)
      (CleanupPlan.sparedServices policy pods services active) active = ⟨[], []⟩ ∧
    ∀ (fails : Call → Option ApiError) (ctx : OperatorContext) (c : Cluster) (now : Instant),
      c.Named → CleansUp fails ctx c now → ∀ k, Later (c.visit fails ctx now).state k →
      ∀ (fails' : Call → Option ApiError) (ctx' : OperatorContext) (t : Instant),
        ∀ call ∈ (k.visit fails' ctx' t).calls, call.removes = false := by
  intro plan
  refine ⟨⟨CleanupPlan.doomed_eq policy pods active,
      CleanupPlan.deleteServices_eq policy pods services active⟩,
    CleanupPlan.make_subset policy pods services active, CleanupPlan.make_spared id services, ?_⟩
  intro fails ctx c now hnamed hcleans k hlater fails' ctx' t call hcall
  exact (hlater.tidy (hcleans.tidy hnamed)).removes_visit hcall

/-- When the master has succeeded, the waiting worker goes with its service, and after that nothing
more. -/
theorem cleanup_in_one_go_masterDone :
    let c := { masterDone .running with services := NameSet.ofNames ["mnist-worker-0"] }
    let now := Instant.ofSeconds 1714557605
    let first := c.visit (fun _ => none) plainContext now
    (c.Named ∧ CleansUp (fun _ => none) plainContext c now) ∧
    CleanupPlan.make .running (CleanupPlan.spared .running c.observed false)
      (CleanupPlan.sparedServices .running c.observed c.services false) false = ⟨[], []⟩ ∧
    first.calls.map Call.label =
      ["list_pods", "list_service_names", "delete_pod", "delete_service", "patch_status"] ∧
    ∀ fails t, ∀ call ∈ (first.state.visit fails plainContext t).calls, call.removes = false := by
  intro c now first
  have hnamed : c.Named := (owned_masterDone .running).named
  have hcleans : CleansUp (fun _ => none) plainContext c now :=
    .inr ⟨by decide, by decide, by decide⟩
  obtain ⟨-, -, hnone, hvisits⟩ := cleanup_in_one_go .running c.observed c.services false
  refine ⟨⟨hnamed, hcleans⟩, hnone, by decide, fun fails t => ?_⟩
  exact hvisits (fun _ => none) plainContext c now hnamed hcleans first.state .now fails
    plainContext t

end Cluster

end TrainingJobs
