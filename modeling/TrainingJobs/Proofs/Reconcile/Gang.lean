import TrainingJobs.Operator.Requests
import TrainingJobs.Proofs.ChildPlan
import TrainingJobs.Proofs.Reconcile.Order
import TrainingJobs.Proofs.Replica.Counting

/-!
# A gang and its pod group

The pod group of a job, the marks on its pods, the calls about the group and the number of pods that
are made come from different places, and the gang starts only if they agree. `PodGroup.Gathers` says
what has to agree; for every job that the check accepts and every gang scheduler they do, and without
a gang scheduler nothing is said of groups at all (`Job.podGroup_gathers`).
-/

namespace TrainingJobs

open Text

/-- The group to which the scheduler finds a pod to belong. -/
def GangScheduler.groupOf? (s : GangScheduler) (m : ObjectMeta) : Option String :=
  match s with
  | none => .none
  | volcano => m.annotations.bind (·.get? volcanoGroupAnnotation)
  | schedulerPlugins => m.labels.bind (·.get? schedulerPluginsGroupLabel)

/-- If the call is about a pod group, then it is about this one. -/
def Call.Concerns (group? : Option PodGroup) : Call → Prop
  | applyPodGroup ns group => group? = some group ∧ ns = group.namespace_
  | deletePodGroup ns name => ∃ g, group? = some g ∧ ns = g.namespace_ ∧ name = g.name
  | listPods .. | listServiceNames .. | createPod .. | createService .. | deletePod ..
  | deleteService .. | patchStatus .. | deleteJob .. => True

/-- The group is the one that the scheduler finds on the pods of the job, and waits for as many. -/
structure PodGroup.Gathers (g : PodGroup) (j : Job) (scheduler : GangScheduler) : Prop where
  /-- Every pod lies where the group lies, goes to the scheduler and is tied to the group, whatever
  its template says. -/
  pods : ∀ type i p, Replica.pod j type i scheduler = .ok p →
    p.metadata.namespace_ = some g.namespace_ ∧ scheduler.groupOf? p.metadata = some g.name ∧
      p.spec.bind (·.schedulerName) = scheduler.schedulerName?
  /-- It is kept and deleted through the resource of its own version. -/
  resource : ∃ r, scheduler.podGroupResource? = some r ∧ g.apiVersion = r.apiVersion ∧
    g.kind = r.kind ∧ ∀ o : OperatorOptions, o.gangScheduler = scheduler →
      let groups : Collection ObjectMeta := ⟨r, some g.namespace_, readAnyObject⟩
      o.perform (.applyPodGroup g.namespace_ g) =
          (groups.apply o.fieldManager g.name g.toJson).forget ∧
        o.perform (.deletePodGroup g.namespace_ g.name) = (groups.delete g.name false).ignoring 404
  /-- No reconcile makes a call about another group. -/
  calls : ∀ {σ : Type} (b : Backend σ) (ctx : OperatorContext) (state : σ) (now : Instant),
    ctx.options.gangScheduler = scheduler →
      ∀ call ∈ (j.reconcile b ctx state now).calls, call.Concerns (some g)
  /-- Where nothing fails, one keeps the group while the job goes on and deletes it at its end. -/
  kept : ∀ (ctx : OperatorContext) (pods : List Pod) (services : NameSet) (now : Instant),
    ctx.options.gangScheduler = scheduler → j.metadata.deletionTimestamp = none →
    ctx.servedVersion.check = .ok () →
    let calls := (j.reconcile (.unfailing pods services) ctx () now).calls
    let t := j.nextStatus (pods.filterMap ObservedPod.ofPod?) now
    (t.isFinished = false → .applyPodGroup g.namespace_ g ∈ calls) ∧
      (t.isFinished = true → .deletePodGroup g.namespace_ g.name ∈ calls)
  /-- Unless the job asks for another number, it waits for the pods that are made when there are
  none, and they are told this number. -/
  size : j.spec.runPolicy.schedulingPolicy.bind (·.minAvailable) = none →
    (∀ restart, g.minMember.toInt =
      ((ChildPlan.make j.name j.spec [] Dict.empty restart).newPods j.name).toFinset.card) ∧
    ∀ type e i, j.spec.replica? type = some e →
      ∃ p spec, Replica.pod j type i scheduler = .ok p ∧ p.spec = some spec ∧
        List.Forall₂ (fun c c' => c.Gets c' "WORLD_SIZE" (some (showInt32 g.minMember)))
          (e.2.template.spec.getD {}).containers spec.containers

/-- Without a gang scheduler there are no groups, and what a template says of them stays. -/
structure Job.Ungrouped (j : Job) : Prop where
  noGroup : PodGroup.ofJob? j .none = none
  pods : ∀ type e i p, j.spec.replica? type = some e → Replica.pod j type i .none = .ok p →
    (∀ s : GangScheduler, s.groupOf? p.metadata = s.groupOf? (e.2.template.metadata.getD {})) ∧
      p.spec.bind (·.schedulerName) = (e.2.template.spec.getD {}).schedulerName
  calls : ∀ {σ : Type} (b : Backend σ) (ctx : OperatorContext) (state : σ) (now : Instant),
    ctx.options.gangScheduler = .none →
      ∀ call ∈ (j.reconcile b ctx state now).calls, call.Concerns none

/-! ## The group of a job -/

section Group

variable {j : Job} {ns : String} {scheduler : GangScheduler} {g : PodGroup}

theorem PodGroup.exists_ofJob? (j : Job) (h : scheduler ≠ .none) :
    ∃ g, ofJob? j scheduler = some g := by
  cases scheduler with
  | none => exact absurd rfl h
  | volcano => exact ⟨_, rfl⟩
  | schedulerPlugins => exact ⟨_, rfl⟩

theorem PodGroup.of_ofJob? (hns : j.namespace? = some ns) (hg : ofJob? j scheduler = some g) :
    g.name = j.name ∧ g.namespace_ = ns := by
  obtain ⟨version, -, rfl⟩ := Option.map_eq_some_iff.1 hg
  exact ⟨rfl, by rw [hns, Option.getD_some]⟩

theorem GangScheduler.map_apiVersion_podGroupResource? (s : GangScheduler) :
    s.podGroupResource?.map (·.apiVersion) = s.podGroupVersion?.map (·.groupVersion) := by
  cases s <;> decide

theorem PodGroup.resource_of_ofJob? (hg : ofJob? j scheduler = some g) :
    ∃ r, scheduler.podGroupResource? = some r ∧ g.apiVersion = r.apiVersion ∧ g.kind = r.kind := by
  obtain ⟨version, hversion, rfl⟩ := Option.map_eq_some_iff.1 hg
  have happly := scheduler.map_apiVersion_podGroupResource?
  rw [GangScheduler.podGroupResource?, hversion, Option.map_some, Option.map_some, Option.map_some,
    Option.some.injEq] at happly
  exact ⟨_, by rw [GangScheduler.podGroupResource?, hversion, Option.map_some], happly.symm, rfl⟩

end Group

/-! ## The marks of the pods -/

section Marks

variable {m t : ObjectMeta} {j : Job} {ns type : String} {i : Int32} {scheduler : GangScheduler}

/-- The mark of the scheduler wins over that of the template. -/
theorem ObjectMeta.Follows.groupOf?_eq (h : m.Follows t j ns type i scheduler)
    (hgang : scheduler ≠ .none) : scheduler.groupOf? m = some j.name := by
  cases scheduler with
  | none => exact absurd rfl hgang
  | volcano =>
    obtain ⟨annotations, hsome, hget⟩ := h.groupAnnotation rfl
    rw [GangScheduler.groupOf?, hsome, Option.bind_some, hget, if_pos rfl]
  | schedulerPlugins =>
    obtain ⟨labels, hsome, hget⟩ := h.labels
    rw [GangScheduler.groupOf?, hsome, Option.bind_some, hget, if_pos ⟨rfl, rfl⟩]

theorem get?_replicaLabels_group (job type : String) (i : Int32) :
    (replicaLabels job type i).get? schedulerPluginsGroupLabel = none := by
  cases hget : (replicaLabels job type i).get? schedulerPluginsGroupLabel with
  | none => rfl
  | some value => exact absurd rfl (ne_groupLabel_of_get?_replicaLabels hget)

theorem ObjectMeta.Follows.groupOf?_unmarked (h : m.Follows t j ns type i .none)
    (s : GangScheduler) : s.groupOf? m = s.groupOf? t := by
  cases s with
  | none => rfl
  | volcano => rw [GangScheduler.groupOf?, GangScheduler.groupOf?, h.annotations (by decide)]
  | schedulerPlugins =>
    obtain ⟨labels, hsome, hget⟩ := h.labels
    rw [GangScheduler.groupOf?, GangScheduler.groupOf?, hsome, Option.bind_some, hget,
      if_neg fun hplugins => GangScheduler.noConfusion hplugins.1, get?_replicaLabels_group,
      Option.none_or]
    cases t.labels with
    | none => rfl
    | some labels => rfl

theorem Pod.follows_of_pod {p : Pod} (hns : j.namespace? = some ns)
    (hp : Replica.pod j type i scheduler = .ok p) :
    ∃ e, j.spec.replica? type = some e ∧ p.Follows j ns e i scheduler := by
  obtain ⟨e, -, he, -⟩ := metadata_eq_of_pod hp
  rw [Replica.pod_eq_ownPod hns he, Except.ok.injEq] at hp
  exact ⟨e, he, Pod.follows_iff.2 hp.symm⟩

end Marks

/-! ## The calls about the group -/

namespace Job

variable {σ : Type} {b : Backend σ} {state : σ} {ctx : OperatorContext} {j : Job} {ns : String}
  {now : Instant} {call : Call}

theorem concerns_report {status : JobStatus} (group? : Option PodGroup)
    (h : .ok call ∈ j.reportSteps ctx ns status) : call.Concerns group? := by
  rw [(mem_reportSteps h).1]
  trivial

section Scheduled

variable {pods : List ObservedPod} {services : NameSet} {t : Transition}
  (hns : j.namespace? = some ns)

include hns

theorem concerns_cleanup {plan : CleanupPlan} (h : call ∈ j.cleanup ctx ns plan) :
    call.Concerns (PodGroup.ofJob? j ctx.options.gangScheduler) := by
  simp only [cleanup, removals, List.mem_append, List.mem_map] at h
  rcases h with (⟨n, -, rfl⟩ | ⟨n, -, rfl⟩) | h
  · trivial
  · trivial
  · split at h
    · cases h
    next hgang =>
    obtain ⟨g, hg⟩ := PodGroup.exists_ofJob? j hgang
    obtain ⟨hname, hnamespace⟩ := PodGroup.of_ofJob? hns hg
    rw [List.mem_singleton.1 h]
    exact ⟨g, hg, hnamespace.symm, hname.symm⟩

theorem concerns_finishedSchedule
    (h : .ok call ∈ (j.finishedSchedule ctx ns pods services t now).steps) :
    call.Concerns (PodGroup.ofJob? j ctx.options.gangScheduler) := by
  rw [finishedSchedule_steps, List.mem_append, List.mem_append] at h
  rcases h with (h | h) | h
  · obtain ⟨_, hcall, heq⟩ := List.mem_map.1 h
    obtain rfl := Except.ok.inj heq
    exact concerns_cleanup hns hcall
  · exact concerns_report _ h
  · obtain ⟨_, hcall, heq⟩ := List.mem_map.1 h
    obtain rfl := Except.ok.inj heq
    unfold expiry at hcall
    split at hcall
    · rw [List.mem_singleton.1 hcall]
      trivial
    · cases hcall

theorem concerns_unfinishedSchedule
    (h : .ok call ∈ (j.unfinishedSchedule ctx ns pods services t now).steps) :
    call.Concerns (PodGroup.ofJob? j ctx.options.gangScheduler) := by
  rcases mem_steps_unfinishedSchedule h with ⟨g, hg, rfl⟩ | ⟨_, -, _, -, rfl⟩ | ⟨_, -, _, -, rfl⟩ |
    ⟨_, -, rfl⟩ | ⟨_, -, rfl⟩ | hreport
  · exact ⟨hg, (PodGroup.of_ofJob? hns hg).2.symm⟩
  · trivial
  · trivial
  · trivial
  · trivial
  · exact concerns_report _ hreport

end Scheduled

/-- Whatever the cluster does, the calls about pod groups are about the group of the job. -/
theorem concerns_of_mem_calls (h : call ∈ (j.reconcile b ctx state now).calls) :
    call.Concerns (PodGroup.ofJob? j ctx.options.gangScheduler) := by
  obtain ⟨ns, hns, ⟨why, -, hstep⟩ | ⟨-, rfl | rfl | ⟨pods, services, -, -, hstep⟩⟩⟩ :=
    mem_calls_reconcile h
  · exact concerns_report _ hstep
  · trivial
  · trivial
  unfold schedule at hstep
  dsimp only at hstep
  split at hstep
  · exact concerns_finishedSchedule hns hstep
  · exact concerns_unfinishedSchedule hns hstep

/-- Where nothing fails, the group is kept until the job ends, and then deleted. -/
theorem keeps_group {scheduler : GangScheduler} {g : PodGroup} {pods : List Pod}
    {services : NameSet} (hg : PodGroup.ofJob? j scheduler = some g)
    (hns : j.namespace? = some ns) (hok : j.refusal? = none)
    (hctx : ctx.options.gangScheduler = scheduler) (halive : j.metadata.deletionTimestamp = none)
    (hserved : ctx.servedVersion.check = .ok ()) :
    let calls := (j.reconcile (.unfailing pods services) ctx () now).calls
    let t := j.nextStatus (pods.filterMap ObservedPod.ofPod?) now
    (t.isFinished = false → .applyPodGroup g.namespace_ g ∈ calls) ∧
      (t.isFinished = true → .deletePodGroup g.namespace_ g.name ∈ calls) := by
  intro calls t
  subst hctx
  obtain ⟨hname, hnamespace⟩ := PodGroup.of_ofJob? hns hg
  have hcalls : calls = j.plannedCalls ctx ns pods services now :=
    (cut_reconcile hns hserved halive (fun _ h => (Except.ok.inj h).symm)
      fun _ h => (Except.ok.inj h).symm).of_unfailing.1
  rw [hcalls, hnamespace, hname]
  constructor
  · intro hgoesOn
    rw [plannedCalls_of_goesOn hok hgoesOn]
    simp [additions, groupCalls, hg]
  · intro hends
    rw [plannedCalls_of_finishes hok hends]
    have hgang : ctx.options.gangScheduler ≠ .none := by
      rintro hnone
      rw [hnone] at hg
      cases hg
    simp [cleanup, hgang]

theorem refusal?_of_check (h : j.spec.check = .ok ()) : j.refusal? = none := by
  unfold refusal?
  split
  · rfl
  · rw [h]

end Job

/-! ## The size of the gang -/

section Size

variable {j : Job} {ns : String} {scheduler : GangScheduler} {g : PodGroup}

/-- When there are no pods yet, one is made for each replica. -/
theorem ChildPlan.card_newPods {s : JobSpec} (hd : s.TypesDistinct) (job : String)
    (services : NameSet) (restart : List String) :
    ((make job s [] services restart).newPods job).toFinset.card = s.declaredReplicas.length := by
  have hall : (make job s [] services restart).newPods job = s.declaredNames job := by
    rw [newPods_make]
    exact List.filter_eq_self.2 fun _ _ => rfl
  rw [hall, List.toFinset_card_of_nodup (hd.nodup_declaredNames job), JobSpec.declaredNames,
    List.length_map]

theorem PodGroup.size_of_ofJob? (hg : ofJob? j scheduler = some g) (hns : j.namespace? = some ns)
    (hd : j.spec.TypesDistinct) (hpos : ∀ e ∈ j.spec.replicaSpecs.entries, 0 ≤ e.2.replicas)
    (hfits : j.spec.replicaCount ≤ Int32.maxValue.toInt)
    (hunset : j.spec.runPolicy.schedulingPolicy.bind (·.minAvailable) = none) :
    (∀ restart, g.minMember.toInt =
      ((ChildPlan.make j.name j.spec [] Dict.empty restart).newPods j.name).toFinset.card) ∧
    ∀ type e i, j.spec.replica? type = some e →
      ∃ p spec, Replica.pod j type i scheduler = .ok p ∧ p.spec = some spec ∧
        List.Forall₂ (fun c c' => c.Gets c' "WORLD_SIZE" (some (showInt32 g.minMember)))
          (e.2.template.spec.getD {}).containers spec.containers := by
  have hsize := minMember_eq hg hunset
  constructor
  · intro restart
    have hcount := JobSpec.length_declaredReplicas hpos
    rw [hsize, JobSpec.toInt_totalReplicas (by omega) hfits, ← hcount, ChildPlan.card_newPods hd]
  · intro type e i he
    obtain ⟨p, spec, hp, hspec, htold⟩ := Replica.pod_told hns he i scheduler
    exact ⟨p, spec, hp, hspec, htold.imp fun c c' h => hsize ▸ h.2.1⟩

end Size

namespace Job

variable {j : Job} {ns : String}

/-- **A gang matches its pod group.** For a job with a namespace that the check accepts, whose types
are distinct in any letters and whose replicas 32 bits can count, every gang scheduler has a group
that lies where the pods lie, is found on each of them, is kept and deleted by its own name through
the resource of its own version, and waits, unless the job says otherwise, for as many pods as are
made and as the pods are told. Without a gang scheduler there is no group, and what templates say of
groups and schedulers stays. -/
theorem podGroup_gathers (hns : j.namespace? = some ns) (hcheck : j.spec.check = .ok ())
    (hd : j.spec.TypesDistinct) (hfits : j.spec.replicaCount ≤ Int32.maxValue.toInt) :
    (∀ scheduler, scheduler ≠ .none →
      ∃ g, PodGroup.ofJob? j scheduler = some g ∧ g.Gathers j scheduler) ∧
    j.Ungrouped := by
  constructor
  · intro scheduler hgang
    obtain ⟨g, hg⟩ := PodGroup.exists_ofJob? j hgang
    obtain ⟨hname, hnamespace⟩ := PodGroup.of_ofJob? hns hg
    refine ⟨g, hg, {
      pods := fun type i p hp => ?_
      resource := ?_
      calls := fun b ctx state now hctx call hcall => ?_
      kept := fun ctx pods services now hctx halive hserved =>
        keeps_group hg hns (refusal?_of_check hcheck) hctx halive hserved
      size := fun hunset => PodGroup.size_of_ofJob? hg hns hd
        (fun e he => (JobSpec.counts_of_check hcheck he).1) hfits hunset }⟩
    · obtain ⟨e, -, hmeta, ⟨spec, hspec, hfollows⟩, -⟩ := Pod.follows_of_pod hns hp
      rw [hname, hnamespace, hspec, Option.bind_some, hfollows.schedulerName_eq]
      refine ⟨hmeta.inNamespace, hmeta.groupOf?_eq hgang, ?_⟩
      cases scheduler with
      | none => exact absurd rfl hgang
      | volcano => rfl
      | schedulerPlugins => rfl
    · obtain ⟨r, hr, hversion, hkind⟩ := PodGroup.resource_of_ofJob? hg
      refine ⟨r, hr, hversion, hkind, fun o ho => ?_⟩
      unfold OperatorOptions.perform OperatorOptions.podGroups?
      rw [ho, hr]
      exact ⟨rfl, rfl⟩
    · rw [← hg, ← hctx]
      exact concerns_of_mem_calls hcall
  · refine { noGroup := rfl, pods := fun type e i p he hp => ?_, calls := ?_ }
    · obtain ⟨e', he', hmeta, ⟨spec, hspec, hfollows⟩, -⟩ := Pod.follows_of_pod hns hp
      obtain rfl := Option.some.inj (he.symm.trans he')
      rw [hspec, Option.bind_some, hfollows.schedulerName_eq]
      exact ⟨hmeta.groupOf?_unmarked, rfl⟩
    · intro σ b ctx state now hctx call hcall
      have hconcerns := concerns_of_mem_calls hcall
      rwa [hctx] at hconcerns

/-- A template that belongs to another group and another scheduler. -/
def markedReplicas (replicas : Int32) : ReplicaSpec where
  replicas := replicas
  template := {
    metadata := some {
      annotations := some (Dict.empty.insert volcanoGroupAnnotation "other")
      labels := some (Dict.empty.insert schedulerPluginsGroupLabel "other") }
    spec := some { containers := [{ name := "trainer" }], schedulerName := some "mine" } }

def markedJob : Job where
  metadata := { name := some "mnist", namespace_ := some "ml" }
  spec := {
    replicaSpecs := Dict.ofList [("Master", markedReplicas 1), ("Worker", markedReplicas 2)] }

/-- With a gang scheduler its pods belong to the group of the job all the same, and without one they
stay where the template puts them. -/
theorem podGroup_gathers_marked :
    (markedJob.namespace? = some "ml" ∧ markedJob.spec.check = .ok () ∧
      markedJob.spec.TypesDistinct ∧ markedJob.spec.replicaCount ≤ Int32.maxValue.toInt) ∧
    (∃ g p, PodGroup.ofJob? markedJob .schedulerPlugins = some g ∧
      g.Gathers markedJob .schedulerPlugins ∧ g.name = "mnist" ∧ g.minMember = 3 ∧
      Replica.pod markedJob "worker" 1 .schedulerPlugins = .ok p ∧
      GangScheduler.schedulerPlugins.groupOf? p.metadata = some "mnist") ∧
    ∃ p, Replica.pod markedJob "worker" 1 .none = .ok p ∧
      GangScheduler.volcano.groupOf? p.metadata = some "other" ∧
      p.spec.bind (·.schedulerName) = some "mine" := by
  have hcheck : markedJob.spec.check = .ok () := by decide
  have hd : markedJob.spec.TypesDistinct := by decide
  have hfits : markedJob.spec.replicaCount ≤ Int32.maxValue.toInt := by decide
  have hworker : markedJob.spec.replica? "worker" = some ("Worker", markedReplicas 2) := by decide
  obtain ⟨hgang, hungrouped⟩ := podGroup_gathers (j := markedJob) rfl hcheck hd hfits
  obtain ⟨g, hg, hgathers⟩ := hgang .schedulerPlugins (by decide)
  obtain ⟨hname, -⟩ := PodGroup.of_ofJob? rfl hg
  obtain ⟨p, hp⟩ := exists_pod rfl hworker 1 .schedulerPlugins
  obtain ⟨q, hq⟩ := exists_pod rfl hworker 1 .none
  obtain ⟨hmarks, hscheduler⟩ := hungrouped.pods "worker" _ 1 q hworker hq
  refine ⟨⟨rfl, hcheck, hd, hfits⟩, ⟨g, p, hg, hgathers, hname, ?_, hp, ?_⟩, q, hq, ?_, hscheduler⟩
  · rw [PodGroup.minMember_eq hg rfl]
    decide
  · rw [(hgathers.pods "worker" 1 p hp).2.1, hname]
    rfl
  · rw [hmarks]
    decide

end Job

end TrainingJobs
