import TrainingJobs.Proofs.Lifecycle.History
import TrainingJobs.Proofs.Lifecycle.Steady
import TrainingJobs.Proofs.Reconcile.Convergence

/-!
# Reconciling comes to rest

A cluster is `AtRest` when its children are those of the declared replicas and its job tells of them
what there is to tell. A visit to such a cluster makes and deletes nothing (`AtRest.calls_visit`); it
may bring the counts of the job up to date, once (`AtRest.visits_caughtUp`). One visit that goes on
and makes no pod anew leads there from any cluster whose pods were built for the job, as soon as the
pods that it created have shown up (`ShowsUp.atRest`). If statuses cannot be written at all, it leads
to one that lacks nothing but the report (`ShowsUp.unreported`), which visits leave as it is
(`Unreported.visit`).
-/

namespace TrainingJobs

open Lifecycle

namespace Cluster

variable {c k : Cluster} {ns n : String} {ctx : OperatorContext} {now : Instant}
  {status : JobStatus} {fails : Call → Option ApiError}

/-! ## Clusters at rest -/

/-- The children are those of the declared replicas, and the job tells of them what there is to
tell. -/
structure AtRest (c : Cluster) (ns : String) (status : JobStatus) : Prop where
  accepted : c.job.Accepted ns
  distinct : c.job.spec.TypesDistinct
  owned : c.Owned
  pods : ∀ n, n ∈ c.pods.keys ↔ n ∈ c.job.spec.declaredNames c.job.name
  services : ∀ n, n ∈ c.services.keys ↔ n ∈ c.job.spec.declaredNames c.job.name
  carries : c.job.status = some status
  steady : Steady c.job.name c.job.spec status c.observed

def withStatus (c : Cluster) (status : JobStatus) : Cluster :=
  { c with job := { c.job with status := some status } }

/-- The status with the counts of the pods there are, as it is reported. -/
def counted (ctx : OperatorContext) (c : Cluster) (status : JobStatus) : JobStatus :=
  c.job.reported ctx { status with replicaStatuses := replicaStatuses c.job.spec c.observed }

theorem AtRest.plan_eq (h : c.AtRest ns status) :
    c.plan = { createPods := [], createServices := [], deletePods := [], deleteServices := [] } := by
  have hcreatePods : c.plan.createPods = [] := by
    rw [List.eq_nil_iff_forall_not_mem]
    intro r hr
    obtain ⟨hmem, hnone⟩ := (mem_createPods_iff h.owned).1 hr
    obtain ⟨p, hp⟩ := Dict.mem_keys_iff.1
      ((h.pods _).2 (JobSpec.mem_declaredNames_iff.2 ⟨r, hmem, rfl⟩))
    rw [hnone] at hp
    cases hp
  have hcreateServices : c.plan.createServices = [] := by
    rw [List.eq_nil_iff_forall_not_mem]
    intro r hr
    obtain ⟨hmem, hmissing⟩ := List.mem_filter.1 hr
    have hthere := (h.services _).2 (JobSpec.mem_declaredNames_iff.2 ⟨r, hmem, rfl⟩)
    rw [← Dict.contains_iff] at hthere
    simp [hthere] at hmissing
  have hdeletePods : c.plan.deletePods = [] := by
    rw [List.eq_nil_iff_forall_not_mem]
    intro n hn
    obtain ⟨⟨p, hp⟩, hnot⟩ := (mem_deletePods_iff h.owned h.distinct).1 hn
    exact hnot ((h.pods n).1 (Dict.mem_keys_iff.2 ⟨p, hp⟩))
  have hdeleteServices : c.plan.deleteServices = [] := by
    rw [List.eq_nil_iff_forall_not_mem]
    intro n hn
    obtain ⟨hmem, hnot⟩ := List.mem_filter.1 hn
    have hdecl := (h.services n).1 hmem
    simp only [JobSpec.declaredNames] at hdecl
    simp [hdecl] at hnot
  cases hplan : c.plan with
  | mk createPods createServices deletePods deleteServices =>
    rw [hplan] at hcreatePods hcreateServices hdeletePods hdeleteServices
    simp only at hcreatePods hcreateServices hdeletePods hdeleteServices
    rw [hcreatePods, hcreateServices, hdeletePods, hdeleteServices]

theorem AtRest.steps_eq (h : c.AtRest ns status) (hserved : ctx.servedVersion.check = .ok ())
    (hdead : isPastDeadline c.job.spec status now = false) :
    (c.job.schedule ctx ns c.pods.values c.services now).steps =
      (c.job.groupCalls ctx ns ++
        if status = counted ctx c status then []
          else [Call.patchStatus ns c.job.name (counted ctx c status)]).map .ok := by
  have hnext : c.transition now =
      { status := { status with replicaStatuses := replicaStatuses c.job.spec c.observed } } :=
    h.steady.nextStatus h.carries hdead
  have hgoesOn : (c.transition now).isFinished = false := by
    rw [hnext]
    exact h.steady.unfinished
  rw [schedule_of_goesOn _ hgoesOn, Job.steps_unfinishedSchedule h.accepted.inNamespace hserved,
    hnext]
  have hplan : ChildPlan.make c.job.name c.job.spec c.observed c.services [] = _ := h.plan_eq
  simp only [hplan, Job.additions, Job.removals, Job.report, List.map_nil, List.append_nil,
    h.carries, Option.some.injEq]
  rfl

end Cluster

/-- The call neither makes nor deletes anything: it looks, keeps the pod group or reports. -/
def Call.isQuiet : Call → Bool
  | listPods .. | listServiceNames .. | applyPodGroup .. | patchStatus .. => true
  | createPod .. | createService .. | deletePod .. | deleteService .. | deletePodGroup ..
  | deleteJob .. => false

namespace Cluster

variable {c k : Cluster} {ns n : String} {ctx : OperatorContext} {now : Instant}
  {status : JobStatus} {fails : Call → Option ApiError}

theorem AtRest.withStatus {status' : JobStatus} (h : c.AtRest ns status)
    (hconditions : status'.conditions = status.conditions)
    (hstart : status'.startTime = status.startTime)
    (hcount : status'.restartCount = status.restartCount) :
    (c.withStatus status').AtRest ns status' where
  accepted := {
    inNamespace := h.accepted.inNamespace
    alive := h.accepted.alive
    unfinished := (h.steady.congr hconditions hstart hcount).unfinished
    valid := h.accepted.valid }
  distinct := h.distinct
  owned := fun n p hp => ⟨(h.owned n p hp).1, (h.owned n p hp).2.of_metadata_eq rfl⟩
  pods := h.pods
  services := h.services
  carries := rfl
  steady := h.steady.congr hconditions hstart hcount

/-- A visit to a cluster at rest makes and deletes nothing, and it reports only if the counts are
new. -/
theorem AtRest.calls_visit (h : c.AtRest ns status) (hserved : ctx.servedVersion.check = .ok ())
    (hdead : isPastDeadline c.job.spec status now = false) (fails : Call → Option ApiError) :
    ∀ call ∈ (c.visit fails ctx now).calls, call.isQuiet = true ∧
      ∀ ns' name t, call = .patchStatus ns' name t → status ≠ counted ctx c status := by
  intro call hcall
  obtain ⟨-, hcalls, -⟩ | ⟨-, -, hvisit⟩ := visit_cases h.accepted fails ctx now
  · rcases hcalls call hcall with rfl | rfl
    · exact ⟨rfl, fun _ _ _ => Call.noConfusion⟩
    · exact ⟨rfl, fun _ _ _ => Call.noConfusion⟩
  rw [hvisit] at hcall
  simp only [List.mem_cons] at hcall
  rcases hcall with rfl | rfl | hcall
  · exact ⟨rfl, fun _ _ _ => Call.noConfusion⟩
  · exact ⟨rfl, fun _ _ _ => Call.noConfusion⟩
  have hmem := Schedule.mem_steps_of_mem_calls hcall
  rw [h.steps_eq hserved hdead] at hmem
  simp only [Job.groupCalls, List.mem_map, List.mem_append, Except.ok.injEq,
    exists_eq_right] at hmem
  rcases hmem with ⟨g, -, rfl⟩ | hreport
  · exact ⟨rfl, fun _ _ _ => Call.noConfusion⟩
  split at hreport
  · cases hreport
  next hne =>
    rw [List.mem_singleton.1 hreport]
    exact ⟨rfl, fun _ _ _ _ => hne⟩

theorem afterAll_groupCalls {done : List Call} (h : done <+: c.job.groupCalls ctx ns) :
    c.afterAll done = c := by
  refine afterAll_eq_self fun call hcall => ?_
  obtain ⟨g, -, rfl⟩ := List.mem_map.1 (h.subset hcall)
  rfl

/-- It leaves the cluster as it was or with new counts, and with new counts if it succeeds. -/
theorem AtRest.state_visit (h : c.AtRest ns status) (hserved : ctx.servedVersion.check = .ok ())
    (hdead : isPastDeadline c.job.spec status now = false) (fails : Call → Option ApiError) :
    ((c.visit fails ctx now).state = c ∨
      (c.visit fails ctx now).state = c.withStatus (counted ctx c status)) ∧
    ∀ a, (c.visit fails ctx now).result = .ok a →
      (c.visit fails ctx now).state = c.withStatus (counted ctx c status) := by
  obtain ⟨hstate, -, e, -, he⟩ | ⟨-, -, hvisit⟩ := visit_cases h.accepted fails ctx now
  · refine ⟨.inl hstate, fun a ha => ?_⟩
    rw [he] at ha
    cases ha
  rw [hvisit]
  simp only [h.steps_eq hserved hdead]
  by_cases hnew : status = counted ctx c status
  · have hsame : c.withStatus (counted ctx c status) = c := by
      unfold Cluster.withStatus
      rw [← hnew, ← h.carries]
    rw [if_pos hnew, List.append_nil]
    obtain ⟨done, hdone, hstate, -⟩ := Schedule.run_failing_calls fails c
      (c.job.schedule ctx ns c.pods.values c.services now).action (c.job.groupCalls ctx ns)
    rw [hstate, afterAll_groupCalls hdone, hsame]
    exact ⟨.inl rfl, fun _ _ => rfl⟩
  · rw [if_neg hnew]
    obtain ⟨done, hdone, hstate, hok⟩ := Schedule.run_failing_calls fails c
      (c.job.schedule ctx ns c.pods.values c.services now).action
      (c.job.groupCalls ctx ns ++ [Call.patchStatus ns c.job.name (counted ctx c status)])
    have hall : c.afterAll
        (c.job.groupCalls ctx ns ++ [Call.patchStatus ns c.job.name (counted ctx c status)]) =
        c.withStatus (counted ctx c status) := by
      rw [afterAll_append, afterAll_groupCalls (List.prefix_refl _)]
      rfl
    refine ⟨?_, fun a ha => ?_⟩
    · rcases List.prefix_concat_iff.1 hdone with rfl | hfirst
      · exact .inr (hstate.trans hall)
      · exact .inl (hstate.trans (afterAll_groupCalls hfirst))
    · rw [hok a ha] at hstate
      exact hstate.trans hall

end Cluster

/-! ## Coming to rest -/

/-- The pod has just come: it is pending or without a phase. -/
def Pod.HasJustCome (p : Pod) : Prop :=
  p.status.bind (·.phase) = none ∨ p.status.bind (·.phase) = some "Pending"

instance (p : Pod) : Decidable p.HasJustCome := inferInstanceAs (Decidable (_ ∨ _))

theorem Pod.HasJustCome.waits {p : Pod} {o : ObservedPod} (h : p.HasJustCome)
    (ho : ObservedPod.ofPod? p = some o) : o.phase = .pending ∨ o.phase = .unknown := by
  obtain ⟨-, hphase, -⟩ := ObservedPod.of_ofPod? ho
  rw [hphase]
  rcases h with hnone | hpending
  · rw [hnone]
    exact .inr rfl
  · rw [hpending]
    exact .inl rfl

namespace Cluster

/-- A cluster after a visit in which the pods that the visit created have shown up, with whatever
the cluster adds to them. The others are as they were. -/
structure ShowsUp (before after settled : Cluster) : Prop where
  job : settled.job = after.job
  services : settled.services = after.services
  names : ∀ n, n ∈ settled.pods.keys ↔ n ∈ after.pods.keys
  old : ∀ n p, before.pods.get? n = some p → settled.pods.get? n = after.pods.get? n
  new : ∀ n p q, before.pods.get? n = none → after.pods.get? n = some p →
    settled.pods.get? n = some q → q.metadata.displayName = p.metadata.displayName ∧
      q.metadata.labels = p.metadata.labels ∧ q.metadata.deletionTimestamp = none ∧ q.HasJustCome

/-- The restarts so far, of pods and of containers, do not exceed the limit of the job. -/
def WithinBackoff (c : Cluster) : Prop :=
  exceedsBackoff c.job.spec (c.job.status.getD {}) c.observed [] = false

instance (c : Cluster) : Decidable c.WithinBackoff := inferInstanceAs (Decidable (_ = _))

variable {c settled : Cluster} {ns n : String} {ctx : OperatorContext} {now : Instant}
  {status : JobStatus}

theorem ShowsUp.job_eq (hshows : ShowsUp c (c.aligned ctx ns status) settled) :
    settled.job = { c.job with status := some (c.job.reported ctx status) } :=
  hshows.job.trans job_aligned

section ShowsUp

variable (hacc : c.job.Accepted ns) (hd : c.job.spec.TypesDistinct) (howned : c.Owned)
  (hshows : ShowsUp c (c.aligned ctx ns status) settled)

include hacc hd howned hshows

theorem ShowsUp.mem_pods_iff :
    n ∈ settled.pods.keys ↔ n ∈ c.job.spec.declaredNames c.job.name :=
  (hshows.names n).trans (howned.mem_pods_aligned_iff hd hacc.inNamespace)

theorem ShowsUp.get?_of_some {p : Pod} (hp : c.pods.get? n = some p) :
    settled.pods.get? n =
      if n ∈ c.job.spec.declaredNames c.job.name then some p else none := by
  rw [hshows.old n p hp]
  split
  next hn => exact howned.get?_aligned_of_some hd hn hp
  next hn => exact howned.get?_aligned_of_not_mem hd hacc.inNamespace hn

theorem ShowsUp.new_of_none {q : Pod} (hp : c.pods.get? n = none)
    (hq : settled.pods.get? n = some q) :
    q.metadata.displayName = n ∧ q.BuiltFor c.job ∧ q.HasJustCome := by
  have hn : n ∈ c.job.spec.declaredNames c.job.name :=
    (hshows.mem_pods_iff hacc hd howned).1 (Dict.mem_keys_iff.2 ⟨q, hq⟩)
  obtain ⟨⟨type, i⟩, hr, hname, hnew⟩ : ∃ r ∈ c.job.spec.declaredReplicas,
      replicaName c.job.name r.1 r.2 = n ∧ (c.aligned ctx ns status).pods.get? n =
        some (fresh (c.job.childPod ctx.options.gangScheduler r)) :=
    howned.get?_aligned_of_none hd hacc.inNamespace hn hp
  obtain ⟨hdisplay, hlabels, halive, hcome⟩ := hshows.new n _ q hp hnew hq
  have hbuilt := Job.pod_childPod hacc.inNamespace hr ctx.options.gangScheduler
  obtain ⟨r, -, hi, -⟩ := JobSpec.mem_declaredReplicas_iff.1 hr
  refine ⟨?_, ⟨halive, c.job.spec, type, i, ctx.options.gangScheduler, _, hi, hbuilt,
    hdisplay, hlabels⟩, hcome⟩
  rw [hdisplay, ← hname]
  exact (metadata_of_pod hbuilt).1

theorem ShowsUp.owned : settled.Owned := by
  intro n q hq
  have hmeta : settled.job.metadata = c.job.metadata := by
    rw [hshows.job_eq]
  cases hp : c.pods.get? n with
  | some p =>
    rw [hshows.get?_of_some hacc hd howned hp] at hq
    split at hq
    · rw [Option.some.inj hq] at hp
      exact ⟨(howned n q hp).1, (howned n q hp).2.of_metadata_eq hmeta⟩
    · cases hq
  | none =>
    obtain ⟨hname, hbuilt, -⟩ := hshows.new_of_none hacc hd howned hp hq
    exact ⟨hname, hbuilt.of_metadata_eq hmeta⟩

/-- The pods that are observed now are the declared ones of before and new ones that wait. -/
theorem ShowsUp.settled_observed : Settled c.job.spec c.observed settled.observed := by
  have howned' := hshows.owned hacc hd howned
  let old (o : ObservedPod) : Bool := (c.pods.get? o.name).isSome
  refine ⟨settled.observed.filter fun o => !old o, ?_, fun o ho => ?_⟩
  · refine (List.filter_append_perm old settled.observed).symm.trans (.append_right _ ?_)
    have hnodup := List.Nodup.of_map _ (nodup_names_observed howned.named)
    have hnodup' := List.Nodup.of_map _ (nodup_names_observed howned'.named)
    refine (List.perm_ext_iff_of_nodup (hnodup'.filter _) (hnodup.filter _)).2 fun o => ?_
    rw [List.mem_filter, List.mem_filter, mem_observed_iff howned'.named]
    constructor
    · rintro ⟨⟨q, hq, hqo⟩, hold⟩
      obtain ⟨p, hp⟩ := Option.isSome_iff_exists.1 hold
      rw [hshows.get?_of_some hacc hd howned hp] at hq
      split at hq
      next hn =>
        rw [Option.some.inj hq] at hp
        have ho : o ∈ c.observed := (mem_observed_iff howned.named).2 ⟨q, hp, hqo⟩
        exact ⟨ho, (howned.declares_iff hd ho).2 hn⟩
      next => cases hq
    · rintro ⟨ho, hdecl⟩
      obtain ⟨p, hp, hpo⟩ := (mem_observed_iff howned.named).1 ho
      refine ⟨⟨p, ?_, hpo⟩, Option.isSome_iff_exists.2 ⟨p, hp⟩⟩
      rw [hshows.get?_of_some hacc hd howned hp, if_pos ((howned.declares_iff hd ho).1 hdecl)]
  · obtain ⟨hmem, hnew⟩ := List.mem_filter.1 ho
    obtain ⟨q, hq, hqo⟩ := (mem_observed_iff howned'.named).1 hmem
    have hp : c.pods.get? o.name = none := by simpa [old] using hnew
    obtain ⟨-, -, hcome⟩ := hshows.new_of_none hacc hd howned hp hq
    exact hcome.waits hqo

end ShowsUp

/-- When the pods have shown up after a visit that goes on and makes no pod anew, the cluster is at
rest. -/
theorem ShowsUp.atRest (hacc : c.job.Accepted ns) (hd : c.job.spec.TypesDistinct)
    (howned : c.Owned) (hgoesOn : (c.transition now).isFinished = false)
    (hrestart : (c.transition now).restart = [])
    (hshows : ShowsUp c (c.aligned ctx ns (c.transition now).status) settled)
    (hlimit : settled.WithinBackoff) :
    settled.AtRest ns (c.job.reported ctx (c.transition now).status) := by
  have hjob := hshows.job_eq
  have hwithin : exceedsBackoff c.job.spec (c.transition now).status settled.observed [] =
      false := by
    unfold WithinBackoff at hlimit
    rwa [hjob] at hlimit
  have hsteady : Steady c.job.name c.job.spec (c.transition now).status c.observed :=
    steady_nextStatus hacc.unfinished hgoesOn hrestart
  have hreported : Steady c.job.name c.job.spec (c.job.reported ctx (c.transition now).status)
      settled.observed :=
    (hsteady.settle hd (hshows.settled_observed hacc hd howned) hwithin).congr rfl rfl rfl
  have hservices : ∀ n, n ∈ settled.services.keys ↔
      n ∈ c.job.spec.declaredNames c.job.name := by
    intro n
    rw [hshows.services]
    exact mem_services_aligned_iff hacc.inNamespace
  have howned' := hshows.owned hacc hd howned
  have hpods : ∀ n, n ∈ settled.pods.keys ↔ n ∈ c.job.spec.declaredNames c.job.name :=
    fun n => hshows.mem_pods_iff hacc hd howned
  obtain ⟨job, pods, services⟩ := settled
  simp only at hjob
  subst hjob
  exact {
    accepted := {
      inNamespace := hacc.inNamespace
      alive := hacc.alive
      unfinished := hreported.unfinished
      valid := hacc.valid }
    distinct := hd
    owned := howned'
    pods := hpods
    services := hservices
    carries := rfl
    steady := hreported }

/-! ## Runs from a cluster at rest -/

/-- The cluster after some visits, each with the calls that fail and the time. -/
def visits (ctx : OperatorContext) (c : Cluster)
    (vs : List ((Call → Option ApiError) × Instant)) : Cluster :=
  vs.foldl (fun c v => (c.visit v.1 ctx v.2).state) c

def caughtUp (ctx : OperatorContext) (c : Cluster) (status : JobStatus) : Cluster :=
  c.withStatus (counted ctx c status)

theorem AtRest.caughtUp (h : c.AtRest ns status) (ctx : OperatorContext) :
    (c.caughtUp ctx status).AtRest ns (counted ctx c status) :=
  h.withStatus rfl rfl rfl

theorem AtRest.isPastDeadline_eq (h : c.AtRest ns status)
    (hdead : c.job.deadlineReached now = false) :
    isPastDeadline c.job.spec status now = false := by
  obtain ⟨text, htext⟩ := Option.isSome_iff_exists.1 h.steady.started
  simpa only [Job.deadlineReached, isPastDeadline, deadlineRemaining?, Job.begun, begun,
    h.carries, Option.getD_some, htext, Option.some_or] using hdead

/-- Nothing changes any more once the counts are up to date. -/
theorem AtRest.visits_caughtUp (h : c.AtRest ns status)
    (hserved : ctx.servedVersion.check = .ok ())
    {vs : List ((Call → Option ApiError) × Instant)} (hdead : ∀ v ∈ vs, c.job.deadlineReached v.2 = false) :
    (c.caughtUp ctx status).visits ctx vs = c.caughtUp ctx status := by
  induction vs with
  | nil => rfl
  | cons v more ih =>
    have hv := h.isPastDeadline_eq (hdead v List.mem_cons_self)
    obtain ⟨hstate, -⟩ := (h.caughtUp ctx).state_visit hserved hv v.1
    have hsame : ((c.caughtUp ctx status).visit v.1 ctx v.2).state = c.caughtUp ctx status := by
      rcases hstate with hstate | hstate
      · exact hstate
      · exact hstate
    show (((c.caughtUp ctx status).visit v.1 ctx v.2).state).visits ctx more = _
    rw [hsame]
    exact ih fun w hw => hdead w (List.mem_cons_of_mem v hw)

/-- Visits leave a cluster at rest as it was or with its counts up to date, and with its counts up
to date once one has succeeded. -/
theorem AtRest.visits (h : c.AtRest ns status) (hserved : ctx.servedVersion.check = .ok ())
    {vs : List ((Call → Option ApiError) × Instant)} (hdead : ∀ v ∈ vs, c.job.deadlineReached v.2 = false) :
    (c.visits ctx vs = c ∨ c.visits ctx vs = c.caughtUp ctx status) ∧
      ∀ us v ws a, vs = us ++ v :: ws →
        ((c.visits ctx us).visit v.1 ctx v.2).result = .ok a →
        c.visits ctx vs = c.caughtUp ctx status := by
  induction vs with
  | nil => exact ⟨.inl rfl, fun us v ws a hvs => by simp at hvs⟩
  | cons u more ih =>
    have hu := h.isPastDeadline_eq (hdead u List.mem_cons_self)
    have hmore : ∀ w ∈ more, c.job.deadlineReached w.2 = false :=
      fun w hw => hdead w (List.mem_cons_of_mem u hw)
    obtain ⟨hstate, hok⟩ := h.state_visit hserved hu u.1
    have hcons : c.visits ctx (u :: more) = ((c.visit u.1 ctx u.2).state).visits ctx more := rfl
    have hcaught : (c.visit u.1 ctx u.2).state = c.caughtUp ctx status →
        c.visits ctx (u :: more) = c.caughtUp ctx status := by
      intro hup
      rw [hcons, hup, h.visits_caughtUp hserved hmore]
    obtain ⟨ihstate, ihok⟩ := ih hmore
    refine ⟨?_, fun us v ws a hvs ha => ?_⟩
    · rcases hstate with hsame | hup
      · rw [hcons, hsame]
        exact ihstate
      · exact .inr (hcaught hup)
    · rcases hstate with hsame | hup
      · cases us with
        | nil =>
          obtain ⟨rfl, rfl⟩ := List.cons.inj hvs
          exact hcaught (hok a ha)
        | cons u' us =>
          obtain ⟨rfl, hmore'⟩ := List.cons.inj hvs
          have hus : c.visits ctx (u :: us) = c.visits ctx us := by
            show ((c.visit u.1 ctx u.2).state).visits ctx us = _
            rw [hsame]
          rw [hus] at ha
          rw [hcons, hsame]
          exact ihok us v ws a hmore' ha
      · exact hcaught hup

/-- Every visit before the deadline makes and deletes nothing, whichever of its calls fail, and
after one that succeeded or in which nothing failed none reports either. -/
def Quiet (ctx : OperatorContext) (c : Cluster) : Prop :=
  ∀ (vs : List ((Call → Option ApiError) × Instant)) (fails : Call → Option ApiError)
    (later : Instant), (∀ v ∈ vs, c.job.deadlineReached v.2 = false) →
    c.job.deadlineReached later = false →
    ∀ call ∈ ((c.visits ctx vs).visit fails ctx later).calls, call.isQuiet = true ∧
      ((∃ us v ws, vs = us ++ v :: ws ∧ ((∀ call, v.1 call = none) ∨
          ∃ a, ((c.visits ctx us).visit v.1 ctx v.2).result = .ok a)) →
        ∀ ns' name s, call ≠ .patchStatus ns' name s)

theorem AtRest.quiet (h : c.AtRest ns status) (hserved : ctx.servedVersion.check = .ok ()) :
    c.Quiet ctx := by
  intro vs fails later hdead hlater call hcall
  have hnow := h.isPastDeadline_eq hlater
  obtain ⟨hstate, hcaught⟩ := h.visits hserved hdead
  refine ⟨?_, ?_⟩
  · rcases hstate with hsame | hup
    · rw [hsame] at hcall
      exact (h.calls_visit hserved hnow fails call hcall).1
    · rw [hup] at hcall
      exact ((h.caughtUp ctx).calls_visit hserved hnow fails call hcall).1
  · rintro ⟨us, v, ws, rfl, hv⟩ ns' name s hpatch
    obtain ⟨a, ha⟩ : ∃ a, ((c.visits ctx us).visit v.1 ctx v.2).result = .ok a := by
      rcases hv with hnone | hok
      · have hbefore : ∀ u ∈ us, c.job.deadlineReached u.2 = false :=
          fun u hu => hdead u (List.mem_append_left _ hu)
        have hstill : (c.visits ctx us).job.Accepted ns := by
          rcases (h.visits hserved hbefore).1 with hsame | hup
          · rw [hsame]
            exact h.accepted
          · rw [hup]
            exact (h.caughtUp ctx).accepted
        exact visit_succeeds hstill hserved hnone v.2
      · exact hok
    rw [hcaught us v ws a rfl ha] at hcall
    exact ((h.caughtUp ctx).calls_visit hserved hnow fails call hcall).2 ns' name s hpatch rfl

/-! ## Clusters whose statuses cannot be written -/

/-- The cluster would be at rest if its job carried the status; it has the restarts of it. -/
structure Unreported (c : Cluster) (ns : String) (status : JobStatus) : Prop where
  rest : (c.withStatus status).AtRest ns status
  unfinished : c.job.isFinished = false
  counts : (c.job.status.getD {}).restartCount = status.restartCount

namespace Unreported

variable {e : JobError}

theorem accepted (h : c.Unreported ns status) : c.job.Accepted ns where
  inNamespace := h.rest.accepted.inNamespace
  alive := h.rest.accepted.alive
  unfinished := h.unfinished
  valid := h.rest.accepted.valid

theorem goesOn (h : c.Unreported ns status) (hdead : c.job.deadlineReached now = false) :
    (c.transition now).isFinished = false ∧ (c.transition now).restart = [] := by
  have hnone : ∀ p ∈ c.observed, ¬ MustRestart c.job.spec p := h.rest.steady.whole
  have hwhole : (c.observed.filter fun p => MustRestart c.job.spec p).map (·.name) = [] := by
    simpa using hnone
  have hwithin : exceedsBackoff c.job.spec (c.job.status.getD {}) c.observed [] = false := by
    have hlimit := h.rest.steady.withinLimit
    unfold exceedsBackoff at hlimit ⊢
    rw [h.counts]
    exact hlimit
  have hgoesOn : (c.transition now).isFinished = false := by
    rw [Bool.eq_false_iff, ne_eq, transition, Job.isFinished_nextStatus_iff h.unfinished, hwhole]
    rintro (⟨p, hp, hfails⟩ | hback | hpast | hsucc)
    · exact h.rest.steady.goesOn p hp hfails
    · exact absurd hback (Bool.eq_false_iff.1 hwithin)
    · exact absurd hpast (Bool.eq_false_iff.1 hdead)
    · exact absurd hsucc (Bool.eq_false_iff.1 h.rest.steady.incomplete)
  exact ⟨hgoesOn, (Job.restart_nextStatus h.unfinished hgoesOn).trans hwhole⟩

/-- What is left of the schedule is to keep the pod group. -/
theorem exists_group_of_mem_steps (h : c.Unreported ns status)
    (hunserved : ctx.servedVersion.check = .error e)
    (hdead : c.job.deadlineReached now = false) {call : Call}
    (hmem : .ok call ∈ (c.job.schedule ctx ns c.pods.values c.services now).steps) :
    ∃ g, call = .applyPodGroup ns g := by
  obtain ⟨hgoesOn, hrestart⟩ := h.goesOn hdead
  have hplan : ChildPlan.make c.job.name c.job.spec c.observed c.services [] = _ :=
    h.rest.plan_eq
  rw [schedule_of_goesOn _ hgoesOn, Job.unfinishedSchedule_steps h.accepted.inNamespace,
    Job.reportSteps_of_unserved hunserved, hrestart, hplan] at hmem
  simp only [Job.additions, Job.removals, Job.groupCalls, List.map_nil, List.append_nil,
    List.mem_append, List.mem_map, List.mem_singleton, reduceCtorEq, Except.ok.injEq,
    exists_eq_right, or_false] at hmem
  obtain ⟨g, -, rfl⟩ := hmem
  exact ⟨g, rfl⟩

/-- A visit leaves the cluster as it is, and it neither makes, deletes nor reports anything. -/
theorem visit (h : c.Unreported ns status) (hunserved : ctx.servedVersion.check = .error e)
    (hdead : c.job.deadlineReached now = false) (fails : Call → Option ApiError) :
    (c.visit fails ctx now).state = c ∧ ∀ call ∈ (c.visit fails ctx now).calls,
      call.isQuiet = true ∧ ∀ ns' name s, call ≠ .patchStatus ns' name s := by
  obtain ⟨hstate, hcalls, -⟩ | ⟨-, -, hvisit⟩ := visit_cases h.accepted fails ctx now
  · refine ⟨hstate, fun call hcall => ?_⟩
    rcases hcalls call hcall with rfl | rfl
    · exact ⟨rfl, fun _ _ _ => Call.noConfusion⟩
    · exact ⟨rfl, fun _ _ _ => Call.noConfusion⟩
  rw [hvisit]
  constructor
  · obtain ⟨done, ⟨rest, hsteps⟩, -, hstate, -⟩ := Schedule.run_failing fails c
      (c.job.schedule ctx ns c.pods.values c.services now).action
      (c.job.schedule ctx ns c.pods.values c.services now).steps
    refine hstate.trans (afterAll_eq_self fun call hcall => ?_)
    obtain ⟨g, rfl⟩ := h.exists_group_of_mem_steps hunserved hdead
      (hsteps ▸ List.mem_append_left rest (List.mem_map_of_mem hcall))
    rfl
  · intro call hcall
    simp only [List.mem_cons] at hcall
    rcases hcall with rfl | rfl | hcall
    · exact ⟨rfl, fun _ _ _ => Call.noConfusion⟩
    · exact ⟨rfl, fun _ _ _ => Call.noConfusion⟩
    obtain ⟨g, rfl⟩ :=
      h.exists_group_of_mem_steps hunserved hdead (Schedule.mem_steps_of_mem_calls hcall)
    exact ⟨rfl, fun _ _ _ => Call.noConfusion⟩

theorem visits (h : c.Unreported ns status) (hunserved : ctx.servedVersion.check = .error e)
    {vs : List ((Call → Option ApiError) × Instant)}
    (hdead : ∀ v ∈ vs, c.job.deadlineReached v.2 = false) : c.visits ctx vs = c := by
  induction vs with
  | nil => rfl
  | cons v more ih =>
    show ((c.visit v.1 ctx v.2).state).visits ctx more = c
    rw [(h.visit hunserved (hdead v List.mem_cons_self) v.1).1]
    exact ih fun w hw => hdead w (List.mem_cons_of_mem v hw)

theorem quiet (h : c.Unreported ns status) (hunserved : ctx.servedVersion.check = .error e) :
    c.Quiet ctx := by
  intro vs fails later hdead hlater call hcall
  rw [h.visits hunserved hdead] at hcall
  obtain ⟨hquiet, hreport⟩ := (h.visit hunserved hlater fails).2 call hcall
  exact ⟨hquiet, fun _ => hreport⟩

end Unreported

/-- The pods have shown up after a visit that could not report. -/
theorem ShowsUp.unreported (hacc : c.job.Accepted ns) (hd : c.job.spec.TypesDistinct)
    (howned : c.Owned) (hgoesOn : (c.transition now).isFinished = false)
    (hrestart : (c.transition now).restart = [])
    (hshows : ShowsUp c { c.aligned ctx ns (c.transition now).status with job := c.job } settled)
    (hlimit : settled.WithinBackoff) :
    settled.Unreported ns (c.job.reported ctx (c.transition now).status) := by
  have hjob : settled.job = c.job := hshows.job
  have hstep : Step ⟨c.job.metadata, c.job.spec, c.observed, now⟩ c.job.status
      (c.transition now) := .advance
  have hcount : (settled.job.status.getD {}).restartCount =
      (c.transition now).status.restartCount := by
    rw [hstep.restartCount_eq, hrestart, hjob]
    exact (Int32.add_zero _).symm
  let reported := c.job.reported ctx (c.transition now).status
  have hreported : ShowsUp c (c.aligned ctx ns (c.transition now).status)
      (settled.withStatus reported) := by
    refine ⟨?_, hshows.services, hshows.names, hshows.old, hshows.new⟩
    rw [job_aligned]
    exact congrArg (fun j : Job => { j with status := some reported }) hjob
  have hwithin : (settled.withStatus reported).WithinBackoff := by
    unfold WithinBackoff exceedsBackoff at hlimit ⊢
    rw [hcount] at hlimit
    exact hlimit
  exact {
    rest := hreported.atRest hacc hd howned hgoesOn hrestart hwithin
    unfinished := hjob ▸ hacc.unfinished
    counts := hcount }

/-- **Reconciling converges and then rests.** One visit without failing calls that goes on and makes
no pod anew leaves exactly the pods and the services of the declared replicas, the pods by their
names and by their labels. Once the new pods have shown up, and as long as no pod changes, the
cluster is quiet, unless the restarts that the new pods show exceed the limit of the job. -/
theorem visit_converges (hacc : c.job.Accepted ns) (hd : c.job.spec.TypesDistinct)
    (howned : c.Owned) (hgoesOn : (c.transition now).isFinished = false)
    (hrestart : (c.transition now).restart = []) (ctx : OperatorContext) :
    let after := (c.visit (fun _ => none) ctx now).state
    after.pods.keys.Perm (c.job.spec.declaredNames c.job.name) ∧
    (∀ n p, after.pods.get? n = some p → ∃ r ∈ c.job.spec.declaredReplicas,
      n = replicaName c.job.name r.1 r.2 ∧ p.Labelled r.1 r.2) ∧
    after.services.keys.Perm (c.job.spec.declaredNames c.job.name) ∧
    ∀ settled, ShowsUp c after settled → settled.WithinBackoff → settled.Quiet ctx := by
  intro after
  let k := c.aligned ctx ns (c.transition now).status
  have hstate : after = k ∧ ctx.servedVersion.check = .ok () ∨
      after = { k with job := c.job } ∧ ∃ e, ctx.servedVersion.check = .error e := by
    cases hserved : ctx.servedVersion.check with
    | ok => exact .inl ⟨state_visit_eq_aligned hacc hserved hgoesOn hrestart, rfl⟩
    | error e =>
      exact .inr ⟨state_visit_eq_unreported hacc hserved hgoesOn hrestart, e, rfl⟩
  have hchildren : after.pods = k.pods ∧ after.services = k.services := by
    rcases hstate with ⟨hafter, -⟩ | ⟨hafter, -⟩ <;> rw [hafter] <;> exact ⟨rfl, rfl⟩
  rw [hchildren.1, hchildren.2]
  refine ⟨?_, fun n p hp => howned.labelled_aligned hd hacc.inNamespace hp, ?_, ?_⟩
  · exact (List.perm_ext_iff_of_nodup (Dict.nodup_keys _) (hd.nodup_declaredNames _)).2 fun n =>
      howned.mem_pods_aligned_iff hd hacc.inNamespace
  · exact (List.perm_ext_iff_of_nodup (Dict.nodup_keys _) (hd.nodup_declaredNames _)).2 fun n =>
      mem_services_aligned_iff hacc.inNamespace
  intro settled hshows hlimit
  rcases hstate with ⟨hafter, hserved⟩ | ⟨hafter, e, hunserved⟩
  · rw [hafter] at hshows
    exact (hshows.atRest hacc hd howned hgoesOn hrestart hlimit).quiet hserved
  · rw [hafter] at hshows
    exact (hshows.unreported hacc hd howned hgoesOn hrestart hlimit).quiet hunserved

def workersJob (replicas : Int32) : Job where
  metadata := { name := some "mnist", namespace_ := some "ml" }
  spec := {
    replicaSpecs := Dict.ofList
      [("Worker",
        { replicas := replicas
          template := { spec := some { containers := [{ name := "trainer" }] } } })] }

/-- Two workers are wanted; a third is left from an earlier spec, and a service of nobody. -/
def unalignedCluster : Cluster :=
  ({ job := workersJob 2, services := NameSet.ofNames ["stray"] } : Cluster).addPod
    ((workersJob 3).childPod .none ("Worker", 2))

/-- The unaligned cluster comes to rest with its two workers as they were created. -/
theorem visit_converges_unaligned :
    let c := unalignedCluster
    let now := Instant.ofSeconds 1714557600
    let after := (c.visit (fun _ => none) plainContext now).state
    (c.job.Accepted "ml" ∧ c.job.spec.TypesDistinct ∧ c.Owned ∧
      (c.transition now).isFinished = false ∧ (c.transition now).restart = []) ∧
    ShowsUp c after after ∧ after.WithinBackoff ∧
    after.pods.keys.Perm ["mnist-worker-0", "mnist-worker-1"] ∧ after.Quiet plainContext := by
  intro c now after
  have hacc : c.job.Accepted "ml" := ⟨rfl, rfl, rfl, by decide⟩
  have hd : c.job.spec.TypesDistinct := by decide
  have howned : c.Owned := by
    have hempty : ({ job := workersJob 2, services := NameSet.ofNames ["stray"] } :
        Cluster).Owned := fun n p hp => by cases hp
    have hmem : ("Worker", 2) ∈ (workersJob 3).spec.declaredReplicas := by decide
    exact hempty.addPod ⟨rfl, (workersJob 3).spec, "Worker", 2, .none, _, by decide,
      Job.pod_childPod rfl hmem .none, rfl, rfl⟩
  have hgoesOn : (c.transition now).isFinished = false := by decide
  have hrestart : (c.transition now).restart = [] := by decide
  have hcome : ∀ e ∈ after.pods.entries,
      e.2.metadata.deletionTimestamp = none ∧ e.2.HasJustCome := by decide
  have hshows : ShowsUp c after after := by
    refine ⟨rfl, rfl, fun _ => Iff.rfl, fun _ _ _ => rfl, fun n p q _ hp hq => ?_⟩
    obtain ⟨halive, hjust⟩ := hcome (n, q) (Dict.mem_entries_iff.2 hq)
    rw [hp, Option.some.injEq] at hq
    exact ⟨hq ▸ rfl, hq ▸ rfl, halive, hjust⟩
  have hlimit : after.WithinBackoff := by decide
  obtain ⟨hpods, -, -, hquiet⟩ :=
    visit_converges hacc hd howned hgoesOn hrestart plainContext
  have hnames : c.job.spec.declaredNames c.job.name = ["mnist-worker-0", "mnist-worker-1"] := by
    decide
  rw [hnames] at hpods
  exact ⟨⟨hacc, hd, howned, hgoesOn, hrestart⟩, hshows, hlimit, hpods,
    hquiet after hshows hlimit⟩

/-- A job of one worker that fails with the first restart. -/
def impatientJob : Job where
  metadata := { name := some "mnist", namespace_ := some "ml" }
  spec := {
    replicaSpecs := Dict.ofList
      [("Worker",
        { replicas := 1
          restartPolicy := .onFailure
          template := { spec := some { containers := [{ name := "trainer" }] } } })]
    runPolicy := { backoffLimit := some 0 } }

/-- Its worker has shown up as pending, with a container that has been restarted already. -/
def impatientCluster : Cluster :=
  (({ job := impatientJob } : Cluster).visit (fun _ => none) plainContext
    (Instant.ofSeconds 1714557600)).state.setPodStatus "mnist-worker-0"
      { phase := some "Pending"
        containerStatuses := some [{ name := "trainer", restartCount := 1 }] }

/-- The job is being deleted, and it is still unfinished. -/
def leavingCluster : Cluster where
  job := { impatientJob with
    metadata := { impatientJob.metadata with
      deletionTimestamp := some (Instant.ofSeconds 1714557600) } }

/-- The next visit fails the impatient job and takes its new worker away again; and no children come
to a job that is being deleted. -/
theorem not_quiet_impatient :
    let c : Cluster := { job := impatientJob }
    let now := Instant.ofSeconds 1714557600
    let after := (c.visit (fun _ => none) plainContext now).state
    (c.job.Accepted "ml" ∧ c.job.spec.TypesDistinct ∧ c.Owned ∧
      (c.transition now).isFinished = false ∧ (c.transition now).restart = []) ∧
    (ShowsUp c after impatientCluster ∧ impatientCluster.job.deadlineReached now = false ∧
      Call.deletePod "ml" "mnist-worker-0" ∈
        (impatientCluster.visit (fun _ => none) plainContext now).calls ∧
      ¬ impatientCluster.Quiet plainContext) ∧
    (leavingCluster.job.namespace? = some "ml" ∧ leavingCluster.job.spec.check = .ok () ∧
      leavingCluster.Owned ∧
      (leavingCluster.visit (fun _ => none) plainContext now).result = .ok .await ∧
      (leavingCluster.visit (fun _ => none) plainContext now).state = leavingCluster ∧
      leavingCluster.job.isFinished = false ∧ leavingCluster.pods.keys = [] ∧
      leavingCluster.job.spec.declaredNames leavingCluster.job.name = ["mnist-worker-0"]) := by
  intro c now after
  have hnobody : ∀ j : Job, ({ job := j } : Cluster).Owned := fun j n p hp => by cases hp
  have hcome : ∀ e ∈ impatientCluster.pods.entries, e.2.metadata.deletionTimestamp = none ∧
      e.2.HasJustCome ∧ (after.pods.get? e.1).map (·.metadata) = some e.2.metadata := by
    decide +kernel
  have hkeys : impatientCluster.pods.keys = after.pods.keys := by decide +kernel
  have hshows : ShowsUp c after impatientCluster := by
    refine ⟨by decide +kernel, by decide +kernel, fun n => by rw [hkeys],
      fun n p hp => absurd hp (by simp [c]), fun n p q _ hp hq => ?_⟩
    obtain ⟨halive, hjust, hmeta⟩ := hcome (n, q) (Dict.mem_entries_iff.2 hq)
    rw [hp, Option.map_some, Option.some.injEq] at hmeta
    exact ⟨hmeta ▸ rfl, hmeta ▸ rfl, halive, hjust⟩
  have hdead : impatientCluster.job.deadlineReached now = false := by decide +kernel
  have hdelete : Call.deletePod "ml" "mnist-worker-0" ∈
      (impatientCluster.visit (fun _ => none) plainContext now).calls := by decide +kernel
  have hloud : ¬ impatientCluster.Quiet plainContext := by
    intro hquiet
    have hkept := hquiet [] (fun _ => none) now (fun v hv => by cases hv) hdead _ hdelete
    exact absurd hkept.1 (by decide)
  have hchecked : c.job.spec.check = .ok () := by decide +kernel
  have hdistinct : c.job.spec.TypesDistinct := by decide +kernel
  have hgoesOn : (c.transition now).isFinished = false ∧ (c.transition now).restart = [] := by
    decide +kernel
  have hnames : leavingCluster.job.spec.declaredNames leavingCluster.job.name =
      ["mnist-worker-0"] := by decide +kernel
  exact ⟨⟨⟨rfl, rfl, rfl, hchecked⟩, hdistinct, hnobody _, hgoesOn⟩,
    ⟨hshows, hdead, hdelete, hloud⟩,
    rfl, hchecked, hnobody _, rfl, rfl, rfl, rfl, hnames⟩

end Cluster

end TrainingJobs
