import Mathlib.Data.List.Nodup
import TrainingJobs.Proofs.ChildPlan
import TrainingJobs.Proofs.Reconcile.Visit

/-!
# A visit brings the children in line

In a cluster whose pods were all built for the job (`Cluster.Owned`), a pod is one of a declared
replica just if its name is that of one (`Owned.declares_iff`), although creation goes by names and
deletion by labels. So after the calls for an unfinished job that makes no pod anew, pods and
services are exactly those of the declared replicas (`Owned.mem_pods_aligned_iff`,
`mem_services_aligned_iff`).
-/

namespace TrainingJobs

open Text

/-- Every pod of the cluster stands under its name. -/
def Cluster.Named (c : Cluster) : Prop :=
  ∀ n p, c.pods.get? n = some p → p.metadata.displayName = n

/-- Every pod of the cluster stands under its name and was built for the job of the cluster. -/
def Cluster.Owned (c : Cluster) : Prop :=
  ∀ n p, c.pods.get? n = some p → p.metadata.displayName = n ∧ p.BuiltFor c.job

namespace Cluster

variable {c : Cluster} {n ns : String} {p : Pod} {o : ObservedPod} {ctx : OperatorContext}

/-! ## What is observed of the cluster -/

theorem Owned.named (howned : c.Owned) : c.Named := fun n p hp => (howned n p hp).1

theorem mem_observed_iff (hnamed : c.Named) :
    o ∈ c.observed ↔ ∃ p, c.pods.get? o.name = some p ∧ ObservedPod.ofPod? p = some o := by
  simp only [observed, List.mem_filterMap, Dict.mem_values_iff]
  constructor
  · rintro ⟨p, ⟨n, hn⟩, ho⟩
    have hname : n = o.name := by rw [ObservedPod.name_of_ofPod? ho, hnamed n p hn]
    exact ⟨p, hname ▸ hn, ho⟩
  · rintro ⟨p, hp, ho⟩
    exact ⟨p, ⟨o.name, hp⟩, ho⟩

theorem nodup_names_observed (hnamed : c.Named) : (c.observed.map (·.name)).Nodup := by
  have hkeys : c.pods.entries.Pairwise fun a b =>
      a.2.metadata.displayName ≠ b.2.metadata.displayName := by
    refine c.pods.increasing.pairwise_ne.imp_of_mem fun {a b} ha hb hne => ?_
    have ha' := hnamed a.1 a.2 (Dict.mem_entries_iff.1 ha)
    have hb' := hnamed b.1 b.2 (Dict.mem_entries_iff.1 hb)
    rwa [ha', hb']
  unfold observed Dict.values
  rw [List.Nodup, List.pairwise_map, List.pairwise_filterMap, List.pairwise_map]
  refine hkeys.imp fun {a b} hne o ho o' ho' => ?_
  rwa [ObservedPod.name_of_ofPod? ho, ObservedPod.name_of_ofPod? ho']

theorem Owned.observed_as (howned : c.Owned) (hp : c.pods.get? n = some p) :
    ∃ type i, 0 ≤ i ∧ p.IsReplica c.job.name type i ∧ n = replicaName c.job.name type i ∧
      ObservedPod.ofPod? p = some (p.observedAs type i) ∧ p.observedAs type i ∈ c.observed := by
  obtain ⟨hname, hbuilt⟩ := howned n p hp
  obtain ⟨type, i, hi, hreplica⟩ := hbuilt.isReplica
  refine ⟨type, i, hi, hreplica, hname ▸ hreplica.name, hreplica.ofPod?_eq, ?_⟩
  refine (mem_observed_iff howned.named).2 ⟨p, ?_, hreplica.ofPod?_eq⟩
  show c.pods.get? p.metadata.displayName = some p
  rw [hname, hp]

theorem Owned.addPod (howned : c.Owned) (hp : p.BuiltFor c.job) : (c.addPod p).Owned := by
  intro n q hq
  have hget : (c.addPod p).pods.get? n =
      if n = p.metadata.displayName then some p else c.pods.get? n := Dict.get?_insert _ _ _ _
  rw [hget] at hq
  split at hq
  next hn =>
    rw [← Option.some.inj hq]
    exact ⟨hn.symm, hp⟩
  next => exact howned n q hq

theorem Owned.namedFor (howned : c.Owned) (ho : o ∈ c.observed) : o.NamedFor c.job.name := by
  obtain ⟨p, hp, hop⟩ := (mem_observed_iff howned.named).1 ho
  obtain ⟨type, i, hi, -, hn, hop', -⟩ := howned.observed_as hp
  rw [hop, Option.some.injEq] at hop'
  refine ⟨?_, ?_⟩
  · rw [hop']
    exact hi
  · rw [hn, hop']
    exact replicaName_congr (lower_lower type).symm i

theorem Owned.declares_iff (howned : c.Owned) (hd : c.job.spec.TypesDistinct)
    (ho : o ∈ c.observed) :
    c.job.spec.declares o = true ↔ o.name ∈ c.job.spec.declaredNames c.job.name :=
  (howned.namedFor ho).declares_iff hd

theorem Owned.mem_names_observed_iff (howned : c.Owned) :
    n ∈ c.observed.map (·.name) ↔ ∃ p, c.pods.get? n = some p := by
  rw [List.mem_map]
  constructor
  · rintro ⟨o, ho, rfl⟩
    obtain ⟨p, hp, -⟩ := (mem_observed_iff howned.named).1 ho
    exact ⟨p, hp⟩
  · rintro ⟨p, hp⟩
    obtain ⟨type, i, -, -, -, -, ho⟩ := howned.observed_as hp
    exact ⟨_, ho, (howned n p hp).1⟩

/-! ## What the calls do -/

def plan (c : Cluster) : ChildPlan :=
  ChildPlan.make c.job.name c.job.spec c.observed c.services []

/-- The cluster after the calls for an unfinished job. -/
def aligned (ctx : OperatorContext) (ns : String) (c : Cluster) (status : JobStatus) : Cluster :=
  c.afterAll (c.job.additions ctx ns c.plan
    ++ (Job.removals ns c.plan.deletePods c.plan.deleteServices ++ c.job.report ctx ns status))

theorem mem_deletePods_iff (howned : c.Owned) (hd : c.job.spec.TypesDistinct) :
    n ∈ c.plan.deletePods ↔
      (∃ p, c.pods.get? n = some p) ∧ n ∉ c.job.spec.declaredNames c.job.name := by
  rw [plan, ChildPlan.mem_deletePods_iff hd fun o ho => howned.namedFor ho,
    howned.mem_names_observed_iff]
  simp only [List.not_mem_nil, or_false]

theorem mem_createPods_iff (howned : c.Owned) {r : String × Int32} :
    r ∈ c.plan.createPods ↔
      r ∈ c.job.spec.declaredReplicas ∧
        c.pods.get? (replicaName c.job.name r.1 r.2) = none := by
  rw [plan, ChildPlan.mem_createPods_iff, howned.mem_names_observed_iff,
    Option.eq_none_iff_forall_ne_some, not_exists]

section Aligned

variable {status : JobStatus}

theorem adds_removals_report {pods services : List String} {call : Call}
    (h : call ∈ Job.removals ns pods services ++ c.job.report ctx ns status) :
    call.adds = false := by
  rcases List.mem_append.1 h with h | h
  · exact Job.adds_removals h
  · exact (Job.removes_report h).2

theorem get?_pods_aligned (n : String) :
    (c.aligned ctx ns status).pods.get? n =
      if n ∈ c.plan.deletePods then none
      else (c.pods.get? n).or ((c.job.additions ctx ns c.plan).findSome? (·.newPod? n)) := by
  rw [aligned, afterAll_append, get?_pods_of_removing fun _ => adds_removals_report,
    get?_pods_of_adding fun _ => Job.removes_additions]
  simp only [Job.any_removesPod_removals fun _ hcall => (Job.removes_report hcall).1]

theorem job_aligned :
    (c.aligned ctx ns status).job =
      { c.job with status := some (c.job.reported ctx status) } := by
  unfold aligned
  rw [← List.append_assoc]
  exact job_afterAll_report fun _ => Job.ne_patchStatus_of_mem_children

theorem Owned.get?_aligned_of_not_mem (howned : c.Owned) (hd : c.job.spec.TypesDistinct)
    (hns : c.job.namespace? = some ns) (hn : n ∉ c.job.spec.declaredNames c.job.name) :
    (c.aligned ctx ns status).pods.get? n = none := by
  rw [get?_pods_aligned]
  split
  next => rfl
  next hkeep =>
  have hnone : c.pods.get? n = none := by
    rw [Option.eq_none_iff_forall_ne_some]
    exact fun p hp => hkeep ((mem_deletePods_iff howned hd).2 ⟨⟨p, hp⟩, hn⟩)
  rw [hnone, Option.none_or, List.findSome?_eq_none_iff]
  intro call hcall
  simp only [Job.additions, Job.groupCalls, List.mem_append, List.mem_map] at hcall
  rcases hcall with (⟨g, -, rfl⟩ | ⟨r, -, rfl⟩) | ⟨r, hr, rfl⟩
  · rfl
  · rfl
  · have hmem := ((mem_createPods_iff howned).1 hr).1
    have hname := (metadata_of_pod (Job.pod_childPod hns hmem ctx.options.gangScheduler)).1
    simp only [Call.newPod?]
    rw [if_neg]
    rintro rfl
    exact hn (JobSpec.mem_declaredNames_iff.2 ⟨r, hmem, hname.symm⟩)

theorem Owned.get?_aligned_of_some (howned : c.Owned) (hd : c.job.spec.TypesDistinct)
    (hn : n ∈ c.job.spec.declaredNames c.job.name) (hp : c.pods.get? n = some p) :
    (c.aligned ctx ns status).pods.get? n = some p := by
  rw [get?_pods_aligned, if_neg, hp, Option.some_or]
  exact fun hdel => ((mem_deletePods_iff howned hd).1 hdel).2 hn

theorem Owned.get?_aligned_of_none (howned : c.Owned) (hd : c.job.spec.TypesDistinct)
    (hns : c.job.namespace? = some ns) (hn : n ∈ c.job.spec.declaredNames c.job.name)
    (hp : c.pods.get? n = none) :
    ∃ r ∈ c.job.spec.declaredReplicas, replicaName c.job.name r.1 r.2 = n ∧
      (c.aligned ctx ns status).pods.get? n =
        some (fresh (c.job.childPod ctx.options.gangScheduler r)) := by
  rw [get?_pods_aligned, if_neg fun hdel => ((mem_deletePods_iff howned hd).1 hdel).2 hn, hp,
    Option.none_or]
  have hcreated : ∀ r ∈ c.plan.createPods,
      (c.job.childPod ctx.options.gangScheduler r).metadata.displayName =
        replicaName c.job.name r.1 r.2 := fun r hr =>
    (metadata_of_pod (Job.pod_childPod hns ((mem_createPods_iff howned).1 hr).1 _)).1
  cases hfind : (c.job.additions ctx ns c.plan).findSome? (·.newPod? n) with
  | none =>
    obtain ⟨r, hr, hname⟩ := JobSpec.mem_declaredNames_iff.1 hn
    have hcreate : r ∈ c.plan.createPods :=
      (mem_createPods_iff howned).2 ⟨hr, by rw [hname, hp]⟩
    have hcall : Call.createPod ns (c.job.childPod ctx.options.gangScheduler r) ∈
        c.job.additions ctx ns c.plan := by
      simp only [Job.additions, Job.groupCalls, List.mem_append, List.mem_map]
      exact .inr ⟨r, hcreate, rfl⟩
    have hnot := List.findSome?_eq_none_iff.1 hfind _ hcall
    simp only [Call.newPod?, hcreated r hcreate, hname, if_true] at hnot
    cases hnot
  | some q =>
    obtain ⟨call, hcall, hq⟩ := List.exists_of_findSome?_eq_some hfind
    simp only [Job.additions, Job.groupCalls, List.mem_append, List.mem_map] at hcall
    rcases hcall with (⟨g, -, rfl⟩ | ⟨r, -, rfl⟩) | ⟨r, hr, rfl⟩
    · cases hq
    · cases hq
    · simp only [Call.newPod?, hcreated r hr] at hq
      split at hq
      next hname =>
        rw [← Option.some.inj hq]
        exact ⟨r, ((mem_createPods_iff howned).1 hr).1, hname, rfl⟩
      next => cases hq

/-- After the calls the pods are those of the declared replicas. -/
theorem Owned.mem_pods_aligned_iff (howned : c.Owned) (hd : c.job.spec.TypesDistinct)
    (hns : c.job.namespace? = some ns) :
    n ∈ (c.aligned ctx ns status).pods.keys ↔ n ∈ c.job.spec.declaredNames c.job.name := by
  rw [Dict.mem_keys_iff]
  constructor
  · rintro ⟨p, hp⟩
    refine Classical.byContradiction fun hn => ?_
    rw [howned.get?_aligned_of_not_mem hd hns hn] at hp
    cases hp
  · intro hn
    cases hp : c.pods.get? n with
    | some p => exact ⟨p, howned.get?_aligned_of_some hd hn hp⟩
    | none =>
      obtain ⟨r, -, -, hnew⟩ := howned.get?_aligned_of_none hd hns hn hp
      exact ⟨_, hnew⟩

/-- By their labels, too, they are pods of declared replicas. -/
theorem Owned.labelled_aligned (howned : c.Owned) (hd : c.job.spec.TypesDistinct)
    (hns : c.job.namespace? = some ns) (hp : (c.aligned ctx ns status).pods.get? n = some p) :
    ∃ r ∈ c.job.spec.declaredReplicas, n = replicaName c.job.name r.1 r.2 ∧
      p.Labelled r.1 r.2 := by
  have hn : n ∈ c.job.spec.declaredNames c.job.name :=
    (howned.mem_pods_aligned_iff hd hns).1 (Dict.mem_keys_iff.2 ⟨p, hp⟩)
  cases hold : c.pods.get? n with
  | some q =>
    rw [howned.get?_aligned_of_some hd hn hold, Option.some.injEq] at hp
    subst hp
    obtain ⟨type, i, hi, hreplica, -, -, -⟩ := howned.observed_as hold
    obtain ⟨⟨type', i'⟩, hr, hname⟩ := JobSpec.mem_declaredNames_iff.1 hn
    obtain ⟨-, -, hi', -⟩ := JobSpec.mem_declaredReplicas_iff.1 hr
    refine ⟨(type', i'), hr, hname.symm, hreplica.labelled_of_name hi hi' ?_⟩
    exact (howned n q hold).1.trans hname.symm
  | none =>
    obtain ⟨r, hr, hname, hnew⟩ : ∃ r ∈ c.job.spec.declaredReplicas,
        replicaName c.job.name r.1 r.2 = n ∧ (c.aligned ctx ns status).pods.get? n =
          some (fresh (c.job.childPod ctx.options.gangScheduler r)) :=
      howned.get?_aligned_of_none hd hns hn hold
    rw [hp, Option.some.injEq] at hnew
    rw [hnew]
    exact ⟨r, hr, hname.symm, (metadata_of_pod (Job.pod_childPod hns hr _)).2⟩

/-- So are the services, whichever there were before. -/
theorem mem_services_aligned_iff (hns : c.job.namespace? = some ns) :
    n ∈ (c.aligned ctx ns status).services.keys ↔
      n ∈ c.job.spec.declaredNames c.job.name := by
  have hadded : (c.job.additions ctx ns c.plan).any (·.addsService n) = true ↔
      n ∈ c.job.spec.declaredNames c.job.name ∧ n ∉ c.services.keys := by
    rw [List.any_eq_true, JobSpec.mem_declaredNames_iff]
    constructor
    · rintro ⟨call, hcall, hadds⟩
      simp only [Job.additions, Job.groupCalls, List.mem_append, List.mem_map] at hcall
      rcases hcall with (⟨g, -, rfl⟩ | ⟨r, hr, rfl⟩) | ⟨r, -, rfl⟩
      · cases hadds
      · obtain ⟨hmem, hmissing⟩ := List.mem_filter.1 hr
        have hname := (Job.service_childService hns hmem).2
        simp only [Call.addsService, decide_eq_true_eq] at hadds
        rw [hname] at hadds
        refine ⟨⟨r, hmem, hadds⟩, ?_⟩
        rw [← hadds, ← Dict.contains_iff]
        simpa using hmissing
      · cases hadds
    · rintro ⟨⟨r, hr, rfl⟩, hmissing⟩
      refine ⟨.createService ns (c.job.childService r), ?_, ?_⟩
      · simp only [Job.additions, Job.groupCalls, List.mem_append, List.mem_map]
        refine .inl (.inr ⟨r, List.mem_filter.2 ⟨hr, ?_⟩, rfl⟩)
        rw [← Dict.contains_iff] at hmissing
        simpa using hmissing
      · simp only [Call.addsService, (Job.service_childService hns hr).2, decide_true]
  have hremoved : n ∈ c.plan.deleteServices ↔
      n ∈ c.services.keys ∧ n ∉ c.job.spec.declaredNames c.job.name := by
    simp [plan, ChildPlan.make, JobSpec.declaredNames]
  rw [aligned, afterAll_append, mem_services_of_removing fun _ => adds_removals_report,
    mem_services_of_adding fun _ => Job.removes_additions, ← Bool.not_eq_true,
    Job.any_removesService_removals fun _ hcall => (Job.removes_report hcall).1, hadded, hremoved]
  by_cases hn : n ∈ c.job.spec.declaredNames c.job.name
  · by_cases hs : n ∈ c.services.keys <;> simp [hn, hs]
  · by_cases hs : n ∈ c.services.keys <;> simp [hn, hs]

/-- A visit without failing calls that goes on and makes no pod anew makes these calls. -/
theorem state_visit_eq_aligned {now : Instant} (h : c.job.Accepted ns)
    (hserved : ctx.servedVersion.check = .ok ())
    (hgoesOn : (c.transition now).isFinished = false)
    (hrestart : (c.transition now).restart = []) :
    (c.visit (fun _ => none) ctx now).state = c.aligned ctx ns (c.transition now).status := by
  obtain ⟨-, hstate⟩ := visit_of_goesOn h hserved hgoesOn
  rw [hstate, hrestart, List.append_assoc]
  rfl

/-- Without a valid API to report through it makes all of them but the report. -/
theorem state_visit_eq_unreported {now : Instant} {e : JobError} (h : c.job.Accepted ns)
    (hunserved : ctx.servedVersion.check = .error e)
    (hgoesOn : (c.transition now).isFinished = false)
    (hrestart : (c.transition now).restart = []) :
    (c.visit (fun _ => none) ctx now).state =
      { c.aligned ctx ns (c.transition now).status with job := c.job } := by
  let children := c.job.additions ctx ns c.plan
    ++ Job.removals ns c.plan.deletePods c.plan.deleteServices
  let report := c.job.report ctx ns (c.transition now).status
  have hvisit : (c.visit (fun _ => none) ctx now).state = c.afterAll children := by
    rw [state_visit_of_unserved h hunserved hgoesOn, hrestart]
    rfl
  have haligned : c.aligned ctx ns (c.transition now).status =
      (c.afterAll children).afterAll report := by
    rw [← afterAll_append, List.append_assoc]
    rfl
  have hjob : (c.afterAll children).job = c.job :=
    job_afterAll fun _ => Job.ne_patchStatus_of_mem_children
  have hreport : ∀ k : Cluster, k = { k.afterAll report with job := k.job } := by
    intro k
    simp only [report, Job.report]
    split <;> rfl
  rw [hvisit, haligned]
  exact (hreport _).trans (by rw [hjob])

end Aligned

end Cluster

end TrainingJobs
