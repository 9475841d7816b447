import TrainingJobs.Proofs.ChildPlan
import TrainingJobs.Proofs.Cleanup
import TrainingJobs.Proofs.Reconcile.Order
import TrainingJobs.Proofs.Replica.Built
import TrainingJobs.Proofs.Selectors

/-!
# What a reconcile touches

`Call.Touches` says of each kind of call what it may name: what was listed of the job's children,
the job itself, or a child that the job declares and that is missing. Every call of a reconcile
names only that, whatever the template of a replica says (`ObjectMeta.IsChildOf`) and whatever else
the listings show.
-/

namespace TrainingJobs

open Text

/-- The metadata of a child of the job: it is named for a declared replica, lies in the namespace of
the job, is found by its selector and belongs to nothing but the job. -/
structure ObjectMeta.IsChildOf (m : ObjectMeta) (j : Job) (ns type : String) (i : Int32) :
    Prop where
  declared : ∃ r, (type, r) ∈ j.spec.replicaSpecs.entries ∧ 0 ≤ i ∧ i < r.replicas
  name : m.name = some (replicaName j.name type i)
  inNamespace : m.namespace_ = some ns
  labelled : ∃ labels, m.labels = some labels ∧
    (∀ key value, (jobLabels j.name).get? key = some value → labels.get? key = some value) ∧
    (Selector.Plain j.name → Selector.Accepts j.childSelector labels)
  owned : ∀ name uid, j.metadata.name = some name → j.metadata.uid = some uid →
    m.ownerReferences = some
      [{ apiVersion := apiGroup ++ "/" ++ apiVersion
         kind := kindName
         name := name
         uid := uid
         controller := some true }]

/-- The pod is not being deleted and says by its labels which replica it is. -/
def Pod.Identified (p : Pod) : Prop :=
  p.metadata.deletionTimestamp = none ∧
    ∃ labels type label i, p.metadata.labels = some labels ∧
      labels.get? Label.replicaType = some type ∧
      labels.get? Label.replicaIndex = some label ∧ ObservedPod.index? label = some i

/-- What a call about a job in its namespace may name. -/
def Call.Touches {σ : Type} (b : Backend σ) (state : σ) (j : Job) (ns : String) : Call → Prop
  | listPods ns' selector | listServiceNames ns' selector =>
    ns' = ns ∧ selector = selectorText (jobLabels j.name)
  | createPod ns' pod => ns' = ns ∧
    ∃ pods type i, b.listPods state ns j.childSelector = .ok pods ∧
      pod.metadata.IsChildOf j ns type i ∧
      ∀ o ∈ pods.filterMap ObservedPod.ofPod?, o.name ≠ replicaName j.name type i
  | createService ns' service => ns' = ns ∧
    ∃ services type i, b.listServiceNames state ns j.childSelector = .ok services ∧
      service.metadata.IsChildOf j ns type i ∧ replicaName j.name type i ∉ services.keys
  | deletePod ns' n => ns' = ns ∧
    ∃ pods, b.listPods state ns j.childSelector = .ok pods ∧
      ∃ p ∈ pods, p.Identified ∧ p.metadata.displayName = n
  | deleteService ns' n => ns' = ns ∧
    ∃ services, b.listServiceNames state ns j.childSelector = .ok services ∧ n ∈ services.keys
  | applyPodGroup ns' group => ns' = ns ∧ group.name = j.name ∧ group.namespace_ = ns
  | deletePodGroup ns' n | deleteJob ns' n | patchStatus ns' n _ => ns' = ns ∧ n = j.name

section Children

variable {j : Job} {ns type : String} {i : Int32} {scheduler : GangScheduler}

/-! ## Children -/

theorem get?_replicaLabels_of_jobLabels {job key value : String}
    (h : (jobLabels job).get? key = some value) (type : String) (i : Int32) :
    (replicaLabels job type i).get? key = some value := by
  have hkey : key = Label.groupName ∨ key = Label.jobName := by
    have hmem := Dict.mem_entries_iff.2 h
    rw [Selector.entries_jobLabels] at hmem
    simp only [List.mem_cons, Prod.mk.injEq, List.not_mem_nil, or_false] at hmem
    exact hmem.imp And.left And.left
  obtain ⟨htype, hindex, hrole⟩ :
      key ≠ Label.replicaType ∧ key ≠ Label.replicaIndex ∧ key ≠ Label.jobRole := by
    rcases hkey with rfl | rfl <;> decide
  unfold replicaLabels
  split
  · rw [Dict.get?_insert_of_ne _ _ hrole, Dict.get?_insert_of_ne _ _ hindex,
      Dict.get?_insert_of_ne _ _ htype, h]
  · rw [Dict.get?_insert_of_ne _ _ hindex, Dict.get?_insert_of_ne _ _ htype, h]

theorem ownerReference?_eq {name uid : String} (hname : j.metadata.name = some name)
    (huid : j.metadata.uid = some uid) :
    j.ownerReference? = some
      { apiVersion := apiGroup ++ "/" ++ apiVersion
        kind := kindName
        name := name
        uid := uid
        controller := some true } := by
  simp only [Job.ownerReference?, hname, huid, Option.bind_eq_bind, Option.bind_some]

theorem isChildOf_of_own {m : ObjectMeta} (hdeclared : (type, i) ∈ j.spec.declaredReplicas)
    (hname : m.name = some (replicaName j.name type i)) (hnamespace : m.namespace_ = some ns)
    (howners : m.ownerReferences = some j.ownerReference?.toList)
    (hlabels : ∃ labels, m.labels = some labels ∧ ∀ key value,
      (replicaLabels j.name type i).get? key = some value → labels.get? key = some value) :
    m.IsChildOf j ns type i where
  declared := JobSpec.mem_declaredReplicas_iff.1 hdeclared
  name := hname
  inNamespace := hnamespace
  labelled := by
    obtain ⟨labels, hsome, hall⟩ := hlabels
    have hcarried : ∀ key value, (jobLabels j.name).get? key = some value →
        labels.get? key = some value :=
      fun key value hkey => hall key value (get?_replicaLabels_of_jobLabels hkey type i)
    exact ⟨labels, hsome, hcarried, fun hplain => (Selector.accepts_jobLabels_iff hplain).2 hcarried⟩
  owned := by
    intro name uid hjob huid
    rw [howners, ownerReference?_eq hjob huid]
    rfl

theorem isChildOf_of_pod {pod : Pod} (hns : j.namespace? = some ns)
    (hdeclared : (type, i) ∈ j.spec.declaredReplicas)
    (h : Replica.pod j type i scheduler = .ok pod) : pod.metadata.IsChildOf j ns type i := by
  obtain ⟨hname, hnamespace, howners, hlabels⟩ := carries_of_pod hns h
  exact isChildOf_of_own hdeclared hname hnamespace howners hlabels

theorem isChildOf_of_service {service : Service} (hns : j.namespace? = some ns)
    (hdeclared : (type, i) ∈ j.spec.declaredReplicas)
    (h : Replica.service j type i = .ok service) : service.metadata.IsChildOf j ns type i := by
  obtain ⟨ns', hns', hmeta⟩ := metadata_of_service h
  obtain rfl : ns = ns' := Option.some.inj (hns.symm.trans hns')
  rw [hmeta]
  exact isChildOf_of_own hdeclared rfl rfl rfl ⟨_, rfl, fun _ _ hkey => hkey⟩

end Children

/-! ## What is listed -/

/-- Only a pod that says which replica it is is observed. -/
theorem Pod.identified_of_ofPod? {p : Pod} {o : ObservedPod} (h : ObservedPod.ofPod? p = some o) :
    p.Identified ∧ p.metadata.displayName = o.name := by
  refine ⟨?_, (ObservedPod.name_of_ofPod? h).symm⟩
  unfold ObservedPod.ofPod? at h
  split at h
  · cases h
  next halive =>
  simp only [Option.bind_eq_bind, Option.bind_eq_some_iff] at h
  obtain ⟨labels, hlabels, type, htype, label, hlabel, i, hindex, -⟩ := h
  exact ⟨Option.not_isSome_iff_eq_none.1 halive, labels, type, label, i, hlabels, htype, hlabel,
    hindex⟩

theorem exists_identified_of_mem {pods : List Pod} {n : String}
    (h : n ∈ (pods.filterMap ObservedPod.ofPod?).map (·.name)) :
    ∃ p ∈ pods, p.Identified ∧ p.metadata.displayName = n := by
  obtain ⟨o, ho, rfl⟩ := List.mem_map.1 h
  obtain ⟨p, hp, hobserved⟩ := List.mem_filterMap.1 ho
  exact ⟨p, hp, Pod.identified_of_ofPod? hobserved⟩

theorem CleanupPlan.make_subset (policy : CleanPodPolicy) (pods : List ObservedPod)
    (services : NameSet) (active : Bool) :
    (CleanupPlan.make policy pods services active).deletePods ⊆ pods.map (·.name) ∧
      (CleanupPlan.make policy pods services active).deleteServices ⊆ services.keys := by
  constructor
  · show doomed policy pods active ⊆ _
    cases policy with
    | all => exact List.Subset.refl _
    | running => exact activeNames_subset
    | none =>
      cases active with
      | true => exact activeNames_subset
      | false => exact List.nil_subset _
  · cases policy with
    | all => exact List.Subset.refl _
    | running => exact List.filter_sublist.subset
    | none => exact List.filter_sublist.subset

namespace Job

variable {σ : Type} {b : Backend σ} {state : σ} {ctx : OperatorContext} {j : Job} {ns : String}
  {now : Instant} {call : Call}

theorem touches_report {status : JobStatus} (h : .ok call ∈ j.reportSteps ctx ns status) :
    call.Touches b state j ns := by
  rw [(mem_reportSteps h).1]
  exact ⟨rfl, rfl⟩

section Listed

variable {pods : List Pod} {services : NameSet} {t : Transition}
  (hpods : b.listPods state ns j.childSelector = .ok pods)
  (hservices : b.listServiceNames state ns j.childSelector = .ok services)

include hpods hservices

theorem touches_finishedSchedule (h : .ok call ∈ (j.finishedSchedule ctx ns
    (pods.filterMap ObservedPod.ofPod?) services t now).steps) : call.Touches b state j ns := by
  obtain ⟨hdoomed, hclosed⟩ := CleanupPlan.make_subset j.spec.runPolicy.cleanPodPolicy
    (pods.filterMap ObservedPod.ofPod?) services t.terminateActive
  rcases mem_steps_finishedSchedule h with ⟨n, hn, rfl⟩ | ⟨n, hn, rfl⟩ | rfl | hreport | rfl
  · exact ⟨rfl, pods, hpods, exists_identified_of_mem (hdoomed hn)⟩
  · exact ⟨rfl, services, hservices, hclosed hn⟩
  · exact ⟨rfl, rfl⟩
  · exact touches_report hreport
  · exact ⟨rfl, rfl⟩

theorem touches_unfinishedSchedule (hns : j.namespace? = some ns)
    (h : .ok call ∈ (j.unfinishedSchedule ctx ns
      (pods.filterMap ObservedPod.ofPod?) services t now).steps) : call.Touches b state j ns := by
  obtain ⟨hpodsGone, hservicesGone⟩ := ChildPlan.make_subset j.name j.spec
    (pods.filterMap ObservedPod.ofPod?) services t.restart
  rcases mem_steps_unfinishedSchedule h with ⟨group, hgroup, rfl⟩ | ⟨⟨type, i⟩, hr, service, hs, rfl⟩
    | ⟨⟨type, i⟩, hr, pod, hp, rfl⟩ | ⟨n, hn, rfl⟩ | ⟨n, hn, rfl⟩ | hreport
  · obtain ⟨version, -, rfl⟩ := Option.map_eq_some_iff.1 hgroup
    refine ⟨rfl, rfl, ?_⟩
    show j.namespace?.getD "default" = ns
    rw [hns]
    rfl
  · obtain ⟨hdeclared, hmissing⟩ := List.mem_filter.1 hr
    refine ⟨rfl, services, type, i, hservices, isChildOf_of_service hns hdeclared hs, ?_⟩
    rw [← Dict.contains_iff]
    simpa using hmissing
  · obtain ⟨hdeclared, hmissing⟩ := List.mem_filter.1 hr
    have hfree : (pods.filterMap ObservedPod.ofPod?).any
        (fun o => o.name == replicaName j.name type i) = false := by
      rw [← Bool.not_eq_true']
      exact hmissing
    have hnone : ∀ o ∈ pods.filterMap ObservedPod.ofPod?, o.name ≠ replicaName j.name type i :=
      fun o ho => ne_of_beq_false (Bool.eq_false_iff.2 (List.any_eq_false.1 hfree o ho))
    exact ⟨rfl, pods, type, i, hpods, isChildOf_of_pod hns hdeclared hp, hnone⟩
  · exact ⟨rfl, pods, hpods, exists_identified_of_mem (hpodsGone hn)⟩
  · exact ⟨rfl, services, hservices, hservicesGone hn⟩
  · exact touches_report hreport

end Listed

/-- **A reconcile touches only what belongs to its job.** Whatever the cluster lists and whichever
calls fail, every call goes to the namespace of the job. The listings ask for what carries the
labels of the job. What is deleted is a pod that was listed, is not being deleted yet and says
which replica it is; a service that was listed; or what has the name of the job itself. What is
made is the pod group of the job, or the child of a declared replica whose name was not seen, with
the labels by which the job finds it again and, if the job has a name and a uid, the job as its
only owner. -/
theorem touches_of_mem_calls (h : call ∈ (j.reconcile b ctx state now).calls) :
    ∃ ns, j.namespace? = some ns ∧ call.Touches b state j ns := by
  obtain ⟨ns, hns, ⟨why, -, hstep⟩ | ⟨-, rfl | rfl | ⟨pods, services, hpods, hservices, hstep⟩⟩⟩ :=
    mem_calls_reconcile h
  · exact ⟨ns, hns, touches_report hstep⟩
  · exact ⟨ns, hns, rfl, rfl⟩
  · exact ⟨ns, hns, rfl, rfl⟩
  refine ⟨ns, hns, ?_⟩
  unfold schedule at hstep
  dsimp only at hstep
  split at hstep
  · exact touches_finishedSchedule hpods hservices hstep
  · exact touches_unfinishedSchedule hpods hservices hns hstep

/-- A job whose template claims the labels and the owner of another. -/
def claimingJob : Job where
  metadata := { name := some "mnist", namespace_ := some "ml", uid := some "uid-1" }
  spec := {
    replicaSpecs := Dict.ofList
      [("Worker",
        { template := {
            metadata := some {
              name := some "other-worker-0"
              namespace_ := some "kube-system"
              labels := some (Dict.ofList
                [(Label.groupName, "example.org"), (Label.jobName, "other")])
              ownerReferences := some [{ name := "other", uid := "uid-2" }] }
            spec := some { containers := [{ name := "trainer" }] } } })] }

/-- Its pod is its own all the same. -/
theorem touches_of_mem_calls_claiming :
    let b := Backend.unfailing [] (NameSet.ofNames [])
    let r := claimingJob.reconcile b Cluster.plainContext () (Instant.ofSeconds 1714557600)
    let pod := claimingJob.childPod .none ("Worker", 0)
    .createPod "ml" pod ∈ r.calls ∧
    (Call.createPod "ml" pod).Touches b () claimingJob "ml" ∧
    pod.metadata.labels.bind (·.get? Label.jobName) = some "mnist" ∧
    pod.metadata.ownerReferences.map (·.map (·.uid)) = some ["uid-1"] := by
  intro b r pod
  have hmade : .createPod "ml" pod ∈ r.calls := by decide
  obtain ⟨ns, hns, htouches⟩ := touches_of_mem_calls hmade
  obtain rfl : "ml" = ns := Option.some.inj hns
  exact ⟨hmade, htouches, by decide, by decide⟩

end Job

end TrainingJobs
