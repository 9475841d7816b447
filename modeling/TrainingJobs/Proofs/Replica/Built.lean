import TrainingJobs.Proofs.Names
import TrainingJobs.Proofs.Replicas
import TrainingJobs.Replica.Service

/-!
# The pods that are built for a job

Every pod that is built for a replica carries its name and its labels (`isReplica_of_pod`), whatever
the spec said at that time and however the pods are scheduled. So it is observed as that replica
(`IsReplica.ofPod?_eq`), and its name and what is observed of it tell the same story.
-/

namespace TrainingJobs

open Text

/-- The labels of the pod say that it is this replica. -/
def Pod.Labelled (p : Pod) (type : String) (i : Int32) : Prop :=
  ∃ labels, p.metadata.labels = some labels ∧
    labels.get? Label.replicaType = some (lower type) ∧
    labels.get? Label.replicaIndex = some (showInt32 i)

/-- The pod carries the name and the labels of a replica of the job, and is not being deleted. -/
structure Pod.IsReplica (p : Pod) (job type : String) (i : Int32) : Prop where
  name : p.metadata.displayName = replicaName job type i
  labelled : p.Labelled type i
  alive : p.metadata.deletionTimestamp = none

/-- The pod was built for the job, under any spec and for any scheduler, and still has the name and
the labels that it was built with. Its status does not matter; it is not being deleted. -/
def Pod.BuiltFor (p : Pod) (j : Job) : Prop :=
  p.metadata.deletionTimestamp = none ∧
    ∃ (spec : JobSpec) (type : String) (i : Int32) (scheduler : GangScheduler) (built : Pod),
      0 ≤ i ∧ Replica.pod { j with spec := spec } type i scheduler = .ok built ∧
        p.metadata.displayName = built.metadata.displayName ∧
        p.metadata.labels = built.metadata.labels

def Pod.observedAs (p : Pod) (type : String) (i : Int32) : ObservedPod :=
  let containers := (p.status.bind (·.containerStatuses)).getD []
  { name := p.metadata.displayName
    replicaType := lower type
    index := i
    phase := PodPhase.ofText ((p.status.bind (·.phase)).getD "")
    restarts := ObservedPod.totalRestarts containers
    exitCode := ObservedPod.failureCode? containers }

/-- The metadata that a replica's service and pod have from the operator. -/
def ownMetadata (j : Job) (ns type : String) (i : Int32) : ObjectMeta where
  name := some (replicaName j.name type i)
  namespace_ := some ns
  labels := some (replicaLabels j.name type i)
  ownerReferences := some j.ownerReference?.toList

section Build

variable {j : Job} {type ns : String} {i : Int32} {scheduler : GangScheduler}
  {e : String × ReplicaSpec}

theorem ownMetadata_congr {type' : String} (h : lower type = lower type') :
    ownMetadata j ns type i = ownMetadata j ns type' i := by
  rw [ownMetadata, ownMetadata, replicaName_congr h, replicaLabels_congr h]

/-! ## Building succeeds -/

theorem metadata_eq_ok (hns : j.namespace? = some ns) (type : String) (i : Int32) :
    Replica.metadata j type i = .ok (ownMetadata j ns type i) := by
  simp only [Replica.metadata, hns, ownMetadata]

theorem exists_pod (hns : j.namespace? = some ns) (he : j.spec.replica? type = some e)
    (i : Int32) (scheduler : GangScheduler) :
    ∃ pod, Replica.pod j type i scheduler = .ok pod := by
  unfold Replica.pod Replica.declared
  rw [he]
  simp only [bind, Except.bind, metadata_eq_ok hns]
  exact ⟨_, rfl⟩

theorem exists_service (hns : j.namespace? = some ns) (he : j.spec.replica? type = some e)
    (i : Int32) :
    ∃ service, Replica.service j type i = .ok service ∧
      service.metadata = ownMetadata j ns type i ∧
      service.spec.bind (·.selector) = some (replicaLabels j.name type i) := by
  have hlower := JobSpec.lower_of_replica? he
  unfold Replica.service Replica.declared
  rw [he]
  simp only [bind, Except.bind, metadata_eq_ok hns, ownMetadata_congr hlower]
  exact ⟨_, rfl, rfl, rfl⟩

/-! ## What is built -/

theorem metadata_of_service {service : Service} (h : Replica.service j type i = .ok service) :
    ∃ ns, j.namespace? = some ns ∧ service.metadata = ownMetadata j ns type i := by
  unfold Replica.service Replica.declared at h
  cases he : j.spec.replica? type with
  | none =>
    rw [he] at h
    cases h
  | some e =>
  rw [he] at h
  cases hns : j.namespace? with
  | none =>
    simp only [bind, Except.bind, Replica.metadata, hns] at h
    cases h
  | some ns =>
    simp only [bind, Except.bind, metadata_eq_ok hns] at h
    cases h
    exact ⟨ns, rfl, ownMetadata_congr (JobSpec.lower_of_replica? he)⟩

theorem metadata_eq_of_pod {pod : Pod} (h : Replica.pod j type i scheduler = .ok pod) :
    ∃ e ns, j.spec.replica? type = some e ∧ j.namespace? = some ns ∧
      pod.metadata = scheduler.markPod
        (Replica.podMetadata (e.2.template.metadata.getD {}) (ownMetadata j ns type i)) j.name := by
  unfold Replica.pod Replica.declared at h
  cases he : j.spec.replica? type with
  | none =>
    rw [he] at h
    cases h
  | some e =>
  rw [he] at h
  cases hns : j.namespace? with
  | none =>
    simp only [bind, Except.bind, Replica.metadata, hns] at h
    cases h
  | some ns =>
    simp only [bind, Except.bind, metadata_eq_ok hns] at h
    cases h
    refine ⟨e, ns, rfl, rfl, ?_⟩
    rw [← ownMetadata_congr (JobSpec.lower_of_replica? he)]

/-- A label is the mark of the scheduler, else the operator's own, else that of the template. -/
theorem get?_labels_marked (scheduler : GangScheduler) (template own : ObjectMeta)
    (group : String) :
    ∃ labels, (scheduler.markPod (Replica.podMetadata template own) group).labels = some labels ∧
      ∀ key, labels.get? key =
        if scheduler = .schedulerPlugins ∧ key = schedulerPluginsGroupLabel then some group
        else ((own.labels.getD Dict.empty).get? key).or
          ((template.labels.getD Dict.empty).get? key) := by
  cases scheduler with
  | none => exact ⟨_, rfl, fun key => Dict.get?_override _ _ key⟩
  | volcano => exact ⟨_, rfl, fun key => Dict.get?_override _ _ key⟩
  | schedulerPlugins =>
    refine ⟨_, rfl, fun key => ?_⟩
    simp only [Dict.get?_insert, Replica.podMetadata, Option.getD_some, Dict.get?_override,
      true_and]

theorem get?_labels_markPod (scheduler : GangScheduler) (template own : ObjectMeta)
    (group : String) :
    ∃ labels, (scheduler.markPod (Replica.podMetadata template own) group).labels = some labels ∧
      ∀ key, key ≠ schedulerPluginsGroupLabel →
        labels.get? key = ((own.labels.getD Dict.empty).get? key).or
          ((template.labels.getD Dict.empty).get? key) := by
  obtain ⟨labels, hlabels, hget⟩ := get?_labels_marked scheduler template own group
  refine ⟨labels, hlabels, fun key hne => ?_⟩
  rw [hget, if_neg fun h => hne h.2]

/-- What the mark of a scheduler leaves of the operator's metadata. -/
theorem markPod_podMetadata (scheduler : GangScheduler) (template own : ObjectMeta)
    (group : String) :
    let m := scheduler.markPod (Replica.podMetadata template own) group
    m.name = own.name ∧ m.namespace_ = own.namespace_ ∧
      m.ownerReferences = own.ownerReferences := by
  cases scheduler <;> exact ⟨rfl, rfl, rfl⟩

theorem ne_groupLabel_of_get?_replicaLabels {job type key value : String} {i : Int32}
    (h : (replicaLabels job type i).get? key = some value) : key ≠ schedulerPluginsGroupLabel := by
  rintro rfl
  rw [get?_replicaLabels] at h
  have hnone : schedulerPluginsGroupLabel ≠ Label.jobRole ∧
      schedulerPluginsGroupLabel ≠ Label.replicaIndex ∧
      schedulerPluginsGroupLabel ≠ Label.replicaType ∧
      schedulerPluginsGroupLabel ≠ Label.jobName ∧
      schedulerPluginsGroupLabel ≠ Label.groupName := by decide
  simp [hnone] at h

/-- A pod has the name, the namespace and the owner of its replica, and carries all its labels. -/
theorem carries_of_pod {pod : Pod} (hns : j.namespace? = some ns)
    (h : Replica.pod j type i scheduler = .ok pod) :
    pod.metadata.name = some (replicaName j.name type i) ∧ pod.metadata.namespace_ = some ns ∧
      pod.metadata.ownerReferences = some j.ownerReference?.toList ∧
      ∃ labels, pod.metadata.labels = some labels ∧ ∀ key value,
        (replicaLabels j.name type i).get? key = some value → labels.get? key = some value := by
  obtain ⟨e, ns', -, hns', hmeta⟩ := metadata_eq_of_pod h
  obtain rfl : ns = ns' := Option.some.inj (hns.symm.trans hns')
  obtain ⟨labels, hlabels, hget⟩ := get?_labels_markPod scheduler
    (e.2.template.metadata.getD {}) (ownMetadata j ns type i) j.name
  obtain ⟨hname, hnamespace, howners⟩ := markPod_podMetadata scheduler
    (e.2.template.metadata.getD {}) (ownMetadata j ns type i) j.name
  rw [← hmeta] at hlabels hname hnamespace howners
  refine ⟨hname, hnamespace, howners, labels, hlabels, fun key value hkey => ?_⟩
  have hown : ((ownMetadata j ns type i).labels.getD Dict.empty).get? key = some value := hkey
  rw [hget key (ne_groupLabel_of_get?_replicaLabels hkey), hown, Option.some_or]

theorem metadata_of_pod {pod : Pod} (h : Replica.pod j type i scheduler = .ok pod) :
    pod.metadata.displayName = replicaName j.name type i ∧ pod.Labelled type i := by
  obtain ⟨e, ns, -, hns, -⟩ := metadata_eq_of_pod h
  obtain ⟨hname, -, -, labels, hlabels, hcarries⟩ := carries_of_pod hns h
  refine ⟨?_, labels, hlabels, hcarries _ _ (get?_replicaLabels_type ..),
    hcarries _ _ (get?_replicaLabels_index ..)⟩
  rw [ObjectMeta.displayName, hname]
  rfl

theorem isReplica_of_pod {pod p : Pod} (h : Replica.pod j type i scheduler = .ok pod)
    (hname : p.metadata.displayName = pod.metadata.displayName)
    (hlabels : p.metadata.labels = pod.metadata.labels)
    (halive : p.metadata.deletionTimestamp = none) : p.IsReplica j.name type i := by
  obtain ⟨hname', labels, hlabels', hsays⟩ := metadata_of_pod h
  exact ⟨hname.trans hname', ⟨labels, hlabels.trans hlabels', hsays⟩, halive⟩

/-- What is built for a job does not depend on its status. -/
theorem Pod.BuiltFor.of_metadata_eq {p : Pod} {j' : Job} (h : p.BuiltFor j)
    (hmeta : j'.metadata = j.metadata) : p.BuiltFor j' := by
  obtain ⟨halive, spec, type, i, scheduler, built, hi, hbuilt, hname, hlabels⟩ := h
  refine ⟨halive, spec, type, i, scheduler, built, hi, ?_, hname, hlabels⟩
  obtain ⟨meta', spec', status'⟩ := j'
  cases hmeta
  exact hbuilt

theorem Pod.BuiltFor.isReplica {p : Pod} (h : p.BuiltFor j) :
    ∃ type i, 0 ≤ i ∧ p.IsReplica j.name type i := by
  obtain ⟨halive, spec, type, i, scheduler, built, hi, hbuilt, hname, hlabels⟩ := h
  exact ⟨type, i, hi, isReplica_of_pod (j := { j with spec := spec }) hbuilt hname hlabels halive⟩

end Build

/-! ## What is observed -/

/-- Of what is observed, only the replica comes from the labels. -/
theorem ObservedPod.of_ofPod? {p : Pod} {o : ObservedPod} (h : ofPod? p = some o) :
    o.name = p.metadata.displayName ∧
      o.phase = PodPhase.ofText ((p.status.bind (·.phase)).getD "") ∧
      o.restarts = totalRestarts ((p.status.bind (·.containerStatuses)).getD []) := by
  unfold ofPod? at h
  split at h
  · cases h
  simp only [Option.bind_eq_bind, Option.bind_eq_some_iff] at h
  obtain ⟨labels, -, type, -, label, -, i, -, h⟩ := h
  rw [← Option.some.inj h]
  exact ⟨rfl, rfl, rfl⟩

theorem ObservedPod.name_of_ofPod? {p : Pod} {o : ObservedPod} (h : ofPod? p = some o) :
    o.name = p.metadata.displayName := (of_ofPod? h).1

namespace Pod.IsReplica

variable {p : Pod} {job type : String} {i : Int32}

theorem ofPod?_eq (h : p.IsReplica job type i) :
    ObservedPod.ofPod? p = some (p.observedAs type i) := by
  obtain ⟨labels, hlabels, htype, hindex⟩ := h.labelled
  simp [ObservedPod.ofPod?, h.alive, hlabels, htype, hindex, ObservedPod.index?_showInt32,
    Pod.observedAs]

/-- The name of a pod tells what its labels say. -/
theorem labelled_of_name {type' : String} {i' : Int32} (h : p.IsReplica job type i)
    (hi : 0 ≤ i) (hi' : 0 ≤ i') (hname : p.metadata.displayName = replicaName job type' i') :
    p.Labelled type' i' := by
  rw [h.name] at hname
  obtain ⟨hlower, rfl⟩ := replicaName_inj hi hi' hname
  obtain ⟨labels, hlabels, htype, hindex⟩ := h.labelled
  exact ⟨labels, hlabels, hlower ▸ htype, hindex⟩

end Pod.IsReplica

end TrainingJobs
