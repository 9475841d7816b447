import Mathlib.Data.Finset.Dedup
import Mathlib.Data.Finset.SDiff
import TrainingJobs.Proofs.Names
import TrainingJobs.Proofs.Replicas

/-!
# What a plan for the children leaves

Creation goes by names, and the deletion of pods by types and indexes. Names tell types and indexes,
so a pod that has the name of the replica it stands for is declared just if its name is
(`NamedFor.declares_iff`), and all four lists of a plan can be told by names. Carried out at once,
a plan leaves the pods of the declared replicas that do not wait to be made anew, and the services
of all of them (`ChildPlan.make_accounts`).
-/

namespace TrainingJobs

open Text

namespace JobSpec

variable {s : JobSpec} {job n : String} {o : ObservedPod}

def declaredNames (s : JobSpec) (job : String) : List String :=
  s.declaredReplicas.map fun r => replicaName job r.1 r.2

theorem mem_declaredNames_iff :
    n ∈ s.declaredNames job ↔ ∃ r ∈ s.declaredReplicas, replicaName job r.1 r.2 = n :=
  List.mem_map

theorem TypesDistinct.nodup_declaredNames (hd : s.TypesDistinct) (job : String) :
    (s.declaredNames job).Nodup := by
  refine List.Nodup.map_on ?_ s.nodup_declaredReplicas
  rintro ⟨type, i⟩ hr ⟨type', i'⟩ hr' hname
  obtain ⟨r, he, hi, -⟩ := mem_declaredReplicas_iff.1 hr
  obtain ⟨r', he', hi', -⟩ := mem_declaredReplicas_iff.1 hr'
  obtain ⟨hlower, rfl⟩ := replicaName_inj hi hi' hname
  have htype : type = type' :=
    hd type (List.mem_map_of_mem he) type' (List.mem_map_of_mem he') hlower
  rw [htype]

end JobSpec

/-- The pod has the name of the replica of the job that it stands for. -/
structure ObservedPod.NamedFor (o : ObservedPod) (job : String) : Prop where
  index_nonneg : 0 ≤ o.index
  name : o.name = replicaName job o.replicaType o.index

instance (o : ObservedPod) (job : String) : Decidable (o.NamedFor job) :=
  decidable_of_iff (0 ≤ o.index ∧ o.name = replicaName job o.replicaType o.index)
    ⟨fun h => ⟨h.1, h.2⟩, fun h => ⟨h.1, h.2⟩⟩

/-- Its type and index are declared just if its name is. -/
theorem ObservedPod.NamedFor.declares_iff {o : ObservedPod} {job : String} {s : JobSpec}
    (h : o.NamedFor job) (hd : s.TypesDistinct) :
    s.declares o = true ↔ o.name ∈ s.declaredNames job := by
  rw [← Lifecycle.isSome_declared?, Option.isSome_iff_exists, JobSpec.mem_declaredNames_iff, h.name]
  constructor
  · rintro ⟨e, he⟩
    obtain ⟨hfind, hlt⟩ := Lifecycle.declared?_eq_some_iff.1 he
    obtain ⟨hmem, hlower⟩ := hd.replica?_eq_some_iff.1 hfind
    exact ⟨(e.1, o.index), JobSpec.mem_declaredReplicas_iff.2 ⟨e.2, hmem, h.index_nonneg, hlt⟩,
      replicaName_congr hlower o.index⟩
  · rintro ⟨⟨type, i⟩, hr, hname⟩
    obtain ⟨r, hmem, hi, hlt⟩ := JobSpec.mem_declaredReplicas_iff.1 hr
    obtain ⟨hlower, rfl⟩ := replicaName_inj hi h.index_nonneg hname
    exact ⟨(type, r), Lifecycle.declared?_eq_some_iff.2
      ⟨hd.replica?_eq_some_iff.2 ⟨hmem, hlower⟩, hlt⟩⟩

namespace ChildPlan

def newPods (plan : ChildPlan) (job : String) : List String :=
  plan.createPods.map fun r => replicaName job r.1 r.2

def newServices (plan : ChildPlan) (job : String) : List String :=
  plan.createServices.map fun r => replicaName job r.1 r.2

variable {job : String} {s : JobSpec} {pods : List ObservedPod} {services : NameSet}
  {restart : List String} {n : String}

/-! ## The four lists by name -/

theorem mem_createPods_iff {r : String × Int32} :
    r ∈ (make job s pods services restart).createPods ↔
      r ∈ s.declaredReplicas ∧ replicaName job r.1 r.2 ∉ pods.map (·.name) := by
  simp [make]

/-- Whether a child is created is seen from its name alone. -/
theorem newPods_make : (make job s pods services restart).newPods job =
    (s.declaredNames job).filter fun n => !pods.any fun p => p.name == n := by
  rw [JobSpec.declaredNames, List.filter_map]
  rfl

theorem newServices_make : (make job s pods services restart).newServices job =
    (s.declaredNames job).filter fun n => !services.contains n := by
  rw [JobSpec.declaredNames, List.filter_map]
  rfl

theorem mem_newPods_iff : n ∈ (make job s pods services restart).newPods job ↔
    n ∈ s.declaredNames job ∧ n ∉ pods.map (·.name) := by
  rw [newPods_make, List.mem_filter]
  simp

theorem mem_newServices_iff : n ∈ (make job s pods services restart).newServices job ↔
    n ∈ s.declaredNames job ∧ n ∉ services.keys := by
  rw [newServices_make, List.mem_filter, Bool.not_eq_true', ← Bool.not_eq_true,
    Dict.contains_iff]

theorem nodup_new (hd : s.TypesDistinct) :
    ((make job s pods services restart).newPods job).Nodup ∧
      ((make job s pods services restart).newServices job).Nodup := by
  rw [newPods_make, newServices_make]
  exact ⟨(hd.nodup_declaredNames job).filter _, (hd.nodup_declaredNames job).filter _⟩

theorem mem_deletePods_iff (hd : s.TypesDistinct) (hpods : ∀ o ∈ pods, o.NamedFor job) :
    n ∈ (make job s pods services restart).deletePods ↔
      n ∈ pods.map (·.name) ∧ (n ∉ s.declaredNames job ∨ n ∈ restart) := by
  simp only [make, List.mem_map, List.mem_filter, Bool.or_eq_true, Bool.not_eq_true',
    List.contains_iff_mem]
  constructor
  · rintro ⟨o, ⟨ho, hgone⟩, rfl⟩
    refine ⟨⟨o, ho, rfl⟩, hgone.imp_left fun hnot hmem => ?_⟩
    rw [((hpods o ho).declares_iff hd).2 hmem] at hnot
    cases hnot
  · rintro ⟨⟨o, ho, rfl⟩, hgone⟩
    refine ⟨o, ⟨ho, hgone.imp_left fun hnot => ?_⟩, rfl⟩
    rwa [← Bool.not_eq_true, (hpods o ho).declares_iff hd]

theorem mem_deleteServices_iff : n ∈ (make job s pods services restart).deleteServices ↔
    n ∈ services.keys ∧ n ∉ s.declaredNames job := by
  simp [make, JobSpec.declaredNames]

theorem make_subset (jobName : String) (s : JobSpec) (pods : List ObservedPod)
    (services : NameSet) (restart : List String) :
    (make jobName s pods services restart).deletePods ⊆ pods.map (·.name) ∧
      (make jobName s pods services restart).deleteServices ⊆ services.keys :=
  ⟨List.map_subset _ List.filter_sublist.subset, List.filter_sublist.subset⟩

/-! ## The account -/

/-- What comes and what goes by a plan, reckoned against what there is. -/
structure Accounts (plan : ChildPlan) (job : String) (s : JobSpec) (pods : List ObservedPod)
    (services : NameSet) (restart : List String) : Prop where
  /-- The pods that are left are those of the declared replicas, without those to be made anew. -/
  podsLeft : ((pods.map (·.name)).toFinset ∪ (plan.newPods job).toFinset) \
    plan.deletePods.toFinset = (s.declaredNames job).toFinset \ restart.toFinset
  /-- The services that are left are those of the declared replicas. -/
  servicesLeft : (services.keys.toFinset ∪ (plan.newServices job).toFinset) \
    plan.deleteServices.toFinset = (s.declaredNames job).toFinset
  /-- Nothing is created twice. -/
  once : (plan.newPods job).Nodup ∧ (plan.newServices job).Nodup
  /-- Nothing is created that is there, also no pod that waits to be made anew. -/
  missing : (∀ n ∈ plan.newPods job, n ∉ pods.map (·.name) ∧ n ∉ restart) ∧
    ∀ n ∈ plan.newServices job, n ∉ services.keys
  /-- Only what is there is deleted. -/
  there : plan.deletePods ⊆ pods.map (·.name) ∧ plan.deleteServices ⊆ services.keys

/-- **A plan accounts for every child.** The types of the spec are distinct in any letters, every
pod has the name of the replica of the job that it stands for, and only pods that there are wait to
be made anew. Then the plan leaves what is declared, creates nothing that is there, and deletes
nothing that is not. -/
theorem make_accounts (hd : s.TypesDistinct) (hpods : ∀ o ∈ pods, o.NamedFor job)
    (hrestart : restart ⊆ pods.map (·.name)) :
    (make job s pods services restart).Accounts job s pods services restart := by
  refine ⟨?_, ?_, nodup_new hd, ⟨fun n hn => ?_, fun n hn => (mem_newServices_iff.1 hn).2⟩,
    make_subset job s pods services restart⟩
  · ext n
    have hthere : n ∈ restart → n ∈ pods.map (·.name) := fun hn => hrestart hn
    simp only [Finset.mem_sdiff, Finset.mem_union, List.mem_toFinset, mem_newPods_iff,
      mem_deletePods_iff hd hpods]
    tauto
  · ext n
    simp only [Finset.mem_sdiff, Finset.mem_union, List.mem_toFinset, mem_newServices_iff,
      mem_deleteServices_iff]
    tauto
  · have hmissing := (mem_newPods_iff.1 hn).2
    exact ⟨hmissing, fun hwaits => hmissing (hrestart hwaits)⟩

/-- Eleven workers now, a master, and no replicas of a third type. -/
def rescaledSpec : JobSpec where
  replicaSpecs := Dict.ofList
    [("Evaluator", { replicas := -1 }), ("Master", {}), ("Worker", { replicas := 11 })]

/-- The pods of an earlier spec: the first worker has failed, the twelfth is one too many, and the
type of the last is gone. -/
def earlierPods : List ObservedPod :=
  [("worker", 0, .failed), ("worker", 1, .running), ("Worker", 11, .running),
    ("ps", 0, .running)].map fun (type, i, phase) =>
      { name := replicaName "mnist" type i, replicaType := type, index := i, phase := phase }

/-- The first worker waits, and the service of the twelfth has no pod any more. -/
theorem make_accounts_rescaled :
    let services := NameSet.ofNames ["mnist-worker-0", "mnist-worker-11", "mnist-ps-0"]
    let plan := make "mnist" rescaledSpec earlierPods services ["mnist-worker-0"]
    rescaledSpec.TypesDistinct ∧ (∀ o ∈ earlierPods, o.NamedFor "mnist") ∧
      ["mnist-worker-0"] ⊆ earlierPods.map (·.name) ∧
      plan.Accounts "mnist" rescaledSpec earlierPods services ["mnist-worker-0"] ∧
      plan.deletePods = ["mnist-worker-0", "mnist-worker-11", "mnist-ps-0"] ∧
      plan.deleteServices = ["mnist-ps-0", "mnist-worker-11"] ∧
      plan.createPods.length = 10 ∧ plan.createServices.length = 11 := by
  intro services plan
  have hd : rescaledSpec.TypesDistinct := by decide
  have hpods : ∀ o ∈ earlierPods, o.NamedFor "mnist" := by decide
  have hrestart : ["mnist-worker-0"] ⊆ earlierPods.map (·.name) := by decide
  exact ⟨hd, hpods, hrestart, make_accounts hd hpods hrestart, by decide, by decide, by decide,
    by decide⟩

end ChildPlan

end TrainingJobs
