import Mathlib.Data.List.Nodup
import TrainingJobs.Plan
import TrainingJobs.Proofs.Dict

/-!
# What a cleanup takes and what it spares

A policy deletes all pods, those that may still run, or none. So a pod that is spared by a cleanup
that deletes anything cannot run any more, and every later cleanup spares it too
(`not_mem_doomed_of_spared`). Pod by pod the policies decide by `Takes`, and so a cleanup leaves
nothing for another one by the same policy (`make_spared`).
-/

namespace TrainingJobs

theorem PodPhase.isActive_iff {phase : PodPhase} :
    phase.isActive = true ↔ phase = .pending ∨ phase = .running := by
  cases phase <;> simp [isActive]

namespace CleanupPlan

variable {policy : CleanPodPolicy} {pods pods' : List ObservedPod} {active active' : Bool}
  {o : ObservedPod}

def spared (policy : CleanPodPolicy) (pods : List ObservedPod) (active : Bool) :
    List ObservedPod :=
  pods.filter fun o => !(doomed policy pods active).contains o.name

theorem mem_spared_iff :
    o ∈ spared policy pods active ↔ o ∈ pods ∧ o.name ∉ doomed policy pods active := by
  simp [spared]

theorem activeNames_subset : activeNames pods ⊆ pods.map (·.name) :=
  List.map_subset _ List.filter_sublist.subset

theorem doomed_subset_activeNames (h : policy ≠ .all) :
    doomed policy pods active ⊆ activeNames pods := by
  cases policy with
  | all => exact absurd rfl h
  | running => exact List.Subset.refl _
  | none =>
    cases active with
    | true => exact List.Subset.refl _
    | false => exact List.nil_subset _

theorem activeNames_subset_doomed (h : doomed policy pods active ≠ []) :
    activeNames pods ⊆ doomed policy pods active := by
  cases policy with
  | all => exact activeNames_subset
  | running => exact List.Subset.refl _
  | none =>
    cases active with
    | true => exact List.Subset.refl _
    | false => exact absurd rfl h

theorem mem_activeNames_iff (hnodup : (pods.map (·.name)).Nodup) (ho : o ∈ pods) :
    o.name ∈ activeNames pods ↔ o.phase.isActive = true := by
  simp only [activeNames, List.mem_map, List.mem_filter]
  constructor
  · rintro ⟨o', ⟨ho', hactive⟩, hname⟩
    rwa [List.inj_on_of_nodup_map hnodup ho' ho hname] at hactive
  · intro hactive
    exact ⟨o, ⟨ho, hactive⟩, rfl⟩

/-- What a cleanup that deletes anything spares, every later one spares. -/
theorem not_mem_doomed_of_spared (hsome : doomed policy pods active ≠ [])
    (hnodup : (pods'.map (·.name)).Nodup) (ho : o ∈ spared policy pods active) (ho' : o ∈ pods') :
    o.name ∉ doomed policy pods' active' := by
  obtain ⟨hmem, hspared⟩ := mem_spared_iff.1 ho
  intro hdoomed
  by_cases hall : policy = .all
  · subst hall
    exact hspared (List.mem_map_of_mem hmem)
  · have hactive : o.phase.isActive = true :=
      (mem_activeNames_iff hnodup ho').1 (doomed_subset_activeNames hall hdoomed)
    refine hspared (activeNames_subset_doomed hsome ?_)
    exact List.mem_map_of_mem (List.mem_filter.2 ⟨hmem, hactive⟩)

/-! ## One cleanup is enough -/

def Takes (policy : CleanPodPolicy) (active : Bool) (o : ObservedPod) : Prop :=
  policy = .all ∨
    (policy = .running ∨ active = true) ∧ (o.phase = .pending ∨ o.phase = .running)

instance (policy : CleanPodPolicy) (active : Bool) (o : ObservedPod) :
    Decidable (Takes policy active o) := by
  unfold Takes
  infer_instance

def sparedServices (policy : CleanPodPolicy) (pods : List ObservedPod) (services : NameSet)
    (active : Bool) : NameSet :=
  (make policy pods services active).deleteServices.foldl Dict.erase services

theorem activeNames_eq (h : ∀ o : ObservedPod, Takes policy active o ↔ o.phase.isActive = true) :
    activeNames pods = (pods.filter fun o => Takes policy active o).map (·.name) := by
  unfold activeNames
  congr 1
  refine List.filter_congr fun o _ => ?_
  rw [Bool.eq_iff_iff, decide_eq_true_iff, h o]

theorem doomed_eq (policy : CleanPodPolicy) (pods : List ObservedPod) (active : Bool) :
    doomed policy pods active = (pods.filter fun o => Takes policy active o).map (·.name) := by
  cases policy with
  | all =>
    have hall : (pods.filter fun o => Takes .all active o) = pods :=
      List.filter_eq_self.2 fun o _ => decide_eq_true (.inl rfl)
    rw [hall]
    rfl
  | running => exact activeNames_eq fun o => by simp [Takes, PodPhase.isActive_iff]
  | none =>
    cases active with
    | true => exact activeNames_eq fun o => by simp [Takes, PodPhase.isActive_iff]
    | false =>
      have hnone : (pods.filter fun o => Takes .none false o) = [] :=
        List.filter_eq_nil_iff.2 fun o _ => by simp [Takes]
      rw [hnone]
      rfl

theorem deleteServices_eq (policy : CleanPodPolicy) (pods : List ObservedPod) (services : NameSet)
    (active : Bool) :
    (make policy pods services active).deleteServices = services.keys.filter fun n =>
      policy = .all ∨ n ∈ (make policy pods services active).deletePods := by
  cases policy with
  | all => exact (List.filter_eq_self.2 fun n _ => decide_eq_true (.inl rfl)).symm
  | running =>
    refine List.filter_congr fun n _ => ?_
    simp [make]
  | none =>
    refine List.filter_congr fun n _ => ?_
    simp [make]

theorem eq_nil_iff (plan : CleanupPlan) :
    plan = ⟨[], []⟩ ↔ plan.deletePods = [] ∧ plan.deleteServices = [] := by
  cases plan
  simp

/-- Nothing is left to be done just if no pod is taken, and no service is there to go with all. -/
theorem make_eq_nil_iff {services : NameSet} :
    make policy pods services active = ⟨[], []⟩ ↔
      (∀ o ∈ pods, ¬ Takes policy active o) ∧ (policy = .all → services.keys = []) := by
  have hpods : (make policy pods services active).deletePods = [] ↔
      ∀ o ∈ pods, ¬ Takes policy active o := by
    show doomed policy pods active = [] ↔ _
    rw [doomed_eq, List.map_eq_nil_iff, List.filter_eq_nil_iff]
    simp only [decide_eq_true_eq]
  rw [eq_nil_iff, hpods, deleteServices_eq, List.filter_eq_nil_iff]
  refine and_congr_right fun hnone => ?_
  rw [hpods.2 hnone, List.eq_nil_iff_forall_not_mem]
  simp only [List.not_mem_nil, or_false, decide_eq_true_eq]
  exact ⟨fun h hall n hn => h n hn hall, fun h n hn hall => h hall n hn⟩

theorem make_eq_nil_mono {services services' : NameSet}
    (h : make policy pods services active = ⟨[], []⟩) (hpods : pods' ⊆ pods)
    (hservices : services'.keys ⊆ services.keys) :
    make policy pods' services' active = ⟨[], []⟩ := by
  obtain ⟨hnone, hall⟩ := make_eq_nil_iff.1 h
  refine make_eq_nil_iff.2 ⟨fun o ho => hnone o (hpods ho), fun hpolicy => ?_⟩
  exact List.subset_nil.1 (hall hpolicy ▸ hservices)

theorem mem_sparedServices_iff {services : NameSet} {n : String} :
    n ∈ (sparedServices policy pods services active).keys ↔
      n ∈ services.keys ∧ n ∉ (make policy pods services active).deleteServices :=
  Dict.mem_keys_foldl_erase _ _

/-- A cleanup leaves nothing for another one by the same policy, whether or not that one has still
to stop pods on account of a limit. -/
theorem make_spared (hactive : active' = true → active = true) (services : NameSet) :
    make policy (spared policy pods active) (sparedServices policy pods services active) active' =
      ⟨[], []⟩ := by
  refine make_eq_nil_iff.2 ⟨fun o ho htakes => ?_, fun hall => ?_⟩
  · obtain ⟨hmem, hspared⟩ := mem_spared_iff.1 ho
    refine hspared ?_
    rw [doomed_eq]
    have hbefore : Takes policy active o :=
      htakes.imp_right fun h => ⟨h.1.imp_right hactive, h.2⟩
    exact List.mem_map_of_mem (List.mem_filter.2 ⟨hmem, decide_eq_true hbefore⟩)
  · rw [List.eq_nil_iff_forall_not_mem]
    intro n hn
    obtain ⟨hthere, hkept⟩ := mem_sparedServices_iff.1 hn
    subst hall
    exact hkept hthere

end CleanupPlan

end TrainingJobs
