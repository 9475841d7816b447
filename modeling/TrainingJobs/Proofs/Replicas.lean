import TrainingJobs.Lifecycle
import TrainingJobs.Plan
import TrainingJobs.Proofs.Dict

/-!
# Declared replicas

A type of replica is found by its name whatever the case of the letters. When the types of a spec
stay distinct without their case (`TypesDistinct`), the type that is found is the only one.
-/

namespace TrainingJobs

open Text

namespace JobSpec

variable {s : JobSpec} {e : String × ReplicaSpec} {p : ObservedPod} {type : String} {i : Int32}

/-- The types of replicas differ in more than the case of their letters. -/
def TypesDistinct (s : JobSpec) : Prop :=
  ∀ a ∈ s.replicaSpecs.keys, ∀ b ∈ s.replicaSpecs.keys, lower a = lower b → a = b

instance (s : JobSpec) : Decidable s.TypesDistinct := by
  unfold TypesDistinct
  infer_instance

theorem mem_entries_of_replica? (h : s.replica? type = some e) : e ∈ s.replicaSpecs.entries :=
  List.mem_of_find?_eq_some h

theorem lower_of_replica? (h : s.replica? type = some e) : lower e.1 = lower type := by
  have hsame := List.find?_some (p := fun e : String × ReplicaSpec => sameLetters e.1 type) h
  exact sameLetters_iff.1 hsame

theorem replica?_congr {type' : String} (h : lower type = lower type') :
    s.replica? type = s.replica? type' := by
  simp only [replica?, sameLetters, h]

theorem exists_replica? (h : e ∈ s.replicaSpecs.entries) : ∃ e', s.replica? e.1 = some e' := by
  refine Option.isSome_iff_exists.1 (List.find?_isSome.2 ⟨e, h, ?_⟩)
  exact sameLetters_self e.1

theorem replica?_eq_none_iff :
    s.replica? type = none ↔ ∀ e ∈ s.replicaSpecs.entries, sameLetters e.1 type = false := by
  simp only [replica?, List.find?_eq_none, Bool.not_eq_true]

theorem TypesDistinct.replica?_eq_some_iff (hd : s.TypesDistinct) :
    s.replica? type = some e ↔ e ∈ s.replicaSpecs.entries ∧ lower e.1 = lower type := by
  refine ⟨fun h => ⟨mem_entries_of_replica? h, lower_of_replica? h⟩, fun ⟨hmem, hlower⟩ => ?_⟩
  obtain ⟨e', he'⟩ := exists_replica? hmem
  have hmem' : e' ∈ s.replicaSpecs.entries := mem_entries_of_replica? he'
  have hkey : e'.1 = e.1 := hd _ (List.mem_map_of_mem hmem') _ (List.mem_map_of_mem hmem)
    (lower_of_replica? he')
  have hval : e'.2 = e.2 := by
    have hget : s.replicaSpecs.get? e.1 = some e'.2 := by
      rw [← hkey]
      exact Dict.mem_entries_iff.1 hmem'
    rw [Dict.mem_entries_iff.1 hmem] at hget
    exact (Option.some.inj hget).symm
  rw [← replica?_congr hlower, he', Prod.ext hkey hval]

/-! ## Replicas by type and index -/

theorem mem_indexes_iff {n : Int32} : i ∈ indexes n ↔ 0 ≤ i ∧ i < n := by
  have hle : n.toInt < 2147483648 := n.toInt_lt
  simp only [indexes, List.mem_map, List.mem_range, Int32.le_iff_toInt_le,
    Int32.lt_iff_toInt_lt, Int32.toInt_zero]
  constructor
  · rintro ⟨k, hk, rfl⟩
    rw [Int32.toInt_ofNat_of_lt (by omega)]
    omega
  · rintro ⟨hpos, hlt⟩
    refine ⟨i.toInt.toNat, by omega, ?_⟩
    rw [← Int32.toInt_inj, Int32.toInt_ofNat_of_lt (by omega)]
    omega

theorem mem_declaredReplicas_iff :
    (type, i) ∈ s.declaredReplicas ↔
      ∃ r, (type, r) ∈ s.replicaSpecs.entries ∧ 0 ≤ i ∧ i < r.replicas := by
  simp only [declaredReplicas, List.mem_flatMap, List.mem_map, Prod.mk.injEq, mem_indexes_iff]
  constructor
  · rintro ⟨⟨type', r⟩, hmem, i', hi', rfl, rfl⟩
    exact ⟨r, hmem, hi'⟩
  · rintro ⟨r, hmem, hi⟩
    exact ⟨(type, r), hmem, i, hi, rfl, rfl⟩

theorem nodup_indexes (replicas : Int32) : (indexes replicas).Nodup := by
  have hlt : replicas.toInt < 2147483648 := replicas.toInt_lt
  refine List.Nodup.map_on (fun a ha b hb hab => ?_) List.nodup_range
  rw [List.mem_range] at ha hb
  rw [← Int32.toInt_inj, Int32.toInt_ofNat_of_lt (by omega), Int32.toInt_ofNat_of_lt (by omega)]
    at hab
  omega

theorem nodup_declaredReplicas (s : JobSpec) : s.declaredReplicas.Nodup := by
  refine List.nodup_flatMap.2 ⟨fun e _ => ?_, ?_⟩
  · exact (nodup_indexes _).map fun a b hab => (Prod.mk.inj hab).2
  · refine s.replicaSpecs.increasing.pairwise_ne.imp fun {a b} hne => ?_
    intro x hxa hxb
    obtain ⟨i, -, rfl⟩ := List.mem_map.1 hxa
    obtain ⟨i', -, hb⟩ := List.mem_map.1 hxb
    exact hne (Prod.mk.inj hb).1.symm

end JobSpec

namespace Lifecycle

variable {s : JobSpec} {e : String × ReplicaSpec} {p : ObservedPod}

theorem declared?_eq_some_iff :
    declared? s p = some e ↔ s.replica? p.replicaType = some e ∧ p.index < e.2.replicas := by
  simp only [declared?, Option.filter_eq_some_iff, decide_eq_true_eq]

theorem isSome_declared? : (declared? s p).isSome = s.declares p := by
  unfold declared? JobSpec.declares
  cases s.replica? p.replicaType with
  | none => rfl
  | some e => by_cases h : p.index < e.2.replicas <;> simp [Option.filter, h]

end Lifecycle

end TrainingJobs
