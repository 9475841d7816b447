import Mathlib.Data.Finset.Card
import TrainingJobs.Proofs.Checks
import TrainingJobs.Proofs.Replica.Ranks

/-!
# Which specs are accepted

What a spec has to be is said rule by rule, without an order: of the replicas of one type
(`ReplicaSpec.Sound`), of the run policy (`RunPolicy.Sound`) and of the spec (`JobSpec.Sound`). The
check goes through the rules in an order and stops at the first that is broken. It accepts just the
specs that keep them all, and what it says of a type it says of the first type in key order that
breaks a rule (`JobSpec.check_exact`).
-/

namespace TrainingJobs

open Text

/-- The type names a master role, in any letters. -/
def NamesMaster (type : String) : Prop :=
  sameLetters type "Master" = true ∨ sameLetters type "Chief" = true ∨
    sameLetters type "Launcher" = true

instance (type : String) : Decidable (NamesMaster type) :=
  inferInstanceAs (Decidable (_ ∨ _))

theorem isMasterRole_iff {type : String} : isMasterRole type = true ↔ NamesMaster type := by
  simp only [isMasterRole, masterRoles, List.contains_iff_mem, List.mem_cons, List.not_mem_nil,
    or_false, NamesMaster, sameLetters_iff]
  rfl

/-! ## Replicas of one type -/

/-- What the replicas of a type have to be: not negative in number, one if the type names a master
role, and made from a template with a container. -/
structure ReplicaSpec.Sound (r : ReplicaSpec) (type : String) : Prop where
  nonneg : 0 ≤ r.replicas
  alone : NamesMaster type → r.replicas = 1
  runs : ∃ spec, r.template.spec = some spec ∧ spec.containers ≠ []

/-- The first of these rules that the replicas of a type break. -/
inductive ReplicaSpec.Breaks (r : ReplicaSpec) (type : String) : ReplicaFault → Prop
  | negative : r.replicas < 0 → r.Breaks type (.negativeReplicas r.replicas)
  | notAlone : 0 ≤ r.replicas → NamesMaster type → r.replicas ≠ 1 →
    r.Breaks type (.notOneMaster r.replicas)
  | idle : 0 ≤ r.replicas → (NamesMaster type → r.replicas = 1) →
    (∀ spec, r.template.spec = some spec → spec.containers = []) → r.Breaks type .noContainers

namespace ReplicaSpec

variable {r : ReplicaSpec} {type : String} {fault : ReplicaFault}

theorem hasContainers_iff :
    r.hasContainers = true ↔ ∃ spec, r.template.spec = some spec ∧ spec.containers ≠ [] := by
  unfold hasContainers
  cases r.template.spec with
  | none => simp
  | some spec => simp

theorem sound_or_breaks (r : ReplicaSpec) (type : String) :
    r.Sound type ∨ ∃ fault, r.Breaks type fault := by
  by_cases hneg : r.replicas < 0
  · exact .inr ⟨_, .negative hneg⟩
  have hpos := Int32.not_lt.1 hneg
  by_cases hmany : NamesMaster type ∧ r.replicas ≠ 1
  · exact .inr ⟨_, .notAlone hpos hmany.1 hmany.2⟩
  rw [not_and, not_ne_iff] at hmany
  by_cases hruns : ∃ spec, r.template.spec = some spec ∧ spec.containers ≠ []
  · exact .inl ⟨hpos, hmany, hruns⟩
  simp only [not_exists, not_and, not_ne_iff] at hruns
  exact .inr ⟨_, .idle hpos hmany hruns⟩

theorem Sound.checkReplica_eq (h : r.Sound type) : JobSpec.checkReplica type r = .ok () := by
  have halone : ¬ (isMasterRole type = true ∧ r.replicas ≠ 1) :=
    fun hmany => hmany.2 (h.alone (isMasterRole_iff.1 hmany.1))
  rw [JobSpec.checkReplica, if_neg (Int32.not_lt.2 h.nonneg), if_neg halone,
    hasContainers_iff.2 h.runs]
  rfl

theorem Breaks.checkReplica_eq (h : r.Breaks type fault) :
    JobSpec.checkReplica type r = .error (.invalidReplicaSpec type fault) := by
  cases h with
  | negative hneg => rw [JobSpec.checkReplica, if_pos hneg]
  | notAlone hpos hmaster hmany =>
    rw [JobSpec.checkReplica, if_neg (Int32.not_lt.2 hpos),
      if_pos ⟨isMasterRole_iff.2 hmaster, hmany⟩]
  | idle hpos halone hidle =>
    have hnone : r.hasContainers = false := by
      rw [← Bool.not_eq_true, hasContainers_iff]
      rintro ⟨spec, hspec, hsome⟩
      exact hsome (hidle spec hspec)
    rw [JobSpec.checkReplica, if_neg (Int32.not_lt.2 hpos),
      if_neg fun hmany => hmany.2 (halone (isMasterRole_iff.1 hmany.1)), hnone]
    rfl

end ReplicaSpec

namespace JobSpec

variable {type : String} {r : ReplicaSpec} {why : JobError}

theorem checkReplica_eq_ok_iff : checkReplica type r = .ok () ↔ r.Sound type := by
  refine ⟨fun hok => ?_, fun h => h.checkReplica_eq⟩
  rcases r.sound_or_breaks type with hsound | ⟨fault, hbreaks⟩
  · exact hsound
  · rw [hbreaks.checkReplica_eq] at hok
    cases hok

theorem checkReplica_eq_error_iff : checkReplica type r = .error why ↔
    ∃ fault, why = .invalidReplicaSpec type fault ∧ r.Breaks type fault := by
  constructor
  · intro herror
    rcases r.sound_or_breaks type with hsound | ⟨fault, hbreaks⟩
    · rw [hsound.checkReplica_eq] at herror
      cases herror
    · rw [hbreaks.checkReplica_eq] at herror
      exact ⟨fault, (Except.error.inj herror).symm, hbreaks⟩
  · rintro ⟨fault, rfl, hbreaks⟩
    exact hbreaks.checkReplica_eq

end JobSpec

/-! ## The run policy -/

/-- What a run policy has to be: the deadline is between a second and ten years, and nothing is
negative. -/
structure RunPolicy.Sound (p : RunPolicy) : Prop where
  deadline : ∀ n, p.activeDeadlineSeconds = some n → 1 ≤ n ∧ n ≤ 315360000
  timeToLive : ∀ n, p.ttlSecondsAfterFinished = some n → 0 ≤ n
  backoffLimit : ∀ n, p.backoffLimit = some n → 0 ≤ n

theorem RunPolicy.check_eq_ok_iff {p : RunPolicy} : p.check = .ok () ↔ p.Sound := by
  have hsound : p.Sound ↔ (∀ n ∈ p.activeDeadlineSeconds, ¬ (n < 1 ∨ longestDeadline < n)) ∧
      (∀ n ∈ p.ttlSecondsAfterFinished, ¬ n < 0) ∧ ∀ n ∈ p.backoffLimit, ¬ n < 0 := by
    simp only [not_or, Int64.not_lt, Int32.not_lt]
    exact ⟨fun h => ⟨h.deadline, h.timeToLive, h.backoffLimit⟩, fun h => ⟨h.1, h.2.1, h.2.2⟩⟩
  have hdone : (pure () : Except JobError Unit) = .ok () := rfl
  rw [hsound]
  unfold check
  cases p.activeDeadlineSeconds <;> cases p.ttlSecondsAfterFinished <;> cases p.backoffLimit <;>
    simp only [throwIf_eq_ok_iff, throwElse_eq_ok_iff, hdone, Option.mem_def, Option.some.injEq,
      forall_eq', reduceCtorEq, false_imp_iff, forall_const, true_and, and_true]

theorem RunPolicy.check_ne_error {p : RunPolicy} {type : String} {fault : ReplicaFault} :
    p.check ≠ .error (.invalidReplicaSpec type fault) := by
  have hdone : (pure () : Except JobError Unit) = .ok () := rfl
  unfold check
  cases p.activeDeadlineSeconds <;> cases p.ttlSecondsAfterFinished <;> cases p.backoffLimit <;>
    simp only [ne_eq, throwIf_eq_error_iff, throwElse_eq_error_iff, hdone, reduceCtorEq, and_false,
      or_self, not_false_eq_true]

namespace JobSpec

variable {s : JobSpec} {type : String} {fault : ReplicaFault}

/-! ## Master roles -/

def SingleMaster (s : JobSpec) : Prop :=
  ∀ a ∈ s.replicaSpecs.keys, ∀ b ∈ s.replicaSpecs.keys, NamesMaster a → NamesMaster b → a = b

theorem severalMasters_iff :
    1 < (s.replicaSpecs.keys.filter isMasterRole).length ↔ ¬ s.SingleMaster := by
  have hnodup : (s.replicaSpecs.keys.filter isMasterRole).Nodup := s.replicaSpecs.nodup_keys.filter _
  rw [← Nat.not_le, ← List.toFinset_card_of_nodup hnodup, Finset.card_le_one, not_iff_not]
  simp only [SingleMaster, List.mem_toFinset, List.mem_filter, isMasterRole_iff, and_imp]
  exact ⟨fun h a ha b hb hmaster => h a ha hmaster b hb,
    fun h a ha hmaster b hb => h a ha b hb hmaster⟩

theorem masterType?_eq_some_iff : s.masterType? = some type ↔
    type ∈ s.replicaSpecs.keys ∧ NamesMaster type ∧
      ∀ other ∈ s.replicaSpecs.keys, NamesMaster other → type ≤ other := by
  have hkeys : s.replicaSpecs.keys.Pairwise (· < ·) :=
    List.pairwise_map.2 s.replicaSpecs.increasing
  have hfirst : s.masterType? = some type ↔
      HasFirst (fun t => ¬ NamesMaster t) (fun t => NamesMaster t ∧ t = type)
        s.replicaSpecs.keys := by
    simp only [masterType?, List.find?_eq_some_iff_append, isMasterRole_iff, Bool.not_eq_true',
      ← Bool.not_eq_true, HasFirst]
    constructor
    · rintro ⟨hmaster, before, after, hsplit, hbefore⟩
      exact ⟨before, type, after, hsplit, hbefore, hmaster, rfl⟩
    · rintro ⟨before, t, after, hsplit, hbefore, hmaster, rfl⟩
      exact ⟨hmaster, before, after, hsplit, hbefore⟩
  rw [hfirst, hasFirst_iff (fun a b => String.lt_asymm) hkeys]
  constructor
  · rintro ⟨t, ht, ⟨hmaster, rfl⟩, hothers⟩
    exact ⟨ht, hmaster, fun other hother hrole =>
      String.not_lt.1 fun hlt => hothers other hother hlt hrole⟩
  · rintro ⟨ht, hmaster, hothers⟩
    exact ⟨type, ht, ⟨hmaster, rfl⟩, fun other hother hlt hrole =>
      String.not_lt.2 (hothers other hother hrole) hlt⟩

/-! ## The spec -/

structure Sound (s : JobSpec) : Prop where
  someType : s.replicaSpecs.entries ≠ []
  oneMaster : s.SingleMaster
  eachType : ∀ e ∈ s.replicaSpecs.entries, e.2.Sound e.1
  someReplica : ∃ e ∈ s.replicaSpecs.entries, 0 < e.2.replicas
  runPolicy : s.runPolicy.Sound

/-- The type of which the check complains, and what it says of it. -/
inductive FirstFault (s : JobSpec) : String → ReplicaFault → Prop
  /-- Of several types that name a master role, the first in key order is named. -/
  | severalMasters {type : String} : ¬ s.SingleMaster → type ∈ s.replicaSpecs.keys →
    NamesMaster type → (∀ other ∈ s.replicaSpecs.keys, NamesMaster other → type ≤ other) →
    s.FirstFault type .severalMasters
  /-- Of several types that break a rule, the first in key order is named. -/
  | ofType {type : String} {r : ReplicaSpec} {fault : ReplicaFault} : s.SingleMaster →
    (type, r) ∈ s.replicaSpecs.entries → r.Breaks type fault →
    (∀ e ∈ s.replicaSpecs.entries, e.1 < type → e.2.Sound e.1) → s.FirstFault type fault

theorem FirstFault.entries_ne_nil (h : s.FirstFault type fault) : s.replicaSpecs.entries ≠ [] := by
  cases h with
  | severalMasters _ hmem => exact fun hnil => List.ne_nil_of_mem hmem (List.map_eq_nil_iff.2 hnil)
  | ofType _ he => exact List.ne_nil_of_mem he

theorem firstFault_of_several (h : ¬ s.SingleMaster) : s.FirstFault type fault ↔
    JobError.invalidReplicaSpec (s.masterType?.getD "") .severalMasters =
      .invalidReplicaSpec type fault := by
  have hmaster : s.masterType?.isSome = true := by
    rw [masterType?, List.find?_isSome]
    by_contra hnone
    exact h fun a ha b _ hrole => absurd ⟨a, ha, isMasterRole_iff.2 hrole⟩ hnone
  obtain ⟨t, ht⟩ := Option.isSome_iff_exists.1 hmaster
  obtain ⟨hmem, hrole, hleast⟩ := masterType?_eq_some_iff.1 ht
  rw [ht, Option.getD_some, JobError.invalidReplicaSpec.injEq]
  constructor
  · intro hfault
    cases hfault with
    | severalMasters _ hmem' hrole' hleast' =>
      exact ⟨String.le_antisymm (hleast _ hmem' hrole') (hleast' _ hmem hrole), rfl⟩
    | ofType hone => exact absurd hone h
  · rintro ⟨rfl, rfl⟩
    exact .severalMasters h hmem hrole hleast

/-- The types are looked at in key order, up to the first that breaks a rule. -/
theorem firstFault_of_single (h : s.SingleMaster) : s.FirstFault type fault ↔
    (s.replicaSpecs.entries.forM fun e => checkReplica e.1 e.2) =
      .error (.invalidReplicaSpec type fault) := by
  rw [forM_eq_error_iff, hasFirst_iff (fun _ _ => String.lt_asymm) s.replicaSpecs.increasing]
  simp only [checkReplica_eq_ok_iff, checkReplica_eq_error_iff, JobError.invalidReplicaSpec.injEq]
  constructor
  · intro hfault
    cases hfault with
    | severalMasters hseveral => exact absurd h hseveral
    | ofType _ he hbreaks hbefore => exact ⟨_, he, ⟨_, ⟨rfl, rfl⟩, hbreaks⟩, hbefore⟩
  · rintro ⟨⟨t, r⟩, he, ⟨_, ⟨rfl, rfl⟩, hbreaks⟩, hbefore⟩
    exact .ofType h he hbreaks hbefore

theorem checkTypes_eq_error_iff :
    s.checkTypes = .error (.invalidReplicaSpec type fault) ↔ s.FirstFault type fault := by
  have hempty : s.replicaSpecs.isEmpty = true ↔ s.replicaSpecs.entries = [] := List.isEmpty_iff
  unfold checkTypes
  dsimp only
  rw [throwIf_eq_error_iff, throwIf_eq_error_iff, hempty, severalMasters_iff, not_not]
  simp only [reduceCtorEq, and_false, false_or]
  by_cases hone : s.SingleMaster
  · simp only [hone, not_true_eq_false, false_and, true_and, false_or]
    rw [← firstFault_of_single hone]
    exact and_iff_right_of_imp FirstFault.entries_ne_nil
  · simp only [hone, not_false_eq_true, true_and, false_and, or_false]
    rw [← firstFault_of_several hone]
    exact and_iff_right_of_imp FirstFault.entries_ne_nil

theorem checkCounted_ne_error {n : Int32} :
    s.checkCounted n ≠ .error (.invalidReplicaSpec type fault) := by
  unfold checkCounted
  dsimp only
  rw [ne_eq, throwIf_eq_error_iff]
  simp only [RunPolicy.check_ne_error, reduceCtorEq, and_false, or_self, not_false_eq_true]

theorem replicaCount_pos_iff (hpos : ∀ e ∈ s.replicaSpecs.entries, 0 ≤ e.2.replicas) :
    0 < s.replicaCount ↔ ∃ e ∈ s.replicaSpecs.entries, 0 < e.2.replicas := by
  rw [← length_declaredReplicas hpos, Int.natCast_pos, List.length_pos_iff_exists_mem]
  constructor
  · rintro ⟨⟨type, i⟩, hmem⟩
    obtain ⟨r, he, hi, hlt⟩ := mem_declaredReplicas_iff.1 hmem
    exact ⟨(type, r), he, Int32.lt_of_le_of_lt hi hlt⟩
  · rintro ⟨e, he, hlt⟩
    exact ⟨(e.1, 0), mem_declaredReplicas_iff.2 ⟨e.2, he, Int32.le_refl 0, hlt⟩⟩

/-- In 32 bits the number of all replicas is zero for every multiple of 2^32. -/
theorem totalReplicas_eq_zero_iff : s.totalReplicas = 0 ↔ 2 ^ 32 ∣ s.replicaCount := by
  rw [← Int32.toInt_inj, toInt_totalReplicas_eq_bmod, Int32.toInt_zero, Int.bmod_def]
  omega

theorem check_eq_ok_iff_sound : s.check = .ok () ↔ s.Sound ∧ ¬ 2 ^ 32 ∣ s.replicaCount := by
  have hempty : s.replicaSpecs.isEmpty = true ↔ s.replicaSpecs.entries = [] := List.isEmpty_iff
  rw [check_eq_ok_iff, hempty, severalMasters_iff, not_not, RunPolicy.check_eq_ok_iff, ne_eq,
    totalReplicas_eq_zero_iff]
  simp only [checkReplica_eq_ok_iff]
  constructor
  · rintro ⟨hsome, hone, heach, htotal, hpolicy⟩
    have hpos := fun e he => (heach e he).nonneg
    have hcount := length_declaredReplicas hpos
    have hreplica : 0 < s.replicaCount := by omega
    exact ⟨⟨hsome, hone, heach, (replicaCount_pos_iff hpos).1 hreplica, hpolicy⟩, htotal⟩
  · rintro ⟨hsound, htotal⟩
    exact ⟨hsound.someType, hsound.oneMaster, hsound.eachType, htotal, hsound.runPolicy⟩

/-- A spec that breaks no rule is refused all the same if its replicas seem to be none. -/
theorem check_eq_error_of_sound (h : s.Sound) (hzero : s.totalReplicas = 0) :
    s.check = .error .noReplicaSpecs := by
  have htypes : s.checkTypes = .ok () :=
    checkTypes_eq_ok_iff.2 ⟨mt List.isEmpty_iff.1 h.someType,
      mt severalMasters_iff.1 (not_not_intro h.oneMaster),
      fun e he => checkReplica_eq_ok_iff.2 (h.eachType e he)⟩
  rw [check, htypes, hzero]
  rfl

/-- **The check accepts just the sound specs**, as long as 32 bits count their replicas, and a
refusal for the replicas of one type names the first type at fault in key order. -/
theorem check_exact (s : JobSpec) (hfits : s.replicaCount ≤ Int32.maxValue.toInt) :
    (s.check = .ok () ↔ s.Sound) ∧
      ∀ type fault, s.check = .error (.invalidReplicaSpec type fault) ↔
        s.FirstFault type fault := by
  constructor
  · rw [check_eq_ok_iff_sound]
    refine and_iff_left_of_imp fun hsound => ?_
    have hmax : Int32.maxValue.toInt = 2147483647 := rfl
    have hpos := (replicaCount_pos_iff fun e he => (hsound.eachType e he).nonneg).2
      hsound.someReplica
    omega
  · intro type fault
    rw [check, bind_eq_error_iff, checkTypes_eq_error_iff]
    exact or_iff_left fun h => checkCounted_ne_error h.2

/-- As many replicas as 32 bits count, all of which run one container. -/
def limitSpec : JobSpec where
  replicaSpecs := Dict.ofList
    [("Chief", { template := { spec := some { containers := [{ name := "tensorflow" }] } } }),
      ("Worker", { replicas := 2147483646,
                   template := { spec := some { containers := [{ name := "tensorflow" }] } } })]

/-- A type that runs nothing, a master that is not alone and a negative number of workers. -/
def faultySpec : JobSpec where
  replicaSpecs := Dict.ofList
    [("Worker", { replicas := -1 }), ("Master", { replicas := 2 }), ("Aux", {})]

/-- The largest spec is accepted, and of several faults the one of the first type is told. -/
theorem check_exact_limit_and_fault :
    (limitSpec.replicaCount = Int32.maxValue.toInt ∧ limitSpec.check = .ok () ∧ limitSpec.Sound) ∧
    faultySpec.replicaCount ≤ Int32.maxValue.toInt ∧ ¬ faultySpec.Sound ∧
    faultySpec.check = .error (.invalidReplicaSpec "Aux" .noContainers) ∧
    faultySpec.FirstFault "Aux" .noContainers := by
  have hlimit : limitSpec.replicaCount = Int32.maxValue.toInt := by decide
  have hok : limitSpec.check = .ok () := by decide
  have hfits : faultySpec.replicaCount ≤ Int32.maxValue.toInt := by decide
  have hfault : faultySpec.check = .error (.invalidReplicaSpec "Aux" .noContainers) := by decide
  refine ⟨⟨hlimit, hok, (check_exact limitSpec hlimit.le).1.1 hok⟩, hfits, fun hsound => ?_, hfault,
    ((check_exact faultySpec hfits).2 _ _).1 hfault⟩
  rw [(check_exact faultySpec hfits).1.2 hsound] at hfault
  cases hfault

end JobSpec

end TrainingJobs
