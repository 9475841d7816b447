import Mathlib.Algebra.Order.Group.Int
import Mathlib.Data.List.TakeWhile
import TrainingJobs.Gang.PodGroup
import TrainingJobs.Proofs.AcceptedSpecs
import TrainingJobs.Proofs.Overflow

/-!
# How far replicas are counted

Replicas are added up in 32 bits: for their number, which the check looks at itself, and for the
offsets of the ranks. A spec is counted exactly (`JobSpec.CountsExactly`) if none of these sums, and
nothing that is told of them, leaves the numbers that 32 bits hold. Each type stays within them, but
the check does not look at their exact sum. Where overflow is checked it stops at the sum if that is
too large, and so a spec that passes is counted exactly; elsewhere it accepts specs of any number of
replicas, other than the multiples of 2^32, of which just those with at most 2^31 - 1 replicas are
counted exactly (`JobSpec.validate_exact`).
-/

namespace TrainingJobs

open Text

theorem PodGroup.minMember_eq {j : Job} {scheduler : GangScheduler} {g : PodGroup}
    (hg : ofJob? j scheduler = some g)
    (hunset : j.spec.runPolicy.schedulingPolicy.bind (·.minAvailable) = none) :
    g.minMember = j.spec.totalReplicas := by
  obtain ⟨version, -, rfl⟩ := Option.map_eq_some_iff.1 hg
  dsimp only
  cases hpolicy : j.spec.runPolicy.schedulingPolicy with
  | none => rfl
  | some policy =>
    rw [hpolicy, Option.bind_some] at hunset
    rw [Option.getD_some, hunset, Option.getD_none]

theorem Replica.mem_environment (job : String) (s : JobSpec) (type : String) (i : Int32) :
    { name := "WORLD_SIZE", value := some (showInt32 s.totalReplicas) } ∈
        environment job s type i ∧
      { name := "RANK", value := some (showInt32 ((s.rank? type i).getD i)) } ∈
        environment job s type i := by
  unfold environment
  simp

namespace JobSpec

variable {s : JobSpec} {types : List (String × Int32)} {type : String} {i offset k : Int32}

/-- The types that stand in front of this one. -/
def typesBefore (type : String) (types : List (String × Int32)) : List (String × Int32) :=
  types.takeWhile fun t => !sameLetters t.1 type

/-- The exact number of replicas whose types come before this one in the order of ranks. -/
def exactOffset (s : JobSpec) (type : String) : Int :=
  ((typesBefore type s.rankOrder).map fun t => t.2.toInt).sum

/-- Nothing that is computed from the numbers of replicas leaves the numbers that 32 bits hold, and
nothing that is computed of a declared replica or of the pod group stops at an overflow. -/
structure CountsExactly (s : JobSpec) : Prop where
  /-- The number of all replicas is exact, and every sum on the way to it is in range. -/
  sums : ∀ n ∈ runningSums (s.replicaSpecs.values.map (·.replicas)), IsCount n
  total : IsCount s.replicaCount ∧ s.totalReplicas.toInt = s.replicaCount ∧
    s.checkedTotal = .ok s.totalReplicas
  /-- So are the offsets of the types up to the one of a declared replica, and its rank. -/
  offsets : ∀ r ∈ s.declaredReplicas,
    ∀ n ∈ runningSums ((typesBefore r.1 s.rankOrder).map (·.2)), IsCount n
  ranks : ∀ r ∈ s.declaredReplicas, IsCount (s.exactOffset r.1 + r.2.toInt) ∧
    s.checkedRank r.1 r.2 = .ok (s.rank? r.1 r.2) ∧
    ∀ k, s.rank? r.1 r.2 = some k → k.toInt = s.exactOffset r.1 + r.2.toInt
  /-- The replicas are told their number, and a number that may be a rank. -/
  worldSize : ∀ job, ∀ r ∈ s.declaredReplicas,
    { name := "WORLD_SIZE", value := some (showInt s.replicaCount) } ∈
      Replica.environment job s r.1 r.2
  rank : ∀ job, ∀ r ∈ s.declaredReplicas, ∃ n, IsCount n ∧
    { name := "RANK", value := some (showInt n) } ∈ Replica.environment job s r.1 r.2
  pods : ∀ (j : Job) (scheduler : GangScheduler), j.spec = s → ∀ r ∈ s.declaredReplicas,
    Replica.checkedPod j r.1 r.2 scheduler = .ok (Replica.pod j r.1 r.2 scheduler)
  /-- The pod group waits for all of them. -/
  minMember : ∀ (j : Job) (scheduler : GangScheduler), j.spec = s →
    PodGroup.checkedOfJob j scheduler = .ok (PodGroup.ofJob? j scheduler) ∧
    ∀ g, PodGroup.ofJob? j scheduler = some g →
      j.spec.runPolicy.schedulingPolicy.bind (·.minAvailable) = none →
      g.minMember.toInt = s.replicaCount

theorem eq_of_rankIn_eq_some (h : rankIn type i offset types = some k) :
    k = (typesBefore type types).foldl (fun sum t => sum + t.2) offset + i := by
  induction types generalizing offset with
  | nil => cases h
  | cons t rest ih =>
    rw [rankIn] at h
    unfold typesBefore at ih ⊢
    cases hsame : sameLetters t.1 type with
    | true =>
      rw [hsame, if_pos rfl] at h
      rw [List.takeWhile_cons_of_neg (by simp [hsame])]
      exact (Option.some.inj (Option.ite_none_right_eq_some.1 h).2).symm
    | false =>
      rw [hsame, if_neg Bool.false_ne_true] at h
      rw [List.takeWhile_cons_of_pos (by simp [hsame])]
      exact ih h

/-- As long as 32 bits hold the largest sum, the rank is found without a stop. -/
theorem checkedRankIn_eq (hpos : ∀ t ∈ types, 0 ≤ t.2) (hoffset : 0 ≤ offset) (hi : 0 ≤ i)
    (hfits : offset.toInt + ((typesBefore type types).map fun t => t.2.toInt).sum + i.toInt ≤
      Int32.maxValue.toInt) :
    checkedRankIn type i offset types = .ok (rankIn type i offset types) := by
  have hmin : Int32.minValue.toInt = -2147483648 := rfl
  have hmax : Int32.maxValue.toInt = 2147483647 := rfl
  induction types generalizing offset with
  | nil => rfl
  | cons t rest ih =>
    rw [List.forall_mem_cons] at hpos
    rw [Int32.le_iff_toInt_le, Int32.toInt_zero] at hoffset hi
    rw [checkedRankIn, rankIn]
    unfold typesBefore at ih hfits
    cases hsame : sameLetters t.1 type with
    | true =>
      rw [List.takeWhile_cons_of_neg (by simp [hsame]), List.map_nil, List.sum_nil] at hfits
      rw [if_pos rfl, if_pos rfl, Checked.add_of_fits (by omega) (by omega)]
      rfl
    | false =>
      rw [List.takeWhile_cons_of_pos (by simp [hsame]), List.map_cons, List.sum_cons] at hfits
      have hreplicas := Int32.le_iff_toInt_le.1 hpos.1
      have hrest : 0 ≤ ((rest.takeWhile fun t => !sameLetters t.1 type).map fun t =>
          t.2.toInt).sum := by
        refine List.sum_nonneg fun x hx => ?_
        obtain ⟨t', ht', rfl⟩ := List.mem_map.1 hx
        exact Int32.le_iff_toInt_le.1 (hpos.2 t' (List.takeWhile_subset _ ht'))
      rw [Int32.toInt_zero] at hreplicas
      have hexact : (offset + t.2).toInt = offset.toInt + t.2.toInt := by
        rw [Int32.toInt_add]
        exact Int.bmod_eq_of_le (by omega) (by omega)
      rw [if_neg Bool.false_ne_true, if_neg Bool.false_ne_true,
        Checked.add_of_fits (by omega) (by omega)]
      refine ih hpos.2 ?_ (by omega)
      rw [Int32.le_iff_toInt_le, Int32.toInt_zero]
      omega

theorem sum_rankOrder (s : JobSpec) : (s.rankOrder.map fun t => t.2.toInt).sum = s.replicaCount := by
  rw [(s.perm_rankOrder.map _).sum_eq, List.map_map, replicaCount, Dict.values, List.map_map]
  rfl

theorem map_counts (s : JobSpec) :
    ((s.replicaSpecs.values.map (·.replicas)).map Int32.toInt).sum = s.replicaCount := by
  rw [List.map_map]
  rfl

section Counted

variable (hpos : ∀ e ∈ s.replicaSpecs.entries, 0 ≤ e.2.replicas)

include hpos

theorem nonneg_of_mem_rankOrder : ∀ t ∈ s.rankOrder, 0 ≤ t.2 := by
  intro t ht
  obtain ⟨e, he, rfl⟩ := mem_rankOrder_iff.1 ht
  exact hpos e he

theorem nonneg_of_mem_counts : ∀ c ∈ s.replicaSpecs.values.map (·.replicas), 0 ≤ c := by
  intro c hc
  obtain ⟨r, hr, rfl⟩ := List.mem_map.1 hc
  obtain ⟨e, he, rfl⟩ := List.mem_map.1 hr
  exact hpos e he

/-- Where overflow is checked, the replicas are counted just if 32 bits hold their number. -/
theorem checkedTotal_eq : s.checkedTotal =
    if s.replicaCount ≤ Int32.maxValue.toInt then .ok s.totalReplicas else .error .overflow := by
  rw [checkedTotal, Checked.sum_eq (nonneg_of_mem_counts hpos), map_counts, List.foldl_map]
  rfl

/-- The types in front, and the replicas of its own type up to this one, are not all. -/
theorem exactOffset_add_lt {r : String × Int32} (hr : r ∈ s.declaredReplicas) :
    s.exactOffset r.1 + r.2.toInt < s.replicaCount := by
  obtain ⟨spec, he, -, hlt⟩ := mem_declaredReplicas_iff.1 hr
  have hsplit : typesBefore r.1 s.rankOrder ++
      s.rankOrder.dropWhile (fun t => !sameLetters t.1 r.1) = s.rankOrder :=
    List.takeWhile_append_dropWhile
  -- its own type is not in front of itself
  have hown : (r.1, spec.replicas) ∈ s.rankOrder.dropWhile fun t => !sameLetters t.1 r.1 := by
    have hmem : (r.1, spec.replicas) ∈ s.rankOrder := mem_rankOrder_iff.2 ⟨_, he, rfl⟩
    rw [← hsplit] at hmem
    refine (List.mem_append.1 hmem).resolve_left fun hfront => ?_
    have hnot := List.mem_takeWhile_imp hfront
    simp at hnot
  have hle : spec.replicas.toInt ≤
      ((s.rankOrder.dropWhile fun t => !sameLetters t.1 r.1).map fun t => t.2.toInt).sum := by
    refine List.single_le_sum (fun x hx => ?_) _ (List.mem_map_of_mem hown)
    obtain ⟨t, ht, rfl⟩ := List.mem_map.1 hx
    have hmem := (List.dropWhile_suffix _).subset ht
    exact Int32.le_iff_toInt_le.1 (nonneg_of_mem_rankOrder hpos t hmem)
  rw [Int32.lt_iff_toInt_lt] at hlt
  rw [← sum_rankOrder, ← hsplit, List.map_append, List.sum_append, exactOffset]
  omega

variable (hfits : s.replicaCount ≤ Int32.maxValue.toInt)

include hfits

theorem isCount_sums {n : Int} (hn : n ∈ runningSums (s.replicaSpecs.values.map (·.replicas))) :
    IsCount n :=
  isCount_of_mem_runningSums (nonneg_of_mem_counts hpos) ((map_counts s).trans_le hfits) hn

theorem isCount_offsets {n : Int}
    (hn : n ∈ runningSums ((typesBefore type s.rankOrder).map (·.2))) : IsCount n := by
  obtain ⟨front, hfront, hsum⟩ := mem_runningSums_iff.1 hn
  have hprefix : front <+: s.rankOrder.map (·.2) :=
    hfront.trans ((List.takeWhile_prefix _).map _)
  refine isCount_of_mem_runningSums (fun c hc => ?_) ?_ (mem_runningSums_iff.2 ⟨_, hprefix, hsum⟩)
  · obtain ⟨t, ht, rfl⟩ := List.mem_map.1 hc
    exact nonneg_of_mem_rankOrder hpos t ht
  · rw [List.map_map]
    exact (sum_rankOrder s).trans_le hfits

theorem isCount_exactOffset : IsCount (s.exactOffset type) :=
  isCount_offsets hpos hfits (mem_runningSums_iff.2 ⟨_, List.prefix_rfl, by rw [List.map_map]; rfl⟩)

section Declared

variable {r : String × Int32} (hr : r ∈ s.declaredReplicas)

include hr

theorem isCount_exactRank : IsCount (s.exactOffset r.1 + r.2.toInt) := by
  obtain ⟨_, -, hi, -⟩ := mem_declaredReplicas_iff.1 hr
  have hlt := exactOffset_add_lt hpos hr
  have hoffset : IsCount (s.exactOffset r.1) := isCount_exactOffset hpos hfits
  rw [Int32.le_iff_toInt_le, Int32.toInt_zero] at hi
  exact ⟨Int.add_nonneg hoffset.1 hi, by omega⟩

theorem toInt_rank (hrank : s.rank? r.1 r.2 = some k) :
    k.toInt = s.exactOffset r.1 + r.2.toInt := by
  have hmax : Int32.maxValue.toInt = 2147483647 := rfl
  obtain ⟨hlow, hhigh⟩ := isCount_exactRank hpos hfits hr
  obtain ⟨hnonneg, hoffset⟩ : IsCount (s.exactOffset r.1) := isCount_exactOffset hpos hfits
  have hsum : ((typesBefore r.1 s.rankOrder).foldl (fun sum (t : String × Int32) => sum + t.2)
      0).toInt = s.exactOffset r.1 :=
    toInt_foldl_add_of_fits (fun t : String × Int32 => t.2) _ (Int.le_trans (by decide) hnonneg)
      hoffset
  rw [eq_of_rankIn_eq_some hrank, Int32.toInt_add, hsum]
  exact Int.bmod_eq_of_le (by omega) (by omega)

theorem checkedRank_eq : s.checkedRank r.1 r.2 = .ok (s.rank? r.1 r.2) := by
  obtain ⟨_, -, hi, -⟩ := mem_declaredReplicas_iff.1 hr
  refine checkedRankIn_eq (nonneg_of_mem_rankOrder hpos) (Int32.le_refl 0) hi ?_
  rw [Int32.toInt_zero, Int.zero_add]
  exact (isCount_exactRank hpos hfits hr).2

end Declared

theorem countsExactly_of_fits : s.CountsExactly := by
  have hcount : IsCount s.replicaCount := by
    have hlength := length_declaredReplicas hpos
    exact ⟨by omega, hfits⟩
  have htotal := toInt_totalReplicas hcount.1 hfits
  have hchecked : s.checkedTotal = .ok s.totalReplicas := by
    rw [checkedTotal_eq hpos, if_pos hfits]
  exact {
    sums := fun n hn => isCount_sums hpos hfits hn
    total := ⟨hcount, htotal, hchecked⟩
    offsets := fun r hr n hn => isCount_offsets hpos hfits hn
    ranks := fun r hr => ⟨isCount_exactRank hpos hfits hr, checkedRank_eq hpos hfits hr,
      fun k hk => toInt_rank hpos hfits hr hk⟩
    worldSize := fun job r hr => by
      have htold := (Replica.mem_environment job s r.1 r.2).1
      rwa [showInt32, htotal] at htold
    rank := fun job r hr => by
      obtain ⟨_, -, hi, -⟩ := mem_declaredReplicas_iff.1 hr
      refine ⟨_, ?_, (Replica.mem_environment job s r.1 r.2).2⟩
      cases hrank : s.rank? r.1 r.2 with
      | none => exact ⟨Int32.le_iff_toInt_le.1 hi, r.2.toInt_le⟩
      | some k =>
        rw [Option.getD_some, toInt_rank hpos hfits hr hrank]
        exact isCount_exactRank hpos hfits hr
    pods := fun j scheduler hj r hr => by
      subst hj
      unfold Replica.checkedPod
      rw [checkedRank_eq hpos hfits hr, hchecked]
      cases Replica.pod j r.1 r.2 scheduler <;> rfl
    minMember := fun j scheduler hj => by
      subst hj
      refine ⟨?_, fun g hg hunset => by rw [PodGroup.minMember_eq hg hunset, htotal]⟩
      unfold PodGroup.checkedOfJob
      rw [hchecked]
      cases PodGroup.ofJob? j scheduler with
      | none => rfl
      | some g => cases j.spec.runPolicy.schedulingPolicy.bind (·.minAvailable) <;> rfl }

end Counted

/-! ## What the check makes of it -/

theorem checkTypes_eq_ok_iff_sound : s.checkTypes = .ok () ↔
    s.replicaSpecs.entries ≠ [] ∧ s.SingleMaster ∧ ∀ e ∈ s.replicaSpecs.entries, e.2.Sound e.1 := by
  have hempty : s.replicaSpecs.isEmpty = true ↔ s.replicaSpecs.entries = [] := List.isEmpty_iff
  rw [checkTypes_eq_ok_iff, hempty, severalMasters_iff, not_not]
  simp only [checkReplica_eq_ok_iff]

/-- Where overflow is checked, the check says what it says elsewhere, or it stops. -/
theorem check_of_validate {verdict : Except JobError Unit} (h : s.validate = .ok verdict) :
    s.check = verdict := by
  unfold validate at h
  unfold check
  cases htypes : s.checkTypes with
  | error e =>
    rw [htypes] at h
    exact Except.ok.inj h
  | ok u =>
    rw [htypes] at h
    cases htotal : s.checkedTotal with
    | error e =>
      rw [htotal] at h
      cases h
    | ok n =>
      have hn : n = s.totalReplicas := by
        rw [Checked.foldl_of_foldlM htotal, List.foldl_map]
        rfl
      rw [htotal, hn] at h
      exact Except.ok.inj h

theorem validate_of_types (htypes : s.checkTypes = .ok ()) : s.validate =
    if s.replicaCount ≤ Int32.maxValue.toInt then .ok s.check else .error .overflow := by
  have hpos := fun e he => ((checkTypes_eq_ok_iff_sound.1 htypes).2.2 e he).nonneg
  unfold validate check
  rw [htypes]
  dsimp only
  rw [checkedTotal_eq hpos]
  split <;> rfl

theorem validate_eq_error_iff : s.validate = .error .overflow ↔
    s.checkTypes = .ok () ∧ Int32.maxValue.toInt < s.replicaCount := by
  cases htypes : s.checkTypes with
  | error e =>
    unfold validate
    rw [htypes]
    exact iff_of_false (fun h => nomatch h) fun h => nomatch h.1
  | ok u =>
    rw [validate_of_types htypes, and_iff_right rfl, ← Int.not_le]
    split
    next hfits => exact iff_of_false (fun h => nomatch h) (not_not_intro hfits)
    next hfits => exact iff_of_true rfl hfits

/-- **How many replicas are counted exactly.** Where overflow is checked, the check stops just at a
spec whose types are in order but have more replicas than 32 bits hold, passes just the sound specs
with no more of them, and all that passes is counted exactly. Elsewhere it lets pass what breaks no
rule, unless the number of all replicas is a multiple of 2^32, which is taken for none; and of what
it lets pass just the specs with at most as many replicas as 32 bits hold are counted exactly. -/
theorem validate_exact (s : JobSpec) :
    (s.validate = .error .overflow ↔
      (s.replicaSpecs.entries ≠ [] ∧ s.SingleMaster ∧
        ∀ e ∈ s.replicaSpecs.entries, e.2.Sound e.1) ∧
      Int32.maxValue.toInt < s.replicaCount) ∧
    (s.validate = .ok (.ok ()) ↔ s.Sound ∧ s.replicaCount ≤ Int32.maxValue.toInt) ∧
    (s.validate = .ok (.ok ()) → s.CountsExactly) ∧
    (∀ verdict, s.validate = .ok verdict → s.check = verdict) ∧
    (s.check = .ok () ↔ s.Sound ∧ ¬ 2 ^ 32 ∣ s.replicaCount) ∧
    (s.check = .ok () → (s.CountsExactly ↔ s.replicaCount ≤ Int32.maxValue.toInt)) := by
  have hcounts : s.check = .ok () → s.replicaCount ≤ Int32.maxValue.toInt → s.CountsExactly :=
    fun hcheck => countsExactly_of_fits fun e he =>
      ((check_eq_ok_iff_sound.1 hcheck).1.eachType e he).nonneg
  have hpasses : s.validate = .ok (.ok ()) ↔
      s.Sound ∧ s.replicaCount ≤ Int32.maxValue.toInt := by
    constructor
    · intro hvalid
      have hcheck := check_of_validate hvalid
      have htypes : s.checkTypes = .ok () := (bind_eq_ok_iff.1 hcheck).1
      refine ⟨(check_eq_ok_iff_sound.1 hcheck).1, Int.not_lt.1 fun hlarge => ?_⟩
      rw [validate_eq_error_iff.2 ⟨htypes, hlarge⟩] at hvalid
      cases hvalid
    · rintro ⟨hsound, hfits⟩
      have htypes : s.checkTypes = .ok () :=
        checkTypes_eq_ok_iff_sound.2 ⟨hsound.someType, hsound.oneMaster, hsound.eachType⟩
      rw [validate_of_types htypes, if_pos hfits, (check_exact s hfits).1.2 hsound]
  rw [validate_eq_error_iff, checkTypes_eq_ok_iff_sound]
  refine ⟨Iff.rfl, hpasses, fun hvalid => ?_, fun verdict => check_of_validate,
    check_eq_ok_iff_sound, fun hcheck => ⟨fun h => h.total.1.2, hcounts hcheck⟩⟩
  exact hcounts (check_of_validate hvalid) (hpasses.1 hvalid).2

/-- Two types as large as 32 bits hold, and a third. -/
def crowdedSpec (helpers : Int32) : JobSpec where
  replicaSpecs := Dict.ofList
    [("Aux",
      { replicas := helpers, template := { spec := some { containers := [{ name := "aux" }] } } }),
     ("PS",
      { replicas := Int32.maxValue
        template := { spec := some { containers := [{ name := "ps" }] } } }),
     ("Worker",
      { replicas := Int32.maxValue
        template := { spec := some { containers := [{ name := "worker" }] } } })]

/-- As many replicas as 32 bits hold pass and are counted. With more of them the check stops; where
overflow is not checked it lets them pass, or finds none if they are 2^32. -/
theorem validate_exact_limits : limitSpec.validate = .ok (.ok ()) ∧ limitSpec.CountsExactly ∧
    (crowdedSpec 1).validate = .error .overflow ∧ (crowdedSpec 1).check = .ok () ∧
    ¬ (crowdedSpec 1).CountsExactly ∧ (crowdedSpec 2).check = .error .noReplicaSpecs := by
  have hlimit : limitSpec.validate = .ok (.ok ()) := by decide
  have hcrowded : (crowdedSpec 1).check = .ok () := by decide
  obtain ⟨hstops, -, -, -, hpasses, hexact⟩ := validate_exact (crowdedSpec 1)
  obtain ⟨hsound, -⟩ := hpasses.1 hcrowded
  exact ⟨hlimit, (validate_exact limitSpec).2.2.1 hlimit,
    hstops.2 ⟨⟨hsound.someType, hsound.oneMaster, hsound.eachType⟩, by decide⟩, hcrowded,
    fun h => absurd ((hexact hcrowded).1 h) (by decide), by decide⟩

/-- Without helpers the spec breaks no rule, and the check stops at its own sum. Where overflow is
not checked it lets the spec pass, and then the number of its replicas, a rank and the size of the
pod group are below zero. -/
theorem validate_stops_crowded :
    let s := crowdedSpec 0
    let j : Job := { metadata := { name := some "mnist", namespace_ := some "ml" }, spec := s }
    s.Sound ∧ s.replicaCount = 4294967294 ∧ s.validate = .error .overflow ∧
      s.check = .ok () ∧ s.totalReplicas = -2 ∧
      ("Worker", 1) ∈ s.declaredReplicas ∧ s.rank? "Worker" 1 = some (-2147483648) ∧
      (PodGroup.ofJob? j .volcano).map (·.minMember) = some (-2) ∧ ¬ s.CountsExactly := by
  intro s j
  have hcount : s.replicaCount = 4294967294 := by decide
  have hcheck : s.check = .ok () := by decide
  refine ⟨(check_eq_ok_iff_sound.1 hcheck).1, hcount, by decide, hcheck, by decide, ?_, by decide,
    by decide, fun h => ?_⟩
  · exact mem_declaredReplicas_iff.2 ⟨_, List.mem_of_getElem? (i := 2) rfl, by decide, by decide⟩
  · have hfits := h.total.1.2
    rw [hcount] at hfits
    exact absurd hfits (by decide)

end JobSpec

end TrainingJobs
