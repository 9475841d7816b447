import Mathlib.Algebra.Group.Nat.Defs
import TrainingJobs.Plan
import TrainingJobs.Proofs.Checks
import TrainingJobs.Proofs.Replica.Built

/-!
# Which replicas can be told apart

The ranks of a job count its replicas in the order of `rankOrder`. As long as every type of replica
is found under its own name (`Unambiguous`), the rank of a replica is its place in that order
(`rank?_eq_of_unambiguous`). A check looks at the types one by one, so it lets pass two types that
differ in the case of their letters alone, and then one is taken for the other. `distinguishes_iff`
says of the specs that pass their check which of them keep all their replicas apart.
-/

namespace TrainingJobs

open Text

namespace JobSpec

variable {s : JobSpec} {types : List (String × Int32)} {type : String} {i n offset : Int32}
  {e : String × ReplicaSpec}

/-! ## Places -/

/-- The replicas of these types, in their order. -/
def places (types : List (String × Int32)) : List (String × Int32) :=
  types.flatMap fun t => (indexes t.2).map fun i => (t.1, i)

def ranked (s : JobSpec) : List (String × Int32) := places s.rankOrder

theorem places_cons (t : String × Int32) (rest : List (String × Int32)) :
    places (t :: rest) = ((indexes t.2).map fun i => (t.1, i)) ++ places rest := rfl

theorem perm_rankOrder (s : JobSpec) :
    s.rankOrder.Perm (s.replicaSpecs.entries.map fun e => (e.1, e.2.replicas)) :=
  List.filter_append_perm _ _

theorem perm_ranked (s : JobSpec) : s.ranked.Perm s.declaredReplicas := by
  have hplaces : places (s.replicaSpecs.entries.map fun e => (e.1, e.2.replicas)) =
      s.declaredReplicas := List.flatMap_map ..
  rw [← hplaces]
  exact s.perm_rankOrder.flatMap_right _

theorem nodup_ranked (s : JobSpec) : s.ranked.Nodup :=
  s.perm_ranked.nodup_iff.2 s.nodup_declaredReplicas

theorem ofNat_toNat (h : 0 ≤ n) : Int32.ofNat n.toInt.toNat = n := by
  rw [Int32.le_iff_toInt_le, Int32.toInt_zero] at h
  have hlt : n.toInt < 2147483648 := n.toInt_lt
  rw [← Int32.toInt_inj, Int32.toInt_ofNat_of_lt (by omega)]
  omega

theorem idxOf_indexes (hi : 0 ≤ i) (hlt : i < n) :
    Int32.ofNat (((indexes n).map fun k => (type, k)).idxOf (type, i)) = i := by
  have hmem : i ∈ indexes n := mem_indexes_iff.2 ⟨hi, hlt⟩
  have hbound : ((indexes n).map fun k => (type, k)).idxOf (type, i) <
      ((indexes n).map fun k => (type, k)).length :=
    List.idxOf_lt_length_iff.2 (List.mem_map_of_mem hmem)
  have hat := List.getElem_idxOf hbound
  simp only [indexes, List.getElem_map, List.getElem_range, Prod.mk.injEq, true_and] at hat
  exact hat

/-! ## Ranks -/

theorem exists_rankIn_iff : (∃ k, rankIn type i offset types = some k) ↔
    ∃ t, types.find? (fun t => sameLetters t.1 type) = some t ∧ i < t.2 := by
  induction types generalizing offset with
  | nil => simp [rankIn]
  | cons t rest ih =>
    rw [rankIn, List.find?_cons]
    cases sameLetters t.1 type with
    | false => exact ih
    | true => by_cases hlt : i < t.2 <;> simp [hlt]

/-- The rank is the place among the replicas of all types. -/
theorem rankIn_eq (hpos : ∀ t ∈ types, 0 ≤ t.2)
    (hfound : types.find? (fun t => sameLetters t.1 type) = some (type, n)) (hi : 0 ≤ i)
    (hlt : i < n) : rankIn type i offset types =
      some (offset + Int32.ofNat ((places types).idxOf (type, i))) := by
  induction types generalizing offset with
  | nil => cases hfound
  | cons t rest ih =>
    rw [rankIn, places_cons]
    rw [List.find?_cons] at hfound
    cases hsame : sameLetters t.1 type with
    | true =>
      rw [hsame] at hfound
      obtain rfl : t = (type, n) := Option.some.inj hfound
      have hmem : (type, i) ∈ (indexes n).map fun k => (type, k) :=
        List.mem_map_of_mem (mem_indexes_iff.2 ⟨hi, hlt⟩)
      rw [if_pos rfl, if_pos hlt, List.idxOf_append_of_mem hmem, idxOf_indexes hi hlt]
    | false =>
      rw [hsame] at hfound
      -- the places of another type come before, as many as it has replicas
      have hother : (type, i) ∉ (indexes t.2).map fun k => (t.1, k) := by
        intro hmem
        obtain ⟨k, -, hk⟩ := List.mem_map.1 hmem
        rw [(Prod.mk.inj hk).1, sameLetters_self] at hsame
        cases hsame
      have hrest : ∀ t ∈ rest, 0 ≤ t.2 := fun t ht => hpos t (List.mem_cons_of_mem _ ht)
      have hlength : Int32.ofNat ((indexes t.2).map fun k => (t.1, k)).length = t.2 := by
        rw [List.length_map, indexes, List.length_map, List.length_range]
        exact ofNat_toNat (hpos t List.mem_cons_self)
      rw [if_neg Bool.false_ne_true, ih hrest hfound, List.idxOf_append_of_notMem hother,
        Int32.ofNat_add, hlength, Int32.add_assoc]

theorem find?_filter_of_imp {α : Type} {l : List α} {p q : α → Bool}
    (h : ∀ a, q a = true → p a = true) : (l.filter p).find? q = l.find? q := by
  have hboth : (fun a => decide (p a = true ∧ q a = true)) = q := by
    funext a
    cases hq : q a with
    | true => simp [h a hq]
    | false => simp
  rw [List.find?_filter, hboth]

theorem find?_rankOrder (s : JobSpec) (type : String) :
    s.rankOrder.find? (fun t => sameLetters t.1 type) =
      (s.replica? type).map fun e => (e.1, e.2.replicas) := by
  have hrole : ∀ t : String × Int32, sameLetters t.1 type = true →
      isMasterRole t.1 = isMasterRole type := by
    intro t ht
    rw [isMasterRole, sameLetters_iff.1 ht]
    rfl
  have hfound : (s.replicaSpecs.entries.map fun e => (e.1, e.2.replicas)).find?
      (fun t => sameLetters t.1 type) = (s.replica? type).map fun e => (e.1, e.2.replicas) :=
    List.find?_map
  rw [rankOrder, List.find?_append, ← hfound]
  cases hmaster : isMasterRole type with
  | true =>
    rw [find?_filter_of_imp fun t ht => (hrole t ht).trans hmaster]
    refine Option.or_eq_left_of_none (List.find?_eq_none.2 fun t ht hsame => ?_)
    have hother := (List.mem_filter.1 ht).2
    rw [hrole t hsame, hmaster] at hother
    exact Bool.false_ne_true hother
  | false =>
    have hnone : ((s.replicaSpecs.entries.map fun e => (e.1, e.2.replicas)).filter
        fun t => isMasterRole t.1).find? (fun t => sameLetters t.1 type) = none := by
      refine List.find?_eq_none.2 fun t ht hsame => ?_
      have hother := (List.mem_filter.1 ht).2
      rw [hrole t hsame, hmaster] at hother
      exact Bool.false_ne_true hother
    rw [hnone, Option.none_or]
    exact find?_filter_of_imp fun t ht => by rw [hrole t ht, hmaster]; rfl

/-- A replica has a rank just if the type that is found has so many replicas. -/
theorem exists_rank?_iff : (∃ k, s.rank? type i = some k) ↔
    ∃ e, s.replica? type = some e ∧ i < e.2.replicas := by
  rw [rank?, exists_rankIn_iff, find?_rankOrder]
  simp only [Option.map_eq_some_iff]
  constructor
  · rintro ⟨t, ⟨e, he, rfl⟩, hlt⟩
    exact ⟨e, he, hlt⟩
  · rintro ⟨e, he, hlt⟩
    exact ⟨_, ⟨e, he, rfl⟩, hlt⟩

/-! ## Specs that keep their replicas apart -/

/-- A type that has replicas is found under its own name. -/
def Unambiguous (s : JobSpec) : Prop :=
  ∀ e ∈ s.replicaSpecs.entries, 0 < e.2.replicas → s.replica? e.1 = some e

instance (s : JobSpec) : Decidable s.Unambiguous :=
  inferInstanceAs (Decidable (∀ e ∈ s.replicaSpecs.entries, _))

/-- Types that are distinct in any letters are found under their own names. -/
theorem TypesDistinct.unambiguous (hd : s.TypesDistinct) : s.Unambiguous :=
  fun _ he _ => hd.replica?_eq_some_iff.2 ⟨he, rfl⟩

theorem mem_rankOrder_iff {t : String × Int32} :
    t ∈ s.rankOrder ↔ ∃ e ∈ s.replicaSpecs.entries, (e.1, e.2.replicas) = t := by
  rw [s.perm_rankOrder.mem_iff, List.mem_map]

theorem rank?_eq_of_nonneg (hpos : ∀ e ∈ s.replicaSpecs.entries, 0 ≤ e.2.replicas)
    (h : s.Unambiguous) {r : String × Int32} (hr : r ∈ s.declaredReplicas) :
    s.rank? r.1 r.2 = some (Int32.ofNat (s.ranked.idxOf r)) := by
  obtain ⟨type, i⟩ := r
  obtain ⟨spec, hmem, hi, hlt⟩ := mem_declaredReplicas_iff.1 hr
  have hfound : s.rankOrder.find? (fun t => sameLetters t.1 type) = some (type, spec.replicas) := by
    rw [find?_rankOrder, h (type, spec) hmem (Int32.lt_of_le_of_lt hi hlt)]
    rfl
  have horder : ∀ t ∈ s.rankOrder, 0 ≤ t.2 := by
    intro t ht
    obtain ⟨e, he, rfl⟩ := mem_rankOrder_iff.1 ht
    exact hpos e he
  rw [rank?, rankIn_eq horder hfound hi hlt, Int32.zero_add]
  rfl

theorem rank?_eq_of_unambiguous (hcheck : s.check = .ok ()) (h : s.Unambiguous)
    {r : String × Int32} (hr : r ∈ s.declaredReplicas) :
    s.rank? r.1 r.2 = some (Int32.ofNat (s.ranked.idxOf r)) :=
  rank?_eq_of_nonneg (fun _ he => (counts_of_check hcheck he).1) h hr

end JobSpec

def Replica.ownPod (j : Job) (ns type : String) (r : ReplicaSpec) (i : Int32)
    (scheduler : GangScheduler) : Pod where
  metadata := scheduler.markPod
    (podMetadata (r.template.metadata.getD {}) (ownMetadata j ns type i)) j.name
  spec := some (podSpec (r.template.spec.getD {}) r.restartPolicy scheduler
    (environment j.name j.spec type i))

theorem Replica.pod_eq_ownPod {j : Job} {ns type : String} {e : String × ReplicaSpec}
    (hns : j.namespace? = some ns) (he : j.spec.replica? type = some e) (i : Int32)
    (scheduler : GangScheduler) :
    pod j type i scheduler = .ok (ownPod j ns e.1 e.2 i scheduler) := by
  unfold pod declared
  rw [he]
  simp only [bind, Except.bind, metadata_eq_ok hns]
  rfl

/-- The spec keeps its declared replicas apart, whatever job it is given to. -/
structure JobSpec.Distinguishes (s : JobSpec) : Prop where
  /-- No two of them have the same name. -/
  names : ∀ job, ∀ r ∈ s.declaredReplicas, ∀ r' ∈ s.declaredReplicas,
    replicaName job r.1 r.2 = replicaName job r'.1 r'.2 → r = r'
  /-- Each of them has a rank, and no two have the same. -/
  ranks : ∀ r ∈ s.declaredReplicas, ∃ k, s.rank? r.1 r.2 = some k ∧
    ∀ r' ∈ s.declaredReplicas, s.rank? r'.1 r'.2 = some k → r = r'
  /-- The pod of each is built from the template and the restart policy of its own type. -/
  pods : ∀ (j : Job) (ns : String) (scheduler : GangScheduler), j.spec = s →
    j.namespace? = some ns → ∀ e ∈ s.replicaSpecs.entries, ∀ i, 0 ≤ i → i < e.2.replicas →
      Replica.pod j e.1 i scheduler = .ok (Replica.ownPod j ns e.1 e.2 i scheduler)
  /-- When there are no children yet, each name is asked for once. -/
  plan : ∀ job,
    let plan := ChildPlan.make job s [] Dict.empty []
    plan.createPods = s.declaredReplicas ∧ plan.createServices = s.declaredReplicas ∧
      (plan.createPods.map fun r => replicaName job r.1 r.2).Nodup ∧
      (plan.createServices.map fun r => replicaName job r.1 r.2).Nodup

namespace JobSpec

variable {s : JobSpec} {r r' : String × Int32}

/-! ## What follows from an unambiguous spec -/

theorem Unambiguous.eq_of_name (h : s.Unambiguous) {job : String} (hr : r ∈ s.declaredReplicas)
    (hr' : r' ∈ s.declaredReplicas)
    (hname : replicaName job r.1 r.2 = replicaName job r'.1 r'.2) : r = r' := by
  obtain ⟨type, i⟩ := r
  obtain ⟨type', i'⟩ := r'
  obtain ⟨spec, he, hi, hlt⟩ := mem_declaredReplicas_iff.1 hr
  obtain ⟨spec', he', hi', hlt'⟩ := mem_declaredReplicas_iff.1 hr'
  obtain ⟨hlower, rfl⟩ := replicaName_inj hi hi' hname
  have hfound := h _ he (Int32.lt_of_le_of_lt hi hlt)
  rw [replica?_congr hlower, h _ he' (Int32.lt_of_le_of_lt hi' hlt')] at hfound
  rw [(Prod.mk.inj (Option.some.inj hfound)).1]

theorem make_nothing (job : String) (s : JobSpec) :
    let plan := ChildPlan.make job s [] Dict.empty []
    plan.createPods = s.declaredReplicas ∧ plan.createServices = s.declaredReplicas :=
  ⟨List.filter_eq_self.2 fun _ _ => rfl, List.filter_eq_self.2 fun _ _ => rfl⟩

/-- Ranks are counted in 32 bits. -/
theorem ofNat_inj_of_lt {a b : Nat} (ha : a < 2 ^ 32) (hb : b < 2 ^ 32)
    (h : Int32.ofNat a = Int32.ofNat b) : a = b := by
  have hbits : (Int32.ofNat a).toBitVec.toNat = (Int32.ofNat b).toBitVec.toNat := by rw [h]
  have hmod : ∀ n, (Int32.ofNat n).toBitVec.toNat = n % 2 ^ 32 := fun _ => rfl
  rw [hmod, hmod, Nat.mod_eq_of_lt ha, Nat.mod_eq_of_lt hb] at hbits
  exact hbits

theorem distinguishes_of_unambiguous (hcheck : s.check = .ok ()) (h : s.Unambiguous)
    (hfew : s.declaredReplicas.length ≤ 2 ^ 32) : s.Distinguishes where
  names job r hr r' hr' hname := h.eq_of_name hr hr' hname
  ranks r hr := by
    refine ⟨_, rank?_eq_of_unambiguous hcheck h hr, fun r' hr' hrank => ?_⟩
    rw [rank?_eq_of_unambiguous hcheck h hr', Option.some.injEq] at hrank
    have hplace : ∀ {r}, r ∈ s.declaredReplicas → s.ranked.idxOf r < 2 ^ 32 := by
      intro r hr
      have hlt := List.idxOf_lt_length_iff.2 (s.perm_ranked.mem_iff.2 hr)
      rw [s.perm_ranked.length_eq] at hlt
      exact Nat.lt_of_lt_of_le hlt hfew
    have hidx := ofNat_inj_of_lt (hplace hr') (hplace hr) hrank
    exact ((List.idxOf_inj (s.perm_ranked.mem_iff.2 hr')).1 hidx).symm
  pods j ns scheduler hspec hns e he i hi hlt := by
    subst hspec
    exact Replica.pod_eq_ownPod hns (h e he (Int32.lt_of_le_of_lt hi hlt)) i scheduler
  plan job := by
    obtain ⟨hpods, hservices⟩ := make_nothing job s
    have hnames : (s.declaredReplicas.map fun r => replicaName job r.1 r.2).Nodup :=
      s.nodup_declaredReplicas.map_on fun r hr r' hr' hname => h.eq_of_name hr hr' hname
    refine ⟨hpods, hservices, ?_, ?_⟩
    · rw [hpods]
      exact hnames
    · rw [hservices]
      exact hnames

/-! ## What an ambiguous spec confuses -/

theorem Distinguishes.unambiguous (h : s.Distinguishes) : s.Unambiguous := by
  intro e he hpos
  have hdeclared : ∀ {e}, e ∈ s.replicaSpecs.entries → 0 < e.2.replicas →
      (e.1, 0) ∈ s.declaredReplicas :=
    fun {e} he hpos => mem_declaredReplicas_iff.2 ⟨e.2, he, Int32.le_refl 0, hpos⟩
  -- the replica has a rank, so the type that is found has replicas too
  obtain ⟨k, hrank, -⟩ := h.ranks _ (hdeclared he hpos)
  obtain ⟨e', hfound, hpos'⟩ := exists_rank?_iff.1 ⟨k, hrank⟩
  have he' : e' ∈ s.replicaSpecs.entries := mem_entries_of_replica? hfound
  -- both first replicas have the same name, so they are one
  have hname : replicaName "" e'.1 0 = replicaName "" e.1 0 :=
    replicaName_congr (lower_of_replica? hfound) 0
  have hkey := h.names "" _ (hdeclared he' hpos') _ (hdeclared he hpos) hname
  have hsame : e' = e := by
    have hget := Dict.mem_entries_iff.1 he'
    rw [(Prod.mk.inj hkey).1, Dict.mem_entries_iff.1 he, Option.some.injEq] at hget
    exact Prod.ext (Prod.mk.inj hkey).1 hget.symm
  rw [hfound, hsame]

/-- With more replicas than 32 bits count, the first rank is given twice. -/
theorem Distinguishes.length_le (hcheck : s.check = .ok ()) (h : s.Distinguishes) :
    s.declaredReplicas.length ≤ 2 ^ 32 := by
  have hunambiguous := h.unambiguous
  by_contra hmany
  rw [Nat.not_le, ← s.perm_ranked.length_eq] at hmany
  have hfirst : 0 < s.ranked.length := Nat.lt_trans (by decide) hmany
  have hrank : ∀ {n} (hn : n < s.ranked.length),
      s.ranked[n] ∈ s.declaredReplicas ∧
        s.rank? s.ranked[n].1 s.ranked[n].2 = some (Int32.ofNat n) := by
    intro n hn
    have hmem := s.perm_ranked.mem_iff.1 (List.getElem_mem hn)
    refine ⟨hmem, ?_⟩
    rw [rank?_eq_of_unambiguous hcheck hunambiguous hmem, s.nodup_ranked.idxOf_getElem n hn]
  obtain ⟨hmem, hzero⟩ := hrank hfirst
  obtain ⟨hmem', hagain⟩ := hrank hmany
  have hwraps : Int32.ofNat (2 ^ 32) = Int32.ofNat 0 := by decide
  obtain ⟨k, hk, hunique⟩ := h.ranks _ hmem
  rw [hzero, Option.some.injEq] at hk
  subst hk
  rw [hwraps] at hagain
  have hsame := (s.nodup_ranked.getElem_inj_iff).1 (hunique _ hmem' hagain)
  exact absurd hsame (by decide)

/-- **Which specs keep their replicas apart.** Of the specs that pass their check, those and only
those tell all their declared replicas apart, by name, rank, pod and plan, in which every type that
has replicas is found under its own name and whose replicas can be counted in 32 bits. -/
theorem distinguishes_iff (hcheck : s.check = .ok ()) :
    s.Distinguishes ↔ s.Unambiguous ∧ s.declaredReplicas.length ≤ 2 ^ 32 :=
  ⟨fun h => ⟨h.unambiguous, h.length_le hcheck⟩,
    fun h => distinguishes_of_unambiguous hcheck h.1 h.2⟩

/-- Two types that differ in the case of a letter, with so many replicas. -/
def twins (workers evaluators : Int32) : JobSpec where
  replicaSpecs := Dict.ofList
    [("Worker",
      { replicas := workers
        template := { spec := some { containers := [{ name := "worker" }] } } }),
     ("worker",
      { replicas := evaluators
        template := { spec := some { containers := [{ name := "evaluator" }] } }
        restartPolicy := .onFailure })]

/-- Nothing is confused while the second of them has no replicas. -/
theorem distinguishes_twins : (twins 2 0).check = .ok () ∧ ¬ (twins 2 0).TypesDistinct ∧
    (twins 2 0).Distinguishes := by
  have hcheck : (twins 2 0).check = .ok () := by decide
  have hunambiguous : (twins 2 0).Unambiguous := by decide
  exact ⟨hcheck, by decide, (distinguishes_iff hcheck).2 ⟨hunambiguous, by decide⟩⟩

/-- With one replica each they pass the check, but their children have one name and one rank, and
the pod of the second is built from the first. -/
theorem not_distinguishes_twins :
    let s := twins 1 1
    let j : Job :=
      { metadata := { name := some "mnist", namespace_ := some "ml" }, spec := s }
    s.check = .ok () ∧ ("Worker", 0) ∈ s.declaredReplicas ∧ ("worker", 0) ∈ s.declaredReplicas ∧
      replicaName "mnist" "Worker" 0 = replicaName "mnist" "worker" 0 ∧
      s.rank? "Worker" 0 = s.rank? "worker" 0 ∧
      Replica.pod j "worker" 0 .none = Replica.pod j "Worker" 0 .none ∧
      (∀ r ∈ s.replicaSpecs.get? "worker",
        Replica.pod j "worker" 0 .none ≠ .ok (Replica.ownPod j "ml" "worker" r 0 .none)) ∧
      ¬ s.Distinguishes := by
  intro s j
  have hdeclared : ("Worker", 0) ∈ s.declaredReplicas ∧ ("worker", 0) ∈ s.declaredReplicas := by
    decide
  have hname : replicaName "mnist" "Worker" 0 = replicaName "mnist" "worker" 0 := by decide
  refine ⟨by decide, hdeclared.1, hdeclared.2, hname, by decide, by decide, by decide, fun h => ?_⟩
  have hsame := h.names "mnist" _ hdeclared.1 _ hdeclared.2 hname
  exact absurd hsame (by decide)

end JobSpec

end TrainingJobs
