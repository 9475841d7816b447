import TrainingJobs.Proofs.Replica.Template
import TrainingJobs.Proofs.Lists

/-!
# Ranks number the replicas

`JobSpec.ranked` lists the declared replicas in the order of `Before`: master roles come first,
then types by name, and replicas of one type by index (`pairwise_ranked`). The rank of a replica is
its place in that list, so ranks count from zero without a gap and follow that order, and the
replica of rank 0 is the first of the list, at whose name all replicas meet
(`masterAddress?_eq_head?`). What a replica is told of this in its environment is the same
(`JobSpec.ranks_in_order`).
-/

namespace TrainingJobs

open Text

theorem idxOf_lt_iff {α : Type} [BEq α] [LawfulBEq α] {r : α → α → Prop} {l : List α} {a b : α}
    (hl : l.Pairwise r) (hasymm : ∀ a b, r a b → ¬ r b a) (ha : a ∈ l) (hb : b ∈ l) :
    l.idxOf a < l.idxOf b ↔ r a b := by
  have hearlier : ∀ {a b}, a ∈ l → b ∈ l → l.idxOf a < l.idxOf b → r a b := by
    intro a b ha hb hlt
    have hrel := List.pairwise_iff_getElem.1 hl _ _ (List.idxOf_lt_length_iff.2 ha)
      (List.idxOf_lt_length_iff.2 hb) hlt
    rwa [List.getElem_idxOf, List.getElem_idxOf] at hrel
  refine ⟨hearlier ha hb, fun hab => ?_⟩
  rcases Nat.lt_trichotomy (l.idxOf a) (l.idxOf b) with hlt | heq | hgt
  · exact hlt
  · obtain rfl := (List.idxOf_inj ha).1 heq
    exact absurd hab (hasymm _ _ hab)
  · exact absurd (hearlier hb ha hgt) (hasymm _ _ hab)

namespace JobSpec

variable {s : JobSpec} {types : List (String × Int32)} {type type' : String} {i n : Int32}
  {r r' : String × Int32}

/-! ## The order of ranks -/

/-- Master roles come first, then types by name, and replicas of one type by index. -/
def Before (r r' : String × Int32) : Prop :=
  (isMasterRole r.1 = true ∧ isMasterRole r'.1 = false) ∨
    (isMasterRole r.1 = isMasterRole r'.1 ∧ (r.1 < r'.1 ∨ (r.1 = r'.1 ∧ r.2 < r'.2)))

instance (r r' : String × Int32) : Decidable (Before r r') :=
  inferInstanceAs (Decidable (_ ∨ _))

theorem Before.asymm (h : Before r r') : ¬ Before r' r := by
  rintro (⟨hmaster, hother⟩ | ⟨hrole, hnames⟩)
  · rcases h with ⟨hmaster', hother'⟩ | ⟨hrole', -⟩ <;> simp_all
  rcases h with ⟨hmaster', hother'⟩ | ⟨-, hnames'⟩
  · simp_all
  rcases hnames with hlt | ⟨hsame, hlt⟩
  · rcases hnames' with hlt' | ⟨hsame', -⟩
    · exact String.lt_irrefl _ (String.lt_trans hlt hlt')
    · exact String.lt_irrefl _ (hsame' ▸ hlt)
  · rcases hnames' with hlt' | ⟨-, hlt'⟩
    · exact String.lt_irrefl _ (hsame ▸ hlt')
    · exact Int32.lt_irrefl (Int32.lt_trans hlt hlt')

theorem pairwise_indexes (n : Int32) : (indexes n).Pairwise (· < ·) := by
  have hn : n.toInt < 2147483648 := n.toInt_lt
  rw [indexes, List.pairwise_map]
  refine List.pairwise_lt_range.imp_of_mem fun {a b} ha hb hlt => ?_
  rw [List.mem_range] at ha hb
  rw [Int32.lt_iff_toInt_lt, Int32.toInt_ofNat_of_lt (by omega), Int32.toInt_ofNat_of_lt (by omega)]
  omega

/-- Of two types in the order of ranks, all replicas of the first come before those of the
second. -/
theorem pairwise_rankOrder (s : JobSpec) :
    s.rankOrder.Pairwise fun t t' => ∀ i i', Before (t.1, i) (t'.1, i') := by
  have hnames : (s.replicaSpecs.entries.map fun e => (e.1, e.2.replicas)).Pairwise
      fun t t' => t.1 < t'.1 := List.pairwise_map.2 s.replicaSpecs.increasing
  rw [rankOrder, List.pairwise_append]
  refine ⟨?_, ?_, fun t ht t' ht' i i' => ?_⟩
  · refine (hnames.filter _).imp_of_mem fun {t t'} ht ht' hlt i i' => ?_
    have hmaster := (List.mem_filter.1 ht).2
    have hmaster' := (List.mem_filter.1 ht').2
    exact .inr ⟨hmaster.trans hmaster'.symm, .inl hlt⟩
  · refine (hnames.filter _).imp_of_mem fun {t t'} ht ht' hlt i i' => ?_
    have hother := (List.mem_filter.1 ht).2
    have hother' := (List.mem_filter.1 ht').2
    rw [Bool.not_eq_true'] at hother hother'
    exact .inr ⟨hother.trans hother'.symm, .inl hlt⟩
  · exact .inl ⟨(List.mem_filter.1 ht).2, (Bool.not_eq_true' _).mp (List.mem_filter.1 ht').2⟩

theorem pairwise_ranked (s : JobSpec) : s.ranked.Pairwise Before := by
  rw [ranked, places, List.pairwise_flatMap]
  constructor
  · intro t _
    rw [List.pairwise_map]
    exact (pairwise_indexes t.2).imp fun hlt => .inr ⟨rfl, .inr ⟨rfl, hlt⟩⟩
  · refine s.pairwise_rankOrder.imp fun hbefore x hx y hy => ?_
    obtain ⟨i, -, rfl⟩ := List.mem_map.1 hx
    obtain ⟨i', -, rfl⟩ := List.mem_map.1 hy
    exact hbefore i i'

/-! ## How many replicas there are -/

/-- The number of replicas of all types together, however large. -/
def replicaCount (s : JobSpec) : Int := (s.replicaSpecs.values.map fun r => r.replicas.toInt).sum

theorem length_indexes (n : Int32) : (indexes n).length = n.toInt.toNat := by
  rw [indexes, List.length_map, List.length_range]

theorem length_declaredReplicas (hpos : ∀ e ∈ s.replicaSpecs.entries, 0 ≤ e.2.replicas) :
    (s.declaredReplicas.length : Int) = s.replicaCount := by
  unfold declaredReplicas replicaCount Dict.values
  rw [List.map_map]
  generalize s.replicaSpecs.entries = entries at hpos
  induction entries with
  | nil => rfl
  | cons e rest ih =>
    have hhead := hpos e List.mem_cons_self
    rw [Int32.le_iff_toInt_le, Int32.toInt_zero] at hhead
    rw [List.flatMap_cons, List.length_append, List.length_map, length_indexes, Int.natCast_add,
      ih fun e he => hpos e (List.mem_cons_of_mem _ he), List.map_cons, List.sum_cons]
    simp only [Function.comp_apply]
    omega

theorem toInt_totalReplicas_eq_bmod (s : JobSpec) :
    s.totalReplicas.toInt = s.replicaCount.bmod (2 ^ 32) := by
  rw [totalReplicas, toInt_foldl_add, Int32.toInt_zero, Int.zero_add, replicaCount]

theorem toInt_totalReplicas (hlow : 0 ≤ s.replicaCount)
    (hfits : s.replicaCount ≤ Int32.maxValue.toInt) : s.totalReplicas.toInt = s.replicaCount := by
  have hmin : Int32.minValue.toInt = -2147483648 := rfl
  have hlow' : Int32.minValue.toInt ≤ s.replicaCount := by omega
  exact toInt_foldl_add_of_fits (fun r : ReplicaSpec => r.replicas) _ hlow' hfits

/-! ## The first replica -/

theorem head?_indexes (n : Int32) : (indexes n).head? = if 0 < n then some 0 else none := by
  have hsome : 0 < n ↔ n.toInt.toNat ≠ 0 := by
    rw [Int32.lt_iff_toInt_lt, Int32.toInt_zero]
    omega
  rw [indexes, List.head?_map, List.head?_range]
  by_cases hn : 0 < n
  · rw [if_pos hn, if_neg (hsome.1 hn)]
    rfl
  · rw [if_neg hn, if_pos (Decidable.not_not.1 (mt hsome.2 hn))]
    rfl

theorem head?_places (types : List (String × Int32)) :
    (places types).head? = (types.find? fun t => 0 < t.2).map fun t => (t.1, 0) := by
  induction types with
  | nil => rfl
  | cons t rest ih =>
    rw [places_cons, List.head?_append, List.head?_map, head?_indexes, ih, List.find?_cons]
    by_cases ht : 0 < t.2 <;> simp [ht]

/-- All replicas meet at the first of them. -/
theorem masterAddress?_eq_head? (s : JobSpec) (job : String) :
    s.masterAddress? job = s.ranked.head?.map fun r => replicaName job r.1 r.2 := by
  rw [masterAddress?, ranked, head?_places, Option.map_map]
  rfl

/-! ## Ranks -/

theorem rankIn_congr (h : sameLetters type type' = true) (i offset : Int32) :
    rankIn type i offset types = rankIn type' i offset types := by
  induction types generalizing offset with
  | nil => rfl
  | cons t rest ih =>
    have hsame : sameLetters t.1 type = sameLetters t.1 type' := by
      rw [sameLetters, sameLetters, sameLetters_iff.1 h]
    rw [rankIn, rankIn, hsame, ih]

theorem TypesDistinct.rank?_eq_none_iff (hd : s.TypesDistinct) : s.rank? type i = none ↔
    ∀ e ∈ s.replicaSpecs.entries, sameLetters e.1 type = true → e.2.replicas ≤ i := by
  rw [Option.eq_none_iff_forall_ne_some, ← not_exists, exists_rank?_iff]
  simp only [hd.replica?_eq_some_iff, not_exists, not_and, Int32.not_lt, and_imp, sameLetters_iff]

section Counted

variable (hd : s.TypesDistinct) (hpos : ∀ e ∈ s.replicaSpecs.entries, 0 ≤ e.2.replicas)
  (hfits : s.replicaCount ≤ Int32.maxValue.toInt)

include hpos hfits

/-- Ranks are places in the list of all replicas, which are fewer than 32 bits count. -/
theorem toInt_totalReplicas_eq_length : s.totalReplicas.toInt = (s.ranked.length : Int) := by
  have hcount := length_declaredReplicas hpos
  rw [s.perm_ranked.length_eq, hcount]
  exact toInt_totalReplicas (by omega) hfits

theorem toInt_place {n : Nat} (hn : n ≤ s.ranked.length) : (Int32.ofNat n).toInt = (n : Int) := by
  have hmax : Int32.maxValue.toInt = 2147483647 := rfl
  have hcount := length_declaredReplicas hpos
  rw [← s.perm_ranked.length_eq] at hcount
  exact Int32.toInt_ofNat_of_lt (by omega)

include hd

theorem rank?_eq_some_iff (hr : r ∈ s.declaredReplicas) {k : Int32} :
    s.rank? r.1 r.2 = some k ↔ k.toInt = (s.ranked.idxOf r : Int) := by
  have hplace := List.idxOf_le_length (a := r) (l := s.ranked)
  rw [rank?_eq_of_nonneg hpos hd.unambiguous hr, Option.some.injEq, ← Int32.toInt_inj,
    toInt_place hpos hfits hplace, eq_comm]

theorem exists_rank (hr : r ∈ s.declaredReplicas) :
    ∃ k, s.rank? r.1 r.2 = some k ∧ 0 ≤ k ∧ k < s.totalReplicas := by
  have hlt : s.ranked.idxOf r < s.ranked.length :=
    List.idxOf_lt_length_iff.2 (s.perm_ranked.mem_iff.2 hr)
  have hplace := toInt_place hpos hfits (Nat.le_of_lt hlt)
  refine ⟨_, (rank?_eq_some_iff hd hpos hfits hr).2 hplace, ?_, ?_⟩
  · rw [Int32.le_iff_toInt_le, hplace, Int32.toInt_zero]
    omega
  · rw [Int32.lt_iff_toInt_lt, hplace, toInt_totalReplicas_eq_length hpos hfits]
    omega

theorem existsUnique_rank {k : Int32} (hk : 0 ≤ k) (hlt : k < s.totalReplicas) :
    ∃! r, r ∈ s.declaredReplicas ∧ s.rank? r.1 r.2 = some k := by
  rw [Int32.le_iff_toInt_le, Int32.toInt_zero] at hk
  rw [Int32.lt_iff_toInt_lt, toInt_totalReplicas_eq_length hpos hfits] at hlt
  have hbound : k.toInt.toNat < s.ranked.length := by omega
  have hmem : s.ranked[k.toInt.toNat] ∈ s.declaredReplicas :=
    s.perm_ranked.mem_iff.1 (List.getElem_mem hbound)
  refine ⟨s.ranked[k.toInt.toNat], ⟨hmem, ?_⟩, fun r ⟨hr, hrank⟩ => ?_⟩
  · rw [rank?_eq_some_iff hd hpos hfits hmem, s.nodup_ranked.idxOf_getElem _ hbound]
    omega
  · rw [rank?_eq_some_iff hd hpos hfits hr] at hrank
    have hplace : s.ranked.idxOf r = k.toInt.toNat := by omega
    simp only [← hplace, List.getElem_idxOf]

theorem rank_lt_iff (hr : r ∈ s.declaredReplicas) (hr' : r' ∈ s.declaredReplicas) {k k' : Int32}
    (hk : s.rank? r.1 r.2 = some k) (hk' : s.rank? r'.1 r'.2 = some k') :
    k < k' ↔ Before r r' := by
  rw [rank?_eq_some_iff hd hpos hfits hr] at hk
  rw [rank?_eq_some_iff hd hpos hfits hr'] at hk'
  rw [Int32.lt_iff_toInt_lt, hk, hk', Int.ofNat_lt]
  exact idxOf_lt_iff s.pairwise_ranked (fun _ _ => Before.asymm) (s.perm_ranked.mem_iff.2 hr)
    (s.perm_ranked.mem_iff.2 hr')

theorem masterAddress?_of_rank (job : String) (hr : r ∈ s.declaredReplicas)
    (hzero : s.rank? r.1 r.2 = some 0) :
    s.masterAddress? job = some (replicaName job r.1 r.2) := by
  rw [rank?_eq_some_iff hd hpos hfits hr, Int32.toInt_zero] at hzero
  have hlt : s.ranked.idxOf r < s.ranked.length :=
    List.idxOf_lt_length_iff.2 (s.perm_ranked.mem_iff.2 hr)
  have hplace : s.ranked.idxOf r = 0 := by omega
  have hfirst : s.ranked[0]? = some r := by
    rw [← hplace, List.getElem?_eq_getElem hlt, List.getElem_idxOf]
  rw [masterAddress?_eq_head?, List.head?_eq_getElem?, hfirst, Option.map_some]

omit hd

theorem masterAddress?_eq_none_iff (job : String) :
    s.masterAddress? job = none ↔ s.totalReplicas = 0 := by
  rw [masterAddress?_eq_head?, Option.map_eq_none_iff, List.head?_eq_none_iff,
    ← List.length_eq_zero_iff, ← Int32.toInt_inj, toInt_totalReplicas_eq_length hpos hfits,
    Int32.toInt_zero, Int.natCast_eq_zero]

end Counted

end JobSpec

/-! ## What a replica is told -/

/-- Unless it sets the variable itself, a container gets it with this value and no other, or not at
all if there is none. -/
def Container.Gets (c c' : Container) (name : String) (value : Option String) : Prop :=
  c.envNamed name = [] →
    c'.envNamed name = value.toList.map fun v => { name := name, value := some v }

/-- Every container that comes from the template gets the rank of the replica, the number of all
replicas and the address of the master. -/
def PodSpec.TellsRanks (p t : PodSpec) (s : JobSpec) (job type : String) (i : Int32) : Prop :=
  List.Forall₂ (fun c c' =>
    (∀ k, s.rank? type i = some k → c.Gets c' "RANK" (some (showInt32 k))) ∧
    c.Gets c' "WORLD_SIZE" (some (showInt32 s.totalReplicas)) ∧
    c.Gets c' "MASTER_ADDR" (s.masterAddress? job)) t.containers p.containers

namespace Replica

/-- The environment says each of this once, and an address only if there is one. -/
theorem gets_of_informed {job : String} {s : JobSpec} {type : String} {i : Int32}
    {c c' : Container} (h : c.Informed (environment job s type i) c') :
    c.Gets c' "RANK" (some (showInt32 ((s.rank? type i).getD i))) ∧
      c.Gets c' "WORLD_SIZE" (some (showInt32 s.totalReplicas)) ∧
      c.Gets c' "MASTER_ADDR" (s.masterAddress? job) := by
  have hvars : ∀ {name value}, ((environment job s type i).filter fun v => v.name = name) =
      value.toList.map (fun v => { name := name, value := some v }) → c.Gets c' name value :=
    fun hvalue hfree => (h.envNamed_eq hfree).trans hvalue
  refine ⟨hvars ?_, hvars ?_, hvars ?_⟩ <;> unfold environment <;>
    cases s.masterAddress? job <;> rfl

theorem pod_told {j : Job} {ns type : String} {e : String × ReplicaSpec}
    (hns : j.namespace? = some ns) (he : j.spec.replica? type = some e) (i : Int32)
    (scheduler : GangScheduler) :
    ∃ p spec, pod j type i scheduler = .ok p ∧ p.spec = some spec ∧
      spec.TellsRanks (e.2.template.spec.getD {}) j.spec j.name type i := by
  obtain ⟨spec, hspec, hfollows⟩ := (Pod.follows_iff.2 rfl :
    (ownPod j ns e.1 e.2 i scheduler).Follows j ns e i scheduler).spec
  have hrank : j.spec.rank? e.1 i = j.spec.rank? type i :=
    JobSpec.rankIn_congr (sameLetters_iff.2 (JobSpec.lower_of_replica? he)) i 0
  refine ⟨_, spec, pod_eq_ownPod hns he i scheduler, hspec, hfollows.containers.imp ?_⟩
  intro c c' h
  rw [← environment_eq] at h
  obtain ⟨hgets, hothers⟩ := gets_of_informed h
  refine ⟨fun k hk => ?_, hothers⟩
  rwa [hrank, hk, Option.getD_some] at hgets

end Replica

/-- The ranks of a spec number its declared replicas. -/
structure JobSpec.NumbersReplicas (s : JobSpec) : Prop where
  /-- The number of all replicas is exact. -/
  total : s.totalReplicas.toInt = s.replicaCount
  /-- Every declared replica has a rank below it. -/
  bounded : ∀ r ∈ s.declaredReplicas,
    ∃ k, s.rank? r.1 r.2 = some k ∧ 0 ≤ k ∧ k < s.totalReplicas
  /-- Every number below it is the rank of just one. -/
  onto : ∀ k, 0 ≤ k → k < s.totalReplicas →
    ∃! r, r ∈ s.declaredReplicas ∧ s.rank? r.1 r.2 = some k
  /-- Master roles come first, then types by name, and replicas of one type by index. -/
  ordered : ∀ r ∈ s.declaredReplicas, ∀ r' ∈ s.declaredReplicas, ∀ k k',
    s.rank? r.1 r.2 = some k → s.rank? r'.1 r'.2 = some k' → (k < k' ↔ JobSpec.Before r r')
  /-- The case of the letters does not matter. -/
  anyLetters : ∀ type type' i, sameLetters type type' = true → s.rank? type i = s.rank? type' i
  /-- What is not declared has no rank. -/
  rank_none : ∀ type i, s.rank? type i = none ↔
    ∀ e ∈ s.replicaSpecs.entries, sameLetters e.1 type = true → e.2.replicas ≤ i
  /-- All replicas meet at the one of rank 0. -/
  address : ∀ job, ∀ r ∈ s.declaredReplicas, s.rank? r.1 r.2 = some 0 →
    s.masterAddress? job = some (replicaName job r.1 r.2)
  address_none : ∀ job, s.masterAddress? job = none ↔ s.totalReplicas = 0
  /-- Containers are told so, unless the template tells them something else. -/
  told : ∀ (j : Job) (ns type : String) (e : String × ReplicaSpec) (i : Int32)
    (scheduler : GangScheduler), j.spec = s → j.namespace? = some ns → s.replica? type = some e →
    ∃ pod spec, Replica.pod j type i scheduler = .ok pod ∧ pod.spec = some spec ∧
      spec.TellsRanks (e.2.template.spec.getD {}) s j.name type i

namespace JobSpec

variable {s : JobSpec}

/-- **Ranks number the replicas.** In a spec whose types are distinct in any letters, with no
negative number of replicas and no more of them than 32 bits count, the ranks of the declared
replicas are the numbers from zero to the number of replicas, each given once, in the order of
master roles first, then types by name, then index; and the address of the master and the
environment of the pods say the same. -/
theorem ranks_in_order (hd : s.TypesDistinct)
    (hpos : ∀ e ∈ s.replicaSpecs.entries, 0 ≤ e.2.replicas)
    (hfits : s.replicaCount ≤ Int32.maxValue.toInt) : s.NumbersReplicas := by
  have hcount := length_declaredReplicas hpos
  exact {
    total := toInt_totalReplicas (by omega) hfits
    bounded := fun r hr => exists_rank hd hpos hfits hr
    onto := fun k hk hlt => existsUnique_rank hd hpos hfits hk hlt
    ordered := fun r hr r' hr' k k' hk hk' => rank_lt_iff hd hpos hfits hr hr' hk hk'
    anyLetters := fun type type' i hsame => rankIn_congr hsame i 0
    rank_none := fun type i => hd.rank?_eq_none_iff
    address := fun job r hr hzero => masterAddress?_of_rank hd hpos hfits job hr hzero
    address_none := fun job => masterAddress?_eq_none_iff hpos hfits job
    told := fun j ns type e i scheduler hj hns he => by
      subst hj
      exact Replica.pod_told hns he i scheduler }

/-- A type before the master role in the order of names, and one without replicas. -/
def chiefSpec : JobSpec where
  replicaSpecs := Dict.ofList
    [("Aux", { replicas := 2 }), ("Chief", {}), ("Worker", { replicas := 0 })]

/-- The chief is first all the same, and the last rank is found in capitals. -/
theorem ranks_in_order_chief : chiefSpec.TypesDistinct ∧
    (∀ e ∈ chiefSpec.replicaSpecs.entries, 0 ≤ e.2.replicas) ∧
    chiefSpec.replicaCount ≤ Int32.maxValue.toInt ∧ chiefSpec.NumbersReplicas ∧
    chiefSpec.totalReplicas = 3 ∧ chiefSpec.rank? "AUX" 1 = some 2 ∧
    chiefSpec.rank? "Worker" 0 = none ∧
    chiefSpec.masterAddress? "mnist" = some "mnist-chief-0" := by
  have hd : chiefSpec.TypesDistinct := by decide
  have hpos : ∀ e ∈ chiefSpec.replicaSpecs.entries, 0 ≤ e.2.replicas := by decide
  have hfits : chiefSpec.replicaCount ≤ Int32.maxValue.toInt := by decide
  have hranks : chiefSpec.NumbersReplicas := ranks_in_order hd hpos hfits
  refine ⟨hd, hpos, hfits, hranks, by decide, ?_, ?_, ?_⟩
  · rw [hranks.anyLetters "AUX" "Aux" 1 (by decide)]
    decide
  · exact (hranks.rank_none "Worker" 0).2 (by decide)
  · exact hranks.address "mnist" ("Chief", 0) (by decide) (by decide)

end JobSpec

end TrainingJobs
