import Mathlib.Data.List.Nodup
import TrainingJobs.Dict

/-!
# What dictionaries hold

`get?` is the view of a dictionary: `mem_entries_iff` says that it determines the entries and
`ext_get?` that it determines the dictionary. Every operation is told by what it does to `get?`.
-/

namespace TrainingJobs

universe u v

variable {β : Type u} {γ : Type v}

theorem find?_insertEntry (k k' : String) (x : β) (l : List (String × β)) :
    (insertEntry k x l).find? (fun e => e.1 == k') =
      if k' = k then some (k, x) else l.find? fun e => e.1 == k' := by
  induction l with
  | nil =>
    by_cases h : k' = k
    · simp [insertEntry, h]
    · simp [insertEntry, h, Ne.symm h]
  | cons hd tl ih =>
    obtain ⟨k₁, x₁⟩ := hd
    unfold insertEntry
    split
    · by_cases h : k' = k
      · simp [h]
      · simp [h, Ne.symm h]
    split
    next heq =>
      subst heq
      by_cases h : k' = k
      · simp [h]
      · simp [h, Ne.symm h]
    next hne =>
      by_cases h : k' = k₁
      · subst h
        simp [Ne.symm hne]
      · simp [Ne.symm h, ih]

theorem KeysIncrease.find?_eq_some_iff {l : List (String × β)} (h : KeysIncrease l) {k : String}
    {x : β} : l.find? (fun e => e.1 == k) = some (k, x) ↔ (k, x) ∈ l := by
  refine ⟨List.mem_of_find?_eq_some, fun hmem => ?_⟩
  induction l with
  | nil => cases hmem
  | cons hd tl ih =>
    obtain ⟨hhd, htl⟩ := List.pairwise_cons.1 h
    rcases List.mem_cons.1 hmem with rfl | hmem
    · simp
    · have hlt : hd.1 < k := hhd _ hmem
      have hne : hd.1 ≠ k := fun he => String.lt_irrefl k (he ▸ hlt)
      simpa [hne] using ih htl hmem

theorem KeysIncrease.pairwise_ne {l : List (String × β)} (h : KeysIncrease l) :
    l.Pairwise fun a b => a.1 ≠ b.1 := by
  refine List.Pairwise.imp ?_ h
  intro a b hlt he
  rw [he] at hlt
  exact String.lt_irrefl _ hlt

theorem find?_reverse {l : List β} {p : β → Bool} (h : (l.filter p).length ≤ 1) :
    l.reverse.find? p = l.find? p := by
  rw [← List.head?_filter, ← List.head?_filter, List.filter_reverse]
  cases hfilter : l.filter p with
  | nil => rfl
  | cons x more =>
    rw [hfilter, List.length_cons] at h
    obtain rfl : more = [] := List.length_eq_zero_iff.1 (by omega)
    rfl

theorem length_filter_key_le_one {l : List (String × β)} (h : (l.map (·.1)).Nodup) (k : String) :
    (l.filter fun e => e.1 == k).length ≤ 1 := by
  have hcount := List.nodup_iff_count_le_one.1 h k
  rwa [List.count, List.countP_map, List.countP_eq_length_filter] at hcount

namespace Dict

variable {d e : Dict β} {k : String} {x : β}

theorem mem_entries_iff : (k, x) ∈ d.entries ↔ d.get? k = some x := by
  rw [← d.increasing.find?_eq_some_iff, get?]
  cases h : d.entries.find? fun e => e.1 == k with
  | none => simp
  | some a =>
    have hk : a.1 = k := by simpa using List.find?_some h
    rw [Option.map_some, Option.some.injEq, Option.some.injEq, Prod.ext_iff]
    exact ⟨fun ha => ha.2, fun ha => ⟨hk, ha⟩⟩

theorem mem_keys_iff : k ∈ d.keys ↔ ∃ x, d.get? k = some x := by
  simp only [keys, List.mem_map, Prod.exists, exists_and_right, exists_eq_right, mem_entries_iff]

theorem mem_values_iff : x ∈ d.values ↔ ∃ k, d.get? k = some x := by
  simp only [values, List.mem_map, Prod.exists, exists_eq_right, mem_entries_iff]

theorem contains_iff : d.contains k = true ↔ k ∈ d.keys := by
  simp [contains, keys]

theorem contains_eq_false_iff : d.contains k = false ↔ d.get? k = none := by
  rw [← Bool.not_eq_true, contains_iff, mem_keys_iff, Option.eq_none_iff_forall_ne_some]
  exact not_exists

theorem nodup_keys (d : Dict β) : d.keys.Nodup := List.pairwise_map.2 d.increasing.pairwise_ne

theorem nodup_entries (d : Dict β) : d.entries.Nodup :=
  d.increasing.pairwise_ne.imp fun hne he => hne (congrArg Prod.fst he)

theorem ext_get? (h : ∀ k, d.get? k = e.get? k) : d = e := by
  have hperm : d.entries.Perm e.entries :=
    (List.perm_ext_iff_of_nodup d.nodup_entries e.nodup_entries).2 fun ⟨k, x⟩ => by
      rw [mem_entries_iff, mem_entries_iff, h]
  refine ext (hperm.eq_of_pairwise ?_ d.increasing e.increasing)
  intro a b _ _ hab hba
  exact absurd (String.lt_trans hab hba) (String.lt_irrefl _)

@[simp] theorem get?_empty (k : String) : (empty : Dict β).get? k = none := rfl

theorem get?_insert (d : Dict β) (k k' : String) (x : β) :
    (d.insert k x).get? k' = if k' = k then some x else d.get? k' := by
  rw [get?, entries_insert, find?_insertEntry]
  split <;> rfl

@[simp] theorem get?_insert_self (d : Dict β) (k : String) (x : β) :
    (d.insert k x).get? k = some x := by
  rw [get?_insert, if_pos rfl]

theorem get?_insert_of_ne (d : Dict β) {k k' : String} (x : β) (h : k' ≠ k) :
    (d.insert k x).get? k' = d.get? k' := by
  rw [get?_insert, if_neg h]

theorem get?_erase (d : Dict β) (k k' : String) :
    (d.erase k).get? k' = if k' = k then none else d.get? k' := by
  simp only [get?, erase, List.find?_filter]
  by_cases h : k' = k
  · subst h
    simp
  · have hsame : (fun e : String × β => decide ((e.1 != k) = true ∧ (e.1 == k') = true)) =
        fun e => e.1 == k' := by
      funext e
      by_cases he : e.1 = k' <;> simp_all
    rw [if_neg h, hsame]

theorem mem_keys_foldl_erase (d : Dict β) (names : List String) :
    k ∈ (names.foldl erase d).keys ↔ k ∈ d.keys ∧ k ∉ names := by
  induction names generalizing d with
  | nil => simp
  | cons n more ih =>
    have hn : k ∈ (d.erase n).keys ↔ k ∈ d.keys ∧ k ≠ n := by
      rw [mem_keys_iff, mem_keys_iff, get?_erase]
      by_cases heq : k = n <;> simp [heq]
    rw [List.foldl_cons, ih, hn, List.mem_cons, not_or, and_assoc]

theorem get?_mapValues (f : String → β → γ) (d : Dict β) (k : String) :
    (d.mapValues f).get? k = (d.get? k).map (f k) := by
  simp only [get?, mapValues, List.find?_map, Function.comp_def]
  cases h : d.entries.find? fun e => e.1 == k with
  | none => rfl
  | some a =>
    have hk : a.1 = k := by simpa using List.find?_some h
    simp [hk]

/-- The last of several pairs of one key counts. -/
theorem get?_insertAll (d : Dict β) (l : List (String × β)) (k : String) :
    (d.insertAll l).get? k = ((l.reverse.find? fun e => e.1 == k).map (·.2)).or (d.get? k) := by
  unfold insertAll
  induction l generalizing d with
  | nil => rfl
  | cons hd tl ih =>
    rw [List.foldl_cons, ih, get?_insert, List.reverse_cons, List.find?_append]
    cases tl.reverse.find? fun e => e.1 == k with
    | some e => rfl
    | none =>
      by_cases hk : hd.1 = k
      · simp [hk]
      · simp [hk, Ne.symm hk]

theorem get?_ofList (l : List (String × β)) (k : String) :
    (ofList l).get? k = (l.reverse.find? fun e => e.1 == k).map (·.2) := by
  rw [ofList, get?_insertAll, get?_empty, Option.or_none]

/-- The entries of the second dictionary win. -/
theorem get?_override (d e : Dict β) (k : String) :
    (d.override e).get? k = (e.get? k).or (d.get? k) := by
  rw [override, get?_insertAll, find?_reverse (length_filter_key_le_one e.nodup_keys k)]
  rfl

theorem override_of_isEmpty (h : e.isEmpty = true) : d.override e = d := by
  rw [override, List.isEmpty_iff.1 h]
  rfl

theorem override_eq_iff : d.override e = e ↔ ∀ k ∈ d.keys, k ∈ e.keys := by
  constructor
  · intro h k hk
    obtain ⟨x, hx⟩ := mem_keys_iff.1 hk
    rw [mem_keys_iff, ← h, get?_override, hx]
    cases e.get? k with
    | none => exact ⟨x, rfl⟩
    | some y => exact ⟨y, rfl⟩
  · intro h
    refine ext_get? fun k => ?_
    rw [get?_override]
    cases he : e.get? k with
    | some y => rfl
    | none =>
      rw [Option.none_or]
      cases hd : d.get? k with
      | none => rfl
      | some x =>
        obtain ⟨y, hy⟩ := mem_keys_iff.1 (h k (mem_keys_iff.2 ⟨x, hd⟩))
        rw [he] at hy
        cases hy

end Dict

theorem NameSet.mem_keys_ofNames {names : List String} {n : String} :
    n ∈ (ofNames names).keys ↔ n ∈ names := by
  rw [ofNames, Dict.mem_keys_iff]
  simp only [Dict.get?_ofList, Option.map_eq_some_iff]
  constructor
  · rintro ⟨x, e, he, -⟩
    have hkey : e.1 = n := by simpa using List.find?_some he
    obtain ⟨m, hm, rfl⟩ := List.mem_map.1 (List.mem_reverse.1 (List.mem_of_find?_eq_some he))
    exact hkey ▸ hm
  · intro hn
    have hpair : (n, ()) ∈ (names.map fun m => (m, ())).reverse :=
      List.mem_reverse.2 (List.mem_map_of_mem hn)
    have hfound : ((names.map fun m => (m, ())).reverse.find? fun e => e.1 == n).isSome = true :=
      List.find?_isSome.2 ⟨(n, ()), hpair, beq_self_eq_true n⟩
    obtain ⟨e, he⟩ := Option.isSome_iff_exists.1 hfound
    exact ⟨(), e, he, trivial⟩

end TrainingJobs
