import Mathlib.Algebra.Order.BigOperators.Group.List
import Mathlib.Algebra.Ring.Int.Defs
import TrainingJobs.Overflow

/-!
# Where sums overflow

A checked sum is the exact one, and it is also what comes out where overflow is not checked
(`Checked.eq_add_of_add`). Numbers of which none is negative are added up without a stop just if 32
bits hold the sum of all of them (`Checked.sum_eq`): on the way to it no sum is larger
(`isCount_of_mem_runningSums`).
-/

namespace TrainingJobs

/-- A number of replicas that 32 bits hold. -/
def IsCount (n : Int) : Prop := 0 ≤ n ∧ n ≤ Int32.maxValue.toInt

/-- All that comes out, in exact numbers, when these are added up one after the other. -/
def runningSums (counts : List Int32) : List Int := (counts.map Int32.toInt).scanl (· + ·) 0

theorem mem_runningSums_iff {counts : List Int32} {n : Int} :
    n ∈ runningSums counts ↔ ∃ front, front <+: counts ∧ (front.map Int32.toInt).sum = n := by
  rw [runningSums, List.mem_iff_getElem]
  simp only [List.getElem_scanl, List.length_scanl, List.length_map, ← List.map_take,
    ← List.sum_eq_foldl]
  constructor
  · rintro ⟨k, -, hsum⟩
    exact ⟨counts.take k, List.take_prefix k counts, hsum⟩
  · rintro ⟨front, hfront, hsum⟩
    have hle := hfront.length_le
    refine ⟨front.length, by omega, ?_⟩
    rw [← List.prefix_iff_eq_take.1 hfront, hsum]

theorem sum_toInt_nonneg {counts : List Int32} (hpos : ∀ c ∈ counts, 0 ≤ c) :
    0 ≤ (counts.map Int32.toInt).sum := by
  refine List.sum_nonneg fun x hx => ?_
  obtain ⟨c, hc, rfl⟩ := List.mem_map.1 hx
  exact Int32.le_iff_toInt_le.1 (hpos c hc)

/-- As no number is negative, the last sum is the largest. -/
theorem isCount_of_mem_runningSums {counts : List Int32} {n : Int} (hpos : ∀ c ∈ counts, 0 ≤ c)
    (hfits : (counts.map Int32.toInt).sum ≤ Int32.maxValue.toInt) (hn : n ∈ runningSums counts) :
    IsCount n := by
  obtain ⟨front, ⟨back, rfl⟩, rfl⟩ := mem_runningSums_iff.1 hn
  have hfront := sum_toInt_nonneg fun c hc => hpos c (List.mem_append_left back hc)
  have hback := sum_toInt_nonneg fun c hc => hpos c (List.mem_append_right front hc)
  rw [List.map_append, List.sum_append] at hfits
  exact ⟨hfront, by omega⟩

namespace Checked

variable {a b n : Int32} {counts : List Int32}

theorem add_of_fits (hlow : Int32.minValue.toInt ≤ a.toInt + b.toInt)
    (hhigh : a.toInt + b.toInt ≤ Int32.maxValue.toInt) : add a b = .ok (a + b) := by
  unfold add Text.int32?
  rw [if_pos ⟨hlow, hhigh⟩, Int32.ofInt_add, Int32.ofInt_toInt, Int32.ofInt_toInt]

theorem add_of_exceeds (h : Int32.maxValue.toInt < a.toInt + b.toInt) :
    add a b = .error .overflow := by
  unfold add Text.int32?
  rw [if_neg fun hfits => absurd hfits.2 (Int.not_le.2 h)]

theorem eq_add_of_add (h : add a b = .ok n) : n = a + b := by
  unfold add Text.int32? at h
  split at h
  next hsome =>
    obtain ⟨-, hsum⟩ := Option.ite_none_right_eq_some.1 hsome
    rw [← Except.ok.inj h, ← Option.some.inj hsum, Int32.ofInt_add, Int32.ofInt_toInt,
      Int32.ofInt_toInt]
  next => cases h

theorem foldl_of_foldlM (h : counts.foldlM add a = .ok n) : n = counts.foldl (· + ·) a := by
  induction counts generalizing a with
  | nil => exact (Except.ok.inj h).symm
  | cons c rest ih =>
    rw [List.foldlM_cons] at h
    cases hadd : add a c with
    | error e =>
      rw [hadd] at h
      cases h
    | ok b =>
      rw [hadd] at h
      rw [List.foldl_cons, ← eq_add_of_add hadd]
      exact ih h

/-- Where no number is negative, only the last sum can be too large. -/
theorem foldlM_add_eq (hpos : ∀ c ∈ counts, 0 ≤ c) : counts.foldlM add a =
    if a.toInt + (counts.map Int32.toInt).sum ≤ Int32.maxValue.toInt then
      .ok (counts.foldl (· + ·) a)
    else .error .overflow := by
  induction counts generalizing a with
  | nil =>
    rw [if_pos (by simpa using a.toInt_le)]
    rfl
  | cons c rest ih =>
    rw [List.forall_mem_cons, Int32.le_iff_toInt_le, Int32.toInt_zero] at hpos
    obtain ⟨hc, hrest⟩ := hpos
    have hnonneg := sum_toInt_nonneg hrest
    have hlow := a.le_toInt
    have hmin : Int32.minValue.toInt = -2147483648 := rfl
    have hmax : Int32.maxValue.toInt = 2147483647 := rfl
    rw [List.foldlM_cons, List.map_cons, List.sum_cons, ← Int.add_assoc, List.foldl_cons]
    by_cases hfits : a.toInt + c.toInt ≤ Int32.maxValue.toInt
    · have hadd := add_of_fits (by omega) hfits
      have hexact : (a + c).toInt = a.toInt + c.toInt := by
        rw [Int32.toInt_add]
        exact Int.bmod_eq_of_le (by omega) (by omega)
      rw [hadd, ← hexact, ← ih hrest]
      rfl
    · rw [add_of_exceeds (Int.not_le.1 hfits), if_neg (by omega)]
      rfl

theorem sum_eq (hpos : ∀ c ∈ counts, 0 ≤ c) : sum counts =
    if (counts.map Int32.toInt).sum ≤ Int32.maxValue.toInt then .ok (counts.foldl (· + ·) 0)
    else .error .overflow := by
  rw [sum, foldlM_add_eq hpos, Int32.toInt_zero, Int.zero_add]

end Checked

end TrainingJobs
