import Mathlib.Algebra.Group.Nat.Defs
import Mathlib.Algebra.Ring.Int.Defs

/-!
# Sums over lists and first elements

A sum that is taken in 32 bits is the exact one up to a multiple of 2^32 (`toInt_foldl_add`), so it
is the exact one itself if that fits, however the sum went on the way (`toInt_foldl_add_of_fits`).

What stops at the first element of its kind is told by `HasFirst`. In a list that is in order, the
elements in front of another are those that are less (`mem_front_iff`).
-/

namespace TrainingJobs

variable {α : Type}

/-! ## Sums in 32 bits -/

theorem toInt_foldl_add (f : α → Int32) (l : List α) (start : Int32) :
    (l.foldl (fun sum x => sum + f x) start).toInt =
      (start.toInt + (l.map fun x => (f x).toInt).sum).bmod (2 ^ 32) := by
  induction l generalizing start with
  | nil =>
    rw [List.foldl_nil, List.map_nil, List.sum_nil, Int.add_zero]
    exact start.toInt_bmod.symm
  | cons x rest ih =>
    rw [List.foldl_cons, ih, Int32.toInt_add, List.map_cons, List.sum_cons, Int.bmod_add_bmod,
      Int.add_assoc]

theorem toInt_foldl_add_of_fits (f : α → Int32) (l : List α)
    (hlow : Int32.minValue.toInt ≤ (l.map fun x => (f x).toInt).sum)
    (hhigh : (l.map fun x => (f x).toInt).sum ≤ Int32.maxValue.toInt) :
    (l.foldl (fun sum x => sum + f x) 0).toInt = (l.map fun x => (f x).toInt).sum := by
  have hmin : Int32.minValue.toInt = -2147483648 := rfl
  have hmax : Int32.maxValue.toInt = 2147483647 := rfl
  rw [toInt_foldl_add, Int32.toInt_zero, Int.zero_add]
  exact Int.bmod_eq_of_le (by omega) (by omega)

/-! ## First elements -/

/-- An element of the list is `wanted`, and all in front of it are passed over. -/
def HasFirst (passed wanted : α → Prop) (l : List α) : Prop :=
  ∃ before x after, l = before ++ x :: after ∧ (∀ y ∈ before, passed y) ∧ wanted x

variable {passed wanted : α → Prop} {x y : α} {l : List α}

theorem not_hasFirst_nil : ¬ HasFirst passed wanted [] := by
  rintro ⟨before, x, after, hsplit, -⟩
  exact absurd hsplit.symm (List.append_ne_nil_of_right_ne_nil _ (List.cons_ne_nil _ _))

theorem hasFirst_cons_iff :
    HasFirst passed wanted (x :: l) ↔ wanted x ∨ (passed x ∧ HasFirst passed wanted l) := by
  constructor
  · rintro ⟨before, y, after, hsplit, hbefore, hy⟩
    cases before with
    | nil =>
      obtain ⟨rfl, -⟩ := List.cons.inj hsplit
      exact .inl hy
    | cons z before =>
      obtain ⟨rfl, hrest⟩ := List.cons.inj hsplit
      obtain ⟨hx, hbefore⟩ := List.forall_mem_cons.1 hbefore
      exact .inr ⟨hx, before, y, after, hrest, hbefore, hy⟩
  · rintro (hx | ⟨hx, before, y, after, rfl, hbefore, hy⟩)
    · exact ⟨[], x, l, rfl, List.forall_mem_nil _, hx⟩
    · exact ⟨x :: before, y, after, rfl, List.forall_mem_cons.2 ⟨hx, hbefore⟩, hy⟩

/-- In a list that is in order, what is in front of an element is less. -/
theorem mem_front_iff {less : α → α → Prop} (hasymm : ∀ a b, less a b → ¬ less b a)
    {before after : List α} (h : (before ++ x :: after).Pairwise less) :
    y ∈ before ↔ y ∈ before ++ x :: after ∧ less y x := by
  obtain ⟨-, hafter, hfront⟩ := List.pairwise_append.1 h
  constructor
  · intro hy
    exact ⟨List.mem_append_left _ hy, hfront y hy x List.mem_cons_self⟩
  · rintro ⟨hy, hless⟩
    rcases List.mem_append.1 hy with hy | hy
    · exact hy
    rcases List.mem_cons.1 hy with rfl | hy
    · exact absurd hless (hasymm _ _ hless)
    · exact absurd hless (hasymm _ _ ((List.pairwise_cons.1 hafter).1 y hy))

/-- So the first wanted element is one in front of which nothing less is in the way. -/
theorem hasFirst_iff {less : α → α → Prop} (hasymm : ∀ a b, less a b → ¬ less b a)
    (h : l.Pairwise less) : HasFirst passed wanted l ↔
      ∃ x ∈ l, wanted x ∧ ∀ y ∈ l, less y x → passed y := by
  constructor
  · rintro ⟨before, x, after, rfl, hbefore, hx⟩
    refine ⟨x, List.mem_append_right _ List.mem_cons_self, hx, fun y hy hless => ?_⟩
    exact hbefore y ((mem_front_iff hasymm h).2 ⟨hy, hless⟩)
  · rintro ⟨x, hx, hwanted, hpassed⟩
    obtain ⟨before, after, rfl⟩ := List.append_of_mem hx
    refine ⟨before, x, after, rfl, fun y hy => ?_, hwanted⟩
    obtain ⟨hmem, hless⟩ := (mem_front_iff hasymm h).1 hy
    exact hpassed y hmem hless

end TrainingJobs
