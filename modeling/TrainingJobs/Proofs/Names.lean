import TrainingJobs.Observation
import TrainingJobs.Proofs.Dict
import TrainingJobs.Replica.Identity
import TrainingJobs.Text.Split

/-!
# What the name and the labels of a replica tell

A number that is written as text is read back (`readInt?_showInt`), so a label gives the index that
it was made from. No index of a replica has a dash in its text, so the name of a replica gives its
type, but for the case of the letters, and its index (`replicaName_inj`).
-/

namespace TrainingJobs

namespace Text

/-! ## Numbers -/

theorem readDigits_of_isDigit {cs : List Char} (h : ∀ c ∈ cs, c.isDigit = true) (acc : Nat) :
    readDigits 10 acc cs = some (Nat.ofDigitChars 10 cs acc) := by
  induction cs generalizing acc with
  | nil => simp [readDigits]
  | cons c rest ih =>
    have hc : '0' ≤ c ∧ c ≤ '9' := by
      have hdigit := h c List.mem_cons_self
      simp only [Char.isDigit, Bool.and_eq_true, decide_eq_true_eq] at hdigit
      exact hdigit
    have hval : c.toNat - 48 < 10 := by
      have hle : c.toNat ≤ 57 := hc.2
      omega
    have hrest : ∀ d ∈ rest, d.isDigit = true := fun d hd => h d (List.mem_cons_of_mem c hd)
    have hone : digitValue? 10 c = some (c.toNat - 48) := by
      simp only [digitValue?, hc, and_self, if_true, hval]
    rw [readDigits, hone, Nat.ofDigitChars_cons]
    simp only
    rw [ih hrest, Nat.mul_comm]
    rfl

theorem readNat?_toDigits (n : Nat) : readNat? 10 (Nat.toDigits 10 n) = some n := by
  have hdigits : ∀ c ∈ Nat.toDigits 10 n, c.isDigit = true :=
    fun c hc => Nat.isDigit_of_mem_toDigits (by decide) (by decide) hc
  cases hcs : Nat.toDigits 10 n with
  | nil => exact absurd hcs Nat.toDigits_ne_nil
  | cons c rest =>
    rw [hcs] at hdigits
    show readDigits 10 0 (c :: rest) = some n
    rw [readDigits_of_isDigit hdigits, ← hcs, Nat.ofDigitChars_ten_toDigits]

theorem toList_padded_one (n : Nat) : (padded 1 n).toList = Nat.toDigits 10 n := by
  have hlen : 1 - (Nat.toDigits 10 n).length = 0 := by
    have hpos : 0 < (Nat.toDigits 10 n).length := Nat.length_toDigits_pos
    omega
  simp [padded, hlen]

theorem readInt?_showInt (i : Int) : readInt? (showInt i).toList = some i := by
  unfold showInt
  split
  next hneg =>
    have hlist : ("-" ++ padded 1 i.natAbs).toList = '-' :: Nat.toDigits 10 i.natAbs := by
      rw [String.toList_append, toList_padded_one]
      rfl
    rw [hlist]
    simp only [readInt?, readNat?_toDigits, Option.bind_eq_bind, Option.bind_some, Option.pure_def,
      Option.map_some, Option.some.injEq]
    omega
  next hpos =>
    rw [toList_padded_one]
    have hdigits : ∀ c ∈ Nat.toDigits 10 i.natAbs, c.isDigit = true :=
      fun c hc => Nat.isDigit_of_mem_toDigits (by decide) (by decide) hc
    -- a digit in front is neither of the two signs
    unfold readInt?
    split
    next heq =>
      rw [heq] at hdigits
      exact absurd (hdigits '-' List.mem_cons_self) (by decide)
    next heq =>
      rw [heq] at hdigits
      exact absurd (hdigits '+' List.mem_cons_self) (by decide)
    next =>
      simp only [readNat?_toDigits, Option.bind_eq_bind, Option.bind_some, Option.pure_def,
        Option.map_some, Option.some.injEq]
      omega

theorem dash_not_mem_showInt32 {i : Int32} (h : 0 ≤ i) : '-' ∉ (showInt32 i).toList := by
  rw [Int32.le_iff_toInt_le, Int32.toInt_zero] at h
  have hneg : ¬ i.toInt < 0 := by omega
  unfold showInt32 showInt
  rw [if_neg hneg, toList_padded_one]
  intro hmem
  exact absurd (Nat.isDigit_of_mem_toDigits (by decide) (by decide) hmem) (by decide)

/-! ## Letters -/

theorem toLower_toLower (c : Char) : c.toLower.toLower = c.toLower := by
  by_cases h : c.val ≥ 'A'.val ∧ c.val ≤ 'Z'.val
  · have hval : c.toLower.val = c.val + ('a'.val - 'A'.val) := congrArg Char.val (dif_pos h)
    have hlow : ¬ (c.toLower.val ≥ 'A'.val ∧ c.toLower.val ≤ 'Z'.val) := by
      rw [hval]
      simp only [ge_iff_le, UInt32.le_iff_toNat_le] at h ⊢
      simp at h ⊢
      omega
    exact dif_neg hlow
  · have hself : c.toLower = c := dif_neg h
    rw [hself, hself]

@[simp] theorem lower_lower (s : String) : lower (lower s) = lower s := by
  simp only [lower, String.toList_ofList, List.map_map, Function.comp_def, toLower_toLower]

end Text

open Text

theorem ObservedPod.index?_showInt32 (i : Int32) : index? (showInt32 i) = some i := by
  unfold index? showInt32
  rw [readInt?_showInt, Option.bind_some, int32?_toInt]

theorem showInt32_inj {i i' : Int32} (h : showInt32 i = showInt32 i') : i = i' := by
  have hread := congrArg ObservedPod.index? h
  rw [ObservedPod.index?_showInt32, ObservedPod.index?_showInt32] at hread
  exact Option.some.inj hread

/-! ## Names -/

theorem toList_replicaName (job type : String) (i : Int32) :
    (replicaName job type i).toList =
      (job ++ "-" ++ lower type).toList ++ '-' :: (showInt32 i).toList := by
  simp [replicaName]

/-- Names of replicas are the same just if the indexes are and what stands in front of them is. -/
theorem replicaName_eq_iff {job job' type type' : String} {i i' : Int32} (hi : 0 ≤ i)
    (hi' : 0 ≤ i') : replicaName job type i = replicaName job' type' i' ↔
      job ++ "-" ++ lower type = job' ++ "-" ++ lower type' ∧ i = i' := by
  constructor
  · intro h
    have hcut := congrArg (fun name : String => cutLast? '-' name.toList) h
    simp only [toList_replicaName, cutLast?_append (dash_not_mem_showInt32 hi),
      cutLast?_append (dash_not_mem_showInt32 hi'), Option.some.injEq, Prod.mk.injEq] at hcut
    exact ⟨String.toList_inj.1 hcut.1, showInt32_inj (String.toList_inj.1 hcut.2)⟩
  · rintro ⟨hbefore, rfl⟩
    rw [replicaName, hbefore]
    rfl

/-- The name of a replica tells which one it is. -/
theorem replicaName_inj {job type type' : String} {i i' : Int32} (hi : 0 ≤ i) (hi' : 0 ≤ i')
    (h : replicaName job type i = replicaName job type' i') :
    lower type = lower type' ∧ i = i' := by
  obtain ⟨hbefore, hindex⟩ := (replicaName_eq_iff hi hi').1 h
  refine ⟨?_, hindex⟩
  have hlists : (job ++ "-").toList ++ (lower type).toList =
      (job ++ "-").toList ++ (lower type').toList := by
    rw [← String.toList_append, ← String.toList_append, hbefore]
  exact String.toList_inj.1 (List.append_cancel_left hlists)

/-- Replicas of two jobs have the same name only if the name of the one job begins with that of the
other and a dash. -/
theorem prefix_of_replicaName_eq {job job' type type' : String} {i i' : Int32} (hi : 0 ≤ i)
    (hi' : 0 ≤ i') (hne : job ≠ job') (h : replicaName job type i = replicaName job' type' i') :
    (job ++ "-").toList <+: job'.toList ∨ (job' ++ "-").toList <+: job.toList := by
  have hlists := congrArg String.toList ((replicaName_eq_iff hi hi').1 h).1
  simp only [String.toList_append, List.append_assoc] at hlists ⊢
  have hdash : "-".toList = ['-'] := rfl
  rw [hdash, List.singleton_append, List.singleton_append] at hlists
  rw [hdash]
  -- one name is the beginning of the other, and what follows it begins with the dash
  rcases List.append_eq_append_iff.1 hlists with ⟨more, hlonger, hrest⟩ | ⟨more, hlonger, hrest⟩
  · cases more with
    | nil => exact absurd (String.toList_inj.1 (by simpa using hlonger.symm)) hne
    | cons c more =>
      obtain ⟨rfl, -⟩ := List.cons.inj hrest
      exact .inl ⟨more, by rw [hlonger, List.append_assoc]; rfl⟩
  · cases more with
    | nil => exact absurd (String.toList_inj.1 (by simpa using hlonger)) hne
    | cons c more =>
      obtain ⟨rfl, -⟩ := List.cons.inj hrest
      exact .inr ⟨more, by rw [hlonger, List.append_assoc]; rfl⟩

theorem replicaName_congr {job type type' : String} (h : lower type = lower type') (i : Int32) :
    replicaName job type i = replicaName job type' i := by
  rw [replicaName, h, replicaName]

/-! ## Labels -/

theorem get?_replicaLabels (job type : String) (i : Int32) (key : String) :
    (replicaLabels job type i).get? key =
      if key = Label.jobRole then if i = 0 ∧ isMasterRole type then some "master" else none
      else if key = Label.replicaIndex then some (showInt32 i)
      else if key = Label.replicaType then some (lower type)
      else if key = Label.jobName then some job
      else if key = Label.groupName then some apiGroup else none := by
  have hjob : (jobLabels job).get? key = if key = Label.jobName then some job
      else if key = Label.groupName then some apiGroup else none := by
    simp only [jobLabels, Dict.ofList, Dict.insertAll, List.foldl_cons, List.foldl_nil,
      Dict.get?_insert, Dict.get?_empty]
  unfold replicaLabels
  by_cases hrole : key = Label.jobRole
  · subst hrole
    have hne : Label.jobRole ≠ Label.replicaIndex ∧ Label.jobRole ≠ Label.replicaType ∧
        Label.jobRole ≠ Label.jobName ∧ Label.jobRole ≠ Label.groupName := by decide
    split <;> simp_all [Dict.get?_insert]
  · split <;> simp only [Dict.get?_insert, hjob, if_neg hrole]

theorem get?_replicaLabels_job (job type : String) (i : Int32) :
    (replicaLabels job type i).get? Label.jobName = some job := by
  rw [get?_replicaLabels]
  rfl

theorem get?_replicaLabels_type (job type : String) (i : Int32) :
    (replicaLabels job type i).get? Label.replicaType = some (lower type) := by
  rw [get?_replicaLabels]
  rfl

theorem get?_replicaLabels_index (job type : String) (i : Int32) :
    (replicaLabels job type i).get? Label.replicaIndex = some (showInt32 i) := by
  rw [get?_replicaLabels]
  rfl

theorem replicaLabels_congr {job type type' : String} (h : lower type = lower type') (i : Int32) :
    replicaLabels job type i = replicaLabels job type' i := by
  rw [replicaLabels, replicaLabels, isMasterRole, isMasterRole, h]

end TrainingJobs
