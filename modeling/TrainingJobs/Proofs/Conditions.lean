import TrainingJobs.Condition

/-!
# Recording conditions

`record_of_tells` and `record_of_not_tells` say together what recording does: nothing when the list
says already what is recorded, and otherwise the condition goes to the end, in the place of those
of its type, while those that it ends are retired. What the list says afterwards, and which types
hold, follows from the two.
-/

namespace TrainingJobs.Conditions

variable {cs : List Condition} {c d : Condition}

/-- The list tells already what the condition does: the first one of its type is the same. -/
def Tells (cs : List Condition) (c : Condition) : Prop :=
  ∃ e, cs.find? (fun d => d.type = c.type) = some e ∧ e.sameAs c = true

/-- When the condition became what it is: earlier, if it only keeps its status. -/
def transitionTime (cs : List Condition) (c : Condition) : Option String :=
  match cs.find? fun d => d.type = c.type with
  | some e => if e.status = c.status then e.lastTransitionTime else c.lastTransitionTime
  | none => c.lastTransitionTime

/-- The condition is entered at the end and ends what it ends. -/
def enter (cs : List Condition) (c : Condition) : List Condition :=
  (cs.map c.retiredBy).filter (fun d => d.type ≠ c.type) ++ [c]

theorem record_of_tells (h : Tells cs c) : record cs c = cs := by
  obtain ⟨e, he, hsame⟩ := h
  simp [record, he, hsame]

theorem record_of_not_tells (h : ¬ Tells cs c) :
    record cs c = enter cs { c with lastTransitionTime := transitionTime cs c } := by
  unfold record transitionTime
  cases hfind : cs.find? fun d => d.type = c.type with
  | none => rfl
  | some e =>
    have hsame : e.sameAs c = false := by
      rw [← Bool.not_eq_true]
      exact fun hsame => h ⟨e, hfind, hsame⟩
    simp only [hsame, Bool.false_eq_true, if_false]
    by_cases hstatus : e.status = c.status
    · simp only [hstatus, if_true]
      rfl
    · simp only [hstatus, if_false]
      rfl

@[simp] theorem type_retiredBy (c d : Condition) : (c.retiredBy d).type = d.type := by
  unfold Condition.retiredBy
  split <;> rfl

theorem retiredBy_of_not_mem (h : d.type ∉ c.type.retires) : c.retiredBy d = d := by
  simp [Condition.retiredBy, h]

theorem find?_enter_of_ne {t : ConditionType} (hne : t ≠ c.type) (ht : t ∉ c.type.retires) :
    (enter cs c).find? (fun d => d.type = t) = cs.find? fun d => d.type = t := by
  unfold enter
  induction cs with
  | nil => simp [Ne.symm hne]
  | cons d rest ih =>
    by_cases hd : d.type = t
    · have hkeep : c.retiredBy d = d := retiredBy_of_not_mem (hd ▸ ht)
      subst hd
      simp [hkeep, hne]
    · rw [List.find?_cons_of_neg (by simpa using hd), ← ih]
      by_cases hdc : d.type = c.type
      · simp [hdc]
      · simp [hd, hdc]

theorem find?_enter_self : (enter cs c).find? (fun d => d.type = c.type) = some c := by
  have hnone : ((cs.map c.retiredBy).filter fun d => d.type ≠ c.type).find?
      (fun d => d.type = c.type) = none := by
    simp [List.find?_eq_none]
  simp only [enter, List.find?_append, hnone, Option.none_or]
  simp

theorem tells_record (cs : List Condition) (c : Condition) : Tells (record cs c) c := by
  by_cases h : Tells cs c
  · rwa [record_of_tells h]
  · rw [record_of_not_tells h]
    let said := { c with lastTransitionTime := transitionTime cs c }
    have hfind : (enter cs said).find? (fun d => d.type = said.type) = some said :=
      find?_enter_self
    exact ⟨said, hfind, by simp [said, Condition.sameAs]⟩

/-- What is said stays said when a condition of another type is recorded that does not end it. -/
theorem Tells.record (h : Tells cs d) (hne : d.type ≠ c.type) (ht : d.type ∉ c.type.retires) :
    Tells (record cs c) d := by
  by_cases hc : Tells cs c
  · rwa [record_of_tells hc]
  · rw [record_of_not_tells hc]
    obtain ⟨e, he, hsame⟩ := h
    refine ⟨e, ?_, hsame⟩
    rw [find?_enter_of_ne]
    · exact he
    · exact hne
    · exact ht

theorem Tells.make_at {type : ConditionType} {reason message : String} {now now' : Instant}
    (h : Tells cs (Condition.make type reason message now)) :
    Tells cs (Condition.make type reason message now') := h

theorem holds_enter_of_ne {t : ConditionType} (hne : t ≠ c.type) (ht : t ∉ c.type.retires) :
    holds (enter cs c) t = holds cs t := by
  unfold holds enter
  induction cs with
  | nil => simp [Ne.symm hne]
  | cons d rest ih =>
    by_cases hd : d.type = t
    · have hkeep : c.retiredBy d = d := retiredBy_of_not_mem (hd ▸ ht)
      subst hd
      rw [List.any_cons, ← ih]
      simp [hkeep, hne]
    · have hcons : (d :: rest).any (fun e => e.type = t && e.isTrue) =
          rest.any fun e => e.type = t && e.isTrue := by simp [hd]
      rw [hcons, ← ih]
      by_cases hdc : d.type = c.type
      · simp [hdc]
      · simp [hd, hdc]

/-- Recording a condition leaves alone whether those of another type hold, unless it ends them. -/
theorem holds_record_of_ne {t : ConditionType} (hne : t ≠ c.type) (ht : t ∉ c.type.retires) :
    holds (record cs c) t = holds cs t := by
  by_cases h : Tells cs c
  · rw [record_of_tells h]
  · rw [record_of_not_tells h]
    exact holds_enter_of_ne hne ht

theorem holds_record_self (h : c.isTrue = true) : holds (record cs c) c.type = true := by
  obtain ⟨e, he, hsame⟩ := tells_record cs c
  have hstatus : e.status = c.status := by
    simp only [Condition.sameAs, decide_eq_true_eq] at hsame
    exact hsame.1
  have htype : e.type = c.type := by simpa using List.find?_some he
  simp only [Condition.isTrue, decide_eq_true_eq] at h
  exact List.any_eq_true.2
    ⟨e, List.mem_of_find?_eq_some he, by simp [htype, Condition.isTrue, hstatus, h]⟩

/-! ## Lists that tell of one state -/

theorem mem_enter_iff : d ∈ enter cs c ↔ d = c ∨ ∃ e ∈ cs, e.type ≠ c.type ∧ c.retiredBy e = d := by
  simp only [enter, List.mem_append, List.mem_filter, List.mem_map, decide_eq_true_eq,
    List.mem_singleton]
  constructor
  · rintro (⟨⟨e, he, rfl⟩, hne⟩ | rfl)
    · exact .inr ⟨e, he, by simpa using hne, rfl⟩
    · exact .inl rfl
  · rintro (rfl | ⟨e, he, hne, rfl⟩)
    · exact .inr rfl
    · exact .inl ⟨⟨e, he, rfl⟩, by simpa using hne⟩

theorem types_enter :
    (enter cs c).map (·.type) = (cs.map (·.type)).filter (· ≠ c.type) ++ [c.type] := by
  simp only [enter, List.map_append, List.map_cons, List.map_nil, List.filter_map, List.map_map,
    Function.comp_def, type_retiredBy]

theorem nodup_types_enter (h : (cs.map (·.type)).Nodup) :
    ((enter cs c).map (·.type)).Nodup := by
  rw [types_enter]
  refine List.nodup_append.2 ⟨h.filter _, List.pairwise_singleton _ _, ?_⟩
  intro t ht u hu
  rw [List.mem_singleton.1 hu]
  exact of_decide_eq_true (List.mem_filter.1 ht).2

theorem nodup_types_record (h : (cs.map (·.type)).Nodup) :
    ((record cs c).map (·.type)).Nodup := by
  by_cases htells : Tells cs c
  · rwa [record_of_tells htells]
  · rw [record_of_not_tells htells]
    exact nodup_types_enter h

theorem isTrue_retiredBy_of_mem (h : d.type ∈ c.type.retires) : (c.retiredBy d).isTrue = false := by
  unfold Condition.retiredBy
  split
  · rfl
  next hkept =>
    simp only [Bool.and_eq_true, List.contains_iff_mem, h, true_and] at hkept
    exact Bool.eq_false_iff.2 hkept

theorem holds_iff {t : ConditionType} :
    holds cs t = true ↔ ∃ d ∈ cs, d.type = t ∧ d.isTrue = true := by
  simp [holds]

theorem holds_enter_of_mem {t : ConditionType} (ht : t ∈ c.type.retires) :
    holds (enter cs c) t = false := by
  rw [← Bool.not_eq_true, holds_iff]
  rintro ⟨d, hd, rfl, htrue⟩
  rcases mem_enter_iff.1 hd with rfl | ⟨e, -, -, rfl⟩
  · revert ht
    cases d.type <;> decide
  · rw [type_retiredBy] at ht
    rw [isTrue_retiredBy_of_mem ht] at htrue
    cases htrue

/-- No type occurs twice, of every condition it is known whether it holds, at most one does besides
that the job was created, and the condition recorded last does. -/
structure Lawful (cs : List Condition) : Prop where
  distinct : (cs.map (·.type)).Nodup
  decided : ∀ c ∈ cs, c.status = .true_ ∨ c.status = .false_
  exclusive : ∀ t u, t ≠ .created → u ≠ .created → holds cs t = true → holds cs u = true → t = u
  lastHolds : ∀ c ∈ cs.getLast?, c.isTrue = true

theorem lawful_nil : Lawful [] where
  distinct := List.nodup_nil
  decided := fun _ => nofun
  exclusive := fun _ _ _ _ => nofun
  lastHolds := fun _ => nofun

theorem Lawful.enter (h : Lawful cs) (hc : c.isTrue = true)
    (hunfinished : ∀ t, t.isTerminal = true → holds cs t = false) : Lawful (enter cs c) where
  distinct := nodup_types_enter h.distinct
  decided := by
    intro d hd
    rcases mem_enter_iff.1 hd with rfl | ⟨e, he, -, rfl⟩
    · exact .inl (of_decide_eq_true hc)
    · unfold Condition.retiredBy
      split
      · exact .inr rfl
      · exact h.decided e he
  exclusive := by
    -- a type that was retired does not hold, a terminal one that was not recorded did not before
    have hother : ∀ t, t ≠ .created → c.type ≠ .created → t ≠ c.type →
        holds (Conditions.enter cs c) t = false := by
      intro t ht hcreated hne
      by_cases hretired : t ∈ c.type.retires
      · exact holds_enter_of_mem hretired
      · rw [holds_enter_of_ne hne hretired]
        refine hunfinished t ?_
        revert ht hcreated hne hretired
        cases t <;> cases c.type <;> decide
    intro t u ht hu htholds huholds
    by_cases hcreated : c.type = .created
    · have hsame : ∀ v, v ≠ .created → holds (Conditions.enter cs c) v = holds cs v :=
        fun v hv => holds_enter_of_ne (hcreated ▸ hv) (by rw [hcreated]; exact List.not_mem_nil)
      exact h.exclusive t u ht hu (hsame t ht ▸ htholds) (hsame u hu ▸ huholds)
    · have hself : ∀ v, v ≠ .created → holds (Conditions.enter cs c) v = true → v = c.type := by
        intro v hv hholds
        refine Classical.byContradiction fun hne => ?_
        rw [hother v hv hcreated hne] at hholds
        cases hholds
      exact (hself t ht htholds).trans (hself u hu huholds).symm
  lastHolds := by
    intro d hd
    simp only [Conditions.enter, List.getLast?_append, List.getLast?_singleton, Option.some_or,
      Option.mem_some_iff] at hd
    exact hd ▸ hc

/-- A condition that holds may be recorded of a job that has not ended. -/
theorem Lawful.record (h : Lawful cs) (hc : c.isTrue = true)
    (hunfinished : ∀ t, t.isTerminal = true → holds cs t = false) : Lawful (record cs c) := by
  by_cases htells : Tells cs c
  · rwa [record_of_tells htells]
  · rw [record_of_not_tells htells]
    exact h.enter hc hunfinished

theorem record_ne_nil : record cs c ≠ [] := by
  by_cases h : Tells cs c
  · rw [record_of_tells h]
    obtain ⟨e, he, -⟩ := h
    exact List.ne_nil_of_mem (List.mem_of_find?_eq_some he)
  · rw [record_of_not_tells h, enter]
    exact List.append_ne_nil_of_right_ne_nil _ (List.cons_ne_nil _ _)

/-- What did not hold goes to the end when it is recorded. -/
theorem getLast?_record (hc : c.isTrue = true) (hnew : holds cs c.type = false) :
    (record cs c).getLast? =
      some { c with lastTransitionTime := transitionTime cs c } := by
  have hnot : ¬ Tells cs c := by
    rintro ⟨e, he, hsame⟩
    have hstatus : e.status = c.status := (of_decide_eq_true hsame).1
    have htype : e.type = c.type := by simpa using List.find?_some he
    have hholds : holds cs c.type = true := by
      refine holds_iff.2 ⟨e, List.mem_of_find?_eq_some he, htype, ?_⟩
      simp only [Condition.isTrue, hstatus]
      exact hc
    rw [hnew] at hholds
    cases hholds
  rw [record_of_not_tells hnot]
  simp [enter]

end TrainingJobs.Conditions
