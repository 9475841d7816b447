import Mathlib.Data.List.Induction
import Mathlib.Data.List.Nodup
import TrainingJobs.Proofs.Conditions

/-!
# What the times of a condition tell

A list of conditions comes about by recording one after the other, each made at its own time.
`LastChange` says which of these entries was the last to change what is seen of a list. Of each
condition, its transition time is the time of the last change of its status, and its update time
that of the last change of status, reason or message (`times_tell_history`): what one entry
preserves is said by `Tracks`, what a whole history does follows for any such view
(`Tracks.exists_lastChange`).
-/

namespace TrainingJobs.Conditions

structure Entry where
  type : ConditionType
  reason : String
  message : String
  now : Instant

namespace Entry

def condition (e : Entry) : Condition := Condition.make e.type e.reason e.message e.now

@[simp] theorem type_condition (e : Entry) : e.condition.type = e.type := rfl

/-- A condition of that type holds, for the same reason and with the same message. -/
def Repeats (e : Entry) (cs : List Condition) : Prop :=
  ∃ c ∈ cs, c.type = e.type ∧ c.isTrue = true ∧ c.reason = e.reason ∧ c.message = e.message

/-- Recording the entry retires the condition. -/
def Retires (e : Entry) (c : Condition) : Prop := c.type ∈ e.type.retires ∧ c.isTrue = true

instance (e : Entry) (c : Condition) : Decidable (e.Retires c) :=
  inferInstanceAs (Decidable (_ ∧ _))

/-- The condition does not hold any more, from the time of the entry on. -/
def retire (e : Entry) (c : Condition) : Condition :=
  { c with
    status := .false_
    lastUpdateTime := some (Timestamp.write e.now)
    lastTransitionTime := some (Timestamp.write e.now) }

/-- What the entry leaves of a condition of another type. -/
def leave (e : Entry) (c : Condition) : Condition := if e.Retires c then e.retire c else c

end Entry

/-- The list that recording the entries one after the other leads to, from the empty one. -/
def recorded (entries : List Entry) : List Condition :=
  entries.foldl (fun cs e => record cs e.condition) []

section History

variable {α β : Type} {entries : List Entry} {cs : List Condition} {c d : Condition} {e : Entry}
  {t : ConditionType}

@[simp] theorem recorded_concat (entries : List Entry) (e : Entry) :
    recorded (entries ++ [e]) = record (recorded entries) e.condition := by
  simp [recorded]

/-- What holds of the empty list and survives every recording holds of what has been recorded. -/
theorem recorded_induction {P : List Condition → Prop} (hnil : P [])
    (hrecord : ∀ cs c, P cs → P (record cs c)) (entries : List Entry) : P (recorded entries) := by
  induction entries using List.reverseRecOn with
  | nil => exact hnil
  | append_singleton entries e ih =>
    rw [recorded_concat]
    exact hrecord _ _ ih

/-- The last of the entries that changed what is seen of the list. What was not seen before has
changed as well. -/
inductive LastChange (view : List Condition → β) : List Entry → Entry → Prop
  | changed {entries : List Entry} {e : Entry}
      (h : view (recorded (entries ++ [e])) ≠ view (recorded entries)) :
      LastChange view (entries ++ [e]) e
  | kept {entries : List Entry} {e more : Entry}
      (h : view (recorded (entries ++ [more])) = view (recorded entries)) :
      LastChange view entries e → LastChange view (entries ++ [more]) e

/-- What is seen of the condition of a type. -/
def seen (f : Condition → α) (t : ConditionType) (cs : List Condition) : Option α :=
  (cs.find? fun c => c.type = t).map f

/-- What a condition says, its type and its times apart. -/
def content (c : Condition) : ConditionStatus × String × String := (c.status, c.reason, c.message)

/-! ## Each type once -/

theorem nodup_types_recorded (entries : List Entry) :
    ((recorded entries).map (·.type)).Nodup := by
  refine recorded_induction (P := fun cs => (cs.map (·.type)).Nodup) List.nodup_nil ?_ entries
  exact fun cs c h => nodup_types_record h

theorem find?_eq_some_iff (hnodup : (cs.map (·.type)).Nodup) :
    cs.find? (fun d => d.type = t) = some c ↔ c ∈ cs ∧ c.type = t := by
  constructor
  · intro h
    exact ⟨List.mem_of_find?_eq_some h, by simpa using List.find?_some h⟩
  · rintro ⟨hc, rfl⟩
    have hsome : (cs.find? fun d => d.type = c.type).isSome = true :=
      List.find?_isSome.2 ⟨c, hc, by simp⟩
    obtain ⟨d, hd⟩ := Option.isSome_iff_exists.1 hsome
    have htype : d.type = c.type := by simpa using List.find?_some hd
    rw [hd, List.inj_on_of_nodup_map hnodup (List.mem_of_find?_eq_some hd) hc htype]

theorem seen_of_mem (f : Condition → α) (hnodup : (cs.map (·.type)).Nodup) (hc : c ∈ cs) :
    seen f c.type cs = some (f c) := by
  rw [seen, (find?_eq_some_iff hnodup).2 ⟨hc, rfl⟩, Option.map_some]

/-! ## Running and restarting exclude each other -/

/-- At most one of the two types holds. -/
def Exclusive (cs : List Condition) : Prop :=
  ¬ (holds cs .running = true ∧ holds cs .restarting = true)

theorem Exclusive.enter (h : Exclusive cs) (c : Condition) : Exclusive (enter cs c) := by
  rintro ⟨hrunning, hrestarting⟩
  -- what holds afterwards was not retired, so only that the job was created can have been recorded
  have hkept : ∀ t, holds (Conditions.enter cs c) t = true → t ∉ c.type.retires := by
    intro t hholds hretired
    rw [holds_enter_of_mem hretired] at hholds
    cases hholds
  have hcreated : c.type = .created := by
    have h₁ := hkept _ hrunning
    have h₂ := hkept _ hrestarting
    revert h₁ h₂
    cases c.type <;> decide
  have hsame : ∀ t, t ≠ .created → holds (Conditions.enter cs c) t = holds cs t :=
    fun t ht => holds_enter_of_ne (hcreated ▸ ht) (by simp [hcreated, ConditionType.retires])
  rw [hsame _ (by decide)] at hrunning hrestarting
  exact h ⟨hrunning, hrestarting⟩

theorem Exclusive.record (h : Exclusive cs) (c : Condition) : Exclusive (record cs c) := by
  by_cases htells : Tells cs c
  · rwa [record_of_tells htells]
  rw [record_of_not_tells htells]
  exact h.enter _

theorem exclusive_nil : Exclusive [] := fun h => Bool.noConfusion h.1

theorem exclusive_recorded (entries : List Entry) : Exclusive (recorded entries) :=
  recorded_induction exclusive_nil (fun _ c h => h.record c) entries

/-! ## One entry -/

theorem tells_iff_repeats (hnodup : (cs.map (·.type)).Nodup) :
    Tells cs e.condition ↔ e.Repeats cs := by
  constructor
  · rintro ⟨c, hfound, hsame⟩
    obtain ⟨hc, htype⟩ := (find?_eq_some_iff hnodup).1 hfound
    obtain ⟨hstatus, hreason, hmessage⟩ := of_decide_eq_true hsame
    exact ⟨c, hc, htype, decide_eq_true hstatus, hreason, hmessage⟩
  · rintro ⟨c, hc, htype, htrue, hreason, hmessage⟩
    refine ⟨c, (find?_eq_some_iff hnodup).2 ⟨hc, htype⟩, ?_⟩
    exact decide_eq_true ⟨of_decide_eq_true htrue, hreason, hmessage⟩

theorem retiredBy_condition (e : Entry) : e.condition.retiredBy = e.leave := by
  funext c
  have hiff : (e.condition.type.retires.contains c.type && c.isTrue) = true ↔ e.Retires c := by
    rw [Bool.and_eq_true, List.contains_iff_mem]
    exact Iff.rfl
  unfold Condition.retiredBy Entry.leave
  simp only [hiff]
  rfl

theorem Entry.Retires.status_ne (h : e.Retires c) : c.status ≠ (e.retire c).status := by
  have htrue : c.status = .true_ := of_decide_eq_true h.2
  rw [htrue]
  exact fun hsame => by cases hsame

/-- An entry that says something new stands last, behind what is left of the others. -/
theorem record_of_not_repeats (hnodup : (cs.map (·.type)).Nodup) (h : ¬ e.Repeats cs) :
    record cs e.condition = (cs.filter fun c => c.type ≠ e.type).map e.leave
      ++ [{ e.condition with lastTransitionTime := transitionTime cs e.condition }] := by
  rw [record_of_not_tells (mt (tells_iff_repeats hnodup).1 h), enter, List.filter_map]
  simp only [Function.comp_def, type_retiredBy]
  rw [← retiredBy_condition]
  rfl

theorem record_of_repeats (hnodup : (cs.map (·.type)).Nodup) (h : e.Repeats cs) :
    record cs e.condition = cs :=
  record_of_tells ((tells_iff_repeats hnodup).2 h)

/-- What stands in a list after an entry: what did before, what it retired, or its own condition. -/
theorem mem_record_cases (hnodup : (cs.map (·.type)).Nodup) (hd : d ∈ record cs e.condition) :
    d ∈ cs ∨ (∃ c ∈ cs, e.Retires c ∧ d = e.retire c) ∨
      ¬ e.Repeats cs ∧
        d = { e.condition with lastTransitionTime := transitionTime cs e.condition } := by
  by_cases hrepeats : e.Repeats cs
  · rw [record_of_repeats hnodup hrepeats] at hd
    exact .inl hd
  rw [record_of_not_repeats hnodup hrepeats] at hd
  rcases List.mem_append.1 hd with hd | hd
  · obtain ⟨c, hc, rfl⟩ := List.mem_map.1 hd
    have hc := (List.mem_filter.1 hc).1
    by_cases hretires : e.Retires c
    · exact .inr (.inl ⟨c, hc, hretires, if_pos hretires⟩)
    · rw [Entry.leave, if_neg hretires]
      exact .inl hc
  · exact .inr (.inr ⟨hrepeats, List.mem_singleton.1 hd⟩)

/-- Conditions of other types that are not retired stay as they are, in their order. -/
theorem sublist_map_leave (cs : List Condition) (e : Entry) :
    (cs.filter fun c => c.type ≠ e.type ∧ ¬ e.Retires c).Sublist
      ((cs.filter fun c => c.type ≠ e.type).map e.leave) := by
  have hkept : (cs.filter fun c => c.type ≠ e.type ∧ ¬ e.Retires c).map e.leave =
      cs.filter fun c => c.type ≠ e.type ∧ ¬ e.Retires c := by
    refine (List.map_congr_left fun c hc => ?_).trans (List.map_id _)
    exact if_neg (of_decide_eq_true (List.mem_filter.1 hc).2).2
  rw [← hkept]
  refine (List.monotone_filter_right cs fun c hc => ?_).map e.leave
  exact decide_eq_true (of_decide_eq_true hc).1

/-- An entry either keeps what is told of a condition, with its time, or changes it, and the time
becomes its own. -/
def Tracks (f : Condition → α) (time : Condition → Option String) : Prop :=
  ∀ (cs : List Condition) (e : Entry), (cs.map (·.type)).Nodup → ∀ d ∈ record cs e.condition,
    (∃ c ∈ cs, c.type = d.type ∧ f c = f d ∧ time c = time d) ∨
      (time d = some (Timestamp.write e.now) ∧ ∀ c ∈ cs, c.type = d.type → f c ≠ f d)

theorem tracks_status : Tracks (·.status) (·.lastTransitionTime) := by
  intro cs e hnodup d hd
  rcases mem_record_cases hnodup hd with hd | ⟨c, hc, hretires, rfl⟩ | ⟨-, rfl⟩
  · exact .inl ⟨d, hd, rfl, rfl, rfl⟩
  · refine .inr ⟨rfl, fun b hb htype => ?_⟩
    obtain rfl : b = c := List.inj_on_of_nodup_map hnodup hb hc htype
    exact hretires.status_ne
  · unfold transitionTime
    cases hfind : cs.find? fun c => c.type = e.condition.type with
    | none =>
      refine .inr ⟨rfl, fun b hb htype => ?_⟩
      exact absurd (decide_eq_true htype) (List.find?_eq_none.1 hfind b hb)
    | some c =>
      obtain ⟨hc, htype⟩ := (find?_eq_some_iff hnodup).1 hfind
      by_cases hstatus : c.status = e.condition.status
      · refine .inl ⟨c, hc, htype, hstatus, ?_⟩
        simp only [hstatus, if_true]
      · refine .inr ⟨?_, fun b hb hbtype => ?_⟩
        · simp only [hstatus, if_false]
          rfl
        · obtain rfl : b = c := List.inj_on_of_nodup_map hnodup hb hc (hbtype.trans htype.symm)
          exact hstatus

theorem tracks_content : Tracks content (·.lastUpdateTime) := by
  intro cs e hnodup d hd
  rcases mem_record_cases hnodup hd with hd | ⟨c, hc, hretires, rfl⟩ | ⟨hnew, rfl⟩
  · exact .inl ⟨d, hd, rfl, rfl, rfl⟩
  · refine .inr ⟨rfl, fun b hb htype hsame => ?_⟩
    obtain rfl : b = c := List.inj_on_of_nodup_map hnodup hb hc htype
    exact hretires.status_ne (congrArg Prod.fst hsame)
  · refine .inr ⟨rfl, fun b hb htype hsame => hnew ?_⟩
    simp only [content, Prod.mk.injEq] at hsame
    obtain ⟨hstatus, hreason, hmessage⟩ := hsame
    exact ⟨b, hb, htype, decide_eq_true hstatus, hreason, hmessage⟩

/-! ## All entries -/

/-- The time of a condition is that of the last entry that changed what is told of it. -/
theorem Tracks.exists_lastChange {f : Condition → α} {time : Condition → Option String}
    (h : Tracks f time) (entries : List Entry) (hc : c ∈ recorded entries) :
    ∃ e, LastChange (seen f c.type) entries e ∧ time c = some (Timestamp.write e.now) := by
  induction entries using List.reverseRecOn generalizing c with
  | nil => cases hc
  | append_singleton entries more ih =>
    have hbefore := nodup_types_recorded entries
    have hafter := seen_of_mem f (nodup_types_recorded (entries ++ [more])) hc
    rw [recorded_concat] at hc
    rcases h _ more hbefore c hc with ⟨b, hb, htype, hsame, htime⟩ | ⟨htime, hnew⟩
    · obtain ⟨e, hlast, he⟩ := ih hb
      refine ⟨e, .kept ?_ (htype ▸ hlast), htime ▸ he⟩
      rw [hafter, ← htype, seen_of_mem f hbefore hb, hsame]
    · refine ⟨more, .changed fun hsame => ?_, htime⟩
      rw [hafter, seen, eq_comm, Option.map_eq_some_iff] at hsame
      obtain ⟨b, hfound, hb⟩ := hsame
      obtain ⟨hmem, htype⟩ := (find?_eq_some_iff hbefore).1 hfound
      exact hnew b hmem htype hb

/-! ## The whole history -/

/-- **The times of the conditions tell the history.** Whatever has been recorded, from the empty
list on: each type stands there at most once, and running and restarting do not both hold. The
transition time of a condition is that of the last entry that changed its status, its update time
that of the last one that changed status, reason or message. A further entry that repeats the reason
and the message of a condition that holds changes nothing; any other one puts its condition at the
end, and of those of other types it retires what it ends and leaves the rest as it is, in order. -/
theorem times_tell_history (entries : List Entry) :
    let cs := recorded entries
    ((cs.map (·.type)).Nodup ∧ ¬ (holds cs .running = true ∧ holds cs .restarting = true)) ∧
    (∀ c ∈ cs,
      (∃ e, LastChange (seen (·.status) c.type) entries e ∧
        c.lastTransitionTime = some (Timestamp.write e.now)) ∧
      ∃ e, LastChange (seen content c.type) entries e ∧
        c.lastUpdateTime = some (Timestamp.write e.now)) ∧
    ∀ e : Entry,
      (e.Repeats cs → recorded (entries ++ [e]) = cs) ∧
      (¬ e.Repeats cs →
        (∃ since, recorded (entries ++ [e]) = (cs.filter fun c => c.type ≠ e.type).map e.leave
          ++ [{ e.condition with lastTransitionTime := since }]) ∧
        (cs.filter fun c => c.type ≠ e.type ∧ ¬ e.Retires c).Sublist
          (recorded (entries ++ [e]))) := by
  intro cs
  have hnodup := nodup_types_recorded entries
  refine ⟨⟨hnodup, exclusive_recorded entries⟩, fun c hc => ⟨?_, ?_⟩, fun e => ⟨fun h => ?_,
    fun h => ?_⟩⟩
  · exact tracks_status.exists_lastChange entries hc
  · exact tracks_content.exists_lastChange entries hc
  · rw [recorded_concat]
    exact record_of_repeats hnodup h
  · rw [recorded_concat, record_of_not_repeats hnodup h]
    exact ⟨⟨_, rfl⟩, (sublist_map_leave cs e).trans (List.sublist_append_left _ _)⟩

/-- A job that was restarted and then lost a worker. -/
def restartedHistory : List Entry :=
  [⟨.created, "JobCreated", "mnist is created", .ofSeconds 1714557600⟩,
    ⟨.running, "JobRunning", "2 active", .ofSeconds 1714557610⟩,
    ⟨.restarting, "JobRestarting", "1 failed", .ofSeconds 1714557620⟩,
    ⟨.running, "JobRunning", "2 active", .ofSeconds 1714557630⟩,
    ⟨.running, "JobRunning", "1 active", .ofSeconds 1714557640⟩]

/-- It has been running since it was restarted, and saying so again changes nothing. -/
theorem times_tell_history_restarted :
    let cs := recorded restartedHistory
    let again : Entry := ⟨.running, "JobRunning", "1 active", .ofSeconds 1714557650⟩
    (again.Repeats cs ∧ recorded (restartedHistory ++ [again]) = cs) ∧
    (∃ c ∈ cs, c.type = .running ∧ ∃ e, LastChange (seen content c.type) restartedHistory e ∧
      c.lastUpdateTime = some (Timestamp.write e.now)) ∧
    cs.map (fun c => (c.type, c.status, c.lastTransitionTime)) =
      [(.created, .true_, some (Timestamp.write (.ofSeconds 1714557600))),
        (.restarting, .false_, some (Timestamp.write (.ofSeconds 1714557630))),
        (.running, .true_, some (Timestamp.write (.ofSeconds 1714557630)))] := by
  intro cs again
  have hrepeats : again.Repeats cs := by
    unfold Entry.Repeats
    decide
  obtain ⟨-, htimes, hsteps⟩ := times_tell_history restartedHistory
  refine ⟨⟨hrepeats, (hsteps again).1 hrepeats⟩, ?_, rfl⟩
  obtain ⟨c, hc, htype, -⟩ := hrepeats
  exact ⟨c, hc, htype, (htimes c hc).2⟩

end History

end TrainingJobs.Conditions
