import TrainingJobs.Labels
import TrainingJobs.Proofs.Dict

/-!
# What a selector selects

A selector is a text that its reader cuts again, into pieces at the commas and each of these at the
equals sign. Labels in which neither occurs lose nothing by that (`requirements_selectorText`), so
their selector accepts just what carries all of them (`accepts_selectorText_iff`).
-/

namespace TrainingJobs.Selector

variable {labels carried : Dict String} {key value jobName : String}

/-- The text may stand in a selector. -/
def Plain (text : String) : Prop := ',' ∉ text.toList ∧ '=' ∉ text.toList

instance (text : String) : Decidable (Plain text) := inferInstanceAs (Decidable (_ ∧ _))

/-- The pieces of a selector, each of them cut at its equals signs. -/
def requirements (selector : String) : List (List String) :=
  (selector.toList.splitOn ',').map fun piece => (piece.splitOn '=').map String.ofList

/-- Each piece of the selector is a key and a value that the labels have. -/
def Accepts (selector : String) (carried : Dict String) : Prop :=
  ∀ r ∈ requirements selector, ∃ key value, r = [key, value] ∧ carried.get? key = some value

theorem splitOn_pair (hkey : Plain key) (hvalue : Plain value) :
    ((key ++ "=" ++ value).toList.splitOn '=').map String.ofList = [key, value] := by
  have hpair : (key ++ "=" ++ value).toList = ['='].intercalate [key.toList, value.toList] := by
    simp
  have hfree : ∀ l ∈ [key.toList, value.toList], '=' ∉ l := by
    simp [hkey.2, hvalue.2]
  rw [hpair, List.splitOn_intercalate '=' hfree (List.cons_ne_nil _ _)]
  simp

/-- Labels in which no comma and no equals sign occurs can be read from their selector. -/
theorem requirements_selectorText (hplain : ∀ e ∈ labels.entries, Plain e.1 ∧ Plain e.2)
    (hsome : labels.entries ≠ []) :
    requirements (selectorText labels) = labels.entries.map fun e => [e.1, e.2] := by
  have htext : (selectorText labels).toList =
      [','].intercalate (labels.entries.map fun e => (e.1 ++ "=" ++ e.2).toList) := by
    rw [selectorText, String.toList_intercalate, List.map_map]
    rfl
  have hfree : ∀ l ∈ labels.entries.map (fun e => (e.1 ++ "=" ++ e.2).toList), ',' ∉ l := by
    intro l hl
    obtain ⟨e, he, rfl⟩ := List.mem_map.1 hl
    obtain ⟨hkey, hvalue⟩ := hplain e he
    simp [hkey.1, hvalue.1]
  rw [requirements, htext, List.splitOn_intercalate ',' hfree (mt List.map_eq_nil_iff.1 hsome),
    List.map_map]
  refine List.map_congr_left fun e he => ?_
  exact splitOn_pair (hplain e he).1 (hplain e he).2

/-- The selector of such labels accepts just what carries all of them. -/
theorem accepts_selectorText_iff (hplain : ∀ e ∈ labels.entries, Plain e.1 ∧ Plain e.2)
    (hsome : labels.entries ≠ []) :
    Accepts (selectorText labels) carried ↔
      ∀ key value, labels.get? key = some value → carried.get? key = some value := by
  unfold Accepts
  rw [requirements_selectorText hplain hsome]
  constructor
  · intro h key value hget
    obtain ⟨key', value', hpair, hcarried⟩ :=
      h [key, value] (List.mem_map_of_mem (Dict.mem_entries_iff.2 hget))
    obtain ⟨rfl, rfl⟩ : key = key' ∧ value = value' := by simpa using hpair
    exact hcarried
  · intro h r hr
    obtain ⟨⟨key, value⟩, he, rfl⟩ := List.mem_map.1 hr
    exact ⟨key, value, rfl, h key value (Dict.mem_entries_iff.1 he)⟩

theorem entries_jobLabels (jobName : String) :
    (jobLabels jobName).entries = [(Label.groupName, apiGroup), (Label.jobName, jobName)] := by
  have hafter : ¬ Label.jobName < Label.groupName := by decide
  have hne : Label.jobName ≠ Label.groupName := by decide
  simp only [jobLabels, Dict.ofList, Dict.insertAll, List.foldl_cons, List.foldl_nil,
    Dict.entries_insert, Dict.entries_empty, insertEntry, if_neg hafter, if_neg hne]

/-- The selector of a job accepts just what carries the labels of the job. -/
theorem accepts_jobLabels_iff (hplain : Plain jobName) :
    Accepts (selectorText (jobLabels jobName)) carried ↔
      ∀ key value, (jobLabels jobName).get? key = some value → carried.get? key = some value := by
  refine accepts_selectorText_iff ?_ ?_
  · rw [entries_jobLabels]
    intro e he
    simp only [List.mem_cons, List.not_mem_nil, or_false] at he
    rcases he with rfl | rfl
    · show Plain Label.groupName ∧ Plain apiGroup
      decide
    · have hkey : Plain Label.jobName := by decide
      exact ⟨hkey, hplain⟩
  · rw [entries_jobLabels]
    exact List.cons_ne_nil _ _

theorem get?_jobLabels_jobName (jobName : String) :
    (jobLabels jobName).get? Label.jobName = some jobName := by
  rw [← Dict.mem_entries_iff, entries_jobLabels]
  exact List.mem_cons_of_mem _ List.mem_cons_self

instance (selector : String) (carried : Dict String) : Decidable (Accepts selector carried) :=
  have : DecidablePred fun r : List String =>
      ∃ key value, r = [key, value] ∧ carried.get? key = some value := fun r =>
    match r with
    | [] => isFalse (by simp)
    | [_] => isFalse (by simp)
    | [key, value] => decidable_of_iff (carried.get? key = some value) (by simp)
    | _ :: _ :: _ :: _ => isFalse (by simp)
  inferInstanceAs (Decidable (∀ r ∈ requirements selector, _))

end TrainingJobs.Selector
