import TrainingJobs.Proofs.Replica.Built
import TrainingJobs.Proofs.Selectors

/-!
# Which pods a selector finds

A user asks for pods of a job by their type, by their index or by their role; the operator labels
the pods that it builds. Both sides spell these in the same way: what is asked for selects a pod
just if it is true of the replica that the pod was built for (`selectors_agree`). Only the role may
also come from the template, which may call a pod of any replica the master.
-/

namespace TrainingJobs

open Text

/-! ## Labels and their text -/

namespace Dict

variable {β : Type} {l : List (String × β)} {c : Dict β}

theorem mem_of_get?_ofList {k : String} {x : β} (h : (ofList l).get? k = some x) : (k, x) ∈ l := by
  rw [get?_ofList] at h
  obtain ⟨e, he, rfl⟩ := Option.map_eq_some_iff.1 h
  obtain rfl : e.1 = k := by simpa using List.find?_some he
  exact List.mem_reverse.1 (List.mem_of_find?_eq_some he)

theorem get?_ofList_of_mem {e : String × β} (hkeys : (l.map (·.1)).Nodup) (h : e ∈ l) :
    (ofList l).get? e.1 = some e.2 := by
  cases hget : (ofList l).get? e.1 with
  | none =>
    rw [get?_ofList, Option.map_eq_none_iff, List.find?_eq_none] at hget
    exact absurd (beq_self_eq_true e.1) (hget e (List.mem_reverse.2 h))
  | some x =>
    have hsame : (e.1, x) = e :=
      List.inj_on_of_nodup_map hkeys (mem_of_get?_ofList hget) h rfl
    rw [← hsame]

theorem forall_get?_ofList_iff (hkeys : (l.map (·.1)).Nodup) :
    (∀ key value, (ofList l).get? key = some value → c.get? key = some value) ↔
      ∀ e ∈ l, c.get? e.1 = some e.2 :=
  ⟨fun h e he => h e.1 e.2 (get?_ofList_of_mem hkeys he),
    fun h key value hkey => h (key, value) (mem_of_get?_ofList hkey)⟩

theorem ofList_entries (d : Dict β) : ofList d.entries = d := by
  refine ext_get? fun k => ?_
  rw [get?_ofList, find?_reverse (length_filter_key_le_one d.nodup_keys k)]
  rfl

end Dict

namespace Selector

variable {labels : Dict String}

/-- The key and the value that a piece of a selector consists of. -/
def pair? : List String → Option (String × String)
  | [key, value] => some (key, value)
  | _ => none

/-- The labels that a selector spells. -/
def labels? (selector : String) : Option (Dict String) :=
  ((requirements selector).mapM pair?).map Dict.ofList

theorem labels?_selectorText (hplain : ∀ e ∈ labels.entries, Plain e.1 ∧ Plain e.2)
    (hsome : labels.entries ≠ []) : labels? (selectorText labels) = some labels := by
  have hpairs : (labels.entries.map fun e => [e.1, e.2]).mapM pair? = some labels.entries := by
    induction labels.entries with
    | nil => rfl
    | cons e es ih => simp [pair?, ih]
  rw [labels?, requirements_selectorText hplain hsome, hpairs, Option.map_some,
    Dict.ofList_entries]

/-! ### Texts that may stand in a selector -/

theorem plain_lower {text : String} (h : Plain text) : Plain (lower text) := by
  have hfree : ∀ c : Char, c.val < 'a'.val → c ∉ text.toList → c ∉ (lower text).toList := by
    intro c hc hfree hmem
    rw [lower, String.toList_ofList] at hmem
    obtain ⟨d, hd, rfl⟩ := List.mem_map.1 hmem
    -- a capital becomes a small letter, which no character before them is
    by_cases hupper : d.val ≥ 'A'.val ∧ d.val ≤ 'Z'.val
    · have hval : d.toLower.val = d.val + ('a'.val - 'A'.val) :=
        congrArg Char.val (dif_pos hupper)
      rw [hval] at hc
      simp only [ge_iff_le, UInt32.le_iff_toNat_le, UInt32.lt_iff_toNat_lt] at hupper hc
      simp at hupper hc
      omega
    · have hself : d.toLower = d := dif_neg hupper
      exact hfree (hself.symm ▸ hd)
  exact ⟨hfree _ (by decide) h.1, hfree _ (by decide) h.2⟩

theorem plain_showInt32 (n : Int32) : Plain (showInt32 n) := by
  have hdigit : ∀ c ∈ (showInt32 n).toList, c = '-' ∨ c.isDigit = true := by
    intro c hc
    unfold showInt32 showInt at hc
    split at hc
    · rw [String.toList_append, toList_padded_one] at hc
      rcases List.mem_append.1 hc with hc | hc
      · exact .inl (List.mem_singleton.1 hc)
      · exact .inr (Nat.isDigit_of_mem_toDigits (by decide) (by decide) hc)
    · rw [toList_padded_one] at hc
      exact .inr (Nat.isDigit_of_mem_toDigits (by decide) (by decide) hc)
  exact ⟨fun hc => absurd (hdigit _ hc) (by decide), fun hc => absurd (hdigit _ hc) (by decide)⟩

end Selector

/-! ## Asking for pods -/

namespace PodSelector

variable {s : PodSelector} {name : String} {carried : Labels}

/-- The labels are all there that the selector asks for. -/
def Selects (s : PodSelector) (name : String) (carried : Labels) : Prop :=
  ∀ key value, (s.labels name).get? key = some value → carried.get? key = some value

/-- The labels that the selector asks for, one by one. -/
def asked (s : PodSelector) (name : String) : List (String × String) :=
  [(Label.groupName, apiGroup), (Label.jobName, name)]
    ++ (if s.master then [(Label.jobRole, "master")] else [])
    ++ (s.replicaType.map fun t => (Label.replicaType, lower t)).toList
    ++ (s.replicaIndex.map fun n => (Label.replicaIndex, showInt32 n)).toList

theorem labels_eq (s : PodSelector) (name : String) :
    s.labels name = Dict.ofList (s.asked name) := by
  obtain ⟨master, type, index⟩ := s
  cases master <;> cases type <;> cases index <;> rfl

theorem nodup_keys_asked (s : PodSelector) (name : String) :
    ((s.asked name).map (·.1)).Nodup := by
  obtain ⟨master, type, index⟩ := s
  cases master <;> cases type <;> cases index <;>
    simp [asked, Label.groupName, Label.jobName, Label.jobRole, Label.replicaType,
      Label.replicaIndex]

theorem selects_iff : s.Selects name carried ↔
    carried.get? Label.groupName = some apiGroup ∧ carried.get? Label.jobName = some name ∧
    (∀ t ∈ s.replicaType, carried.get? Label.replicaType = some (lower t)) ∧
    (∀ n ∈ s.replicaIndex, carried.get? Label.replicaIndex = some (showInt32 n)) ∧
    (s.master = true → carried.get? Label.jobRole = some "master") := by
  rw [Selects, labels_eq, Dict.forall_get?_ofList_iff (s.nodup_keys_asked name)]
  obtain ⟨master, type, index⟩ := s
  cases master <;> cases type <;> cases index <;> simp [asked, and_comm, and_left_comm]

/-- The text that the API server is asked with accepts what the selector selects. -/
theorem accepts_labels_iff (hname : Selector.Plain name)
    (htype : ∀ t ∈ s.replicaType, Selector.Plain t) :
    Selector.Accepts (selectorText (s.labels name)) carried ↔ s.Selects name carried := by
  have hkeys : ∀ key ∈ [Label.groupName, Label.jobName, Label.jobRole, Label.replicaType,
      Label.replicaIndex], Selector.Plain key := by decide
  have hplain : ∀ e ∈ s.asked name, Selector.Plain e.1 ∧ Selector.Plain e.2 := by
    intro e he
    simp only [asked, List.mem_append, List.mem_cons, List.not_mem_nil, or_false] at he
    rcases he with (((rfl | rfl) | he) | he) | he
    · exact ⟨by decide, by decide⟩
    · exact ⟨hkeys _ (by simp), hname⟩
    · split at he
      · obtain rfl := List.mem_singleton.1 he
        exact ⟨by decide, by decide⟩
      · cases he
    · obtain ⟨t, ht, rfl⟩ := Option.map_eq_some_iff.1 (Option.mem_toList.1 he)
      exact ⟨hkeys _ (by simp), Selector.plain_lower (htype t ht)⟩
    · obtain ⟨n, hn, rfl⟩ := Option.map_eq_some_iff.1 (Option.mem_toList.1 he)
      exact ⟨hkeys _ (by simp), Selector.plain_showInt32 n⟩
  refine Selector.accepts_selectorText_iff (fun e he => ?_) fun hnone => ?_
  · rw [labels_eq, Dict.mem_entries_iff] at he
    exact hplain e (Dict.mem_of_get?_ofList he)
  · have hgroup : (s.labels name).get? Label.groupName = some apiGroup := by
      rw [labels_eq]
      exact Dict.get?_ofList_of_mem (s.nodup_keys_asked name) (e := (Label.groupName, apiGroup))
        (by simp [asked])
    rw [← Dict.mem_entries_iff, hnone] at hgroup
    cases hgroup

end PodSelector

/-! ## The labels of a pod -/

/-- A label that the template gives its pods. -/
def PodTemplate.label? (t : PodTemplate) (key : String) : Option String :=
  ((t.metadata.getD {}).labels.getD Dict.empty).get? key

/-- A replica that leads its job: the first of a master role, or one whose template says so. -/
def ReplicaSpec.Leads (r : ReplicaSpec) (type : String) (i : Int32) : Prop :=
  (i = 0 ∧ isMasterRole type = true) ∨ r.template.label? Label.jobRole = some "master"

instance (r : ReplicaSpec) (type : String) (i : Int32) : Decidable (r.Leads type i) :=
  inferInstanceAs (Decidable (_ ∨ _))

section Built

variable {j : Job} {type : String} {i : Int32} {scheduler : GangScheduler} {pod : Pod}
  {e : String × ReplicaSpec}

theorem labels_of_pod (he : j.spec.replica? type = some e)
    (hpod : Replica.pod j type i scheduler = .ok pod) :
    ∃ labels, pod.metadata.labels = some labels ∧
      labels.get? Label.groupName = some apiGroup ∧ labels.get? Label.jobName = some j.name ∧
      labels.get? Label.replicaType = some (lower type) ∧
      labels.get? Label.replicaIndex = some (showInt32 i) ∧
      (labels.get? Label.jobRole = some "master" ↔ e.2.Leads type i) := by
  obtain ⟨e', ns, he', hns, hmeta⟩ := metadata_eq_of_pod hpod
  obtain rfl : e = e' := Option.some.inj (he.symm.trans he')
  obtain ⟨-, -, -, labels, hlabels, hcarries⟩ := carries_of_pod hns hpod
  obtain ⟨labels', hlabels', hget⟩ := get?_labels_markPod scheduler
    (e.2.template.metadata.getD {}) (ownMetadata j ns type i) j.name
  rw [← hmeta] at hlabels'
  obtain rfl := Option.some.inj (hlabels.symm.trans hlabels')
  have hown : (ownMetadata j ns type i).labels.getD Dict.empty = replicaLabels j.name type i := rfl
  have hrole : labels.get? Label.jobRole =
      (if i = 0 ∧ isMasterRole type then some "master" else none).or
        (e.2.template.label? Label.jobRole) := by
    rw [hget _ (by decide), hown, get?_replicaLabels, if_pos rfl]
    rfl
  refine ⟨labels, hlabels, hcarries _ _ (by rw [get?_replicaLabels]; rfl),
    hcarries _ _ (get?_replicaLabels_job ..), hcarries _ _ (get?_replicaLabels_type ..),
    hcarries _ _ (get?_replicaLabels_index ..), ?_⟩
  rw [hrole, ReplicaSpec.Leads]
  by_cases hfirst : i = 0 ∧ isMasterRole type = true
  · simp [hfirst]
  · simp [hfirst]

end Built

/-- What the client asks for is what the operator labels. The labels of a selector are all on the
pod of a replica just if the names of the jobs are the same and the type, the index and the role
that are asked for are those of the replica; and labels in which no comma and no equals sign occurs
can be read from the text that spells them. -/
theorem selectors_agree :
    (∀ (j : Job) (ns type : String) (i : Int32) (scheduler : GangScheduler)
      (e : String × ReplicaSpec), j.namespace? = some ns → j.spec.replica? type = some e →
      ∃ pod labels, Replica.pod j type i scheduler = .ok pod ∧
        pod.metadata.labels = some labels ∧
        ∀ (s : PodSelector) (name : String), s.Selects name labels ↔
          name = j.name ∧ (∀ t ∈ s.replicaType, sameLetters t type = true) ∧
          (∀ n ∈ s.replicaIndex, n = i) ∧ (s.master = true → e.2.Leads type i)) ∧
    (∀ labels : Labels, labels.entries ≠ [] →
      (∀ e ∈ labels.entries, Selector.Plain e.1 ∧ Selector.Plain e.2) →
      Selector.labels? (selectorText labels) = some labels) := by
  refine ⟨fun j ns type i scheduler e hns he => ?_,
    fun labels hsome hplain => Selector.labels?_selectorText hplain hsome⟩
  obtain ⟨pod, hpod⟩ := exists_pod hns he i scheduler
  obtain ⟨labels, hlabels, hgroup, hjob, htype, hindex, hrole⟩ := labels_of_pod he hpod
  refine ⟨pod, labels, hpod, hlabels, fun s name => ?_⟩
  have hname : j.name = name ↔ name = j.name := eq_comm
  have hsame : ∀ t, lower type = lower t ↔ sameLetters t type = true := by
    intro t
    rw [sameLetters_iff, eq_comm]
  have hnumber : ∀ n, showInt32 i = showInt32 n ↔ n = i :=
    fun n => ⟨fun h => (showInt32_inj h).symm, fun h => h ▸ rfl⟩
  rw [PodSelector.selects_iff, hgroup, hjob, htype, hindex, hrole]
  simp only [Option.some.injEq, true_and, hname, hsame, hnumber]

/-- A worker is found as such, and not as the master. -/
theorem selectors_agree_on_worker :
    let j : Job := {
      metadata := { name := some "mnist", namespace_ := some "ml" }
      spec := { replicaSpecs := Dict.ofList [("Worker", { template := {} })] } }
    ∃ pod labels, Replica.pod j "worker" 1 .volcano = .ok pod ∧
      pod.metadata.labels = some labels ∧
      ({ replicaType := some "WORKER", replicaIndex := some 1 } : PodSelector).Selects "mnist"
        labels ∧
      ¬ ({ master := true } : PodSelector).Selects "mnist" labels ∧
      Selector.labels? (selectorText (jobLabels "mnist")) = some (jobLabels "mnist") := by
  intro j
  obtain ⟨hpods, htext⟩ := selectors_agree
  obtain ⟨pod, labels, hpod, hlabels, hselects⟩ :=
    hpods j "ml" "worker" 1 .volcano ("Worker", { template := {} }) rfl rfl
  refine ⟨pod, labels, hpod, hlabels, ?_, ?_, htext _ (by decide) (by decide)⟩
  · have hlower : sameLetters "WORKER" "worker" = true := by decide
    exact (hselects _ _).2 ⟨rfl, by simp [hlower], by simp, nofun⟩
  · intro hmaster
    exact absurd (((hselects _ _).1 hmaster).2.2.2 rfl) (by decide)

end TrainingJobs
