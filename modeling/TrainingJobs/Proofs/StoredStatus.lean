import TrainingJobs.Job.Basic
import TrainingJobs.Proofs.Json.Merge

/-!
# The status that is stored

A status reaches the cluster as a merge patch of its job. What is stored afterwards is the reported
status `mergedInto` the one before: each field that the report has is replaced
(`ofDocument?_merge`), but counts of replica types and fields that it does not have stay. So it is
the reported status itself just if the one before has no more (`mergedInto_eq_self_iff`).
-/

namespace TrainingJobs

open Document Json

namespace Json

@[simp] theorem patched_str (old : Option Json) (s : String) :
    patched old (some (str s)) = some (str s) := rfl

@[simp] theorem patched_ofInt32 (old : Option Json) (n : Int32) :
    patched old (some (ofInt32 n)) = some (ofInt32 n) := rfl

@[simp] theorem text?_str (s : String) : text? (str s) = some s := rfl

@[simp] theorem optional_map_str (x : Option String) :
    Document.optional text? (x.map str) = some x := by
  cases x <;> rfl

@[simp] theorem int32?_ofInt32 (n : Int32) : int32? (ofInt32 n) = some n := Text.int32?_toInt n

theorem int64?_ofInt64 (n : Int64) : int64? (ofInt64 n) = some n := Text.int64?_toInt n

theorem overwrites_str : Overwrites text? str :=
  .of_leaf (fun _ => ⟨rfl, fun _ => Json.noConfusion⟩) fun _ => rfl

theorem overwrites_ofInt32 : Overwrites int32? ofInt32 :=
  .of_leaf (fun _ => ⟨rfl, fun _ => Json.noConfusion⟩) int32?_ofInt32

theorem overwrites_ofInt64 : Overwrites int64? ofInt64 :=
  .of_leaf (fun _ => ⟨rfl, fun _ => Json.noConfusion⟩) int64?_ofInt64

theorem overwrites_ofList {α : Type} {read : Json → Option α} {write : α → Json}
    (h : ∀ x, read (write x) = some x) : Overwrites (list? read) (ofList write) :=
  .of_leaf (fun _ => ⟨rfl, fun _ => Json.noConfusion⟩) (list?_ofList h)

end Json

/-! ## The records of a status -/

theorem GroupVersion.overwrites : Overwrites (ofDocument? (ν := Json)) toJson where
  notNull := fun _ => rfl
  merged := by
    intro t ht e
    obtain ⟨field, hfield, hk⟩ := strictFields?_merge
      (p := member "groupVersion" (str e.groupVersion) ++ member "version" (str e.version))
      (distinct_members_of_read (fun _ => rfl) ht) (by simp [member])
    have hgroup : field "groupVersion" = some (str e.groupVersion) := by
      simp [hk, fieldIn_append, fieldIn_member]
    have hversion : field "version" = some (str e.version) := by
      simp [hk, fieldIn_append, fieldIn_member]
    simp only [ofDocument?, toJson, hfield]
    simp [hgroup, hversion, defaulted]

theorem ReplicaStatus.overwrites : Overwrites (ofDocument? (ν := Json)) toJson where
  notNull := fun _ => rfl
  merged := by
    intro t ht s
    obtain ⟨field, hfield, hk⟩ := strictFields?_merge
      (p := member "active" (ofInt32 s.active) ++ member "succeeded" (ofInt32 s.succeeded)
        ++ member "failed" (ofInt32 s.failed))
      (distinct_members_of_read (fun _ => rfl) ht) (by simp [member])
    have hactive : field "active" = some (ofInt32 s.active) := by
      simp [hk, fieldIn_append, fieldIn_member]
    have hsucceeded : field "succeeded" = some (ofInt32 s.succeeded) := by
      simp [hk, fieldIn_append, fieldIn_member]
    have hfailed : field "failed" = some (ofInt32 s.failed) := by
      simp [hk, fieldIn_append, fieldIn_member]
    simp only [ofDocument?, toJson, hfield]
    simp [hactive, hsucceeded, hfailed, defaulted]

theorem ConditionType.ofDocument?_name (t : ConditionType) :
    ofDocument? (str t.name) = some t := by
  cases t <;> rfl

theorem ConditionStatus.ofDocument?_name (s : ConditionStatus) :
    ofDocument? (str s.name) = some s := by
  cases s <;> rfl

theorem Condition.ofDocument?_toJson (c : Condition) : ofDocument? c.toJson = some c := by
  have hnames : ((member "type" (str c.type.name) ++ member "status" (str c.status.name)
      ++ member "reason" (str c.reason) ++ member "message" (str c.message)
      ++ optionalMember "lastUpdateTime" str c.lastUpdateTime
      ++ optionalMember "lastTransitionTime" str c.lastTransitionTime).map (·.1)).Nodup := by
    cases c.lastUpdateTime <;> cases c.lastTransitionTime <;> simp [member, optionalMember]
  simp only [ofDocument?, toJson, strictFields?_obj hnames]
  simp [fieldIn_append, fieldIn_member, fieldIn_optionalMember, required, defaulted,
    ConditionType.ofDocument?_name, ConditionStatus.ofDocument?_name]

namespace JobStatus

/-- What is stored when a status is merged into another one. -/
def mergedInto (s stored : JobStatus) : JobStatus where
  conditions := if s.conditions.isEmpty then stored.conditions else s.conditions
  replicaStatuses := stored.replicaStatuses.override s.replicaStatuses
  startTime := s.startTime.or stored.startTime
  completionTime := s.completionTime.or stored.completionTime
  restartCount := s.restartCount
  observedGeneration := s.observedGeneration.or stored.observedGeneration
  servedVersion := s.servedVersion.or stored.servedVersion

variable {s stored : JobStatus} {l : List (String × Json)}

def written (s : JobStatus) : List (String × Json) :=
  (if s.conditions.isEmpty then [] else
      member "conditions" (ofList Condition.toJson s.conditions))
    ++ (if s.replicaStatuses.isEmpty then [] else
      member "replicaStatuses" (ofDict ReplicaStatus.toJson s.replicaStatuses))
    ++ optionalMember "startTime" str s.startTime
    ++ optionalMember "completionTime" str s.completionTime
    ++ member "restartCount" (ofInt32 s.restartCount)
    ++ optionalMember "observedGeneration" ofInt64 s.observedGeneration
    ++ optionalMember "servedVersion" GroupVersion.toJson s.servedVersion

theorem nodup_names_written (s : JobStatus) : (s.written.map (·.1)).Nodup :=
  (names_append (names_append (names_append (names_append (names_append (names_append
    (names_unless _ _ _) (names_unless _ _ _)) (names_optionalMember _ _ _))
    (names_optionalMember _ _ _)) (names_member _ _)) (names_optionalMember _ _ _))
    (names_optionalMember _ _ _)).nodup (by decide)

theorem fieldIn_written (s : JobStatus) :
    fieldIn s.written "conditions" = (if s.conditions.isEmpty then none
      else some (ofList Condition.toJson s.conditions)) ∧
    fieldIn s.written "replicaStatuses" = (if s.replicaStatuses.isEmpty then none
      else some (ofDict ReplicaStatus.toJson s.replicaStatuses)) ∧
    fieldIn s.written "startTime" = s.startTime.map str ∧
    fieldIn s.written "completionTime" = s.completionTime.map str ∧
    fieldIn s.written "restartCount" = some (ofInt32 s.restartCount) ∧
    fieldIn s.written "observedGeneration" = s.observedGeneration.map ofInt64 ∧
    fieldIn s.written "servedVersion" = s.servedVersion.map GroupVersion.toJson := by
  refine ⟨?_, ?_, ?_, ?_, ?_, ?_, ?_⟩ <;>
    simp [written, fieldIn_append, fieldIn_member, fieldIn_optionalMember, fieldIn_unless]

/-- What the patch by a status makes of a stored one is read as the report `mergedInto` it. -/
theorem ofDocument?_merge (hstored : ofDocument? (obj l) = some stored) (s : JobStatus) :
    ofDocument? (merge (obj l) s.toJson) = some (s.mergedInto stored) := by
  simp only [ofDocument?, Option.bind_eq_bind, Option.bind_eq_some_iff, Option.some.injEq]
    at hstored
  obtain ⟨field, hfield, conditions, hconditions, counts, hcounts, start, hstart, completion,
    hcompletion, restarts, hrestarts, generation, hgeneration, served, hserved, rfl⟩ := hstored
  obtain ⟨hdistinct, rfl⟩ := strictFields?_obj_eq_some_iff.1 hfield
  obtain ⟨merged, hmerged, hpatched⟩ :=
    strictFields?_merge (t := obj l) hdistinct (nodup_names_written s)
  obtain ⟨hwrittenConditions, hwrittenReplicaStatuses, hwrittenStartTime,
    hwrittenCompletionTime, hwrittenRestartCount, hwrittenObservedGeneration,
    hwrittenServedVersion⟩ := fieldIn_written s
  have hread : defaulted [] (list? Condition.ofDocument?) (merged "conditions") =
      some (if s.conditions.isEmpty then conditions else s.conditions) := by
    rw [hpatched _ (by simp), hwrittenConditions]
    split
    · exact hconditions
    · exact (overwrites_ofList Condition.ofDocument?_toJson).defaulted_patched hconditions _
  have hreadCounts : defaulted Dict.empty (dict? ReplicaStatus.ofDocument?)
      (merged "replicaStatuses") = some (counts.override s.replicaStatuses) := by
    rw [hpatched _ (by simp), hwrittenReplicaStatuses]
    split
    next hempty => rw [Dict.override_of_isEmpty hempty]; exact hcounts
    next => exact ReplicaStatus.overwrites.defaulted_dict?_patched hcounts _
  have hreadStart : Document.optional text? (merged "startTime") = some (s.startTime.or start) := by
    rw [hpatched _ (by simp), hwrittenStartTime]
    exact overwrites_str.optional_patched hstart _
  have hreadCompletion : Document.optional text? (merged "completionTime") =
      some (s.completionTime.or completion) := by
    rw [hpatched _ (by simp), hwrittenCompletionTime]
    exact overwrites_str.optional_patched hcompletion _
  have hreadRestarts : defaulted 0 int32? (merged "restartCount") = some s.restartCount := by
    rw [hpatched _ (by simp), hwrittenRestartCount]
    exact overwrites_ofInt32.defaulted_patched hrestarts _
  have hreadGeneration : Document.optional int64? (merged "observedGeneration") =
      some (s.observedGeneration.or generation) := by
    rw [hpatched _ (by simp), hwrittenObservedGeneration]
    exact overwrites_ofInt64.optional_patched hgeneration _
  have hreadServed : Document.optional GroupVersion.ofDocument? (merged "servedVersion") =
      some (s.servedVersion.or served) := by
    rw [hpatched _ (by simp), hwrittenServedVersion]
    exact GroupVersion.overwrites.optional_patched hserved _
  have hjson : s.toJson = obj s.written := rfl
  rw [hjson]
  simp only [ofDocument?, hmerged]
  simp [hread, hreadCounts, hreadStart, hreadCompletion, hreadRestarts, hreadGeneration,
    hreadServed, mergedInto]

/-- A status has everything that another one has. -/
structure Covers (s stored : JobStatus) : Prop where
  conditions : s.conditions = [] → stored.conditions = []
  counts : ∀ type ∈ stored.replicaStatuses.keys, type ∈ s.replicaStatuses.keys
  startTime : s.startTime = none → stored.startTime = none
  completionTime : s.completionTime = none → stored.completionTime = none
  generation : s.observedGeneration = none → stored.observedGeneration = none
  served : s.servedVersion = none → stored.servedVersion = none

/-- What is stored is the status itself just if that has everything that was stored before. -/
theorem mergedInto_eq_self_iff : s.mergedInto stored = s ↔ s.Covers stored := by
  have hconditions : (if s.conditions.isEmpty then stored.conditions else s.conditions) =
      s.conditions ↔ (s.conditions = [] → stored.conditions = []) := by
    cases s.conditions <;> simp
  have hor : ∀ {α : Type} (x y : Option α), x.or y = x ↔ (x = none → y = none) := by
    intro α x y
    cases x <;> simp
  have hfields : s.mergedInto stored = s ↔
      (if s.conditions.isEmpty then stored.conditions else s.conditions) = s.conditions ∧
      stored.replicaStatuses.override s.replicaStatuses = s.replicaStatuses ∧
      s.startTime.or stored.startTime = s.startTime ∧
      s.completionTime.or stored.completionTime = s.completionTime ∧
      s.observedGeneration.or stored.observedGeneration = s.observedGeneration ∧
      s.servedVersion.or stored.servedVersion = s.servedVersion := by
    cases s
    simp [mergedInto]
  rw [hfields, hconditions, Dict.override_eq_iff, hor, hor, hor, hor]
  constructor
  · rintro ⟨h₁, h₂, h₃, h₄, h₅, h₆⟩
    exact ⟨h₁, h₂, h₃, h₄, h₅, h₆⟩
  · intro h
    exact ⟨h.conditions, h.counts, h.startTime, h.completionTime, h.generation, h.served⟩

/-- What is left of the status of a job after a report, whether it had one before or not. -/
theorem optional_merge {old : Option Json} {before : Option JobStatus}
    (hold : Document.optional ofDocument? old = some before)
    (hrecord : ∀ items, old ≠ some (arr items)) (s : JobStatus) :
    Document.optional ofDocument? (patched old (some s.toJson)) =
      some (some (s.mergedInto (before.getD {}))) := by
  have hnew : before = none →
      ofDocument? (merge null s.toJson) = some (s.mergedInto (before.getD {})) := by
    rintro rfl
    exact ofDocument?_merge (l := []) rfl s
  have hread : ofDocument? (merge (old.getD null) s.toJson) =
      some (s.mergedInto (before.getD {})) := by
    cases old with
    | none => exact hnew (Option.some.inj hold).symm
    | some t =>
      cases t with
      | null => exact hnew (Option.some.inj hold).symm
      | obj l =>
        obtain ⟨stored, hstored, rfl⟩ := Option.map_eq_some_iff.1 hold
        exact ofDocument?_merge hstored s
      | arr items => exact absurd rfl (hrecord items)
      | _ => cases hold
  show Option.map some (ofDocument? (merge (old.getD null) s.toJson)) = _
  rw [hread]
  rfl

end JobStatus

/-- The patch by a status merges it into the one that a stored job carries, and nothing else of the
job changes. -/
theorem Job.ofDocument?_merge {j : Job} {l : List (String × Json)}
    (hjob : ofDocument? (obj l) = some j) (hrecord : ∀ items, fieldIn l "status" ≠ some (arr items))
    (s : JobStatus) :
    ofDocument? (merge (obj l) (obj (member "status" s.toJson))) =
      some { j with status := some (s.mergedInto (j.status.getD {})) } := by
  have hopen : ∀ (items : List (String × Json)),
      ((positions? (obj items)).any fun items => items.length ≠ 3) = false := fun _ => rfl
  simp only [ofDocument?, hopen, Bool.false_eq_true, if_false, Option.bind_eq_bind,
    Option.bind_eq_some_iff, Option.some.injEq] at hjob
  obtain ⟨field, hfield, metadata, hmetadata, spec, hspec, before, hbefore, rfl⟩ := hjob
  obtain ⟨hdistinct, rfl⟩ := strictFields?_obj_eq_some_iff.1 hfield
  obtain ⟨merged, hmerged, hpatched⟩ := strictFields?_merge (t := obj l)
    (p := member "status" s.toJson) hdistinct (by simp [member])
  have hmetadataKept : merged "metadata" = fieldIn l "metadata" := by
    rw [hpatched _ (by simp), fieldIn_member]
    rfl
  have hspecKept : merged "spec" = fieldIn l "spec" := by
    rw [hpatched _ (by simp), fieldIn_member]
    rfl
  have hstatusMerged : Document.optional JobStatus.ofDocument? (merged "status") =
      some (some (s.mergedInto (before.getD {}))) := by
    rw [hpatched _ (by simp), fieldIn_member, if_pos rfl]
    exact JobStatus.optional_merge hbefore hrecord s
  have hrecordForm : (positions? (merge (obj l) (obj (member "status" s.toJson)))).any
      (fun items => items.length ≠ 3) = false := rfl
  simp only [ofDocument?, hrecordForm, hmerged]
  simp [hmetadataKept, hspecKept, hmetadata, hspec, hstatusMerged]

end TrainingJobs
