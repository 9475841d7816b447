import TrainingJobs.Client.Manifest
import TrainingJobs.Gang.PodGroup
import TrainingJobs.Operator.Reconcile
import TrainingJobs.Proofs.StoredStatus

/-!
# What is written is read again

The records of discovery, of a job and of a pod group can be read from the JSON that they are
written as, and nothing of them is lost (`wire_lossless`). Pod templates and the metadata of objects
are the API server's own records: what is read of a job is the job itself just if these are `Kept`.
-/

namespace TrainingJobs

open Document Json

namespace Json

variable {α : Type} {read : Json → Option α} {write : α → Json}

/-! ## Names of fields -/

theorem lastOf_of_nodup {l : List (String × Json)} (h : (l.map (·.1)).Nodup) (k : String) :
    lastOf l k = fieldIn l k :=
  lastOf_eq_fieldIn (distinct_of_nodup h [k]) (List.mem_singleton.2 rfl)

theorem lenientFields?_obj {l : List (String × Json)} (h : (l.map (·.1)).Nodup) :
    lenientFields? (obj l) = some (fieldIn l) :=
  congrArg some (funext (lastOf_of_nodup h))

/-! ## Fields -/

@[simp] theorem required_some (n : Json) : required read (some n) = read n := rfl

@[simp] theorem defaulted_some (missing : α) (n : Json) :
    defaulted missing read (some n) = read n := rfl

@[simp] theorem orEmpty_str (empty s : String) : orEmpty empty text? (some (str s)) = some s := rfl

/-- What the first part of a record reads as, and what the rest reads as after it. -/
theorem bind_eq_some {β : Type} {x : Option α} {a : α} {f : α → Option β} {b : β}
    (hx : x = some a) (hf : f a = some b) : x >>= f = some b :=
  Option.bind_eq_some_iff.2 ⟨a, hx, hf⟩

theorem optional_map (hnull : ∀ x, isNull (write x) = false) (h : ∀ x, read (write x) = some x)
    (x : Option α) : Document.optional read (x.map write) = some x := by
  cases x with
  | none => rfl
  | some x => simp [Document.optional, nullable?, hnull, h]

theorem defaulted_list?_unless (h : ∀ x, read (write x) = some x) (xs : List α) :
    defaulted [] (list? read) (if xs.isEmpty then none else some (ofList write xs)) = some xs := by
  cases xs with
  | nil => rfl
  | cons x xs => exact list?_ofList h (x :: xs)

theorem dict?_ofDict_iff {d : Dict α} :
    dict? read (ofDict write d) = some d ↔ ∀ e ∈ d.entries, read (write e.2) = some e.2 := by
  -- the keys differ, so the member that wins is the only one of its name
  have hlast : ∀ k, lastOf (d.entries.map fun e => (e.1, write e.2)) k = (d.get? k).map write := by
    intro k
    have hnames : ((d.entries.map fun e => (e.1, write e.2)).map (·.1)).Nodup := by
      rw [List.map_map]
      exact d.nodup_keys
    rw [lastOf_of_nodup hnames]
    simp only [fieldIn, Dict.get?, List.find?_map, Option.map_map]
    rfl
  constructor
  · rintro h ⟨k, x⟩ he
    have hx : d.get? k = some x := Dict.mem_entries_iff.1 he
    have hread := get?_of_dict? h k
    rw [hlast, hx] at hread
    exact hread.symm
  · intro h
    obtain ⟨d', hd'⟩ : ∃ d', dict? read (ofDict write d) = some d' := by
      refine exists_dict?_iff.2 fun m hm => ?_
      obtain ⟨e, he, rfl⟩ := List.mem_map.1 hm
      exact ⟨e.2, h e he⟩
    rw [hd', Option.some.injEq]
    refine Dict.ext_get? fun k => ?_
    rw [get?_of_dict? hd', hlast]
    cases hx : d.get? k with
    | none => rfl
    | some x => exact h (k, x) (Dict.mem_entries_iff.2 hx)

theorem defaulted_dict?_unless (h : ∀ x, read (write x) = some x) (d : Dict α) :
    defaulted Dict.empty (dict? read) (if d.isEmpty then none else some (ofDict write d)) =
      some d := by
  split
  next hempty => exact congrArg some (Dict.ext (List.isEmpty_iff.1 hempty).symm)
  next => exact dict?_ofDict_iff.2 fun e _ => h e.2

end Json

/-! ## Discovery -/

namespace GroupVersion

theorem ofDocument?_toJson (e : GroupVersion) : ofDocument? e.toJson = some e := by
  rw [ofDocument?, toJson, strictFields?_obj (by simp [member])]
  simp [fieldIn_append, fieldIn_member]

end GroupVersion

namespace ApiGroup

theorem ofDocument?_toJson (g : ApiGroup) : ofDocument? g.toJson = some g := by
  have hversions : list? (GroupVersion.ofDocument? (ν := Json))
      (ofList GroupVersion.toJson g.versions) = some g.versions :=
    list?_ofList GroupVersion.ofDocument?_toJson _
  have hpreferred : Document.optional (GroupVersion.ofDocument? (ν := Json))
      (g.preferredVersion.map GroupVersion.toJson) = some g.preferredVersion :=
    optional_map (fun _ => rfl) GroupVersion.ofDocument?_toJson _
  rw [ofDocument?, toJson, strictFields?_obj]
  · simp [fieldIn_append, fieldIn_member, fieldIn_optionalMember, hversions, hpreferred]
  · exact (names_append (names_append (names_member _ _) (names_optionalMember _ _ _))
      (names_member _ _)).nodup (by decide)

end ApiGroup

namespace ApiGroupList

theorem ofDocument?_toJson (l : ApiGroupList) : ofDocument? l.toJson = some l := by
  have hgroups : list? (ApiGroup.ofDocument? (ν := Json)) (ofList ApiGroup.toJson l.groups) =
      some l.groups :=
    list?_ofList ApiGroup.ofDocument?_toJson _
  rw [ofDocument?, toJson, strictFields?_obj (by simp [member])]
  simp [fieldIn_append, fieldIn_member, hgroups]

end ApiGroupList

/-! ## What a job is to do -/

theorem RestartPolicy.ofDocument?_name (p : RestartPolicy) : ofDocument? (str p.name) = some p := by
  cases p <;> rfl

theorem CleanPodPolicy.ofDocument?_name (p : CleanPodPolicy) :
    ofDocument? (str p.name) = some p := by
  cases p <;> rfl

@[simp] theorem optional_map_ofInt32 (x : Option Int32) :
    Document.optional int32? (x.map ofInt32) = some x :=
  optional_map (fun _ => rfl) int32?_ofInt32 x

@[simp] theorem optional_map_ofInt64 (x : Option Int64) :
    Document.optional int64? (x.map ofInt64) = some x :=
  optional_map (fun _ => rfl) int64?_ofInt64 x

namespace SchedulingPolicy

theorem ofDocument?_toJson (p : SchedulingPolicy) : ofDocument? p.toJson = some p := by
  rw [ofDocument?, toJson, strictFields?_obj]
  · simp [fieldIn_append, fieldIn_optionalMember]
  · exact (names_append (names_append (names_optionalMember _ _ _)
      (names_optionalMember _ _ _)) (names_optionalMember _ _ _)).nodup (by decide)

end SchedulingPolicy

namespace RunPolicy

theorem ofDocument?_toJson (p : RunPolicy) : ofDocument? p.toJson = some p := by
  have hscheduling : Document.optional (SchedulingPolicy.ofDocument? (ν := Json))
      (p.schedulingPolicy.map SchedulingPolicy.toJson) = some p.schedulingPolicy :=
    optional_map (fun _ => rfl) SchedulingPolicy.ofDocument?_toJson _
  rw [ofDocument?, toJson, strictFields?_obj]
  · simp [fieldIn_append, fieldIn_member, fieldIn_optionalMember, CleanPodPolicy.ofDocument?_name,
      hscheduling]
  · exact (names_append (names_append (names_append (names_append
      (names_member _ _) (names_optionalMember _ _ _)) (names_optionalMember _ _ _))
      (names_optionalMember _ _ _)) (names_optionalMember _ _ _)).nodup (by decide)

end RunPolicy

def PodTemplate.Kept (t : PodTemplate) : Prop := ofDocument? t.toJson = some t

instance : DecidablePred PodTemplate.Kept :=
  fun t => inferInstanceAs (Decidable (PodTemplate.ofDocument? t.toJson = some t))

def ObjectMeta.Kept (m : ObjectMeta) : Prop := ofDocument? m.toJson = some m

instance : DecidablePred ObjectMeta.Kept :=
  fun m => inferInstanceAs (Decidable (ObjectMeta.ofDocument? m.toJson = some m))

namespace ReplicaSpec

theorem ofDocument?_toJson_iff {r : ReplicaSpec} :
    ofDocument? r.toJson = some r ↔ r.template.Kept := by
  obtain ⟨replicas, template, policy⟩ := r
  rw [ofDocument?, toJson, strictFields?_obj (by simp [member])]
  simp [fieldIn_append, fieldIn_member, RestartPolicy.ofDocument?_name, PodTemplate.Kept,
    Option.bind_eq_some_iff]

end ReplicaSpec

namespace JobSpec

/-- Every template of the spec is kept. -/
def TemplatesKept (s : JobSpec) : Prop := ∀ e ∈ s.replicaSpecs.entries, e.2.template.Kept

instance : DecidablePred TemplatesKept :=
  fun s => inferInstanceAs (Decidable (∀ e ∈ s.replicaSpecs.entries, e.2.template.Kept))

theorem ofDocument?_toJson_iff {s : JobSpec} :
    ofDocument? s.toJson = some s ↔ s.TemplatesKept := by
  have hreplicas : dict? (ReplicaSpec.ofDocument? (ν := Json))
      (ofDict ReplicaSpec.toJson s.replicaSpecs) = some s.replicaSpecs ↔ s.TemplatesKept := by
    rw [dict?_ofDict_iff]
    exact forall₂_congr fun e _ => ReplicaSpec.ofDocument?_toJson_iff
  obtain ⟨replicas, policy, port⟩ := s
  rw [← hreplicas, ofDocument?, toJson, strictFields?_obj (by simp [member])]
  simp [fieldIn_append, fieldIn_member, RunPolicy.ofDocument?_toJson, Option.bind_eq_some_iff]

end JobSpec

/-! ## What has become of a job -/

theorem ReplicaStatus.ofDocument?_toJson (s : ReplicaStatus) : ofDocument? s.toJson = some s := by
  rw [ofDocument?, toJson, strictFields?_obj (by simp [member])]
  simp [fieldIn_append, fieldIn_member]

theorem JobStatus.ofDocument?_toJson (s : JobStatus) : ofDocument? s.toJson = some s := by
  obtain ⟨hconditions, hreplicaStatuses, hstartTime, hcompletionTime, hrestartCount,
    hobservedGeneration, hservedVersion⟩ := fieldIn_written s
  have hjson : s.toJson = obj s.written := rfl
  have hreadConditions : defaulted [] (list? (Condition.ofDocument? (ν := Json)))
      (fieldIn s.written "conditions") = some s.conditions := by
    rw [hconditions]
    exact defaulted_list?_unless Condition.ofDocument?_toJson _
  have hreadReplicaStatuses : defaulted Dict.empty (dict? (ReplicaStatus.ofDocument? (ν := Json)))
      (fieldIn s.written "replicaStatuses") = some s.replicaStatuses := by
    rw [hreplicaStatuses]
    exact defaulted_dict?_unless ReplicaStatus.ofDocument?_toJson _
  have hserved : Document.optional (GroupVersion.ofDocument? (ν := Json))
      (s.servedVersion.map GroupVersion.toJson) = some s.servedVersion :=
    optional_map (fun _ => rfl) GroupVersion.ofDocument?_toJson _
  simp only [hjson, ofDocument?, strictFields?_obj (nodup_names_written s)]
  simp [hreadConditions, hreadReplicaStatuses, hstartTime, hcompletionTime, hrestartCount,
    hobservedGeneration, hservedVersion, hserved]

/-! ## Jobs -/

namespace Job

/-- What the API server's own records inside a job say is kept. -/
def Kept (j : Job) : Prop := j.metadata.Kept ∧ j.spec.TemplatesKept

instance : DecidablePred Kept :=
  fun j => inferInstanceAs (Decidable (j.metadata.Kept ∧ j.spec.TemplatesKept))

theorem ofDocument?_toJson_iff {j : Job} : ofDocument? j.toJson = some j ↔ j.Kept := by
  -- it is written as an object, so that its fields are not read by their position
  have hform : (positions? j.toJson).any (fun items => items.length ≠ 3) = false := rfl
  have hstatus : Document.optional (JobStatus.ofDocument? (ν := Json))
      (j.status.map JobStatus.toJson) = some j.status :=
    optional_map (fun _ => rfl) JobStatus.ofDocument?_toJson _
  rw [Kept, ← JobSpec.ofDocument?_toJson_iff, ObjectMeta.Kept]
  obtain ⟨metadata, spec, status⟩ := j
  simp only [ofDocument?, hform]
  rw [toJson, strictFields?_obj]
  · simp [fieldIn_append, fieldIn_member, fieldIn_optionalMember, hstatus,
      Option.bind_eq_some_iff]
  · exact (names_append (names_append (names_append (names_append
      (names_member _ _) (names_member _ _)) (names_member _ _)) (names_member _ _))
      (names_optionalMember _ _ _)).nodup (by decide)

end Job

/-! ## Pod groups -/

theorem OwnerReference.ofDocument?_toJson (r : OwnerReference) :
    ofDocument? r.toJson = some r := by
  have hbool : ∀ x : Option Bool, Document.optional bool? (x.map Json.bool) = some x :=
    optional_map (fun _ => rfl) fun _ => rfl
  rw [ofDocument?, toJson, lenientFields?_obj]
  · simp [fieldIn_append, fieldIn_member, fieldIn_optionalMember, hbool]
  · exact (names_append (names_append (names_append (names_append (names_append
      (names_member _ _) (names_optionalMember _ _ _)) (names_optionalMember _ _ _))
      (names_member _ _)) (names_member _ _)) (names_member _ _)).nodup (by decide)

namespace PodGroup

def writtenMetadata (g : PodGroup) : List (String × Json) :=
  member "name" (str g.name) ++ member "namespace" (str g.namespace_)
    ++ (if g.labels.isEmpty then [] else member "labels" (ofDict str g.labels))
    ++ (if g.ownerReferences.isEmpty then [] else
      member "ownerReferences" (ofList OwnerReference.toJson g.ownerReferences))

def writtenSpec (g : PodGroup) : List (String × Json) :=
  member "minMember" (ofInt32 g.minMember) ++ optionalMember "queue" str g.queue
    ++ optionalMember "priorityClassName" str g.priorityClassName

def written (g : PodGroup) : List (String × Json) :=
  member "apiVersion" (str g.apiVersion) ++ member "kind" (str g.kind)
    ++ member "metadata" (obj g.writtenMetadata) ++ member "spec" (obj g.writtenSpec)

theorem nodup_names_written (g : PodGroup) : (g.written.map (·.1)).Nodup ∧
    (g.writtenMetadata.map (·.1)).Nodup ∧ (g.writtenSpec.map (·.1)).Nodup := by
  refine ⟨by simp [written, member], ?_, ?_⟩
  · exact (names_append (names_append (names_append (names_member _ _) (names_member _ _))
      (names_unless _ _ _)) (names_unless _ _ _)).nodup (by decide)
  · exact (names_append (names_append (names_member _ _) (names_optionalMember _ _ _))
      (names_optionalMember _ _ _)).nodup (by decide)

theorem fieldIn_writtenMetadata (g : PodGroup) :
    fieldIn g.writtenMetadata "name" = some (str g.name) ∧
    fieldIn g.writtenMetadata "namespace" = some (str g.namespace_) ∧
    fieldIn g.writtenMetadata "labels" =
      (if g.labels.isEmpty then none else some (ofDict str g.labels)) ∧
    fieldIn g.writtenMetadata "ownerReferences" = (if g.ownerReferences.isEmpty then none
      else some (ofList OwnerReference.toJson g.ownerReferences)) := by
  refine ⟨rfl, rfl, ?_, ?_⟩ <;>
    simp [writtenMetadata, fieldIn_append, fieldIn_member, fieldIn_unless]

theorem fieldIn_writtenSpec (g : PodGroup) :
    fieldIn g.writtenSpec "minMember" = some (ofInt32 g.minMember) ∧
    fieldIn g.writtenSpec "queue" = g.queue.map str ∧
    fieldIn g.writtenSpec "priorityClassName" = g.priorityClassName.map str := by
  refine ⟨rfl, ?_, ?_⟩ <;>
    simp [writtenSpec, fieldIn_append, fieldIn_member, fieldIn_optionalMember]

theorem ofDocument?_toJson (g : PodGroup) : ofDocument? g.toJson = some g := by
  obtain ⟨hnames, hmetadataNames, hspecNames⟩ := nodup_names_written g
  obtain ⟨hname, hnamespace, hlabels, howners⟩ := fieldIn_writtenMetadata g
  obtain ⟨hmembers, hqueue, hpriority⟩ := fieldIn_writtenSpec g
  have hapiVersion : fieldIn g.written "apiVersion" = some (str g.apiVersion) := rfl
  have hkind : fieldIn g.written "kind" = some (str g.kind) := rfl
  have hreadLabels : defaulted Dict.empty (dict? text?) (fieldIn g.writtenMetadata "labels") =
      some g.labels := by
    rw [hlabels]
    exact defaulted_dict?_unless text?_str _
  have hreadOwners : defaulted [] (list? (OwnerReference.ofDocument? (ν := Json)))
      (fieldIn g.writtenMetadata "ownerReferences") = some g.ownerReferences := by
    rw [howners]
    exact defaulted_list?_unless OwnerReference.ofDocument?_toJson _
  have hmetadata : fieldIn g.written "metadata" = some (obj g.writtenMetadata) := rfl
  have hspec : fieldIn g.written "spec" = some (obj g.writtenSpec) := rfl
  have hjson : g.toJson = obj g.written := rfl
  rw [hjson]
  refine bind_eq_some (strictFields?_obj hnames) ?_
  refine bind_eq_some hmetadata (bind_eq_some (strictFields?_obj hmetadataNames) ?_)
  refine bind_eq_some hspec (bind_eq_some (strictFields?_obj hspecNames) ?_)
  simp [hapiVersion, hkind, hname, hnamespace, hreadLabels, hreadOwners, hmembers, hqueue,
    hpriority]

end PodGroup

/-! ## What the wire carries -/

/-- Nothing is lost on the way. What is written of discovery, of a status and of a pod group is
read as it was, and so is what is written of a job whose templates and metadata are kept. So the
client judges a manifest just as the job that arrives is judged, and a status that was reported and
is read back whole is not reported again. -/
theorem wire_lossless :
    (∀ e : GroupVersion, GroupVersion.ofDocument? e.toJson = some e) ∧
    (∀ g : ApiGroup, ApiGroup.ofDocument? g.toJson = some g) ∧
    (∀ l : ApiGroupList, ApiGroupList.ofDocument? l.toJson = some l) ∧
    (∀ s : JobSpec, JobSpec.ofDocument? s.toJson = some s ↔ s.TemplatesKept) ∧
    (∀ s : JobStatus, JobStatus.ofDocument? s.toJson = some s) ∧
    (∀ j : Job, Job.ofDocument? j.toJson = some j ↔ j.Kept) ∧
    (∀ g : PodGroup, PodGroup.ofDocument? g.toJson = some g) ∧
    (∀ (text : String) (j : Job),
      (Yaml.Node.ofText? text).bind Job.ofDocument? = some j → j.Kept →
      ∃ arrived, Job.ofDocument? j.toJson = some arrived ∧
        Client.readManifest (some text) =
          (arrived.spec.check.mapError ClientError.job).map fun _ => arrived) ∧
    (∀ (ctx : OperatorContext) (j : Job) (ns : String) (status : JobStatus),
      ctx.servedVersion.check = .ok () →
      ∃ stored, JobStatus.ofDocument? (j.reported ctx status).toJson = some stored ∧
        ({ j with status := some stored }).reportSteps ctx ns status = []) := by
  refine ⟨GroupVersion.ofDocument?_toJson, ApiGroup.ofDocument?_toJson,
    ApiGroupList.ofDocument?_toJson, fun _ => JobSpec.ofDocument?_toJson_iff,
    JobStatus.ofDocument?_toJson, fun _ => Job.ofDocument?_toJson_iff,
    PodGroup.ofDocument?_toJson, ?manifest, ?report⟩
  case manifest =>
    intro text j hread hkept
    refine ⟨j, Job.ofDocument?_toJson_iff.2 hkept, ?_⟩
    simp only [Client.readManifest, Client.fileText, bind, Except.bind, hread]
    cases j.spec.check with
    | ok => rfl
    | error e => rfl
  case report =>
    intro ctx j ns status hserved
    refine ⟨j.reported ctx status, JobStatus.ofDocument?_toJson _, ?_⟩
    have hsame : Job.reported ctx { j with status := some (j.reported ctx status) } status =
        j.reported ctx status := rfl
    simp only [Job.reportSteps, hserved, hsame, if_true]

/-- A manifest of a job with one master. -/
def mnistManifest : String :=
  "apiVersion: kubeflow.org/v1\nkind: TrainingJob\nmetadata:\n  name: mnist\nspec:\n"
    ++ "  replicaSpecs:\n    Master:\n      template:\n        spec:\n          containers:\n"
    ++ "          - name: trainer\n            image: trainer:1\n"

/-- The job of this manifest arrives, and its status is reported just once. -/
theorem wire_lossless_of_mnist :
    ∃ j arrived stored, (Yaml.Node.ofText? mnistManifest).bind Job.ofDocument? = some j ∧
      Job.ofDocument? j.toJson = some arrived ∧
      Client.readManifest (some mnistManifest) =
        (arrived.spec.check.mapError ClientError.job).map (fun _ => arrived) ∧
      JobStatus.ofDocument? (j.reported ⟨{}, ⟨"kubeflow.org/v1", "v1"⟩⟩ {}).toJson =
        some stored ∧
      ({ j with status := some stored }).reportSteps ⟨{}, ⟨"kubeflow.org/v1", "v1"⟩⟩ "ml" {} =
        [] := by
  have hany : ((Yaml.Node.ofText? mnistManifest).bind Job.ofDocument?).any
      (fun j => decide j.Kept) = true := by decide +kernel
  obtain ⟨j, hread, hkept⟩ := (Option.any_eq_true _ _).1 hany
  obtain ⟨-, -, -, -, -, -, -, hmanifest, hreport⟩ := wire_lossless
  obtain ⟨arrived, harrived, hverdict⟩ := hmanifest _ j hread (of_decide_eq_true hkept)
  obtain ⟨stored, hstored, hsilent⟩ :=
    hreport ⟨{}, ⟨"kubeflow.org/v1", "v1"⟩⟩ j "ml" {} (by decide)
  exact ⟨j, arrived, stored, hread, harrived, hverdict, hstored, hsilent⟩

end TrainingJobs
