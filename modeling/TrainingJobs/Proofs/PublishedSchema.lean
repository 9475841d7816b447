import TrainingJobs.Api.Answer
import TrainingJobs.Job.Definition
import TrainingJobs.Json.Pointer
import TrainingJobs.Proofs.Json.Schema
import TrainingJobs.Proofs.StoredStatus

/-!
# The published schema and the readers

The definition of training jobs publishes a schema of what a server is to store. All that is written
conforms to it, and all that conforms to it is read again, except that it does not look into pod
templates (`published_schema_agrees`). So no stored job keeps a listing of jobs from being read.
-/

namespace TrainingJobs

open Document Json Schema

/-! ## What is accepted is read -/

theorem GroupVersion.fits : GroupVersion.schema.Fits ofDocument? := by
  intro v hv h
  obtain ⟨ms, rfl, hms, -, hfields⟩ := fields_of_accepts hv h
  simp only [List.forall_mem_cons] at hfields
  obtain ⟨hgroupVersion, hversion, -⟩ := hfields
  obtain ⟨groupVersion, hgroupVersion⟩ :=
    ((fits_text.withDefault _).described _).defaulted hgroupVersion ""
  obtain ⟨version, hversion⟩ := ((fits_text.withDefault _).described _).defaulted hversion ""
  exact ⟨⟨groupVersion, version⟩, by simp [ofDocument?, hms, hgroupVersion, hversion]⟩

theorem ConditionType.fits : (oneOf (all.map (·.name))).Fits ofDocument? := fits_oneOf _ _

theorem ConditionStatus.fits : (oneOf (all.map (·.name))).Fits ofDocument? := fits_oneOf _ _

theorem CleanPodPolicy.fits : (oneOf (every.map (·.name))).Fits ofDocument? := fits_oneOf _ _

theorem RestartPolicy.fits : (oneOf (all.map (·.name))).Fits ofDocument? := fits_oneOf _ _

theorem Condition.fits : Condition.schema.Fits ofDocument? := by
  intro v hv h
  obtain ⟨ms, rfl, hms, hneeded, hfields⟩ := fields_of_accepts hv h
  simp only [List.forall_mem_cons] at hfields hneeded
  obtain ⟨htype, hstatus, hreason, hmessage, hupdate, htransition, -⟩ := hfields
  obtain ⟨hasStatus, hasType, -⟩ := hneeded
  obtain ⟨type, htype⟩ := ConditionType.fits.required htype hasType
  obtain ⟨status, hstatus⟩ := ConditionStatus.fits.required hstatus hasStatus
  obtain ⟨reason, hreason⟩ := (fits_text.withDefault _).defaulted hreason ""
  obtain ⟨message, hmessage⟩ := (fits_text.withDefault _).defaulted hmessage ""
  obtain ⟨update, hupdate⟩ := fits_text.nullable.optional hupdate
  obtain ⟨transition, htransition⟩ := fits_text.nullable.optional htransition
  exact ⟨⟨type, status, reason, message, update, transition⟩, by
    simp [ofDocument?, hms, htype, hstatus, hreason, hmessage, hupdate, htransition]⟩

theorem ReplicaStatus.fits : ReplicaStatus.schema.Fits ofDocument? := by
  intro v hv h
  obtain ⟨ms, rfl, hms, -, hfields⟩ := fields_of_accepts hv h
  simp only [List.forall_mem_cons] at hfields
  obtain ⟨hactive, hsucceeded, hfailed, -⟩ := hfields
  obtain ⟨active, hactive⟩ := (fits_int32.withDefault _).defaulted hactive 0
  obtain ⟨succeeded, hsucceeded⟩ := (fits_int32.withDefault _).defaulted hsucceeded 0
  obtain ⟨failed, hfailed⟩ := (fits_int32.withDefault _).defaulted hfailed 0
  exact ⟨⟨active, succeeded, failed⟩, by
    simp [ofDocument?, hms, hactive, hsucceeded, hfailed]⟩

theorem JobStatus.fits : JobStatus.schema.Fits ofDocument? := by
  intro v hv h
  obtain ⟨ms, rfl, hms, -, hfields⟩ := fields_of_accepts hv h
  simp only [List.forall_mem_cons] at hfields
  obtain ⟨hconditions, hcounts, hstart, hcompletion, hrestarts, hgeneration, hserved, -⟩ := hfields
  obtain ⟨conditions, hconditions⟩ := Condition.fits.list.defaulted hconditions []
  obtain ⟨counts, hcounts⟩ := ReplicaStatus.fits.dictionary.defaulted hcounts Dict.empty
  obtain ⟨start, hstart⟩ := fits_text.nullable.optional hstart
  obtain ⟨completion, hcompletion⟩ := fits_text.nullable.optional hcompletion
  obtain ⟨restarts, hrestarts⟩ :=
    ((fits_int32.withDefault _).described _).defaulted hrestarts 0
  obtain ⟨generation, hgeneration⟩ := fits_int64.nullable.optional hgeneration
  obtain ⟨served, hserved⟩ := (GroupVersion.fits.nullable.described _).optional hserved
  exact ⟨⟨conditions, counts, start, completion, restarts, generation, served⟩, by
    simp [ofDocument?, hms, hconditions, hcounts, hstart, hcompletion, hrestarts, hgeneration,
      hserved]⟩

theorem SchedulingPolicy.fits : SchedulingPolicy.schema.Fits ofDocument? := by
  intro v hv h
  obtain ⟨ms, rfl, hms, -, hfields⟩ := fields_of_accepts hv h
  simp only [List.forall_mem_cons] at hfields
  obtain ⟨havailable, hqueue, hpriority, -⟩ := hfields
  obtain ⟨available, havailable⟩ := fits_int32.nullable.optional havailable
  obtain ⟨queue, hqueue⟩ := fits_text.nullable.optional hqueue
  obtain ⟨priority, hpriority⟩ := fits_text.nullable.optional hpriority
  exact ⟨⟨available, queue, priority⟩, by
    simp [ofDocument?, hms, havailable, hqueue, hpriority]⟩

theorem RunPolicy.fits : RunPolicy.schema.Fits ofDocument? := by
  intro v hv h
  obtain ⟨ms, rfl, hms, -, hfields⟩ := fields_of_accepts hv h
  simp only [List.forall_mem_cons] at hfields
  obtain ⟨hclean, httl, hdeadline, hbackoff, hscheduling, -⟩ := hfields
  obtain ⟨clean, hclean⟩ :=
    ((CleanPodPolicy.fits.withDefault _).described _).defaulted hclean CleanPodPolicy.none
  obtain ⟨ttl, httl⟩ := fits_int32.nullable.optional httl
  obtain ⟨deadline, hdeadline⟩ := fits_int64.nullable.optional hdeadline
  obtain ⟨backoff, hbackoff⟩ := fits_int32.nullable.optional hbackoff
  obtain ⟨scheduling, hscheduling⟩ := SchedulingPolicy.fits.nullable.optional hscheduling
  exact ⟨⟨clean, ttl, deadline, backoff, scheduling⟩, by
    simp [ofDocument?, hms, hclean, httl, hdeadline, hbackoff, hscheduling]⟩

/-- The value is a template that can be read. -/
def PodTemplate.Readable (v : Json) : Prop := ∃ t : PodTemplate, ofDocument? v = some t

theorem ReplicaSpec.exists_ofDocument? {v : Json} (hv : v.unrepeated = true)
    (h : schema.accepts v = true) (htemplate : ∀ t ∈ v.get? "template", PodTemplate.Readable t) :
    ∃ r, ReplicaSpec.ofDocument? v = some r := by
  obtain ⟨ms, rfl, hms, -, hfields⟩ := fields_of_accepts hv h
  simp only [List.forall_mem_cons] at hfields
  obtain ⟨hreplicas, -, hpolicy, -⟩ := hfields
  obtain ⟨replicas, hreplicas⟩ := (fits_int32.withDefault _).defaulted hreplicas 1
  obtain ⟨policy, hpolicy⟩ :=
    (RestartPolicy.fits.withDefault _).defaulted hpolicy RestartPolicy.never
  -- of the template the schema says only that it is an object
  obtain ⟨template, htemplate⟩ : ∃ t, defaulted {} PodTemplate.ofDocument?
      (fieldIn ms "template") = some t := by
    cases hfield : fieldIn ms "template" with
    | none => exact ⟨{}, rfl⟩
    | some t => exact htemplate t hfield
  exact ⟨⟨replicas, template, policy⟩, by
    simp [ofDocument?, hms, hreplicas, htemplate, hpolicy]⟩

namespace JobSpec

/-- The templates in the JSON value of a spec. -/
def templates (v : Json) : List Json :=
  ((v.get? "replicaSpecs").getD null).members.filterMap fun m => m.2.get? "template"

theorem exists_ofDocument? {v : Json} (hv : v.unrepeated = true) (h : schema.accepts v = true)
    (htemplates : ∀ t ∈ templates v, PodTemplate.Readable t) :
    ∃ s, JobSpec.ofDocument? v = some s := by
  obtain ⟨ms, rfl, hms, hneeded, hfields⟩ := fields_of_accepts hv h
  simp only [List.forall_mem_cons] at hfields hneeded
  obtain ⟨hreplicas, hpolicy, hport, -⟩ := hfields
  obtain ⟨policy, hpolicy⟩ := (RunPolicy.fits.withDefault _).defaulted hpolicy {}
  obtain ⟨port, hport⟩ := ((fits_int32.withDefault _).described _).defaulted hport defaultPort
  obtain ⟨replicas, hreplicas⟩ : ∃ d, required (dict? (ReplicaSpec.ofDocument? (ν := Json)))
      (fieldIn ms "replicaSpecs") = some d := by
    obtain ⟨w, hw⟩ := Option.isSome_iff_exists.1 hneeded.1
    obtain ⟨hunrepeated, haccepts⟩ := hreplicas w hw
    rw [accepts_described] at haccepts
    rw [hw]
    cases w with
    | obj specs =>
      have hspecs : (obj ms).get? "replicaSpecs" = some (obj specs) := hw
      refine exists_dict?_iff.2 fun m hm => ReplicaSpec.exists_ofDocument?
        ((unrepeated_obj_iff.1 hunrepeated).2 m hm) (accepts_dictionary_iff.1 haccepts m hm)
        fun t ht => htemplates t ?_
      rw [templates, hspecs]
      exact List.mem_filterMap.2 ⟨m, hm, ht⟩
    | _ => simp [accepts] at haccepts
  exact ⟨⟨replicas, policy, port⟩, by simp [ofDocument?, hms, hreplicas, hpolicy, hport]⟩

end JobSpec

/-! ## What is written is accepted -/

section Written

variable {α : Type} {name : String} {v : Json} {write : α → Json}
  {p : String × Json → Bool}

@[simp] theorem all_member : (member name v).all p = p (name, v) := by
  simp [member]

@[simp] theorem all_optionalMember {x : Option α} :
    (optionalMember name write x).all p = x.all fun y => p (name, write y) := by
  cases x <;> simp [optionalMember]

@[simp] theorem all_unless {c : Prop} [Decidable c] :
    (if c then [] else member name v).all p = (decide c || p (name, v)) := by
  split <;> simp [*]

@[simp] theorem any_member : (member name v).any p = p (name, v) := by
  simp [member]

@[simp] theorem accepts_text (t : String) : text.accepts (str t) = true := by rw [accepts]

@[simp] theorem accepts_int32 (n : Int32) : int32.accepts (ofInt32 n) = true := by
  rw [int32, ofInt32, accepts]
  exact congrArg Option.isSome (Text.int32?_toInt n)

@[simp] theorem accepts_int64 (n : Int64) : int64.accepts (ofInt64 n) = true := by
  rw [int64, ofInt64, accepts]
  exact congrArg Option.isSome (Text.int64?_toInt n)

theorem accepts_ofList {s : Schema} (h : ∀ x, s.accepts (write x) = true) (xs : List α) :
    (list s).accepts (ofList write xs) = true := by
  rw [ofList, accepts_list_iff, List.forall_mem_map]
  exact fun x _ => h x

theorem accepts_ofDict {s : Schema} (h : ∀ x, s.accepts (write x) = true) (d : Dict α) :
    (dictionary s).accepts (ofDict write d) = true := by
  rw [ofDict, accepts_dictionary_iff, List.forall_mem_map]
  exact fun e _ => h e.2

end Written

theorem ConditionType.accepts_name (t : ConditionType) :
    (oneOf (all.map (·.name))).accepts (str t.name) = true := by
  cases t <;> simp [accepts, all]

theorem ConditionStatus.accepts_name (t : ConditionStatus) :
    (oneOf (all.map (·.name))).accepts (str t.name) = true := by
  cases t <;> simp [accepts, all]

theorem CleanPodPolicy.accepts_name (t : CleanPodPolicy) :
    (oneOf (every.map (·.name))).accepts (str t.name) = true := by
  cases t <;> simp [accepts, every]

theorem RestartPolicy.accepts_name (t : RestartPolicy) :
    (oneOf (all.map (·.name))).accepts (str t.name) = true := by
  cases t <;> simp [accepts, all]

theorem GroupVersion.accepts_toJson (e : GroupVersion) : schema.accepts e.toJson = true := by
  simp [schema, toJson, accepts_record, acceptsFields]

theorem Condition.accepts_toJson (c : Condition) : schema.accepts c.toJson = true := by
  simp [schema, toJson, accepts_record, acceptsFields, ConditionType.accepts_name,
    ConditionStatus.accepts_name]

theorem ReplicaStatus.accepts_toJson (s : ReplicaStatus) : schema.accepts s.toJson = true := by
  simp [schema, toJson, accepts_record, acceptsFields]

theorem JobStatus.accepts_toJson (s : JobStatus) : schema.accepts s.toJson = true := by
  simp [schema, toJson, accepts_record, acceptsFields, accepts_ofList Condition.accepts_toJson,
    accepts_ofDict ReplicaStatus.accepts_toJson, GroupVersion.accepts_toJson]

theorem SchedulingPolicy.accepts_toJson (s : SchedulingPolicy) :
    schema.accepts s.toJson = true := by
  simp [schema, toJson, accepts_record, acceptsFields]

theorem RunPolicy.accepts_toJson (p : RunPolicy) : schema.accepts p.toJson = true := by
  simp [schema, toJson, accepts_record, acceptsFields, CleanPodPolicy.accepts_name,
    SchedulingPolicy.accepts_toJson]

theorem ReplicaSpec.accepts_toJson (r : ReplicaSpec) : schema.accepts r.toJson = true := by
  have htemplate : anyObject.accepts r.template.toJson = true := by
    rw [PodTemplate.toJson, accepts]
  simp [schema, toJson, accepts_record, acceptsFields, RestartPolicy.accepts_name, htemplate]

theorem JobSpec.accepts_toJson (s : JobSpec) : schema.accepts s.toJson = true := by
  simp [schema, toJson, accepts_record, acceptsFields, accepts_ofDict ReplicaSpec.accepts_toJson,
    RunPolicy.accepts_toJson]

theorem Job.accepts_toJson (j : Job) : schema.accepts j.toJson = true := by
  simp [schema, toJson, accepts_record, acceptsFields, JobSpec.accepts_toJson,
    JobStatus.accepts_toJson]

/-! ## Stored jobs -/

namespace Job

/-- A job as a server stores it that goes by the schema. The metadata is the server's own, and the
schema does not look into templates. -/
structure Stored (schema v : Json) : Prop where
  unrepeated : v.unrepeated = true
  conforms : schema.conforms v = true
  metadata : ∃ m : ObjectMeta, required ObjectMeta.ofDocument? (v.get? "metadata") = some m
  templates : ∀ t ∈ JobSpec.templates ((v.get? "spec").getD null), PodTemplate.Readable t

/-- The schema of jobs as it stands in their definition. -/
def publishedSchema : Json := obj (member "title" (str kindName) ++ schema.members)

theorem conforms_publishedSchema (v : Json) : publishedSchema.conforms v = schema.accepts v := by
  rw [← conforms_toJson, publishedSchema, Schema.toJson, Json.conforms, Json.conforms,
    List.any_append, meets_append]
  simp [member, allowsNull, meets, meetsLeaf]

theorem exists_ofDocument? {v : Json} (h : Stored publishedSchema v) :
    ∃ j, Job.ofDocument? v = some j := by
  have haccepts : (record [("spec", JobSpec.schema), ("status", JobStatus.schema.nullable)]
      ["spec"]).accepts v = true := by
    rw [← accepts_described]
    exact (conforms_publishedSchema v).symm.trans h.conforms
  obtain ⟨ms, rfl, hms, hneeded, hfields⟩ := fields_of_accepts h.unrepeated haccepts
  simp only [List.forall_mem_cons] at hneeded hfields
  obtain ⟨hspec, hstatus, -⟩ := hfields
  obtain ⟨m, hm⟩ := h.metadata
  obtain ⟨status, hstatus⟩ := JobStatus.fits.nullable.optional hstatus
  obtain ⟨w, hw⟩ := Option.isSome_iff_exists.1 hneeded.1
  have hget : (obj ms).get? "spec" = some w := hw
  have htemplates := h.templates
  rw [hget] at htemplates
  obtain ⟨spec, hspec⟩ := JobSpec.exists_ofDocument? (hspec w hw).1 (hspec w hw).2 htemplates
  have hspec : required JobSpec.ofDocument? (fieldIn ms "spec") = some spec := by
    rw [hw]
    exact hspec
  have hm : required ObjectMeta.ofDocument? (fieldIn ms "metadata") = some m := hm
  have hopen : (positions? (obj ms)).any (fun items => items.length ≠ 3) = false := rfl
  refine ⟨⟨m, spec, status⟩, ?_⟩
  simp only [Job.ofDocument?, hopen]
  simp [hms, hm, hspec, hstatus]

end Job

/-- A listing of stored jobs is read, and no job is missing from it. -/
theorem exists_listing {l : List (String × Json)} {jobs : List Json}
    (hnames : distinct ["metadata", "items"] l = true)
    (hitems : fieldIn l "items" = some (arr jobs))
    (hmetadata : ∃ m, defaulted {} ListMeta.ofJson? (fieldIn l "metadata") = some m)
    (hjobs : ∀ v ∈ jobs, Job.Stored Job.publishedSchema v) :
    ∃ listing, Listing.ofJson? Job.ofDocument? (obj l) = some listing ∧
      listing.items.map some = jobs.map Job.ofDocument? := by
  obtain ⟨m, hm⟩ := hmetadata
  obtain ⟨items, hread⟩ := exists_mapM_iff.2 fun v hv => Job.exists_ofDocument? (hjobs v hv)
  have hall : required (nullable? (list? (Job.ofDocument? (ν := Json)))) (fieldIn l "items") =
      some (some items) := by
    rw [hitems]
    exact congrArg (Option.map some) hread
  have hopen : mappingFields? ["metadata", "items"] (obj l) = some (fieldIn l) := if_pos hnames
  refine ⟨⟨m, items⟩, ?_, (mapM_eq_some_iff.1 hread).symm⟩
  simp [Listing.ofJson?, hopen, hm, hall]

/-- The schema in the definition and the readers agree on what a job may look like. Every spec and
every status conforms to it as it is written; what conforms is read, as far as its templates can be;
and so is a listing of jobs that were stored by it. -/
theorem published_schema_agrees :
    (jobDefinition.atPointer? "/spec/versions/0/schema/openAPIV3Schema" =
        some Job.publishedSchema ∧
      Job.publishedSchema.atPointer? "/properties/spec" = some JobSpec.schema.toJson ∧
      Job.publishedSchema.atPointer? "/properties/status" =
        some JobStatus.schema.nullable.toJson) ∧
    (∀ s : JobSpec, JobSpec.schema.toJson.conforms s.toJson = true) ∧
    (∀ s : JobStatus, JobStatus.schema.nullable.toJson.conforms s.toJson = true) ∧
    (∀ v : Json, v.unrepeated = true → JobSpec.schema.toJson.conforms v = true →
      (∀ t ∈ JobSpec.templates v, PodTemplate.Readable t) →
      ∃ s, JobSpec.ofDocument? v = some s) ∧
    (∀ v : Json, v.unrepeated = true → JobStatus.schema.nullable.toJson.conforms v = true →
      ∃ s, nullable? JobStatus.ofDocument? v = some s) ∧
    (∀ (l : List (String × Json)) (jobs : List Json),
      distinct ["metadata", "items"] l = true → fieldIn l "items" = some (arr jobs) →
      (∃ m, defaulted {} ListMeta.ofJson? (fieldIn l "metadata") = some m) →
      (∀ v ∈ jobs, Job.Stored Job.publishedSchema v) →
      ∃ listing, Listing.ofJson? Job.ofDocument? (obj l) = some listing ∧
        listing.items.map some = jobs.map Job.ofDocument?) := by
  refine ⟨⟨rfl, rfl, rfl⟩, fun s => ?_, fun s => ?_, fun v hv h htemplates => ?_,
    fun v hv h => ?_,
    fun l jobs hnames hitems hmetadata hjobs => exists_listing hnames hitems hmetadata hjobs⟩
  · rw [conforms_toJson, JobSpec.accepts_toJson]
  · rw [conforms_toJson, accepts_nullable, JobStatus.accepts_toJson, Bool.or_true]
  · rw [conforms_toJson] at h
    exact JobSpec.exists_ofDocument? hv h htemplates
  · rw [conforms_toJson] at h
    exact JobStatus.fits.nullable v hv h

/-- The JSON value of a spec that says no more than it has to, and of a null policy. -/
def sparseSpec : Json :=
  obj (member "replicaSpecs" (obj (member "Master" (obj (member "template" (obj [])))))
    ++ member "runPolicy" (obj (member "schedulingPolicy" null)))

/-- A stored job of this spec, without a status. -/
def sparseJob : Json :=
  obj (member "metadata" (obj (member "name" (str "mnist"))) ++ member "spec" sparseSpec
    ++ member "status" null)

/-- A spec, a status and a listing that say as little as they may are read. -/
theorem published_schema_agrees_on_sparse :
    (∃ s, JobSpec.ofDocument? sparseSpec = some s) ∧
    (∃ s, nullable? JobStatus.ofDocument? (obj []) = some s) ∧
    ∃ listing, Listing.ofJson? Job.ofDocument? (obj (member "items" (arr [sparseJob]))) =
      some listing ∧ listing.items.map some = [Job.ofDocument? sparseJob] := by
  obtain ⟨-, -, -, hspec, hstatus, hlisting⟩ := published_schema_agrees
  have htemplates : ∀ t ∈ JobSpec.templates sparseSpec, PodTemplate.Readable t := by
    intro t ht
    obtain rfl : t = obj [] := List.mem_singleton.1 ht
    exact ⟨{}, rfl⟩
  refine ⟨hspec sparseSpec rfl rfl htemplates, hstatus (obj []) rfl rfl,
    hlisting _ [sparseJob] rfl rfl ⟨{}, rfl⟩ fun v hv => ?_⟩
  obtain rfl := List.mem_singleton.1 hv
  exact ⟨rfl, rfl, ⟨{ name := some "mnist" }, rfl⟩, htemplates⟩

end TrainingJobs
