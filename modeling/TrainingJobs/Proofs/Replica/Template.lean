import Mathlib.Data.List.Forall2
import TrainingJobs.Proofs.Replica.Identity
import TrainingJobs.Proofs.Replica.Selection

/-!
# What a pod has of its template

A pod is its template, but for what the operator owns. This is told layer by layer, each as a
record that says which fields differ and how, and that all others are the template's: a container
(`Container.Informed`), the spec (`PodSpec.Follows`) and the metadata (`ObjectMeta.Follows`). Each
of these describes just one value (`informed_iff`, and so on), so that together they say all that
there is to say of the pod (`Replica.pod_follows_template`).
-/

namespace TrainingJobs

open Text

/-! ## Variables -/

def Container.envNamed (c : Container) (name : String) : List EnvVar :=
  (c.env.getD []).filter fun v => v.name = name

namespace Replica

variable {present added : List EnvVar} {type : String} {i : Int32}

/-- Of variables with different names those come in whose names were free. -/
theorem withVariables_eq (hnames : (added.map (·.name)).Nodup) :
    withVariables present added =
      present ++ added.filter fun v => v.name ∉ present.map (·.name) := by
  unfold withVariables
  induction added generalizing present with
  | nil => simp
  | cons v rest ih =>
    rw [List.map_cons, List.nodup_cons] at hnames
    have htaken : (present.any fun w => w.name == v.name) = true ↔
        v.name ∈ present.map (·.name) := by
      simp
    rw [List.foldl_cons]
    by_cases hv : v.name ∈ present.map (·.name)
    · rw [if_pos (htaken.2 hv), ih hnames.2, List.filter_cons_of_neg (by simpa using hv)]
    · -- the name that is taken now is none of those to come
      have hrest : (rest.filter fun w => w.name ∉ (present ++ [v]).map (·.name)) =
          rest.filter fun w => w.name ∉ present.map (·.name) := by
        refine List.filter_congr fun w hw => ?_
        have hne : w.name ≠ v.name := fun he => hnames.1 (he ▸ List.mem_map_of_mem hw)
        simp [hne]
      rw [if_neg (mt htaken.1 hv), ih hnames.2, hrest, List.filter_cons_of_pos (by simpa using hv),
        List.append_assoc, List.singleton_append]

/-- What the containers of a replica are told, in this order. An address is among it only if the job
has any replicas to meet at, and a replica that has no rank is told its index instead. -/
def told (j : Job) (type : String) (i : Int32) : List EnvVar :=
  [{ name := "TRAINING_JOB_NAME", value := some j.name },
   { name := "REPLICA_TYPE", value := some (lower type) },
   { name := "REPLICA_INDEX", value := some (showInt32 i) },
   { name := "WORLD_SIZE", value := some (showInt32 j.spec.totalReplicas) },
   { name := "RANK", value := some (showInt32 ((j.spec.rank? type i).getD i)) },
   { name := "MASTER_PORT", value := some (showInt32 j.spec.port) }]
    ++ match j.spec.masterAddress? j.name with
      | some address => [{ name := "MASTER_ADDR", value := some address }]
      | none => []

theorem environment_eq (j : Job) (type : String) (i : Int32) :
    environment j.name j.spec type i = told j type i := by
  unfold environment told
  cases j.spec.masterAddress? j.name <;> rfl

theorem names_told (j : Job) (type : String) (i : Int32) :
    (told j type i).map (·.name) =
      ["TRAINING_JOB_NAME", "REPLICA_TYPE", "REPLICA_INDEX", "WORLD_SIZE", "RANK", "MASTER_PORT"]
        ++ if (j.spec.masterAddress? j.name).isSome then ["MASTER_ADDR"] else [] := by
  unfold told
  cases j.spec.masterAddress? j.name <;> rfl

theorem nodup_names_told {j : Job} : ((told j type i).map (·.name)).Nodup := by
  rw [names_told]
  cases (j.spec.masterAddress? j.name).isSome <;> decide

end Replica

/-! ## Containers -/

/-- The second container is the first, but that it has more variables: those that are given whose
names it does not use, behind its own. -/
structure Container.Informed (vars : List EnvVar) (c c' : Container) : Prop where
  env : c'.env = some (c.env.getD [] ++ vars.filter fun v => v.name ∉ (c.env.getD []).map (·.name))
  rest : { c' with env := c.env } = c

theorem Container.informed_iff {vars : List EnvVar} {c c' : Container}
    (hnames : (vars.map (·.name)).Nodup) :
    c.Informed vars c' ↔ c' = Replica.inform vars c := by
  unfold Replica.inform
  rw [Replica.withVariables_eq hnames]
  constructor
  · rintro ⟨henv, hrest⟩
    rw [← henv, ← hrest]
  · rintro rfl
    exact ⟨rfl, rfl⟩

/-- A variable that the container does not set itself is what it is given. -/
theorem Container.Informed.envNamed_eq {vars : List EnvVar} {c c' : Container} {name : String}
    (h : c.Informed vars c') (hfree : c.envNamed name = []) :
    c'.envNamed name = vars.filter fun v => v.name = name := by
  have hnot : name ∉ (c.env.getD []).map (·.name) := by
    rintro hmem
    obtain ⟨v, hv, rfl⟩ := List.mem_map.1 hmem
    exact List.filter_eq_nil_iff.1 hfree v hv (decide_eq_true rfl)
  unfold envNamed at hfree ⊢
  rw [h.env, Option.getD_some, List.filter_append, hfree, List.nil_append, List.filter_filter]
  refine List.filter_congr fun v _ => ?_
  by_cases hname : v.name = name <;> simp [hname, hnot]

/-! ## The spec of the pod -/

/-- A pod's spec is that of the template, but for the variables of its containers, its restart
policy and, if there is a gang scheduler, its scheduler. -/
structure PodSpec.Follows (p t : PodSpec) (policy : RestartPolicy) (scheduler : GangScheduler)
    (vars : List EnvVar) : Prop where
  containers : List.Forall₂ (Container.Informed vars) t.containers p.containers
  restartPolicy : p.restartPolicy = some (match policy with
    | .always => "Always"
    | .onFailure => "OnFailure"
    | .never | .exitCode => "Never")
  schedulerName : p.schedulerName = match scheduler with
    | .none => t.schedulerName
    | .volcano => some "volcano"
    | .schedulerPlugins => some "scheduler-plugins-scheduler"
  rest : { p with
    containers := t.containers
    restartPolicy := t.restartPolicy
    schedulerName := t.schedulerName } = t

theorem PodSpec.Follows.schedulerName_eq {p t : PodSpec} {policy : RestartPolicy}
    {scheduler : GangScheduler} {vars : List EnvVar} (h : p.Follows t policy scheduler vars) :
    p.schedulerName = scheduler.schedulerName?.or t.schedulerName := by
  cases scheduler <;> exact h.schedulerName

theorem PodSpec.follows_iff {p t : PodSpec} {policy : RestartPolicy} {scheduler : GangScheduler}
    {vars : List EnvVar} (hnames : (vars.map (·.name)).Nodup) :
    p.Follows t policy scheduler vars ↔ p = Replica.podSpec t policy scheduler vars := by
  have hinformed : Container.Informed vars = fun c c' => c' = Replica.inform vars c := by
    funext c c'
    exact propext (Container.informed_iff hnames)
  have hcontainers : List.Forall₂ (Container.Informed vars) t.containers p.containers ↔
      p.containers = t.containers.map (Replica.inform vars) := by
    rw [hinformed, eq_comm, ← List.forall₂_eq_eq_eq, List.forall₂_map_left_iff]
    exact ⟨List.Forall₂.imp fun _ _ h => h.symm, List.Forall₂.imp fun _ _ h => h.symm⟩
  constructor
  · intro h
    have hpolicy : p.restartPolicy = some policy.podPolicy := by
      cases policy <;> exact h.restartPolicy
    unfold Replica.podSpec
    rw [← hcontainers.1 h.containers, ← hpolicy, ← h.schedulerName_eq, ← h.rest]
  · rintro rfl
    exact ⟨hcontainers.2 rfl, by cases policy <;> rfl, by cases scheduler <;> rfl, rfl⟩

/-! ## The metadata of the pod -/

/-- A pod's metadata is that of the template, but for its name, its namespace and its owner, and
for the labels of the replica and the mark of the scheduler, which win over the template's. -/
structure ObjectMeta.Follows (m t : ObjectMeta) (j : Job) (ns type : String) (i : Int32)
    (scheduler : GangScheduler) : Prop where
  name : m.name = some (replicaName j.name type i)
  generateName : m.generateName = none
  inNamespace : m.namespace_ = some ns
  owner : m.ownerReferences = some j.ownerReference?.toList
  labels : ∃ labels, m.labels = some labels ∧ ∀ key, labels.get? key =
    if scheduler = .schedulerPlugins ∧ key = schedulerPluginsGroupLabel then some j.name
    else ((replicaLabels j.name type i).get? key).or ((t.labels.getD Dict.empty).get? key)
  annotations : scheduler ≠ .volcano → m.annotations = t.annotations
  groupAnnotation : scheduler = .volcano → ∃ annotations, m.annotations = some annotations ∧
    ∀ key, annotations.get? key =
      if key = volcanoGroupAnnotation then some j.name
      else (t.annotations.getD Dict.empty).get? key
  rest : { m with
    name := t.name
    generateName := t.generateName
    namespace_ := t.namespace_
    ownerReferences := t.ownerReferences
    labels := t.labels
    annotations := t.annotations } = t

namespace ObjectMeta

variable {m m' t : ObjectMeta} {j : Job} {ns type : String} {i : Int32} {scheduler : GangScheduler}

theorem follows_markPod : (scheduler.markPod
    (Replica.podMetadata t (ownMetadata j ns type i)) j.name).Follows t j ns type i scheduler where
  name := (markPod_podMetadata ..).1
  generateName := by cases scheduler <;> rfl
  inNamespace := (markPod_podMetadata ..).2.1
  owner := (markPod_podMetadata ..).2.2
  labels := get?_labels_marked scheduler t (ownMetadata j ns type i) j.name
  annotations h := by
    cases scheduler with
    | volcano => exact absurd rfl h
    | none => rfl
    | schedulerPlugins => rfl
  groupAnnotation h := by
    subst h
    exact ⟨_, rfl, fun key => Dict.get?_insert _ _ _ _⟩
  rest := by cases scheduler <;> rfl

/-- What is said of the metadata is all that there is to say. -/
theorem Follows.unique (h : m.Follows t j ns type i scheduler)
    (h' : m'.Follows t j ns type i scheduler) : m = m' := by
  have hlabels : m.labels = m'.labels := by
    obtain ⟨labels, hsome, hget⟩ := h.labels
    obtain ⟨labels', hsome', hget'⟩ := h'.labels
    rw [hsome, hsome', Dict.ext_get? fun key => (hget key).trans (hget' key).symm]
  have hannotations : m.annotations = m'.annotations := by
    by_cases hmarked : scheduler = .volcano
    · obtain ⟨annotations, hsome, hget⟩ := h.groupAnnotation hmarked
      obtain ⟨annotations', hsome', hget'⟩ := h'.groupAnnotation hmarked
      rw [hsome, hsome', Dict.ext_get? fun key => (hget key).trans (hget' key).symm]
    · rw [h.annotations hmarked, h'.annotations hmarked]
  have hself : ∀ m : ObjectMeta, m.Follows t j ns type i scheduler → m = { t with
      name := some (replicaName j.name type i)
      generateName := none
      namespace_ := some ns
      ownerReferences := some j.ownerReference?.toList
      labels := m.labels
      annotations := m.annotations } := by
    intro m h
    rw [← h.name, ← h.generateName, ← h.inNamespace, ← h.owner, ← h.rest]
  rw [hself m h, hself m' h', hlabels, hannotations]

theorem follows_iff : m.Follows t j ns type i scheduler ↔
    m = scheduler.markPod (Replica.podMetadata t (ownMetadata j ns type i)) j.name :=
  ⟨fun h => h.unique follows_markPod, fun h => h ▸ follows_markPod⟩

end ObjectMeta

/-! ## The pod -/

/-- The pod is made from the template of these replicas, and differs from it only in what the
operator owns. -/
structure Pod.Follows (p : Pod) (j : Job) (ns : String) (e : String × ReplicaSpec) (i : Int32)
    (scheduler : GangScheduler) : Prop where
  metadata : p.metadata.Follows (e.2.template.metadata.getD {}) j ns e.1 i scheduler
  spec : ∃ spec, p.spec = some spec ∧
    spec.Follows (e.2.template.spec.getD {}) e.2.restartPolicy scheduler (Replica.told j e.1 i)
  status : p.status = none

theorem Pod.follows_iff {p : Pod} {j : Job} {ns : String} {e : String × ReplicaSpec} {i : Int32}
    {scheduler : GangScheduler} :
    p.Follows j ns e i scheduler ↔ p = Replica.ownPod j ns e.1 e.2 i scheduler := by
  unfold Replica.ownPod
  rw [Replica.environment_eq]
  constructor
  · rintro ⟨hmetadata, ⟨spec, hspec, hfollows⟩, hstatus⟩
    rw [← ObjectMeta.follows_iff.1 hmetadata,
      ← (PodSpec.follows_iff Replica.nodup_names_told).1 hfollows, ← hspec, ← hstatus]
  · rintro rfl
    exact ⟨ObjectMeta.follows_markPod, ⟨_, rfl,
      (PodSpec.follows_iff Replica.nodup_names_told).2 rfl⟩, rfl⟩

namespace Replica

/-- **The pod of a replica is its template, but for what the operator owns.** A job with a
namespace gets, for a type that it declares in any letters, the one pod that `Pod.Follows`
describes: what a replica is told comes behind the variables of each container, as far as these do
not take its names, and nothing else of the template changes but what is named there. An undeclared
type is refused first, and then a job without a namespace. -/
theorem pod_follows_template (j : Job) (type : String) (i : Int32) (scheduler : GangScheduler) :
    (∀ ns e, j.namespace? = some ns → j.spec.replica? type = some e →
      ∃ p, pod j type i scheduler = .ok p ∧ ∀ q : Pod, q.Follows j ns e i scheduler ↔ q = p) ∧
    ((∀ e ∈ j.spec.replicaSpecs.entries, sameLetters e.1 type = false) →
      pod j type i scheduler = .error (.job (.invalidReplicaSpec type .undeclared))) ∧
    ((∃ e ∈ j.spec.replicaSpecs.entries, sameLetters e.1 type = true) → j.namespace? = none →
      pod j type i scheduler = .error .missingNamespace) := by
  refine ⟨fun ns e hns he => ?_, fun hundeclared => ?_, fun ⟨e, he, hsame⟩ hns => ?_⟩
  · exact ⟨_, pod_eq_ownPod hns he i scheduler, fun q => Pod.follows_iff⟩
  · unfold pod declared
    rw [JobSpec.replica?_eq_none_iff.2 hundeclared]
    rfl
  · have hfound : j.spec.replica? type ≠ none := by
      intro hnone
      rw [JobSpec.replica?_eq_none_iff.1 hnone e he] at hsame
      cases hsame
    obtain ⟨e', he'⟩ := Option.ne_none_iff_exists'.1 hfound
    unfold pod declared
    rw [he']
    simp only [bind, Except.bind, metadata, hns]

/-- A template that says much of what the operator says, and has two containers and a volume. -/
def busyTemplate : PodTemplate where
  metadata := some {
    name := some "other"
    generateName := some "other-"
    labels := some (Dict.ofList
      [("team", "vision"), (Label.jobName, "other"), (schedulerPluginsGroupLabel, "other")])
    finalizers := some ["example.org/keep"] }
  spec := some {
    containers := [
      { name := "trainer"
        env := some [{ name := "RANK", value := some "7" }, { name := "RANK" }] },
      { name := "sidecar", image := some "proxy" }]
    initContainers := some [{ name := "fetch" }]
    restartPolicy := some "Always"
    schedulerName := some "mine"
    carried := ⟨[("volumes", .arr [.obj [("name", .str "data")]])], by decide⟩ }

def busyReplicas (policy : RestartPolicy) : ReplicaSpec :=
  { replicas := 2, template := busyTemplate, restartPolicy := policy }

def busyJob : Job where
  metadata := { name := some "mnist", namespace_ := some "ml", uid := some "uid-1" }
  spec := {
    replicaSpecs := Dict.ofList
      [("PS", busyReplicas .exitCode), ("Worker", busyReplicas .onFailure)] }

/-- The job in no namespace. -/
def homelessJob : Job := { busyJob with metadata := {} }

/-- Asked for in small letters. The first container keeps both of its ranks and is not told
another, the second is told everything, the volume is kept, and job, group and restarts are the
operator's. -/
theorem pod_follows_template_busy :
    ∃ p spec labels, pod busyJob "worker" 1 .schedulerPlugins = .ok p ∧
      p.Follows busyJob "ml" ("Worker", busyReplicas .onFailure) 1 .schedulerPlugins ∧
      p.spec = some spec ∧ p.metadata.labels = some labels ∧
      spec.containers.map (fun c => (c.env.getD []).map fun v => (v.name, v.value)) =
        [[("RANK", some "7"), ("RANK", none), ("TRAINING_JOB_NAME", some "mnist"),
            ("REPLICA_TYPE", some "worker"), ("REPLICA_INDEX", some "1"),
            ("WORLD_SIZE", some "4"), ("MASTER_PORT", some "23456"),
            ("MASTER_ADDR", some "mnist-ps-0")],
          [("TRAINING_JOB_NAME", some "mnist"), ("REPLICA_TYPE", some "worker"),
            ("REPLICA_INDEX", some "1"), ("WORLD_SIZE", some "4"), ("RANK", some "3"),
            ("MASTER_PORT", some "23456"), ("MASTER_ADDR", some "mnist-ps-0")]] ∧
      spec.restartPolicy = some "OnFailure" ∧
      spec.schedulerName = some "scheduler-plugins-scheduler" ∧
      spec.carried.members = [("volumes", .arr [.obj [("name", .str "data")]])] ∧
      labels.get? schedulerPluginsGroupLabel = some "mnist" ∧
      labels.get? Label.jobName = some "mnist" ∧ labels.get? "team" = some "vision" ∧
      pod busyJob "Evaluator" 0 .none = .error (.job (.invalidReplicaSpec "Evaluator" .undeclared)) ∧
      pod homelessJob "worker" 0 .none = .error .missingNamespace := by
  obtain ⟨p, hp, hfollows⟩ := (pod_follows_template busyJob "worker" 1 .schedulerPlugins).1
    "ml" ("Worker", busyReplicas .onFailure) rfl (by decide)
  have hpod : p.Follows busyJob "ml" ("Worker", busyReplicas .onFailure) 1 .schedulerPlugins :=
    (hfollows p).2 rfl
  obtain ⟨spec, hspec, hcontainers, hpolicy, hname, hrest⟩ := hpod.spec
  obtain ⟨labels, hlabels, hget⟩ := hpod.metadata.labels
  refine ⟨p, spec, labels, hp, hpod, hspec, hlabels, ?_, hpolicy, hname,
    congrArg (·.carried.members) hrest, ?_, ?_, ?_,
    (pod_follows_template busyJob "Evaluator" 0 .none).2.1 (by decide),
    (pod_follows_template homelessJob "worker" 0 .none).2.2 (by decide) rfl⟩
  · generalize spec.containers = containers at hcontainers
    cases hcontainers with
    | cons hfirst hothers =>
      cases hothers with
      | cons hsecond hnone =>
        cases hnone
        simp only [List.map_cons, List.map_nil, hfirst.env, hsecond.env]
        decide
  · rw [hget]
    decide
  · rw [hget]
    decide
  · rw [hget]
    decide

end Replica

end TrainingJobs
