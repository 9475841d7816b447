import TrainingJobs.Gang.Scheduler
import TrainingJobs.Job.Basic

/-!
# Pod groups

A pod group tells a gang scheduler how many pods of a job have to start together.
-/

namespace TrainingJobs

open Document Json

structure PodGroup where
  apiVersion : String
  kind : String
  name : String
  namespace_ : String
  labels : Labels := Dict.empty
  ownerReferences : List OwnerReference := []
  minMember : Int32
  queue : Option String := none
  priorityClassName : Option String := none
  deriving DecidableEq, Repr

namespace PodGroup

/-- The pod group of a job. All replicas start together unless the job asks for fewer. Queues and
priorities are Volcano's alone. -/
def ofJob? (j : Job) (scheduler : GangScheduler) : Option PodGroup :=
  scheduler.podGroupVersion?.map fun version =>
    let policy := j.spec.runPolicy.schedulingPolicy.getD {}
    { apiVersion := version.groupVersion
      kind := "PodGroup"
      name := j.name
      namespace_ := j.namespace?.getD "default"
      labels := jobLabels j.name
      ownerReferences := j.ownerReference?.toList
      minMember := policy.minAvailable.getD j.spec.totalReplicas
      queue := if scheduler = .volcano then policy.queue else none
      priorityClassName := if scheduler = .volcano then policy.priorityClass else none }

/-- The pod group where overflow is checked: without a number of its own it counts the replicas. -/
def checkedOfJob (j : Job) (scheduler : GangScheduler) : Checked (Option PodGroup) :=
  match ofJob? j scheduler with
  | some g =>
    match j.spec.runPolicy.schedulingPolicy.bind (·.minAvailable) with
    | some _ => .ok (some g)
    | none => j.spec.checkedTotal.map fun _ => some g
  | none => .ok none

def ofDocument? {ν : Type} [Document ν] (n : ν) : Option PodGroup := do
  let field ← strictFields? ["apiVersion", "kind", "metadata", "spec"] n
  let metadata ← strictFields? ["name", "namespace", "labels", "ownerReferences"]
    (← field "metadata")
  let spec ← strictFields? ["minMember", "queue", "priorityClassName"] (← field "spec")
  some {
    apiVersion := ← required text? (field "apiVersion")
    kind := ← required text? (field "kind")
    name := ← required text? (metadata "name")
    namespace_ := ← required text? (metadata "namespace")
    labels := ← defaulted Dict.empty (dict? text?) (metadata "labels")
    ownerReferences :=
      ← defaulted [] (list? OwnerReference.ofDocument?) (metadata "ownerReferences")
    minMember := ← required int32? (spec "minMember")
    queue := ← optional text? (spec "queue")
    priorityClassName := ← optional text? (spec "priorityClassName") }

/-- Write a pod group; empty labels and owners are left out. -/
def toJson (g : PodGroup) : Json :=
  obj (member "apiVersion" g.apiVersion
    ++ member "kind" g.kind
    ++ member "metadata" (obj (member "name" g.name
      ++ member "namespace" g.namespace_
      ++ (if g.labels.isEmpty then [] else member "labels" (ofDict str g.labels))
      ++ (if g.ownerReferences.isEmpty then [] else
        member "ownerReferences" (ofList OwnerReference.toJson g.ownerReferences))))
    ++ member "spec" (obj (member "minMember" (ofInt32 g.minMember)
      ++ optionalMember "queue" str g.queue
      ++ optionalMember "priorityClassName" str g.priorityClassName)))

end PodGroup

end TrainingJobs
