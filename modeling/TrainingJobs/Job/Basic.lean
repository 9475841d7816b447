import TrainingJobs.Job.Spec
import TrainingJobs.Job.Status

/-!
# Training jobs

A job is an object of the cluster: its metadata, what it is to do and what has become of it.
-/

namespace TrainingJobs

open Document Json

structure Job where
  metadata : ObjectMeta := {}
  spec : JobSpec := {}
  status : Option JobStatus := none
  deriving DecidableEq, Repr

namespace Job

/-- The name of the job, else the name that one is to be generated from, else no text. -/
def name (j : Job) : String := j.metadata.displayName

def namespace? (j : Job) : Option String := j.metadata.namespace_

/-- The name of the type of the last condition, no text before the first. -/
def state (j : Job) : String :=
  match j.status.bind (·.lastCondition?) with
  | some c => c.type.name
  | none => ""

def isFinished (j : Job) : Bool :=
  match j.status with
  | some s => s.isFinished
  | none => false

/-- Whether the job carries a condition of one of the types, whether it holds or not. -/
def hasAnyCondition (j : Job) (expected : List ConditionType) : Bool :=
  match j.status with
  | some s => s.conditions.any fun c => expected.contains c.type
  | none => false

/-- The reference by which the job owns its children; a job without name or uid owns none. -/
def ownerReference? (j : Job) : Option OwnerReference := do
  some {
    apiVersion := apiGroup ++ "/" ++ apiVersion
    kind := kindName
    name := ← j.metadata.name
    uid := ← j.metadata.uid
    controller := some true }

/-- Read a job. What it says it is, is not looked at. Written as a list it has to have all three
fields. -/
def ofDocument? {ν : Type} [Document ν] (n : ν) : Option Job := do
  if (positions? n).any fun items => items.length ≠ 3 then none
  let field ← strictFields? ["metadata", "spec", "status"] n
  some {
    metadata := ← required ObjectMeta.ofDocument? (field "metadata")
    spec := ← required JobSpec.ofDocument? (field "spec")
    status := ← optional JobStatus.ofDocument? (field "status") }

def toJson (j : Job) : Json :=
  obj (member "apiVersion" (str (apiGroup ++ "/" ++ apiVersion))
    ++ member "kind" kindName
    ++ member "metadata" j.metadata.toJson
    ++ member "spec" j.spec.toJson
    ++ optionalMember "status" JobStatus.toJson j.status)

end Job

end TrainingJobs
