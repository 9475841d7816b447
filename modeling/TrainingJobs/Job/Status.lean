import TrainingJobs.Condition
import TrainingJobs.Discovery

/-!
# What has become of a job

The status of a job as its operator reports it. All records here are strict.
-/

namespace TrainingJobs

open Document Json

/-- How many pods of one type are active, have succeeded and have failed. -/
structure ReplicaStatus where
  active : Int32 := 0
  succeeded : Int32 := 0
  failed : Int32 := 0
  deriving DecidableEq, Repr, Inhabited

namespace ReplicaStatus

def ofDocument? {ν : Type} [Document ν] (n : ν) : Option ReplicaStatus := do
  let field ← strictFields? ["active", "succeeded", "failed"] n
  some {
    active := ← defaulted 0 int32? (field "active")
    succeeded := ← defaulted 0 int32? (field "succeeded")
    failed := ← defaulted 0 int32? (field "failed") }

def toJson (s : ReplicaStatus) : Json :=
  obj (member "active" (ofInt32 s.active)
    ++ member "succeeded" (ofInt32 s.succeeded)
    ++ member "failed" (ofInt32 s.failed))

end ReplicaStatus

structure JobStatus where
  conditions : List Condition := []
  replicaStatuses : Dict ReplicaStatus := Dict.empty
  startTime : Option String := none
  completionTime : Option String := none
  /-- Number of pods deleted in order to start them again. -/
  restartCount : Int32 := 0
  observedGeneration : Option Int64 := none
  /-- The API through which the status was written. -/
  servedVersion : Option GroupVersion := none
  deriving DecidableEq, Repr

namespace JobStatus

def lastCondition? (s : JobStatus) : Option Condition := s.conditions.getLast?

def holds (s : JobStatus) (type : ConditionType) : Bool := Conditions.holds s.conditions type

def isFinished (s : JobStatus) : Bool := s.holds .succeeded || s.holds .failed

def ofDocument? {ν : Type} [Document ν] (n : ν) : Option JobStatus := do
  let field ← strictFields? ["conditions", "replicaStatuses", "startTime", "completionTime",
    "restartCount", "observedGeneration", "servedVersion"] n
  some {
    conditions := ← defaulted [] (list? Condition.ofDocument?) (field "conditions")
    replicaStatuses :=
      ← defaulted Dict.empty (dict? ReplicaStatus.ofDocument?) (field "replicaStatuses")
    startTime := ← optional text? (field "startTime")
    completionTime := ← optional text? (field "completionTime")
    restartCount := ← defaulted 0 int32? (field "restartCount")
    observedGeneration := ← optional int64? (field "observedGeneration")
    servedVersion := ← optional GroupVersion.ofDocument? (field "servedVersion") }

/-- Write a status; empty lists and dictionaries are left out. -/
def toJson (s : JobStatus) : Json :=
  obj ((if s.conditions.isEmpty then [] else
      member "conditions" (ofList Condition.toJson s.conditions))
    ++ (if s.replicaStatuses.isEmpty then [] else
      member "replicaStatuses" (ofDict ReplicaStatus.toJson s.replicaStatuses))
    ++ optionalMember "startTime" str s.startTime
    ++ optionalMember "completionTime" str s.completionTime
    ++ member "restartCount" (ofInt32 s.restartCount)
    ++ optionalMember "observedGeneration" ofInt64 s.observedGeneration
    ++ optionalMember "servedVersion" GroupVersion.toJson s.servedVersion)

end JobStatus

end TrainingJobs
