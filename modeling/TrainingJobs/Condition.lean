import TrainingJobs.Document
import TrainingJobs.JobError
import TrainingJobs.Text.Ascii
import TrainingJobs.Time.Timestamp

/-!
# Conditions of a job

A job's history is a list of conditions, at most one of each type, the one recorded last at the
end. Recording a condition retires those that it ends: a running job is no longer restarting, a
restarting one no longer running, and a finished one neither.
-/

namespace TrainingJobs

open Document Json

/-- What a condition says about a job. -/
inductive ConditionType where
  | created
  | running
  | restarting
  | succeeded
  | failed
  deriving DecidableEq, Repr

namespace ConditionType

def all : List ConditionType := [created, running, restarting, succeeded, failed]

def name : ConditionType → String
  | created => "Created"
  | running => "Running"
  | restarting => "Restarting"
  | succeeded => "Succeeded"
  | failed => "Failed"

/-- A job does not leave a condition of this type. -/
def isTerminal : ConditionType → Bool
  | succeeded | failed => true
  | created | running | restarting => false

/-- The type of a name, whatever the case of its letters. -/
def ofText (text : String) : Except JobError ConditionType :=
  match all.find? fun t => Text.sameLetters t.name text with
  | some t => .ok t
  | none => .error (.unknownConditionType text)

/-- The types that recording a condition of this one retires. -/
def retires : ConditionType → List ConditionType
  | created => []
  | running => [restarting]
  | restarting => [running]
  | succeeded | failed => [running, restarting]

def ofDocument? {ν : Type} [Document ν] (n : ν) : Option ConditionType :=
  oneOf? (all.map fun t => (t.name, t)) n

end ConditionType

inductive ConditionStatus where
  | true_
  | false_
  | unknown
  deriving DecidableEq, Repr

namespace ConditionStatus

def all : List ConditionStatus := [true_, false_, unknown]

def name : ConditionStatus → String
  | true_ => "True"
  | false_ => "False"
  | unknown => "Unknown"

def ofDocument? {ν : Type} [Document ν] (n : ν) : Option ConditionStatus :=
  oneOf? (all.map fun s => (s.name, s)) n

end ConditionStatus

structure Condition where
  type : ConditionType
  status : ConditionStatus
  reason : String := ""
  message : String := ""
  lastUpdateTime : Option String := none
  lastTransitionTime : Option String := none
  deriving DecidableEq, Repr

namespace Condition

/-- A condition that holds from now on. -/
def make (type : ConditionType) (reason message : String) (now : Instant) : Condition :=
  { type := type
    status := .true_
    reason := reason
    message := message
    lastUpdateTime := some (Timestamp.write now)
    lastTransitionTime := some (Timestamp.write now) }

def isTrue (c : Condition) : Bool := c.status = .true_

/-- Same type, status, reason and message. -/
def sameAs (c d : Condition) : Bool :=
  c.status = d.status ∧ c.reason = d.reason ∧ c.message = d.message

/-- The condition `c` after recording `recorded`, which may retire it. -/
def retiredBy (recorded c : Condition) : Condition :=
  if recorded.type.retires.contains c.type && c.isTrue then
    { c with
      status := .false_
      lastUpdateTime := recorded.lastUpdateTime
      lastTransitionTime := recorded.lastUpdateTime }
  else c

def ofDocument? {ν : Type} [Document ν] (n : ν) : Option Condition := do
  let field ← strictFields?
    ["type", "status", "reason", "message", "lastUpdateTime", "lastTransitionTime"] n
  some {
    type := ← required ConditionType.ofDocument? (field "type")
    status := ← required ConditionStatus.ofDocument? (field "status")
    reason := ← defaulted "" text? (field "reason")
    message := ← defaulted "" text? (field "message")
    lastUpdateTime := ← optional text? (field "lastUpdateTime")
    lastTransitionTime := ← optional text? (field "lastTransitionTime") }

def toJson (c : Condition) : Json :=
  obj (member "type" c.type.name
    ++ member "status" c.status.name
    ++ member "reason" c.reason
    ++ member "message" c.message
    ++ optionalMember "lastUpdateTime" str c.lastUpdateTime
    ++ optionalMember "lastTransitionTime" str c.lastTransitionTime)

end Condition

namespace Conditions

def holds (conditions : List Condition) (type : ConditionType) : Bool :=
  conditions.any fun c => c.type = type && c.isTrue

/-- Record a condition. One that says nothing new changes nothing. One that only keeps its status
keeps the time of its last transition. -/
def record (conditions : List Condition) (condition : Condition) : List Condition :=
  let others (c : Condition) : List Condition :=
    (conditions.map c.retiredBy).filter (fun d => d.type ≠ c.type) ++ [c]
  match conditions.find? fun c => c.type = condition.type with
  | some existing =>
    if existing.sameAs condition then conditions
    else if existing.status = condition.status then
      others { condition with lastTransitionTime := existing.lastTransitionTime }
    else others condition
  | none => others condition

end Conditions

end TrainingJobs
