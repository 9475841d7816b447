import TrainingJobs.Gang.Scheduler
import TrainingJobs.Time.Span

/-!
# How the operator is set up
-/

namespace TrainingJobs

inductive LogFormat where
  | text
  | json
  deriving DecidableEq, Repr

structure OperatorOptions where
  gangScheduler : GangScheduler := .none
  /-- The only namespace to look after; all of them when there is none. -/
  onlyNamespace : Option String := none
  logFormat : LogFormat := .text
  /-- How soon a running job is looked at again. -/
  requeueInterval : Span := Span.ofSeconds 30
  /-- How soon a job is looked at again after something went wrong. -/
  errorRequeue : Span := Span.ofSeconds 15
  /-- The resource definition is already there. -/
  skipDefinition : Bool := false
  /-- Under which name the operator owns what it applies. -/
  fieldManager : String := "training-operator"
  deriving DecidableEq, Repr

end TrainingJobs
