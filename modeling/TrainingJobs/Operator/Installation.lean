import TrainingJobs.Api.Watch
import TrainingJobs.Job.Definition
import TrainingJobs.Kubernetes.Definition
import TrainingJobs.Operator.ServedVersion

/-!
# Making training jobs known

Before it begins, the operator publishes the definition of training jobs, waits until their
objects can be used, and asks which version of the API is served.
-/

namespace TrainingJobs

def Collection.definitions : Collection ResourceDefinition :=
  ⟨.definitions, none, ResourceDefinition.ofDocument?⟩

/-- How long to wait for the definition to be established. -/
def establishTimeout : Span := Span.ofSeconds 10

/-- Publish the definition of training jobs and wait until it is established, with so many
requests at most. -/
def installDefinition (fieldManager : String) (requests : Nat) : Program OperatorError Unit := do
  let published := Collection.definitions.apply fieldManager definitionName jobDefinition
  let _ ← published.mapError .api
  let established ← (watch ⟨.definitions, some definitionName⟩ requests establishTimeout
    fun d => pure d.isEstablished).mapError fun _ => .waiting
  if established then return ()
  else Program.fail (.definitionNotEstablished definitionName)

def servedGroups : Program ApiError ApiGroupList :=
  Request.ask { path := "/apis" } ApiGroupList.ofAnswer?

/-- Ask for the entry of the job API. -/
def askServedVersion : Program OperatorError GroupVersion := do
  let groups ← servedGroups.mapError .api
  Program.finish (servedJobVersion groups)

end TrainingJobs
