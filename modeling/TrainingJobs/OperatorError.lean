import TrainingJobs.Api.Error
import TrainingJobs.JobError

/-!
# What can go wrong for the operator
-/

namespace TrainingJobs

inductive OperatorError where
  /-- Something about the job. -/
  | job (error : JobError)
  /-- A request to the API server did not succeed. -/
  | api (error : ApiError)
  | missingNamespace
  /-- The cluster does not serve a group version. -/
  | groupNotServed (groupVersion : String)
  /-- A resource definition was not established in time. -/
  | definitionNotEstablished (name : String)
  /-- Waiting for a resource definition failed. -/
  | waiting
  deriving DecidableEq, Repr

instance : Coe JobError OperatorError := ⟨OperatorError.job⟩

instance : Coe ApiError OperatorError := ⟨OperatorError.api⟩

namespace OperatorError

/-- The error in words. What the API server had to say is told apart from these words. -/
def message : OperatorError → String
  | job e => e.message
  | api (.refused r) => "kubernetes error: " ++ r.message
  | api _ => "kubernetes error"
  | missingNamespace => "missing namespace on TrainingJob"
  | groupNotServed groupVersion =>
    "API group version " ++ groupVersion ++ " is not served by the cluster"
  | definitionNotEstablished name => "CRD " ++ name ++ " was not established in time"
  | waiting => "waiting for CRD failed"

end OperatorError

end TrainingJobs
