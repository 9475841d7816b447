import TrainingJobs.Discovery
import TrainingJobs.Labels
import TrainingJobs.OperatorError

/-!
# Which version of the job API is served
-/

namespace TrainingJobs

/-- The group version of training jobs. -/
def jobGroupVersion : GroupVersion := ⟨apiGroup ++ "/" ++ apiVersion, apiVersion⟩

/-- The entry of the job API among those that are served. Malformed entries are not trusted. -/
def servedJobVersion (groups : ApiGroupList) : Except OperatorError GroupVersion :=
  match (groups.find? apiGroup).bind (·.serves? apiVersion) with
  | some e => .ok e
  | none => .error (.groupNotServed jobGroupVersion.groupVersion)

end TrainingJobs
