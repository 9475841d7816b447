import TrainingJobs.Text.Quoted
import TrainingJobs.Text.Decimal

/-!
# What can be wrong with a job

The causes for which a job, its discovery entry or a name in it is refused, and the message that
tells each.
-/

namespace TrainingJobs

open Text

/-- The longest active deadline that a job may set, in seconds: ten years. -/
def longestDeadline : Int64 := 315360000

inductive ReplicaFault where
  /-- More than one type has a master role. -/
  | severalMasters
  | negativeReplicas (replicas : Int32)
  /-- A master has to be alone. -/
  | notOneMaster (replicas : Int32)
  | noContainers
  /-- The job has no such type. -/
  | undeclared
  deriving DecidableEq, Repr

inductive PolicyFault where
  | deadlineOutOfRange (seconds : Int64)
  | negativeTimeToLive (seconds : Int32)
  | negativeBackoffLimit (limit : Int32)
  deriving DecidableEq, Repr

inductive JobError where
  /-- The version of a discovery entry is not the end of its group version. -/
  | malformedEntry (groupVersion version : String)
  /-- A discovery entry is listed under a group that is not its own. -/
  | foreignEntry (group groupVersion : String)
  | noReplicaSpecs
  | invalidReplicaSpec (replicaType : String) (fault : ReplicaFault)
  | invalidRunPolicy (fault : PolicyFault)
  | unknownGangScheduler (name : String)
  | unknownConditionType (name : String)
  deriving DecidableEq, Repr

namespace ReplicaFault

def message : ReplicaFault → String
  | severalMasters => "only one of Master, Chief or Launcher may be declared"
  | negativeReplicas n => "replicas must not be negative, got " ++ showInt32 n
  | notOneMaster n => "must have exactly 1 replica, got " ++ showInt32 n
  | noContainers => "template must declare at least one container"
  | undeclared => "not declared in replicaSpecs"

end ReplicaFault

namespace PolicyFault

def field : PolicyFault → String
  | deadlineOutOfRange _ => "activeDeadlineSeconds"
  | negativeTimeToLive _ => "ttlSecondsAfterFinished"
  | negativeBackoffLimit _ => "backoffLimit"

def message : PolicyFault → String
  | deadlineOutOfRange n =>
    "must be between 1 and " ++ showInt64 longestDeadline ++ ", got " ++ showInt64 n
  | negativeTimeToLive n => "must not be negative, got " ++ showInt32 n
  | negativeBackoffLimit n => "must not be negative, got " ++ showInt32 n

end PolicyFault

namespace JobError

def message : JobError → String
  | malformedEntry groupVersion version =>
    "malformed discovery entry: groupVersion " ++ quoted groupVersion
      ++ " does not end with version " ++ quoted version
  | foreignEntry group groupVersion =>
    "discovery entry " ++ quoted groupVersion ++ " listed under group " ++ quoted group
  | noReplicaSpecs => "job has no replica specs"
  | invalidReplicaSpec replicaType fault =>
    "invalid replica spec " ++ quoted replicaType ++ ": " ++ fault.message
  | invalidRunPolicy fault => "invalid runPolicy." ++ fault.field ++ ": " ++ fault.message
  | unknownGangScheduler name =>
    "unknown gang scheduler " ++ quoted name
      ++ ", expected one of none, volcano, scheduler-plugins"
  | unknownConditionType name => "unknown condition type " ++ quoted name

end JobError

end TrainingJobs
