import TrainingJobs.Dict
import TrainingJobs.Text.Ascii
import TrainingJobs.Text.Decimal

/-!
# Labels and selectors

Every child of a job carries labels that name the job and the replica it belongs to. A selector
asks for labels and so finds the children again.
-/

namespace TrainingJobs

open Text

/-- The API group of training jobs. -/
def apiGroup : String := "kubeflow.org"

/-- The version of the API of training jobs. -/
def apiVersion : String := "v1"

def pluralName : String := "trainingjobs"

def kindName : String := "TrainingJob"

namespace Label

/-- The key under which the API group stands. -/
def groupName : String := "group-name"

/-- The key under which the name of the job stands. -/
def jobName : String := "training.kubeflow.org/job-name"

/-- The key under which the type of the replica stands. -/
def replicaType : String := "training.kubeflow.org/replica-type"

/-- The key under which the index of the replica stands. -/
def replicaIndex : String := "training.kubeflow.org/replica-index"

/-- The key under which the first replica of a master role says so. -/
def jobRole : String := "training.kubeflow.org/job-role"

end Label

/-- The types of replicas whose success is the success of the job. -/
def masterRoles : List String := ["master", "chief", "launcher"]

/-- Whether the type is a master role, whatever the case of its letters. -/
def isMasterRole (replicaType : String) : Bool := masterRoles.contains (lower replicaType)

/-- The labels of everything that belongs to a job. -/
def jobLabels (jobName : String) : Dict String :=
  Dict.ofList [(Label.groupName, apiGroup), (Label.jobName, jobName)]

/-- The labels of the pod and the service of a replica. -/
def replicaLabels (jobName replicaType : String) (index : Int32) : Dict String :=
  let labels := ((jobLabels jobName).insert Label.replicaType (lower replicaType)).insert
    Label.replicaIndex (showInt32 index)
  if index = 0 ∧ isMasterRole replicaType then labels.insert Label.jobRole "master" else labels

/-- Which of a job's pods are wanted. -/
structure PodSelector where
  /-- Only the pod that leads the job. -/
  master : Bool := false
  replicaType : Option String := none
  replicaIndex : Option Int32 := none
  deriving DecidableEq, Repr

namespace PodSelector

def labels (s : PodSelector) (jobName : String) : Dict String :=
  let labels := jobLabels jobName
  let labels := if s.master then labels.insert Label.jobRole "master" else labels
  let labels := match s.replicaType with
    | some t => labels.insert Label.replicaType (lower t)
    | none => labels
  match s.replicaIndex with
  | some i => labels.insert Label.replicaIndex (showInt32 i)
  | none => labels

/-- Whose logs are wanted: those of the master pod unless all are asked for or some are named. -/
def forLogs (all : Bool) (replicaType : Option String) (replicaIndex : Option Int32) :
    PodSelector :=
  if !all && replicaType.isNone && replicaIndex.isNone then { master := true }
  else { replicaType := replicaType, replicaIndex := replicaIndex }

end PodSelector

/-- Labels as a selector: `key=value` in key order, divided by commas. -/
def selectorText (labels : Dict String) : String :=
  ",".intercalate (labels.entries.map fun e => e.1 ++ "=" ++ e.2)

end TrainingJobs
