import TrainingJobs.Kubernetes.Pod
import TrainingJobs.Labels
import TrainingJobs.Overflow

/-!
# Observed pods

What the operator has to know of a replica's pod: which replica it is, how far it has come, how
often its containers were restarted and with which code the first of them failed.
-/

namespace TrainingJobs

inductive PodPhase where
  | pending
  | running
  | succeeded
  | failed
  | unknown
  deriving DecidableEq, Repr, Inhabited

namespace PodPhase

/-- The phases that a pod reports, and what stands for a pod that reports none of them. -/
def all : List PodPhase := [pending, running, succeeded, failed, unknown]

def name : PodPhase → String
  | pending => "Pending"
  | running => "Running"
  | succeeded => "Succeeded"
  | failed => "Failed"
  | unknown => "Unknown"

/-- The phase of a name; a name that is none stands for an unknown phase. -/
def ofText (text : String) : PodPhase :=
  (all.find? fun p => p.name == text).getD unknown

/-- The pod may still run. -/
def isActive : PodPhase → Bool
  | pending | running => true
  | succeeded | failed | unknown => false

end PodPhase

structure ObservedPod where
  name : String
  replicaType : String
  index : Int32
  phase : PodPhase
  /-- Restarts of its containers. -/
  restarts : Int32 := 0
  /-- The first exit code other than zero. -/
  exitCode : Option Int32 := none
  deriving DecidableEq, Repr

namespace ObservedPod

/-- The restarts of all containers together; the sum wraps around where 32 bits do not hold it. -/
def totalRestarts (containers : List ContainerStatus) : Int32 :=
  containers.foldl (fun sum c => sum + c.restartCount) 0

/-- The first exit code other than zero. -/
def failureCode? (containers : List ContainerStatus) : Option Int32 :=
  (containers.filterMap (·.exitCode)).find? (· ≠ 0)

/-- The index that a label gives. -/
def index? (label : String) : Option Int32 :=
  (Text.readInt? label.toList).bind Text.int32?

/-- Observe a pod. One that is being deleted, or does not say which replica it is, is not seen. -/
def ofPod? (p : Pod) : Option ObservedPod := do
  if p.metadata.deletionTimestamp.isSome then none
  let labels ← p.metadata.labels
  let replicaType ← labels.get? Label.replicaType
  let index ← (← labels.get? Label.replicaIndex) |> index?
  let containers := (p.status.bind (·.containerStatuses)).getD []
  some {
    name := p.metadata.displayName
    replicaType := replicaType
    index := index
    phase := PodPhase.ofText ((p.status.bind (·.phase)).getD "")
    restarts := totalRestarts containers
    exitCode := failureCode? containers }

/-- Observe a pod where overflow is checked. -/
def checkedOfPod (p : Pod) : Checked (Option ObservedPod) :=
  match ofPod? p with
  | some o =>
    let containers := (p.status.bind (·.containerStatuses)).getD []
    (Checked.sum (containers.map (·.restartCount))).map fun _ => some o
  | none => .ok none

end ObservedPod

end TrainingJobs
