import TrainingJobs.Observation
import TrainingJobs.Replica.Identity

/-!
# Which children come and go

While a job is unfinished its children are kept in step with the replicas it declares; once it has
finished they are cleaned up as its policy says.
-/

namespace TrainingJobs

/-- What has to be done about the children of an unfinished job. -/
structure ChildPlan where
  /-- The replicas, by type and index, that need a pod. -/
  createPods : List (String × Int32)
  /-- The replicas that need a service. -/
  createServices : List (String × Int32)
  /-- The pods to be made anew, or of no declared replica. -/
  deletePods : List String
  /-- The services of no declared replica. -/
  deleteServices : List String
  deriving DecidableEq, Repr

namespace JobSpec

def indexes (replicas : Int32) : List Int32 :=
  (List.range replicas.toInt.toNat).map Int32.ofNat

/-- Every declared replica, by type and index. -/
def declaredReplicas (s : JobSpec) : List (String × Int32) :=
  s.replicaSpecs.entries.flatMap fun e => (indexes e.2.replicas).map fun i => (e.1, i)

/-- Whether a pod belongs to a declared replica. -/
def declares (s : JobSpec) (p : ObservedPod) : Bool :=
  match s.replica? p.replicaType with
  | some (_, r) => p.index < r.replicas
  | none => false

end JobSpec

namespace ChildPlan

/-- Compare the declared replicas with the children there are. A pod to be made anew is only
deleted: it is created again when it is gone. -/
def make (jobName : String) (s : JobSpec) (pods : List ObservedPod) (services : NameSet)
    (restart : List String) : ChildPlan :=
  let replicas := s.declaredReplicas
  let nameOf (r : String × Int32) : String := replicaName jobName r.1 r.2
  let names := replicas.map nameOf
  { createPods := replicas.filter fun r => !pods.any fun p => p.name == nameOf r
    createServices := replicas.filter fun r => !services.contains (nameOf r)
    deletePods :=
      (pods.filter fun p => !s.declares p || restart.contains p.name).map (·.name)
    deleteServices := services.keys.filter fun n => !names.contains n }

end ChildPlan

/-- What has to be done about the children of a finished job. -/
structure CleanupPlan where
  deletePods : List String
  deleteServices : List String
  deriving DecidableEq, Repr

namespace CleanupPlan

def activeNames (pods : List ObservedPod) : List String :=
  (pods.filter fun p => p.phase.isActive).map (·.name)

/-- The pods that a policy deletes. Pods that may still run go with every policy when the job
reached a limit. -/
def doomed (policy : CleanPodPolicy) (pods : List ObservedPod) (terminateActive : Bool) :
    List String :=
  match policy with
  | .all => pods.map (·.name)
  | .running => activeNames pods
  | .none => if terminateActive then activeNames pods else []

/-- Clean up by a policy. A service goes with its pod, and all services go with all pods. -/
def make (policy : CleanPodPolicy) (pods : List ObservedPod) (services : NameSet)
    (terminateActive : Bool) : CleanupPlan :=
  let deletePods := doomed policy pods terminateActive
  { deletePods := deletePods
    deleteServices := match policy with
      | .all => services.keys
      | .running | .none => services.keys.filter fun n => deletePods.contains n }

end CleanupPlan

end TrainingJobs
