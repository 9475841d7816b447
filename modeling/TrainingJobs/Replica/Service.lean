import TrainingJobs.Kubernetes.Service
import TrainingJobs.Replica.Pod

/-!
# The service of a replica

A service without an address of its own gives the pod of a replica a stable name.
-/

namespace TrainingJobs.Replica

def service (j : Job) (replicaType : String) (index : Int32) :
    Except OperatorError Service := do
  let (replicaType, _) ← declared j replicaType
  let own ← metadata j replicaType index
  return {
    metadata := own
    spec := some {
      clusterIP := some "None"
      ports := some [{ name := some "training-port", port := j.spec.port }]
      publishNotReadyAddresses := some true
      selector := own.labels } }

end TrainingJobs.Replica
