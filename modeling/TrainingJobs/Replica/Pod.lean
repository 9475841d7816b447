import TrainingJobs.Gang.Scheduler
import TrainingJobs.OperatorError
import TrainingJobs.Replica.Identity

/-!
# The pod of a replica

A replica's pod is made from the template of its type. The operator sets its name, namespace,
labels and owner, its restart policy and its scheduler, and tells every container by environment
variables which replica it is. A variable that the template sets stays as it is.
-/

namespace TrainingJobs

open Text

namespace Replica

def metadata (j : Job) (replicaType : String) (index : Int32) :
    Except OperatorError ObjectMeta :=
  match j.namespace? with
  | some ns =>
    .ok {
      name := some (replicaName j.name replicaType index)
      namespace_ := some ns
      labels := some (replicaLabels j.name replicaType index)
      ownerReferences := some j.ownerReference?.toList }
  | none => .error .missingNamespace

def declared (j : Job) (replicaType : String) : Except OperatorError (String × ReplicaSpec) :=
  match j.spec.replica? replicaType with
  | some r => .ok r
  | none => .error (.job (.invalidReplicaSpec replicaType .undeclared))

/-- What every container of a replica is told. -/
def environment (jobName : String) (s : JobSpec) (replicaType : String) (index : Int32) :
    List EnvVar :=
  let vars :=
    [("TRAINING_JOB_NAME", jobName),
     ("REPLICA_TYPE", lower replicaType),
     ("REPLICA_INDEX", showInt32 index),
     ("WORLD_SIZE", showInt32 s.totalReplicas),
     ("RANK", showInt32 ((s.rank? replicaType index).getD index)),
     ("MASTER_PORT", showInt32 s.port)]
      ++ ((s.masterAddress? jobName).map fun a => ("MASTER_ADDR", a)).toList
  vars.map fun v => { name := v.1, value := some v.2 }

/-- The variables with those of `added` that are not among them yet. -/
def withVariables (present added : List EnvVar) : List EnvVar :=
  added.foldl
    (fun vars v => if vars.any fun w => w.name == v.name then vars else vars ++ [v]) present

def inform (vars : List EnvVar) (c : Container) : Container :=
  { c with env := some (withVariables (c.env.getD []) vars) }

def podSpec (template : PodSpec) (policy : RestartPolicy) (scheduler : GangScheduler)
    (vars : List EnvVar) : PodSpec :=
  { template with
    containers := template.containers.map (inform vars)
    restartPolicy := some policy.podPolicy
    schedulerName := scheduler.schedulerName?.or template.schedulerName }

/-- The metadata of a replica's pod: that of the template under the operator's own. -/
def podMetadata (template own : ObjectMeta) : ObjectMeta :=
  { template with
    name := own.name
    generateName := none
    namespace_ := own.namespace_
    ownerReferences := own.ownerReferences
    labels := some ((template.labels.getD Dict.empty).override (own.labels.getD Dict.empty)) }

def pod (j : Job) (replicaType : String) (index : Int32) (scheduler : GangScheduler) :
    Except OperatorError Pod := do
  let (replicaType, replica) ← declared j replicaType
  let own ← metadata j replicaType index
  let merged := podMetadata (replica.template.metadata.getD {}) own
  return {
    metadata := scheduler.markPod merged j.name
    spec := some (podSpec (replica.template.spec.getD {}) replica.restartPolicy scheduler
      (environment j.name j.spec replicaType index)) }

/-- The pod where overflow is checked: its environment tells the rank and the number of replicas. -/
def checkedPod (j : Job) (replicaType : String) (index : Int32) (scheduler : GangScheduler) :
    Checked (Except OperatorError Pod) :=
  match pod j replicaType index scheduler with
  | .ok p => do
    let _ ← j.spec.checkedRank replicaType index
    let _ ← j.spec.checkedTotal
    return .ok p
  | .error e => .ok (.error e)

end Replica

end TrainingJobs
