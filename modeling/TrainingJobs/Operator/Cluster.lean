import TrainingJobs.Operator.Reconcile

/-!
# A cluster in memory

The pods, services and the job of one namespace. Listings show everything, whatever the selector.
Creating what is there and deleting what is not there changes nothing.
-/

namespace TrainingJobs

/-- A cluster with one job. -/
structure Cluster where
  job : Job
  pods : Dict Pod := Dict.empty
  services : NameSet := Dict.empty

structure FailureRule where
  /-- The name of the call. -/
  call : String
  /-- The object that the call is about; any, if none is given. -/
  name : Option String := none
  code : Nat
  deriving DecidableEq, Repr

namespace Call

def label : Call → String
  | listPods .. => "list_pods"
  | listServiceNames .. => "list_service_names"
  | createPod .. => "create_pod"
  | createService .. => "create_service"
  | deletePod .. => "delete_pod"
  | deleteService .. => "delete_service"
  | applyPodGroup .. => "apply_pod_group"
  | deletePodGroup .. => "delete_pod_group"
  | patchStatus .. => "patch_status"
  | deleteJob .. => "delete_job"

def namespace_ : Call → String
  | listPods ns _ | listServiceNames ns _ | createPod ns _ | createService ns _
  | deletePod ns _ | deleteService ns _ | applyPodGroup ns _ | deletePodGroup ns _
  | patchStatus ns _ _ | deleteJob ns _ => ns

/-- The object that the call is about, if it is about one. -/
def objectName? : Call → Option String
  | listPods .. | listServiceNames .. => none
  | createPod _ pod => some pod.metadata.displayName
  | createService _ service => some service.metadata.displayName
  | applyPodGroup _ group => some group.name
  | deletePod _ name | deleteService _ name | deletePodGroup _ name | patchStatus _ name _
  | deleteJob _ name => some name

end Call

namespace FailureRule

def applies (r : FailureRule) (c : Call) : Bool :=
  r.call == c.label && (r.name.isNone || r.name == c.objectName?)

/-- How the call fails under the rules, if it does. -/
def failure? (rules : List FailureRule) (c : Call) : Option ApiError :=
  (rules.find? (·.applies c)).map fun r => .refused ⟨r.code, "Test", "boom"⟩

/-- A result, unless the call fails under the rules. -/
def guarded {α : Type} (rules : List FailureRule) (c : Call) (result : α) : Except ApiError α :=
  match failure? rules c with
  | some e => .error e
  | none => .ok result

end FailureRule

namespace Cluster

/-- The pod as it is when it has just been created. -/
def fresh (p : Pod) : Pod := { p with status := some { phase := some "Pending" } }

/-- What a call makes of the cluster. -/
def after (c : Cluster) : Call → Cluster
  | .createPod _ pod =>
    let name := pod.metadata.displayName
    if c.pods.contains name then c else { c with pods := c.pods.insert name (fresh pod) }
  | .createService _ service =>
    { c with services := c.services.add service.metadata.displayName }
  | .deletePod _ name => { c with pods := c.pods.erase name }
  | .deleteService _ name => { c with services := c.services.erase name }
  | .patchStatus _ _ status => { c with job := { c.job with status := some status } }
  | .listPods .. | .listServiceNames .. | .applyPodGroup .. | .deletePodGroup ..
  | .deleteJob .. => c

def backend (rules : List FailureRule) : Backend Cluster where
  listPods c ns selector := FailureRule.guarded rules (.listPods ns selector) c.pods.values
  listServiceNames c ns selector :=
    FailureRule.guarded rules (.listServiceNames ns selector) c.services
  perform c call := FailureRule.guarded rules call (c.after call)

/-- Add a pod, or put it in the place of one of its name. -/
def addPod (c : Cluster) (p : Pod) : Cluster :=
  { c with pods := c.pods.insert p.metadata.displayName p }

def dropPod (c : Cluster) (name : String) : Cluster := { c with pods := c.pods.erase name }

/-- Give a pod another status, if it is there. -/
def setPodStatus (c : Cluster) (name : String) (status : PodStatus) : Cluster :=
  match c.pods.get? name with
  | some p => { c with pods := c.pods.insert name { p with status := some status } }
  | none => c

def reconcile (rules : List FailureRule) (ctx : OperatorContext) (c : Cluster) (now : Instant) :
    Reconciled Cluster :=
  c.job.reconcile (backend rules) ctx c now

def checkedReconcile (rules : List FailureRule) (ctx : OperatorContext) (c : Cluster)
    (now : Instant) : Checked (Reconciled Cluster) :=
  c.job.checkedReconcile (backend rules) ctx c now

end Cluster

end TrainingJobs
