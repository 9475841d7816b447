import TrainingJobs.Kubernetes.Meta

/-!
# Pods

Pods, their templates and their status. Of a template everything is kept, what nothing here looks
into as it stands (`Carried`); of a status only what jobs are judged by. All records here are
lenient.
-/

namespace TrainingJobs

open Document Json

/-- Where the value of an environment variable is taken from. -/
structure EnvSource where
  /-- A field of the pod: the version of its API and the path. -/
  fieldRef : Option (Option String × String) := none
  carried : Carried ["configMapKeyRef", "fileKeyRef", "resourceFieldRef", "secretKeyRef"] := .empty
  deriving DecidableEq, Repr

structure EnvVar where
  name : String := ""
  value : Option String := none
  valueFrom : Option EnvSource := none
  deriving DecidableEq, Repr

/-- A port that a container opens. -/
structure ContainerPort where
  number : Int32 := 0
  carried : Carried ["hostIP", "hostPort", "name", "protocol"] := .empty
  deriving DecidableEq, Repr

/-- What a container needs, and the limits it is held to. -/
structure Resources where
  limits : Option Labels := none
  carried : Carried ["claims", "requests"] := .empty
  deriving DecidableEq, Repr

structure Container where
  args : Option (List String) := none
  command : Option (List String) := none
  env : Option (List EnvVar) := none
  image : Option String := none
  name : String := ""
  ports : Option (List ContainerPort) := none
  resources : Option Resources := none
  carried : Carried ["envFrom", "imagePullPolicy", "lifecycle", "livenessProbe", "readinessProbe",
    "resizePolicy", "restartPolicy", "restartPolicyRules", "securityContext", "startupProbe",
    "stdin", "stdinOnce", "terminationMessagePath", "terminationMessagePolicy", "tty",
    "volumeDevices", "volumeMounts", "workingDir"] := .empty
  deriving DecidableEq, Repr

/-- A mark of a node that a pod puts up with. -/
structure Toleration where
  key : Option String := none
  operator : Option String := none
  carried : Carried ["effect", "tolerationSeconds", "value"] := .empty
  deriving DecidableEq, Repr

/-- What is to run in a pod, and how. -/
structure PodSpec where
  containers : List Container := []
  initContainers : Option (List Container) := none
  nodeSelector : Option Labels := none
  restartPolicy : Option String := none
  schedulerName : Option String := none
  serviceAccountName : Option String := none
  tolerations : Option (List Toleration) := none
  carried : Carried ["activeDeadlineSeconds", "affinity", "automountServiceAccountToken",
    "dnsConfig", "dnsPolicy", "enableServiceLinks", "ephemeralContainers", "hostAliases", "hostIPC",
    "hostNetwork", "hostPID", "hostUsers", "hostname", "hostnameOverride", "imagePullSecrets",
    "nodeName", "os", "overhead", "preemptionPolicy", "priority", "priorityClassName",
    "readinessGates", "resourceClaims", "resources", "runtimeClassName", "schedulingGates",
    "securityContext", "serviceAccount", "setHostnameAsFQDN", "shareProcessNamespace", "subdomain",
    "terminationGracePeriodSeconds", "topologySpreadConstraints", "volumes", "workloadRef"] := .empty
  deriving DecidableEq, Repr

structure PodTemplate where
  metadata : Option ObjectMeta := none
  spec : Option PodSpec := none
  deriving DecidableEq, Repr

structure ContainerStatus where
  image : String := ""
  imageId : String := ""
  name : String := ""
  ready : Bool := false
  restartCount : Int32 := 0
  /-- The exit code, if the container has terminated. -/
  exitCode : Option Int32 := none
  deriving DecidableEq, Repr

structure PodStatus where
  containerStatuses : Option (List ContainerStatus) := none
  phase : Option String := none
  deriving DecidableEq, Repr

structure Pod where
  metadata : ObjectMeta := {}
  spec : Option PodSpec := none
  status : Option PodStatus := none
  deriving DecidableEq, Repr

variable {ν : Type} [Document ν]

namespace EnvSource

def fieldRef? (n : ν) : Option (Option String × String) := do
  let field ← lenientFields? n
  some (← optional text? (field "apiVersion"), ← orEmpty "" text? (field "fieldPath"))

def ofDocument? (n : ν) : Option EnvSource := do
  let field ← lenientFields? n
  some {
    fieldRef := ← optional fieldRef? (field "fieldRef")
    carried := ← Carried.ofFields? field _ }

def toJson (s : EnvSource) : Json :=
  obj (optionalMember "fieldRef" (fun (r : Option String × String) =>
    obj (optionalMember "apiVersion" str r.1 ++ member "fieldPath" r.2)) s.fieldRef
    ++ s.carried.members)

end EnvSource

namespace EnvVar

def ofDocument? (n : ν) : Option EnvVar := do
  let field ← lenientFields? n
  some {
    name := ← orEmpty "" text? (field "name")
    value := ← optional text? (field "value")
    valueFrom := ← optional EnvSource.ofDocument? (field "valueFrom") }

def toJson (v : EnvVar) : Json :=
  obj (member "name" v.name
    ++ optionalMember "value" str v.value
    ++ optionalMember "valueFrom" EnvSource.toJson v.valueFrom)

end EnvVar

namespace ContainerPort

def ofDocument? (n : ν) : Option ContainerPort := do
  let field ← lenientFields? n
  some {
    number := ← orEmpty 0 int32? (field "containerPort")
    carried := ← Carried.ofFields? field _ }

def toJson (p : ContainerPort) : Json :=
  obj (member "containerPort" (ofInt32 p.number) ++ p.carried.members)

end ContainerPort

namespace Resources

def ofDocument? (n : ν) : Option Resources := do
  let field ← lenientFields? n
  some {
    limits := ← optional (dict? text?) (field "limits")
    carried := ← Carried.ofFields? field _ }

def toJson (r : Resources) : Json :=
  obj (optionalMember "limits" (ofDict str) r.limits ++ r.carried.members)

end Resources

namespace Container

def ofDocument? (n : ν) : Option Container := do
  let field ← lenientFields? n
  some {
    args := ← optional (list? text?) (field "args")
    command := ← optional (list? text?) (field "command")
    env := ← optional (list? EnvVar.ofDocument?) (field "env")
    image := ← optional text? (field "image")
    name := ← orEmpty "" text? (field "name")
    ports := ← optional (list? ContainerPort.ofDocument?) (field "ports")
    resources := ← optional Resources.ofDocument? (field "resources")
    carried := ← Carried.ofFields? field _ }

def toJson (c : Container) : Json :=
  obj (optionalMember "args" (ofList str) c.args
    ++ optionalMember "command" (ofList str) c.command
    ++ optionalMember "env" (ofList EnvVar.toJson) c.env
    ++ optionalMember "image" str c.image
    ++ member "name" c.name
    ++ optionalMember "ports" (ofList ContainerPort.toJson) c.ports
    ++ optionalMember "resources" Resources.toJson c.resources
    ++ c.carried.members)

end Container

namespace Toleration

def ofDocument? (n : ν) : Option Toleration := do
  let field ← lenientFields? n
  some {
    key := ← optional text? (field "key")
    operator := ← optional text? (field "operator")
    carried := ← Carried.ofFields? field _ }

def toJson (t : Toleration) : Json :=
  obj (optionalMember "key" str t.key
    ++ optionalMember "operator" str t.operator
    ++ t.carried.members)

end Toleration

namespace PodSpec

def ofDocument? (n : ν) : Option PodSpec := do
  let field ← lenientFields? n
  some {
    containers := ← orEmpty [] (list? Container.ofDocument?) (field "containers")
    initContainers := ← optional (list? Container.ofDocument?) (field "initContainers")
    nodeSelector := ← optional (dict? text?) (field "nodeSelector")
    restartPolicy := ← optional text? (field "restartPolicy")
    schedulerName := ← optional text? (field "schedulerName")
    serviceAccountName := ← optional text? (field "serviceAccountName")
    tolerations := ← optional (list? Toleration.ofDocument?) (field "tolerations")
    carried := ← Carried.ofFields? field _ }

def toJson (s : PodSpec) : Json :=
  obj (member "containers" (ofList Container.toJson s.containers)
    ++ optionalMember "initContainers" (ofList Container.toJson) s.initContainers
    ++ optionalMember "nodeSelector" (ofDict str) s.nodeSelector
    ++ optionalMember "restartPolicy" str s.restartPolicy
    ++ optionalMember "schedulerName" str s.schedulerName
    ++ optionalMember "serviceAccountName" str s.serviceAccountName
    ++ optionalMember "tolerations" (ofList Toleration.toJson) s.tolerations
    ++ s.carried.members)

end PodSpec

namespace PodTemplate

def ofDocument? (n : ν) : Option PodTemplate := do
  let field ← lenientFields? n
  some {
    metadata := ← optional ObjectMeta.ofDocument? (field "metadata")
    spec := ← optional PodSpec.ofDocument? (field "spec") }

def toJson (t : PodTemplate) : Json :=
  obj (optionalMember "metadata" ObjectMeta.toJson t.metadata
    ++ optionalMember "spec" PodSpec.toJson t.spec)

end PodTemplate

namespace ContainerStatus

/-- Read the exit code of a terminated container. -/
def terminated? (n : ν) : Option Int32 := do
  orEmpty 0 int32? ((← lenientFields? n) "exitCode")

/-- Read the state of a container: its exit code, if it has terminated. -/
def state? (n : ν) : Option (Option Int32) := do
  optional terminated? ((← lenientFields? n) "terminated")

def ofDocument? (n : ν) : Option ContainerStatus := do
  let field ← lenientFields? n
  some {
    image := ← orEmpty "" text? (field "image")
    imageId := ← orEmpty "" text? (field "imageID")
    name := ← orEmpty "" text? (field "name")
    ready := ← orEmpty false bool? (field "ready")
    restartCount := ← orEmpty 0 int32? (field "restartCount")
    exitCode := ← orEmpty none state? (field "state") }

def toJson (s : ContainerStatus) : Json :=
  obj (member "image" s.image
    ++ member "imageID" s.imageId
    ++ member "name" s.name
    ++ member "ready" (bool s.ready)
    ++ member "restartCount" (ofInt32 s.restartCount)
    ++ optionalMember "state" (fun code =>
      obj (member "terminated" (obj (member "exitCode" (ofInt32 code))))) s.exitCode)

end ContainerStatus

namespace PodStatus

def ofDocument? (n : ν) : Option PodStatus := do
  let field ← lenientFields? n
  some {
    containerStatuses :=
      ← optional (list? ContainerStatus.ofDocument?) (field "containerStatuses")
    phase := ← optional text? (field "phase") }

def toJson (s : PodStatus) : Json :=
  obj (optionalMember "containerStatuses" (ofList ContainerStatus.toJson) s.containerStatuses
    ++ optionalMember "phase" str s.phase)

end PodStatus

namespace Pod

/-- Read a pod. If it says what it is, it has to say that it is a pod. -/
def ofDocument? (n : ν) : Option Pod := do
  let field ← lenientFields? n
  if saysIfAny "v1" (field "apiVersion") && saysIfAny "Pod" (field "kind") then
    some {
      metadata := ← orEmpty {} ObjectMeta.ofDocument? (field "metadata")
      spec := ← optional PodSpec.ofDocument? (field "spec")
      status := ← optional PodStatus.ofDocument? (field "status") }
  else none

def toJson (p : Pod) : Json :=
  obj (member "apiVersion" "v1"
    ++ member "kind" "Pod"
    ++ member "metadata" p.metadata.toJson
    ++ optionalMember "spec" PodSpec.toJson p.spec
    ++ optionalMember "status" PodStatus.toJson p.status)

end Pod

end TrainingJobs
