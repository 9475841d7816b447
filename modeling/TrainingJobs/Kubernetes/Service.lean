import TrainingJobs.Kubernetes.Meta

/-!
# Services

Services as far as jobs use them. All records here are lenient.
-/

namespace TrainingJobs

open Document Json

structure ServicePort where
  name : Option String := none
  port : Int32 := 0
  deriving DecidableEq, Repr

/-- What a service offers, and in front of which pods. -/
structure ServiceSpec where
  clusterIP : Option String := none
  ports : Option (List ServicePort) := none
  publishNotReadyAddresses : Option Bool := none
  selector : Option Labels := none
  deriving DecidableEq, Repr

structure Service where
  metadata : ObjectMeta := {}
  spec : Option ServiceSpec := none
  deriving DecidableEq, Repr

variable {ν : Type} [Document ν]

namespace ServicePort

def ofDocument? (n : ν) : Option ServicePort := do
  let field ← lenientFields? n
  some {
    name := ← optional text? (field "name")
    port := ← orEmpty 0 int32? (field "port") }

def toJson (p : ServicePort) : Json :=
  obj (optionalMember "name" str p.name ++ member "port" (ofInt32 p.port))

end ServicePort

namespace ServiceSpec

def ofDocument? (n : ν) : Option ServiceSpec := do
  let field ← lenientFields? n
  some {
    clusterIP := ← optional text? (field "clusterIP")
    ports := ← optional (list? ServicePort.ofDocument?) (field "ports")
    publishNotReadyAddresses := ← optional bool? (field "publishNotReadyAddresses")
    selector := ← optional (dict? text?) (field "selector") }

def toJson (s : ServiceSpec) : Json :=
  obj (optionalMember "clusterIP" str s.clusterIP
    ++ optionalMember "ports" (ofList ServicePort.toJson) s.ports
    ++ optionalMember "publishNotReadyAddresses" bool s.publishNotReadyAddresses
    ++ optionalMember "selector" (ofDict str) s.selector)

end ServiceSpec

namespace Service

/-- Read a service. If it says what it is, it has to say that it is a service. -/
def ofDocument? (n : ν) : Option Service := do
  let field ← lenientFields? n
  if saysIfAny "v1" (field "apiVersion") && saysIfAny "Service" (field "kind") then
    some {
      metadata := ← orEmpty {} ObjectMeta.ofDocument? (field "metadata")
      spec := ← optional ServiceSpec.ofDocument? (field "spec") }
  else none

def toJson (s : Service) : Json :=
  obj (member "apiVersion" "v1"
    ++ member "kind" "Service"
    ++ member "metadata" s.metadata.toJson
    ++ optionalMember "spec" ServiceSpec.toJson s.spec)

end Service

end TrainingJobs
