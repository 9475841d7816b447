import TrainingJobs.Kubernetes.Meta

/-!
# Definitions of resources

Of a definition that the API server answers with, only its conditions matter: it is established
once its objects can be used. All records here are lenient.
-/

namespace TrainingJobs

open Document Json

variable {ν : Type} [Document ν]

/-- A definition of a kind of objects. -/
structure ResourceDefinition where
  metadata : ObjectMeta := {}
  group : String := ""
  plural : String := ""
  scope : String := ""
  /-- The versions by their names, and whether each is served. -/
  versions : List (String × Bool) := []
  /-- The types of its conditions and what is said of each. -/
  conditions : List (String × String) := []
  deriving DecidableEq, Repr

namespace ResourceDefinition

/-- The first condition of that type says that objects can be used. -/
def isEstablished (d : ResourceDefinition) : Bool :=
  d.conditions.lookup "Established" == some "True"

def version? (n : ν) : Option (String × Bool) := do
  let field ← lenientFields? n
  let _ ← orEmpty false bool? (field "storage")
  let _ ← optional bool? (field "deprecated")
  let _ ← optional text? (field "deprecationWarning")
  some (← orEmpty "" text? (field "name"), ← orEmpty false bool? (field "served"))

/-- Read what the objects are called; their plural. -/
def plural? (n : ν) : Option String := do
  let field ← lenientFields? n
  let _ ← optional (list? text?) (field "categories")
  let _ ← orEmpty "" text? (field "kind")
  let _ ← optional text? (field "listKind")
  let _ ← optional (list? text?) (field "shortNames")
  let _ ← optional text? (field "singular")
  orEmpty "" text? (field "plural")

def condition? (n : ν) : Option (String × String) := do
  let field ← lenientFields? n
  let _ ← optional ObjectMeta.timestamp? (field "lastTransitionTime")
  let _ ← optional text? (field "message")
  let _ ← optional text? (field "reason")
  some (← orEmpty "" text? (field "type"), ← orEmpty "" text? (field "status"))

/-- Read the conditions of a status. -/
def conditions? (n : ν) : Option (List (String × String)) := do
  let field ← lenientFields? n
  let _ ← optional (list? text?) (field "storedVersions")
  orEmpty [] (list? condition?) (field "conditions")

/-- Read what is defined into a definition with this metadata. -/
def spec? (metadata : ObjectMeta) (n : ν) : Option ResourceDefinition := do
  let field ← lenientFields? n
  let _ ← optional bool? (field "preserveUnknownFields")
  some {
    metadata := metadata
    group := ← orEmpty "" text? (field "group")
    plural := ← orEmpty "" plural? (field "names")
    scope := ← orEmpty "" text? (field "scope")
    versions := ← orEmpty [] (list? version?) (field "versions") }

/-- Read a definition. If it says what it is, it has to say that it is a definition. -/
def ofDocument? (n : ν) : Option ResourceDefinition := do
  let field ← lenientFields? n
  if saysIfAny "apiextensions.k8s.io/v1" (field "apiVersion")
      && saysIfAny "CustomResourceDefinition" (field "kind") then
    let metadata ← orEmpty {} ObjectMeta.ofDocument? (field "metadata")
    let definition ← orEmpty { metadata := metadata } (spec? metadata) (field "spec")
    some { definition with conditions := ← orEmpty [] conditions? (field "status") }
  else none

end ResourceDefinition

end TrainingJobs
