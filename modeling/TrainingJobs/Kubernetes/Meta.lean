import TrainingJobs.Kubernetes.Carried
import TrainingJobs.Time.Timestamp

/-!
# Object metadata

What every object of the cluster carries: its name and namespace, its labels and annotations, its
owners and what the API server keeps about it. All records here are lenient.
-/

namespace TrainingJobs

open Document Json

/-- Labels or annotations by their keys. -/
abbrev Labels := Dict String

structure OwnerReference where
  apiVersion : String := ""
  kind : String := ""
  name : String := ""
  uid : String := ""
  controller : Option Bool := none
  blockOwnerDeletion : Option Bool := none
  deriving DecidableEq, Repr

namespace OwnerReference

def ofDocument? {ν : Type} [Document ν] (n : ν) : Option OwnerReference := do
  let field ← lenientFields? n
  some {
    apiVersion := ← orEmpty "" text? (field "apiVersion")
    kind := ← orEmpty "" text? (field "kind")
    name := ← orEmpty "" text? (field "name")
    uid := ← orEmpty "" text? (field "uid")
    controller := ← optional bool? (field "controller")
    blockOwnerDeletion := ← optional bool? (field "blockOwnerDeletion") }

def toJson (r : OwnerReference) : Json :=
  obj (member "apiVersion" r.apiVersion
    ++ optionalMember "blockOwnerDeletion" bool r.blockOwnerDeletion
    ++ optionalMember "controller" bool r.controller
    ++ member "kind" r.kind
    ++ member "name" r.name
    ++ member "uid" r.uid)

end OwnerReference

structure ObjectMeta where
  annotations : Option Labels := none
  creationTimestamp : Option Instant := none
  deletionGracePeriodSeconds : Option Int64 := none
  deletionTimestamp : Option Instant := none
  finalizers : Option (List String) := none
  generateName : Option String := none
  generation : Option Int64 := none
  labels : Option Labels := none
  name : Option String := none
  namespace_ : Option String := none
  ownerReferences : Option (List OwnerReference) := none
  resourceVersion : Option String := none
  selfLink : Option String := none
  uid : Option String := none
  /-- Who has set which field. -/
  carried : Carried ["managedFields"] := .empty
  deriving DecidableEq, Repr, Inhabited

namespace ObjectMeta

/-- The name, else the name that one is to be generated from, else no text. -/
def displayName (m : ObjectMeta) : String := (m.name.or m.generateName).getD ""

def timestamp? {ν : Type} [Document ν] (n : ν) : Option Instant :=
  (text? n).bind Timestamp.read?

def ofDocument? {ν : Type} [Document ν] (n : ν) : Option ObjectMeta := do
  let field ← lenientFields? n
  some {
    annotations := ← optional (dict? text?) (field "annotations")
    creationTimestamp := ← optional timestamp? (field "creationTimestamp")
    deletionGracePeriodSeconds := ← optional int64? (field "deletionGracePeriodSeconds")
    deletionTimestamp := ← optional timestamp? (field "deletionTimestamp")
    finalizers := ← optional (list? text?) (field "finalizers")
    generateName := ← optional text? (field "generateName")
    generation := ← optional int64? (field "generation")
    labels := ← optional (dict? text?) (field "labels")
    name := ← optional text? (field "name")
    namespace_ := ← optional text? (field "namespace")
    ownerReferences :=
      ← optional (list? OwnerReference.ofDocument?) (field "ownerReferences")
    resourceVersion := ← optional text? (field "resourceVersion")
    selfLink := ← optional text? (field "selfLink")
    uid := ← optional text? (field "uid")
    carried := ← Carried.ofFields? field _ }

/-- Write a timestamp to the second. -/
def timestampJson (t : Instant) : Json := str (Timestamp.writeSeconds t)

def toJson (m : ObjectMeta) : Json :=
  obj (optionalMember "annotations" (ofDict str) m.annotations
    ++ optionalMember "creationTimestamp" timestampJson m.creationTimestamp
    ++ optionalMember "deletionGracePeriodSeconds" ofInt64 m.deletionGracePeriodSeconds
    ++ optionalMember "deletionTimestamp" timestampJson m.deletionTimestamp
    ++ optionalMember "finalizers" (ofList str) m.finalizers
    ++ optionalMember "generateName" str m.generateName
    ++ optionalMember "generation" ofInt64 m.generation
    ++ optionalMember "labels" (ofDict str) m.labels
    ++ optionalMember "name" str m.name
    ++ optionalMember "namespace" str m.namespace_
    ++ optionalMember "ownerReferences" (ofList OwnerReference.toJson) m.ownerReferences
    ++ optionalMember "resourceVersion" str m.resourceVersion
    ++ optionalMember "selfLink" str m.selfLink
    ++ optionalMember "uid" str m.uid
    ++ m.carried.members)

end ObjectMeta

end TrainingJobs
