import TrainingJobs.Api.Collection
import TrainingJobs.Operator.Reconcile

/-!
# Calls as requests

What each call of the operator comes to on a real cluster. To create what is there already and to
delete what is not there any more counts as done. Without a gang scheduler there are no pod
groups, and calls about them do nothing.
-/

namespace TrainingJobs

open Document Json

/-- Do without the result, and take a refusal with this code for success. -/
def Program.ignoring {α : Type} (code : Nat) (p : Program ApiError α) : Program ApiError Unit :=
  p.mapResult fun
    | .ok _ => .ok ()
    | .error e => if e.hasCode code then .ok () else .error e

def Collection.serviceNames (ns selector : String) : Program ApiError NameSet := do
  let found ← (Collection.services ns).list (some selector)
  return NameSet.ofNames (found.map fun s => s.metadata.displayName)

/-- Read an object of which nothing but its metadata is known. -/
def readAnyObject (j : Json) : Option ObjectMeta := do
  let field ← mappingFields? ["metadata"] j
  defaulted {} ObjectMeta.ofDocument? (field "metadata")

namespace OperatorOptions

/-- The pod groups of a namespace, if the gang scheduler knows any. -/
def podGroups? (o : OperatorOptions) (ns : String) : Option (Collection ObjectMeta) :=
  o.gangScheduler.podGroupResource?.map fun r => ⟨r, some ns, readAnyObject⟩

def statusPatch (status : JobStatus) : Json := obj (member "status" status.toJson)

def perform (o : OperatorOptions) : Call → Program ApiError Unit
  | .listPods ns selector => ((Collection.pods ns).list (some selector)).forget
  | .listServiceNames ns selector => (Collection.serviceNames ns selector).forget
  | .createPod ns pod => ((Collection.pods ns).create pod.toJson).ignoring 409
  | .createService ns service => ((Collection.services ns).create service.toJson).ignoring 409
  | .deletePod ns name => ((Collection.pods ns).delete name).ignoring 404
  | .deleteService ns name => ((Collection.services ns).delete name).ignoring 404
  | .applyPodGroup ns group =>
    match o.podGroups? ns with
    | some groups => (groups.apply o.fieldManager group.name group.toJson).forget
    | none => pure ()
  | .deletePodGroup ns name =>
    match o.podGroups? ns with
    | some groups => (groups.delete name false).ignoring 404
    | none => pure ()
  | .patchStatus ns name status =>
    ((Collection.jobs ns).mergeStatus o.fieldManager name (statusPatch status)).forget
  | .deleteJob ns name => ((Collection.jobs ns).delete name).ignoring 404

end OperatorOptions

end TrainingJobs
