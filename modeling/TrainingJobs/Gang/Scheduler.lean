import TrainingJobs.Api.Resource
import TrainingJobs.Discovery
import TrainingJobs.Kubernetes.Meta
import TrainingJobs.Text.Ascii
import TrainingJobs.Text.Blank

/-!
# Gang schedulers

A gang scheduler starts the pods of a job all together or not at all. Volcano finds the group of a
pod in an annotation of the pod, the scheduler plugins find it in a label.
-/

namespace TrainingJobs

/-- The annotation in which Volcano finds the group of a pod. -/
def volcanoGroupAnnotation : String := "scheduling.k8s.io/group-name"

/-- The label in which the scheduler plugins find the group of a pod. -/
def schedulerPluginsGroupLabel : String := "scheduling.x-k8s.io/pod-group"

/-- Which gang scheduler starts the pods of jobs, if any. -/
inductive GangScheduler where
  | none
  | volcano
  | schedulerPlugins
  deriving DecidableEq, Repr, Inhabited

namespace GangScheduler

def name : GangScheduler → String
  | none => "none"
  | volcano => "volcano"
  | schedulerPlugins => "scheduler-plugins"

/-- The choice that a text names, whatever its case and the white space around it. No text at all
chooses no gang scheduler. -/
def ofText (text : String) : Except JobError GangScheduler :=
  let text := Text.lower (Text.trim text)
  if text = "" ∨ text = "none" then .ok none
  else if text = "volcano" then .ok volcano
  else if text = "scheduler-plugins" then .ok schedulerPlugins
  else .error (.unknownGangScheduler text)

def schedulerName? : GangScheduler → Option String
  | none => .none
  | volcano => some "volcano"
  | schedulerPlugins => some "scheduler-plugins-scheduler"

/-- The API of the pod groups that the scheduler knows. -/
def podGroupVersion? : GangScheduler → Option GroupVersion
  | none => .none
  | volcano => some ⟨"scheduling.volcano.sh/v1beta1", "v1beta1"⟩
  | schedulerPlugins => some ⟨"scheduling.x-k8s.io/v1alpha1", "v1alpha1"⟩

/-- The resource of the pod groups that the scheduler knows. -/
def podGroupResource? (s : GangScheduler) : Option ApiResource :=
  s.podGroupVersion?.map fun v => ⟨v.group, v.version, "PodGroup", "podgroups"⟩

/-- Tie a pod to its group. -/
def markPod (s : GangScheduler) (m : ObjectMeta) (group : String) : ObjectMeta :=
  match s with
  | none => m
  | volcano =>
    let annotations := m.annotations.getD Dict.empty
    { m with annotations := some (annotations.insert volcanoGroupAnnotation group) }
  | schedulerPlugins =>
    let labels := m.labels.getD Dict.empty
    { m with labels := some (labels.insert schedulerPluginsGroupLabel group) }

end GangScheduler

end TrainingJobs
