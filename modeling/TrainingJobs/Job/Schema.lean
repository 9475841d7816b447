import TrainingJobs.Job.Basic
import TrainingJobs.Json.Schema

/-!
# The schema of training jobs

What a manifest of a job and its status may look like. The schema is stricter than the readers
where everything that is written has a field anyway.
-/

namespace TrainingJobs

open Json Schema

namespace GroupVersion

/-- The schema of an entry. Both fields are always written. -/
def schema : Schema :=
  record [
      ("groupVersion", (text.withDefault "").described
        "\x60\"<group>/<version>\"\x60, or only \x60\"<version>\"\x60 for the core group."),
      ("version", (text.withDefault "").described
        "The version segment of \x60group_version\x60.")]
    ["groupVersion", "version"]

end GroupVersion

namespace Condition

def schema : Schema :=
  record [
      ("type", oneOf (ConditionType.all.map (·.name))),
      ("status", oneOf (ConditionStatus.all.map (·.name))),
      ("reason", text.withDefault ""),
      ("message", text.withDefault ""),
      ("lastUpdateTime", text.nullable),
      ("lastTransitionTime", text.nullable)]
    ["status", "type"]

end Condition

namespace ReplicaStatus

def schema : Schema :=
  let count := int32.withDefault (int 0)
  record [("active", count), ("succeeded", count), ("failed", count)] []

end ReplicaStatus

namespace JobStatus

def schema : Schema :=
  record [
      ("conditions", list Condition.schema),
      ("replicaStatuses", dictionary ReplicaStatus.schema),
      ("startTime", text.nullable),
      ("completionTime", text.nullable),
      ("restartCount", (int32.withDefault (int 0)).described
        "Pods the operator deleted to restart them."),
      ("observedGeneration", int64.nullable),
      ("servedVersion", GroupVersion.schema.nullable.described
        "Discovery entry of the API version this status was written through.")]
    []

end JobStatus

namespace SchedulingPolicy

def schema : Schema :=
  record [
      ("minAvailable", int32.nullable),
      ("queue", text.nullable),
      ("priorityClass", text.nullable)]
    []

end SchedulingPolicy

namespace RunPolicy

def schema : Schema :=
  let usual : RunPolicy := {}
  let policies := oneOf (CleanPodPolicy.every.map (·.name))
  record [
      ("cleanPodPolicy", (policies.withDefault usual.cleanPodPolicy.name).described
        "Which pods are deleted once a job finishes."),
      ("ttlSecondsAfterFinished", int32.nullable),
      ("activeDeadlineSeconds", int64.nullable),
      ("backoffLimit", int32.nullable),
      ("schedulingPolicy", SchedulingPolicy.schema.nullable)]
    []

end RunPolicy

namespace ReplicaSpec

def schema : Schema :=
  let usual : ReplicaSpec := {}
  let policies := oneOf (RestartPolicy.all.map (·.name))
  record [
      ("replicas", int32.withDefault (ofInt32 usual.replicas)),
      ("template", anyObject.withDefault usual.template.toJson),
      ("restartPolicy", policies.withDefault usual.restartPolicy.name)]
    []

end ReplicaSpec

namespace JobSpec

def schema : Schema :=
  let usual : JobSpec := {}
  record [
      ("replicaSpecs", (dictionary ReplicaSpec.schema).described
        "Replica type (\x60Master\x60, \x60Worker\x60, ...) to its pod template."),
      ("runPolicy", RunPolicy.schema.withDefault usual.runPolicy.toJson),
      ("port", (int32.withDefault (ofInt32 usual.port)).described
        "Rendezvous port exposed by every replica service.")]
    ["replicaSpecs"]

end JobSpec

namespace Job

def schema : Schema :=
  (record [("spec", JobSpec.schema), ("status", JobStatus.schema.nullable)] ["spec"]).described
    "Auto-generated derived type for TrainingJobSpec via \x60CustomResource\x60"

end Job

end TrainingJobs
