import TrainingJobs.Kubernetes.Pod
import TrainingJobs.JobError
import TrainingJobs.Labels
import TrainingJobs.Overflow

/-!
# What a job is to do

A job declares its replicas by type, each with a template for its pods, and a policy for the run
as a whole. All records here are strict, the pod templates inside apart.
-/

namespace TrainingJobs

open Document Json

/-- When a replica that has ended is started again. -/
inductive RestartPolicy where
  | always
  | onFailure
  | never
  /-- Only after an exit code that another attempt may mend. -/
  | exitCode
  deriving DecidableEq, Repr, Inhabited

namespace RestartPolicy

def all : List RestartPolicy := [always, onFailure, never, exitCode]

def name : RestartPolicy → String
  | always => "Always"
  | onFailure => "OnFailure"
  | never => "Never"
  | exitCode => "ExitCode"

/-- The policy of the pod itself. Restarts by exit code are not the pod's own affair. -/
def podPolicy : RestartPolicy → String
  | always => "Always"
  | onFailure => "OnFailure"
  | never | exitCode => "Never"

def ofDocument? {ν : Type} [Document ν] (n : ν) : Option RestartPolicy :=
  oneOf? (all.map fun p => (p.name, p)) n

end RestartPolicy

/-- An exit code above 127 comes from a signal and is worth another attempt. -/
def isRetryableExitCode (code : Int32) : Bool := 128 ≤ code ∧ code ≤ 255

/-- Which pods are deleted once a job has finished. -/
inductive CleanPodPolicy where
  | all
  | running
  | none
  deriving DecidableEq, Repr, Inhabited

namespace CleanPodPolicy

def every : List CleanPodPolicy := [all, running, none]

def name : CleanPodPolicy → String
  | all => "All"
  | running => "Running"
  | none => "None"

def ofDocument? {ν : Type} [Document ν] (n : ν) : Option CleanPodPolicy :=
  oneOf? (every.map fun p => (p.name, p)) n

end CleanPodPolicy

structure SchedulingPolicy where
  minAvailable : Option Int32 := none
  queue : Option String := none
  priorityClass : Option String := none
  deriving DecidableEq, Repr

namespace SchedulingPolicy

def ofDocument? {ν : Type} [Document ν] (n : ν) : Option SchedulingPolicy := do
  let field ← strictFields? ["minAvailable", "queue", "priorityClass"] n
  some {
    minAvailable := ← optional int32? (field "minAvailable")
    queue := ← optional text? (field "queue")
    priorityClass := ← optional text? (field "priorityClass") }

def toJson (p : SchedulingPolicy) : Json :=
  obj (optionalMember "minAvailable" ofInt32 p.minAvailable
    ++ optionalMember "queue" str p.queue
    ++ optionalMember "priorityClass" str p.priorityClass)

end SchedulingPolicy

/-- How long a job may run, how often its replicas may be restarted, and what stays of it. -/
structure RunPolicy where
  cleanPodPolicy : CleanPodPolicy := .none
  /-- Seconds after which a finished job is deleted. -/
  ttlSecondsAfterFinished : Option Int32 := none
  /-- Seconds after which an unfinished job fails. -/
  activeDeadlineSeconds : Option Int64 := none
  /-- Number of restarts after which the job fails. -/
  backoffLimit : Option Int32 := none
  schedulingPolicy : Option SchedulingPolicy := none
  deriving DecidableEq, Repr

namespace RunPolicy

/-- The deadline lies between one second and the longest one, nothing else is negative. -/
def check (p : RunPolicy) : Except JobError Unit := do
  if let some n := p.activeDeadlineSeconds then
    if n < 1 ∨ longestDeadline < n then throw (.invalidRunPolicy (.deadlineOutOfRange n))
  if let some n := p.ttlSecondsAfterFinished then
    if n < 0 then throw (.invalidRunPolicy (.negativeTimeToLive n))
  if let some n := p.backoffLimit then
    if n < 0 then throw (.invalidRunPolicy (.negativeBackoffLimit n))

def ofDocument? {ν : Type} [Document ν] (n : ν) : Option RunPolicy := do
  let field ← strictFields? ["cleanPodPolicy", "ttlSecondsAfterFinished",
    "activeDeadlineSeconds", "backoffLimit", "schedulingPolicy"] n
  some {
    cleanPodPolicy := ← defaulted .none CleanPodPolicy.ofDocument? (field "cleanPodPolicy")
    ttlSecondsAfterFinished := ← optional int32? (field "ttlSecondsAfterFinished")
    activeDeadlineSeconds := ← optional int64? (field "activeDeadlineSeconds")
    backoffLimit := ← optional int32? (field "backoffLimit")
    schedulingPolicy := ← optional SchedulingPolicy.ofDocument? (field "schedulingPolicy") }

def toJson (p : RunPolicy) : Json :=
  obj (member "cleanPodPolicy" p.cleanPodPolicy.name
    ++ optionalMember "ttlSecondsAfterFinished" ofInt32 p.ttlSecondsAfterFinished
    ++ optionalMember "activeDeadlineSeconds" ofInt64 p.activeDeadlineSeconds
    ++ optionalMember "backoffLimit" ofInt32 p.backoffLimit
    ++ optionalMember "schedulingPolicy" SchedulingPolicy.toJson p.schedulingPolicy)

end RunPolicy

structure ReplicaSpec where
  replicas : Int32 := 1
  template : PodTemplate := {}
  restartPolicy : RestartPolicy := .never
  deriving DecidableEq, Repr

namespace ReplicaSpec

def hasContainers (r : ReplicaSpec) : Bool :=
  match r.template.spec with
  | some spec => !spec.containers.isEmpty
  | none => false

def ofDocument? {ν : Type} [Document ν] (n : ν) : Option ReplicaSpec := do
  let field ← strictFields? ["replicas", "template", "restartPolicy"] n
  some {
    replicas := ← defaulted 1 int32? (field "replicas")
    template := ← defaulted {} PodTemplate.ofDocument? (field "template")
    restartPolicy := ← defaulted .never RestartPolicy.ofDocument? (field "restartPolicy") }

def toJson (r : ReplicaSpec) : Json :=
  obj (member "replicas" (ofInt32 r.replicas)
    ++ member "template" r.template.toJson
    ++ member "restartPolicy" r.restartPolicy.name)

end ReplicaSpec

/-- The port on which replicas meet unless the job names another. -/
def defaultPort : Int32 := 23456

structure JobSpec where
  /-- The replicas by their type. -/
  replicaSpecs : Dict ReplicaSpec := Dict.empty
  runPolicy : RunPolicy := {}
  port : Int32 := defaultPort
  deriving DecidableEq, Repr

namespace JobSpec

/-- The number of all replicas, which wraps around where 32 bits do not hold it. -/
def totalReplicas (s : JobSpec) : Int32 :=
  s.replicaSpecs.values.foldl (fun sum r => sum + r.replicas) 0

def checkedTotal (s : JobSpec) : Checked Int32 :=
  Checked.sum (s.replicaSpecs.values.map (·.replicas))

/-- The type of a master role, if one is declared; the first in key order. -/
def masterType? (s : JobSpec) : Option String := s.replicaSpecs.keys.find? isMasterRole

/-- The replicas of a type, under the name that the job gives it, whatever the case of the letters
it is asked by. -/
def replica? (s : JobSpec) (replicaType : String) : Option (String × ReplicaSpec) :=
  s.replicaSpecs.entries.find? fun e => Text.sameLetters e.1 replicaType

/-- The replicas of one type: none of them negative in number, a master alone, and something to
run. -/
def checkReplica (replicaType : String) (r : ReplicaSpec) : Except JobError Unit :=
  if r.replicas < 0 then
    .error (.invalidReplicaSpec replicaType (.negativeReplicas r.replicas))
  else if isMasterRole replicaType ∧ r.replicas ≠ 1 then
    .error (.invalidReplicaSpec replicaType (.notOneMaster r.replicas))
  else if !r.hasContainers then .error (.invalidReplicaSpec replicaType .noContainers)
  else .ok ()

/-- A job has some type of replicas and at most one master role, and every type passes its own
check. -/
def checkTypes (s : JobSpec) : Except JobError Unit := do
  if s.replicaSpecs.isEmpty then throw .noReplicaSpecs
  if 1 < (s.replicaSpecs.keys.filter isMasterRole).length then
    throw (.invalidReplicaSpec (s.masterType?.getD "") .severalMasters)
  s.replicaSpecs.entries.forM fun e => checkReplica e.1 e.2

/-- A job has replicas, this many, and its run policy passes its own check. -/
def checkCounted (s : JobSpec) (replicas : Int32) : Except JobError Unit := do
  if replicas = 0 then throw .noReplicaSpecs
  s.runPolicy.check

def check (s : JobSpec) : Except JobError Unit := do
  s.checkTypes
  s.checkCounted s.totalReplicas

/-- The check where overflow is checked: it may stop when it counts the replicas. -/
def validate (s : JobSpec) : Checked (Except JobError Unit) :=
  match s.checkTypes with
  | .ok () => s.checkedTotal.map s.checkCounted
  | .error e => .ok (.error e)

def ofDocument? {ν : Type} [Document ν] (n : ν) : Option JobSpec := do
  let field ← strictFields? ["replicaSpecs", "runPolicy", "port"] n
  some {
    replicaSpecs := ← required (dict? ReplicaSpec.ofDocument?) (field "replicaSpecs")
    runPolicy := ← defaulted {} RunPolicy.ofDocument? (field "runPolicy")
    port := ← defaulted defaultPort int32? (field "port") }

def toJson (s : JobSpec) : Json :=
  obj (member "replicaSpecs" (ofDict ReplicaSpec.toJson s.replicaSpecs)
    ++ member "runPolicy" s.runPolicy.toJson
    ++ member "port" (ofInt32 s.port))

end JobSpec

end TrainingJobs
