import TrainingJobs.Client.Arguments
import TrainingJobs.Client.Config
import TrainingJobs.Client.Kubeconfig
import TrainingJobs.Client.Logs
import TrainingJobs.Client.Manifest
import TrainingJobs.Client.Waiting
import TrainingJobs.Json.Printer
import TrainingJobs.Operator.Installation

/-!
# What the commands do

Every command is a program. Its result says whether what the command asked holds; only commands
that ask something can come to no.
-/

namespace TrainingJobs.Client

structure Session where
  config : Config := {}
  /-- The namespace that the connection gives. -/
  connection : String := usualNamespace
  /-- The namespace that the command line names. -/
  inNamespace : Option String := none
  /-- The text of the file that the command names, if it can be read. -/
  file : Option String := none
  /-- How many requests a watch may take. -/
  watchRequests : Nat

namespace Session

/-- The namespace of the job, unless its manifest has a say in it. -/
def namespace_ (s : Session) : String :=
  resolveNamespace s.inNamespace none s.config.inNamespace s.connection

/-- A span that the command line gives, or else the defaults. -/
def span (given : Option Span) (usual : Except SpanError Span) : Program ClientError Span :=
  match given with
  | some s => pure s
  | none => Program.finish (usual.mapError .span)

def create (s : Session) : Program ClientError Unit := do
  let job ← Program.finish (readManifest s.file)
  let ns := resolveNamespace s.inNamespace job.namespace? s.config.inNamespace s.connection
  ((Collection.jobs ns).create job.toJson).forget.mapError .api

def showTable {ε : Type} (jobs : List Job) : Program ε Unit := do
  Program.sayAll (jobsTable jobs (← Program.now)).lines

def showJob {ε : Type} (output : OutputFormat) (job : Job) : Program ε Unit :=
  match output with
  | .table => showTable [job]
  | .json => Program.say job.toJson.arranged.indented

def showJobs {ε : Type} (ns : String) (output : OutputFormat) (jobs : List Job) :
    Program ε Unit :=
  match output with
  | .table =>
    if jobs.isEmpty then Program.say ("No TrainingJobs found in " ++ ns ++ ".")
    else showTable jobs
  | .json => Program.say (Json.ofList Job.toJson jobs).arranged.indented

/-- Show a job, or all jobs of the namespace. -/
def get (s : Session) (name : Option String) (output : OutputFormat) :
    Program ClientError Unit :=
  let jobs := Collection.jobs s.namespace_
  match name with
  | some name => do showJob output (← (jobs.get name).mapError .api)
  | none => do showJobs s.namespace_ output (← jobs.list.mapError .api)

def patch (s : Session) (name : String) : Program ClientError Unit := do
  let change ← Program.finish (readPatch s.file)
  let job ← ((Collection.jobs s.namespace_).merge name change).mapError .api
  Program.say ("TrainingJob " ++ job.name ++ " patched")

def state (s : Session) (name : String) : Program ClientError String := do
  let job ← ((Collection.jobs s.namespace_).get name).mapError .api
  return job.state

def status (s : Session) (name : String) (asked : Option ConditionType) :
    Program ClientError Bool := do
  let state ← s.state name
  match asked with
  | some type => return Text.sameLetters state type.name
  | none => do
    Program.say state
    return true

def logs (s : Session) (name : String) (selector : PodSelector) (container : Option String)
    (follow : Bool) : Program ClientError Unit := do
  let container := container.or s.config.container
  let logs ← podLogs s.namespace_ name selector container follow
  Program.sayAll (logs.flatMap (if follow then logLines else logTexts))

def groupsTable (entries : List GroupVersion) : Table where
  header := ["Group", "Version", "GroupVersion"]
  rows := entries.map fun e =>
    [if e.group.isEmpty then "core" else e.group, e.version, e.groupVersion]

/-- Show the group versions that the API server serves, or those of one group. -/
def showGroups (group : Option String) : Program ClientError Unit := do
  let groups ← servedGroups.mapError .api
  let wanted := groups.groups.filter fun g => group.all (· == g.name)
  let entries := ({ groups with groups := wanted } : ApiGroupList).validEntries
  if entries.isEmpty then
    match group with
    | some group => Program.say ("API group " ++ group ++ " is not served.")
    | none => Program.say "No API groups found."
  else Program.sayAll (groupsTable entries).lines

/-- A program whose command asks nothing. -/
def unasked (p : Program ClientError Unit) : Program ClientError Bool := do
  p
  return true

def perform (s : Session) : Command → Program ClientError Bool
  | .create _ => unasked s.create
  | .get name output isWatch timeout => unasked do
    let timeout ← span timeout s.config.timeout
    if isWatch then
      watchJobs s.namespace_ name s.watchRequests timeout (showJob output)
    else s.get name output
  | .patch name _ => unasked (s.patch name)
  | .delete name => unasked (((Collection.jobs s.namespace_).delete name).mapError .api)
  | .wait name conditions timeout interval => unasked do
    let timeout ← span timeout s.config.timeout
    let interval ← span interval s.config.interval
    let expected := if conditions.isEmpty then usualConditions else conditions
    (wait s.namespace_ name expected timeout interval).forget
  | .status name running succeeded =>
    s.status name (if running then some .running else if succeeded then some .succeeded else none)
  | .pods name master replicaType replicaIndex => unasked do
    let selector : PodSelector := ⟨master, replicaType, replicaIndex⟩
    Program.sayAll (← (podNames s.namespace_ name selector).mapError .api)
  | .logs name all replicaType replicaIndex follow container =>
    unasked (s.logs name (.forLogs all replicaType replicaIndex) container follow)
  | .discovery group => unasked (showGroups group)

end Session

/-- What the client finds when it begins. -/
structure Surroundings where
  /-- The text of the file of defaults, if there is one. -/
  config : Option String
  /-- The text of the configuration of clusters, if there is one. -/
  kubeconfig : Option String
  /-- The text of the file that the command names, if it can be read. -/
  file : Option String
  /-- How many requests a watch may take. -/
  watchRequests : Nat

def Command.file? : Command → Option String
  | .create file | .patch _ file => some file
  | _ => none

def Arguments.program (a : Arguments) (s : Surroundings) : Program ClientError Bool := do
  let config ← Program.finish (Config.ofFile s.config)
  let connection ← Program.finish (connect s.kubeconfig a.context)
  let session : Session := {
    config := config
    connection := connection
    inNamespace := a.inNamespace
    file := s.file
    watchRequests := s.watchRequests }
  session.perform a.command

/-- The program where overflow is checked: it stops at a manifest that asks for too many replicas.
Tables are shown as they are elsewhere. -/
def Arguments.checkedProgram (a : Arguments) (s : Surroundings) :
    Checked (Program ClientError Bool) :=
  match a.command, Config.ofFile s.config, connect s.kubeconfig a.context with
  | .create _, .ok _, .ok _ => (checkedManifest s.file).map fun _ => a.program s
  | _, _, _ => .ok (a.program s)

end TrainingJobs.Client
