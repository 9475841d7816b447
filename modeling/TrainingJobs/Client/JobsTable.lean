import TrainingJobs.Client.Table
import TrainingJobs.Job.Basic
import TrainingJobs.Time.Span.Text
import TrainingJobs.Time.Timestamp

/-!
# Jobs in a table

One row for each job: what it is called, what has become of it, and how long it has run.
-/

namespace TrainingJobs.Client

/-- The state of a job, which is pending before its first condition. -/
def stateShown (j : Job) : String := if j.state.isEmpty then "Pending" else j.state

/-- Active, succeeded and failed pods of all types, and how many the job declares. -/
def replicasShown (status : JobStatus) (total : Int32) : String :=
  let sum (count : ReplicaStatus → Int32) : String :=
    Text.showInt32 ((status.replicaStatuses.values.map count).foldl (· + ·) 0)
  sum (·.active) ++ "/" ++ sum (·.succeeded) ++ "/" ++ sum (·.failed)
    ++ " of " ++ Text.showInt32 total

/-- A text that should be a timestamp, to the second in UTC if it is one. -/
def startShown : Option String → String
  | some text =>
    match Timestamp.read? text with
    | some t => Timestamp.dateText t.date ++ " " ++ Timestamp.timeText t ++ " UTC"
    | none => text
  | none => "-"

/-- How long a job ran, or has been running by `now`. -/
def durationShown (status : JobStatus) (now : Instant) : String :=
  match status.startTime.bind Timestamp.read? with
  | none => "-"
  | some start =>
    let finish := (status.completionTime.bind Timestamp.read?).getD now
    match Span.ofNanoseconds? (finish.since start) with
    | some s => s.inWords
    | none => "-"

def jobRow (now : Instant) (j : Job) : List String :=
  let status := j.status.getD {}
  [j.name, j.namespace?.getD "", stateShown j, replicasShown status j.spec.totalReplicas,
    Text.showInt32 status.restartCount, startShown status.startTime, durationShown status now]

def jobsTable (jobs : List Job) (now : Instant) : Table where
  header := ["Name", "Namespace", "State", "Replicas", "Restarts", "Started", "Duration"]
  rows := jobs.map (jobRow now)

def checkedTable (jobs : List Job) (now : Instant) : Checked Table := do
  jobs.forM fun j => do
    let counts := (j.status.getD {}).replicaStatuses.values
    let _ ← j.spec.checkedTotal
    let _ ← Checked.sum (counts.map (·.active))
    let _ ← Checked.sum (counts.map (·.succeeded))
    let _ ← Checked.sum (counts.map (·.failed))
  return jobsTable jobs now

end TrainingJobs.Client
