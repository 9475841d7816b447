import TrainingJobs.Api.Watch
import TrainingJobs.Client.Error
import TrainingJobs.Client.JobsTable
import TrainingJobs.Client.Polling

/-!
# Waiting for a job and watching jobs

To wait for a job is to look at it again and again until it carries a condition that was waited
for. To watch is to be told of every change.
-/

namespace TrainingJobs.Client

/-- The conditions that are waited for unless others are named. -/
def usualConditions : List ConditionType := [.succeeded, .failed]

/-- Look at a job at most so many times, with a rest after every time, until it carries one of the
conditions. -/
def poll (ns name : String) (expected : List ConditionType) (interval : Span) :
    Nat → Program ApiError (Option Job)
  | 0 => pure none
  | rounds + 1 => do
    let job ← (Collection.jobs ns).get name
    if job.hasAnyCondition expected then return some job
    else do
      Program.pause interval
      poll ns name expected interval rounds

def wait (ns name : String) (expected : List ConditionType) (timeout interval : Span) :
    Program ClientError Job := do
  let rounds := (pollRounds timeout interval).toNat
  match ← (poll ns name expected interval rounds).mapError .api with
  | some job => return job
  | none => Program.fail (.timeout name ns expected)

/-- Show every change of a job, or of all jobs of a namespace, for as long as the time allows. The
watch on one job is over when it has finished. -/
def watchJobs (ns : String) (name : Option String) (requests : Nat) (timeout : Span)
    (shown : Job → Program ApiError Unit) : Program ClientError Unit := do
  let step (job : Job) : Program ApiError Bool := do
    shown job
    return name.isSome && job.isFinished
  let _ ← (watch ⟨.jobs ns, name⟩ requests timeout step).mapError fun _ => .watch

end TrainingJobs.Client
