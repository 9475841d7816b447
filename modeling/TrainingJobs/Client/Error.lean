import TrainingJobs.Api.Error
import TrainingJobs.Condition
import TrainingJobs.Time.Span.Text

/-!
# What can go wrong for the client
-/

namespace TrainingJobs

inductive FileFault where
  | unreadable
  | invalidManifest
  | invalidConfig
  deriving DecidableEq, Repr

namespace FileFault

def message : FileFault → String
  | unreadable => "failed to read"
  | invalidManifest => "invalid TrainingJob manifest"
  | invalidConfig => "invalid config"

end FileFault

inductive ClientError where
  | api (error : ApiError)
  /-- The job did not come to any of the conditions in time. -/
  | timeout (name ns : String) (conditions : List ConditionType)
  | noPods (name ns : String)
  /-- The watch on jobs broke. -/
  | watch
  /-- A log broke off. -/
  | log
  /-- A span of time is not one. -/
  | span (error : SpanError)
  /-- Something about the job. -/
  | job (error : JobError)
  | file (fault : FileFault)
  /-- A patch is not a document. -/
  | patch
  /-- The context is not configured. -/
  | context
  deriving DecidableEq, Repr

instance : Coe ApiError ClientError := ⟨ClientError.api⟩

namespace ClientError

/-- The error in words, as far as they are the client's own. -/
def message : ClientError → String
  | timeout name ns conditions =>
    "timeout waiting for TrainingJob " ++ name ++ " in namespace " ++ ns
      ++ " to enter one of the conditions [" ++ ", ".intercalate (conditions.map (·.name)) ++ "]"
  | noPods name ns => "no pods found for TrainingJob " ++ name ++ " in namespace " ++ ns
  | api (.refused r) => "kubernetes error: " ++ r.message
  | api _ => "kubernetes error"
  | watch => "watch failed"
  | log => "log stream failed"
  | span _ => "invalid duration"
  | job e => e.message
  | file fault => fault.message
  | patch => "invalid patch"
  | context => "unknown context"

end ClientError

end TrainingJobs
