import TrainingJobs.Api.Collection
import TrainingJobs.Client.Error
import TrainingJobs.Text.Split

/-!
# Pods of a job and their logs
-/

namespace TrainingJobs.Client

/-- The names of the job's pods that a selector wants, in order. -/
def podNames (ns name : String) (selector : PodSelector) : Program ApiError (List String) := do
  let found ← (Collection.pods ns).list (some (selectorText (selector.labels name)))
  return (found.map fun p => p.metadata.displayName).mergeSort fun a b => decide (a ≤ b)

def podLog (ns pod : String) (container : Option String) (follow : Bool) :
    Program ApiError String := do
  let path ← (Collection.pods ns).pathTo pod
  Request.askText {
    path := path ++ "/log"
    query := (container.toList.map fun c => ("container", c))
      ++ if follow then [("follow", "true")] else [] }

/-- The logs of the job's pods that a selector wants, of which there has to be one. -/
def podLogs (ns name : String) (selector : PodSelector) (container : Option String)
    (follow : Bool) : Program ClientError (List (String × String)) := do
  let pods ← (podNames ns name selector).mapError .api
  if pods.isEmpty then Program.fail (.noPods name ns)
  else
    pods.mapM fun pod => do
      return (pod, ← (podLog ns pod container follow).mapError .api)

/-- A log under the name of its pod. -/
def logTexts (log : String × String) : List String :=
  ["The logs of Pod " ++ log.1 ++ ":", log.2]

/-- Every line of a log with the name of its pod. -/
def logLines (log : String × String) : List String :=
  (Text.lines log.2.toList).map fun line => "[Pod " ++ log.1 ++ "]: " ++ String.ofList line

end TrainingJobs.Client
