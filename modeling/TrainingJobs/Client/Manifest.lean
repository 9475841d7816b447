import TrainingJobs.Client.Error
import TrainingJobs.Job.Basic
import TrainingJobs.Yaml.Value

/-!
# Manifests and patches

A job is created from a manifest and changed by a patch. Both are YAML files; JSON is YAML too.
-/

namespace TrainingJobs.Client

def fileText : Option String → Except ClientError String
  | some text => .ok text
  | none => .error (.file .unreadable)

/-- The job that a manifest describes. Its specification has to pass the check. -/
def readManifest (file : Option String) : Except ClientError Job := do
  match (Yaml.Node.ofText? (← fileText file)).bind Job.ofDocument? with
  | some job =>
    match job.spec.check with
    | .ok () => .ok job
    | .error e => .error (.job e)
  | none => .error (.file .invalidManifest)

def checkedManifest (file : Option String) : Checked (Except ClientError Job) :=
  match (file.bind Yaml.Node.ofText?).bind Job.ofDocument? with
  | some job => job.spec.validate.map fun _ => readManifest file
  | none => .ok (readManifest file)

def readPatch (file : Option String) : Except ClientError Json := do
  match (Yaml.Node.ofText? (← fileText file)).bind Yaml.Node.toJson? with
  | some patch => .ok patch
  | none => .error .patch

end TrainingJobs.Client
