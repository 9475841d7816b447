import TrainingJobs.Api.Resource
import TrainingJobs.Job.Schema

/-!
# The definition of training jobs

Training jobs become known to an API server by a definition: what they are called, which versions
of them there are, and what each of them looks like.
-/

namespace TrainingJobs

open Json

/-- The name of the definition of training jobs. -/
def definitionName : String := pluralName ++ "." ++ apiGroup

/-- A column that is shown when jobs are listed. -/
structure PrinterColumn where
  name : String
  type : String
  /-- Where the column's value stands in a job. -/
  jsonPath : String
  deriving DecidableEq, Repr

namespace PrinterColumn

def all : List PrinterColumn := [
  ⟨"State", "string", ".status.conditions[-1:].type"⟩,
  ⟨"Restarts", "integer", ".status.restartCount"⟩,
  ⟨"Age", "date", ".metadata.creationTimestamp"⟩]

def toJson (c : PrinterColumn) : Json :=
  obj (member "name" c.name ++ member "type" c.type ++ member "jsonPath" c.jsonPath)

end PrinterColumn

def jobNames : Json :=
  obj (member "kind" kindName
    ++ member "plural" pluralName
    ++ member "singular" (Text.lower kindName)
    ++ member "shortNames" (ofList str ["tj"])
    ++ member "categories" (arr []))

/-- The one version of training jobs. Their status is changed apart from the rest. -/
def jobVersion : Json :=
  let schema := obj (member "title" kindName ++ Job.schema.members)
  obj (member "name" apiVersion
    ++ member "served" (bool true)
    ++ member "storage" (bool true)
    ++ member "schema" (obj (member "openAPIV3Schema" schema))
    ++ member "additionalPrinterColumns" (ofList PrinterColumn.toJson PrinterColumn.all)
    ++ member "subresources" (obj (member "status" (obj []))))

def jobDefinition : Json :=
  obj (member "apiVersion" ApiResource.definitions.apiVersion
    ++ member "kind" ApiResource.definitions.kind
    ++ member "metadata" (obj (member "name" definitionName))
    ++ member "spec" (obj (member "group" apiGroup
      ++ member "names" jobNames
      ++ member "scope" "Namespaced"
      ++ member "versions" (arr [jobVersion]))))

end TrainingJobs
