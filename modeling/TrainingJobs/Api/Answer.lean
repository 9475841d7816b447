import TrainingJobs.Api.Error
import TrainingJobs.Api.Request
import TrainingJobs.Document
import TrainingJobs.Json.Reader

/-!
# Answers of the API server

An answer with a code of 400 or above refuses the request. Its body should tell why in a status;
if it does not, the code and the body itself have to do. The body of any other answer is the JSON
text of what was asked for.
-/

namespace TrainingJobs

open Document Json

/-- What an answer says about a list besides its items. -/
structure ListMeta where
  /-- Where the list goes on, if there is more of it. -/
  continue? : Option String := none
  remainingItemCount : Option Int64 := none
  resourceVersion : Option String := none
  selfLink : Option String := none
  deriving DecidableEq, Repr

namespace ListMeta

/-- Read the metadata of a list: a lenient record. -/
def ofJson? (j : Json) : Option ListMeta := do
  let field ← lenientFields? j
  some {
    continue? := ← optional text? (field "continue")
    remainingItemCount := ← optional int64? (field "remainingItemCount")
    resourceVersion := ← optional text? (field "resourceVersion")
    selfLink := ← optional text? (field "selfLink") }

end ListMeta

namespace Refusal

/-- One of the causes of a refusal: a strict record of texts. -/
def cause? (j : Json) : Option Unit := do
  let field ← strictFields? ["reason", "message", "field"] j
  let _ ← ["reason", "message", "field"].mapM fun name => defaulted "" text? (field name)

/-- The details of a refusal, a strict record, have to be well-formed too. -/
def details? (j : Json) : Option Unit := do
  let texts := ["name", "group", "kind", "uid"]
  let field ← strictFields? (texts ++ ["causes", "retryAfterSeconds"]) j
  let _ ← texts.mapM fun name => defaulted "" text? (field name)
  let _ ← defaulted [] (list? cause?) (field "causes")
  let _ ← defaulted 0 (below? UInt32.size) (field "retryAfterSeconds")

/-- Read a status that tells of a refusal: a strict record whose fields may all be missing. -/
def ofJson? (j : Json) : Option Refusal := do
  let field ← mappingFields? ["status", "code", "message", "metadata", "reason", "details"] j
  let _ ← optional (oneOf? [("Success", ()), ("Failure", ())]) (field "status")
  let code ← defaulted 0 (below? UInt16.size) (field "code")
  let message ← defaulted "" text? (field "message")
  let _ ← optional ListMeta.ofJson? (field "metadata")
  let reason ← defaulted "" text? (field "reason")
  let _ ← optional details? (field "details")
  some ⟨code, reason, message⟩

end Refusal

namespace Answer

/-- The JSON value that a text is, if it is one. -/
def json? (text : String) : Option Json := (Json.ofText text).toOption

def refusal (a : Answer) : Refusal :=
  match (json? a.body).bind Refusal.ofJson? with
  | some r => r
  | none => ⟨a.status, "Failed to parse error data", a.body⟩

/-- The body of an answer that is no refusal. -/
def accepted (a : Answer) : Except ApiError String :=
  if 400 ≤ a.status then .error (.refused a.refusal) else .ok a.body

def decode {α : Type} (read : Json → Option α) (a : Answer) : Except ApiError α := do
  match (json? (← a.accepted)).bind read with
  | some x => .ok x
  | none => .error .undecodable

/-- The answer to a deletion: either a status or the object, as it says itself. -/
def deletion? {α : Type} (read : Json → Option α) (j : Json) : Option Unit :=
  match j.arranged.get? "kind" with
  | some (.str "Status") => (Refusal.ofJson? j).map fun _ => ()
  | _ => (read j).map fun _ => ()

end Answer

structure Listing (α : Type) where
  metadata : ListMeta := {}
  items : List α

namespace Listing

/-- Read a list of objects. Its items have to be there; null stands for none. -/
def ofJson? {α : Type} (read : Json → Option α) (j : Json) : Option (Listing α) := do
  let field ← mappingFields? ["metadata", "items"] j
  some {
    metadata := ← defaulted {} ListMeta.ofJson? (field "metadata")
    items := (← required (nullable? (list? read)) (field "items")).getD [] }

end Listing

end TrainingJobs
