import TrainingJobs.Api.Answer
import TrainingJobs.Api.Program
import TrainingJobs.Api.Resource
import TrainingJobs.Job.Basic
import TrainingJobs.Kubernetes.Service

/-!
# Collections of objects

What can be asked of the API server about the objects of one kind in one place: to list them, and
to get, create, change and delete one of them by its name. An object has to have a name to be
asked for. Everything here is a program that sends one request.
-/

namespace TrainingJobs

open Document Json

/-- Where the API server keeps objects of one kind, and how they are read. -/
structure Collection (α : Type) where
  resource : ApiResource
  /-- The namespace they belong to, if they belong to one. -/
  inNamespace : Option String
  read : Json → Option α

def Request.exchange (r : Request) : Program ApiError Answer :=
  if r.isUsable then Program.answer r else Program.fail .unusable

def Request.ask {α : Type} (r : Request) (read : Json → Option α) : Program ApiError α := do
  let a ← r.exchange
  Program.finish (a.decode read)

def Request.askText (r : Request) : Program ApiError String := do
  let a ← r.exchange
  Program.finish a.accepted

namespace Collection

variable {α : Type}

def pods (ns : String) : Collection Pod := ⟨.pods, some ns, Pod.ofDocument?⟩

def services (ns : String) : Collection Service := ⟨.services, some ns, Service.ofDocument?⟩

def jobs (ns : String) : Collection Job := ⟨.jobs, some ns, Job.ofDocument?⟩

def path (c : Collection α) : String := c.resource.path c.inNamespace

def pathTo (c : Collection α) (name : String) : Program ApiError String :=
  if name.isEmpty then Program.fail .unusable else pure (c.path ++ "/" ++ name)

def list (c : Collection α) (selector : Option String := none) : Program ApiError (List α) := do
  let query := selector.toList.map fun s => ("labelSelector", s)
  let listing ← Request.ask { path := c.path, query := query } (Listing.ofJson? c.read)
  return listing.items

def get (c : Collection α) (name : String) : Program ApiError α := do
  Request.ask { path := ← c.pathTo name } c.read

def create (c : Collection α) (object : Json) : Program ApiError α :=
  Request.ask
    { method := .post, path := c.path, contentType := some "application/json"
      body := some object }
    c.read

/-- Delete the object of that name. What depends on it may be deleted later `inBackground`. -/
def delete (c : Collection α) (name : String) (inBackground : Bool := true) :
    Program ApiError Unit := do
  let body := if inBackground then member "propagationPolicy" "Background" else []
  Request.ask
    { method := .delete, path := ← c.pathTo name, contentType := some "application/json"
      body := some (obj body) }
    (Answer.deletion? c.read)

/-- The name of whoever makes a change may not be long. -/
def checkManager (fieldManager : String) : Program ApiError Unit :=
  if 128 < fieldManager.utf8ByteSize then Program.fail .unusable else pure ()

def merge (c : Collection α) (name : String) (patch : Json) : Program ApiError α := do
  Request.ask
    { method := .patch, path := ← c.pathTo name
      contentType := some "application/merge-patch+json", body := some patch }
    c.read

/-- Change the status of the object of that name, in the name of a field manager. -/
def mergeStatus (c : Collection α) (fieldManager name : String) (patch : Json) :
    Program ApiError α := do
  let path ← c.pathTo name
  checkManager fieldManager
  Request.ask
    { method := .patch, path := path ++ "/status", query := [("fieldManager", fieldManager)]
      contentType := some "application/merge-patch+json", body := some patch }
    c.read

/-- Make an object be as it is given, taking over fields that others manage. -/
def apply (c : Collection α) (fieldManager name : String) (object : Json) :
    Program ApiError α := do
  let path ← c.pathTo name
  checkManager fieldManager
  Request.ask
    { method := .patch, path := path
      query := [("force", "true"), ("fieldManager", fieldManager)]
      contentType := some "application/apply-patch+yaml", body := some object }
    c.read

end Collection

end TrainingJobs
