import TrainingJobs.Api.Collection
import TrainingJobs.Text.Split

/-!
# Watching objects

A watch first lists the objects, page by page, and then has the API server tell of every change
from the version of the list on. The server closes such a stream after a while; the watch then
opens the next one where the last one ended.

Whoever watches gives a step, which takes the objects one by one and says whether the watch is
over.
-/

namespace TrainingJobs

open Document Json

/-- What a line of a stream of changes tells. -/
inductive WatchEvent (α : Type) where
  /-- An object is there or has changed; the object and its version. -/
  | applied (object : α) (version : String)
  /-- An object is gone; its version. -/
  | deleted (version : String)
  /-- All changes up to a version have been told. -/
  | bookmark (version : String)

namespace WatchEvent

variable {α : Type}

def version : WatchEvent α → String
  | applied _ version | deleted version | bookmark version => version

/-- The version of an object, which may not be empty. -/
def versionOf? (object : Json) : Option String := do
  let field ← lenientFields? object
  let metadata ← ObjectMeta.ofDocument? (← field "metadata")
  let version ← metadata.resourceVersion
  if version.isEmpty then none else some version

/-- Read the object of a bookmark, of which nothing but the version is told. -/
def bookmarkVersion? (object : Json) : Option String := do
  let field ← mappingFields? ["apiVersion", "kind", "metadata"] object
  let _ ← required text? (field "apiVersion")
  let _ ← required text? (field "kind")
  let metadata ← strictFields? ["resourceVersion", "annotations"] (← field "metadata")
  let _ ← defaulted Dict.empty (dict? text?) (metadata "annotations")
  required text? (metadata "resourceVersion")

/-- Read an event: a strict record of its type and its object. An event that tells of an error is
none of these. -/
def ofJson? (read : Json → Option α) (j : Json) : Option (WatchEvent α) := do
  let field ← strictFields? ["type", "object"] j
  let type ← required variant? (field "type")
  let object ← field "object"
  if type = "ADDED" ∨ type = "MODIFIED" then
    some (.applied (← read object) (← versionOf? object))
  else if type = "DELETED" then
    let _ ← read object
    some (.deleted (← versionOf? object))
  else if type = "BOOKMARK" then
    some (.bookmark (← bookmarkVersion? object))
  else none

end WatchEvent

namespace Watch

variable {α : Type}

/-- The events of a stream, line by line. A line that is no event is an error, but one that ends
too early is left aside. -/
def events (read : Json → Option α) (stream : String) :
    List (Except ApiError (WatchEvent α)) :=
  (Text.lines stream.toList).filterMap fun line =>
    match Json.ofText (String.ofList line) with
    | .error .unexpectedEnd => none
    | .error .malformed => some (.error .undecodable)
    | .ok j =>
      match WatchEvent.ofJson? read j with
      | some e => some (.ok e)
      | none => some (.error .undecodable)

/-- What a watch has come to. -/
inductive Progress where
  /-- It is over. -/
  | done
  /-- It goes on from a version. -/
  | upTo (version : String)

/-- Take the events of a stream one by one. -/
def takeEvents (step : α → Program ApiError Bool) (version : String) :
    List (Except ApiError (WatchEvent α)) → Program ApiError Progress
  | [] => pure (.upTo version)
  | .error e :: _ => Program.fail e
  | .ok (.applied object version) :: rest => do
    if ← step object then return .done
    else takeEvents step version rest
  | .ok event :: rest => takeEvents step event.version rest

/-- Take objects one by one; whether the watch is over. -/
def takeObjects (step : α → Program ApiError Bool) : List α → Program ApiError Bool
  | [] => pure false
  | object :: rest => do
    if ← step object then return true
    else takeObjects step rest

/-- What a watch is about. -/
structure Scope (α : Type) where
  collection : Collection α
  /-- The name of the only object that is watched; all of them if there is none. -/
  name : Option String := none

def Scope.selector (s : Scope α) : List (String × String) :=
  s.name.toList.map fun name => ("fieldSelector", "metadata.name=" ++ name)

def Scope.pageRequest (s : Scope α) (continue? : Option String) : Request where
  path := s.collection.path
  query := [("limit", "500")] ++ s.selector
    ++ continue?.toList.map fun c => ("continue", c)

def Scope.streamRequest (s : Scope α) (version : String) : Request where
  path := s.collection.path
  query := [("watch", "true"), ("timeoutSeconds", "290"), ("allowWatchBookmarks", "true"),
    ("resourceVersion", version)] ++ s.selector

/-- A text that says something. -/
def nonempty? (text : Option String) : Option String := text.filter fun t => !t.isEmpty

/-- The time after which a watch is not continued. -/
structure Limit where
  start : Instant
  timeout : Span

def Limit.isOver (l : Limit) (now : Instant) : Bool :=
  decide ((l.timeout.nanoseconds : Int) < now.since l.start)

/-- Watch from a version on, with so many streams at most. -/
def follow (s : Scope α) (step : α → Program ApiError Bool) (limit : Limit) :
    Nat → String → Program ApiError Bool
  | 0, _ => pure false
  | streams + 1, version => do
    if limit.isOver (← Program.now) then return false
    else
      let a ← (s.streamRequest version).exchange
      match ← takeEvents step version (events s.collection.read a.body) with
      | .done => return true
      | .upTo version => follow s step limit streams version

/-- Watch from a page of the list on, with so many requests at most. -/
def pages (s : Scope α) (step : α → Program ApiError Bool) (limit : Limit) :
    Nat → Option String → Program ApiError Bool
  | 0, _ => pure false
  | requests + 1, continue? => do
    if limit.isOver (← Program.now) then return false
    else
      let listing ← Request.ask (s.pageRequest continue?) (Listing.ofJson? s.collection.read)
      let version? := nonempty? listing.metadata.resourceVersion
      match nonempty? listing.metadata.continue?, version? with
      | none, none => Program.fail .undecodable
      | none, some version =>
        if ← takeObjects step listing.items then return true
        else follow s step limit requests version
      | some more, _ =>
        if ← takeObjects step listing.items then return true
        else pages s step limit requests (some more)

end Watch

/-- Watch until the step says that it is over, or for as long as the time allows. Whether the step
said so. It takes so many requests at most. -/
def watch {α : Type} (s : Watch.Scope α) (requests : Nat) (timeout : Span)
    (step : α → Program ApiError Bool) : Program ApiError Bool := do
  let start ← Program.now
  Watch.pages s step ⟨start, timeout⟩ requests none

end TrainingJobs
