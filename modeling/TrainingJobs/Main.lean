import Std.Time.DateTime.Timestamp
import TrainingJobs.Client.Commands

/-!
# The client at work

The client does not talk to the API server itself: a proxy does. `TJOB_REQUESTS` and
`TJOB_ANSWERS` name two files, usually pipes. Every request is written to the first as a line of
JSON, and its answer is read from the second as a line of JSON.
-/

namespace TrainingJobs.Client

open Document Json

def requestJson (r : Request) : Json :=
  obj (member "method" r.method.name
    ++ member "path" r.path
    ++ member "query" (ofList str r.queryTexts)
    ++ optionalMember "contentType" str r.contentType
    ++ optionalMember "body" id r.body)

/-- Read what the proxy answers: the code of the answer and its body as text. -/
def readAnswer? (j : Json) : Option Answer := do
  let members ← members? j
  let status ← defaulted 200 (below? 1000) (fieldIn members "status")
  some { status := status, body := ← defaulted "" text? (fieldIn members "body") }

def fileText? (path : String) : IO (Option String) := do
  try
    return some (← IO.FS.readFile path)
  catch _ => return none

/-- The value of a variable that has to be set. -/
def requiredVariable (name : String) : IO String := do
  match ← IO.getEnv name with
  | some value => return value
  | none => throw (IO.userError (name ++ " is not set"))

def exchange (r : Request) : IO Answer := do
  let requests ← IO.FS.Handle.mk (← requiredVariable "TJOB_REQUESTS") .append
  requests.putStrLn (requestJson r).compact
  requests.flush
  let answers ← IO.FS.Handle.mk (← requiredVariable "TJOB_ANSWERS") .read
  let line ← answers.getLine
  match (Answer.json? line).bind readAnswer? with
  | some a => return a
  | none => throw (IO.userError "the proxy did not answer")

def clockTime : IO Instant := do
  let t ← Std.Time.Timestamp.now
  let nanos := t.val.nano.val.toNat
  return ⟨t.val.second.val, min nanos 1999999999, by omega⟩

/-- Do nothing for a time, to the millisecond. -/
def doNothing (s : Span) : IO Unit :=
  IO.sleep (UInt32.ofNat (min (s.nanoseconds / 1000000) (UInt32.size - 1)))

def execute {ε α : Type} : Program ε α → IO (Except ε α)
  | .finish result => return result
  | .send request next => do execute (next (← exchange request.arriving))
  | .print text next => do
    IO.println text
    execute next
  | .rest time next => do
    doNothing time
    execute next
  | .clock next => do execute (next (← clockTime))

def kubeconfigPath (a : Arguments) (home : String) : IO String := do
  match a.kubeconfig, ← IO.getEnv "KUBECONFIG" with
  | some path, _ | none, some path => return path
  | none, none => return expandTilde home "~/.kube/config"

/-- What the client finds when it begins. -/
def lookAround (a : Arguments) : IO Surroundings := do
  let home := (← IO.getEnv "HOME").getD ""
  let file ← match a.command.file? with
    | some path => fileText? path
    | none => pure none
  return {
    config := ← fileText? (expandTilde home configPath)
    kubeconfig := ← fileText? (← kubeconfigPath a home)
    file := file
    watchRequests := UInt32.size }

def showUsage (e : CommandLine.UsageError) : IO UInt32 := do
  let usage := "Usage: tjob [OPTIONS] <" ++ "|".intercalate commandNames ++ ">"
  if e = .displayHelp then
    IO.println usage
    return 0
  else
    IO.eprintln usage
    return 2

end TrainingJobs.Client

open TrainingJobs.Client in
/-- Do what the command line says. The exit code tells whether that went well. -/
def main (words : List String) : IO UInt32 := do
  match Arguments.ofWords words with
  | .error e => showUsage e
  | .ok a =>
    match ← execute (a.program (← lookAround a)) with
    | .ok true => return 0
    | .ok false => return 1
    | .error e =>
      IO.eprintln ("Error: " ++ e.message)
      return 1
