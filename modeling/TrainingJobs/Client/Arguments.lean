import TrainingJobs.CommandLine.Grammar
import TrainingJobs.Condition
import TrainingJobs.Time.Span.Text

/-!
# The client's command line

The client takes options that hold for every command, a command and what belongs to it. The
options that hold for every command may stand on either side of it; what stands after it counts.
-/

namespace TrainingJobs.Client

open CommandLine

inductive OutputFormat where
  | table
  | json
  deriving DecidableEq, Repr

namespace OutputFormat

def ofText (name : String) : Except Unit OutputFormat :=
  if name = "table" then .ok table else if name = "json" then .ok json else .error ()

end OutputFormat

inductive Command where
  | create (file : String)
  | get (name : Option String) (output : OutputFormat) (watch : Bool) (timeout : Option Span)
  | patch (name file : String)
  | delete (name : String)
  | wait (name : String) (conditions : List ConditionType) (timeout interval : Option Span)
  | status (name : String) (running succeeded : Bool)
  | pods (name : String) (master : Bool) (replicaType : Option String)
      (replicaIndex : Option Int32)
  | logs (name : String) (all : Bool) (replicaType : Option String)
      (replicaIndex : Option Int32) (follow : Bool) (container : Option String)
  | discovery (group : Option String)
  deriving DecidableEq, Repr

structure Arguments where
  kubeconfig : Option String := none
  context : Option String := none
  /-- The namespace of the job. -/
  inNamespace : Option String := none
  verbose : Nat := 0
  command : Command
  deriving DecidableEq, Repr

/-- A path has to have at least one character. -/
def checkPath (path : String) : Except UsageError Unit :=
  if path.isEmpty then .error .invalidValue else .ok ()

def readInt32 (text : String) : Except Unit Int32 :=
  match (Text.readInt? text.toList).bind Text.int32? with
  | some n => .ok n
  | none => .error ()

def commonOptions : List OptionRule := [
  { name := "kubeconfig", check := checkPath },
  { name := "context" },
  { name := "namespace", letter := some 'n' },
  { name := "verbose", letter := some 'v', kind := .count },
  helpOption]

def fileOption : OptionRule :=
  { name := "file", letter := some 'f', required := true, check := checkPath }

def spanOption (name : String) : OptionRule :=
  { name := name, check := checkWith Span.ofText .valueValidation }

def replicaOptions : List OptionRule := [
  { name := "replica-type" },
  { name := "replica-index", check := checkWith readInt32 .valueValidation }]

/-- What each command may be given besides the common options. -/
def commandGrammar? (command : String) : Option Grammar :=
  let name : PositionRule := { name := "name" }
  match command with
  | "create" => some { options := [fileOption] }
  | "get" => some {
      options := [
        { name := "output", letter := some 'o'
          check := checkWith OutputFormat.ofText .invalidValue },
        { name := "watch", letter := some 'w', kind := .flag },
        spanOption "timeout"]
      positions := [{ name := "name", required := false }] }
  | "patch" => some { options := [fileOption], positions := [name] }
  | "delete" => some { positions := [name] }
  | "wait" => some {
      options := [
        { name := "condition", kind := .several
          check := checkWith ConditionType.ofText .valueValidation },
        spanOption "timeout", spanOption "interval"]
      positions := [name] }
  | "status" => some {
      options := [{ name := "running", kind := .flag }, { name := "succeeded", kind := .flag }]
      positions := [name]
      exclusive := [("running", "succeeded")] }
  | "pods" => some {
      options := { name := "master", kind := .flag } :: replicaOptions
      positions := [name] }
  | "logs" => some {
      options := [
        { name := "all", kind := .flag },
        { name := "follow", letter := some 'f', kind := .flag },
        { name := "container", letter := some 'c' }] ++ replicaOptions
      positions := [name] }
  | "discovery" => some { options := [{ name := "group" }] }
  | _ => none

def commandNames : List String :=
  ["create", "get", "patch", "delete", "wait", "status", "pods", "logs", "discovery"]

/-- What may stand before the command. -/
def outerGrammar : Grammar :=
  { options := commonOptions, subcommands := commandNames ++ ["help"] }

def givenSpan (given : Given) (name : String) : Option Span :=
  (given.value? name).bind fun v => (Span.ofText v).toOption

/-- The command with what is given to it. -/
def commandOf? (command : String) (given : Given) : Option Command :=
  let name := (given.value? "name").getD ""
  let file := (given.value? "file").getD ""
  let replicaType := given.value? "replica-type"
  let replicaIndex := (given.value? "replica-index").bind fun v => (readInt32 v).toOption
  match command with
  | "create" => some (.create file)
  | "get" =>
    let output := (given.value? "output").bind fun v => (OutputFormat.ofText v).toOption
    some (.get (given.value? "name") (output.getD .table) (given.contains "watch")
      (givenSpan given "timeout"))
  | "patch" => some (.patch name file)
  | "delete" => some (.delete name)
  | "wait" =>
    let conditions := ((given.get? "condition").getD []).filterMap fun v =>
      (ConditionType.ofText v).toOption
    some (.wait name conditions (givenSpan given "timeout") (givenSpan given "interval"))
  | "status" => some (.status name (given.contains "running") (given.contains "succeeded"))
  | "pods" => some (.pods name (given.contains "master") replicaType replicaIndex)
  | "logs" =>
    some (.logs name (given.contains "all") replicaType replicaIndex (given.contains "follow")
      (given.value? "container"))
  | "discovery" => some (.discovery (given.value? "group"))
  | _ => none

/-- What asking for help about a command comes to. No command has commands of its own. -/
def helpAbout : List String → UsageError
  | [] => .displayHelp
  | [command] => if outerGrammar.subcommands.contains command then .displayHelp else
      .invalidSubcommand
  | _ => .invalidSubcommand

/-- What is wrong with a command line that has no command. -/
def withoutCommand (given : Given) : UsageError :=
  if given.isEmpty then .displayHelpOnMissingArgument else .missingSubcommand

namespace Arguments

/-- Read a command line. What follows the command is looked at before what stands in front. -/
def ofWords (words : List String) : Except UsageError Arguments := do
  let (p, found) ← outerGrammar.readWords {} words
  match found with
  | none => throw (withoutCommand (← outerGrammar.finish Dict.empty p))
  | some (command, rest) =>
    match commandGrammar? command with
    | none => throw (helpAbout rest)
    | some g =>
      let inner ← { g with options := g.options ++ commonOptions }.read Dict.empty rest
      let outer ← outerGrammar.finish Dict.empty p
      let given : Given := outer.override inner
      match commandOf? command given with
      | none => throw .invalidSubcommand
      | some c => return {
          kubeconfig := given.value? "kubeconfig"
          context := given.value? "context"
          inNamespace := given.value? "namespace"
          verbose := min 255 ((given.get? "verbose").getD []).length
          command := c }

end Arguments

end TrainingJobs.Client
