import TrainingJobs.Client.Error
import TrainingJobs.Toml.Texts

/-!
# The client's defaults

Defaults are read from a file; every one of them may be missing, and so may the file.
-/

namespace TrainingJobs.Client

def configPath : String := "~/.tjob/config.toml"

/-- A path with the home directory for a leading `~/`. -/
def expandTilde (home path : String) : String :=
  match path.toList with
  | '~' :: '/' :: rest =>
    let rest' := String.ofList rest
    if rest.head? = some '/' then rest'
    else if home.isEmpty || home.toList.getLast? == some '/' then home ++ rest'
    else home ++ "/" ++ rest'
  | _ => path

structure Config where
  /-- The namespace of jobs. -/
  inNamespace : Option String := none
  /-- The container whose logs are shown. -/
  container : Option String := none
  /-- How long to wait or watch, as text. -/
  timeoutText : Option String := none
  /-- How often to look while waiting, as text. -/
  intervalText : Option String := none
  deriving DecidableEq, Repr

namespace Config

def names : List String := ["namespace", "container", "timeout", "interval"]

def ofText (text : String) : Except ClientError Config :=
  match Toml.texts? text with
  | some texts =>
    if texts.keys.all names.contains then
      .ok {
        inNamespace := texts.get? "namespace"
        container := texts.get? "container"
        timeoutText := texts.get? "timeout"
        intervalText := texts.get? "interval" }
    else .error (.file .invalidConfig)
  | none => .error (.file .invalidConfig)

/-- Read the defaults from a file that may be missing. -/
def ofFile : Option String → Except ClientError Config
  | some text => ofText text
  | none => .ok {}

def timeout (c : Config) : Except SpanError Span :=
  match c.timeoutText with
  | some text => Span.ofText text
  | none => .ok (Span.ofSeconds 600)

def interval (c : Config) : Except SpanError Span :=
  match c.intervalText with
  | some text => Span.ofText text
  | none => .ok (Span.ofSeconds 30)

end Config

/-- The first namespace that is named: by an option, by the manifest, by the defaults; else the
one that the connection gives. -/
def resolveNamespace (option manifest config : Option String) (connection : String) : String :=
  ((option.or manifest).or config).getD connection

end TrainingJobs.Client
