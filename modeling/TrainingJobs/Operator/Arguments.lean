import TrainingJobs.CommandLine.Grammar
import TrainingJobs.Operator.Options
import TrainingJobs.Time.Span.Text

/-!
# The operator's command line
-/

namespace TrainingJobs.OperatorOptions

open CommandLine

/-- The log format of a name. -/
def logFormat? (name : String) : Except Unit LogFormat :=
  if name = "text" then .ok .text else if name = "json" then .ok .json else .error ()

/-- What the operator's command line may say. -/
def grammar : Grammar where
  options := [
    { name := "gang-scheduler"
      check := checkWith GangScheduler.ofText .valueValidation
      variable_ := some "GANG_SCHEDULER_NAME" },
    { name := "namespace", variable_ := some "WATCH_NAMESPACE" },
    { name := "log-format"
      check := checkWith logFormat? .invalidValue
      variable_ := some "LOG_FORMAT" },
    { name := "requeue-interval", check := checkWith Span.ofText .valueValidation },
    { name := "error-requeue", check := checkWith Span.ofText .valueValidation },
    { name := "skip-crd-install", kind := .flag },
    { name := "field-manager" },
    helpOption,
    versionOption]

/-- The options that are given, over the usual ones. -/
def ofGiven (given : Given) : OperatorOptions :=
  let usual : OperatorOptions := {}
  let read {ε α : Type} (name : String) (usual : α) (reader : String → Except ε α) : α :=
    ((given.value? name).bind fun v => (reader v).toOption).getD usual
  { gangScheduler := read "gang-scheduler" usual.gangScheduler GangScheduler.ofText
    onlyNamespace := given.value? "namespace"
    logFormat := read "log-format" usual.logFormat logFormat?
    requeueInterval := read "requeue-interval" usual.requeueInterval Span.ofText
    errorRequeue := read "error-requeue" usual.errorRequeue Span.ofText
    skipDefinition := given.contains "skip-crd-install"
    fieldManager := (given.value? "field-manager").getD usual.fieldManager }

/-- The options of a command line, with variables for what it does not say. -/
def ofArguments (environment : Dict String) (words : List String) :
    Except UsageError OperatorOptions := do
  return ofGiven (← grammar.read environment words)

end TrainingJobs.OperatorOptions
