import TrainingJobs.Json.Basic
import TrainingJobs.Text.Split

/-!
# JSON pointers

A pointer is empty, or a sequence of steps that each begin with a slash. A step is the name of a
member, in which `~1` stands for a slash and `~0` for a tilde, or the number of an item.
-/

namespace TrainingJobs.Json

/-- The name that a step spells. -/
def stepName : List Char → List Char
  | '~' :: '1' :: rest => '/' :: stepName rest
  | '~' :: '0' :: rest => '~' :: stepName rest
  | c :: rest => c :: stepName rest
  | [] => []

/-- The number of an item: no sign, and no zero before other digits. -/
def itemNumber? (cs : List Char) : Option Nat :=
  if cs.head? = some '0' ∧ cs.length ≠ 1 then none else Text.readNat? 10 cs

/-- What one step leads to. -/
def step? (step : List Char) : Json → Option Json
  | arr items => (itemNumber? (stepName step)).bind fun n => items[n]?
  | value => value.get? (String.ofList (stepName step))

/-- What a pointer leads to. -/
def atPointer? (pointer : String) (value : Json) : Option Json :=
  match Text.splitOn '/' pointer.toList with
  | [[]] => some value
  | [] :: steps => steps.foldlM (fun value step => value.step? step) value
  | _ => none

end TrainingJobs.Json
