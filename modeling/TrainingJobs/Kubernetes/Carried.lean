import TrainingJobs.Document

/-!
# Fields that are carried along

Much of what a record of the cluster says is nobody's business here, and still it has to be passed
on. `Carried names` keeps the fields of these names as the JSON values they are.
-/

namespace TrainingJobs

open Document

/-- Members of a record that are passed on as they are, at most one of each name. -/
structure Carried (names : List String) where
  members : List (String × Json)
  /-- They stand in the order of the names. -/
  known : (members.map (·.1)).Sublist names
  deriving DecidableEq, Repr

namespace Carried

variable {names : List String} {ν : Type} [Document ν]

def empty : Carried names := ⟨[], List.nil_sublist names⟩

instance : Inhabited (Carried names) := ⟨empty⟩

/-- The members with one in front, if it has a value. -/
def cons (name : String) : Option Json → Carried names → Carried (name :: names)
  | some value, c => ⟨(name, value) :: c.members, c.known.cons_cons name⟩
  | none, c => ⟨c.members, c.known.cons name⟩

/-- Read the fields of these names. -/
def ofFields? (field : String → Option ν) : (names : List String) → Option (Carried names)
  | [] => some .empty
  | name :: names => do
    let value ← optional json? (field name)
    some ((← ofFields? field names).cons name value)

end Carried

end TrainingJobs
