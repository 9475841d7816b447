import TrainingJobs.Json.Basic

/-!
# Documents

Jobs and the objects around them are read from JSON and from YAML. `Document ν` says what a reader
needs of a value `ν` of either: to take it for a text, a number, a list, a record and so on. The
readers of this module build on it; each gives none for a value that does not fit.

There are two kinds of records. A *strict* record knows a fixed list of fields: it may also be
written as a list of its fields in order, and no field of it may stand there twice. A *lenient*
record takes the last of several fields of one name and takes null for a missing field. Fields
that a record does not know are left aside by both.
-/

namespace TrainingJobs

universe u

/-- What can be read from a value of a document. -/
class Document (ν : Type) where
  /-- The value stands for no value. -/
  isNull : ν → Bool
  /-- The value as text. -/
  text? : ν → Option String
  /-- The value as a truth value. -/
  bool? : ν → Option Bool
  /-- The value as a whole number. -/
  int? : ν → Option Int
  /-- The items of a list. -/
  items? : ν → Option (List ν)
  /-- The members of a mapping, in order. -/
  members? : ν → Option (List (String × ν))
  /-- The items of a list that may stand for a record. -/
  positions? : ν → Option (List ν)
  /-- The name of an alternative without further data. -/
  variant? : ν → Option String
  /-- The value as JSON, whatever it is. -/
  json? : ν → Option Json

namespace Document

variable {ν : Type} [Document ν] {α : Type}

def int32? (n : ν) : Option Int32 := (int? n).bind Text.int32?

def int64? (n : ν) : Option Int64 := (int? n).bind Text.int64?

/-- A whole number from zero up to a bound that it does not reach. -/
def below? (bound : Nat) (n : ν) : Option Nat := do
  let k ← int? n
  if 0 ≤ k ∧ k < bound then some k.toNat else none

def list? (read : ν → Option α) (n : ν) : Option (List α) := do (← items? n).mapM read

def dict? (read : ν → Option α) (n : ν) : Option (Dict α) := do
  let entries ← (← members? n).mapM fun m => (read m.2).map fun x => (m.1, x)
  some (Dict.ofList entries)

def nullable? (read : ν → Option α) (n : ν) : Option (Option α) :=
  if isNull n then some none else (read n).map some

/-- An alternative of an enumeration by its name. -/
def oneOf? (alternatives : List (String × α)) (n : ν) : Option α := do
  let name ← variant? n
  (alternatives.find? fun a => a.1 == name).map (·.2)

/-- A field that has to be there. -/
def required (read : ν → Option α) (field : Option ν) : Option α := field.bind read

/-- A field that has a value when it is not there. -/
def defaulted (missing : α) (read : ν → Option α) : Option ν → Option α
  | some n => read n
  | none => some missing

/-- A field that may be missing or null. -/
def optional (read : ν → Option α) : Option ν → Option (Option α)
  | some n => nullable? read n
  | none => some none

/-- A field whose value is used when it is neither missing nor null. -/
def orEmpty (empty : α) (read : ν → Option α) (field : Option ν) : Option α :=
  (optional read field).map (·.getD empty)

/-- The value of the first field of that name. -/
def fieldIn (members : List (String × ν)) (name : String) : Option ν :=
  (members.find? fun m => m.1 == name).map (·.2)

/-- No known field stands in the list twice. -/
def distinct (known : List String) (members : List (String × ν)) : Bool :=
  known.all fun name => (members.filter fun m => m.1 == name).length ≤ 1

/-- The fields of a strict record that may not be written as a list, by name. -/
def mappingFields? (known : List String) (n : ν) : Option (String → Option ν) := do
  let members ← members? n
  if distinct known members then some (fieldIn members) else none

/-- The fields of a strict record, by name. -/
def strictFields? (known : List String) (n : ν) : Option (String → Option ν) :=
  match members? n, positions? n with
  | some members, _ => if distinct known members then some (fieldIn members) else none
  | none, some items =>
    if items.length ≤ known.length then some (fieldIn (known.zip items)) else none
  | none, none => none

/-- The fields of a lenient record, by name. -/
def lenientFields? (n : ν) : Option (String → Option ν) :=
  (members? n).map fun members => fieldIn members.reverse

/-- A field that has to be the expected text if it is there. -/
def saysIfAny (expected : String) : Option ν → Bool
  | some n => text? n == some expected
  | none => true

end Document

namespace Json

/-- The name of an alternative: a text, or an object of that name alone with null inside. -/
def variantName? : Json → Option String
  | str s => some s
  | obj [(name, null)] => some name
  | _ => none

instance : Document Json where
  isNull
    | null => true
    | _ => false
  text?
    | str s => some s
    | _ => none
  bool?
    | bool b => some b
    | _ => none
  int?
    | int n => some n
    | _ => none
  items?
    | arr items => some items
    | _ => none
  members?
    | obj members => some members
    | _ => none
  positions?
    | arr items => some items
    | _ => none
  variant? := variantName?
  json? := some

end Json

end TrainingJobs
