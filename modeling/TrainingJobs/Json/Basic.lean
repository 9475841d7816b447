import TrainingJobs.Dict
import TrainingJobs.Text.Decimal

/-!
# JSON values

Whole numbers of 64 bits are kept apart from all other numbers, which are kept as the decimal
they were written as. The members of an object are a list: a name may stand there twice, and what
that means is up to whoever reads the object.
-/

namespace TrainingJobs

/-- A decimal number `± mantissa · 10 ^ exponent`. -/
structure DecimalNumber where
  negative : Bool
  mantissa : Nat
  exponent : Int
  deriving DecidableEq, Repr

namespace DecimalNumber

/-- Whether the number lies nearer to a floating-point number of 64 bits than to infinity: its
magnitude is less than halfway between the largest of them and `2 ^ 1024`. -/
def isFinite (x : DecimalNumber) : Bool :=
  if x.mantissa = 0 then true
  else
    let digits : Int := (Nat.toDigits 10 x.mantissa).length
    let limit := (Nat.pow 2 54 - 1) * Nat.pow 2 970
    if 310 < digits + x.exponent then false
    else if digits + x.exponent < 300 then true
    else if 0 ≤ x.exponent then decide (x.mantissa * Nat.pow 10 x.exponent.toNat < limit)
    else decide (x.mantissa < limit * Nat.pow 10 (-x.exponent).toNat)

end DecimalNumber

inductive Json where
  | null
  | bool (b : Bool)
  | int (n : Int)
  | real (x : DecimalNumber)
  | str (s : String)
  | arr (items : List Json)
  | obj (members : List (String × Json))
  deriving Inhabited, Repr

namespace Json

mutual

def same : Json → Json → Bool
  | null, null => true
  | bool a, bool b => a == b
  | int a, int b => a == b
  | real a, real b => a == b
  | str a, str b => a == b
  | arr a, arr b => sameItems a b
  | obj a, obj b => sameMembers a b
  | _, _ => false

def sameItems : List Json → List Json → Bool
  | [], [] => true
  | a :: as, b :: bs => a.same b && sameItems as bs
  | _, _ => false

def sameMembers : List (String × Json) → List (String × Json) → Bool
  | [], [] => true
  | (k, a) :: as, (l, b) :: bs => k == l && a.same b && sameMembers as bs
  | _, _ => false

end

mutual

theorem same_iff : ∀ {a b : Json}, a.same b = true ↔ a = b
  | null, b => by cases b <;> simp [same]
  | bool _, b => by cases b <;> simp [same]
  | int _, b => by cases b <;> simp [same]
  | real _, b => by cases b <;> simp [same]
  | str _, b => by cases b <;> simp [same]
  | arr _, b => by cases b <;> simp [same, sameItems_iff]
  | obj _, b => by cases b <;> simp [same, sameMembers_iff]

theorem sameItems_iff : ∀ {as bs : List Json}, sameItems as bs = true ↔ as = bs
  | [], bs => by cases bs <;> simp [sameItems]
  | _ :: _, bs => by cases bs <;> simp [sameItems, same_iff, sameItems_iff]

theorem sameMembers_iff : ∀ {as bs : List (String × Json)}, sameMembers as bs = true ↔ as = bs
  | [], bs => by cases bs <;> simp [sameMembers]
  | _ :: _, bs => by cases bs <;> simp [sameMembers, same_iff, sameMembers_iff, Prod.ext_iff]

end

instance : DecidableEq Json := fun _ _ => decidable_of_iff _ same_iff

/-- The text as a JSON string, for values that are written by their text. -/
instance : Coe String Json := ⟨str⟩

def member (name : String) (value : Json) : List (String × Json) := [(name, value)]

/-- A member that is left out when there is no value. -/
def optionalMember {α : Type} (name : String) (write : α → Json) :
    Option α → List (String × Json)
  | some value => [(name, write value)]
  | none => []

def nullable {α : Type} (write : α → Json) : Option α → Json
  | some value => write value
  | none => null

def ofList {α : Type} (write : α → Json) (items : List α) : Json := arr (items.map write)

def ofDict {α : Type} (write : α → Json) (d : Dict α) : Json :=
  obj (d.entries.map fun e => (e.1, write e.2))

def ofInt32 (n : Int32) : Json := int n.toInt

def ofInt64 (n : Int64) : Json := int n.toInt

/-- The first member of that name, if the value is an object that has one. -/
def get? (name : String) : Json → Option Json
  | obj members => (members.find? fun m => m.1 == name).map (·.2)
  | _ => none

mutual

/-- The value with the members of every object in increasing order of their names and the last
of several members of one name kept. -/
def arranged : Json → Json
  | arr items => arr (arrangedItems items)
  | obj members => obj (arrangedMembers members Dict.empty).entries
  | value => value

def arrangedItems : List Json → List Json
  | [] => []
  | item :: rest => item.arranged :: arrangedItems rest

def arrangedMembers : List (String × Json) → Dict Json → Dict Json
  | [], entered => entered
  | (name, value) :: rest, entered => arrangedMembers rest (entered.insert name value.arranged)

end

end Json

end TrainingJobs
