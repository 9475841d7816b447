/-!
# Whole numbers in text

Digits are read in any base up to 36 and nothing else counts as one: no separators, no blanks.
-/

namespace TrainingJobs.Text

/-- The value of a digit or letter, if it is below the base. -/
def digitValue? (base : Nat) (c : Char) : Option Nat :=
  let v :=
    if '0' ≤ c ∧ c ≤ '9' then c.toNat - 48
    else if 'a' ≤ c ∧ c ≤ 'z' then c.toNat - 87
    else if 'A' ≤ c ∧ c ≤ 'Z' then c.toNat - 55
    else base
  if v < base then some v else none

/-- Continue a number with more digits. -/
def readDigits (base : Nat) : Nat → List Char → Option Nat
  | acc, [] => some acc
  | acc, c :: rest =>
    match digitValue? base c with
    | some v => readDigits base (acc * base + v) rest
    | none => none

/-- A text of one or more digits as a number. -/
def readNat? (base : Nat) : List Char → Option Nat
  | [] => none
  | cs => readDigits base 0 cs

/-- Exactly `count` decimal digits at the front: their number and what follows them. -/
def fixedDigits? (count : Nat) (cs : List Char) : Option (Nat × List Char) :=
  let digits := cs.take count
  if digits.length = count then (readNat? 10 digits).map fun n => (n, cs.drop count) else none

/-- A whole number: a sign or none, then one or more decimal digits. -/
def readInt? : List Char → Option Int
  | '-' :: rest => (readNat? 10 rest).map fun n => -(n : Int)
  | '+' :: rest => (readNat? 10 rest).map fun n => (n : Int)
  | cs => (readNat? 10 cs).map fun n => (n : Int)

/-- The number as a 32-bit word, if it fits. -/
def int32? (i : Int) : Option Int32 :=
  if Int32.minValue.toInt ≤ i ∧ i ≤ Int32.maxValue.toInt then some (Int32.ofInt i) else none

def int64? (i : Int) : Option Int64 :=
  if Int64.minValue.toInt ≤ i ∧ i ≤ Int64.maxValue.toInt then some (Int64.ofInt i) else none

/-- The decimal digits of a number, at least `width` of them. -/
def padded (width n : Nat) : String :=
  let digits := Nat.toDigits 10 n
  String.ofList (List.replicate (width - digits.length) '0' ++ digits)

def showInt (i : Int) : String :=
  if i < 0 then "-" ++ padded 1 i.natAbs else padded 1 i.natAbs

def showInt32 (i : Int32) : String := showInt i.toInt

def showInt64 (i : Int64) : String := showInt i.toInt

theorem int32?_toInt (i : Int32) : int32? i.toInt = some i := by
  rw [int32?, if_pos ⟨i.minValue_le_toInt, i.toInt_le⟩, Int32.ofInt_toInt]

theorem int64?_toInt (i : Int64) : int64? i.toInt = some i := by
  rw [int64?, if_pos ⟨i.minValue_le_toInt, i.toInt_le⟩, Int64.ofInt_toInt]

end TrainingJobs.Text
