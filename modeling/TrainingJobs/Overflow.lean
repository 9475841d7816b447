import TrainingJobs.Text.Decimal

/-!
# Overflow

A sum that 32 bits do not hold wraps around, as the sums of `Int32` do, unless the program is built
to check overflow: then it stops at such a sum. The functions with results in `Checked` tell what
is computed by a program that is built so.
-/

namespace TrainingJobs

/-- The program has stopped at a sum that 32 bits do not hold. -/
inductive Overflow where
  | overflow
  deriving DecidableEq, Repr

/-- What is computed where overflow is checked. -/
abbrev Checked (α : Type) := Except Overflow α

namespace Checked

def add (a b : Int32) : Checked Int32 :=
  match Text.int32? (a.toInt + b.toInt) with
  | some n => .ok n
  | none => .error .overflow

/-- Add numbers up one after the other. -/
def sum (ns : List Int32) : Checked Int32 := ns.foldlM add 0

end Checked

end TrainingJobs
