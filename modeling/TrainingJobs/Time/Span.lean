import TrainingJobs.Text.Decimal

/-!
# Spans of time

A span is a length of time in whole nanoseconds, never negative.
-/

namespace TrainingJobs

def nanosPerSecond : Nat := 1000000000

structure Span where
  nanoseconds : Nat
  deriving DecidableEq, Repr

namespace Span

def zero : Span := ⟨0⟩

instance : Inhabited Span := ⟨zero⟩

def ofSeconds (n : Nat) : Span := ⟨n * nanosPerSecond⟩

def seconds (s : Span) : Nat := s.nanoseconds / nanosPerSecond

/-- What the whole seconds leave over, in nanoseconds. -/
def fraction (s : Span) : Nat := s.nanoseconds % nanosPerSecond

def isZero (s : Span) : Bool := s.nanoseconds == 0

def shorter (a b : Span) : Span := if a.nanoseconds ≤ b.nanoseconds then a else b

def longer (a b : Span) : Span := if a.nanoseconds ≤ b.nanoseconds then b else a

/-- The span in seconds with nine places. -/
def toText (s : Span) : String :=
  toString s.seconds ++ "." ++ Text.padded 9 s.fraction

/-- A span of nonnegative length; none for one that runs backwards. -/
def ofNanoseconds? : Int → Option Span
  | .ofNat n => some ⟨n⟩
  | .negSucc _ => none

@[simp] theorem isZero_iff (s : Span) : s.isZero = true ↔ s = zero := by
  cases s; simp [isZero, zero]

end Span

end TrainingJobs
