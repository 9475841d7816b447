/-!
# Letter case

Names are compared without regard to the case of the letters A to Z; every other character stands
for itself.
-/

namespace TrainingJobs.Text

/-- The text with the letters A to Z in lower case. -/
def lower (s : String) : String := String.ofList (s.toList.map Char.toLower)

/-- Whether two texts differ at most in the case of the letters A to Z. -/
def sameLetters (a b : String) : Bool := lower a == lower b

@[simp] theorem sameLetters_self (a : String) : sameLetters a a = true := by
  simp [sameLetters]

theorem sameLetters_iff {a b : String} : sameLetters a b = true ↔ lower a = lower b := by
  simp [sameLetters]

end TrainingJobs.Text
