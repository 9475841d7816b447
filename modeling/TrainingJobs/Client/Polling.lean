import TrainingJobs.Time.Span

/-!
# How often to look
-/

namespace TrainingJobs.Client

/-- A span in seconds as a floating-point number: the whole seconds rounded, and the rest added. -/
def floatSeconds (s : Span) : Float :=
  (UInt64.ofNat s.seconds).toFloat + (UInt64.ofNat s.fraction).toFloat / 1e9

/-- How often to look when looking every `interval` for as long as `timeout`: the quotient rounded
to the nearest number, a half away from zero, but at least once. -/
def pollRounds (timeout interval : Span) : UInt64 :=
  if interval.isZero then 1
  else max 1 (floatSeconds timeout / floatSeconds interval).round.toUInt64

end TrainingJobs.Client
