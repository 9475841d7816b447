import TrainingJobs.Time.Calendar
import TrainingJobs.Time.Span

/-!
# Instants

An instant is counted from the beginning of 1970 in UTC, in seconds of which a day has 86400, with
nanoseconds inside the second. A leap second is the second billion of nanoseconds of the second
before it: it is a second that really happened, but days stay 86400 seconds long.
-/

namespace TrainingJobs

structure Instant where
  /-- Seconds since the beginning of 1970, leap seconds not counted. -/
  secs : Int
  /-- Nanoseconds since the second began; one billion or more inside a leap second. -/
  nanos : Nat
  nanos_lt : nanos < 2000000000
  deriving DecidableEq, Repr

namespace Instant

/-- The first second that can be written as a date. -/
def firstSecond : Int := -8334601228800

/-- The last second that can be written as a date. -/
def lastSecond : Int := 8210266876799

/-- The longest delay, forwards or backwards, in seconds. -/
def longestDelay : Int := 9223372036854775

def ofSeconds (secs : Int) : Instant := ⟨secs, 0, by decide⟩

def epoch : Instant := ofSeconds 0

instance : Inhabited Instant := ⟨epoch⟩

def isLeap (t : Instant) : Bool := nanosPerSecond ≤ t.nanos

/-- Days from 1 January 1970 to the day of the instant. -/
def day (t : Instant) : Int := t.secs / 86400

/-- Seconds since the day began, leap seconds not counted. -/
def secondOfDay (t : Instant) : Nat := (t.secs % 86400).toNat

def date (t : Instant) : Date := Date.ofDays t.day

/-- The instant so many seconds later. Leaving a leap second forwards uses up one of the seconds,
since the leap second itself is one. -/
def shift (t : Instant) (delay : Int) : Instant :=
  if t.isLeap ∧ delay ≠ 0 then
    ⟨if 0 < delay then t.secs + delay else t.secs + 1 + delay, t.nanos - nanosPerSecond, by
      have := t.nanos_lt
      omega⟩
  else ⟨t.secs + delay, t.nanos, t.nanos_lt⟩

/-- The instant so many seconds later, if the delay is not too long and the instant can be
written as a date. -/
def later? (t : Instant) (delay : Int) : Option Instant :=
  let end_ := t.shift delay
  if -longestDelay ≤ delay ∧ delay ≤ longestDelay ∧ firstSecond ≤ end_.secs ∧
      end_.secs ≤ lastSecond then
    some end_
  else none

/-- Nanoseconds from `s` to `t`. A leap second that lies at the earlier of two different times of
day counts as a second of its own. -/
def since (t s : Instant) : Int :=
  let leaps : Int :=
    if s.secondOfDay < t.secondOfDay ∧ s.isLeap then 1
    else if t.secondOfDay < s.secondOfDay ∧ t.isLeap then -1
    else 0
  (t.secs - s.secs + leaps) * nanosPerSecond + ((t.nanos : Int) - s.nanos)

/-- Time from `now` until `delay` seconds after `t`, no time when that has passed; none when
there is no such instant. -/
def remaining? (t : Instant) (delay : Int) (now : Instant) : Option Span :=
  (t.later? delay).map fun end_ => (Span.ofNanoseconds? (end_.since now)).getD Span.zero

end Instant

end TrainingJobs
