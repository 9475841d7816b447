import TrainingJobs.Time.Instant

/-!
# Timestamps

Instants as text in the profile of RFC 3339: a date, `T`, a time of day and an offset from UTC.
Written timestamps are in UTC; those that are read may name any offset.
-/

namespace TrainingJobs.Timestamp

open Text

/-- A year with at least four digits; years that need more, or lie before year 0, with a sign. -/
def yearText (year : Int) : String :=
  if year < 0 then "-" ++ padded 4 year.natAbs
  else if 9999 < year then "+" ++ padded 4 year.natAbs
  else padded 4 year.natAbs

def dateText (d : Date) : String :=
  yearText d.year ++ "-" ++ padded 2 d.month ++ "-" ++ padded 2 d.day

/-- A time of day as `HH:MM:SS`; a leap second is second 60. -/
def timeText (t : Instant) : String :=
  let s := t.secondOfDay
  padded 2 (s / 3600) ++ ":" ++ padded 2 (s / 60 % 60) ++ ":"
    ++ padded 2 (s % 60 + if t.isLeap then 1 else 0)

/-- The fraction of a second in the fewest of 0, 3, 6 or 9 digits that lose nothing. -/
def fractionText (nanos : Nat) : String :=
  if nanos = 0 then ""
  else if nanos % 1000000 = 0 then "." ++ padded 3 (nanos / 1000000)
  else if nanos % 1000 = 0 then "." ++ padded 6 (nanos / 1000)
  else "." ++ padded 9 nanos

/-- The instant in UTC with the offset `+00:00`. -/
def write (t : Instant) : String :=
  dateText t.date ++ "T" ++ timeText t ++ fractionText (t.nanos % nanosPerSecond) ++ "+00:00"

/-- The instant in UTC to the second, with the offset `Z`. -/
def writeSeconds (t : Instant) : String :=
  dateText t.date ++ "T" ++ timeText t ++ "Z"

/-- A character at the front, and what follows it. -/
def mark? (isMark : Char → Bool) : List Char → Option (List Char)
  | c :: rest => if isMark c then some rest else none
  | [] => none

/-- A date at the front. It has to exist. -/
def readDate? (cs : List Char) : Option (Date × List Char) := do
  let (year, cs) ← fixedDigits? 4 cs
  let cs ← mark? (· == '-') cs
  let (month, cs) ← fixedDigits? 2 cs
  let cs ← mark? (· == '-') cs
  let (day, cs) ← fixedDigits? 2 cs
  let date : Date := ⟨year, month, day⟩
  if date.Exists then some (date, cs) else none

/-- A time of day at the front, in seconds, and whether it lies in a leap second. -/
def readTime? (cs : List Char) : Option ((Nat × Bool) × List Char) := do
  let (hour, cs) ← fixedDigits? 2 cs
  let cs ← mark? (· == ':') cs
  let (minute, cs) ← fixedDigits? 2 cs
  let cs ← mark? (· == ':') cs
  let (second, cs) ← fixedDigits? 2 cs
  if hour < 24 ∧ minute < 60 ∧ second < 60 then
    some ((hour * 3600 + minute * 60 + second, false), cs)
  else if hour < 24 ∧ minute < 60 ∧ second = 60 then
    some ((hour * 3600 + minute * 60 + 59, true), cs)
  else none

/-- A fraction of a second at the front, in nanoseconds; digits after the ninth do not count, and
without a point there is no fraction. -/
def readFraction? (cs : List Char) : Option (Nat × List Char) :=
  match cs with
  | '.' :: rest =>
    let digits := rest.takeWhile Char.isDigit
    let nine := digits.take 9
    (readNat? 10 nine).map fun n =>
      (n * Nat.pow 10 (9 - nine.length), rest.dropWhile Char.isDigit)
  | _ => some (0, cs)

/-- The offset from UTC that ends a timestamp, in seconds. -/
def readOffset? (cs : List Char) : Option Int := do
  match cs with
  | ['Z'] | ['z'] => some 0
  | sign :: cs =>
    let factor : Int ←
      if sign = '+' then some 1 else if sign = '-' ∨ sign = '\u2212' then some (-1) else none
    let (hours, cs) ← fixedDigits? 2 cs
    let cs ← mark? (· == ':') cs
    let (minutes, cs) ← fixedDigits? 2 cs
    if cs.isEmpty ∧ hours < 24 ∧ minutes < 60 then
      some (factor * (hours * 3600 + minutes * 60))
    else none
  | [] => none

/-- The instant of a second and a fraction of it, inside a leap second if asked. -/
def instantOf? (secs : Int) (fraction : Nat) (leap : Bool) : Option Instant :=
  let nanos := if leap then fraction + nanosPerSecond else fraction
  if h : nanos < 2000000000 then some ⟨secs, nanos, h⟩ else none

/-- The instant that a timestamp names; none for any other text. -/
def read? (text : String) : Option Instant := do
  let (date, cs) ← readDate? text.toList
  let cs ← mark? (fun c => c == 'T' || c == 't' || c == ' ') cs
  let ((time, leap), cs) ← readTime? cs
  let (fraction, cs) ← readFraction? cs
  let offset ← readOffset? cs
  instantOf? (date.toDays * 86400 + time - offset) fraction leap

end TrainingJobs.Timestamp
