import TrainingJobs.Text.Blank
import TrainingJobs.Time.Span

/-!
# Spans written as text

A span is written as items, each a number and a unit: `1h 30m`. A number may have a decimal
fraction. White space may stand before, inside and after a number, and ends a unit.
-/

namespace TrainingJobs

inductive SpanError where
  /-- A character that no item contains. -/
  | invalidCharacter
  /-- An item that does not begin with a digit. -/
  | numberExpected
  /-- A number without a unit, or with one that does not exist. -/
  | unknownUnit
  /-- A number too large, or a fraction that does not come out even. -/
  | numberOverflow
  /-- No item at all. -/
  | empty
  deriving DecidableEq, Repr

namespace Span

/-- What one of a unit is worth. -/
inductive Worth where
  | nanoseconds (n : Nat)
  | seconds (n : Nat)
  deriving DecidableEq, Repr

def units : List (List String × Worth) :=
  [(["nanos", "nsec", "ns"], .nanoseconds 1),
   (["usec", "us", "µs"], .nanoseconds 1000),
   (["millis", "msec", "ms"], .nanoseconds 1000000),
   (["seconds", "second", "secs", "sec", "s"], .seconds 1),
   (["minutes", "minute", "min", "mins", "m"], .seconds 60),
   (["hours", "hour", "hr", "hrs", "h"], .seconds 3600),
   (["days", "day", "d"], .seconds 86400),
   (["weeks", "week", "wk", "wks", "w"], .seconds 604800),
   (["months", "month", "M"], .seconds 2630016),
   (["years", "year", "yr", "yrs", "y"], .seconds 31557600)]

def unit? (name : String) : Option Worth :=
  (units.find? fun u => u.1.contains name).map (·.2)

structure Fraction where
  numerator : Nat
  denominator : Nat
  deriving DecidableEq, Repr

/-- A number that a word of 64 bits can hold. -/
def inWord (n : Nat) : Except SpanError Nat :=
  if n < UInt64.size then .ok n else .error .numberOverflow

/-- A quotient that comes out even. -/
def evenly (n d : Nat) : Except SpanError Nat :=
  if n % d = 0 then .ok (n / d) else .error .numberOverflow

/-- The span lengthened by seconds and nanoseconds. -/
def lengthen (total : Span) (seconds nanoseconds : Nat) : Except SpanError Span := do
  let nanoseconds ← inWord (total.fraction + nanoseconds)
  let _ ← inWord (total.seconds + seconds + nanoseconds / nanosPerSecond)
  .ok ⟨(total.seconds + seconds) * nanosPerSecond + nanoseconds⟩

/-- The span lengthened by one item. The fraction of a unit up to the minute is counted in
nanoseconds, that of a longer unit in seconds; a nanosecond has no fraction. -/
def addItem (total : Span) (n : Nat) (fraction : Option Fraction) (name : List Char) :
    Except SpanError Span := do
  let worth ← match unit? (String.ofList name) with
    | some worth => pure worth
    | none => .error .unknownUnit
  let total ← match worth with
    | .nanoseconds k => do total.lengthen 0 (← inWord (n * k))
    | .seconds k => do total.lengthen (← inWord (n * k)) 0
  match fraction with
  | none => pure total
  | some f =>
    match worth with
    | .nanoseconds k =>
      if k = 1 then .error .numberOverflow
      else do total.lengthen 0 (← evenly (← inWord (f.numerator * k)) f.denominator)
    | .seconds k =>
      if k ≤ 60 then do
        total.lengthen 0
          (← evenly (← inWord (f.numerator * (k * nanosPerSecond))) f.denominator)
      else do total.lengthen (← evenly (← inWord (f.numerator * k)) f.denominator) 0

/-- How far the item being read has come. -/
inductive Reading where
  /-- Nothing of an item yet; whether there was one before. -/
  | gap (some_ : Bool)
  /-- In the whole part of the number. -/
  | whole (n : Nat)
  /-- After the decimal point. -/
  | fraction (n : Nat) (f : Fraction)
  /-- In the unit, its letters last first. -/
  | unit (n : Nat) (f : Option Fraction) (letters : List Char)
  deriving DecidableEq, Repr

/-- A letter that a unit may have. -/
def isUnitLetter (c : Char) : Bool := c.isAlpha || c == 'µ'

/-- The number with one more digit. -/
def moreDigits (n : Nat) (c : Char) : Except SpanError Nat :=
  inWord (n * 10 + (c.toNat - '0'.toNat))

def readChar (state : Span × Reading) (c : Char) : Except SpanError (Span × Reading) :=
  let (total, reading) := state
  match reading with
  | .gap some_ =>
    if c.isDigit then do return (total, .whole (← moreDigits 0 c))
    else if Text.isBlank c then .ok (total, .gap some_)
    else .error .numberExpected
  | .whole n =>
    if c.isDigit then do return (total, .whole (← moreDigits n c))
    else if Text.isBlank c then .ok (total, .whole n)
    else if isUnitLetter c then .ok (total, .unit n none [c])
    else if c = '.' then .ok (total, .fraction n ⟨0, 1⟩)
    else .error .invalidCharacter
  | .fraction n f =>
    if c.isDigit then do
      return (total, .fraction n ⟨← moreDigits f.numerator c, ← inWord (f.denominator * 10)⟩)
    else if Text.isBlank c then .ok (total, .fraction n f)
    else if isUnitLetter c ∧ f.denominator ≠ 1 then .ok (total, .unit n (some f) [c])
    else .error .invalidCharacter
  | .unit n f letters =>
    if c.isDigit then do
      return (← total.addItem n f letters.reverse, .whole (← moreDigits 0 c))
    else if Text.isBlank c then do return (← total.addItem n f letters.reverse, .gap true)
    else if isUnitLetter c then .ok (total, .unit n f (c :: letters))
    else .error .invalidCharacter

/-- The span at the end of the text. -/
def finishReading (state : Span × Reading) : Except SpanError Span :=
  let (total, reading) := state
  match reading with
  | .gap true => .ok total
  | .gap false => .error .empty
  | .whole _ => .error .unknownUnit
  | .fraction _ f => if f.denominator = 1 then .error .invalidCharacter else .error .unknownUnit
  | .unit n f letters => total.addItem n f letters.reverse

/-- Read a span. A bare `0` needs no unit. -/
def ofText (text : String) : Except SpanError Span :=
  if text = "0" then .ok zero
  else do finishReading (← text.toList.foldlM readChar (zero, .gap false))

/-- An item whose unit takes an `s` when there are several; nothing for none. -/
def pluralItem (n : Nat) (name : String) : List String :=
  if n = 0 then [] else if n = 1 then [toString n ++ name] else [toString n ++ name ++ "s"]

/-- An item whose unit is a letter; nothing for none. -/
def letterItem (n : Nat) (name : String) : List String :=
  if n = 0 then [] else [toString n ++ name]

/-- The whole seconds of a span in words, largest unit first. -/
def inWords (s : Span) : String :=
  let years := s.seconds / 31557600
  let inYear := s.seconds % 31557600
  let months := inYear / 2630016
  let inMonth := inYear % 2630016
  let inDay := inMonth % 86400
  let items :=
    pluralItem years "year" ++ pluralItem months "month" ++ pluralItem (inMonth / 86400) "day"
      ++ letterItem (inDay / 3600) "h" ++ letterItem (inDay % 3600 / 60) "m"
      ++ letterItem (inDay % 60) "s"
  if items.isEmpty then "0s" else " ".intercalate items

end Span

end TrainingJobs
