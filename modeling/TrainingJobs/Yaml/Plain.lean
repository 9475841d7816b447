import TrainingJobs.Json.Basic
import TrainingJobs.Text.Decimal

/-!
# What plain scalars mean

A plain scalar may spell null, a truth value or a number; otherwise it is a text. Whole numbers
are written in base ten, or after `0x`, `0o` and `0b` in base 16, 8 and 2; in base ten no zero
stands before other digits.
-/

namespace TrainingJobs.Yaml

/-- Whether the text is a word for null. -/
def isNullWord (text : String) : Bool := ["null", "Null", "NULL", "~"].contains text

/-- The truth value that a text spells. -/
def readBool? (text : String) : Option Bool :=
  if ["true", "True", "TRUE"].contains text then some true
  else if ["false", "False", "FALSE"].contains text then some false
  else none

/-- A number without sign. -/
def readMagnitude? : List Char → Option Nat
  | '0' :: 'x' :: digits => Text.readNat? 16 digits
  | '0' :: 'o' :: digits => Text.readNat? 8 digits
  | '0' :: 'b' :: digits => Text.readNat? 2 digits
  | ['0'] => some 0
  | '0' :: _ => none
  | digits => Text.readNat? 10 digits

/-- The whole number that a text spells. -/
def readInt? (text : String) : Option Int :=
  match text.toList with
  | '-' :: cs => (readMagnitude? cs).map fun n => -(n : Int)
  | '+' :: cs => (readMagnitude? cs).map fun n => (n : Int)
  | cs => (readMagnitude? cs).map fun n => (n : Int)

/-- The exponent of a number, if there is one. -/
def readExponent? : List Char → Option Int
  | [] => some 0
  | e :: cs => if e = 'e' ∨ e = 'E' then Text.readInt? cs else none

/-- A decimal number without sign: digits with or without a point, of which there is at least one,
and an exponent or none. -/
def readDecimal? (negative : Bool) (cs : List Char) : Option DecimalNumber := do
  let whole := cs.takeWhile Char.isDigit
  let cs := cs.drop whole.length
  let (places, cs) := match cs with
    | '.' :: rest => (rest.takeWhile Char.isDigit, rest.dropWhile Char.isDigit)
    | rest => ([], rest)
  let mantissa ← Text.readNat? 10 (whole ++ places)
  return ⟨negative, mantissa, (← readExponent? cs) - places.length⟩

/-- The decimal number that a text spells, if a floating-point number comes near it. -/
def readReal? (text : String) : Option DecimalNumber := do
  let x ← match text.toList with
    | '-' :: cs => readDecimal? true cs
    | '+' :: cs => readDecimal? false cs
    | cs => readDecimal? false cs
  if x.isFinite then some x else none

/-- Whether the text stands for an infinite number or for none. -/
def isUnbounded (text : String) : Bool :=
  [".inf", ".Inf", ".INF", "+.inf", "+.Inf", "+.INF", "-.inf", "-.Inf", "-.INF", ".nan", ".NaN",
    ".NAN"].contains text

/-- Whether the text is a zero before other digits, with or without a sign. -/
def isPaddedDigits (text : String) : Bool :=
  let cs := match text.toList with
    | '-' :: cs | '+' :: cs => cs
    | cs => cs
  1 < cs.length && cs.head? == some '0' && cs.all Char.isDigit

end TrainingJobs.Yaml
