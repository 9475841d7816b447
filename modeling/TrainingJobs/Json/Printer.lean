import TrainingJobs.Json.Basic

/-!
# JSON text, written

`compact` writes a value without any blank. `indented` gives every item and member a line of its
own, indented by two spaces for each level, and leaves empty arrays and objects on one line.
-/

namespace TrainingJobs.Json

def escapedChar (c : Char) : String :=
  if c = '"' then "\\\""
  else if c = '\\' then "\\\\"
  else if c = '\n' then "\\n"
  else if c = '\r' then "\\r"
  else if c = '\t' then "\\t"
  else if c = '\x08' then "\\b"
  else if c = '\x0c' then "\\f"
  else if c.toNat < 0x20 then
    let digits := Nat.toDigits 16 c.toNat
    "\\u" ++ String.ofList (List.replicate (4 - digits.length) '0' ++ digits)
  else String.ofList [c]

def stringText (s : String) : String :=
  "\"" ++ String.join (s.toList.map escapedChar) ++ "\""

/-- The digits without the zeros at the end, of which each raises the exponent. -/
def trimZeros : Nat → Nat → Int → Nat × Int
  | 0, m, e => (m, e)
  | fuel + 1, m, e => if m % 10 = 0 ∧ m ≠ 0 then trimZeros fuel (m / 10) (e + 1) else (m, e)

/-- Digits with a point after the first `n` of them. -/
def pointAfter (n : Nat) (digits : List Char) : String :=
  String.ofList (digits.take n ++ '.' :: digits.drop n)

/-- A decimal number without sign. Numbers from `10 ^ -5` up to `10 ^ 16` are written out, others
with one digit before the point and an exponent. -/
def magnitudeText (mantissa : Nat) (exponent : Int) : String :=
  let digits := Nat.toDigits 10 mantissa
  let point : Int := digits.length + exponent
  let zeros (n : Int) : List Char := List.replicate n.toNat '0'
  if mantissa = 0 then "0.0"
  else if 0 ≤ exponent ∧ point ≤ 16 then String.ofList (digits ++ zeros exponent) ++ ".0"
  else if 0 < point ∧ point ≤ 16 then pointAfter point.toNat digits
  else if -5 < point ∧ point ≤ 0 then "0." ++ String.ofList (zeros (-point) ++ digits)
  else
    (if digits.length = 1 then String.ofList digits else pointAfter 1 digits)
      ++ "e" ++ toString (point - 1)

def numberText (x : DecimalNumber) : String :=
  let (mantissa, exponent) := trimZeros (Nat.toDigits 10 x.mantissa).length x.mantissa x.exponent
  (if x.negative then "-" else "") ++ magnitudeText mantissa exponent

/-- The text of a value that contains no other. -/
def leafText : Json → String
  | null => "null"
  | bool b => if b then "true" else "false"
  | int n => toString n
  | real x => numberText x
  | str s => stringText s
  | arr _ => "[]"
  | obj _ => "\x7b\x7d"

mutual

def compact : Json → String
  | arr items => "[" ++ ",".intercalate (compactItems items) ++ "]"
  | obj members => "\x7b" ++ ",".intercalate (compactMembers members) ++ "\x7d"
  | leaf => leafText leaf

def compactItems : List Json → List String
  | [] => []
  | item :: rest => item.compact :: compactItems rest

def compactMembers : List (String × Json) → List String
  | [] => []
  | (name, value) :: rest => (stringText name ++ ":" ++ value.compact) :: compactMembers rest

end

def margin (level : Nat) : String := "\n" ++ String.ofList (List.replicate (2 * level) ' ')

mutual

/-- The value over several lines, at a level of nesting. -/
def indentedAt (level : Nat) : Json → String
  | arr [] => "[]"
  | arr (item :: rest) =>
    "[" ++ ",".intercalate (indentedItems (level + 1) (item :: rest)) ++ margin level ++ "]"
  | obj [] => "\x7b\x7d"
  | obj (m :: rest) =>
    "\x7b" ++ ",".intercalate (indentedMembers (level + 1) (m :: rest)) ++ margin level ++ "\x7d"
  | leaf => leafText leaf

def indentedItems (level : Nat) : List Json → List String
  | [] => []
  | item :: rest => (margin level ++ item.indentedAt level) :: indentedItems level rest

def indentedMembers (level : Nat) : List (String × Json) → List String
  | [] => []
  | (name, value) :: rest =>
    (margin level ++ stringText name ++ ": " ++ value.indentedAt level)
      :: indentedMembers level rest

end

/-- The value over several lines. -/
def indented (value : Json) : String := value.indentedAt 0

end TrainingJobs.Json
