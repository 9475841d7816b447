import TrainingJobs.Json.Basic

/-!
# JSON text, read

A text that ends too early is told apart from one that no further characters could mend. Strings
hold no lone halves of surrogate pairs. A whole number that 64 bits cannot hold, and minus zero,
are decimals.
-/

namespace TrainingJobs.Json

/-- Why a text is not a JSON value. -/
inductive ReadError where
  | unexpectedEnd
  | malformed
  deriving DecidableEq, Repr

def isSpace (c : Char) : Bool := c == ' ' || c == '\n' || c == '\t' || c == '\r'

/-- The text after leading white space. -/
def skipSpace (cs : List Char) : List Char := cs.dropWhile isSpace

/-- The text after an expected word. -/
def expect : List Char → List Char → Except ReadError (List Char)
  | [], cs => .ok cs
  | _ :: _, [] => .error .unexpectedEnd
  | w :: word, c :: cs => if w = c then expect word cs else .error .malformed

def readUnit (cs : List Char) : Except ReadError (Nat × List Char) :=
  let digits := cs.take 4
  match Text.readNat? 16 digits with
  | some n => if digits.length = 4 then .ok (n, cs.drop 4) else .error .unexpectedEnd
  | none => if digits.isEmpty then .error .unexpectedEnd else .error .malformed

/-- The character that one UTF-16 unit, or a pair of them, stands for. -/
def readCodePoint (cs : List Char) : Except ReadError (Char × List Char) := do
  let (high, cs) ← readUnit cs
  if 0xDC00 ≤ high ∧ high ≤ 0xDFFF then .error .malformed
  else if 0xD800 ≤ high ∧ high ≤ 0xDBFF then do
    let cs ← expect ['\\', 'u'] cs
    let (low, cs) ← readUnit cs
    if 0xDC00 ≤ low ∧ low ≤ 0xDFFF then
      .ok (Char.ofNat (0x10000 + (high - 0xD800) * 0x400 + (low - 0xDC00)), cs)
    else .error .malformed
  else .ok (Char.ofNat high, cs)

/-- What follows the backslash of an escape. -/
def readEscape : List Char → Except ReadError (Char × List Char)
  | [] => .error .unexpectedEnd
  | '"' :: cs => .ok ('"', cs)
  | '\\' :: cs => .ok ('\\', cs)
  | '/' :: cs => .ok ('/', cs)
  | 'b' :: cs => .ok ('\x08', cs)
  | 'f' :: cs => .ok ('\x0c', cs)
  | 'n' :: cs => .ok ('\n', cs)
  | 'r' :: cs => .ok ('\r', cs)
  | 't' :: cs => .ok ('\t', cs)
  | 'u' :: cs => readCodePoint cs
  | _ :: _ => .error .malformed

/-- The rest of a string after its opening quote; `done` holds its characters so far, last
first. -/
def readChars : Nat → List Char → List Char → Except ReadError (String × List Char)
  | 0, _, _ => .error .unexpectedEnd
  | _ + 1, _, [] => .error .unexpectedEnd
  | fuel + 1, done, c :: cs =>
    if c = '"' then .ok (String.ofList done.reverse, cs)
    else if c = '\\' then do
      let (e, cs) ← readEscape cs
      readChars fuel (e :: done) cs
    else if c.toNat < 0x20 then .error .malformed
    else readChars fuel (c :: done) cs

/-- The digits at the front, and what follows them; there has to be one. -/
def readSomeDigits (cs : List Char) : Except ReadError (List Char × List Char) :=
  match cs.takeWhile Char.isDigit with
  | [] => if cs.isEmpty then .error .unexpectedEnd else .error .malformed
  | digits => .ok (digits, cs.dropWhile Char.isDigit)

/-- The number that digits spell. -/
def digitsValue (digits : List Char) : Nat := (Text.readNat? 10 digits).getD 0

def readPlaces : List Char → Except ReadError ((Option (List Char)) × List Char)
  | '.' :: cs => do
    let (digits, cs) ← readSomeDigits cs
    .ok (some digits, cs)
  | cs => .ok (none, cs)

def readExponent : List Char → Except ReadError (Option Int × List Char)
  | c :: cs =>
    if c = 'e' ∨ c = 'E' then do
      let (negative, cs) := match cs with
        | '-' :: rest => (true, rest)
        | '+' :: rest => (false, rest)
        | rest => (false, rest)
      let (digits, cs) ← readSomeDigits cs
      let n : Int := digitsValue digits
      .ok (some (if negative then -n else n), cs)
    else .ok (none, c :: cs)
  | [] => .ok (none, [])

/-- Whether 64 bits, with a sign or without, can hold the number. -/
def isWord (n : Int) : Bool := decide (Int64.minValue.toInt ≤ n ∧ n < UInt64.size)

/-- The value of a number with these parts. -/
def numberValue (negative : Bool) (whole : List Char) (places : Option (List Char))
    (exponent : Option Int) : Json :=
  let magnitude := digitsValue whole
  let n : Int := if negative then -magnitude else magnitude
  match places, exponent with
  | none, none =>
    if isWord n && !(negative && magnitude == 0) then int n else real ⟨negative, magnitude, 0⟩
  | _, _ =>
    let places := places.getD []
    real ⟨negative, digitsValue (whole ++ places), exponent.getD 0 - places.length⟩

def readNumber (negative : Bool) (cs : List Char) : Except ReadError (Json × List Char) := do
  let (whole, cs) ← readSomeDigits cs
  if whole.length ≠ 1 ∧ whole.head? = some '0' then .error .malformed
  else do
    let (places, cs) ← readPlaces cs
    let (exponent, cs) ← readExponent cs
    .ok (numberValue negative whole places exponent, cs)

mutual

def readValue : Nat → List Char → Except ReadError (Json × List Char)
  | 0, _ => .error .unexpectedEnd
  | fuel + 1, cs =>
    match skipSpace cs with
    | [] => .error .unexpectedEnd
    | 'n' :: cs => do .ok (null, ← expect ['u', 'l', 'l'] cs)
    | 't' :: cs => do .ok (bool true, ← expect ['r', 'u', 'e'] cs)
    | 'f' :: cs => do .ok (bool false, ← expect ['a', 'l', 's', 'e'] cs)
    | '"' :: cs => do
      let (s, cs) ← readChars (fuel + 1) [] cs
      .ok (str s, cs)
    | '-' :: cs => readNumber true cs
    | '[' :: cs =>
      match skipSpace cs with
      | ']' :: cs => .ok (arr [], cs)
      | cs => do
        let (items, cs) ← readItems fuel cs
        .ok (arr items, cs)
    | '\x7b' :: cs =>
      match skipSpace cs with
      | '\x7d' :: cs => .ok (obj [], cs)
      | cs => do
        let (members, cs) ← readMembers fuel cs
        .ok (obj members, cs)
    | c :: cs => if c.isDigit then readNumber false (c :: cs) else .error .malformed

/-- One or more items up to the end of their array. -/
def readItems : Nat → List Char → Except ReadError (List Json × List Char)
  | 0, _ => .error .unexpectedEnd
  | fuel + 1, cs => do
    let (item, cs) ← readValue fuel cs
    match skipSpace cs with
    | [] => .error .unexpectedEnd
    | ',' :: cs => do
      let (items, cs) ← readItems fuel cs
      .ok (item :: items, cs)
    | ']' :: cs => .ok ([item], cs)
    | _ :: _ => .error .malformed

/-- One or more members up to the end of their object. -/
def readMembers : Nat → List Char → Except ReadError ((List (String × Json)) × List Char)
  | 0, _ => .error .unexpectedEnd
  | fuel + 1, cs => do
    match skipSpace cs with
    | [] => .error .unexpectedEnd
    | '"' :: cs => do
      let (name, cs) ← readChars (fuel + 1) [] cs
      match skipSpace cs with
      | [] => .error .unexpectedEnd
      | ':' :: cs => do
        let (value, cs) ← readValue fuel cs
        match skipSpace cs with
        | [] => .error .unexpectedEnd
        | ',' :: cs => do
          let (members, cs) ← readMembers fuel cs
          .ok ((name, value) :: members, cs)
        | '\x7d' :: cs => .ok ([(name, value)], cs)
        | _ :: _ => .error .malformed
      | _ :: _ => .error .malformed
    | _ :: _ => .error .malformed

end

/-- The value that the whole text spells. Every step into a value uses up a character, so twice
as many steps as characters are enough. -/
def ofText (text : String) : Except ReadError Json := do
  let cs := text.toList
  let (value, rest) ← readValue (2 * cs.length + 2) cs
  if (skipSpace rest).isEmpty then .ok value else .error .malformed

end TrainingJobs.Json
