import TrainingJobs.Dict
import TrainingJobs.Text.Decimal

/-!
# TOML documents of texts

The part of TOML in which every line gives a text a name: `name = "text"`. A name is bare or
quoted; a text is basic, with escapes, or literal, and on one line or on several. Documents with
anything else in them, or with a name that stands there twice, are refused.
-/

namespace TrainingJobs.Toml

open Text

def isSpace (c : Char) : Bool := c == ' ' || c == '\t'

/-- A control character that may stand in no text and no comment. -/
def isControl (c : Char) : Bool := (c.toNat < 0x20 && c != '\t') || c == '\x7f'

/-- A character of a bare name. -/
def isBare (c : Char) : Bool := c.isAlphanum || c == '_' || c == '-'

/-- What follows a line feed, with or without a carriage return before it. -/
def afterNewline? : List Char → Option (List Char)
  | '\n' :: rest => some rest
  | '\r' :: '\n' :: rest => some rest
  | _ => none

/-- The character of a code point given in hexadecimal digits, and what follows them. -/
def codePoint? (digits : Nat) (cs : List Char) : Option (Char × List Char) := do
  let word := cs.take digits
  let n ← readNat? 16 word
  if word.length = digits ∧ n.isValidChar then some (Char.ofNat n, cs.drop digits) else none

/-- The character that an escape after its backslash stands for, and what follows it. -/
def escape? : List Char → Option (Char × List Char)
  | 'b' :: cs => some ('\x08', cs)
  | 't' :: cs => some ('\t', cs)
  | 'n' :: cs => some ('\n', cs)
  | 'f' :: cs => some ('\x0c', cs)
  | 'r' :: cs => some ('\r', cs)
  | 'e' :: cs => some ('\x1b', cs)
  | '"' :: cs => some ('"', cs)
  | '\\' :: cs => some ('\\', cs)
  | 'x' :: cs => codePoint? 2 cs
  | 'u' :: cs => codePoint? 4 cs
  | 'U' :: cs => codePoint? 8 cs
  | _ => none

/-- The rest of a text on one line, and what follows it. `done` holds its characters so far, last
first. -/
def readLine? (quote : Char) : Nat → List Char → List Char → Option (String × List Char)
  | 0, _, _ | _, _, [] => none
  | fuel + 1, done, c :: cs =>
    if c = quote then some (String.ofList done.reverse, cs)
    else if c = '\\' ∧ quote = '"' then do
      let (e, cs) ← escape? cs
      readLine? quote fuel (e :: done) cs
    else if isControl c then none
    else readLine? quote fuel (c :: done) cs

/-- What follows a backslash at the end of a line: the rest of that line has to be blank, and the
white space up to the next character is left out. -/
def afterContinuation? (cs : List Char) : Option (List Char) :=
  (afterNewline? (cs.dropWhile isSpace)).map fun rest =>
    rest.dropWhile fun c => isSpace c || c == '\n' || c == '\r'

/-- The rest of a text on several lines, and what follows it. Up to two quotes may stand right
before the three that end it. -/
def readLines? (quote : Char) : Nat → List Char → List Char → Option (String × List Char)
  | 0, _, _ | _, _, [] => none
  | fuel + 1, done, c :: cs =>
    if c = quote then
      let more := (cs.takeWhile (· == quote)).length
      if more < 2 then readLines? quote fuel (c :: done) cs
      else if more ≤ 4 then
        some (String.ofList (done.reverse ++ List.replicate (more - 2) quote), cs.drop more)
      else none
    else if c = '\\' ∧ quote = '"' then
      match afterContinuation? cs with
      | some cs => readLines? quote fuel done cs
      | none => do
        let (e, cs) ← escape? cs
        readLines? quote fuel (e :: done) cs
    else
      match afterNewline? (c :: cs) with
      | some cs => readLines? quote fuel ('\n' :: done) cs
      | none => if isControl c then none else readLines? quote fuel (c :: done) cs

/-- A text at the front, and what follows it. -/
def readText? (cs : List Char) : Option (String × List Char) :=
  let fuel := cs.length + 1
  match cs with
  | '"' :: '"' :: '"' :: cs => readLines? '"' fuel [] ((afterNewline? cs).getD cs)
  | '\'' :: '\'' :: '\'' :: cs => readLines? '\'' fuel [] ((afterNewline? cs).getD cs)
  | '"' :: cs => readLine? '"' fuel [] cs
  | '\'' :: cs => readLine? '\'' fuel [] cs
  | _ => none

/-- A name at the front, and what follows it. -/
def readName? (cs : List Char) : Option (String × List Char) :=
  let fuel := cs.length + 1
  match cs with
  | '"' :: cs => readLine? '"' fuel [] cs
  | '\'' :: cs => readLine? '\'' fuel [] cs
  | cs =>
    let name := cs.takeWhile isBare
    if name.isEmpty then none else some (String.ofList name, cs.dropWhile isBare)

/-- What follows the end of a line; before it there may be white space and a comment. -/
def endLine? (cs : List Char) : Option (List Char) :=
  let cs := cs.dropWhile isSpace
  let cs := match cs with
    | '#' :: cs => cs.dropWhile fun c => !isControl c
    | cs => cs
  if cs.isEmpty then some [] else afterNewline? cs

/-- A line that gives a text a name, and what follows it. -/
def readPair? (cs : List Char) : Option ((String × String) × List Char) := do
  let (name, cs) ← readName? cs
  match cs.dropWhile isSpace with
  | '=' :: cs => do
    let (text, cs) ← readText? (cs.dropWhile isSpace)
    some ((name, text), ← endLine? cs)
  | _ => none

def readPairs? : Nat → List Char → Option (List (String × String))
  | 0, _ => none
  | fuel + 1, cs =>
    let cs := cs.dropWhile isSpace
    if cs.isEmpty then some []
    else
      match endLine? cs with
      | some rest => readPairs? fuel rest
      | none => do
        let (pair, rest) ← readPair? cs
        return pair :: (← readPairs? fuel rest)

/-- The texts of a document with their names. A byte order mark may stand in front. -/
def texts? (document : String) : Option (Dict String) := do
  let cs := match document.toList with
    | '\uFEFF' :: cs => cs
    | cs => cs
  let pairs ← readPairs? (cs.length + 1) cs
  if (pairs.map (·.1)).eraseDups.length = pairs.length then some (Dict.ofList pairs) else none

end TrainingJobs.Toml
