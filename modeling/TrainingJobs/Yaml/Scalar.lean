import TrainingJobs.Text.Decimal
import TrainingJobs.Yaml.Cursor

/-!
# The text of YAML scalars

A scalar is plain, quoted or a block. Plain and quoted scalars are folded: a line end inside one
becomes a space, and of several line ends all but the first stay. A block keeps its line ends or
folds them likewise, and its indentation is taken away. Readers give none for a scalar that is
not well formed.
-/

namespace TrainingJobs.Yaml

/-- How a scalar is written. -/
inductive Style where
  | plain
  | quoted
  | literal
  | folded
  deriving DecidableEq, Repr

/-- White space inside a scalar: that before the first line end, and the line ends. -/
structure Gap where
  spaces : List Char := []
  breaks : List (List Char) := []
  deriving DecidableEq, Repr

namespace Gap

/-- The text that white space is folded to. -/
def folded (g : Gap) : List Char :=
  match g.breaks with
  | [] => g.spaces
  | first :: more =>
    if first = ['\n'] then if more.isEmpty then [' '] else more.flatten
    else first ++ more.flatten

/-- Read white space. After a line end no tab may stand left of the margin. -/
def read? (margin : Nat) : Nat → Gap → Cursor → Option (Gap × Cursor)
  | 0, _, _ => none
  | fuel + 1, g, c =>
    match c.next? with
    | none => some (g, c)
    | some x =>
      if isSpace x then
        if g.breaks.isEmpty then read? margin fuel { g with spaces := g.spaces ++ [x] } (c.advance 1)
        else if x = '\t' ∧ c.column < margin then none
        else read? margin fuel g (c.advance 1)
      else if isBreak x then
        read? margin fuel { g with breaks := g.breaks ++ [c.readBreak.1] } c.readBreak.2
      else some (g, c)

end Gap

/-- The characters of a plain scalar up to white space or to what ends the scalar. In a flow
collection commas and brackets end it, and none of them may follow a colon. -/
def plainRun? (flow : Bool) : List Char → Option (List Char)
  | [] => some []
  | x :: rest =>
    if isGap x then some []
    else if flow && x == ':' && rest.head?.any ",?[]\x7b\x7d".toList.contains then none
    else if x == ':' && gapNext rest then some []
    else if flow && ",[]\x7b\x7d".toList.contains x then some []
    else (plainRun? flow rest).map (x :: ·)

/-- The rest of a plain scalar, and whether a line end follows it. `text` is what has been read,
`gap` the white space before the next character. -/
def readPlain? (flow : Bool) (margin : Nat) :
    Nat → List Char → Gap → Cursor → Option ((String × Bool) × Cursor)
  | 0, _, _, _ => none
  | fuel + 1, text, gap, c =>
    if c.atDocumentMark || c.sees '#' then
      some ((String.ofList text, !gap.breaks.isEmpty), c)
    else do
      let run ← plainRun? flow c.rest
      let c := c.advance run.length
      let (text, gap) := if run.isEmpty then (text, gap) else (text ++ gap.folded ++ run, {})
      if c.atEnd || !c.atGap then some ((String.ofList text, !gap.breaks.isEmpty), c)
      else do
        let (gap, c) ← Gap.read? margin (c.rest.length + 1) {} c
        if !flow && c.column < margin then some ((String.ofList text, !gap.breaks.isEmpty), c)
        else readPlain? flow margin fuel text gap c

/-- The character of a code point given in hexadecimal digits, and how many digits there are. -/
def hexEscape? (digits : Nat) (cs : List Char) : Option (Char × Nat) := do
  let word := cs.take digits
  let n ← Text.readNat? 16 word
  if word.length = digits ∧ n.isValidChar then some (Char.ofNat n, digits + 1) else none

/-- The character that an escape after its backslash stands for, and how long the escape is. -/
def escape? : List Char → Option (Char × Nat)
  | '0' :: _ => some ('\x00', 1)
  | 'a' :: _ => some ('\x07', 1)
  | 'b' :: _ => some ('\x08', 1)
  | 't' :: _ => some ('\t', 1)
  | '\t' :: _ => some ('\t', 1)
  | 'n' :: _ => some ('\n', 1)
  | 'v' :: _ => some ('\x0b', 1)
  | 'f' :: _ => some ('\x0c', 1)
  | 'r' :: _ => some ('\r', 1)
  | 'e' :: _ => some ('\x1b', 1)
  | ' ' :: _ => some (' ', 1)
  | '"' :: _ => some ('"', 1)
  | '/' :: _ => some ('/', 1)
  | '\\' :: _ => some ('\\', 1)
  | 'N' :: _ => some ('\x85', 1)
  | '_' :: _ => some ('\xa0', 1)
  | 'L' :: _ => some ('\u2028', 1)
  | 'P' :: _ => some ('\u2029', 1)
  | 'x' :: cs => hexEscape? 2 cs
  | 'u' :: cs => hexEscape? 4 cs
  | 'U' :: cs => hexEscape? 8 cs
  | _ => none

/-- The rest of a quoted scalar. `done` holds its characters so far, last first. A quote is
doubled inside single quotes; escapes stand inside double quotes, and there a backslash at the end
of a line keeps the line end out of the text. -/
def readQuoted? (quote : Char) : Nat → List Char → Cursor → Option (String × Cursor)
  | 0, _, _ => none
  | fuel + 1, done, c =>
    if c.atDocumentMark then none
    else
      match c.rest with
      | [] => none
      | x :: rest =>
        if x = quote then
          if quote = '\'' ∧ rest.head? = some quote then
            readQuoted? quote fuel (quote :: done) (c.advance 2)
          else some (String.ofList done.reverse, c.advance 1)
        else if isGap x then do
          let (gap, c) ← Gap.read? 0 (c.rest.length + 1) {} c
          readQuoted? quote fuel (gap.folded.reverse ++ done) c
        else if x = '\\' ∧ quote = '"' then
          if rest.head?.any isBreak then do
            let c := (c.advance 1).readBreak.2
            let (gap, c) ← Gap.read? 0 (c.rest.length + 1) { breaks := [[]] } c
            readQuoted? quote fuel (gap.folded.reverse ++ done) c
          else do
            let (e, length) ← escape? rest
            readQuoted? quote fuel (e :: done) (c.advance (length + 1))
        else readQuoted? quote fuel (x :: done) (c.advance 1)

/-- What becomes of the line ends at the end of a block. -/
inductive Chomping where
  /-- None is kept. -/
  | strip
  /-- That of the last line is kept. -/
  | clip
  /-- All are kept. -/
  | keep
  deriving DecidableEq, Repr

def chomping? : List Char → Option Chomping
  | '+' :: _ => some .keep
  | '-' :: _ => some .strip
  | _ => none

/-- The indentation that a digit asks for; it is not zero. -/
def indentation? : List Char → Option Nat
  | x :: _ => if x = '0' then none else Text.readNat? 10 [x]
  | [] => none

def digitNext : List Char → Bool
  | x :: _ => x.isDigit
  | [] => false

/-- What follows the mark of a block on its line: chomping and indentation in either order, white
space and a comment. -/
def readBlockHeader? (c : Cursor) : Option ((Chomping × Option Nat) × Cursor) := do
  let (first, c) := match chomping? c.rest with
    | some chomping => (some chomping, c.advance 1)
    | none => (none, c)
  let (indentation, c) ←
    if digitNext c.rest then (indentation? c.rest).map fun n => (some n, c.advance 1)
    else some (none, c)
  let (second, c) := match chomping? c.rest with
    | some chomping =>
      if first.isNone && indentation.isSome then (some chomping, c.advance 1) else (none, c)
    | none => (none, c)
  let c := c.skipWhile isSpace
  let c := if c.sees '#' then c.skipToLineEnd else c
  if c.atLineEnd then some (((first.or second).getD .clip, indentation), c.readBreak.2) else none

/-- Blank lines in a block: their line ends, and the widest indentation among them. Indentation 0
is one that is not known yet. -/
def readBlankLines? (indentation : Nat) :
    Nat → List Char → Nat → Cursor → Option ((List Char × Nat) × Cursor)
  | 0, _, _, _ => none
  | fuel + 1, breaks, widest, c =>
    let spaces := (c.rest.takeWhile (· == ' ')).length
    let c := c.advance (if indentation = 0 then spaces else min spaces (indentation - c.column))
    let widest := max widest c.column
    if (indentation = 0 ∨ c.column < indentation) ∧ c.sees '\t' then none
    else if c.rest.head?.any isBreak then
      readBlankLines? indentation fuel (breaks ++ c.readBreak.1) widest c.readBreak.2
    else some ((breaks, widest), c)

/-- What has been read of a block. -/
structure BlockText where
  text : List Char := []
  /-- The line end after the last line. -/
  lineEnd : List Char := []
  /-- The line ends of the blank lines after that. -/
  blanks : List Char := []
  /-- The last line begins with white space. -/
  indented : Bool := false
  deriving DecidableEq, Repr

namespace BlockText

/-- The text with the next line. Folding joins lines that do not begin with white space. -/
def addLine (fold : Bool) (b : BlockText) (line : List Char) : List Char :=
  let joint :=
    if fold && b.lineEnd == ['\n'] && !b.indented && !line.head?.any isSpace then
      if b.blanks.isEmpty then [' '] else []
    else b.lineEnd
  b.text ++ joint ++ b.blanks ++ line

/-- The rest of the lines of a block. -/
def read? (fold : Bool) (indentation : Nat) : Nat → BlockText → Cursor → Option (BlockText × Cursor)
  | 0, _, _ => none
  | fuel + 1, b, c =>
    if c.column = indentation ∧ ¬c.atEnd then do
      let line := c.rest.takeWhile fun x => !isBreak x
      let (lineEnd, c) := (c.advance line.length).readBreak
      let ((blanks, _), c) ← readBlankLines? indentation (c.rest.length + 1) [] 0 c
      read? fold indentation fuel
        ⟨b.addLine fold line, lineEnd, blanks, line.head?.any isSpace⟩ c
    else some (b, c)

def chomped (b : BlockText) : Chomping → List Char
  | .strip => b.text
  | .clip => b.text ++ b.lineEnd
  | .keep => b.text ++ b.lineEnd ++ b.blanks

end BlockText

/-- A block after its mark. Its lines are indented at least up to the margin; without an
indentation of its own the first line that is not blank gives it. -/
def readBlock? (fold : Bool) (margin : Nat) (c : Cursor) : Option (String × Cursor) := do
  let ((chomping, indentation), c) ← readBlockHeader? c
  let given := match indentation with
    | some n => margin - 1 + n
    | none => 0
  let ((blanks, widest), c) ← readBlankLines? given (c.rest.length + 1) [] 0 c
  let indentation := if given = 0 then max widest (max margin 1) else given
  let (b, c) ← BlockText.read? fold indentation (c.rest.length + 1) { blanks := blanks } c
  some (String.ofList (b.chomped chomping), c)

end TrainingJobs.Yaml
