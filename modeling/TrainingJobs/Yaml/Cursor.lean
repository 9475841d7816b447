/-!
# Places in a YAML text

A cursor is a place in a text: what is left from there on, and how many characters, lines and
columns lie before it. Indentation is a matter of columns, and a key has to stand on one line.
-/

namespace TrainingJobs.Yaml

def isSpace (c : Char) : Bool := c == ' ' || c == '\t'

/-- A character that ends a line. -/
def isBreak (c : Char) : Bool :=
  c == '\n' || c == '\r' || c == '\x85' || c == '\u2028' || c == '\u2029'

/-- White space of either kind. -/
def isGap (c : Char) : Bool := isSpace c || isBreak c

/-- A character that may stand in a text at all. -/
def isAllowed (c : Char) : Bool :=
  let n := c.toNat
  c == '\t' || c == '\n' || c == '\r' || (0x20 ≤ n && n ≤ 0x7e) || n == 0x85
    || (0xa0 ≤ n && n ≤ 0xfffd) || 0x10000 ≤ n

def gapNext : List Char → Bool
  | [] => true
  | c :: _ => isGap c

/-- Whether a text goes on with the three dashes or points that stand between documents. -/
def isDocumentMark : List Char → Bool
  | '-' :: '-' :: '-' :: rest => gapNext rest
  | '.' :: '.' :: '.' :: rest => gapNext rest
  | _ => false

/-- A place in a text. -/
structure Cursor where
  rest : List Char
  index : Nat := 0
  line : Nat := 0
  column : Nat := 0
  deriving DecidableEq, Repr

namespace Cursor

def next? (c : Cursor) : Option Char := c.rest.head?

def sees (c : Cursor) (x : Char) : Bool := c.rest.head? == some x

def atEnd (c : Cursor) : Bool := c.rest.isEmpty

/-- Whether white space or the end comes next. -/
def atGap (c : Cursor) : Bool := gapNext c.rest

/-- Whether a line or the text ends here. -/
def atLineEnd (c : Cursor) : Bool := c.rest.head?.all isBreak

/-- Whether the marks between documents come next, at the beginning of a line. -/
def atDocumentMark (c : Cursor) : Bool := c.column == 0 && isDocumentMark c.rest

/-- So many characters further on the same line. -/
def advance (c : Cursor) (n : Nat) : Cursor :=
  ⟨c.rest.drop n, c.index + n, c.line, c.column + n⟩

/-- Beyond all characters that satisfy `p`, on the same line. -/
def skipWhile (p : Char → Bool) (c : Cursor) : Cursor := c.advance (c.rest.takeWhile p).length

/-- Beyond the rest of the line, as far as its end. -/
def skipToLineEnd (c : Cursor) : Cursor := c.skipWhile fun x => !isBreak x

/-- What a line end adds to a text, and the place after it. -/
def readBreak (c : Cursor) : List Char × Cursor :=
  match c.rest with
  | '\r' :: '\n' :: rest => (['\n'], ⟨rest, c.index + 2, c.line + 1, 0⟩)
  | x :: rest =>
    if isBreak x then
      (if x = '\u2028' ∨ x = '\u2029' then [x] else ['\n'], ⟨rest, c.index + 1, c.line + 1, 0⟩)
    else ([], c)
  | [] => ([], c)

end Cursor

end TrainingJobs.Yaml
