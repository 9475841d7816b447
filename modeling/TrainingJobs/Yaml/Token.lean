import TrainingJobs.Yaml.Scalar

/-!
# YAML tokens

A text is cut into tokens. Indentation becomes tokens too: the first entry of a block collection
opens it, and a line further to the left closes it. A key need not be marked; that a scalar was
one shows only at the colon after it, so the tokens for it are put in front of the scalar then.
-/

namespace TrainingJobs.Yaml

/-- Lists and mappings, by indentation and between brackets. -/
inductive Collection where
  | blockList
  | blockMapping
  | flowList
  | flowMapping
  deriving DecidableEq, Repr

inductive Token where
  /-- The version of YAML that a document is written in. -/
  | version (major minor : Nat)
  /-- A handle for tags, and what it stands for. -/
  | shorthand (handle meaning : String)
  | documentStart
  | documentEnd
  | opening (collection : Collection)
  /-- The end of a collection between brackets. -/
  | closing (collection : Collection)
  /-- The end of a collection by indentation. -/
  | dedent
  | dash
  | comma
  | key
  | value
  | alias (name : String)
  | anchor (name : String)
  | tag (handle suffix : String)
  | scalar (style : Style) (text : String)
  deriving DecidableEq, Repr

/-- A place where a key may have begun. -/
structure KeyPlace where
  /-- How many tokens stand before it. -/
  tokens : Nat
  index : Nat
  line : Nat
  column : Nat
  /-- Nothing but a key may stand there. -/
  required : Bool
  deriving DecidableEq, Repr

/-- A text cut into tokens up to some place. -/
structure Scan where
  cursor : Cursor
  /-- The columns of the open block collections, innermost first. -/
  levels : List Nat := []
  /-- A key may begin here. -/
  keyAllowed : Bool := true
  /-- Where the last key may have begun. -/
  keyPlace : Option KeyPlace := none
  /-- The same for what is around each open bracket, innermost first. -/
  outerPlaces : List (Option KeyPlace) := []
  /-- How many tokens there are. -/
  count : Nat := 0
  /-- The tokens, last first. -/
  done : List Token := []
  deriving DecidableEq, Repr

def isWord (c : Char) : Bool := c.isAlphanum || c == '_' || c == '-'

namespace Scan

def inFlow (s : Scan) : Bool := !s.outerPlaces.isEmpty

/-- The column from which on text belongs to the innermost block collection. -/
def margin (s : Scan) : Nat :=
  match s.levels with
  | level :: _ => level + 1
  | [] => 0

def emit (s : Scan) (t : Token) : Scan := { s with count := s.count + 1, done := t :: s.done }

/-- Add a token after the first `n`. -/
def emitAt (s : Scan) (n : Nat) (t : Token) : Scan :=
  let (later, earlier) := s.done.splitAt (s.count - n)
  { s with count := s.count + 1, done := later ++ t :: earlier }

/-- Go on behind the next `n` characters. -/
def advance (s : Scan) (n : Nat) : Scan := { s with cursor := s.cursor.advance n }

/-- Say whether a key may begin here. -/
def allowKey (s : Scan) (allowed : Bool) : Scan := { s with keyAllowed := allowed }

/-- Give up the place where a key may have begun; one that is required has to become one. -/
def dropPlace (s : Scan) : Option Scan :=
  if s.keyPlace.any (·.required) then none else some { s with keyPlace := none }

/-- A key may begin here, if one may at all. -/
def markPlace (s : Scan) : Option Scan :=
  if s.keyAllowed then do
    let s ← s.dropPlace
    let c := s.cursor
    let required := !s.inFlow && s.levels.head? == some c.column
    some { s with keyPlace := some ⟨s.count, c.index, c.line, c.column, required⟩ }
  else some s

/-- A key stands on one line and has at most 1024 characters. -/
def freshPlace? (c : Cursor) : Option KeyPlace → Option (Option KeyPlace)
  | none => some none
  | some place =>
    if c.line = place.line ∧ c.index ≤ place.index + 1024 then some (some place)
    else if place.required then none
    else some none

/-- Give up the places that lie too far back. -/
def dropStale (s : Scan) : Option Scan := do
  some { s with
    keyPlace := ← freshPlace? s.cursor s.keyPlace
    outerPlaces := ← s.outerPlaces.mapM (freshPlace? s.cursor) }

/-- Open a block collection at a column, after the first `n` tokens, unless it is open. -/
def indent (s : Scan) (column n : Nat) (collection : Collection) : Scan :=
  if s.inFlow || !s.levels.head?.all (· < column) then s
  else { s.emitAt n (.opening collection) with levels := column :: s.levels }

/-- Close so many block collections. -/
def close (s : Scan) : List Nat → Scan
  | [] => s
  | _ :: rest => close { s.emit .dedent with levels := s.levels.drop 1 } rest

/-- Close the block collections right of a column. -/
def unindent (s : Scan) (column : Nat) : Scan :=
  if s.inFlow then s else s.close (s.levels.takeWhile (column < ·))

def unindentAll (s : Scan) : Scan := if s.inFlow then s else s.close s.levels

/-- Skip white space and comments. Where a key may begin a line, tabs are no indentation. A byte
order mark may begin the text. -/
def skipGap : Nat → Scan → Scan
  | 0, s => s
  | fuel + 1, s =>
    let c := if s.cursor.index = 0 ∧ s.cursor.sees '\uFEFF' then s.cursor.advance 1 else s.cursor
    let tabs := s.inFlow || !s.keyAllowed
    let c := c.skipWhile fun x => x == ' ' || (tabs && x == '\t')
    let c := if c.sees '#' then c.skipToLineEnd else c
    if c.rest.head?.any isBreak then
      skipGap fuel { s with cursor := c.readBreak.2, keyAllowed := s.keyAllowed || !s.inFlow }
    else { s with cursor := c }

def scanDocumentMark (s : Scan) : Option Scan := do
  let s ← s.unindentAll.dropPlace
  let t := if s.cursor.sees '-' then Token.documentStart else .documentEnd
  some ((s.emit t).advance 3 |>.allowKey false)

/-- An opening bracket, which may begin a key. -/
def scanOpening (s : Scan) (collection : Collection) : Option Scan := do
  let s ← s.markPlace
  let s := { s with keyPlace := none, outerPlaces := s.keyPlace :: s.outerPlaces }
  some (((s.emit (.opening collection)).advance 1).allowKey true)

def scanClosing (s : Scan) (collection : Collection) : Option Scan := do
  let s ← s.dropPlace
  let s := match s.outerPlaces with
    | place :: rest => { s with keyPlace := place, outerPlaces := rest }
    | [] => s
  some (((s.emit (.closing collection)).advance 1).allowKey false)

def scanComma (s : Scan) : Option Scan := do
  let s ← s.dropPlace
  some (((s.emit .comma).advance 1).allowKey true)

/-- A dash before an item. -/
def scanDash (s : Scan) : Option Scan := do
  if !s.inFlow && !s.keyAllowed then none
  let s ← (s.indent s.cursor.column s.count .blockList).dropPlace
  some (((s.emit .dash).advance 1).allowKey true)

def scanKey (s : Scan) : Option Scan := do
  if !s.inFlow && !s.keyAllowed then none
  let s ← (s.indent s.cursor.column s.count .blockMapping).dropPlace
  some (((s.emit .key).advance 1).allowKey !s.inFlow)

/-- A colon before a value. What began at the last place turns out to be the key. -/
def scanValue (s : Scan) : Option Scan :=
  match s.keyPlace with
  | some place =>
    let s := (s.emitAt place.tokens .key).indent place.column place.tokens .blockMapping
    some ((({ s with keyPlace := none }.emit .value).advance 1).allowKey false)
  | none => do
    if !s.inFlow && !s.keyAllowed then none
    let s := s.indent s.cursor.column s.count .blockMapping
    some (((s.emit .value).advance 1).allowKey !s.inFlow)

def scanName (s : Scan) (token : String → Token) : Option Scan := do
  let s ← s.markPlace
  let rest := s.cursor.rest.drop 1
  let name := rest.takeWhile isWord
  let after := rest.drop name.length
  if !name.isEmpty && (gapNext after || after.head?.any "?:,]\x7d%@\x60".toList.contains) then
    some (((s.emit (token (String.ofList name))).advance (name.length + 1)).allowKey false)
  else none

/-- A character of a tag. Commas and brackets may stand in one that is given in full. -/
def isTagChar (full : Bool) (c : Char) : Bool :=
  isWord c || ";/?:@&=+$.!~*'()".toList.contains c || (full && ",[]".toList.contains c)

/-- The characters of a tag, and how long they are. An escape gives an ASCII character by its
number; other escapes stay as they are. -/
def tagChars? (full : Bool) : List Char → Option (List Char × Nat)
  | '%' :: h :: l :: rest => do
    let n ← Text.readNat? 16 [h, l]
    let (more, length) ← tagChars? full rest
    some ((if n < 128 then [Char.ofNat n] else ['%', h, l]) ++ more, length + 3)
  | c :: rest =>
    if c = '%' then none
    else if isTagChar full c then
      (tagChars? full rest).map fun (more, length) => (c :: more, length + 1)
    else some ([], 0)
  | [] => some ([], 0)

/-- A tag: its handle, what follows that, and how long both are. -/
def tagParts? (cs : List Char) : Option ((String × String) × Nat) :=
  match cs with
  | '!' :: '<' :: rest => do
    let (chars, length) ← tagChars? true rest
    if chars.isEmpty || (rest.drop length).head? != some '>' then none
    else some (("", String.ofList chars), length + 3)
  | '!' :: rest => do
    let word := rest.takeWhile isWord
    match rest.drop word.length with
    | '!' :: after => do
      let (chars, length) ← tagChars? false after
      if chars.isEmpty then none
      else some ((String.ofList ('!' :: word ++ ['!']), String.ofList chars),
        word.length + 2 + length)
    | _ => do
      let (chars, length) ← tagChars? false rest
      if chars.isEmpty then some (("", "!"), 1)
      else some (("!", String.ofList chars), length + 1)
  | _ => none

/-- A tag, which may begin a key. -/
def scanTag (s : Scan) : Option Scan := do
  let s ← s.markPlace
  let ((handle, suffix), length) ← tagParts? s.cursor.rest
  let s := ((s.emit (.tag handle suffix)).advance length).allowKey false
  if s.cursor.atGap || (s.inFlow && s.cursor.sees ',') then some s else none

/-- A scalar over several lines. A key may begin after it. -/
def scanBlock (s : Scan) (style : Style) : Option Scan := do
  let s ← s.dropPlace
  let (text, c) ← readBlock? (style == .folded) s.margin (s.cursor.advance 1)
  some { s.emit (.scalar style text) with cursor := c, keyAllowed := true }

/-- A scalar between quotes, which may be a key. -/
def scanQuoted (s : Scan) (quote : Char) : Option Scan := do
  let s ← s.markPlace
  let c := s.cursor.advance 1
  let (text, c) ← readQuoted? quote (c.rest.length + 1) [] c
  some { s.emit (.scalar .quoted text) with cursor := c, keyAllowed := false }

/-- A plain scalar, which may be a key. If it is followed by a line end a key may begin there. -/
def scanPlain (s : Scan) : Option Scan := do
  let s ← s.markPlace
  let c := s.cursor
  let ((text, ended), c) ← readPlain? s.inFlow s.margin (c.rest.length + 1) [] {} c
  some { s.emit (.scalar .plain text) with cursor := c, keyAllowed := ended }

/-- A version number after its directive's name. -/
def versionDirective? (cs : List Char) : Option (Token × List Char) := do
  let cs := cs.dropWhile isSpace
  let major := cs.takeWhile Char.isDigit
  match cs.drop major.length with
  | '.' :: rest => do
    let minor := rest.takeWhile Char.isDigit
    if 9 < major.length ∨ 9 < minor.length then none
    else some (.version (← Text.readNat? 10 major) (← Text.readNat? 10 minor),
      rest.drop minor.length)
  | _ => none

/-- A handle and its meaning after their directive's name. -/
def shorthandDirective? (cs : List Char) : Option (Token × List Char) := do
  match cs.dropWhile isSpace with
  | '!' :: rest => do
    let word := rest.takeWhile isWord
    let (handle, rest) ← match rest.drop word.length with
      | '!' :: after => some ('!' :: word ++ ['!'], after)
      | after => if word.isEmpty then some (['!'], after) else none
    if !rest.head?.any isSpace then none
    let rest := rest.dropWhile isSpace
    let (chars, length) ← tagChars? true rest
    let rest := rest.drop length
    if chars.isEmpty || !gapNext rest then none
    else some (.shorthand (String.ofList handle) (String.ofList chars), rest)
  | _ => none

def scanDirective (s : Scan) : Option Scan := do
  let s ← s.unindentAll.dropPlace
  let cs := s.cursor.rest.drop 1
  let name := cs.takeWhile isWord
  let after := cs.drop name.length
  if !gapNext after then none
  let (token, rest) ←
    if name = "YAML".toList then versionDirective? after
    else if name = "TAG".toList then shorthandDirective? after
    else none
  let rest := rest.dropWhile isSpace
  if gapNext rest || rest.head? == some '#' then
    let c := s.cursor.skipToLineEnd
    some { s.emit token with cursor := c.readBreak.2, keyAllowed := false }
  else none

/-- Whether a plain scalar may begin with these characters. -/
def beginsPlain (flow : Bool) : List Char → Bool
  | [] => false
  | x :: rest =>
    if x = '-' then !gapNext rest
    else if x = '?' ∨ x = ':' then !flow && !gapNext rest
    else !isGap x && !",[]\x7b\x7d#&*!|>'\"%@\x60".toList.contains x

/-- The next token, at a character that is no white space. -/
def scanNext (s : Scan) : Option Scan :=
  match s.cursor.rest with
  | [] => some s
  | x :: rest =>
    let indicates := s.inFlow || gapNext rest
    if x = '%' ∧ s.cursor.column = 0 then s.scanDirective
    else if s.cursor.atDocumentMark then s.scanDocumentMark
    else if x = '[' then s.scanOpening .flowList
    else if x = '\x7b' then s.scanOpening .flowMapping
    else if x = ']' then s.scanClosing .flowList
    else if x = '\x7d' then s.scanClosing .flowMapping
    else if x = ',' then s.scanComma
    else if x = '-' ∧ gapNext rest then s.scanDash
    else if x = '?' ∧ indicates then s.scanKey
    else if x = ':' ∧ indicates then s.scanValue
    else if x = '*' then s.scanName .alias
    else if x = '&' then s.scanName .anchor
    else if x = '!' then s.scanTag
    else if x = '|' ∧ !s.inFlow then s.scanBlock .literal
    else if x = '>' ∧ !s.inFlow then s.scanBlock .folded
    else if x = '\'' ∨ x = '"' then s.scanQuoted x
    else if beginsPlain s.inFlow s.cursor.rest then s.scanPlain
    else none

/-- The tokens up to the end of the text. -/
def run : Nat → Scan → Option (List Token)
  | 0, _ => none
  | fuel + 1, s => do
    let s ← (skipGap (s.cursor.rest.length + 1) s).dropStale
    let s := s.unindent s.cursor.column
    if s.cursor.atEnd then do
      let s ← s.unindentAll.dropPlace
      some s.done.reverse
    else run fuel (← s.scanNext)

end Scan

namespace Token

/-- The tokens of a text; none if it is not well formed. Every token but a closing one uses up a
character. -/
def scan? (text : String) : Option (List Token) :=
  let cs := text.toList
  if cs.all isAllowed then Scan.run (cs.length + 2) { cursor := { rest := cs } } else none

end Token

end TrainingJobs.Yaml
