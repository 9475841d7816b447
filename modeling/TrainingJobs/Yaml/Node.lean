import TrainingJobs.Yaml.Token

/-!
# YAML nodes

The tokens of a text are put together to a tree of nodes. An alias stands for the node that last
took its anchor. Aliases may not be used for documents that are far larger than they look, and
nodes may not be nested too deeply.
-/

namespace TrainingJobs.Yaml

/-- A node. Its tag says what kind of value it is meant to be. -/
inductive Node where
  | scalar (tag : Option String) (style : Style) (text : String)
  | list (tag : Option String) (items : List Node)
  | mapping (tag : Option String) (members : List (Node × Node))
  deriving Inhabited, Repr

namespace Node

/-- The node where nothing is written. -/
def absent (tag : Option String) : Node := scalar tag .plain ""

end Node

/-- A node and what it costs. -/
structure Composed where
  node : Node
  /-- How many aliases are followed in it, those in what they stand for included. -/
  jumps : Nat := 0
  /-- How deeply lists and mappings are nested in it. -/
  depth : Nat := 0
  deriving Inhabited, Repr

/-- What remains to be read of a document, and what is known of it. -/
structure Reading where
  tokens : List Token
  /-- Tag handles and what they stand for. -/
  shorthands : List (String × String) := []
  /-- The anchors with their numbers, last first. -/
  anchors : List (String × Nat) := []
  /-- The nodes of the anchors of these numbers. -/
  anchored : List (Nat × Composed) := []
  /-- How many nodes begin or end in what has been read. -/
  events : Nat := 0
  deriving Repr

/-- A step of reading, which may fail. -/
abbrev Read (α : Type) := StateT Reading Option α

namespace Read

def next? : Read (Option Token) := do return (← get).tokens.head?

/-- Go on behind the next token. -/
def skip : Read Unit := modify fun r => { r with tokens := r.tokens.drop 1 }

def sees (t : Token) : Read Bool := do return (← next?) == some t

/-- Go on behind a token if it is the next one; whether it was. -/
def took (t : Token) : Read Bool := do
  if ← sees t then
    skip
    return true
  else return false

def count (events : Nat) : Read Unit := modify fun r => { r with events := r.events + events }

def leaf (n : Node) : Read Composed := do
  count 1
  return { node := n }

def listOf (tag : Option String) (items : List Composed) : Read Composed := do
  count 2
  return {
    node := .list tag (items.map (·.node))
    jumps := (items.map (·.jumps)).foldl (· + ·) 0
    depth := (items.map (·.depth)).foldl max 0 + 1 }

def mappingOf (tag : Option String) (members : List (Composed × Composed)) : Read Composed := do
  count 2
  return {
    node := .mapping tag (members.map fun m => (m.1.node, m.2.node))
    jumps := (members.map fun m => m.1.jumps + m.2.jumps).foldl (· + ·) 0
    depth := (members.map fun m => max m.1.depth m.2.depth).foldl max 0 + 1 }

/-- What an alias stands for. A node that is not complete has no aliases yet. -/
def aliased (name : String) : Read Composed := do
  count 1
  let r ← get
  match (r.anchors.lookup name).bind fun number => r.anchored.lookup number with
  | some n => return { n with jumps := n.jumps + 1 }
  | none => failure

/-- The tag of a handle and what follows it. -/
def tagOf (handle suffix : String) : Read String := do
  if handle.isEmpty then return suffix
  match (← get).shorthands.lookup handle with
  | some meaning => return meaning ++ suffix
  | none => failure

def anchor? : Read (Option String) := do
  match ← next? with
  | some (.anchor name) =>
    skip
    return some name
  | _ => return none

def tag? : Read (Option String) := do
  match ← next? with
  | some (.tag handle suffix) =>
    skip
    return some (← tagOf handle suffix)
  | _ => return none

/-- An anchor and a tag in either order. -/
def properties : Read (Option String × Option String) := do
  match ← anchor? with
  | some name => return (some name, ← tag?)
  | none =>
    let tag ← tag?
    return (← if tag.isSome then anchor? else pure none, tag)

/-- Let an anchor stand for a node that begins here; the number of the anchor. -/
def beginAnchor (name : String) : Read Nat := do
  let r ← get
  let number := r.anchors.length
  set { r with anchors := (name, number) :: r.anchors }
  return number

/-- The node of an anchor is complete. -/
def endAnchor (number : Nat) (n : Composed) : Read Unit :=
  modify fun r => { r with anchored := (number, n) :: r.anchored }

/-- The comma before every entry between brackets but the first. -/
def separated (first : Bool) : Read Unit := do
  if first then return
  if ← took .comma then return
  failure

/-- Whether the next token is one of these. -/
def seesOneOf (ts : List Token) : Read Bool := do return (← next?).any ts.contains

mutual

/-- A node. Block collections are left out between brackets; a list as the value of a member need
not be indented. -/
def node (block unindented : Bool) : Nat → Read Composed
  | 0 => failure
  | fuel + 1 => do
    if let some (.alias name) ← next? then
      skip
      return ← aliased name
    let (anchor, tag) ← properties
    let number ← match anchor with
      | some name => do pure (some (← beginAnchor name))
      | none => pure none
    let n ← content block unindented (anchor.isSome || tag.isSome) tag fuel
    if let some number := number then endAnchor number n
    return n

/-- What follows the properties of a node. With properties there need be nothing. -/
def content (block unindented mayMiss : Bool) (tag : Option String) : Nat → Read Composed
  | 0 => failure
  | fuel + 1 => do
    match ← next? with
    | some (.scalar style text) => do
      skip
      leaf (.scalar (if tag == some "!" then none else tag) style text)
    | some (.opening .flowList) => do
      skip
      listOf tag (← flowItems true fuel)
    | some (.opening .flowMapping) => do
      skip
      mappingOf tag (← flowMembers true fuel)
    | some .dash =>
      if unindented then do listOf tag (← unindentedItems fuel)
      else if mayMiss then leaf (.absent tag)
      else failure
    | some (.opening .blockList) =>
      if block then do
        skip
        listOf tag (← items fuel)
      else if mayMiss then leaf (.absent tag)
      else failure
    | some (.opening .blockMapping) =>
      if block then do
        skip
        mappingOf tag (← members fuel)
      else if mayMiss then leaf (.absent tag)
      else failure
    | _ => if mayMiss then leaf (.absent tag) else failure

/-- A node, or nothing before one of these tokens. -/
def nodeUnless (ends : List Token) (block unindented : Bool) : Nat → Read Composed
  | 0 => failure
  | fuel + 1 => do
    if ← seesOneOf ends then leaf (.absent none) else node block unindented fuel

def items : Nat → Read (List Composed)
  | 0 => failure
  | fuel + 1 => do
    if ← took .dash then
      let item ← nodeUnless [.dash, .dedent] true false fuel
      return item :: (← items fuel)
    else if ← took .dedent then return []
    else failure

/-- The items of a list that is not indented. -/
def unindentedItems : Nat → Read (List Composed)
  | 0 => failure
  | fuel + 1 => do
    if ← took .dash then
      let item ← nodeUnless [.dash, .key, .value, .dedent] true false fuel
      return item :: (← unindentedItems fuel)
    else return []

def blockValue : Nat → Read Composed
  | 0 => failure
  | fuel + 1 => do
    if ← took .value then nodeUnless [.key, .value, .dedent] true true fuel
    else leaf (.absent none)

def members : Nat → Read (List (Composed × Composed))
  | 0 => failure
  | fuel + 1 => do
    if ← took .key then
      let key ← nodeUnless [.key, .value, .dedent] true true fuel
      let value ← blockValue fuel
      return (key, value) :: (← members fuel)
    else if ← took .dedent then return []
    else failure

/-- The items of a list between brackets. An item may be a mapping of one member. -/
def flowItems (first : Bool) : Nat → Read (List Composed)
  | 0 => failure
  | fuel + 1 => do
    if ← took (.closing .flowList) then return []
    separated first
    if ← took (.closing .flowList) then return []
    let item ← if ← took .key then singleMember fuel else node false false fuel
    return item :: (← flowItems false fuel)

/-- A mapping of one member after the mark of its key. -/
def singleMember : Nat → Read Composed
  | 0 => failure
  | fuel + 1 => do
    let ends := [Token.value, .comma, .closing .flowList]
    let missing ← seesOneOf ends
    let key ← nodeUnless ends false false fuel
    if missing then skip
    mappingOf none [(key, ← flowValue .flowList fuel)]

def flowValue (around : Collection) : Nat → Read Composed
  | 0 => failure
  | fuel + 1 => do
    if ← took .value then nodeUnless [.comma, .closing around] false false fuel
    else leaf (.absent none)

def flowMembers (first : Bool) : Nat → Read (List (Composed × Composed))
  | 0 => failure
  | fuel + 1 => do
    if ← took (.closing .flowMapping) then return []
    separated first
    if ← took (.closing .flowMapping) then return []
    let marked ← took .key
    let key ←
      if marked then nodeUnless [.value, .comma, .closing .flowMapping] false false fuel
      else node false false fuel
    let value ← if marked then flowValue .flowMapping fuel else leaf (.absent none)
    return (key, value) :: (← flowMembers false fuel)

end

/-- The directives of a document; whether there are any. A handle is explained once, and the
version is one of 1.1 and 1.2 and given once. -/
def directives : Nat → Bool → Read Bool
  | 0, _ => failure
  | fuel + 1, versioned => do
    match ← next? with
    | some (.version major minor) => do
      if versioned || major ≠ 1 || (minor ≠ 1 && minor ≠ 2) then failure
      skip
      let _ ← directives fuel true
      return true
    | some (.shorthand handle meaning) => do
      let r ← get
      if (r.shorthands.lookup handle).isSome then failure
      set { r with shorthands := (handle, meaning) :: r.shorthands }
      skip
      let _ ← directives fuel versioned
      return true
    | _ => return false

/-- What tag handles stand for when a document does not explain them. -/
def defaultShorthands : List (String × String) :=
  [("!", "!"), ("!!", "tag:yaml.org,2002:")]

/-- Whether a document ends before the next token. -/
def atDocumentEnd : Read Bool := do
  match ← next? with
  | none | some .documentStart | some .documentEnd | some (.version ..)
  | some (.shorthand ..) => return true
  | _ => return false

/-- The only document of a text. -/
def document : Read Composed := do
  let length := (← get).tokens.length
  if length = 0 then return { node := .absent none }
  let explained ← directives (length + 1) false
  modify fun r => { r with shorthands := r.shorthands ++ defaultShorthands }
  let marked ← took .documentStart
  if explained && !marked then failure
  let n ←
    if marked && (← atDocumentEnd) then leaf (.absent none)
    else node true false (4 * length + 8)
  modify fun r => { r with tokens := r.tokens.dropWhile (· == .documentEnd) }
  if (← get).tokens.isEmpty then return n else failure

end Read

namespace Node

/-- How deeply lists and mappings may be nested. -/
def maxDepth : Nat := 128

/-- The node that a text spells. There may be a hundred times as many uses of aliases as there are
beginnings and ends of nodes. -/
def ofText? (text : String) : Option Node := do
  let tokens ← Token.scan? text
  let (n, r) ← Read.document.run { tokens := tokens }
  if n.depth ≤ maxDepth ∧ n.jumps ≤ 100 * r.events then some n.node else none

end Node

end TrainingJobs.Yaml
