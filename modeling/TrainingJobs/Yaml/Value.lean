import TrainingJobs.Document
import TrainingJobs.Yaml.Node
import TrainingJobs.Yaml.Plain

/-!
# Values of YAML nodes

A node can be read as a document of the job's objects, where the reader knows what kind of value
it expects and tags other than those of alternatives do not count, and as a JSON value, where the
node itself has to say what it is.
-/

namespace TrainingJobs.Yaml

/-- The tags of the kinds that every document knows. -/
def coreTag (kind : String) : String := "tag:yaml.org,2002:" ++ kind

namespace Node

/-- The name in a tag of one's own. -/
def localTag? (tag : Option String) : Option String :=
  match tag.map String.toList with
  | some ('!' :: name) => some (String.ofList name)
  | _ => none

def tag? : Node → Option String
  | scalar tag .. | list tag _ | mapping tag _ => tag

/-- The text of a plain scalar, or of a literal one with the tag of the kind. -/
def unquoted? (kind : String) : Node → Option String
  | scalar _ .plain text => some text
  | scalar tag .literal text => if tag = some (coreTag kind) then some text else none
  | _ => none

def isEmpty : Node → Bool
  | scalar _ .plain text => text.isEmpty
  | _ => false

def isNull : Node → Bool
  | scalar none .plain text => text.isEmpty || isNullWord text
  | scalar (some tag) .plain text => tag == coreTag "null" && isNullWord text
  | _ => false

def text? : Node → Option String
  | scalar _ _ text => some text
  | _ => none

/-- The items of a list; nothing stands for an empty one. -/
def items? : Node → Option (List Node)
  | list _ items => some items
  | n => if n.isEmpty then some [] else none

/-- The members of a mapping whose keys are scalars; nothing stands for an empty one. -/
def members? : Node → Option (List (String × Node))
  | mapping _ members => members.mapM fun m => (text? m.1).map fun key => (key, m.2)
  | n => if n.isEmpty then some [] else none

/-- The name of an alternative: the text of a scalar, or a tag with nothing behind it. -/
def variant? (n : Node) : Option String :=
  match localTag? n.tag?, n with
  | some name, scalar _ .plain text => if text.isEmpty || isNullWord text then some name else none
  | none, scalar _ _ text => some text
  | _, _ => none

/-- A whole number as JSON; none for one between those that 64 and those that 128 bits hold. -/
def intJson? (n : Int) : Option Json :=
  if Int64.minValue.toInt ≤ n ∧ n < UInt64.size then some (.int n) else none

/-- Whether 128 bits can hold the number, with a sign or without. -/
def isWide (n : Int) : Bool := decide (-Nat.pow 2 127 ≤ n ∧ n < Nat.pow 2 128)

/-- A number that is not whole as JSON, which knows no infinite ones. -/
def realJson? (text : String) : Option Json :=
  if isUnbounded text then some .null else (readReal? text).map .real

/-- A plain scalar without a tag as JSON. -/
def plainJson? (text : String) : Option Json :=
  if text.isEmpty || isNullWord text then some .null
  else
    match readBool? text, (readInt? text).filter isWide with
    | some b, _ => some (.bool b)
    | none, some n => intJson? n
    | none, none =>
      if isPaddedDigits text then some (.str text)
      else some ((realJson? text).getD (.str text))

def scalarJson? (tag : Option String) (style : Style) (text : String) : Option Json :=
  if (localTag? tag).isSome then none
  else if tag = some (coreTag "bool") then (readBool? text).map .bool
  else if tag = some (coreTag "int") then ((readInt? text).filter isWide).bind intJson?
  else if tag = some (coreTag "float") then realJson? text
  else if tag = some (coreTag "null") then if isNullWord text then some .null else none
  else if tag.isNone && style == .plain then plainJson? text
  else some (.str text)

mutual

/-- The node as JSON. There are no tags of one's own in JSON, and keys are texts; of several
members with one key the last is taken. -/
def toJson? : Node → Option Json
  | scalar tag style text => scalarJson? tag style text
  | list tag items =>
    if (localTag? tag).isSome then none else (itemsJson? items).map .arr
  | mapping tag members =>
    if (localTag? tag).isSome then none
    else (membersJson? members).map fun ms => .obj (Dict.ofList ms).entries

def itemsJson? : List Node → Option (List Json)
  | [] => some []
  | item :: rest => do return (← item.toJson?) :: (← itemsJson? rest)

def membersJson? : List (Node × Node) → Option (List (String × Json))
  | [] => some []
  | (key, value) :: rest => do
    return (← text? key, ← value.toJson?) :: (← membersJson? rest)

end

instance : Document Node where
  isNull := isNull
  text? := text?
  bool? n := (unquoted? "bool" n).bind readBool?
  int? n := (unquoted? "int" n).bind readInt?
  items? := items?
  members? := members?
  positions? _ := none
  variant? := variant?
  json? := toJson?

end Node

end TrainingJobs.Yaml
