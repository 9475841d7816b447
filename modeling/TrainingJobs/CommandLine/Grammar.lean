import TrainingJobs.Dict

/-!
# Command lines

A grammar says which options, positional values and subcommands a command knows. Options have a
long name after two dashes, and some a letter after one; letters can be put together, and the value
of an option stands in the next word, after an equals sign or right after the letter. A word of two
dashes ends the options.

An option that has been named waits for its value until the next option or positional value is
met, and only then the value is looked at; so an unknown option further on is reported first.
-/

namespace TrainingJobs.CommandLine

inductive UsageError where
  | invalidValue
  | valueValidation
  | unknownArgument
  | invalidSubcommand
  | missingSubcommand
  | tooManyValues
  | argumentConflict
  | missingRequiredArgument
  | displayHelp
  | displayHelpOnMissingArgument
  | displayVersion
  deriving DecidableEq, Repr

/-- What an option does. -/
inductive OptionKind where
  /-- Says yes; may be given once. -/
  | flag
  /-- Counts how often it is given. -/
  | count
  /-- Has a value; may be given once. -/
  | single
  /-- Has a value each time it is given. -/
  | several
  | help
  | version
  deriving DecidableEq, Repr

structure OptionRule where
  /-- The long name. -/
  name : String
  letter : Option Char := none
  kind : OptionKind := .single
  required : Bool := false
  /-- What is wrong with a value, if anything. -/
  check : String → Except UsageError Unit := fun _ => .ok ()
  /-- The variable that gives the value if the command line does not. -/
  variable_ : Option String := none

structure PositionRule where
  name : String
  required : Bool := true

structure Grammar where
  options : List OptionRule := []
  positions : List PositionRule := []
  subcommands : List String := []
  /-- Options of which not both may be given. -/
  exclusive : List (String × String) := []

/-- The values given, by the name of the option or position. A flag has the value of its name, a
count one value each time. -/
abbrev Given := Dict (List String)

/-- How far the words have been read. -/
structure Progress where
  given : Given := Dict.empty
  /-- The option that waits for its value to be looked at, and the value if it has come. -/
  pending : Option (OptionRule × Option String) := none
  /-- The next word that is no option is the value of the pending option. -/
  awaiting : Bool := false
  /-- How many positional values have come. -/
  position : Nat := 0
  /-- The options have ended. -/
  ended : Bool := false

namespace OptionRule

def takesValue (r : OptionRule) : Bool := r.kind = .single || r.kind = .several

def enter (r : OptionRule) (value : Option String) (given : Given) : Except UsageError Given :=
  let before := (given.get? r.name).getD []
  match r.kind with
  | .help => .error .displayHelp
  | .version => .error .displayVersion
  | .count => .ok (given.insert r.name (before ++ [r.name]))
  | .flag =>
    if given.contains r.name then .error .argumentConflict
    else .ok (given.insert r.name [r.name])
  | .single =>
    match value with
    | none => .error .invalidValue
    | some v => do
      if given.contains r.name then throw .argumentConflict
      r.check v
      return given.insert r.name [v]
  | .several =>
    match value with
    | none => .error .invalidValue
    | some v => do
      r.check v
      return given.insert r.name (before ++ [v])

end OptionRule

namespace Progress

/-- Look at the value of the pending option. -/
def settle (p : Progress) : Except UsageError Progress :=
  match p.pending with
  | none => .ok { p with awaiting := false }
  | some (r, value) => do
    return { p with given := ← r.enter value p.given, pending := none, awaiting := false }

/-- Enter an option that needs no further word. -/
def enter (p : Progress) (r : OptionRule) (value : Option String) :
    Except UsageError Progress := do
  let p ← p.settle
  return { p with given := ← r.enter value p.given }

/-- Let an option wait for its value in the next word. -/
def await (p : Progress) (r : OptionRule) : Except UsageError Progress := do
  let p ← p.settle
  return { p with pending := some (r, none), awaiting := true }

end Progress

namespace Grammar

def long? (g : Grammar) (name : List Char) : Option OptionRule :=
  g.options.find? fun r => r.name.toList == name

def letter? (g : Grammar) (c : Char) : Option OptionRule :=
  g.options.find? fun r => r.letter == some c

/-- A word that begins with two dashes. -/
def readLong (g : Grammar) (p : Progress) (word : List Char) : Except UsageError Progress :=
  let name := word.takeWhile (· ≠ '=')
  match g.long? name, word.dropWhile (· ≠ '=') with
  | none, _ => .error .unknownArgument
  | some r, [] => if r.takesValue then p.await r else p.enter r none
  | some r, _ :: value =>
    if r.takesValue then p.enter r (some (String.ofList value)) else .error .tooManyValues

def readLetters (g : Grammar) (p : Progress) : List Char → Except UsageError Progress
  | [] => .ok p
  | c :: rest =>
    match g.letter? c with
    | none => .error .unknownArgument
    | some r =>
      if r.takesValue then
        match rest with
        | [] => p.await r
        | '=' :: value => p.enter r (some (String.ofList value))
        | value => p.enter r (some (String.ofList value))
      else do
        let p ← p.enter r none
        readLetters g p rest

/-- Why there is no place for a positional value. -/
def noPlace (g : Grammar) (p : Progress) (word : String) : UsageError :=
  if p.ended && g.subcommands.contains word then .unknownArgument
  else if g.subcommands.isEmpty then .unknownArgument
  else .invalidSubcommand

def readPosition (g : Grammar) (p : Progress) (word : String) : Except UsageError Progress :=
  match g.positions[p.position]? with
  | none => .error (g.noPlace p word)
  | some rule => do
    let p ← p.settle
    return { p with given := p.given.insert rule.name [word], position := p.position + 1 }

/-- A word that is no option: the value of a pending one, or a positional value. -/
def readPlain (g : Grammar) (p : Progress) (word : String) : Except UsageError Progress :=
  match p.awaiting, p.pending with
  | true, some (r, none) => .ok { p with pending := some (r, some word), awaiting := false }
  | _, _ => g.readPosition p word

/-- Any word that is not a subcommand. -/
def readWord (g : Grammar) (p : Progress) (word : String) : Except UsageError Progress :=
  if p.ended then g.readPosition p word
  else
    match word.toList with
    | ['-', '-'] => .ok { p with ended := true }
    | '-' :: '-' :: rest => g.readLong p rest
    | '-' :: c :: rest => g.readLetters p (c :: rest)
    | _ => g.readPlain p word

/-- Whether a word names a subcommand here. -/
def startsSubcommand (g : Grammar) (p : Progress) (word : String) : Bool :=
  !p.ended && !p.awaiting && g.subcommands.contains word

/-- Read words up to the end or to a subcommand; in that case also its name and the words after
it. -/
def readWords (g : Grammar) (p : Progress) :
    List String → Except UsageError (Progress × Option (String × List String))
  | [] => .ok (p, none)
  | word :: rest =>
    if g.startsSubcommand p word then .ok (p, some (word, rest))
    else do
      let p ← g.readWord p word
      readWords g p rest

/-- Take from variables what the command line does not give. -/
def readVariables (environment : Dict String) (given : Given) :
    List OptionRule → Except UsageError Given
  | [] => .ok given
  | r :: rest =>
    match r.variable_.bind environment.get? with
    | some value =>
      if given.contains r.name then readVariables environment given rest
      else do
        let given ← r.enter (some value) given
        readVariables environment given rest
    | none => readVariables environment given rest

/-- Nothing that excludes each other may be given, and nothing that is required may be missing. -/
def checkGiven (g : Grammar) (given : Given) : Except UsageError Unit :=
  if g.exclusive.any fun e => given.contains e.1 && given.contains e.2 then
    .error .argumentConflict
  else if (g.options.any fun r => r.required && !given.contains r.name)
      || (g.positions.any fun r => r.required && !given.contains r.name) then
    .error .missingRequiredArgument
  else .ok ()

/-- What is given once all words have been read. -/
def finish (g : Grammar) (environment : Dict String) (p : Progress) : Except UsageError Given := do
  let p ← p.settle
  let given ← readVariables environment p.given g.options
  g.checkGiven given
  return given

/-- What a command line without subcommands gives. -/
def read (g : Grammar) (environment : Dict String) (words : List String) :
    Except UsageError Given := do
  let (p, _) ← g.readWords {} words
  g.finish environment p

end Grammar

def helpOption : OptionRule := { name := "help", letter := some 'h', kind := .help }

def versionOption : OptionRule := { name := "version", letter := some 'V', kind := .version }

/-- A value that a reader accepts. -/
def checkWith {ε α : Type} (read : String → Except ε α) (fault : UsageError) (value : String) :
    Except UsageError Unit :=
  match read value with
  | .ok _ => .ok ()
  | .error _ => .error fault

/-- The value of an option that was given once. -/
def Given.value? (given : Given) (name : String) : Option String :=
  (given.get? name).bind (·.head?)

end TrainingJobs.CommandLine
