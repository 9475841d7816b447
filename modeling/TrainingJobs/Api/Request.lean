import TrainingJobs.Json.Basic

/-!
# Requests to the API server

A request names a path. What cannot stand in the path of a request makes it unusable, a question
mark ends the path, and a number sign ends the request.
-/

namespace TrainingJobs

inductive Method where
  | get
  | post
  | patch
  | delete
  deriving DecidableEq, Repr

namespace Method

def name : Method → String
  | get => "GET"
  | post => "POST"
  | patch => "PATCH"
  | delete => "DELETE"

end Method

structure Request where
  method : Method := .get
  path : String
  /-- The parameters, by their names. -/
  query : List (String × String) := []
  contentType : Option String := none
  body : Option Json := none

namespace Request

def isPathChar (c : Char) : Bool :=
  '!' ≤ c && !"<>\x60".toList.contains c

/-- Whether the request can be made. -/
def isUsable (r : Request) : Bool := r.path.toList.all isPathChar

/-- The parameters of a text after a question mark; one that is given no value has no text. -/
def parametersOf (text : List Char) : List (String × String) :=
  ((String.ofList text).splitOn "&").filterMap fun p =>
    if p.isEmpty then none
    else
      let name := p.toList.takeWhile (· != '=')
      some (String.ofList name, String.ofList (p.toList.drop (name.length + 1)))

/-- The request that arrives: its path ends at a question mark or a number sign, and after a
number sign nothing counts. -/
def arriving (r : Request) : Request :=
  let cs := r.path.toList
  let path := cs.takeWhile fun c => c != '?' && c != '#'
  match cs.drop path.length with
  | '?' :: rest =>
    let text := rest.takeWhile (· != '#')
    { r with
      path := String.ofList path
      query := parametersOf text ++ if text.length = rest.length then r.query else [] }
  | '#' :: _ => { r with path := String.ofList path, query := [] }
  | _ => r

/-- The parameters as `name=value`, in increasing order. -/
def queryTexts (r : Request) : List String :=
  (r.query.map fun p => p.1 ++ "=" ++ p.2).mergeSort fun a b => decide (a ≤ b)

end Request

structure Answer where
  /-- The code of the answer's kind: 400 and above are failures. -/
  status : Nat := 200
  body : String
  deriving DecidableEq, Repr

end TrainingJobs
