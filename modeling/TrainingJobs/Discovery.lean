import TrainingJobs.Document
import TrainingJobs.JobError
import TrainingJobs.Text.Split

/-!
# API discovery

An API server answers with the groups it serves, and for each with its versions. A version is
given twice: by itself and at the end of a group version, `group/version`, or `version` alone for
the core group. Reading a discovery document checks nothing; `check` does.
-/

namespace TrainingJobs

open Document Json

structure GroupVersion where
  groupVersion : String := ""
  version : String := ""
  deriving DecidableEq, Repr, Inhabited

namespace GroupVersion

/-- What follows the last slash, or all of a text without one. -/
def lastSegment (s : String) : String :=
  match Text.cutLast? '/' s.toList with
  | some (_, after) => String.ofList after
  | none => s

def group (e : GroupVersion) : String :=
  match Text.cutLast? '/' e.groupVersion.toList with
  | some (before, _) => String.ofList before
  | none => ""

/-- Neither part is given. -/
def isEmpty (e : GroupVersion) : Bool := e.groupVersion.isEmpty && e.version.isEmpty

/-- The version has to be what the group version ends in, if there is a group version. -/
def check (e : GroupVersion) : Except JobError Unit :=
  if e.groupVersion.isEmpty ∨ lastSegment e.groupVersion = e.version then .ok ()
  else .error (.malformedEntry e.groupVersion e.version)

def isValid (e : GroupVersion) : Bool := e.check.isOk

/-- The entry of a group version and a version that go together. -/
def make (groupVersion version : String) : Except JobError GroupVersion := do
  let e : GroupVersion := ⟨groupVersion, version⟩
  e.check
  return e

/-- The entry of a version of a group. -/
def ofParts (group version : String) : Except JobError GroupVersion :=
  make (if group.isEmpty then version else group ++ "/" ++ version) version

/-- The entry of a group version; its version is what follows the last slash. -/
def ofText (text : String) : Except JobError GroupVersion := make text (lastSegment text)

def ofDocument? {ν : Type} [Document ν] (n : ν) : Option GroupVersion := do
  let field ← strictFields? ["groupVersion", "version"] n
  some {
    groupVersion := ← defaulted "" text? (field "groupVersion")
    version := ← defaulted "" text? (field "version") }

/-- Read an entry that the API server wrote: a lenient record. -/
def ofAnswer? {ν : Type} [Document ν] (n : ν) : Option GroupVersion := do
  let field ← lenientFields? n
  some {
    groupVersion := ← orEmpty "" text? (field "groupVersion")
    version := ← orEmpty "" text? (field "version") }

def toJson (e : GroupVersion) : Json :=
  obj (member "groupVersion" e.groupVersion ++ member "version" e.version)

end GroupVersion

structure ApiGroup where
  name : String := ""
  versions : List GroupVersion := []
  preferredVersion : Option GroupVersion := none
  deriving DecidableEq, Repr

namespace ApiGroup

/-- An entry of the group has to pass its own check and, unless it is empty or the group is the
core group, to name the group. -/
def checkEntry (g : ApiGroup) (e : GroupVersion) : Except JobError Unit := do
  e.check
  if g.name.isEmpty ∨ e.isEmpty ∨ e.group = g.name then .ok ()
  else .error (.foreignEntry g.name e.groupVersion)

/-- Every entry is checked, the preferred one last. -/
def check (g : ApiGroup) : Except JobError Unit :=
  (g.versions ++ g.preferredVersion.toList).forM g.checkEntry

/-- The first well-formed entry of a version. -/
def serves? (g : ApiGroup) (version : String) : Option GroupVersion :=
  g.versions.find? fun e => e.version == version && e.isValid

def ofDocument? {ν : Type} [Document ν] (n : ν) : Option ApiGroup := do
  let field ← strictFields? ["name", "versions", "preferredVersion"] n
  some {
    name := ← required text? (field "name")
    versions := ← defaulted [] (list? GroupVersion.ofDocument?) (field "versions")
    preferredVersion := ← optional GroupVersion.ofDocument? (field "preferredVersion") }

/-- Read a group that the API server wrote: a lenient record. If it says what it is, it has to say
that it is a group. -/
def ofAnswer? {ν : Type} [Document ν] (n : ν) : Option ApiGroup := do
  let field ← lenientFields? n
  if saysIfAny "v1" (field "apiVersion") && saysIfAny "APIGroup" (field "kind") then
    some {
      name := ← orEmpty "" text? (field "name")
      versions := ← orEmpty [] (list? GroupVersion.ofAnswer?) (field "versions")
      preferredVersion := ← optional GroupVersion.ofAnswer? (field "preferredVersion") }
  else none

def toJson (g : ApiGroup) : Json :=
  obj (member "name" g.name
    ++ optionalMember "preferredVersion" GroupVersion.toJson g.preferredVersion
    ++ member "versions" (ofList GroupVersion.toJson g.versions))

end ApiGroup

structure ApiGroupList where
  apiVersion : String := "v1"
  kind : String := "APIGroupList"
  groups : List ApiGroup := []
  deriving DecidableEq, Repr

namespace ApiGroupList

def find? (l : ApiGroupList) (name : String) : Option ApiGroup :=
  l.groups.find? fun g => g.name == name

/-- The well-formed entries of all groups. -/
def validEntries (l : ApiGroupList) : List GroupVersion :=
  (l.groups.flatMap (·.versions)).filter (·.isValid)

def ofDocument? {ν : Type} [Document ν] (n : ν) : Option ApiGroupList := do
  let field ← strictFields? ["apiVersion", "kind", "groups"] n
  some {
    apiVersion := ← required text? (field "apiVersion")
    kind := ← required text? (field "kind")
    groups := ← defaulted [] (list? ApiGroup.ofDocument?) (field "groups") }

/-- Read the list of groups that the API server wrote: a lenient record. If it says what it is, it
has to say that it is such a list. -/
def ofAnswer? {ν : Type} [Document ν] (n : ν) : Option ApiGroupList := do
  let field ← lenientFields? n
  if saysIfAny "v1" (field "apiVersion") && saysIfAny "APIGroupList" (field "kind") then
    some { groups := ← orEmpty [] (list? ApiGroup.ofAnswer?) (field "groups") }
  else none

def toJson (l : ApiGroupList) : Json :=
  obj (member "apiVersion" l.apiVersion
    ++ member "groups" (ofList ApiGroup.toJson l.groups)
    ++ member "kind" l.kind)

end ApiGroupList

end TrainingJobs
