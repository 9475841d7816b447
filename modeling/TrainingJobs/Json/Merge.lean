import TrainingJobs.Document

/-!
# Merge patches

A merge patch tells what is to become of a value. An object is merged member by member: null takes
a member away, any other value is merged into the member of its name. What is no object replaces
what was there.
-/

namespace TrainingJobs.Json

open Document

def members : Json → List (String × Json)
  | obj members => members
  | _ => []

/-- The value of the last member of that name, which is the one that counts. -/
def lastOf (members : List (String × Json)) (name : String) : Option Json :=
  fieldIn members.reverse name

def without (name : String) (members : List (String × Json)) : List (String × Json) :=
  members.filter fun m => m.1 != name

mutual

/-- What the patch makes of a value. -/
def merge (target : Json) : Json → Json
  | obj patch => obj (mergeMembers target.members patch)
  | patch => patch

/-- What the members of the patch make of members, one after the other. -/
def mergeMembers (target : List (String × Json)) :
    List (String × Json) → List (String × Json)
  | [] => target
  | (name, patch) :: rest =>
    let others := without name target
    mergeMembers
      (if isNull patch then others
      else others ++ [(name, merge ((lastOf target name).getD null) patch)])
      rest

end

end TrainingJobs.Json
