import TrainingJobs.Job.Basic

/-!
# Names and ranks of replicas

Every replica of a job has a name, shared by its pod and its service, and a rank. Ranks count the
replicas of the master role first and then those of the other types in the order of their names.
-/

namespace TrainingJobs

open Text

def replicaName (jobName replicaType : String) (index : Int32) : String :=
  jobName ++ "-" ++ lower replicaType ++ "-" ++ showInt32 index

namespace JobSpec

/-- The types of replicas with their numbers, in the order of ranks. -/
def rankOrder (s : JobSpec) : List (String × Int32) :=
  let types := s.replicaSpecs.entries.map fun e => (e.1, e.2.replicas)
  types.filter (fun t => isMasterRole t.1) ++ types.filter (fun t => !isMasterRole t.1)

/-- The rank of a replica among types in the order of ranks, the first of which starts at
`offset`. -/
def rankIn (replicaType : String) (index : Int32) (offset : Int32) :
    List (String × Int32) → Option Int32
  | [] => none
  | (type, replicas) :: rest =>
    if sameLetters type replicaType then
      if index < replicas then some (offset + index) else none
    else rankIn replicaType index (offset + replicas) rest

/-- The rank of a replica, if there is such a replica. -/
def rank? (s : JobSpec) (replicaType : String) (index : Int32) : Option Int32 :=
  rankIn replicaType index 0 s.rankOrder

/-- The rank among these types where overflow is checked. The index is added also where it is too
large for a rank. -/
def checkedRankIn (replicaType : String) (index : Int32) (offset : Int32) :
    List (String × Int32) → Checked (Option Int32)
  | [] => .ok none
  | (type, replicas) :: rest =>
    if sameLetters type replicaType then
      (Checked.add offset index).map fun rank => if index < replicas then some rank else none
    else do checkedRankIn replicaType index (← Checked.add offset replicas) rest

def checkedRank (s : JobSpec) (replicaType : String) (index : Int32) : Checked (Option Int32) :=
  checkedRankIn replicaType index 0 s.rankOrder

/-- The name of the replica of rank 0, where all replicas meet. -/
def masterAddress? (s : JobSpec) (jobName : String) : Option String :=
  (s.rankOrder.find? fun t => 0 < t.2).map fun t => replicaName jobName t.1 0

end JobSpec

end TrainingJobs
