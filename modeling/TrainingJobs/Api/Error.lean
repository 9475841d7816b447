/-!
# Failures of the API server
-/

namespace TrainingJobs

/-- What the API server says of a request that it refuses. -/
structure Refusal where
  code : Nat
  reason : String
  message : String
  deriving DecidableEq, Repr

inductive ApiError where
  /-- The API server refused it. -/
  | refused (refusal : Refusal)
  /-- The answer does not fit what was asked for. -/
  | undecodable
  /-- The request could not be made or answered. -/
  | unusable
  deriving DecidableEq, Repr

namespace ApiError

def hasCode (code : Nat) : ApiError → Bool
  | refused r => r.code == code
  | _ => false

end ApiError

end TrainingJobs
