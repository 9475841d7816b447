import TrainingJobs.Labels

/-!
# Resources

The API server keeps objects of several kinds, each under a path of its own; those that belong to
a namespace have it in their path.
-/

namespace TrainingJobs

structure ApiResource where
  /-- The group, empty for the core group. -/
  group : String
  version : String
  kind : String
  plural : String
  deriving DecidableEq, Repr

namespace ApiResource

def apiVersion (r : ApiResource) : String :=
  if r.group.isEmpty then r.version else r.group ++ "/" ++ r.version

def path (r : ApiResource) (ns : Option String) : String :=
  (if r.group.isEmpty then "/api/" else "/apis/") ++ r.apiVersion ++ "/"
    ++ (match ns with
      | some ns => "namespaces/" ++ ns ++ "/"
      | none => "")
    ++ r.plural

def pods : ApiResource := ⟨"", "v1", "Pod", "pods"⟩

def services : ApiResource := ⟨"", "v1", "Service", "services"⟩

def jobs : ApiResource :=
  ⟨TrainingJobs.apiGroup, TrainingJobs.apiVersion, kindName, pluralName⟩

def definitions : ApiResource :=
  ⟨"apiextensions.k8s.io", "v1", "CustomResourceDefinition", "customresourcedefinitions"⟩

end ApiResource

end TrainingJobs
