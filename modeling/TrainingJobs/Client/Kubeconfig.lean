import TrainingJobs.Client.Error
import TrainingJobs.Yaml.Value

/-!
# Which cluster the client talks to

A configuration names clusters, users and contexts; a context joins a cluster, a user and a
namespace. The client needs a context whose parts are all there.
-/

namespace TrainingJobs.Client

open Document

structure KubeContext where
  name : String
  cluster : String
  user : Option String := none
  inNamespace : Option String := none
  deriving DecidableEq, Repr

structure Kubeconfig where
  /-- The clusters that have a server, by name. -/
  clusters : List String := []
  users : List String := []
  contexts : List KubeContext := []
  currentContext : Option String := none
  deriving DecidableEq, Repr

namespace Kubeconfig

variable {ν : Type} [Document ν]

/-- Read an entry that has a name and, under a key, data. -/
def named? {α : Type} (key : String) (read : ν → Option α) (n : ν) :
    Option (String × Option α) := do
  let field ← strictFields? ["name", key] n
  some (← required text? (field "name"), ← optional read (field key))

def server? (n : ν) : Option (Option String) := do
  let members ← members? n
  optional text? (fieldIn members "server")

/-- Read a context whose name is not known yet. -/
def context? (n : ν) : Option KubeContext := do
  let members ← members? n
  some {
    name := ""
    cluster := ← required text? (fieldIn members "cluster")
    user := ← optional text? (fieldIn members "user")
    inNamespace := ← optional text? (fieldIn members "namespace") }

def ofDocument? (n : ν) : Option Kubeconfig := do
  let members ← members? n
  let clusters ← orEmpty [] (list? (named? "cluster" server?)) (fieldIn members "clusters")
  let users ← orEmpty [] (list? (named? "user" members?)) (fieldIn members "users")
  let contexts ← orEmpty [] (list? (named? "context" context?)) (fieldIn members "contexts")
  some {
    clusters := clusters.filterMap fun c => if c.2.any (·.isSome) then some c.1 else none
    users := users.filterMap fun u => u.2.map fun _ => u.1
    contexts := contexts.filterMap fun c => c.2.map fun context => { context with name := c.1 }
    currentContext := ← optional text? (fieldIn members "current-context") }

def ofText? (text : String) : Option Kubeconfig := (Yaml.Node.ofText? text).bind ofDocument?

/-- The context of a name, or the current one. All of its parts have to be known. -/
def context (k : Kubeconfig) (name : Option String) : Except ClientError KubeContext :=
  match (name.or k.currentContext).bind fun name => k.contexts.find? fun c => c.name == name with
  | some c =>
    if k.clusters.contains c.cluster && c.user.all k.users.contains then .ok c
    else .error .context
  | none => .error .context

end Kubeconfig

def usualNamespace : String := "default"

/-- The namespace that the connection gives, from the text of the configuration. -/
def connect (kubeconfig : Option String) (context : Option String) :
    Except ClientError String :=
  match kubeconfig.bind Kubeconfig.ofText? with
  | some k => do
    let c ← k.context context
    return c.inNamespace.getD usualNamespace
  | none => .error .context

end TrainingJobs.Client
