import TrainingJobs.Proofs.Reconcile.Tasks
import TrainingJobs.Proofs.StoredStatus

/-!
# A cluster that jobs share

The pods, the services and the statuses of the jobs of one namespace. A listing shows what its
selector accepts, and what is there is not created again. In a `World` the reconciles of several
jobs are under way and make their calls in any order, any of which may fail; in between, pods and
services change on their own.
-/

namespace TrainingJobs

universe u

/-- Set or delete what stands under a key. -/
def Dict.alter {β : Type u} (d : Dict β) (k : String) (f : Option β → Option β) : Dict β :=
  match f (d.get? k) with
  | some x => d.insert k x
  | none => d.erase k

theorem Dict.get?_alter {β : Type u} (d : Dict β) (k k' : String) (f : Option β → Option β) :
    (d.alter k f).get? k' = if k' = k then f (d.get? k) else d.get? k' := by
  unfold alter
  cases hf : f (d.get? k) with
  | some x => exact get?_insert d k k' x
  | none => exact get?_erase d k k'

/-- Objects of one kind, each under its name. -/
structure Objects {α : Type} (metadata : α → ObjectMeta) where
  entries : Dict α
  named : ∀ n x, entries.get? n = some x → (metadata x).displayName = n

/-- What becomes of an object on its own: it changes, but for its name and its labels, or it
goes. -/
structure Change {α : Type} (metadata : α → ObjectMeta) where
  apply : α → Option α
  name : ∀ x y, apply x = some y → (metadata y).displayName = (metadata x).displayName
  labels : ∀ x y, apply x = some y → (metadata y).labels = (metadata x).labels

namespace Objects

variable {α : Type} {metadata : α → ObjectMeta} {o o' : Objects metadata} {n job : String} {x : α}

def empty : Objects metadata where
  entries := Dict.empty
  named _ _ h := by cases h

def get? (o : Objects metadata) (n : String) : Option α := o.entries.get? n

/-- Set or delete what has a name. -/
def alter (o : Objects metadata) (n : String) (f : Option α → Option α)
    (hf : ∀ x, f (o.get? n) = some x → (metadata x).displayName = n) : Objects metadata where
  entries := o.entries.alter n f
  named m x h := by
    rw [Dict.get?_alter] at h
    split at h
    next heq => rw [heq, hf x h]
    next => exact o.named m x h

theorem get?_alter {f : Option α → Option α}
    (hf : ∀ x, f (o.get? n) = some x → (metadata x).displayName = n) (m : String) :
    (o.alter n f hf).get? m = if m = n then f (o.get? n) else o.get? m :=
  o.entries.get?_alter n m f

/-- Create an object, unless one of its name is there. -/
def create (o : Objects metadata) (x : α) : Objects metadata :=
  o.alter (metadata x).displayName (·.or (some x)) fun y h => by
    cases hold : o.get? (metadata x).displayName with
    | none =>
      rw [hold] at h
      cases h
      rfl
    | some old =>
      rw [hold] at h
      cases h
      exact o.named _ _ hold

def delete (o : Objects metadata) (n : String) : Objects metadata :=
  o.alter n (fun _ => none) fun _ h => by cases h

def change (o : Objects metadata) (n : String) (c : Change metadata) : Objects metadata :=
  o.alter n (·.bind c.apply) fun y h => by
    obtain ⟨x, hx, hy⟩ := Option.bind_eq_some_iff.1 h
    rw [c.name x y hy]
    exact o.named n x hx

/-- The objects that name the job by their label. -/
def labelled (o : Objects metadata) (job : String) : Dict α where
  entries := o.entries.entries.filter fun e => (metadata e.2).BelongsTo job
  increasing := o.entries.increasing.filter _

theorem get?_labelled (o : Objects metadata) (job n : String) :
    (o.labelled job).get? n = (o.get? n).filter fun x => (metadata x).BelongsTo job := by
  refine Option.ext fun x => ?_
  rw [← Dict.mem_entries_iff, Option.filter_eq_some_iff]
  show (n, x) ∈ o.entries.entries.filter _ ↔ o.entries.get? n = some x ∧ _
  rw [List.mem_filter, Dict.mem_entries_iff]

/-- What a selector accepts, in the order of the names. -/
def selected (o : Objects metadata) (selector : String) : List α :=
  o.entries.values.filter fun x => Selector.Accepts selector ((metadata x).labels.getD Dict.empty)

theorem belongsTo_of_accepts (hplain : Selector.Plain job)
    (h : Selector.Accepts (selectorText (jobLabels job)) ((metadata x).labels.getD Dict.empty)) :
    (metadata x).BelongsTo job :=
  (Selector.accepts_jobLabels_iff hplain).1 h _ _ (Selector.get?_jobLabels_jobName job)

theorem of_mem_selected (hplain : Selector.Plain job)
    (h : x ∈ o.selected (selectorText (jobLabels job))) :
    o.get? (metadata x).displayName = some x ∧ (metadata x).BelongsTo job := by
  obtain ⟨hmem, haccepts⟩ := List.mem_filter.1 h
  obtain ⟨n, hn⟩ := Dict.mem_values_iff.1 hmem
  refine ⟨?_, belongsTo_of_accepts hplain (of_decide_eq_true haccepts)⟩
  rw [o.named n x hn]
  exact hn

/-- The selector of a job looks at nothing but what names the job. -/
theorem selected_congr (hplain : Selector.Plain job) (h : o.labelled job = o'.labelled job) :
    o.selected (selectorText (jobLabels job)) = o'.selected (selectorText (jobLabels job)) := by
  have hselected : ∀ o : Objects metadata, o.selected (selectorText (jobLabels job)) =
      (o.labelled job).values.filter fun x =>
        Selector.Accepts (selectorText (jobLabels job)) ((metadata x).labels.getD Dict.empty) := by
    intro o
    simp only [selected, labelled, Dict.values, List.filter_map, List.filter_filter]
    refine congrArg _ (List.filter_congr fun e _ => ?_)
    rw [Function.comp_apply, ← Bool.decide_and, decide_eq_decide]
    exact (and_iff_left_of_imp (belongsTo_of_accepts hplain)).symm
  rw [hselected, hselected, h]

end Objects

/-! ## The cluster -/

structure SharedCluster where
  pods : Objects Pod.metadata := .empty
  services : Objects Service.metadata := .empty
  /-- The statuses of the jobs, by their names. -/
  statuses : Dict JobStatus := Dict.empty

namespace SharedCluster

def after (c : SharedCluster) : Call → SharedCluster
  | .createPod _ p => { c with pods := c.pods.create (Cluster.fresh p) }
  | .createService _ s => { c with services := c.services.create s }
  | .deletePod _ n => { c with pods := c.pods.delete n }
  | .deleteService _ n => { c with services := c.services.delete n }
  | .patchStatus _ job s =>
    { c with
      statuses := c.statuses.insert job (s.mergedInto ((c.statuses.get? job).getD {})) }
  | .listPods .. | .listServiceNames .. | .applyPodGroup .. | .deletePodGroup ..
  | .deleteJob .. => c

/-- A call on the cluster, which may fail. -/
def backend (fails : Option ApiError) : Backend SharedCluster where
  listPods c _ selector :=
    match fails with
    | some e => .error e
    | none => .ok (c.pods.selected selector)
  listServiceNames c _ selector :=
    match fails with
    | some e => .error e
    | none => .ok (.ofNames ((c.services.selected selector).map (·.metadata.displayName)))
  perform c call :=
    match fails with
    | some e => .error e
    | none => .ok (c.after call)

end SharedCluster

/-! ## What happens in a cluster -/

/-- A cluster and the reconciles that are under way in it. -/
structure World where
  cluster : SharedCluster
  /-- The last reconcile of each job, by the name of the job. -/
  tasks : Dict Task := Dict.empty
  /-- The calls that were made, with the names of their jobs. -/
  calls : List (String × Call) := []

inductive Event where
  /-- A reconcile of a job begins; one that is still under way is given up. -/
  | start (ctx : OperatorContext) (metadata : ObjectMeta) (spec : JobSpec) (now : Instant)
  /-- The reconcile of a job makes its next call. -/
  | step (job : String) (fails : Option ApiError)
  | pod (n : String) (c : Change Pod.metadata)
  | service (n : String) (c : Change Service.metadata)

namespace Event

def job? : Event → Option String
  | start _ metadata _ _ => some metadata.displayName
  | step job _ => some job
  | pod .. | service .. => none

/-- The event is about no other job. -/
def concerns (me : String) (e : Event) : Bool := e.job?.all (· == me)

end Event

namespace World

def after (w : World) : Event → World
  | .start ctx metadata spec now =>
    let j : Job := ⟨metadata, spec, w.cluster.statuses.get? metadata.displayName⟩
    { w with tasks := w.tasks.insert j.name (.start ctx j now) }
  | .step job fails =>
    match (w.tasks.get? job).bind (·.step (SharedCluster.backend fails) w.cluster) with
    | some (call, cluster, task) =>
      { cluster := cluster
        tasks := w.tasks.insert job task
        calls := w.calls ++ [(job, call)] }
    | none => w
  | .pod n c => { w with cluster := { w.cluster with pods := w.cluster.pods.change n c } }
  | .service n c =>
    { w with cluster := { w.cluster with services := w.cluster.services.change n c } }

def run (w : World) (events : List Event) : World := events.foldl after w

def callsFor (w : World) (job : String) : List Call :=
  (w.calls.filter fun c => c.1 == job).map (·.2)

end World

end TrainingJobs
