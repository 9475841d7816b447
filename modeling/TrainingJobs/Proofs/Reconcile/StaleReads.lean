import Mathlib.Data.List.Induction
import TrainingJobs.Proofs.Reconcile.Interruption
import TrainingJobs.Proofs.Reconcile.Storage

/-!
# Jobs that are seen late

An operator may be handed an earlier version of a job than the newest one that is stored, but what
it reports is merged into the newest one. `Versions.run` tells which versions are stored after any
edits and looks. A report replaces all conditions, so an end that the operator has not seen can be
lost: `finishKept_iff` says in which runs it is, and `conditions_of_finished` that it is not once
every version that may be handed out has it.
-/

namespace TrainingJobs

open Lifecycle

/-- The status that the calls of a reconcile report. -/
def Reconciled.report? {σ : Type} (r : Reconciled σ) : Option JobStatus :=
  r.calls.findSome? fun
    | .patchStatus _ _ s => some s
    | _ => none

def Job.patched (j : Job) (s : JobStatus) : Job :=
  { j with status := some (s.mergedInto (j.status.getD {})) }

/-- The versions of a job that have been stored. -/
structure Versions where
  newest : Job
  /-- Those before, the last one first. -/
  older : List Job := []

/-- One look of the operator at a job: everything that it finds, the job itself apart. -/
structure Glimpse where
  {σ : Type}
  backend : Backend σ
  cluster : σ
  ctx : OperatorContext
  now : Instant
  /-- How many versions have been stored since the one that the operator is handed. -/
  lag : Nat
  /-- Whether a report is stored, be it answered or not. -/
  lands : Bool

/-- What happens to a job. -/
inductive Move where
  /-- It is edited; its status is its operator's own. -/
  | edit (metadata : ObjectMeta) (spec : JobSpec)
  | look (g : Glimpse)

namespace Versions

def all (v : Versions) : List Job := v.newest :: v.older

/-- The version since which so many have been stored. -/
def version? (v : Versions) (lag : Nat) : Option Job := v.all[lag]?

def store (v : Versions) (j : Job) : Versions := ⟨j, v.newest :: v.older⟩

end Versions

namespace Glimpse

def reconcile (g : Glimpse) (j : Job) : Reconciled g.σ :=
  j.reconcile g.backend g.ctx g.cluster g.now

/-- The report that is stored. -/
def report? (g : Glimpse) (v : Versions) : Option JobStatus :=
  if g.lands then (v.version? g.lag).bind fun j => (g.reconcile j).report? else none

/-- The operator is handed a version that has not ended, lists pods that do not end it, and its
report is stored. -/
def Overtakes (g : Glimpse) (v : Versions) : Prop :=
  g.lands = true ∧ ∃ j ns pods name s, v.version? g.lag = some j ∧ j.isFinished = false ∧
    j.refusal? = none ∧ g.backend.listPods g.cluster ns j.childSelector = .ok pods ∧
    (j.nextStatus (pods.filterMap ObservedPod.ofPod?) g.now).isFinished = false ∧
    .patchStatus ns name s ∈ (g.reconcile j).calls

end Glimpse

namespace Versions

def after (v : Versions) : Move → Versions
  | .edit metadata spec => v.store { v.newest with metadata := metadata, spec := spec }
  | .look g =>
    match g.report? v with
    | some s => v.store (v.newest.patched s)
    | none => v

def run (v : Versions) (moves : List Move) : Versions := moves.foldl after v

/-- Once a version that has ended is stored, all that are stored later have ended. -/
def FinishKept (v : Versions) (moves : List Move) : Prop :=
  ∀ past more, past ++ more <+: moves → (v.run past).newest.isFinished = true →
    (v.run (past ++ more)).newest.isFinished = true

end Versions

section Report

variable {σ : Type} {b : Backend σ} {state : σ} {ctx : OperatorContext} {j : Job} {now : Instant}
  {s : JobStatus} {r : Reconciled σ}

/-! ## Reports -/

theorem Reconciled.mem_calls_of_report? (h : r.report? = some s) :
    ∃ ns name, .patchStatus ns name s ∈ r.calls := by
  obtain ⟨call, hcall, hs⟩ := List.exists_of_findSome?_eq_some h
  split at hs
  next ns name t =>
    cases hs
    exact ⟨ns, name, hcall⟩
  next => cases hs

theorem Reconciled.exists_report? {ns name : String} (h : .patchStatus ns name s ∈ r.calls) :
    ∃ t, r.report? = some t :=
  Option.isSome_iff_exists.1 (List.findSome?_isSome_iff.2 ⟨_, h, rfl⟩)

theorem Job.conditions_ne_nil_of_mem_calls {ns name : String}
    (h : .patchStatus ns name s ∈ (j.reconcile b ctx state now).calls) : s.conditions ≠ [] := by
  obtain ⟨-, -, pods, -, rfl⟩ := reported_of_mem_calls h
  exact (Step.decision j (pods.filterMap ObservedPod.ofPod?) now).conditions_ne_nil

/-- A report has ended unless the job has not, its spec passes its check and its pods do not end
it. -/
theorem Job.isFinished_of_mem_calls {ns name : String}
    (h : .patchStatus ns name s ∈ (j.reconcile b ctx state now).calls) :
    s.isFinished = false ↔ j.isFinished = false ∧ j.refusal? = none ∧
      ∃ pods, b.listPods state ns j.childSelector = .ok pods ∧
        (j.nextStatus (pods.filterMap ObservedPod.ofPod?) now).isFinished = false := by
  obtain ⟨-, -, pods, hpods, rfl⟩ := reported_of_mem_calls h
  have hsame : ∀ t : Transition, (j.reported ctx t.status).isFinished = t.isFinished :=
    fun t => (sameOutcome_reported ctx j t.status).isFinished
  rw [hsame]
  constructor
  · intro hgoesOn
    obtain ⟨hunfinished, hok⟩ := goesOn_of_decision hgoesOn
    simp only [decision, hok] at hgoesOn
    exact ⟨hunfinished, hok, pods, hpods hok, hgoesOn⟩
  · rintro ⟨-, hok, pods', hpods', hgoesOn⟩
    obtain rfl : pods = pods' := Except.ok.inj ((hpods hok).symm.trans hpods')
    simpa only [decision, hok] using hgoesOn

theorem Job.isFinished_patched (h : s.conditions ≠ []) :
    (j.patched s).isFinished = s.isFinished := by
  have hconditions : (s.mergedInto (j.status.getD {})).conditions = s.conditions :=
    if_neg (mt List.isEmpty_iff.1 h)
  simp only [patched, isFinished, JobStatus.isFinished, JobStatus.holds, hconditions]

end Report

namespace Versions

variable {v : Versions} {g : Glimpse}

/-! ## One look -/

theorem isFinished_of_report? {s : JobStatus} (h : g.report? v = some s) :
    s.conditions ≠ [] ∧ (s.isFinished = false ↔ g.Overtakes v) := by
  unfold Glimpse.report? at h
  split at h
  next hlands =>
    obtain ⟨j, hj, hreport⟩ := Option.bind_eq_some_iff.1 h
    obtain ⟨ns, name, hcall⟩ := Reconciled.mem_calls_of_report? hreport
    refine ⟨Job.conditions_ne_nil_of_mem_calls hcall, ?_⟩
    rw [Job.isFinished_of_mem_calls hcall]
    constructor
    · rintro ⟨hunfinished, hok, pods, hpods, hgoesOn⟩
      exact ⟨hlands, j, ns, pods, name, s, hj, hunfinished, hok, hpods, hgoesOn, hcall⟩
    · rintro ⟨-, j', ns', pods, name', s', hj', hunfinished, hok, hpods, hgoesOn, hcall'⟩
      obtain rfl : j = j' := Option.some.inj (hj.symm.trans hj')
      -- both reports go to the namespace of the job
      obtain ⟨⟨hns, -⟩, -⟩ := Job.reported_of_mem_calls hcall
      obtain ⟨⟨hns', -⟩, -⟩ := Job.reported_of_mem_calls hcall'
      obtain rfl : ns = ns' := Option.some.inj (hns.symm.trans hns')
      exact ⟨hunfinished, hok, pods, hpods, hgoesOn⟩
  next => cases h

theorem exists_report?_of_overtakes (h : g.Overtakes v) : ∃ s, g.report? v = some s := by
  obtain ⟨hlands, j, ns, pods, name, s, hj, -, -, -, -, hcall⟩ := h
  obtain ⟨t, ht⟩ := Reconciled.exists_report? hcall
  refine ⟨t, ?_⟩
  rw [Glimpse.report?, if_pos hlands, hj]
  exact ht

/-- One look loses the end that the newest version has just if it overtakes. -/
theorem isFinished_after_look (hf : v.newest.isFinished = true) :
    (v.after (.look g)).newest.isFinished = false ↔ g.Overtakes v := by
  simp only [after]
  split
  next s hs =>
    obtain ⟨hconditions, hiff⟩ := isFinished_of_report? hs
    rw [← hiff]
    show (v.newest.patched s).isFinished = false ↔ _
    rw [Job.isFinished_patched hconditions]
  next hs =>
    refine iff_of_false (fun h => ?_) fun hover => ?_
    · rw [hf] at h
      cases h
    · obtain ⟨s, hs'⟩ := exists_report?_of_overtakes hover
      rw [hs] at hs'
      cases hs'

/-! ## Runs -/

theorem run_append (v : Versions) (past more : List Move) :
    v.run (past ++ more) = (v.run past).run more := List.foldl_append

theorem run_concat (v : Versions) (past : List Move) (m : Move) :
    v.run (past ++ [m]) = (v.run past).after m := run_append v past [m]

/-- **When the end of a job is kept.** Whatever versions of a job are stored, and in every run of
edits and looks, each of which may be handed any version stored so far: all versions stored after
one that has ended have ended too if and only if no look overtakes one that has. -/
theorem finishKept_iff (v : Versions) (moves : List Move) :
    v.FinishKept moves ↔ ∀ past g, past ++ [.look g] <+: moves →
      (v.run past).newest.isFinished = true → ¬ g.Overtakes (v.run past) := by
  constructor
  · intro hkept past g hpast hf hover
    have hlater := hkept past [.look g] hpast hf
    rw [run_concat] at hlater
    rw [(isFinished_after_look hf).2 hover] at hlater
    cases hlater
  · intro hnone past more hmore hf
    induction more using List.reverseRecOn with
    | nil => rwa [List.append_nil]
    | append_singleton more m ih =>
      rw [← List.append_assoc] at hmore ⊢
      have hbefore := ih ((List.prefix_append _ _).trans hmore)
      rw [run_concat]
      cases m with
      | edit metadata spec => exact hbefore
      | look g =>
        by_contra hlost
        exact hnone _ g hmore hbefore
          ((isFinished_after_look hbefore).1 (Bool.eq_false_iff.2 hlost))

/-- An operator that has nothing but ended versions to see keeps the first end: all versions that
are stored tell of the same conditions. -/
theorem conditions_of_finished {v : Versions} {first : JobStatus} (hf : first.isFinished = true)
    (h : ∀ j ∈ v.all, j.status.map (·.conditions) = some first.conditions) (moves : List Move) :
    ∀ j ∈ (v.run moves).all, j.status.map (·.conditions) = some first.conditions := by
  induction moves using List.reverseRecOn with
  | nil => exact h
  | append_singleton moves m ih =>
    have hstore : ∀ {w : Versions} {j : Job},
        (∀ j ∈ w.all, j.status.map (·.conditions) = some first.conditions) →
        j.status.map (·.conditions) = some first.conditions →
        ∀ k ∈ (w.store j).all, k.status.map (·.conditions) = some first.conditions :=
      fun hall hj => List.forall_mem_cons.2 ⟨hj, hall⟩
    rw [run_concat]
    cases m with
    | edit metadata spec => exact hstore ih (ih (v.run moves).newest List.mem_cons_self)
    | look g =>
      simp only [after]
      split
      next s hs =>
        refine hstore ih ?_
        obtain ⟨j, hj, hreport⟩ : ∃ j ∈ (v.run moves).all, (g.reconcile j).report? = some s := by
          unfold Glimpse.report? at hs
          split at hs
          · obtain ⟨j, hj, hreport⟩ := Option.bind_eq_some_iff.1 hs
            exact ⟨j, List.mem_of_getElem? hj, hreport⟩
          · cases hs
        obtain ⟨ns, name, hcall⟩ := Reconciled.mem_calls_of_report? hreport
        -- the version that is handed has ended, so the report repeats it
        obtain ⟨seen, hseen, hconditions⟩ := Option.map_eq_some_iff.1 (ih j hj)
        have hended : seen.isFinished = true := by
          rw [← hf]
          simp only [JobStatus.isFinished, JobStatus.holds, hconditions]
        obtain rfl := (Job.mem_calls_of_finished hseen hended hcall).2 ns name s rfl
        have hsame : (j.reported g.ctx seen).conditions = first.conditions := hconditions
        show some ((j.reported g.ctx seen).mergedInto _).conditions = _
        rw [JobStatus.mergedInto, if_neg (mt List.isEmpty_iff.1
          (Job.conditions_ne_nil_of_mem_calls hcall)), hsame]
      next => exact ih

/-- A look at a job of a master and a worker whose pods have come so far. -/
def glimpse (pods : List (String × String)) (second : Int) (lag : Nat) : Glimpse where
  backend := Cluster.backend []
  cluster := pods.foldl (fun c p => c.addPod { (Cluster.masterJob .all).childPod .none (p.1, 0) with
    status := some { phase := some p.2 } }) { job := Cluster.masterJob .all }
  ctx := Cluster.plainContext
  now := Instant.ofSeconds second
  lag := lag
  lands := true

/-- The job runs and succeeds, and all its pods are deleted. A look that still sees it run finds no
pods, makes new ones and reports that it runs: the success is lost. -/
theorem not_finishKept_behind :
    let moves : List Move := [
      .look (glimpse [("Master", "Running"), ("Worker", "Running")] 1714557600 0),
      .look (glimpse [("Master", "Succeeded"), ("Worker", "Running")] 1714557605 0),
      .look (glimpse [] 1714557606 1)]
    let v : Versions := ⟨Cluster.masterJob .all, []⟩
    let done := (v.run (moves.take 2)).newest
    let last := (v.run moves).newest
    done.state = "Succeeded" ∧ done.isFinished = true ∧
      last.state = "Running" ∧ last.isFinished = false ∧ ¬ v.FinishKept moves := by
  intro moves v done last
  have hdone : done.isFinished = true := by decide
  have hlast : last.isFinished = false := by decide
  refine ⟨by decide, hdone, by decide, hlast, fun hkept => ?_⟩
  have hfinished : last.isFinished = true :=
    hkept (moves.take 2) (moves.drop 2) (List.prefix_refl _) hdone
  rw [hlast] at hfinished
  cases hfinished

end Versions

end TrainingJobs
