import TrainingJobs.Operator.Cluster
import TrainingJobs.Proofs.Reconcile.Calls

/-!
# Finished jobs stay finished

A `Life` of a job is a list of visits by its operator. Between two visits anything may happen to
the job's metadata and spec, to its cluster and to the clock, and during a visit any call may fail;
only the status is the operator's own. `Life.finished_absorbing` says that a job which carries a
finished status gets no child any more and keeps its outcome.
-/

namespace TrainingJobs

namespace Call

def makesChild : Call → Bool
  | applyPodGroup .. | createPod .. | createService .. => true
  | listPods .. | listServiceNames .. | deletePod .. | deleteService .. | deletePodGroup ..
  | patchStatus .. | deleteJob .. => false

end Call

namespace JobStatus

/-- The statuses tell of the same outcome: they differ at most in the generation and in the API
that they name. -/
structure SameOutcome (s t : JobStatus) : Prop where
  conditions : t.conditions = s.conditions
  replicaStatuses : t.replicaStatuses = s.replicaStatuses
  startTime : t.startTime = s.startTime
  completionTime : t.completionTime = s.completionTime
  restartCount : t.restartCount = s.restartCount

theorem SameOutcome.refl (s : JobStatus) : SameOutcome s s := ⟨rfl, rfl, rfl, rfl, rfl⟩

theorem SameOutcome.trans {s t u : JobStatus} (h : SameOutcome s t) (h' : SameOutcome t u) :
    SameOutcome s u :=
  ⟨h'.1.trans h.1, h'.2.trans h.2, h'.3.trans h.3, h'.4.trans h.4, h'.5.trans h.5⟩

theorem SameOutcome.isFinished {s t : JobStatus} (h : SameOutcome s t) :
    t.isFinished = s.isFinished := by
  simp only [JobStatus.isFinished, holds, h.conditions]

end JobStatus

theorem Job.sameOutcome_reported (ctx : OperatorContext) (j : Job) (s : JobStatus) :
    JobStatus.SameOutcome s (j.reported ctx s) := ⟨rfl, rfl, rfl, rfl, rfl⟩

/-- What a job may carry after some calls: what it carried before, or a status that was handed in,
whether or not that call was answered. -/
inductive MayCarry (before : Option JobStatus) (calls : List Call) : Option JobStatus → Prop
  | kept : MayCarry before calls before
  | patched {ns name : String} {s : JobStatus} (h : .patchStatus ns name s ∈ calls) :
      MayCarry before calls (some s)

/-- One look at a job: everything that the operator finds, the status of the job apart. -/
structure Visit where
  {σ : Type}
  backend : Backend σ
  cluster : σ
  ctx : OperatorContext
  metadata : ObjectMeta
  spec : JobSpec
  now : Instant

namespace Visit

/-- The job that is found, carrying a status. -/
def job (v : Visit) (status : Option JobStatus) : Job := ⟨v.metadata, v.spec, status⟩

def reconcile (v : Visit) (status : Option JobStatus) : Reconciled v.σ :=
  (v.job status).reconcile v.backend v.ctx v.cluster v.now

end Visit

/-- The visits lead from one status that the job carries to another. -/
inductive Life (start : Option JobStatus) : List Visit → Option JobStatus → Prop
  | nil : Life start [] start
  | visit {visits : List Visit} {s s' : Option JobStatus} (v : Visit) :
      Life start visits s → MayCarry s (v.reconcile s).calls s' → Life start (visits ++ [v]) s'

section Finished

variable {σ : Type} {b : Backend σ} {state : σ} {ctx : OperatorContext} {j : Job}
  {s : JobStatus} {now : Instant} {c : Call}

/-- A call for a finished job makes no child, and a report repeats what the job carries. -/
theorem Job.mem_calls_of_finished (hs : j.status = some s) (hf : s.isFinished = true)
    (h : c ∈ (j.reconcile b ctx state now).calls) :
    c.makesChild = false ∧ ∀ ns name t, c = .patchStatus ns name t → t = j.reported ctx s := by
  have hrefusal : j.refusal? = none := by simp [refusal?, isFinished, hs, hf]
  obtain ⟨ns, -, ⟨why, hwhy, -⟩ | ⟨-, hlist | hlist | ⟨pods, services, -, -, h⟩⟩⟩ :=
    mem_calls_reconcile h
  · rw [hrefusal] at hwhy
    cases hwhy
  · subst hlist
    exact ⟨rfl, by simp⟩
  · subst hlist
    exact ⟨rfl, by simp⟩
  have ht := nextStatus_of_finished hs hf (pods.filterMap ObservedPod.ofPod?) now
  have hft : (j.nextStatus (pods.filterMap ObservedPod.ofPod?) now).isFinished = true := by
    rw [ht]
    exact hf
  rw [schedule_of_finishes hft] at h
  rcases mem_steps_finishedSchedule h with
    ⟨n, -, rfl⟩ | ⟨n, -, rfl⟩ | rfl | hreport | rfl
  · exact ⟨rfl, by simp⟩
  · exact ⟨rfl, by simp⟩
  · exact ⟨rfl, by simp⟩
  · obtain ⟨rfl, -⟩ := mem_reportSteps hreport
    refine ⟨rfl, fun _ _ t hc => ?_⟩
    simp only [Call.patchStatus.injEq] at hc
    rw [← hc.2.2, ht]
  · exact ⟨rfl, by simp⟩

theorem MayCarry.sameOutcome {v : Visit} {after : Option JobStatus} (hf : s.isFinished = true)
    (h : MayCarry (some s) (v.reconcile (some s)).calls after) :
    ∃ t, after = some t ∧ JobStatus.SameOutcome s t := by
  cases h with
  | kept => exact ⟨s, rfl, .refl s⟩
  | @patched ns name t hmem =>
    have ht : t = (v.job (some s)).reported v.ctx s :=
      (Job.mem_calls_of_finished rfl hf hmem).2 ns name t rfl
    exact ⟨t, rfl, ht ▸ Job.sameOutcome_reported _ _ s⟩

/-- A finished job carries the same outcome after every life. -/
theorem Life.sameOutcome {visits : List Visit} {status : Option JobStatus}
    (hf : s.isFinished = true) (life : Life (some s) visits status) :
    ∃ t, status = some t ∧ JobStatus.SameOutcome s t := by
  induction life with
  | nil => exact ⟨s, rfl, .refl s⟩
  | visit v _ hcarry ih =>
    obtain ⟨t, rfl, hst⟩ := ih
    obtain ⟨u, rfl, htu⟩ := hcarry.sameOutcome (hst.isFinished.trans hf)
    exact ⟨u, rfl, hst.trans htu⟩

/-- **Finished is absorbing.** Whatever a job that once carried a finished status has been through
since: a further visit makes no pod group, pod or service, and every status that it hands in tells
of the outcome that the job carries, which is the first one. -/
theorem Life.finished_absorbing {first : JobStatus} {visits : List Visit}
    {status : Option JobStatus} (hf : first.isFinished = true)
    (life : Life (some first) visits status) (v : Visit) :
    ∃ stored, status = some stored ∧ JobStatus.SameOutcome first stored ∧
      ∀ c ∈ (v.reconcile status).calls, c.makesChild = false ∧
        ∀ ns name s, c = .patchStatus ns name s → JobStatus.SameOutcome stored s := by
  obtain ⟨stored, rfl, hstored⟩ := life.sameOutcome hf
  refine ⟨stored, rfl, hstored, fun c hc => ?_⟩
  obtain ⟨hchild, hpatch⟩ := Job.mem_calls_of_finished rfl (hstored.isFinished.trans hf) hc
  refine ⟨hchild, fun ns name s hcs => ?_⟩
  rw [hpatch ns name s hcs]
  exact Job.sameOutcome_reported _ _ stored

/-- The status of a job that has succeeded. -/
def succeededStatus : JobStatus where
  conditions := [{ type := .created, status := .true_ },
    { type := .succeeded, status := .true_, reason := "JobSucceeded" }]
  completionTime := some "2024-05-01T10:00:00+00:00"
  restartCount := 2

/-- A visit that finds a new generation, whose spec would be refused, and no children. -/
def lateVisit : Visit where
  backend := Cluster.backend []
  cluster := { job := {} }
  ctx := { options := {}, servedVersion := ⟨"kubeflow.org/v1", "v1"⟩ }
  metadata := { name := some "mnist", namespace_ := some "ml", generation := some 3 }
  spec := {}
  now := Instant.ofSeconds 1714557600

/-- The first late visit writes the new generation down, the second one finds it there. -/
theorem Life.finished_absorbing_late :
    let status := (lateVisit.job (some succeededStatus)).reported lateVisit.ctx succeededStatus
    succeededStatus.isFinished = true ∧ Life (some succeededStatus) [lateVisit] (some status) ∧
      ∃ stored, some status = some stored ∧ JobStatus.SameOutcome succeededStatus stored ∧
        ∀ c ∈ (lateVisit.reconcile (some status)).calls, c.makesChild = false ∧
          ∀ ns name s, c = .patchStatus ns name s → JobStatus.SameOutcome stored s := by
  intro status
  have hf : succeededStatus.isFinished = true := by decide
  have hmem : Call.patchStatus "ml" "mnist" status ∈
      (lateVisit.reconcile (some succeededStatus)).calls := by decide
  have life : Life (some succeededStatus) [lateVisit] (some status) :=
    .visit lateVisit .nil (.patched hmem)
  exact ⟨hf, life, Life.finished_absorbing hf life lateVisit⟩

end Finished

end TrainingJobs
