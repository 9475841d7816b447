import TrainingJobs.Proofs.Lifecycle.FewerPods
import TrainingJobs.Proofs.Reconcile.Terminal

/-!
# What a listed pod has to do with a job

The pods of a job are found by its labels, and what a listed pod means for the job is up to its
labels too: a reconcile does not look at the owners of pods (`reconcile_ownedBy`). So a pod that
another job has left behind counts like one of the job's own (`not_ignoresStrangers`). A pod that is
not observed has no influence at all, and of what is reported one that belongs to no declared
replica has only a say in whether the job is running (`Job.influence_of_listed_pod`).
-/

namespace TrainingJobs

/-! ## Declared replicas -/

namespace Lifecycle

variable {jobName : String} {s : JobSpec} {status : JobStatus} {pods pods' : List ObservedPod}
  {p : ObservedPod} {now : Instant} {v : Verdict}

instance (s : JobSpec) (p : ObservedPod) : Decidable (IsDeclared s p) :=
  inferInstanceAs (Decidable (∃ e ∈ s.replicaSpecs.entries, isReplicaOf e.1 e.2 p = true))

def ofDeclared (s : JobSpec) (pods : List ObservedPod) : List ObservedPod :=
  pods.filter fun p => IsDeclared s p

theorem outcomes_ofDeclared (jobName : String) (s : JobSpec) (pods : List ObservedPod) :
    outcomes jobName s (ofDeclared s pods) = outcomes jobName s pods := by
  unfold outcomes ofDeclared
  rw [List.filterMap_filter]
  refine List.filterMap_congr fun p _ => ?_
  split
  next => rfl
  next hundeclared =>
    cases hr : declared? s p with
    | none => rfl
    | some r =>
      have hpolicy : policy? s p = some r.2.restartPolicy := by rw [policy?, hr]; rfl
      exact absurd (decide_eq_true (isDeclared_of_policy? hpolicy)) hundeclared

theorem ownRestarts_ofDeclared (s : JobSpec) (pods : List ObservedPod) :
    ownRestarts s (ofDeclared s pods) = ownRestarts s pods := by
  rw [ownRestarts_eq, ownRestarts_eq, ofDeclared,
    filter_filter_of_isDeclared (fun p _ h => decide_eq_true h)
      fun p hp => (of_decide_eq_true hp).isDeclared]

theorem replicaStatuses_ofDeclared (s : JobSpec) (pods : List ObservedPod) :
    replicaStatuses s (ofDeclared s pods) = replicaStatuses s pods := by
  refine Dict.ext_get? fun type => ?_
  simp only [replicaStatuses, Dict.get?_mapValues]
  cases hr : s.replicaSpecs.get? type with
  | none => rfl
  | some r =>
    rw [Option.map_some, Option.map_some, ofDeclared,
      filter_filter_of_isDeclared (fun p _ h => decide_eq_true h)
        fun p hp => ⟨(type, r), Dict.mem_entries_iff.2 hr, hp⟩]

section Alike

/-! Lists with the same pods of declared replicas. -/

variable (h : ofDeclared s pods = ofDeclared s pods')

include h

theorem outcomes_congr (jobName : String) : outcomes jobName s pods = outcomes jobName s pods' := by
  rw [← outcomes_ofDeclared, h, outcomes_ofDeclared]

theorem exceedsBackoff_congr : exceedsBackoff s status pods = exceedsBackoff s status pods' := by
  funext restart
  rw [exceedsBackoff, ← ownRestarts_ofDeclared, h, ownRestarts_ofDeclared, exceedsBackoff]

theorem begun_congr : begun jobName s status pods now = begun jobName s status pods' now := by
  rw [begun, ← replicaStatuses_ofDeclared, h, replicaStatuses_ofDeclared, begun]

theorem verdict_congr
    (hrunning : (pods.any fun p => p.phase = .running) = pods'.any fun p => p.phase = .running) :
    verdict jobName s status pods now = verdict jobName s status pods' now := by
  unfold verdict
  rw [outcomes_congr h, exceedsBackoff_congr h, hrunning]

end Alike

/-- The job goes on, whether it is said to be running or not. -/
def Verdict.GoesOn (v : Verdict) : Prop := v = .running ∨ v = .waiting

/-- Pods of no declared replica have no say in what is decided, but that a job that goes on is
said to be running. -/
theorem verdict_of_ofDeclared (h : ofDeclared s pods = ofDeclared s pods') (jobName : String)
    (status : JobStatus) (now : Instant) :
    verdict jobName s status pods now = verdict jobName s status pods' now ∨
      (verdict jobName s status pods now).GoesOn ∧
        (verdict jobName s status pods' now).GoesOn := by
  have hgoesOn : ∀ running : Bool, Verdict.GoesOn (if running then .running else .waiting) := by
    intro running
    cases running with
    | true => exact .inl rfl
    | false => exact .inr rfl
  unfold verdict
  rw [outcomes_congr h, exceedsBackoff_congr h]
  dsimp only
  -- only the last branch looks at pods of other replicas
  cases fatality? (outcomes jobName s pods') with
  | some why => exact .inl rfl
  | none =>
  dsimp only
  split
  next => exact .inl rfl
  split
  next => exact .inl rfl
  split
  next => exact .inl rfl
  split
  next => exact .inl rfl
  next => exact .inr ⟨hgoesOn _, hgoesOn _⟩

/-- While a job goes on only its conditions may tell whether it is running. -/
theorem apply_of_goesOn (h : v.GoesOn) (jobName : String) (status : JobStatus) (now : Instant) :
    let next := (apply jobName status now v).status
    next.replicaStatuses = status.replicaStatuses ∧ next.restartCount = status.restartCount ∧
      next.completionTime = status.completionTime := by
  rcases h with rfl | rfl <;> exact ⟨rfl, rfl, rfl⟩

end Lifecycle

/-! ## What is decided -/

namespace Job

open Lifecycle

variable {j : Job} {pods pods' : List ObservedPod} {now : Instant}

theorem decision_of_settled (h : j.isFinished = true ∨ j.refusal?.isSome = true)
    (pods pods' : List ObservedPod) (now : Instant) :
    j.decision pods now = j.decision pods' now := by
  unfold decision
  cases hr : j.refusal? with
  | some why => rfl
  | none =>
    have hf : (j.status.getD {}).isFinished = true := by
      rw [← isFinished_eq]
      exact h.resolve_right (by simp [hr])
    simp only [nextStatus, hf, if_true]

theorem decision_of_open (hf : j.isFinished = false) (hr : j.refusal? = none)
    (pods : List ObservedPod) (now : Instant) :
    j.decision pods now = Lifecycle.apply j.name (j.begun pods now) now (j.verdict pods now) := by
  rw [← nextStatus_of_unfinished hf, decision, hr]

/-- Decisions compare as they do for an open job, since any other is not judged by its pods. -/
theorem decision_induction {P : Transition → Transition → Prop} (hrefl : ∀ t, P t t)
    (hopen : P (Lifecycle.apply j.name (j.begun pods now) now (j.verdict pods now))
      (Lifecycle.apply j.name (j.begun pods' now) now (j.verdict pods' now))) :
    P (j.decision pods now) (j.decision pods' now) := by
  cases hf : j.isFinished with
  | true =>
    rw [decision_of_settled (.inl hf) pods pods']
    exact hrefl _
  | false =>
    cases hr : j.refusal? with
    | some why =>
      rw [decision_of_settled (.inr (by rw [hr]; rfl)) pods pods']
      exact hrefl _
    | none =>
      rw [decision_of_open hf hr, decision_of_open hf hr]
      exact hopen

theorem startTime_decision (j : Job) (pods pods' : List ObservedPod) (now : Instant) :
    (j.decision pods now).status.startTime = (j.decision pods' now).status.startTime := by
  refine decision_induction (P := fun t t' => t.status.startTime = t'.status.startTime)
    (fun _ => rfl) ?_
  rw [startTime_apply, startTime_apply]
  rfl

theorem decision_congr (h : ofDeclared j.spec pods = ofDeclared j.spec pods')
    (hrunning : (pods.any fun p => p.phase = .running) = pods'.any fun p => p.phase = .running) :
    j.decision pods now = j.decision pods' now := by
  refine decision_induction (fun _ => rfl) ?_
  have hbegun : j.begun pods now = j.begun pods' now := Lifecycle.begun_congr h
  rw [verdict, verdict, hbegun, verdict_congr h hrunning]

/-- Pods of no declared replica have no say but in the conditions. -/
theorem decision_of_ofDeclared (h : ofDeclared j.spec pods = ofDeclared j.spec pods')
    (now : Instant) :
    let next := (j.decision pods now).status
    let next' := (j.decision pods' now).status
    next.replicaStatuses = next'.replicaStatuses ∧ next.restartCount = next'.restartCount ∧
      next.completionTime = next'.completionTime := by
  refine decision_induction (P := fun t t' =>
    t.status.replicaStatuses = t'.status.replicaStatuses ∧
      t.status.restartCount = t'.status.restartCount ∧
      t.status.completionTime = t'.status.completionTime) (fun _ => ⟨rfl, rfl, rfl⟩) ?_
  have hbegun : j.begun pods now = j.begun pods' now := Lifecycle.begun_congr h
  rw [verdict, verdict, hbegun]
  rcases verdict_of_ofDeclared h j.name (j.begun pods' now) now with heq | ⟨hgoes, hgoes'⟩
  · rw [heq]
    exact ⟨rfl, rfl, rfl⟩
  · obtain ⟨h₁, h₂, h₃⟩ := apply_of_goesOn hgoes j.name (j.begun pods' now) now
    obtain ⟨h₁', h₂', h₃'⟩ := apply_of_goesOn hgoes' j.name (j.begun pods' now) now
    exact ⟨h₁.trans h₁'.symm, h₂.trans h₂'.symm, h₃.trans h₃'.symm⟩

end Job

/-! ## What is listed -/

def Backend.listing {σ : Type} (b : Backend σ) (pods : List Pod) : Backend σ :=
  { b with listPods := fun _ _ _ => .ok pods }

def Pod.ownedBy (p : Pod) (owners : Option (List OwnerReference)) : Pod :=
  { p with metadata := { p.metadata with ownerReferences := owners } }

section Listing

variable {σ : Type} {b : Backend σ} {ctx : OperatorContext} {j : Job} {state : σ} {now : Instant}
  {before after pods pods' : List Pod} {p : Pod}

theorem Schedule.run_listing (b : Backend σ) (pods : List Pod) (state : σ) (action : Action)
    (steps : List (Except OperatorError Call)) :
    run (b.listing pods) state action steps = run b state action steps := by
  induction steps generalizing state with
  | nil => rfl
  | cons step rest ih =>
    cases step with
    | error e => rfl
    | ok call =>
      have hperform : (b.listing pods).perform state call = b.perform state call := rfl
      rw [run, run, hperform]
      cases b.perform state call with
      | error e => rfl
      | ok next => simp only [ih]

/-- A reconcile looks at what is observed of the pods that are listed, and at nothing else. -/
theorem Job.reconcile_listing_congr
    (h : pods.filterMap ObservedPod.ofPod? = pods'.filterMap ObservedPod.ofPod?) :
    j.reconcile (b.listing pods) ctx state now = j.reconcile (b.listing pods') ctx state now := by
  have hschedule : ∀ ns services,
      j.schedule ctx ns pods services now = j.schedule ctx ns pods' services now := by
    intro ns services
    rw [schedule, h, schedule]
  unfold reconcile
  simp only [Schedule.run_listing]
  simp only [Backend.listing, hschedule]

theorem reconcile_ownedBy (owners : Option (List OwnerReference)) :
    j.reconcile (b.listing (before ++ p.ownedBy owners :: after)) ctx state now =
      j.reconcile (b.listing (before ++ p :: after)) ctx state now := by
  have hseen : ObservedPod.ofPod? (p.ownedBy owners) = ObservedPod.ofPod? p := rfl
  refine Job.reconcile_listing_congr ?_
  rw [List.filterMap_append, List.filterMap_append, List.filterMap_cons, List.filterMap_cons, hseen]

/-- What is reported is what is decided from the pods that are listed. -/
theorem sameOutcome_of_mem_calls {ns name : String} {s : JobStatus}
    (h : .patchStatus ns name s ∈ (j.reconcile (b.listing pods) ctx state now).calls) :
    JobStatus.SameOutcome (j.decision (pods.filterMap ObservedPod.ofPod?) now).status s := by
  obtain ⟨-, -, listed, hlisted, rfl⟩ := Job.reported_of_mem_calls h
  have hsame : (j.decision (listed.filterMap ObservedPod.ofPod?) now).status =
      (j.decision (pods.filterMap ObservedPod.ofPod?) now).status := by
    cases hr : j.refusal? with
    | some why => rw [Job.decision_of_settled (.inr (by rw [hr]; rfl))]
    | none =>
      obtain rfl : pods = listed := Except.ok.inj (hlisted hr)
      rfl
  rw [← hsame]
  exact Job.sameOutcome_reported ctx j _

end Listing

/-! ## Pods of others -/

/-- The pod is controlled by an object with another uid. -/
def Pod.IsStranger (p : Pod) (uid : String) : Prop :=
  ∃ r ∈ p.metadata.ownerReferences.getD [], r.controller = some true ∧ r.uid ≠ uid

instance (p : Pod) (uid : String) : Decidable (p.IsStranger uid) :=
  inferInstanceAs (Decidable (∃ r ∈ _, _))

/-- Pods that others control have no influence on the outcome that is reported of the job. -/
def Job.IgnoresStrangers (j : Job) : Prop :=
  ∀ uid ∈ j.metadata.uid, ∀ (before after : List Pod) (p : Pod), p.IsStranger uid →
    ∀ {σ : Type} (b : Backend σ) (ctx : OperatorContext) (state : σ) (now : Instant) ns name s s',
      .patchStatus ns name s ∈
        (j.reconcile (b.listing (before ++ after)) ctx state now).calls →
      .patchStatus ns name s' ∈
        (j.reconcile (b.listing (before ++ p :: after)) ctx state now).calls →
      JobStatus.SameOutcome s s'

/-- A job with one master that was made anew under its old name. -/
def remadeJob : Job where
  metadata := { name := some "mnist", namespace_ := some "ml", uid := some "uid-2" }
  spec := {
    replicaSpecs := Dict.ofList [("Master", {
      template := { spec := some { containers := [{ name := "trainer", image := some "i" }] } }
    })] }

/-- The master of the earlier job, which still runs. -/
def leftoverMaster : Pod where
  metadata := {
    name := some "mnist-master-0"
    namespace_ := some "ml"
    labels := some (replicaLabels "mnist" "Master" 0)
    ownerReferences := some [{
      apiVersion := "kubeflow.org/v1"
      kind := "TrainingJob"
      name := "mnist"
      uid := "uid-1"
      controller := some true }] }
  status := some { phase := some "Running" }

/-- A pod that an earlier job of the same name has left behind counts for the later one. -/
theorem not_ignoresStrangers : ¬ remadeJob.IgnoresStrangers := by
  intro h
  let now := Instant.ofSeconds 1714557600
  let b := Cluster.backend []
  let ctx : OperatorContext := { options := {}, servedVersion := ⟨"kubeflow.org/v1", "v1"⟩ }
  have hstranger : leftoverMaster.IsStranger "uid-2" := by decide
  have hwithout : .patchStatus "ml" "mnist"
        (remadeJob.reported ctx (remadeJob.decision [] now).status) ∈
      (remadeJob.reconcile (b.listing []) ctx { job := remadeJob } now).calls := by decide
  have hlisted : .patchStatus "ml" "mnist" (remadeJob.reported ctx
        (remadeJob.decision ([leftoverMaster].filterMap ObservedPod.ofPod?) now).status) ∈
      (remadeJob.reconcile (b.listing [leftoverMaster]) ctx { job := remadeJob } now).calls := by
    decide
  have hsame := (h "uid-2" rfl [] [] leftoverMaster hstranger b ctx _ now _ _ _ _ hwithout
    hlisted).replicaStatuses
  revert hsame
  decide

/-- A pod is observed unless it is being deleted or its labels do not tell which replica it is. -/
theorem ofPod?_eq_none_iff {p : Pod} : ObservedPod.ofPod? p = none ↔
    p.metadata.deletionTimestamp.isSome = true ∨
      p.metadata.labels.bind (·.get? Label.replicaType) = none ∨
      (p.metadata.labels.bind (·.get? Label.replicaIndex)).bind ObservedPod.index? = none := by
  unfold ObservedPod.ofPod?
  cases p.metadata.deletionTimestamp with
  | some time => simp
  | none =>
  cases p.metadata.labels with
  | none => simp
  | some labels =>
  cases htype : labels.get? Label.replicaType with
  | none => simp [htype]
  | some type =>
  cases hlabel : labels.get? Label.replicaIndex with
  | none => simp [htype, hlabel]
  | some text => cases hread : ObservedPod.index? text <;> simp [htype, hlabel, hread]

theorem ofDeclared_insert {spec : JobSpec} {o : ObservedPod}
    (h : ¬ Lifecycle.IsDeclared spec o) (before after : List ObservedPod) :
    Lifecycle.ofDeclared spec (before ++ o :: after) =
      Lifecycle.ofDeclared spec (before ++ after) := by
  rw [Lifecycle.ofDeclared, Lifecycle.ofDeclared, List.filter_append, List.filter_append,
    List.filter_cons_of_neg (by simpa using h)]

/-- What a listed pod has to do with a job is up to its labels and to what has become of it, not to
its owners. One that is not observed, since it is being deleted or does not say which replica it is,
does not matter at all. What is reported is what is decided from the pods that are listed. Nothing
is decided from them about the time at which the job started, nor about a job that is finished or
refused; and from a pod of no declared replica nothing but whether the job is running. -/
theorem Job.influence_of_listed_pod (j : Job) (before after : List Pod) (p : Pod) (now : Instant) :
    let without := j.decision ((before ++ after).filterMap ObservedPod.ofPod?) now
    let listed := j.decision ((before ++ p :: after).filterMap ObservedPod.ofPod?) now
    (∀ {σ : Type} (b : Backend σ) (ctx : OperatorContext) (state : σ),
      (∀ owners, j.reconcile (b.listing (before ++ p.ownedBy owners :: after)) ctx state now =
        j.reconcile (b.listing (before ++ p :: after)) ctx state now) ∧
      (ObservedPod.ofPod? p = none →
        j.reconcile (b.listing (before ++ p :: after)) ctx state now =
          j.reconcile (b.listing (before ++ after)) ctx state now) ∧
      ∀ (pods : List Pod) ns name s,
        .patchStatus ns name s ∈ (j.reconcile (b.listing pods) ctx state now).calls →
        JobStatus.SameOutcome (j.decision (pods.filterMap ObservedPod.ofPod?) now).status s) ∧
    listed.status.startTime = without.status.startTime ∧
    (j.isFinished = true ∨ j.refusal?.isSome = true → listed = without) ∧
    (∀ o ∈ ObservedPod.ofPod? p, ¬ Lifecycle.IsDeclared j.spec o →
      listed.status.replicaStatuses = without.status.replicaStatuses ∧
      listed.status.restartCount = without.status.restartCount ∧
      listed.status.completionTime = without.status.completionTime ∧
      (o.phase ≠ .running → listed = without)) ∧
    (ObservedPod.ofPod? p = none ↔ p.metadata.deletionTimestamp.isSome = true ∨
      p.metadata.labels.bind (·.get? Label.replicaType) = none ∨
      (p.metadata.labels.bind (·.get? Label.replicaIndex)).bind ObservedPod.index? = none) := by
  intro without listed
  refine ⟨fun b ctx state => ⟨fun owners => reconcile_ownedBy owners, fun hunseen => ?_,
    fun pods ns name s => sameOutcome_of_mem_calls⟩, startTime_decision j _ _ now,
    fun hsettled => decision_of_settled hsettled _ _ now, fun o ho hundeclared => ?_,
    ofPod?_eq_none_iff⟩
  · refine reconcile_listing_congr ?_
    rw [List.filterMap_append, List.filterMap_append, List.filterMap_cons_none hunseen]
  · have hseen : (before ++ p :: after).filterMap ObservedPod.ofPod? =
        before.filterMap ObservedPod.ofPod? ++ o :: after.filterMap ObservedPod.ofPod? := by
      rw [List.filterMap_append, List.filterMap_cons_some ho]
    have hdeclared := ofDeclared_insert hundeclared (before.filterMap ObservedPod.ofPod?)
      (after.filterMap ObservedPod.ofPod?)
    rw [← hseen, ← List.filterMap_append] at hdeclared
    obtain ⟨hstatuses, hrestarts, hcompletion⟩ := decision_of_ofDeclared hdeclared now
    refine ⟨hstatuses, hrestarts, hcompletion, fun hphase => decision_congr hdeclared ?_⟩
    rw [hseen, List.filterMap_append]
    simp [hphase]

/-- A failed evaluator of the earlier job; the later one declares none. -/
def leftoverEvaluator : Pod where
  metadata := {
    name := some "mnist-evaluator-0"
    namespace_ := some "ml"
    labels := some (replicaLabels "mnist" "Evaluator" 0)
    ownerReferences := leftoverMaster.metadata.ownerReferences }
  status := some { phase := some "Failed" }

/-- Neither this evaluator nor an earlier master that is being deleted matters, and after the job
has succeeded the earlier master does not matter either. -/
theorem Job.influence_of_leftovers :
    let now := Instant.ofSeconds 1714557600
    let b := Cluster.backend []
    let ctx : OperatorContext := { options := {}, servedVersion := ⟨"kubeflow.org/v1", "v1"⟩ }
    let deleted : Pod := { leftoverMaster with
      metadata := { leftoverMaster.metadata with deletionTimestamp := some now } }
    (remadeJob.decision ([leftoverEvaluator].filterMap ObservedPod.ofPod?) now =
        remadeJob.decision [] now ∧
      ∃ s, .patchStatus "ml" "mnist" s ∈
          (remadeJob.reconcile (b.listing [leftoverEvaluator]) ctx { job := remadeJob } now).calls ∧
        JobStatus.SameOutcome
          (remadeJob.decision ([leftoverEvaluator].filterMap ObservedPod.ofPod?) now).status s) ∧
    remadeJob.reconcile (b.listing [deleted]) ctx { job := remadeJob } now =
      remadeJob.reconcile (b.listing []) ctx { job := remadeJob } now ∧
    ({ remadeJob with status := some succeededStatus }).decision
        ([leftoverMaster].filterMap ObservedPod.ofPod?) now =
      ({ remadeJob with status := some succeededStatus }).decision [] now := by
  intro now b ctx deleted
  let reported := remadeJob.reported ctx
    (remadeJob.decision ([leftoverEvaluator].filterMap ObservedPod.ofPod?) now).status
  have hreported : .patchStatus "ml" "mnist" reported ∈
      (remadeJob.reconcile (b.listing [leftoverEvaluator]) ctx { job := remadeJob } now).calls := by
    decide
  have hundeclared : ∀ o ∈ ObservedPod.ofPod? leftoverEvaluator,
      ¬ Lifecycle.IsDeclared remadeJob.spec o ∧ o.phase ≠ .running := by decide
  obtain ⟨hreconcile, -, -, hevaluator, -⟩ :=
    influence_of_listed_pod remadeJob [] [] leftoverEvaluator now
  obtain ⟨hdeleted, -⟩ := influence_of_listed_pod remadeJob [] [] deleted now
  obtain ⟨-, -, hsettled, -⟩ := influence_of_listed_pod
    { remadeJob with status := some succeededStatus } [] [] leftoverMaster now
  refine ⟨⟨?_, reported, hreported, (hreconcile b ctx { job := remadeJob }).2.2 _ _ _ _ hreported⟩,
    (hdeleted b ctx { job := remadeJob }).2.1 rfl, hsettled (.inl (by decide))⟩
  obtain ⟨hnot, hphase⟩ := hundeclared _ rfl
  exact (hevaluator _ rfl hnot).2.2.2 hphase

end TrainingJobs
