import TrainingJobs.Operator.Requests
import TrainingJobs.Proofs.Lifecycle.History
import TrainingJobs.Proofs.Lifecycle.Steady
import TrainingJobs.Proofs.Reconcile.Order
import TrainingJobs.Proofs.Reconcile.Terminal
import TrainingJobs.Proofs.StoredStatus

/-!
# What becomes of a report

A report reaches the cluster as a merge patch, and a merge patch forgets nothing. A reported status
goes on from the one that the job carries in all but one respect: it counts the types that the spec
declares now (`Job.covers_iff`). So the status is stored as it was reported unless the spec has lost
a type. The counts of a lost type stay, the status that the job carries is never the one that is to
be reported, and every visit reports again (`Job.reports_again`).
-/

namespace TrainingJobs

open Lifecycle Document Json

section Step

variable {m : Moment} {status : Option JobStatus} {t : Transition}

theorem Step.conditions_ne_nil (h : Step m status t) : t.status.conditions ≠ [] := by
  rcases h.cases with ⟨hf, rfl⟩ | ⟨-, ⟨why, rfl⟩ | ⟨v, rfl⟩⟩
  · intro hnil
    simp only at hnil
    simp [JobStatus.isFinished, JobStatus.holds, Conditions.holds, hnil] at hf
  · exact Conditions.record_ne_nil
  · cases v <;> exact Conditions.record_ne_nil

end Step

namespace Job

variable {σ : Type} {b : Backend σ} {state : σ} {ctx : OperatorContext} {j k : Job}
  {ns : String} {now later : Instant} {pods : List ObservedPod} {s : JobStatus}

/-! ## What is counted -/

/-- A job that goes on is told how many pods of each declared type there are. -/
theorem counts_of_goesOn (hunfinished : j.isFinished = false) (hok : j.refusal? = none) :
    (j.decision pods now).status.replicaStatuses = replicaStatuses j.spec pods := by
  simp only [decision, hok]
  rw [nextStatus_of_unfinished hunfinished]
  cases j.verdict pods now <;> rfl

theorem counts_of_not_goesOn (h : j.isFinished = true ∨ j.refusal? ≠ none) :
    (j.decision pods now).status.replicaStatuses = (j.status.getD {}).replicaStatuses := by
  unfold decision
  split
  · rfl
  next hok =>
    have hf : (j.status.getD {}).isFinished = true := by
      rw [← isFinished_eq]
      exact h.resolve_right fun hne => hne hok
    simp [nextStatus, hf]

/-- The type that was counted before is not counted any more just if the spec has lost it. -/
theorem covers_iff (hs : s = j.reported ctx (j.decision pods now).status) :
    s.Covers (j.status.getD {}) ↔
      (j.isFinished = false → j.refusal? = none →
        ∀ type ∈ (j.status.getD {}).replicaStatuses.keys, type ∈ j.spec.replicaSpecs.keys) ∧
      (j.metadata.generation = none → (j.status.getD {}).observedGeneration = none) := by
  have hstep := Step.decision j pods now
  have hkeys : j.isFinished = false → j.refusal? = none →
      s.replicaStatuses.keys = j.spec.replicaSpecs.keys := by
    intro hunfinished hok
    rw [hs, reported, counts_of_goesOn hunfinished hok, replicaStatuses, Dict.keys_mapValues]
  have hlater : ∀ {before after : Option String}, (∀ time ∈ before, after = some time) →
      after = none → before = none := by
    intro before after hkept hnone
    cases before with
    | none => rfl
    | some time =>
      rw [hkept time rfl] at hnone
      cases hnone
  constructor
  · intro h
    refine ⟨fun hunfinished hok => ?_, fun hnone => h.generation ?_⟩
    · rw [← hkeys hunfinished hok]
      exact h.counts
    · rw [hs]
      exact hnone
  · rintro ⟨hcounts, hgeneration⟩
    subst hs
    refine ⟨fun hnil => absurd hnil hstep.conditions_ne_nil, ?_, hlater hstep.continues.startTime,
      hlater hstep.continues.completionTime, hgeneration, fun hnone => by cases hnone⟩
    by_cases hgoesOn : j.isFinished = false ∧ j.refusal? = none
    · rw [hkeys hgoesOn.1 hgoesOn.2]
      exact hcounts hgoesOn.1 hgoesOn.2
    · have hnot : j.isFinished = true ∨ j.refusal? ≠ none := by
        by_cases hf : j.isFinished = true
        · exact .inl hf
        · exact .inr fun hok => hgoesOn ⟨Bool.eq_false_iff.2 hf, hok⟩
      rw [reported, counts_of_not_goesOn hnot]
      exact fun _ htype => htype

/-! ## The next report -/

theorem reported_reported (ctx : OperatorContext) (hmeta : k.metadata = j.metadata)
    (s : JobStatus) : k.reported ctx (j.reported ctx s) = j.reported ctx s := by
  simp only [reported, hmeta]

/-- Where nothing has changed since a report was stored as it is, nothing else is to be reported. -/
theorem reported_of_settled (hmeta : k.metadata = j.metadata) (hspec : k.spec = j.spec)
    (hs : s = j.reported ctx (j.decision pods now).status) (hstatus : k.status = some s)
    (hrestart : (j.decision pods now).restart = [])
    (hdead : k.isFinished = false → k.deadlineReached later = false) :
    k.reported ctx (k.decision pods later).status = s := by
  have hsame : JobStatus.SameOutcome (j.decision pods now).status s :=
    hs ▸ sameOutcome_reported ctx j _
  have hfinished : k.isFinished = (j.decision pods now).isFinished := by
    rw [isFinished_eq, hstatus]
    exact hsame.isFinished
  have hagain : k.reported ctx s = s := by
    rw [hs, reported_reported ctx hmeta]
  cases hf : k.isFinished with
  | true =>
    have hstay : k.decision pods later = { status := s } := by
      have hsf : s.isFinished = true := by
        rw [isFinished_eq, hstatus] at hf
        exact hf
      simp only [decision, refusal?, hf, if_true]
      exact nextStatus_of_finished hstatus hsf pods later
    rw [hstay]
    exact hagain
  | false =>
    have hgoesOn : (j.decision pods now).isFinished = false := hfinished ▸ hf
    obtain ⟨hunfinished, hok⟩ : j.isFinished = false ∧ j.refusal? = none :=
      goesOn_of_decision hgoesOn
    have hdecision : j.decision pods now = j.nextStatus pods now := by
      simp only [decision, hok]
    have hsteady : Steady k.name k.spec s pods := by
      have hnext := steady_nextStatus hunfinished (hdecision ▸ hgoesOn) (hdecision ▸ hrestart)
      rw [← hdecision] at hnext
      have hname : k.name = j.name := congrArg ObjectMeta.displayName hmeta
      rw [hname, hspec]
      exact hnext.congr hsame.conditions hsame.startTime hsame.restartCount
    have hinTime : isPastDeadline k.spec s later = false := by
      obtain ⟨time, htime⟩ := Option.isSome_iff_exists.1 hsteady.started
      rw [← hdead hf]
      simp only [deadlineReached, isPastDeadline, deadlineRemaining?, begun, Lifecycle.begun,
        hstatus, Option.getD_some, htime, Option.some_or]
    have hcounts : replicaStatuses k.spec pods = s.replicaStatuses := by
      rw [hspec, hsame.replicaStatuses, counts_of_goesOn hunfinished hok]
    have hokAgain : k.refusal? = none := by
      simp only [refusal?, hf, hspec]
      simpa only [refusal?, hunfinished] using hok
    simp only [decision, hokAgain]
    rw [hsteady.nextStatus hstatus hinTime, hcounts]
    exact hagain

/-- As long as the job goes on, a lost type is reported away at each visit, and in vain. -/
theorem reports_again {type : String} {found : List Pod} {services : NameSet}
    (hns : k.namespace? = some ns) (halive : k.metadata.deletionTimestamp = none)
    (hserved : ctx.servedVersion.check = .ok ()) (hunfinished : k.isFinished = false)
    (hok : k.refusal? = none) (hstored : type ∈ (k.status.getD {}).replicaStatuses.keys)
    (hlost : type ∉ k.spec.replicaSpecs.keys) :
    ∃ s, .patchStatus ns k.name s ∈
      (k.reconcile (.unfailing found services) ctx () later).calls := by
  have hplanned : (k.reconcile (.unfailing found services) ctx () later).calls =
      k.plannedCalls ctx ns found services later :=
    (cut_reconcile hns hserved halive (fun _ h => (Except.ok.inj h).symm)
      fun _ h => (Except.ok.inj h).symm).of_unfailing.1
  let t := k.nextStatus (found.filterMap ObservedPod.ofPod?) later
  have hcounts : t.status.replicaStatuses =
      replicaStatuses k.spec (found.filterMap ObservedPod.ofPod?) := by
    have hcounted : (k.decision (found.filterMap ObservedPod.ofPod?) later).status.replicaStatuses =
        replicaStatuses k.spec (found.filterMap ObservedPod.ofPod?) :=
      counts_of_goesOn hunfinished hok
    simpa only [decision, hok] using hcounted
  have hnew : k.status ≠ some (k.reported ctx t.status) := by
    intro hsame
    rw [hsame, Option.getD_some, reported, hcounts, replicaStatuses, Dict.keys_mapValues] at hstored
    exact hlost hstored
  have hreport : Call.patchStatus ns k.name (k.reported ctx t.status) ∈
      k.report ctx ns t.status := by
    rw [report, if_neg hnew]
    exact List.mem_singleton.2 rfl
  rw [hplanned]
  exact ⟨k.reported ctx t.status, report_subset_plannedCalls hok hreport⟩

/-! ## Reports as they are stored -/

/-- **What is stored of a report.** A reported status is merged into the stored job, and the job is
read back with the report `mergedInto` the status that it carried. That is the reported status
itself just if the spec of a job that goes on still has every type that was counted before, and the
job does not lose its generation. Then the next visit that finds the same pods reports nothing, as
long as no pod was to be made anew and no deadline has come. But a type that the spec has lost stays
counted, and then every visit to the job reports again. -/
theorem report_stored {members : List (String × Json)}
    (hstored : Job.ofDocument? (obj members) = some j)
    (hrecord : ∀ items, fieldIn members "status" ≠ some (arr items)) {found : List Pod}
    (hfound : ∀ pods, b.listPods state ns j.childSelector = .ok pods → pods = found)
    {name : String} (hpatch : .patchStatus ns name s ∈ (j.reconcile b ctx state now).calls) :
    let before := j.status.getD {}
    let after : Job := { j with status := some (s.mergedInto before) }
    let t := j.decision (found.filterMap ObservedPod.ofPod?) now
    Job.ofDocument? (merge (obj members) (OperatorOptions.statusPatch s)) = some after ∧
    (after.status = some s ↔
      (j.isFinished = false → j.refusal? = none →
        ∀ type ∈ before.replicaStatuses.keys, type ∈ j.spec.replicaSpecs.keys) ∧
      (j.metadata.generation = none → before.observedGeneration = none)) ∧
    (after.status = some s → t.restart = [] →
      ∀ {τ : Type} (b' : Backend τ) (state' : τ) (later : Instant),
        (∀ pods, b'.listPods state' ns j.childSelector = .ok pods → pods = found) →
        (after.isFinished = false → after.deadlineReached later = false) →
        ∀ name' s', .patchStatus ns name' s' ∉ (after.reconcile b' ctx state' later).calls) ∧
    (after.isFinished = false → after.refusal? = none →
      ∀ type ∈ before.replicaStatuses.keys, type ∉ j.spec.replicaSpecs.keys →
        ∀ (found' : List Pod) (services : NameSet) (later : Instant), ∃ s',
          .patchStatus ns j.name s' ∈
            (after.reconcile (.unfailing found' services) ctx () later).calls) := by
  intro before after t
  obtain ⟨⟨hns, hserved⟩, -, pods, hpods, hs⟩ := reported_of_mem_calls hpatch
  have hsame : s = j.reported ctx t.status := by
    rw [hs]
    cases hok : j.refusal? with
    | some why => simp only [t, decision, hok]
    | none => rw [hfound pods (hpods hok)]
  have hcovers : after.status = some s ↔ s.Covers before := by
    rw [← JobStatus.mergedInto_eq_self_iff]
    exact Option.some_inj
  refine ⟨Job.ofDocument?_merge hstored hrecord s, hcovers.trans (covers_iff hsame), ?_, ?_⟩
  · intro hafter hrestart τ b' state' later hfound' hdead name' s' hpatch'
    obtain ⟨-, hne, pods', hpods', hs'⟩ := reported_of_mem_calls hpatch'
    refine hne ?_
    have hquiet : after.reported ctx
        (after.decision (found.filterMap ObservedPod.ofPod?) later).status = s :=
      reported_of_settled (j := j) rfl rfl hsame hafter hrestart hdead
    have hs'' : s' = s := by
      rw [hs', ← hquiet]
      cases hok : after.refusal? with
      | some why => simp only [decision, hok]
      | none => rw [hfound' pods' (hpods' hok)]
    rw [hs'']
    exact hafter
  · intro hunfinished hok type htype hlost found' services later
    have halive : after.metadata.deletionTimestamp = none := alive_of_mem_calls (j := j) hpatch
    refine reports_again hns halive hserved hunfinished hok ?_ hlost
    obtain ⟨x, hx⟩ := Dict.mem_keys_iff.1 htype
    show type ∈ (before.replicaStatuses.override s.replicaStatuses).keys
    rw [Dict.mem_keys_iff, Dict.get?_override, hx]
    cases s.replicaStatuses.get? type with
    | none => exact ⟨x, rfl⟩
    | some y => exact ⟨y, rfl⟩

/-- A job with one replica of each of these types. -/
def typedJob (types : List String) (generation : Int64) (status : Option JobStatus) : Job where
  metadata := { name := some "mnist", namespace_ := some "ml", generation := some generation }
  spec := {
    replicaSpecs := Dict.ofList (types.map fun type =>
      (type, { template := { spec := some { containers := [{ name := "trainer" }] } } })) }
  status := status

/-- What is reported of it while it has no pods. -/
def typedReport (types : List String) (generation : Int64) (status : Option JobStatus)
    (now : Instant) : JobStatus :=
  let j := typedJob types generation status
  j.reported Cluster.plainContext (j.decision [] now).status

/-- A type is added to the spec: the report is stored as it is, and the next visit is quiet. -/
theorem report_stored_added :
    let first := typedReport ["Master"] 1 none (Instant.ofSeconds 1714557600)
    let j := typedJob ["Master", "Worker"] 2 (some first)
    let s := typedReport ["Master", "Worker"] 2 (some first) (Instant.ofSeconds 1714557605)
    let calls := (j.reconcile (.unfailing [] Dict.empty) Cluster.plainContext ()
      (Instant.ofSeconds 1714557605)).calls
    let after : Job := { j with status := some s }
    (Job.ofDocument? j.toJson = some j ∧
      (∀ items, fieldIn j.toJson.members "status" ≠ some (arr items)) ∧
      .patchStatus "ml" "mnist" s ∈ calls) ∧
    Job.ofDocument? (merge j.toJson (OperatorOptions.statusPatch s)) = some after ∧
    ∀ s', .patchStatus "ml" "mnist" s' ∉ (after.reconcile (.unfailing [] Dict.empty)
      Cluster.plainContext () (Instant.ofSeconds 1714557606)).calls := by
  intro first j s calls after
  have hread : Job.ofDocument? (obj j.toJson.members) = some j := by decide
  have hrecord : ∀ items, fieldIn j.toJson.members "status" ≠ some (arr items) := by
    intro items h
    cases h
  have hpatch : .patchStatus "ml" "mnist" s ∈ calls := by decide
  have hfound : ∀ pods, (Backend.unfailing [] Dict.empty).listPods () "ml" j.childSelector =
      .ok pods → pods = [] := fun _ h => (Except.ok.inj h).symm
  obtain ⟨hmerge, hiff, hquiet, -⟩ := report_stored hread hrecord hfound hpatch
  have hsame := hiff.2 ⟨by decide, by decide⟩
  have hafter : ({ j with status := some (s.mergedInto (j.status.getD {})) } : Job) = after :=
    congrArg (fun status => { j with status := status }) hsame
  rw [hafter] at hmerge hquiet hsame
  exact ⟨⟨hread, hrecord, hpatch⟩, hmerge, fun s' => hquiet hsame (by decide) _ _ _
    (fun _ h => (Except.ok.inj h).symm) (fun _ => by decide) _ s'⟩

/-- A type is taken from the spec: what is stored is not what was reported, and the next visit
reports the same again. -/
theorem not_report_stored_lost :
    let first := typedReport ["Master", "Worker"] 1 none (Instant.ofSeconds 1714557600)
    let j := typedJob ["Master"] 2 (some first)
    let s := typedReport ["Master"] 2 (some first) (Instant.ofSeconds 1714557605)
    let calls := (j.reconcile (.unfailing [] Dict.empty) Cluster.plainContext ()
      (Instant.ofSeconds 1714557605)).calls
    .patchStatus "ml" "mnist" first ∈ ((typedJob ["Master", "Worker"] 1 none).reconcile
      (.unfailing [] Dict.empty) Cluster.plainContext () (Instant.ofSeconds 1714557600)).calls ∧
    .patchStatus "ml" "mnist" s ∈ calls ∧
    (Job.ofDocument? (merge j.toJson (OperatorOptions.statusPatch s))).isSome = true ∧
    ∀ k, Job.ofDocument? (merge j.toJson (OperatorOptions.statusPatch s)) = some k →
      k.status ≠ some s ∧
      .patchStatus "ml" "mnist" s ∈ (k.reconcile (.unfailing [] Dict.empty)
        Cluster.plainContext () (Instant.ofSeconds 1714557606)).calls := by
  decide

end Job

end TrainingJobs
