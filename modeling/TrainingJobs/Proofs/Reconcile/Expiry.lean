import TrainingJobs.Proofs.Lifecycle.Verdict
import TrainingJobs.Proofs.Reconcile.Order
import TrainingJobs.Proofs.Reconcile.Terminal
import TrainingJobs.Proofs.Time.Clock

/-!
# The deletion of a finished job

A finished job is deleted when the time that it is kept for is over. The deletion is the last call of
a schedule, behind the report, so it is made only when everything else has succeeded
(`Job.made_of_deleteJob`). When the time is over is told by a text again: for a time that was written
from a clock, the comparison and the delay that is asked for are exact (`ttlRemaining?_eq`).
-/

namespace TrainingJobs

open Lifecycle

namespace Lifecycle

variable {status : JobStatus} {now c : Instant} {jobName : String}

/-- What remains of the time that a finished job is kept for. -/
theorem ttlRemaining?_eq (hc : c.Recordable) (hnow : now.isLeap = false)
    (hcompleted : status.completionTime = some (Timestamp.write c)) (ttl : Int32) :
    ttlRemaining? status (some ttl) now = some ⟨(c.due ttl.toInt - now.clock).toNat⟩ := by
  have hlow := ttl.le_toInt
  have hhigh := ttl.toInt_lt
  rw [← hc.remaining?_eq hnow ⟨hlow, by omega⟩]
  simp only [ttlRemaining?, hcompleted, Option.bind_eq_bind, Option.bind_some, hc.read?_write]

/-- No time is left of it just if it is set and its end, which the completion time tells, is not
ahead. -/
theorem isZero_ttlRemaining?_iff {ttl : Option Int32} :
    (ttlRemaining? status ttl now).any (·.isZero) = true ↔
      ∃ seconds ∈ ttl, ∃ text ∈ status.completionTime, ∃ completed ∈ Timestamp.read? text,
        ∃ expiry ∈ completed.later? seconds.toInt, expiry.since now ≤ 0 := by
  simp only [Option.any_eq_true, ttlRemaining?, Option.bind_eq_bind, Option.bind_eq_some_iff,
    Instant.remaining?, Option.map_eq_some_iff, Option.mem_def]
  constructor
  · rintro ⟨_, ⟨text, htext, completed, hread, ttl, httl, expiry, hexpiry, rfl⟩, hzero⟩
    exact ⟨ttl, httl, text, htext, completed, hread, expiry, hexpiry,
      (isZero_ofNanoseconds? _).1 hzero⟩
  · rintro ⟨ttl, httl, text, htext, completed, hread, expiry, hexpiry, hover⟩
    exact ⟨_, ⟨text, htext, completed, hread, ttl, httl, expiry, hexpiry, rfl⟩,
      (isZero_ofNanoseconds? _).2 hover⟩

end Lifecycle

namespace Job

variable {σ : Type} {b : Backend σ} {start : σ} {ctx : OperatorContext} {j : Job} {ns ns' n : String}
  {now c : Instant} {pods : List Pod} {services : NameSet} {status : JobStatus} {call : Call}

/-! ## The deletion -/

/-- The job is deleted by the last of its planned calls. -/
theorem eq_expiry_of_mem (h : .deleteJob ns' n ∈ j.expiry ns status now) :
    j.expiry ns status now = [.deleteJob ns' n] ∧ ns' = ns ∧ n = j.name ∧
      (ttlRemaining? status j.spec.runPolicy.ttlSecondsAfterFinished now).any (·.isZero) = true := by
  unfold expiry at h ⊢
  split at h
  next hzero =>
    obtain ⟨rfl, rfl⟩ := Call.deleteJob.inj (List.mem_singleton.1 h)
    exact ⟨if_pos hzero, rfl, rfl, hzero⟩
  · cases h

theorem deleteJob_not_mem_cleanup {plan : CleanupPlan} :
    .deleteJob ns' n ∉ j.cleanup ctx ns plan := fun h =>
  (cleansUp_cases (cleansUp_of_mem_cleanup h)).2.2 ns' n rfl

theorem deleteJob_not_mem_report : .deleteJob ns' n ∉ j.report ctx ns status := by
  unfold report
  split
  · exact List.not_mem_nil
  · exact fun h => nomatch List.mem_singleton.1 h

theorem deleteJob_mem_iff {plan : CleanupPlan} :
    .deleteJob ns' n ∈ [.listPods ns j.childSelector, .listServiceNames ns j.childSelector]
        ++ (j.cleanup ctx ns plan ++ j.report ctx ns status ++ j.expiry ns status now) ↔
      .deleteJob ns' n ∈ j.expiry ns status now := by
  simp [deleteJob_not_mem_cleanup, deleteJob_not_mem_report]

theorem schedule_of_deleteJob (h : .deleteJob ns' n ∈ (j.reconcile b ctx start now).calls) :
    ∃ ns pods services, j.metadata.deletionTimestamp = none ∧ j.namespace? = some ns ∧
      j.refusal? = none ∧ b.listPods start ns j.childSelector = .ok pods ∧
      b.listServiceNames start ns j.childSelector = .ok services ∧
      (j.nextStatus (pods.filterMap ObservedPod.ofPod?) now).isFinished = true := by
  obtain ⟨ns, hns, ⟨why, -, hstep⟩ | ⟨hok, hcall | hcall | ⟨pods, services, hpods, hservices,
    hstep⟩⟩⟩ := mem_calls_reconcile h
  · cases (mem_reportSteps hstep).1
  · cases hcall
  · cases hcall
  refine ⟨ns, pods, services, alive_of_mem_calls h, hns, hok, hpods, hservices, ?_⟩
  refine Bool.of_not_eq_false fun hgoesOn => ?_
  rw [schedule_of_goesOn hgoesOn] at hstep
  obtain ⟨_, _, hcall⟩ | ⟨_, _, _, _, hcall⟩ | ⟨_, _, _, _, hcall⟩ | ⟨_, _, hcall⟩ |
    ⟨_, _, hcall⟩ | hreport := mem_steps_unfinishedSchedule hstep
  · cases hcall
  · cases hcall
  · cases hcall
  · cases hcall
  · cases hcall
  · cases (mem_reportSteps hreport).1

/-- A job is deleted behind its report, which needs an API that is served. -/
theorem served_of_deleteJob (h : .deleteJob ns' n ∈ (j.reconcile b ctx start now).calls) :
    ctx.servedVersion.check = .ok () := by
  obtain ⟨ns, pods, services, halive, hns, hok, hpods, hservices, hends⟩ := schedule_of_deleteJob h
  cases hserved : ctx.servedVersion.check with
  | ok _ => rfl
  | error e =>
    let observed := pods.filterMap ObservedPod.ofPod?
    let t := j.nextStatus observed now
    have hsteps : (j.schedule ctx ns pods services now).steps =
        (j.cleanup ctx ns (.make j.spec.runPolicy.cleanPodPolicy observed services
          t.terminateActive)).map .ok ++
          .error (.job e) :: (j.expiry ns t.status now).map .ok := by
      rw [schedule_of_finishes hends, finishedSchedule_steps]
      simp only [reportSteps, hserved, List.append_assoc]
      rfl
    rw [reconcile_of_listed halive hns hok hpods hservices, hsteps] at h
    simp only [List.mem_cons, reduceCtorEq, false_or] at h
    obtain ⟨call, hcall, hsame⟩ := List.mem_map.1 (Schedule.mem_front_of_mem_calls h)
    cases hsame
    exact absurd hcall deleteJob_not_mem_cleanup

/-- What is made before a job is deleted, and when that may be. -/
theorem made_of_deleteJob (h : .deleteJob ns' n ∈ (j.reconcile b ctx start now).calls) :
    n = j.name ∧ ∃ pods, j.namespace? = some ns' ∧ j.refusal? = none ∧
      b.listPods start ns' j.childSelector = .ok pods ∧
      (let t := j.nextStatus (pods.filterMap ObservedPod.ofPod?) now
      t.isFinished = true ∧
        (ttlRemaining? t.status j.spec.runPolicy.ttlSecondsAfterFinished now).any (·.isZero)
          = true) ∧
      ∃ front middle, (j.reconcile b ctx start now).calls = front ++ [.deleteJob ns' n] ∧
        b.Makes start front middle := by
  obtain ⟨ns, pods, services, halive, hns, hok, hpods, hservices, hends⟩ := schedule_of_deleteJob h
  have hcut : Cut b start (j.plannedCalls ctx ns pods services now)
      (j.plannedAction ctx ns pods services now) (j.reconcile b ctx start now) :=
    cut_reconcile hns (served_of_deleteJob h) halive
      (fun found hfound => Except.ok.inj (hfound.symm.trans hpods))
      (fun found hfound => Except.ok.inj (hfound.symm.trans hservices))
  rw [plannedCalls_of_finishes hok hends] at hcut
  obtain ⟨hlast, rfl, rfl, hzero⟩ :=
    eq_expiry_of_mem (deleteJob_mem_iff.1 (hcut.calls_prefix.subset h))
  rw [hlast, ← List.append_assoc] at hcut
  obtain ⟨hcalls, middle, hmade⟩ := hcut.of_last h
    (by simp [deleteJob_not_mem_cleanup, deleteJob_not_mem_report])
  exact ⟨rfl, pods, hns, hok, hpods, ⟨hends, hzero⟩, _, middle, hcalls, hmade⟩

/-! ## Exactness -/

theorem finishedSchedule_action (pods : List ObservedPod) (t : Transition) :
    (j.finishedSchedule ctx ns pods services t now).action =
      match ttlRemaining? t.status j.spec.runPolicy.ttlSecondsAfterFinished now with
      | some left => if left.isZero then .await else .requeue left
      | none => .await := by
  cases hleft : ttlRemaining? t.status j.spec.runPolicy.ttlSecondsAfterFinished now with
  | none => simp only [finishedSchedule, hleft]
  | some left =>
    simp only [finishedSchedule, hleft]
    split <;> rfl

theorem action_of_ttl_eq_none (h : j.spec.runPolicy.ttlSecondsAfterFinished = none)
    (pods : List ObservedPod) (t : Transition) :
    (j.finishedSchedule ctx ns pods services t now).action = .await := by
  have hnever : ttlRemaining? t.status none now = none := by simp [ttlRemaining?]
  rw [finishedSchedule_action, h, hnever]

/-- A job that finishes now is completed now, unless it tells of an earlier time. -/
theorem completionTime_nextStatus {observed : List ObservedPod} (hunfinished : j.isFinished = false)
    (hends : (j.nextStatus observed now).isFinished = true) :
    (j.nextStatus observed now).status.completionTime =
      (j.status.getD {}).completionTime.or (some (Timestamp.write now)) := by
  have hverdict : (j.verdict observed now).ends = true :=
    (isFinished_nextStatus hunfinished).symm.trans hends
  rw [nextStatus_of_unfinished hunfinished]
  cases hv : j.verdict observed now with
  | podFailed _ => rfl
  | backoffLimitExceeded => rfl
  | deadlineExceeded => rfl
  | succeeded => rfl
  | restarting _ => rw [hv] at hverdict; cases hverdict
  | running => rw [hv] at hverdict; cases hverdict
  | waiting => rw [hv] at hverdict; cases hverdict

/-- The reconcile finds a job that is neither being deleted nor refused and lists these pods of it,
the operator has an API to report through, and no call that is made fails. -/
structure Undisturbed (b : Backend σ) (ctx : OperatorContext) (j : Job) (start : σ) (now : Instant)
    (ns : String) (pods : List Pod) : Prop where
  alive : j.metadata.deletionTimestamp = none
  inNamespace : j.namespace? = some ns
  accepted : j.refusal? = none
  served : ctx.servedVersion.check = .ok ()
  listed : b.listPods start ns j.childSelector = .ok pods
  succeeds : ∃ last, b.Makes start (j.reconcile b ctx start now).calls last

theorem Undisturbed.calls_eq (h : Undisturbed b ctx j start now ns pods) :
    ∃ services, (j.reconcile b ctx start now).calls = j.plannedCalls ctx ns pods services now ∧
      (j.reconcile b ctx start now).result = .ok (j.plannedAction ctx ns pods services now) := by
  obtain ⟨services, hservices⟩ : ∃ services, ∀ found,
      b.listServiceNames start ns j.childSelector = .ok found → found = services := by
    cases b.listServiceNames start ns j.childSelector with
    | ok services => exact ⟨services, fun found hfound => (Except.ok.inj hfound).symm⟩
    | error e => exact ⟨Dict.empty, nofun⟩
  obtain ⟨last, hmakes⟩ := h.succeeds
  have hcut : Cut b start (j.plannedCalls ctx ns pods services now)
      (j.plannedAction ctx ns pods services now) (j.reconcile b ctx start now) :=
    cut_reconcile h.inNamespace h.served h.alive
      (fun found hfound => Except.ok.inj (hfound.symm.trans h.listed)) hservices
  exact ⟨services, hcut.of_makes hmakes⟩

/-- What is done about a finished job whose completion time was written from a clock. -/
theorem Undisturbed.deleteJob_iff (h : Undisturbed b ctx j start now ns pods)
    (hends : (j.nextStatus (pods.filterMap ObservedPod.ofPod?) now).isFinished = true)
    {ttl : Int32} (httl : j.spec.runPolicy.ttlSecondsAfterFinished = some ttl)
    (hc : c.Recordable) (hnow : now.isLeap = false)
    (hcompleted : (j.nextStatus (pods.filterMap ObservedPod.ofPod?) now).status.completionTime =
      some (Timestamp.write c)) :
    (.deleteJob ns j.name ∈ (j.reconcile b ctx start now).calls ↔
        c.due ttl.toInt ≤ now.clock) ∧
      (j.reconcile b ctx start now).result = .ok (if c.due ttl.toInt ≤ now.clock then .await
        else .requeue ⟨(c.due ttl.toInt - now.clock).toNat⟩) := by
  obtain ⟨services, hcalls, hresult⟩ := h.calls_eq
  have hremaining := ttlRemaining?_eq hc hnow hcompleted ttl
  have hzero : (⟨(c.due ttl.toInt - now.clock).toNat⟩ : Span).isZero = true ↔
      c.due ttl.toInt ≤ now.clock := by
    rw [Span.isZero_iff, Span.zero, Span.mk.injEq]
    omega
  constructor
  · rw [hcalls, plannedCalls_of_finishes h.accepted hends, deleteJob_mem_iff, expiry, httl,
      hremaining, Option.any_some, ← hzero]
    split
    next hover => simp [hover]
    next hover => simp [hover]
  · rw [hresult]
    simp only [plannedAction, h.accepted, schedule_of_finishes hends, finishedSchedule_action, httl,
      hremaining]
    by_cases hover : c.due ttl.toInt ≤ now.clock
    · rw [if_pos hover, if_pos (hzero.2 hover)]
    · rw [if_neg hover, if_neg (mt hzero.1 hover)]

/-- **A finished job is deleted when its time is over, and not before.** Whatever the cluster lists
and whichever calls fail, a job is deleted only by the last call of its reconcile, when all calls
before have succeeded, it is finished, it has a time to be kept for, and the end of that time, as the
completion time tells it, is not ahead. Conversely, when nothing disturbs the reconcile and the
completion time was written from a clock, which is the present for a job that finishes now, the job
is deleted just if its time is over, and after that changes are awaited; else the reconcile asks to
be repeated when it will be over. Without such a time a job is not deleted, and is looked at again
after a delay only as long as it is unfinished. A job that is being deleted already or has no
namespace gets no call at all; one that is refused is reported, and its time is left to the next
reconcile. -/
theorem expiry_exact (b : Backend σ) (ctx : OperatorContext) (j : Job) (start : σ)
    (hnow : now.isLeap = false) :
    let r := j.reconcile b ctx start now
    let next (pods : List Pod) := j.nextStatus (pods.filterMap ObservedPod.ofPod?) now
    let ttl? := j.spec.runPolicy.ttlSecondsAfterFinished
    (∀ ns n, .deleteJob ns n ∈ r.calls →
      (j.namespace? = some ns ∧ n = j.name) ∧
      (∃ front middle, r.calls = front ++ [.deleteJob ns n] ∧ b.Makes start front middle) ∧
      ∃ pods, b.listPods start ns j.childSelector = .ok pods ∧ (next pods).isFinished = true ∧
        ∃ ttl ∈ ttl?, ∃ text ∈ (next pods).status.completionTime,
          ∃ completed ∈ Timestamp.read? text, ∃ expiry ∈ completed.later? ttl.toInt,
            expiry ≤ now) ∧
    (∀ ns pods ttl c, Undisturbed b ctx j start now ns pods →
      (next pods).isFinished = true → ttl? = some ttl → c.Recordable →
      (next pods).status.completionTime = some (Timestamp.write c) →
      (.deleteJob ns j.name ∈ r.calls ↔ c.due ttl.toInt ≤ now.clock) ∧
      r.result = .ok (if c.due ttl.toInt ≤ now.clock then .await
        else .requeue ⟨(c.due ttl.toInt - now.clock).toNat⟩)) ∧
    (∀ pods, j.isFinished = false → (j.status.getD {}).completionTime = none →
      (next pods).isFinished = true →
      (next pods).status.completionTime = some (Timestamp.write now)) ∧
    (ttl? = none → (∀ ns n, .deleteJob ns n ∉ r.calls) ∧
      ∀ d, r.result = .ok (.requeue d) → ∃ ns pods,
        b.listPods start ns j.childSelector = .ok pods ∧ (next pods).isFinished = false) ∧
    (j.metadata.deletionTimestamp.isSome = true → r.calls = [] ∧ r.result = .ok .await) ∧
    (j.metadata.deletionTimestamp = none → j.namespace? = none →
      r.calls = [] ∧ r.result = .error .missingNamespace) ∧
    (∀ why, j.refusal? = some why → (∀ ns n, .deleteJob ns n ∉ r.calls) ∧
      ∀ a, r.result = .ok a → a = .await) := by
  intro r next ttl?
  have hsafe : ∀ ns n, .deleteJob ns n ∈ r.calls → ∃ ttl, ttl? = some ttl := by
    intro ns n h
    obtain ⟨-, pods, -, -, -, ⟨-, hzero⟩, -⟩ := made_of_deleteJob h
    obtain ⟨ttl, httl, -⟩ := isZero_ttlRemaining?_iff.1 hzero
    exact ⟨ttl, httl⟩
  refine ⟨fun ns n h => ?_, fun ns pods ttl c hcalm hends httl hc hcompleted => ?_,
    fun pods hunfinished hfirst hends => ?_, fun httl => ⟨fun ns n h => ?_, fun d hd => ?_⟩,
    fun hdeleted => ?_, fun halive hns => ?_, fun why hwhy => ⟨fun ns n h => ?_, fun a ha => ?_⟩⟩
  · obtain ⟨hname, pods, hns, -, hpods, ⟨hends, hzero⟩, hmade⟩ := made_of_deleteJob h
    obtain ⟨ttl, httl, text, htext, completed, hread, expiry, hexpiry, hover⟩ :=
      isZero_ttlRemaining?_iff.1 hzero
    exact ⟨⟨hns, hname⟩, hmade, pods, hpods, hends, ttl, httl, text, htext, completed, hread,
      expiry, hexpiry, Instant.le_of_since_nonpos hnow hover⟩
  · exact hcalm.deleteJob_iff hends httl hc hnow hcompleted
  · rw [completionTime_nextStatus hunfinished hends, hfirst]
    rfl
  · obtain ⟨ttl, hsome⟩ := hsafe ns n h
    rw [httl] at hsome
    cases hsome
  · rcases result_reconcile hd with
      ⟨-, hawait⟩ | ⟨-, ns, -, ⟨-, -, hawait⟩ | ⟨-, pods, services, hpods, -, hrequeue⟩⟩
    · cases hawait
    · cases hawait
    refine ⟨ns, pods, hpods, Bool.eq_false_iff.2 fun hends => ?_⟩
    rw [schedule_of_finishes hends, action_of_ttl_eq_none httl] at hrequeue
    cases hrequeue
  · have hleft : r = ⟨[], start, .ok .await⟩ := if_pos hdeleted
    rw [hleft]
    exact ⟨rfl, rfl⟩
  · have hleft : r = ⟨[], start, .error .missingNamespace⟩ := by
      simp only [r, reconcile, halive, hns, Option.isSome_none, Bool.false_eq_true, if_false]
    rw [hleft]
    exact ⟨rfl, rfl⟩
  · obtain ⟨-, -, -, hok, -⟩ := made_of_deleteJob h
    rw [hwhy] at hok
    cases hok
  · rcases result_reconcile ha with ⟨-, hawait⟩ | ⟨-, ns, -, ⟨-, -, hawait⟩ | ⟨hok, -⟩⟩
    · exact hawait
    · exact hawait
    · rw [hwhy] at hok
      cases hok

/-- A job that was completed at this time and is kept for 100 seconds. -/
def completedAt (c : Instant) : Job where
  metadata := { name := some "mnist", namespace_ := some "ml" }
  spec := { runPolicy := { ttlSecondsAfterFinished := some 100 } }
  status := some { succeededStatus with completionTime := some (Timestamp.write c) }

theorem undisturbed_completedAt (c now : Instant) :
    Undisturbed (.unfailing [] (NameSet.ofNames [])) Cluster.plainContext (completedAt c) () now
      "ml" [] where
  alive := rfl
  inNamespace := rfl
  accepted := rfl
  served := if_pos (by decide)
  listed := rfl
  succeeds := ⟨(), Backend.makes_unfailing _ _ _⟩

/-- It is deleted after 100 seconds, and half a second before that it waits as long. -/
theorem expiry_exact_completedAt :
    let b := Backend.unfailing [] (NameSet.ofNames [])
    let ctx := Cluster.plainContext
    let c := Instant.ofSeconds 1714557600
    let early : Instant := ⟨1714557699, 500000000, by decide⟩
    let due := Instant.ofSeconds 1714557700
    (Undisturbed b ctx (completedAt c) () early "ml" [] ∧ early.isLeap = false ∧
      Undisturbed b ctx (completedAt c) () due "ml" [] ∧ due.isLeap = false ∧ c.Recordable) ∧
    ((completedAt c).reconcile b ctx () early).result = .ok (.requeue ⟨500000000⟩) ∧
    .deleteJob "ml" "mnist" ∈ ((completedAt c).reconcile b ctx () due).calls ∧
    ((completedAt c).reconcile b ctx () due).result = .ok .await := by
  intro b ctx c early due
  have hearly : Undisturbed b ctx (completedAt c) () early "ml" [] := undisturbed_completedAt c early
  have hdue : Undisturbed b ctx (completedAt c) () due "ml" [] := undisturbed_completedAt c due
  have hc : c.Recordable := ⟨by decide, by decide⟩
  have hclock : early.isLeap = false := by decide
  have hclock' : due.isLeap = false := by decide
  obtain ⟨-, hexact, -⟩ := expiry_exact b ctx (completedAt c) () hclock
  obtain ⟨-, hexact', -⟩ := expiry_exact b ctx (completedAt c) () hclock'
  have hwaits := (hexact "ml" [] 100 c hearly (by decide) rfl hc rfl).2
  obtain ⟨hdeleted, hawaits⟩ := hexact' "ml" [] 100 c hdue (by decide) rfl hc rfl
  refine ⟨⟨hearly, hclock, hdue, hclock', hc⟩, ?_, hdeleted.2 (by decide), ?_⟩
  · have hleft : (c.due (100 : Int32).toInt - early.clock).toNat = 500000000 := by decide
    rw [hwaits, if_neg (by decide), hleft]
  · rw [hawaits, if_pos (by decide)]

/-- Three jobs that are left for later: one whose time is over is not deleted when that has been asked
for already, or when it has no namespace; and one that is refused, and so has failed now, is not
looked at again when its time will be over. -/
theorem not_expiry_exact_gated :
    let b := Backend.unfailing [] (NameSet.ofNames [])
    let ctx := Cluster.plainContext
    let c := Instant.ofSeconds 1714557600
    let now := Instant.ofSeconds 1714557800
    let deleted : Job := { completedAt c with
      metadata := { (completedAt c).metadata with deletionTimestamp := some c } }
    let unplaced : Job := { completedAt c with metadata := { name := some "mnist" } }
    let refused : Job := { completedAt c with status := none }
    (deleted.isFinished = true ∧ c.due 100 ≤ now.clock ∧
      .deleteJob "ml" "mnist" ∉ (deleted.reconcile b ctx () now).calls) ∧
    (unplaced.isFinished = true ∧ (unplaced.reconcile b ctx () now).calls = []) ∧
    ((refused.decision [] now).isFinished = true ∧
      (refused.decision [] now).status.completionTime = some (Timestamp.write now) ∧
      (refused.reconcile b ctx () now).calls.map Call.label = ["patch_status"] ∧
      (refused.reconcile b ctx () now).result ≠ .ok (.requeue (Span.ofSeconds 100))) := by
  decide

end Job

end TrainingJobs
