import TrainingJobs.Operator.Cluster
import TrainingJobs.Proofs.Dict

/-!
# What calls make of a cluster

`Cluster.failing` is the cluster in memory whose calls fail in any way whatever. A schedule run on
it makes the first of its calls (`run_failing`), all of them if none fails (`run_append`). Calls
without deletions only add children, calls without creations only take some away; the lemmas say
which.
-/

namespace TrainingJobs

namespace Cluster

/-- Calls on the cluster, of which some fail. -/
def failing (fails : Call → Option ApiError) : Backend Cluster where
  listPods c ns selector :=
    match fails (.listPods ns selector) with
    | some e => .error e
    | none => .ok c.pods.values
  listServiceNames c ns selector :=
    match fails (.listServiceNames ns selector) with
    | some e => .error e
    | none => .ok c.services
  perform c call :=
    match fails call with
    | some e => .error e
    | none => .ok (c.after call)

theorem listPods_failing {fails : Call → Option ApiError} {c : Cluster} {ns selector : String}
    {pods : List Pod} (h : (failing fails).listPods c ns selector = .ok pods) :
    pods = c.pods.values := by
  simp only [failing] at h
  split at h
  · cases h
  · exact (Except.ok.inj h).symm

theorem listServiceNames_failing {fails : Call → Option ApiError} {c : Cluster}
    {ns selector : String} {services : NameSet}
    (h : (failing fails).listServiceNames c ns selector = .ok services) :
    services = c.services := by
  simp only [failing] at h
  split at h
  · cases h
  · exact (Except.ok.inj h).symm

/-- Reconcile the job of a cluster some of whose calls fail. -/
def visit (fails : Call → Option ApiError) (ctx : OperatorContext) (c : Cluster) (now : Instant) :
    Reconciled Cluster :=
  c.job.reconcile (failing fails) ctx c now

def afterAll (c : Cluster) (calls : List Call) : Cluster := calls.foldl after c

@[simp] theorem afterAll_nil (c : Cluster) : c.afterAll [] = c := rfl

@[simp] theorem afterAll_cons (c : Cluster) (call : Call) (calls : List Call) :
    c.afterAll (call :: calls) = (c.after call).afterAll calls := rfl

theorem afterAll_eq_self {c : Cluster} {calls : List Call}
    (h : ∀ call ∈ calls, c.after call = c) : c.afterAll calls = c := by
  induction calls with
  | nil => rfl
  | cons call more ih =>
    rw [afterAll_cons, h call List.mem_cons_self]
    exact ih fun d hd => h d (List.mem_cons_of_mem call hd)

/-- Only a report changes the job, and only its status. -/
theorem job_after (c : Cluster) (call : Call) :
    (c.after call).job = c.job ∨
      ∃ ns name s, call = .patchStatus ns name s ∧
        (c.after call).job = { c.job with status := some s } := by
  cases call with
  | patchStatus ns name s => exact .inr ⟨ns, name, s, rfl, rfl⟩
  | createPod ns pod =>
    refine .inl ?_
    simp only [after]
    split <;> rfl
  | _ => exact .inl rfl

/-- After some calls the job is as it was or carries a status that one of them reports. -/
theorem job_afterAll_cases (c : Cluster) (calls : List Call) :
    (c.afterAll calls).job = c.job ∨
      ∃ ns name s, Call.patchStatus ns name s ∈ calls ∧
        (c.afterAll calls).job = { c.job with status := some s } := by
  induction calls generalizing c with
  | nil => exact .inl rfl
  | cons call more ih =>
    rw [afterAll_cons]
    rcases ih (c.after call) with hmore | ⟨ns, name, s, hs, hmore⟩
    · rcases job_after c call with hjob | ⟨ns, name, s, rfl, hjob⟩
      · exact .inl (hmore.trans hjob)
      · exact .inr ⟨ns, name, s, List.mem_cons_self, hmore.trans hjob⟩
    · refine .inr ⟨ns, name, s, List.mem_cons_of_mem call hs, hmore.trans ?_⟩
      rcases job_after c call with hjob | ⟨ns', name', s', -, hjob⟩
      · rw [hjob]
      · rw [hjob]

theorem job_afterAll {c : Cluster} {calls : List Call}
    (h : ∀ call ∈ calls, ∀ ns name s, call ≠ .patchStatus ns name s) :
    (c.afterAll calls).job = c.job := by
  rcases job_afterAll_cases c calls with hjob | ⟨ns, name, s, hs, -⟩
  · exact hjob
  · exact absurd rfl (h _ hs ns name s)

theorem afterAll_append (c : Cluster) (calls calls' : List Call) :
    c.afterAll (calls ++ calls') = (c.afterAll calls).afterAll calls' :=
  List.foldl_append

end Cluster

/-! ## Running a schedule -/

namespace Schedule

variable {fails : Call → Option ApiError} {c : Cluster} {action : Action}

/-- Whatever fails, the state that is left is that after the first calls of the schedule, which were
made; if none of the steps failed, after all of them. -/
theorem run_failing (fails : Call → Option ApiError) (c : Cluster) (action : Action)
    (steps : List (Except OperatorError Call)) :
    ∃ done : List Call, done.map .ok <+: steps ∧
      done <+: (run (Cluster.failing fails) c action steps).calls ∧
      (run (Cluster.failing fails) c action steps).state = c.afterAll done ∧
      (∀ a, (run (Cluster.failing fails) c action steps).result = .ok a →
        done.map .ok = steps) := by
  induction steps generalizing c with
  | nil => exact ⟨[], List.nil_prefix, List.nil_prefix, rfl, fun _ _ => rfl⟩
  | cons step rest ih =>
    cases step with
    | error e => exact ⟨[], List.nil_prefix, List.nil_prefix, rfl, fun a ha => by cases ha⟩
    | ok call =>
      cases hfails : fails call with
      | some e =>
        have hrun : run (Cluster.failing fails) c action (.ok call :: rest) =
            ⟨[call], c, .error (.api e)⟩ := by
          simp only [run, Cluster.failing, hfails]
        rw [hrun]
        exact ⟨[], List.nil_prefix, List.nil_prefix, rfl, fun a ha => by cases ha⟩
      | none =>
        obtain ⟨done, hdone, hcalls, hstate, hok⟩ := ih (c.after call)
        have hrun : run (Cluster.failing fails) c action (.ok call :: rest) =
            let r := run (Cluster.failing fails) (c.after call) action rest
            ⟨call :: r.calls, r.state, r.result⟩ := by
          simp only [run, Cluster.failing, hfails]
        rw [hrun]
        refine ⟨call :: done, (List.prefix_cons_inj _).2 hdone, (List.prefix_cons_inj _).2 hcalls,
          hstate, fun a ha => ?_⟩
        rw [List.map_cons, hok a ha]

theorem run_failing_calls (fails : Call → Option ApiError) (c : Cluster) (action : Action)
    (calls : List Call) :
    ∃ done : List Call, done <+: calls ∧
      (run (Cluster.failing fails) c action (calls.map .ok)).state = c.afterAll done ∧
      (∀ a, (run (Cluster.failing fails) c action (calls.map .ok)).result = .ok a →
        done = calls) := by
  have hinj : ∀ {l l' : List Call},
      l.map (Except.ok : Call → Except OperatorError Call) = l'.map .ok → l = l' :=
    fun h => List.map_inj_right (fun _ _ hab => Except.ok.inj hab) |>.1 h
  obtain ⟨done, ⟨rest, hrest⟩, -, hstate, hok⟩ := run_failing fails c action (calls.map .ok)
  obtain ⟨first, last, rfl, hfirst, -⟩ := List.map_eq_append_iff.1 hrest.symm
  refine ⟨done, ⟨last, ?_⟩, hstate, fun a ha => hinj (hok a ha)⟩
  rw [hinj hfirst]

theorem run_append {calls : List Call} (h : ∀ call ∈ calls, fails call = none)
    (rest : List (Except OperatorError Call)) :
    run (Cluster.failing fails) c action (calls.map .ok ++ rest) =
      let r := run (Cluster.failing fails) (c.afterAll calls) action rest
      ⟨calls ++ r.calls, r.state, r.result⟩ := by
  induction calls generalizing c with
  | nil => rfl
  | cons call more ih =>
    have hcall : fails call = none := h call List.mem_cons_self
    have hmore := @ih (c.after call) fun d hd => h d (List.mem_cons_of_mem call hd)
    rw [List.map_cons, List.cons_append]
    simp only [run]
    have hperform : (Cluster.failing fails).perform c call = .ok (c.after call) := by
      simp only [Cluster.failing, hcall]
    rw [hperform]
    simp only [hmore]
    rfl

theorem run_all {calls : List Call} (h : ∀ call ∈ calls, fails call = none) :
    run (Cluster.failing fails) c action (calls.map .ok) =
      ⟨calls, c.afterAll calls, .ok action⟩ := by
  rw [← List.append_nil (calls.map _), run_append h]
  simp [run]

end Schedule

/-- Whatever fails, a visit leaves what some of the calls that it made have left. -/
theorem Cluster.state_visit (fails : Call → Option ApiError) (ctx : OperatorContext) (c : Cluster)
    (now : Instant) :
    ∃ done ⊆ (c.visit fails ctx now).calls, (c.visit fails ctx now).state = c.afterAll done := by
  have hnothing : ∃ done ⊆ ([] : List Call), c = c.afterAll done := ⟨[], List.Subset.refl _, rfl⟩
  unfold visit Job.reconcile
  split
  · exact hnothing
  split
  · exact hnothing
  next ns _ =>
  split
  next why _ =>
    obtain ⟨done, -, hcalls, hstate, -⟩ := Schedule.run_failing fails c .await
      (c.job.reportSteps ctx ns (c.job.rejected why now))
    exact ⟨done, hcalls.subset, hstate⟩
  dsimp only
  split
  · exact ⟨[], List.nil_subset _, rfl⟩
  next pods _ =>
  split
  · exact ⟨[], List.nil_subset _, rfl⟩
  next services _ =>
  obtain ⟨done, -, hcalls, hstate, -⟩ := Schedule.run_failing fails c
    (c.job.schedule ctx ns pods services now).action
    (c.job.schedule ctx ns pods services now).steps
  refine ⟨done, fun call hcall => ?_, hstate⟩
  exact List.mem_cons_of_mem _ (List.mem_cons_of_mem _ (hcalls.subset hcall))

/-! ## Children that come and go -/

namespace Call

def removes : Call → Bool
  | deletePod .. | deleteService .. => true
  | listPods .. | listServiceNames .. | createPod .. | createService .. | applyPodGroup ..
  | deletePodGroup .. | patchStatus .. | deleteJob .. => false

def adds : Call → Bool
  | createPod .. | createService .. => true
  | listPods .. | listServiceNames .. | deletePod .. | deleteService .. | applyPodGroup ..
  | deletePodGroup .. | patchStatus .. | deleteJob .. => false

/-- The pod that the call creates, if its name is `n`. -/
def newPod? (n : String) : Call → Option Pod
  | createPod _ pod => if pod.metadata.displayName = n then some (Cluster.fresh pod) else none
  | _ => none

def addsService (n : String) : Call → Bool
  | createService _ service => service.metadata.displayName = n
  | _ => false

def removesPod (n : String) : Call → Bool
  | deletePod _ name => name = n
  | _ => false

def removesService (n : String) : Call → Bool
  | deleteService _ name => name = n
  | _ => false

theorem removesPod_of_removes_eq_false {call : Call} (h : call.removes = false) (n : String) :
    call.removesPod n = false := by
  cases call with
  | deletePod ns name => cases h
  | _ => rfl

theorem removesService_of_removes_eq_false {call : Call} (h : call.removes = false) (n : String) :
    call.removesService n = false := by
  cases call with
  | deleteService ns name => cases h
  | _ => rfl

end Call

namespace Cluster

variable {c : Cluster} {calls : List Call}

/-- Without deletions the pods there are stay, and those that are missing come. -/
theorem get?_pods_of_adding (h : ∀ call ∈ calls, call.removes = false) (n : String) :
    (c.afterAll calls).pods.get? n = (c.pods.get? n).or (calls.findSome? (·.newPod? n)) := by
  induction calls generalizing c with
  | nil => simp
  | cons call more ih =>
    have hcall : call.removes = false := h call List.mem_cons_self
    rw [afterAll_cons, ih fun d hd => h d (List.mem_cons_of_mem call hd), List.findSome?_cons]
    cases call with
    | createPod ns pod =>
      simp only [after, Call.newPod?]
      by_cases hn : pod.metadata.displayName = n
      · subst hn
        cases hget : c.pods.get? pod.metadata.displayName with
        | none => simp [Dict.contains_eq_false_iff.2 hget]
        | some p =>
          have hmem : c.pods.contains pod.metadata.displayName = true := by
            rw [Dict.contains_iff, Dict.mem_keys_iff]
            exact ⟨p, hget⟩
          simp [hmem, hget]
      · have hkeep : (if c.pods.contains pod.metadata.displayName = true then c
            else { c with pods := c.pods.insert pod.metadata.displayName (fresh pod) }).pods.get? n =
            c.pods.get? n := by
          split
          · rfl
          · exact Dict.get?_insert_of_ne _ _ (Ne.symm hn)
        rw [hkeep]
        simp [hn]
    | deletePod ns name => cases hcall
    | deleteService ns name => cases hcall
    | _ => rfl

theorem entries_pods_of_removing (h : ∀ call ∈ calls, call.adds = false) :
    (c.afterAll calls).pods.entries =
      c.pods.entries.filter fun e => !calls.any (·.removesPod e.1) := by
  induction calls generalizing c with
  | nil => exact (List.filter_eq_self.2 fun _ _ => rfl).symm
  | cons call more ih =>
    have hcall : call.adds = false := h call List.mem_cons_self
    rw [afterAll_cons, ih fun d hd => h d (List.mem_cons_of_mem call hd)]
    cases call with
    | deletePod ns name =>
      simp only [after, Dict.erase, List.filter_filter, List.any_cons, Call.removesPod]
      refine List.filter_congr fun e _ => ?_
      by_cases hn : name = e.1
      · simp [hn]
      · simp [hn, Ne.symm hn]
    | createPod ns pod => cases hcall
    | createService ns service => cases hcall
    | _ => rfl

theorem get?_pods_of_removing (h : ∀ call ∈ calls, call.adds = false) (n : String) :
    (c.afterAll calls).pods.get? n =
      if calls.any (·.removesPod n) then none else c.pods.get? n := by
  refine Option.ext fun p => ?_
  rw [← Dict.mem_entries_iff, entries_pods_of_removing h, List.mem_filter, Dict.mem_entries_iff]
  by_cases hn : calls.any (·.removesPod n) = true
  · simp [hn]
  · simp [hn]

theorem mem_services_of_adding (h : ∀ call ∈ calls, call.removes = false) (n : String) :
    n ∈ (c.afterAll calls).services.keys ↔
      n ∈ c.services.keys ∨ calls.any (·.addsService n) = true := by
  induction calls generalizing c with
  | nil => simp
  | cons call more ih =>
    have hcall : call.removes = false := h call List.mem_cons_self
    rw [afterAll_cons, ih fun d hd => h d (List.mem_cons_of_mem call hd), List.any_cons]
    cases call with
    | createService ns service =>
      simp only [after, NameSet.add, Dict.mem_keys_iff, Dict.get?_insert, Call.addsService]
      by_cases hn : service.metadata.displayName = n
      · simp [hn]
      · simp [hn, Ne.symm hn]
    | createPod ns pod =>
      have hkeep : (c.after (.createPod ns pod)).services = c.services := by
        simp only [after]
        split <;> rfl
      rw [hkeep]
      rfl
    | deletePod ns name => cases hcall
    | deleteService ns name => cases hcall
    | _ => rfl

theorem mem_services_of_removing (h : ∀ call ∈ calls, call.adds = false) (n : String) :
    n ∈ (c.afterAll calls).services.keys ↔
      n ∈ c.services.keys ∧ calls.any (·.removesService n) = false := by
  induction calls generalizing c with
  | nil => simp
  | cons call more ih =>
    have hcall : call.adds = false := h call List.mem_cons_self
    rw [afterAll_cons, ih fun d hd => h d (List.mem_cons_of_mem call hd), List.any_cons]
    cases call with
    | deleteService ns name =>
      simp only [after, Dict.mem_keys_iff, Dict.get?_erase, Call.removesService]
      by_cases hn : name = n
      · simp [hn]
      · simp [hn, Ne.symm hn]
    | createPod ns pod => cases hcall
    | createService ns service => cases hcall
    | _ => rfl

end Cluster

end TrainingJobs
