import TrainingJobs.Proofs.Reconcile.SharedCluster

/-!
# Jobs that leave each other alone

A job finds its children by their labels, but makes them by their names, and the name of a child
that is there already is not made again. So jobs of one namespace leave each other alone as long as
no declared replica of the one has the name of a declared replica of the other (`World.isolated`).
The proof compares a cluster with the cluster in which the other jobs do nothing: a `Standpoint`
says what is looked at, `AlikeWorlds` what stays the same, and each event preserves it.
-/

namespace TrainingJobs

/-- A job among others that are reconciled in the same cluster. -/
structure Standpoint where
  me : String
  /-- The names of the declared replicas of the job. -/
  declared : String → Prop
  others : String → Prop
  plain : Selector.Plain me
  plainOthers : ∀ job, others job → Selector.Plain job
  distinct : ∀ job, others job → job ≠ me

namespace Standpoint

theorem not_belongsTo_me {p : Standpoint} {m : ObjectMeta} {job : String} (hjob : p.others job)
    (h : m.BelongsTo job) : ¬ m.BelongsTo p.me :=
  fun hme => p.distinct job hjob (Option.some.inj (h.symm.trans hme))

section Objects

variable {α : Type} {metadata : α → ObjectMeta} {p : Standpoint} {o o' : Objects metadata}
  {n m : String} {x : α} {f : Option α → Option α}

/-! ## Objects of one kind -/

/-- What there is, with the other jobs and without them: the same is labelled for the job, the
names of its declared replicas stand for the same, and none of these stands for what belongs to
another job. -/
structure Alike (p : Standpoint) (o o' : Objects metadata) : Prop where
  labelled : o.labelled p.me = o'.labelled p.me
  declared : ∀ n, p.declared n → o.get? n = o'.get? n
  free : ∀ n x, p.declared n → o.get? n = some x →
    ∀ job, p.others job → ¬ (metadata x).BelongsTo job

/-- The name is not one of the job's declared replicas, nor does it stand for what is labelled for
the job. -/
def Foreign (p : Standpoint) (o : Objects metadata) (n : String) : Prop :=
  ¬ p.declared n ∧ (o.labelled p.me).get? n = none

/-- What is seen of an object under the label of the job. -/
def view (p : Standpoint) (metadata : α → ObjectMeta) (x : Option α) : Option α :=
  x.filter fun x => (metadata x).BelongsTo p.me

theorem get?_labelled_alter
    {hf : ∀ x, f (o.get? n) = some x → (metadata x).displayName = n} (m : String) :
    ((o.alter n f hf).labelled p.me).get? m =
      if m = n then p.view metadata (f (o.get? n)) else (o.labelled p.me).get? m := by
  rw [Objects.get?_labelled, Objects.get?_alter, Objects.get?_labelled]
  split <;> rfl

theorem Alike.alter (h : p.Alike o o')
    {hf : ∀ x, f (o.get? n) = some x → (metadata x).displayName = n}
    {hf' : ∀ x, f (o'.get? n) = some x → (metadata x).displayName = n}
    (hview : p.view metadata (f (o.get? n)) = p.view metadata (f (o'.get? n)))
    (hfree : p.declared n → ∀ x, f (o.get? n) = some x →
      ∀ job, p.others job → ¬ (metadata x).BelongsTo job) :
    p.Alike (o.alter n f hf) (o'.alter n f hf') where
  labelled := by
    refine Dict.ext_get? fun m => ?_
    rw [get?_labelled_alter, get?_labelled_alter, hview, h.labelled]
  declared m hm := by
    rw [Objects.get?_alter, Objects.get?_alter]
    split
    next heq => rw [h.declared n (heq ▸ hm)]
    next => exact h.declared m hm
  free m x hm hx := by
    rw [Objects.get?_alter] at hx
    split at hx
    next heq => exact hfree (heq ▸ hm) x hx
    next => exact h.free m x hm hx

theorem Alike.alter_left (h : p.Alike o o') (hn : ¬ p.declared n)
    {hf : ∀ x, f (o.get? n) = some x → (metadata x).displayName = n}
    (hview : p.view metadata (f (o.get? n)) = (o.labelled p.me).get? n) :
    p.Alike (o.alter n f hf) o' where
  labelled := by
    rw [← h.labelled]
    refine Dict.ext_get? fun m => ?_
    rw [get?_labelled_alter, hview]
    split
    next heq => rw [heq]
    next => rfl
  declared m hm := by
    have hne : m ≠ n := fun heq => hn (heq ▸ hm)
    rw [Objects.get?_alter, if_neg hne]
    exact h.declared m hm
  free m x hm hx := by
    have hne : m ≠ n := fun heq => hn (heq ▸ hm)
    rw [Objects.get?_alter, if_neg hne] at hx
    exact h.free m x hm hx

theorem Foreign.alter (h : p.Foreign o m)
    {hf : ∀ x, f (o.get? n) = some x → (metadata x).displayName = n}
    (hview : m = n → p.view metadata (f (o.get? n)) = none) : p.Foreign (o.alter n f hf) m := by
  refine ⟨h.1, ?_⟩
  rw [get?_labelled_alter]
  split
  next heq => exact hview heq
  next => exact h.2

/-! ### Creating -/

theorem Alike.create (h : p.Alike o o') (hname : p.declared (metadata x).displayName)
    (hx : (metadata x).BelongsTo p.me) : p.Alike (o.create x) (o'.create x) := by
  refine h.alter (by rw [h.declared _ hname]) fun _ y hy job hjob hbelongs => ?_
  cases hold : o.get? (metadata x).displayName with
  | none =>
    rw [hold] at hy
    cases hy
    exact not_belongsTo_me hjob hbelongs hx
  | some old =>
    rw [hold] at hy
    obtain rfl : old = y := Option.some.inj hy
    exact h.free _ old hname hold job hjob hbelongs

theorem view_or (hx : ¬ (metadata x).BelongsTo p.me) (old : Option α) :
    p.view metadata (old.or (some x)) = p.view metadata old := by
  cases old with
  | none => simp [view, Option.filter, hx]
  | some y => rfl

theorem Alike.create_left (h : p.Alike o o') (hname : ¬ p.declared (metadata x).displayName)
    (hx : ¬ (metadata x).BelongsTo p.me) : p.Alike (o.create x) o' :=
  h.alter_left hname (by rw [view_or hx, Objects.get?_labelled]; rfl)

theorem Foreign.create (h : p.Foreign o m)
    (hx : p.declared (metadata x).displayName ∨ ¬ (metadata x).BelongsTo p.me) :
    p.Foreign (o.create x) m := by
  refine h.alter fun heq => ?_
  rcases hx with hname | hx
  · exact absurd (heq ▸ hname) h.1
  · rw [view_or hx, ← heq]
    exact (Objects.get?_labelled o p.me m).symm.trans h.2

/-! ### Deleting -/

theorem Alike.delete (h : p.Alike o o') (n : String) : p.Alike (o.delete n) (o'.delete n) :=
  h.alter rfl fun _ _ hx => by cases hx

theorem Alike.delete_left (h : p.Alike o o') (hn : p.Foreign o n) : p.Alike (o.delete n) o' :=
  h.alter_left hn.1 hn.2.symm

theorem Foreign.delete (h : p.Foreign o m) (n : String) : p.Foreign (o.delete n) m :=
  h.alter fun _ => rfl

/-! ### Changes -/

theorem view_bind (c : Change metadata) (old : Option α) :
    p.view metadata (old.bind c.apply) = (p.view metadata old).bind c.apply := by
  cases old with
  | none => rfl
  | some x =>
    have hkept : ∀ y, c.apply x = some y →
        ((metadata y).BelongsTo p.me ↔ (metadata x).BelongsTo p.me) := by
      intro y hy
      rw [ObjectMeta.BelongsTo, ObjectMeta.BelongsTo, c.labels x y hy]
    rw [Option.bind_some]
    by_cases hx : (metadata x).BelongsTo p.me
    · have hseen : p.view metadata (some x) = some x := by simp [view, Option.filter, hx]
      rw [hseen, Option.bind_some]
      cases hy : c.apply x with
      | none => rfl
      | some y => simp [view, Option.filter, (hkept y hy).2 hx]
    · have hunseen : p.view metadata (some x) = none := by simp [view, Option.filter, hx]
      rw [hunseen, Option.bind_none]
      cases hy : c.apply x with
      | none => rfl
      | some y => simp [view, Option.filter, mt (hkept y hy).1 hx]

theorem Alike.change (h : p.Alike o o') (n : String) (c : Change metadata) :
    p.Alike (o.change n c) (o'.change n c) := by
  refine h.alter ?_ fun hn y hy job hjob hbelongs => ?_
  · have hseen := congrArg (Dict.get? · n) h.labelled
    simp only [Objects.get?_labelled] at hseen
    rw [view_bind, view_bind]
    exact congrArg (Option.bind · c.apply) hseen
  · obtain ⟨x, hx, hxy⟩ := Option.bind_eq_some_iff.1 hy
    rw [ObjectMeta.BelongsTo, c.labels x y hxy] at hbelongs
    exact h.free n x hn hx job hjob hbelongs

theorem Foreign.change (h : p.Foreign o m) (n : String) (c : Change metadata) :
    p.Foreign (o.change n c) m := by
  refine h.alter fun heq => ?_
  have hnone : p.view metadata (o.get? n) = none := by
    rw [← heq]
    exact (Objects.get?_labelled o p.me m).symm.trans h.2
  rw [view_bind, hnone, Option.bind_none]

end Objects

variable {p : Standpoint} {c c' d : SharedCluster} {call : Call} {job : String}

/-! ## One call -/

/-- The cluster with the other jobs and without them. -/
structure AlikeClusters (p : Standpoint) (c c' : SharedCluster) : Prop where
  pods : p.Alike c.pods c'.pods
  services : p.Alike c.services c'.services
  status : c.statuses.get? p.me = c'.statuses.get? p.me

def own (p : Standpoint) : Domain where
  job := p.me
  declared := p.declared
  pods _ := True
  services _ := True

def foreign (p : Standpoint) (c : SharedCluster) (job : String) : Domain where
  job := job
  declared n := ¬ p.declared n
  pods := p.Foreign c.pods
  services := p.Foreign c.services

theorem AlikeClusters.after (h : p.AlikeClusters c c') (hcall : call.Within p.own) :
    p.AlikeClusters (c.after call) (c'.after call) := by
  obtain ⟨hpods, hservices, hstatus⟩ := h
  cases call with
  | createPod ns x => exact ⟨hpods.create hcall.1 hcall.2, hservices, hstatus⟩
  | createService ns x => exact ⟨hpods, hservices.create hcall.1 hcall.2, hstatus⟩
  | deletePod ns n => exact ⟨hpods.delete n, hservices, hstatus⟩
  | deleteService ns n => exact ⟨hpods, hservices.delete n, hstatus⟩
  | patchStatus ns n s =>
    obtain rfl : n = p.me := hcall
    refine ⟨hpods, hservices, ?_⟩
    simp only [SharedCluster.after, Dict.get?_insert_self, hstatus]
  | _ => exact ⟨hpods, hservices, hstatus⟩

theorem AlikeClusters.after_left (h : p.AlikeClusters c c') (hjob : p.others job)
    (hcall : call.Within (p.foreign c job)) : p.AlikeClusters (c.after call) c' := by
  obtain ⟨hpods, hservices, hstatus⟩ := h
  cases call with
  | createPod ns x =>
    exact ⟨hpods.create_left hcall.1 (not_belongsTo_me hjob hcall.2), hservices, hstatus⟩
  | createService ns x =>
    exact ⟨hpods, hservices.create_left hcall.1 (not_belongsTo_me hjob hcall.2), hstatus⟩
  | deletePod ns n => exact ⟨hpods.delete_left hcall, hservices, hstatus⟩
  | deleteService ns n => exact ⟨hpods, hservices.delete_left hcall, hstatus⟩
  | patchStatus ns n s =>
    obtain rfl : n = job := hcall
    refine ⟨hpods, hservices, ?_⟩
    rw [← hstatus]
    exact Dict.get?_insert_of_ne _ _ (p.distinct n hjob).symm
  | _ => exact ⟨hpods, hservices, hstatus⟩

/-- No call gives the job what is foreign to it. -/
theorem foreign_after
    (hcall : call.Within p.own ∨ ∃ other, p.others other ∧ call.Within (p.foreign c other)) :
    (∀ n, p.Foreign c.pods n → p.Foreign (c.after call).pods n) ∧
      ∀ n, p.Foreign c.services n → p.Foreign (c.after call).services n := by
  cases call with
  | createPod ns x =>
    refine ⟨fun n hn => hn.create ?_, fun n hn => hn⟩
    rcases hcall with hmine | ⟨other, hjob, htheirs⟩
    · exact .inl hmine.1
    · exact .inr (not_belongsTo_me hjob htheirs.2)
  | createService ns x =>
    refine ⟨fun n hn => hn, fun n hn => hn.create ?_⟩
    rcases hcall with hmine | ⟨other, hjob, htheirs⟩
    · exact .inl hmine.1
    · exact .inr (not_belongsTo_me hjob htheirs.2)
  | deletePod ns m => exact ⟨fun n hn => hn.delete m, fun n hn => hn⟩
  | deleteService ns m => exact ⟨fun n hn => hn, fun n hn => hn.delete m⟩
  | _ => exact ⟨fun n hn => hn, fun n hn => hn⟩

theorem foreign_of_mem_selected {α : Type} {metadata : α → ObjectMeta} {o o' : Objects metadata}
    {x : α} (h : p.Alike o o') (hjob : p.others job)
    (hx : x ∈ o.selected (selectorText (jobLabels job))) :
    p.Foreign o (metadata x).displayName := by
  obtain ⟨hget, hbelongs⟩ := Objects.of_mem_selected (p.plainOthers job hjob) hx
  refine ⟨fun hdeclared => h.free _ x hdeclared hget job hjob hbelongs, ?_⟩
  rw [Objects.get?_labelled, hget]
  simp [Option.filter, not_belongsTo_me hjob hbelongs]

/-! ## One step of a task -/

variable {fails : Option ApiError} {t u : Task}

theorem step_cluster (h : t.step (SharedCluster.backend fails) c = some (call, d, u)) :
    d = c ∨ d = c.after call := by
  obtain ⟨ctx, j, now, next⟩ := t
  cases next with
  | listPods ns =>
    obtain ⟨-, rfl, -⟩ := Option.some.inj h
    exact .inl rfl
  | listServices ns pods =>
    obtain ⟨-, rfl, -⟩ := Option.some.inj h
    exact .inl rfl
  | make call' rest action =>
    cases fails with
    | some e =>
      obtain ⟨-, rfl, -⟩ := Option.some.inj h
      exact .inl rfl
    | none =>
      obtain ⟨rfl, rfl, -⟩ := Option.some.inj h
      exact .inr rfl
  | done result => cases h

/-- A step of the job itself is the same with the other jobs and without them. -/
theorem AlikeClusters.step (h : p.AlikeClusters c c') (ht : t.Within p.own)
    (hstep : t.step (SharedCluster.backend fails) c = some (call, d, u)) :
    ∃ d', t.step (SharedCluster.backend fails) c' = some (call, d', u) ∧
      p.AlikeClusters d d' ∧ call.Within p.own ∧ u.Within p.own := by
  obtain ⟨hcall, hu⟩ := ht.step hstep (fun _ _ _ _ _ => trivial) fun _ _ _ _ _ => trivial
  have hselector : t.job.childSelector = selectorText (jobLabels p.me) := by
    rw [Job.childSelector, ht.job]
    rfl
  obtain ⟨ctx, j, now, next⟩ := t
  simp only at hselector
  cases next with
  | listPods ns =>
    obtain ⟨rfl, rfl, rfl⟩ := Option.some.inj hstep
    refine ⟨c', ?_, h, hcall, hu⟩
    simp only [Task.step, SharedCluster.backend, hselector,
      Objects.selected_congr p.plain h.pods.labelled]
  | listServices ns pods =>
    obtain ⟨rfl, rfl, rfl⟩ := Option.some.inj hstep
    refine ⟨c', ?_, h, hcall, hu⟩
    simp only [Task.step, SharedCluster.backend, hselector,
      Objects.selected_congr p.plain h.services.labelled]
  | make call' rest action =>
    cases fails with
    | some e =>
      obtain ⟨rfl, rfl, rfl⟩ := Option.some.inj hstep
      exact ⟨c', rfl, h, hcall, hu⟩
    | none =>
      obtain ⟨rfl, rfl, rfl⟩ := Option.some.inj hstep
      exact ⟨_, rfl, h.after hcall, hcall, hu⟩
  | done result => cases hstep

theorem AlikeClusters.step_left (h : p.AlikeClusters c c') (hjob : p.others job)
    (ht : t.Within (p.foreign c job))
    (hstep : t.step (SharedCluster.backend fails) c = some (call, d, u)) :
    p.AlikeClusters d c' ∧ call.Within (p.foreign c job) ∧ u.Within (p.foreign c job) := by
  have hselector : t.job.childSelector = selectorText (jobLabels job) := by
    rw [Job.childSelector, ht.job]
    rfl
  obtain ⟨hcall, hu⟩ := ht.step hstep
    (fun ns pods hlisted x hx => by
      cases fails with
      | some e => cases hlisted
      | none =>
        obtain rfl := Except.ok.inj hlisted
        rw [hselector] at hx
        exact foreign_of_mem_selected h.pods hjob hx)
    (fun ns services hlisted n hn => by
      cases fails with
      | some e => cases hlisted
      | none =>
        obtain rfl := Except.ok.inj hlisted
        rw [hselector, NameSet.mem_keys_ofNames] at hn
        obtain ⟨x, hx, rfl⟩ := List.mem_map.1 hn
        exact foreign_of_mem_selected h.services hjob hx)
  refine ⟨?_, hcall, hu⟩
  rcases step_cluster hstep with rfl | rfl
  · exact h
  · exact h.after_left hjob hcall

/-! ## One event -/

variable {w w' : World} {ctx : OperatorContext} {m : ObjectMeta} {spec : JobSpec} {now : Instant}

/-- The world with the other jobs and without them. -/
structure AlikeWorlds (p : Standpoint) (w w' : World) : Prop where
  cluster : p.AlikeClusters w.cluster w'.cluster
  task : w.tasks.get? p.me = w'.tasks.get? p.me
  calls : w.callsFor p.me = w'.callsFor p.me
  own : ∀ t, w.tasks.get? p.me = some t → t.Within p.own
  foreign : ∀ job t, job ≠ p.me → w.tasks.get? job = some t →
    p.others job ∧ t.Within (p.foreign w.cluster job)

theorem callsFor_concat (w : World) (c : SharedCluster) (tasks : Dict Task) (job me : String)
    (call : Call) :
    ({ cluster := c, tasks := tasks, calls := w.calls ++ [(job, call)] } : World).callsFor me =
      w.callsFor me ++ if job = me then [call] else [] := by
  by_cases h : job = me <;> simp [World.callsFor, h]

theorem AlikeWorlds.start (h : p.AlikeWorlds w w') (hname : m.displayName = p.me)
    (hdeclared : ∀ n ∈ spec.declaredNames p.me, p.declared n) :
    p.AlikeWorlds (w.after (.start ctx m spec now)) (w'.after (.start ctx m spec now)) where
  cluster := h.cluster
  task := by
    simp only [World.after, Job.name, hname, Dict.get?_insert_self, h.cluster.status]
  calls := h.calls
  own t ht := by
    simp only [World.after, Job.name, hname, Dict.get?_insert_self, Option.some.injEq] at ht
    rw [← ht]
    refine Task.within_start hname fun n hn => hdeclared n ?_
    rwa [Job.name, hname] at hn
  foreign job t hne ht := by
    simp only [World.after, Job.name, hname, Dict.get?_insert_of_ne _ _ hne] at ht
    exact h.foreign job t hne ht

theorem AlikeWorlds.start_left (h : p.AlikeWorlds w w') (hname : p.others m.displayName)
    (hdeclared : ∀ n ∈ spec.declaredNames m.displayName, ¬ p.declared n) :
    p.AlikeWorlds (w.after (.start ctx m spec now)) w' := by
  have hne : p.me ≠ m.displayName := (p.distinct _ hname).symm
  refine ⟨h.cluster, ?_, h.calls, fun t ht => ?_, fun job t hjob ht => ?_⟩
  · rw [← h.task]
    exact Dict.get?_insert_of_ne _ _ hne
  · exact h.own t ((Dict.get?_insert_of_ne _ _ hne).symm.trans ht)
  · simp only [World.after, Job.name, Dict.get?_insert] at ht
    split at ht
    next heq =>
      subst heq
      rw [← Option.some.inj ht]
      exact ⟨hname, Task.within_start rfl hdeclared⟩
    next => exact h.foreign job t hjob ht

/-- A task of another job keeps to what is foreign, whoever makes a call. -/
theorem within_foreign_of_step
    (hcall : call.Within p.own ∨ ∃ other, p.others other ∧ call.Within (p.foreign c other))
    (hd : d = c ∨ d = c.after call) (h : t.Within (p.foreign c job)) :
    t.Within (p.foreign d job) := by
  rcases hd with rfl | rfl
  · exact h
  · obtain ⟨hpods, hservices⟩ := foreign_after hcall
    exact h.mono rfl (fun _ hn => hn) hpods hservices

theorem AlikeWorlds.step (h : p.AlikeWorlds w w') (fails : Option ApiError) :
    p.AlikeWorlds (w.after (.step p.me fails)) (w'.after (.step p.me fails)) := by
  simp only [World.after, ← h.task]
  cases ht : w.tasks.get? p.me with
  | none => exact h
  | some t =>
    rw [Option.bind_some, Option.bind_some]
    cases hstep : t.step (SharedCluster.backend fails) w.cluster with
    | none =>
      rw [Task.step_eq_none hstep]
      exact h
    | some made =>
      obtain ⟨call, d, u⟩ := made
      obtain ⟨d', hstep', hcluster, hcall, hu⟩ := h.cluster.step (h.own t ht) hstep
      rw [hstep']
      refine ⟨hcluster, ?_, ?_, fun v hv => ?_, fun job v hne hv => ?_⟩
      · simp only [Dict.get?_insert_self]
      · rw [callsFor_concat, callsFor_concat, h.calls]
      · simp only [Dict.get?_insert_self, Option.some.injEq] at hv
        exact hv ▸ hu
      · simp only [Dict.get?_insert_of_ne _ _ hne] at hv
        obtain ⟨hjob, hwithin⟩ := h.foreign job v hne hv
        exact ⟨hjob, within_foreign_of_step (.inl hcall) (step_cluster hstep) hwithin⟩

theorem AlikeWorlds.step_left (h : p.AlikeWorlds w w') (hne : job ≠ p.me)
    (fails : Option ApiError) : p.AlikeWorlds (w.after (.step job fails)) w' := by
  simp only [World.after]
  cases ht : w.tasks.get? job with
  | none => exact h
  | some t =>
    rw [Option.bind_some]
    cases hstep : t.step (SharedCluster.backend fails) w.cluster with
    | none => exact h
    | some made =>
      obtain ⟨call, d, u⟩ := made
      obtain ⟨hjob, hwithin⟩ := h.foreign job t hne ht
      obtain ⟨hcluster, hcall, hu⟩ := h.cluster.step_left hjob hwithin hstep
      have hlater : ∀ {job' : String} {v : Task}, v.Within (p.foreign w.cluster job') →
          v.Within (p.foreign d job') :=
        within_foreign_of_step (.inr ⟨job, hjob, hcall⟩) (step_cluster hstep)
      refine ⟨hcluster, ?_, ?_, fun v hv => ?_, fun job' v hne' hv => ?_⟩
      · rw [← h.task]
        exact Dict.get?_insert_of_ne _ _ hne.symm
      · rw [callsFor_concat, if_neg hne, List.append_nil]
        exact h.calls
      · exact h.own v ((Dict.get?_insert_of_ne _ _ hne.symm).symm.trans hv)
      · simp only [Dict.get?_insert] at hv
        split at hv
        next heq =>
          subst heq
          rw [← Option.some.inj hv]
          exact ⟨hjob, hlater hu⟩
        next =>
          obtain ⟨hjob', hv'⟩ := h.foreign job' v hne' hv
          exact ⟨hjob', hlater hv'⟩

theorem AlikeWorlds.pod (h : p.AlikeWorlds w w') (n : String) (change : Change Pod.metadata) :
    p.AlikeWorlds (w.after (.pod n change)) (w'.after (.pod n change)) where
  cluster := ⟨h.cluster.pods.change n change, h.cluster.services, h.cluster.status⟩
  task := h.task
  calls := h.calls
  own := h.own
  foreign job t hne ht := by
    obtain ⟨hjob, hwithin⟩ := h.foreign job t hne ht
    exact ⟨hjob, hwithin.mono rfl (fun _ hm => hm) (fun _ hm => hm.change n change) fun _ hm => hm⟩

theorem AlikeWorlds.service (h : p.AlikeWorlds w w') (n : String)
    (change : Change Service.metadata) :
    p.AlikeWorlds (w.after (.service n change)) (w'.after (.service n change)) where
  cluster := ⟨h.cluster.pods, h.cluster.services.change n change, h.cluster.status⟩
  task := h.task
  calls := h.calls
  own := h.own
  foreign job t hne ht := by
    obtain ⟨hjob, hwithin⟩ := h.foreign job t hne ht
    exact ⟨hjob, hwithin.mono rfl (fun _ hm => hm) (fun _ hm => hm) fun _ hm => hm.change n change⟩

/-! ## All events -/

/-- The specs that are reconciled declare what they may. -/
def Admits (p : Standpoint) : Event → Prop
  | .start _ metadata spec _ =>
    (metadata.displayName = p.me ∧ ∀ n ∈ spec.declaredNames p.me, p.declared n) ∨
      (p.others metadata.displayName ∧
        ∀ n ∈ spec.declaredNames metadata.displayName, ¬ p.declared n)
  | .step .. | .pod .. | .service .. => True

theorem AlikeWorlds.run {events : List Event} (h : p.AlikeWorlds w w')
    (hevents : ∀ e ∈ events, p.Admits e) :
    p.AlikeWorlds (w.run events) (w'.run (events.filter (·.concerns p.me))) := by
  induction events generalizing w w' with
  | nil => exact h
  | cons e rest ih =>
    have hrest : ∀ e ∈ rest, p.Admits e := fun e he => hevents e (List.mem_cons_of_mem _ he)
    cases e with
    | start ctx m spec now =>
      rcases hevents _ List.mem_cons_self with ⟨hname, hdeclared⟩ | ⟨hname, hdeclared⟩
      · have hmine : (Event.start ctx m spec now).concerns p.me = true := beq_iff_eq.2 hname
        rw [List.filter_cons_of_pos hmine]
        exact ih (h.start hname hdeclared) hrest
      · have hother : ¬ (Event.start ctx m spec now).concerns p.me = true :=
          fun hmine => p.distinct _ hname (beq_iff_eq.1 hmine)
        rw [List.filter_cons_of_neg hother]
        exact ih (h.start_left hname hdeclared) hrest
    | step job fails =>
      by_cases hjob : job = p.me
      · have hmine : (Event.step job fails).concerns p.me = true := beq_iff_eq.2 hjob
        rw [List.filter_cons_of_pos hmine]
        subst hjob
        exact ih (h.step fails) hrest
      · have hother : ¬ (Event.step job fails).concerns p.me = true :=
          fun hmine => hjob (beq_iff_eq.1 hmine)
        rw [List.filter_cons_of_neg hother]
        exact ih (h.step_left hjob fails) hrest
    | pod n change => exact ih (h.pod n change) hrest
    | service n change => exact ih (h.service n change) hrest

end Standpoint

namespace Event

/-- The jobs whose reconciles begin. -/
def jobs (events : List Event) : List String :=
  events.filterMap fun
    | .start _ metadata _ _ => some metadata.displayName
    | .step .. | .pod .. | .service .. => none

/-- The names of the replicas that a job declares when its reconciles begin. -/
def declaredNames (events : List Event) (job : String) : List String :=
  events.flatMap fun
    | .start _ metadata spec _ =>
      if metadata.displayName = job then spec.declaredNames job else []
    | .step .. | .pod .. | .service .. => []

variable {events : List Event} {ctx : OperatorContext} {m : ObjectMeta} {spec : JobSpec}
  {now : Instant}

theorem mem_jobs (h : .start ctx m spec now ∈ events) : m.displayName ∈ jobs events :=
  List.mem_filterMap.2 ⟨_, h, rfl⟩

theorem mem_declaredNames (h : .start ctx m spec now ∈ events) {n : String}
    (hn : n ∈ spec.declaredNames m.displayName) : n ∈ declaredNames events m.displayName := by
  refine List.mem_flatMap.2 ⟨_, h, ?_⟩
  simpa using hn

theorem of_mem_declaredNames {job n : String} (h : n ∈ declaredNames events job) :
    ∃ spec : JobSpec, n ∈ spec.declaredNames job := by
  obtain ⟨e, -, he⟩ := List.mem_flatMap.1 h
  cases e with
  | start ctx m spec now =>
    dsimp only at he
    split at he
    · exact ⟨spec, he⟩
    · cases he
  | _ => cases he

/-- Jobs of which neither name begins with the other and a dash have no names of replicas in
common. -/
theorem declaredNames_disjoint {job job' : String} (hne : job ≠ job')
    (h : ¬ (job ++ "-").toList <+: job'.toList) (h' : ¬ (job' ++ "-").toList <+: job.toList) :
    ∀ n ∈ declaredNames events job, n ∉ declaredNames events job' := by
  intro n hn hn'
  obtain ⟨spec, hspec⟩ := of_mem_declaredNames hn
  obtain ⟨spec', hspec'⟩ := of_mem_declaredNames hn'
  obtain ⟨⟨type, i⟩, hr, hname⟩ := JobSpec.mem_declaredNames_iff.1 hspec
  obtain ⟨⟨type', i'⟩, hr', hname'⟩ := JobSpec.mem_declaredNames_iff.1 hspec'
  obtain ⟨-, -, hi, -⟩ := JobSpec.mem_declaredReplicas_iff.1 hr
  obtain ⟨-, -, hi', -⟩ := JobSpec.mem_declaredReplicas_iff.1 hr'
  rcases prefix_of_replicaName_eq hi hi' hne (hname.trans hname'.symm) with hp | hp
  · exact h hp
  · exact h' hp

end Event

namespace World

variable {me : String} {events : List Event} {start : SharedCluster}

/-- **When jobs leave each other alone.** Whatever specs their reconciles begin with, whichever
calls fail and whatever happens to pods and services in between: in every interleaving of the calls
of several jobs in one cluster, a job gets the calls, with the statuses that they report, and has
the pods, the services and the status that it has without the other jobs, if the names of its
declared replicas are not among those of the other jobs and stand for nothing that is labelled for
another job in the beginning. For most names of jobs the names of their replicas never are the same
(`Event.declaredNames_disjoint`). The names of the jobs have no comma and no equals sign in them,
which selectors could not tell from their own. -/
theorem isolated (hplain : ∀ job ∈ me :: Event.jobs events, Selector.Plain job)
    (hnames : ∀ job ∈ Event.jobs events, job ≠ me →
      ∀ n ∈ Event.declaredNames events me, n ∉ Event.declaredNames events job)
    (hfree : ∀ job ∈ Event.jobs events, job ≠ me → ∀ n ∈ Event.declaredNames events me,
      (∀ x ∈ start.pods.get? n, ¬ x.metadata.BelongsTo job) ∧
        ∀ x ∈ start.services.get? n, ¬ x.metadata.BelongsTo job) :
    let shared := ({ cluster := start } : World).run events
    let alone := ({ cluster := start } : World).run (events.filter (·.concerns me))
    shared.callsFor me = alone.callsFor me ∧
      shared.cluster.pods.labelled me = alone.cluster.pods.labelled me ∧
      shared.cluster.services.labelled me = alone.cluster.services.labelled me ∧
      shared.cluster.statuses.get? me = alone.cluster.statuses.get? me := by
  let p : Standpoint := {
    me := me
    declared := (· ∈ Event.declaredNames events me)
    others := fun job => job ∈ Event.jobs events ∧ job ≠ me
    plain := hplain me List.mem_cons_self
    plainOthers := fun job hjob => hplain job (List.mem_cons_of_mem _ hjob.1)
    distinct := fun _ hjob => hjob.2 }
  have hstart : p.AlikeWorlds { cluster := start } { cluster := start } := {
    cluster := {
      pods := ⟨rfl, fun _ _ => rfl, fun n x hn hx job hjob =>
        (hfree job hjob.1 hjob.2 n hn).1 x hx⟩
      services := ⟨rfl, fun _ _ => rfl, fun n x hn hx job hjob =>
        (hfree job hjob.1 hjob.2 n hn).2 x hx⟩
      status := rfl }
    task := rfl
    calls := rfl
    own := fun t ht => by cases ht
    foreign := fun job t _ ht => by cases ht }
  have hevents : ∀ e ∈ events, p.Admits e := by
    intro e he
    cases e with
    | start ctx m spec now =>
      by_cases hme : m.displayName = me
      · refine .inl ⟨hme, fun n hn => ?_⟩
        have hdeclared := Event.mem_declaredNames he (n := n) (by rw [hme]; exact hn)
        rwa [hme] at hdeclared
      · have hjob := Event.mem_jobs he
        exact .inr ⟨⟨hjob, hme⟩, fun n hn hdeclared =>
          hnames _ hjob hme n hdeclared (Event.mem_declaredNames he hn)⟩
    | _ => trivial
  have h := hstart.run hevents
  exact ⟨h.calls, h.cluster.pods.labelled, h.cluster.services.labelled, h.cluster.status⟩

/-- A job with one replica. -/
def oneReplica (type : String) : JobSpec where
  replicaSpecs := Dict.ofList
    [(type, { template := { spec := some { containers := [{ name := "trainer" }] } } })]

/-- The reconcile of such a job begins. -/
def startOf (job type : String) : Event :=
  .start Cluster.plainContext { name := some job, namespace_ := some "ml" } (oneReplica type)
    (Instant.ofSeconds 1714557600)

/-- Two jobs of one namespace are reconciled call by call, the name of one of which begins with the
name of the other and a dash: each has its own pod. -/
theorem isolated_interleaved :
    let events := startOf "a" "worker" :: startOf "a-b" "worker" ::
      (List.replicate 5 [Event.step "a" none, Event.step "a-b" none]).flatten
    let shared := ({ cluster := {} } : World).run events
    let alone := ({ cluster := {} } : World).run (events.filter (·.concerns "a"))
    shared.cluster.pods.labelled "a" = alone.cluster.pods.labelled "a" ∧
      (alone.cluster.pods.labelled "a").keys = ["a-worker-0"] ∧
      shared.cluster.pods.entries.keys = ["a-b-worker-0", "a-worker-0"] ∧
      (alone.callsFor "a").length = 5 := by
  intro events shared alone
  have h := @isolated "a" events {} (by decide) (by decide) (by decide)
  exact ⟨h.2.1, by decide, by decide, by decide⟩

/-- The replicas of two jobs may have one name. The job that is reconciled later gets no pod: its
own is not made, since a pod of that name is there, and that pod it does not find. -/
theorem not_isolated_sameName :
    let reconcileOf (job type : String) : List Event :=
      startOf job type :: List.replicate 5 (.step job none)
    let events := reconcileOf "a-b" "worker" ++ reconcileOf "a" "b-worker" ++
      reconcileOf "a" "b-worker"
    let shared := ({ cluster := {} } : World).run events
    let alone := ({ cluster := {} } : World).run (events.filter (·.concerns "a"))
    let active (w : World) := (w.cluster.statuses.get? "a").map fun s =>
      s.replicaStatuses.entries.map fun e => (e.1, e.2.active)
    (oneReplica "worker").check = .ok () ∧ (oneReplica "b-worker").check = .ok () ∧
      replicaName "a-b" "worker" 0 = replicaName "a" "b-worker" 0 ∧
      (alone.cluster.pods.labelled "a").keys = ["a-b-worker-0"] ∧
      (shared.cluster.pods.labelled "a").keys = [] ∧
      active alone = some [("b-worker", 1)] ∧ active shared = some [("b-worker", 0)] ∧
      shared.cluster.pods.labelled "a" ≠ alone.cluster.pods.labelled "a" ∧
      shared.cluster.statuses.get? "a" ≠ alone.cluster.statuses.get? "a" := by
  intro reconcileOf events shared alone active
  have hmine : (alone.cluster.pods.labelled "a").keys = ["a-b-worker-0"] := by decide +kernel
  have hnone : (shared.cluster.pods.labelled "a").keys = [] := by decide +kernel
  have hactive : active alone = some [("b-worker", 1)] := by decide +kernel
  have hinactive : active shared = some [("b-worker", 0)] := by decide +kernel
  refine ⟨by decide, by decide, by decide, hmine, hnone, hactive, hinactive, fun h => ?_,
    fun h => ?_⟩
  · rw [h, hmine] at hnone
    cases hnone
  · have hsame : active shared = active alone := congrArg (Option.map _) h
    rw [hactive, hinactive] at hsame
    exact absurd hsame (by decide)

end World

end TrainingJobs
