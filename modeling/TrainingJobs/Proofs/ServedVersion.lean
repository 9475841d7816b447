import TrainingJobs.Operator.ServedVersion
import TrainingJobs.Proofs.GroupVersions
import TrainingJobs.Proofs.Reconcile.Calls
import TrainingJobs.Proofs.Reconcile.Order

/-!
# Which entry is trusted

The operator trusts the first entry of its version that is well-formed in itself, wherever that
entry says it belongs. So the trusted entry need not be `jobGroupVersion`: it is that one just if
the group, which checks where its entries belong as well, accepts it
(`GroupVersion.eq_jobGroupVersion_iff`). Every report names the trusted entry.
-/

namespace TrainingJobs

variable {groups : ApiGroupList} {e : GroupVersion}

/-- What is trusted stands in the first group of its name, under its version, and is well-formed. -/
theorem servedJobVersion_eq_ok (h : servedJobVersion groups = .ok e) :
    ∃ g, groups.find? apiGroup = some g ∧ g.name = apiGroup ∧ e ∈ g.versions ∧
      e.version = apiVersion ∧ e.check = .ok () := by
  unfold servedJobVersion at h
  split at h
  next e' hserves =>
    cases h
    obtain ⟨g, hg, hfound⟩ := Option.bind_eq_some_iff.1 hserves
    have hname : g.name = apiGroup := by simpa using List.find?_some hg
    have hentry := List.find?_some hfound
    simp only [Bool.and_eq_true, beq_iff_eq, GroupVersion.isValid_iff] at hentry
    exact ⟨g, hg, hname, List.mem_of_find?_eq_some hfound, hentry⟩
  next => cases h

/-- Of the well-formed entries of its version the group accepts one alone. -/
theorem GroupVersion.eq_jobGroupVersion_iff {g : ApiGroup} (hname : g.name = apiGroup)
    (hversion : e.version = apiVersion) (hcheck : e.check = .ok ()) :
    e = jobGroupVersion ↔ g.checkEntry e = .ok () := by
  rw [ApiGroup.checkEntry_eq_ok_iff, hname]
  constructor
  · rintro rfl
    exact ⟨hcheck, .inr (.inr (by decide))⟩
  · rintro ⟨-, hnone | hempty | hgroup⟩
    · exact absurd hnone (by decide)
    · simp only [isEmpty, hversion, Bool.and_eq_true] at hempty
      exact absurd hempty.2 (by decide)
    · have hsome : e.group ≠ "" := by
        rw [hgroup]
        decide
      have hlast : lastSegment e.groupVersion = apiVersion := by
        rcases check_eq_ok_iff.1 hcheck with hnone | hlast
        · simp [group, hnone, Text.cutLast?] at hsome
        · exact hlast.trans hversion
      have hgroupVersion := (groupVersion_cases e).resolve_left fun hcore => hsome hcore.2
      rw [hgroup, hlast] at hgroupVersion
      obtain ⟨groupVersion, version⟩ := e
      simp only at hgroupVersion hversion
      rw [hgroupVersion, hversion]
      rfl

/-- A report names the entry it was written through. -/
theorem Job.servedVersion_of_mem_calls {σ : Type} {b : Backend σ} {state : σ}
    {ctx : OperatorContext} {j : Job} {now : Instant} {ns name : String} {s : JobStatus}
    (h : .patchStatus ns name s ∈ (j.reconcile b ctx state now).calls) :
    s.servedVersion = some ctx.servedVersion := by
  obtain ⟨-, -, pods, -, rfl⟩ := reported_of_mem_calls h
  rfl

/-- **What a trusted entry is.** Whatever the document says, an entry that the operator trusts
stands in the first group of the name of the job API, under its version, and is well-formed in
itself. It is `jobGroupVersion` if and only if its group accepts it, and a group that passes its
check does. Every report of every reconcile then names that entry, so reports name the job API if
and only if the group accepts the entry. -/
theorem servedJobVersion_trusted (h : servedJobVersion groups = .ok e) :
    ∃ g, groups.find? apiGroup = some g ∧ g.name = apiGroup ∧ e ∈ g.versions ∧
      e.version = apiVersion ∧ e.check = .ok () ∧
      (e = jobGroupVersion ↔ g.checkEntry e = .ok ()) ∧
      (g.check = .ok () → e = jobGroupVersion) ∧
      ∀ {σ : Type} (b : Backend σ) (state : σ) (options : OperatorOptions) (j : Job)
        (now : Instant) (ns name : String) (s : JobStatus),
        .patchStatus ns name s ∈ (j.reconcile b ⟨options, e⟩ state now).calls →
          s.servedVersion = some e ∧
            (s.servedVersion = some jobGroupVersion ↔ g.checkEntry e = .ok ()) := by
  obtain ⟨g, hg, hname, hmem, hversion, hcheck⟩ := servedJobVersion_eq_ok h
  have hiff : e = jobGroupVersion ↔ g.checkEntry e = .ok () :=
    GroupVersion.eq_jobGroupVersion_iff hname hversion hcheck
  refine ⟨g, hg, hname, hmem, hversion, hcheck, hiff,
    fun hok => hiff.2 (ApiGroup.checkEntry_of_check hok hmem), ?_⟩
  intro σ b state options j now ns name s hreport
  have hserved : s.servedVersion = some e := Job.servedVersion_of_mem_calls hreport
  refine ⟨hserved, ?_⟩
  rw [hserved, Option.some.injEq]
  exact hiff

/-- A document in which the group of the job API has these entries. -/
def ApiGroupList.listing (versions : List GroupVersion) : ApiGroupList where
  groups := [{ name := apiGroup, versions := versions }]

/-- A job that is only looked at to see what is reported. -/
def Job.smallest : Job where
  metadata := { name := some "mnist", namespace_ := some "ml" }
  spec := {}

/-- What is reported of it through an entry: it has nothing to run. -/
def Job.smallestReport (e : GroupVersion) (now : Instant) : JobStatus :=
  Job.smallest.reported ⟨{}, e⟩ (Job.smallest.rejected .noReplicaSpecs now)

theorem servedJobVersion_trusted_wellFormed :
    let groups := ApiGroupList.listing [⟨"kubeflow.org/v2", "v1"⟩, jobGroupVersion]
    let b := Backend.unfailing [] (NameSet.ofNames [])
    let now := Instant.ofSeconds 1714557600
    servedJobVersion groups = .ok jobGroupVersion ∧
      .patchStatus "ml" "mnist" (Job.smallestReport jobGroupVersion now) ∈
        (Job.smallest.reconcile b ⟨{}, jobGroupVersion⟩ () now).calls ∧
      (Job.smallestReport jobGroupVersion now).servedVersion = some jobGroupVersion := by
  intro groups b now
  have hserved : servedJobVersion groups = .ok jobGroupVersion := by decide
  have hreport : .patchStatus "ml" "mnist" (Job.smallestReport jobGroupVersion now) ∈
      (Job.smallest.reconcile b ⟨{}, jobGroupVersion⟩ () now).calls := by decide
  obtain ⟨g, -, -, -, -, -, -, -, hnames⟩ := servedJobVersion_trusted hserved
  exact ⟨hserved, hreport, (hnames b () {} Job.smallest now "ml" "mnist" _ hreport).1⟩

/-- An entry of another group stands in front: it is well-formed in itself, so it is trusted though
the group refuses it, and the reports name it. -/
theorem not_trusted_foreign :
    let foreign : GroupVersion := ⟨"apps/v1", "v1"⟩
    let groups := ApiGroupList.listing [foreign, jobGroupVersion]
    let b := Backend.unfailing [] (NameSet.ofNames [])
    let now := Instant.ofSeconds 1714557600
    ApiGroupList.ofDocument? groups.toJson = some groups ∧
      servedJobVersion groups = .ok foreign ∧ foreign ≠ jobGroupVersion ∧
      (∀ g ∈ groups.groups, g.checkEntry foreign = .error (.foreignEntry apiGroup "apps/v1")) ∧
      .patchStatus "ml" "mnist" (Job.smallestReport foreign now) ∈
        (Job.smallest.reconcile b ⟨{}, foreign⟩ () now).calls ∧
      (Job.smallestReport foreign now).servedVersion = some foreign := by
  decide

end TrainingJobs
