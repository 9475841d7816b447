import TrainingJobs.Proofs.Replica.Selection

/-!
# Which pods a service selects

A service selects by all the labels of its replica, and a built pod carries those of its own, over
whatever its template and its scheduler put there. The labels tell the job, the type but for the
case of its letters, and the index, so the service of a replica selects the pod of that replica and
no other (`Replica.service_selects_own_pod`).
-/

namespace TrainingJobs

open Text

/-- Every label that the service selects by is on the pod. -/
def Service.Selects (service : Service) (pod : Pod) : Prop :=
  ∃ selector labels, service.spec.bind (·.selector) = some selector ∧
    pod.metadata.labels = some labels ∧
    ∀ key value, selector.get? key = some value → labels.get? key = some value

namespace Replica

variable {j j' : Job} {ns type type' : String} {e e' : String × ReplicaSpec} {i i' : Int32}
  {scheduler : GangScheduler} {pod : Pod}

/-- **A service selects the pod of its own replica and no other.** Of two jobs in one namespace,
be they the same, take a declared type each in any letters, and any two indexes. Whatever the
templates say and whichever scheduler the pods are for, the service of the first replica selects
the pod of the second just if the jobs have the same name and the replicas are the same; and then
service and pod have one name and one namespace. -/
theorem service_selects_own_pod (hns : j.namespace? = some ns) (hns' : j'.namespace? = some ns)
    (he : j.spec.replica? type = some e) (he' : j'.spec.replica? type' = some e') (i i' : Int32)
    (scheduler : GangScheduler) :
    ∃ service pod, Replica.service j type i = .ok service ∧
      Replica.pod j' type' i' scheduler = .ok pod ∧
      (service.Selects pod ↔ j.name = j'.name ∧ sameLetters type type' = true ∧ i = i') ∧
      (service.Selects pod →
        service.metadata.name = some (replicaName j.name type i) ∧
        pod.metadata.name = service.metadata.name ∧
        service.metadata.namespace_ = some ns ∧ pod.metadata.namespace_ = some ns) := by
  obtain ⟨service, hservice, hmeta, hselector⟩ := exists_service hns he i
  obtain ⟨pod, hpod⟩ := exists_pod hns' he' i' scheduler
  obtain ⟨hname', hnamespace', -, labels, hlabels, hcarries⟩ := carries_of_pod hns' hpod
  have hiff : service.Selects pod ↔
      j.name = j'.name ∧ sameLetters type type' = true ∧ i = i' := by
    constructor
    · rintro ⟨selector, carried, hsome, hsome', hall⟩
      obtain rfl := Option.some.inj (hselector.symm.trans hsome)
      obtain rfl := Option.some.inj (hlabels.symm.trans hsome')
      -- a label that both replicas have is the same
      have hsame : ∀ {key value value'}, (replicaLabels j.name type i).get? key = some value →
          (replicaLabels j'.name type' i').get? key = some value' → value = value' := by
        intro key value value' hkey hkey'
        have hboth := (hall key value hkey).symm.trans (hcarries key value' hkey')
        exact Option.some.inj hboth
      exact ⟨hsame (get?_replicaLabels_job ..) (get?_replicaLabels_job ..),
        sameLetters_iff.2 (hsame (get?_replicaLabels_type ..) (get?_replicaLabels_type ..)),
        showInt32_inj (hsame (get?_replicaLabels_index ..) (get?_replicaLabels_index ..))⟩
    · rintro ⟨hjob, hsame, rfl⟩
      refine ⟨_, labels, hselector, hlabels, fun key value hkey => hcarries key value ?_⟩
      rwa [← hjob, ← replicaLabels_congr (sameLetters_iff.1 hsame)]
  refine ⟨service, pod, hservice, hpod, hiff, fun hselects => ?_⟩
  obtain ⟨hjob, hsame, rfl⟩ := hiff.1 hselects
  rw [hmeta]
  refine ⟨rfl, ?_, rfl, hnamespace'⟩
  rw [hname', ← hjob, ← replicaName_congr (sameLetters_iff.1 hsame)]
  rfl

/-- Replicas whose template claims to be those of a job `mnist`, and no master. -/
def claimingReplicas : ReplicaSpec where
  template := {
    metadata := some {
      labels := some (Dict.ofList [(Label.jobName, "mnist"), (Label.jobRole, "worker")]) } }

/-- A job of this name that has one of them, as its launcher. -/
def launcherJob (name : String) : Job where
  metadata := { name := some name, namespace_ := some "ml" }
  spec := { replicaSpecs := Dict.ofList [("Launcher", claimingReplicas)] }

/-- The service of `mnist` selects its own launcher, but not that of a job that claims to be
`mnist`. -/
theorem service_selects_own_pod_launcher :
    (∃ service pod, Replica.service (launcherJob "mnist") "Launcher" 0 = .ok service ∧
      Replica.pod (launcherJob "mnist") "LAUNCHER" 0 .schedulerPlugins = .ok pod ∧
      service.Selects pod ∧ pod.metadata.name = some "mnist-launcher-0") ∧
    ∃ service pod, Replica.service (launcherJob "mnist") "Launcher" 0 = .ok service ∧
      Replica.pod (launcherJob "cifar") "Launcher" 0 .volcano = .ok pod ∧
      ¬ service.Selects pod := by
  have hdeclared : (launcherJob "mnist").spec.replica? "Launcher" =
    some ("Launcher", claimingReplicas) := by decide
  have hcapitals : (launcherJob "mnist").spec.replica? "LAUNCHER" =
    some ("Launcher", claimingReplicas) := by decide
  have hother : (launcherJob "cifar").spec.replica? "Launcher" =
    some ("Launcher", claimingReplicas) := by decide
  constructor
  · obtain ⟨service, pod, hservice, hpod, hiff, hsame⟩ :=
      service_selects_own_pod rfl rfl hdeclared hcapitals 0 0 .schedulerPlugins
    have hselects : service.Selects pod := hiff.2 ⟨rfl, by decide, rfl⟩
    obtain ⟨hname, hname', -⟩ := hsame hselects
    exact ⟨service, pod, hservice, hpod, hselects, hname'.trans hname⟩
  · obtain ⟨service, pod, hservice, hpod, hiff, -⟩ :=
      service_selects_own_pod rfl rfl hdeclared hother 0 0 .volcano
    refine ⟨service, pod, hservice, hpod, fun hselects => ?_⟩
    have hnames : (launcherJob "mnist").name = (launcherJob "cifar").name := (hiff.1 hselects).1
    exact absurd hnames (by decide)

end Replica

end TrainingJobs
