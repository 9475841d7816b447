import TrainingJobs.Json.Pointer
import TrainingJobs.Main
import TrainingJobs.Operator.Arguments
import TrainingJobs.Operator.Cluster
import TrainingJobs.Operator.Requests
import TrainingJobs.Proofs.Reconcile.Calls
import TrainingJobs.Proofs.Reconcile.Terminal
import TrainingJobs.Proofs.Conditions
import TrainingJobs.Proofs.Dict
import TrainingJobs.Proofs.Lifecycle.Pods
import TrainingJobs.Proofs.Lifecycle.Verdict
import TrainingJobs.Proofs.Lifecycle.Reference
import TrainingJobs.Proofs.Lifecycle.Agreement
import TrainingJobs.Proofs.Names
import TrainingJobs.Proofs.Replica.Built
import TrainingJobs.Proofs.Reconcile.Effects
import TrainingJobs.Proofs.Lifecycle.Steady
import TrainingJobs.Proofs.Reconcile.Visit
import TrainingJobs.Proofs.Reconcile.Convergence
import TrainingJobs.Proofs.Reconcile.Quiescence
import TrainingJobs.Proofs.Lifecycle.FewerPods
import TrainingJobs.Proofs.Reconcile.Interruption
import TrainingJobs.Proofs.Lifecycle.History
import TrainingJobs.Proofs.Reconcile.Order
import TrainingJobs.Proofs.Reconcile.Accounting
import TrainingJobs.Json.Merge
import TrainingJobs.Proofs.Json.Merge
import TrainingJobs.Proofs.StoredStatus
import TrainingJobs.Proofs.Reconcile.Storage
import TrainingJobs.Proofs.Time.Calendar
import TrainingJobs.Proofs.Time.Timestamp
import TrainingJobs.Proofs.Time.Clock
import TrainingJobs.Proofs.Lifecycle.Failure
import TrainingJobs.Proofs.Lifecycle.Backoff
import TrainingJobs.Proofs.Reconcile.Deadline
import TrainingJobs.Proofs.Reconcile.Expiry
import TrainingJobs.Proofs.Selectors
import TrainingJobs.Proofs.Reconcile.Belongings
import TrainingJobs.Proofs.Checks
import TrainingJobs.Proofs.ServedVersion
import TrainingJobs.Proofs.Replica.Identity
import TrainingJobs.Proofs.Reconcile.StaleReads
import TrainingJobs.Proofs.Reconcile.Tasks
import TrainingJobs.Proofs.Reconcile.SharedCluster
import TrainingJobs.Proofs.Reconcile.Isolation
import TrainingJobs.Proofs.WireForm
import TrainingJobs.Proofs.Replica.Selection
import TrainingJobs.Proofs.Json.Schema
import TrainingJobs.Proofs.PublishedSchema
import TrainingJobs.Proofs.Reconcile.Influence
import TrainingJobs.Proofs.ChildPlan
import TrainingJobs.Proofs.Replica.Template
import TrainingJobs.Proofs.Lists
import TrainingJobs.Proofs.Replica.Ranks
import TrainingJobs.Proofs.Replica.Services
import TrainingJobs.Proofs.Replica.Observed
import TrainingJobs.Proofs.AcceptedSpecs
import TrainingJobs.Proofs.Replica.Counting
import TrainingJobs.Proofs.Reconcile.Gang
import TrainingJobs.Proofs.GroupVersions
import TrainingJobs.Proofs.Waiting
import TrainingJobs.Proofs.Reconcile.Tidying
import TrainingJobs.Proofs.ConditionTimes
