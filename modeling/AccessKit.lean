import AccessKit.Core.OrderedMap
import AccessKit.Core.Search
import AccessKit.L1Domain.Js
import AccessKit.L1Domain.Stringify
import AccessKit.L2Graph.Store
import AccessKit.L3Policy.Validate
import AccessKit.L4Engine.Guard
import AccessKit.L4Engine.Visibility
import AccessKit.L4Engine.Paths
import AccessKit.L4Engine.Caveats
import AccessKit.L4Engine.Engine
import AccessKit.L4Engine.Reachability
import AccessKit.L2Graph.Fixtures
import AccessKit.L4Engine.Agreement
import AccessKit.L2Graph.Writes
import AccessKit.L4Engine.Tenant
import AccessKit.Core.Budget
import AccessKit.L4Engine.SmallGraphs
import AccessKit.L3Policy.Valid
import AccessKit.L4Engine.Scene
import AccessKit.L4Engine.Shadow
import AccessKit.L5Runtime.Playground
import AccessKit.Bugs.ClassificationConstraints
import AccessKit.Bugs.PlaygroundModel
import AccessKit.Bugs.CaveatSpelling
import AccessKit.Bugs.WriteOrder
import AccessKit.Core.ReadThrough
import AccessKit.Core.Text
import AccessKit.L4Engine.ScopeCache
import AccessKit.Bugs.ScopeKey
import AccessKit.Bugs.RepeatedDeletion
import AccessKit.Bugs.LaterMaintenance
import AccessKit.Bugs.ActionNames
import AccessKit.Core.ReadBack
import AccessKit.L1Domain.Canonical
import AccessKit.Core.HashChain
import AccessKit.L2Audit.Chain
import AccessKit.L2Audit.Texts
import AccessKit.L2Audit.Fixtures
import AccessKit.Core.Regex
import AccessKit.L1Domain.SecretMaterial
import AccessKit.L1Domain.Clone
import AccessKit.L2Audit.Secrets
import AccessKit.L2Audit.Records
import AccessKit.L2Audit.ReferenceRecords
import AccessKit.L2Audit.ReferenceStore
import AccessKit.L2Audit.ReferenceOperations
import AccessKit.Bugs.UnlinkedRecords
import AccessKit.L2Audit.ReferenceRuns
import AccessKit.Bugs.LateEvents
import AccessKit.L2Audit.SiemReplays
import AccessKit.Bugs.ReplayedReplays
import AccessKit.L5Runtime.AuditLog
import AccessKit.L5Runtime.AuditLogRuns
import AccessKit.L5Runtime.Authentication
import AccessKit.Bugs.RejectedEvents
import AccessKit.L5Runtime.Recovery
import AccessKit.L5Runtime.Restart
import AccessKit.L3Policy.Json
import AccessKit.L5Runtime.Policies
import AccessKit.Bugs.RecreatedPolicies
import AccessKit.L5Runtime.Enforcement
import AccessKit.L5Runtime.Plans
import AccessKit.L5Runtime.Jobs
import AccessKit.L5Runtime.ProvisioningRuns
import AccessKit.Bugs.ReusedPlanIds
import AccessKit.L5Runtime.MockConnector
import AccessKit.Bugs.RepeatedApply
import AccessKit.Core.Interleave
import AccessKit.L5Runtime.Interleaving
import AccessKit.Bugs.EmptyApprover
import AccessKit.Bugs.OverlappingCalls
import AccessKit.L5Runtime.KeptRecords
import AccessKit.Bugs.UncomparedFields
import AccessKit.Core.Replica
import AccessKit.L2Graph.Records
import AccessKit.L2Graph.Repositories
import AccessKit.L5Runtime.GraphRuntime
import AccessKit.Bugs.RemovedGrants
import AccessKit.Core.Reading
import AccessKit.L5Runtime.ProviderReads
import AccessKit.L5Runtime.AwsConnector
import AccessKit.L5Runtime.EntraConnector
import AccessKit.Bugs.DroppedReads
import AccessKit.L5Runtime.JobRecords
import AccessKit.Core.Keyed
import AccessKit.L1Domain.IsoDate
import AccessKit.L6Queue.Envelopes
import AccessKit.L6Queue.QueueRecords
import AccessKit.L6Queue.JobSnapshots
import AccessKit.L6Queue.JobQueue
import AccessKit.L6Queue.QueueSteps
import AccessKit.L6Queue.QueueInvariant
import AccessKit.L6Queue.QueueStore
import AccessKit.Bugs.ExhaustedJobs
import AccessKit.Bugs.StaleReports
import AccessKit.L6Queue.StoreEntries
import AccessKit.L6Queue.Commits
import AccessKit.L6Queue.SharedQueue
import AccessKit.Bugs.LostUpdates
import AccessKit.L6Queue.Drain
import AccessKit.Bugs.UnknownPlans
import AccessKit.Core.PromiseChain
import AccessKit.Core.Table
import AccessKit.L7Persistence.AuditStore
import AccessKit.L7Persistence.SnapshotStore
import AccessKit.L7Persistence.WriteQueues
import AccessKit.L8Drift.Findings
import AccessKit.Bugs.FrozenLifecycle
import AccessKit.L8Drift.Governance
import AccessKit.L8Drift.GovernanceRuns
import AccessKit.Bugs.CollidingIds
import AccessKit.L8Drift.GovernanceClosure
import AccessKit.Bugs.RevivedExceptions
import AccessKit.Bugs.ForgottenDecisions
import AccessKit.Bugs.GuessedTargets
import AccessKit.Bugs.FailedSuccesses
import AccessKit.Bugs.UnrecordedChanges
import AccessKit.Bugs.SpelledTimes
import AccessKit.Core.Snapshots
import AccessKit.L7Persistence.SnapshotFormats
import AccessKit.L7Persistence.LocalRepositories
import AccessKit.L7Persistence.ReferenceAdapters
import AccessKit.L7Persistence.EvidenceFiles
import AccessKit.Bugs.VisibleFailures
import AccessKit.Bugs.SharedFiles
import AccessKit.L4Engine.CaveatValidity
import AccessKit.L4Engine.ContextBounds
import AccessKit.Bugs.UncheckedBounds
import AccessKit.Core.Changelog
import AccessKit.L5Runtime.CollectionReads
import AccessKit.L5Runtime.DeltaSync
import AccessKit.Bugs.StaleSnapshots
import AccessKit.Core.Backups
import AccessKit.L7Persistence.ReferenceBackups
import AccessKit.Bugs.ReusedBackupIds
import AccessKit.Core.WriteBack
import AccessKit.L7Persistence.SharedAdapters
import AccessKit.Bugs.StaleWriters
import AccessKit.L7Persistence.CleanGraphs
import AccessKit.Bugs.MisplacedEnds
import AccessKit.L1Domain.Unknown
import AccessKit.L4Engine.DecisionCache
import AccessKit.L4Engine.CacheSoundness
import AccessKit.Bugs.SharedKeys
import AccessKit.Bugs.SilentWrites
import AccessKit.L2Audit.EvidencePackages
import AccessKit.L2Audit.EvidenceIntegrity
import AccessKit.L2Audit.EvidenceVerified
import AccessKit.L2Audit.EvidenceTexts
import AccessKit.L2Audit.EvidenceSigning
import AccessKit.L2Audit.EvidenceDrafts
import AccessKit.L2Audit.EvidenceFinalized
import AccessKit.L2Audit.EvidenceJson
import AccessKit.L2Audit.EvidenceTrust
import AccessKit.Bugs.ProtoKeys
import AccessKit.L1Domain.SameValues
import AccessKit.L2Audit.EvidenceReadBack
import AccessKit.L7Persistence.FinalizedFiles
import AccessKit.L2Audit.EvidenceKeys
import AccessKit.L9Evidence.Catalog
import AccessKit.L9Evidence.Sections
import AccessKit.L9Evidence.Export
import AccessKit.L9Evidence.Drafts
import AccessKit.L9Evidence.Exports
import AccessKit.L9Evidence.LocalExports
