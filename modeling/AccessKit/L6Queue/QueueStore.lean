import AccessKit.Core.OrderedMap
import AccessKit.L6Queue.QueueSteps

/-!
# The store of the queue, with its backups

What packages/core/src/reference-job-queue.ts:739-769 does with a whole record: write it
again, back it up and restore it. These three do not compare what is stored with what they
read, as a commit does.

Results:
* `perform_backupMetadata`: a call of the queue leaves the list of the backups.
* `performOn_invariant`: what holds of the queue, and of the queues of the backups, after a
  call.
-/
namespace AccessKit.L6
open AccessKit.Core AccessKit.L1 AccessKit.L2.Audit
open AccessKit.L5 (RebacJobSnapshot)

/-- mirrors packages/core/src/reference-repositories.ts:132-134 -/
structure QueueStore where
  current : Option ReferenceJobQueueStoreRecord
  backups : OrderedMap CanonicalId ReferenceJobQueueStoreRecord

/-- Nothing is stored. -/
def emptyStore : QueueStore where
  current := none
  backups := .empty

/-- A call on the store: a write of the queue, or of the whole record. -/
inductive StoreCall
  | call (call : QueueCall)
  | flush (storedAt : Option IsoDateTime)
  | createBackup (id : CanonicalId) (createdAt : Option IsoDateTime)
  | restoreBackup (id : CanonicalId) (restoredAt : Option IsoDateTime)

/-- mirrors packages/core/src/repository-envelopes.ts:83-96 -/
def countJobEntities (jobs : RebacJobSnapshot) : List (String × Nat) :=
  [("discoveryRuns", (collected jobs .discoveryRuns).length),
    ("enforcementReadinessReports", jobs.enforcementReadinessReports.length),
    ("provisioningPlans", jobs.provisioningPlans.length),
    ("provisioningJobs", jobs.provisioningJobs.length),
    ("driftFindings", (collected jobs .driftFindings).length),
    ("accessReviewCampaigns", (collected jobs .accessReviewCampaigns).length),
    ("governanceFindings", (collected jobs .governanceFindings).length),
    ("exceptionRequests", (collected jobs .exceptionRequests).length),
    ("reconciliationRuns", (collected jobs .reconciliationRuns).length),
    ("decisions", (collected jobs .decisions).length)]

/-- mirrors packages/core/src/reference-job-queue.ts:1147-1155 -/
def countQueueEntities (content : QueueContent) : List (String × Nat) :=
  let queue := content.queue
  countJobEntities content.jobs ++
    [("queuedJobs", queue.queuedJobs.length),
      ("deadLetteredJobs", (queue.queuedJobs.filter fun job => job.status = .deadLettered).length),
      ("connectorHealth", queue.connectorHealth.length),
      ("idempotencyRecords", queue.idempotencyRecords.length)]

namespace ReferenceJobQueueAdapter

section
variable (adapter : ReferenceJobQueueAdapter)

/-- mirrors packages/core/src/reference-job-snapshot-store.ts:145-158 and
reference-job-queue.ts:746-753 -/
def createBackupMetadata (id : CanonicalId) (createdAt : IsoDateTime) (content : QueueContent) :
    ReferenceRepositoryBackupMetadata where
  id
  component := "job"
  createdAt
  location := adapter.location ++ "#backup:" ++ id
  snapshotHash := hashReference adapter.host
    (.obj [("jobs", jobsToJs content.jobs), ("queue", content.queue.toJs)])
  tenantBoundary := adapter.tenantBoundary
  entityCounts := countQueueEntities content
  version := "production-repository-backup:v1"

/-- The record of a backup, which names the backup.
mirrors packages/core/src/reference-job-queue.ts:746-754 -/
def backupRecord (id : CanonicalId) (createdAt : IsoDateTime) (content : QueueContent) :
    Except String ReferenceJobQueueStoreRecord :=
  let metadata := adapter.createBackupMetadata id createdAt content
  adapter.createRecord createdAt
    { content with backupMetadata := content.backupMetadata ++ [metadata] }

/-- The store after a call, whether it throws or not.
mirrors packages/core/src/reference-job-queue.ts:739-769 -/
def performOn (now : IsoDateTime) (call : StoreCall) (store : QueueStore) : QueueStore :=
  match call with
  | .call call => { store with current := adapter.perform now call store.current }
  | .flush storedAt =>
    match adapter.createRecord (storedAt.getD now) (contentOf store.current) with
    | .error _ => store
    | .ok record => { store with current := some record }
  | .createBackup id createdAt =>
    match adapter.backupRecord id (createdAt.getD now) (contentOf store.current) with
    | .error _ => store
    | .ok record => { current := some record, backups := store.backups.set id record }
  | .restoreBackup id restoredAt =>
    match store.backups.get? id with
    | none => store
    | some backup =>
      match adapter.createRecord (restoredAt.getD now) backup.toQueueContent with
      | .error _ => store
      | .ok record => { store with current := some record }

end

variable {adapter : ReferenceJobQueueAdapter}

theorem commit_backupMetadata {α : Type} {storedAt : IsoDateTime} {mutate : Mutation α}
    {current : Option ReferenceJobQueueStoreRecord}
    (hmutate : ∀ content result, mutate (contentOf current) = .ok (content, result) →
      content.backupMetadata = (contentOf current).backupMetadata) :
    (contentOf (adapter.commitSnapshot storedAt mutate current).1).backupMetadata =
      (contentOf current).backupMetadata := by
  rcases commitSnapshot_cases adapter storedAt mutate current with
    ⟨message, hcommit⟩ | ⟨content, result, hok, -, hcommit⟩
  · rw [hcommit]
  · rw [hcommit]
    exact hmutate content result hok

variable (adapter) in
/-- **A call of the queue** leaves the list of the backups. -/
theorem perform_backupMetadata (now : IsoDateTime) (call : QueueCall)
    (current : Option ReferenceJobQueueStoreRecord) :
    (contentOf (adapter.perform now call current)).backupMetadata =
      (contentOf current).backupMetadata := by
  cases call with
  | enqueue call =>
    rw [perform_enqueue]
    unfold enqueue
    split
    · rfl
    · refine commit_backupMetadata fun content result hmutate => ?_
      rcases enqueueNormalizedJob_ok hmutate with ⟨existing, -, -, -, rfl⟩ | ⟨-, -, rfl⟩
      · rfl
      · rfl
  | reserveNextJob request =>
    refine commit_backupMetadata fun content result hmutate => ?_
    rcases reserveNextJob_ok hmutate with ⟨-, rfl⟩ | ⟨job, leaseExpiresAt, -, -, -, rfl⟩
    · rfl
    · rfl
  | completeJob jobId request =>
    refine commit_backupMetadata fun content result hmutate => ?_
    obtain ⟨job, -, -, -, -, -, rfl⟩ := completeJob_ok.1 hmutate
    rfl
  | recordJobFailure jobId request =>
    refine commit_backupMetadata fun content result hmutate => ?_
    obtain ⟨job, -, -, -, -, rfl⟩ := recordJobFailure_ok hmutate
    rfl
  | setConnectorHealth health =>
    unfold perform
    dsimp only
    split
    · rfl
    · refine commit_backupMetadata fun content result hmutate => ?_
      cases hmutate
      rfl
  | record r =>
    unfold perform
    dsimp only
    split
    · rfl
    · refine commit_backupMetadata fun content result hmutate => ?_
      obtain ⟨-, rfl⟩ := recordJobRecord_ok hmutate
      rfl

/-- What holds of the queue that is stored, and of those that can be restored. -/
structure StoreHolds (P : ReferenceJobQueueSnapshot → Prop) (store : QueueStore) : Prop where
  current : P (contentOf store.current).queue
  backups : ∀ id backup, store.backups.get? id = some backup → P backup.queue

/-- **A call on the store** keeps what its write of the queue keeps. -/
theorem performOn_invariant {P : ReferenceJobQueueSnapshot → Prop} {now : IsoDateTime}
    {call : StoreCall} {store : QueueStore} (h : StoreHolds P store)
    (hcall : ∀ c, call = .call c → P (contentOf (adapter.perform now c store.current)).queue) :
    StoreHolds P (adapter.performOn now call store) := by
  cases call with
  | call call => exact ⟨hcall call rfl, h.backups⟩
  | flush storedAt =>
    unfold performOn
    dsimp only
    split
    · exact h
    · next record hrecord =>
      obtain ⟨-, rfl⟩ := createRecord_ok.1 hrecord
      exact ⟨h.current, h.backups⟩
  | createBackup id createdAt =>
    unfold performOn
    dsimp only
    split
    · exact h
    · next record hrecord =>
      obtain ⟨-, rfl⟩ := createRecord_ok.1 hrecord
      refine ⟨h.current, fun id' backup hbackup => ?_⟩
      rw [OrderedMap.get?_set] at hbackup
      split at hbackup
      · cases hbackup
        exact h.current
      · exact h.backups id' backup hbackup
  | restoreBackup id restoredAt =>
    unfold performOn
    dsimp only
    split
    · exact h
    · next backup hbackup =>
      split
      · exact h
      · next record hrecord =>
        obtain ⟨-, rfl⟩ := createRecord_ok.1 hrecord
        exact ⟨h.backups id backup hbackup, h.backups⟩

end ReferenceJobQueueAdapter

end AccessKit.L6
