import AccessKit.Core.Backups
import AccessKit.L2Audit.ReferenceRuns
import AccessKit.L6Queue.QueueStore
import AccessKit.L7Persistence.EvidenceFiles
import AccessKit.L7Persistence.ReferenceAdapters

/-!
# The backups of the reference adapters

The audit store, the job queue, the graph and the connector state as systems with backups:
packages/core/src/reference-audit-backups.ts, reference-job-queue.ts:744-769 and
reference-repositories.ts:302-328, 640-664. What a call of an adapter leaves is taken from its
own model; the evidence packages of the audit store
(packages/core/src/reference-audit-evidence-retention.ts) are added here.

Results:
* `auditBackups_lawful`, `queueBackups_lawful`, `referenceBackups_lawful`: what the calls do to
  the list of backups and to the backups, and that a backup can be restored.
-/
namespace AccessKit.L7
open AccessKit.Core AccessKit.L1
open AccessKit.L2.Audit

/-! ## The audit store -/

section
variable (H : Host) (adapter : ReferenceAuditEvidenceAdapter)

/-- mirrors packages/core/src/reference-audit-evidence-retention.ts:50-58 -/
def evidenceReceipt (evidence : EvidenceExport) (storedAt : IsoDateTime) :
    EvidenceStorageReceipt where
  exportId := evidence.exportId
  packageHash := evidence.packageHash
  storedAt
  backend := "external"
  location := adapter.location ++ "#evidence:" ++ evidence.exportId
  immutable := true
  version := "evidence-storage-receipt:v1"

/-- mirrors packages/core/src/reference-audit-evidence-retention.ts:59-73 -/
def evidenceRecord (evidence : EvidenceExport) (storedAt : IsoDateTime) :
    ReferenceEvidenceStoreRecord :=
  let receipt := evidenceReceipt adapter evidence storedAt
  let record : ReferenceEvidenceStoreRecord :=
    { version := "production-evidence-package-record:v1"
      tenantBoundary := adapter.tenantBoundary
      exportId := evidence.exportId
      storedAt
      packageHash := evidence.packageHash
      retentionPolicy := adapter.retentionPolicy
      evidence := JsonRecord.set "storageReceipt" receipt.toJs evidence.content
      receipt
      recordHash := "" }
  { record with recordHash := hashRecord H record.fields }

/-- mirrors packages/core/src/reference-audit-evidence-retention.ts:42-76 -/
def retainEvidence (store : ExternalAppendOnlyAuditStore) (evidence : EvidenceExport)
    (storedAt : IsoDateTime) :
    Except String (EvidenceStorageReceipt × ExternalAppendOnlyAuditStore) := do
  assertNoSecretMaterial H (.obj evidence.content) ("Evidence package " ++ evidence.exportId)
  assertNoIntegrityFindings (adapter.evidenceRecordFindings H store.evidenceRecords)
    "Stored production evidence integrity check failed"
  if store.evidenceRecords.any fun record => record.exportId = evidence.exportId then
    throw ("Evidence package " ++ evidence.exportId ++ " has already been retained.")
  return (evidenceReceipt adapter evidence storedAt, { store with
    evidenceRecords := store.evidenceRecords ++ [evidenceRecord H adapter evidence storedAt] })

/-- A call that writes, apart from the backups. -/
inductive AuditCall
  | appendAuditEvent (event : AuditEvent) (storedAt : IsoDateTime)
  | writeEvidenceExport (evidence : EvidenceExport) (storedAt : IsoDateTime)
  | signAuditWindow (request : ReferenceAuditWindowRequest) (now : IsoDateTime)
  | recordSiemDeliveryLogEntry (request : ReferenceSiemDeliveryRequest) (now : IsoDateTime)
  | replaySiemDeliveryLogEntry (request : ReferenceSiemReplayRequest) (now : IsoDateTime)

/-- mirrors packages/core/src/reference-audit.ts:139-177 -/
def auditCall (store : ExternalAppendOnlyAuditStore) :
    AuditCall → Except String ExternalAppendOnlyAuditStore
  | .appendAuditEvent event storedAt =>
    adapter.perform H store storedAt (.appendAuditEvent event storedAt)
  | .writeEvidenceExport evidence storedAt =>
    Prod.snd <$> retainEvidence H adapter store evidence storedAt
  | .signAuditWindow request now => adapter.perform H store now (.signAuditWindow request)
  | .recordSiemDeliveryLogEntry request now =>
    adapter.perform H store now (.recordSiemDeliveryLogEntry request)
  | .replaySiemDeliveryLogEntry request now =>
    adapter.perform H store now (.replaySiemDeliveryLogEntry request)

/-- The records, windows and deliveries. -/
structure AuditContent where
  auditRecords : List ReferenceAuditEventStoreRecord
  evidenceRecords : List ReferenceEvidenceStoreRecord
  signedWindows : List ReferenceSignedAuditWindow
  siemDeliveries : List ReferenceSiemDeliveryRecord

def contentOfAudit (snapshot : AuditSnapshot) : AuditContent where
  auditRecords := snapshot.auditRecords
  evidenceRecords := snapshot.evidenceRecords
  signedWindows := snapshot.signedWindows
  siemDeliveries := snapshot.siemDeliveries

/-- What is backed up, under the list of the backups it comes with. -/
def AuditContent.snapshot (content : AuditContent) : AuditSnapshot :=
  { auditRecords := content.auditRecords, evidenceRecords := content.evidenceRecords
    signedWindows := content.signedWindows, siemDeliveries := content.siemDeliveries
    backupMetadata := [] }

def savedAudit (backup : ReferenceAuditStoreBackup) :
    Backup AuditContent ReferenceRepositoryBackupMetadata where
  content := contentOfAudit backup.toAuditSnapshot
  entries := backup.backupMetadata

/-- The state is the store, and what else a call takes is the clock. -/
def auditBackups : BackupSystem ExternalAppendOnlyAuditStore AuditCall IsoDateTime CanonicalId
    AuditContent ReferenceRepositoryBackupMetadata String where
  content store := contentOfAudit store.toAuditSnapshot
  entries store := store.backupMetadata
  backup store id := (store.backups.get? id).map savedAudit
  call store call := (auditCall H adapter store call).toOption.getD store
  create store id now :=
    match adapter.createBackup H store id now with
    | .error message => (store, .error message)
    | .ok (metadata, store) => (store, .ok metadata)
  restore store id _ :=
    match adapter.restoreBackup H store id with
    | .error message => (store, .error message)
    | .ok store => (store, .ok ())
  entryId := (·.id)
  entryDigest := (·.snapshotHash)
  digest content := hashReference H (.obj content.snapshot.lists)

end

section
variable {H : Host} {adapter : ReferenceAuditEvidenceAdapter}
  {store store' : ExternalAppendOnlyAuditStore}

theorem auditCall_ok {call : AuditCall} (h : auditCall H adapter store call = .ok store') :
    store'.backupMetadata = store.backupMetadata ∧ store'.backups = store.backups := by
  cases call with
  | appendAuditEvent event storedAt =>
    obtain ⟨-, -, -, -, rfl⟩ :=
      ReferenceAuditEvidenceAdapter.appendAuditEvent_ok.1 (snd_ok.1 h)
    exact ⟨rfl, rfl⟩
  | writeEvidenceExport evidence storedAt =>
    obtain ⟨receipt, h⟩ := snd_ok.1 h
    obtain ⟨-, h⟩ := seq_ok.1 h
    obtain ⟨-, h⟩ := seq_ok.1 h
    obtain ⟨-, h⟩ := guard_ok.1 h
    cases h
    exact ⟨rfl, rfl⟩
  | signAuditWindow request now =>
    obtain ⟨-, -, -, rfl⟩ := ReferenceAuditEvidenceAdapter.signAuditWindow_ok.1 (snd_ok.1 h)
    exact ⟨rfl, rfl⟩
  | recordSiemDeliveryLogEntry request now =>
    obtain ⟨-, _, -, -, -, -, rfl⟩ :=
      ReferenceAuditEvidenceAdapter.recordSiemDeliveryLogEntry_ok.1 (snd_ok.1 h)
    exact ⟨rfl, rfl⟩
  | replaySiemDeliveryLogEntry request now =>
    obtain ⟨_, -, -, -, -, -, rfl⟩ :=
      ReferenceAuditEvidenceAdapter.replaySiemDeliveryLogEntry_ok.1 (snd_ok.1 h)
    exact ⟨rfl, rfl⟩

theorem auditBackups_call (call : AuditCall) :
    ((auditBackups H adapter).call store call).backupMetadata = store.backupMetadata ∧
      ((auditBackups H adapter).call store call).backups = store.backups := by
  show ((auditCall H adapter store call).toOption.getD store).backupMetadata = _ ∧
    ((auditCall H adapter store call).toOption.getD store).backups = _
  cases hcall : auditCall H adapter store call with
  | error message => exact ⟨rfl, rfl⟩
  | ok store' => exact auditCall_ok hcall

/-- The backups pass the checks of the adapter. -/
def AuditBackupsValid (H : Host) (adapter : ReferenceAuditEvidenceAdapter)
    (store : ExternalAppendOnlyAuditStore) : Prop :=
  ∀ id backup, store.backups.get? id = some backup → adapter.validateBackup H backup = .ok ()

/-- A backup that was made passes them: the store has passed them before. -/
theorem validateBackup_backupOf {id : CanonicalId} {createdAt : IsoDateTime}
    (h : ReferenceAuditEvidenceAdapter.Valid H adapter store.toAuditSnapshot) :
    adapter.validateBackup H (ReferenceAuditEvidenceAdapter.backupOf H adapter
      store.toAuditSnapshot id createdAt) = .ok () :=
  ReferenceAuditEvidenceAdapter.validateBackup_ok.2
    ⟨rfl, rfl, ⟨h.records, h.evidence, h.windows, h.deliveries⟩⟩

theorem auditBackups_create {id : CanonicalId} {now : IsoDateTime} :
    (∃ message, (auditBackups H adapter).create store id now = (store, .error message)) ∨
    ReferenceAuditEvidenceAdapter.Valid H adapter store.toAuditSnapshot ∧
      (auditBackups H adapter).create store id now =
        ({ store with
           backups := store.backups.set id (ReferenceAuditEvidenceAdapter.backupOf H adapter
             store.toAuditSnapshot id now)
           backupMetadata := store.backupMetadata ++
             [ReferenceAuditEvidenceAdapter.metadataOf H adapter store.toAuditSnapshot id now] },
          .ok <| ReferenceAuditEvidenceAdapter.metadataOf H adapter store.toAuditSnapshot id
            now) := by
  unfold auditBackups
  dsimp only
  cases hcreate : adapter.createBackup H store id now with
  | error message => exact .inl ⟨message, rfl⟩
  | ok created =>
    obtain ⟨metadata, store'⟩ := created
    obtain ⟨hvalid, rfl, rfl⟩ := ReferenceAuditEvidenceAdapter.createBackup_ok.1 hcreate
    exact .inr ⟨hvalid, rfl⟩

theorem auditBackups_restore (h : AuditBackupsValid H adapter store) {id : CanonicalId}
    {now : IsoDateTime} :
    (store.backups.get? id = none ∧
      ∃ message, (auditBackups H adapter).restore store id now = (store, .error message)) ∨
    ∃ backup, store.backups.get? id = some backup ∧
      (auditBackups H adapter).restore store id now =
        ({ store with toAuditSnapshot := backup.toAuditSnapshot }, .ok ()) := by
  unfold auditBackups
  dsimp only
  cases hbackup : store.backups.get? id with
  | none =>
    refine .inl ⟨rfl, "Reference audit backup " ++ id ++ " does not exist.", ?_⟩
    unfold ReferenceAuditEvidenceAdapter.restoreBackup
    rw [hbackup]
    rfl
  | some backup =>
    refine .inr ⟨backup, rfl, ?_⟩
    rw [ReferenceAuditEvidenceAdapter.restoreBackup_ok.2
      ⟨backup, hbackup, h id backup hbackup, rfl⟩]

theorem auditBackups_lawful :
    (auditBackups H adapter).Lawful (AuditBackupsValid H adapter) fun _ => True where
  call_inv call h id backup hbackup := h id backup ((auditBackups_call call).2 ▸ hbackup)
  call_entries call _ := (auditBackups_call call).1
  call_backup call _ := by
    funext id
    exact congrArg (fun backups => (OrderedMap.get? backups id).map savedAudit)
      (auditBackups_call call).2
  create_inv id now h := by
    rcases auditBackups_create with ⟨message, hcreate⟩ | ⟨hvalid, hcreate⟩
    · rw [hcreate]
      exact h
    · rw [hcreate]
      intro id' backup hbackup
      rw [OrderedMap.get?_set] at hbackup
      split at hbackup
      · cases hbackup
        exact validateBackup_backupOf hvalid
      · exact h id' backup hbackup
  created id now h := by
    rcases auditBackups_create with ⟨message, hcreate⟩ | ⟨hvalid, hcreate⟩
    · rw [hcreate]
      exact .inr ⟨⟨message, rfl⟩, rfl, rfl⟩
    · rw [hcreate]
      refine .inl ⟨_, rfl, rfl, rfl, rfl, fun i => ?_⟩
      show ((OrderedMap.set _ _ _).get? i).map _ = _
      rw [OrderedMap.get?_set]
      split <;> rfl
  restore_inv id now h := by
    rcases auditBackups_restore h with ⟨-, message, hrestore⟩ | ⟨backup, -, hrestore⟩
    · rw [hrestore]
      exact h
    · rw [hrestore]
      exact h
  restore_backup id now h := by
    rcases auditBackups_restore h with ⟨-, message, hrestore⟩ | ⟨backup, -, hrestore⟩
    · rw [hrestore]
    · rw [hrestore]
      rfl
  restore_entries id now h := by
    rcases auditBackups_restore h with ⟨-, message, hrestore⟩ | ⟨backup, hbackup, hrestore⟩
    · rw [hrestore]
      exact .inl rfl
    · rw [hrestore]
      exact .inr ⟨savedAudit backup, congrArg (Option.map savedAudit) hbackup, rfl⟩
  restored id now b h hb _ := by
    rcases auditBackups_restore h with ⟨hnone, -⟩ | ⟨backup, hbackup, hrestore⟩
    · rw [show (auditBackups H adapter).backup _ id = Option.map _ _ from rfl, hnone] at hb
      cases hb
    · rw [show (auditBackups H adapter).backup _ id = Option.map _ _ from rfl, hbackup] at hb
      cases hb
      rw [hrestore]
      exact ⟨rfl, rfl⟩

end

/-! ## The job queue -/

section
variable (adapter : L6.ReferenceJobQueueAdapter)

/-- A call that writes, apart from the backups. -/
inductive QueueWrite
  | call (call : L6.QueueCall)
  | flush (storedAt : Option IsoDateTime)

def QueueWrite.toStoreCall : QueueWrite → L6.StoreCall
  | .call queueCall => .call queueCall
  | .flush storedAt => .flush storedAt

/-- The records and the queue. -/
structure JobContent where
  jobs : L5.RebacJobSnapshot
  queue : L6.ReferenceJobQueueSnapshot

def contentOfJobs (content : L6.QueueContent) : JobContent where
  jobs := content.jobs
  queue := content.queue

def savedJobs (record : L6.ReferenceJobQueueStoreRecord) :
    Backup JobContent ReferenceRepositoryBackupMetadata where
  content := contentOfJobs record.toQueueContent
  entries := record.backupMetadata

/-- The state is the store, and what else a call takes is the clock.
mirrors packages/core/src/reference-job-queue.ts:744-774 -/
def queueBackups : BackupSystem L6.QueueStore (IsoDateTime × QueueWrite) IsoDateTime CanonicalId
    JobContent ReferenceRepositoryBackupMetadata String where
  content store := contentOfJobs (L6.contentOf store.current)
  entries store := (L6.contentOf store.current).backupMetadata
  backup store id := (store.backups.get? id).map savedJobs
  call store call := adapter.performOn call.1 call.2.toStoreCall store
  create store id createdAt :=
    (adapter.performOn createdAt (.createBackup id none) store,
      (adapter.backupRecord id createdAt (L6.contentOf store.current)).map fun _ =>
        adapter.createBackupMetadata id createdAt (L6.contentOf store.current))
  restore store id restoredAt :=
    (adapter.performOn restoredAt (.restoreBackup id none) store,
      match store.backups.get? id with
      | none => .error ("Reference job queue backup " ++ id ++ " does not exist.")
      | some backup => (adapter.createRecord restoredAt backup.toQueueContent).map fun _ => ())
  entryId := (·.id)
  entryDigest := (·.snapshotHash)
  digest content := hashReference adapter.host
    (.obj [("jobs", L6.jobsToJs content.jobs), ("queue", content.queue.toJs)])

end

section
variable {adapter : L6.ReferenceJobQueueAdapter} {store : L6.QueueStore}

/-- What is backed up may be stored. -/
def QueueBackupsStorable (adapter : L6.ReferenceJobQueueAdapter) (store : L6.QueueStore) : Prop :=
  ∀ id record, store.backups.get? id = some record → adapter.Storable record.toQueueContent

theorem queueBackups_call (call : IsoDateTime × QueueWrite) :
    ((queueBackups adapter).call store call).backups = store.backups ∧
      (L6.contentOf ((queueBackups adapter).call store call).current).backupMetadata =
        (L6.contentOf store.current).backupMetadata := by
  obtain ⟨now, call | storedAt⟩ := call
  · exact ⟨rfl, adapter.perform_backupMetadata now call store.current⟩
  · show (adapter.performOn now (.flush storedAt) store).backups = _ ∧
      (L6.contentOf (adapter.performOn now (.flush storedAt) store).current).backupMetadata = _
    unfold L6.ReferenceJobQueueAdapter.performOn
    dsimp only
    split
    · exact ⟨rfl, rfl⟩
    · next record hrecord =>
      obtain ⟨-, rfl⟩ := L6.ReferenceJobQueueAdapter.createRecord_ok.1 hrecord
      exact ⟨rfl, rfl⟩

theorem queueBackups_create {id : CanonicalId} {now : IsoDateTime} :
    (∃ message, (queueBackups adapter).create store id now = (store, .error message)) ∨
    ∃ record : L6.ReferenceJobQueueStoreRecord, adapter.Storable record.toQueueContent ∧
      record.toQueueContent = { L6.contentOf store.current with
        backupMetadata := (L6.contentOf store.current).backupMetadata ++
          [adapter.createBackupMetadata id now (L6.contentOf store.current)] } ∧
      (queueBackups adapter).create store id now =
        ({ current := some record, backups := store.backups.set id record },
          .ok (adapter.createBackupMetadata id now (L6.contentOf store.current))) := by
  unfold queueBackups L6.ReferenceJobQueueAdapter.performOn
  dsimp only [Option.getD_none]
  cases hrecord : adapter.backupRecord id now (L6.contentOf store.current) with
  | error message => exact .inl ⟨message, rfl⟩
  | ok record =>
    obtain ⟨hstorable, rfl⟩ := L6.ReferenceJobQueueAdapter.createRecord_ok.1 hrecord
    exact .inr ⟨_, hstorable, rfl, rfl⟩

theorem queueBackups_restore (h : QueueBackupsStorable adapter store) {id : CanonicalId}
    {now : IsoDateTime} :
    (store.backups.get? id = none ∧
      ∃ message, (queueBackups adapter).restore store id now = (store, .error message)) ∨
    ∃ backup record : L6.ReferenceJobQueueStoreRecord, store.backups.get? id = some backup ∧
      record.toQueueContent = backup.toQueueContent ∧
      (queueBackups adapter).restore store id now =
        ({ store with current := some record }, .ok ()) := by
  unfold queueBackups L6.ReferenceJobQueueAdapter.performOn
  dsimp only [Option.getD_none]
  cases hbackup : store.backups.get? id with
  | none => exact .inl ⟨rfl, _, rfl⟩
  | some backup =>
    obtain ⟨record, hrecord, hcontent⟩ : ∃ record,
        adapter.createRecord now backup.toQueueContent = .ok record ∧
          record.toQueueContent = backup.toQueueContent :=
      ⟨_, L6.ReferenceJobQueueAdapter.createRecord_ok.2 ⟨h id backup hbackup, rfl⟩, rfl⟩
    refine .inr ⟨backup, record, rfl, hcontent, ?_⟩
    dsimp only
    rw [hrecord]
    rfl

theorem queueBackups_lawful :
    (queueBackups adapter).Lawful (QueueBackupsStorable adapter) fun _ => True where
  call_inv call h id record hrecord := h id record ((queueBackups_call call).1 ▸ hrecord)
  call_entries call _ := (queueBackups_call call).2
  call_backup call _ := by
    funext id
    exact congrArg (fun backups => (OrderedMap.get? backups id).map savedJobs)
      (queueBackups_call call).1
  create_inv id now h := by
    rcases queueBackups_create with ⟨message, hcreate⟩ | ⟨record, hstorable, -, hcreate⟩
    · rw [hcreate]
      exact h
    · rw [hcreate]
      intro id' backup hbackup
      rw [OrderedMap.get?_set] at hbackup
      split at hbackup
      · cases hbackup
        exact hstorable
      · exact h id' backup hbackup
  created id now h := by
    rcases queueBackups_create with ⟨message, hcreate⟩ | ⟨record, -, hcontent, hcreate⟩
    · rw [hcreate]
      exact .inr ⟨⟨message, rfl⟩, rfl, rfl⟩
    · rw [hcreate]
      have hsaved : savedJobs record = ⟨contentOfJobs record.toQueueContent,
          record.toQueueContent.backupMetadata⟩ := rfl
      rw [hcontent] at hsaved
      refine .inl ⟨_, rfl, rfl, rfl, congrArg (·.backupMetadata) hcontent, fun i => ?_⟩
      show ((OrderedMap.set _ _ _).get? i).map _ = _
      rw [OrderedMap.get?_set]
      split
      · exact congrArg some hsaved
      · rfl
  restore_inv id now h := by
    rcases queueBackups_restore h with ⟨-, message, hrestore⟩ | ⟨backup, record, -, -, hrestore⟩
    · rw [hrestore]
      exact h
    · rw [hrestore]
      exact h
  restore_backup id now h := by
    rcases queueBackups_restore h with ⟨-, message, hrestore⟩ | ⟨backup, record, -, -, hrestore⟩
    · rw [hrestore]
    · rw [hrestore]
      rfl
  restore_entries id now h := by
    rcases queueBackups_restore h with
      ⟨-, message, hrestore⟩ | ⟨backup, record, hbackup, hcontent, hrestore⟩
    · rw [hrestore]
      exact .inl rfl
    · rw [hrestore]
      exact .inr ⟨savedJobs backup, congrArg (Option.map savedJobs) hbackup,
        congrArg (·.backupMetadata) hcontent⟩
  restored id now b h hb _ := by
    rcases queueBackups_restore h with ⟨hnone, -⟩ | ⟨backup, record, hbackup, hcontent, hrestore⟩
    · rw [show (queueBackups adapter).backup _ id = Option.map _ _ from rfl, hnone] at hb
      cases hb
    · rw [show (queueBackups adapter).backup _ id = Option.map _ _ from rfl, hbackup] at hb
      cases hb
      rw [hrestore]
      exact ⟨rfl, congrArg contentOfJobs hcontent⟩

end

/-! ## The graph and the connector state -/

section
variable {S R K Call : Type} [DecidableEq K] (F : ReferenceFormat S R K)

/-- A call of an adapter, apart from its backups. -/
abbrev AdapterCall (Call : Type) : Type :=
  WriteFailures → IsoDateTime → ReferenceMemory F → ExternalSnapshotStore S → Call →
    StoreOutcome F (RepositoryAnswer R)

/-- It leaves the backups and their list. -/
def KeepsBackups (call : AdapterCall F Call) : Prop :=
  ∀ failures now memory store c,
    (call failures now memory store c).1.backupMetadata = memory.backupMetadata ∧
      (call failures now memory store c).2.1.backups = store.backups

def savedSnapshot (record : ReferenceSnapshotRecord S) :
    Backup S ReferenceRepositoryBackupMetadata where
  content := record.snapshot
  entries := record.backupMetadata

/-- A backup that does not throw answers with its entry. -/
def answeredEntry : RepositoryAnswer R → Except String ReferenceRepositoryBackupMetadata
  | .backup metadata => .ok metadata
  | _ => .error "no backup"

variable (adapter : ReferenceAdapter) (call : AdapterCall F Call)

/-- The state is what the adapter has in memory, and the store. Each call meets failures of the
store and a clock of its own. -/
def referenceBackups : BackupSystem (ReferenceMemory F × ExternalSnapshotStore S)
    (WriteFailures × IsoDateTime × Call) (WriteFailures × IsoDateTime × Option IsoDateTime)
    CanonicalId S ReferenceRepositoryBackupMetadata String where
  content s := s.1.memory.snapshot
  entries s := s.1.backupMetadata
  backup s id := (s.2.backups.get? id).map savedSnapshot
  call s c :=
    let outcome := call c.1 c.2.1 s.1 s.2 c.2.2
    (outcome.1, outcome.2.1)
  create s id p :=
    let outcome := adapter.createBackup F p.1 p.2.1 s.1 s.2 id p.2.2
    ((outcome.1, outcome.2.1), outcome.2.2.bind answeredEntry)
  restore s id p :=
    let outcome := adapter.restoreBackup F p.1 p.2.1 s.1 s.2 id p.2.2
    ((outcome.1, outcome.2.1), outcome.2.2.map fun _ => ())
  entryId := (·.id)
  entryDigest := (·.snapshotHash)
  digest snapshot := hashReference adapter.host (F.toJs snapshot)

end

section
variable {S R K Call : Type} [DecidableEq K] {F : ReferenceFormat S R K}
  {adapter : ReferenceAdapter} {call : AdapterCall F Call}
  {s : ReferenceMemory F × ExternalSnapshotStore S}

/-- A record that was checked passes the checks again, and may be stored again. -/
structure Restorable (F : ReferenceFormat S R K) (adapter : ReferenceAdapter)
    (record : ReferenceSnapshotRecord S) : Prop where
  valid : adapter.validateRecord F record = .ok record
  storable : ∀ storedAt backupMetadata,
    ∃ stored, adapter.createRecord F storedAt record.snapshot backupMetadata = .ok stored

theorem restorable_createRecord {storedAt : IsoDateTime} {snapshot : S}
    {backupMetadata : List ReferenceRepositoryBackupMetadata}
    {record : ReferenceSnapshotRecord S}
    (h : adapter.createRecord F storedAt (F.copyAll snapshot) backupMetadata = .ok record) :
    Restorable F adapter record := by
  obtain ⟨htenant, hrest⟩ := seq_ok.1 h
  obtain ⟨hsecret, hrecord⟩ := seq_ok.1 hrest
  cases hrecord
  constructor
  · unfold ReferenceAdapter.validateRecord
    rw [if_neg (not_not.2 rfl), if_neg (not_not.2 rfl), if_neg (not_not.2 rfl)]
    refine seq_ok.2 ⟨htenant, seq_ok.2 ⟨hsecret, ?_⟩⟩
    dsimp only
    rw [F.copyAll_copyAll]
    rfl
  · exact fun storedAt' backupMetadata' => ⟨_, seq_ok.2 ⟨htenant, seq_ok.2 ⟨hsecret, rfl⟩⟩⟩

def BackupsRestorable (F : ReferenceFormat S R K) (adapter : ReferenceAdapter)
    (s : ReferenceMemory F × ExternalSnapshotStore S) : Prop :=
  ∀ id record, s.2.backups.get? id = some record → Restorable F adapter record

theorem persist_frame {failures : WriteFailures} {storedAt : IsoDateTime}
    {memory : ReferenceMemory F} {store : ExternalSnapshotStore S} :
    (adapter.persist F failures storedAt memory store).1 = memory ∧
      (adapter.persist F failures storedAt memory store).2.1.backups = store.backups := by
  cases hanswer : (adapter.persist F failures storedAt memory store).2.2 with
  | error message =>
    rw [ReferenceAdapter.failsClean_persist storedAt memory store message hanswer]
    exact ⟨rfl, rfl⟩
  | ok receipt =>
    obtain ⟨hmemory, record, -, -, hstore⟩ := ReferenceAdapter.persist_ok hanswer
    exact ⟨hmemory, by rw [hstore]⟩

theorem changeThenPersist_frame {α : Type} {failures : WriteFailures} {storedAt : IsoDateTime}
    {change : ReferenceMemory F → Except String (ReferenceMemory F)} {answer : StorageReceipt → α}
    {memory : ReferenceMemory F} {store : ExternalSnapshotStore S}
    (hchange : ∀ memory', change memory = .ok memory' →
      memory'.backupMetadata = memory.backupMetadata) :
    (changeThenPersist (adapter.persist F failures storedAt) change answer memory
      store).1.backupMetadata = memory.backupMetadata ∧
    (changeThenPersist (adapter.persist F failures storedAt) change answer memory
      store).2.1.backups = store.backups := by
  cases hmemory : change memory with
  | error message =>
    rw [changeThenPersist_refused hmemory]
    exact ⟨rfl, rfl⟩
  | ok memory' =>
    obtain ⟨hkept, hbackups⟩ : (adapter.persist F failures storedAt memory' store).1 = memory' ∧
      (adapter.persist F failures storedAt memory' store).2.1.backups = store.backups :=
      persist_frame
    rw [changeThenPersist_made hmemory, hkept]
    exact ⟨hchange _ hmemory, hbackups⟩

/-- The entry of a backup.
mirrors packages/core/src/reference-repositories.ts:306-314 -/
def entryOf (F : ReferenceFormat S R K) (adapter : ReferenceAdapter) (id : CanonicalId)
    (createdAt : IsoDateTime) (snapshot : S) : ReferenceRepositoryBackupMetadata where
  id
  component := F.component
  createdAt
  location := adapter.location ++ "#backup:" ++ id
  snapshotHash := hashReference adapter.host (F.toJs snapshot)
  tenantBoundary := adapter.tenantBoundary
  entityCounts := F.countEntities snapshot
  version := "production-repository-backup:v1"

variable (F adapter call s) in
/-- What a backup leaves. One whose write fails may have written the record, not the backup. -/
theorem referenceBackups_create (id : CanonicalId)
    (p : WriteFailures × IsoDateTime × Option IsoDateTime) :
    (∃ message store', ((referenceBackups F adapter call).create s id p) =
      ((s.1, store'), .error message) ∧ store'.backups = s.2.backups) ∨
    ∃ (record : ReferenceSnapshotRecord S) (entry : ReferenceRepositoryBackupMetadata),
      entry = entryOf F adapter id (p.2.2.getD p.2.1) s.1.memory.snapshot ∧
      Restorable F adapter record ∧
      savedSnapshot record = ⟨s.1.memory.snapshot, s.1.backupMetadata ++ [entry]⟩ ∧
      (referenceBackups F adapter call).create s id p =
        (({ s.1 with backupMetadata := s.1.backupMetadata ++ [entry] },
          { current := some record, backups := s.2.backups.set id record }), .ok entry) := by
  unfold referenceBackups ReferenceAdapter.createBackup
  dsimp only
  split
  · exact .inl ⟨_, s.2, rfl, rfl⟩
  · next record hrecord =>
    obtain ⟨hremember, hsnapshot⟩ := ReferenceAdapter.remember_createRecord hrecord
    have hmetadata := (ReferenceAdapter.createRecord_ok hrecord).2
    have hcopied := s.1.memory.copied
    split
    · exact .inl ⟨_, s.2, rfl, rfl⟩
    · split
      · exact .inl ⟨_, _, rfl, rfl⟩
      · refine .inr ⟨record, _, congrArg (entryOf F adapter id (p.2.2.getD p.2.1)) hcopied,
          restorable_createRecord hrecord, ?_, ?_⟩
        · rw [savedSnapshot, hsnapshot, hmetadata]
          rfl
        · rw [hremember]
          rfl

theorem referenceBackups_restore (h : BackupsRestorable F adapter s) {id : CanonicalId}
    {p : WriteFailures × IsoDateTime × Option IsoDateTime} :
    (s.2.backups.get? id = none ∧
      ∃ message, (referenceBackups F adapter call).restore s id p = (s, .error message)) ∨
    ∃ backup, s.2.backups.get? id = some backup ∧
      ((referenceBackups F adapter call).restore s id p).1.1 =
        ReferenceAdapter.remember F backup ∧
      F.copyAll backup.snapshot = backup.snapshot ∧
      ((referenceBackups F adapter call).restore s id p).1.2.backups = s.2.backups ∧
      (p.1.writeCurrent = none →
        ((referenceBackups F adapter call).restore s id p).2 = .ok ()) := by
  unfold referenceBackups ReferenceAdapter.restoreBackup
  dsimp only
  cases hbackup : s.2.backups.get? id with
  | none =>
    have hread : adapter.readBackup F s.2 id =
        .error (F.backupMissingLabel ++ " " ++ id ++ " does not exist.") := by
      unfold ReferenceAdapter.readBackup
      rw [hbackup]
    refine .inl ⟨rfl, F.backupMissingLabel ++ " " ++ id ++ " does not exist.", ?_⟩
    rw [hread]
    rfl
  | some backup =>
    have hread : adapter.readBackup F s.2 id = .ok backup := by
      unfold ReferenceAdapter.readBackup
      rw [hbackup]
      exact (h id backup hbackup).valid
    have hcopied := ReferenceAdapter.copied_readBackup hread
    have hchange : (adapter.readBackup F s.2 id).map (ReferenceAdapter.remember F) =
        .ok (ReferenceAdapter.remember F backup) := by
      rw [hread]
      rfl
    obtain ⟨hkept, hbackups⟩ :
      (adapter.persist F p.1 (p.2.2.getD p.2.1) (ReferenceAdapter.remember F backup) s.2).1 =
        ReferenceAdapter.remember F backup ∧
      (adapter.persist F p.1 (p.2.2.getD p.2.1) (ReferenceAdapter.remember F backup)
        s.2).2.1.backups = s.2.backups := persist_frame
    rw [changeThenPersist_made hchange]
    refine .inr ⟨backup, rfl, hkept, hcopied, hbackups, fun hworks => ?_⟩
    obtain ⟨stored, hstored⟩ := (h id backup hbackup).storable (p.2.2.getD p.2.1)
      backup.backupMetadata
    have hsnapshot : F.copyAll (ReferenceAdapter.remember F backup).memory.snapshot =
        backup.snapshot := (F.copyAll_copyAll backup.snapshot).trans hcopied
    unfold ReferenceAdapter.persist
    rw [hsnapshot, show (ReferenceAdapter.remember F backup).backupMetadata =
      backup.backupMetadata from rfl, hstored]
    dsimp only
    rw [hworks]
    rfl

theorem referenceBackups_lawful (hcall : KeepsBackups F call) :
    (referenceBackups F adapter call).Lawful (BackupsRestorable F adapter)
      fun p => p.1.writeCurrent = none where
  call_inv {s} c h id record hrecord :=
    h id record ((hcall c.1 c.2.1 s.1 s.2 c.2.2).2 ▸ hrecord)
  call_entries {s} c _ := (hcall c.1 c.2.1 s.1 s.2 c.2.2).1
  call_backup {s} c _ := by
    funext id
    exact congrArg (fun backups => (OrderedMap.get? backups id).map savedSnapshot)
      (hcall c.1 c.2.1 s.1 s.2 c.2.2).2
  create_inv {s} id p h := by
    rcases referenceBackups_create F adapter call s id p with
      ⟨message, store', hcreate, hbackups⟩ | ⟨record, entry, -, hrestorable, -, hcreate⟩
    · rw [hcreate]
      exact fun id' record hrecord => h id' record (hbackups ▸ hrecord)
    · rw [hcreate]
      intro id' record' hrecord
      rw [OrderedMap.get?_set] at hrecord
      split at hrecord
      · cases hrecord
        exact hrestorable
      · exact h id' record' hrecord
  created {s} id p h := by
    rcases referenceBackups_create F adapter call s id p with
      ⟨message, store', hcreate, hbackups⟩ | ⟨record, entry, hentry, -, hsaved, hcreate⟩
    · rw [hcreate]
      refine .inr ⟨⟨message, rfl⟩, rfl, ?_⟩
      funext i
      exact congrArg (fun backups => (OrderedMap.get? backups i).map savedSnapshot) hbackups
    · rw [hcreate]
      refine .inl ⟨entry, rfl, by rw [hentry]; rfl, by rw [hentry]; rfl, rfl, fun i => ?_⟩
      show ((OrderedMap.set _ _ _).get? i).map _ = _
      rw [OrderedMap.get?_set]
      split
      · exact congrArg some hsaved
      · rfl
  restore_inv id p h := by
    rcases referenceBackups_restore h with
      ⟨-, message, hrestore⟩ | ⟨backup, -, -, -, hbackups, -⟩
    · rw [hrestore]
      exact h
    · exact fun id' record hrecord => h id' record (hbackups ▸ hrecord)
  restore_backup id p h := by
    rcases referenceBackups_restore h with
      ⟨-, message, hrestore⟩ | ⟨backup, -, -, -, hbackups, -⟩
    · rw [hrestore]
    · funext i
      exact congrArg (fun backups => (OrderedMap.get? backups i).map savedSnapshot) hbackups
  restore_entries id p h := by
    rcases referenceBackups_restore h with
      ⟨-, message, hrestore⟩ | ⟨backup, hbackup, hmemory, -, -, -⟩
    · rw [hrestore]
      exact .inl rfl
    · exact .inr ⟨savedSnapshot backup, congrArg (Option.map savedSnapshot) hbackup,
        congrArg (·.backupMetadata) hmemory⟩
  restored id p b h hb hworks := by
    rcases referenceBackups_restore h with
      ⟨hnone, -⟩ | ⟨backup, hbackup, hmemory, hcopied, -, hok⟩
    · rw [show (referenceBackups F adapter call).backup _ id = Option.map _ _ from rfl, hnone] at hb
      cases hb
    · rw [show (referenceBackups F adapter call).backup _ id = Option.map _ _ from rfl,
        hbackup] at hb
      cases hb
      exact ⟨hok hworks, (congrArg (·.memory.snapshot) hmemory).trans hcopied⟩

theorem writeRecord_frame {failures : WriteFailures} {now : IsoDateTime}
    {memory : ReferenceMemory F} {store : ExternalSnapshotStore S} {r : R} :
    (adapter.writeRecord F failures now memory store r).1.backupMetadata = memory.backupMetadata ∧
      (adapter.writeRecord F failures now memory store r).2.1.backups = store.backups := by
  refine changeThenPersist_frame fun memory' hmemory => ?_
  cases hassert : F.assertRecord adapter.host adapter.tenantBoundary memory.memory.snapshot r with
  | error message =>
    rw [hassert] at hmemory
    cases hmemory
  | ok _ =>
    rw [hassert] at hmemory
    cases hmemory
    rfl

theorem flush_frame {failures : WriteFailures} {now : IsoDateTime} {storedAt : Option IsoDateTime}
    {memory : ReferenceMemory F} {store : ExternalSnapshotStore S} :
    (adapter.flush F failures now memory store storedAt).1.backupMetadata =
        memory.backupMetadata ∧
      (adapter.flush F failures now memory store storedAt).2.1.backups = store.backups :=
  changeThenPersist_frame fun memory' hmemory => by
    cases hmemory
    rfl

end

section
variable (adapter : ReferenceAdapter)

def graphCall : AdapterCall referenceGraph GraphCall := fun failures now memory store c =>
  ReferenceGraphStoreAdapter.perform adapter failures now memory store (.call c)

def connectorStateCall : AdapterCall referenceConnectorState JobCall :=
  fun failures now memory store c =>
    ReferenceConnectorStateStoreAdapter.perform adapter failures now memory store (.call c)

def graphBackups := referenceBackups referenceGraph adapter (graphCall adapter)

def connectorStateBackups :=
  referenceBackups referenceConnectorState adapter (connectorStateCall adapter)

theorem keepsBackups_graph : KeepsBackups referenceGraph (graphCall adapter) := by
  intro failures now memory store c
  cases c with
  | upsert r => exact writeRecord_frame
  | flush storedAt => exact flush_frame
  | deleteRelationship id deletedAt =>
    show (ReferenceGraphStoreAdapter.deleteRelationship adapter failures now memory store id
        deletedAt).1.backupMetadata = _ ∧
      (ReferenceGraphStoreAdapter.deleteRelationship adapter failures now memory store id
        deletedAt).2.1.backups = _
    unfold ReferenceGraphStoreAdapter.deleteRelationship
    split
    · exact ⟨rfl, rfl⟩
    · refine changeThenPersist_frame fun memory' hmemory => ?_
      cases hmemory
      rfl

theorem keepsBackups_connectorState :
    KeepsBackups referenceConnectorState (connectorStateCall adapter) := by
  intro failures now memory store c
  cases c with
  | record r => exact writeRecord_frame
  | flush storedAt => exact flush_frame

theorem graphBackups_lawful :
    (graphBackups adapter).Lawful (BackupsRestorable referenceGraph adapter)
      fun p => p.1.writeCurrent = none :=
  referenceBackups_lawful (keepsBackups_graph adapter)

theorem connectorStateBackups_lawful :
    (connectorStateBackups adapter).Lawful (BackupsRestorable referenceConnectorState adapter)
      fun p => p.1.writeCurrent = none :=
  referenceBackups_lawful (keepsBackups_connectorState adapter)

end

end AccessKit.L7
