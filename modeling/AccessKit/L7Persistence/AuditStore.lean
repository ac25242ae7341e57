import AccessKit.Core.PromiseChain
import AccessKit.Core.Table
import AccessKit.L2Audit.ReferenceRecords

/-!
# The Postgres audit store

packages/persistence-postgres/src/audit-store.ts over the tables of
packages/persistence-postgres/src/schema.ts. A row has the columns that a statement
writes from a record; the times that the database stamps (`now()`) are read by nothing.

Results:
* `content_run`: what a statement does to the rows of its tenant.
* `content_transaction`: what a transaction does to them.
* `hydrate_ok`: a store that was opened holds the rows of its tenant.
* `Mirrors.execute`: a write does to the rows what it did to the memory.
-/
namespace AccessKit.L7.AuditStore
open AccessKit.Core AccessKit.L1 AccessKit.L2.Audit

structure AuditRecordRow where
  event_id : CanonicalId
  record : ReferenceAuditEventStoreRecord
  record_hash : String
  stored_at : IsoDateTime

structure EvidenceRecordRow where
  record : ReferenceEvidenceStoreRecord
  stored_at : IsoDateTime

structure SignedWindowRow where
  record : ReferenceSignedAuditWindow
  signed_at : IsoDateTime

structure SiemDeliveryRow where
  window_id : CanonicalId
  record : ReferenceSiemDeliveryRecord
  attempted_at : IsoDateTime

structure BackupRow where
  record : ReferenceAuditStoreBackup
  created_at : IsoDateTime

/-- The audit tables, each under its primary key.
mirrors packages/persistence-postgres/src/schema.ts:35-80 -/
structure Database where
  auditRecords : Table String Rat AuditRecordRow
  auditEvidenceRecords : Table String CanonicalId EvidenceRecordRow
  auditSignedWindows : Table String CanonicalId SignedWindowRow
  auditSiemDeliveries : Table String CanonicalId SiemDeliveryRow
  auditBackupMetadata : OrderedMap String (List ReferenceRepositoryBackupMetadata)
  auditBackups : Table String CanonicalId BackupRow

/-- The tables under the append-only trigger.
mirrors packages/persistence-postgres/src/schema.ts:90-99 -/
inductive GuardedTable
  | auditRecords
  | auditEvidenceRecords
  | auditSignedWindows
  | auditSiemDeliveries
  deriving DecidableEq, Repr

inductive Statement
  | setLocalAllowRestore
  | deleteTenant (table : GuardedTable)
  | insertAuditRecord (record : ReferenceAuditEventStoreRecord)
  | insertEvidenceRecord (record : ReferenceEvidenceStoreRecord)
  | insertSignedWindow (window : ReferenceSignedAuditWindow)
  | insertSiemDelivery (delivery : ReferenceSiemDeliveryRecord)
  | upsertBackupMetadata (metadata : List ReferenceRepositoryBackupMetadata)
  | upsertBackup (id : CanonicalId) (backup : ReferenceAuditStoreBackup)

/-- A transaction under way: what it made of the tables, and whether it set
`access_kit.allow_audit_restore`. -/
structure Transaction where
  db : Database
  allowAuditRestore : Bool := false

section
variable (tenantBoundary : String)

/-- `DELETE … WHERE tenant_boundary = $1`. The trigger runs for each row that goes, and
raises unless the restore is allowed.
mirrors packages/persistence-postgres/src/schema.ts:81-88 -/
def deleteGuarded {K V : Type} [DecidableEq K] (allowed : Bool) (table : Table String K V) :
    Option (Table String K V) :=
  if allowed || (Table.rowsOf tenantBoundary table).isEmpty then
    some (Table.deleteOf tenantBoundary table)
  else none

/-- One statement; `none` when a constraint or a trigger refuses it. -/
def run (tx : Transaction) : Statement → Option Transaction
  | .setLocalAllowRestore => some { tx with allowAuditRestore := true }
  | .deleteTenant .auditRecords =>
    (deleteGuarded tenantBoundary tx.allowAuditRestore tx.db.auditRecords).map fun table =>
      { tx with db := { tx.db with auditRecords := table } }
  | .deleteTenant .auditEvidenceRecords =>
    (deleteGuarded tenantBoundary tx.allowAuditRestore tx.db.auditEvidenceRecords).map fun table =>
      { tx with db := { tx.db with auditEvidenceRecords := table } }
  | .deleteTenant .auditSignedWindows =>
    (deleteGuarded tenantBoundary tx.allowAuditRestore tx.db.auditSignedWindows).map fun table =>
      { tx with db := { tx.db with auditSignedWindows := table } }
  | .deleteTenant .auditSiemDeliveries =>
    (deleteGuarded tenantBoundary tx.allowAuditRestore tx.db.auditSiemDeliveries).map fun table =>
      { tx with db := { tx.db with auditSiemDeliveries := table } }
  | .insertAuditRecord record =>
    -- `sequence` is a bigint, and `event_id` is unique for the tenant as well.
    if record.sequence.den ≠ 1 ∨ (Table.rowsOf tenantBoundary tx.db.auditRecords).any fun row =>
        row.2.event_id = record.event.eventId then none
    else
      (Table.insert tenantBoundary record.sequence
        ⟨record.event.eventId, record, record.recordHash, record.storedAt⟩
        tx.db.auditRecords).map fun table => { tx with db := { tx.db with auditRecords := table } }
  | .insertEvidenceRecord record =>
    (Table.insert tenantBoundary record.exportId ⟨record, record.storedAt⟩
      tx.db.auditEvidenceRecords).map fun table =>
        { tx with db := { tx.db with auditEvidenceRecords := table } }
  | .insertSignedWindow window =>
    (Table.insert tenantBoundary window.windowId ⟨window, window.signedAt⟩
      tx.db.auditSignedWindows).map fun table =>
        { tx with db := { tx.db with auditSignedWindows := table } }
  | .insertSiemDelivery delivery =>
    (Table.insert tenantBoundary delivery.deliveryId
      ⟨delivery.windowId, delivery, delivery.attemptedAt⟩
      tx.db.auditSiemDeliveries).map fun table =>
        { tx with db := { tx.db with auditSiemDeliveries := table } }
  | .upsertBackupMetadata metadata =>
    some { tx with db := { tx.db with
      auditBackupMetadata := tx.db.auditBackupMetadata.set tenantBoundary metadata } }
  | .upsertBackup id backup =>
    -- A conflict updates the record only.
    let created_at := match tx.db.auditBackups.get? (tenantBoundary, id) with
      | some row => row.created_at
      | none => backup.createdAt
    some { tx with db := { tx.db with
      auditBackups := tx.db.auditBackups.set (tenantBoundary, id) ⟨backup, created_at⟩ } }

/-- The statements of one query or one transaction: all of them, or none. -/
def transaction (statements : List Statement) (db : Database) : Option Database :=
  (statements.foldlM (run tenantBoundary) { db }).map (·.db)

end

/-- mirrors packages/persistence-postgres/src/audit-store.ts:272-325 -/
def restoreStatements (snapshot : AuditSnapshot) : List Statement :=
  [.setLocalAllowRestore, .deleteTenant .auditRecords, .deleteTenant .auditEvidenceRecords,
    .deleteTenant .auditSignedWindows, .deleteTenant .auditSiemDeliveries] ++
  snapshot.auditRecords.map .insertAuditRecord ++
  snapshot.evidenceRecords.map .insertEvidenceRecord ++
  snapshot.signedWindows.map .insertSignedWindow ++
  snapshot.siemDeliveries.map .insertSiemDelivery ++
  [.upsertBackupMetadata snapshot.backupMetadata]

/-! ## The store -/

/-- `clone(record)` -/
def auditRecordCopy (record : ReferenceAuditEventStoreRecord) : ReferenceAuditEventStoreRecord :=
  { record with event := record.event.copy }

def evidenceRecordCopy (record : ReferenceEvidenceStoreRecord) : ReferenceEvidenceStoreRecord :=
  { record with evidence := cloneFields record.evidence }

/-- `clone(snapshot)`; what the other lists keep is its own copy. -/
def snapshotCopy (snapshot : AuditSnapshot) : AuditSnapshot :=
  { snapshot with
    auditRecords := snapshot.auditRecords.map auditRecordCopy
    evidenceRecords := snapshot.evidenceRecords.map evidenceRecordCopy }

def backupCopy (backup : ReferenceAuditStoreBackup) : ReferenceAuditStoreBackup :=
  { backup with toAuditSnapshot := snapshotCopy backup.toAuditSnapshot }

/-- A write that the store sends to the database. -/
inductive Write
  | auditRecord (record : ReferenceAuditEventStoreRecord)
  | evidenceRecord (record : ReferenceEvidenceStoreRecord)
  | signedWindow (window : ReferenceSignedAuditWindow)
  | siemDelivery (delivery : ReferenceSiemDeliveryRecord)
  | backupMetadata (metadata : List ReferenceRepositoryBackupMetadata)
  | backup (id : CanonicalId) (backup : ReferenceAuditStoreBackup)
  | restoreSnapshot (snapshot : AuditSnapshot)

def Write.statements : Write → List Statement
  | .auditRecord record => [.insertAuditRecord record]
  | .evidenceRecord record => [.insertEvidenceRecord record]
  | .signedWindow window => [.insertSignedWindow window]
  | .siemDelivery delivery => [.insertSiemDelivery delivery]
  | .backupMetadata metadata => [.upsertBackupMetadata metadata]
  | .backup id saved => [.upsertBackup id saved]
  | .restoreSnapshot snapshot => restoreStatements snapshot

/-- What a write stands for in the memory. -/
def Write.apply (store : ExternalAppendOnlyAuditStore) : Write → ExternalAppendOnlyAuditStore
  | .auditRecord record => { store with auditRecords := store.auditRecords ++ [record] }
  | .evidenceRecord record => { store with evidenceRecords := store.evidenceRecords ++ [record] }
  | .signedWindow window => { store with signedWindows := store.signedWindows ++ [window] }
  | .siemDelivery delivery => { store with siemDeliveries := store.siemDeliveries ++ [delivery] }
  | .backupMetadata metadata => { store with backupMetadata := metadata }
  | .backup id saved => { store with backups := store.backups.set id saved }
  | .restoreSnapshot snapshot => { store with toAuditSnapshot := snapshot }

/-- mirrors packages/persistence-postgres/src/audit-store.ts:328-337 -/
def assertSequenceContinuity (H : Host) :
    Nat → List ReferenceAuditEventStoreRecord → Except String Unit
  | _, [] => .ok ()
  | index, record :: records =>
    let expectedSequence : Rat := ((index + 1 : Nat) : Rat)
    if record.sequence ≠ expectedSequence then
      .error ("Postgres audit store sequence continuity check failed: expected sequence " ++
        numberText H expectedSequence ++ " but found " ++ numberText H record.sequence ++
        " for event " ++ record.event.eventId ++ ".")
    else assertSequenceContinuity H (index + 1) records

/-- Open a store on its tenant's rows. `timestamptz` reads a time; SQL leaves the order of
rows with one time open.
mirrors packages/persistence-postgres/src/audit-store.ts:225-264 -/
def hydrate (H : Host) (timestamptz : String → Int) (tenantBoundary : String) (db : Database) :
    Except String ExternalAppendOnlyAuditStore := do
  let auditResult := (Table.rowsOf tenantBoundary db.auditRecords).mergeSort
    fun a b => decide (a.1 ≤ b.1)
  let auditRecords := auditResult.map (·.2.record)
  assertSequenceContinuity H 0 auditRecords
  let evidenceResult := (Table.rowsOf tenantBoundary db.auditEvidenceRecords).mergeSort
    fun a b => decide (timestamptz a.2.stored_at ≤ timestamptz b.2.stored_at)
  let windowResult := (Table.rowsOf tenantBoundary db.auditSignedWindows).mergeSort
    fun a b => decide (timestamptz a.2.signed_at ≤ timestamptz b.2.signed_at)
  let siemResult := (Table.rowsOf tenantBoundary db.auditSiemDeliveries).mergeSort
    fun a b => decide (timestamptz a.2.attempted_at ≤ timestamptz b.2.attempted_at)
  return {
    auditRecords
    evidenceRecords := evidenceResult.map (·.2.record)
    signedWindows := windowResult.map (·.2.record)
    siemDeliveries := siemResult.map (·.2.record)
    backupMetadata := (db.auditBackupMetadata.get? tenantBoundary).getD []
    backups := Table.hydrated (·.record) (Table.rowsOf tenantBoundary db.auditBackups) }

section
variable (store : ExternalAppendOnlyAuditStore)

/-- mirrors packages/persistence-postgres/src/audit-store.ts:73-76 -/
def readAuditRecords (H : Host) : Except String (List ReferenceAuditEventStoreRecord) := do
  assertSequenceContinuity H 0 store.auditRecords
  return store.auditRecords.map auditRecordCopy

/-- mirrors packages/persistence-postgres/src/audit-store.ts:78-99 -/
def appendAuditRecord (record : ReferenceAuditEventStoreRecord) :
    Except String (ExternalAppendOnlyAuditStore × Option Write) :=
  if store.auditRecords.any fun entry => entry.event.eventId = record.event.eventId then
    .error ("Reference audit event " ++ record.event.eventId ++ " has already been appended.")
  else
    let persistedRecord := auditRecordCopy record
    .ok ({ store with auditRecords := store.auditRecords ++ [persistedRecord] },
      some (.auditRecord persistedRecord))

/-- mirrors packages/persistence-postgres/src/audit-store.ts:105-119 -/
def appendEvidenceRecord (record : ReferenceEvidenceStoreRecord) :
    Except String (ExternalAppendOnlyAuditStore × Option Write) :=
  if store.evidenceRecords.any fun entry => entry.exportId = record.exportId then
    .error ("Reference evidence package " ++ record.exportId ++ " has already been retained.")
  else
    let persistedRecord := evidenceRecordCopy record
    .ok ({ store with evidenceRecords := store.evidenceRecords ++ [persistedRecord] },
      some (.evidenceRecord persistedRecord))

/-- mirrors packages/persistence-postgres/src/audit-store.ts:125-139 -/
def appendSignedWindow (window : ReferenceSignedAuditWindow) :
    Except String (ExternalAppendOnlyAuditStore × Option Write) :=
  if store.signedWindows.any fun entry => entry.windowId = window.windowId then
    .error ("Reference audit window " ++ window.windowId ++ " has already been signed.")
  else
    .ok ({ store with signedWindows := store.signedWindows ++ [window] },
      some (.signedWindow window))

/-- mirrors packages/persistence-postgres/src/audit-store.ts:145-165 -/
def appendSiemDeliveryLogEntry (delivery : ReferenceSiemDeliveryRecord) :
    Except String (ExternalAppendOnlyAuditStore × Option Write) :=
  if store.siemDeliveries.any fun entry => entry.deliveryId = delivery.deliveryId then
    .error ("Reference SIEM delivery " ++ delivery.deliveryId ++ " has already been recorded.")
  else
    .ok ({ store with siemDeliveries := store.siemDeliveries ++ [delivery] },
      some (.siemDelivery delivery))

/-- mirrors packages/persistence-postgres/src/audit-store.ts:171-182 -/
def writeBackupMetadata (metadata : List ReferenceRepositoryBackupMetadata) :
    Except String (ExternalAppendOnlyAuditStore × Option Write) :=
  .ok ({ store with backupMetadata := metadata }, some (.backupMetadata metadata))

/-- mirrors packages/persistence-postgres/src/audit-store.ts:184-186 -/
def readBackup (id : CanonicalId) : Option ReferenceAuditStoreBackup :=
  (store.backups.get? id).map backupCopy

/-- mirrors packages/persistence-postgres/src/audit-store.ts:188-199 -/
def writeBackup (id : CanonicalId) (backup : ReferenceAuditStoreBackup) :
    Except String (ExternalAppendOnlyAuditStore × Option Write) :=
  let persistedBackup := backupCopy backup
  .ok ({ store with backups := store.backups.set id persistedBackup },
    some (.backup id persistedBackup))

/-- mirrors packages/persistence-postgres/src/audit-store.ts:201-215 -/
def restoreSnapshot (snapshot : AuditSnapshot) :
    Except String (ExternalAppendOnlyAuditStore × Option Write) :=
  let persistedSnapshot := snapshotCopy snapshot
  .ok ({ store with toAuditSnapshot := snapshotCopy persistedSnapshot },
    some (.restoreSnapshot persistedSnapshot))

end

/-- A call of the store. The reads answer with copies and send nothing. -/
inductive Operation
  | read
  | appendAuditRecord (record : ReferenceAuditEventStoreRecord)
  | appendEvidenceRecord (record : ReferenceEvidenceStoreRecord)
  | appendSignedWindow (window : ReferenceSignedAuditWindow)
  | appendSiemDeliveryLogEntry (delivery : ReferenceSiemDeliveryRecord)
  | writeBackupMetadata (metadata : List ReferenceRepositoryBackupMetadata)
  | writeBackup (id : CanonicalId) (backup : ReferenceAuditStoreBackup)
  | restoreSnapshot (snapshot : AuditSnapshot)

def perform (store : ExternalAppendOnlyAuditStore) :
    Operation → Except String (ExternalAppendOnlyAuditStore × Option Write)
  | .read => .ok (store, none)
  | .appendAuditRecord record => appendAuditRecord store record
  | .appendEvidenceRecord record => appendEvidenceRecord store record
  | .appendSignedWindow window => appendSignedWindow store window
  | .appendSiemDeliveryLogEntry delivery => appendSiemDeliveryLogEntry store delivery
  | .writeBackupMetadata metadata => writeBackupMetadata store metadata
  | .writeBackup id backup => writeBackup store id backup
  | .restoreSnapshot snapshot => restoreSnapshot store snapshot

/-- The store of a tenant, its writes chained by `#enqueue`.
mirrors packages/persistence-postgres/src/audit-store.ts:266-270 -/
def postgresAuditStore (tenantBoundary : String) :
    WriteBehind Operation ExternalAppendOnlyAuditStore Write Database where
  perform op store := perform store op
  apply w store := w.apply store
  execute w db := transaction tenantBoundary w.statements db

/-! ## What a statement does -/

/-- What the rows of a tenant say, in the order in which they were written. -/
structure Content extends AuditSnapshot where
  backups : CanonicalId → Option ReferenceAuditStoreBackup

def content (tenantBoundary : String) (db : Database) : Content where
  auditRecords := (Table.rowsOf tenantBoundary db.auditRecords).map (·.2.record)
  evidenceRecords := (Table.rowsOf tenantBoundary db.auditEvidenceRecords).map (·.2.record)
  signedWindows := (Table.rowsOf tenantBoundary db.auditSignedWindows).map (·.2.record)
  siemDeliveries := (Table.rowsOf tenantBoundary db.auditSiemDeliveries).map (·.2.record)
  backupMetadata := (db.auditBackupMetadata.get? tenantBoundary).getD []
  backups id := (db.auditBackups.get? (tenantBoundary, id)).map (·.record)

def Statement.effect (c : Content) : Statement → Content
  | .setLocalAllowRestore => c
  | .deleteTenant .auditRecords => { c with auditRecords := [] }
  | .deleteTenant .auditEvidenceRecords => { c with evidenceRecords := [] }
  | .deleteTenant .auditSignedWindows => { c with signedWindows := [] }
  | .deleteTenant .auditSiemDeliveries => { c with siemDeliveries := [] }
  | .insertAuditRecord record => { c with auditRecords := c.auditRecords ++ [record] }
  | .insertEvidenceRecord record => { c with evidenceRecords := c.evidenceRecords ++ [record] }
  | .insertSignedWindow window => { c with signedWindows := c.signedWindows ++ [window] }
  | .insertSiemDelivery delivery => { c with siemDeliveries := c.siemDeliveries ++ [delivery] }
  | .upsertBackupMetadata metadata => { c with backupMetadata := metadata }
  | .upsertBackup id backup =>
    { c with backups := fun other => if id = other then some backup else c.backups other }

section
variable {tenantBoundary : String}

theorem rowsOf_deleteGuarded {K V : Type} [DecidableEq K] {allowed : Bool}
    {table table' : Table String K V}
    (h : deleteGuarded tenantBoundary allowed table = some table') :
    Table.rowsOf tenantBoundary table' = [] := by
  unfold deleteGuarded at h
  split at h
  · obtain rfl := Option.some.inj h
    exact Table.rowsOf_deleteOf tenantBoundary table
  · cases h

theorem content_run {tx tx' : Transaction} {statement : Statement}
    (h : run tenantBoundary tx statement = some tx') :
    content tenantBoundary tx'.db = statement.effect (content tenantBoundary tx.db) := by
  cases statement with
  | setLocalAllowRestore =>
    obtain rfl := Option.some.inj h
    rfl
  | deleteTenant table =>
    cases table <;>
    · obtain ⟨table, htable, rfl⟩ := Option.map_eq_some_iff.1 h
      simp [content, Statement.effect, rowsOf_deleteGuarded htable]
  | insertAuditRecord record =>
    rw [run] at h
    split at h
    · cases h
    · obtain ⟨table, htable, rfl⟩ := Option.map_eq_some_iff.1 h
      simp [content, Statement.effect, Table.rowsOf_insert htable]
  | insertEvidenceRecord record =>
    obtain ⟨table, htable, rfl⟩ := Option.map_eq_some_iff.1 h
    simp [content, Statement.effect, Table.rowsOf_insert htable]
  | insertSignedWindow window =>
    obtain ⟨table, htable, rfl⟩ := Option.map_eq_some_iff.1 h
    simp [content, Statement.effect, Table.rowsOf_insert htable]
  | insertSiemDelivery delivery =>
    obtain ⟨table, htable, rfl⟩ := Option.map_eq_some_iff.1 h
    simp [content, Statement.effect, Table.rowsOf_insert htable]
  | upsertBackupMetadata metadata =>
    obtain rfl := Option.some.inj h
    simp [content, Statement.effect]
  | upsertBackup id backup =>
    obtain rfl := Option.some.inj h
    simp only [content, Statement.effect, Content.mk.injEq, true_and]
    funext other
    simp [OrderedMap.map_get?_set]

theorem content_transaction {statements : List Statement} {db db' : Database}
    (h : transaction tenantBoundary statements db = some db') :
    content tenantBoundary db' =
      statements.foldl Statement.effect (content tenantBoundary db) := by
  obtain ⟨tx', hfold, rfl⟩ := Option.map_eq_some_iff.1 h
  suffices hrun : ∀ tx : Transaction, statements.foldlM (run tenantBoundary) tx = some tx' →
      content tenantBoundary tx'.db =
        statements.foldl Statement.effect (content tenantBoundary tx.db) from hrun _ hfold
  clear h hfold
  induction statements with
  | nil =>
    intro tx htx
    obtain rfl := Option.some.inj htx
    rfl
  | cons statement statements ih =>
    intro tx htx
    obtain ⟨next, hnext, hrest⟩ := Option.bind_eq_some_iff.1 htx
    rw [ih next hrest, content_run hnext]
    rfl

/-- Inserts of one kind only add to their list. -/
theorem foldl_insert {α : Type} {insert : α → Statement} (list : Content → List α)
    (put : Content → List α → Content)
    (heffect : ∀ c a, (insert a).effect c = put c (list c ++ [a]))
    (hlist : ∀ c l, list (put c l) = l) (hput : ∀ c l l', put (put c l) l' = put c l')
    (hself : ∀ c, put c (list c) = c) (items : List α) (c : Content) :
    (items.map insert).foldl Statement.effect c = put c (list c ++ items) := by
  induction items generalizing c with
  | nil => simp [hself]
  | cons item items ih =>
    rw [List.map_cons, List.foldl_cons, heffect, ih, hput, hlist, List.append_assoc,
      List.singleton_append]

theorem foldl_restore (snapshot : AuditSnapshot) (c : Content) :
    (restoreStatements snapshot).foldl Statement.effect c =
      { c with toAuditSnapshot := snapshot } := by
  simp only [restoreStatements, List.foldl_append, List.foldl_cons, List.foldl_nil]
  rw [foldl_insert (·.auditRecords) (fun c l => { c with auditRecords := l })
      (fun _ _ => rfl) (fun _ _ => rfl) (fun _ _ _ => rfl) (fun _ => rfl),
    foldl_insert (·.evidenceRecords) (fun c l => { c with evidenceRecords := l })
      (fun _ _ => rfl) (fun _ _ => rfl) (fun _ _ _ => rfl) (fun _ => rfl),
    foldl_insert (·.signedWindows) (fun c l => { c with signedWindows := l })
      (fun _ _ => rfl) (fun _ _ => rfl) (fun _ _ _ => rfl) (fun _ => rfl),
    foldl_insert (·.siemDeliveries) (fun c l => { c with siemDeliveries := l })
      (fun _ _ => rfl) (fun _ _ => rfl) (fun _ _ _ => rfl) (fun _ => rfl)]
  simp [Statement.effect]

/-! ## The memory and the rows -/

/-- The content of the memory: the same lists up to their order, the same metadata and the
same backups. -/
structure Content.Same (c : Content) (store : ExternalAppendOnlyAuditStore) : Prop where
  auditRecords : c.auditRecords.Perm store.auditRecords
  evidenceRecords : c.evidenceRecords.Perm store.evidenceRecords
  signedWindows : c.signedWindows.Perm store.signedWindows
  siemDeliveries : c.siemDeliveries.Perm store.siemDeliveries
  backupMetadata : c.backupMetadata = store.backupMetadata
  backups : ∀ id, c.backups id = store.backups.get? id

/-- The rows of the tenant are the content of the memory. -/
def Mirrors (tenantBoundary : String) (store : ExternalAppendOnlyAuditStore) (db : Database) :
    Prop :=
  (content tenantBoundary db).Same store

/-- A write does to the rows what it did to the memory. -/
theorem Mirrors.execute {store : ExternalAppendOnlyAuditStore} {db db' : Database} {w : Write}
    (h : Mirrors tenantBoundary store db)
    (hdb : transaction tenantBoundary w.statements db = some db') :
    Mirrors tenantBoundary (w.apply store) db' := by
  rw [Mirrors, content_transaction hdb]
  rw [Mirrors] at h
  cases w with
  | auditRecord record => exact { h with auditRecords := h.auditRecords.append_right _ }
  | evidenceRecord record => exact { h with evidenceRecords := h.evidenceRecords.append_right _ }
  | signedWindow window => exact { h with signedWindows := h.signedWindows.append_right _ }
  | siemDelivery delivery => exact { h with siemDeliveries := h.siemDeliveries.append_right _ }
  | backupMetadata metadata => exact { h with backupMetadata := rfl }
  | backup id saved =>
    refine { h with backups := fun other => ?_ }
    rw [Write.apply, OrderedMap.get?_set, ← h.backups other]
    rfl
  | restoreSnapshot snapshot =>
    rw [Write.statements, foldl_restore]
    exact ⟨.refl _, .refl _, .refl _, .refl _, rfl, h.backups⟩

theorem hydrate_ok {H : Host} {timestamptz : String → Int} {db : Database}
    {store : ExternalAppendOnlyAuditStore}
    (h : hydrate H timestamptz tenantBoundary db = .ok store) :
    Mirrors tenantBoundary store db := by
  obtain ⟨-, -, hstore⟩ := bind_ok.1 h
  obtain rfl := Except.ok.inj hstore
  exact
    { auditRecords := (List.mergeSort_perm ..).symm.map _
      evidenceRecords := (List.mergeSort_perm ..).symm.map _
      signedWindows := (List.mergeSort_perm ..).symm.map _
      siemDeliveries := (List.mergeSort_perm ..).symm.map _
      backupMetadata := rfl
      backups := fun id => by
        change _ = (Table.hydrated _ _).get? id
        rw [Table.get?_hydrated _ (Table.nodup_rowsOf _ _), Table.get?_rowsOf]
        rfl }

theorem auditRecordCopy_copy (record : ReferenceAuditEventStoreRecord) :
    auditRecordCopy (auditRecordCopy record) = auditRecordCopy record := by
  simp [auditRecordCopy]

theorem evidenceRecordCopy_copy (record : ReferenceEvidenceStoreRecord) :
    evidenceRecordCopy (evidenceRecordCopy record) = evidenceRecordCopy record := by
  have h := clone_clone (.obj record.evidence)
  simp only [clone, JsValue.obj.injEq] at h
  simp only [evidenceRecordCopy, h]

theorem snapshotCopy_copy (snapshot : AuditSnapshot) :
    snapshotCopy (snapshotCopy snapshot) = snapshotCopy snapshot := by
  simp [snapshotCopy, Function.comp_def, auditRecordCopy_copy, evidenceRecordCopy_copy]

theorem faithful (tenantBoundary : String) : (postgresAuditStore tenantBoundary).Faithful where
  written {op store store' w} h := by
    change perform store op = .ok (store', some w) at h
    cases op with
    | read => cases h
    | appendAuditRecord record | appendEvidenceRecord record | appendSignedWindow window
      | appendSiemDeliveryLogEntry delivery =>
      simp only [perform, appendAuditRecord, appendEvidenceRecord, appendSignedWindow,
        appendSiemDeliveryLogEntry] at h
      split at h
      · cases h
      · cases h
        rfl
    | writeBackupMetadata metadata | writeBackup id backup =>
      cases h
      rfl
    | restoreSnapshot snapshot =>
      cases h
      simp [postgresAuditStore, Write.apply, snapshotCopy_copy]
  unwritten {op store store'} h := by
    change perform store op = .ok (store', none) at h
    cases op with
    | read =>
      cases h
      rfl
    | appendAuditRecord record | appendEvidenceRecord record | appendSignedWindow window
      | appendSiemDeliveryLogEntry delivery =>
      simp only [perform, appendAuditRecord, appendEvidenceRecord, appendSignedWindow,
        appendSiemDeliveryLogEntry] at h
      split at h <;> cases h
    | writeBackupMetadata metadata | writeBackup id backup | restoreSnapshot snapshot => cases h

end

end AccessKit.L7.AuditStore
