import AccessKit.L7Persistence.LocalRepositories

/-!
# The reference adapters that persist a whole snapshot

packages/core/src/reference-repositories.ts: `ReferenceGraphStoreAdapter` and
`ReferenceConnectorStateStoreAdapter`. Both check what they are given against a tenant
boundary and for keys of secret material, change the snapshot that they keep in memory and
write all of it to a store from outside. The store holds what was last written to it, or a
write throws.

Results:
* `ReferenceAdapter.failsClean_persist`: a write that throws leaves memory and store as they are.
* `ReferenceAdapter.persist_ok`: a write that does not, leaves memory and store the same.
-/
namespace AccessKit.L7
open AccessKit.Core AccessKit.L1 AccessKit.L3
open AccessKit.L2.Audit (hashReference ReferenceRepositoryBackupMetadata)
open AccessKit.L2.Store (GraphRecord GraphKey)
open AccessKit.L2.Store.InMemoryRebacStore (RebacSeedData markDeleted)
open AccessKit.L5 (RebacJobSnapshot JobRecord JobKey RuntimeRecord)
open AccessKit.L6 (assertNoSecretMaterial assertJobTenantBoundary assertRecordTenant recordLabel)

/-- What a store holds for a graph or for the connector state.
mirrors packages/core/src/reference-repositories.ts:98-116 -/
structure ReferenceSnapshotRecord (S : Type) where
  version : String
  storedAt : IsoDateTime
  tenantBoundary : String
  hash : String
  snapshot : S
  entityCounts : List (String × Nat)
  backupMetadata : List ReferenceRepositoryBackupMetadata

/-- mirrors packages/core/src/reference-repositories.ts:132-134 -/
structure ExternalSnapshotStore (S : Type) where
  current : Option (ReferenceSnapshotRecord S)
  backups : OrderedMap CanonicalId (ReferenceSnapshotRecord S)

/-- What the writes of a store throw, when they do.
mirrors packages/core/src/reference-repositories.ts:90-96 -/
structure WriteFailures where
  writeCurrent : Option String
  writeBackup : Option String

/-- How an adapter checks and names what it stores. -/
structure ReferenceFormat (S R K : Type) [DecidableEq K] extends SnapshotFormat S R K where
  component : String
  recordVersion : String
  recordLabel : String
  payloadName : String
  snapshotLabel : String
  backupMissingLabel : String
  assertTenantBoundary : String → S → Except String Unit
  /-- What a record must be to be written to a snapshot. -/
  assertRecord : Host → String → S → R → Except String Unit
  /-- When a record is stored. -/
  storedAt : IsoDateTime → R → IsoDateTime

/-- The options of an adapter. The tenant boundary is not empty. -/
structure ReferenceAdapter where
  host : Host
  tenantBoundary : String
  location : String
  tenantBoundary_ne : tenantBoundary ≠ ""

theorem defaultBoundary_ne : "tenant:default" ≠ "" := by decide

/-- The snapshot and the backups that an adapter knows of. -/
@[ext] structure ReferenceMemory {S R K : Type} [DecidableEq K] (F : ReferenceFormat S R K) where
  memory : Memory F.toSnapshots
  backupMetadata : List ReferenceRepositoryBackupMetadata

/-- The memory, the store and the answer after a call. -/
abbrev StoreOutcome {S R K : Type} [DecidableEq K] (F : ReferenceFormat S R K) (α : Type) : Type :=
  ReferenceMemory F × ExternalSnapshotStore S × Except String α

namespace ReferenceAdapter

section
variable {S R K : Type} [DecidableEq K] (F : ReferenceFormat S R K) (adapter : ReferenceAdapter)

/-- mirrors packages/core/src/reference-repositories.ts:395-412, and
reference-job-snapshot-store.ts:128-146 with reference-repositories.ts:696-706 -/
def createRecord (storedAt : IsoDateTime) (snapshot : S)
    (backupMetadata : List ReferenceRepositoryBackupMetadata) :
    Except String (ReferenceSnapshotRecord S) := do
  F.assertTenantBoundary adapter.tenantBoundary snapshot
  assertNoSecretMaterial adapter.host (F.toJs snapshot) F.snapshotLabel
  return { version := F.recordVersion, storedAt, tenantBoundary := adapter.tenantBoundary,
           hash := hashReference adapter.host (F.toJs snapshot), snapshot,
           entityCounts := F.countEntities snapshot, backupMetadata }

/-- mirrors packages/core/src/reference-repositories.ts:709-725 and
reference-job-snapshot-store.ts:164-183 -/
def validateRecord (record : ReferenceSnapshotRecord S) :
    Except String (ReferenceSnapshotRecord S) :=
  if record.version ≠ F.recordVersion then
    .error (F.recordLabel ++ " must use the " ++ F.recordVersion ++ " envelope.")
  else if record.tenantBoundary ≠ adapter.tenantBoundary then
    .error (F.recordLabel ++ " tenant boundary does not match the configured tenant boundary.")
  else if record.hash ≠ hashReference adapter.host (F.toJs record.snapshot) then
    .error (F.recordLabel ++ " hash does not match the stored " ++ F.payloadName ++ " payload.")
  else do
    F.assertTenantBoundary adapter.tenantBoundary record.snapshot
    assertNoSecretMaterial adapter.host (F.toJs record.snapshot) F.snapshotLabel
    return { record with snapshot := F.copyAll record.snapshot }

/-- What an adapter has in memory of a record. -/
def remember (record : ReferenceSnapshotRecord S) : ReferenceMemory F where
  memory := Memory.load F.toSnapshots record.snapshot
  backupMetadata := record.backupMetadata

/-- What an adapter has in memory when it is opened on a store.
mirrors packages/core/src/reference-repositories.ts:173-183 and 423-446 -/
def openOn (store : ExternalSnapshotStore S) : Except String (ReferenceMemory F) :=
  match store.current with
  | none => .ok { memory := Memory.load F.toSnapshots F.empty, backupMetadata := [] }
  | some stored => (adapter.validateRecord F stored).map (remember F)

/-- mirrors packages/core/src/reference-repositories.ts:344-352 and
reference-job-snapshot-store.ts:104-112 -/
def readBackup (store : ExternalSnapshotStore S) (id : CanonicalId) :
    Except String (ReferenceSnapshotRecord S) :=
  match store.backups.get? id with
  | none => .error (F.backupMissingLabel ++ " " ++ id ++ " does not exist.")
  | some backup => adapter.validateRecord F backup

variable (failures : WriteFailures) (now : IsoDateTime)

/-- mirrors packages/core/src/reference-repositories.ts:379-393 and 678-694 -/
def persist (storedAt : IsoDateTime) (memory : ReferenceMemory F)
    (store : ExternalSnapshotStore S) : StoreOutcome F StorageReceipt :=
  match adapter.createRecord F storedAt (F.copyAll memory.memory.snapshot)
      memory.backupMetadata with
  | .error message => (memory, store, .error message)
  | .ok record =>
    match failures.writeCurrent with
    | some message => (memory, store, .error message)
    | none =>
      (remember F record, { store with current := some record },
        .ok { storedAt, backend := "external", location := adapter.location, hash := record.hash,
              entityCounts := record.entityCounts, version := F.receiptVersion })

/-! ## Calls -/

section
variable (memory : ReferenceMemory F) (store : ExternalSnapshotStore S)

/-- A record that is written, once it is checked. -/
def writeRecord (r : R) : StoreOutcome F (RepositoryAnswer R) :=
  changeThenPersist (adapter.persist F failures (F.storedAt now r))
    (fun memory =>
      (F.assertRecord adapter.host adapter.tenantBoundary memory.memory.snapshot r).map fun _ =>
        { memory with memory := memory.memory.upsert r })
    (fun _ => .record (some (F.copy r))) memory store

/-- mirrors packages/core/src/reference-repositories.ts:298-300 and 636-638 -/
def flush (storedAt : Option IsoDateTime) : StoreOutcome F (RepositoryAnswer R) :=
  changeThenPersist (adapter.persist F failures (storedAt.getD now)) .ok .receipt memory store

/-- mirrors packages/core/src/reference-repositories.ts:302-321 and 640-657 -/
def createBackup (id : CanonicalId) (createdAt : Option IsoDateTime) :
    StoreOutcome F (RepositoryAnswer R) :=
  let createdAt := createdAt.getD now
  let snapshot := F.copyAll memory.memory.snapshot
  let metadata : ReferenceRepositoryBackupMetadata :=
    { id, component := F.component, createdAt, location := adapter.location ++ "#backup:" ++ id,
      snapshotHash := hashReference adapter.host (F.toJs snapshot),
      tenantBoundary := adapter.tenantBoundary, entityCounts := F.countEntities snapshot,
      version := "production-repository-backup:v1" }
  match adapter.createRecord F createdAt snapshot (memory.backupMetadata ++ [metadata]) with
  | .error message => (memory, store, .error message)
  | .ok record =>
    match failures.writeCurrent with
    | some message => (memory, store, .error message)
    | none =>
      let store := { store with current := some record }
      match failures.writeBackup with
      | some message => (memory, store, .error message)
      | none =>
        (remember F record, { store with backups := store.backups.set id record },
          .ok (.backup metadata))

/-- mirrors packages/core/src/reference-repositories.ts:323-328 and 659-664 -/
def restoreBackup (id : CanonicalId) (restoredAt : Option IsoDateTime) :
    StoreOutcome F (RepositoryAnswer R) :=
  changeThenPersist (adapter.persist F failures (restoredAt.getD now))
    (fun _ => (adapter.readBackup F store id).map (remember F)) .receipt memory store

end

variable {F adapter failures now}

/-- **A write that throws** leaves the memory and the store as they are. -/
theorem failsClean_persist (storedAt : IsoDateTime) :
    FailsClean (adapter.persist F failures storedAt) := by
  intro memory store e herror
  unfold persist at herror ⊢
  cases hrecord : adapter.createRecord F storedAt (F.copyAll memory.memory.snapshot)
      memory.backupMetadata with
  | error message =>
    rw [hrecord] at herror
    exact congrArg (fun answered => (memory, store, answered)) herror
  | ok record =>
    rw [hrecord] at herror
    cases hwrite : failures.writeCurrent with
    | some message =>
      rw [hwrite] at herror
      exact congrArg (fun answered => (memory, store, answered)) herror
    | none =>
      rw [hwrite] at herror
      cases herror

theorem createRecord_ok {storedAt : IsoDateTime} {snapshot : S}
    {backupMetadata : List ReferenceRepositoryBackupMetadata}
    {record : ReferenceSnapshotRecord S}
    (h : adapter.createRecord F storedAt snapshot backupMetadata = .ok record) :
    record.snapshot = snapshot ∧ record.backupMetadata = backupMetadata := by
  obtain ⟨_, -, h⟩ := L2.Audit.bind_ok.1 h
  obtain ⟨_, -, h⟩ := L2.Audit.bind_ok.1 h
  cases h
  exact ⟨rfl, rfl⟩

theorem validateRecord_ok {record validated : ReferenceSnapshotRecord S}
    (h : adapter.validateRecord F record = .ok validated) :
    validated = { record with snapshot := F.copyAll record.snapshot } := by
  unfold validateRecord at h
  split_ifs at h
  obtain ⟨_, -, h⟩ := L2.Audit.bind_ok.1 h
  obtain ⟨_, -, h⟩ := L2.Audit.bind_ok.1 h
  exact (Except.ok.inj h).symm

theorem copied_readBackup {store : ExternalSnapshotStore S} {id : CanonicalId}
    {backup : ReferenceSnapshotRecord S} (h : adapter.readBackup F store id = .ok backup) :
    F.copyAll backup.snapshot = backup.snapshot := by
  unfold readBackup at h
  cases hbackup : store.backups.get? id with
  | none =>
    rw [hbackup] at h
    cases h
  | some stored =>
    rw [hbackup] at h
    rw [validateRecord_ok h]
    exact F.copyAll_copyAll stored.snapshot

theorem remember_createRecord {storedAt : IsoDateTime} {memory : ReferenceMemory F}
    {backupMetadata : List ReferenceRepositoryBackupMetadata} {record : ReferenceSnapshotRecord S}
    (h : adapter.createRecord F storedAt (F.copyAll memory.memory.snapshot) backupMetadata =
      .ok record) :
    remember F record = { memory with backupMetadata } ∧
      record.snapshot = memory.memory.snapshot := by
  obtain ⟨hsnapshot, hmetadata⟩ := createRecord_ok h
  rw [memory.memory.copied] at hsnapshot
  refine ⟨?_, hsnapshot⟩
  unfold remember
  rw [hsnapshot, hmetadata, Memory.load_snapshot]

/-- **A write that does not throw** stores what is in memory. -/
theorem persist_ok {storedAt : IsoDateTime} {memory : ReferenceMemory F}
    {store : ExternalSnapshotStore S} {receipt : StorageReceipt}
    (h : (adapter.persist F failures storedAt memory store).2.2 = .ok receipt) :
    (adapter.persist F failures storedAt memory store).1 = memory ∧
      ∃ record, record.snapshot = memory.memory.snapshot ∧
        record.backupMetadata = memory.backupMetadata ∧
        (adapter.persist F failures storedAt memory store).2.1 =
          { store with current := some record } := by
  unfold persist at h ⊢
  cases hrecord : adapter.createRecord F storedAt (F.copyAll memory.memory.snapshot)
      memory.backupMetadata with
  | error message =>
    rw [hrecord] at h
    cases h
  | ok record =>
    rw [hrecord] at h
    cases hwrite : failures.writeCurrent with
    | some message =>
      rw [hwrite] at h
      cases h
    | none =>
      obtain ⟨hremember, hsnapshot⟩ := remember_createRecord hrecord
      exact ⟨hremember, record, hsnapshot, (createRecord_ok hrecord).2, rfl⟩

end

end ReferenceAdapter

/-! ## The graph -/

/-- mirrors packages/core/src/reference-repositories.ts:739-748 -/
def assertEntityTenant (attributes : Option JsonRecord) (tenantBoundary label : String) :
    Except String Unit :=
  match JsonRecord.get (attributes.getD []) "tenantId" with
  | .str tenantId =>
    if tenantId = "" then
      .error (label ++ " must include attributes.tenantId for production persistence.")
    else if tenantId ≠ tenantBoundary then
      .error (label ++ " crosses the configured tenant boundary.")
    else .ok ()
  | _ => .error (label ++ " must include attributes.tenantId for production persistence.")

/-- mirrors packages/core/src/reference-repositories.ts:750-756 -/
def assertOptionalTenantAttribute (attributes : Option JsonRecord)
    (tenantBoundary label : String) : Except String Unit :=
  let tenantId := JsonRecord.get (attributes.getD []) "tenantId"
  if !tenantId.isUndefined && !tenantId.strictEq (.str tenantBoundary) then
    .error (label ++ " crosses the configured tenant boundary.")
  else .ok ()

/-- mirrors packages/core/src/reference-repositories.ts:727-737 -/
def assertGraphTenantBoundary (tenantBoundary : String) (graph : RebacSeedData) :
    Except String Unit := do
  graph.subjects.forM fun s => assertEntityTenant s.attributes tenantBoundary ("Subject " ++ s.id)
  graph.resources.forM fun r => assertEntityTenant r.attributes tenantBoundary ("Resource " ++ r.id)
  graph.relationships.forM fun t =>
    assertOptionalTenantAttribute t.attributes tenantBoundary ("Relationship " ++ t.id)

/-- The two ends of a tuple or a native grant: a subject and a resource that are stored.
mirrors packages/core/src/reference-repositories.ts:354-377 -/
def assertEndsTenant (tenantBoundary : String) (graph : RebacSeedData) (label : String)
    (subjectId objectId : CanonicalId) : Except String Unit :=
  match findBy (·.id) graph.subjects subjectId, findBy (·.id) graph.resources objectId with
  | some subject, some resource => do
    assertEntityTenant subject.attributes tenantBoundary (label ++ " subject " ++ subject.id)
    assertEntityTenant resource.attributes tenantBoundary (label ++ " resource " ++ resource.id)
  | _, _ =>
    .error (label ++ " must reference existing tenant-bound subject and resource records.")

/-- mirrors packages/core/src/reference-repositories.ts:354-365 -/
def assertRelationshipTenant (tenantBoundary : String) (graph : RebacSeedData)
    (relationship : RelationshipTuple) : Except String Unit := do
  assertEndsTenant tenantBoundary graph ("Relationship " ++ relationship.id)
    relationship.subjectId relationship.objectId
  assertOptionalTenantAttribute relationship.attributes tenantBoundary
    ("Relationship " ++ relationship.id)

/-- mirrors packages/core/src/reference-repositories.ts:367-377 -/
def assertNativeGrantTenant (tenantBoundary : String) (graph : RebacSeedData)
    (grant : NativeGrant) : Except String Unit :=
  assertEndsTenant tenantBoundary graph ("Native grant " ++ grant.id) grant.subjectId
    grant.targetObjectId

/-- What a record of a graph is checked for before it is written.
mirrors packages/core/src/reference-repositories.ts:205-211, 221-227, 245-251 and 286-292 -/
def assertGraphRecord (H : Host) (tenantBoundary : String) (graph : RebacSeedData) :
    GraphRecord → Except String Unit
  | .subject s => do
    assertEntityTenant s.attributes tenantBoundary ("Subject " ++ s.id)
    assertNoSecretMaterial H (subjectToJs s) ("Subject " ++ s.id)
  | .resource r => do
    assertEntityTenant r.attributes tenantBoundary ("Resource " ++ r.id)
    assertNoSecretMaterial H (resourceToJs r) ("Resource " ++ r.id)
  | .relationship t => do
    assertRelationshipTenant tenantBoundary graph t
    assertNoSecretMaterial H (relationshipToJs t) ("Relationship " ++ t.id)
  | .nativeGrant g => do
    assertNativeGrantTenant tenantBoundary graph g
    assertNoSecretMaterial H (nativeGrantToJs g) ("Native grant " ++ g.id)

def referenceGraph : ReferenceFormat RebacSeedData GraphRecord GraphKey where
  toSnapshotFormat := graphSnapshots
  component := "graph"
  recordVersion := "production-graph-store:v1"
  recordLabel := "Reference graph store"
  payloadName := "graph"
  snapshotLabel := "Reference graph snapshot"
  backupMissingLabel := "Reference graph backup"
  assertTenantBoundary := assertGraphTenantBoundary
  assertRecord := assertGraphRecord
  storedAt now _ := now

/-- The calls of an adapter: those of a repository, and its backups. -/
inductive ReferenceCall (Call : Type)
  | call (call : Call)
  | createBackup (id : CanonicalId) (createdAt : Option IsoDateTime)
  | restoreBackup (id : CanonicalId) (restoredAt : Option IsoDateTime)

namespace ReferenceGraphStoreAdapter

section
variable (adapter : ReferenceAdapter) (failures : WriteFailures) (now : IsoDateTime)
  (memory : ReferenceMemory referenceGraph) (store : ExternalSnapshotStore RebacSeedData)

/-- mirrors packages/core/src/reference-repositories.ts:205-292 -/
def upsert (r : GraphRecord) : StoreOutcome referenceGraph (RepositoryAnswer GraphRecord) :=
  adapter.writeRecord referenceGraph failures now memory store r

/-- mirrors packages/core/src/reference-repositories.ts:253-268 -/
def deleteRelationship (id : CanonicalId) (deletedAt : IsoDateTime) :
    StoreOutcome referenceGraph (RepositoryAnswer GraphRecord) :=
  match findBy (·.id) memory.memory.snapshot.relationships id with
  | none => (memory, store, .ok (.record none))
  | some relationship =>
    let deleted := GraphRecord.relationship (markDeleted relationship deletedAt)
    changeThenPersist (adapter.persist referenceGraph failures now)
      (fun memory => .ok { memory with memory := memory.memory.upsert deleted })
      (fun _ => .record (some deleted.copy)) memory store

def perform : ReferenceCall GraphCall →
    StoreOutcome referenceGraph (RepositoryAnswer GraphRecord)
  | .call (.upsert r) => upsert adapter failures now memory store r
  | .call (.deleteRelationship id deletedAt) =>
    deleteRelationship adapter failures now memory store id deletedAt
  | .call (.flush storedAt) => adapter.flush referenceGraph failures now memory store storedAt
  | .createBackup id createdAt =>
    adapter.createBackup referenceGraph failures now memory store id createdAt
  | .restoreBackup id restoredAt =>
    adapter.restoreBackup referenceGraph failures now memory store id restoredAt

end

end ReferenceGraphStoreAdapter

/-! ## The connector state -/

/-- What a record of the runtime is checked for before it is written.
mirrors packages/core/src/reference-repositories.ts:467-626 -/
def assertJobRecord (H : Host) (tenantBoundary : String) (jobs : RebacJobSnapshot)
    (r : JobRecord) : Except String Unit := do
  assertRecordTenant tenantBoundary r
  assertNoSecretMaterial H (L6.JobRecord.toJs r) (recordLabel r)
  JobRecord.assertNotRecorded (L6.findRecord jobs r.key) r

/-- A decision is stored at the time it was made, which is a text.
mirrors packages/core/src/reference-repositories.ts:621-626 -/
def jobStoredAt (now : IsoDateTime) : JobRecord → IsoDateTime
  | .record { collection := .decisions, fields, .. } =>
    match JsonRecord.get fields "evaluatedAt" with
    | .str evaluatedAt => evaluatedAt
    | _ => now
  | _ => now

def referenceConnectorState : ReferenceFormat RebacJobSnapshot JobRecord JobKey where
  toSnapshotFormat := jobSnapshots
  component := "connector_state"
  recordVersion := "production-connector-state-store:v1"
  recordLabel := "Reference connector-state store"
  payloadName := "job"
  snapshotLabel := "Reference connector-state snapshot"
  backupMissingLabel := "Reference connector-state backup"
  assertTenantBoundary := assertJobTenantBoundary
  assertRecord := assertJobRecord
  storedAt := jobStoredAt

namespace ReferenceConnectorStateStoreAdapter

section
variable (adapter : ReferenceAdapter) (failures : WriteFailures) (now : IsoDateTime)
  (memory : ReferenceMemory referenceConnectorState)
  (store : ExternalSnapshotStore RebacJobSnapshot)

/-- mirrors packages/core/src/reference-repositories.ts:467-626 -/
def record (r : JobRecord) :
    StoreOutcome referenceConnectorState (RepositoryAnswer JobRecord) :=
  adapter.writeRecord referenceConnectorState failures now memory store r

def perform : ReferenceCall JobCall →
    StoreOutcome referenceConnectorState (RepositoryAnswer JobRecord)
  | .call (.record r) => record adapter failures now memory store r
  | .call (.flush storedAt) =>
    adapter.flush referenceConnectorState failures now memory store storedAt
  | .createBackup id createdAt =>
    adapter.createBackup referenceConnectorState failures now memory store id createdAt
  | .restoreBackup id restoredAt =>
    adapter.restoreBackup referenceConnectorState failures now memory store id restoredAt

end

end ReferenceConnectorStateStoreAdapter

end AccessKit.L7
