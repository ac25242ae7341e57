import AccessKit.L2Audit.Fixtures
import AccessKit.L7Persistence.AuditStore
import AccessKit.L7Persistence.SnapshotStore

/-!
# The write queues of the Postgres stores

A call answers from memory, and its write waits behind the promise of the write before it.
In every run the database has the effect of a prefix of the writes, and nothing after a
write that failed. `waitForPendingWrites` awaits the promise that was last when it was
called ("every write that has been queued so far"): a call that comes while it waits adds
to the memory at once and to the database later.

Results:
* `wait_misses_later_write`: a wait that ends with the database behind the memory.
* `write_queues`: order and waits of both stores.
-/
namespace AccessKit.L7
open AccessKit.Core AccessKit.L1 AccessKit.L2.Audit

variable {O M W D : Type}

/-- In every run the database has a prefix of the writes, and none after one that failed. -/
def WritesInOrder (store : WriteBehind O M W D) (memory : M) (db : D) : Prop :=
  ∀ events world, store.run (.initial memory db) events = some world →
    ∃ n ≤ world.chain.writes.length,
      PromiseChain.carriedOut store.execute (world.chain.writes.take n) db = some world.chain.db ∧
      ∀ i, PromiseChain.promise world.chain.links i = .rejected → n ≤ i + 1

/-- Whenever a wait ends without an error, the database is what the memory is. -/
def WaitsForAll (store : WriteBehind O M W D) (Mirrors : M → D → Prop) (memory : M) (db : D) :
    Prop :=
  ∀ events world, store.run (.initial memory db) events = some world →
    ∀ others later, store.run world others = some later → WriteBehind.Waited world later →
      Mirrors later.memory later.chain.db

/-- Whenever a wait ends without an error, the database has every write from before it, and
it is what the memory is when no write came since. -/
def WaitsForQueued (store : WriteBehind O M W D) (Mirrors : M → D → Prop) (memory : M) (db : D) :
    Prop :=
  ∀ events world, store.run (.initial memory db) events = some world →
    ∀ others later, store.run world others = some later → WriteBehind.Waited world later →
      (∃ n ≥ world.chain.writes.length,
        PromiseChain.carriedOut store.execute (later.chain.writes.take n) db =
          some later.chain.db) ∧
      (later.chain.writes = world.chain.writes → Mirrors later.memory later.chain.db)

section
variable {store : WriteBehind O M W D} {Mirrors : M → D → Prop} {memory : M} {db : D}

theorem writesInOrder (hfaithful : store.Faithful) : WritesInOrder store memory db := by
  intro events world hrun
  obtain ⟨n, hn⟩ := WriteBehind.run_behind hfaithful .initial hrun
  exact ⟨n, hn.sent.le, hn.sent.carried, fun _ hi => hn.sent.le_of_rejected hi⟩

theorem waitsForQueued (hfaithful : store.Faithful) (hopened : Mirrors memory db)
    (hwrite : ∀ w memory db db', Mirrors memory db → store.execute w db = some db' →
      Mirrors (store.apply w memory) db') : WaitsForQueued store Mirrors memory db := by
  intro events world hrun others later hothers hwaited
  obtain ⟨m, hm⟩ := WriteBehind.run_behind hfaithful .initial hrun
  obtain ⟨n, hn⟩ := WriteBehind.run_behind hfaithful hm hothers
  have hle := hn.le_of_waited hwaited
  refine ⟨⟨n, hle, hn.sent.carried⟩, fun hsame => ?_⟩
  have hall : later.chain.writes.take n = later.chain.writes :=
    List.take_of_length_le (by rw [hsame]; exact hle)
  have hcarried := hn.sent.carried
  rw [hall] at hcarried
  rw [hn.memory]
  exact WriteBehind.mirrors_of_all hwrite _ hopened hcarried

end

/-- No rows. -/
def AuditStore.noRows : AuditStore.Database :=
  ⟨.empty, .empty, .empty, .empty, .empty, .empty⟩

theorem AuditStore.hydrate_noRows (H : Host) (timestamptz : String → Int) (tenant : String) :
    AuditStore.hydrate H timestamptz tenant AuditStore.noRows =
      .ok ⟨⟨[], [], [], [], []⟩, .empty⟩ := by
  simp [AuditStore.hydrate, AuditStore.noRows, Table.rowsOf, OrderedMap.empty, Table.hydrated,
    AuditStore.assertSequenceContinuity, OrderedMap.get?, OrderedMap.lookupIn, bind, Except.bind,
    pure, Except.pure]

/-- The metadata of a first backup. -/
def firstBackup : ReferenceRepositoryBackupMetadata where
  id := "backup:1"
  component := "audit"
  createdAt := "2026-01-01T00:00:00.000Z"
  location := "audit/1"
  snapshotHash := ""
  tenantBoundary := "tenant:a"
  entityCounts := []
  version := "production-repository-backup:v1"

def SnapshotStore.noRows (τ : Type) : SnapshotStore.Database τ := ⟨.empty, .empty⟩

/-- **A wait that ends early.** A second write comes while the first is awaited. When the
first is answered the wait ends, and the database has the first write only. -/
theorem wait_misses_later_write :
    ¬ (∀ (H : Host) (timestamptz : String → Int) (tenant : String) (db : AuditStore.Database)
        (memory : ExternalAppendOnlyAuditStore),
        AuditStore.hydrate H timestamptz tenant db = .ok memory →
          WritesInOrder (AuditStore.postgresAuditStore tenant) memory db ∧
          WaitsForAll (AuditStore.postgresAuditStore tenant) (AuditStore.Mirrors tenant)
            memory db) ∧
    ¬ (∀ (clone : Nat → Nat) (stablePostgresHash : Nat → String) (tenant storeName : String)
        (db : SnapshotStore.Database Nat),
        WritesInOrder
          (SnapshotStore.postgresSnapshotStore clone stablePostgresHash tenant storeName)
          (SnapshotStore.hydrate tenant storeName db) db ∧
        WaitsForAll (SnapshotStore.postgresSnapshotStore clone stablePostgresHash tenant storeName)
          (SnapshotStore.Mirrors tenant storeName) (SnapshotStore.hydrate tenant storeName db)
          db) := by
  constructor
  · intro hall
    obtain ⟨-, hwaits⟩ := hall Fixtures.exactHost (fun _ => 0) "tenant:a" AuditStore.noRows _
      (AuditStore.hydrate_noRows ..)
    have hmirrors := hwaits [.call (.writeBackupMetadata [])] _ rfl
      [.call (.writeBackupMetadata [firstBackup]), .chain (.query 0 false),
        .chain (.answer 0 false)] _ rfl rfl
    exact absurd hmirrors.backupMetadata (List.cons_ne_nil _ _).symm
  · intro hall
    obtain ⟨-, hwaits⟩ := hall id toString "tenant:a" "graph" (SnapshotStore.noRows Nat)
    have hmirrors := hwaits [.call (.writeCurrent 0)] _ rfl
      [.call (.writeCurrent 1), .chain (.query 0 false), .chain (.answer 0 false)] _ rfl rfl
    exact absurd hmirrors.current (by decide)

theorem write_queues (H : Host) (timestamptz : String → Int) (tenant : String) :
    (∀ (db : AuditStore.Database) (memory : ExternalAppendOnlyAuditStore),
        AuditStore.hydrate H timestamptz tenant db = .ok memory →
          WritesInOrder (AuditStore.postgresAuditStore tenant) memory db ∧
          WaitsForQueued (AuditStore.postgresAuditStore tenant) (AuditStore.Mirrors tenant)
            memory db) ∧
    ∀ (τ : Type) (clone : τ → τ) (stablePostgresHash : τ → String) (storeName : String)
      (db : SnapshotStore.Database τ),
      WritesInOrder (SnapshotStore.postgresSnapshotStore clone stablePostgresHash tenant storeName)
        (SnapshotStore.hydrate tenant storeName db) db ∧
      WaitsForQueued (SnapshotStore.postgresSnapshotStore clone stablePostgresHash tenant storeName)
        (SnapshotStore.Mirrors tenant storeName) (SnapshotStore.hydrate tenant storeName db)
        db := by
  constructor
  · intro db memory hopened
    have hfaithful := AuditStore.faithful tenant
    exact ⟨writesInOrder hfaithful, waitsForQueued hfaithful (AuditStore.hydrate_ok hopened)
      fun _ _ _ _ hmirrors hdb => hmirrors.execute hdb⟩
  · intro τ clone stablePostgresHash storeName db
    have hfaithful := SnapshotStore.faithful clone stablePostgresHash tenant storeName
    exact ⟨writesInOrder hfaithful, waitsForQueued hfaithful SnapshotStore.hydrate_mirrors
      fun _ _ _ _ hmirrors hdb => hmirrors.execute hdb⟩

/-- The record of a first event. -/
def firstRecord : ReferenceAuditEventStoreRecord where
  version := "production-audit-event-record:v1"
  tenantBoundary := "tenant:a"
  sequence := 1
  storedAt := "2026-01-01T00:00:00.000Z"
  eventHash := ""
  retentionPolicy :=
    { policyId := "retention:audit:default"
      retentionDays := 365
      legalHold := false }
  event :=
    { eventId := "audit:1"
      eventType := "decision.evaluated"
      occurredAt := "2026-01-01T00:00:00.000Z"
      actor := "service:api"
      correlationId := "corr:1"
      payload := []
      payloadHash := "" }
  recordHash := ""

/-- The rows of a record and of the metadata of a backup. -/
def AuditStore.firstRows : AuditStore.Database where
  auditRecords := OrderedMap.empty.set ("tenant:a", 1)
    ⟨firstRecord.event.eventId, firstRecord, firstRecord.recordHash, firstRecord.storedAt⟩
  auditEvidenceRecords := .empty
  auditSignedWindows := .empty
  auditSiemDeliveries := .empty
  auditBackupMetadata := OrderedMap.empty.set "tenant:a" [firstBackup]
  auditBackups := .empty

theorem AuditStore.hydrate_firstRows (H : Host) (timestamptz : String → Int) :
    AuditStore.hydrate H timestamptz "tenant:a" AuditStore.firstRows =
      .ok ⟨⟨[firstRecord], [], [], [], [firstBackup]⟩, .empty⟩ := by
  simp [AuditStore.hydrate, AuditStore.firstRows, Table.rowsOf, OrderedMap.empty, OrderedMap.set,
    OrderedMap.setIn, Table.hydrated, AuditStore.assertSequenceContinuity, firstRecord,
    OrderedMap.get?, OrderedMap.lookupIn, bind, Except.bind, pure, Except.pure]

/-- A store opened on these rows. -/
theorem write_queues_rows :
    WaitsForQueued (AuditStore.postgresAuditStore "tenant:a") (AuditStore.Mirrors "tenant:a")
      ⟨⟨[firstRecord], [], [], [], [firstBackup]⟩, .empty⟩ AuditStore.firstRows :=
  ((write_queues Fixtures.exactHost (fun _ => 0) "tenant:a").1 _ _
    (AuditStore.hydrate_firstRows ..)).2

end AccessKit.L7
