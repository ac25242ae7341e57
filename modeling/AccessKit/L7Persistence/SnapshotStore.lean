import AccessKit.Core.PromiseChain
import AccessKit.Core.Table
import AccessKit.L1Domain.Entities

/-!
# The Postgres snapshot store

packages/persistence-postgres/src/snapshot-store.ts, over records of any type. `clone` and
`stablePostgresHash` are parameters: nothing here depends on what they compute.

Results:
* `hydrate_mirrors`: a store that was opened holds the rows of its name.
* `Mirrors.execute`: a write does to the rows what it did to the memory.
-/
namespace AccessKit.L7.SnapshotStore
open AccessKit.Core AccessKit.L1

structure CurrentRow (τ : Type) where
  record : τ
  record_hash : String

/-- The snapshot tables, under the tenant boundary and the name of the store.
mirrors packages/persistence-postgres/src/schema.ts:18-34 -/
structure Database (τ : Type) where
  snapshotCurrent : OrderedMap (String × String) (CurrentRow τ)
  snapshotBackup : Table (String × String) CanonicalId (CurrentRow τ)

/-- mirrors packages/persistence-postgres/src/snapshot-store.ts:21-27 -/
structure SnapshotMemory (τ : Type) where
  current : Option τ
  backups : OrderedMap CanonicalId τ

/-- A write that the store sends to the database. -/
inductive Write (τ : Type)
  | currentUnconditional (record : τ)
  | currentConditional (expectedHash : Option String) (record : τ)
  | backup (id : CanonicalId) (record : τ)

inductive Operation (τ : Type)
  | readCurrent
  | writeCurrent (record : τ)
  | compareExchangeCurrent (expected : Option τ) (record : τ)
  | readBackup (id : CanonicalId)
  | writeBackup (id : CanonicalId) (record : τ)

section
variable {τ : Type} (clone : τ → τ) (stablePostgresHash : τ → String)

/-- What a write stands for in the memory. -/
def Write.apply (memory : SnapshotMemory τ) : Write τ → SnapshotMemory τ
  | .currentUnconditional record => { memory with current := some record }
  | .currentConditional _ record => { memory with current := some record }
  | .backup id record => { memory with backups := memory.backups.set id record }

/-- mirrors packages/persistence-postgres/src/snapshot-store.ts:47-51 -/
def writeCurrent (memory : SnapshotMemory τ) (record : τ) : SnapshotMemory τ × Option (Write τ) :=
  let persistedRecord := clone record
  ({ memory with current := some persistedRecord },
    some (.currentUnconditional persistedRecord))

/-- The comparison is between the hashes of the records; `none` when it fails, and the call
answers `false`.
mirrors packages/persistence-postgres/src/snapshot-store.ts:53-65 -/
def compareExchangeCurrent (memory : SnapshotMemory τ) (expected : Option τ) (record : τ) :
    SnapshotMemory τ × Option (Write τ) :=
  let currentHash := memory.current.map stablePostgresHash
  let expectedHash := expected.map stablePostgresHash
  if currentHash ≠ expectedHash then (memory, none)
  else
    let persistedRecord := clone record
    ({ memory with current := some persistedRecord },
      some (.currentConditional expectedHash persistedRecord))

/-- mirrors packages/persistence-postgres/src/snapshot-store.ts:71-75 -/
def writeBackup (memory : SnapshotMemory τ) (id : CanonicalId) (record : τ) :
    SnapshotMemory τ × Option (Write τ) :=
  let persistedRecord := clone record
  ({ memory with backups := memory.backups.set id persistedRecord },
    some (.backup id persistedRecord))

/-- The reads answer with a copy and send nothing.
mirrors packages/persistence-postgres/src/snapshot-store.ts:43-75 -/
def perform (memory : SnapshotMemory τ) :
    Operation τ → Except String (SnapshotMemory τ × Option (Write τ))
  | .readCurrent => .ok (memory, none)
  | .writeCurrent record => .ok (writeCurrent clone memory record)
  | .compareExchangeCurrent expected record =>
    .ok (compareExchangeCurrent clone stablePostgresHash memory expected record)
  | .readBackup _ => .ok (memory, none)
  | .writeBackup id record => .ok (writeBackup clone memory id record)

variable (tenantBoundary storeName : String)

/-- mirrors packages/persistence-postgres/src/snapshot-store.ts:112-121 -/
def persistCurrentUnconditional (record : τ) (db : Database τ) : Option (Database τ) :=
  some { db with snapshotCurrent :=
    db.snapshotCurrent.set (tenantBoundary, storeName) ⟨record, stablePostgresHash record⟩ }

/-- An insert that meets a row, or an update that meets none with the expected hash, changes
nothing, and the code throws.
mirrors packages/persistence-postgres/src/snapshot-store.ts:123-147 -/
def persistCurrentConditional (expectedHash : Option String) (record : τ) (db : Database τ) :
    Option (Database τ) :=
  let row : CurrentRow τ := ⟨record, stablePostgresHash record⟩
  let written : Database τ :=
    { db with snapshotCurrent := db.snapshotCurrent.set (tenantBoundary, storeName) row }
  match expectedHash, db.snapshotCurrent.get? (tenantBoundary, storeName) with
  | none, none => some written
  | some expectedHash, some row => if row.record_hash = expectedHash then some written else none
  | _, _ => none

/-- mirrors packages/persistence-postgres/src/snapshot-store.ts:149-158 -/
def persistBackup (id : CanonicalId) (record : τ) (db : Database τ) : Option (Database τ) :=
  some { db with snapshotBackup :=
    db.snapshotBackup.set ((tenantBoundary, storeName), id) ⟨record, stablePostgresHash record⟩ }

def Write.execute (db : Database τ) : Write τ → Option (Database τ)
  | .currentUnconditional record =>
    persistCurrentUnconditional stablePostgresHash tenantBoundary storeName record db
  | .currentConditional expectedHash record =>
    persistCurrentConditional stablePostgresHash tenantBoundary storeName expectedHash record db
  | .backup id record => persistBackup stablePostgresHash tenantBoundary storeName id record db

/-- The store of a name, its writes chained by `#enqueue`.
mirrors packages/persistence-postgres/src/snapshot-store.ts:106-110 -/
def postgresSnapshotStore :
    WriteBehind (Operation τ) (SnapshotMemory τ) (Write τ) (Database τ) where
  perform op memory := perform clone stablePostgresHash memory op
  apply w memory := w.apply memory
  execute w db := w.execute stablePostgresHash tenantBoundary storeName db

/-- Open a store on its rows.
mirrors packages/persistence-postgres/src/snapshot-store.ts:87-104 -/
def hydrate (db : Database τ) : SnapshotMemory τ where
  current := (db.snapshotCurrent.get? (tenantBoundary, storeName)).map (·.record)
  backups := Table.hydrated (·.record) (Table.rowsOf (tenantBoundary, storeName) db.snapshotBackup)

/-- The rows of the store are the content of its memory. -/
structure Mirrors (memory : SnapshotMemory τ) (db : Database τ) : Prop where
  current : (db.snapshotCurrent.get? (tenantBoundary, storeName)).map (·.record) = memory.current
  backups : ∀ id, (db.snapshotBackup.get? ((tenantBoundary, storeName), id)).map (·.record) =
    memory.backups.get? id

end

section
variable {τ : Type} {clone : τ → τ} {stablePostgresHash : τ → String}
  {tenantBoundary storeName : String} {memory : SnapshotMemory τ} {db db' : Database τ}

theorem hydrate_mirrors :
    Mirrors tenantBoundary storeName (hydrate tenantBoundary storeName db) db where
  current := rfl
  backups id := by
    rw [hydrate, Table.get?_hydrated _ (Table.nodup_rowsOf _ _), Table.get?_rowsOf]

theorem persistCurrentConditional_ok {expectedHash : Option String} {record : τ}
    (h : persistCurrentConditional stablePostgresHash tenantBoundary storeName expectedHash record
      db = some db') :
    persistCurrentUnconditional stablePostgresHash tenantBoundary storeName record db =
      some db' := by
  unfold persistCurrentConditional at h
  split at h
  · exact h
  · split at h
    · exact h
    · cases h
  · cases h

theorem Mirrors.execute {w : Write τ} (h : Mirrors tenantBoundary storeName memory db)
    (hdb : w.execute stablePostgresHash tenantBoundary storeName db = some db') :
    Mirrors tenantBoundary storeName (w.apply memory) db' := by
  have hcurrent {record : τ} (hdb : persistCurrentUnconditional stablePostgresHash tenantBoundary
      storeName record db = some db') :
      Mirrors tenantBoundary storeName { memory with current := some record } db' := by
    obtain rfl := Option.some.inj hdb
    exact ⟨by simp, h.backups⟩
  cases w with
  | currentUnconditional record => exact hcurrent hdb
  | currentConditional expectedHash record => exact hcurrent (persistCurrentConditional_ok hdb)
  | backup id record =>
    obtain rfl := Option.some.inj hdb
    refine ⟨h.current, fun other => ?_⟩
    rw [OrderedMap.map_get?_set, Write.apply, OrderedMap.get?_set, ← h.backups other]
    simp

theorem faithful (clone : τ → τ) (stablePostgresHash : τ → String)
    (tenantBoundary storeName : String) :
    (postgresSnapshotStore clone stablePostgresHash tenantBoundary storeName).Faithful where
  written {op memory memory' w} h := by
    change perform clone stablePostgresHash memory op = .ok (memory', some w) at h
    cases op with
    | readCurrent | readBackup id => cases h
    | writeCurrent record | writeBackup id record =>
      cases h
      rfl
    | compareExchangeCurrent expected record =>
      simp only [perform, compareExchangeCurrent] at h
      split at h
      · cases h
      · cases h
        rfl
  unwritten {op memory memory'} h := by
    change perform clone stablePostgresHash memory op = .ok (memory', none) at h
    cases op with
    | readCurrent | readBackup id =>
      cases h
      rfl
    | writeCurrent record | writeBackup id record => cases h
    | compareExchangeCurrent expected record =>
      simp only [perform, compareExchangeCurrent] at h
      split at h
      · cases h
        rfl
      · cases h

end

end AccessKit.L7.SnapshotStore
