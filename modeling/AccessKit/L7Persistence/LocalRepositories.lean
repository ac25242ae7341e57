import AccessKit.L7Persistence.SnapshotFormats

/-!
# The repositories that keep a snapshot in a file

packages/core/src/repositories.ts:395-794: `LocalJsonFileGraphRepository` and
`LocalJsonFileJobRepository`. Both keep their snapshot in memory, change it there and write
all of it to a file. The file system is not in the source: a write of the file is done, or
it throws a message.

Results:
* `LocalJsonFile.failsClean_persist`: a write that throws leaves memory and file as they are.
-/
namespace AccessKit.L7
open AccessKit.Core AccessKit.L1 AccessKit.L2.Audit
open AccessKit.L2.Store (GraphRecord GraphKey)
open AccessKit.L2.Store.InMemoryRebacStore (RebacSeedData markDeleted)
open AccessKit.L5 (RebacJobSnapshot JobRecord JobKey)

/-- The envelope in a file.
mirrors packages/core/src/repositories.ts:162-176 -/
structure StoredState (S : Type) where
  version : String
  storedAt : IsoDateTime
  hash : String
  snapshot : S
  entityCounts : List (String × Nat)

/-- mirrors packages/core/src/repositories.ts:101-133 -/
structure StorageReceipt where
  storedAt : IsoDateTime
  backend : String
  location : String
  hash : String
  entityCounts : List (String × Nat)
  version : String

/-- What a call answers: the record that it wrote, if it wrote one, a receipt or a backup. -/
inductive RepositoryAnswer (R : Type)
  | record (r : Option R)
  | receipt (receipt : StorageReceipt)
  | backup (metadata : ReferenceRepositoryBackupMetadata)

/-- The mutating calls of a graph repository; the four upserts are one. -/
inductive GraphCall
  | upsert (r : GraphRecord)
  | deleteRelationship (id : CanonicalId) (deletedAt : IsoDateTime)
  | flush (storedAt : Option IsoDateTime)

/-- The mutating calls of a job repository; the ten writes are one. -/
inductive JobCall
  | record (r : JobRecord)
  | flush (storedAt : Option IsoDateTime)

/-- The memory, the file and the answer after a call. -/
abbrev FileOutcome {S R K : Type} [DecidableEq K] (F : SnapshotFormat S R K) : Type :=
  Memory F.toSnapshots × Option (StoredState S) × Except String (RepositoryAnswer R)

/-- The options of a repository. -/
structure LocalJsonFile where
  host : Host
  location : String

namespace LocalJsonFile

section
variable {S R K : Type} [DecidableEq K] (F : SnapshotFormat S R K) (repository : LocalJsonFile)
  (failure : Option String)

/-- mirrors packages/core/src/repositories.ts:532-554 and 771-793 -/
def persist (storedAt : IsoDateTime) (memory : Memory F.toSnapshots)
    (file : Option (StoredState S)) :
    Memory F.toSnapshots × Option (StoredState S) × Except String StorageReceipt :=
  let normalized := Memory.load F.toSnapshots memory.snapshot
  let hash := hashReference repository.host (F.toJs normalized.snapshot)
  let entityCounts := F.countEntities normalized.snapshot
  match failure with
  | some message => (memory, file, .error message)
  | none =>
    (normalized,
      some { version := F.stateVersion, storedAt, hash, snapshot := normalized.snapshot,
             entityCounts },
      .ok { storedAt, backend := "local_file", location := repository.location, hash,
            entityCounts, version := F.receiptVersion })

/-- **A write that throws** leaves the memory and the file as they are. -/
theorem failsClean_persist (storedAt : IsoDateTime) :
    FailsClean (repository.persist F failure storedAt) := by
  intro memory file e herror
  unfold persist at herror ⊢
  cases failure with
  | some message => exact congrArg (fun answered => (memory, file, answered)) herror
  | none => cases herror

end

end LocalJsonFile

/-! ## The graph -/

namespace LocalJsonFileGraphRepository

section
variable (repository : LocalJsonFile) (failure : Option String) (now : IsoDateTime)
  (memory : Memory graphSnapshots.toSnapshots) (file : Option (StoredState RebacSeedData))

/-- mirrors packages/core/src/repositories.ts:427-431, 441-445, 463-467 and 502-506 -/
def upsert (r : GraphRecord) : FileOutcome graphSnapshots :=
  changeThenPersist (repository.persist graphSnapshots failure now)
    (fun memory => .ok (memory.upsert r)) (fun _ => .record (some r.copy)) memory file

/-- mirrors packages/core/src/repositories.ts:469-484 -/
def deleteRelationship (id : CanonicalId) (deletedAt : IsoDateTime) :
    FileOutcome graphSnapshots :=
  match findBy (·.id) memory.snapshot.relationships id with
  | none => (memory, file, .ok (.record none))
  | some relationship =>
    let deleted := GraphRecord.relationship (markDeleted relationship deletedAt)
    changeThenPersist (repository.persist graphSnapshots failure now)
      (fun memory => .ok (memory.upsert deleted)) (fun _ => .record (some deleted.copy)) memory
      file

/-- mirrors packages/core/src/repositories.ts:512-514 -/
def flush (storedAt : Option IsoDateTime) : FileOutcome graphSnapshots :=
  changeThenPersist (repository.persist graphSnapshots failure (storedAt.getD now)) .ok .receipt
    memory file

def perform (call : GraphCall) : FileOutcome graphSnapshots :=
  match call with
  | .upsert r => upsert repository failure now memory file r
  | .deleteRelationship id deletedAt =>
    deleteRelationship repository failure now memory file id deletedAt
  | .flush storedAt => flush repository failure now memory file storedAt

end

end LocalJsonFileGraphRepository

/-! ## The records of the runtime -/

/-- A record that a collection takes once is refused when it is there.
mirrors packages/core/src/repositories.ts:1020-1026 and reference-repositories.ts:782-788 -/
def recordInMemory (r : JobRecord) (memory : Memory jobSnapshots.toSnapshots) :
    Except String (Memory jobSnapshots.toSnapshots) :=
  (JobRecord.assertNotRecorded (memory.find r.key) r).map fun _ => memory.upsert r

namespace LocalJsonFileJobRepository

section
variable (repository : LocalJsonFile) (failure : Option String) (now : IsoDateTime)
  (memory : Memory jobSnapshots.toSnapshots) (file : Option (StoredState RebacJobSnapshot))

/-- mirrors packages/core/src/repositories.ts:583-730 -/
def record (r : JobRecord) : FileOutcome jobSnapshots :=
  changeThenPersist (repository.persist jobSnapshots failure now) (recordInMemory r)
    (fun _ => .record (some r.copy)) memory file

/-- mirrors packages/core/src/repositories.ts:740-742 -/
def flush (storedAt : Option IsoDateTime) : FileOutcome jobSnapshots :=
  changeThenPersist (repository.persist jobSnapshots failure (storedAt.getD now)) .ok .receipt
    memory file

def perform (call : JobCall) : FileOutcome jobSnapshots :=
  match call with
  | .record r => record repository failure now memory file r
  | .flush storedAt => flush repository failure now memory file storedAt

end

end LocalJsonFileJobRepository

end AccessKit.L7
