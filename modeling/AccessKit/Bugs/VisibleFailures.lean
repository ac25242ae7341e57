import AccessKit.L2Graph.Fixtures
import AccessKit.L7Persistence.ReferenceAdapters

/-!
# Writes that fail and can be read

Status: open. `LocalJsonFileGraphRepository`, `LocalJsonFileJobRepository`,
`ReferenceGraphStoreAdapter` and `ReferenceConnectorStateStoreAdapter` put a record into the
snapshot that they keep in memory before they persist it (packages/core/src/repositories.ts:428,
584; reference-repositories.ts:208, 470). When persisting throws, the record stays there: it is
read, the next write that succeeds stores it, and a discovery run, a readiness report or a
reconciliation run cannot be recorded again. `createBackup` of the same adapters takes the new
snapshot only after it was stored, and so does the job queue.

Counterexample: a discovery run on a full disk (`failed_run_recorded`).

Exact condition: the call is refused before it changes anything, or it changes nothing: what it
writes is there already (`nothingLeft_iff`).
-/
namespace AccessKit.Bugs.VisibleFailures
open AccessKit.Core AccessKit.L1 AccessKit.L7
open AccessKit.L2.Audit (ReferenceRepositoryBackupMetadata)
open AccessKit.L2.Fixtures (plainHost)
open AccessKit.L2.Store (GraphRecord GraphKey)
open AccessKit.L2.Store.InMemoryRebacStore (RebacSeedData markDeleted)
open AccessKit.L5 (RebacJobSnapshot JobRecord JobKey RuntimeRecord)

/-! ## A call that was not made -/

section
variable {X M D V A : Type}

/-- Nothing is left of a call that threw: what is read is as before it, and the same call made
again, under whatever circumstances, answers and leaves what it would have without it. -/
structure NothingLeft (reads : M → V) (call : X → M → D → M × D × Except String A) (m : M) (d : D)
    (m' : M) (d' : D) : Prop where
  read : reads m' = reads m
  answered : ∀ x, (call x m' d').2.2 = (call x m d).2.2
  left : ∀ x, reads (call x m' d').1 = reads (call x m d).1

/-- Where all of the memory can be read, nothing is left exactly when it is as before. -/
theorem nothingLeft_iff_same {reads : M → V} (hreads : Function.Injective reads)
    {call : X → M → D → M × D × Except String A} {m m' : M} {d d' : D}
    (hstore : ∀ x, (call x m d').1 = (call x m d).1 ∧ (call x m d').2.2 = (call x m d).2.2) :
    NothingLeft reads call m d m' d' ↔ m' = m := by
  refine ⟨fun h => hreads h.read, ?_⟩
  rintro rfl
  exact ⟨rfl, fun x => (hstore x).2, fun x => congrArg reads (hstore x).1⟩

/-- A call that leaves what is stored, and the memory when `There` holds. -/
theorem nothingLeft_iff_of_kept {reads : M → V} (hreads : Function.Injective reads)
    {call : X → M → D → M × D × Except String A} {x : X} {m : M} {d : D} {There : Prop}
    (hkept : (call x m d).2.1 = d ∧ ((call x m d).1 = m ↔ There)) :
    NothingLeft reads call m d (call x m d).1 (call x m d).2.1 ↔ There := by
  rw [hkept.1]
  exact (nothingLeft_iff_same hreads fun _ => ⟨rfl, rfl⟩).trans hkept.2

end

/-! ## What is there already -/

section
variable {S R K : Type} [DecidableEq K]

/-- The write of a record that is refused, or that is there. -/
def RecordThere (F : SnapshotFormat S R K) (memory : Memory F.toSnapshots) (r : R)
    (checked : Except String Unit) : Prop :=
  checked = .ok () → memory.find (F.key r) = some (F.copy r)

/-- The deletion of a tuple that is deleted already, at the same time. -/
def DeletionThere (memory : Memory graphSnapshots.toSnapshots) (id : CanonicalId)
    (deletedAt : IsoDateTime) : Prop :=
  ∀ t, findBy (·.id) memory.snapshot.relationships id = some t →
    t.status = .deleted ∧ t.updatedAt = some deletedAt

/-- A restore of a backup that cannot be read, or that is what is there. -/
def BackupThere (F : ReferenceFormat S R K) (adapter : ReferenceAdapter)
    (memory : ReferenceMemory F) (store : ExternalSnapshotStore S) (id : CanonicalId) : Prop :=
  ∀ backup, adapter.readBackup F store id = .ok backup →
    backup.snapshot = memory.memory.snapshot ∧ backup.backupMetadata = memory.backupMetadata

/-- A change that is refused, or is none. -/
theorem kept_map_iff {M : Type} (checked : Except String Unit) {changed m : M} :
    (∀ m', (checked.map fun _ => changed) = .ok m' → m' = m) ↔
      (checked = .ok () → changed = m) := by
  cases checked with
  | error message => exact ⟨fun _ h => (by cases h), fun _ _ h => (by cases h)⟩
  | ok u =>
    refine ⟨fun h _ => h _ rfl, fun h m' hm' => ?_⟩
    exact (Except.ok.inj hm').symm.trans (h rfl)

theorem kept_ok_iff {M : Type} {changed m : M} :
    (∀ m', (Except.ok changed : Except String M) = .ok m' → m' = m) ↔ changed = m :=
  ⟨fun h => h _ rfl, fun h _ hm' => (Except.ok.inj hm').symm.trans h⟩

theorem upsert_kept_iff {F : SnapshotFormat S R K} {memory : Memory F.toSnapshots} {r : R}
    {checked : Except String Unit} :
    (checked = .ok () → memory.upsert r = memory) ↔ RecordThere F memory r checked :=
  imp_congr_right fun _ => Memory.upsert_eq_iff

theorem upsert_kept_iff_reference {F : ReferenceFormat S R K} {memory : ReferenceMemory F} {r : R}
    {checked : Except String Unit} :
    (checked = .ok () → { memory with memory := memory.memory.upsert r } = memory) ↔
      RecordThere F.toSnapshotFormat memory.memory r checked := by
  refine imp_congr_right fun _ => ?_
  rw [ReferenceMemory.ext_iff]
  exact (and_iff_left rfl).trans Memory.upsert_eq_iff

/-- A tuple that is marked again is the tuple as it was marked before. -/
theorem markDeleted_eq_iff {t : RelationshipTuple} {deletedAt : IsoDateTime} :
    markDeleted t deletedAt = t ↔ t.status = .deleted ∧ t.updatedAt = some deletedAt := by
  obtain ⟨⟩ := t
  simp only [markDeleted, RelationshipTuple.mk.injEq, true_and, and_true]
  exact ⟨fun h => ⟨h.2.symm, h.1.symm⟩, fun h => ⟨h.2.symm, h.1.symm⟩⟩

/-- A deletion leaves the memory as it is. -/
theorem deletion_kept_iff {memory : Memory graphSnapshots.toSnapshots} {t : RelationshipTuple}
    {id : CanonicalId} {deletedAt : IsoDateTime}
    (ht : findBy (·.id) memory.snapshot.relationships id = some t) :
    memory.upsert (.relationship (markDeleted t deletedAt)) = memory ↔
      DeletionThere memory id deletedAt := by
  have hid : t.id = id := findBy_key ht
  have hfind : memory.find (.relationship id) = some (.relationship t) :=
    congrArg (Option.map GraphRecord.relationship) ht
  have hcopy : (GraphRecord.relationship t).copy = .relationship t := Memory.copy_of_find hfind
  have hmarked : (GraphRecord.relationship (markDeleted t deletedAt)).copy =
      .relationship (markDeleted t deletedAt) :=
    congrArg (fun t => GraphRecord.relationship (markDeleted t deletedAt))
      (GraphRecord.relationship.inj hcopy)
  rw [Memory.upsert_eq_iff]
  show memory.find (.relationship t.id) =
    some (GraphRecord.relationship (markDeleted t deletedAt)).copy ↔ _
  rw [hid, hfind, hmarked, Option.some.injEq, GraphRecord.relationship.injEq, eq_comm,
    markDeleted_eq_iff]
  refine ⟨fun h t' ht' => ?_, fun h => h t ht⟩
  obtain rfl := Option.some.inj (ht.symm.trans ht')
  exact h

end

/-! ## Every call -/

/-- A call that throws leaves nothing exactly when `There` holds before it. -/
def LeavesNothingWhen {C X M D V A : Type} (reads : M → V)
    (perform : C → X → M → D → M × D × Except String A) (There : C → M → D → Prop) : Prop :=
  ∀ call x m d e, (perform call x m d).2.2 = .error e →
    (NothingLeft reads (perform call) m d (perform call x m d).1 (perform call x m d).2.1 ↔
      There call m d)

/-- What a repository exports; its other reads answer from the same lists. -/
def exported {S R K : Type} [DecidableEq K] (F : SnapshotFormat S R K)
    (memory : Memory F.toSnapshots) : S :=
  F.copyAll memory.snapshot

theorem exported_injective {S R K : Type} [DecidableEq K] (F : SnapshotFormat S R K) :
    Function.Injective (exported F) := by
  intro memory memory' h
  unfold exported at h
  rw [memory.copied, memory'.copied] at h
  exact Memory.ext h

/-- What a graph repository has in memory already. -/
def GraphCallThere (memory : Memory graphSnapshots.toSnapshots) : GraphCall → Prop
  | .upsert r => RecordThere graphSnapshots memory r (.ok ())
  | .deleteRelationship id deletedAt => DeletionThere memory id deletedAt
  | .flush _ => True

/-- What a job repository has in memory already. -/
def JobCallThere (memory : Memory jobSnapshots.toSnapshots) : JobCall → Prop
  | .record r => RecordThere jobSnapshots memory r
      (JobRecord.assertNotRecorded (memory.find r.key) r)
  | .flush _ => True

section
variable (repository : LocalJsonFile)

/-- A call on a graph file, with what its write throws and what the clock shows. -/
def performGraph (call : GraphCall) (x : Option String × IsoDateTime)
    (memory : Memory graphSnapshots.toSnapshots) (file : Option (StoredState RebacSeedData)) :
    FileOutcome graphSnapshots :=
  LocalJsonFileGraphRepository.perform repository x.1 x.2 memory file call

/-- A call on a job file. -/
def performJobs (call : JobCall) (x : Option String × IsoDateTime)
    (memory : Memory jobSnapshots.toSnapshots) (file : Option (StoredState RebacJobSnapshot)) :
    FileOutcome jobSnapshots :=
  LocalJsonFileJobRepository.perform repository x.1 x.2 memory file call

theorem performGraph_leaves : LeavesNothingWhen (exported graphSnapshots)
    (performGraph repository) (fun call memory _ => GraphCallThere memory call) := by
  intro call x memory file e hthrown
  have hkept : (performGraph repository call x memory file).2.1 = file ∧
      ((performGraph repository call x memory file).1 = memory ↔ GraphCallThere memory call) := by
    cases call with
    | upsert r =>
      obtain ⟨hfile, hmemory⟩ := changeThenPersist_kept
        (repository.failsClean_persist graphSnapshots x.1 x.2) hthrown
      exact ⟨hfile, hmemory.trans ((kept_map_iff (.ok ())).trans upsert_kept_iff)⟩
    | deleteRelationship id deletedAt =>
      cases ht : findBy (·.id) memory.snapshot.relationships id with
      | none =>
        have hperform : performGraph repository (.deleteRelationship id deletedAt) x memory file =
            (memory, file, .ok (.record none)) := by
          show LocalJsonFileGraphRepository.deleteRelationship .. = _
          unfold LocalJsonFileGraphRepository.deleteRelationship
          rw [ht]
        rw [hperform] at hthrown
        cases hthrown
      | some t =>
        have hperform : performGraph repository (.deleteRelationship id deletedAt) x memory file =
            LocalJsonFileGraphRepository.upsert repository x.1 x.2 memory file
              (.relationship (markDeleted t deletedAt)) := by
          show LocalJsonFileGraphRepository.deleteRelationship .. = _
          unfold LocalJsonFileGraphRepository.deleteRelationship
          rw [ht]
          rfl
        rw [hperform] at hthrown ⊢
        obtain ⟨hfile, hmemory⟩ := changeThenPersist_kept
          (repository.failsClean_persist graphSnapshots x.1 x.2) hthrown
        exact ⟨hfile, hmemory.trans (kept_ok_iff.trans (deletion_kept_iff ht))⟩
    | flush storedAt =>
      obtain ⟨hfile, hmemory⟩ := changeThenPersist_kept
        (repository.failsClean_persist graphSnapshots x.1 _) hthrown
      exact ⟨hfile, hmemory.trans (kept_ok_iff.trans (iff_true_intro rfl))⟩
  exact nothingLeft_iff_of_kept (exported_injective graphSnapshots) hkept

theorem performJobs_leaves : LeavesNothingWhen (exported jobSnapshots) (performJobs repository)
    (fun call memory _ => JobCallThere memory call) := by
  intro call x memory file e hthrown
  have hkept : (performJobs repository call x memory file).2.1 = file ∧
      ((performJobs repository call x memory file).1 = memory ↔ JobCallThere memory call) := by
    cases call with
    | record r =>
      obtain ⟨hfile, hmemory⟩ := changeThenPersist_kept
        (repository.failsClean_persist jobSnapshots x.1 x.2) hthrown
      exact ⟨hfile, hmemory.trans ((kept_map_iff _).trans upsert_kept_iff)⟩
    | flush storedAt =>
      obtain ⟨hfile, hmemory⟩ := changeThenPersist_kept
        (repository.failsClean_persist jobSnapshots x.1 _) hthrown
      exact ⟨hfile, hmemory.trans (kept_ok_iff.trans (iff_true_intro rfl))⟩
  exact nothingLeft_iff_of_kept (exported_injective jobSnapshots) hkept

end

/-! ## The adapters -/

/-- What an adapter exports, and the backups it lists. -/
def exportedWithBackups {S R K : Type} [DecidableEq K] (F : ReferenceFormat S R K)
    (memory : ReferenceMemory F) : S × List ReferenceRepositoryBackupMetadata :=
  (F.copyAll memory.memory.snapshot, memory.backupMetadata)

theorem exportedWithBackups_injective {S R K : Type} [DecidableEq K] (F : ReferenceFormat S R K) :
    Function.Injective (exportedWithBackups F) := by
  intro memory memory' h
  have hmemory : memory.memory = memory'.memory :=
    exported_injective F.toSnapshotFormat (congrArg Prod.fst h)
  exact ReferenceMemory.ext hmemory (congrArg Prod.snd h)

section
variable {S R K : Type} [DecidableEq K] {F : ReferenceFormat S R K} {adapter : ReferenceAdapter}
  {failures : WriteFailures} {now : IsoDateTime} {memory : ReferenceMemory F}
  {store : ExternalSnapshotStore S} {e : String}

theorem writeRecord_kept {r : R}
    (hthrown : (adapter.writeRecord F failures now memory store r).2.2 = .error e) :
    (adapter.writeRecord F failures now memory store r).2.1 = store ∧
      ((adapter.writeRecord F failures now memory store r).1 = memory ↔
        RecordThere F.toSnapshotFormat memory.memory r
          (F.assertRecord adapter.host adapter.tenantBoundary memory.memory.snapshot r)) := by
  obtain ⟨hstore, hmemory⟩ := changeThenPersist_kept
    (ReferenceAdapter.failsClean_persist (F.storedAt now r)) hthrown
  exact ⟨hstore, hmemory.trans ((kept_map_iff _).trans upsert_kept_iff_reference)⟩

theorem flush_kept {storedAt : Option IsoDateTime}
    (hthrown : (adapter.flush F failures now memory store storedAt).2.2 = .error e) :
    (adapter.flush F failures now memory store storedAt).2.1 = store ∧
      (adapter.flush F failures now memory store storedAt).1 = memory := by
  obtain ⟨hstore, hmemory⟩ := changeThenPersist_kept
    (ReferenceAdapter.failsClean_persist (storedAt.getD now)) hthrown
  exact ⟨hstore, hmemory.2 fun _ h => (Except.ok.inj h).symm⟩

theorem restoreBackup_kept {id : CanonicalId} {restoredAt : Option IsoDateTime}
    (hthrown : (adapter.restoreBackup F failures now memory store id restoredAt).2.2 = .error e) :
    (adapter.restoreBackup F failures now memory store id restoredAt).2.1 = store ∧
      ((adapter.restoreBackup F failures now memory store id restoredAt).1 = memory ↔
        BackupThere F adapter memory store id) := by
  obtain ⟨hstore, hmemory⟩ := changeThenPersist_kept
    (ReferenceAdapter.failsClean_persist (restoredAt.getD now)) hthrown
  refine ⟨hstore, hmemory.trans ?_⟩
  unfold BackupThere
  cases hbackup : adapter.readBackup F store id with
  | error message => exact ⟨fun _ _ h => (by cases h), fun _ _ h => (by cases h)⟩
  | ok backup =>
    have hcopied := ReferenceAdapter.copied_readBackup hbackup
    have hsame : ReferenceAdapter.remember F backup = memory ↔
        backup.snapshot = memory.memory.snapshot ∧
          backup.backupMetadata = memory.backupMetadata := by
      rw [ReferenceMemory.ext_iff, Memory.ext_iff]
      show F.copyAll backup.snapshot = _ ∧ _ ↔ _
      rw [hcopied]
      rfl
    refine kept_ok_iff.trans (hsame.trans ⟨fun h backup' hbackup' => ?_, fun h => h backup rfl⟩)
    exact Except.ok.inj hbackup' ▸ h

theorem createBackup_kept {id : CanonicalId} {createdAt : Option IsoDateTime}
    (hthrown : (adapter.createBackup F failures now memory store id createdAt).2.2 = .error e) :
    (adapter.createBackup F failures now memory store id createdAt).1 = memory := by
  unfold ReferenceAdapter.createBackup at hthrown ⊢
  dsimp only at hthrown ⊢
  split
  · rfl
  · split
    · rfl
    · split
      · rfl
      · next hrecord _ hcurrent _ hbackup =>
        rw [hrecord, hcurrent, hbackup] at hthrown
        cases hthrown

variable (F adapter failures now memory store) in
/-- Whatever the store holds, a backup answers and leaves in memory the same. -/
theorem createBackup_store (store' : ExternalSnapshotStore S) (id : CanonicalId)
    (createdAt : Option IsoDateTime) :
    (adapter.createBackup F failures now memory store' id createdAt).1 =
        (adapter.createBackup F failures now memory store id createdAt).1 ∧
      (adapter.createBackup F failures now memory store' id createdAt).2.2 =
        (adapter.createBackup F failures now memory store id createdAt).2.2 := by
  unfold ReferenceAdapter.createBackup
  dsimp only
  split
  · exact ⟨rfl, rfl⟩
  · split
    · exact ⟨rfl, rfl⟩
    · split <;> exact ⟨rfl, rfl⟩

end

/-- What an adapter has in memory already; a backup is taken into memory last. -/
def ReferenceCallThere {C S R K : Type} [DecidableEq K] (F : ReferenceFormat S R K)
    (adapter : ReferenceAdapter) (CallThere : ReferenceMemory F → C → Prop) :
    ReferenceCall C → ReferenceMemory F → ExternalSnapshotStore S → Prop
  | .call call, memory, _ => CallThere memory call
  | .createBackup _ _, _, _ => True
  | .restoreBackup id _, memory, store => BackupThere F adapter memory store id

/-- What a graph adapter has in memory already. -/
def ReferenceGraphCallThere (adapter : ReferenceAdapter) (memory : ReferenceMemory referenceGraph) :
    GraphCall → Prop
  | .upsert r => RecordThere graphSnapshots memory.memory r
      (assertGraphRecord adapter.host adapter.tenantBoundary memory.memory.snapshot r)
  | .deleteRelationship id deletedAt => DeletionThere memory.memory id deletedAt
  | .flush _ => True

/-- What a connector-state adapter has in memory already. -/
def ConnectorStateCallThere (adapter : ReferenceAdapter)
    (memory : ReferenceMemory referenceConnectorState) : JobCall → Prop
  | .record r => RecordThere jobSnapshots memory.memory r
      (assertJobRecord adapter.host adapter.tenantBoundary memory.memory.snapshot r)
  | .flush _ => True

section
variable (adapter : ReferenceAdapter)

/-- A call on a graph store, with what its writes throw and what the clock shows. -/
def performReferenceGraph (call : ReferenceCall GraphCall) (x : WriteFailures × IsoDateTime)
    (memory : ReferenceMemory referenceGraph) (store : ExternalSnapshotStore RebacSeedData) :
    StoreOutcome referenceGraph (RepositoryAnswer GraphRecord) :=
  ReferenceGraphStoreAdapter.perform adapter x.1 x.2 memory store call

/-- A call on a connector-state store. -/
def performConnectorState (call : ReferenceCall JobCall) (x : WriteFailures × IsoDateTime)
    (memory : ReferenceMemory referenceConnectorState)
    (store : ExternalSnapshotStore RebacJobSnapshot) :
    StoreOutcome referenceConnectorState (RepositoryAnswer JobRecord) :=
  ReferenceConnectorStateStoreAdapter.perform adapter x.1 x.2 memory store call

theorem deleteRelationship_kept {failures : WriteFailures} {now : IsoDateTime}
    {memory : ReferenceMemory referenceGraph} {store : ExternalSnapshotStore RebacSeedData}
    {e : String} {id : CanonicalId} {deletedAt : IsoDateTime}
    (hthrown : (ReferenceGraphStoreAdapter.deleteRelationship adapter failures now memory store id
      deletedAt).2.2 = .error e) :
    (ReferenceGraphStoreAdapter.deleteRelationship adapter failures now memory store id
        deletedAt).2.1 = store ∧
      ((ReferenceGraphStoreAdapter.deleteRelationship adapter failures now memory store id
          deletedAt).1 = memory ↔ DeletionThere memory.memory id deletedAt) := by
  unfold ReferenceGraphStoreAdapter.deleteRelationship at hthrown ⊢
  cases ht : findBy (·.id) memory.memory.snapshot.relationships id with
  | none =>
    rw [ht] at hthrown
    cases hthrown
  | some t =>
    rw [ht] at hthrown
    obtain ⟨hstore, hmemory⟩ := changeThenPersist_kept
      (ReferenceAdapter.failsClean_persist now) hthrown
    refine ⟨hstore, hmemory.trans (kept_ok_iff.trans ?_)⟩
    rw [ReferenceMemory.ext_iff]
    exact (and_iff_left rfl).trans (deletion_kept_iff ht)

theorem performReferenceGraph_leaves : LeavesNothingWhen (exportedWithBackups referenceGraph)
    (performReferenceGraph adapter)
    (ReferenceCallThere referenceGraph adapter (ReferenceGraphCallThere adapter)) := by
  have hreads := exportedWithBackups_injective referenceGraph
  intro call x memory store e hthrown
  cases call with
  | call call =>
    refine nothingLeft_iff_of_kept hreads ?_
    cases call with
    | upsert r => exact writeRecord_kept hthrown
    | deleteRelationship id deletedAt => exact deleteRelationship_kept adapter hthrown
    | flush storedAt =>
      obtain ⟨hstore, hmemory⟩ := flush_kept hthrown
      exact ⟨hstore, iff_true_intro hmemory⟩
  | createBackup id createdAt =>
    have hmemory := createBackup_kept hthrown
    refine (nothingLeft_iff_same hreads fun y => ?_).trans (iff_true_intro hmemory)
    exact createBackup_store referenceGraph adapter y.1 y.2 memory store _ id createdAt
  | restoreBackup id restoredAt =>
    exact nothingLeft_iff_of_kept hreads (restoreBackup_kept hthrown)

theorem performConnectorState_leaves :
    LeavesNothingWhen (exportedWithBackups referenceConnectorState)
      (performConnectorState adapter)
      (ReferenceCallThere referenceConnectorState adapter (ConnectorStateCallThere adapter)) := by
  have hreads := exportedWithBackups_injective referenceConnectorState
  intro call x memory store e hthrown
  cases call with
  | call call =>
    refine nothingLeft_iff_of_kept hreads ?_
    cases call with
    | record r => exact writeRecord_kept hthrown
    | flush storedAt =>
      obtain ⟨hstore, hmemory⟩ := flush_kept hthrown
      exact ⟨hstore, iff_true_intro hmemory⟩
  | createBackup id createdAt =>
    have hmemory := createBackup_kept hthrown
    refine (nothingLeft_iff_same hreads fun y => ?_).trans (iff_true_intro hmemory)
    exact createBackup_store referenceConnectorState adapter y.1 y.2 memory store _ id createdAt
  | restoreBackup id restoredAt =>
    exact nothingLeft_iff_of_kept hreads (restoreBackup_kept hthrown)

end

/-- **When nothing is left of a call that throws**, in each of the four repositories: it was
refused, or what it writes is there already. -/
theorem nothingLeft_iff (repository : LocalJsonFile) (adapter : ReferenceAdapter) :
    LeavesNothingWhen (exported graphSnapshots) (performGraph repository)
      (fun call memory _ => GraphCallThere memory call) ∧
    LeavesNothingWhen (exported jobSnapshots) (performJobs repository)
      (fun call memory _ => JobCallThere memory call) ∧
    LeavesNothingWhen (exportedWithBackups referenceGraph) (performReferenceGraph adapter)
      (ReferenceCallThere referenceGraph adapter (ReferenceGraphCallThere adapter)) ∧
    LeavesNothingWhen (exportedWithBackups referenceConnectorState) (performConnectorState adapter)
      (ReferenceCallThere referenceConnectorState adapter (ConnectorStateCallThere adapter)) :=
  ⟨performGraph_leaves repository, performJobs_leaves repository,
    performReferenceGraph_leaves adapter, performConnectorState_leaves adapter⟩

/-! ## A full disk -/

def repository : LocalJsonFile where
  host := plainHost
  location := "job-state.json"

def adapter : ReferenceAdapter where
  host := plainHost
  tenantBoundary := "tenant:default"
  location := "postgres:access-kit"
  tenantBoundary_ne := by decide

def noJobs : Memory jobSnapshots.toSnapshots := Memory.load _ L6.emptyReferenceJobSnapshot

def discoveryRun : RuntimeRecord where
  collection := .discoveryRuns
  id := "discovery:1"
  fields := [("connectorId", .str "connector:mock"), ("status", .str "completed")]

/-- The run is recorded while the disk is full. -/
def failed : FileOutcome jobSnapshots :=
  performJobs repository (.record (.record discoveryRun))
    (some "ENOSPC: no space left on device, write", "2026-05-01T09:00:00.000Z") noJobs none

/-- **Counterexample**: a discovery run could not be written. It is listed all the same, and
recording it again is refused, where it would be accepted without the first call. -/
theorem failed_run_recorded :
    failed.2.2 = .error "ENOSPC: no space left on device, write" ∧ failed.2.1 = none ∧
      (exported jobSnapshots noJobs).records = [] ∧
      (exported jobSnapshots failed.1).records = [discoveryRun] ∧
      (∀ now, (performJobs repository (.record (.record discoveryRun)) (none, now) failed.1
          failed.2.1).2.2 =
        .error "Discovery run discovery:1 has already been recorded.") ∧
      ¬ NothingLeft (exported jobSnapshots)
        (performJobs repository (.record (.record discoveryRun))) noJobs none failed.1
        failed.2.1 := by
  refine ⟨rfl, rfl, rfl, rfl, fun _ => rfl, fun h => ?_⟩
  have hrecords := congrArg (fun jobs => jobs.records.length) h.read
  cases (hrecords : 1 = 0)

def finding : RuntimeRecord where
  collection := .driftFindings
  id := "finding:1"
  fields := [("status", .str "open")]

/-- A finding that is there already, written again on the full disk. -/
theorem known_finding_kept :
    NothingLeft (exported jobSnapshots) (performJobs repository (.record (.record finding)))
      (noJobs.upsert (.record finding)) none (noJobs.upsert (.record finding)) none :=
  ((nothingLeft_iff repository adapter).2.1 (.record (.record finding))
    (some "ENOSPC: no space left on device, write", "2026-05-01T09:00:00.000Z")
    (noJobs.upsert (.record finding)) none _ rfl).2 fun _ => rfl

end AccessKit.Bugs.VisibleFailures
