import AccessKit.Core.WriteBack
import AccessKit.L7Persistence.ReferenceAdapters

/-!
# Adapters on one store

Instances of `ReferenceGraphStoreAdapter` or of `ReferenceConnectorStateStoreAdapter` that were
opened on the same store: packages/core/src/reference-repositories.ts:157-421 and 423-707. Each
works on the snapshot that it has in memory, and writes all of it.

Results:
* `sharedGraphs_lawful`, `sharedConnectorStates_lawful`: such adapters write a store back.
-/
namespace AccessKit.L7
open AccessKit.Core AccessKit.L1
open AccessKit.L2.Store (GraphRecord GraphKey)
open AccessKit.L2.Store.InMemoryRebacStore (RebacSeedData markDeleted)
open AccessKit.L5 (RebacJobSnapshot JobRecord JobKey)

section
variable {S R K Call : Type} [DecidableEq K] (F : ReferenceFormat S R K)

/-- An adapter is opened, or it is called: then its writes may fail, and there is the clock. -/
inductive SharedCall (Call : Type)
  | opened
  | made (failures : WriteFailures) (now : IsoDateTime) (call : ReferenceCall Call)

/-- The calls of a kind of adapter. -/
abbrev AdapterPerform (Call : Type) : Type :=
  ReferenceAdapter → WriteFailures → IsoDateTime → ReferenceMemory F → ExternalSnapshotStore S →
    ReferenceCall Call → StoreOutcome F (RepositoryAnswer R)

/-- What is stored under a key. -/
def storedEntity (store : ExternalSnapshotStore S) (k : K) : Option R :=
  store.current.bind fun record => F.find record.snapshot k

/-- The entity that was written by a call that returned. -/
def writtenEntity : Except String (RepositoryAnswer R) → Option (K × R)
  | .ok (.record (some r)) => some (F.key r, r)
  | _ => none

/-- The entities that a call is about: a restore is about all of them. -/
def ReferenceCall.about (about : Call → K → Prop) : ReferenceCall Call → K → Prop
  | .call c, k => about c k
  | .createBackup .., _ => False
  | .restoreBackup .., _ => True

variable {ι : Type} (perform : AdapterPerform F Call) (about : Call → K → Prop)
  (adapters : ι → ReferenceAdapter)

/-- The adapters, each with what it has in memory. One that cannot be opened stays as it was. -/
def sharedAdapters :
    WriteBack ι (ReferenceMemory F) (ExternalSnapshotStore S) (SharedCall Call) K R where
  cached memory k := memory.memory.find k
  stored := storedEntity F
  call i c memory store :=
    match c with
    | .opened => (((adapters i).openOn F store).toOption.getD memory, store, none)
    | .made failures now call =>
      let outcome := perform (adapters i) failures now memory store call
      (outcome.1, outcome.2.1, writtenEntity F outcome.2.2)
  writes
    | .opened => False
    | .made .. => True
  about
    | .opened, _ => False
    | .made _ _ call, k => call.about about k

variable {F}

/-- What a call does to the store: nothing, or it writes what is in memory. -/
structure Rewrites (memory : ReferenceMemory F) (store : ExternalSnapshotStore S)
    (outcome : StoreOutcome F (RepositoryAnswer R)) (about : K → Prop) : Prop where
  others : ∀ k, ¬ about k → storedEntity F outcome.2.1 k = memory.memory.find k
  written : ∀ r, outcome.2.2 = .ok (.record (some r)) →
    about (F.key r) ∧ storedEntity F outcome.2.1 (F.key r) = some r

/-- The store is left, and no entity was written. -/
def Leaves (store : ExternalSnapshotStore S) (outcome : StoreOutcome F (RepositoryAnswer R)) :
    Prop :=
  storedEntity F outcome.2.1 = storedEntity F store ∧
    ∀ r, outcome.2.2 ≠ .ok (.record (some r))

/-- Each call of a kind of adapter leaves the store, or writes what is in memory. -/
def WritesWhole (perform : AdapterPerform F Call) (about : Call → K → Prop) : Prop :=
  ∀ adapter failures now memory store c,
    Leaves store (perform adapter failures now memory store c) ∨
      Rewrites memory store (perform adapter failures now memory store c) (c.about about)

variable {perform about adapters}

theorem writtenEntity_some {answer : Except String (RepositoryAnswer R)} {k : K} {r : R}
    (h : writtenEntity F answer = some (k, r)) : F.key r = k ∧ answer = .ok (.record (some r)) := by
  unfold writtenEntity at h
  split at h
  · cases h
    exact ⟨rfl, rfl⟩
  · cases h

theorem sharedAdapters_lawful (hwhole : WritesWhole perform about) :
    (sharedAdapters F perform about adapters).Lawful := by
  intro i c memory store
  cases c with
  | opened => exact .inl ⟨rfl, rfl⟩
  | made failures now call =>
    rcases hwhole (adapters i) failures now memory store call with hleaves | hrewrites
    · refine .inl ⟨hleaves.1, Option.eq_none_iff_forall_not_mem.2 fun written hwritten => ?_⟩
      exact hleaves.2 _ (writtenEntity_some hwritten).2
    · refine .inr ⟨trivial, hrewrites.others, fun k r hwritten => ?_⟩
      obtain ⟨rfl, hanswer⟩ := writtenEntity_some hwritten
      exact hrewrites.written r hanswer

/-! ## The calls -/

section
variable {adapter : ReferenceAdapter} {failures : WriteFailures} {now storedAt : IsoDateTime}
  {memory : ReferenceMemory F} {store : ExternalSnapshotStore S}

theorem find_persisted {record : ReferenceSnapshotRecord S} {m : ReferenceMemory F}
    (hcurrent : store.current = some record) (h : record.snapshot = m.memory.snapshot) (k : K) :
    storedEntity F store k = m.memory.find k := by
  unfold storedEntity
  rw [hcurrent]
  exact congrArg (fun snapshot => F.find snapshot k) h

theorem rewrites_changed {about : K → Prop}
    {change : ReferenceMemory F → Except String (ReferenceMemory F)}
    {answer : StorageReceipt → RepositoryAnswer R}
    (hothers : ∀ memory', change memory = .ok memory' → ∀ k, ¬ about k →
      memory'.memory.find k = memory.memory.find k)
    (hwritten : ∀ memory', change memory = .ok memory' → ∀ receipt r,
      answer receipt = .record (some r) →
        about (F.key r) ∧ memory'.memory.find (F.key r) = some r) :
    Leaves store
        (changeThenPersist (adapter.persist F failures storedAt) change answer memory store) ∨
      Rewrites memory store
        (changeThenPersist (adapter.persist F failures storedAt) change answer memory store)
        about := by
  cases hchange : change memory with
  | error message =>
    rw [changeThenPersist_refused hchange]
    exact .inl ⟨rfl, fun r h => by cases h⟩
  | ok memory' =>
    rw [changeThenPersist_made hchange]
    cases hpersisted : (adapter.persist F failures storedAt memory' store).2.2 with
    | error message =>
      rw [ReferenceAdapter.failsClean_persist storedAt memory' store message hpersisted]
      exact .inl ⟨rfl, fun r h => by cases h⟩
    | ok receipt =>
      obtain ⟨-, record, hsnapshot, -, hstore⟩ := ReferenceAdapter.persist_ok hpersisted
      rw [hstore]
      refine .inr ⟨fun k hk => ?_, fun r hr => ?_⟩
      · exact (find_persisted rfl hsnapshot k).trans (hothers memory' hchange k hk)
      · obtain ⟨habout, hfind⟩ := hwritten memory' hchange receipt r (Except.ok.inj hr)
        exact ⟨habout, (find_persisted rfl hsnapshot _).trans hfind⟩

theorem writeRecord_whole {r : R} :
    Leaves store (adapter.writeRecord F failures now memory store r) ∨
      Rewrites memory store (adapter.writeRecord F failures now memory store r)
        (F.key r = ·) := by
  have hchanged : ∀ memory', ((F.assertRecord adapter.host adapter.tenantBoundary
      memory.memory.snapshot r).map fun _ => { memory with memory := memory.memory.upsert r }) =
      .ok memory' → memory'.memory = memory.memory.upsert r := by
    intro memory' h
    cases hassert : F.assertRecord adapter.host adapter.tenantBoundary memory.memory.snapshot r with
    | error message =>
      rw [hassert] at h
      cases h
    | ok _ =>
      rw [hassert] at h
      cases h
      rfl
  refine rewrites_changed (fun memory' h k hk => ?_) (fun memory' h receipt r' hr => ?_)
  · rw [hchanged memory' h, Memory.find_upsert, if_neg hk]
  · cases hr
    rw [hchanged memory' h, F.key_copy, Memory.find_upsert, if_pos rfl]
    exact ⟨rfl, rfl⟩

theorem flush_whole {at? : Option IsoDateTime} :
    Leaves store (adapter.flush F failures now memory store at?) ∨
      Rewrites memory store (adapter.flush F failures now memory store at?) fun _ => False := by
  refine rewrites_changed (fun memory' h k _ => ?_) (fun memory' _ receipt r hr => by cases hr)
  cases h
  rfl

theorem restoreBackup_whole {id : CanonicalId} {restoredAt : Option IsoDateTime} :
    Leaves store (adapter.restoreBackup F failures now memory store id restoredAt) ∨
      Rewrites memory store (adapter.restoreBackup F failures now memory store id restoredAt)
        fun _ => True :=
  rewrites_changed (fun _ _ k hk => absurd trivial hk) (fun _ _ receipt r hr => by cases hr)

theorem createBackup_whole {id : CanonicalId} {createdAt : Option IsoDateTime} :
    Leaves store (adapter.createBackup F failures now memory store id createdAt) ∨
      Rewrites memory store (adapter.createBackup F failures now memory store id createdAt)
        fun _ => False := by
  unfold ReferenceAdapter.createBackup
  dsimp only
  split
  · exact .inl ⟨rfl, fun r h => by cases h⟩
  · next record hrecord =>
    have hsnapshot := (ReferenceAdapter.remember_createRecord hrecord).2
    split
    · exact .inl ⟨rfl, fun r h => by cases h⟩
    · -- the record is written before the backup, whose write may fail
      split
      all_goals exact .inr ⟨fun k _ => find_persisted rfl hsnapshot k, fun r h => by cases h⟩

end

end

/-! ## Graphs and connector states -/

/-- A write of a graph is about one entity, a flush about none. -/
def GraphCall.about : GraphCall → GraphKey → Prop
  | .upsert r, k => r.key = k
  | .deleteRelationship id _, k => .relationship id = k
  | .flush _, _ => False

def JobCall.about : JobCall → JobKey → Prop
  | .record r, k => r.key = k
  | .flush _, _ => False

section
variable {ι : Type} (adapters : ι → ReferenceAdapter)

def sharedGraphs := sharedAdapters referenceGraph ReferenceGraphStoreAdapter.perform
  GraphCall.about adapters

def sharedConnectorStates := sharedAdapters referenceConnectorState
  ReferenceConnectorStateStoreAdapter.perform JobCall.about adapters

theorem deleteRelationship_whole {adapter : ReferenceAdapter} {failures : WriteFailures}
    {now : IsoDateTime} {memory : ReferenceMemory referenceGraph}
    {store : ExternalSnapshotStore RebacSeedData} {id : CanonicalId} {deletedAt : IsoDateTime} :
    Leaves store (ReferenceGraphStoreAdapter.deleteRelationship adapter failures now memory store id
        deletedAt) ∨
      Rewrites memory store (ReferenceGraphStoreAdapter.deleteRelationship adapter failures now
        memory store id deletedAt) (GraphKey.relationship id = ·) := by
  unfold ReferenceGraphStoreAdapter.deleteRelationship
  split
  · exact .inl ⟨rfl, fun r h => by cases h⟩
  · next t ht =>
    have hid : t.id = id := findBy_key ht
    have hkey : (GraphRecord.relationship (markDeleted t deletedAt)).key = .relationship id :=
      congrArg GraphKey.relationship hid
    refine rewrites_changed (fun memory' h k hk => ?_) (fun memory' h receipt r hr => ?_)
    · cases h
      exact (Memory.find_upsert _ _ _).trans (if_neg fun h => hk (hkey.symm.trans h))
    · cases h
      cases hr
      exact ⟨hkey.symm, (Memory.find_upsert _ _ _).trans (if_pos rfl)⟩

theorem sharedGraphs_lawful : (sharedGraphs adapters).Lawful := by
  refine sharedAdapters_lawful fun adapter failures now memory store c => ?_
  cases c with
  | call c =>
    cases c with
    | upsert r => exact writeRecord_whole
    | deleteRelationship id deletedAt => exact deleteRelationship_whole
    | flush storedAt => exact flush_whole
  | createBackup id createdAt => exact createBackup_whole
  | restoreBackup id restoredAt => exact restoreBackup_whole

theorem sharedConnectorStates_lawful : (sharedConnectorStates adapters).Lawful := by
  refine sharedAdapters_lawful fun adapter failures now memory store c => ?_
  cases c with
  | call c =>
    cases c with
    | record r => exact writeRecord_whole
    | flush storedAt => exact flush_whole
  | createBackup id createdAt => exact createBackup_whole
  | restoreBackup id restoredAt => exact restoreBackup_whole

end

end AccessKit.L7
