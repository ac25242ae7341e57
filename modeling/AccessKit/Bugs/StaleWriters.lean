import AccessKit.L2Graph.Fixtures
import AccessKit.L7Persistence.CleanGraphs
import AccessKit.L7Persistence.ReferenceBackups
import AccessKit.L7Persistence.SharedAdapters

/-!
# Two adapters on one store

Status: open. `ReferenceGraphStoreAdapter` and `ReferenceConnectorStateStoreAdapter` read the
store when they are opened and when they restore a backup, and never again. Every write puts
its record into the snapshot in memory and writes all of it with `writeCurrent`
(packages/core/src/reference-repositories.ts:205-211, 379-393, 507-512, 678-694), over
whatever another adapter has written since. Both advertise transactional writes (:191, :459).
The job queue, which does so too, compares the stored record with the one it read, and throws
when another has written (packages/core/src/reference-job-queue.ts:813-849).

Counterexample: two subjects, written by two adapters that were opened on an empty store
(`second_overwrites`).

Exact condition: whoever writes has in memory what is stored of the other entities
(`acknowledged_kept`).
-/
namespace AccessKit.Bugs.StaleWriters
open AccessKit.Core AccessKit.L1 AccessKit.L2.Fixtures AccessKit.L7
open AccessKit.L2.Store (GraphKey GraphRecord)

/-- From any state on, nothing that was acknowledged is lost while the writers are up to date;
a write of one that is not loses what it does not have in memory. -/
def KeptWhileUpToDate {ι M D Op K R : Type} [DecidableEq ι] (W : WriteBack ι M D Op K R) : Prop :=
  (∀ s calls, W.AllUpToDate s calls → W.NothingLost s calls) ∧
    ∀ s c answer, W.acknowledged s c = some answer → ¬ W.UpToDate s c →
      ∃ k r, ¬ W.about c.2 k ∧ W.stored s.2 k = some r ∧ W.stored (W.perform s c).2 k ≠ some r

theorem keptWhileUpToDate {ι M D Op K R : Type} [DecidableEq ι] {W : WriteBack ι M D Op K R}
    (h : W.Lawful) : KeptWhileUpToDate W :=
  ⟨fun _ _ hupToDate => h.nothingLost hupToDate, fun _ _ _ hanswer hstale => h.lost hanswer hstale⟩

/-- **Acknowledged writes** of any number of adapters on one store, in any order, whichever
writes of the store fail: none is lost while each writer has in memory what is stored of the
other entities, and each write of a writer that has not loses one of them. -/
theorem acknowledged_kept {ι : Type} [DecidableEq ι] (adapters : ι → ReferenceAdapter) :
    KeptWhileUpToDate (sharedGraphs adapters) ∧
      KeptWhileUpToDate (sharedConnectorStates adapters) :=
  ⟨keptWhileUpToDate (sharedGraphs_lawful adapters),
    keptWhileUpToDate (sharedConnectorStates_lawful adapters)⟩

/-! ## Two subjects -/

def tenantAdapter : ReferenceAdapter where
  host := plainHost
  tenantBoundary := "tenant:default"
  location := "postgres:access-kit"
  tenantBoundary_ne := defaultBoundary_ne

/-- Two adapters with the same options. -/
def graphs := sharedGraphs fun _ : Bool => tenantAdapter

def subject (id : CanonicalId) : Subject :=
  { fixtureSubject id .user "Alice" .active with
    attributes := some [("tenantId", .str "tenant:default")] }

/-- Nothing was written, and nothing is in memory. -/
def nothing : (Bool → ReferenceMemory referenceGraph) ×
    ExternalSnapshotStore L2.Store.InMemoryRebacStore.RebacSeedData :=
  (fun _ => { memory := Memory.load _ emptyGraphSnapshot, backupMetadata := [] },
    { current := none, backups := .empty })

def write (id : CanonicalId) : SharedCall GraphCall :=
  .made ⟨none, none⟩ timestamp (.call (.upsert (.subject (subject id))))

def opening : List (Bool × SharedCall GraphCall) := [(false, .opened), (true, .opened)]

/-- Both are opened, and each writes a subject. -/
def calls : List (Bool × SharedCall GraphCall) :=
  opening ++ [(false, write "user:alice"), (true, write "user:bob")]

theorem call_write (writer : Bool) (id : CanonicalId) (memory : ReferenceMemory referenceGraph)
    (store : ExternalSnapshotStore L2.Store.InMemoryRebacStore.RebacSeedData) :
    graphs.call writer (write id) memory store =
      ((tenantAdapter.writeRecord referenceGraph ⟨none, none⟩ timestamp memory store
          (.subject (subject id))).1,
        (tenantAdapter.writeRecord referenceGraph ⟨none, none⟩ timestamp memory store
          (.subject (subject id))).2.1,
        writtenEntity referenceGraph (tenantAdapter.writeRecord referenceGraph ⟨none, none⟩
          timestamp memory store (.subject (subject id))).2.2) := by
  unfold graphs sharedGraphs sharedAdapters write
  dsimp only
  rw [ReferenceGraphStoreAdapter.perform, ReferenceGraphStoreAdapter.upsert]

/-- An adapter that found an empty store writes its subject: that subject is acknowledged, and
the record that it stores passed the checks. -/
theorem written_new (s : (Bool → ReferenceMemory referenceGraph) ×
      ExternalSnapshotStore L2.Store.InMemoryRebacStore.RebacSeedData) (writer : Bool)
    (hnew : s.1 writer = nothing.1 writer) (id : CanonicalId) :
    graphs.acknowledged s (writer, write id) = some (.subject id, .subject (subject id)) ∧
      ∃ record, (graphs.perform s (writer, write id)).2.current = some record ∧
        Restorable referenceGraph tenantAdapter record := by
  have hempty : CleanGraph tenantAdapter (s.1 writer).memory.snapshot := by
    rw [hnew]
    exact fun r hr => by cases hr
  obtain ⟨record, hrecord, hwritten⟩ := @writeRecord_clean tenantAdapter ⟨none, none⟩
    (s.1 writer) s.2 timestamp (.subject (subject id)) rfl hempty (clean_subject rfl rfl) trivial
  have hcall : (graphs.call writer (write id) (s.1 writer) s.2).2 =
      ({ s.2 with current := some record }, some (.subject id, .subject (subject id))) := by
    rw [call_write, hwritten]
    rfl
  rw [WriteBack.acknowledged_call, WriteBack.perform_store, hcall]
  exact ⟨rfl, record, rfl, restorable_createRecord hrecord⟩

theorem first_acknowledged : graphs.acknowledged (graphs.run nothing opening)
    (false, write "user:alice") =
      some (.subject "user:alice", .subject (subject "user:alice")) :=
  (written_new (graphs.run nothing opening) false rfl "user:alice").1

theorem only_second_stored :
    graphs.stored (graphs.run nothing calls).2 (.subject "user:alice") = none := by
  have hnew : (graphs.run nothing (calls.take 3)).1 true = nothing.1 true := rfl
  have hsecond := (written_new (graphs.run nothing (calls.take 3)) true hnew "user:bob").1
  have hstored : graphs.stored (graphs.perform (graphs.run nothing (calls.take 3))
      (true, write "user:bob")).2 (.subject "user:alice") =
        graphs.cached ((graphs.run nothing (calls.take 3)).1 true) (.subject "user:alice") :=
    (sharedGraphs_lawful _).written hsecond
      fun hkey => absurd (GraphKey.subject.inj hkey) (by decide)
  rw [show calls = calls.take 3 ++ [(true, write "user:bob")] from rfl, WriteBack.run,
    List.foldl_append, List.foldl_cons, List.foldl_nil]
  exact hstored.trans (congrArg (graphs.cached · (.subject "user:alice")) hnew)

/-- **Counterexample**: the first subject was written, and is not stored after the second. -/
theorem second_overwrites :
    graphs.stored (graphs.run nothing calls).2 (.subject "user:alice") = none ∧
      ¬ ∀ calls, graphs.NothingLost nothing calls := by
  refine ⟨only_second_stored, fun h => ?_⟩
  have hkept := h calls opening _ [(true, write "user:bob")] _ _ rfl first_acknowledged
    fun c hc hkey => by
      cases List.mem_singleton.1 hc
      exact absurd (GraphKey.subject.inj hkey) (by decide)
  cases hkept.symm.trans only_second_stored

/-! ### Opened again -/

/-- The second adapter is opened again before it writes. -/
def reopened : List (Bool × SharedCall GraphCall) :=
  opening ++ [(false, write "user:alice"), (true, .opened), (true, write "user:bob")]

/-- **An adapter that was just opened** on a record of its own is up to date. -/
theorem upToDate_opened {s : (Bool → ReferenceMemory referenceGraph) ×
      ExternalSnapshotStore L2.Store.InMemoryRebacStore.RebacSeedData}
    {record : ReferenceSnapshotRecord L2.Store.InMemoryRebacStore.RebacSeedData}
    (hcurrent : s.2.current = some record)
    (hrestorable : Restorable referenceGraph tenantAdapter record) (c : SharedCall GraphCall) :
    graphs.UpToDate (graphs.perform s (true, .opened)) (true, c) := by
  have hopened : tenantAdapter.openOn referenceGraph s.2 =
      .ok (ReferenceAdapter.remember _ record) := by
    rw [ReferenceAdapter.openOn, hcurrent]
    dsimp only
    rw [hrestorable.valid]
    rfl
  have hmemory : (graphs.perform s (true, .opened)).1 true =
      ReferenceAdapter.remember _ record := by
    show ((tenantAdapter.openOn referenceGraph s.2).toOption.getD (s.1 true)) = _
    rw [hopened]
    rfl
  have hcopied := congrArg (·.snapshot) (ReferenceAdapter.validateRecord_ok hrestorable.valid)
  intro _ k _ r hr
  rw [hmemory]
  have hstored : storedEntity referenceGraph s.2 k = some r := hr
  rw [storedEntity, hcurrent] at hstored
  exact (congrArg (fun snapshot => referenceGraph.find snapshot k) hcopied).symm.trans hstored

theorem allUpToDate_reopened : graphs.AllUpToDate nothing reopened := by
  obtain ⟨-, record, hcurrent, hrestorable⟩ :=
    written_new (graphs.run nothing opening) false rfl "user:alice"
  have hfirst : graphs.UpToDate (graphs.run nothing opening) (false, write "user:alice") :=
    fun _ k _ r hr => by cases hr
  have hsecond := upToDate_opened hcurrent hrestorable (write "user:bob")
  exact WriteBack.allUpToDate_append.2 ⟨⟨fun h => h.elim, fun h => h.elim, trivial⟩,
    hfirst, fun h => h.elim, hsecond, trivial⟩

/-- The first subject is still stored after the second. -/
theorem both_stored :
    graphs.stored (graphs.run nothing reopened).2 (.subject "user:alice") =
      some (.subject (subject "user:alice")) := by
  have hkept : graphs.NothingLost nothing reopened :=
    (acknowledged_kept fun _ => tenantAdapter).1.1 nothing reopened allUpToDate_reopened
  refine hkept opening _ [(true, .opened), (true, write "user:bob")] _ _ rfl first_acknowledged
    fun c hc habout => ?_
  simp only [List.mem_cons, List.not_mem_nil, or_false] at hc
  rcases hc with rfl | rfl
  · exact habout
  · exact absurd (GraphKey.subject.inj habout) (by decide)

end AccessKit.Bugs.StaleWriters
