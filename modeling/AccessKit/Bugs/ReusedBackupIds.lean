import AccessKit.L2Audit.ReferenceFixtures
import AccessKit.L2Graph.Fixtures
import AccessKit.L6Queue.Fixtures
import AccessKit.L7Persistence.CleanGraphs
import AccessKit.L7Persistence.ReferenceBackups

/-!
# A backup under an identifier that is taken

Status: open. `createBackup` stores under the identifier it is given, whatever is there
(packages/core/src/reference-audit-backups.ts:78, reference-job-queue.ts:756,
reference-repositories.ts:318, 652), and appends its entry to the list, where the entry of the
first backup stays. Both entries now name the second backup: the snapshotHash of the first is
not that of what is stored, and what it captured cannot be restored. The other writes of these
stores refuse an identifier that is taken, "has already been appended", "retained", "signed" or
"recorded" (packages/core/src/reference-audit-memory-store.ts:25-63).

Counterexample: two backups of a graph in one night (`second_replaces_first`).

Exact condition: no backup takes the identifier of a stored one whose snapshot is another
(`backups_restore`).
-/
namespace AccessKit.Bugs.ReusedBackupIds
open AccessKit.Core AccessKit.L1 AccessKit.L2.Fixtures AccessKit.L7
open AccessKit.L2.Store (GraphRecord)
open AccessKit.L2.Audit (ReferenceAuditEvidenceAdapter ReferenceRepositoryBackupMetadata)

/-- From the start on, backups restore what they captured while no identifier is used again for
another snapshot; and only then, but for the calls that throw. -/
def RestoresWhileUnused {σ Op P I C E D : Type} (B : BackupSystem σ Op P I C E D)
    (works : P → Prop) (start : σ) : Prop :=
  ∀ calls, (B.AllUnused start calls → B.Restores works start calls) ∧
    (B.Restores works start calls → ∀ before id p after e, calls = before ++ .create id p :: after →
      (B.create (B.run start before) id p).2 = .ok e → B.Unused (B.run start before) (.create id p))

theorem restoresWhileUnused {σ Op P I C E D : Type} [DecidableEq I]
    {B : BackupSystem σ Op P I C E D} {Inv : σ → Prop} {works : P → Prop} {start : σ} {q : P}
    (h : B.Lawful Inv works) (hinv : Inv start) (hentries : B.entries start = [])
    (hnone : ∀ i, B.backup start i = none) (hq : works q) : RestoresWhileUnused B works start :=
  fun _ => ⟨fun hunused => h.restores (BackupSystem.sound_of_empty hinv hentries hnone) hunused,
    fun hrestores _ _ _ _ _ hcalls hok => h.unused hinv hnone hq hrestores hcalls hok⟩

/-! ## New adapters -/

/-- An adapter on a store that nothing was written to. -/
def newAdapter {S R K : Type} [DecidableEq K] (F : ReferenceFormat S R K) :
    ReferenceMemory F × ExternalSnapshotStore S :=
  ({ memory := Memory.load F.toSnapshots F.empty, backupMetadata := [] },
    { current := none, backups := .empty })

theorem backupsRestorable_new {S R K : Type} [DecidableEq K] {F : ReferenceFormat S R K}
    {adapter : ReferenceAdapter} : BackupsRestorable F adapter (newAdapter F) :=
  fun _ _ h => by cases h

/-- **Backups of the reference adapters** restore what they captured exactly while none takes
the identifier of another snapshot. A graph or a connector state is restored when the store can
be written then; the writes before may fail. -/
theorem backups_restore (H : Host) (auditAdapter : ReferenceAuditEvidenceAdapter)
    (queueAdapter : L6.ReferenceJobQueueAdapter) (adapter : ReferenceAdapter) :
    RestoresWhileUnused (auditBackups H auditAdapter) (fun _ => True)
      L2.Audit.Fixtures.emptyStore ∧
    RestoresWhileUnused (queueBackups queueAdapter) (fun _ => True) L6.emptyStore ∧
    RestoresWhileUnused (graphBackups adapter) (fun p => p.1.writeCurrent = none)
      (newAdapter referenceGraph) ∧
    RestoresWhileUnused (connectorStateBackups adapter) (fun p => p.1.writeCurrent = none)
      (newAdapter referenceConnectorState) := by
  refine ⟨?audit, ?queue, ?graph, ?connectorState⟩
  case audit =>
    have hvalid : AuditBackupsValid H auditAdapter L2.Audit.Fixtures.emptyStore :=
      fun _ _ h => by cases h
    exact restoresWhileUnused (q := "") auditBackups_lawful hvalid rfl (fun _ => rfl) trivial
  case queue =>
    have hstorable : QueueBackupsStorable queueAdapter L6.emptyStore := fun _ _ h => by cases h
    exact restoresWhileUnused (q := "") queueBackups_lawful hstorable rfl (fun _ => rfl) trivial
  case graph =>
    exact restoresWhileUnused (q := (⟨none, none⟩, "", none)) (graphBackups_lawful adapter)
      backupsRestorable_new rfl (fun _ => rfl) rfl
  case connectorState =>
    exact restoresWhileUnused (q := (⟨none, none⟩, "", none))
      (connectorStateBackups_lawful adapter) backupsRestorable_new rfl (fun _ => rfl) rfl

/-! ## Two backups in one night -/

def adapter : ReferenceAdapter where
  host := plainHost
  tenantBoundary := "tenant:default"
  location := "postgres:access-kit"
  tenantBoundary_ne := defaultBoundary_ne

def graph := graphBackups adapter

/-- Writes that do not fail, at a time of the clock. -/
def clock (now : IsoDateTime) : WriteFailures × IsoDateTime × Option IsoDateTime :=
  (⟨none, none⟩, now, none)

def alice : Subject :=
  { fixtureSubject "user:alice" .user "Alice" .active with
    attributes := some [("tenantId", .str "tenant:default")] }

/-- A backup, a new subject, and a backup under the same identifier. -/
def night : List (BackupCall (WriteFailures × IsoDateTime × GraphCall)
    (WriteFailures × IsoDateTime × Option IsoDateTime) CanonicalId) :=
  [.create "backup:nightly" (clock timestamp),
    .call (⟨none, none⟩, timestamp, .upsert (.subject alice)),
    .create "backup:nightly" (clock later)]

theorem graph_lawful :
    graph.Lawful (BackupsRestorable referenceGraph adapter) fun p => p.1.writeCurrent = none :=
  graphBackups_lawful adapter

theorem restorable_new : BackupsRestorable referenceGraph adapter (newAdapter referenceGraph) :=
  backupsRestorable_new

abbrev GraphState : Type :=
  ReferenceMemory referenceGraph × ExternalSnapshotStore L2.Store.InMemoryRebacStore.RebacSeedData

theorem content_eq (s : GraphState) : graph.content s = s.1.memory.snapshot := rfl

/-- A clean graph is backed up. -/
theorem created (s : GraphState) (hclean : CleanGraph adapter s.1.memory.snapshot)
    (id : CanonicalId) (now : IsoDateTime) : ∃ e, (graph.create s id (clock now)).2 = .ok e := by
  have hcopied : referenceGraph.copyAll s.1.memory.snapshot = s.1.memory.snapshot :=
    s.1.memory.copied
  unfold graph graphBackups referenceBackups clock ReferenceAdapter.createBackup
  dsimp only
  split
  · next message herror =>
    obtain ⟨record, hrecord⟩ := createRecord_clean (hcopied.symm ▸ hclean) (none.getD now) _
    cases herror.symm.trans hrecord
  · exact ⟨_, rfl⟩

/-- What a backup leaves in memory is the graph that was there. -/
theorem content_create (s : GraphState) (id : CanonicalId) (now : IsoDateTime) :
    (graph.create s id (clock now)).1.1.memory = s.1.memory := by
  unfold graph graphBackups
  rcases referenceBackups_create referenceGraph adapter (graphCall adapter) s id (clock now) with
    ⟨message, store', hcreate, -⟩ | ⟨record, entry, -, -, -, hcreate⟩
  · rw [hcreate]
  · rw [hcreate]

theorem clean_new : CleanGraph adapter (newAdapter referenceGraph).1.memory.snapshot :=
  fun _ h => by cases h

theorem first_made (id : CanonicalId) : ∃ e, (graph.create (newAdapter referenceGraph) id
    (clock timestamp)).2 = .ok e :=
  created _ clean_new id timestamp

theorem call_upsert (s : GraphState) (r : GraphRecord) :
    graph.call s (⟨none, none⟩, timestamp, .upsert r) =
      ((adapter.writeRecord referenceGraph ⟨none, none⟩ timestamp s.1 s.2 r).1,
        (adapter.writeRecord referenceGraph ⟨none, none⟩ timestamp s.1 s.2 r).2.1) := by
  unfold graph graphBackups referenceBackups graphCall
  dsimp only
  rw [ReferenceGraphStoreAdapter.perform, ReferenceGraphStoreAdapter.upsert]

/-- A backup, and a new subject. -/
def day (id : CanonicalId) : List (BackupCall (WriteFailures × IsoDateTime × GraphCall)
    (WriteFailures × IsoDateTime × Option IsoDateTime) CanonicalId) :=
  [.create id (clock timestamp), .call (⟨none, none⟩, timestamp, .upsert (.subject alice))]

theorem memory_day (id : CanonicalId) :
    (graph.run (newAdapter referenceGraph) (day id)).1.memory =
      (newAdapter referenceGraph).1.memory.upsert (.subject alice) := by
  have hmemory := content_create (newAdapter referenceGraph) id timestamp
  have hclean : CleanGraph adapter
      (graph.create (newAdapter referenceGraph) id (clock timestamp)).1.1.memory.snapshot :=
    hmemory.symm ▸ clean_new
  obtain ⟨record, -, hwritten⟩ := @writeRecord_clean adapter ⟨none, none⟩ _
    (graph.create (newAdapter referenceGraph) id (clock timestamp)).1.2 timestamp (.subject alice)
    rfl hclean (clean_subject rfl rfl) trivial
  rw [day, graph.run_cons, graph.run_cons, graph.run_nil, graph.perform_create,
    graph.perform_call, call_upsert, hwritten]
  dsimp only
  rw [hmemory]

theorem second_stored : (graph.backup (graph.run (newAdapter referenceGraph) night)
    "backup:nightly").map (·.content.subjects) = some [alice] := by
  have hmemory := memory_day "backup:nightly"
  have hclean : CleanGraph adapter
      (graph.run (newAdapter referenceGraph) (day "backup:nightly")).1.memory.snapshot := by
    rw [hmemory]
    exact clean_new.upsert (Clean.copy (clean_subject rfl rfl))
  obtain ⟨e, hmade⟩ := created _ hclean "backup:nightly" later
  have hinv := graph_lawful.run_inv restorable_new (day "backup:nightly")
  rcases graph_lawful.created "backup:nightly" (clock later) hinv with
    ⟨_, -, -, -, -, hbackup⟩ | ⟨⟨message, herror⟩, -⟩
  · rw [show night = day "backup:nightly" ++ [.create "backup:nightly" (clock later)] from rfl,
      graph.run_concat, graph.perform_create, hbackup, if_pos rfl, Option.map_some, content_eq,
      hmemory]
    rfl
  · cases hmade.symm.trans herror

/-- **Counterexample**: the graph was empty when the first backup was made. Restoring it after
the second brings back a subject. -/
theorem second_replaces_first :
    (graph.content (newAdapter referenceGraph)).subjects = [] ∧
      (graph.content (graph.restore (graph.run (newAdapter referenceGraph) night)
        "backup:nightly" (clock later)).1).subjects = [alice] ∧
      ¬ ∀ calls, graph.Restores (fun p => p.1.writeCurrent = none)
        (newAdapter referenceGraph) calls := by
  have hinv := graph_lawful.run_inv restorable_new night
  obtain ⟨b, hb, hsubjects⟩ := Option.map_eq_some_iff.1 second_stored
  have hrestored := graph_lawful.restored "backup:nightly" (clock later) b hinv hb rfl
  have hnow := (congrArg (·.subjects) hrestored.2).trans hsubjects
  refine ⟨rfl, hnow, fun h => ?_⟩
  obtain ⟨e, hfirst⟩ := first_made "backup:nightly"
  obtain ⟨-, hcontent⟩ := (h night).2 [] "backup:nightly" (clock timestamp) _ e rfl hfirst
    (clock later) rfl
  cases (congrArg (·.subjects) hcontent).symm.trans hnow

/-- A backup, a new subject, and a backup under an identifier of its own. -/
def nights : List (BackupCall (WriteFailures × IsoDateTime × GraphCall)
    (WriteFailures × IsoDateTime × Option IsoDateTime) CanonicalId) :=
  [.create "backup:first" (clock timestamp),
    .call (⟨none, none⟩, timestamp, .upsert (.subject alice)),
    .create "backup:second" (clock later)]

theorem second_free : graph.backup (graph.run (newAdapter referenceGraph) (day "backup:first"))
    "backup:second" = none := by
  rw [day, graph.run_cons, graph.run_cons, graph.run_nil, graph.perform_create,
    graph.perform_call, graph_lawful.call_backup _
      (graph_lawful.create_inv _ _ restorable_new)]
  rcases graph_lawful.created "backup:first" (clock timestamp) restorable_new with
    ⟨_, -, -, -, -, hbackup⟩ | ⟨-, -, hbackup⟩
  · rw [hbackup, if_neg (by decide)]
    rfl
  · rw [hbackup]
    rfl

theorem allUnused_nights : graph.AllUnused (newAdapter referenceGraph) nights := by
  refine ⟨fun b hb => ?_, trivial, fun b hb => ?_, trivial⟩
  · cases hb
  · cases second_free.symm.trans hb

/-- Restoring the first backup brings back the empty graph. -/
theorem first_restored : graph.Restores (fun p => p.1.writeCurrent = none)
      (newAdapter referenceGraph) nights ∧
    (graph.content (graph.restore (graph.run (newAdapter referenceGraph) nights)
      "backup:first" (clock later)).1).subjects = [] := by
  have hrestores : graph.Restores (fun p => p.1.writeCurrent = none)
      (newAdapter referenceGraph) nights :=
    ((backups_restore plainHost (L2.Audit.Fixtures.tenantAdapter plainHost)
      L6.Fixtures.plainAdapter adapter).2.2.1 nights).1 allUnused_nights
  obtain ⟨e, hfirst⟩ := first_made "backup:first"
  obtain ⟨-, hcontent⟩ := hrestores.2 [] "backup:first" (clock timestamp) _ e rfl hfirst
    (clock later) rfl
  rw [hcontent]
  exact ⟨hrestores, rfl⟩

end AccessKit.Bugs.ReusedBackupIds
