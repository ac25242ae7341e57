import AccessKit.L2Graph.Repositories

/-!
# The graph of a runtime and its repositories

packages/api/src/runtime-graph.ts, runtime-discovery.ts:24-107, runtime-seed.ts and the
parts of runtime-state.ts they use. The store of a runtime, the graph repository that is
written record by record, and the state repository that is written as a whole; both are
optional. A start chooses between the two.

A write to the graph repository that is refused leaves a message
(packages/api/src/runtime-state.ts:147-177), and the operation goes on.

Results:
* `shouldUsePersistedGraph_eq`: the choice of a start, as one of records.
* `records_initialRuntimeSeed`: a start takes the graph that was persisted, or the seed.
* `persistGraph_agrees`: what a graph repository holds that accepted every write.
* `outcome_perform`: what an operation does to the store and its repositories.
* `InStep.restart`, `InStep.write`: repositories in step with a store, through a start and
  through a write.
-/
namespace AccessKit.L5
open AccessKit.Core AccessKit.L1 AccessKit.L2.Store
open GraphRecord (filing)
open InMemoryRebacStore (RebacSeedData ofSeed markDeleted)

/-! ## The choice of a start -/

/-- mirrors packages/api/src/runtime-seed.ts:119-134 -/
def containsAllById {V : Type} (id : V → CanonicalId) (persisted seeded : List V) : Bool :=
  seeded.all fun item => persisted.any fun other => id other = id item

/-- mirrors packages/api/src/runtime-seed.ts:85-90 -/
def hasPersistedGraphRecords (graph : RebacSeedData) : Bool :=
  !graph.subjects.isEmpty || !graph.resources.isEmpty || !graph.relationships.isEmpty ||
    !graph.nativeGrants.isEmpty

/-- mirrors packages/api/src/runtime-seed.ts:54-60 -/
def shouldUsePersistedGraph (graph baseSeed : RebacSeedData) : Bool :=
  hasPersistedGraphRecords graph &&
    containsAllById (·.id) graph.subjects baseSeed.subjects &&
    containsAllById (·.id) graph.resources baseSeed.resources &&
    containsAllById (·.id) graph.relationships baseSeed.relationships &&
    containsAllById (·.id) graph.nativeGrants baseSeed.nativeGrants

/-- The graph that a start takes. `stateRepository` is `none` without a state repository,
and `some none` with an empty one.
mirrors packages/api/src/runtime-seed.ts:16-35 -/
def initialRuntimeSeed (stateRepository : Option (Option RebacSeedData))
    (fallbackSeed : RebacSeedData) (graph : Option RebacSeedData) : RebacSeedData :=
  let baseSeed := stateRepository.join.getD fallbackSeed
  match graph with
  | some graph => if shouldUsePersistedGraph graph baseSeed then graph else baseSeed
  | none => baseSeed

/-! ## The runtime -/

/-- What a connector answers in a discovery; the grants of a resource come with the number
of the call. -/
structure Discovery where
  subjects : Except String (List Subject)
  resources : Except String (List Resource)
  relationships : Except String (List RelationshipTuple)
  readCurrentAccess : Nat → CanonicalId → Except String (List NativeGrant)
  nativeAccessReadbackComplete : Option Bool := none

/-- The grants of all the resources.
mirrors packages/api/src/runtime-discovery.ts:43-47 -/
def Discovery.readAll (discovery : Discovery) (resources : List Resource) :
    Except String (List NativeGrant) :=
  (resources.zipIdx.mapM fun call => discovery.readCurrentAccess call.2 call.1.id).map List.flatten

/-- The grants of the connector become those that were read, when the connector does not say
that they are not complete.
mirrors packages/api/src/runtime-discovery.ts:48-51 -/
def Discovery.storeNativeGrants (discovery : Discovery) (connectorId : String)
    (nativeGrants : List NativeGrant) (store : InMemoryRebacStore) : InMemoryRebacStore :=
  if discovery.nativeAccessReadbackComplete ≠ some false then
    store.replaceNativeGrantsForConnector connectorId nativeGrants
  else store

/-- The graph part of a runtime. -/
structure GraphApp (σ : Type) where
  store : InMemoryRebacStore
  graphRepository : Option σ
  stateRepository : Option (Option RebacSeedData)
  connectors : List String

/-- An operation of the runtime, with what it is called with and what a connector answers.
`persistAppState` stands for the operations that are not about the graph. -/
inductive GraphOperation
  | createSubject (subject : Subject)
  | createResource (resource : Resource)
  | putRelationship (relationship : RelationshipTuple)
  | deleteRelationship (relationshipId : CanonicalId) (now : IsoDateTime)
  | syncConnector (connectorId : String) (discovery : Discovery)
  | persistAppState
  | restart

namespace GraphApp

variable {σ : Type}

section
variable (repository : RebacGraphRepository σ) (app : GraphApp σ)

/-! ## Persistence -/

/-- mirrors packages/api/src/runtime-state.ts:127-129, 279-297 -/
def persistAppState : GraphApp σ :=
  { app with
    stateRepository := app.stateRepository.map fun _ => some app.store.exportSeedData.copy }

/-- Write records to the graph repository, with the messages of those that it refuses.
mirrors packages/api/src/runtime-state.ts:147-193 -/
def persistGraph (records : List GraphRecord) : GraphApp σ × List String :=
  match app.graphRepository with
  | none => (app, [])
  | some graph =>
    let (graph, messages) := repository.toRepository.writeAll graph records
    ({ app with graphRepository := some graph }, messages)

/-- mirrors packages/api/src/runtime-seed.ts:136-173, packages/api/src/local-app.ts:78-124 -/
def createRebacLocalApp (graphRepository : Option σ)
    (stateRepository : Option (Option RebacSeedData)) (seed : RebacSeedData)
    (connectors : List String) : GraphApp σ × List String :=
  let persistedGraph := graphRepository.map repository.exportGraph
  let store := ofSeed (initialRuntimeSeed stateRepository seed persistedGraph)
  match graphRepository with
  | none => ({ store, graphRepository := none, stateRepository, connectors }, [])
  | some graph =>
    if hasPersistedGraphRecords (repository.exportGraph graph) then
      ({ store, graphRepository := some graph, stateRepository, connectors }, [])
    else
      let (graph, messages) := repository.toRepository.writeUntil graph store.exportSeedData.records
      ({ store, graphRepository := some graph, stateRepository, connectors }, messages)

/-! ## Operations -/

/-- mirrors packages/api/src/runtime-graph.ts:11-22 -/
def createSubject (subject : Subject) : GraphApp σ × List String :=
  { app with store := app.store.upsertSubject subject }.persistAppState.persistGraph repository
    [.subject subject]

/-- mirrors packages/api/src/runtime-graph.ts:24-35 -/
def createResource (resource : Resource) : GraphApp σ × List String :=
  { app with store := app.store.upsertResource resource }.persistAppState.persistGraph repository
    [.resource resource]

/-- mirrors packages/api/src/runtime-graph.ts:37-49 -/
def putRelationship (relationship : RelationshipTuple) : GraphApp σ × List String :=
  { app with store := app.store.upsertRelationship relationship }.persistAppState.persistGraph
    repository [.relationship relationship]

/-- mirrors packages/api/src/runtime-graph.ts:51-67 -/
def deleteRelationship (relationshipId : CanonicalId) (now : IsoDateTime) :
    GraphApp σ × List String :=
  let store := app.store.deleteRelationship relationshipId now
  match app.store.getRelationship relationshipId with
  | none => ({ app with store }, [])
  | some relationship => { app with store }.persistAppState.persistGraph repository
      [.relationship (markDeleted relationship now)]

/-- The subjects, resources and relationships that a discovery finds.
mirrors packages/api/src/runtime-discovery.ts:35-37 -/
def discover (discovery : Discovery) : Except String (List Resource × List GraphRecord) := do
  let subjects ← discovery.subjects
  let resources ← discovery.resources
  let relationships ← discovery.relationships
  return (resources, subjects.map .subject ++ resources.map .resource ++
    relationships.map .relationship)

/-- The discovered records are stored before the grants are read, and nothing is persisted
when a read throws. Grants that were not read completely are persisted, though not
stored.
mirrors packages/api/src/runtime-discovery.ts:24-107 -/
def syncConnector (connectorId : String) (discovery : Discovery) :
    GraphApp σ × Except String (List String) :=
  if app.connectors.contains connectorId then
    match discover discovery with
    | .error message => (app, .error message)
    | .ok (resources, records) =>
      let store := app.store.upsertRecords records
      match discovery.readAll resources with
      | .error message => ({ app with store }, .error message)
      | .ok nativeGrants =>
        let store := discovery.storeNativeGrants connectorId nativeGrants store
        let (app, messages) := { app with store }.persistGraph repository
          (records ++ nativeGrants.map GraphRecord.nativeGrant)
        (app.persistAppState, .ok messages)
  else (app, .error ("Unknown connector: " ++ connectorId))

variable (seed : RebacSeedData)

/-- The runtime after an operation, and the messages of the graph repository. A restart
builds a runtime on the same repositories. -/
def perform : GraphOperation → GraphApp σ × List String
  | .createSubject subject => app.createSubject repository subject
  | .createResource resource => app.createResource repository resource
  | .putRelationship relationship => app.putRelationship repository relationship
  | .deleteRelationship relationshipId now => app.deleteRelationship repository relationshipId now
  | .syncConnector connectorId discovery =>
    match app.syncConnector repository connectorId discovery with
    | (app, .ok messages) => (app, messages)
    | (app, .error _) => (app, [])
  | .persistAppState => (app.persistAppState, [])
  | .restart =>
    createRebacLocalApp repository app.graphRepository app.stateRepository seed app.connectors

def run (app : GraphApp σ) (operations : List GraphOperation) : GraphApp σ :=
  operations.foldl (fun app operation => (app.perform repository seed operation).1) app

/-- Every step of a run meets a condition, in the state that it finds. -/
def EachStep (P : GraphApp σ → GraphOperation → Prop) (app : GraphApp σ) :
    List GraphOperation → Prop
  | [] => True
  | operation :: operations =>
    P app operation ∧ EachStep P (app.perform repository seed operation).1 operations

end

end GraphApp

/-! ## The choice, as one of records -/

theorem containsAllById_iff {V : Type} {id : V → CanonicalId} {persisted seeded : List V} :
    containsAllById id persisted seeded = true ↔
      ∀ item ∈ seeded, ∃ other ∈ persisted, id other = id item := by
  simp [containsAllById]

theorem hasPersistedGraphRecords_eq (graph : RebacSeedData) :
    hasPersistedGraphRecords graph = !graph.records.isEmpty := by
  obtain ⟨subjects, resources, relationships, nativeGrants⟩ := graph
  cases subjects <;> cases resources <;> cases relationships <;> cases nativeGrants <;> rfl

theorem shouldUsePersistedGraph_eq (graph baseSeed : RebacSeedData) :
    shouldUsePersistedGraph graph baseSeed = filing.prefers graph.records baseSeed.records := by
  have hkeys : (∀ r ∈ baseSeed.records, ∃ r' ∈ graph.records, filing.key r' = filing.key r) ↔
      (∀ item ∈ baseSeed.subjects, ∃ other ∈ graph.subjects, other.id = item.id) ∧
      (∀ item ∈ baseSeed.resources, ∃ other ∈ graph.resources, other.id = item.id) ∧
      (∀ item ∈ baseSeed.relationships, ∃ other ∈ graph.relationships, other.id = item.id) ∧
      ∀ item ∈ baseSeed.nativeGrants, ∃ other ∈ graph.nativeGrants, other.id = item.id := by
    simp [RebacSeedData.records, filing, GraphRecord.key, or_imp, forall_and, or_and_right,
      exists_or]
  rw [Bool.eq_iff_iff]
  simp only [shouldUsePersistedGraph, Filing.prefers, hasPersistedGraphRecords_eq, Bool.and_eq_true,
    containsAllById_iff, List.all_eq_true, List.any_eq_true, decide_eq_true_eq, hkeys, and_assoc]

theorem records_initialRuntimeSeed (stateRepository : Option (Option RebacSeedData))
    (seed : RebacSeedData) (graph : Option RebacSeedData) :
    (initialRuntimeSeed stateRepository seed graph).records =
      match graph with
      | some graph => filing.start graph.records (stateRepository.join.getD seed).records
      | none => (stateRepository.join.getD seed).records := by
  unfold initialRuntimeSeed
  cases graph with
  | none => rfl
  | some graph =>
    dsimp only
    rw [shouldUsePersistedGraph_eq, Filing.start]
    split <;> rfl

namespace GraphApp

variable {σ : Type} {repository : RebacGraphRepository σ} {app : GraphApp σ}

/-! ## What a graph repository holds -/

variable (repository app) in
theorem persistGraph_state (records : List GraphRecord) :
    (app.persistGraph repository records).1.store = app.store ∧
      (app.persistGraph repository records).1.stateRepository = app.stateRepository ∧
      (app.persistGraph repository records).1.connectors = app.connectors ∧
      (app.graphRepository = none →
        (app.persistGraph repository records).1.graphRepository = none) := by
  unfold persistGraph
  cases hgraph : app.graphRepository with
  | none => exact ⟨rfl, rfl, rfl, fun _ => hgraph⟩
  | some graph => exact ⟨rfl, rfl, rfl, fun h => by cases h⟩

theorem persistGraph_agrees (hkeeps : filing.Keeps repository.toRepository) {graph : σ}
    (hgraph : app.graphRepository = some graph) {records : List GraphRecord}
    (hwritten : (app.persistGraph repository records).2 = []) :
    ∃ graph', (app.persistGraph repository records).1.graphRepository = some graph' ∧
      filing.Agree (filing.load (repository.exportGraph graph').records)
        (filing.putAll (filing.load (repository.exportGraph graph).records) records) := by
  unfold persistGraph at hwritten ⊢
  rw [hgraph] at hwritten ⊢
  exact ⟨_, rfl, Filing.writeAll_agrees hkeeps hwritten⟩

variable (repository) in
theorem find_createRebacLocalApp (graphRepository : Option σ)
    (stateRepository : Option (Option RebacSeedData)) (seed : RebacSeedData)
    (connectors : List String) :
    (createRebacLocalApp repository graphRepository stateRepository seed connectors).1.store.find =
      filing.load (initialRuntimeSeed stateRepository seed
        (graphRepository.map repository.exportGraph)).records := by
  rw [← InMemoryRebacStore.find_ofSeed]
  unfold createRebacLocalApp
  cases graphRepository with
  | none => rfl
  | some graph =>
    dsimp only [Option.map_some]
    split <;> rfl

/-! ## Repositories in step -/

/-- The runtime has a repository. -/
def Persisted (app : GraphApp σ) : Prop := app.graphRepository ≠ none ∨ app.stateRepository ≠ none

/-- The seed of the next start, before it looks at the graph. -/
def baseSeed (app : GraphApp σ) (seed : RebacSeedData) : RebacSeedData :=
  app.stateRepository.join.getD seed

/-- The repositories hold what the store does. The snapshot of a runtime that has a graph
repository may hold an older record, but none that the store has not. -/
def InStep (repository : RebacGraphRepository σ) (seed : RebacSeedData) (app : GraphApp σ) : Prop :=
  match app.graphRepository with
  | none => filing.Agree (filing.load (app.baseSeed seed).records) app.store.find
  | some graph =>
    filing.Agree (filing.load (repository.exportGraph graph).records) app.store.find ∧
      ∀ k, filing.load (app.baseSeed seed).records k ≠ none → app.store.find k ≠ none

variable {seed : RebacSeedData}

theorem inStep_none (hgraph : app.graphRepository = none) : InStep repository seed app ↔
    filing.Agree (filing.load (app.baseSeed seed).records) app.store.find := by
  unfold InStep
  rw [hgraph]

theorem inStep_some {graph : σ} (hgraph : app.graphRepository = some graph) :
    InStep repository seed app ↔
      filing.Agree (filing.load (repository.exportGraph graph).records) app.store.find ∧
        ∀ k, filing.load (app.baseSeed seed).records k ≠ none → app.store.find k ≠ none := by
  unfold InStep
  rw [hgraph]

variable (repository app seed) in
theorem find_restart : (app.perform repository seed .restart).1.store.find =
    match app.graphRepository with
    | none => filing.load (app.baseSeed seed).records
    | some graph => filing.load
      (filing.start (repository.exportGraph graph).records (app.baseSeed seed).records) := by
  show (createRebacLocalApp repository app.graphRepository app.stateRepository seed
    app.connectors).1.store.find = _
  rw [find_createRebacLocalApp, records_initialRuntimeSeed]
  cases app.graphRepository <;> rfl

/-- A runtime in step is given back by a start. -/
theorem InStep.restart (hin : InStep repository seed app) :
    filing.Agree (app.perform repository seed .restart).1.store.find app.store.find := by
  rw [find_restart]
  cases hgraph : app.graphRepository with
  | none => exact (inStep_none hgraph).1 hin
  | some graph =>
    obtain ⟨hreplica, hkeys⟩ := (inStep_some hgraph).1 hin
    exact Filing.start_agrees hreplica hkeys

theorem snapshot_agrees (st : InMemoryRebacStore) :
    filing.Agree (filing.load st.exportSeedData.copy.records) st.find := by
  intro k
  rw [RebacSeedData.records_copy, Filing.load_map_copy, InMemoryRebacStore.load_export,
    Option.map_map]
  exact congrArg (fun f => (st.find k).map f) (funext filing.copy_copy)

/-- A start in step: the graph repository is empty, or has every key of the seed. -/
theorem inStep_createRebacLocalApp (hkeeps : filing.Keeps repository.toRepository)
    {graphRepository : Option σ} {stateRepository : Option (Option RebacSeedData)}
    {connectors : List String}
    (hstart : ∀ graph, graphRepository = some graph →
      (repository.exportGraph graph).records = [] ∨ filing.prefers
        (repository.exportGraph graph).records (stateRepository.join.getD seed).records = true)
    (hwritten :
      (createRebacLocalApp repository graphRepository stateRepository seed connectors).2 = []) :
    InStep repository seed
      (createRebacLocalApp repository graphRepository stateRepository seed connectors).1 := by
  have hfind := find_createRebacLocalApp repository graphRepository stateRepository seed connectors
  rw [records_initialRuntimeSeed] at hfind
  unfold createRebacLocalApp at hwritten hfind ⊢
  cases graphRepository with
  | none => exact fun k => by rw [hfind]; rfl
  | some graph =>
    dsimp only [Option.map_some] at hwritten hfind ⊢
    split at hwritten
    · next hrecords =>
      rw [if_pos hrecords] at hfind ⊢
      have hprefers := (hstart graph rfl).resolve_left fun hnil => by
        rw [hasPersistedGraphRecords_eq, hnil] at hrecords
        cases hrecords
      rw [Filing.start, if_pos hprefers] at hfind
      refine ⟨fun k => by rw [hfind], fun k hk => ?_⟩
      rw [hfind]
      exact (Filing.prefers_iff.1 hprefers).2 k hk
    · next hrecords =>
      rw [if_neg hrecords] at hfind ⊢
      rw [hasPersistedGraphRecords_eq] at hrecords
      have hnil : (repository.exportGraph graph).records = [] := by simpa using hrecords
      rw [hnil, Filing.start, if_neg (by simp [Filing.prefers])] at hfind
      have hall := Filing.writeUntil_eq hwritten
      have hload := Filing.writeAll_agrees hkeeps ((congrArg Prod.snd hall).trans hwritten)
      rw [hall] at hload
      have hempty : filing.load (repository.toRepository.records graph) = fun _ => none :=
        congrArg filing.load hnil
      rw [hempty] at hload
      refine ⟨hload.trans fun k => ?_, fun k hk => by rwa [hfind]⟩
      exact congrArg (Option.map filing.copy) (congrFun (InMemoryRebacStore.load_export _) k)

variable (repository app) in
theorem persistGraph_persistAppState (records : List GraphRecord) :
    (app.persistGraph repository records).1.persistAppState =
        (app.persistAppState.persistGraph repository records).1 ∧
      (app.persistGraph repository records).2 =
        (app.persistAppState.persistGraph repository records).2 := by
  obtain ⟨store, graphRepository, stateRepository, connectors⟩ := app
  cases graphRepository with
  | none => exact ⟨rfl, rfl⟩
  | some graph => exact ⟨rfl, rfl⟩

variable (app) in
/-- The snapshot of a runtime with repositories, after it was written. -/
theorem baseSeed_persistAppState (seed : RebacSeedData) (hstate : app.stateRepository ≠ none) :
    app.persistAppState.baseSeed seed = app.store.exportSeedData.copy := by
  unfold baseSeed persistAppState
  cases hs : app.stateRepository with
  | none => exact absurd hs hstate
  | some state => rfl

theorem InStep.store (hin : InStep repository seed app) {st : InMemoryRebacStore}
    (hst : filing.Agree st.find app.store.find) :
    InStep repository seed { app with store := st } := by
  rcases Option.eq_none_or_eq_some app.graphRepository with hgraph | ⟨graph, hgraph⟩
  · rw [inStep_none hgraph] at hin
    rw [inStep_none (by exact hgraph)]
    exact hin.trans hst.symm
  · rw [inStep_some hgraph] at hin
    rw [inStep_some (by exact hgraph)]
    exact ⟨hin.1.trans hst.symm, fun k hk => (hst.ne_none k).2 (hin.2 k hk)⟩

variable (repository app) in
theorem store_write (st : InMemoryRebacStore) (records : List GraphRecord) :
    ({ app with store := st }.persistAppState.persistGraph repository records).1.store = st :=
  (persistGraph_state repository _ records).1

variable (repository app seed) in
theorem baseSeed_write (st : InMemoryRebacStore) (records : List GraphRecord) :
    ({ app with store := st }.persistAppState.persistGraph repository records).1.baseSeed seed =
      ({ app with store := st }.persistAppState).baseSeed seed := by
  rw [baseSeed, (persistGraph_state repository _ records).2.1]
  rfl

theorem agrees_write (hkeeps : filing.Keeps repository.toRepository) {graph : σ}
    (hgraph : app.graphRepository = some graph)
    (hreplica : filing.Agree (filing.load (repository.exportGraph graph).records) app.store.find)
    {st : InMemoryRebacStore} {records : List GraphRecord}
    (hwritten : ({ app with store := st }.persistAppState.persistGraph repository records).2 = []) :
    ∃ graph', ({ app with store := st }.persistAppState.persistGraph repository
        records).1.graphRepository = some graph' ∧
      filing.Agree (filing.load (repository.exportGraph graph').records)
        (filing.putAll app.store.find records) := by
  have hafter : ({ app with store := st }.persistAppState).graphRepository = some graph := hgraph
  obtain ⟨graph', hgraph', hload⟩ := persistGraph_agrees hkeeps hafter hwritten
  exact ⟨graph', hgraph', hload.trans (hreplica.putAll records)⟩

variable (app) in
/-- The snapshot after it was written has the keys of the store, and it is the seed where
there is no state repository. -/
theorem baseSeed_keys {st : InMemoryRebacStore} {view : GraphKey → Option GraphRecord}
    (hkeys : ∀ k, filing.load (app.baseSeed seed).records k ≠ none → view k ≠ none)
    (hst : ∀ k, st.find k ≠ none → view k ≠ none) (k : GraphKey)
    (hk : filing.load (({ app with store := st }.persistAppState).baseSeed seed).records k ≠ none) :
    view k ≠ none := by
  by_cases hstate : app.stateRepository = none
  · refine hkeys k ?_
    simpa [baseSeed, persistAppState, hstate] using hk
  · rw [baseSeed_persistAppState { app with store := st } seed hstate] at hk
    exact hst k (((snapshot_agrees st).ne_none k).1 hk)

/-- **A write.** The store comes to what it held with the records, the snapshot is written
and so are the records. -/
theorem InStep.write (hkeeps : filing.Keeps repository.toRepository)
    (hin : InStep repository seed app) (hpersisted : app.Persisted)
    {st : InMemoryRebacStore} {records : List GraphRecord}
    (hst : app.graphRepository ≠ none → filing.Agree st.find (filing.putAll app.store.find records))
    (hwritten : ({ app with store := st }.persistAppState.persistGraph repository records).2 = []) :
    InStep repository seed
      ({ app with store := st }.persistAppState.persistGraph repository records).1 := by
  rcases Option.eq_none_or_eq_some app.graphRepository with hgraph | ⟨graph, hgraph⟩
  · have hstate := hpersisted.resolve_left fun h => h hgraph
    have hsnapshot := snapshot_agrees st
    rw [← baseSeed_persistAppState { app with store := st } seed hstate] at hsnapshot
    obtain ⟨store, graphRepository, stateRepository, connectors⟩ := app
    cases hgraph
    exact hsnapshot
  · have hst := hst (by rw [hgraph]; exact fun h => by cases h)
    obtain ⟨hreplica, hkeys⟩ := (inStep_some hgraph).1 hin
    obtain ⟨graph', hgraph', hload⟩ := agrees_write hkeeps hgraph hreplica hwritten
    rw [inStep_some hgraph', store_write, baseSeed_write]
    refine ⟨hload.trans hst.symm, baseSeed_keys app (fun k hk => ?_) fun _ hk => hk⟩
    exact (hst.ne_none k).2 (Filing.putAll_ne_none.2 (.inl (hkeys k hk)))

/-! ## Steps -/

section
variable {connectorId : String} {discovery : Discovery} {resources : List Resource}
  {records : List GraphRecord}

theorem sync_unread (h : connectorId ∈ app.connectors → ∃ message,
    discover discovery = .error message) :
    app.perform repository seed (.syncConnector connectorId discovery) = (app, []) := by
  by_cases hknown : connectorId ∈ app.connectors
  · obtain ⟨message, hmessage⟩ := h hknown
    simp [perform, syncConnector, hknown, hmessage]
  · simp [perform, syncConnector, hknown]

theorem sync_threw (hknown : connectorId ∈ app.connectors)
    (hdiscover : discover discovery = .ok (resources, records)) {message : String}
    (hread : discovery.readAll resources = .error message) :
    app.perform repository seed (.syncConnector connectorId discovery) =
      ({ app with store := app.store.upsertRecords records }, []) := by
  simp [perform, syncConnector, hknown, hdiscover, hread]

theorem sync_read (hknown : connectorId ∈ app.connectors)
    (hdiscover : discover discovery = .ok (resources, records)) {nativeGrants : List NativeGrant}
    (hread : discovery.readAll resources = .ok nativeGrants) :
    app.perform repository seed (.syncConnector connectorId discovery) =
      { app with
        store := discovery.storeNativeGrants connectorId nativeGrants
          (app.store.upsertRecords records) }.persistAppState.persistGraph repository
        (records ++ nativeGrants.map GraphRecord.nativeGrant) := by
  obtain ⟨happ, hmessages⟩ := persistGraph_persistAppState repository
    { app with
      store := discovery.storeNativeGrants connectorId nativeGrants
        (app.store.upsertRecords records) } (records ++ nativeGrants.map GraphRecord.nativeGrant)
  simp only [perform, syncConnector, List.contains_eq_mem, hknown, decide_true, if_true, hdiscover,
    hread]
  exact Prod.ext happ hmessages

end

theorem Persisted.write (h : app.Persisted) (st : InMemoryRebacStore) (records : List GraphRecord) :
    ({ app with store := st }.persistAppState.persistGraph repository records).1.Persisted := by
  obtain ⟨store, graphRepository, stateRepository, connectors⟩ := app
  cases graphRepository with
  | some graph => exact .inl fun hnone => by cases hnone
  | none =>
    cases stateRepository with
    | some state => exact .inr fun hnone => by cases hnone
    | none => exact absurd rfl (h.resolve_left fun hnone => hnone rfl)

/-- What an operation can come to. An operation other than a sync or a restart writes to the
graph repository what it writes to the store. -/
inductive Outcome (repository : RebacGraphRepository σ) (seed : RebacSeedData) (app : GraphApp σ) :
    GraphOperation → GraphApp σ × List String → Prop
  | restarted : Outcome repository seed app .restart
      (createRebacLocalApp repository app.graphRepository app.stateRepository seed app.connectors)
  | kept {operation : GraphOperation} {st : InMemoryRebacStore} (hst : st.find = app.store.find) :
      Outcome repository seed app operation ({ app with store := st }, [])
  | written {operation : GraphOperation} {st : InMemoryRebacStore} {records : List GraphRecord}
      (hst : st.find = filing.putAll app.store.find records) :
      Outcome repository seed app operation
        ({ app with store := st }.persistAppState.persistGraph repository records)
  | threw {connectorId : String} {discovery : Discovery} {resources : List Resource}
      {records : List GraphRecord} {message : String} (hknown : connectorId ∈ app.connectors)
      (hdiscover : discover discovery = .ok (resources, records))
      (hread : discovery.readAll resources = .error message) :
      Outcome repository seed app (.syncConnector connectorId discovery)
        ({ app with store := app.store.upsertRecords records }, [])
  | read {connectorId : String} {discovery : Discovery} {resources : List Resource}
      {records : List GraphRecord} {nativeGrants : List NativeGrant}
      (hknown : connectorId ∈ app.connectors)
      (hdiscover : discover discovery = .ok (resources, records))
      (hread : discovery.readAll resources = .ok nativeGrants) :
      Outcome repository seed app (.syncConnector connectorId discovery)
        ({ app with
          store := discovery.storeNativeGrants connectorId nativeGrants
            (app.store.upsertRecords records) }.persistAppState.persistGraph repository
          (records ++ nativeGrants.map GraphRecord.nativeGrant))

variable (repository seed app) in
/-- **An operation** comes to one of these. -/
theorem outcome_perform (operation : GraphOperation) :
    Outcome repository seed app operation (app.perform repository seed operation) := by
  cases operation with
  | createSubject subject =>
    exact .written (InMemoryRebacStore.find_upsertRecords app.store [.subject subject])
  | createResource resource =>
    exact .written (InMemoryRebacStore.find_upsertRecords app.store [.resource resource])
  | putRelationship relationship =>
    exact .written (InMemoryRebacStore.find_upsertRecords app.store [.relationship relationship])
  | deleteRelationship relationshipId now =>
    have hfind := congrArg InMemoryRebacStore.find
      (InMemoryRebacStore.deleteRelationship_eq app.store relationshipId now)
    rw [InMemoryRebacStore.find_upsertRecords] at hfind
    unfold perform deleteRelationship
    dsimp only
    cases hget : app.store.getRelationship relationshipId with
    | none =>
      rw [hget] at hfind
      exact .kept hfind
    | some relationship =>
      rw [hget] at hfind
      exact .written hfind
  | syncConnector connectorId discovery =>
    by_cases hread : connectorId ∈ app.connectors → ∃ message, discover discovery = .error message
    · rw [sync_unread hread]
      exact .kept rfl
    · obtain ⟨hknown, hread⟩ := Classical.not_imp.1 hread
      cases hdiscover : discover discovery with
      | error message => exact absurd ⟨message, hdiscover⟩ hread
      | ok found =>
        obtain ⟨resources, records⟩ := found
        cases hgrants : discovery.readAll resources with
        | error message =>
          rw [sync_threw hknown hdiscover hgrants]
          exact .threw hknown hdiscover hgrants
        | ok nativeGrants =>
          rw [sync_read hknown hdiscover hgrants]
          exact .read hknown hdiscover hgrants
  | restart => exact .restarted
  | persistAppState =>
    have hwritten : app.perform repository seed .persistAppState =
        { app with store := app.store }.persistAppState.persistGraph repository [] := by
      obtain ⟨store, graphRepository, stateRepository, connectors⟩ := app
      cases graphRepository with
      | none => rfl
      | some graph => rfl
    rw [hwritten]
    exact .written rfl

theorem Persisted.perform (h : app.Persisted) (operation : GraphOperation) :
    (app.perform repository seed operation).1.Persisted := by
  have houtcome := outcome_perform repository app seed operation
  generalize app.perform repository seed operation = result at houtcome
  cases houtcome with
  | restarted =>
    unfold createRebacLocalApp
    cases hgraph : app.graphRepository with
    | none => exact .inr (h.resolve_left fun hnone => hnone hgraph)
    | some graph =>
      dsimp only
      split
      · exact .inl fun hnone => by cases hnone
      · exact .inl fun hnone => by cases hnone
  | kept hst => exact h
  | written hst => exact h.write _ _
  | threw hknown hdiscover hread => exact h
  | read hknown hdiscover hread => exact h.write _ _

end GraphApp

end AccessKit.L5
