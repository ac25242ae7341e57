import AccessKit.L2Graph.Fixtures
import AccessKit.L5Runtime.GraphRuntime

/-!
# Removed grants at a restart

Status: open.

A sync replaces the native grants of its connector in the store
(packages/core/src/store.ts:283-292). To the graph repository it only writes the grants that
it read (packages/api/src/runtime-state.ts:179-193), and a graph repository removes nothing.
Grants that were not read completely are written to it though they are not stored, and a
sync that throws while it reads grants has stored nodes and tuples that are written
nowhere (packages/api/src/runtime-discovery.ts:39-51). A start takes the graph repository
when it has every id of the snapshot (packages/api/src/runtime-seed.ts:54-60).

Counterexample (`removed_grant_back`): a sync that reads a grant, one that does not, and a
restart.

Exact condition (`restarts_iff`): no sync drops a grant, reads a new one incompletely, or
throws after it discovered something new.
-/
namespace AccessKit.Bugs.RemovedGrants
open AccessKit.Core AccessKit.L1 AccessKit.L2.Fixtures AccessKit.L2.Store AccessKit.L5
open GraphRecord (filing)
open InMemoryRebacStore (RebacSeedData)
open GraphApp (EachStep InStep run createRebacLocalApp discover)

variable {σ : Type}

section
variable (repository : RebacGraphRepository σ) (seed : RebacSeedData)

/-! ## The law -/

/-- A new runtime on the same repositories holds the records that the runtime held. -/
def GivesBack (app : GraphApp σ) : Prop :=
  filing.Agree (app.perform repository seed .restart).1.store.find app.store.find

/-- Every write to the graph repository is accepted. -/
def Accepted (app : GraphApp σ) (operation : GraphOperation) : Prop :=
  (app.perform repository seed operation).2 = []

/-- A runtime that was built on repositories, at least one. Its graph repository is empty or
is the one that it took. -/
structure Started (app : GraphApp σ) : Prop where
  created : ∃ graphRepository stateRepository connectors,
    createRebacLocalApp repository graphRepository stateRepository seed connectors = (app, []) ∧
      ∀ graph, graphRepository = some graph → (repository.exportGraph graph).records = [] ∨
        filing.prefers (repository.exportGraph graph).records
          (stateRepository.join.getD seed).records = true
  persisted : app.Persisted

/-- What is claimed of a run: wherever it stops, a restart gives the graph back. -/
def Restarts (app : GraphApp σ) (operations : List GraphOperation) : Prop :=
  ∀ before after, operations = before ++ after →
    GivesBack repository seed (app.run repository seed before)

end

/-- A sync that reads its grants reads each one that is stored for the connector, or, when
they are not complete, none but stored ones. One that does not has discovered nothing
but what is stored. -/
def Meets (app : GraphApp σ) : GraphOperation → Prop
  | .syncConnector connectorId discovery =>
    connectorId ∈ app.connectors →
    ∀ resources records, discover discovery = .ok (resources, records) →
      match discovery.readAll resources with
      | .error _ => filing.Agree (app.store.upsertRecords records).find app.store.find
      | .ok nativeGrants => app.graphRepository ≠ none →
        if discovery.nativeAccessReadbackComplete ≠ some false then
          ∀ grant ∈ app.store.listNativeGrants, grant.sourceConnectorId = connectorId →
            ∃ read ∈ nativeGrants, read.id = grant.id
        else
          filing.Agree (filing.putAll app.store.find (nativeGrants.map .nativeGrant)) app.store.find
  | _ => True

section
variable {repository : RebacGraphRepository σ} {seed : RebacSeedData} {app : GraphApp σ}

/-! ## Syncs -/

theorem load_discover {discovery : Discovery} {resources : List Resource}
    {records : List GraphRecord} (h : discover discovery = .ok (resources, records))
    (id : CanonicalId) : filing.load records (.nativeGrant id) = none := by
  unfold discover at h
  cases hsubjects : discovery.subjects with
  | error e => rw [hsubjects] at h; cases h
  | ok subjects =>
    cases hresources : discovery.resources with
    | error e => rw [hsubjects, hresources] at h; cases h
    | ok found =>
      cases hrelationships : discovery.relationships with
      | error e => rw [hsubjects, hresources, hrelationships] at h; cases h
      | ok relationships =>
        rw [hsubjects, hresources, hrelationships] at h
        cases h
        by_contra hload
        obtain ⟨r, hr, hkey⟩ := Filing.load_ne_none.1 hload
        simp only [List.mem_append, List.mem_map] at hr
        rcases hr with (⟨s, -, rfl⟩ | ⟨s, -, rfl⟩) | ⟨s, -, rfl⟩
        · cases hkey
        · cases hkey
        · cases hkey

theorem load_grants {nativeGrants : List NativeGrant} {k : GraphKey}
    (hk : ∀ id, k ≠ .nativeGrant id) : filing.load (nativeGrants.map .nativeGrant) k = none := by
  by_contra hload
  obtain ⟨r, hr, hkey⟩ := Filing.load_ne_none.1 hload
  obtain ⟨grant, -, rfl⟩ := List.mem_map.1 hr
  exact hk grant.id hkey.symm

/-- A complete sync stores what it writes when it drops no grant. -/
theorem agree_complete {st : InMemoryRebacStore} {connectorId : String} {records : List GraphRecord}
    (hrecords : ∀ id, filing.load records (.nativeGrant id) = none)
    (nativeGrants : List NativeGrant) :
    filing.Agree ((st.upsertRecords records).replaceNativeGrantsForConnector connectorId
        nativeGrants).find (filing.putAll st.find (records ++ nativeGrants.map .nativeGrant)) ↔
      ∀ grant ∈ st.listNativeGrants, grant.sourceConnectorId = connectorId →
        ∃ read ∈ nativeGrants, read.id = grant.id := by
  rw [InMemoryRebacStore.find_replaceNativeGrants, Filing.putAll_append,
    ← InMemoryRebacStore.find_upsertRecords, Filing.agree_putAll_filter]
  have hfind : ∀ id,
      (st.upsertRecords records).find (.nativeGrant id) = st.find (.nativeGrant id) := by
    intro id
    rw [InMemoryRebacStore.find_upsertRecords, Filing.putAll_eq_or, hrecords, Option.none_or]
  have hload : ∀ id, filing.load (nativeGrants.map .nativeGrant) (.nativeGrant id) ≠ none ↔
      ∃ read ∈ nativeGrants, read.id = id := by
    intro id
    rw [Filing.load_ne_none]
    simp [filing, GraphRecord.key]
  constructor
  · intro h grant hgrant hsource
    obtain hget := (OrderedMap.mem_values_key st.nativeGrant_id).1 hgrant
    refine (hload grant.id).1 (h (.nativeGrant grant.id) (.nativeGrant grant) ?_ ?_)
    · rw [hfind]
      exact congrArg (Option.map GraphRecord.nativeGrant) hget
    · simp [GraphRecord.ofConnector, hsource]
  · intro h k r hr hsource
    cases r with
    | nativeGrant grant =>
      have hkey := InMemoryRebacStore.find_key hr
      subst hkey
      rw [GraphRecord.key, hfind] at hr
      obtain ⟨grant', hget, hgrant'⟩ := Option.map_eq_some_iff.1 hr
      cases hgrant'
      refine (hload grant.id).2 (h grant ?_ ?_)
      · exact (OrderedMap.mem_values_key st.nativeGrant_id).2 hget
      · simpa [GraphRecord.ofConnector] using hsource
    | _ => simp [GraphRecord.ofConnector] at hsource

/-- An incomplete sync stores what it writes when the grants that it read are stored. -/
theorem agree_incomplete {st : InMemoryRebacStore} {records : List GraphRecord}
    (hrecords : ∀ id, filing.load records (.nativeGrant id) = none)
    (nativeGrants : List NativeGrant) :
    filing.Agree (st.upsertRecords records).find
        (filing.putAll st.find (records ++ nativeGrants.map .nativeGrant)) ↔
      filing.Agree (filing.putAll st.find (nativeGrants.map .nativeGrant)) st.find := by
  rw [InMemoryRebacStore.find_upsertRecords, Filing.putAll_append]
  refine forall_congr' fun k => ?_
  rw [Filing.putAll_eq_or (filing.putAll st.find records), Filing.putAll_eq_or st.find
    (nativeGrants.map .nativeGrant)]
  cases k with
  | nativeGrant id =>
    rw [Filing.putAll_eq_or, hrecords, Option.none_or]
    exact eq_comm
  | _ =>
    rw [load_grants fun id h => (by cases h), Option.none_or, Option.none_or]
    exact iff_of_true rfl rfl

/-! ## Runs -/

theorem agree_sync {connectorId : String} {discovery : Discovery} {resources : List Resource}
    {records : List GraphRecord} {nativeGrants : List NativeGrant}
    (hdiscover : discover discovery = .ok (resources, records)) :
    filing.Agree (discovery.storeNativeGrants connectorId nativeGrants
        (app.store.upsertRecords records)).find
      (filing.putAll app.store.find (records ++ nativeGrants.map GraphRecord.nativeGrant)) ↔
    if discovery.nativeAccessReadbackComplete ≠ some false then
      ∀ grant ∈ app.store.listNativeGrants, grant.sourceConnectorId = connectorId →
        ∃ read ∈ nativeGrants, read.id = grant.id
    else
      filing.Agree (filing.putAll app.store.find (nativeGrants.map .nativeGrant))
        app.store.find := by
  unfold Discovery.storeNativeGrants
  split
  · exact agree_complete (load_discover hdiscover) nativeGrants
  · exact agree_incomplete (load_discover hdiscover) nativeGrants

/-- **One step** keeps the repositories in step. -/
theorem inStep_perform (hkeeps : filing.Keeps repository.toRepository)
    (hin : InStep repository seed app) (hpersisted : app.Persisted) {operation : GraphOperation}
    (haccepted : Accepted repository seed app operation) (hmeets : Meets app operation) :
    InStep repository seed (app.perform repository seed operation).1 := by
  unfold Accepted at haccepted
  have houtcome := GraphApp.outcome_perform repository app seed operation
  generalize app.perform repository seed operation = result at houtcome haccepted
  cases houtcome with
  | restarted =>
    refine GraphApp.inStep_createRebacLocalApp hkeeps (fun graph hgraph => ?_) haccepted
    obtain ⟨hreplica, hkeys⟩ := (GraphApp.inStep_some hgraph).1 hin
    by_cases hnil : (repository.exportGraph graph).records = []
    · exact .inl hnil
    · exact .inr (Filing.prefers_iff.2 ⟨hnil, fun k hk => (hreplica.ne_none k).2 (hkeys k hk)⟩)
  | kept hst => exact hin.store fun k => by rw [hst]
  | written hst => exact hin.write hkeeps hpersisted (fun _ k => by rw [hst]) haccepted
  | threw hknown hdiscover hread =>
    have hmeets := hmeets hknown _ _ hdiscover
    rw [hread] at hmeets
    exact hin.store hmeets
  | read hknown hdiscover hread =>
    have hmeets := hmeets hknown _ _ hdiscover
    rw [hread] at hmeets
    exact hin.write hkeeps hpersisted (fun hgraph => (agree_sync hdiscover).2 (hmeets hgraph))
      haccepted

/-- What a restart gives back after a write that stores no more keys than it writes. -/
theorem agree_of_restart (hkeeps : filing.Keeps repository.toRepository)
    (hin : InStep repository seed app) {graph : σ} (hgraph : app.graphRepository = some graph)
    {st : InMemoryRebacStore} {records : List GraphRecord}
    (hst : ∀ k, st.find k ≠ none → filing.putAll app.store.find records k ≠ none)
    (hwritten : ({ app with store := st }.persistAppState.persistGraph repository records).2 = [])
    (hgives : GivesBack repository seed
      ({ app with store := st }.persistAppState.persistGraph repository records).1) :
    filing.Agree st.find (filing.putAll app.store.find records) := by
  obtain ⟨hreplica, hkeys⟩ := (GraphApp.inStep_some hgraph).1 hin
  obtain ⟨graph', hgraph', hload⟩ := GraphApp.agrees_write hkeeps hgraph hreplica hwritten
  have hbase := GraphApp.baseSeed_keys app
    (fun k hk => Filing.putAll_ne_none.2 (.inl (hkeys k hk))) hst
  unfold GivesBack at hgives
  rw [GraphApp.find_restart, hgraph', GraphApp.store_write, GraphApp.baseSeed_write] at hgives
  dsimp only at hgives
  by_cases hnil : (repository.exportGraph graph').records = []
  · have hnone : ∀ k, filing.putAll app.store.find records k = none := by
      intro k
      by_contra hk
      refine (hload.ne_none k).2 hk ?_
      rw [hnil]
      rfl
    intro k
    by_cases hk : st.find k = none
    · rw [hk, hnone k]
    · exact absurd (hnone k) (hst k hk)
  · rw [Filing.start_replica hnil fun k hk => (hload.ne_none k).2 (hbase k hk)] at hgives
    exact hgives.symm.trans hload

theorem sync_keys {connectorId : String} {discovery : Discovery} {records : List GraphRecord}
    {nativeGrants : List NativeGrant} {k : GraphKey}
    (hk : (discovery.storeNativeGrants connectorId nativeGrants
      (app.store.upsertRecords records)).find k ≠ none) :
    filing.putAll app.store.find (records ++ nativeGrants.map GraphRecord.nativeGrant) k ≠
      none := by
  rw [Filing.putAll_append, ← InMemoryRebacStore.find_upsertRecords, Filing.putAll_ne_none]
  unfold Discovery.storeNativeGrants at hk
  split at hk
  · rw [InMemoryRebacStore.find_replaceNativeGrants, Filing.putAll_ne_none] at hk
    refine hk.imp_left fun hfilter hnone => hfilter ?_
    rw [hnone]
    rfl
  · exact .inl hk

theorem meets_of_restart (hkeeps : filing.Keeps repository.toRepository)
    (hin : InStep repository seed app) {operation : GraphOperation}
    (haccepted : Accepted repository seed app operation)
    (hgives : GivesBack repository seed (app.perform repository seed operation).1) :
    Meets app operation := by
  cases operation with
  | syncConnector connectorId discovery =>
    intro hknown resources records hdiscover
    unfold Accepted at haccepted
    cases hread : discovery.readAll resources with
    | error message =>
      rw [GraphApp.sync_threw hknown hdiscover hread] at hgives
      exact hgives.symm.trans hin.restart
    | ok nativeGrants =>
      intro hsome
      obtain ⟨graph, hgraph⟩ := Option.ne_none_iff_exists'.1 hsome
      rw [GraphApp.sync_read hknown hdiscover hread] at haccepted hgives
      exact (agree_sync hdiscover).1
        (agree_of_restart hkeeps hin hgraph (fun _ => sync_keys) haccepted hgives)
  | _ => trivial

theorem restarts_cons {operation : GraphOperation} {operations : List GraphOperation} :
    Restarts repository seed app (operation :: operations) ↔ GivesBack repository seed app ∧
      Restarts repository seed (app.perform repository seed operation).1 operations := by
  constructor
  · intro h
    refine ⟨h [] _ rfl, fun before after hsplit => ?_⟩
    exact h (operation :: before) after (congrArg (operation :: ·) hsplit)
  · intro h before after hsplit
    cases before with
    | nil => exact h.1
    | cons first before =>
      obtain ⟨rfl, htail⟩ := List.cons.inj hsplit
      exact h.2 before after htail

theorem restarts_of_inStep (hkeeps : filing.Keeps repository.toRepository)
    {operations : List GraphOperation} (hin : InStep repository seed app)
    (hpersisted : app.Persisted)
    (haccepted : app.EachStep repository seed (Accepted repository seed) operations) :
    Restarts repository seed app operations ↔ app.EachStep repository seed Meets operations := by
  induction operations generalizing app with
  | nil =>
    refine iff_of_true (fun before after hsplit => ?_) trivial
    rw [(List.append_eq_nil_iff.1 hsplit.symm).1]
    exact hin.restart
  | cons operation operations ih =>
    obtain ⟨haccept, hrest⟩ := haccepted
    rw [restarts_cons]
    have hnext := fun hmeets => ih (inStep_perform hkeeps hin hpersisted haccept hmeets)
      (hpersisted.perform operation) hrest
    constructor
    · intro h
      have hmeets := meets_of_restart hkeeps hin haccept (h.2 [] _ rfl)
      exact ⟨hmeets, (hnext hmeets).1 h.2⟩
    · intro h
      exact ⟨hin.restart, (hnext h.1).2 h.2⟩

end

/-- **Exact condition.** In a run whose writes are all accepted, a restart gives the graph
back, wherever the run stops, if and only if every sync meets the condition. -/
theorem restarts_iff (repository : RebacGraphRepository σ)
    (hkeeps : filing.Keeps repository.toRepository) (seed : RebacSeedData) (app : GraphApp σ)
    (hstarted : Started repository seed app) (operations : List GraphOperation)
    (haccepted : app.EachStep repository seed (Accepted repository seed) operations) :
    Restarts repository seed app operations ↔ app.EachStep repository seed Meets operations := by
  obtain ⟨graphRepository, stateRepository, connectors, hcreated, hstart⟩ := hstarted.created
  have hin := GraphApp.inStep_createRebacLocalApp hkeeps hstart (congrArg Prod.snd hcreated)
  rw [hcreated] at hin
  exact restarts_of_inStep hkeeps hin hstarted.persisted haccepted

/-! ## Counterexample -/

/-- A grant that the mock connector observed. -/
def observedGrant : NativeGrant where
  id := "native-grant:mock:document:case-plan:user:alice:read:direct"
  version := "native-grant:v1"
  createdAt := timestamp
  targetPlatform := "mock"
  targetObjectId := "document:case-plan"
  subjectId := "user:alice"
  principalType := .user
  nativePermission := "read"
  grantType := .direct
  sourceConnectorId := "mock"
  status := .observed
  observedAt := timestamp

/-- A discovery of the plan, with the grants on it. -/
def discoverPlan (nativeGrants : List NativeGrant) : Discovery where
  subjects := .ok [alice]
  resources := .ok [casePlan]
  relationships := .ok []
  readCurrentAccess _ _ := .ok nativeGrants

/-- A runtime on empty repositories. -/
def started : GraphApp InMemoryRebacStore :=
  (createRebacLocalApp .inMemory (some .empty) (some none) ⟨[], [], [], []⟩ ["mock"]).1

/-- The provider has revoked the grant between the syncs. -/
def revoked : List GraphOperation :=
  [.syncConnector "mock" (discoverPlan [observedGrant]), .syncConnector "mock" (discoverPlan [])]

theorem started_started : Started .inMemory ⟨[], [], [], []⟩ started where
  created := ⟨some .empty, some none, ["mock"], rfl, fun _ h => by cases h; exact .inl rfl⟩
  persisted := .inl fun h => by cases h

/-- **Counterexample.** The second sync removes the grant, and the restart gives it back. -/
theorem removed_grant_back :
    ((started.run .inMemory ⟨[], [], [], []⟩ revoked).store.find
        (.nativeGrant observedGrant.id)).isSome = false ∧
      ((started.run .inMemory ⟨[], [], [], []⟩ (revoked ++ [.restart])).store.find
        (.nativeGrant observedGrant.id)).isSome = true ∧
      ¬ ∀ app operations, Started .inMemory ⟨[], [], [], []⟩ app →
        app.EachStep .inMemory ⟨[], [], [], []⟩ (Accepted .inMemory ⟨[], [], [], []⟩) operations →
        Restarts .inMemory ⟨[], [], [], []⟩ app operations := by
  have hremoved : ((started.run .inMemory ⟨[], [], [], []⟩ revoked).store.find
      (.nativeGrant observedGrant.id)).isSome = false := by decide +kernel
  have hback : ((started.run .inMemory ⟨[], [], [], []⟩ (revoked ++ [.restart])).store.find
      (.nativeGrant observedGrant.id)).isSome = true := by decide +kernel
  refine ⟨hremoved, hback, fun h => ?_⟩
  have hgives := h started revoked started_started ⟨rfl, rfl, trivial⟩ revoked [] rfl
    (.nativeGrant observedGrant.id)
  have hsome := congrArg Option.isSome hgives
  rw [Option.isSome_map, Option.isSome_map, hremoved] at hsome
  rw [GraphApp.run, List.foldl_append] at hback
  exact absurd (hsome.symm.trans hback) (by decide)

/-- A grant that is read twice, and a tuple that is deleted in between. -/
def keptGrant : List GraphOperation :=
  [.putRelationship aliceCaseTeam, .syncConnector "mock" (discoverPlan [observedGrant]),
    .deleteRelationship aliceCaseTeam.id later,
    .syncConnector "mock" (discoverPlan [observedGrant])]

theorem meets_discoverPlan {app : GraphApp InMemoryRebacStore}
    (h : ∀ grant ∈ app.store.listNativeGrants, grant.id = observedGrant.id) :
    Meets app (.syncConnector "mock" (discoverPlan [observedGrant])) := by
  intro _ resources records hdiscover
  cases hdiscover
  intro _
  show ∀ grant ∈ app.store.listNativeGrants, grant.sourceConnectorId = "mock" →
    ∃ read ∈ [observedGrant] ++ [], read.id = grant.id
  exact fun grant hgrant _ => ⟨observedGrant, List.mem_cons_self, (h grant hgrant).symm⟩

/-- The tuple does not come back, and the grant does not go. -/
theorem restarts_deleted : Restarts .inMemory ⟨[], [], [], []⟩ started keptGrant := by
  refine (restarts_iff .inMemory RebacGraphRepository.keeps_inMemory ⟨[], [], [], []⟩ started
    started_started keptGrant ⟨rfl, rfl, rfl, rfl, trivial⟩).2 ⟨trivial, ?_, trivial, ?_, trivial⟩
  · exact meets_discoverPlan fun grant hgrant => by cases hgrant
  · refine meets_discoverPlan fun grant hgrant => ?_
    obtain rfl := List.mem_singleton.1 hgrant
    rfl

end AccessKit.Bugs.RemovedGrants
