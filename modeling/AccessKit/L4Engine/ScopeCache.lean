import AccessKit.Core.ReadThrough
import AccessKit.Core.Text
import AccessKit.L2Graph.Writes
import AccessKit.L4Engine.Engine

/-!
# The active lists an engine remembers

packages/core/src/engine.ts:82-90, 196-347, 349-371, 814-829: an engine keeps
the active lists it has computed, by the revision of the graph, `asOf` and the
pinned tuple version, in at most 32 scopes. This file is the engine with that
table: `check` reads every list through the scope of the decision, and a run
interleaves checks with writes of any kind.

Results:
* `decidePathsThrough_eq`: over lists that are right, a check decides as the
  engine of `Engine.lean` does.
* `Fresh.run`: in every run the lists kept for the current revision are right.
* `check_of_noClash`: so a check that finds no foreign scope under its key
  decides on the current graph.
* `noClash_of_plain`: instants without the separator have their own keys.
-/
namespace AccessKit.L4
open AccessKit.Core AccessKit.L1 AccessKit.L2.Store AccessKit.L2.Store.InMemoryRebacStore
  AccessKit.L3

/-- mirrors packages/core/src/engine.ts:85-90 -/
structure CachedScope where
  revision : Nat
  asOf : IsoDateTime
  pinnedTupleVersion : Option String
  bySubject : OrderedMap CanonicalId (List RelationshipTuple)

/-- What the lists of the scope are computed for. -/
def CachedScope.scope (c : CachedScope) : ActiveRelationshipScope := ⟨c.asOf, c.pinnedTupleVersion⟩

abbrev ScopeTable := OrderedMap String CachedScope

/-- mirrors packages/core/src/engine.ts:82 -/
def MAX_ACTIVE_RELATIONSHIP_SCOPES : Nat := 32

/-- The three parts of a key, with a NUL between them.
mirrors packages/core/src/engine.ts:351 -/
def scopeKey (revision : Nat) (asOf : IsoDateTime) (pinnedTupleVersion : Option String) : String :=
  toString revision ++ "\x00" ++ asOf ++ "\x00" ++ pinnedTupleVersion.getD ""

/-- `const [oldestKey] = scopes.keys(); scopes.delete(oldestKey)` -/
def dropOldest (scopes : ScopeTable) : ScopeTable :=
  match scopes.keys.head? with
  | some oldestKey => scopes.delete oldestKey
  | none => scopes

/-- The scope of a decision, found or entered.
mirrors packages/core/src/engine.ts:349-370 -/
def activeRelationshipScope (scopes : ScopeTable) (revision : Nat) (asOf : IsoDateTime)
    (pinnedTupleVersion : Option String) : CachedScope × ScopeTable :=
  match scopes.get? (scopeKey revision asOf pinnedTupleVersion) with
  | some cached => (cached, scopes)
  | none =>
    let scope : CachedScope := ⟨revision, asOf, pinnedTupleVersion, .empty⟩
    let scopes := scopes.set (scopeKey revision asOf pinnedTupleVersion) scope
    (scope, if MAX_ACTIVE_RELATIONSHIP_SCOPES < scopes.size then dropOldest scopes else scopes)

/-- The lists read in a decision, and the table they are read through. -/
abbrev ListReads := Reads CanonicalId (List RelationshipTuple)

section
variable (H : Host) (i : TraversalInput) (scope : ActiveRelationshipScope)

/-- The loop of `findAllowPath`, over the lists of a scope.
mirrors packages/core/src/engine.ts:685-749, 814-829 -/
def allowLoopThrough (fuel : Nat) (reads : ListReads) (guard : DecisionTraversalGuard) :
    Option (Flow AllowAgenda (List RelationshipTuple) × ListReads) :=
  worklistThrough (activeRelationshipsForSubject H i.store scope) (·.state.currentId)
    (allowStep H i) fuel reads (allowStart i guard)

/-- The loop of `findDenyPath`, over the lists of a scope.
mirrors packages/core/src/engine.ts:772-809, 814-829 -/
def denyLoopThrough (fuel : Nat) (reads : ListReads) (guard : DecisionTraversalGuard) :
    Option (Flow DenyAgenda (List RelationshipTuple) × ListReads) :=
  worklistThrough (activeRelationshipsForSubject H i.store scope) (·.state)
    (denyStep H i) fuel reads (denyStart i guard)

end

section
variable {H : Host} {i : TraversalInput} {scope : ActiveRelationshipScope} {fuel : Nat}
  {guard : DecisionTraversalGuard} {reads : ListReads}

/-- The allow loop over any lists is a search of the space with these lists. -/
theorem allowWorklist_eq (lists : CanonicalId → List RelationshipTuple) :
    worklist (fun next => forOf (allowStep H i next) (lists next.state.currentId)) fuel
        (allowStart i guard) =
      Space.search { allowSpace H i with edges := fun s => lists s.currentId }
        (guardMeter AllowState.currentId) fuel (allowStart i guard) := by
  have h : allowStep H i = Space.relax
      { allowSpace H i with edges := fun s => lists s.currentId }
      (guardMeter AllowState.currentId) := by
    funext next r w
    exact allowStep_eq next r w
  rw [h]
  rfl

theorem denyWorklist_eq (lists : CanonicalId → List RelationshipTuple) :
    worklist (fun next => forOf (denyStep H i next) (lists next.state)) fuel
        (denyStart i guard) =
      Space.search { denySpace H i with edges := lists } (guardMeter id) fuel
        (denyStart i guard) := by
  have h : denyStep H i = Space.relax { denySpace H i with edges := lists } (guardMeter id) := by
    funext next r w
    exact denyStep_eq next r w
  rw [h]
  rfl

theorem allowLoopThrough_isSome (h : searchFuel guard ≤ fuel) :
    (allowLoopThrough H i scope fuel reads guard).isSome := by
  have hsome : ((allowLoopThrough H i scope fuel reads guard).map Prod.fst).isSome := by
    rw [allowLoopThrough, worklistThrough_eq, allowWorklist_eq
      (served (activeRelationshipsForSubject H i.store scope) reads.table)]
    refine Space.search_isSome (guardMeter_draining AllowState.currentId) ?_
    simp only [Space.budget, allowStart, Space.start, List.length_singleton]
    unfold searchFuel at h
    omega
  rw [Option.isSome_map] at hsome
  exact hsome

theorem denyLoopThrough_isSome (h : searchFuel guard ≤ fuel) :
    (denyLoopThrough H i scope fuel reads guard).isSome := by
  have hsome : ((denyLoopThrough H i scope fuel reads guard).map Prod.fst).isSome := by
    rw [denyLoopThrough, worklistThrough_eq, denyWorklist_eq
      (served (activeRelationshipsForSubject H i.store scope) reads.table)]
    refine Space.search_isSome (guardMeter_draining id) ?_
    simp only [Space.budget, denyStart, Space.start, List.length_singleton]
    unfold searchFuel at h
    omega
  rw [Option.isSome_map] at hsome
  exact hsome

end

/-- `findAllowPath` over the lists of a scope. -/
def findAllowPathThrough (H : Host) (i : TraversalInput) (scope : ActiveRelationshipScope)
    (reads : ListReads) (guard : DecisionTraversalGuard) :
    (DecisionTraversalGuard × RelationshipTraversalPath) × ListReads :=
  let out := (allowLoopThrough H i scope (searchFuel guard) reads guard).get
    (allowLoopThrough_isSome (Nat.le_refl _))
  (traversalResult out.1, out.2)

/-- `findDenyPath` over the lists of a scope. -/
def findDenyPathThrough (H : Host) (i : TraversalInput) (scope : ActiveRelationshipScope)
    (reads : ListReads) (guard : DecisionTraversalGuard) :
    (DecisionTraversalGuard × RelationshipTraversalPath) × ListReads :=
  let out := (denyLoopThrough H i scope (searchFuel guard) reads guard).get
    (denyLoopThrough_isSome (Nat.le_refl _))
  (traversalResult out.1, out.2)

/-- The searches and the caveats of an admitted request, over the lists of a
scope.
mirrors packages/core/src/engine.ts:259-347 -/
def decidePathsThrough (H : Host) (e : RebacDecisionEngine) (st : InMemoryRebacStore)
    (request : DecisionRequest) (evaluatedAt : IsoDateTime)
    (versionPins : DecisionRuntimeVersionPins) (a : Admission) (scope : ActiveRelationshipScope)
    (reads : ListReads) : DecisionContext × ListReads :=
  let context (decision : DecisionValue) (reasonCode : String) (path : RelationshipTraversalPath)
      (guard : DecisionTraversalGuard) (constraints : Option PolicyCaveats) : DecisionContext :=
    ⟨request, evaluatedAt, versionPins, a.scope.tenantId, a.scope.resourceClassification,
      reasonCode, decision, path, guard.report, constraints⟩
  let i := traversalInput e st request versionPins a
  let deny := findDenyPathThrough H i scope reads (initialGuard e st request)
  let explicitDeny := deny.1
  if 0 < explicitDeny.2.steps.length then
    (context .deny "DENY_EXPLICIT_OVERRIDE" explicitDeny.2 explicitDeny.1 none, deny.2)
  else if explicitDeny.1.boundsExceeded.isSome then
    (context .deny "DENY_TRAVERSAL_BOUND_EXCEEDED" ⟨[]⟩ explicitDeny.1 none, deny.2)
  else
    let allow := findAllowPathThrough H i scope deny.2 explicitDeny.1
    let relationshipPath := allow.1
    if relationshipPath.1.boundsExceeded.isSome then
      (context .deny "DENY_TRAVERSAL_BOUND_EXCEEDED" relationshipPath.2 relationshipPath.1 none,
        allow.2)
    else if relationshipPath.2.steps.length = 0 then
      (context .deny "DENY_DEFAULT_NO_RELATIONSHIP_PATH" ⟨[]⟩ relationshipPath.1 none, allow.2)
    else
      match evaluateConditionalRelationshipCaveats H ⟨st, e.policyModel, request, evaluatedAt⟩
          relationshipPath.2.relationships with
      | .deny reasonCode constraints =>
        (context .deny reasonCode relationshipPath.2 relationshipPath.1 constraints, allow.2)
      | .allow constraints =>
        (context .allow "ALLOW_VIA_RELATIONSHIP_PATH" relationshipPath.2 relationshipPath.1
          constraints, allow.2)

/-- An engine, the store it decides on, and the scopes it remembers. -/
structure CachingEngine where
  engine : RebacDecisionEngine
  store : InMemoryRebacStore
  scopes : ScopeTable

/-- What a check leaves behind: the decision, the lists it was served, and the
scopes it remembers now. -/
structure CheckRun where
  context : DecisionContext
  lists : List (CanonicalId × List RelationshipTuple)
  scopes : ScopeTable

namespace CachingEngine

/-- `new RebacDecisionEngine(store, options)` -/
def new (H : Host) (options : DecisionEngineOptions) (st : InMemoryRebacStore) : CachingEngine :=
  ⟨.new H options, st, .empty⟩

/-- The version pins of a request, with the clock read at `evaluatedAt`. -/
def pins (s : CachingEngine) (H : Host) (request : DecisionRequest) (evaluatedAt : IsoDateTime) :
    DecisionRuntimeVersionPins :=
  normalizeDecisionRuntimeVersionPins H request s.engine.options evaluatedAt

/-- The tuple version that a request pins. -/
def tuplePin (s : CachingEngine) (H : Host) (request : DecisionRequest)
    (evaluatedAt : IsoDateTime) : Option String :=
  pinnedTupleVersion s.engine request (s.pins H request evaluatedAt)

/-- The key a check looks its scope up under. -/
def keyOf (s : CachingEngine) (H : Host) (request : DecisionRequest) (evaluatedAt : IsoDateTime) :
    String :=
  scopeKey s.store.relationshipRevision (s.pins H request evaluatedAt).asOf
    (s.tuplePin H request evaluatedAt)

/-- `check` and `explain`: the lists that are read enter the scope, which is
the one object that the table and the decision share.
mirrors packages/core/src/engine.ts:142-154, 196-347 -/
def check (s : CachingEngine) (H : Host) (request : DecisionRequest) (evaluatedAt : IsoDateTime) :
    CheckRun :=
  let versionPins := s.pins H request evaluatedAt
  match admitRequest H s.store request evaluatedAt versionPins with
  | .error _ =>
    ⟨buildDecisionContext H s.engine s.store request evaluatedAt versionPins, [], s.scopes⟩
  | .ok a =>
    let found := activeRelationshipScope s.scopes s.store.relationshipRevision versionPins.asOf
      (s.tuplePin H request evaluatedAt)
    let out := decidePathsThrough H s.engine s.store request evaluatedAt versionPins a
      found.1.scope ⟨found.1.bySubject, []⟩
    ⟨out.1, out.2.log,
      found.2.set (s.keyOf H request evaluatedAt) { found.1 with bySubject := out.2.table }⟩

end CachingEngine

/-- What happens to an engine and its store. -/
inductive EngineOp
  | write (w : GraphWrite)
  | check (request : DecisionRequest) (evaluatedAt : IsoDateTime)

namespace CachingEngine

def step (H : Host) (s : CachingEngine) : EngineOp → CachingEngine
  | .write w => { s with store := s.store.write w }
  | .check request evaluatedAt => { s with scopes := (s.check H request evaluatedAt).scopes }

def run (H : Host) (s : CachingEngine) (ops : List EngineOp) : CachingEngine := ops.foldl (step H) s

end CachingEngine

/-! ## Over lists that are right a check decides as the engine does -/

section
variable {H : Host} {i : TraversalInput} {scope : ActiveRelationshipScope} {reads : ListReads}

/-- Everything read so far is what the scope asks for. -/
abbrev ReadRight (H : Host) (st : InMemoryRebacStore) (scope : ActiveRelationshipScope)
    (reads : ListReads) : Prop := Faithful (activeRelationshipsForSubject H st scope) reads

theorem findAllowPathThrough_faithful (guard : DecisionTraversalGuard) (h : ReadRight H i.store scope reads) :
    ReadRight H i.store scope (findAllowPathThrough H i scope reads guard).2 := by
  have hsome : (allowLoopThrough H i scope (searchFuel guard) reads guard).isSome :=
    allowLoopThrough_isSome (Nat.le_refl _)
  exact worklistThrough_keeps (fun k _ hc => hc.readThrough k) h (Option.some_get hsome).symm

theorem findDenyPathThrough_faithful (guard : DecisionTraversalGuard) (h : ReadRight H i.store scope reads) :
    ReadRight H i.store scope (findDenyPathThrough H i scope reads guard).2 := by
  have hsome : (denyLoopThrough H i scope (searchFuel guard) reads guard).isSome :=
    denyLoopThrough_isSome (Nat.le_refl _)
  exact worklistThrough_keeps (fun k _ hc => hc.readThrough k) h (Option.some_get hsome).symm

/-- The scope asks for the lists of the decision. -/
def Asks (H : Host) (i : TraversalInput) (scope : ActiveRelationshipScope) : Prop :=
  activeRelationshipsForSubject H i.store scope = i.relationshipsFrom H

theorem findAllowPathThrough_eq (guard : DecisionTraversalGuard)
    (h : ReadRight H i.store scope reads) (ha : Asks H i scope) :
    (findAllowPathThrough H i scope reads guard).1 = findAllowPath H i guard := by
  have hloop : (allowLoopThrough H i scope (searchFuel guard) reads guard).map Prod.fst =
      allowLoop H i (searchFuel guard) guard := by
    rw [allowLoopThrough, worklistThrough_eq, h.table.served, ha]
    rfl
  unfold findAllowPathThrough findAllowPath
  simp only [← hloop, Option.get_map]

theorem findDenyPathThrough_eq (guard : DecisionTraversalGuard)
    (h : ReadRight H i.store scope reads) (ha : Asks H i scope) :
    (findDenyPathThrough H i scope reads guard).1 = findDenyPath H i guard := by
  have hloop : (denyLoopThrough H i scope (searchFuel guard) reads guard).map Prod.fst =
      denyLoop H i (searchFuel guard) guard := by
    rw [denyLoopThrough, worklistThrough_eq, h.table.served, ha]
    rfl
  unfold findDenyPathThrough findDenyPath
  simp only [← hloop, Option.get_map]

end

section
variable {H : Host} {e : RebacDecisionEngine} {st : InMemoryRebacStore}
  {request : DecisionRequest} {evaluatedAt : IsoDateTime}
  {versionPins : DecisionRuntimeVersionPins} {a : Admission} {scope : ActiveRelationshipScope}
  {reads : ListReads}

theorem decidePathsThrough_faithful (h : ReadRight H st scope reads) :
    ReadRight H st scope
      (decidePathsThrough H e st request evaluatedAt versionPins a scope reads).2 := by
  have hdeny := findDenyPathThrough_faithful (H := H)
    (i := traversalInput e st request versionPins a) (initialGuard e st request) h
  have hallow := findAllowPathThrough_faithful (H := H)
    (i := traversalInput e st request versionPins a)
    (findDenyPathThrough H (traversalInput e st request versionPins a) scope reads
      (initialGuard e st request)).1.1 hdeny
  unfold decidePathsThrough
  dsimp only
  split
  · exact hdeny
  split
  · exact hdeny
  split
  · exact hallow
  split
  · exact hallow
  split <;> exact hallow

/-- **Over lists that are right** a check decides as the engine does. -/
theorem decidePathsThrough_eq (h : ReadRight H st scope reads)
    (ha : Asks H (traversalInput e st request versionPins a) scope) :
    (decidePathsThrough H e st request evaluatedAt versionPins a scope reads).1 =
      decidePaths H e st request evaluatedAt versionPins a := by
  have hdeny : (findDenyPathThrough H (traversalInput e st request versionPins a) scope reads
      (initialGuard e st request)).1 = denySearch H e st request versionPins a :=
    findDenyPathThrough_eq _ h ha
  have hallow := findAllowPathThrough_eq (H := H) (i := traversalInput e st request versionPins a)
    (denySearch H e st request versionPins a).1
    (findDenyPathThrough_faithful (initialGuard e st request) h) ha
  unfold decidePathsThrough decidePaths allowSearch
  dsimp only
  rw [hdeny, hallow]
  split
  · rfl
  split
  · rfl
  split
  · rfl
  split
  · rfl
  · -- the caveats of the same path
    generalize evaluateConditionalRelationshipCaveats H _ _ = caveats
    cases caveats <;> rfl

end

/-! ## The lists that are kept -/

/-- A write that leaves the revision alone leaves the tuples alone. -/
theorem write_revision (st : InMemoryRebacStore) (w : GraphWrite) :
    st.relationshipRevision < (st.write w).relationshipRevision ∨
      ((st.write w).relationshipRevision = st.relationshipRevision ∧
        (st.write w).listRelationshipsForSubject = st.listRelationshipsForSubject) := by
  cases w with
  | upsertSubject s => exact .inr ⟨rfl, rfl⟩
  | upsertResource r => exact .inr ⟨rfl, rfl⟩
  | upsertRelationship r => exact .inl (Nat.lt_succ_self _)
  | deleteRelationship id deletedAt =>
    simp only [write, deleteRelationship]
    split
    · exact .inr ⟨rfl, rfl⟩
    · exact .inl (Nat.lt_succ_self _)

section
variable {scopes : ScopeTable} {revision : Nat} {asOf : IsoDateTime} {pin : Option String}

/-- The scope of a decision was in the table, or is new. -/
theorem activeRelationshipScope_cases (scopes : ScopeTable) (revision : Nat) (asOf : IsoDateTime)
    (pin : Option String) :
    scopes.get? (scopeKey revision asOf pin) =
        some (activeRelationshipScope scopes revision asOf pin).1 ∨
      (activeRelationshipScope scopes revision asOf pin).1 = ⟨revision, asOf, pin, .empty⟩ := by
  unfold activeRelationshipScope
  split
  · rename_i h
    exact .inl h
  · exact .inr rfl

theorem mem_of_dropOldest {k : String} {c : CachedScope}
    (h : (dropOldest scopes).get? k = some c) : scopes.get? k = some c := by
  unfold dropOldest at h
  split at h
  · rw [OrderedMap.get?_delete] at h
    split at h
    · cases h
    · exact h
  · exact h

/-- Nothing else enters the table. -/
theorem mem_of_activeRelationshipScope {k : String} {c : CachedScope}
    (h : (activeRelationshipScope scopes revision asOf pin).2.get? k = some c) :
    scopes.get? k = some c ∨ (k = scopeKey revision asOf pin ∧
      c = (activeRelationshipScope scopes revision asOf pin).1) := by
  unfold activeRelationshipScope at h ⊢
  split at h
  · exact .inl h
  · have hset : (scopes.set (scopeKey revision asOf pin) ⟨revision, asOf, pin, .empty⟩).get? k =
        some c := by
      simp only at h
      split at h
      · exact mem_of_dropOldest h
      · exact h
    rw [OrderedMap.get?_set] at hset
    split at hset
    · rename_i hk
      cases hset
      exact .inr ⟨hk.symm, rfl⟩
    · exact .inl hset

end

/-- Every scope is kept under its own key, belongs to a revision the graph has
had, and holds the right lists while the graph has it. -/
structure Fresh (H : Host) (s : CachingEngine) : Prop where
  key : ∀ k c, s.scopes.get? k = some c → k = scopeKey c.revision c.asOf c.pinnedTupleVersion
  revision : ∀ k c, s.scopes.get? k = some c → c.revision ≤ s.store.relationshipRevision
  lists : ∀ k c, s.scopes.get? k = some c → c.revision = s.store.relationshipRevision →
    AccessKit.Core.Coherent (activeRelationshipsForSubject H s.store c.scope) c.bySubject

theorem revision_of_scopeKey {n m : Nat} {asOf asOf' : IsoDateTime} {pin pin' : Option String}
    (h : scopeKey n asOf pin = scopeKey m asOf' pin') : n = m := by
  have hl := congrArg String.toList h
  simp only [scopeKey, String.toList_append, List.append_assoc] at hl
  exact decimal_inj (append_sep_inj (not_mem_decimal (by decide) n)
    (not_mem_decimal (by decide) m) hl).1

section
variable {H : Host} {s : CachingEngine} {request : DecisionRequest} {evaluatedAt : IsoDateTime}

theorem fresh_new (H : Host) (options : DecisionEngineOptions) (st : InMemoryRebacStore) :
    Fresh H (.new H options st) where
  key _ _ h := by cases h
  revision _ _ h := by cases h
  lists _ _ h := by cases h

theorem Fresh.write (h : Fresh H s) (w : GraphWrite) :
    Fresh H (CachingEngine.step H s (.write w)) := by
  have hw := write_revision s.store w
  refine ⟨h.key, fun k c hc => ?_, fun k c hc hrev => ?_⟩
  · have hle := h.revision k c hc
    change c.revision ≤ (s.store.write w).relationshipRevision
    omega
  · have hle := h.revision k c hc
    change c.revision = (s.store.write w).relationshipRevision at hrev
    rcases hw with hlt | ⟨hrev', hlist⟩
    · omega
    · have hcoh := h.lists k c hc (hrev.trans hrev')
      unfold activeRelationshipsForSubject at hcoh ⊢
      change AccessKit.Core.Coherent (fun subjectId =>
        ((s.store.write w).listRelationshipsForSubject subjectId).filter _) _
      rw [hlist]
      exact hcoh

theorem Fresh.found (h : Fresh H s) (asOf : IsoDateTime) (pin : Option String) :
    let c := (activeRelationshipScope s.scopes s.store.relationshipRevision asOf pin).1
    scopeKey s.store.relationshipRevision asOf pin =
        scopeKey c.revision c.asOf c.pinnedTupleVersion ∧
      c.revision = s.store.relationshipRevision ∧
      AccessKit.Core.Coherent (activeRelationshipsForSubject H s.store c.scope) c.bySubject := by
  intro c
  rcases activeRelationshipScope_cases s.scopes s.store.relationshipRevision asOf pin with hc | hc
  · have hkey := h.key _ _ hc
    have hrev := (revision_of_scopeKey hkey).symm
    exact ⟨hkey, hrev, h.lists _ _ hc hrev⟩
  · refine ⟨?_, ?_, ?_⟩
    · rw [show c = _ from hc]
    · rw [show c = _ from hc]
    · rw [show c = _ from hc]
      exact coherent_empty

theorem Fresh.check (h : Fresh H s) (request : DecisionRequest) (evaluatedAt : IsoDateTime) :
    Fresh H (CachingEngine.step H s (.check request evaluatedAt)) := by
  have hscopes : ∀ k c, (s.check H request evaluatedAt).scopes.get? k = some c →
      k = scopeKey c.revision c.asOf c.pinnedTupleVersion ∧
        c.revision ≤ s.store.relationshipRevision ∧
        (c.revision = s.store.relationshipRevision →
          AccessKit.Core.Coherent (activeRelationshipsForSubject H s.store c.scope)
            c.bySubject) := by
    intro k c hc
    unfold CachingEngine.check at hc
    simp only at hc
    split at hc
    · exact ⟨h.key k c hc, h.revision k c hc, h.lists k c hc⟩
    · obtain ⟨hkey, hrev, hcoh⟩ := h.found (s.pins H request evaluatedAt).asOf
        (s.tuplePin H request evaluatedAt)
      rw [OrderedMap.get?_set] at hc
      split at hc
      · rename_i hk
        cases hc
        refine ⟨hk.symm.trans hkey, Nat.le_of_eq hrev, fun _ => ?_⟩
        exact (decidePathsThrough_faithful ⟨hcoh, fun _ hp => by cases hp⟩).table
      · rcases mem_of_activeRelationshipScope hc with hold | ⟨rfl, rfl⟩
        · exact ⟨h.key k c hold, h.revision k c hold, h.lists k c hold⟩
        · exact ⟨hkey, Nat.le_of_eq hrev, fun _ => hcoh⟩
  exact ⟨fun k c hc => (hscopes k c hc).1, fun k c hc => (hscopes k c hc).2.1,
    fun k c hc => (hscopes k c hc).2.2⟩

/-- **The kept lists are right**, in every run. -/
theorem Fresh.run (h : Fresh H s) (ops : List EngineOp) : Fresh H (s.run H ops) := by
  induction ops generalizing s with
  | nil => exact h
  | cons op ops ih =>
    cases op with
    | write w => exact ih (h.write w)
    | check request evaluatedAt => exact ih (h.check request evaluatedAt)

end

/-! ## A check on the current graph -/

/-- The scope kept under the key of the check, if any, was made for the same
instant and the same pinned tuple version. -/
def NoClash (H : Host) (s : CachingEngine) (request : DecisionRequest)
    (evaluatedAt : IsoDateTime) : Prop :=
  ∀ c, s.scopes.get? (s.keyOf H request evaluatedAt) = some c →
    c.asOf = (s.pins H request evaluatedAt).asOf ∧
      truthy c.pinnedTupleVersion = truthy (s.tuplePin H request evaluatedAt)

/-- The check decides as an engine without a table does, over lists that are
those of the current graph for its instant and its pinned tuple version. -/
structure DecidesFresh (H : Host) (s : CachingEngine) (request : DecisionRequest)
    (evaluatedAt : IsoDateTime) : Prop where
  lists : ∀ p ∈ (s.check H request evaluatedAt).lists,
    p.2 = activeRelationshipsForSubject H s.store
      ⟨(s.pins H request evaluatedAt).asOf, s.tuplePin H request evaluatedAt⟩ p.1
  decision : (s.check H request evaluatedAt).context =
    evaluate H s.engine s.store request evaluatedAt

/-- An empty pin is no pin. -/
theorem activeRelationships_pin {H : Host} {st : InMemoryRebacStore} {asOf : IsoDateTime}
    {pin pin' : Option String} (h : truthy pin = truthy pin') :
    activeRelationshipsForSubject H st ⟨asOf, pin⟩ =
      activeRelationshipsForSubject H st ⟨asOf, pin'⟩ := by
  funext id
  unfold activeRelationshipsForSubject isActiveRelationshipAt
  simp only [h]

section
variable {H : Host} {s : CachingEngine} {request : DecisionRequest} {evaluatedAt : IsoDateTime}

/-- Without a clash the scope asks for the lists of the check. -/
theorem NoClash.asks (h : NoClash H s request evaluatedAt) :
    activeRelationshipsForSubject H s.store (activeRelationshipScope s.scopes
        s.store.relationshipRevision (s.pins H request evaluatedAt).asOf
        (s.tuplePin H request evaluatedAt)).1.scope =
      activeRelationshipsForSubject H s.store
        ⟨(s.pins H request evaluatedAt).asOf, s.tuplePin H request evaluatedAt⟩ := by
  rcases activeRelationshipScope_cases s.scopes s.store.relationshipRevision
    (s.pins H request evaluatedAt).asOf (s.tuplePin H request evaluatedAt) with hc | hc
  · obtain ⟨hasOf, hpin⟩ := h _ hc
    unfold CachedScope.scope
    rw [hasOf]
    exact activeRelationships_pin hpin
  · rw [hc]
    rfl

/-- **A check without a clash** decides on the current graph. -/
theorem check_of_noClash (h : Fresh H s) (hclash : NoClash H s request evaluatedAt) :
    DecidesFresh H s request evaluatedAt := by
  have hasks := hclash.asks
  obtain ⟨-, -, hcoh⟩ := h.found (s.pins H request evaluatedAt).asOf
    (s.tuplePin H request evaluatedAt)
  have hright : ReadRight H s.store _ ⟨_, []⟩ := ⟨hcoh, fun _ hp => by cases hp⟩
  cases hok : admitRequest H s.store request evaluatedAt (s.pins H request evaluatedAt) with
  | error r =>
    refine ⟨fun p hp => ?_, ?_⟩
    · simp only [CachingEngine.check, hok] at hp
      cases hp
    · simp only [CachingEngine.check, hok]
      rfl
  | ok a =>
    refine ⟨fun p hp => ?_, ?_⟩
    · simp only [CachingEngine.check, hok] at hp
      rw [← hasks]
      exact (decidePathsThrough_faithful hright).log p hp
    · have hdec : evaluate H s.engine s.store request evaluatedAt =
          decidePaths H s.engine s.store request evaluatedAt (s.pins H request evaluatedAt) a := by
        unfold evaluate buildDecisionContext
        unfold CachingEngine.pins at hok ⊢
        rw [hok]
      simp only [CachingEngine.check, hok]
      rw [hdec]
      exact decidePathsThrough_eq hright hasks

end

/-! ## Instants that cannot clash -/

/-- The instant has no NUL in it, as the date-times of the request schema and
the clock have none (packages/api/src/request-schemas.ts:21-25). -/
def Plain (asOf : IsoDateTime) : Prop := '\x00' ∉ asOf.toList

/-- Every check of the run is at a plain instant. -/
def PlainChecks (ops : List EngineOp) : Prop :=
  ∀ request evaluatedAt, .check request evaluatedAt ∈ ops →
    Plain (request.asOf.getD evaluatedAt)

section
variable {H : Host} {s : CachingEngine} {request : DecisionRequest} {evaluatedAt : IsoDateTime}

/-- The scopes that are kept were made for plain instants. -/
def KeepsPlain (s : CachingEngine) : Prop := ∀ k c, s.scopes.get? k = some c → Plain c.asOf

theorem KeepsPlain.check (h : KeepsPlain s) (hp : Plain (request.asOf.getD evaluatedAt)) :
    KeepsPlain (CachingEngine.step H s (.check request evaluatedAt)) := by
  have hfound : Plain (activeRelationshipScope s.scopes s.store.relationshipRevision
      (s.pins H request evaluatedAt).asOf (s.tuplePin H request evaluatedAt)).1.asOf := by
    rcases activeRelationshipScope_cases s.scopes s.store.relationshipRevision
      (s.pins H request evaluatedAt).asOf (s.tuplePin H request evaluatedAt) with hc | hc
    · exact h _ _ hc
    · rw [hc]
      exact hp
  intro k c hc
  change (s.check H request evaluatedAt).scopes.get? k = some c at hc
  unfold CachingEngine.check at hc
  simp only at hc
  split at hc
  · exact h k c hc
  · rw [OrderedMap.get?_set] at hc
    split at hc
    · cases hc
      exact hfound
    · rcases mem_of_activeRelationshipScope hc with hold | ⟨-, rfl⟩
      · exact h k c hold
      · exact hfound

theorem KeepsPlain.run (h : KeepsPlain s) {ops : List EngineOp} (hp : PlainChecks ops) :
    KeepsPlain (s.run H ops) := by
  induction ops generalizing s with
  | nil => exact h
  | cons op ops ih =>
    have htail : PlainChecks ops := fun q t hq => hp q t (List.mem_cons_of_mem _ hq)
    cases op with
    | write w => exact ih (s := CachingEngine.step H s (.write w)) h htail
    | check q t => exact ih (h.check (hp q t List.mem_cons_self)) htail

/-- **Plain instants** have their own keys. -/
theorem noClash_of_plain (hf : Fresh H s) (h : KeepsPlain s)
    (hp : Plain (request.asOf.getD evaluatedAt)) : NoClash H s request evaluatedAt := by
  intro c hc
  have hkey := congrArg String.toList (hf.key _ _ hc)
  simp only [CachingEngine.keyOf, scopeKey, String.toList_append, List.append_assoc] at hkey
  have hrest := (append_sep_inj (not_mem_decimal (by decide) _) (not_mem_decimal (by decide) _)
    hkey).2
  obtain ⟨hasOf, hpin⟩ := append_sep_inj hp (h _ _ hc) hrest
  refine ⟨String.toList_inj.1 hasOf.symm, ?_⟩
  have hpin : (s.tuplePin H request evaluatedAt).getD "" = c.pinnedTupleVersion.getD "" :=
    String.toList_inj.1 hpin
  cases hs : s.tuplePin H request evaluatedAt <;> cases hcp : c.pinnedTupleVersion <;>
    simp_all [truthy]

end

end AccessKit.L4
