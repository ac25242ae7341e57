import AccessKit.L1Domain.Stringify
import AccessKit.L4Engine.Caveats
import AccessKit.L4Engine.Paths

/-!
# The decision engine

packages/core/src/engine.ts:112-347: the constructor of `RebacDecisionEngine`
and `#buildDecisionContext`, the function from a store, a request and the two
clock readings to a decision. The checks on `asOf` and on the two nodes come
first (`admitRequest`), then the deny search, the allow search under the same guard,
and the caveats of the path.

The result record adds a decision id (a hash), cache metadata and a
performance report to the decision context; they follow from the context and
are left out, as is the audit event of an evaluation.

Results:
* `decision_allow_iff`: a request is allowed iff it is admitted, the deny
  search finds nothing within the bounds, the allow search finds a path within
  the bounds, and the caveats allow the path.
* `decision_deny_of_exceeded`: when a bound was exceeded, the decision is deny.
-/
namespace AccessKit.L4
open AccessKit.Core AccessKit.L1 AccessKit.L2.Store AccessKit.L3

/-- mirrors packages/core/src/decision-runtime.ts:5-12 -/
structure DecisionRuntimeVersionPins where
  policyVersion : String
  modelVersion : String
  relationshipVersion : String
  tupleVersion : String
  contextVersion : String
  asOf : IsoDateTime
  deriving DecidableEq, Repr

/-- The options that a decision depends on.
mirrors packages/core/src/engine.ts:36-50 -/
structure DecisionEngineOptions where
  policyVersion : Option String := none
  modelVersion : Option String := none
  relationshipVersion : Option String := none
  tupleVersion : Option String := none
  contextVersion : Option String := none
  traversalBounds : TraversalBoundOverrides := {}
  policyModel : Option PolicyModel := none

/-- mirrors packages/core/src/engine.ts:66-78 -/
structure NormalizedDecisionEngineOptions where
  policyVersion : String
  modelVersion : String
  relationshipVersion : String
  tupleVersion : String
  enforceTupleVersion : Bool
  contextVersion : Option String
  traversalBounds : DecisionTraversalBounds

structure RebacDecisionEngine where
  policyModel : PolicyModel
  compiledPolicyModel : CompiledPolicyModel
  options : NormalizedDecisionEngineOptions

/-- `new RebacDecisionEngine(store, options)`, without the store.
mirrors packages/core/src/engine.ts:121-140 -/
def RebacDecisionEngine.new (H : Host) (options : DecisionEngineOptions) : RebacDecisionEngine :=
  let policyModel := options.policyModel.getD createDefaultPolicyModel
  { policyModel
    compiledPolicyModel := compilePolicyModel H policyModel
    options :=
      { policyVersion := options.policyVersion.getD "policy:local-v1"
        modelVersion := options.modelVersion.getD "model:local-v1"
        relationshipVersion := options.relationshipVersion.getD "tuple-set:local-v1"
        tupleVersion := options.tupleVersion.getD "tuple:v1"
        enforceTupleVersion := (truthy options.tupleVersion).isSome
        contextVersion := options.contextVersion
        traversalBounds :=
          mergeDecisionTraversalBounds DEFAULT_DECISION_TRAVERSAL_BOUNDS options.traversalBounds } }

/-- mirrors packages/core/src/decision-runtime.ts:198-204 -/
def deriveContextVersion (H : Host) (context : Option JsonRecord) : String :=
  match context with
  | none => "context:none"
  | some c => if c.isEmpty then "context:none" else "context:" ++ sliceTo 16 (sha256 H (.obj c))

/-- mirrors packages/core/src/decision-runtime.ts:183-196 -/
def normalizeDecisionRuntimeVersionPins (H : Host) (request : DecisionRequest)
    (defaults : NormalizedDecisionEngineOptions) (evaluatedAt : IsoDateTime) :
    DecisionRuntimeVersionPins where
  policyVersion := request.policyVersion.getD defaults.policyVersion
  modelVersion := request.modelVersion.getD defaults.modelVersion
  relationshipVersion := request.relationshipVersion.getD defaults.relationshipVersion
  tupleVersion := request.tupleVersion.getD defaults.tupleVersion
  contextVersion := request.contextVersion.getD
    (defaults.contextVersion.getD (deriveContextVersion H request.context))
  asOf := request.asOf.getD evaluatedAt

/-- mirrors packages/core/src/engine.ts:52-64 -/
structure DecisionContext where
  request : DecisionRequest
  evaluatedAt : IsoDateTime
  versionPins : DecisionRuntimeVersionPins
  tenantId : Option String
  resourceClassification : Option String
  reasonCode : String
  decision : DecisionValue
  path : RelationshipTraversalPath
  traversal : DecisionTraversalReport
  constraints : Option PolicyCaveats

/-- `cacheScope`: what is known of the two nodes when the decision is made. -/
structure CacheScope where
  tenantId : Option String := none
  resourceClassification : Option String := none

/-- The two nodes of an admitted request. -/
structure Admission where
  subject : Subject
  resource : Resource

namespace Admission

def scope (a : Admission) : CacheScope :=
  ⟨(tenantIdFor (some (.subject a.subject))).orElse fun _ =>
    tenantIdFor (some (.resource a.resource)), some a.resource.classification⟩

def rootTenantId (a : Admission) : Option String := tenantIdFor (some (.subject a.subject))

end Admission

/-- A refusal before any search. -/
structure Refusal where
  reasonCode : String
  scope : CacheScope
  versionPins : DecisionRuntimeVersionPins

/-- The pin a tuple has to carry, if any.
mirrors packages/core/src/engine.ts:255-258 -/
def pinnedTupleVersion (e : RebacDecisionEngine) (request : DecisionRequest)
    (versionPins : DecisionRuntimeVersionPins) : Option String :=
  match request.tupleVersion with
  | some v => some v
  | none => if e.options.enforceTupleVersion then some versionPins.tupleVersion else none

/-- What both searches of an admitted request are called with. -/
def traversalInput (e : RebacDecisionEngine) (st : InMemoryRebacStore) (request : DecisionRequest)
    (versionPins : DecisionRuntimeVersionPins) (a : Admission) : TraversalInput where
  store := st
  compiledPolicyModel := e.compiledPolicyModel
  activeRelationshipScope := ⟨versionPins.asOf, pinnedTupleVersion e request versionPins⟩
  subjectId := request.subjectId
  resourceId := request.resourceId
  action := request.action
  rootTenantId := a.rootTenantId
  asOf := versionPins.asOf

/-- The checks of the resource, once the subject is known to be active.
mirrors packages/core/src/engine.ts:232-253 -/
def admitResource (H : Host) (st : InMemoryRebacStore) (request : DecisionRequest)
    (versionPins : DecisionRuntimeVersionPins) (subject : Subject) : Except Refusal Admission :=
  let tenantId := tenantIdFor (some (.subject subject))
  match visibleResourceAt H st request.resourceId versionPins.asOf with
  | none => .error ⟨"DENY_RESOURCE_NOT_FOUND", ⟨tenantId, none⟩, versionPins⟩
  | some resource =>
    let a : Admission := ⟨subject, resource⟩
    match effectiveLifecycleStateAt H (.resource resource) versionPins.asOf with
    | .unknown => .error ⟨"DENY_RESOURCE_LIFECYCLE_UNKNOWN_AS_OF", a.scope, versionPins⟩
    | .known state =>
      if state ≠ .active then .error ⟨"DENY_RESOURCE_NOT_ACTIVE", a.scope, versionPins⟩
      else if tenantBoundaryDenies subject resource then
        .error ⟨"DENY_TENANT_BOUNDARY", a.scope, versionPins⟩
      else .ok a

/-- The checks before the searches.
mirrors packages/core/src/engine.ts:205-253 -/
def admitRequest (H : Host) (st : InMemoryRebacStore) (request : DecisionRequest)
    (evaluatedAt : IsoDateTime) (versionPins : DecisionRuntimeVersionPins) :
    Except Refusal Admission :=
  match dateParse H versionPins.asOf with
  | none => .error ⟨"DENY_INVALID_AS_OF", {}, { versionPins with asOf := evaluatedAt }⟩
  | some asOfMs =>
    if gtMs (some asOfMs) (dateParse H evaluatedAt) then
      .error ⟨"DENY_AS_OF_IN_FUTURE", {}, { versionPins with asOf := evaluatedAt }⟩
    else
      match visibleSubjectAt H st request.subjectId versionPins.asOf with
      | none => .error ⟨"DENY_SUBJECT_NOT_FOUND", {}, versionPins⟩
      | some subject =>
        let scope : CacheScope := ⟨tenantIdFor (some (.subject subject)), none⟩
        match effectiveLifecycleStateAt H (.subject subject) versionPins.asOf with
        | .unknown => .error ⟨"DENY_SUBJECT_LIFECYCLE_UNKNOWN_AS_OF", scope, versionPins⟩
        | .known state =>
          if state ≠ .active then .error ⟨"DENY_SUBJECT_NOT_ACTIVE", scope, versionPins⟩
          else admitResource H st request versionPins subject

/-- The guard a decision starts with. -/
def initialGuard (e : RebacDecisionEngine) (st : InMemoryRebacStore) (request : DecisionRequest) :
    DecisionTraversalGuard :=
  .new e.options.traversalBounds st.graphSize request.subjectId

/-- The deny search of an admitted request. -/
def denySearch (H : Host) (e : RebacDecisionEngine) (st : InMemoryRebacStore)
    (request : DecisionRequest) (versionPins : DecisionRuntimeVersionPins) (a : Admission) :
    DecisionTraversalGuard × RelationshipTraversalPath :=
  findDenyPath H (traversalInput e st request versionPins a) (initialGuard e st request)

/-- The allow search of an admitted request. -/
def allowSearch (H : Host) (e : RebacDecisionEngine) (st : InMemoryRebacStore)
    (request : DecisionRequest) (versionPins : DecisionRuntimeVersionPins) (a : Admission) :
    DecisionTraversalGuard × RelationshipTraversalPath :=
  findAllowPath H (traversalInput e st request versionPins a)
    (denySearch H e st request versionPins a).1

/-- The searches and the caveats of an admitted request.
mirrors packages/core/src/engine.ts:259-347 -/
def decidePaths (H : Host) (e : RebacDecisionEngine) (st : InMemoryRebacStore)
    (request : DecisionRequest) (evaluatedAt : IsoDateTime)
    (versionPins : DecisionRuntimeVersionPins) (a : Admission) : DecisionContext :=
  let context (decision : DecisionValue) (reasonCode : String) (path : RelationshipTraversalPath)
      (guard : DecisionTraversalGuard) (constraints : Option PolicyCaveats) : DecisionContext :=
    ⟨request, evaluatedAt, versionPins, a.scope.tenantId, a.scope.resourceClassification,
      reasonCode, decision, path, guard.report, constraints⟩
  let explicitDeny := denySearch H e st request versionPins a
  if 0 < explicitDeny.2.steps.length then
    context .deny "DENY_EXPLICIT_OVERRIDE" explicitDeny.2 explicitDeny.1 none
  else if explicitDeny.1.boundsExceeded.isSome then
    context .deny "DENY_TRAVERSAL_BOUND_EXCEEDED" ⟨[]⟩ explicitDeny.1 none
  else
    let relationshipPath := allowSearch H e st request versionPins a
    if relationshipPath.1.boundsExceeded.isSome then
      context .deny "DENY_TRAVERSAL_BOUND_EXCEEDED" relationshipPath.2 relationshipPath.1 none
    else if relationshipPath.2.steps.length = 0 then
      context .deny "DENY_DEFAULT_NO_RELATIONSHIP_PATH" ⟨[]⟩ relationshipPath.1 none
    else
      match evaluateConditionalRelationshipCaveats H ⟨st, e.policyModel, request, evaluatedAt⟩
          relationshipPath.2.relationships with
      | .deny reasonCode constraints =>
        context .deny reasonCode relationshipPath.2 relationshipPath.1 constraints
      | .allow constraints =>
        context .allow "ALLOW_VIA_RELATIONSHIP_PATH" relationshipPath.2 relationshipPath.1
          constraints

/-- mirrors packages/core/src/engine.ts:196-347 -/
def buildDecisionContext (H : Host) (e : RebacDecisionEngine) (st : InMemoryRebacStore)
    (request : DecisionRequest) (evaluatedAt : IsoDateTime)
    (versionPins : DecisionRuntimeVersionPins) : DecisionContext :=
  match admitRequest H st request evaluatedAt versionPins with
  | .error r =>
    ⟨request, evaluatedAt, r.versionPins, r.scope.tenantId, r.scope.resourceClassification,
      r.reasonCode, .deny, ⟨[]⟩, (initialGuard e st request).report, none⟩
  | .ok a => decidePaths H e st request evaluatedAt versionPins a

/-- The decision of `check` and `explain`, with the clock read at `evaluatedAt`.
mirrors packages/core/src/engine.ts:150-154 -/
def evaluate (H : Host) (e : RebacDecisionEngine) (st : InMemoryRebacStore)
    (request : DecisionRequest) (evaluatedAt : IsoDateTime) : DecisionContext :=
  buildDecisionContext H e st request evaluatedAt
    (normalizeDecisionRuntimeVersionPins H request e.options evaluatedAt)

/-! ## When a request is allowed -/

section
variable {H : Host} {e : RebacDecisionEngine} {st : InMemoryRebacStore}
  {request : DecisionRequest} {evaluatedAt : IsoDateTime}
  {versionPins : DecisionRuntimeVersionPins}

/-- Everything an allow needs once the request is admitted. -/
structure PathsAllow (H : Host) (e : RebacDecisionEngine) (st : InMemoryRebacStore)
    (request : DecisionRequest) (evaluatedAt : IsoDateTime)
    (versionPins : DecisionRuntimeVersionPins) (a : Admission) : Prop where
  noDeny : (denySearch H e st request versionPins a).2.relationships = []
  denyWithin : (denySearch H e st request versionPins a).1.boundsExceeded = none
  allowWithin : (allowSearch H e st request versionPins a).1.boundsExceeded = none
  path : (allowSearch H e st request versionPins a).2.relationships ≠ []
  caveats : (evaluateConditionalRelationshipCaveats H ⟨st, e.policyModel, request, evaluatedAt⟩
    (allowSearch H e st request versionPins a).2.relationships).allows = true

theorem steps_length (p : RelationshipTraversalPath) :
    p.steps.length = p.relationships.length := by
  simp [RelationshipTraversalPath.steps]

theorem decidePaths_allow_iff {a : Admission} :
    (decidePaths H e st request evaluatedAt versionPins a).decision = .allow ↔
      PathsAllow H e st request evaluatedAt versionPins a := by
  unfold decidePaths
  simp only [steps_length, List.length_pos_iff, List.length_eq_zero_iff]
  split
  · rename_i hd
    exact ⟨nofun, fun h => absurd h.noDeny hd⟩
  rename_i hd
  split
  · rename_i hb
    exact ⟨nofun, fun h => by rw [h.denyWithin] at hb; cases hb⟩
  rename_i hb
  split
  · rename_i hb'
    exact ⟨nofun, fun h => by rw [h.allowWithin] at hb'; cases hb'⟩
  rename_i hb'
  split
  · rename_i hp
    exact ⟨nofun, fun h => absurd hp h.path⟩
  rename_i hp
  split
  · rename_i hc
    exact ⟨nofun, fun h => by have := h.caveats; rw [hc] at this; cases this⟩
  · rename_i hc
    refine ⟨fun _ => ⟨by simpa using hd, by simpa using hb, by simpa using hb', hp, ?_⟩,
      fun _ => rfl⟩
    rw [hc]
    rfl

/-- **When a request is allowed.** -/
theorem decision_allow_iff :
    (buildDecisionContext H e st request evaluatedAt versionPins).decision = .allow ↔
      ∃ a, admitRequest H st request evaluatedAt versionPins = .ok a ∧
        PathsAllow H e st request evaluatedAt versionPins a := by
  unfold buildDecisionContext
  cases admitRequest H st request evaluatedAt versionPins with
  | error r => simp
  | ok a => simp only [Except.ok.injEq, exists_eq_left', decidePaths_allow_iff]

theorem decidePaths_of_allow {a : Admission}
    (h : PathsAllow H e st request evaluatedAt versionPins a) :
    (decidePaths H e st request evaluatedAt versionPins a).path =
        (allowSearch H e st request versionPins a).2 ∧
      (decidePaths H e st request evaluatedAt versionPins a).traversal =
        (allowSearch H e st request versionPins a).1.report := by
  obtain ⟨hd, hb, hb', hp, hc⟩ := h
  unfold decidePaths
  simp only [steps_length, List.length_pos_iff, List.length_eq_zero_iff, hd, hb, hb', hp,
    ne_eq, not_true_eq_false, if_false, Option.isSome_none, Bool.false_eq_true]
  split
  · rename_i hc'
    rw [hc'] at hc
    cases hc
  · exact ⟨rfl, rfl⟩

/-- A decision whose report records no exceeded bound found a deny path, or
ran both searches within the bounds. -/
theorem decidePaths_within {a : Admission}
    (h : (decidePaths H e st request evaluatedAt versionPins a).traversal.boundsExceeded = none) :
    (denySearch H e st request versionPins a).2.relationships ≠ [] ∨
      ((denySearch H e st request versionPins a).1.boundsExceeded = none ∧
        (allowSearch H e st request versionPins a).1.boundsExceeded = none) := by
  unfold decidePaths at h
  simp only [steps_length, List.length_pos_iff, List.length_eq_zero_iff] at h
  split at h
  · rename_i hd
    exact .inl hd
  split at h
  · rename_i hb
    rw [show (denySearch H e st request versionPins a).1.boundsExceeded = none from h] at hb
    cases hb
  rename_i hb
  refine .inr ⟨by simpa using hb, ?_⟩
  split at h
  · exact h
  split at h
  · exact h
  split at h <;> exact h

/-- **Fail closed.** A decision whose report records an exceeded bound is
deny. -/
theorem decision_deny_of_exceeded
    (h : (buildDecisionContext H e st request evaluatedAt
      versionPins).traversal.boundsExceeded ≠ none) :
    (buildDecisionContext H e st request evaluatedAt versionPins).decision = .deny := by
  cases hd : (buildDecisionContext H e st request evaluatedAt versionPins).decision with
  | deny => rfl
  | allow =>
    obtain ⟨a, ha, hp⟩ := decision_allow_iff.1 hd
    simp only [buildDecisionContext, ha, (decidePaths_of_allow hp).2] at h
    exact absurd hp.allowWithin h

end

end AccessKit.L4
