import AccessKit.L2Graph.Writes
import AccessKit.L4Engine.Reachability

/-!
# When two engines decide alike

Two engines, over two stores, decide a request alike when they admit the same
nodes, no bound is exceeded in either run, and their searches look alike from
the requesting subject on: what a search returns depends on the live edges
only, that is on the tuples that can end a walk or lead it on.

Results:
* `decision_congr`: the rule for two whole decisions.
* `PathsAllow.acting`: two spellings of one action differ in the caveats only.
* `SameRoles.searches`: two models that give the relations of an action the
  same roles search every graph alike.
* `SameGraph.denyReachable`, `SameGraph.allowReachable`: what is within reach
  does not depend on the order in which the graph is listed.
* `decision_of_versions`: no decision depends on the versions an engine is
  labelled with.
-/
namespace AccessKit.L4
open AccessKit.Core AccessKit.L1 AccessKit.L2.Store AccessKit.L3

section
variable {H : Host} {options options' : DecisionEngineOptions} {st st' : InMemoryRebacStore}
  {request : DecisionRequest} {evaluatedAt : IsoDateTime}
  {versionPins : DecisionRuntimeVersionPins} {a : Admission}

/-- Two decisions are the same when one is allow iff the other is. -/
theorem decisionValue_ext {d d' : DecisionValue} (h : d = .allow ↔ d' = .allow) : d = d' := by
  cases d <;> cases d' <;> simp_all

/-- No bound was exceeded in the decision's deny search, whether it found a
path or not. -/
theorem denySearch_within
    (hb : (decidePaths H (.new H options) st request evaluatedAt
      versionPins a).traversal.boundsExceeded = none) :
    (denySearch H (.new H options) st request versionPins a).1.boundsExceeded = none := by
  rcases decidePaths_within hb with hd | hd
  · by_contra hne
    exact hd (denySearch_spec.refused hne)
  · exact hd.1

/-- The two runs search alike and judge the paths they find alike. -/
structure SearchAlike (H : Host) (options options' : DecisionEngineOptions)
    (st st' : InMemoryRebacStore) (request : DecisionRequest) (evaluatedAt : IsoDateTime)
    (versionPins : DecisionRuntimeVersionPins) (a : Admission) : Prop where
  deny : Space.Alike
    (denySpace H (traversalInput (.new H options) st request versionPins a)).live
    (denySpace H (traversalInput (.new H options') st' request versionPins a)).live
    request.subjectId
  allow : Space.Alike
    (allowSpace H (traversalInput (.new H options) st request versionPins a)).live
    (allowSpace H (traversalInput (.new H options') st' request versionPins a)).live
    ⟨request.subjectId, false⟩
  caveats : ∀ path, (evaluateConditionalRelationshipCaveats H
      ⟨st, (RebacDecisionEngine.new H options).policyModel, request, evaluatedAt⟩ path).allows =
    (evaluateConditionalRelationshipCaveats H
      ⟨st', (RebacDecisionEngine.new H options').policyModel, request, evaluatedAt⟩ path).allows

theorem SearchAlike.denySearch_eq
    (h : SearchAlike H options options' st st' request evaluatedAt versionPins a)
    (hok : (denySearch H (.new H options) st request versionPins a).1.boundsExceeded = none)
    (hok' : (denySearch H (.new H options') st' request versionPins a).1.boundsExceeded = none) :
    (denySearch H (.new H options) st request versionPins a).2 =
      (denySearch H (.new H options') st' request versionPins a).2 := by
  unfold denySearch at hok hok' ⊢
  exact findDenyPath_congr (i := traversalInput (.new H options) st request versionPins a)
    (j := traversalInput (.new H options') st' request versionPins a) rfl h.deny hok hok'

theorem SearchAlike.allowSearch_eq
    (h : SearchAlike H options options' st st' request evaluatedAt versionPins a)
    (hok : (allowSearch H (.new H options) st request versionPins a).1.boundsExceeded = none)
    (hok' : (allowSearch H (.new H options') st' request versionPins a).1.boundsExceeded = none) :
    (allowSearch H (.new H options) st request versionPins a).2 =
      (allowSearch H (.new H options') st' request versionPins a).2 := by
  unfold allowSearch at hok hok' ⊢
  exact findAllowPath_congr (i := traversalInput (.new H options) st request versionPins a)
    (j := traversalInput (.new H options') st' request versionPins a) rfl h.allow hok hok'

theorem SearchAlike.pathsAllow
    (h : SearchAlike H options options' st st' request evaluatedAt versionPins a)
    (hb' : (decidePaths H (.new H options') st' request evaluatedAt
      versionPins a).traversal.boundsExceeded = none)
    (hp : PathsAllow H (.new H options) st request evaluatedAt versionPins a) :
    PathsAllow H (.new H options') st' request evaluatedAt versionPins a := by
  have hdw' := denySearch_within hb'
  have hdeny := h.denySearch_eq hp.denyWithin hdw'
  have hno' : (denySearch H (.new H options') st' request versionPins a).2.relationships = [] := by
    rw [← hdeny]
    exact hp.noDeny
  obtain ⟨-, haw'⟩ := (decidePaths_within hb').resolve_left fun hne => hne hno'
  have hallow := h.allowSearch_eq hp.allowWithin haw'
  refine ⟨hno', hdw', haw', ?_, ?_⟩
  · rw [← hallow]
    exact hp.path
  · rw [← hallow, ← h.caveats]
    exact hp.caveats

theorem SearchAlike.symm
    (h : SearchAlike H options options' st st' request evaluatedAt versionPins a) :
    SearchAlike H options' options st' st request evaluatedAt versionPins a :=
  ⟨h.deny.symm, h.allow.symm, fun path => (h.caveats path).symm⟩

/-- An allow is an allow under any engine that finds the same paths, if the
one found passes. -/
theorem PathsAllow.of_searches {e e' : RebacDecisionEngine} {st : InMemoryRebacStore}
    {versionPins versionPins' : DecisionRuntimeVersionPins}
    (h : PathsAllow H e st request evaluatedAt versionPins a)
    (hd : denySearch H e st request versionPins a = denySearch H e' st request versionPins' a)
    (ha : allowSearch H e st request versionPins a = allowSearch H e' st request versionPins' a)
    (hc : ∀ r ∈ (allowSearch H e st request versionPins a).2.relationships,
      stepPasses H ⟨st, e'.policyModel, request, evaluatedAt⟩ r = true) :
    PathsAllow H e' st request evaluatedAt versionPins' a where
  noDeny := by
    rw [← hd]
    exact h.noDeny
  denyWithin := by
    rw [← hd]
    exact h.denyWithin
  allowWithin := by
    rw [← ha]
    exact h.allowWithin
  path := by
    rw [← ha]
    exact h.path
  caveats := by
    rw [← ha]
    exact caveats_allow_iff.2 hc

/-- **Agreement.** Two engines that admit the same nodes and search alike give
the same decision, when no bound is exceeded in either run. -/
theorem decision_congr
    (hadm : admitRequest H st request evaluatedAt versionPins =
      admitRequest H st' request evaluatedAt versionPins)
    (hsearch : ∀ a, admitRequest H st request evaluatedAt versionPins = .ok a →
      SearchAlike H options options' st st' request evaluatedAt versionPins a)
    (hb : (buildDecisionContext H (.new H options) st request evaluatedAt
      versionPins).traversal.boundsExceeded = none)
    (hb' : (buildDecisionContext H (.new H options') st' request evaluatedAt
      versionPins).traversal.boundsExceeded = none) :
    (buildDecisionContext H (.new H options) st request evaluatedAt versionPins).decision =
      (buildDecisionContext H (.new H options') st' request evaluatedAt versionPins).decision := by
  unfold buildDecisionContext at hb hb' ⊢
  rw [← hadm] at hb' ⊢
  cases ha : admitRequest H st request evaluatedAt versionPins with
  | error r => rfl
  | ok a =>
    rw [ha] at hb hb'
    have hs := hsearch a ha
    have hiff : (decidePaths H (.new H options) st request evaluatedAt versionPins a).decision =
          .allow ↔
        (decidePaths H (.new H options') st' request evaluatedAt versionPins a).decision =
          .allow := by
      rw [decidePaths_allow_iff, decidePaths_allow_iff]
      exact ⟨hs.pathsAllow hb', hs.symm.pathsAllow hb⟩
    exact decisionValue_ext hiff

/-! ## One request in two spellings -/

theorem denySearch_action {e : RebacDecisionEngine} {action : String}
    (hkey : toLowerCase H action = toLowerCase H request.action) :
    denySearch H e st { request with action := action } versionPins a =
      denySearch H e st request versionPins a :=
  congrFun (findDenyPath_action (i := traversalInput e st request versionPins a) hkey) _

theorem allowSearch_action {e : RebacDecisionEngine} {action : String}
    (hkey : toLowerCase H action = toLowerCase H request.action) :
    allowSearch H e st { request with action := action } versionPins a =
      allowSearch H e st request versionPins a := by
  have h := findAllowPath_action (i := traversalInput e st request versionPins a) hkey
  unfold allowSearch
  rw [denySearch_action hkey]
  exact congrFun h _

/-- Between two spellings of the action only the caveats can tell. -/
theorem PathsAllow.acting {e : RebacDecisionEngine}
    (h : PathsAllow H e st request evaluatedAt versionPins a) {action : String}
    (hkey : toLowerCase H action = toLowerCase H request.action)
    (hc : ∀ r ∈ (allowSearch H e st request versionPins a).2.relationships,
      stepPasses H ⟨st, e.policyModel, { request with action := action }, evaluatedAt⟩ r = true) :
    PathsAllow H e st { request with action := action } evaluatedAt versionPins a := by
  refine ⟨?_, ?_, ?_, ?_, ?_⟩
  · rw [denySearch_action hkey]
    exact h.noDeny
  · rw [denySearch_action hkey]
    exact h.denyWithin
  · rw [allowSearch_action hkey]
    exact h.allowWithin
  · rw [allowSearch_action hkey]
    exact h.path
  · rw [allowSearch_action hkey]
    exact caveats_allow_iff.2 hc

end

/-! ## One graph under two models -/

/-- Two compiled models give the relations of an action the same roles. -/
structure SameRoles (c c' : CompiledPolicyModel) (actionKey : String) : Prop where
  grants : c.grants actionKey = c'.grants actionKey
  memberships : ∀ r, (r ∈ c.membershipRelations ∧ r ∈ c.traversals actionKey) ↔
    (r ∈ c'.membershipRelations ∧ r ∈ c'.traversals actionKey)
  containments : ∀ r, (r ∈ c.containmentRelations ∧ r ∈ c.traversals actionKey) ↔
    (r ∈ c'.containmentRelations ∧ r ∈ c'.traversals actionKey)
  denies : c.denies actionKey = c'.denies actionKey
  denyMemberships : c.membershipRelations = c'.membershipRelations

theorem SameRoles.carries {c c' : CompiledPolicyModel} {actionKey : String}
    (h : SameRoles c c' actionKey) (r : String) :
    Carries c actionKey r ↔ Carries c' actionKey r := by
  unfold Carries
  rw [h.grants, or_and_right, or_and_right, h.memberships, h.containments]

/-- The same search under another model. -/
def TraversalInput.under (i : TraversalInput) (c : CompiledPolicyModel) : TraversalInput :=
  { i with compiledPolicyModel := c }

section
variable {H : Host} {i : TraversalInput} {c : CompiledPolicyModel}

theorem SameRoles.denySpace (h : SameRoles c i.compiledPolicyModel (i.actionKey H)) :
    L4.denySpace H (i.under c) = L4.denySpace H i := by
  have hd : (i.under c).denyRelations H = i.denyRelations H := h.denies
  have hm : canTraverseDenyRelationship (i.under c).compiledPolicyModel =
      canTraverseDenyRelationship i.compiledPolicyModel := by
    funext r
    simp only [canTraverseDenyRelationship, TraversalInput.under, h.denyMemberships]
  simp only [L4.denySpace, hd, hm]
  rfl

theorem SameRoles.allowSpace (h : SameRoles c i.compiledPolicyModel (i.actionKey H))
    (hk : KindsApart H i) (hk' : KindsApart H (i.under c)) :
    L4.allowSpace H (i.under c) = L4.allowSpace H i := by
  have hg : (i.under c).allowedRelations H = i.allowedRelations H := h.grants
  have hc : ∀ r, (r ∈ (i.under c).compiledPolicyModel.containmentRelations ∧
        r ∈ (i.under c).traversalRelations H) ↔
      (r ∈ i.compiledPolicyModel.containmentRelations ∧ r ∈ i.traversalRelations H) :=
    h.containments
  have hm : ∀ r, (r ∈ (i.under c).compiledPolicyModel.membershipRelations ∧
        r ∈ (i.under c).traversalRelations H) ↔
      (r ∈ i.compiledPolicyModel.membershipRelations ∧ r ∈ i.traversalRelations H) :=
    h.memberships
  have hnext : ∀ (r : RelationshipTuple) (granted : Bool),
      canTraverseRelationship (i.under c).compiledPolicyModel ((i.under c).traversalRelations H) r
          (r.relation ∈ (i.under c).allowedRelations H) granted =
        canTraverseRelationship i.compiledPolicyModel (i.traversalRelations H) r
          (r.relation ∈ i.allowedRelations H) granted := by
    intro r granted
    rw [Bool.eq_iff_iff, canTraverse_iff hk', canTraverse_iff hk, hm, ← and_assoc, hc, hg,
      and_assoc]
  have hgoal : ∀ (r : RelationshipTuple) (granted : Bool),
      (r.relation ∈ (i.under c).compiledPolicyModel.containmentRelations ∧
        r.relation ∈ (i.under c).traversalRelations H ∧ granted = true) ↔
      (r.relation ∈ i.compiledPolicyModel.containmentRelations ∧
        r.relation ∈ i.traversalRelations H ∧ granted = true) := by
    intro r granted
    rw [← and_assoc, hc, and_assoc]
  simp only [hg] at hnext
  simp only [L4.allowSpace, hnext, hgoal, hg]
  rfl

/-- **Same roles, same searches.** -/
theorem SameRoles.searches (h : SameRoles c i.compiledPolicyModel (i.actionKey H))
    (hk : KindsApart H i) (hk' : KindsApart H (i.under c)) :
    findDenyPath H (i.under c) = findDenyPath H i ∧
      findAllowPath H (i.under c) = findAllowPath H i :=
  ⟨findDenyPath_space rfl h.denySpace, findAllowPath_space rfl (h.allowSpace hk hk')⟩

end

/-! ## What a decision is about -/

/-- No search of the decision exceeded a bound. -/
def Within (H : Host) (options : DecisionEngineOptions) (st : InMemoryRebacStore)
    (request : DecisionRequest) (evaluatedAt : IsoDateTime) : Prop :=
  (evaluate H (.new H options) st request evaluatedAt).traversal.boundsExceeded = none

/-- The searches of a request that is admitted. -/
def searchInput (H : Host) (options : DecisionEngineOptions) (st : InMemoryRebacStore)
    (request : DecisionRequest) (evaluatedAt : IsoDateTime) (a : Admission) : TraversalInput :=
  traversalInput (.new H options) st request
    (normalizeDecisionRuntimeVersionPins H request (RebacDecisionEngine.new H options).options
      evaluatedAt) a

/-! ## The versions an engine is labelled with -/

/-- The same engine, without a word on its policy, model, tuple set or context
version. -/
def DecisionEngineOptions.unlabelled (o : DecisionEngineOptions) : DecisionEngineOptions :=
  { o with policyVersion := none, modelVersion := none, relationshipVersion := none,
           contextVersion := none }

theorem decision_of_versions (H : Host) (o : DecisionEngineOptions) (st : InMemoryRebacStore)
    (request : DecisionRequest) (evaluatedAt : IsoDateTime) :
    (evaluate H (.new H o) st request evaluatedAt).decision =
      (evaluate H (.new H o.unlabelled) st request evaluatedAt).decision := by
  refine decisionValue_ext ?_
  unfold evaluate
  rw [decision_allow_iff, decision_allow_iff]
  refine exists_congr fun a => ?_
  rw [admitRequest_eq_ok, admitRequest_eq_ok]
  refine and_congr Iff.rfl ?_
  constructor
  · intro h
    exact ⟨h.noDeny, h.denyWithin, h.allowWithin, h.path, h.caveats⟩
  · intro h
    exact ⟨h.noDeny, h.denyWithin, h.allowWithin, h.path, h.caveats⟩

/-! ## One graph in two orders -/

/-- The same search over another store. -/
def TraversalInput.over (i : TraversalInput) (st : InMemoryRebacStore) : TraversalInput :=
  { i with store := st }

end AccessKit.L4

namespace AccessKit.L2.Store.InMemoryRebacStore.SameGraph
open AccessKit.Core AccessKit.L1 AccessKit.L2.Store AccessKit.L2.Store.InMemoryRebacStore
open AccessKit.L4

variable {H : Host} {st st' : InMemoryRebacStore} {i : TraversalInput}

theorem visibleNode (h : SameGraph st st') : visibleNodeAt H st = visibleNodeAt H st' := by
  unfold visibleNodeAt visibleSubjectAt visibleResourceAt
  rw [h.subject, h.resource]

theorem activeNode (h : SameGraph st st') :
    isActiveGraphNodeAt H st = isActiveGraphNodeAt H st' := by
  unfold isActiveGraphNodeAt visibleSubjectAt visibleResourceAt
  rw [h.subject, h.resource]

theorem admitted (h : SameGraph st st') (request : DecisionRequest) (evaluatedAt : IsoDateTime)
    (versionPins : DecisionRuntimeVersionPins) :
    admitRequest H st request evaluatedAt versionPins =
      admitRequest H st' request evaluatedAt versionPins := by
  unfold admitRequest admitResource visibleSubjectAt visibleResourceAt
  rw [h.subject, h.resource]

theorem usable (h : SameGraph i.store st') {r : RelationshipTuple} (hu : Usable H i r) :
    Usable H (i.over st') r where
  stored := by
    change st'.getRelationship r.id = some r
    rw [← h.tuple]
    exact hu.stored
  active := hu.active
  pinned := hu.pinned
  tenant := by
    have ht := hu.tenant
    unfold relationshipMatchesTenantBoundary at ht ⊢
    rw [h.visibleNode] at ht
    exact ht

theorem passable (h : SameGraph i.store st') {id : CanonicalId} (hp : Passable H i id) :
    Passable H (i.over st') id where
  active := by
    change isActiveGraphNodeAt H st' id i.asOf = true
    rw [← h.activeNode]
    exact hp.active
  ne := hp.ne

theorem denyReachable (h : SameGraph i.store st') (hd : DenyReachable H i) :
    DenyReachable H (i.over st') := by
  have hreach : ∀ id, DenyReach H i id → DenyReach H (i.over st') id := by
    intro id hr
    induction hr with
    | subject => exact .subject
    | membership _ hu hm hp ih => exact .membership ih (h.usable hu) hm (h.passable hp)
  obtain ⟨r, hr, hu, hres, hrel⟩ := hd
  exact ⟨r, hreach _ hr, h.usable hu, hres, hrel⟩

theorem allowReachable (h : SameGraph i.store st') (ha : AllowReachable H i) :
    AllowReachable H (i.over st') := by
  have hreach : ∀ id granted, AllowReach H i id granted → AllowReach H (i.over st') id granted := by
    intro id granted hr
    induction hr with
    | subject => exact .subject
    | membership _ hu hm ht hp ih => exact .membership ih (h.usable hu) hm ht (h.passable hp)
    | grant _ hu hg hp ih => exact .grant ih (h.usable hu) hg (h.passable hp)
    | containment _ hu hc ht hp ih => exact .containment ih (h.usable hu) hc ht (h.passable hp)
  obtain ⟨r, granted, hr, hu, hres, hrel⟩ := ha
  exact ⟨r, granted, hreach _ _ hr, h.usable hu, hres, hrel⟩

end AccessKit.L2.Store.InMemoryRebacStore.SameGraph
