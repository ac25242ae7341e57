import AccessKit.L4Engine.Agreement
import AccessKit.L4Engine.Scene

/-!
# Caveats are bypassed by the spelling of the action

Status: open. Both searches look an action up under its lower case
(packages/core/src/engine.ts:677, 765; packages/core/src/policy-model.ts:282,
298, 316), and the caveats are selected by `conditional.actions.includes`
(packages/core/src/engine.ts:437-439) on the action as the request spells it.
A request in another letter case finds the same grants and none of the
caveats that are scoped to the action.

Counterexample: the default model with a caveat on `contributor_to` for
`write`. Alice's request to `write` the case plan is denied, her request to
`WRITE` it is allowed (`write_in_capitals_bypasses`).

Exact condition: no tuple that carries an action passes the caveats of one
spelling of it and fails those of another (`caveats_enforced_iff`). That is
so in particular when every conditional relationship that names an action up
to letter case names the requested spelling (`nothingOverlooked_of_exact`).
-/
namespace AccessKit.Bugs.CaveatSpelling
open AccessKit.Core AccessKit.L1 AccessKit.L2.Store AccessKit.L2.Fixtures AccessKit.L3 AccessKit.L4

/-- The conditional relationship applies to the action in some spelling, as
the engine selects relations. -/
def NamesFolded (H : Host) (c : PolicyModelConditionalRelationship) (action : String) : Prop :=
  match c.actions with
  | none => True
  | some actions => ∃ a ∈ actions, toLowerCase H a = toLowerCase H action

/-- The conditional relationships of a tuple's relation, for the requested
action in whatever spelling, are satisfied by the tuple. -/
def Satisfied (H : Host) (inp : CaveatInput) (r : RelationshipTuple) : Prop :=
  ∀ c ∈ inp.policyModel.conditionalRelationships.getD [], c.relation = r.relation →
    NamesFolded H c inp.request.action → ∀ name ∈ c.caveats, caveatPasses H inp r name = true

/-- An allow satisfies the caveats of its whole path. -/
def PathSatisfied (H : Host) (options : DecisionEngineOptions) (st : InMemoryRebacStore)
    (request : DecisionRequest) (evaluatedAt : IsoDateTime) : Prop :=
  (evaluate H (.new H options) st request evaluatedAt).decision = .allow →
    ∀ r ∈ (evaluate H (.new H options) st request evaluatedAt).path.relationships,
      Satisfied H ⟨st, (RebacDecisionEngine.new H options).policyModel, request, evaluatedAt⟩ r

/-- The decision is the same in every spelling of the action. -/
def SpellingBlind (H : Host) (options : DecisionEngineOptions) (st : InMemoryRebacStore)
    (request : DecisionRequest) (evaluatedAt : IsoDateTime) : Prop :=
  ∀ action, toLowerCase H action = toLowerCase H request.action →
    (evaluate H (.new H options) st { request with action := action } evaluatedAt).decision =
      (evaluate H (.new H options) st request evaluatedAt).decision

/-- Every engine for the model, on every store and every request, satisfies
the caveats and decides alike in every spelling. -/
def CaveatsEnforced (H : Host) (model : PolicyModel) : Prop :=
  ∀ options, (RebacDecisionEngine.new H options).policyModel = model →
    ∀ st request evaluatedAt, PathSatisfied H options st request evaluatedAt ∧
      SpellingBlind H options st request evaluatedAt

/-- A tuple that carries the action and passes the caveats of the requested
spelling, next to a grant that does, satisfies the conditional relationships
that name the action in another spelling only. -/
def NothingOverlooked (H : Host) (model : PolicyModel) : Prop :=
  ∀ (sc : Scene H) (r g : RelationshipTuple), sc.Fits r → sc.Fits g →
    Carries (compilePolicyModel H model) sc.actionKey r.relation →
    g.relation ∈ (compilePolicyModel H model).grants sc.actionKey →
    stepPasses H (sc.caveatInput model) r = true →
    stepPasses H (sc.caveatInput model) g = true →
    ∀ c ∈ model.conditionalRelationships.getD [], c.relation = r.relation →
      NamesFolded H c sc.request.action → NamesExactly c sc.request.action = false →
      ∀ name ∈ c.caveats, caveatPasses H (sc.caveatInput model) r name = true

/-! ## The counterexample -/

/-- The default model, where contributing counts for `write` only on tuples
that were approved. -/
def approvedWrites : PolicyModel :=
  { createDefaultPolicyModel with
    caveats := some [⟨"approved_only", true, "DENY_NOT_APPROVED",
      [⟨.relationship, "approved", .boolean, .equals, .bool true⟩]⟩]
    conditionalRelationships := some [⟨"contributor_to", ["approved_only"], some ["write"]⟩] }

/-- **Counterexample**: `WRITE` is allowed through a tuple that was not
approved, `write` is denied. -/
theorem write_in_capitals_bypasses :
    (validatePolicyModel plainHost approvedWrites).valid = true ∧
    ¬ PathSatisfied plainHost { policyModel := some approvedWrites } localStore writePlan
      timestamp ∧
    ¬ SpellingBlind plainHost { policyModel := some approvedWrites } localStore writePlan
      timestamp ∧
    ¬ CaveatsEnforced plainHost approvedWrites := by
  have hblind : ¬ SpellingBlind plainHost { policyModel := some approvedWrites } localStore
      writePlan timestamp := by
    intro h
    exact absurd (h "write" (by decide)) (by decide +kernel)
  refine ⟨by decide, ?_, hblind, fun h => hblind (h _ rfl _ _ _).2⟩
  intro h
  have hpath : caseTeamWorkspace ∈ (evaluate plainHost
      (.new plainHost { policyModel := some approvedWrites }) localStore writePlan
      timestamp).path.relationships := List.mem_of_getElem? (i := 1) rfl
  have hfails := h (by decide +kernel) caseTeamWorkspace hpath
    ⟨"contributor_to", ["approved_only"], some ["write"]⟩ (List.mem_singleton_self _) rfl
    ⟨"write", List.mem_singleton_self _, by decide⟩ "approved_only" (List.mem_singleton_self _)
  exact absurd hfails (by decide +kernel)

/-! ## When the caveats are enforced -/

section
variable {H : Host} {model : PolicyModel}

theorem namesFolded_of_exact {c : PolicyModelConditionalRelationship} {action action' : String}
    (h : NamesExactly c action = true) (hkey : toLowerCase H action = toLowerCase H action') :
    NamesFolded H c action' := by
  unfold NamesExactly at h
  unfold NamesFolded
  split
  · trivial
  · rename_i actions hact
    rw [hact] at h
    exact ⟨action, by simpa using h, hkey⟩

/-- What the engine tests and what it overlooks make up what the caveats ask
for. -/
theorem satisfied_of_step {inp : CaveatInput} {r : RelationshipTuple}
    (h : stepPasses H inp r = true)
    (hrest : ∀ c ∈ inp.policyModel.conditionalRelationships.getD [], c.relation = r.relation →
      NamesFolded H c inp.request.action → NamesExactly c inp.request.action = false →
      ∀ name ∈ c.caveats, caveatPasses H inp r name = true) : Satisfied H inp r := by
  intro c hc hrel hfold
  cases hex : NamesExactly c inp.request.action with
  | true => exact caveatPasses_of_step h hc hrel hex
  | false => exact hrest c hc hrel hfold hex

/-- In a valid model a tuple that satisfies its caveats passes in every
spelling. -/
theorem step_of_satisfied (hvalid : (validatePolicyModel H model).valid = true)
    {st : InMemoryRebacStore} {request : DecisionRequest} {evaluatedAt : IsoDateTime}
    {r : RelationshipTuple} (h : Satisfied H ⟨st, model, request, evaluatedAt⟩ r) {action : String}
    (hkey : toLowerCase H action = toLowerCase H request.action) :
    stepPasses H ⟨st, model, { request with action := action }, evaluatedAt⟩ r = true := by
  refine stepPasses_of_caveats ?_ fun c hc hrel hact => ?_
  · rw [matchingConditionals_eq]
    exact matching_le_one hvalid r.relation action
  · exact h c hc hrel (namesFolded_of_exact hact hkey)

theorem allow_in_every_spelling (hvalid : (validatePolicyModel H model).valid = true)
    {options : DecisionEngineOptions} (hm : (RebacDecisionEngine.new H options).policyModel = model)
    {st : InMemoryRebacStore} {request : DecisionRequest} {evaluatedAt : IsoDateTime}
    (hsat : PathSatisfied H options st request evaluatedAt)
    (hallow : (evaluate H (.new H options) st request evaluatedAt).decision = .allow)
    {action : String} (hkey : toLowerCase H action = toLowerCase H request.action) :
    (evaluate H (.new H options) st { request with action := action } evaluatedAt).decision =
      .allow := by
  subst hm
  have hpath := hsat hallow
  obtain ⟨a, ha, hp⟩ := decision_allow_iff.1 hallow
  simp only [evaluate, buildDecisionContext, ha, (decidePaths_of_allow hp).1] at hpath
  exact decision_allow_iff.2 ⟨a, ha, hp.acting hkey fun r hr =>
    step_of_satisfied hvalid (hpath r hr) hkey⟩

theorem pathSatisfied_of_nothingOverlooked (h : NothingOverlooked H model)
    {options : DecisionEngineOptions} (hm : (RebacDecisionEngine.new H options).policyModel = model)
    (st : InMemoryRebacStore) (request : DecisionRequest) (evaluatedAt : IsoDateTime) :
    PathSatisfied H options st request evaluatedAt := by
  subst hm
  intro hallow r hr
  obtain ⟨a, hadm, -, hw, hpass⟩ := allow_path hallow
  obtain ⟨g, hg, hgrant⟩ := allowWalk_grant hw
  have hu := (allowSpace_overGraph H _).goalWalk_usable hw
  refine satisfied_of_step (hpass r hr) fun c hc hrel hfold hex name hname => ?_
  rw [Scene.caveatPasses_ofAdmissible hadm]
  refine h (Scene.ofAdmissible hadm) r g (Scene.fits_of_usable hadm (hu r hr))
    (Scene.fits_of_usable hadm (hu g hg)) (allowWalk_carries hw r hr) hgrant ?_ ?_ c hc hrel hfold
    hex name hname
  · rw [← Scene.stepPasses_ofAdmissible hadm]
    exact hpass r hr
  · rw [← Scene.stepPasses_ofAdmissible hadm]
    exact hpass g hg

/-- **When the caveats are enforced**: exactly when no tuple that carries an
action passes in one spelling and fails in another. -/
theorem caveats_enforced_iff (H : Host) (model : PolicyModel)
    (hvalid : (validatePolicyModel H model).valid = true) :
    CaveatsEnforced H model ↔ NothingOverlooked H model := by
  have hnames := relationNames_nodup hvalid
  constructor
  · intro h sc r g hr hg hcarry hgrant hpr hpg c hc hrel hfold _ name hname
    obtain ⟨tuples, hdec⟩ := sc.exists_decisive hr hg hcarry hgrant
    have hpass : ∀ t ∈ tuples, stepPasses H (sc.caveatInput model) t = true := by
      intro t ht
      obtain ⟨id, a, b, rfl | rfl⟩ := hdec.madeOf t ht
      · exact hpr
      · exact hpg
    have hallow := Scene.allow_of hnames hdec.small
      (Scene.not_denyReachable_of_madeOf hnames hdec.madeOf hcarry hgrant) hdec.reachable hpass
    -- the tuple is on the path, wherever the search found it
    obtain ⟨-, hw, -⟩ := sc.walks_of_allow hallow
    obtain ⟨id, a, b, hmem⟩ := hdec.uses _ hw
    have hsat := (h (Scene.engineFor model) rfl (sc.store tuples) sc.request sc.evaluatedAt).1
      hallow _ hmem c hc hrel hfold name hname
    exact (congrFun (sc.caveatPasses_store tuples _) name).symm.trans hsat
  · intro h options hm st request evaluatedAt
    have hsat := pathSatisfied_of_nothingOverlooked h hm st
    refine ⟨hsat request evaluatedAt, fun action hkey => decisionValue_ext ⟨fun hallow => ?_,
      fun hallow => ?_⟩⟩
    · exact allow_in_every_spelling hvalid hm (hsat _ evaluatedAt) hallow hkey.symm
    · exact allow_in_every_spelling hvalid hm (hsat request evaluatedAt) hallow hkey

/-- Nothing is overlooked when every conditional relationship that names an
action up to letter case names it in every spelling that is asked for. -/
theorem nothingOverlooked_of_exact
    (h : ∀ c ∈ model.conditionalRelationships.getD [], ∀ action, NamesFolded H c action →
      NamesExactly c action = true) : NothingOverlooked H model := by
  intro sc r g _ _ _ _ _ _ c hc _ hfold hex
  rw [h c hc _ hfold] at hex
  cases hex

/-- The condition tells the models apart: the same caveat without a list of
actions is enforced. -/
theorem unscoped_enforced : CaveatsEnforced plainHost
    { approvedWrites with
      conditionalRelationships := some [⟨"contributor_to", ["approved_only"], none⟩] } :=
  (caveats_enforced_iff plainHost _ (by decide)).2 (nothingOverlooked_of_exact
    fun c hc action _ => by
      obtain rfl : c = ⟨"contributor_to", ["approved_only"], none⟩ := List.mem_singleton.1 hc
      rfl)

end

end AccessKit.Bugs.CaveatSpelling
