import AccessKit.L2Graph.Fixtures
import AccessKit.L4Engine.Scene

/-!
# Classification constraints are validated and never applied

Status: open. `validatePolicyModel` requires every policy model to declare
classification constraints and checks the actions they allow
(packages/core/src/policy-model.ts:521-536), and the generated policy tests
expect a request outside them to be denied with DENY_CLASSIFICATION_BOUNDARY
(scripts/lib/generated-policy-tests.ts:632-666, 734-753;
tests/automation/generated-policy-tests.test.ts:98-128). The engine
(packages/core/src/engine.ts:196-347) reads the grant, traversal and deny
relations of the compiled model and nothing else of it but the caveats: no
decision looks at the classification constraints.

Counterexample: the default model with `confidential` restricted to `read` and
`view`; a contributor of the workspace may write a confidential document in it
(`write_confidential_allowed`).

Exact condition: the constraints are respected, in every store, exactly when
no direct grant can be given that breaks one: whatever the engine can reach
by memberships and containments, it can reach by a grant on the resource
itself (`classification_enforced_iff`). For a model without conditional
relationships that means that every constraint lists every declared action
(`grantsWithinConstraints_iff`).
-/
namespace AccessKit.Bugs.ClassificationConstraints
open AccessKit.Core AccessKit.L1 AccessKit.L2.Store AccessKit.L2.Fixtures AccessKit.L3 AccessKit.L4

/-- The constraint lists the action, up to letter case. -/
def ListsAction (H : Host) (κ : PolicyModelClassificationConstraint) (action : String) : Prop :=
  ∃ a ∈ κ.allowedActions, toLowerCase H a = toLowerCase H action

/-- An allowed request respects every constraint for the classification of its
resource. -/
def ClassificationRespected (H : Host) (options : DecisionEngineOptions)
    (st : InMemoryRebacStore) (request : DecisionRequest) (evaluatedAt : IsoDateTime) : Prop :=
  (evaluate H (.new H options) st request evaluatedAt).decision = .allow →
    ∀ resource, st.getResource request.resourceId = some resource →
    ∀ κ ∈ (RebacDecisionEngine.new H options).policyModel.classificationConstraints,
      κ.classification = resource.classification → ListsAction H κ request.action

/-- Every engine for the model respects the constraints, on every store and
every request. -/
def ClassificationEnforced (H : Host) (model : PolicyModel) : Prop :=
  ∀ options, (RebacDecisionEngine.new H options).policyModel = model →
    ∀ st request evaluatedAt, ClassificationRespected H options st request evaluatedAt

/-- No direct grant whose caveats pass breaks a constraint. -/
def GrantsWithinConstraints (H : Host) (model : PolicyModel) : Prop :=
  ∀ (sc : Scene H) (g : RelationshipTuple), sc.Fits g →
    g.relation ∈ (compilePolicyModel H model).grants (toLowerCase H sc.request.action) →
    stepPasses H (sc.caveatInput model) g = true →
    ∀ κ ∈ model.classificationConstraints, κ.classification = sc.resource.classification →
      ListsAction H κ sc.request.action

/-! ## The counterexample -/

/-- The default model, with nothing but reading allowed on confidential
resources. -/
def readOnlyConfidential : PolicyModel :=
  { createDefaultPolicyModel with
    classificationConstraints :=
      [⟨"internal", defaultActionNames⟩, ⟨"confidential", ["read", "view"]⟩] }

/-- The local graph with a confidential case plan. -/
def confidentialStore : InMemoryRebacStore :=
  localStore.upsertResource { casePlan with classification := "confidential" }

/-- **Counterexample**: the model is valid, and writing the confidential plan
is allowed. -/
theorem write_confidential_allowed :
    (validatePolicyModel plainHost readOnlyConfidential).valid = true ∧
    ¬ ClassificationRespected plainHost { policyModel := some readOnlyConfidential }
      confidentialStore writePlan timestamp ∧
    ¬ ClassificationEnforced plainHost readOnlyConfidential := by
  have hbroken : ¬ ClassificationRespected plainHost { policyModel := some readOnlyConfidential }
      confidentialStore writePlan timestamp := by
    intro h
    obtain ⟨a, ha, hl⟩ := h (by decide +kernel) { casePlan with classification := "confidential" }
      rfl ⟨"confidential", ["read", "view"]⟩
      (List.mem_cons_of_mem _ (List.mem_singleton_self _)) rfl
    have hne : ∀ a ∈ ["read", "view"], toLowerCase plainHost a ≠ "write" := by decide
    exact hne a ha hl
  exact ⟨by decide, hbroken, fun h => hbroken (h _ rfl _ _ _)⟩

/-! ## When the constraints are respected -/

section
variable {H : Host} {model : PolicyModel}

/-- **When the constraints are respected**: exactly when no direct grant can
break one. -/
theorem classification_enforced_iff (H : Host) (model : PolicyModel)
    (hvalid : (validatePolicyModel H model).valid = true) :
    ClassificationEnforced H model ↔ GrantsWithinConstraints H model := by
  have hnames := relationNames_nodup hvalid
  constructor
  · intro h sc g hfit hg hc κ hκ hclass
    refine h (Scene.engineFor model) rfl (sc.store (sc.direct g)) sc.request sc.evaluatedAt
      (Scene.direct_allowed hnames hfit hg hc) sc.resource ?_ κ hκ hclass
    exact sc.getResource_self _
  · rintro h options rfl st request evaluatedAt hallow resource hres κ hκ hclass
    obtain ⟨a, hadm, -, hw, hpass⟩ := allow_path hallow
    -- the path has a grant, and the grant could have been a direct one
    obtain ⟨g, hmem, hg⟩ := allowWalk_grant hw
    have hu := (allowSpace_overGraph H _).goalWalk_usable hw g hmem
    have hr : resource = a.resource := by
      have := (Option.filter_eq_some_iff.1 hadm.resource).1
      rw [hres] at this
      exact Option.some.inj this
    refine h (Scene.ofAdmissible hadm) g (Scene.fits_of_usable hadm hu) hg ?_ κ hκ
      (hclass.trans (congrArg Resource.classification hr))
    rw [← Scene.stepPasses_ofAdmissible hadm]
    exact hpass g hmem

/-- Without conditional relationships every declared action can be granted on
every classification, so that the constraints have to list them all. -/
theorem grantsWithinConstraints_iff (H : Host) (model : PolicyModel)
    (hvalid : (validatePolicyModel H model).valid = true)
    (hplain : model.conditionalRelationships.getD [] = []) :
    GrantsWithinConstraints H model ↔
      ∀ κ ∈ model.classificationConstraints, ∀ a ∈ model.actions, ListsAction H κ a.name := by
  constructor
  · intro h κ hκ a ha
    obtain ⟨g, hg⟩ := grants_nonempty hvalid ha
    exact h (Scene.fixture H κ.classification a.name none) _
      (Scene.fits_fixture H κ.classification a.name none g) hg
      (stepPasses_of_unconditional hplain _) κ hκ rfl
  · intro h sc g _ hg _ κ hκ _
    obtain ⟨-, a, ha, hkey, -⟩ := mem_grants.1 hg
    obtain ⟨b, hb, hkey'⟩ := h κ hκ a ha
    exact ⟨b, hb, hkey'.trans hkey⟩

/-- The condition tells the models apart: the default one respects its
constraints, the one above does not. -/
theorem default_enforced : ClassificationEnforced plainHost createDefaultPolicyModel :=
  (classification_enforced_iff plainHost createDefaultPolicyModel (by decide)).2
    ((grantsWithinConstraints_iff plainHost createDefaultPolicyModel (by decide) rfl).2
      (by unfold ListsAction; decide))

end

end AccessKit.Bugs.ClassificationConstraints
