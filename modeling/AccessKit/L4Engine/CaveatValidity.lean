import AccessKit.L2Graph.Fixtures
import AccessKit.L4Engine.Engine

/-!
# Validated caveats at decision time

The evaluation of caveats has a branch for what a model should not contain: a
caveat nobody declared, and two conditional relationships for one relation and
action. It explains both with the status `invalid`
(packages/core/src/engine.ts:447-453, 462-470). `validatePolicyModel` excludes
them, however the action of the request is spelled.

Results:
* `caveatByName_known`: a declared caveat is found, and it is the only one of
  its name.
* `matching_evaluable`: what is evaluated on a tuple is one conditional
  relationship at most, its caveats resolve, and their conditions compare
  operands of the right shape.
* `caveats_not_invalid`: no evaluation explains a caveat as `invalid`.
* `decision_caveats_not_invalid`: no decision does.
-/
namespace AccessKit.L4
open AccessKit.Core AccessKit.L1 AccessKit.L2.Store AccessKit.L2.Fixtures AccessKit.L3

section
variable {H : Host} {inp : CaveatInput}

theorem caveatByName_known {name : String} (h : name ∈ caveatNames inp.policyModel) :
    ∃ caveat ∈ inp.policyModel.caveats.getD [],
      caveat.name = name ∧ inp.caveatByName name = some caveat := by
  obtain ⟨declared, hdeclared, hname⟩ := List.mem_map.1 h
  cases hfind : inp.caveatByName name with
  | none =>
    have := List.find?_eq_none.1 hfind declared (List.mem_reverse.2 hdeclared)
    simp [hname] at this
  | some caveat =>
    exact ⟨caveat, List.mem_reverse.1 (List.mem_of_find?_eq_some hfind),
      by simpa using List.find?_some hfind, rfl⟩

/-- What the condition reads is defined for its source. -/
def SourceHandled (model : PolicyModel) (condition : PolicyModelCaveatCondition) : Prop :=
  match condition.source with
  | .context => ∃ c, contextConstraintFor model condition.key = some c ∧ c.type = condition.type
  | .environment => condition.key = "evaluatedAt" ∧ condition.type = .datetime
  | .subject | .resource | .relationship => True

/-- The caveat of the name is found and its conditions can be evaluated. -/
def CaveatEvaluable (H : Host) (inp : CaveatInput) (name : String) : Prop :=
  ∃ caveat, inp.caveatByName name = some caveat ∧ caveat.name = name ∧
    ∀ condition ∈ caveat.conditions,
      OperandHandled H condition ∧ SourceHandled inp.policyModel condition

/-- One conditional relationship at most is evaluated on the tuple, and all of
its caveats can be. -/
def StepEvaluable (H : Host) (inp : CaveatInput) (r : RelationshipTuple) : Prop :=
  (inp.matchingConditionals r.relation).length ≤ 1 ∧
    ∀ c ∈ inp.matchingConditionals r.relation, ∀ name ∈ c.caveats, CaveatEvaluable H inp name

theorem sourceHandled_of_condition {model : PolicyModel} {caveat : PolicyModelCaveat}
    {condition : PolicyModelCaveatCondition}
    (h : validateCaveatCondition H model caveat condition = none) :
    SourceHandled model condition := by
  obtain ⟨-, -, hcontext, henvironment⟩ := condition_ok h
  unfold SourceHandled
  cases hs : condition.source with
  | context =>
    obtain ⟨c, hc, htype, -⟩ := hcontext hs
    exact ⟨c, hc, htype⟩
  | environment => exact henvironment hs
  | subject | resource | relationship => trivial

/-- **What a validated model evaluates** on a tuple, for an action in any
spelling. -/
theorem matching_evaluable (inp : CaveatInput)
    (h : (validatePolicyModel H inp.policyModel).valid = true) (r : RelationshipTuple) : StepEvaluable H inp r := by
  rw [StepEvaluable, matchingConditionals_eq]
  refine ⟨matching_le_one h r.relation inp.request.action, fun c hc name hname => ?_⟩
  have hreferences := conditionalReferences_ok (conditionals_ok h) c (List.mem_filter.1 hc).1
  obtain ⟨caveat, hcaveat, hn, hfind⟩ :=
    caveatByName_known (conditionalCaveats_known hreferences name hname)
  refine ⟨caveat, hfind, hn, fun condition hcondition => ?_⟩
  have hok := caveatConditions_ok h hcaveat condition hcondition
  exact ⟨operandHandled hok, sourceHandled_of_condition hok⟩

/-! ## No explanation is `invalid` -/

def NoneInvalid (explanations : List CaveatExplanation) : Prop :=
  ∀ x ∈ explanations, x.status ≠ .invalid

theorem NoneInvalid.snoc {explanations : List CaveatExplanation} (h : NoneInvalid explanations)
    {x : CaveatExplanation} (hx : x.status ≠ .invalid) : NoneInvalid (explanations ++ [x]) := by
  intro y hy
  rcases List.mem_append.1 hy with hy | hy
  · exact h y hy
  · exact List.mem_singleton.1 hy ▸ hx

theorem evaluateCaveat_noneInvalid {r : RelationshipTuple} {name : String}
    (hname : CaveatEvaluable H inp name) {explanations : List CaveatExplanation}
    (h : NoneInvalid explanations) :
    (evaluateCaveat H inp r name explanations).Holds NoneInvalid fun e _ => NoneInvalid e := by
  obtain ⟨caveat, hfind, -⟩ := hname
  unfold evaluateCaveat
  simp only [hfind]
  split
  · exact h.snoc (by simp)
  · exact h.snoc (by simp)

theorem evaluateStep_noneInvalid {r : RelationshipTuple} (hr : StepEvaluable H inp r)
    {explanations : List CaveatExplanation} (h : NoneInvalid explanations) :
    (evaluateStep H inp r explanations).Holds NoneInvalid fun e _ => NoneInvalid e := by
  obtain ⟨hone, hcaveats⟩ := hr
  unfold evaluateStep
  match hm : inp.matchingConditionals r.relation with
  | [] => exact h
  | [c] =>
    have hc : c ∈ inp.matchingConditionals r.relation := hm ▸ List.mem_singleton_self c
    exact forOf_keeps
      (fun name hname e he => evaluateCaveat_noneInvalid (hcaveats c hc name hname) he) h
  | _ :: _ :: _ =>
    rw [hm] at hone
    simp at hone

/-- The explanations that an evaluation returns. -/
def CaveatResult.constraints : CaveatResult → Option PolicyCaveats
  | .allow constraints => constraints
  | .deny _ constraints => constraints

theorem caveatConstraints_results {model : PolicyModel} {explanations : List CaveatExplanation}
    {p : PolicyCaveats} (h : caveatConstraints model explanations = some p) :
    p.results = explanations := by
  unfold caveatConstraints at h
  split at h
  · cases h
  · cases h; rfl

/-- **No explanation is invalid** when every tuple of the path can be
evaluated. -/
theorem caveats_not_invalid {relationships : List RelationshipTuple}
    (h : ∀ r ∈ relationships, StepEvaluable H inp r) {p : PolicyCaveats}
    (hp : (evaluateConditionalRelationshipCaveats H inp relationships).constraints = some p) :
    NoneInvalid p.results := by
  have hloop : (forOf (evaluateStep H inp) relationships []).Holds NoneInvalid
      fun e _ => NoneInvalid e :=
    forOf_keeps (fun r hr e he => evaluateStep_noneInvalid (h r hr) he) (by simp [NoneInvalid])
  unfold evaluateConditionalRelationshipCaveats at hp
  cases hf : forOf (evaluateStep H inp) relationships [] with
  | step e =>
    rw [hf] at hp hloop
    rw [caveatConstraints_results hp]
    exact hloop
  | stop e reasonCode =>
    rw [hf] at hp hloop
    rw [caveatConstraints_results hp]
    exact hloop

end

/-! ## Decisions -/

section
variable {H : Host} {e : RebacDecisionEngine} {st : InMemoryRebacStore}
  {request : DecisionRequest} {evaluatedAt : IsoDateTime}

/-- What a decision explains about caveats is what their evaluation on the
path of the allow search explained. -/
theorem constraints_of_evaluate {p : PolicyCaveats}
    (h : (evaluate H e st request evaluatedAt).constraints = some p) :
    (evaluateConditionalRelationshipCaveats H ⟨st, e.policyModel, request, evaluatedAt⟩
      (evaluate H e st request evaluatedAt).path.relationships).constraints = some p := by
  unfold evaluate buildDecisionContext at h ⊢
  split at h
  · cases h
  rename_i a ha
  unfold decidePaths at h ⊢
  dsimp only at h ⊢
  split at h
  · cases h
  rename_i hd
  split at h
  · cases h
  rename_i hb
  split at h
  · cases h
  rename_i hb'
  split at h
  · cases h
  rename_i hp
  rw [if_neg hd, if_neg hb, if_neg hb', if_neg hp]
  split at h
  · rename_i hc
    simp only [hc]
    exact h
  · rename_i hc
    simp only [hc]
    exact h

/-- **Validated models never take the invalid-caveat branch.** Under an engine
whose model was accepted, every step of a decision's path can be evaluated,
and no caveat is explained as `invalid`, for any store, request and clock. -/
theorem decision_caveats_not_invalid (H : Host) (e : RebacDecisionEngine)
    (hvalid : (validatePolicyModel H e.policyModel).valid = true) (st : InMemoryRebacStore)
    (request : DecisionRequest) (evaluatedAt : IsoDateTime) :
    (∀ r ∈ (evaluate H e st request evaluatedAt).path.relationships,
      StepEvaluable H ⟨st, e.policyModel, request, evaluatedAt⟩ r) ∧
    ∀ p, (evaluate H e st request evaluatedAt).constraints = some p → NoneInvalid p.results := by
  have hsteps : ∀ r, StepEvaluable H ⟨st, e.policyModel, request, evaluatedAt⟩ r :=
    matching_evaluable ⟨st, e.policyModel, request, evaluatedAt⟩ hvalid
  exact ⟨fun r _ => hsteps r, fun p hp =>
    caveats_not_invalid (fun r _ => hsteps r) (constraints_of_evaluate hp)⟩

/-- The default model, where contributing counts at a low risk score only. -/
def lowRiskContributions : PolicyModel :=
  { createDefaultPolicyModel with
    contextConstraints :=
      [{ key := "purpose", type := .string },
       { key := "riskScore", type := .number, required := some true, auditable := some true,
         min := some (.fin 0), max := some (.fin 100) }]
    caveats := some [⟨"low_risk", true, "DENY_RISK_TOO_HIGH",
      [⟨.context, "riskScore", .number, .lessThanOrEqual, .num (.fin 50)⟩]⟩]
    conditionalRelationships := some [⟨"contributor_to", ["low_risk"], none⟩] }

theorem decision_caveats_not_invalid_lowRisk :
    ∃ p, (evaluate plainHost (.new plainHost { policyModel := some lowRiskContributions })
        localStore writePlan timestamp).constraints = some p ∧
      p.results.length = 1 ∧ NoneInvalid p.results := by
  have hvalid := decision_caveats_not_invalid plainHost
    (.new plainHost { policyModel := some lowRiskContributions }) (by decide) localStore writePlan
    timestamp
  cases hp : (evaluate plainHost (.new plainHost { policyModel := some lowRiskContributions })
      localStore writePlan timestamp).constraints with
  | none => exact absurd hp (by decide +kernel)
  | some p =>
    refine ⟨p, rfl, ?_, hvalid.2 p hp⟩
    have hlen : ((evaluate plainHost (.new plainHost { policyModel := some lowRiskContributions })
      localStore writePlan timestamp).constraints.map fun p => p.results.length) = some 1 := by
      decide +kernel
    rw [hp] at hlen
    exact Option.some.inj hlen

end

end AccessKit.L4
