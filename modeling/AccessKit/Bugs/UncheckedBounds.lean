import AccessKit.L4Engine.CaveatValidity
import AccessKit.L4Engine.ContextBounds
import AccessKit.L5Runtime.Playground

/-!
# The bounds of context values are declared and never checked

Status: open. `validatePolicyModel` insists that every context key a caveat
reads is required, auditable and bounded
(packages/core/src/policy-model.ts:610-629, 742-759), since conditional inputs
have to be "typed, bounded, auditable, and fail closed when missing or
invalid" (docs/policy-testing-guide.md). The engine then tests the type of the
value and compares it with the operand
(packages/core/src/engine.ts:501-518, 566-586), and the playground tests its
presence and its type (packages/core/src/policy-playground.ts:187-220). No code
reads `min`, `max`, `maxLength` or `allowedValues` of a request's value.

Counterexample: a model in which risk scores lie between 0 and 100 and
contributing takes a score up to 50. A request with the score -1 is allowed,
and the playground finds nothing wrong with it (`negative_score_passes`).

Exact condition: every operand that a context value is compared with is itself
within the bounds of the key, and for the orders the whole side that the
operator accepts is (`bounds_enforced_iff`). The engine and the playground
have the same condition.

The playground's own engine is not given the model; here the conditions of the
model are evaluated on the requests that its gate lets through.
-/
namespace AccessKit.Bugs.UncheckedBounds
open AccessKit.Core AccessKit.L1 AccessKit.L2.Store AccessKit.L2.Fixtures AccessKit.L3 AccessKit.L4
open AccessKit.L5 hiding valueMatchesContextType

/-- The condition is satisfied only by a value that keeps the bounds declared
for its key. -/
def SatisfiedInBounds (H : Host) (inp : CaveatInput) (r : RelationshipTuple)
    (condition : PolicyModelCaveatCondition) : Prop :=
  (evaluateCaveatCondition H inp r condition).status = .pass →
    ∃ k v, contextConstraintFor inp.policyModel condition.key = some k ∧
      valueAt inp.request.context condition.key = some v ∧ KeepsBounds H k v

/-- The conditions of the model's caveats that read the context. -/
def contextConditions (model : PolicyModel) : List PolicyModelCaveatCondition :=
  ((model.caveats.getD []).flatMap (·.conditions)).filter fun c => c.source = .context

/-- The engine enforces the bounds, for every store, request, clock and tuple. -/
def EngineEnforces (H : Host) (model : PolicyModel) : Prop :=
  ∀ condition ∈ contextConditions model, ∀ st request evaluatedAt r,
    SatisfiedInBounds H ⟨st, model, request, evaluatedAt⟩ r condition

/-- The playground enforces the bounds, on every request that passes its gate. -/
def PlaygroundEnforces (H : Host) (model : PolicyModel) : Prop :=
  ∀ condition ∈ contextConditions model, ∀ playgroundContext request st evaluatedAt r,
    contextPasses H model ((submittedRequest playgroundContext request).context.getD []) = true →
      SatisfiedInBounds H ⟨st, model, submittedRequest playgroundContext request, evaluatedAt⟩ r
        condition

/-- Every operand that a context value is compared with is within the bounds
of the key, in the sense of its operator. -/
def OperandsKeepBounds (H : Host) (model : PolicyModel) : Prop :=
  ∀ condition ∈ contextConditions model, ∀ k,
    contextConstraintFor model condition.key = some k → OperandKeepsBounds H k condition

/-! ## The counterexample -/

/-- Alice asks to write the plan, with a score that no risk can have. -/
def writeAtNegativeRisk : DecisionRequest :=
  { writePlan with context := some [("riskScore", .num (.fin (-1)))] }

theorem score_not_in_bounds (request : DecisionRequest)
    (h : request.context = some [("riskScore", .num (.fin (-1)))]) :
    ¬ SatisfiedInBounds plainHost ⟨localStore, lowRiskContributions, request, timestamp⟩
      caseTeamWorkspace ⟨.context, "riskScore", .number, .lessThanOrEqual, .num (.fin 50)⟩ := by
  intro hin
  obtain ⟨subjectId, action, resourceId, context⟩ := request
  cases h
  obtain ⟨k, v, hk, hv, hbounds⟩ := hin rfl
  cases hk
  cases hv
  exact absurd (hbounds.min (.fin 0) rfl (.fin (-1)) rfl) (by decide)

/-- **Counterexample**: the score -1 is out of bounds, the request is allowed
and passes the playground's gate. -/
theorem negative_score_passes :
    (validatePolicyModel plainHost lowRiskContributions).valid = true ∧
    (evaluate plainHost (.new plainHost { policyModel := some lowRiskContributions }) localStore
      writeAtNegativeRisk timestamp).decision = .allow ∧
    contextPasses plainHost lowRiskContributions
      ((submittedRequest [] writeAtNegativeRisk).context.getD []) = true ∧
    ¬ EngineEnforces plainHost lowRiskContributions ∧
    ¬ PlaygroundEnforces plainHost lowRiskContributions := by
  have hmem : ⟨.context, "riskScore", .number, .lessThanOrEqual, .num (.fin 50)⟩ ∈
      contextConditions lowRiskContributions := List.mem_singleton_self _
  have hgate : contextPasses plainHost lowRiskContributions
      ((submittedRequest [] writeAtNegativeRisk).context.getD []) = true := by decide
  refine ⟨by decide, by decide +kernel, hgate, fun h => ?_, fun h => ?_⟩
  · exact score_not_in_bounds writeAtNegativeRisk rfl (h _ hmem _ _ _ _)
  · exact score_not_in_bounds _ rfl (h _ hmem [] writeAtNegativeRisk _ _ _ hgate)

/-! ## When the bounds are enforced -/

section
variable {H : Host} {model : PolicyModel}

theorem constraint_of_condition (h : (validatePolicyModel H model).valid = true)
    {condition : PolicyModelCaveatCondition} (hc : condition ∈ contextConditions model) :
    OperandHandled H condition ∧ ∃ k, contextConstraintFor model condition.key = some k ∧
      k ∈ model.contextConstraints ∧ k.key = condition.key ∧ k.type = condition.type ∧
      contextConstraintFault H k = none := by
  obtain ⟨hflat, hs⟩ := List.mem_filter.1 hc
  obtain ⟨caveat, hcaveat, hcondition⟩ := List.mem_flatMap.1 hflat
  have hok := caveatConditions_ok h hcaveat condition hcondition
  obtain ⟨k, hk, htype, -⟩ := (condition_ok hok).2.2.1 (by simpa using hs)
  have hmem : k ∈ model.contextConstraints := List.mem_reverse.1 (List.mem_of_find?_eq_some hk)
  exact ⟨operandHandled hok, k, hk, hmem, by simpa using List.find?_some hk, htype,
    contextConstraints_ok h k hmem⟩

/-- A condition on the context passes when the context has a value that it
accepts. -/
theorem pass_iff {inp : CaveatInput} {r : RelationshipTuple}
    {condition : PolicyModelCaveatCondition} (hs : condition.source = .context) :
    (evaluateCaveatCondition H inp r condition).status = .pass ↔
      ∃ v, valueAt inp.request.context condition.key = some v ∧ Accepts H condition v := by
  unfold evaluateCaveatCondition resolveConditionValue
  simp only [hs]
  cases valueAt inp.request.context condition.key with
  | none => simp
  | some v =>
    simp only [Option.some.injEq, exists_eq_left', Accepts]
    cases valueMatchesContextType H v condition.type <;>
      cases compareCondition H v condition <;> simp

/-- Accepting values within the bounds only is enough, for the engine and for
the playground. -/
theorem satisfiedInBounds_of_operands (h : (validatePolicyModel H model).valid = true)
    (hop : OperandsKeepBounds H model) {condition : PolicyModelCaveatCondition}
    (hc : condition ∈ contextConditions model) (st : InMemoryRebacStore)
    (request : DecisionRequest) (evaluatedAt : IsoDateTime) (r : RelationshipTuple) :
    SatisfiedInBounds H ⟨st, model, request, evaluatedAt⟩ r condition := by
  intro hpass
  obtain ⟨v, hv, haccepts⟩ := (pass_iff (by simpa using (List.mem_filter.1 hc).2)).1 hpass
  obtain ⟨hoperand, k, hk, -, -, htype, hfault⟩ := constraint_of_condition h hc
  exact ⟨k, v, hk, hv, (accepts_within_iff htype (fun m => type_of_maxLength hfault) hoperand).2
    (hop condition hc k hk) v haccepts⟩

/-- A value of the type, to fill a context with. -/
def defaultValue : PolicyModelContextType → JsValue
  | .string => .str ""
  | .number => .num (.fin 0)
  | .boolean => .bool true
  | .datetime => .str "1970-01-01"

/-- A context with the value under the key and a value of the right type under
every other key of the model. -/
def contextWith (model : PolicyModel) (key : String) (v : JsValue) : JsonRecord :=
  model.contextConstraints.map fun k => (k.key, if k.key = key then v else defaultValue k.type)

theorem get_map_of_nodup {value : PolicyModelContextConstraint → JsValue}
    {l : List PolicyModelContextConstraint} (h : (l.map (·.key)).Nodup)
    {a : PolicyModelContextConstraint} (ha : a ∈ l) :
    JsonRecord.get (l.map fun a => (a.key, value a)) a.key = value a := by
  induction l with
  | nil => cases ha
  | cons b l ih =>
    obtain ⟨hb, hl⟩ := List.nodup_cons.1 h
    rcases List.mem_cons.1 ha with rfl | ha
    · simp [JsonRecord.get]
    · have hne : b.key ≠ a.key := fun he => hb (List.mem_map.2 ⟨a, ha, he.symm⟩)
      have hrest := ih hl ha
      unfold JsonRecord.get at hrest ⊢
      rwa [List.map_cons, List.find?_cons_of_neg (by simpa using hne)]

theorem defaultValue_matches (t : PolicyModelContextType) :
    valueMatchesType H (defaultValue t) t = true := by
  cases t <;> rfl

theorem get_contextWith (h : (validatePolicyModel H model).valid = true) {key : String}
    {v : JsValue} {k : PolicyModelContextConstraint} (hk : k ∈ model.contextConstraints) :
    JsonRecord.get (contextWith model key v) k.key =
      if k.key = key then v else defaultValue k.type :=
  get_map_of_nodup (contextKeys_nodup h) hk

theorem present_of_matches {v : JsValue} {t : PolicyModelContextType}
    (h : valueMatchesType H v t = true) : v.isUndefined = false ∧ v.isNull = false := by
  cases v with
  | undefined => cases t <;> simp [valueMatchesType, JsValue.typeof] at h
  | null => cases t <;> simp [valueMatchesType, JsValue.typeof] at h
  | _ => exact ⟨rfl, rfl⟩

theorem validateContextConstraint_pass {context : JsonRecord}
    {c : PolicyModelContextConstraint}
    (h : valueMatchesType H (JsonRecord.get context c.key) c.type = true) :
    (validateContextConstraint H context c).status ≠ .fail := by
  have hmatches : L5.valueMatchesContextType H (JsonRecord.get context c.key) c.type = true := by
    rw [← h]
    cases c.type <;> rfl
  unfold validateContextConstraint
  simp [(present_of_matches h).1, hmatches, L3.pass]

theorem contextWith_passes (h : (validatePolicyModel H model).valid = true)
    {k : PolicyModelContextConstraint} (hk : k ∈ model.contextConstraints) {v : JsValue}
    (hv : valueMatchesType H v k.type = true) :
    contextPasses H model (contextWith model k.key v) = true := by
  unfold contextPasses validateRequestContext
  simp only [List.all_map, List.all_eq_true, Function.comp, decide_eq_true_eq]
  intro c hc
  refine validateContextConstraint_pass ?_
  rw [get_contextWith h hc]
  split
  · rename_i hkey
    have hck : c = k := List.inj_on_of_nodup_map (contextKeys_nodup h) hc hk hkey
    exact hck ▸ hv
  · exact defaultValue_matches c.type

theorem valueAt_contextWith (h : (validatePolicyModel H model).valid = true)
    {k : PolicyModelContextConstraint} (hk : k ∈ model.contextConstraints) {v : JsValue}
    (hv : valueMatchesType H v k.type = true) :
    valueAt (some (contextWith model k.key v)) k.key = some v := by
  obtain ⟨hundefined, hnull⟩ := present_of_matches hv
  unfold valueAt
  simp only [get_contextWith h hk, if_true, hundefined, hnull]
  rfl

/-- A request whose context holds the value under the key, which the gate
passes. -/
def requestWith (model : PolicyModel) (key : String) (v : JsValue) : DecisionRequest :=
  submittedRequest (contextWith model key v) writePlan

/-- When the bounds are enforced on the requests that fill the context, every
operand keeps them. -/
theorem operands_of_satisfiedInBounds (h : (validatePolicyModel H model).valid = true)
    (henforces : ∀ condition ∈ contextConditions model, ∀ v,
      contextPasses H model (contextWith model condition.key v) = true →
        SatisfiedInBounds H ⟨localStore, model, requestWith model condition.key v, timestamp⟩
          caseTeamWorkspace condition) : OperandsKeepBounds H model := by
  intro condition hc k hk
  obtain ⟨hoperand, k', hk', hmem, hkey, htype, hfault⟩ := constraint_of_condition h hc
  obtain rfl : k = k' := Option.some.inj (hk.symm.trans hk')
  refine (accepts_within_iff htype (fun m => type_of_maxLength hfault) hoperand).1 fun v hv => ?_
  have hmatches : valueMatchesType H v k.type = true := by
    rw [htype]
    exact hv.1
  have hvalue : valueAt (requestWith model condition.key v).context condition.key = some v := by
    rw [← hkey]
    exact valueAt_contextWith h hmem hmatches
  have hgate : contextPasses H model (contextWith model condition.key v) = true := by
    rw [← hkey]
    exact contextWith_passes h hmem hmatches
  have hsource : condition.source = .context := by simpa using (List.mem_filter.1 hc).2
  obtain ⟨k', v', hk', hv', hbounds⟩ :=
    henforces condition hc v hgate ((pass_iff hsource).2 ⟨v, hvalue, hv⟩)
  obtain rfl : k = k' := Option.some.inj (hk.symm.trans hk')
  obtain rfl : v = v' := Option.some.inj (hvalue.symm.trans hv')
  exact hbounds

/-- **When declared bounds are enforced**, in the engine and in the playground
alike: exactly when every operand that a context value is compared with keeps
them itself. -/
theorem bounds_enforced_iff (H : Host) (model : PolicyModel)
    (hvalid : (validatePolicyModel H model).valid = true) :
    (EngineEnforces H model ↔ OperandsKeepBounds H model) ∧
    (PlaygroundEnforces H model ↔ OperandsKeepBounds H model) := by
  refine ⟨⟨fun h => ?_, fun h => ?_⟩, ⟨fun h => ?_, fun h => ?_⟩⟩
  · exact operands_of_satisfiedInBounds hvalid fun condition hc v _ => h condition hc _ _ _ _
  · intro condition hc st request evaluatedAt r
    exact satisfiedInBounds_of_operands hvalid h hc st request evaluatedAt r
  · exact operands_of_satisfiedInBounds hvalid fun condition hc v hgate =>
      h condition hc (contextWith model condition.key v) writePlan _ _ _ hgate
  · intro condition hc playgroundContext request st evaluatedAt r _
    exact satisfiedInBounds_of_operands hvalid h hc st _ evaluatedAt r

/-- The default model, where contributing is for audits, which is one of two
purposes that are allowed. -/
def knownPurposes : PolicyModel :=
  { createDefaultPolicyModel with
    contextConstraints :=
      [{ key := "purpose", type := .string, required := some true, auditable := some true,
         allowedValues := some [.str "audit", .str "support"] }]
    caveats := some [⟨"for_audit", true, "DENY_PURPOSE",
      [⟨.context, "purpose", .string, .equals, .str "audit"⟩]⟩]
    conditionalRelationships := some [⟨"contributor_to", ["for_audit"], none⟩] }

/-- The condition tells the models apart: an allowed value that is asked for
by name is enforced. -/
theorem bounds_enforced_iff_purposes :
    EngineEnforces plainHost knownPurposes ∧ PlaygroundEnforces plainHost knownPurposes := by
  have hiff := bounds_enforced_iff plainHost knownPurposes (by decide)
  have hoperands : OperandsKeepBounds plainHost knownPurposes := by
    intro condition hc k hk
    obtain rfl : condition = ⟨.context, "purpose", .string, .equals, .str "audit"⟩ :=
      List.mem_singleton.1 hc
    cases hk
    intro _
    exact ⟨rfl, fun lo hlo => (by cases hlo), fun hi hhi => (by cases hhi),
      fun m hm => (by cases hm), fun _ => ⟨.str "audit", List.mem_cons_self, rfl⟩⟩
  exact ⟨hiff.1.2 hoperands, hiff.2.2 hoperands⟩

end

end AccessKit.Bugs.UncheckedBounds
