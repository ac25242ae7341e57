import AccessKit.L3Policy.Validate
import AccessKit.L4Engine.Agreement

/-!
# The policy playground

packages/core/src/policy-playground.ts: requests are tried out against a model
and a seed graph, in memory. The model is validated and the context of each
request is checked against the model's context constraints; a request that
passes is then explained by an engine with the playground's clock and versions.

The inputs that a caller leaves out come from the demo harness
(packages/core/src/demo-seed.ts); they are a parameter. A context is read as a
record without inherited properties.

Results:
* `decision_of_mem`: a reported decision is the engine's, on a request of the
  input whose context passed.
* `reported`: a valid model and a context that passes get a decision.
-/
namespace AccessKit.L5
open AccessKit.L1 AccessKit.L2.Store AccessKit.L3 AccessKit.L4

/-- mirrors packages/core/src/policy-playground.ts:18-23 -/
structure PolicyPlaygroundDecisionRequest where
  name : String
  request : DecisionRequest
  expectedDecision : Option DecisionValue := none
  expectedReasonCode : Option String := none

/-- mirrors packages/core/src/policy-playground.ts:25-34 -/
structure PolicyPlaygroundInput where
  name : Option String := none
  model : Option PolicyModel := none
  seed : Option InMemoryRebacStore.RebacSeedData := none
  context : Option JsonRecord := none
  requests : Option (List PolicyPlaygroundDecisionRequest) := none
  evaluatedAt : Option IsoDateTime := none
  policyVersion : Option String := none
  relationshipVersion : Option String := none

/-- `Required<PolicyPlaygroundInput>` -/
structure Playground where
  name : String
  model : PolicyModel
  seed : InMemoryRebacStore.RebacSeedData
  context : JsonRecord
  requests : List PolicyPlaygroundDecisionRequest
  evaluatedAt : IsoDateTime
  policyVersion : String
  relationshipVersion : String

/-- mirrors packages/core/src/policy-playground.ts:36-44 -/
structure PolicyPlaygroundRequestResult where
  name : String
  request : DecisionRequest
  contextValidation : List PolicyModelValidationCheck
  decision : Option DecisionContext := none
  expectedDecision : Option DecisionValue
  expectedReasonCode : Option String
  matchedExpected : Option Bool := none

/-- mirrors packages/core/src/policy-playground.ts:48-55 -/
structure PolicyPlaygroundSandbox where
  deterministic : Bool := true
  nonWriting : Bool := true
  storage : String := "in_memory_only"
  publishPolicy : String := "disabled"
  validationGate : String := "model_and_context_must_pass_before_evaluation"
  liveTenantData : Bool := false

structure SeedCounts where
  subjects : Nat
  resources : Nat
  relationships : Nat

/-- mirrors packages/core/src/policy-playground.ts:46-65 -/
structure PolicyPlaygroundResult where
  name : String
  sandbox : PolicyPlaygroundSandbox
  evaluatedAt : IsoDateTime
  seedCounts : SeedCounts
  modelValidation : PolicyModelValidationResult
  requests : List PolicyPlaygroundRequestResult
  skipped : Bool

/-- What the caller gives, the model's version for the policy version, and the
demo harness for the rest.
mirrors packages/core/src/policy-playground.ts:130-143 -/
def normalizeInput (defaults : Playground) (input : PolicyPlaygroundInput) : Playground where
  name := input.name.getD defaults.name
  model := input.model.getD defaults.model
  seed := input.seed.getD defaults.seed
  context := input.context.getD defaults.context
  requests := input.requests.getD defaults.requests
  evaluatedAt := input.evaluatedAt.getD defaults.evaluatedAt
  policyVersion := (input.policyVersion.orElse fun _ => input.model.map (·.version)).getD
    defaults.policyVersion
  relationshipVersion := input.relationshipVersion.getD defaults.relationshipVersion

section
variable (H : Host)

/-- mirrors packages/core/src/policy-playground.ts:222-227 -/
def valueMatchesContextType (value : JsValue) (type : PolicyModelContextType) : Bool :=
  match type with
  | .datetime =>
    match value with
    | .str s => (dateParse H s).isSome
    | _ => false
  | type => value.typeof == type.name

/-- The check of one constraint.
mirrors packages/core/src/policy-playground.ts:188-219 -/
def validateContextConstraint (context : JsonRecord) (constraint : PolicyModelContextConstraint) :
    PolicyModelValidationCheck :=
  let value := JsonRecord.get context constraint.key
  let name := "context." ++ constraint.key
  if value.isUndefined then
    if constraint.required.getD false then
      fail name ("Required context key " ++ constraint.key ++ " is missing.")
    else pass name ("Optional context key " ++ constraint.key ++ " is not present.")
  else if valueMatchesContextType H value constraint.type = false then
    fail name ("Context key " ++ constraint.key ++ " must be " ++ constraint.type.name ++ ".")
  else pass name ("Context key " ++ constraint.key ++ " matches " ++ constraint.type.name ++ ".")

/-- mirrors packages/core/src/policy-playground.ts:187-220 -/
def validateRequestContext (model : PolicyModel) (context : JsonRecord) :
    List PolicyModelValidationCheck :=
  model.contextConstraints.map (validateContextConstraint H context)

/-- No check of the context failed. -/
def contextPasses (model : PolicyModel) (context : JsonRecord) : Bool :=
  (validateRequestContext H model context).all fun check => check.status ≠ .fail

/-- The engine of a playground: the options name the versions only.
mirrors packages/core/src/policy-playground.ts:98-103 -/
def playgroundOptions (playground : Playground) : DecisionEngineOptions where
  policyVersion := some playground.policyVersion
  relationshipVersion := some playground.relationshipVersion

/-- The request as it is tried: its own context over the playground's. -/
def submittedRequest (playgroundContext : JsonRecord) (request : DecisionRequest) :
    DecisionRequest :=
  { request with
    context := some (JsonRecord.spread playgroundContext (request.context.getD [])) }

/-- mirrors packages/core/src/policy-playground.ts:145-185 -/
def evaluatePlaygroundRequest (entry : PolicyPlaygroundDecisionRequest)
    (playgroundContext : JsonRecord) (model : PolicyModel) (modelIsValid : Bool)
    (explain : DecisionRequest → DecisionContext) : PolicyPlaygroundRequestResult :=
  let request := submittedRequest playgroundContext entry.request
  let contextValidation := validateRequestContext H model (request.context.getD [])
  if modelIsValid = false ∨ contextPasses H model (request.context.getD []) = false then
    { name := entry.name, request, contextValidation, expectedDecision := entry.expectedDecision
      expectedReasonCode := entry.expectedReasonCode }
  else
    let decision := explain request
    { name := entry.name, request, contextValidation, decision := some decision
      expectedDecision := entry.expectedDecision, expectedReasonCode := entry.expectedReasonCode
      matchedExpected := some (
        match entry.expectedDecision with
        | none => true
        | some d => decide (decision.decision = d) &&
          (match entry.expectedReasonCode with
          | none => true
          | some code => decision.reasonCode == code)) }

/-- mirrors packages/core/src/policy-playground.ts:94-128 -/
def runPolicyPlayground (defaults : Playground) (input : PolicyPlaygroundInput) :
    PolicyPlaygroundResult :=
  let playground := normalizeInput defaults input
  let modelValidation := validatePolicyModel H playground.model
  let store := InMemoryRebacStore.ofSeed playground.seed
  let engine := RebacDecisionEngine.new H (playgroundOptions playground)
  let requests := playground.requests.map fun entry =>
    evaluatePlaygroundRequest H entry playground.context playground.model modelValidation.valid
      fun request => evaluate H engine store request playground.evaluatedAt
  { name := playground.name
    sandbox := {}
    evaluatedAt := playground.evaluatedAt
    seedCounts := ⟨playground.seed.subjects.length, playground.seed.resources.length,
      playground.seed.relationships.length⟩
    modelValidation
    requests
    skipped := !modelValidation.valid || requests.any fun r => r.decision.isNone }

end

/-! ## What is reported -/

section
variable {H : Host} {defaults : Playground} {input : PolicyPlaygroundInput}

/-- The gate of a request: only a valid model and a context that passes reach
the engine. -/
theorem evaluatePlaygroundRequest_spec (entry : PolicyPlaygroundDecisionRequest)
    (context : JsonRecord) (model : PolicyModel) (modelIsValid : Bool)
    (explain : DecisionRequest → DecisionContext) :
    (evaluatePlaygroundRequest H entry context model modelIsValid explain).request =
        submittedRequest context entry.request ∧
      (evaluatePlaygroundRequest H entry context model modelIsValid explain).decision =
        if modelIsValid = true ∧ contextPasses H model
            ((submittedRequest context entry.request).context.getD []) = true then
          some (explain (submittedRequest context entry.request))
        else none := by
  by_cases hgate : modelIsValid = false ∨ contextPasses H model
      ((submittedRequest context entry.request).context.getD []) = false
  · have hpass : ¬ (modelIsValid = true ∧ contextPasses H model
        ((submittedRequest context entry.request).context.getD []) = true) := by
      intro h
      simp [h.1, h.2] at hgate
    simp only [evaluatePlaygroundRequest]
    rw [if_pos hgate, if_neg hpass]
    exact ⟨rfl, rfl⟩
  · have hpass : modelIsValid = true ∧ contextPasses H model
        ((submittedRequest context entry.request).context.getD []) = true := by
      simpa [not_or] using hgate
    simp only [evaluatePlaygroundRequest]
    rw [if_neg hgate, if_pos hpass]
    exact ⟨rfl, rfl⟩

/-- A reported decision is the engine's on the submitted request, the model is
valid and the context passes. -/
theorem decision_of_mem {result : PolicyPlaygroundRequestResult} {d : DecisionContext}
    (hmem : result ∈ (runPolicyPlayground H defaults input).requests)
    (hd : result.decision = some d) :
    d = evaluate H (.new H (playgroundOptions (normalizeInput defaults input)))
        (.ofSeed (normalizeInput defaults input).seed) result.request
        (normalizeInput defaults input).evaluatedAt ∧
      (∃ request, result.request =
        submittedRequest (normalizeInput defaults input).context request) ∧
      contextPasses H (normalizeInput defaults input).model
        (result.request.context.getD []) = true := by
  simp only [runPolicyPlayground, List.mem_map] at hmem
  obtain ⟨entry, -, rfl⟩ := hmem
  obtain ⟨hr, hdec⟩ := evaluatePlaygroundRequest_spec (H := H) entry
    (normalizeInput defaults input).context (normalizeInput defaults input).model
    (validatePolicyModel H (normalizeInput defaults input).model).valid
    fun request => evaluate H (.new H (playgroundOptions (normalizeInput defaults input)))
      (.ofSeed (normalizeInput defaults input).seed) request
      (normalizeInput defaults input).evaluatedAt
  rw [hdec] at hd
  rw [hr]
  split at hd
  · rename_i hpass
    exact ⟨(Option.some.inj hd).symm, ⟨_, rfl⟩, hpass.2⟩
  · cases hd

/-- A playground with one request. -/
def tryOut (model : PolicyModel) (seed : InMemoryRebacStore.RebacSeedData)
    (context : JsonRecord) (request : DecisionRequest) (evaluatedAt : IsoDateTime) :
    PolicyPlaygroundInput where
  model := some model
  seed := some seed
  context := some context
  requests := some [{ name := "request", request }]
  evaluatedAt := some evaluatedAt

theorem reported (defaults : Playground) {model : PolicyModel}
    (seed : InMemoryRebacStore.RebacSeedData) (context : JsonRecord) (request : DecisionRequest)
    (evaluatedAt : IsoDateTime) (hvalid : (validatePolicyModel H model).valid = true)
    (hpass : contextPasses H model
      ((submittedRequest context request).context.getD []) = true) :
    ∃ result ∈ (runPolicyPlayground H defaults
        (tryOut model seed context request evaluatedAt)).requests,
      result.request = submittedRequest context request ∧
      result.decision = some (evaluate H (.new H (playgroundOptions
        (normalizeInput defaults (tryOut model seed context request evaluatedAt))))
        (.ofSeed seed) (submittedRequest context request) evaluatedAt) := by
  obtain ⟨hr, hdec⟩ := evaluatePlaygroundRequest_spec (H := H) { name := "request", request }
    context model (validatePolicyModel H model).valid
    fun request' => evaluate H (.new H (playgroundOptions
      (normalizeInput defaults (tryOut model seed context request evaluatedAt)))) (.ofSeed seed)
      request' evaluatedAt
  rw [if_pos ⟨hvalid, hpass⟩] at hdec
  exact ⟨_, List.mem_map.2 ⟨_, List.mem_singleton_self _, rfl⟩, hr, hdec⟩

end

end AccessKit.L5
