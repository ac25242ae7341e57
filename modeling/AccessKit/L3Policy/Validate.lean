import AccessKit.L1Domain.Stringify
import AccessKit.L3Policy.Compile

/-!
# Validating a policy model

packages/core/src/policy-model.ts:338-799: the checks a model has to pass
before it is published or tried out. A loop that returns at the first fault
is `findSome?` over the list, with the passing check as the default. The
checks of enumerations that the types already make (`supportedContextTypes`,
`supportedCaveatOperators`, `knownResourceTypes`) are kept as memberships in
the list of all values.

`AccessKit.L3Policy.Valid` says what a valid model guarantees.
-/
namespace AccessKit.L3
open AccessKit.Core AccessKit.L1

inductive ValidationCheckStatus
  | pass
  | warn
  | fail
  deriving DecidableEq, Repr

structure PolicyModelValidationCheck where
  name : String
  status : ValidationCheckStatus
  message : String
  deriving DecidableEq, Repr

structure PolicyModelValidationResult where
  valid : Bool
  checks : List PolicyModelValidationCheck

def pass (name message : String) : PolicyModelValidationCheck := ⟨name, .pass, message⟩

def fail (name message : String) : PolicyModelValidationCheck := ⟨name, .fail, message⟩

def supportedContextTypes : List PolicyModelContextType := [.string, .number, .boolean, .datetime]

def supportedCaveatOperators : List PolicyModelCaveatOperator :=
  [.equals, .oneOf, .lessThanOrEqual, .greaterThanOrEqual, .before, .after]

def knownResourceTypes : List ResourceType :=
  [.organization, .workspace, .application, .sharepointSite, .team, .folder, .document, .powerApp,
   .flow, .dataverseEnvironment, .awsAccount, .awsRole, .dataset, .api]

section checks

/-- mirrors packages/core/src/policy-model.ts:378-383 -/
def checkSchemaVersion (model : PolicyModel) : PolicyModelValidationCheck :=
  if model.schemaVersion ≠ POLICY_MODEL_SCHEMA_VERSION then
    fail "schema_version" ("Unsupported policy model schema version: " ++ model.schemaVersion)
  else pass "schema_version" "Policy model schema version is supported."

/-- The values that occurred before, given those already seen. -/
def repeats (seen : List String) : List String → List String
  | [] => []
  | v :: vs => if v ∈ seen then v :: repeats seen vs else repeats (v :: seen) vs

/-- mirrors packages/core/src/policy-model.ts:385-391 -/
def checkUnique (name : String) (values : List String) : PolicyModelValidationCheck :=
  let duplicates := repeats [] values
  if duplicates ≠ [] then
    fail name ("Duplicate values are not allowed: " ++ joinWith ", " duplicates.eraseDups)
  else pass name "Names are unique."

/-- mirrors packages/core/src/policy-model.ts:393-424 -/
def checkKnownResourceTypes (model : PolicyModel) : List PolicyModelValidationCheck :=
  match model.resourceTypes.find? fun t => t.type ∉ knownResourceTypes with
  | some t => [fail "resource_types_known" ("Unsupported resource type: " ++ t.type.name)]
  | none =>
    let known := [pass "resource_types_known" "Resource types are supported."]
    let unknownParent := model.resourceTypes.findSome? fun t =>
      ((t.allowedParentTypes.getD []).find? fun p => p ∉ model.resourceTypes.map (·.type)).map
        fun p => (t, p)
    match unknownParent with
    | some (t, p) => known ++ [fail "resource_parent_types_known"
        ("Resource type " ++ t.type.name ++ " references unknown parent type " ++ p.name ++ ".")]
    | none =>
      let known := known ++ [pass "resource_parent_types_known" "Resource parent references are known."]
      match model.resourceTypes.find? fun t => t.classifications.isEmpty with
      | some t => known ++ [fail "resource_classifications_declared"
          ("Resource type " ++ t.type.name ++ " must declare at least one classification.")]
      | none => known ++
          [pass "resource_classifications_declared" "Resource classifications are declared."]

/-- mirrors packages/core/src/policy-model.ts:426-433 -/
def checkRelations (model : PolicyModel) : PolicyModelValidationCheck :=
  (model.relations.findSome? fun r =>
    if r.subjectTypes.isEmpty ∨ r.objectTypes.isEmpty then
      some (fail "relation_endpoints_declared"
        ("Relation " ++ r.name ++ " must declare subject and object types."))
    else none).getD
  (pass "relation_endpoints_declared" "Relations declare subject and object types.")

def relationNames (model : PolicyModel) : List String := model.relations.map (·.name)

def actionNames (model : PolicyModel) : List String := model.actions.map (·.name)

/-- mirrors packages/core/src/policy-model.ts:435-451 -/
def checkActionMappings (model : PolicyModel) : PolicyModelValidationCheck :=
  (model.actions.findSome? fun a =>
    if a.grants.isEmpty then
      some (fail "action_grants_declared"
        ("Action " ++ a.name ++ " must map to at least one grant relation."))
    else a.grants.findSome? fun g =>
      if g ∉ relationNames model then
        some (fail "action_grants_known"
          ("Action " ++ a.name ++ " references unknown relation " ++ g ++ "."))
      else if g ∉ relationNamesOfKind model .grant then
        some (fail "action_grants_grant_kind" ("Action " ++ a.name ++ " references relation " ++ g ++
          ", which is not declared as a grant relation."))
      else none).getD
  (pass "action_grants_grant_kind" "Action mappings reference declared grant relations.")

/-- mirrors packages/core/src/policy-model.ts:453-484 -/
def checkInheritanceRules (model : PolicyModel) : PolicyModelValidationCheck :=
  if model.inheritanceRules.isEmpty then
    fail "inheritance_rules_declared" "At least one inheritance rule is required."
  else
    (model.inheritanceRules.findSome? fun rule =>
      if rule.relation ∉ relationNames model then
        some (fail "inheritance_relations_known" ("Inheritance rule " ++ rule.name ++
          " references unknown relation " ++ rule.relation ++ "."))
      else if rule.through ∉ relationNames model then
        some (fail "inheritance_paths_known" ("Inheritance rule " ++ rule.name ++
          " references unknown traversal relation " ++ rule.through ++ "."))
      else if rule.through ∉ relationNamesOfKind model .membership ∪
          relationNamesOfKind model .containment then
        some (fail "inheritance_traversal_kinds" ("Inheritance rule " ++ rule.name ++ " traverses " ++
          rule.through ++ ", which is not declared as a membership or containment relation."))
      else if rule.actions.isEmpty then
        some (fail "inheritance_actions_declared" ("Inheritance rule " ++ rule.name ++
          " must declare at least one action."))
      else (rule.actions.find? fun a => a ∉ actionNames model).map fun a =>
        fail "inheritance_actions_known" ("Inheritance rule " ++ rule.name ++
          " references unknown action " ++ a ++ ".")).getD
    (pass "inheritance_rules_declared"
      "Inheritance rules reference known relations, traversal paths, and actions.")

/-- mirrors packages/core/src/policy-model.ts:486-508 -/
def checkDenyRules (model : PolicyModel) : PolicyModelValidationCheck :=
  if model.denyRules.isEmpty then
    fail "deny_rules_present"
      "At least one override deny rule is required to keep the deny-by-default posture."
  else
    (model.denyRules.findSome? fun rule =>
      if rule.relation ∉ relationNames model then
        some (fail "deny_relations_known" ("Deny rule " ++ rule.name ++
          " references unknown relation " ++ rule.relation ++ "."))
      else if rule.relation ∉ relationNamesOfKind model .deny then
        some (fail "deny_relations_deny_kind" ("Deny rule " ++ rule.name ++ " references relation " ++
          rule.relation ++ ", which is not declared as a deny relation."))
      else if rule.actions = some [] then
        some (fail "deny_actions_declared" ("Deny rule " ++ rule.name ++
          " must declare at least one action when actions are scoped."))
      else ((rule.actions.getD []).find? fun a => a ∉ actionNames model).map fun a =>
        fail "deny_actions_known" ("Deny rule " ++ rule.name ++ " references unknown action " ++ a ++
          ".")).getD
    (pass "deny_rules_present"
      "Override deny rules are declared and reference declared deny relations.")

/-- mirrors packages/core/src/policy-model.ts:514-519 -/
def checkTenantBoundary (model : PolicyModel) : PolicyModelValidationCheck :=
  if model.tenantBoundary.key = "" ∨ model.tenantBoundary.crossTenantTraversal ≠ false then
    fail "tenant_boundary_fail_closed"
      "Tenant boundary must name a key and disable cross-tenant traversal."
  else pass "tenant_boundary_fail_closed" "Tenant boundary is explicit and fail-closed."

/-- mirrors packages/core/src/policy-model.ts:521-536 -/
def checkClassificationConstraints (model : PolicyModel) : PolicyModelValidationCheck :=
  if model.classificationConstraints.isEmpty then
    fail "classification_constraints_declared" "At least one classification constraint is required."
  else
    (model.classificationConstraints.findSome? fun c =>
      if c.classification = "" ∨ c.allowedActions.isEmpty then
        some (fail "classification_constraints_declared"
          "Classification constraints must name a classification and allowed actions.")
      else (c.allowedActions.find? fun a => a ∉ actionNames model).map fun a =>
        fail "classification_actions_known" ("Classification " ++ c.classification ++
          " references unknown action " ++ a ++ ".")).getD
    (pass "classification_constraints_declared"
      "Classification constraints are declared and reference known actions.")

/-- mirrors packages/core/src/policy-model.ts:711-722 -/
def operatorMatchesType (operator : PolicyModelCaveatOperator) (type : PolicyModelContextType) :
    Bool :=
  if type = .datetime then operator = .before ∨ operator = .after
  else if operator = .before ∨ operator = .after then false
  else if operator = .lessThanOrEqual ∨ operator = .greaterThanOrEqual then type = .number
  else true

end checks

section
variable (H : Host)

/-- mirrors packages/core/src/policy-model.ts:735-740 -/
def valueMatchesType (value : JsValue) (type : PolicyModelContextType) : Bool :=
  match type with
  | .datetime =>
    match value with
    | .str s => (dateParse H s).isSome
    | _ => false
  | .string => value.typeof == "string"
  | .number => value.typeof == "number"
  | .boolean => value.typeof == "boolean"

/-- mirrors packages/core/src/policy-model.ts:724-733 -/
def conditionValueMatchesType (value : JsValue) (type : PolicyModelContextType)
    (operator : PolicyModelCaveatOperator) : Bool :=
  match operator, value with
  | .oneOf, .arr items => !items.isEmpty && items.all fun v => valueMatchesType H v type
  | .oneOf, _ => false
  | _, .arr _ => false
  | _, v => valueMatchesType H v type

/-- `n !== undefined && n > 0` -/
def isPositive (n : Option JsNumber) : Bool :=
  match n with
  | some n => JsNumber.lt (.fin 0) n
  | none => false

/-- mirrors packages/core/src/policy-model.ts:742-759 -/
def contextConstraintIsBounded (constraint : PolicyModelContextConstraint)
    (condition : PolicyModelCaveatCondition) : Bool :=
  if constraint.type = .boolean then true
  else if (constraint.allowedValues.getD []).isEmpty = false then true
  else if constraint.type = .number then constraint.min.isSome && constraint.max.isSome
  else if constraint.type = .string then isPositive constraint.maxLength
  else condition.operator = .before ∨ condition.operator = .after

/-- `min !== undefined && max !== undefined && min > max` -/
def minAboveMax (c : PolicyModelContextConstraint) : Bool :=
  match c.min, c.max with
  | some lo, some hi => JsNumber.lt hi lo
  | _, _ => false

/-- `maxLength !== undefined && (type !== "string" || maxLength < 1)` -/
def maxLengthInvalid (c : PolicyModelContextConstraint) : Bool :=
  match c.maxLength with
  | some n => decide (c.type ≠ .string) || JsNumber.lt n (.fin 1)
  | none => false

/-- The body of the loop over the context constraints. -/
def contextConstraintFault (c : PolicyModelContextConstraint) :
    Option PolicyModelValidationCheck :=
  if c.type ∉ supportedContextTypes then
    some (fail "context_constraint_types_known" ("Context constraint " ++ c.key ++
      " has unsupported type " ++ c.type.name ++ "."))
  else if minAboveMax c then
    some (fail "context_constraint_bounds_valid" ("Context constraint " ++ c.key ++
      " declares min greater than max."))
  else if maxLengthInvalid c then
    some (fail "context_constraint_bounds_valid" ("Context constraint " ++ c.key ++
      " has an invalid maxLength bound."))
  else if (c.allowedValues.getD []).any fun v => !valueMatchesType H v c.type then
    some (fail "context_constraint_bounds_valid" ("Context constraint " ++ c.key ++
      " has an allowed value with the wrong type."))
  else none

/-- mirrors packages/core/src/policy-model.ts:538-568 -/
def checkContextConstraints (model : PolicyModel) : List PolicyModelValidationCheck :=
  let unique := checkUnique "context_constraints_unique" (model.contextConstraints.map (·.key))
  if unique.status = .fail then [unique]
  else
    match model.contextConstraints.findSome? (contextConstraintFault H) with
    | some fault => [fault]
    | none =>
      [pass "context_constraint_types_known" "Context constraint types are supported.",
       pass "context_constraint_bounds_valid" "Context constraint bounds are valid."]

/-- `new Map(constraints.map((c) => [c.key, c])).get(key)`: the last one wins. -/
def contextConstraintFor (model : PolicyModel) (key : String) :
    Option PolicyModelContextConstraint :=
  model.contextConstraints.reverse.find? fun c => c.key == key

/-- mirrors packages/core/src/policy-model.ts:597-633 -/
def validateCaveatCondition (model : PolicyModel) (caveat : PolicyModelCaveat)
    (condition : PolicyModelCaveatCondition) : Option PolicyModelValidationCheck :=
  if condition.type ∉ supportedContextTypes ∨ condition.operator ∉ supportedCaveatOperators then
    some (fail "policy_caveat_conditions_typed" ("Policy caveat " ++ caveat.name ++
      " uses an unsupported condition type or operator."))
  else if operatorMatchesType condition.operator condition.type = false then
    some (fail "policy_caveat_conditions_typed" ("Policy caveat " ++ caveat.name ++ " operator " ++
      condition.operator.name ++ " is not supported for " ++ condition.type.name ++ "."))
  else if conditionValueMatchesType H condition.value condition.type condition.operator = false then
    some (fail "policy_caveat_conditions_typed" ("Policy caveat " ++ caveat.name ++ " compares " ++
      condition.key ++ " to a value with the wrong type."))
  else
    let contextFault : Option PolicyModelValidationCheck :=
      if condition.source = .context then
        match contextConstraintFor model condition.key with
        | none => some (fail "policy_caveat_context_known" ("Policy caveat " ++ caveat.name ++
            " references unknown context key " ++ condition.key ++ "."))
        | some c =>
          if c.type ≠ condition.type then
            some (fail "policy_caveat_conditions_typed" ("Policy caveat " ++ caveat.name ++
              " type does not match context key " ++ condition.key ++ "."))
          else if c.required ≠ some true ∨ c.auditable ≠ some true then
            some (fail "policy_caveat_context_auditable" ("Policy caveat " ++ caveat.name ++
              " requires " ++ condition.key ++ " to be required and auditable."))
          else if contextConstraintIsBounded c condition = false then
            some (fail "policy_caveat_context_bounded" ("Policy caveat " ++ caveat.name ++
              " requires bounded context key " ++ condition.key ++ "."))
          else none
      else none
    match contextFault with
    | some fault => some fault
    | none =>
      if condition.source = .environment ∧
          (condition.key ≠ "evaluatedAt" ∨ condition.type ≠ .datetime) then
        some (fail "policy_caveat_conditions_typed" ("Policy caveat " ++ caveat.name ++
          " can only use environment.evaluatedAt datetime conditions."))
      else none

/-- mirrors packages/core/src/policy-model.ts:570-595 -/
def checkCaveats (model : PolicyModel) : PolicyModelValidationCheck :=
  let caveats := model.caveats.getD []
  let unique := checkUnique "policy_caveats_unique" (caveats.map (·.name))
  if unique.status = .fail then unique
  else
    (caveats.findSome? fun caveat =>
      if caveat.failClosed ≠ true ∨ caveat.reasonCode = "" then
        some (fail "policy_caveats_fail_closed" ("Policy caveat " ++ caveat.name ++
          " must declare a fail-closed reason code."))
      else if caveat.conditions.isEmpty then
        some (fail "policy_caveat_conditions_declared" ("Policy caveat " ++ caveat.name ++
          " must declare at least one condition."))
      else caveat.conditions.findSome? (validateCaveatCondition H model caveat)).getD
    (pass "policy_caveats_fail_closed" "Policy caveats are typed and fail closed.")

end

section checks

def caveatNames (model : PolicyModel) : List String := (model.caveats.getD []).map (·.name)

/-- Enter the bindings `relation:action` of some actions, or stop at the first
action that is bound already.
mirrors packages/core/src/policy-model.ts:669-675 -/
def bindActions (relation : String) : List String → List String → Except String (List String)
  | [], bindings => .ok bindings
  | a :: actions, bindings =>
    let binding := relation ++ ":" ++ a
    if binding ∈ bindings then .error a else bindActions relation actions (bindings ++ [binding])

/-- The references of one conditional relationship.
mirrors packages/core/src/policy-model.ts:644-662 -/
def conditionalReferenceFault (model : PolicyModel) (c : PolicyModelConditionalRelationship) :
    Option PolicyModelValidationCheck :=
  if c.relation ∉ relationNames model then
    some (fail "conditional_relationships_known"
      ("Conditional relationship references unknown relation " ++ c.relation ++ "."))
  else if c.caveats.isEmpty then
    some (fail "conditional_relationships_caveats_known" ("Conditional relationship " ++ c.relation ++
      " must name at least one caveat."))
  else
    match c.caveats.find? fun n => n ∉ caveatNames model with
    | some n => some (fail "conditional_relationships_caveats_known" ("Conditional relationship " ++
        c.relation ++ " references unknown caveat " ++ n ++ "."))
    | none =>
      if c.actions = some [] then
        some (fail "conditional_relationships_actions_known" ("Conditional relationship " ++
          c.relation ++ " must name at least one action when actions are declared."))
      else ((c.actions.getD []).find? fun a => a ∉ actionNames model).map fun a =>
        fail "conditional_relationships_actions_known" ("Conditional relationship " ++ c.relation ++
          " references unknown action " ++ a ++ ".")

def insertString (s : String) : List String → List String
  | [] => [s]
  | t :: l => if stringLe s t then s :: t :: l else t :: insertString s l

/-- `[...names].sort()` -/
def sortStrings (l : List String) : List String := l.foldr insertString []

/-- The actions a conditional relationship is bound for. -/
def scopedActions (model : PolicyModel) (c : PolicyModelConditionalRelationship) : List String :=
  c.actions.getD (sortStrings (actionNames model).eraseDups)

/-- The loop over the conditional relationships, with the bindings so far.
mirrors packages/core/src/policy-model.ts:643-676 -/
def conditionalFault (model : PolicyModel) :
    List PolicyModelConditionalRelationship → List String → Option PolicyModelValidationCheck
  | [], _ => none
  | c :: cs, bindings =>
    match conditionalReferenceFault model c with
    | some fault => some fault
    | none =>
      let names := scopedActions model c
      if names.eraseDups.length ≠ names.length then
        some (fail "conditional_relationships_unique" ("Conditional relationship " ++ c.relation ++
          " declares duplicate actions."))
      else
        match bindActions c.relation names.eraseDups bindings with
        | .error a => some (fail "conditional_relationships_unique" ("Conditional relationship " ++
            c.relation ++ " has duplicate conditionals for action " ++ a ++ "."))
        | .ok bindings => conditionalFault model cs bindings

/-- mirrors packages/core/src/policy-model.ts:635-682 -/
def checkConditionalRelationships (model : PolicyModel) : List PolicyModelValidationCheck :=
  match conditionalFault model (model.conditionalRelationships.getD []) [] with
  | some fault => [fault]
  | none =>
    [pass "conditional_relationships_unique"
      "Conditional relationship relation/action bindings are unique.",
     pass "conditional_relationships_known"
      "Conditional relationships reference known relations, actions, and caveats."]

/-- mirrors packages/core/src/policy-model.ts:684-709 -/
def checkExplanationPolicy (model : PolicyModel) : PolicyModelValidationCheck :=
  match model.explanation with
  | none => pass "deterministic_explanation_policy" "No advanced explanation policy is declared."
  | some explanation =>
    if explanation.deterministic ≠ true then
      fail "deterministic_explanation_policy" "Explanation policy must be deterministic."
    else
      match explanation.includeContextKeys.find? fun k =>
          k ∉ model.contextConstraints.map (·.key) with
      | some k => fail "deterministic_explanation_policy"
          ("Explanation policy references unknown context key " ++ k ++ ".")
      | none =>
        match explanation.includeCaveatNames.find? fun n => n ∉ caveatNames model with
        | some n => fail "deterministic_explanation_policy"
            ("Explanation policy references unknown caveat " ++ n ++ ".")
        | none => pass "deterministic_explanation_policy"
            "Explanation policy references known context keys and caveats."

/-- The loop over the migrations, with the expected version and those seen.
mirrors packages/core/src/policy-model.ts:765-777 -/
def migrationFault : List PolicyModelMigration → String → List String →
    Option PolicyModelValidationCheck
  | [], _, _ => none
  | m :: ms, expectedFrom, seenVersions =>
    if m.fromVersion ≠ expectedFrom then
      some (fail "migrations_ordered" ("Migration from " ++ m.fromVersion ++
        " does not follow expected version " ++ expectedFrom ++ "."))
    else if m.toVersion = m.fromVersion ∨ m.toVersion ∈ seenVersions then
      some (fail "migrations_acyclic" ("Migration " ++ m.fromVersion ++ " -> " ++ m.toVersion ++
        " would create a policy version cycle."))
    else if m.operations.isEmpty then
      some (fail "migrations_have_operations" ("Migration " ++ m.fromVersion ++ " -> " ++
        m.toVersion ++ " must declare operations."))
    else migrationFault ms m.toVersion (m.toVersion :: seenVersions)

/-- mirrors packages/core/src/policy-model.ts:761-779 -/
def checkMigrations (model : PolicyModel) : PolicyModelValidationCheck :=
  (migrationFault model.migrations model.version [model.version]).getD
    (pass "migrations_ordered" "Migrations are ordered and reviewable.")

/-- `metadata?.source ?? metadata?.generatedBy`, which only warns.
mirrors packages/core/src/policy-model.ts:781-791 -/
def checkGeneratedMetadata (model : PolicyModel) : PolicyModelValidationCheck :=
  let read (key : String) : JsValue := JsonRecord.get (model.metadata.getD []) key
  let source := if (read "source").isUndefined || (read "source").isNull then read "generatedBy"
    else read "source"
  if source.strictEq (.str "llm") then
    ⟨"generated_policy_validated", .warn,
      "Generated policy metadata is allowed only after the same deterministic validation passes."⟩
  else pass "generated_policy_validated" "No generated-policy bypass metadata is present."

end checks

/-- mirrors packages/core/src/policy-model.ts:338-376 -/
def policyModelChecks (H : Host) (model : PolicyModel) : List PolicyModelValidationCheck :=
  [checkSchemaVersion model,
   checkUnique "resource_types_unique" (model.resourceTypes.map (·.type.name)),
   checkUnique "relations_unique" (relationNames model),
   checkUnique "actions_unique" (actionNames model)] ++
  checkKnownResourceTypes model ++
  [checkRelations model, checkActionMappings model, checkInheritanceRules model,
   checkDenyRules model, checkTenantBoundary model, checkClassificationConstraints model] ++
  checkContextConstraints H model ++
  [checkCaveats H model] ++
  checkConditionalRelationships model ++
  [checkExplanationPolicy model, checkMigrations model, checkGeneratedMetadata model]

/-- mirrors packages/core/src/policy-model.ts:338-376 -/
def validatePolicyModel (H : Host) (model : PolicyModel) : PolicyModelValidationResult :=
  ⟨(policyModelChecks H model).all fun c => c.status ≠ .fail, policyModelChecks H model⟩

end AccessKit.L3
