import AccessKit.L1Domain.Entities

/-!
# Policy models

packages/core/src/policy-model.ts:1-242: the policy model a decision is made
under, and the default one. Enumerations of string literals are inductive
types; the values a model compares with (`value`, `allowedValues`, `metadata`)
are arbitrary JavaScript values, as nothing but the validation restricts
them. The `precedence` of a deny rule has one possible value and is left out.
-/
namespace AccessKit.L3
open AccessKit.L1

def POLICY_MODEL_SCHEMA_VERSION : String := "access-kit.policy-model.v1"

inductive PolicyModelRelationKind
  | membership
  | grant
  | containment
  | deny
  deriving DecidableEq, Repr

inductive PolicyModelContextType
  | string
  | number
  | boolean
  | datetime
  deriving DecidableEq, Repr

/-- The string literal of the source. -/
def PolicyModelContextType.name : PolicyModelContextType → String
  | .string => "string"
  | .number => "number"
  | .boolean => "boolean"
  | .datetime => "datetime"

inductive PolicyModelTenantBoundarySource
  | subject
  | resource
  | context
  deriving DecidableEq, Repr

inductive PolicyModelCaveatConditionSource
  | subject
  | resource
  | relationship
  | context
  | environment
  deriving DecidableEq, Repr

inductive PolicyModelCaveatOperator
  | equals
  | oneOf
  | lessThanOrEqual
  | greaterThanOrEqual
  | before
  | after
  deriving DecidableEq, Repr

/-- The string literal of the source. -/
def PolicyModelCaveatOperator.name : PolicyModelCaveatOperator → String
  | .equals => "equals"
  | .oneOf => "one_of"
  | .lessThanOrEqual => "less_than_or_equal"
  | .greaterThanOrEqual => "greater_than_or_equal"
  | .before => "before"
  | .after => "after"

inductive PolicyModelNodeType
  | subject (t : SubjectType)
  | resource (t : ResourceType)
  deriving DecidableEq, Repr

structure PolicyModelResourceType where
  type : ResourceType
  allowedParentTypes : Option (List ResourceType) := none
  classifications : List String

structure PolicyModelRelation where
  name : String
  kind : PolicyModelRelationKind
  subjectTypes : List PolicyModelNodeType
  objectTypes : List PolicyModelNodeType

structure PolicyModelActionMapping where
  name : String
  grants : List String

structure PolicyModelInheritanceRule where
  name : String
  relation : String
  through : String
  actions : List String

structure PolicyModelDenyRule where
  name : String
  relation : String
  actions : Option (List String) := none

structure PolicyModelContextConstraint where
  key : String
  type : PolicyModelContextType
  required : Option Bool := none
  auditable : Option Bool := none
  min : Option JsNumber := none
  max : Option JsNumber := none
  maxLength : Option JsNumber := none
  allowedValues : Option (List JsValue) := none

structure PolicyModelClassificationConstraint where
  classification : String
  allowedActions : List String

structure PolicyModelTenantBoundary where
  key : String
  source : PolicyModelTenantBoundarySource
  crossTenantTraversal : Bool

structure PolicyModelMigration where
  fromVersion : String
  toVersion : String
  operations : List String

structure PolicyModelCaveatCondition where
  source : PolicyModelCaveatConditionSource
  key : String
  type : PolicyModelContextType
  operator : PolicyModelCaveatOperator
  value : JsValue

structure PolicyModelCaveat where
  name : String
  failClosed : Bool
  reasonCode : String
  conditions : List PolicyModelCaveatCondition

structure PolicyModelConditionalRelationship where
  relation : String
  caveats : List String
  actions : Option (List String) := none

structure PolicyModelExplanationPolicy where
  deterministic : Bool
  includeContextKeys : List String
  includeCaveatNames : List String

/-- mirrors packages/core/src/policy-model.ts:107-124 -/
structure PolicyModel where
  schemaVersion : String
  id : String
  version : String
  resourceTypes : List PolicyModelResourceType
  relations : List PolicyModelRelation
  actions : List PolicyModelActionMapping
  inheritanceRules : List PolicyModelInheritanceRule
  denyRules : List PolicyModelDenyRule
  contextConstraints : List PolicyModelContextConstraint
  classificationConstraints : List PolicyModelClassificationConstraint
  tenantBoundary : PolicyModelTenantBoundary
  migrations : List PolicyModelMigration
  caveats : Option (List PolicyModelCaveat) := none
  conditionalRelationships : Option (List PolicyModelConditionalRelationship) := none
  explanation : Option PolicyModelExplanationPolicy := none
  metadata : Option JsonRecord := none

/-! ## The default model -/

/-- mirrors packages/core/src/policy-model.ts:138-146 -/
def defaultActionGrants : List PolicyModelActionMapping :=
  [⟨"read", ["viewer_of", "reader_of", "contributor_to", "owner_of", "admin_of"]⟩,
   ⟨"view", ["viewer_of", "reader_of", "contributor_to", "owner_of", "admin_of"]⟩,
   ⟨"write", ["contributor_to", "owner_of", "admin_of"]⟩,
   ⟨"contribute", ["contributor_to", "owner_of", "admin_of"]⟩,
   ⟨"admin", ["owner_of", "admin_of"]⟩,
   ⟨"administer", ["owner_of", "admin_of"]⟩,
   ⟨"manage", ["owner_of", "admin_of"]⟩]

def defaultActionNames : List String := defaultActionGrants.map (·.name)

/-- The endpoints of the default grant and deny relations. -/
def defaultGrantee : List PolicyModelNodeType :=
  [.subject .user, .subject .group, .subject .serviceAccount]

def defaultGrantable : List PolicyModelNodeType :=
  [.resource .workspace, .resource .folder, .resource .document, .resource .application,
   .resource .dataset, .resource .api]

/-- mirrors packages/core/src/policy-model.ts:174-242 -/
def createDefaultPolicyModel : PolicyModel where
  schemaVersion := POLICY_MODEL_SCHEMA_VERSION
  id := "policy-model:local-rebac-v1"
  version := "policy:local-v1"
  resourceTypes :=
    [⟨.organization, none, ["internal"]⟩,
     ⟨.workspace, some [.organization], ["internal"]⟩,
     ⟨.folder, some [.workspace, .folder], ["internal", "confidential"]⟩,
     ⟨.document, some [.workspace, .folder], ["internal", "confidential"]⟩,
     ⟨.application, some [.organization], ["internal"]⟩,
     ⟨.dataset, some [.workspace], ["internal", "confidential"]⟩,
     ⟨.api, some [.application], ["internal"]⟩]
  relations :=
    [⟨"member_of", .membership, [.subject .user, .subject .group], [.subject .group]⟩,
     ⟨"contains", .containment,
       [.resource .organization, .resource .workspace, .resource .folder],
       [.resource .workspace, .resource .folder, .resource .document, .resource .application,
        .resource .dataset, .resource .api]⟩,
     ⟨"viewer_of", .grant, defaultGrantee, defaultGrantable⟩,
     ⟨"reader_of", .grant, defaultGrantee, defaultGrantable⟩,
     ⟨"contributor_to", .grant, defaultGrantee, defaultGrantable⟩,
     ⟨"owner_of", .grant, defaultGrantee, defaultGrantable⟩,
     ⟨"admin_of", .grant, defaultGrantee, defaultGrantable⟩,
     ⟨"denied", .deny, defaultGrantee, defaultGrantable⟩,
     ⟨"denied_read", .deny, defaultGrantee, defaultGrantable⟩,
     ⟨"quarantined_from", .deny, defaultGrantee, defaultGrantable⟩]
  actions := defaultActionGrants
  inheritanceRules :=
    [⟨"group-membership-grants", "member_of", "member_of", defaultActionNames⟩,
     ⟨"container-resource-grants", "contains", "contains",
       ["read", "view", "write", "contribute", "admin", "administer", "manage"]⟩]
  denyRules :=
    [⟨"explicit-deny", "denied", none⟩,
     ⟨"read-deny", "denied_read", some ["read", "view"]⟩,
     ⟨"quarantine-deny", "quarantined_from", none⟩]
  contextConstraints := [{ key := "purpose", type := .string }, { key := "riskScore", type := .number }]
  classificationConstraints :=
    [⟨"internal", defaultActionNames⟩,
     ⟨"confidential", ["read", "view", "write", "contribute", "admin", "administer", "manage"]⟩]
  tenantBoundary := ⟨"tenantId", .resource, false⟩
  migrations := []
  caveats := some []
  conditionalRelationships := some []
  explanation := some ⟨true, [], []⟩

end AccessKit.L3
