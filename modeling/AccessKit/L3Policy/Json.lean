import AccessKit.L2Audit.Events
import AccessKit.L3Policy.Model

/-!
# Policy models as JavaScript values

What a draft is hashed as (packages/core/src/policy-model.ts:12-124); an optional
property that is absent is `undefined`.
-/
namespace AccessKit.L3
open AccessKit.L1 AccessKit.L2.Audit

/-- The string literal of the source. -/
def PolicyModelRelationKind.name : PolicyModelRelationKind → String
  | .membership => "membership"
  | .grant => "grant"
  | .containment => "containment"
  | .deny => "deny"

/-- The string literal of the source. -/
def PolicyModelTenantBoundarySource.name : PolicyModelTenantBoundarySource → String
  | .subject => "subject"
  | .resource => "resource"
  | .context => "context"

/-- The string literal of the source. -/
def PolicyModelCaveatConditionSource.name : PolicyModelCaveatConditionSource → String
  | .subject => "subject"
  | .resource => "resource"
  | .relationship => "relationship"
  | .context => "context"
  | .environment => "environment"

/-- The string literal of the source. -/
def PolicyModelNodeType.name : PolicyModelNodeType → String
  | .subject t => t.name
  | .resource t => t.name

/-- A list of strings. -/
def strings (l : List String) : JsValue := .arr (l.map .str)

/-- An optional property, `undefined` when it is absent. -/
def optionalJs {α : Type} (toJs : α → JsValue) : Option α → JsValue
  | none => .undefined
  | some a => toJs a

def PolicyModelResourceType.toJs (t : PolicyModelResourceType) : JsValue :=
  .obj [("type", .str t.type.name),
    ("allowedParentTypes", optionalJs (fun l => strings (l.map ResourceType.name)) t.allowedParentTypes),
    ("classifications", strings t.classifications)]

def PolicyModelRelation.toJs (r : PolicyModelRelation) : JsValue :=
  .obj [("name", .str r.name), ("kind", .str r.kind.name),
    ("subjectTypes", strings (r.subjectTypes.map PolicyModelNodeType.name)),
    ("objectTypes", strings (r.objectTypes.map PolicyModelNodeType.name))]

def PolicyModelActionMapping.toJs (a : PolicyModelActionMapping) : JsValue :=
  .obj [("name", .str a.name), ("grants", strings a.grants)]

def PolicyModelInheritanceRule.toJs (r : PolicyModelInheritanceRule) : JsValue :=
  .obj [("name", .str r.name), ("relation", .str r.relation), ("through", .str r.through),
    ("actions", strings r.actions)]

def PolicyModelDenyRule.toJs (r : PolicyModelDenyRule) : JsValue :=
  .obj [("name", .str r.name), ("relation", .str r.relation),
    ("actions", optionalJs strings r.actions), ("precedence", .str "override")]

def PolicyModelContextConstraint.toJs (c : PolicyModelContextConstraint) : JsValue :=
  .obj [("key", .str c.key), ("type", .str c.type.name), ("required", optionalJs .bool c.required),
    ("auditable", optionalJs .bool c.auditable), ("min", optionalJs .num c.min),
    ("max", optionalJs .num c.max), ("maxLength", optionalJs .num c.maxLength),
    ("allowedValues", optionalJs .arr c.allowedValues)]

def PolicyModelClassificationConstraint.toJs (c : PolicyModelClassificationConstraint) : JsValue :=
  .obj [("classification", .str c.classification), ("allowedActions", strings c.allowedActions)]

def PolicyModelTenantBoundary.toJs (b : PolicyModelTenantBoundary) : JsValue :=
  .obj [("key", .str b.key), ("source", .str b.source.name),
    ("crossTenantTraversal", .bool b.crossTenantTraversal)]

def PolicyModelMigration.toJs (m : PolicyModelMigration) : JsValue :=
  .obj [("fromVersion", .str m.fromVersion), ("toVersion", .str m.toVersion),
    ("operations", strings m.operations)]

def PolicyModelCaveatCondition.toJs (c : PolicyModelCaveatCondition) : JsValue :=
  .obj [("source", .str c.source.name), ("key", .str c.key), ("type", .str c.type.name),
    ("operator", .str c.operator.name), ("value", c.value)]

def PolicyModelCaveat.toJs (c : PolicyModelCaveat) : JsValue :=
  .obj [("name", .str c.name), ("failClosed", .bool c.failClosed), ("reasonCode", .str c.reasonCode),
    ("conditions", .arr (c.conditions.map PolicyModelCaveatCondition.toJs))]

def PolicyModelConditionalRelationship.toJs (r : PolicyModelConditionalRelationship) : JsValue :=
  .obj [("relation", .str r.relation), ("caveats", strings r.caveats),
    ("actions", optionalJs strings r.actions)]

def PolicyModelExplanationPolicy.toJs (e : PolicyModelExplanationPolicy) : JsValue :=
  .obj [("deterministic", .bool e.deterministic),
    ("includeContextKeys", strings e.includeContextKeys),
    ("includeCaveatNames", strings e.includeCaveatNames)]

def PolicyModel.toJs (m : PolicyModel) : JsValue :=
  .obj [("schemaVersion", .str m.schemaVersion), ("id", .str m.id), ("version", .str m.version),
    ("resourceTypes", .arr (m.resourceTypes.map PolicyModelResourceType.toJs)),
    ("relations", .arr (m.relations.map PolicyModelRelation.toJs)),
    ("actions", .arr (m.actions.map PolicyModelActionMapping.toJs)),
    ("inheritanceRules", .arr (m.inheritanceRules.map PolicyModelInheritanceRule.toJs)),
    ("denyRules", .arr (m.denyRules.map PolicyModelDenyRule.toJs)),
    ("contextConstraints", .arr (m.contextConstraints.map PolicyModelContextConstraint.toJs)),
    ("classificationConstraints",
      .arr (m.classificationConstraints.map PolicyModelClassificationConstraint.toJs)),
    ("tenantBoundary", m.tenantBoundary.toJs),
    ("migrations", .arr (m.migrations.map PolicyModelMigration.toJs)),
    ("caveats", optionalJs (fun l => .arr (l.map PolicyModelCaveat.toJs)) m.caveats),
    ("conditionalRelationships", optionalJs
      (fun l => .arr (l.map PolicyModelConditionalRelationship.toJs)) m.conditionalRelationships),
    ("explanation", optionalJs PolicyModelExplanationPolicy.toJs m.explanation),
    ("metadata", optionalJs .obj m.metadata)]

end AccessKit.L3
