import AccessKit.Core.Loop
import AccessKit.L2Graph.Store
import AccessKit.L3Policy.Valid

/-!
# Caveats on the path of a decision

packages/core/src/engine.ts:428-632: the conditional relationships of the
policy model are evaluated along the path the allow search returned, step by
step and caveat by caveat, until one fails.

A path's steps are the images of its relationships, so that the relationship
of a step is always there; the branch of the source that handles a missing one
is not reachable and is left out.

Results:
* `caveats_allow_iff`: the evaluation allows iff every tuple of the path
  passes on its own (`stepPasses`), whatever their order.
* `caveatPasses_of_step`, `stepPasses_of_caveats`: a tuple passes iff it
  satisfies the conditional relationships that name the action.
* `stepPasses_over`: what a tuple needs of the store.
-/
namespace AccessKit.L4
open AccessKit.Core AccessKit.L1 AccessKit.L2.Store AccessKit.L3

inductive ConditionStatus
  | pass
  | fail
  | missing
  | invalid
  deriving DecidableEq, Repr

inductive CaveatStatus
  | pass
  | fail
  | invalid
  deriving DecidableEq, Repr

/-- mirrors packages/core/src/engine.ts:625-632 -/
structure ConditionExplanation where
  source : PolicyModelCaveatConditionSource
  key : String
  operator : PolicyModelCaveatOperator
  status : ConditionStatus
  deriving DecidableEq, Repr

/-- mirrors packages/core/src/engine.ts:609-623 -/
structure CaveatExplanation where
  caveat : String
  relation : String
  status : CaveatStatus
  reasonCode : Option String
  conditions : List ConditionExplanation
  deriving DecidableEq, Repr

/-- The value of `policyCaveats`. -/
structure PolicyCaveats where
  policyModelVersion : String
  results : List CaveatExplanation
  deriving DecidableEq, Repr

/-- `{ allow, reasonCode, constraints }` -/
inductive CaveatResult
  | allow (constraints : Option PolicyCaveats)
  | deny (reasonCode : String) (constraints : Option PolicyCaveats)
  deriving DecidableEq, Repr

/-- What the conditions of a caveat are evaluated against. -/
structure CaveatInput where
  store : InMemoryRebacStore
  policyModel : PolicyModel
  request : DecisionRequest
  evaluatedAt : IsoDateTime

/-- A string property that may be missing. -/
def optionalString : Option String → JsValue
  | some s => .str s
  | none => .undefined

/-- The attributes under the direct properties, which are set even when the
record has none of them.
mirrors packages/core/src/engine.ts:544-557 -/
def directAndAttributeRecord (attributes : Option JsonRecord)
    (status lifecycleState classification assertedAt expiresAt : JsValue) : JsonRecord :=
  JsonRecord.spread (attributes.getD [])
    [("status", status), ("lifecycleState", lifecycleState), ("classification", classification),
     ("assertedAt", assertedAt), ("expiresAt", expiresAt)]

def subjectRecord (s : Subject) : JsonRecord :=
  directAndAttributeRecord s.attributes .undefined (.str s.lifecycleState.name) .undefined
    .undefined .undefined

def resourceRecord (r : Resource) : JsonRecord :=
  directAndAttributeRecord r.attributes .undefined (.str r.lifecycleState.name)
    (.str r.classification) .undefined .undefined

def relationshipRecord (r : RelationshipTuple) : JsonRecord :=
  directAndAttributeRecord r.attributes (.str r.status.name) .undefined .undefined
    (.str r.assertedAt) (optionalString r.expiresAt)

/-- The value, unless it is `undefined` or `null`.
mirrors packages/core/src/engine.ts:559-564 -/
def valueAt (record : Option JsonRecord) (key : String) : Option JsValue :=
  match record with
  | none => none
  | some record =>
    let v := JsonRecord.get record key
    if v.isUndefined || v.isNull then none else some v

/-- mirrors packages/core/src/engine.ts:595-607 -/
def caveatConstraints (policyModel : PolicyModel) (explanations : List CaveatExplanation) :
    Option PolicyCaveats :=
  if explanations.isEmpty then none else some ⟨policyModel.version, explanations⟩

namespace CaveatInput

/-- `caveatsByName.get(name)`: of two caveats with one name the last wins. -/
def caveatByName (inp : CaveatInput) (name : String) : Option PolicyModelCaveat :=
  (inp.policyModel.caveats.getD []).reverse.find? fun c => c.name == name

/-- The conditional relationships for the action of the request.
mirrors packages/core/src/engine.ts:437-439 -/
def conditionalRelationships (inp : CaveatInput) : List PolicyModelConditionalRelationship :=
  (inp.policyModel.conditionalRelationships.getD []).filter fun c =>
    match c.actions with
    | none => true
    | some actions => actions.contains inp.request.action

/-- mirrors packages/core/src/engine.ts:443 -/
def matchingConditionals (inp : CaveatInput) (relation : String) :
    List PolicyModelConditionalRelationship :=
  inp.conditionalRelationships.filter fun c => c.relation == relation

end CaveatInput

section
variable (H : Host)

/-- mirrors packages/core/src/engine.ts:588-593 -/
def valueMatchesContextType (value : JsValue) (type : PolicyModelContextType) : Bool :=
  valueMatchesType H value type

/-- mirrors packages/core/src/engine.ts:566-586 -/
def compareCondition (actual : JsValue) (condition : PolicyModelCaveatCondition) : Bool :=
  match condition.operator with
  | .equals => actual.strictEq condition.value
  | .oneOf =>
    match condition.value with
    | .arr candidates => candidates.any fun c => c.strictEq actual
    | _ => false
  | .lessThanOrEqual =>
    match actual, condition.value with
    | .num a, .num v => a.le v
    | _, _ => false
  | .greaterThanOrEqual =>
    match actual, condition.value with
    | .num a, .num v => v.le a
    | _, _ => false
  | .before =>
    match actual, condition.value with
    | .str a, .str v => gtMs (dateParse H v) (dateParse H a)
    | _, _ => false
  | .after =>
    match actual, condition.value with
    | .str a, .str v => gtMs (dateParse H a) (dateParse H v)
    | _, _ => false

/-- mirrors packages/core/src/engine.ts:520-542 -/
def resolveConditionValue (inp : CaveatInput) (r : RelationshipTuple)
    (condition : PolicyModelCaveatCondition) : Option JsValue :=
  match condition.source with
  | .context => valueAt inp.request.context condition.key
  | .environment => if condition.key = "evaluatedAt" then some (.str inp.evaluatedAt) else none
  | .relationship => valueAt (some (relationshipRecord r)) condition.key
  | .subject =>
    valueAt ((inp.store.getSubject inp.request.subjectId).map subjectRecord) condition.key
  | .resource =>
    valueAt ((inp.store.getResource inp.request.resourceId).map resourceRecord) condition.key

/-- mirrors packages/core/src/engine.ts:501-518 -/
def evaluateCaveatCondition (inp : CaveatInput) (r : RelationshipTuple)
    (condition : PolicyModelCaveatCondition) : ConditionExplanation :=
  let explain (status : ConditionStatus) : ConditionExplanation :=
    ⟨condition.source, condition.key, condition.operator, status⟩
  match resolveConditionValue inp r condition with
  | none => explain .missing
  | some actual =>
    if valueMatchesContextType H actual condition.type = false then explain .invalid
    else explain (if compareCondition H actual condition then .pass else .fail)

/-- The body of the loop over the caveats of a step.
mirrors packages/core/src/engine.ts:459-491 -/
def evaluateCaveat (inp : CaveatInput) (r : RelationshipTuple) (caveatName : String)
    (explanations : List CaveatExplanation) : Flow (List CaveatExplanation) String :=
  match inp.caveatByName caveatName with
  | none =>
    let reasonCode := "DENY_POLICY_CAVEAT_INVALID"
    .stop (explanations ++ [⟨caveatName, r.relation, .invalid, some reasonCode, []⟩]) reasonCode
  | some caveat =>
    let conditionResults := caveat.conditions.map (evaluateCaveatCondition H inp r)
    if conditionResults.any fun c => c.status ≠ .pass then
      .stop (explanations ++
        [⟨caveat.name, r.relation, .fail, some caveat.reasonCode, conditionResults⟩])
        caveat.reasonCode
    else .step (explanations ++ [⟨caveat.name, r.relation, .pass, none, conditionResults⟩])

/-- The body of the loop over the steps of the path.
mirrors packages/core/src/engine.ts:442-492 -/
def evaluateStep (inp : CaveatInput) (r : RelationshipTuple)
    (explanations : List CaveatExplanation) : Flow (List CaveatExplanation) String :=
  match inp.matchingConditionals r.relation with
  | [] => .step explanations
  | [conditional] => forOf (evaluateCaveat H inp r) conditional.caveats explanations
  | _ =>
    let reasonCode := "DENY_POLICY_CAVEAT_INVALID"
    .stop (explanations ++ [⟨"duplicate-conditional-relationship", r.relation, .invalid,
      some reasonCode, []⟩]) reasonCode

/-- mirrors packages/core/src/engine.ts:428-499 -/
def evaluateConditionalRelationshipCaveats (inp : CaveatInput)
    (relationships : List RelationshipTuple) : CaveatResult :=
  match forOf (evaluateStep H inp) relationships [] with
  | .step explanations => .allow (caveatConstraints inp.policyModel explanations)
  | .stop explanations reasonCode =>
    .deny reasonCode (caveatConstraints inp.policyModel explanations)

/-! ## When the caveats allow -/

/-- Every condition of the named caveat passes on the tuple. -/
def caveatPasses (inp : CaveatInput) (r : RelationshipTuple) (caveatName : String) : Bool :=
  match inp.caveatByName caveatName with
  | none => false
  | some caveat => caveat.conditions.all fun c => (evaluateCaveatCondition H inp r c).status = .pass

/-- The tuple is not conditional, or it has one conditional relationship and
passes all of its caveats. -/
def stepPasses (inp : CaveatInput) (r : RelationshipTuple) : Bool :=
  match inp.matchingConditionals r.relation with
  | [] => true
  | [conditional] => conditional.caveats.all (caveatPasses H inp r)
  | _ => false

def CaveatResult.allows : CaveatResult → Bool
  | .allow _ => true
  | .deny _ _ => false

end

section
variable {H : Host} {inp : CaveatInput}

theorem evaluateCaveat_steps (r : RelationshipTuple) (name : String)
    (explanations : List CaveatExplanation) :
    (∃ e, evaluateCaveat H inp r name explanations = .step e) ↔ caveatPasses H inp r name = true := by
  unfold evaluateCaveat caveatPasses
  cases inp.caveatByName name with
  | none => simp
  | some caveat =>
    by_cases h : (caveat.conditions.map (evaluateCaveatCondition H inp r)).any
        fun c => c.status ≠ .pass
    · simp only [h, if_true, reduceCtorEq, exists_false, false_iff]
      simp only [List.any_map, List.any_eq_true, Function.comp, decide_eq_true_eq] at h
      obtain ⟨c, hc, hne⟩ := h
      simp only [List.all_eq_true, decide_eq_true_eq, not_forall]
      exact ⟨c, hc, hne⟩
    · simp only [h, if_false, Bool.false_eq_true, Flow.step.injEq, exists_eq', true_iff]
      simpa using h

theorem evaluateStep_steps (r : RelationshipTuple) (explanations : List CaveatExplanation) :
    (∃ e, evaluateStep H inp r explanations = .step e) ↔ stepPasses H inp r = true := by
  unfold evaluateStep stepPasses
  split
  · simp
  · rw [forOf_steps (evaluateCaveat_steps r), List.all_eq_true]
  · simp

/-- **The caveats allow** a path iff every tuple on it passes on its own. -/
theorem caveats_allow_iff {relationships : List RelationshipTuple} :
    (evaluateConditionalRelationshipCaveats H inp relationships).allows = true ↔
      ∀ r ∈ relationships, stepPasses H inp r = true := by
  rw [← forOf_steps evaluateStep_steps relationships []]
  unfold evaluateConditionalRelationshipCaveats
  cases forOf (evaluateStep H inp) relationships [] <;> simp [CaveatResult.allows]

theorem stepPasses_of_unconditional
    (h : inp.policyModel.conditionalRelationships.getD [] = []) (r : RelationshipTuple) :
    stepPasses H inp r = true := by
  simp [stepPasses, CaveatInput.matchingConditionals, CaveatInput.conditionalRelationships, h]

/-- Of the store the caveats read the two nodes of the request only. -/
theorem caveatPasses_over (inp : CaveatInput) (st : InMemoryRebacStore)
    (hs : st.getSubject inp.request.subjectId = inp.store.getSubject inp.request.subjectId)
    (hr : st.getResource inp.request.resourceId = inp.store.getResource inp.request.resourceId)
    (r : RelationshipTuple) :
    caveatPasses H { inp with store := st } r = caveatPasses H inp r := by
  have hresolve : ∀ c, resolveConditionValue { inp with store := st } r c =
      resolveConditionValue inp r c := by
    intro c
    unfold resolveConditionValue
    cases c.source <;> simp only [hs, hr]
  funext name
  simp only [caveatPasses, CaveatInput.caveatByName, evaluateCaveatCondition, hresolve]

theorem stepPasses_over (inp : CaveatInput) (st : InMemoryRebacStore)
    (hs : st.getSubject inp.request.subjectId = inp.store.getSubject inp.request.subjectId)
    (hr : st.getResource inp.request.resourceId = inp.store.getResource inp.request.resourceId)
    (r : RelationshipTuple) : stepPasses H { inp with store := st } r = stepPasses H inp r := by
  simp only [stepPasses, CaveatInput.matchingConditionals, CaveatInput.conditionalRelationships,
    caveatPasses_over inp st hs hr]

theorem matchingConditionals_eq (relation : String) : inp.matchingConditionals relation =
    (inp.policyModel.conditionalRelationships.getD []).filter fun c =>
      NamesExactly c inp.request.action && c.relation == relation := by
  rw [CaveatInput.matchingConditionals, CaveatInput.conditionalRelationships, List.filter_filter]
  refine List.filter_congr fun c _ => ?_
  rw [Bool.and_comm]
  rfl

theorem caveatPasses_of_step {r : RelationshipTuple} (h : stepPasses H inp r = true)
    {c : PolicyModelConditionalRelationship}
    (hc : c ∈ inp.policyModel.conditionalRelationships.getD []) (hrel : c.relation = r.relation)
    (hact : NamesExactly c inp.request.action = true) :
    ∀ name ∈ c.caveats, caveatPasses H inp r name = true := by
  have hm : c ∈ inp.matchingConditionals r.relation := by
    rw [matchingConditionals_eq]
    exact List.mem_filter.2 ⟨hc, by simp [hrel, hact]⟩
  unfold stepPasses at h
  split at h
  · rename_i heq
    rw [heq] at hm
    cases hm
  · rename_i d heq
    rw [heq, List.mem_singleton] at hm
    subst hm
    exact List.all_eq_true.1 h
  · cases h

/-- A tuple passes when it satisfies every conditional relationship that names
the action, provided there is one at most. -/
theorem stepPasses_of_caveats {r : RelationshipTuple}
    (hone : (inp.matchingConditionals r.relation).length ≤ 1)
    (h : ∀ c ∈ inp.policyModel.conditionalRelationships.getD [], c.relation = r.relation →
      NamesExactly c inp.request.action = true →
      ∀ name ∈ c.caveats, caveatPasses H inp r name = true) :
    stepPasses H inp r = true := by
  unfold stepPasses
  split
  · rfl
  · rename_i c heq
    have hm : c ∈ inp.matchingConditionals r.relation := by rw [heq]; exact List.mem_singleton_self c
    rw [matchingConditionals_eq, List.mem_filter] at hm
    obtain ⟨hc, hact⟩ := hm
    rw [Bool.and_eq_true, beq_iff_eq] at hact
    exact List.all_eq_true.2 (h c hc hact.2 hact.1)
  · rename_i hne hne'
    match hl : inp.matchingConditionals r.relation with
    | [] => exact absurd hl hne
    | [c] => exact absurd hl (hne' c)
    | _ :: _ :: _ =>
      rw [hl] at hone
      simp at hone

/-- Two evaluations allow the same paths when every tuple passes in one as in
the other. -/
theorem caveats_allows_congr {inp' : CaveatInput} {relationships : List RelationshipTuple}
    (h : ∀ r ∈ relationships, stepPasses H inp r = stepPasses H inp' r) :
    (evaluateConditionalRelationshipCaveats H inp relationships).allows =
      (evaluateConditionalRelationshipCaveats H inp' relationships).allows := by
  rw [Bool.eq_iff_iff, caveats_allow_iff, caveats_allow_iff]
  exact forall₂_congr fun r hr => by rw [h r hr]

end

end AccessKit.L4
