import Mathlib.Data.Finset.Basic
import Mathlib.Data.Finset.Union
import AccessKit.Core.OrderedMap
import AccessKit.L3Policy.Model

/-!
# Compiling a policy model

packages/core/src/policy-model.ts:244-336: the relation sets a decision looks
up, by kind and by lower-cased action. A `Set` is a `Finset`, a `Map` an
insertion-ordered map.

Results:
* `mem_grants`, `mem_traversals`, `mem_denies`: what the compiled sets of an
  action hold, in terms of the model.
* `kinds_disjoint`: with unique relation names, no relation has two kinds.
-/
namespace AccessKit.L3
open AccessKit.Core AccessKit.L1

abbrev RelationMap := OrderedMap String (Finset String)

/-- mirrors packages/core/src/policy-model.ts:244-251 -/
structure CompiledPolicyModel where
  membershipRelations : Finset String
  containmentRelations : Finset String
  grantRelationsByAction : RelationMap
  traversalRelationsByAction : RelationMap
  denyRelationsByAction : RelationMap
  unscopedDenyRelations : Finset String

/-- mirrors packages/core/src/policy-model.ts:510-512 -/
def relationNamesOfKind (model : PolicyModel) (kind : PolicyModelRelationKind) : Finset String :=
  ((model.relations.filter fun r => r.kind = kind).map (·.name)).toFinset

/-- `map.get(key) ?? new Set()` -/
def setAt (m : RelationMap) (key : String) : Finset String := (m.get? key).getD ∅

/-- Add relations to the set under a key, making the set if there is none. -/
def addAt (m : RelationMap) (key : String) (rels : Finset String) : RelationMap :=
  m.set key (setAt m key ∪ rels)

theorem mem_setAt_addAt {m : RelationMap} {key k : String} {rels : Finset String} {r : String} :
    r ∈ setAt (addAt m key rels) k ↔ r ∈ setAt m k ∨ (key = k ∧ r ∈ rels) := by
  unfold setAt addAt
  rw [OrderedMap.get?_set]
  by_cases h : key = k
  · subst h; simp [setAt]
  · simp [h]

theorem mem_setAt_foldl {α : Type*} (key : α → String) (rels : α → Finset String)
    (l : List α) (m : RelationMap) (k r : String) :
    r ∈ setAt (l.foldl (fun m a => addAt m (key a) (rels a)) m) k ↔
      r ∈ setAt m k ∨ ∃ a ∈ l, key a = k ∧ r ∈ rels a := by
  induction l generalizing m with
  | nil => simp
  | cons a l ih =>
    rw [List.foldl_cons, ih, mem_setAt_addAt]
    simp only [List.exists_mem_cons_iff]
    tauto

section
variable (H : Host)

/-- The loop over the actions: each adds the grants that are grant relations.
mirrors packages/core/src/policy-model.ts:280-290 -/
def grantRelationsByAction (model : PolicyModel) : RelationMap :=
  model.actions.foldl (fun m action => addAt m (toLowerCase H action.name)
    (action.grants.toFinset ∩ relationNamesOfKind model .grant)) .empty

/-- The loop over the inheritance rules; a rule through any other kind of
relation is skipped.
mirrors packages/core/src/policy-model.ts:292-303 -/
def traversalRelationsByAction (model : PolicyModel) : RelationMap :=
  model.inheritanceRules.foldl (fun m rule =>
    if rule.through ∉ relationNamesOfKind model .membership ∧
        rule.through ∉ relationNamesOfKind model .containment then m
    else rule.actions.foldl (fun m action => addAt m (toLowerCase H action) {rule.through}) m)
    .empty

/-- The deny rules without actions.
mirrors packages/core/src/policy-model.ts:306-316 -/
def unscopedDenyRelations (model : PolicyModel) : Finset String :=
  ((model.denyRules.filter fun rule => rule.relation ∈ relationNamesOfKind model .deny ∧
    rule.actions.isNone).map (·.relation)).toFinset

/-- The deny rules with actions.
mirrors packages/core/src/policy-model.ts:307-323 -/
def scopedDenyRelationsByAction (model : PolicyModel) : RelationMap :=
  model.denyRules.foldl (fun m rule =>
    if rule.relation ∉ relationNamesOfKind model .deny then m
    else
      match rule.actions with
      | none => m
      | some actions =>
        actions.foldl (fun m action => addAt m (toLowerCase H action) {rule.relation}) m)
    .empty

/-- mirrors packages/core/src/policy-model.ts:253-336 -/
def compilePolicyModel (model : PolicyModel) : CompiledPolicyModel where
  membershipRelations := relationNamesOfKind model .membership
  containmentRelations := relationNamesOfKind model .containment
  grantRelationsByAction := grantRelationsByAction H model
  traversalRelationsByAction := traversalRelationsByAction H model
  denyRelationsByAction :=
    (scopedDenyRelationsByAction H model).map fun rels => unscopedDenyRelations model ∪ rels
  unscopedDenyRelations := unscopedDenyRelations model

end

namespace CompiledPolicyModel

/-- `grantRelationsByAction.get(actionKey) ?? emptyRelationSet` -/
def grants (c : CompiledPolicyModel) (actionKey : String) : Finset String :=
  setAt c.grantRelationsByAction actionKey

/-- `traversalRelationsByAction.get(actionKey) ?? emptyRelationSet` -/
def traversals (c : CompiledPolicyModel) (actionKey : String) : Finset String :=
  setAt c.traversalRelationsByAction actionKey

/-- `denyRelationsByAction.get(actionKey) ?? unscopedDenyRelations` -/
def denies (c : CompiledPolicyModel) (actionKey : String) : Finset String :=
  (c.denyRelationsByAction.get? actionKey).getD c.unscopedDenyRelations

end CompiledPolicyModel

/-! ## What the compiled sets hold -/

section
variable {H : Host} {model : PolicyModel}

theorem mem_relationNamesOfKind {kind : PolicyModelRelationKind} {r : String} :
    r ∈ relationNamesOfKind model kind ↔ ∃ rel ∈ model.relations, rel.kind = kind ∧
      rel.name = r := by
  simp only [relationNamesOfKind, List.mem_toFinset, List.mem_map, List.mem_filter,
    decide_eq_true_eq]
  constructor
  · rintro ⟨rel, ⟨hm, hk⟩, rfl⟩; exact ⟨rel, hm, hk, rfl⟩
  · rintro ⟨rel, hm, hk, rfl⟩; exact ⟨rel, ⟨hm, hk⟩, rfl⟩

theorem kinds_disjoint (hu : (model.relations.map (·.name)).Nodup)
    {k k' : PolicyModelRelationKind} {r : String} (h : r ∈ relationNamesOfKind model k)
    (h' : r ∈ relationNamesOfKind model k') : k = k' := by
  obtain ⟨a, ha, rfl, hr⟩ := mem_relationNamesOfKind.1 h
  obtain ⟨b, hb, rfl, hr'⟩ := mem_relationNamesOfKind.1 h'
  have : a = b := List.inj_on_of_nodup_map hu ha hb (hr.trans hr'.symm)
  rw [this]

theorem mem_grants {k r : String} :
    r ∈ (compilePolicyModel H model).grants k ↔ r ∈ relationNamesOfKind model .grant ∧
      ∃ a ∈ model.actions, toLowerCase H a.name = k ∧ r ∈ a.grants := by
  rw [CompiledPolicyModel.grants, compilePolicyModel, grantRelationsByAction, mem_setAt_foldl]
  simp only [setAt, OrderedMap.get?_empty, Option.getD_none, Finset.notMem_empty, false_or,
    Finset.mem_inter, List.mem_toFinset]
  constructor
  · rintro ⟨a, ha, hk, hr, hg⟩; exact ⟨hg, a, ha, hk, hr⟩
  · rintro ⟨hg, a, ha, hk, hr⟩; exact ⟨a, ha, hk, hr, hg⟩

theorem mem_traversals {k r : String} :
    r ∈ (compilePolicyModel H model).traversals k ↔
      (r ∈ relationNamesOfKind model .membership ∨ r ∈ relationNamesOfKind model .containment) ∧
      ∃ rule ∈ model.inheritanceRules, rule.through = r ∧
        ∃ a ∈ rule.actions, toLowerCase H a = k := by
  have h : ∀ (rules : List PolicyModelInheritanceRule) (m : RelationMap),
      r ∈ setAt (rules.foldl (fun m rule =>
        if rule.through ∉ relationNamesOfKind model .membership ∧
            rule.through ∉ relationNamesOfKind model .containment then m
        else rule.actions.foldl (fun m action => addAt m (toLowerCase H action) {rule.through}) m)
        m) k ↔ r ∈ setAt m k ∨
          ((r ∈ relationNamesOfKind model .membership ∨
              r ∈ relationNamesOfKind model .containment) ∧
            ∃ rule ∈ rules, rule.through = r ∧ ∃ a ∈ rule.actions, toLowerCase H a = k) := by
    intro rules
    induction rules with
    | nil => simp
    | cons rule rules ih =>
      intro m
      rw [List.foldl_cons, ih]
      simp only [List.exists_mem_cons_iff]
      split
      · rename_i hnot
        constructor
        · rintro (h | ⟨hk, h⟩)
          · exact .inl h
          · exact .inr ⟨hk, .inr h⟩
        · rintro (h | ⟨hk, ⟨rfl, -⟩ | h⟩)
          · exact .inl h
          · exact absurd hk (by tauto)
          · exact .inr ⟨hk, h⟩
      · rename_i hnot
        rw [mem_setAt_foldl]
        simp only [Finset.mem_singleton]
        constructor
        · rintro ((h | ⟨a, ha, hk, rfl⟩) | ⟨hk, h⟩)
          · exact .inl h
          · exact .inr ⟨by tauto, .inl ⟨rfl, a, ha, hk⟩⟩
          · exact .inr ⟨hk, .inr h⟩
        · rintro (h | ⟨hk, ⟨rfl, a, ha, hk'⟩ | h⟩)
          · exact .inl (.inl h)
          · exact .inl (.inr ⟨a, ha, hk', rfl⟩)
          · exact .inr ⟨hk, h⟩
  rw [CompiledPolicyModel.traversals, compilePolicyModel, traversalRelationsByAction, h]
  simp [setAt]

theorem mem_unscopedDenyRelations {r : String} :
    r ∈ unscopedDenyRelations model ↔ r ∈ relationNamesOfKind model .deny ∧
      ∃ rule ∈ model.denyRules, rule.relation = r ∧ rule.actions = none := by
  simp only [unscopedDenyRelations, List.mem_toFinset, List.mem_map, List.mem_filter,
    Bool.decide_and, Bool.and_eq_true, decide_eq_true_eq, Option.isNone_iff_eq_none]
  constructor
  · rintro ⟨rule, ⟨hm, hd, hn⟩, rfl⟩; exact ⟨hd, rule, hm, rfl, hn⟩
  · rintro ⟨hd, rule, hm, rfl, hn⟩; exact ⟨rule, ⟨hm, hd, hn⟩, rfl⟩

theorem mem_scopedDenyRelations {k r : String} :
    r ∈ setAt (scopedDenyRelationsByAction H model) k ↔ r ∈ relationNamesOfKind model .deny ∧
      ∃ rule ∈ model.denyRules, rule.relation = r ∧
        ∃ actions, rule.actions = some actions ∧ ∃ a ∈ actions, toLowerCase H a = k := by
  have h : ∀ (rules : List PolicyModelDenyRule) (m : RelationMap),
      r ∈ setAt (rules.foldl (fun m rule =>
        if rule.relation ∉ relationNamesOfKind model .deny then m
        else
          match rule.actions with
          | none => m
          | some actions =>
            actions.foldl (fun m action => addAt m (toLowerCase H action) {rule.relation}) m)
        m) k ↔ r ∈ setAt m k ∨ (r ∈ relationNamesOfKind model .deny ∧
          ∃ rule ∈ rules, rule.relation = r ∧
            ∃ actions, rule.actions = some actions ∧ ∃ a ∈ actions, toLowerCase H a = k) := by
    intro rules
    induction rules with
    | nil => simp
    | cons rule rules ih =>
      intro m
      rw [List.foldl_cons, ih]
      simp only [List.exists_mem_cons_iff]
      split
      · rename_i hnot
        constructor
        · rintro (h | ⟨hk, h⟩)
          · exact .inl h
          · exact .inr ⟨hk, .inr h⟩
        · rintro (h | ⟨hk, ⟨rfl, -⟩ | h⟩)
          · exact .inl h
          · exact absurd hk hnot
          · exact .inr ⟨hk, h⟩
      · rename_i hin
        cases ha : rule.actions with
        | none => simp
        | some actions =>
          simp only [mem_setAt_foldl, Finset.mem_singleton, Option.some.injEq]
          constructor
          · rintro ((h | ⟨a, ha, hk, rfl⟩) | ⟨hk, h⟩)
            · exact .inl h
            · exact .inr ⟨by tauto, .inl ⟨rfl, actions, rfl, a, ha, hk⟩⟩
            · exact .inr ⟨hk, .inr h⟩
          · rintro (h | ⟨hk, ⟨rfl, _, rfl, a, ha, hk'⟩ | h⟩)
            · exact .inl (.inl h)
            · exact .inl (.inr ⟨a, ha, hk', rfl⟩)
            · exact .inr ⟨hk, h⟩
  rw [scopedDenyRelationsByAction, h]
  simp [setAt]

/-- The deny set of an action: the unscoped rules and the rules that name it. -/
theorem mem_denies {k r : String} :
    r ∈ (compilePolicyModel H model).denies k ↔
      r ∈ unscopedDenyRelations model ∨ r ∈ setAt (scopedDenyRelationsByAction H model) k := by
  simp only [CompiledPolicyModel.denies, compilePolicyModel, OrderedMap.get?_map, setAt]
  cases (scopedDenyRelationsByAction H model).get? k <;> simp

end

end AccessKit.L3
