import AccessKit.L2Graph.Fixtures
import AccessKit.L3Policy.Valid

/-!
# Actions that differ in letter case only are merged

Status: open. `compilePolicyModel` keys its tables by the lower-cased action
(packages/core/src/policy-model.ts:282, 298, 316), `validatePolicyModel` checks
that the names as written are unique, and that the rules name one as written
(packages/core/src/policy-model.ts:338-391, 435-508). A model may so declare
`read` and `READ` with different grants: both get the grants, the traversals
and the deny relations of either.

Counterexample: the default model with a further action `READ` for owners. A
viewer may `READ` (`read_merged`).

Exact condition: actions that agree up to letter case are declared alike
(`faithful_iff`). An undeclared action gets no grant in any model.
-/
namespace AccessKit.Bugs.ActionNames
open AccessKit.Core AccessKit.L1 AccessKit.L2.Fixtures AccessKit.L3

/-- The through relations of the inheritance rules that name the action. -/
def declaredTraversals (model : PolicyModel) (name : String) : Finset String :=
  ((model.inheritanceRules.filter fun rule => name ∈ rule.actions).map (·.through)).toFinset

/-- The relations of the deny rules that name the action or name none. -/
def declaredDenies (model : PolicyModel) (name : String) : Finset String :=
  ((model.denyRules.filter fun rule => rule.actions.all (name ∈ ·)).map (·.relation)).toFinset

/-- What the model declares for an action, and what a decision looks up. -/
structure RelationSets where
  grants : Finset String
  traversals : Finset String
  denies : Finset String
  deriving DecidableEq

def declared (model : PolicyModel) (a : PolicyModelActionMapping) : RelationSets :=
  ⟨a.grants.toFinset, declaredTraversals model a.name, declaredDenies model a.name⟩

def lookedUp (H : Host) (model : PolicyModel) (name : String) : RelationSets :=
  let compiled := compilePolicyModel H model
  let actionKey := toLowerCase H name
  ⟨compiled.grants actionKey, compiled.traversals actionKey, compiled.denies actionKey⟩

/-- A decision on a declared action looks up what is declared for it, and an
undeclared action, in whatever spelling, gets no grant. -/
def Faithful (H : Host) (model : PolicyModel) : Prop :=
  (∀ a ∈ model.actions, lookedUp H model a.name = declared model a) ∧
    ∀ name, (∀ a ∈ model.actions, toLowerCase H a.name ≠ toLowerCase H name) →
      (lookedUp H model name).grants = ∅

/-- Two actions that agree up to letter case are declared alike. -/
def SpelledAlikeDeclaredAlike (H : Host) (model : PolicyModel) : Prop :=
  ∀ a ∈ model.actions, ∀ b ∈ model.actions, toLowerCase H a.name = toLowerCase H b.name →
    declared model a = declared model b

/-! ## The counterexample -/

/-- The default model, with an action of the owners under another spelling. -/
def shoutedRead : PolicyModel :=
  { createDefaultPolicyModel with
    actions := defaultActionGrants ++ [⟨"READ", ["owner_of"]⟩] }

/-- **Counterexample**: the model is valid, and a viewer gets what only owners
are granted. -/
theorem read_merged : (validatePolicyModel plainHost shoutedRead).valid = true ∧
    "viewer_of" ∈ (lookedUp plainHost shoutedRead "READ").grants ∧
    ¬ Faithful plainHost shoutedRead := by
  have hgained : "viewer_of" ∈ (lookedUp plainHost shoutedRead "READ").grants := by
    decide +kernel
  refine ⟨by decide +kernel, hgained, fun h => ?_⟩
  have hdeclared := h.1 ⟨"READ", ["owner_of"]⟩
    (List.mem_append_right _ (List.mem_singleton_self _))
  rw [hdeclared] at hgained
  exact absurd hgained (by decide)

/-! ## When compilation is faithful -/

section
variable {H : Host} {model : PolicyModel}

theorem mem_declaredTraversals {name r : String} : r ∈ declaredTraversals model name ↔
    ∃ rule ∈ model.inheritanceRules, rule.through = r ∧ name ∈ rule.actions := by
  simp only [declaredTraversals, List.mem_toFinset, List.mem_map, List.mem_filter,
    decide_eq_true_eq]
  constructor
  · rintro ⟨rule, ⟨hm, hn⟩, rfl⟩; exact ⟨rule, hm, rfl, hn⟩
  · rintro ⟨rule, hm, rfl, hn⟩; exact ⟨rule, ⟨hm, hn⟩, rfl⟩

theorem mem_declaredDenies {name r : String} : r ∈ declaredDenies model name ↔
    ∃ rule ∈ model.denyRules, rule.relation = r ∧
      ∀ actions, rule.actions = some actions → name ∈ actions := by
  simp only [declaredDenies, List.mem_toFinset, List.mem_map, List.mem_filter]
  constructor
  · rintro ⟨rule, ⟨hm, hn⟩, rfl⟩
    refine ⟨rule, hm, rfl, fun actions ha => ?_⟩
    simpa [ha] using hn
  · rintro ⟨rule, hm, rfl, hn⟩
    refine ⟨rule, ⟨hm, ?_⟩, rfl⟩
    cases ha : rule.actions with
    | none => rfl
    | some actions => simpa using hn actions ha

/-! What is looked up for an action is declared for some action of its
spelling, and what is declared for one of them is looked up. -/

theorem mem_grants_iff (h : (validatePolicyModel H model).valid = true) {k r : String} :
    r ∈ (compilePolicyModel H model).grants k ↔
      ∃ b ∈ model.actions, toLowerCase H b.name = k ∧ r ∈ (declared model b).grants := by
  rw [mem_grants]
  simp only [declared, List.mem_toFinset]
  constructor
  · exact And.right
  · rintro ⟨b, hb, hk, hr⟩
    exact ⟨(grants_known h hb).2 r hr, b, hb, hk, hr⟩

theorem mem_traversals_iff (h : (validatePolicyModel H model).valid = true) {k r : String} :
    r ∈ (compilePolicyModel H model).traversals k ↔
      ∃ b ∈ model.actions, toLowerCase H b.name = k ∧ r ∈ (declared model b).traversals := by
  rw [mem_traversals]
  simp only [declared, mem_declaredTraversals]
  constructor
  · rintro ⟨-, rule, hrule, rfl, name, hname, hk⟩
    obtain ⟨-, -, hknown⟩ := (inheritanceRules_ok h).2 rule hrule
    obtain ⟨b, hb, rfl⟩ := List.mem_map.1 (hknown name hname)
    exact ⟨b, hb, hk, rule, hrule, rfl, hname⟩
  · rintro ⟨b, -, hk, rule, hrule, rfl, hname⟩
    exact ⟨((inheritanceRules_ok h).2 rule hrule).1, rule, hrule, rfl, b.name, hname, hk⟩

theorem mem_denies_iff (h : (validatePolicyModel H model).valid = true)
    {a : PolicyModelActionMapping} (ha : a ∈ model.actions) {r : String} :
    r ∈ (compilePolicyModel H model).denies (toLowerCase H a.name) ↔
      ∃ b ∈ model.actions, toLowerCase H b.name = toLowerCase H a.name ∧
        r ∈ (declared model b).denies := by
  rw [mem_denies, mem_unscopedDenyRelations, mem_scopedDenyRelations]
  simp only [declared, mem_declaredDenies]
  constructor
  · rintro (⟨-, rule, hrule, rfl, hnone⟩ | ⟨-, rule, hrule, rfl, actions, hact, name, hname, hk⟩)
    · refine ⟨a, ha, rfl, rule, hrule, rfl, fun actions hact => ?_⟩
      rw [hnone] at hact
      cases hact
    · have hknown := (denyRules_ok h rule hrule).2 name (by simpa [hact] using hname)
      obtain ⟨b, hb, rfl⟩ := List.mem_map.1 hknown
      refine ⟨b, hb, hk, rule, hrule, rfl, fun actions' hact' => ?_⟩
      rw [hact] at hact'
      cases hact'
      exact hname
  · rintro ⟨b, -, hk, rule, hrule, rfl, hn⟩
    have hdeny := (denyRules_ok h rule hrule).1
    cases hact : rule.actions with
    | none => exact .inl ⟨hdeny, rule, hrule, rfl, hact⟩
    | some actions =>
      exact .inr ⟨hdeny, rule, hrule, rfl, actions, hact, b.name, hn actions hact, hk⟩

/-- A set that holds what is declared for some action of the spelling holds what
is declared for one of them, when they are declared alike. -/
theorem eq_declared {s : Finset String} {f : RelationSets → Finset String}
    (halike : SpelledAlikeDeclaredAlike H model) {a : PolicyModelActionMapping}
    (ha : a ∈ model.actions)
    (hs : ∀ r, r ∈ s ↔ ∃ b ∈ model.actions, toLowerCase H b.name = toLowerCase H a.name ∧
      r ∈ f (declared model b)) : s = f (declared model a) := by
  ext r
  rw [hs]
  constructor
  · rintro ⟨b, hb, hk, hr⟩
    rwa [halike b hb a ha hk] at hr
  · exact fun hr => ⟨a, ha, rfl, hr⟩

/-- **When compilation is faithful**: exactly when actions that agree up to
letter case are declared alike. -/
theorem faithful_iff (H : Host) (model : PolicyModel)
    (hvalid : (validatePolicyModel H model).valid = true) :
    Faithful H model ↔ SpelledAlikeDeclaredAlike H model := by
  constructor
  · rintro ⟨hactions, -⟩ a ha b hb hk
    rw [← hactions a ha, ← hactions b hb, lookedUp, lookedUp, hk]
  · intro halike
    refine ⟨fun a ha => ?_, fun name hundeclared => ?_⟩
    · have hg : (lookedUp H model a.name).grants = (declared model a).grants :=
        eq_declared halike ha fun _ => mem_grants_iff hvalid
      have ht : (lookedUp H model a.name).traversals = (declared model a).traversals :=
        eq_declared halike ha fun _ => mem_traversals_iff hvalid
      have hd : (lookedUp H model a.name).denies = (declared model a).denies :=
        eq_declared halike ha fun _ => mem_denies_iff hvalid ha
      exact RelationSets.mk.injEq .. ▸ ⟨hg, ht, hd⟩
    · refine Finset.eq_empty_of_forall_notMem fun r hr => ?_
      obtain ⟨-, a, ha, hk, -⟩ := mem_grants.1 hr
      exact hundeclared a ha hk

theorem faithful_default : (validatePolicyModel plainHost createDefaultPolicyModel).valid = true ∧
    (Faithful plainHost createDefaultPolicyModel ↔
      SpelledAlikeDeclaredAlike plainHost createDefaultPolicyModel) :=
  ⟨by decide +kernel, faithful_iff plainHost createDefaultPolicyModel (by decide +kernel)⟩

end

end AccessKit.Bugs.ActionNames
