import AccessKit.L3Policy.Validate

/-!
# What a valid policy model guarantees

Each guarantee is read off the check of `validatePolicyModel` that tests it.

Results:
* `relationNames_nodup`, `contextKeys_nodup`: names are unique.
* `contextConstraints_ok`, `type_of_maxLength`: context constraints are well
  formed.
* `grants_nonempty`: every action grants through some grant relation.
* `actions_nonempty`: there is an action.
* `caveatConditions_ok`: every condition of a caveat passed
  `validateCaveatCondition`.
* `condition_ok`, `operandHandled`: what such a condition may read, and that
  its operand has the shape its operator compares with.
* `conditionalCaveats_known`: conditional relationships name declared caveats.
* `matching_le_one`: a relation has at most one conditional relationship for
  an action, however the action is spelled.
-/
namespace AccessKit.L3
open AccessKit.Core AccessKit.L1

section
variable {H : Host} {model : PolicyModel}

theorem check_ok (h : (validatePolicyModel H model).valid = true) {c : PolicyModelValidationCheck}
    (hc : c ∈ policyModelChecks H model) : c.status ≠ .fail := by
  simp only [validatePolicyModel, List.all_eq_true, decide_eq_true_eq] at h
  exact h c hc

/-- A loop that returns its first fault passed no faulty element when it
passed. -/
theorem findSome?_ok {α : Type} {l : List α} {f : α → Option PolicyModelValidationCheck}
    {d : PolicyModelValidationCheck} (hf : ∀ a c, f a = some c → c.status = .fail)
    (h : ((l.findSome? f).getD d).status ≠ .fail) : ∀ a ∈ l, f a = none := by
  rw [← List.findSome?_eq_none_iff]
  cases hfind : l.findSome? f with
  | none => rfl
  | some c =>
    obtain ⟨a, -, ha⟩ := List.exists_of_findSome?_eq_some hfind
    rw [hfind] at h
    exact absurd (hf a c ha) h

/-! ## Unique names -/

theorem repeats_eq_nil {l seen : List String} (h : repeats seen l = []) :
    l.Nodup ∧ ∀ a ∈ l, a ∉ seen := by
  induction l generalizing seen with
  | nil => simp
  | cons a l ih =>
    simp only [repeats] at h
    split at h
    · cases h
    rename_i ha
    obtain ⟨hn, hs⟩ := ih h
    refine ⟨List.nodup_cons.2 ⟨fun hm => hs a hm List.mem_cons_self, hn⟩, ?_⟩
    intro b hb
    rcases List.mem_cons.1 hb with rfl | hb
    · exact ha
    · exact fun hbs => hs b hb (List.mem_cons_of_mem _ hbs)

theorem checkUnique_ok (name : String) {values : List String}
    (h : (checkUnique name values).status ≠ .fail) : values.Nodup := by
  by_cases hr : repeats [] values = []
  · exact (repeats_eq_nil hr).1
  · simp [checkUnique, hr, fail] at h

theorem relationNames_nodup (h : (validatePolicyModel H model).valid = true) :
    (model.relations.map (·.name)).Nodup :=
  checkUnique_ok "relations_unique" (check_ok h (by simp [policyModelChecks, relationNames]))

theorem contextKeys_nodup (h : (validatePolicyModel H model).valid = true) :
    (model.contextConstraints.map (·.key)).Nodup := by
  refine checkUnique_ok "context_constraints_unique" fun hfail => ?_
  refine check_ok h (c := checkUnique "context_constraints_unique"
    (model.contextConstraints.map (·.key))) ?_ hfail
  simp [policyModelChecks, checkContextConstraints, hfail]

theorem contextConstraints_ok (h : (validatePolicyModel H model).valid = true) :
    ∀ k ∈ model.contextConstraints, contextConstraintFault H k = none := by
  rw [← List.findSome?_eq_none_iff]
  cases hf : model.contextConstraints.findSome? (contextConstraintFault H) with
  | none => rfl
  | some fault =>
    obtain ⟨k, -, hk⟩ := List.exists_of_findSome?_eq_some hf
    have hfail : fault.status = .fail := by
      unfold contextConstraintFault at hk
      split at hk
      · cases hk; rfl
      split at hk
      · cases hk; rfl
      split at hk
      · cases hk; rfl
      split at hk
      · cases hk; rfl
      · cases hk
    refine absurd hfail (check_ok h ?_)
    have hunique : (checkUnique "context_constraints_unique"
        (model.contextConstraints.map (·.key))).status ≠ .fail := by
      intro hdup
      refine check_ok h (c := checkUnique "context_constraints_unique"
        (model.contextConstraints.map (·.key))) ?_ hdup
      simp [policyModelChecks, checkContextConstraints, hdup]
    simp [policyModelChecks, checkContextConstraints, hunique, hf]

/-- Only strings have a `maxLength`. -/
theorem type_of_maxLength {k : PolicyModelContextConstraint}
    (h : contextConstraintFault H k = none) {m : JsNumber} (hm : k.maxLength = some m) :
    k.type = .string := by
  unfold contextConstraintFault at h
  split at h
  · cases h
  split at h
  · cases h
  split at h
  · cases h
  rename_i hlength
  simp only [maxLengthInvalid, hm, Bool.or_eq_true, not_or, decide_eq_true_eq, not_not] at hlength
  exact hlength.1

/-! ## Actions and grants -/

theorem grants_known (h : (validatePolicyModel H model).valid = true)
    {a : PolicyModelActionMapping} (ha : a ∈ model.actions) :
    a.grants ≠ [] ∧ ∀ g ∈ a.grants, g ∈ relationNamesOfKind model .grant := by
  have hc := check_ok h (c := checkActionMappings model) (by simp [policyModelChecks])
  have hgrant : ∀ (n : String) (g : String) (c : PolicyModelValidationCheck),
      (if g ∉ relationNames model then
        some (fail "action_grants_known"
          ("Action " ++ n ++ " references unknown relation " ++ g ++ "."))
      else if g ∉ relationNamesOfKind model .grant then
        some (fail "action_grants_grant_kind" ("Action " ++ n ++ " references relation " ++ g ++
          ", which is not declared as a grant relation."))
      else none) = some c → c.status = .fail := by
    intro n g c hgc
    split at hgc
    · cases hgc
      rfl
    · split at hgc
      · cases hgc
        rfl
      · cases hgc
  have hnone := findSome?_ok ?_ hc a ha
  · split at hnone
    · cases hnone
    rename_i hne
    refine ⟨by simpa using hne, fun g hg => ?_⟩
    have hg := (List.findSome?_eq_none_iff.1 hnone) g hg
    split at hg
    · cases hg
    · split at hg
      · cases hg
      · rename_i hkind
        simpa using hkind
  · intro a c hac
    split at hac
    · cases hac
      rfl
    · obtain ⟨g, -, hg⟩ := List.exists_of_findSome?_eq_some hac
      exact hgrant a.name g c hg

/-- **Every action can be granted**: the compiled grant set of a declared
action is not empty, whatever the spelling of the request. -/
theorem grants_nonempty (h : (validatePolicyModel H model).valid = true)
    {a : PolicyModelActionMapping} (ha : a ∈ model.actions) :
    ((compilePolicyModel H model).grants (toLowerCase H a.name)).Nonempty := by
  obtain ⟨hne, hk⟩ := grants_known h ha
  obtain ⟨g, hg⟩ := List.exists_mem_of_ne_nil _ hne
  exact ⟨g, mem_grants.2 ⟨hk g hg, a, ha, rfl, hg⟩⟩

theorem inheritanceRules_ok (h : (validatePolicyModel H model).valid = true) :
    model.inheritanceRules ≠ [] ∧ ∀ rule ∈ model.inheritanceRules,
      (rule.through ∈ relationNamesOfKind model .membership ∨
        rule.through ∈ relationNamesOfKind model .containment) ∧
      rule.actions ≠ [] ∧ ∀ a ∈ rule.actions, a ∈ actionNames model := by
  have hc := check_ok h (c := checkInheritanceRules model) (by simp [policyModelChecks])
  unfold checkInheritanceRules at hc
  split at hc
  · exact absurd rfl hc
  rename_i hne
  refine ⟨by simpa using hne, fun rule hr => ?_⟩
  have hnone := findSome?_ok ?_ hc rule hr
  · split at hnone
    · cases hnone
    split at hnone
    · cases hnone
    split at hnone
    · cases hnone
    rename_i hkind
    split at hnone
    · cases hnone
    rename_i hact
    refine ⟨by simpa [or_iff_not_imp_left] using hkind, by simpa using hact, fun a ha => ?_⟩
    rw [Option.map_eq_none_iff] at hnone
    simpa using List.find?_eq_none.1 hnone a ha
  · intro rule c hrc
    split at hrc
    · cases hrc; rfl
    split at hrc
    · cases hrc; rfl
    split at hrc
    · cases hrc; rfl
    split at hrc
    · cases hrc; rfl
    rw [Option.map_eq_some_iff] at hrc
    obtain ⟨a, -, rfl⟩ := hrc
    rfl

theorem inheritanceRules_known (h : (validatePolicyModel H model).valid = true) :
    model.inheritanceRules ≠ [] ∧ ∀ rule ∈ model.inheritanceRules,
      rule.actions ≠ [] ∧ ∀ a ∈ rule.actions, a ∈ actionNames model := by
  obtain ⟨hne, hrules⟩ := inheritanceRules_ok h
  exact ⟨hne, fun rule hr => (hrules rule hr).2⟩

theorem denyRules_ok (h : (validatePolicyModel H model).valid = true) :
    ∀ rule ∈ model.denyRules, rule.relation ∈ relationNamesOfKind model .deny ∧
      ∀ a ∈ rule.actions.getD [], a ∈ actionNames model := by
  have hc := check_ok h (c := checkDenyRules model) (by simp [policyModelChecks])
  unfold checkDenyRules at hc
  split at hc
  · exact absurd rfl hc
  intro rule hr
  have hnone := findSome?_ok ?_ hc rule hr
  · split at hnone
    · cases hnone
    split at hnone
    · cases hnone
    rename_i hkind
    split at hnone
    · cases hnone
    refine ⟨by simpa using hkind, fun a ha => ?_⟩
    rw [Option.map_eq_none_iff] at hnone
    simpa using List.find?_eq_none.1 hnone a ha
  · intro rule c hrc
    split at hrc
    · cases hrc; rfl
    split at hrc
    · cases hrc; rfl
    split at hrc
    · cases hrc; rfl
    rw [Option.map_eq_some_iff] at hrc
    obtain ⟨a, -, rfl⟩ := hrc
    rfl

theorem actions_nonempty (h : (validatePolicyModel H model).valid = true) :
    ∃ a, a ∈ actionNames model := by
  obtain ⟨hne, hrules⟩ := inheritanceRules_known h
  obtain ⟨rule, hr⟩ := List.exists_mem_of_ne_nil _ hne
  obtain ⟨hact, hknown⟩ := hrules rule hr
  obtain ⟨a, ha⟩ := List.exists_mem_of_ne_nil _ hact
  exact ⟨a, hknown a ha⟩

/-! ## Caveats -/

theorem conditionFault_fail {caveat : PolicyModelCaveat}
    {condition : PolicyModelCaveatCondition} {c : PolicyModelValidationCheck}
    (h : validateCaveatCondition H model caveat condition = some c) : c.status = .fail := by
  unfold validateCaveatCondition at h
  split at h
  · cases h; rfl
  split at h
  · cases h; rfl
  split at h
  · cases h; rfl
  by_cases hs : condition.source = .context
  · simp only [if_pos hs] at h
    cases hfor : contextConstraintFor model condition.key with
    | none =>
      simp only [hfor] at h
      cases h; rfl
    | some constraint =>
      simp only [hfor] at h
      split at h
      · rename_i fault hfault
        cases h
        split at hfault
        · cases hfault; rfl
        split at hfault
        · cases hfault; rfl
        split at hfault
        · cases hfault; rfl
        · cases hfault
      · split at h
        · cases h; rfl
        · cases h
  · simp only [if_neg hs] at h
    split at h
    · cases h; rfl
    · cases h

theorem caveats_ok (h : (validatePolicyModel H model).valid = true) :
    (caveatNames model).Nodup ∧ ∀ caveat ∈ model.caveats.getD [],
      ∀ condition ∈ caveat.conditions, validateCaveatCondition H model caveat condition = none := by
  have hc := check_ok h (c := checkCaveats H model) (by simp [policyModelChecks])
  unfold checkCaveats at hc
  dsimp only at hc
  split at hc
  · rename_i hfail
    exact absurd hfail hc
  rename_i hunique
  refine ⟨checkUnique_ok _ hunique, fun caveat hcaveat => ?_⟩
  have hnone := findSome?_ok ?_ hc caveat hcaveat
  · split at hnone
    · cases hnone
    split at hnone
    · cases hnone
    exact List.findSome?_eq_none_iff.1 hnone
  · intro caveat c hfault
    split at hfault
    · cases hfault; rfl
    split at hfault
    · cases hfault; rfl
    obtain ⟨condition, -, hcondition⟩ := List.exists_of_findSome?_eq_some hfault
    exact conditionFault_fail hcondition

theorem caveatConditions_ok (h : (validatePolicyModel H model).valid = true)
    {caveat : PolicyModelCaveat} (hcaveat : caveat ∈ model.caveats.getD []) :
    ∀ condition ∈ caveat.conditions, validateCaveatCondition H model caveat condition = none :=
  (caveats_ok h).2 caveat hcaveat

/-- The operand has the shape that the comparison of the operator reads. -/
def OperandHandled (H : Host) (condition : PolicyModelCaveatCondition) : Prop :=
  match condition.operator with
  | .equals => valueMatchesType H condition.value condition.type = true
  | .oneOf => ∃ candidates, condition.value = .arr candidates ∧ candidates ≠ [] ∧
      ∀ v ∈ candidates, valueMatchesType H v condition.type = true
  | .lessThanOrEqual | .greaterThanOrEqual =>
    condition.type = .number ∧ ∃ n, condition.value = .num n
  | .before | .after =>
    condition.type = .datetime ∧ ∃ s ms, condition.value = .str s ∧ dateParse H s = some ms

section
variable {caveat : PolicyModelCaveat} {condition : PolicyModelCaveatCondition}

/-- The operator suits the type, the value has the type, and the source may
be read under the key. -/
theorem condition_ok (h : validateCaveatCondition H model caveat condition = none) :
    operatorMatchesType condition.operator condition.type = true ∧
    conditionValueMatchesType H condition.value condition.type condition.operator = true ∧
    (condition.source = .context → ∃ c, contextConstraintFor model condition.key = some c ∧
      c.type = condition.type ∧ c.required = some true ∧ c.auditable = some true ∧
      contextConstraintIsBounded c condition = true) ∧
    (condition.source = .environment →
      condition.key = "evaluatedAt" ∧ condition.type = .datetime) := by
  unfold validateCaveatCondition at h
  split at h
  · cases h
  split at h
  · cases h
  rename_i hop
  split at h
  · cases h
  rename_i hvalue
  refine ⟨by simpa using hop, by simpa using hvalue, fun hs => ?_, fun hs => ?_⟩
  · simp only [if_pos hs] at h
    cases hfor : contextConstraintFor model condition.key with
    | none =>
      simp only [hfor] at h
      cases h
    | some c =>
      simp only [hfor] at h
      split at h
      · cases h
      rename_i hnone
      split at hnone
      · cases hnone
      rename_i htype
      split at hnone
      · cases hnone
      rename_i hreq
      split at hnone
      · cases hnone
      rename_i hbounded
      rw [not_or, not_not, not_not] at hreq
      exact ⟨c, rfl, by simpa using htype, hreq.1, hreq.2, by simpa using hbounded⟩
  · have hctx : condition.source ≠ .context := by rw [hs]; decide
    simp only [if_neg hctx] at h
    split at h
    · cases h
    rename_i henv
    simpa [hs] using henv

theorem eq_num_of_matches {v : JsValue} (h : valueMatchesType H v .number = true) :
    ∃ n, v = .num n := by
  cases v with
  | num n => exact ⟨n, rfl⟩
  | _ => simp [valueMatchesType, JsValue.typeof] at h

theorem eq_str_of_matches {v : JsValue} (h : valueMatchesType H v .datetime = true) :
    ∃ s ms, v = .str s ∧ dateParse H s = some ms := by
  cases v with
  | str s =>
    obtain ⟨ms, hms⟩ := Option.isSome_iff_exists.1 h
    exact ⟨s, ms, rfl, hms⟩
  | _ => cases h

/-- **The operand** of a validated condition has the shape its operator
compares with. -/
theorem operandHandled (h : validateCaveatCondition H model caveat condition = none) :
    OperandHandled H condition := by
  obtain ⟨hop, hvalue, -, -⟩ := condition_ok h
  unfold OperandHandled
  cases hoperator : condition.operator with
  | equals =>
    rw [hoperator] at hvalue
    cases hv : condition.value <;> simp_all [conditionValueMatchesType]
  | oneOf =>
    rw [hoperator] at hvalue
    cases hv : condition.value with
    | arr candidates =>
      rw [hv] at hvalue
      simp only [conditionValueMatchesType, Bool.and_eq_true, List.all_eq_true] at hvalue
      exact ⟨candidates, rfl, by simpa using hvalue.1, hvalue.2⟩
    | _ => rw [hv] at hvalue; cases hvalue
  | lessThanOrEqual | greaterThanOrEqual =>
    have ht : condition.type = .number := by
      cases ht : condition.type <;> simp_all [operatorMatchesType]
    rw [hoperator, ht] at hvalue
    refine ⟨ht, eq_num_of_matches (H := H) ?_⟩
    cases hv : condition.value <;> simp_all [conditionValueMatchesType]
  | before | after =>
    have ht : condition.type = .datetime := by
      cases ht : condition.type <;> simp_all [operatorMatchesType]
    rw [hoperator, ht] at hvalue
    refine ⟨ht, eq_str_of_matches ?_⟩
    cases hv : condition.value <;> simp_all [conditionValueMatchesType]

end

/-! ## Conditional relationships -/

theorem mem_sortStrings {l : List String} {s : String} : s ∈ sortStrings l ↔ s ∈ l := by
  have hins : ∀ (t : String) (l : List String), s ∈ insertString t l ↔ s = t ∨ s ∈ l := by
    intro t l
    induction l with
    | nil => simp [insertString]
    | cons a l ih =>
      simp only [insertString]
      split
      · simp
      · simp only [List.mem_cons, ih]
        tauto
  induction l with
  | nil => simp [sortStrings]
  | cons a l ih =>
    rw [show sortStrings (a :: l) = insertString a (sortStrings l) from rfl, hins, List.mem_cons]
    exact or_congr_right ih

/-- The bindings entered are the old ones and those of the actions, none of
which was there. -/
theorem bindActions_ok {relation : String} {actions bindings bindings' : List String}
    (h : bindActions relation actions bindings = .ok bindings') :
    (∀ b, b ∈ bindings' ↔ b ∈ bindings ∨ ∃ a ∈ actions, relation ++ ":" ++ a = b) ∧
      ∀ a ∈ actions, relation ++ ":" ++ a ∉ bindings := by
  induction actions generalizing bindings with
  | nil =>
    cases h
    simp
  | cons a actions ih =>
    simp only [bindActions] at h
    split at h
    · cases h
    rename_i hnew
    obtain ⟨hmem, hfresh⟩ := ih h
    refine ⟨fun b => ?_, fun a' ha' => ?_⟩
    · rw [hmem]
      simp only [List.mem_append, List.mem_singleton, List.exists_mem_cons_iff, eq_comm (a := b)]
      tauto
    · rcases List.mem_cons.1 ha' with rfl | ha'
      · exact hnew
      · exact fun hb => hfresh a' ha' (List.mem_append_left _ hb)

/-- The conditional relationships of a relation that are bound for an action. -/
def boundFor (model : PolicyModel) (relation action : String)
    (cs : List PolicyModelConditionalRelationship) : List PolicyModelConditionalRelationship :=
  cs.filter fun c => decide (c.relation = relation) && decide (action ∈ scopedActions model c)

/-- When the loop over the conditional relationships passes, an action that is
bound for a relation is bound once. -/
theorem conditionalFault_none {cs : List PolicyModelConditionalRelationship}
    {bindings : List String} (h : conditionalFault model cs bindings = none)
    (relation action : String) :
    (boundFor model relation action cs).length ≤ 1 ∧
      (relation ++ ":" ++ action ∈ bindings → boundFor model relation action cs = []) := by
  induction cs generalizing bindings with
  | nil => simp [boundFor]
  | cons c cs ih =>
    simp only [conditionalFault] at h
    split at h
    · cases h
    split at h
    · cases h
    split at h
    · cases h
    rename_i bindings' hbind
    obtain ⟨hmem, hfresh⟩ := bindActions_ok hbind
    obtain ⟨hone, hnone⟩ := ih h
    by_cases hc : c.relation = relation ∧ action ∈ scopedActions model c
    · obtain ⟨rfl, ha⟩ := hc
      have ha' : action ∈ (scopedActions model c).eraseDups := by simpa using ha
      have hrest := hnone ((hmem _).2 (.inr ⟨action, ha', rfl⟩))
      have hcons : boundFor model c.relation action (c :: cs) =
          c :: boundFor model c.relation action cs := by simp [boundFor, ha]
      rw [hcons, hrest]
      exact ⟨Nat.le_refl 1, fun hb => absurd hb (hfresh action ha')⟩
    · have hcons : boundFor model relation action (c :: cs) = boundFor model relation action cs := by
        simp only [boundFor, List.filter_cons]
        rw [if_neg]
        simpa using hc
      rw [hcons]
      exact ⟨hone, fun hb => hnone ((hmem _).2 (.inl hb))⟩

theorem conditionals_ok (h : (validatePolicyModel H model).valid = true) :
    conditionalFault model (model.conditionalRelationships.getD []) [] = none := by
  cases hf : conditionalFault model (model.conditionalRelationships.getD []) [] with
  | none => rfl
  | some fault =>
    have hfail : ∀ (cs : List PolicyModelConditionalRelationship) (bindings : List String)
        (c : PolicyModelValidationCheck), conditionalFault model cs bindings = some c →
        c.status = .fail := by
      intro cs
      induction cs with
      | nil => exact fun _ _ h => by cases h
      | cons c cs ih =>
        intro bindings fault hc
        simp only [conditionalFault] at hc
        split at hc
        · rename_i hr
          cases hc
          unfold conditionalReferenceFault at hr
          split at hr
          · cases hr; rfl
          split at hr
          · cases hr; rfl
          split at hr
          · cases hr; rfl
          split at hr
          · cases hr; rfl
          rw [Option.map_eq_some_iff] at hr
          obtain ⟨a, -, rfl⟩ := hr
          rfl
        split at hc
        · cases hc; rfl
        split at hc
        · cases hc; rfl
        · exact ih _ _ hc
    have hmem : fault ∈ policyModelChecks H model := by
      simp [policyModelChecks, checkConditionalRelationships, hf]
    exact absurd (hfail _ _ _ hf) (check_ok h hmem)

theorem conditionalReferences_ok {cs : List PolicyModelConditionalRelationship}
    {bindings : List String} (h : conditionalFault model cs bindings = none) :
    ∀ c ∈ cs, conditionalReferenceFault model c = none := by
  induction cs generalizing bindings with
  | nil => simp
  | cons c cs ih =>
    simp only [conditionalFault] at h
    split at h
    · cases h
    rename_i hc
    split at h
    · cases h
    split at h
    · cases h
    exact List.forall_mem_cons.2 ⟨hc, ih h⟩

theorem conditionalCaveats_known {c : PolicyModelConditionalRelationship}
    (h : conditionalReferenceFault model c = none) : ∀ n ∈ c.caveats, n ∈ caveatNames model := by
  unfold conditionalReferenceFault at h
  split at h
  · cases h
  split at h
  · cases h
  split at h
  · cases h
  rename_i hfind
  intro n hn
  simpa using List.find?_eq_none.1 hfind n hn

theorem conditionalActions_known {c : PolicyModelConditionalRelationship}
    (h : conditionalReferenceFault model c = none) :
    ∀ a ∈ c.actions.getD [], a ∈ actionNames model := by
  unfold conditionalReferenceFault at h
  split at h
  · cases h
  split at h
  · cases h
  split at h
  · cases h
  split at h
  · cases h
  rw [Option.map_eq_none_iff] at h
  intro a ha
  simpa using List.find?_eq_none.1 h a ha

/-- The conditional relationship applies to the action in this spelling.
mirrors packages/core/src/engine.ts:437-439 -/
def NamesExactly (c : PolicyModelConditionalRelationship) (action : String) : Bool :=
  match c.actions with
  | none => true
  | some actions => actions.contains action

/-- **One conditional relationship at most** applies to a relation and an
action, in whatever spelling. -/
theorem matching_le_one (h : (validatePolicyModel H model).valid = true)
    (relation action : String) :
    ((model.conditionalRelationships.getD []).filter fun c =>
      NamesExactly c action && c.relation == relation).length ≤ 1 := by
  have hok := conditionals_ok h
  -- an undeclared spelling meets the conditionals without actions only, and
  -- those are bound for every declared action
  obtain ⟨a, ha⟩ := actions_nonempty h
  have hbound := (conditionalFault_none hok relation
    (if action ∈ actionNames model then action else a)).1
  rw [boundFor, ← List.countP_eq_length_filter] at hbound
  rw [← List.countP_eq_length_filter]
  refine le_trans (List.countP_mono_left fun c hc hm => ?_) hbound
  have hknown := conditionalActions_known (conditionalReferences_ok hok c hc)
  simp only [Bool.and_eq_true, beq_iff_eq, decide_eq_true_eq] at hm ⊢
  obtain ⟨hexact, hrel⟩ := hm
  refine ⟨hrel, ?_⟩
  unfold NamesExactly at hexact
  unfold scopedActions
  cases hact : c.actions with
  | none =>
    simp only [Option.getD_none, mem_sortStrings, List.mem_eraseDups]
    split
    · assumption
    · exact ha
  | some actions =>
    rw [hact] at hexact hknown
    have hin : action ∈ actions := by simpa using hexact
    rw [if_pos (hknown action hin)]
    exact hin

end

end AccessKit.L3
