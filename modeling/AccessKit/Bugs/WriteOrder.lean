import AccessKit.L4Engine.Agreement
import AccessKit.L4Engine.Shadow

/-!
# The order of writes decides

Status: open. The allow search returns the first of the shortest walks it
meets (packages/core/src/engine.ts:685-752), it meets the tuples of a subject
in the order in which they were written (packages/core/src/store.ts:204-258),
and the caveats are evaluated on that walk only (packages/core/src/engine.ts:
305-347). When two walks differ in their caveats, the order of the writes
decides, and a walk that passes does not help behind one that fails.

Counterexample: Alice contributes to the case plan and owns it, and
contributing to it takes an approval. Written in one order she may write the
plan, in the other she may not (`approval_by_order`).

Exact condition: `Unanimous`. Where one grant passes its caveats, every tuple
that carries the action passes (`order_blind_iff`).
-/
namespace AccessKit.Bugs.WriteOrder
open AccessKit.Core AccessKit.L1 AccessKit.L2.Store AccessKit.L2.Store.InMemoryRebacStore
  AccessKit.L2.Fixtures AccessKit.L3 AccessKit.L4

/-- Two stores give the request the same decision, when no bound is exceeded. -/
def DecideAlike (H : Host) (options : DecisionEngineOptions) (st st' : InMemoryRebacStore) :
    Prop :=
  ∀ request evaluatedAt, Within H options st request evaluatedAt →
    Within H options st' request evaluatedAt →
    (evaluate H (.new H options) st request evaluatedAt).decision =
      (evaluate H (.new H options) st' request evaluatedAt).decision

/-- An allow walk whose conditional relationships the request satisfies, in the
absence of a deny walk, is enough. -/
def WalkEnough (H : Host) (options : DecisionEngineOptions) (st : InMemoryRebacStore) : Prop :=
  ∀ request evaluatedAt a,
    Admissible H st request evaluatedAt (request.asOf.getD evaluatedAt) a →
    Within H options st request evaluatedAt →
    (∀ p, ¬ DenyWalk H (searchInput H options st request evaluatedAt a) p) →
    (∃ p, AllowWalk H (searchInput H options st request evaluatedAt a) p ∧ ∀ r ∈ p,
      stepPasses H ⟨st, (RebacDecisionEngine.new H options).policyModel, request, evaluatedAt⟩ r
        = true) →
    (evaluate H (.new H options) st request evaluatedAt).decision = .allow

/-- For every engine with the model: the order in which the tuples are written
does not matter, exporting and importing the store does not matter, and a walk
that satisfies its conditional relationships is enough. -/
structure OrderBlind (H : Host) (model : PolicyModel) : Prop where
  writes : ∀ options, (RebacDecisionEngine.new H options).policyModel = model →
    ∀ (st : InMemoryRebacStore) (ws ws' : List RelationshipTuple),
      SameGraph (st.upsertAll ws) (st.upsertAll ws') →
      DecideAlike H options (st.upsertAll ws) (st.upsertAll ws')
  exported : ∀ options, (RebacDecisionEngine.new H options).policyModel = model →
    ∀ st : InMemoryRebacStore, DecideAlike H options (ofSeed st.exportSeedData) st
  walk : ∀ options, (RebacDecisionEngine.new H options).policyModel = model →
    ∀ st, WalkEnough H options st

/-- Where one grant passes its caveats, so does every tuple that carries the
action. -/
def Unanimous (H : Host) (model : PolicyModel) : Prop :=
  ∀ (sc : Scene H) (r g : RelationshipTuple), sc.Fits r → sc.Fits g →
    Carries (compilePolicyModel H model) sc.actionKey r.relation →
    g.relation ∈ (compilePolicyModel H model).grants sc.actionKey →
    stepPasses H (sc.caveatInput model) g = true → stepPasses H (sc.caveatInput model) r = true

/-! ## The counterexample -/

/-- The default model, where contributing takes an approval. -/
def approvedContributors : PolicyModel :=
  { createDefaultPolicyModel with
    caveats := some [⟨"approved_only", true, "DENY_NOT_APPROVED",
      [⟨.relationship, "approved", .boolean, .equals, .bool true⟩]⟩]
    conditionalRelationships := some [⟨"contributor_to", ["approved_only"], none⟩] }

def aliceContributes : RelationshipTuple :=
  fixtureRelationship "relationship:alice-contributes" "user:alice" "contributor_to"
    "document:case-plan"

def aliceOwns : RelationshipTuple :=
  fixtureRelationship "relationship:alice-owns" "user:alice" "owner_of" "document:case-plan"

/-- Tuples with different ids can be written in either order. -/
theorem sameGraph_swap (st : InMemoryRebacStore) {r r' : RelationshipTuple} (h : r.id ≠ r'.id) :
    SameGraph (st.upsertAll [r, r']) (st.upsertAll [r', r]) where
  subject := rfl
  resource := rfl
  tuple := by
    funext id
    simp only [upsertAll, List.foldl_cons, List.foldl_nil, getRelationship_upsert]
    by_cases hr : r.id = id
    · have hr' : ¬ r'.id = id := fun h' => h (hr.trans h'.symm)
      simp [hr, hr']
    · simp [hr]

/-- **Counterexample**: owning first allows, contributing first denies. -/
theorem approval_by_order :
    (validatePolicyModel plainHost approvedContributors).valid = true ∧
    SameGraph (localStore.upsertAll [aliceOwns, aliceContributes])
      (localStore.upsertAll [aliceContributes, aliceOwns]) ∧
    ¬ DecideAlike plainHost { policyModel := some approvedContributors }
      (localStore.upsertAll [aliceOwns, aliceContributes])
      (localStore.upsertAll [aliceContributes, aliceOwns]) ∧
    ¬ OrderBlind plainHost approvedContributors := by
  have hsame : SameGraph (localStore.upsertAll [aliceOwns, aliceContributes])
      (localStore.upsertAll [aliceContributes, aliceOwns]) := sameGraph_swap localStore (by decide)
  have hdiffer : ¬ DecideAlike plainHost { policyModel := some approvedContributors }
      (localStore.upsertAll [aliceOwns, aliceContributes])
      (localStore.upsertAll [aliceContributes, aliceOwns]) := by
    intro h
    have hw : Within plainHost { policyModel := some approvedContributors }
        (localStore.upsertAll [aliceOwns, aliceContributes]) writePlan timestamp := by
      unfold Within
      decide +kernel
    have hw' : Within plainHost { policyModel := some approvedContributors }
        (localStore.upsertAll [aliceContributes, aliceOwns]) writePlan timestamp := by
      unfold Within
      decide +kernel
    exact absurd (h writePlan timestamp hw hw') (by decide +kernel)
  exact ⟨by decide, hsame, hdiffer, fun h => hdiffer (h.writes _ rfl _ _ _ hsame)⟩

/-! ## When the order does not matter -/

section
variable {H : Host} {model : PolicyModel} {options : DecisionEngineOptions}
  {st st' : InMemoryRebacStore} {request : DecisionRequest} {evaluatedAt : IsoDateTime}
  {a : Admission}

/-- Next to one grant that passes, any allow walk is enough. -/
theorem allow_of_grant (hun : Unanimous H (RebacDecisionEngine.new H options).policyModel)
    (hadm : Admissible H st request evaluatedAt (request.asOf.getD evaluatedAt) a)
    (hb : Within H options st request evaluatedAt)
    (hd : ∀ p, ¬ DenyWalk H (searchInput H options st request evaluatedAt a) p)
    (hw : ∃ p, AllowWalk H (searchInput H options st request evaluatedAt a) p)
    {g : RelationshipTuple} (hfit : (Scene.ofAdmissible hadm).Fits g)
    (hgrant : g.relation ∈ (RebacDecisionEngine.new H options).compiledPolicyModel.grants
      (toLowerCase H request.action))
    (hpass : stepPasses H ⟨st, (RebacDecisionEngine.new H options).policyModel, request,
      evaluatedAt⟩ g = true) :
    (evaluate H (.new H options) st request evaluatedAt).decision = .allow := by
  have hok : admitRequest H st request evaluatedAt (normalizeDecisionRuntimeVersionPins H
      request (RebacDecisionEngine.new H options).options evaluatedAt) = .ok a :=
    admitRequest_eq_ok.2 hadm
  refine decision_allow_iff.2 ⟨a, hok, pathsAllow_of_walks ?_ hd hw ?_⟩
  · unfold Within evaluate buildDecisionContext at hb
    rw [hok] at hb
    exact hb
  · intro hwalk _ r hr
    have hu := (allowSpace_overGraph H _).goalWalk_usable hwalk r hr
    rw [Scene.stepPasses_ofAdmissible hadm] at hpass ⊢
    exact hun (Scene.ofAdmissible hadm) r g (Scene.fits_of_usable hadm hu) hfit
      (allowWalk_carries hwalk r hr) hgrant hpass

theorem walkEnough_of_unanimous
    (hun : Unanimous H (RebacDecisionEngine.new H options).policyModel)
    (st : InMemoryRebacStore) : WalkEnough H options st := by
  intro request evaluatedAt a hadm hb hd hw
  obtain ⟨p, hp, hpass⟩ := hw
  obtain ⟨g, hg, hgrant⟩ := allowWalk_grant hp
  have hu := (allowSpace_overGraph H _).goalWalk_usable hp g hg
  exact allow_of_grant hun hadm hb hd ⟨p, hp⟩ (Scene.fits_of_usable hadm hu) hgrant (hpass g hg)

theorem allow_over (hvalid : (validatePolicyModel H
      (RebacDecisionEngine.new H options).policyModel).valid = true)
    (hun : Unanimous H (RebacDecisionEngine.new H options).policyModel) (hsame : SameGraph st st')
    (hb : Within H options st' request evaluatedAt)
    (hallow : (evaluate H (.new H options) st request evaluatedAt).decision = .allow) :
    (evaluate H (.new H options) st' request evaluatedAt).decision = .allow := by
  obtain ⟨a, hadm, hd, hw, hpass⟩ := allow_path hallow
  have hkinds : ∀ s, KindsApart H (searchInput H options s request evaluatedAt a) :=
    fun _ => kindsApart_compile (relationNames_nodup hvalid) rfl
  have hadm' : Admissible H st' request evaluatedAt (request.asOf.getD evaluatedAt) a :=
    admitRequest_eq_ok.1 ((hsame.admitted request evaluatedAt _).symm.trans
      (admitRequest_eq_ok.2 hadm))
  obtain ⟨g, hg, hgrant⟩ := allowWalk_grant hw
  have hu := (allowSpace_overGraph H _).goalWalk_usable hw g hg
  refine allow_of_grant hun hadm' hb ?_ ?_ (g := g) (Scene.fits_of_usable hadm hu) hgrant ?_
  · intro p hp
    have hback : DenyReachable H (searchInput H options st request evaluatedAt a) :=
      hsame.symm.denyReachable (denyReachable_iff.1 ⟨p, hp⟩)
    obtain ⟨q, hq⟩ := denyReachable_iff.2 hback
    exact hd q hq
  · have hto : AllowReachable H (searchInput H options st' request evaluatedAt a) :=
      hsame.allowReachable ((allowReachable_iff (hkinds st)).1 ⟨_, hw⟩)
    exact (allowReachable_iff (hkinds st')).2 hto
  · rw [Scene.stepPasses_ofAdmissible hadm']
    exact (Scene.stepPasses_ofAdmissible hadm g).symm.trans (hpass g hg)

theorem decideAlike_of_sameGraph (hvalid : (validatePolicyModel H
      (RebacDecisionEngine.new H options).policyModel).valid = true)
    (hun : Unanimous H (RebacDecisionEngine.new H options).policyModel)
    (hsame : SameGraph st st') : DecideAlike H options st st' := by
  intro request evaluatedAt hb hb'
  exact decisionValue_ext ⟨allow_over hvalid hun hsame hb', allow_over hvalid hun hsame.symm hb⟩

/-- When a walk is enough, the chain of a scene with a short cut is. -/
theorem chain_allowed (h : OrderBlind H model) (hnames : (model.relations.map (·.name)).Nodup)
    {sc : Scene H} {r g : RelationshipTuple} (hg : sc.Fits g)
    (hcarry : Carries (compilePolicyModel H model) sc.actionKey r.relation)
    (hgrant : g.relation ∈ (compilePolicyModel H model).grants sc.actionKey)
    (hpass : stepPasses H (sc.caveatInput model) g = true) {u v : CanonicalId}
    (hv : v = sc.otherId ∨ v = sc.resource.id) :
    (sc.outcome model (Scene.shadow sc g r u v)).decision = .allow := by
  refine h.walk (Scene.engineFor model) rfl (sc.store (Scene.shadow sc g r u v)) sc.request
    sc.evaluatedAt sc.admission (sc.admissible _) (sc.within model (Scene.shadow_small hv)) ?_ ?_
  · intro p hp
    exact Scene.shadow_not_denied hnames hgrant (carries_not_denies hnames hcarry)
      (denyReachable_iff.1 ⟨p, hp⟩)
  · refine ⟨_, Scene.shadow_chain hnames hg hgrant, fun t ht => ?_⟩
    refine (sc.stepPasses_store _ t).trans ?_
    simp only [List.mem_cons, List.not_mem_nil, or_false] at ht
    rcases ht with rfl | rfl | rfl <;> exact hpass

/-- **When the order of the writes does not matter**: exactly when, where one
grant passes its caveats, every tuple that carries the action does. -/
theorem order_blind_iff (H : Host) (model : PolicyModel)
    (hvalid : (validatePolicyModel H model).valid = true) :
    OrderBlind H model ↔ Unanimous H model := by
  have hnames := relationNames_nodup hvalid
  constructor
  · intro h sc r g hr hg hcarry hgrant hpass
    by_contra hfail
    rw [Bool.not_eq_true] at hfail
    have hchain : ∀ u v, v = sc.otherId ∨ v = sc.resource.id →
        (sc.outcome model (Scene.shadow sc g r u v)).decision = .allow :=
      fun _ _ => chain_allowed h hnames hg hcarry hgrant hpass
    rcases hcarry with hgr | ⟨hm | hc, ht⟩
    · exact Scene.shadow_by_grant hr hgr hfail (hchain _ _ (.inr rfl))
    · exact Scene.shadow_by_membership hnames hg hr hgrant hm ht hfail (hchain _ _ (.inl rfl))
    · exact Scene.shadow_by_containment hnames hg hr hgrant hc ht hfail (hchain _ _ (.inr rfl))
  · intro hun
    refine ⟨?_, ?_, ?_⟩
    · intro options hm st ws ws' hsame
      subst hm
      exact decideAlike_of_sameGraph hvalid hun hsame
    · intro options hm st
      subst hm
      exact decideAlike_of_sameGraph hvalid hun (sameGraph_export st)
    · intro options hm st
      subst hm
      exact walkEnough_of_unanimous hun st

/-- Models without conditional relationships are among them. -/
theorem unanimous_of_unconditional (h : model.conditionalRelationships.getD [] = []) :
    Unanimous H model :=
  fun _ r _ _ _ _ _ _ => stepPasses_of_unconditional h r

/-- The default model is one. -/
theorem default_order_blind : OrderBlind plainHost createDefaultPolicyModel :=
  (order_blind_iff plainHost createDefaultPolicyModel (by decide)).2
    (unanimous_of_unconditional rfl)

end

end AccessKit.Bugs.WriteOrder
