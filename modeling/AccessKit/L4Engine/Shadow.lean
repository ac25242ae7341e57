import AccessKit.L4Engine.Scene

/-!
# A short walk hides a longer one

The allow search returns a shortest walk, and the caveats are evaluated on
that walk only (packages/core/src/engine.ts:279-347). A scene makes this
visible: a chain of three grants leads to the resource, and a short cut skips
a part of it. When the short cut fails its caveats, the chain does not help.

Results:
* `shadow_allowed`: without caveats the chain is enough.
* `shadow_by_grant`, `shadow_by_membership`, `shadow_by_containment`: a short
  cut of each kind that fails its caveats hides the chain.
* `shadow_chain`: the chain is an allow walk all the same.
-/
namespace AccessKit.L4.Scene
open AccessKit.Core AccessKit.L1 AccessKit.L2.Store AccessKit.L3

variable {H : Host} {sc : Scene H} {model : PolicyModel} {g x : RelationshipTuple}

theorem target_iff {tuples : List RelationshipTuple} {r : RelationshipTuple} :
    r.objectId = (sc.input model tuples).resourceId ↔ r.objectId = sc.resource.id := by
  have h : (sc.input model tuples).resourceId = sc.resource.id := sc.resourceId
  rw [h]

/-- The walk that has not left the subject. -/
theorem walk_subject {tuples : List RelationshipTuple} :
    (allowSpace H (sc.input model tuples)).Walk ⟨(sc.input model tuples).subjectId, false⟩ []
      ⟨sc.subject.id, false⟩ := by
  have h : (sc.input model tuples).subjectId = sc.subject.id := sc.subjectId
  rw [h]
  exact .root

/-- A chain of three grants to the resource, and a short cut from `u` to `v`. -/
def shadow (sc : Scene H) (g x : RelationshipTuple) (u v : CanonicalId) :
    List RelationshipTuple :=
  [RelationshipTuple.place x "tuple:0" u v,
   RelationshipTuple.place g "tuple:1" sc.subject.id sc.middleId,
   RelationshipTuple.place g "tuple:2" sc.middleId sc.otherId,
   RelationshipTuple.place g "tuple:3" sc.otherId sc.resource.id]

section
variable {u v : CanonicalId}

theorem shadow_nodup : ((shadow sc g x u v).map (·.id)).Nodup := by
  change ["tuple:0", "tuple:1", "tuple:2", "tuple:3"].Nodup
  decide

theorem shadow_small (hv : v = sc.otherId ∨ v = sc.resource.id) :
    Small (shadow sc g x u v) where
  length := by simp [shadow]
  targets := by
    refine le_trans (Finset.card_le_card (t := {sc.middleId, sc.otherId, sc.resource.id}) ?_)
      Finset.card_le_three
    intro id hid
    have hid : id ∈ [v, sc.middleId, sc.otherId, sc.resource.id] := List.mem_toFinset.1 hid
    simp only [List.mem_cons, List.not_mem_nil, or_false] at hid
    simp only [Finset.mem_insert, Finset.mem_singleton]
    rcases hid with rfl | hid
    · exact .inr hv
    · exact hid

theorem shadow_usable (model : PolicyModel) (x : RelationshipTuple) (u v : CanonicalId)
    (hg : sc.Fits g) :
    Usable H (sc.input model (shadow sc g x u v))
        (RelationshipTuple.place g "tuple:1" sc.subject.id sc.middleId) ∧
      Usable H (sc.input model (shadow sc g x u v))
        (RelationshipTuple.place g "tuple:2" sc.middleId sc.otherId) ∧
      Usable H (sc.input model (shadow sc g x u v))
        (RelationshipTuple.place g "tuple:3" sc.otherId sc.resource.id) := by
  refine ⟨?_, ?_, ?_⟩
  · exact usable_of_fits shadow_nodup (by simp [shadow]) (hg.place _ _ _)
      (.inr sc.middleId_mem)
  · exact usable_of_fits shadow_nodup (by simp [shadow]) (hg.place _ _ _)
      (.inr sc.otherId_mem)
  · exact usable_of_fits shadow_nodup (by simp [shadow]) (hg.place _ _ _) (.inl rfl)

theorem shortcut_usable (hx : sc.Fits x) (hv : v = sc.otherId ∨ v = sc.resource.id) :
    Usable H (sc.input model (shadow sc g x u v)) (RelationshipTuple.place x "tuple:0" u v) := by
  refine usable_of_fits shadow_nodup List.mem_cons_self (hx.place _ _ _) ?_
  rcases hv with rfl | rfl
  · exact .inr sc.otherId_mem
  · exact .inl rfl

/-- The chain is an allow walk, whatever the short cut is. -/
theorem shadow_chain (hnames : (model.relations.map (·.name)).Nodup) (hg : sc.Fits g)
    (hgrant : g.relation ∈ (compilePolicyModel H model).grants sc.actionKey) :
    AllowWalk H (sc.input model (shadow sc g x u v))
      [RelationshipTuple.place g "tuple:1" sc.subject.id sc.middleId,
       RelationshipTuple.place g "tuple:2" sc.middleId sc.otherId,
       RelationshipTuple.place g "tuple:3" sc.otherId sc.resource.id] := by
  obtain ⟨h1, h2, h3⟩ := shadow_usable model x u v hg
  have hk : KindsApart H (sc.input model (shadow sc g x u v)) := kindsApart_compile hnames rfl
  have hmid := walk_grant hk walk_subject h1 hgrant (passable_spare sc.middleId_mem)
  have hoth := walk_grant hk hmid h2 hgrant (passable_spare sc.otherId_mem)
  exact allowWalk_of_walk hoth h3 input_resourceId.symm (.inl hgrant)

/-- Neither the chain nor a short cut that is no deny tuple denies. -/
theorem shadow_not_denied (hnames : (model.relations.map (·.name)).Nodup)
    (hgrant : g.relation ∈ (compilePolicyModel H model).grants sc.actionKey)
    (hx : x.relation ∉ (compilePolicyModel H model).denies sc.actionKey) :
    ¬ DenyReachable H (sc.input model (shadow sc g x u v)) := by
  refine not_denyReachable fun r hr => ?_
  simp only [shadow, List.mem_cons, List.not_mem_nil, or_false] at hr
  rcases hr with rfl | rfl | rfl | rfl
  · exact hx
  all_goals exact carries_not_denies hnames (.inl hgrant)

theorem shadow_allowed (hnames : (model.relations.map (·.name)).Nodup)
    (hplain : model.conditionalRelationships.getD [] = []) (hg : sc.Fits g)
    (hgrant : g.relation ∈ (compilePolicyModel H model).grants sc.actionKey)
    (hx : x.relation ∉ (compilePolicyModel H model).denies sc.actionKey)
    (hv : v = sc.otherId ∨ v = sc.resource.id) :
    (sc.outcome model (shadow sc g x u v)).decision = .allow := by
  exact allow_of hnames (shadow_small hv) (shadow_not_denied hnames hgrant hx)
    ((allowReachable_iff (kindsApart_compile hnames rfl)).1 ⟨_, shadow_chain hnames hg hgrant⟩)
    fun r _ => stepPasses_of_unconditional hplain r

/-- When the short cut fails its caveats and makes a walk shorter than the
chain, it is the short walk that the caveats are evaluated on. -/
theorem shadow_denied (hfail : stepPasses H (sc.caveatInput model) x = false)
    {q : List RelationshipTuple} (hq : AllowWalk H (sc.input model (shadow sc g x u v)) q)
    (hlen : q.length ≤ 2) : (sc.outcome model (shadow sc g x u v)).decision ≠ .allow := by
  intro h
  obtain ⟨p, hp, hpass⟩ := shortest_of_allow h
  have hle := hp.2 q hq
  have hchain : ∀ t ∈ p, t = RelationshipTuple.place g "tuple:1" sc.subject.id sc.middleId ∨
      t = RelationshipTuple.place g "tuple:2" sc.middleId sc.otherId ∨
      t = RelationshipTuple.place g "tuple:3" sc.otherId sc.resource.id := by
    intro t ht
    have hmem := mem_of_allowWalk hp.1 t ht
    simp only [shadow, List.mem_cons, List.not_mem_nil, or_false] at hmem
    rcases hmem with rfl | hmem
    · rw [stepPasses_place.symm.trans (hpass _ ht)] at hfail
      cases hfail
    · exact hmem
  have hms := spare_ne_subject sc.middleId_mem
  have hmr := spare_ne_resource sc.middleId_mem
  have hos := spare_ne_subject sc.otherId_mem
  have hor := spare_ne_resource sc.otherId_mem
  have hmo := sc.middleId_ne_other
  -- the rank of a node is its place in the chain
  have hthree : 3 ≤ p.length := by
    refine (allowSpace_overGraph H _).length_of_rank
      (fun id => if id = sc.middleId then 1 else if id = sc.otherId then 2 else 0) hp.1 ?_ ?_ ?_
    · change (if (sc.input model (shadow sc g x u v)).subjectId = sc.middleId then 1 else
        if (sc.input model (shadow sc g x u v)).subjectId = sc.otherId then 2 else 0) = 0
      have hs : (sc.input model (shadow sc g x u v)).subjectId = sc.subject.id := sc.subjectId
      rw [hs, if_neg hms.symm, if_neg hos.symm]
    · intro t ht
      rcases hchain t ht with rfl | rfl | rfl
      · simp [RelationshipTuple.place]
      · simp [RelationshipTuple.place, hmo.symm]
      · simp [RelationshipTuple.place, hmr.symm, hor.symm]
    · intro t ht hobj
      rw [target_iff] at hobj
      rcases hchain t ht with rfl | rfl | rfl
      · exact absurd hobj hmr
      · exact absurd hobj hor
      · simp [RelationshipTuple.place, hmo.symm]
  omega

end

/-! A short cut may be a grant past the chain, a membership to its last node,
or a containment from its first node. -/

theorem shadow_by_grant (hx : sc.Fits x)
    (hgrant : x.relation ∈ (compilePolicyModel H model).grants sc.actionKey)
    (hfail : stepPasses H (sc.caveatInput model) x = false) :
    (sc.outcome model (shadow sc g x sc.subject.id sc.resource.id)).decision ≠ .allow :=
  shadow_denied hfail (allowWalk_of_walk walk_subject (shortcut_usable hx (.inr rfl))
    input_resourceId.symm (.inl hgrant)) (by simp)

theorem shadow_by_membership (hnames : (model.relations.map (·.name)).Nodup) (hg : sc.Fits g)
    (hx : sc.Fits x) (hgrant : g.relation ∈ (compilePolicyModel H model).grants sc.actionKey)
    (hm : x.relation ∈ (compilePolicyModel H model).membershipRelations)
    (ht : x.relation ∈ (compilePolicyModel H model).traversals sc.actionKey)
    (hfail : stepPasses H (sc.caveatInput model) x = false) :
    (sc.outcome model (shadow sc g x sc.subject.id sc.otherId)).decision ≠ .allow := by
  obtain ⟨-, -, h3⟩ := shadow_usable model x sc.subject.id sc.otherId hg
  have hk : KindsApart H (sc.input model (shadow sc g x sc.subject.id sc.otherId)) :=
    kindsApart_compile hnames rfl
  have hw := walk_membership hk walk_subject (shortcut_usable hx (.inl rfl)) hm ht
    (passable_spare sc.otherId_mem)
  exact shadow_denied hfail (allowWalk_of_walk hw h3 input_resourceId.symm (.inl hgrant))
    (by simp)

theorem shadow_by_containment (hnames : (model.relations.map (·.name)).Nodup) (hg : sc.Fits g)
    (hx : sc.Fits x) (hgrant : g.relation ∈ (compilePolicyModel H model).grants sc.actionKey)
    (hc : x.relation ∈ (compilePolicyModel H model).containmentRelations)
    (ht : x.relation ∈ (compilePolicyModel H model).traversals sc.actionKey)
    (hfail : stepPasses H (sc.caveatInput model) x = false) :
    (sc.outcome model (shadow sc g x sc.middleId sc.resource.id)).decision ≠ .allow := by
  obtain ⟨h1, -, -⟩ := shadow_usable model x sc.middleId sc.resource.id hg
  have hk : KindsApart H (sc.input model (shadow sc g x sc.middleId sc.resource.id)) :=
    kindsApart_compile hnames rfl
  have hw := walk_grant hk walk_subject h1 hgrant (passable_spare sc.middleId_mem)
  exact shadow_denied hfail (allowWalk_of_walk hw (shortcut_usable hx (.inr rfl))
    input_resourceId.symm (.inr ⟨hc, ht, rfl⟩)) (by simp)

end AccessKit.L4.Scene
