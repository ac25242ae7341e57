import AccessKit.L4Engine.Shadow
import AccessKit.L5Runtime.Playground

/-!
# The playground decides with the default model

Status: open. `runPolicyPlayground` validates the model under test and the
context of each request against it, and then asks an engine that was not given
the model (packages/core/src/policy-playground.ts:97-103): without the option
`policyModel` the constructor takes the default model
(packages/core/src/engine.ts:128).

Counterexample: a valid model in which only owners and administrators write.
The playground reports that Alice may write the case plan, the engine over the
same graph with the model denies it (`contributor_still_writes`).

Exact condition: `LikeDefault`. In every scene whose context passes, either
the default model grants the action through nothing and the model through
nothing that passes its caveats, or the model gives the relations of the action
the roles they have in the default model and every tuple that carries the
action passes its caveats (`playground_agrees_iff`).
-/
namespace AccessKit.Bugs.PlaygroundModel
open AccessKit.Core AccessKit.L1 AccessKit.L2.Store AccessKit.L2.Fixtures AccessKit.L3
  AccessKit.L4 AccessKit.L5

/-- The options of the engine that has the model under test. -/
def modelOptions (playground : Playground) : DecisionEngineOptions :=
  { playgroundOptions playground with policyModel := some playground.model }

/-- Every decision reported on the model is that of the engine with the
model. -/
def Agrees (H : Host) (model : PolicyModel) : Prop :=
  ∀ (defaults : Playground) (input : PolicyPlaygroundInput),
    (normalizeInput defaults input).model = model →
    ∀ result ∈ (runPolicyPlayground H defaults input).requests, ∀ d, result.decision = some d →
      d.decision = (evaluate H (.new H (modelOptions (normalizeInput defaults input)))
        (.ofSeed (normalizeInput defaults input).seed) result.request
        (normalizeInput defaults input).evaluatedAt).decision

/-- The request of the scene gets through the playground's gate. -/
def Tried (H : Host) (model : PolicyModel) (sc : Scene H) : Prop :=
  ∃ context own, sc.request.context = some (JsonRecord.spread context own) ∧
    contextPasses H model (JsonRecord.spread context own) = true

/-- For the request of the scene, the model gives the relations the roles they
have in a model without caveats, and its own caveats bite nowhere. -/
structure AsGoodAs {H : Host} (base model : PolicyModel) (sc : Scene H) : Prop where
  roles : SameRoles (compilePolicyModel H model) (compilePolicyModel H base) sc.actionKey
  passes : ∀ r, sc.Fits r → Carries (compilePolicyModel H model) sc.actionKey r.relation →
    stepPasses H (sc.caveatInput model) r = true

/-- No grant of the model passes in the scene. -/
def GrantsNothing {H : Host} (model : PolicyModel) (sc : Scene H) : Prop :=
  ∀ g, sc.Fits g → g.relation ∈ (compilePolicyModel H model).grants sc.actionKey →
    stepPasses H (sc.caveatInput model) g = false

/-- In every scene that is tried, the model is as good as the default one. -/
def LikeDefault (H : Host) (model : PolicyModel) : Prop :=
  ∀ sc : Scene H, Tried H model sc →
    if (compilePolicyModel H createDefaultPolicyModel).grants sc.actionKey = ∅ then
      GrantsNothing model sc
    else AsGoodAs createDefaultPolicyModel model sc

/-! ## The counterexample -/

/-- The default model, where contributing does not mean writing. -/
def ownersWrite : PolicyModel :=
  { createDefaultPolicyModel with
    actions := createDefaultPolicyModel.actions.map fun a =>
      if a.name = "write" then { a with grants := ["owner_of", "admin_of"] } else a }

/-- The demo harness is not asked for anything. -/
def noDefaults : Playground :=
  ⟨"", createDefaultPolicyModel, {}, [], [], timestamp, "", ""⟩

/-- **Counterexample**: the playground reports an allow, the engine with the
model denies. -/
theorem contributor_still_writes :
    (validatePolicyModel plainHost ownersWrite).valid = true ∧
    (∃ result ∈ (runPolicyPlayground plainHost noDefaults
        (tryOut ownersWrite createLocalEngineSeed [] writePlan timestamp)).requests,
      ∃ d, result.decision = some d ∧ d.decision = .allow) ∧
    (evaluate plainHost (.new plainHost { policyModel := some ownersWrite }) localStore writePlan
      timestamp).decision = .deny ∧
    ¬ Agrees plainHost ownersWrite := by
  have hvalid : (validatePolicyModel plainHost ownersWrite).valid = true := by decide
  obtain ⟨result, hmem, hreq, hdec⟩ := reported (H := plainHost) noDefaults createLocalEngineSeed
    [] writePlan timestamp hvalid (by decide)
  refine ⟨hvalid, ⟨result, hmem, _, hdec, by decide +kernel⟩, by decide +kernel, ?_⟩
  intro h
  have heq := h noDefaults _ rfl result hmem _ hdec
  rw [hreq] at heq
  exact absurd heq (by decide +kernel)

/-! ## Scenes that tell two models apart -/

section
variable {H : Host} {sc : Scene H} {model : PolicyModel} {g x δ : RelationshipTuple}

/-- A grant on the resource, and a chain through the middle that may deny it. -/
def detour (sc : Scene H) (g x δ : RelationshipTuple) : List RelationshipTuple :=
  [RelationshipTuple.place g "tuple:1" sc.subject.id sc.resource.id,
   RelationshipTuple.place x "tuple:2" sc.subject.id sc.middleId,
   RelationshipTuple.place δ "tuple:3" sc.middleId sc.resource.id]

theorem detour_nodup : ((detour sc g x δ).map (·.id)).Nodup := by
  change ["tuple:1", "tuple:2", "tuple:3"].Nodup
  decide

/-- The chain is a deny walk when its first tuple is a membership and its
second a deny. -/
theorem detour_denied (hx : sc.Fits x) (hδ : sc.Fits δ)
    (hm : x.relation ∈ (compilePolicyModel H model).membershipRelations)
    (hd : δ.relation ∈ (compilePolicyModel H model).denies sc.actionKey) :
    (sc.outcome model (detour sc g x δ)).decision ≠ .allow := by
  intro h
  obtain ⟨hno, -, -⟩ := Scene.walks_of_allow h
  have hux : Usable H (sc.input model (detour sc g x δ))
      (RelationshipTuple.place x "tuple:2" sc.subject.id sc.middleId) :=
    Scene.usable_of_fits detour_nodup (by simp [detour]) (hx.place _ _ _) (.inr sc.middleId_mem)
  have huδ : Usable H (sc.input model (detour sc g x δ))
      (RelationshipTuple.place δ "tuple:3" sc.middleId sc.resource.id) :=
    Scene.usable_of_fits detour_nodup (by simp [detour]) (hδ.place _ _ _) (.inl rfl)
  have hreach : DenyReach H (sc.input model (detour sc g x δ)) sc.middleId :=
    DenyReach.membership Scene.denyReach_subject hux hm (Scene.passable_spare sc.middleId_mem)
  have hdeny : DenyReachable H (sc.input model (detour sc g x δ)) :=
    ⟨_, hreach, huδ, Scene.input_resourceId.symm, hd⟩
  obtain ⟨p, hp⟩ := denyReachable_iff.2 hdeny
  exact hno p hp

/-- Otherwise the grant decides, which is the only tuple from the subject to
the resource. -/
theorem detour_allowed (hnames : (model.relations.map (·.name)).Nodup) (hg : sc.Fits g)
    (hgrant : g.relation ∈ (compilePolicyModel H model).grants sc.actionKey)
    (hpass : stepPasses H (sc.caveatInput model) g = true)
    (hno : ¬ (x.relation ∈ (compilePolicyModel H model).membershipRelations ∧
      δ.relation ∈ (compilePolicyModel H model).denies sc.actionKey)) :
    (sc.outcome model (detour sc g x δ)).decision = .allow := by
  have hmiddle := Scene.spare_ne_resource sc.middleId_mem
  have hmiddle' := Scene.spare_ne_subject sc.middleId_mem
  have hu : Usable H (sc.input model (detour sc g x δ))
      (RelationshipTuple.place g "tuple:1" sc.subject.id sc.resource.id) :=
    Scene.usable_of_fits detour_nodup (by simp [detour]) (hg.place _ _ _) (.inl rfl)
  refine Scene.allow_of_shortest hnames (Scene.small_of_length (by simp [detour])) ?_
    ⟨_, false, Scene.allowReach_subject, hu, Scene.input_resourceId.symm, .inl hgrant⟩ ?_
  · intro hdeny
    obtain ⟨r, hreach, hur, hres, hd⟩ := hdeny
    have hmem := Scene.mem_of_usable hur
    rw [Scene.target_iff] at hres
    simp only [detour, List.mem_cons, List.not_mem_nil, or_false] at hmem
    rcases hmem with rfl | rfl | rfl
    · exact carries_not_denies hnames (.inl hgrant) hd
    · exact hmiddle hres
    · rcases denyReach_inv hreach with heq | ⟨e, -, hue, ho, -, hm⟩
      · exact hmiddle' (heq.trans sc.subjectId)
      have hmem := Scene.mem_of_usable hue
      simp only [detour, List.mem_cons, List.not_mem_nil, or_false] at hmem
      rcases hmem with rfl | rfl | rfl
      · exact hmiddle ho.symm
      · exact hno ⟨hm, hd⟩
      · exact hmiddle ho.symm
  · intro p hp t ht
    have hone := hp.2 _ (allowWalk_of_walk Scene.walk_subject hu Scene.input_resourceId.symm
      (.inl hgrant))
    rw [List.length_reverse, List.length_singleton] at hone
    obtain ⟨a, ha, hsub⟩ := (allowSpace_overGraph H _).goalWalk_source hp.1
    obtain ⟨b, hb, hobj⟩ := (allowSpace_overGraph H _).goalWalk_target hp.1
    obtain ⟨e, rfl⟩ := List.length_eq_one_iff.1 (le_antisymm hone (List.length_pos_of_mem ha))
    have hmem := Scene.mem_of_allowWalk hp.1 e (List.mem_singleton_self _)
    rw [List.mem_singleton.1 ha] at hsub
    rw [List.mem_singleton.1 hb, Scene.target_iff] at hobj
    rw [List.mem_singleton.1 ht]
    simp only [detour, List.mem_cons, List.not_mem_nil, or_false] at hmem
    rcases hmem with rfl | rfl | rfl
    · exact hpass
    · exact absurd hobj hmiddle
    · exact absurd (hsub.trans sc.subjectId) hmiddle'

/-! ## What two tuples in a row say -/

/-- From the subject through the middle to the resource: when that is allowed,
the first tuple passes, and is a grant or an inherited membership. -/
theorem first_of_through (h : (sc.outcome model (sc.through x g)).decision = .allow) :
    (x.relation ∈ (compilePolicyModel H model).grants sc.actionKey ∨
      (x.relation ∈ (compilePolicyModel H model).membershipRelations ∧
        x.relation ∈ (compilePolicyModel H model).traversals sc.actionKey)) ∧
    stepPasses H (sc.caveatInput model) x = true := by
  have hms := Scene.spare_ne_subject sc.middleId_mem
  have hmr := Scene.spare_ne_resource sc.middleId_mem
  obtain ⟨-, ⟨trail, s, t, hpath, hw, hr, hu, hgoal⟩, hpass⟩ := Scene.walks_of_allow h
  obtain ⟨hut, hid⟩ := usable_iff.1 ⟨hr, hu⟩
  have hobj : t.objectId = sc.resource.id :=
    Scene.target_iff.1 ((allowSpace_overGraph H _).goal s t hgoal)
  have hreach := allowReach_of_walk hw
  rw [← hid] at hreach
  have hwalk : AllowWalk H (sc.input model (sc.through x g)) (sc.outcome model
      (sc.through x g)).path.relationships := ⟨trail, s, t, hpath, hw, hr, hu, hgoal⟩
  constructor
  · have hmem := Scene.mem_of_usable hut
    rw [Scene.through, List.mem_pair] at hmem
    rcases hmem with rfl | rfl
    · exact absurd hobj hmr
    rcases allowReach_inv hreach with ⟨heq, -⟩ | ⟨e, hue, ho, -, hkind⟩
    · exact absurd (heq.trans sc.subjectId) hms
    have hmem := Scene.mem_of_usable hue
    rw [Scene.through, List.mem_pair] at hmem
    rcases hmem with rfl | rfl
    · rcases hkind with hm | hgr | hback
      · exact .inr hm
      · exact .inl hgr
      · -- nothing leads back to the subject, so that it is never reached with a grant
        rcases allowReach_inv hback with ⟨-, hfalse⟩ | ⟨e', hue', ho', hp, -⟩
        · cases hfalse
        have hmem := Scene.mem_of_usable hue'
        rw [Scene.through, List.mem_pair] at hmem
        rcases hmem with rfl | rfl
        · exact absurd ho' hms
        · exact absurd (ho'.symm.trans Scene.input_resourceId.symm) hp.ne
    · exact absurd ho.symm hmr
  · obtain ⟨e, he, hsub⟩ := (allowSpace_overGraph H _).goalWalk_source hwalk
    have hpe := hpass e he
    have hmem := Scene.mem_of_allowWalk hwalk e he
    rw [Scene.through, List.mem_pair] at hmem
    rcases hmem with rfl | rfl
    · exact hpe
    · exact absurd (hsub.trans sc.subjectId) hms

/-- The second tuple passes, and is a grant or an inherited containment. -/
theorem second_of_through (h : (sc.outcome model (sc.through g x)).decision = .allow) :
    (x.relation ∈ (compilePolicyModel H model).grants sc.actionKey ∨
      (x.relation ∈ (compilePolicyModel H model).containmentRelations ∧
        x.relation ∈ (compilePolicyModel H model).traversals sc.actionKey)) ∧
    stepPasses H (sc.caveatInput model) x = true := by
  have hmr := Scene.spare_ne_resource sc.middleId_mem
  obtain ⟨-, ⟨trail, s, t, hpath, hw, hr, hu, hgoal⟩, hpass⟩ := Scene.walks_of_allow h
  have hut := (usable_iff.1 ⟨hr, hu⟩).1
  have hmem := Scene.mem_of_usable hut
  simp only [allowSpace, decide_eq_true_eq] at hgoal
  have hobj := Scene.target_iff.1 hgoal.1
  have hpt := hpass t (by simp [hpath])
  rw [Scene.through, List.mem_pair] at hmem
  rcases hmem with rfl | rfl
  · exact absurd hobj hmr
  · refine ⟨?_, hpt⟩
    rcases hgoal.2 with hgr | ⟨hc, ht, -⟩
    · exact .inl hgr
    · exact .inr ⟨hc, ht⟩

/-- Two tuples that carry the action are allowed when both pass and there is a
way. -/
theorem through_allowed (hnames : (model.relations.map (·.name)).Nodup) {r r' : RelationshipTuple}
    (hr : Carries (compilePolicyModel H model) sc.actionKey r.relation)
    (hr' : Carries (compilePolicyModel H model) sc.actionKey r'.relation)
    (hp : stepPasses H (sc.caveatInput model) r = true)
    (hp' : stepPasses H (sc.caveatInput model) r' = true)
    (hw : AllowReachable H (sc.input model (sc.through r r'))) :
    (sc.outcome model (sc.through r r')).decision = .allow := by
  refine Scene.allow_of hnames (Scene.small_of_length (by simp [Scene.through]))
    (Scene.not_denyReachable ?_) hw ?_
  · intro t ht
    rw [Scene.through, List.mem_pair] at ht
    rcases ht with rfl | rfl
    · exact carries_not_denies hnames hr
    · exact carries_not_denies hnames hr'
  · intro t ht
    rw [Scene.through, List.mem_pair] at ht
    rcases ht with rfl | rfl
    · exact hp
    · exact hp'

theorem member_allowed (hnames : (model.relations.map (·.name)).Nodup) (hx : sc.Fits x)
    (hg : sc.Fits g) (hm : x.relation ∈ (compilePolicyModel H model).membershipRelations)
    (ht : x.relation ∈ (compilePolicyModel H model).traversals sc.actionKey)
    (hgrant : g.relation ∈ (compilePolicyModel H model).grants sc.actionKey)
    (hp : stepPasses H (sc.caveatInput model) x = true)
    (hp' : stepPasses H (sc.caveatInput model) g = true) :
    (sc.outcome model (sc.through x g)).decision = .allow :=
  through_allowed hnames (.inr ⟨.inl hm, ht⟩) (.inl hgrant) hp hp'
    (Scene.allowReachable_member (sc.through_nodup x g) List.mem_cons_self
      (List.mem_cons_of_mem _ (List.mem_singleton_self _)) hx hg hm ht hgrant)

theorem container_allowed (hnames : (model.relations.map (·.name)).Nodup) (hx : sc.Fits x)
    (hg : sc.Fits g) (hc : x.relation ∈ (compilePolicyModel H model).containmentRelations)
    (ht : x.relation ∈ (compilePolicyModel H model).traversals sc.actionKey)
    (hgrant : g.relation ∈ (compilePolicyModel H model).grants sc.actionKey)
    (hp : stepPasses H (sc.caveatInput model) x = true)
    (hp' : stepPasses H (sc.caveatInput model) g = true) :
    (sc.outcome model (sc.through g x)).decision = .allow :=
  through_allowed hnames (.inl hgrant) (.inr ⟨.inr hc, ht⟩) hp' hp
    (Scene.allowReachable_container (sc.through_nodup g x) List.mem_cons_self
      (List.mem_cons_of_mem _ (List.mem_singleton_self _)) hg hx hgrant hc ht)

end

/-! ## Agreement in a scene -/

section
variable {H : Host}

/-- What the default model is here: a model with unique names and no caveats,
with a membership and with a deny for every action. -/
structure Reference (H : Host) (base : PolicyModel) : Prop where
  names : (base.relations.map (·.name)).Nodup
  plain : base.conditionalRelationships.getD [] = []
  member : ∃ m, m ∈ (compilePolicyModel H base).membershipRelations
  deny : ∃ d, ∀ actionKey, d ∈ (compilePolicyModel H base).denies actionKey

theorem default_reference : Reference H createDefaultPolicyModel where
  names := by decide
  plain := rfl
  member := by
    refine ⟨"member_of", ?_⟩
    change "member_of" ∈ relationNamesOfKind createDefaultPolicyModel .membership
    decide
  deny := ⟨"denied", fun _ => mem_denies.2 (.inl (by decide))⟩

theorem Reference.passes {base : PolicyModel} (hb : Reference H base) {sc : Scene H}
    (r : RelationshipTuple) : stepPasses H (sc.caveatInput base) r = true :=
  stepPasses_of_unconditional hb.plain r

theorem grant_apart {model : PolicyModel} (hnames : (model.relations.map (·.name)).Nodup)
    {actionKey r : String} (h : r ∈ (compilePolicyModel H model).grants actionKey) :
    r ∉ (compilePolicyModel H model).membershipRelations ∧
      r ∉ (compilePolicyModel H model).containmentRelations := by
  have hg := (mem_grants.1 h).1
  constructor <;> intro hm <;> cases kinds_disjoint hnames hg hm

/-- Whatever the tuples, the two models decide the scene alike. -/
def AlikeIn (base model : PolicyModel) (sc : Scene H) : Prop :=
  ∀ tuples, (sc.outcome base tuples).decision = (sc.outcome model tuples).decision

variable {sc : Scene H} {base model : PolicyModel}

theorem AlikeIn.grant (h : AlikeIn base model sc) (hb : Reference H base) {g : RelationshipTuple} (hfit : sc.Fits g)
    (hg : g.relation ∈ (compilePolicyModel H base).grants sc.actionKey) :
    g.relation ∈ (compilePolicyModel H model).grants sc.actionKey ∧
      stepPasses H (sc.caveatInput model) g = true := by
  have hd := Scene.direct_allowed hb.names hfit hg (hb.passes g)
  exact Scene.grant_of_direct ((h _).symm.trans hd)

/-- A tuple that is refused alone fails its caveats, if its relation grants the
action. -/
theorem AlikeIn.fails (h : AlikeIn base model sc) (hnames : (model.relations.map (·.name)).Nodup)
    {g : RelationshipTuple} (hfit : sc.Fits g)
    (hg : g.relation ∈ (compilePolicyModel H model).grants sc.actionKey)
    (hno : g.relation ∉ (compilePolicyModel H base).grants sc.actionKey) :
    stepPasses H (sc.caveatInput model) g = false := by
  cases hp : stepPasses H (sc.caveatInput model) g with
  | false => rfl
  | true =>
    have ha := Scene.direct_allowed hnames hfit hg hp
    exact absurd (Scene.grant_of_direct ((h _).trans ha)).1 hno

section
variable {g : RelationshipTuple} (h : AlikeIn base model sc) (hb : Reference H base)
  (hnames : (model.relations.map (·.name)).Nodup) (hfit : sc.Fits g)
  (hg : g.relation ∈ (compilePolicyModel H base).grants sc.actionKey)

include h hb hnames hfit hg

theorem AlikeIn.detours {x δ : RelationshipTuple} (hx : sc.Fits x) (hδ : sc.Fits δ) :
    (x.relation ∈ (compilePolicyModel H model).membershipRelations ∧
      δ.relation ∈ (compilePolicyModel H model).denies sc.actionKey) ↔
    (x.relation ∈ (compilePolicyModel H base).membershipRelations ∧
      δ.relation ∈ (compilePolicyModel H base).denies sc.actionKey) := by
  obtain ⟨hg', hp⟩ := h.grant hb hfit hg
  constructor
  · intro ⟨hm, hd⟩
    by_contra hno
    have ha := detour_allowed hb.names hfit hg (hb.passes g) hno
    exact detour_denied hx hδ hm hd ((h _).symm.trans ha)
  · intro ⟨hm, hd⟩
    by_contra hno
    have ha := detour_allowed hnames hfit hg' hp hno
    exact detour_denied hx hδ hm hd ((h _).trans ha)

theorem AlikeIn.denies : (compilePolicyModel H model).denies sc.actionKey =
    (compilePolicyModel H base).denies sc.actionKey := by
  obtain ⟨m, hm⟩ := hb.member
  obtain ⟨d, hd⟩ := hb.deny
  have hfix := (h.detours hb hnames hfit hg (sc.fits_tuple m) (sc.fits_tuple d)).2 ⟨hm, hd _⟩
  ext δ
  have hδ := h.detours hb hnames hfit hg (sc.fits_tuple m) (sc.fits_tuple δ)
  exact ⟨fun hmem => (hδ.1 ⟨hfix.1, hmem⟩).2, fun hmem => (hδ.2 ⟨hm, hmem⟩).2⟩

theorem AlikeIn.membershipRelations : (compilePolicyModel H model).membershipRelations =
    (compilePolicyModel H base).membershipRelations := by
  obtain ⟨m, hm⟩ := hb.member
  obtain ⟨d, hd⟩ := hb.deny
  have hfix := (h.detours hb hnames hfit hg (sc.fits_tuple m) (sc.fits_tuple d)).2 ⟨hm, hd _⟩
  ext x
  have hx := h.detours hb hnames hfit hg (sc.fits_tuple x) (sc.fits_tuple d)
  exact ⟨fun hmem => (hx.1 ⟨hmem, hfix.2⟩).1, fun hmem => (hx.2 ⟨hmem, hd _⟩).1⟩

theorem AlikeIn.not_denies {r : String}
    (hr : Carries (compilePolicyModel H model) sc.actionKey r) :
    r ∉ (compilePolicyModel H base).denies sc.actionKey := by
  rw [← h.denies hb hnames hfit hg]
  exact carries_not_denies hnames hr

theorem AlikeIn.grants : (compilePolicyModel H model).grants sc.actionKey =
    (compilePolicyModel H base).grants sc.actionKey := by
  ext r
  constructor
  · intro hr
    by_contra hno
    have hfits := sc.fits_tuple r
    have hfail := h.fails hnames hfits hr hno
    have ha := Scene.shadow_allowed (x := sc.tuple r) (u := sc.subject.id) hb.names hb.plain hfit hg
      (h.not_denies hb hnames hfit hg (.inl hr)) (.inr rfl)
    exact Scene.shadow_by_grant hfits hr hfail ((h _).symm.trans ha)
  · exact fun hr => (h.grant hb (sc.fits_tuple r) hr).1

/-- Memberships the action is inherited through: the same ones, and they pass. -/
theorem AlikeIn.memberships {x : RelationshipTuple} (hx : sc.Fits x) :
    ((x.relation ∈ (compilePolicyModel H model).membershipRelations ∧
        x.relation ∈ (compilePolicyModel H model).traversals sc.actionKey) ↔
      (x.relation ∈ (compilePolicyModel H base).membershipRelations ∧
        x.relation ∈ (compilePolicyModel H base).traversals sc.actionKey)) ∧
    (x.relation ∈ (compilePolicyModel H model).membershipRelations →
      x.relation ∈ (compilePolicyModel H model).traversals sc.actionKey →
      stepPasses H (sc.caveatInput model) x = true) := by
  have hgrants := h.grants hb hnames hfit hg
  obtain ⟨hg', hp⟩ := h.grant hb hfit hg
  have hto : x.relation ∈ (compilePolicyModel H base).membershipRelations ∧
      x.relation ∈ (compilePolicyModel H base).traversals sc.actionKey →
      (x.relation ∈ (compilePolicyModel H model).membershipRelations ∧
        x.relation ∈ (compilePolicyModel H model).traversals sc.actionKey) ∧
      stepPasses H (sc.caveatInput model) x = true := by
    intro ⟨hm, ht⟩
    have ha := member_allowed hb.names hx hfit hm ht hg (hb.passes x) (hb.passes g)
    obtain ⟨hkind, hpx⟩ := first_of_through ((h _).symm.trans ha)
    refine ⟨hkind.resolve_left fun hgr => ?_, hpx⟩
    rw [hgrants] at hgr
    exact (grant_apart hb.names hgr).1 hm
  have hfrom : x.relation ∈ (compilePolicyModel H model).membershipRelations ∧
      x.relation ∈ (compilePolicyModel H model).traversals sc.actionKey →
      (x.relation ∈ (compilePolicyModel H base).membershipRelations ∧
        x.relation ∈ (compilePolicyModel H base).traversals sc.actionKey) := by
    intro ⟨hm, ht⟩
    by_contra hno
    cases hpx : stepPasses H (sc.caveatInput model) x with
    | true =>
      have ha := member_allowed hnames hx hfit hm ht hg' hpx hp
      obtain ⟨hkind, -⟩ := first_of_through ((h _).trans ha)
      rcases hkind with hgr | hmt
      · rw [← hgrants] at hgr
        exact (grant_apart hnames hgr).1 hm
      · exact hno hmt
    | false =>
      have ha := Scene.shadow_allowed (u := sc.subject.id) hb.names hb.plain hfit hg
        (h.not_denies hb hnames hfit hg (.inr ⟨.inl hm, ht⟩)) (.inl rfl)
      exact Scene.shadow_by_membership hnames hfit hx hg' hm ht hpx ((h _).symm.trans ha)
  exact ⟨⟨hfrom, fun hd => (hto hd).1⟩, fun hm ht => (hto (hfrom ⟨hm, ht⟩)).2⟩

/-- Containments the action is inherited through: the same ones, and they
pass. -/
theorem AlikeIn.containments {x : RelationshipTuple} (hx : sc.Fits x) :
    ((x.relation ∈ (compilePolicyModel H model).containmentRelations ∧
        x.relation ∈ (compilePolicyModel H model).traversals sc.actionKey) ↔
      (x.relation ∈ (compilePolicyModel H base).containmentRelations ∧
        x.relation ∈ (compilePolicyModel H base).traversals sc.actionKey)) ∧
    (x.relation ∈ (compilePolicyModel H model).containmentRelations →
      x.relation ∈ (compilePolicyModel H model).traversals sc.actionKey →
      stepPasses H (sc.caveatInput model) x = true) := by
  have hgrants := h.grants hb hnames hfit hg
  obtain ⟨hg', hp⟩ := h.grant hb hfit hg
  have hto : x.relation ∈ (compilePolicyModel H base).containmentRelations ∧
      x.relation ∈ (compilePolicyModel H base).traversals sc.actionKey →
      (x.relation ∈ (compilePolicyModel H model).containmentRelations ∧
        x.relation ∈ (compilePolicyModel H model).traversals sc.actionKey) ∧
      stepPasses H (sc.caveatInput model) x = true := by
    intro ⟨hc, ht⟩
    have ha := container_allowed hb.names hx hfit hc ht hg (hb.passes x) (hb.passes g)
    obtain ⟨hkind, hpx⟩ := second_of_through ((h _).symm.trans ha)
    refine ⟨hkind.resolve_left fun hgr => ?_, hpx⟩
    rw [hgrants] at hgr
    exact (grant_apart hb.names hgr).2 hc
  have hfrom : x.relation ∈ (compilePolicyModel H model).containmentRelations ∧
      x.relation ∈ (compilePolicyModel H model).traversals sc.actionKey →
      (x.relation ∈ (compilePolicyModel H base).containmentRelations ∧
        x.relation ∈ (compilePolicyModel H base).traversals sc.actionKey) := by
    intro ⟨hc, ht⟩
    by_contra hno
    cases hpx : stepPasses H (sc.caveatInput model) x with
    | true =>
      have ha := container_allowed hnames hx hfit hc ht hg' hpx hp
      obtain ⟨hkind, -⟩ := second_of_through ((h _).trans ha)
      rcases hkind with hgr | hct
      · rw [← hgrants] at hgr
        exact (grant_apart hnames hgr).2 hc
      · exact hno hct
    | false =>
      have ha := Scene.shadow_allowed (u := sc.middleId) hb.names hb.plain hfit hg
        (h.not_denies hb hnames hfit hg (.inr ⟨.inr hc, ht⟩)) (.inr rfl)
      exact Scene.shadow_by_containment hnames hfit hx hg' hc ht hpx ((h _).symm.trans ha)
  exact ⟨⟨hfrom, fun hd => (hto hd).1⟩, fun hc ht => (hto (hfrom ⟨hc, ht⟩)).2⟩

/-- Two models that decide a scene alike, where the reference grants something,
give the relations the same roles. -/
theorem AlikeIn.asGoodAs : AsGoodAs base model sc where
  roles :=
    { grants := h.grants hb hnames hfit hg
      memberships := fun r => (h.memberships hb hnames hfit hg (sc.fits_tuple r)).1
      containments := fun r => (h.containments hb hnames hfit hg (sc.fits_tuple r)).1
      denies := h.denies hb hnames hfit hg
      denyMemberships := h.membershipRelations hb hnames hfit hg }
  passes r hr hcarry := by
    rcases hcarry with hgr | ⟨hm | hc, ht⟩
    · rw [h.grants hb hnames hfit hg] at hgr
      exact (h.grant hb hr hgr).2
    · exact (h.memberships hb hnames hfit hg hr).2 hm ht
    · exact (h.containments hb hnames hfit hg hr).2 hc ht

end

/-! ## When the playground agrees -/

/-- A playground that agrees decides every scene it tries as the model does. -/
theorem alikeIn_of_agrees (hvalid : (validatePolicyModel H model).valid = true)
    (h : Agrees H model) (htried : Tried H model sc) : AlikeIn createDefaultPolicyModel model sc := by
  obtain ⟨context, own, hctx, hpass⟩ := htried
  intro tuples
  have hreq : submittedRequest context { sc.request with context := some own } = sc.request := by
    simp only [submittedRequest, Option.getD_some]
    rw [← hctx]
  obtain ⟨result, hmem, hr, hdec⟩ := reported (H := H) noDefaults
    ⟨[sc.subject, sc.spare sc.middleId, sc.spare sc.otherId], [sc.resource], tuples, []⟩
    context { sc.request with context := some own } sc.evaluatedAt hvalid hpass
  have heq := h noDefaults _ rfl result hmem _ hdec
  rw [hr, hreq, decision_of_versions H (playgroundOptions _),
    decision_of_versions H (modelOptions _)] at heq
  exact heq

/-- Same roles, same searches of a decision. -/
theorem searches_of_roles (hnames : (model.relations.map (·.name)).Nodup)
    (st : InMemoryRebacStore) (request : DecisionRequest) (evaluatedAt : IsoDateTime)
    (a : Admission)
    (h : SameRoles (compilePolicyModel H model) (compilePolicyModel H createDefaultPolicyModel)
      (toLowerCase H request.action)) :
    denySearch H (.new H (Scene.engineFor model)) st request
        (normalizeDecisionRuntimeVersionPins H request
          (RebacDecisionEngine.new H (Scene.engineFor model)).options evaluatedAt) a =
      denySearch H (.new H (Scene.engineFor createDefaultPolicyModel)) st request
        (normalizeDecisionRuntimeVersionPins H request
          (RebacDecisionEngine.new H
            (Scene.engineFor createDefaultPolicyModel)).options evaluatedAt) a ∧
    allowSearch H (.new H (Scene.engineFor model)) st request
        (normalizeDecisionRuntimeVersionPins H request
          (RebacDecisionEngine.new H (Scene.engineFor model)).options evaluatedAt) a =
      allowSearch H (.new H (Scene.engineFor createDefaultPolicyModel)) st request
        (normalizeDecisionRuntimeVersionPins H request
          (RebacDecisionEngine.new H
            (Scene.engineFor createDefaultPolicyModel)).options evaluatedAt) a := by
  have hs := SameRoles.searches (H := H) (c := compilePolicyModel H model)
    (i := traversalInput (.new H (Scene.engineFor createDefaultPolicyModel)) st request
      (normalizeDecisionRuntimeVersionPins H request (RebacDecisionEngine.new H
        (Scene.engineFor createDefaultPolicyModel)).options evaluatedAt) a) h
    (kindsApart_compile (default_reference (H := H)).names rfl) (kindsApart_compile hnames rfl)
  have hdeny := congrFun hs.1
    (initialGuard (.new H (Scene.engineFor createDefaultPolicyModel)) st request)
  refine ⟨hdeny, ?_⟩
  have hallow := congrFun hs.2 (denySearch H (.new H (Scene.engineFor model)) st request
    (normalizeDecisionRuntimeVersionPins H request
      (RebacDecisionEngine.new H (Scene.engineFor model)).options evaluatedAt) a).1
  unfold allowSearch
  refine Eq.trans hallow ?_
  have hguard := congrArg Prod.fst hdeny
  exact congrArg _ hguard

/-- A model that is as good as the default one in every scene decides every
request that is tried as the default one does, over every store. -/
theorem decision_of_likeDefault (hnames : (model.relations.map (·.name)).Nodup)
    (h : LikeDefault H model) (st : InMemoryRebacStore) (request : DecisionRequest)
    (evaluatedAt : IsoDateTime)
    (htried : ∃ context own, request.context = some (JsonRecord.spread context own) ∧
      contextPasses H model (JsonRecord.spread context own) = true) :
    (evaluate H (.new H (Scene.engineFor createDefaultPolicyModel)) st request
        evaluatedAt).decision =
      (evaluate H (.new H (Scene.engineFor model)) st request evaluatedAt).decision := by
  refine decisionValue_ext ?_
  unfold evaluate
  rw [decision_allow_iff, decision_allow_iff]
  refine exists_congr fun a => and_congr_right fun hok => ?_
  have hadm : Admissible H st request evaluatedAt (request.asOf.getD evaluatedAt) a :=
    admitRequest_eq_ok.1 hok
  have hsc := h (Scene.ofAdmissible hadm) htried
  split at hsc
  · rename_i hnone
    constructor
    · intro hp
      obtain ⟨g, -, hg⟩ := allowWalk_grant hp.walks.2.1
      have hg : g.relation ∈ (compilePolicyModel H createDefaultPolicyModel).grants
        (Scene.ofAdmissible hadm).actionKey := hg
      rw [hnone] at hg
      exact absurd hg (Finset.notMem_empty _)
    · intro hp
      obtain ⟨g, hmem, hg⟩ := allowWalk_grant hp.walks.2.1
      have hu := (allowSpace_overGraph H _).goalWalk_usable hp.walks.2.1 g hmem
      have hfail := hsc g (Scene.fits_of_usable hadm hu) hg
      have hpass : stepPasses H ⟨st, model, request, evaluatedAt⟩ g = true :=
        caveats_allow_iff.1 hp.caveats g hmem
      rw [← Scene.stepPasses_ofAdmissible hadm, hpass] at hfail
      cases hfail
  · obtain ⟨hdeny, hallow⟩ := searches_of_roles hnames st request evaluatedAt a hsc.roles
    constructor
    · intro hp
      have hw := hp.walks.2.1
      refine hp.of_searches hdeny.symm hallow.symm fun r hr => ?_
      have hu := (allowSpace_overGraph H _).goalWalk_usable hw r hr
      refine (Scene.stepPasses_ofAdmissible hadm r).trans
        (hsc.passes r (Scene.fits_of_usable hadm hu) ?_)
      exact (hsc.roles.carries r.relation).2 (allowWalk_carries hw r hr)
    · intro hp
      exact hp.of_searches hdeny hallow fun r _ => stepPasses_of_unconditional rfl r

/-- **When the playground agrees** with the engine on a valid model: exactly
when the model is as good as the default one. -/
theorem playground_agrees_iff (H : Host) (model : PolicyModel)
    (hvalid : (validatePolicyModel H model).valid = true) :
    Agrees H model ↔ LikeDefault H model := by
  have hnames := relationNames_nodup hvalid
  constructor
  · intro h sc htried
    have halike := alikeIn_of_agrees hvalid h htried
    split
    · rename_i hnone
      intro g hfit hg
      exact halike.fails hnames hfit hg (by rw [hnone]; exact Finset.notMem_empty _)
    · rename_i hsome
      obtain ⟨r, hr⟩ := Finset.nonempty_iff_ne_empty.2 hsome
      exact halike.asGoodAs default_reference hnames (sc.fits_tuple r) hr
  · intro h defaults input hm result hmem d hd
    obtain ⟨rfl, ⟨request, hreq⟩, hpass⟩ := decision_of_mem hmem hd
    rw [hm] at hpass
    rw [decision_of_versions H (playgroundOptions _), decision_of_versions H (modelOptions _)]
    have heq := decision_of_likeDefault hnames h
      (.ofSeed (normalizeInput defaults input).seed) result.request
      (normalizeInput defaults input).evaluatedAt
      ⟨(normalizeInput defaults input).context, request.context.getD [], by rw [hreq]; rfl, by
        rw [hreq] at hpass
        exact hpass⟩
    rw [← hm] at heq
    exact heq

/-- The condition tells the models apart: on the default model the playground
agrees. -/
theorem default_agrees : Agrees plainHost createDefaultPolicyModel :=
  (playground_agrees_iff plainHost createDefaultPolicyModel (by decide)).2 fun sc _ => by
    split
    · rename_i hnone
      intro g _ hg
      rw [hnone] at hg
      exact absurd hg (Finset.notMem_empty _)
    · exact ⟨⟨rfl, fun _ => Iff.rfl, fun _ => Iff.rfl, rfl, rfl⟩, fun r _ _ => default_reference.passes r⟩

end

end AccessKit.Bugs.PlaygroundModel
