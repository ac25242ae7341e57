import AccessKit.L2Graph.Fixtures
import AccessKit.L4Engine.Engine

/-!
# Decisions are reachability

What `#buildDecisionContext` computes, said without queues and tables: a
request is allowed when its two nodes are there and active, their tenants
agree, no chain of memberships leads the subject to an explicit deny on the
resource, and some chain of memberships, grants and containments leads it to a
grant on the resource.

Results:
* `allow_iff_reachable`: the equivalence, for a model with unique relation
  names and no conditional relationships, when no bound was exceeded.
* `allow_path`: what an allow says about the path it reports.
* `engine_fails_closed`: both loops end; an allow means that neither search
  met a bound and that no deny walk of any length exists; an exceeded bound
  means deny.

`allow_iff_reachable` does not need the ids of subjects and resources to be
disjoint: both searches resolve an id that is both as its subject.
-/
namespace AccessKit.L4
open AccessKit.Core AccessKit.L1 AccessKit.L2.Store AccessKit.L2.Fixtures AccessKit.L3

section
variable (H : Host) (i : TraversalInput)

/-- A tuple both searches may follow: stored, active at `asOf`, of the pinned
version if one is enforced, and inside the tenant of the root. -/
structure Usable (r : RelationshipTuple) : Prop where
  stored : i.store.getRelationship r.id = some r
  active : isActiveRelationshipAt H r i.activeRelationshipScope.asOf none = true
  pinned : ∀ v, truthy i.activeRelationshipScope.pinnedTupleVersion = some v → r.version = v
  tenant : relationshipMatchesTenantBoundary H i.store r i.rootTenantId i.asOf = true

/-- A node on the way: active, and not the resource itself. -/
structure Passable (id : CanonicalId) : Prop where
  active : isActiveGraphNodeAt H i.store id i.asOf = true
  ne : id ≠ i.resourceId

/-- The nodes the subject reaches through memberships. -/
inductive DenyReach : CanonicalId → Prop
  | subject : DenyReach i.subjectId
  | membership {r : RelationshipTuple} : DenyReach r.subjectId → Usable H i r →
      r.relation ∈ i.compiledPolicyModel.membershipRelations → Passable H i r.objectId →
      DenyReach r.objectId

/-- A deny walk exists: a node so reached has a deny on the resource. -/
def DenyReachable : Prop :=
  ∃ r, DenyReach H i r.subjectId ∧ Usable H i r ∧ r.objectId = i.resourceId ∧
    r.relation ∈ i.denyRelations H

/-- The nodes the subject reaches through inherited memberships, grants of the
action, and, behind a grant, inherited containments. The flag tells whether
there is a grant on the way. -/
inductive AllowReach : CanonicalId → Bool → Prop
  | subject : AllowReach i.subjectId false
  | membership {r : RelationshipTuple} {granted : Bool} : AllowReach r.subjectId granted →
      Usable H i r → r.relation ∈ i.compiledPolicyModel.membershipRelations →
      r.relation ∈ i.traversalRelations H → Passable H i r.objectId →
      AllowReach r.objectId granted
  | grant {r : RelationshipTuple} {granted : Bool} : AllowReach r.subjectId granted →
      Usable H i r → r.relation ∈ i.allowedRelations H → Passable H i r.objectId →
      AllowReach r.objectId true
  | containment {r : RelationshipTuple} : AllowReach r.subjectId true → Usable H i r →
      r.relation ∈ i.compiledPolicyModel.containmentRelations →
      r.relation ∈ i.traversalRelations H → Passable H i r.objectId → AllowReach r.objectId true

/-- An allow walk exists: a node so reached has a grant on the resource, or
contains it behind a grant. -/
def AllowReachable : Prop :=
  ∃ r granted, AllowReach H i r.subjectId granted ∧ Usable H i r ∧ r.objectId = i.resourceId ∧
    (r.relation ∈ i.allowedRelations H ∨
      (r.relation ∈ i.compiledPolicyModel.containmentRelations ∧
        r.relation ∈ i.traversalRelations H ∧ granted = true))

end

/-! ## Walks of the searches and reachability -/

section
variable {H : Host} {i : TraversalInput}

/-- How a node was reached: it is the subject, or a tuple leads to it. -/
theorem denyReach_inv {id : CanonicalId} (h : DenyReach H i id) :
    id = i.subjectId ∨ ∃ r, DenyReach H i r.subjectId ∧ Usable H i r ∧ r.objectId = id ∧
      Passable H i id ∧ r.relation ∈ i.compiledPolicyModel.membershipRelations := by
  cases h with
  | subject => exact .inl rfl
  | membership hr hu hm hp => exact .inr ⟨_, hr, hu, rfl, hp, hm⟩

theorem allowReach_inv {id : CanonicalId} {granted : Bool} (h : AllowReach H i id granted) :
    (id = i.subjectId ∧ granted = false) ∨ ∃ r, Usable H i r ∧ r.objectId = id ∧
      Passable H i id ∧
      ((r.relation ∈ i.compiledPolicyModel.membershipRelations ∧
          r.relation ∈ i.traversalRelations H) ∨
        r.relation ∈ i.allowedRelations H ∨ AllowReach H i r.subjectId true) := by
  cases h with
  | subject => exact .inl ⟨rfl, rfl⟩
  | membership _ hu hm ht hp => exact .inr ⟨_, hu, rfl, hp, .inl ⟨hm, ht⟩⟩
  | grant _ hu hg hp => exact .inr ⟨_, hu, rfl, hp, .inr (.inl hg)⟩
  | containment hr hu _ _ hp => exact .inr ⟨_, hu, rfl, hp, .inr (.inr hr)⟩

/-- The pin is one more condition on an active tuple. -/
theorem isActiveRelationshipAt_pin {r : RelationshipTuple} {asOf : IsoDateTime}
    {pin : Option String} : isActiveRelationshipAt H r asOf pin = true ↔
      isActiveRelationshipAt H r asOf none = true ∧ ∀ v, truthy pin = some v → r.version = v := by
  unfold isActiveRelationshipAt
  cases truthy pin with
  | none => simp [truthy]
  | some v => by_cases h : r.version = v <;> simp [h, truthy]

theorem usable_iff {id : CanonicalId} {r : RelationshipTuple} :
    (r ∈ i.relationshipsFrom H id ∧ i.matchesTenant H r = true) ↔
      Usable H i r ∧ r.subjectId = id := by
  simp only [TraversalInput.relationshipsFrom, activeRelationshipsForSubject, List.mem_filter,
    InMemoryRebacStore.mem_listRelationshipsForSubject, TraversalInput.matchesTenant]
  rw [isActiveRelationshipAt_pin]
  constructor
  · rintro ⟨⟨⟨hs, hid⟩, ha, hp⟩, ht⟩
    exact ⟨⟨hs, ha, hp, ht⟩, hid⟩
  · rintro ⟨⟨hs, ha, hp, ht⟩, hid⟩
    exact ⟨⟨⟨hs, hid⟩, ha, hp⟩, ht⟩

/-- A search space over the graph of an input: its edges are the active tuples
of a node, inside the tenant of the root, and it goes on to active nodes other
than the resource only. -/
structure OverGraph {S C : Type} (H : Host) (i : TraversalInput)
    (sp : Space S RelationshipTuple C) (nodeOf : S → CanonicalId) : Prop where
  edges : ∀ s, sp.edges s = i.relationshipsFrom H (nodeOf s)
  usable : ∀ s r, sp.usable s r = i.matchesTenant H r
  goal : ∀ s r, sp.goal s r = true → r.objectId = i.resourceId
  next : ∀ s r t, sp.next s r = some t →
    r.objectId ≠ i.resourceId ∧ i.isActiveNode H r.objectId = true ∧ nodeOf t = r.objectId

theorem allowSpace_overGraph (H : Host) (i : TraversalInput) :
    OverGraph H i (allowSpace H i) AllowState.currentId where
  edges _ := rfl
  usable _ _ := rfl
  goal s r h := by
    simp only [allowSpace, decide_eq_true_eq] at h
    exact h.1
  next s r t h := by
    obtain ⟨hne, -, hact, rfl⟩ := allowSpace_next_eq_some.1 h
    exact ⟨hne, hact, rfl⟩

theorem denySpace_overGraph (H : Host) (i : TraversalInput) :
    OverGraph H i (denySpace H i) id where
  edges _ := rfl
  usable _ _ := rfl
  goal s r h := by
    simp only [denySpace, decide_eq_true_eq] at h
    exact h.1
  next s r t h := by
    obtain ⟨hne, -, hact, rfl⟩ := denySpace_next_eq_some.1 h
    exact ⟨hne, hact, rfl⟩

namespace OverGraph

variable {S C : Type} {sp : Space S RelationshipTuple C} {nodeOf : S → CanonicalId}

theorem usable_of_edge (ho : OverGraph H i sp nodeOf) {s : S} {r : RelationshipTuple}
    (hr : r ∈ sp.edges s) (hu : sp.usable s r = true) : Usable H i r ∧ r.subjectId = nodeOf s := by
  rw [ho.edges] at hr
  rw [ho.usable] at hu
  exact usable_iff.1 ⟨hr, hu⟩

theorem walk_usable (ho : OverGraph H i sp nodeOf) {root s : S} {trail : List RelationshipTuple}
    (h : sp.Walk root trail s) : ∀ r ∈ trail, Usable H i r := by
  induction h with
  | root => exact nofun
  | snoc _ hr hu _ ih => exact List.forall_mem_cons.2 ⟨(ho.usable_of_edge hr hu).1, ih⟩

theorem goalWalk_usable (ho : OverGraph H i sp nodeOf) {root : S}
    {path : List RelationshipTuple} (h : sp.GoalWalk root path) : ∀ r ∈ path, Usable H i r := by
  obtain ⟨trail, s, r, rfl, hw, hr, hu, -⟩ := h
  intro x hx
  rcases List.mem_cons.1 (List.mem_reverse.1 hx) with rfl | hx
  · exact (ho.usable_of_edge hr hu).1
  · exact ho.walk_usable hw x hx

theorem walk_source (ho : OverGraph H i sp nodeOf) {root s : S} {trail : List RelationshipTuple}
    (h : sp.Walk root trail s) : s = root ∨ ∃ r ∈ trail, r.subjectId = nodeOf root := by
  induction h with
  | root => exact .inl rfl
  | @snoc trail s t r _ hr hu _ ih =>
    refine .inr ?_
    rcases ih with rfl | ⟨e, he, hs⟩
    · exact ⟨r, List.mem_cons_self, (ho.usable_of_edge hr hu).2⟩
    · exact ⟨e, List.mem_cons_of_mem _ he, hs⟩

theorem goalWalk_source (ho : OverGraph H i sp nodeOf) {root : S}
    {path : List RelationshipTuple} (h : sp.GoalWalk root path) :
    ∃ r ∈ path, r.subjectId = nodeOf root := by
  obtain ⟨trail, s, r, rfl, hw, hr, hu, -⟩ := h
  rcases ho.walk_source hw with rfl | ⟨e, he, hs⟩
  · exact ⟨r, by simp, (ho.usable_of_edge hr hu).2⟩
  · exact ⟨e, by simp [he], hs⟩

theorem goalWalk_target (ho : OverGraph H i sp nodeOf) {root : S}
    {path : List RelationshipTuple} (h : sp.GoalWalk root path) :
    ∃ r ∈ path, r.objectId = i.resourceId := by
  obtain ⟨trail, s, r, rfl, -, -, -, hg⟩ := h
  exact ⟨r, by simp, ho.goal s r hg⟩

/-- A rank of the nodes that no tuple of a walk raises by more than one is a
lower bound of the walk's length. -/
theorem rank_le_length (ho : OverGraph H i sp nodeOf) (rank : CanonicalId → Nat) {root s : S}
    {trail : List RelationshipTuple} (h : sp.Walk root trail s) (hroot : rank (nodeOf root) = 0)
    (hstep : ∀ r ∈ trail, rank r.objectId ≤ rank r.subjectId + 1) :
    rank (nodeOf s) ≤ trail.length := by
  induction h with
  | root => omega
  | @snoc trail s t r _ hr hu hn ih =>
    have hle := ih fun e he => hstep e (List.mem_cons_of_mem _ he)
    have hr' := hstep r List.mem_cons_self
    rw [(ho.usable_of_edge hr hu).2] at hr'
    rw [(ho.next _ _ _ hn).2.2, List.length_cons]
    omega

theorem length_of_rank (ho : OverGraph H i sp nodeOf) (rank : CanonicalId → Nat) {root : S}
    {path : List RelationshipTuple} (h : sp.GoalWalk root path) (hroot : rank (nodeOf root) = 0)
    (hstep : ∀ r ∈ path, rank r.objectId ≤ rank r.subjectId + 1) {n : Nat}
    (hgoal : ∀ r ∈ path, r.objectId = i.resourceId → n ≤ rank r.subjectId + 1) :
    n ≤ path.length := by
  obtain ⟨trail, s, r, rfl, hw, hr, hu, hg⟩ := h
  have hle := ho.rank_le_length rank hw hroot fun e he => hstep e (by simp [he])
  have hend := hgoal r (by simp) (ho.goal s r hg)
  rw [(ho.usable_of_edge hr hu).2] at hend
  rw [List.length_reverse, List.length_cons]
  omega

end OverGraph

theorem denyReach_of_walk {trail : List RelationshipTuple} {s : CanonicalId}
    (h : (denySpace H i).Walk i.subjectId trail s) : DenyReach H i s := by
  induction h with
  | root => exact .subject
  | @snoc trail s t r _ hr hu hn ih =>
    obtain ⟨hne, hct, hact, rfl⟩ := denySpace_next_eq_some.1 hn
    obtain ⟨hus, rfl⟩ := usable_iff.1 ⟨hr, hu⟩
    exact .membership ih hus (by simpa [canTraverseDenyRelationship] using hct) ⟨hact, hne⟩

theorem walk_of_denyReach {s : CanonicalId} (h : DenyReach H i s) :
    ∃ trail, (denySpace H i).Walk i.subjectId trail s := by
  induction h with
  | subject => exact ⟨[], .root⟩
  | @membership r _ hu hm hp ih =>
    obtain ⟨trail, hw⟩ := ih
    obtain ⟨hr, ht⟩ := usable_iff.2 ⟨hu, rfl⟩
    exact ⟨r :: trail, .snoc hw hr ht (denySpace_next_eq_some.2
      ⟨hp.ne, by simpa [canTraverseDenyRelationship] using hm, hp.active, rfl⟩)⟩

theorem denyReachable_iff : (∃ p, DenyWalk H i p) ↔ DenyReachable H i := by
  constructor
  · rintro ⟨p, trail, s, r, rfl, hw, hr, hu, hg⟩
    obtain ⟨hus, rfl⟩ := usable_iff.1 ⟨hr, hu⟩
    obtain ⟨hres, hd⟩ : r.objectId = i.resourceId ∧ r.relation ∈ i.denyRelations H := by
      simpa [denySpace] using hg
    exact ⟨r, denyReach_of_walk hw, hus, hres, hd⟩
  · rintro ⟨r, hreach, hu, hres, hd⟩
    obtain ⟨trail, hw⟩ := walk_of_denyReach hreach
    obtain ⟨hr, ht⟩ := usable_iff.2 ⟨hu, rfl⟩
    exact ⟨_, trail, r.subjectId, r, rfl, hw, hr, ht, by simp [denySpace, hres, hd]⟩

/-- No relation of the compiled model has two of the kinds that the allow
search tells apart. -/
structure KindsApart (H : Host) (i : TraversalInput) : Prop where
  grantMembership : ∀ r ∈ i.allowedRelations H, r ∉ i.compiledPolicyModel.membershipRelations
  grantContainment : ∀ r ∈ i.allowedRelations H, r ∉ i.compiledPolicyModel.containmentRelations
  membershipContainment : ∀ r ∈ i.compiledPolicyModel.membershipRelations,
    r ∉ i.compiledPolicyModel.containmentRelations

theorem allowReach_of_walk {trail : List RelationshipTuple} {s : AllowState}
    (h : (allowSpace H i).Walk ⟨i.subjectId, false⟩ trail s) :
    AllowReach H i s.currentId s.hasActionGrant := by
  induction h with
  | root => exact .subject
  | @snoc trail s t r _ hr hu hn ih =>
    obtain ⟨hne, hct, hact, rfl⟩ := allowSpace_next_eq_some.1 hn
    obtain ⟨hus, hid⟩ := usable_iff.1 ⟨hr, hu⟩
    rw [← hid] at ih
    have hp : Passable H i r.objectId := ⟨hact, hne⟩
    unfold canTraverseRelationship at hct
    by_cases hg : r.relation ∈ i.allowedRelations H
    · simpa [hg] using AllowReach.grant ih hus hg hp
    · simp only [hg, decide_false, Bool.or_false]
      split at hct
      · rename_i hm
        exact .membership ih hus hm (by simpa using hct) hp
      · split at hct
        · rename_i hc
          obtain ⟨ht, hgr⟩ : r.relation ∈ i.traversalRelations H ∧ s.hasActionGrant = true := by
            simpa using hct
          rw [hgr] at ih ⊢
          exact .containment ih hus hc ht hp
        · simp [hg] at hct

/-- With the kinds apart, the three ways on do not get in each other's way. -/
theorem canTraverse_iff (hk : KindsApart H i) {r : RelationshipTuple} {granted : Bool} :
    canTraverseRelationship i.compiledPolicyModel (i.traversalRelations H) r
        (r.relation ∈ i.allowedRelations H) granted = true ↔
      (r.relation ∈ i.compiledPolicyModel.membershipRelations ∧
        r.relation ∈ i.traversalRelations H) ∨
      (r.relation ∈ i.compiledPolicyModel.containmentRelations ∧
        r.relation ∈ i.traversalRelations H ∧ granted = true) ∨
      r.relation ∈ i.allowedRelations H := by
  have hgm := hk.grantMembership r.relation
  have hgc := hk.grantContainment r.relation
  have hmc := hk.membershipContainment r.relation
  unfold canTraverseRelationship
  split
  · rename_i hm
    simp only [decide_eq_true_eq]
    tauto
  · split
    · rename_i hm hc
      simp only [Bool.and_eq_true, decide_eq_true_eq]
      tauto
    · rename_i hm hc
      simp only [decide_eq_true_eq]
      tauto

section
variable {trail : List RelationshipTuple} {r : RelationshipTuple} {granted : Bool}

/-! One more tuple at the end of a walk. -/

theorem walk_membership (hk : KindsApart H i)
    (hw : (allowSpace H i).Walk ⟨i.subjectId, false⟩ trail ⟨r.subjectId, granted⟩)
    (hu : Usable H i r) (hm : r.relation ∈ i.compiledPolicyModel.membershipRelations)
    (ht : r.relation ∈ i.traversalRelations H) (hp : Passable H i r.objectId) :
    (allowSpace H i).Walk ⟨i.subjectId, false⟩ (r :: trail) ⟨r.objectId, granted⟩ := by
  obtain ⟨hr, htn⟩ := usable_iff.2 ⟨hu, rfl⟩
  have hg : r.relation ∉ i.allowedRelations H := fun hg => hk.grantMembership _ hg hm
  refine .snoc hw hr htn (allowSpace_next_eq_some.2 ⟨hp.ne, ?_, hp.active, ?_⟩)
  · exact (canTraverse_iff hk).2 (.inl ⟨hm, ht⟩)
  · simp [hg]

theorem walk_grant (hk : KindsApart H i)
    (hw : (allowSpace H i).Walk ⟨i.subjectId, false⟩ trail ⟨r.subjectId, granted⟩)
    (hu : Usable H i r) (hg : r.relation ∈ i.allowedRelations H)
    (hp : Passable H i r.objectId) :
    (allowSpace H i).Walk ⟨i.subjectId, false⟩ (r :: trail) ⟨r.objectId, true⟩ := by
  obtain ⟨hr, htn⟩ := usable_iff.2 ⟨hu, rfl⟩
  refine .snoc hw hr htn (allowSpace_next_eq_some.2 ⟨hp.ne, ?_, hp.active, ?_⟩)
  · exact (canTraverse_iff hk).2 (.inr (.inr hg))
  · simp [hg]

theorem walk_containment (hk : KindsApart H i)
    (hw : (allowSpace H i).Walk ⟨i.subjectId, false⟩ trail ⟨r.subjectId, true⟩)
    (hu : Usable H i r) (hc : r.relation ∈ i.compiledPolicyModel.containmentRelations)
    (ht : r.relation ∈ i.traversalRelations H) (hp : Passable H i r.objectId) :
    (allowSpace H i).Walk ⟨i.subjectId, false⟩ (r :: trail) ⟨r.objectId, true⟩ := by
  obtain ⟨hr, htn⟩ := usable_iff.2 ⟨hu, rfl⟩
  refine .snoc hw hr htn (allowSpace_next_eq_some.2 ⟨hp.ne, ?_, hp.active, ?_⟩)
  · exact (canTraverse_iff hk).2 (.inr (.inl ⟨hc, ht, rfl⟩))
  · simp

/-- A walk ends with a grant, or behind a grant with a containment. -/
theorem allowWalk_of_walk
    (hw : (allowSpace H i).Walk ⟨i.subjectId, false⟩ trail ⟨r.subjectId, granted⟩)
    (hu : Usable H i r) (hres : r.objectId = i.resourceId)
    (hgoal : r.relation ∈ i.allowedRelations H ∨
      (r.relation ∈ i.compiledPolicyModel.containmentRelations ∧
        r.relation ∈ i.traversalRelations H ∧ granted = true)) :
    AllowWalk H i (r :: trail).reverse := by
  obtain ⟨hr, ht⟩ := usable_iff.2 ⟨hu, rfl⟩
  exact ⟨trail, _, r, rfl, hw, hr, ht, by simpa [allowSpace, hres] using hgoal⟩

end

theorem walk_of_allowReach (hk : KindsApart H i) {id : CanonicalId} {granted : Bool}
    (h : AllowReach H i id granted) :
    ∃ trail, (allowSpace H i).Walk ⟨i.subjectId, false⟩ trail ⟨id, granted⟩ := by
  induction h with
  | subject => exact ⟨[], .root⟩
  | membership _ hu hm ht hp ih =>
    obtain ⟨trail, hw⟩ := ih
    exact ⟨_, walk_membership hk hw hu hm ht hp⟩
  | grant _ hu hg hp ih =>
    obtain ⟨trail, hw⟩ := ih
    exact ⟨_, walk_grant hk hw hu hg hp⟩
  | containment _ hu hc ht hp ih =>
    obtain ⟨trail, hw⟩ := ih
    exact ⟨_, walk_containment hk hw hu hc ht hp⟩

theorem allowReachable_iff (hk : KindsApart H i) :
    (∃ p, AllowWalk H i p) ↔ AllowReachable H i := by
  constructor
  · rintro ⟨p, trail, s, r, rfl, hw, hr, hu, hg⟩
    obtain ⟨hus, hid⟩ := usable_iff.1 ⟨hr, hu⟩
    have hreach := allowReach_of_walk hw
    rw [← hid] at hreach
    obtain ⟨hres, hgoal⟩ : r.objectId = i.resourceId ∧ _ := by simpa [allowSpace] using hg
    exact ⟨r, s.hasActionGrant, hreach, hus, hres, hgoal⟩
  · rintro ⟨r, granted, hreach, hu, hres, hgoal⟩
    obtain ⟨trail, hw⟩ := walk_of_allowReach hk hreach
    exact ⟨_, allowWalk_of_walk hw hu hres hgoal⟩

/-- The relation can carry the action: it grants it, or it is a membership or
a containment that the action is inherited through. -/
def Carries (c : CompiledPolicyModel) (actionKey : String) (relation : String) : Prop :=
  relation ∈ c.grants actionKey ∨
    ((relation ∈ c.membershipRelations ∨ relation ∈ c.containmentRelations) ∧
      relation ∈ c.traversals actionKey)

theorem carries_of_traversable {r : RelationshipTuple} {granted : Bool}
    (h : canTraverseRelationship i.compiledPolicyModel (i.traversalRelations H) r
      (r.relation ∈ i.allowedRelations H) granted = true) :
    Carries i.compiledPolicyModel (i.actionKey H) r.relation := by
  unfold canTraverseRelationship at h
  split at h
  · rename_i hm
    exact .inr ⟨.inl hm, of_decide_eq_true h⟩
  split at h
  · rename_i hc
    rw [Bool.and_eq_true, decide_eq_true_eq] at h
    exact .inr ⟨.inr hc, h.1⟩
  · exact .inl (of_decide_eq_true h)

theorem allowWalk_carries {path : List RelationshipTuple} (h : AllowWalk H i path) :
    ∀ r ∈ path, Carries i.compiledPolicyModel (i.actionKey H) r.relation := by
  obtain ⟨trail, s, r, rfl, hw, -, -, hg⟩ := h
  have htrail : ∀ {trail : List RelationshipTuple} {s : AllowState},
      (allowSpace H i).Walk ⟨i.subjectId, false⟩ trail s →
      ∀ e ∈ trail, Carries i.compiledPolicyModel (i.actionKey H) e.relation := by
    intro trail s hw
    induction hw with
    | root => exact nofun
    | snoc _ _ _ hn ih =>
      exact List.forall_mem_cons.2 ⟨carries_of_traversable (allowSpace_next_eq_some.1 hn).2.1, ih⟩
  intro x hx
  rcases List.mem_cons.1 (List.mem_reverse.1 hx) with rfl | hx
  · simp only [allowSpace, decide_eq_true_eq] at hg
    rcases hg.2 with hgr | ⟨hc, ht, -⟩
    · exact .inl hgr
    · exact .inr ⟨.inr hc, ht⟩
  · exact htrail hw x hx

theorem allowWalk_grant {path : List RelationshipTuple} (h : AllowWalk H i path) :
    ∃ r ∈ path, r.relation ∈ i.allowedRelations H := by
  obtain ⟨trail, s, r, rfl, hw, -, -, hg⟩ := h
  have htrail : ∀ {trail : List RelationshipTuple} {s : AllowState},
      (allowSpace H i).Walk ⟨i.subjectId, false⟩ trail s → s.hasActionGrant = true →
      ∃ e ∈ trail, e.relation ∈ i.allowedRelations H := by
    intro trail s hw
    induction hw with
    | root => exact nofun
    | @snoc trail s t e _ _ _ hn ih =>
      intro ht
      obtain ⟨-, -, -, rfl⟩ := allowSpace_next_eq_some.1 hn
      simp only [Bool.or_eq_true, decide_eq_true_eq] at ht
      rcases ht with ht | ht
      · obtain ⟨e', he', hg'⟩ := ih ht
        exact ⟨e', List.mem_cons_of_mem _ he', hg'⟩
      · exact ⟨e, List.mem_cons_self, ht⟩
  simp only [allowSpace, decide_eq_true_eq] at hg
  rcases hg.2 with hgr | ⟨-, -, hgranted⟩
  · exact ⟨r, by simp, hgr⟩
  · obtain ⟨e, he, hge⟩ := htrail hw hgranted
    exact ⟨e, by simp [he], hge⟩

/-- Unique relation names keep the kinds apart. -/
theorem kindsApart_compile {model : PolicyModel} (hu : (model.relations.map (·.name)).Nodup)
    (hc : i.compiledPolicyModel = compilePolicyModel H model) : KindsApart H i := by
  have hgrant : ∀ r ∈ i.allowedRelations H, r ∈ relationNamesOfKind model .grant := by
    intro r hr
    rw [TraversalInput.allowedRelations, hc] at hr
    exact (mem_grants.1 hr).1
  refine ⟨?_, ?_, ?_⟩
  · intro r hr hm
    rw [hc] at hm
    cases kinds_disjoint hu (hgrant r hr) hm
  · intro r hr hm
    rw [hc] at hm
    cases kinds_disjoint hu (hgrant r hr) hm
  · intro r hm hm'
    rw [hc] at hm hm'
    cases kinds_disjoint hu hm hm'

theorem carries_not_denies {model : PolicyModel} (hu : (model.relations.map (·.name)).Nodup)
    {k k' relation : String} (h : Carries (compilePolicyModel H model) k relation) :
    relation ∉ (compilePolicyModel H model).denies k' := by
  intro hd
  have hdeny : relation ∈ relationNamesOfKind model .deny := by
    rcases mem_denies.1 hd with hd | hd
    · exact (mem_unscopedDenyRelations.1 hd).1
    · exact (mem_scopedDenyRelations.1 hd).1
  rcases h with hg | ⟨hm | hc, -⟩
  · cases kinds_disjoint hu (mem_grants.1 hg).1 hdeny
  · cases kinds_disjoint hu hm hdeny
  · cases kinds_disjoint hu hc hdeny

end

/-! ## Admission -/

/-- The instant is valid and not in the future, both nodes are there and
active at it, and their tenants are both absent or equal. -/
structure Admissible (H : Host) (st : InMemoryRebacStore) (request : DecisionRequest)
    (evaluatedAt : IsoDateTime) (asOf : IsoDateTime) (a : Admission) : Prop where
  valid : (dateParse H asOf).isSome
  past : gtMs (dateParse H asOf) (dateParse H evaluatedAt) = false
  subject : visibleSubjectAt H st request.subjectId asOf = some a.subject
  subjectActive : effectiveLifecycleStateAt H (.subject a.subject) asOf = .known .active
  resource : visibleResourceAt H st request.resourceId asOf = some a.resource
  resourceActive : effectiveLifecycleStateAt H (.resource a.resource) asOf = .known .active
  tenants : tenantIdFor (some (.subject a.subject)) = tenantIdFor (some (.resource a.resource))

section
variable {H : Host} {st : InMemoryRebacStore} {request : DecisionRequest}
  {evaluatedAt : IsoDateTime} {versionPins : DecisionRuntimeVersionPins} {a : Admission}

theorem admitResource_eq_ok {subject : Subject} :
    admitResource H st request versionPins subject = .ok a ↔
      a.subject = subject ∧
      visibleResourceAt H st request.resourceId versionPins.asOf = some a.resource ∧
      effectiveLifecycleStateAt H (.resource a.resource) versionPins.asOf = .known .active ∧
      tenantIdFor (some (.subject subject)) = tenantIdFor (some (.resource a.resource)) := by
  constructor
  · intro h
    unfold admitResource at h
    split at h
    · cases h
    rename_i resource hr
    split at h
    · cases h
    rename_i state hl
    split at h
    · cases h
    rename_i hs
    split at h
    · cases h
    rename_i ht
    cases h
    have hs : state = .active := by simpa using hs
    exact ⟨rfl, hr, hs ▸ hl, tenantBoundaryDenies_eq_false.1 (by simpa using ht)⟩
  · rintro ⟨rfl, hr, hl, ht⟩
    simp [admitResource, hr, hl, tenantBoundaryDenies_eq_false.2 ht]

/-- The requests that reach the searches are the admissible ones. -/
theorem admitRequest_eq_ok : admitRequest H st request evaluatedAt versionPins = .ok a ↔
    Admissible H st request evaluatedAt versionPins.asOf a := by
  constructor
  · intro h
    unfold admitRequest at h
    split at h
    · cases h
    rename_i t hv
    split at h
    · cases h
    rename_i hp
    split at h
    · cases h
    rename_i subject hs
    split at h
    · cases h
    rename_i state hl
    split at h
    · cases h
    rename_i hact
    have hact : state = .active := by simpa using hact
    obtain ⟨rfl, hr, hra, ht⟩ := admitResource_eq_ok.1 h
    exact ⟨by simp [hv], by simpa [hv] using hp, hs, hact ▸ hl, hr, hra, ht⟩
  · intro h
    obtain ⟨t, hv⟩ := Option.isSome_iff_exists.1 h.valid
    have hp := h.past
    rw [hv] at hp
    simp [admitRequest, hv, hp, h.subject, h.subjectActive, admitResource_eq_ok, h.resource,
      h.resourceActive, h.tenants]

end

/-! ## The decision in terms of walks -/

section
variable {H : Host} {options : DecisionEngineOptions} {st : InMemoryRebacStore}
  {request : DecisionRequest} {evaluatedAt : IsoDateTime}
  {versionPins : DecisionRuntimeVersionPins} {a : Admission}

/-- The bounds an engine works with are positive, so that the subject itself
is within them. -/
theorem initialGuard_ok :
    (initialGuard (.new H options) st request).boundsExceeded = none := by
  have hpos : 1 ≤ (mergeDecisionTraversalBounds DEFAULT_DECISION_TRAVERSAL_BOUNDS
      options.traversalBounds).maxVisitedNodes := positiveIntegerOrDefault_pos _ (by decide)
  simp only [initialGuard, RebacDecisionEngine.new, DecisionTraversalGuard.new,
    DecisionTraversalGuard.recordVisitedNode, DecisionTraversalGuard.requireWithinBound,
    DecisionTraversalBounds.get, insert_empty_eq, Finset.card_singleton, if_pos hpos]

theorem denySearch_spec :
    SearchResult (DenyWalk H (traversalInput (.new H options) st request versionPins a))
      (denySearch H (.new H options) st request versionPins a).1
      (denySearch H (.new H options) st request versionPins a).2.relationships :=
  findDenyPath_spec initialGuard_ok

theorem allowSearch_spec
    (h : (denySearch H (.new H options) st request versionPins a).1.boundsExceeded = none) :
    SearchResult (AllowWalk H (traversalInput (.new H options) st request versionPins a))
      (allowSearch H (.new H options) st request versionPins a).1
      (allowSearch H (.new H options) st request versionPins a).2.relationships :=
  findAllowPath_spec h

theorem PathsAllow.walks
    (h : PathsAllow H (.new H options) st request evaluatedAt versionPins a) :
    (∀ p, ¬ DenyWalk H (traversalInput (.new H options) st request versionPins a) p) ∧
    AllowWalk H (traversalInput (.new H options) st request versionPins a)
      (allowSearch H (.new H options) st request versionPins a).2.relationships ∧
    ∀ p, AllowWalk H (traversalInput (.new H options) st request versionPins a) p →
      (allowSearch H (.new H options) st request versionPins a).2.relationships.length ≤
        p.length := by
  obtain ⟨hw, hmin⟩ := (allowSearch_spec h.denyWithin).found h.path
  exact ⟨denySearch_spec.dry h.denyWithin h.noDeny, hw, hmin⟩

/-- Within the bounds, a request is allowed when there is no deny walk, there
is an allow walk, and the one the search returns passes its caveats. -/
theorem pathsAllow_of_walks
    (hb : (decidePaths H (.new H options) st request evaluatedAt
      versionPins a).traversal.boundsExceeded = none)
    (hd : ∀ p, ¬ DenyWalk H (traversalInput (.new H options) st request versionPins a) p)
    (hw : ∃ p, AllowWalk H (traversalInput (.new H options) st request versionPins a) p)
    (hc : AllowWalk H (traversalInput (.new H options) st request versionPins a)
        (allowSearch H (.new H options) st request versionPins a).2.relationships →
      (∀ p, AllowWalk H (traversalInput (.new H options) st request versionPins a) p →
        (allowSearch H (.new H options) st request versionPins a).2.relationships.length ≤
          p.length) →
      ∀ r ∈ (allowSearch H (.new H options) st request versionPins a).2.relationships,
        stepPasses H ⟨st, (RebacDecisionEngine.new H options).policyModel, request, evaluatedAt⟩ r
          = true) :
    PathsAllow H (.new H options) st request evaluatedAt versionPins a := by
  have hno : (denySearch H (.new H options) st request versionPins a).2.relationships = [] := by
    by_contra hne
    exact hd _ (denySearch_spec.found hne).1
  obtain ⟨hdw, haw⟩ := (decidePaths_within hb).resolve_left fun h => h hno
  have hspec := allowSearch_spec hdw
  have hpath : (allowSearch H (.new H options) st request versionPins a).2.relationships ≠ [] := by
    intro he
    obtain ⟨p, hp⟩ := hw
    exact hspec.dry haw he p hp
  obtain ⟨hfound, hmin⟩ := hspec.found hpath
  exact ⟨hno, hdw, haw, hpath, caveats_allow_iff.2 (hc hfound hmin)⟩

/-- What an allow says: the request is admissible, there is no deny walk, and
the path it reports is an allow walk each tuple of which passes its caveats. -/
theorem allow_path (hd : (buildDecisionContext H (.new H options) st request evaluatedAt
      versionPins).decision = .allow) :
    ∃ a, Admissible H st request evaluatedAt versionPins.asOf a ∧
      (∀ p, ¬ DenyWalk H (traversalInput (.new H options) st request versionPins a) p) ∧
      AllowWalk H (traversalInput (.new H options) st request versionPins a)
        (buildDecisionContext H (.new H options) st request evaluatedAt
          versionPins).path.relationships ∧
      ∀ r ∈ (buildDecisionContext H (.new H options) st request evaluatedAt
          versionPins).path.relationships,
        stepPasses H ⟨st, (RebacDecisionEngine.new H options).policyModel, request, evaluatedAt⟩ r
          = true := by
  obtain ⟨a, ha, hp⟩ := decision_allow_iff.1 hd
  obtain ⟨hno, hw, -⟩ := hp.walks
  have hpath : (buildDecisionContext H (.new H options) st request evaluatedAt versionPins).path =
      (allowSearch H (.new H options) st request versionPins a).2 := by
    rw [buildDecisionContext, ha]
    exact (decidePaths_of_allow hp).1
  refine ⟨a, admitRequest_eq_ok.1 ha, hno, ?_, ?_⟩
  · rw [hpath]
    exact hw
  · rw [hpath]
    exact caveats_allow_iff.1 hp.caveats

/-- **Decisions are reachability.** With unique relation names and no
conditional relationships, and when no bound was exceeded, a request is allowed
exactly when it is admissible, no deny walk exists and some allow walk does. -/
theorem allow_iff_reachable (H : Host) (options : DecisionEngineOptions) (st : InMemoryRebacStore)
    (request : DecisionRequest) (evaluatedAt : IsoDateTime)
    (versionPins : DecisionRuntimeVersionPins)
    (hnames : ((RebacDecisionEngine.new H options).policyModel.relations.map (·.name)).Nodup)
    (hplain : (RebacDecisionEngine.new H options).policyModel.conditionalRelationships.getD [] = [])
    (hbounds : (buildDecisionContext H (.new H options) st request evaluatedAt
      versionPins).traversal.boundsExceeded = none) :
    (buildDecisionContext H (.new H options) st request evaluatedAt versionPins).decision = .allow ↔
      ∃ a, Admissible H st request evaluatedAt versionPins.asOf a ∧
        ¬ DenyReachable H (traversalInput (.new H options) st request versionPins a) ∧
        AllowReachable H (traversalInput (.new H options) st request versionPins a) := by
  rw [decision_allow_iff]
  refine exists_congr fun a => ?_
  rw [admitRequest_eq_ok]
  refine and_congr_right fun hadm => ?_
  have hkinds : KindsApart H (traversalInput (.new H options) st request versionPins a) :=
    kindsApart_compile hnames rfl
  rw [← denyReachable_iff, ← allowReachable_iff hkinds]
  constructor
  · intro h
    obtain ⟨hd, hw, -⟩ := h.walks
    exact ⟨fun ⟨p, hp⟩ => hd p hp, _, hw⟩
  · rintro ⟨hd, hw⟩
    simp only [buildDecisionContext, admitRequest_eq_ok.2 hadm] at hbounds
    exact pathsAllow_of_walks hbounds (fun p hp => hd ⟨p, hp⟩) hw
      fun _ _ r _ => stepPasses_of_unconditional hplain r

/-- The version pins of `writePlan` under the default options. -/
def writePlanPins : DecisionRuntimeVersionPins :=
  normalizeDecisionRuntimeVersionPins plainHost writePlan
    (RebacDecisionEngine.new plainHost {}).options timestamp

/-- In the local graph the plan is within reach of Alice. -/
theorem writePlan_reachable :
    ∃ a, Admissible plainHost localStore writePlan timestamp timestamp a ∧
      ¬ DenyReachable plainHost (traversalInput (.new plainHost {}) localStore writePlan
        writePlanPins a) ∧
      AllowReachable plainHost (traversalInput (.new plainHost {}) localStore writePlan
        writePlanPins a) :=
  (allow_iff_reachable plainHost {} localStore writePlan timestamp writePlanPins (by decide) rfl
    (by decide +kernel)).1 (by decide +kernel)

/-- A search that ended: from some fuel on its loop has one outcome, which is
what the search returns. -/
def LoopEnds {S C : Type}
    (loop : Nat → Option (Flow (Agenda (Entry S RelationshipTuple) (Memo C DecisionTraversalGuard))
      (List RelationshipTuple)))
    (result : DecisionTraversalGuard × RelationshipTraversalPath) : Prop :=
  ∃ n out, result = traversalResult out ∧ ∀ fuel, n ≤ fuel → loop fuel = some out

theorem allowLoop_ends {i : TraversalInput} (guard : DecisionTraversalGuard) :
    LoopEnds (fun fuel => allowLoop H i fuel guard) (findAllowPath H i guard) := by
  refine ⟨searchFuel guard, _, rfl, fun fuel hf => ?_⟩
  exact worklist_mono (Option.some_get (allowLoop_isSome (Nat.le_refl _))).symm hf

theorem denyLoop_ends {i : TraversalInput} (guard : DecisionTraversalGuard) :
    LoopEnds (fun fuel => denyLoop H i fuel guard) (findDenyPath H i guard) := by
  refine ⟨searchFuel guard, _, rfl, fun fuel hf => ?_⟩
  exact worklist_mono (Option.some_get (denyLoop_isSome (Nat.le_refl _))).symm hf

/-- No bound was exceeded, and no counter is above its bound. -/
structure RanWithin (b : DecisionTraversalBounds) (guard : DecisionTraversalGuard) : Prop where
  none : guard.boundsExceeded = none
  scans : guard.relationshipScans ≤ b.maxRelationshipScans
  depth : guard.maxDepthReached ≤ b.maxDepth
  visited : guard.visitedNodes.card ≤ b.maxVisitedNodes

theorem WithinBounds.ranWithin {b : DecisionTraversalBounds} {guard : DecisionTraversalGuard}
    (h : WithinBounds b guard) (hn : guard.boundsExceeded = none) : RanWithin b guard :=
  ⟨hn, h.scans hn, h.depth hn, h.visited hn⟩

/-- The counters of both searches are held against the engine's bounds. -/
theorem searches_withinBounds (H : Host) (options : DecisionEngineOptions)
    (st : InMemoryRebacStore) (request : DecisionRequest)
    (versionPins : DecisionRuntimeVersionPins) (a : Admission) :
    WithinBounds (RebacDecisionEngine.new H options).options.traversalBounds
      (denySearch H (.new H options) st request versionPins a).1 ∧
    WithinBounds (RebacDecisionEngine.new H options).options.traversalBounds
      (allowSearch H (.new H options) st request versionPins a).1 := by
  have hd := findDenyPath_keeps (H := H)
    (i := traversalInput (.new H options) st request versionPins a)
    (withinBounds_keeps id _) (withinBounds_new
      (RebacDecisionEngine.new H options).options.traversalBounds st.graphSize request.subjectId)
  exact ⟨hd, findAllowPath_keeps (withinBounds_keeps AllowState.currentId _) hd⟩

/-- **The engine fails closed on its bounds.** Both search loops end; an allow
means that both searches ran within all three bounds, so that no deny walk of
any length exists; and a bound exceeded in either search means deny. -/
theorem engine_fails_closed (H : Host) (options : DecisionEngineOptions) (st : InMemoryRebacStore)
    (request : DecisionRequest) (evaluatedAt : IsoDateTime)
    (versionPins : DecisionRuntimeVersionPins) :
    (∀ i : TraversalInput, ∀ guard : DecisionTraversalGuard,
      LoopEnds (fun fuel => denyLoop H i fuel guard) (findDenyPath H i guard) ∧
      LoopEnds (fun fuel => allowLoop H i fuel guard) (findAllowPath H i guard)) ∧
    ((buildDecisionContext H (.new H options) st request evaluatedAt versionPins).decision = .allow →
      ∃ a, admitRequest H st request evaluatedAt versionPins = .ok a ∧
        RanWithin (RebacDecisionEngine.new H options).options.traversalBounds
          (denySearch H (.new H options) st request versionPins a).1 ∧
        RanWithin (RebacDecisionEngine.new H options).options.traversalBounds
          (allowSearch H (.new H options) st request versionPins a).1 ∧
        ¬ DenyReachable H (traversalInput (.new H options) st request versionPins a)) ∧
    (∀ a, admitRequest H st request evaluatedAt versionPins = .ok a →
      (denySearch H (.new H options) st request versionPins a).1.boundsExceeded ≠ none ∨
        (allowSearch H (.new H options) st request versionPins a).1.boundsExceeded ≠ none →
      (buildDecisionContext H (.new H options) st request evaluatedAt versionPins).decision =
        .deny) := by
  refine ⟨fun i guard => ⟨denyLoop_ends guard, allowLoop_ends guard⟩, ?_, ?_⟩
  · intro hd
    obtain ⟨a, ha, hp⟩ := decision_allow_iff.1 hd
    obtain ⟨hwd, hwa⟩ := searches_withinBounds H options st request versionPins a
    refine ⟨a, ha, hwd.ranWithin hp.denyWithin, hwa.ranWithin hp.allowWithin, ?_⟩
    rw [← denyReachable_iff]
    exact fun ⟨p, hw⟩ => hp.walks.1 p hw
  · intro a ha hex
    cases hd : (buildDecisionContext H (.new H options) st request evaluatedAt
        versionPins).decision with
    | deny => rfl
    | allow =>
      obtain ⟨b, hb, hp⟩ := decision_allow_iff.1 hd
      rw [ha] at hb
      cases hb
      rcases hex with h | h
      · exact absurd hp.denyWithin h
      · exact absurd hp.allowWithin h

/-- The searches of the allowed request of the local graph ran within the
default bounds. -/
theorem writePlan_within :
    ∃ a, RanWithin DEFAULT_DECISION_TRAVERSAL_BOUNDS
      (denySearch plainHost (.new plainHost {}) localStore writePlan writePlanPins a).1 ∧
      RanWithin DEFAULT_DECISION_TRAVERSAL_BOUNDS
        (allowSearch plainHost (.new plainHost {}) localStore writePlan writePlanPins a).1 := by
  obtain ⟨a, -, hd, ha, -⟩ :=
    (engine_fails_closed plainHost {} localStore writePlan timestamp writePlanPins).2.1
      (by decide +kernel)
  exact ⟨a, hd, ha⟩

end

end AccessKit.L4
