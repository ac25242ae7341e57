import AccessKit.L2Graph.Fixtures
import AccessKit.L2Graph.Writes
import AccessKit.L4Engine.Agreement
import AccessKit.L4Engine.Scene

/-!
# Later maintenance opens decisions of the past

Status: open. A decision as of an instant reads the graph as it is now, with
what changed since then taken out: a node updated since has an unknown
lifecycle, a tuple deleted since is active
(packages/core/src/engine.ts:634-664, 955-961). Both searches skip an unknown
node (packages/core/src/engine.ts:733, 795). For the allow search that is
careful; for the deny search it drops a deny.

Counterexample: the case team is denied the plan, and Alice, a member, owns it.
As of 17:00 she may not write it; after the team's record was touched at 18:00
she may, still as of 17:00 (`touched_group_allows`).

Condition: every deletion leaves a tuple as inactive at the instant as it was
and as failing its caveats, every update of a node leaves a deny walk where
there was one, and before the maintenance the searches are within their bounds
and pick no walk that fails its caveats while another passes
(`maintenance_fails_closed`).
-/
namespace AccessKit.Bugs.LaterMaintenance
open AccessKit.Core AccessKit.L1 AccessKit.L2.Store AccessKit.L2.Store.InMemoryRebacStore
  AccessKit.L2.Fixtures AccessKit.L3 AccessKit.L4

/-- The request, as of an instant. -/
def asked (request : DecisionRequest) (asOf : IsoDateTime) : DecisionRequest :=
  { request with asOf := some asOf }

/-- The stamp is an instant after `asOf`. -/
def After (H : Host) (asOf : IsoDateTime) (stamp : Option IsoDateTime) : Prop :=
  ∃ u, truthy stamp = some u ∧ gtMs (dateParse H u) (dateParse H asOf) = true

/-- Graph maintenance stamped after `asOf`: updates of nodes, deletions, and
tuples with fresh ids. -/
def Later (H : Host) (asOf : IsoDateTime) (st : InMemoryRebacStore) : GraphWrite → Prop
  | .upsertSubject s => After H asOf s.updatedAt
  | .upsertResource r => After H asOf r.updatedAt
  | .upsertRelationship r => st.getRelationship r.id = none ∧
      gtMs (dateParse H r.createdAt) (dateParse H asOf) = true
  | .deleteRelationship _ deletedAt => After H asOf (some deletedAt)

/-- Each write meets a condition on the store it is made in. -/
def EachStep (P : InMemoryRebacStore → GraphWrite → Prop) :
    InMemoryRebacStore → List GraphWrite → Prop
  | _, [] => True
  | st, w :: ws => P st w ∧ EachStep P (st.write w) ws

/-- An allow after the maintenance is an allow before it. -/
def FailsClosed (H : Host) (options : DecisionEngineOptions) (st : InMemoryRebacStore)
    (request : DecisionRequest) (asOf evaluatedAt : IsoDateTime) (ws : List GraphWrite) : Prop :=
  (evaluate H (.new H options) (st.writeAll ws) (asked request asOf) evaluatedAt).decision =
      .allow →
    (evaluate H (.new H options) st (asked request asOf) evaluatedAt).decision = .allow

/-- What caveats are evaluated against before the maintenance. -/
def caveatsBefore (H : Host) (options : DecisionEngineOptions) (st : InMemoryRebacStore)
    (request : DecisionRequest) (asOf evaluatedAt : IsoDateTime) : CaveatInput :=
  ⟨st, (RebacDecisionEngine.new H options).policyModel, asked request asOf, evaluatedAt⟩

/-- The write takes nothing of the past back: it brings no tuple to life and
satisfies no caveat by a deletion, and an update of a node leaves a deny walk
if there was one, writes no subject under the id of the resource and moves no
subject's creation past the instant. -/
def Conservative (H : Host) (i : TraversalInput) (inp : CaveatInput) (st : InMemoryRebacStore) :
    GraphWrite → Prop
  | .upsertSubject s => s.id ≠ i.resourceId ∧
      (∀ old, st.getSubject s.id = some old →
        gtMs (dateParse H s.createdAt) (dateParse H i.asOf) = true →
        gtMs (dateParse H old.createdAt) (dateParse H i.asOf) = true) ∧
      (DenyReachable H (i.over st) → DenyReachable H (i.over (st.upsertSubject s)))
  | .upsertResource r =>
      DenyReachable H (i.over st) → DenyReachable H (i.over (st.upsertResource r))
  | .upsertRelationship _ => True
  | .deleteRelationship id deletedAt => ∀ r, st.getRelationship id = some r →
      isActiveRelationshipAt H (markDeleted r deletedAt) i.asOf none = true →
      isActiveRelationshipAt H r i.asOf none = true ∧
        (stepPasses H inp (markDeleted r deletedAt) = true → stepPasses H inp r = true)

/-- If an allow walk passes its caveats, the shortest ones do. -/
def ShortestPass (H : Host) (i : TraversalInput) (inp : CaveatInput) : Prop :=
  (∃ p, AllowWalk H i p ∧ ∀ r ∈ p, stepPasses H inp r = true) →
    ∀ p, AllowWalk H i p → (∀ q, AllowWalk H i q → p.length ≤ q.length) →
      ∀ r ∈ p, stepPasses H inp r = true

/-! ## The counterexample -/

/-- The team is denied the plan. -/
def teamDenied : RelationshipTuple :=
  fixtureRelationship "relationship:team-denied" "group:case-team" "denied" "document:case-plan"

def ownedByAlice : RelationshipTuple :=
  fixtureRelationship "relationship:alice-owner" "user:alice" "owner_of" "document:case-plan"

def deniedStore : InMemoryRebacStore := localStore.upsertAll [teamDenied, ownedByAlice]

/-- The record of the team after a touch at 18:00. -/
def touchedTeam : Subject := { caseTeam with updatedAt := some later }

/-- **Counterexample**: touching the group that a deny goes through allows. -/
theorem touched_group_allows :
    EachStep (Later plainHost timestamp) deniedStore [.upsertSubject touchedTeam] ∧
    ¬ FailsClosed plainHost {} deniedStore writePlan timestamp later
      [.upsertSubject touchedTeam] := by
  refine ⟨⟨⟨later, rfl, by decide⟩, trivial⟩, fun h => ?_⟩
  have hafter : (evaluate plainHost (.new plainHost {})
      (deniedStore.writeAll [.upsertSubject touchedTeam]) (asked writePlan timestamp)
      later).decision = .allow := by
    decide +kernel
  exact absurd (h hafter) (by decide +kernel)

/-! ## What a conservative write leaves of the past -/

section
variable {H : Host} {i : TraversalInput} {inp : CaveatInput} {st st' : InMemoryRebacStore}
  {request : DecisionRequest} {asOf evaluatedAt : IsoDateTime} {a : Admission} {w : GraphWrite}

theorem unknown_of_after (node : GraphNode) (h : After H asOf node.updatedAt) :
    effectiveLifecycleStateAt H node asOf = .unknown := by
  obtain ⟨u, hu, hgt⟩ := h
  unfold effectiveLifecycleStateAt
  simp only [hu, hgt, if_true]

/-- A request that is admitted after a later write was admitted before it: its
nodes were not touched. -/
theorem admissible_before (hl : Later H asOf st w)
    (h : Admissible H (st.write w) request evaluatedAt asOf a) :
    Admissible H st request evaluatedAt asOf a ∧
      (∀ r, w = .upsertResource r → r.id ≠ request.resourceId) := by
  cases w with
  | upsertSubject s =>
    have hne : s.id ≠ request.subjectId := by
      intro hid
      have hsub := h.subject
      unfold visibleSubjectAt at hsub
      rw [show (st.write (.upsertSubject s)).getSubject request.subjectId = some s from
        (getSubject_upsertSubject st s _).trans (if_pos hid)] at hsub
      have hs := (Option.filter_eq_some_iff.1 hsub).1
      have hact := h.subjectActive
      rw [← Option.some.inj hs, unknown_of_after (.subject s) hl] at hact
      cases hact
    have hsub : visibleSubjectAt H (st.write (.upsertSubject s)) request.subjectId asOf =
        visibleSubjectAt H st request.subjectId asOf := by
      unfold visibleSubjectAt
      rw [getSubject_write (w := .upsertSubject s) hne]
    exact ⟨⟨h.valid, h.past, hsub ▸ h.subject, h.subjectActive, h.resource, h.resourceActive,
      h.tenants⟩, fun r hr => by cases hr⟩
  | upsertResource r =>
    have hne : r.id ≠ request.resourceId := by
      intro hid
      have hres := h.resource
      unfold visibleResourceAt at hres
      rw [show (st.write (.upsertResource r)).getResource request.resourceId = some r from
        (getResource_upsertResource st r _).trans (if_pos hid)] at hres
      have hs := (Option.filter_eq_some_iff.1 hres).1
      have hact := h.resourceActive
      rw [← Option.some.inj hs, unknown_of_after (.resource r) hl] at hact
      cases hact
    have hres : visibleResourceAt H (st.write (.upsertResource r)) request.resourceId asOf =
        visibleResourceAt H st request.resourceId asOf := by
      unfold visibleResourceAt
      rw [getResource_write (w := .upsertResource r) hne]
    refine ⟨⟨h.valid, h.past, h.subject, h.subjectActive, hres ▸ h.resource, h.resourceActive,
      h.tenants⟩, fun r' hr => ?_⟩
    cases hr
    exact hne
  | upsertRelationship r =>
    exact ⟨⟨h.valid, h.past, h.subject, h.subjectActive, h.resource, h.resourceActive, h.tenants⟩,
      fun r' hr => by cases hr⟩
  | deleteRelationship id d =>
    have hsub : visibleSubjectAt H (st.write (.deleteRelationship id d)) = visibleSubjectAt H st := by
      funext id' t
      unfold visibleSubjectAt
      exact congrArg _ (getSubject_delete st id d id')
    have hres : visibleResourceAt H (st.write (.deleteRelationship id d)) =
        visibleResourceAt H st := by
      funext id' t
      unfold visibleResourceAt
      exact congrArg _ (getResource_delete st id d id')
    exact ⟨⟨h.valid, h.past, hsub ▸ h.subject, h.subjectActive, hres ▸ h.resource,
      h.resourceActive, h.tenants⟩, fun r' hr => by cases hr⟩

/-- Nothing is there at the instant after the writes that was not there before:
no tuple, no caveat satisfied, no active node. -/
structure Fades (H : Host) (i : TraversalInput) (inp : CaveatInput)
    (st st' : InMemoryRebacStore) : Prop where
  tuple : ∀ r', st'.getRelationship r'.id = some r' →
    isActiveRelationshipAt H r' i.asOf none = true →
    ∃ r, st.getRelationship r'.id = some r ∧ (r' = r ∨ ∃ d, r' = markDeleted r d) ∧
      isActiveRelationshipAt H r i.asOf none = true ∧
      (stepPasses H inp r' = true → stepPasses H inp r = true)
  node : ∀ id, isActiveGraphNodeAt H st' id i.asOf = true →
    isActiveGraphNodeAt H st id i.asOf = true ∧
      visibleNodeAt H st' id i.asOf = visibleNodeAt H st id i.asOf
  target : visibleNodeAt H st' i.resourceId i.asOf = visibleNodeAt H st i.resourceId i.asOf

theorem tuple_unchanged (h : st'.getRelationship = st.getRelationship) (r' : RelationshipTuple)
    (hs : st'.getRelationship r'.id = some r')
    (hact : isActiveRelationshipAt H r' i.asOf none = true) :
    ∃ r, st.getRelationship r'.id = some r ∧ (r' = r ∨ ∃ d, r' = markDeleted r d) ∧
      isActiveRelationshipAt H r i.asOf none = true ∧
      (stepPasses H inp r' = true → stepPasses H inp r = true) :=
  ⟨r', h ▸ hs, .inl rfl, hact, fun hp => hp⟩

theorem node_untouched (st : InMemoryRebacStore) {w : GraphWrite} {id : CanonicalId}
    (h : ¬ w.AboutNode id) (t : IsoDateTime) :
    isActiveGraphNodeAt H (st.write w) id t = isActiveGraphNodeAt H st id t ∧
      visibleNodeAt H (st.write w) id t = visibleNodeAt H st id t := by
  unfold isActiveGraphNodeAt visibleNodeAt visibleSubjectAt visibleResourceAt
  rw [getSubject_write h, getResource_write h]
  exact ⟨rfl, rfl⟩

theorem deletion_untouched (st : InMemoryRebacStore) (id : CanonicalId) (d : IsoDateTime)
    (id' : CanonicalId) (t : IsoDateTime) :
    isActiveGraphNodeAt H (st.write (.deleteRelationship id d)) id' t =
        isActiveGraphNodeAt H st id' t ∧
      visibleNodeAt H (st.write (.deleteRelationship id d)) id' t = visibleNodeAt H st id' t :=
  node_untouched st (w := .deleteRelationship id d) (fun h => h) t

/-- An updated subject is not active, unless it was not there before and is
not there after. -/
theorem fades_upsertSubject {s : Subject} (hl : After H i.asOf s.updatedAt)
    (hne : s.id ≠ i.resourceId)
    (hcreated : ∀ old, st.getSubject s.id = some old →
      gtMs (dateParse H s.createdAt) (dateParse H i.asOf) = true →
      gtMs (dateParse H old.createdAt) (dateParse H i.asOf) = true) :
    Fades H i inp st (st.write (.upsertSubject s)) where
  tuple := tuple_unchanged rfl
  node id hact := by
    by_cases hid : s.id = id
    · subst hid
      have hget : (st.write (.upsertSubject s)).getSubject s.id = some s :=
        (getSubject_upsertSubject st s _).trans (if_pos rfl)
      have hunknown := unknown_of_after (.subject s) hl
      have hlater : gtMs (dateParse H s.createdAt) (dateParse H i.asOf) = true := by
        by_contra hg
        rw [Bool.not_eq_true] at hg
        unfold isActiveGraphNodeAt visibleSubjectAt at hact
        simp [hget, isVisibleAt_undeleted, Option.filter_some, hg, hunknown] at hact
      have hsub : visibleSubjectAt H (st.write (.upsertSubject s)) s.id i.asOf =
          visibleSubjectAt H st s.id i.asOf := by
        unfold visibleSubjectAt
        rw [hget]
        cases hold : st.getSubject s.id with
        | none => simp [isVisibleAt_undeleted, Option.filter_some, hlater]
        | some old =>
          simp [isVisibleAt_undeleted, Option.filter_some, hlater, hcreated old hold hlater]
      unfold isActiveGraphNodeAt at hact ⊢
      unfold visibleNodeAt
      rw [hsub] at hact ⊢
      exact ⟨hact, rfl⟩
    · obtain ⟨ha, hv⟩ := node_untouched (H := H) st (w := .upsertSubject s) hid i.asOf
      exact ⟨ha ▸ hact, hv⟩
  target := (node_untouched st (w := .upsertSubject s) hne i.asOf).2

/-- An updated resource is not active unless a subject stands in for it. -/
theorem fades_upsertResource {r : Resource} (hl : After H i.asOf r.updatedAt)
    (hne : r.id ≠ i.resourceId) : Fades H i inp st (st.write (.upsertResource r)) where
  tuple := tuple_unchanged rfl
  node id hact := by
    by_cases hid : r.id = id
    · subst hid
      have hunknown := unknown_of_after (.resource r) hl
      have hsub : visibleSubjectAt H (st.write (.upsertResource r)) r.id i.asOf =
          visibleSubjectAt H st r.id i.asOf := rfl
      have hget : (st.write (.upsertResource r)).getResource r.id = some r :=
        (getResource_upsertResource st r _).trans (if_pos rfl)
      unfold isActiveGraphNodeAt at hact ⊢
      unfold visibleNodeAt
      rw [hsub] at hact ⊢
      cases hs : visibleSubjectAt H st r.id i.asOf with
      | some s =>
        rw [hs] at hact
        exact ⟨hact, rfl⟩
      | none =>
        rw [hs] at hact
        unfold visibleResourceAt at hact
        simp only [hget] at hact
        split at hact
        · rename_i r' hr'
          cases (Option.filter_eq_some_iff.1 hr').1
          simp [hunknown] at hact
        · cases hact
    · obtain ⟨ha, hv⟩ := node_untouched (H := H) st (w := .upsertResource r) hid i.asOf
      exact ⟨ha ▸ hact, hv⟩
  target := (node_untouched st (w := .upsertResource r) hne i.asOf).2

theorem fades_upsertRelationship {r : RelationshipTuple}
    (hl : gtMs (dateParse H r.createdAt) (dateParse H i.asOf) = true) :
    Fades H i inp st (st.write (.upsertRelationship r)) where
  tuple r' hs hact := by
    by_cases hid : r.id = r'.id
    · have : some r = some r' := ((getRelationship_upsert st r _).trans (if_pos hid)).symm.trans hs
      cases this
      simp [isActiveRelationshipAt, isVisibleAt, hl] at hact
    · exact ⟨r', ((getRelationship_upsert st r _).trans (if_neg hid)).symm.trans hs, .inl rfl, hact,
        fun hp => hp⟩
  node id hact := ⟨hact, rfl⟩
  target := rfl

theorem fades_deleteRelationship {id : CanonicalId} {d : IsoDateTime}
    (hc : ∀ r, st.getRelationship id = some r →
      isActiveRelationshipAt H (markDeleted r d) i.asOf none = true →
      isActiveRelationshipAt H r i.asOf none = true ∧
        (stepPasses H inp (markDeleted r d) = true → stepPasses H inp r = true)) :
    Fades H i inp st (st.write (.deleteRelationship id d)) where
  tuple r' hs hact := by
    have hget := getRelationship_delete st id d r'.id
    by_cases hid : id = r'.id
    · rw [if_pos hid] at hget
      obtain ⟨r, hr, rfl⟩ := Option.map_eq_some_iff.1 (hget.symm.trans hs)
      obtain ⟨hold, hpass⟩ := hc r (hid ▸ hr) hact
      exact ⟨r, hr, .inr ⟨d, rfl⟩, hold, hpass⟩
    · rw [if_neg hid] at hget
      exact ⟨r', hget.symm.trans hs, .inl rfl, hact, fun hp => hp⟩
  node id' hact := by
    obtain ⟨ha, hv⟩ := deletion_untouched (H := H) st id d id' i.asOf
    exact ⟨ha ▸ hact, hv⟩
  target := (deletion_untouched st id d i.resourceId i.asOf).2

/-- **One step**: a conservative later write of a request that is still
admitted after it. -/
theorem fades_write (hl : Later H i.asOf st w) (hc : Conservative H i inp st w)
    (hne : ∀ r, w = .upsertResource r → r.id ≠ i.resourceId) : Fades H i inp st (st.write w) := by
  cases w with
  | upsertSubject s => exact fades_upsertSubject hl hc.1 hc.2.1
  | upsertResource r => exact fades_upsertResource hl (hne r rfl)
  | upsertRelationship r => exact fades_upsertRelationship hl.2
  | deleteRelationship id d => exact fades_deleteRelationship hc

/-! ## Walks of the past -/

/-- The tuple as it was before the writes. -/
def before (st : InMemoryRebacStore) (r' : RelationshipTuple) : RelationshipTuple :=
  (st.getRelationship r'.id).getD r'

/-- A deletion changes nothing that a walk depends on. -/
structure SameEdge (r r' : RelationshipTuple) : Prop where
  version : r.version = r'.version
  subjectId : r.subjectId = r'.subjectId
  relation : r.relation = r'.relation
  objectId : r.objectId = r'.objectId
  attributes : r.attributes = r'.attributes

theorem sameEdge_of_deleted {r r' : RelationshipTuple} (h : r' = r ∨ ∃ d, r' = markDeleted r d) :
    SameEdge r r' := by
  rcases h with rfl | ⟨d, rfl⟩ <;> exact ⟨rfl, rfl, rfl, rfl, rfl⟩

theorem matchesTenant_congr {r r' : RelationshipTuple} {root : Option String} {t : IsoDateTime}
    (he : SameEdge r r') (hv : visibleNodeAt H st' r'.objectId t = visibleNodeAt H st r'.objectId t) :
    relationshipMatchesTenantBoundary H st r root t =
      relationshipMatchesTenantBoundary H st' r' root t := by
  unfold relationshipMatchesTenantBoundary
  rw [he.attributes, he.objectId, hv]

/-- What a tuple that is there after the writes was before them. -/
theorem before_spec (hf : Fades H i inp st st') (hs : i.activeRelationshipScope.asOf = i.asOf)
    {r' : RelationshipTuple} (hu : Usable H (i.over st') r') :
    st.getRelationship r'.id = some (before st r') ∧ SameEdge (before st r') r' ∧
      isActiveRelationshipAt H (before st r') i.asOf none = true ∧
      (stepPasses H inp r' = true → stepPasses H inp (before st r') = true) := by
  obtain ⟨r, hr, hdel, hact, hpass⟩ := hf.tuple r' hu.stored (hs ▸ hu.active)
  have hb : before st r' = r := by
    unfold before
    rw [hr]
    rfl
  rw [hb]
  exact ⟨hr, sameEdge_of_deleted hdel, hact, hpass⟩

/-- A tuple could be followed before the operations to a node that they did not change. -/
theorem usable_before (hf : Fades H i inp st st') (hs : i.activeRelationshipScope.asOf = i.asOf)
    {r' : RelationshipTuple} (hu : Usable H (i.over st') r')
    (hv : visibleNodeAt H st' r'.objectId i.asOf = visibleNodeAt H st r'.objectId i.asOf) :
    Usable H (i.over st) (before st r') := by
  obtain ⟨hr, he, hact, -⟩ := before_spec hf hs hu
  refine ⟨?_, ?_, ?_, ?_⟩
  · rw [st.relationship_id _ _ hr]
    exact hr
  · exact hs.symm ▸ hact
  · intro v hv'
    exact he.version.trans (hu.pinned v hv')
  · exact (matchesTenant_congr he hv).trans hu.tenant

/-- **Allow walks fade**: what is an allow walk after the writes was one
before them, and passed its caveats if it does now. -/
theorem allowWalk_before (hf : Fades H i inp st st')
    (hs : i.activeRelationshipScope.asOf = i.asOf) {p : List RelationshipTuple}
    (hp : AllowWalk H (i.over st') p) (hpass : ∀ r ∈ p, stepPasses H inp r = true) :
    ∃ q, AllowWalk H (i.over st) q ∧ ∀ r ∈ q, stepPasses H inp r = true := by
  have hedge : ∀ (s : AllowState) (x : RelationshipTuple),
      x ∈ (allowSpace H (i.over st')).edges s → (allowSpace H (i.over st')).usable s x = true →
      visibleNodeAt H st' x.objectId i.asOf = visibleNodeAt H st x.objectId i.asOf →
      before st x ∈ (allowSpace H (i.over st)).edges s ∧
        (allowSpace H (i.over st)).usable s (before st x) = true ∧
        SameEdge (before st x) x := by
    intro s x hx hu hv
    obtain ⟨husable, hsub⟩ := usable_iff.1 ⟨hx, hu⟩
    obtain ⟨-, he, -⟩ := before_spec hf hs husable
    obtain ⟨hmem, hmatch⟩ := usable_iff.2
      ⟨usable_before hf hs husable hv, he.subjectId.trans hsub⟩
    exact ⟨hmem, hmatch, he⟩
  have hmap : AllowWalk H (i.over st) (p.map (before st)) := by
    have hp' : (allowSpace H (i.over st')).GoalWalk ⟨i.subjectId, false⟩ p := hp
    refine Space.GoalWalk.map ?_ ?_ hp'
    · intro s x t hx hu hn
      obtain ⟨hres, htrav, hact, rfl⟩ := allowSpace_next_eq_some.1 hn
      obtain ⟨hact', hv⟩ := hf.node x.objectId hact
      obtain ⟨hmem, hmatch, he⟩ := hedge s x hx hu hv
      refine ⟨hmem, hmatch, allowSpace_next_eq_some.2 ?_⟩
      unfold canTraverseRelationship at htrav ⊢
      rw [he.objectId, he.relation]
      exact ⟨hres, htrav, hact', rfl⟩
    · intro s x hx hu hg
      have hgoal := hg
      simp only [allowSpace, decide_eq_true_eq] at hgoal
      obtain ⟨hmem, hmatch, he⟩ := hedge s x hx hu (hgoal.1 ▸ hf.target)
      refine ⟨hmem, hmatch, ?_⟩
      simp only [allowSpace, decide_eq_true_eq]
      rw [he.objectId, he.relation]
      exact hgoal
  refine ⟨_, hmap, fun r hr => ?_⟩
  obtain ⟨x, hx, rfl⟩ := List.mem_map.1 hr
  have hu := (allowSpace_overGraph H (i.over st')).goalWalk_usable hp x hx
  obtain ⟨-, -, -, hback⟩ := before_spec hf hs hu
  exact hback (hpass x hx)

theorem active_markDeleted {r : RelationshipTuple} {d : IsoDateTime} {t : IsoDateTime}
    (hd : After H t (some d)) (h : isActiveRelationshipAt H r t none = true) :
    isActiveRelationshipAt H (markDeleted r d) t none = true := by
  obtain ⟨u, hu, hgt⟩ := hd
  obtain ⟨hc, ha, he⟩ := holds_of_active h
  obtain ⟨hud, hne⟩ := truthy_eq_some.1 hu
  cases hud
  cases ht : dateParse H t with
  | none =>
    rw [ht] at hgt
    cases hu' : dateParse H d <;> simp [hu', gtMs] at hgt
  | some m =>
    rw [ht] at hgt hc ha he
    exact (active_markDeleted_iff ht).2 ⟨hne, hgt, hc, ha, he⟩

theorem denyReachable_after
    (htuple : ∀ r, Usable H (i.over st) r → ∃ r', Usable H (i.over st') r' ∧ SameEdge r r')
    (hnode : ∀ id, isActiveGraphNodeAt H st id i.asOf = true →
      isActiveGraphNodeAt H st' id i.asOf = true)
    (h : DenyReachable H (i.over st)) : DenyReachable H (i.over st') := by
  have hreach : ∀ id, DenyReach H (i.over st) id → DenyReach H (i.over st') id := by
    intro id hr
    induction hr with
    | subject => exact .subject
    | membership _ hu hm hp ih =>
      obtain ⟨r', hu', he⟩ := htuple _ hu
      rw [he.objectId] at hp ⊢
      rw [he.subjectId] at ih
      rw [he.relation] at hm
      exact .membership ih hu' hm ⟨hnode _ hp.active, hp.ne⟩
  obtain ⟨r, hr, hu, hres, hrel⟩ := h
  obtain ⟨r', hu', he⟩ := htuple r hu
  exact ⟨r', he.subjectId ▸ hreach _ hr, hu', he.objectId ▸ hres, he.relation ▸ hrel⟩

/-- A conservative later write leaves a deny walk where there was one. -/
theorem denyReachable_write (hs : i.activeRelationshipScope.asOf = i.asOf)
    (hl : Later H i.asOf st w) (hc : Conservative H i inp st w)
    (h : DenyReachable H (i.over st)) : DenyReachable H (i.over (st.write w)) := by
  cases w with
  | upsertSubject s => exact hc.2.2 h
  | upsertResource r => exact hc h
  | upsertRelationship e =>
    have htuple : ∀ r, Usable H (i.over st) r →
        ∃ r', Usable H (i.over (st.write (.upsertRelationship e))) r' ∧ SameEdge r r' := by
      intro r hu
      have hstored : st.getRelationship r.id = some r := hu.stored
      have hne : ¬ e.id = r.id := by
        intro hid
        rw [← hid, hl.1] at hstored
        cases hstored
      exact ⟨r, ⟨((getRelationship_upsert st e r.id).trans (if_neg hne)).trans hstored, hu.active,
        hu.pinned, hu.tenant⟩, rfl, rfl, rfl, rfl, rfl⟩
    exact denyReachable_after htuple (fun _ hact => hact) h
  | deleteRelationship id d =>
    have hnode := fun id' => deletion_untouched (H := H) st id d id' i.asOf
    have htuple : ∀ r, Usable H (i.over st) r →
        ∃ r', Usable H (i.over (st.write (.deleteRelationship id d))) r' ∧ SameEdge r r' := by
      intro r hu
      have hstored : st.getRelationship r.id = some r := hu.stored
      have hget := getRelationship_delete st id d r.id
      rw [hstored] at hget
      by_cases hid : id = r.id
      · rw [if_pos hid] at hget
        have he : SameEdge r (markDeleted r d) := ⟨rfl, rfl, rfl, rfl, rfl⟩
        have hact : isActiveRelationshipAt H r i.asOf none = true := hs ▸ hu.active
        refine ⟨markDeleted r d, ⟨hget, hs.symm ▸ active_markDeleted hl hact, hu.pinned, ?_⟩, he⟩
        exact (matchesTenant_congr he (hnode _).2).symm.trans hu.tenant
      · rw [if_neg hid] at hget
        have he : SameEdge r r := ⟨rfl, rfl, rfl, rfl, rfl⟩
        exact ⟨r, ⟨hget, hu.active, hu.pinned,
          (matchesTenant_congr he (hnode _).2).symm.trans hu.tenant⟩, he⟩
    exact denyReachable_after htuple (fun id' hact => (hnode id').1.trans hact) h

/-! ## When decisions of the past do not open -/

/-- A request that is admitted after later maintenance was admitted before. -/
theorem admissible_run {ws : List GraphWrite} (hl : EachStep (Later H asOf) st ws)
    (h : Admissible H (st.writeAll ws) request evaluatedAt asOf a) :
    Admissible H st request evaluatedAt asOf a := by
  induction ws generalizing st with
  | nil => exact h
  | cons w ws ih => exact (admissible_before hl.1 (ih hl.2 h)).1

/-- What allows after the maintenance allowed before it, and what denied before
it denies after it. -/
structure Linked (H : Host) (i : TraversalInput) (inp : CaveatInput)
    (st st' : InMemoryRebacStore) : Prop where
  allow : ∀ p, AllowWalk H (i.over st') p → (∀ r ∈ p, stepPasses H inp r = true) →
    ∃ q, AllowWalk H (i.over st) q ∧ ∀ r ∈ q, stepPasses H inp r = true
  deny : DenyReachable H (i.over st) → DenyReachable H (i.over st')

/-- **A whole run**: by induction on the writes. -/
theorem linked_run {ws : List GraphWrite} (hs : i.activeRelationshipScope.asOf = i.asOf)
    (hres : i.resourceId = request.resourceId) (hl : EachStep (Later H i.asOf) st ws)
    (hc : EachStep (Conservative H i inp) st ws)
    (h : Admissible H (st.writeAll ws) request evaluatedAt i.asOf a) :
    Linked H i inp st (st.writeAll ws) := by
  induction ws generalizing st with
  | nil => exact ⟨fun p hp hpass => ⟨p, hp, hpass⟩, fun hd => hd⟩
  | cons w ws ih =>
    have hrest : Linked H i inp (st.write w) ((st.write w).writeAll ws) := ih hl.2 hc.2 h
    have hne := (admissible_before hl.1 (admissible_run hl.2 h)).2
    have hf := fades_write hl.1 hc.1 fun r hr => hres ▸ hne r hr
    refine ⟨fun p hp hpass => ?_, fun hd => ?_⟩
    · obtain ⟨q, hq, hqpass⟩ := hrest.allow p hp hpass
      exact allowWalk_before hf hs hq hqpass
    · exact hrest.deny (denyReachable_write hs hl.1 hc.1 hd)

end

/-- **When later maintenance opens nothing.** -/
theorem maintenance_fails_closed (H : Host) (options : DecisionEngineOptions)
    (st : InMemoryRebacStore) (request : DecisionRequest) (asOf evaluatedAt : IsoDateTime)
    (ws : List GraphWrite) (hlater : EachStep (Later H asOf) st ws)
    (hwithin : Within H options st (asked request asOf) evaluatedAt)
    (hcond : ∀ a, Admissible H st (asked request asOf) evaluatedAt asOf a →
      ShortestPass H (searchInput H options st (asked request asOf) evaluatedAt a)
          (caveatsBefore H options st request asOf evaluatedAt) ∧
        EachStep (Conservative H (searchInput H options st (asked request asOf) evaluatedAt a)
          (caveatsBefore H options st request asOf evaluatedAt)) st ws) :
    FailsClosed H options st request asOf evaluatedAt ws := by
  intro hallow
  obtain ⟨a, hadm', hnodeny, hwalk, hpass⟩ := allow_path hallow
  have hadm : Admissible H st (asked request asOf) evaluatedAt asOf a := admissible_run hlater hadm'
  obtain ⟨hshort, hcons⟩ := hcond a hadm
  have hlinked : Linked H (searchInput H options st (asked request asOf) evaluatedAt a)
      (caveatsBefore H options st request asOf evaluatedAt) st (st.writeAll ws) :=
    linked_run rfl rfl hlater hcons hadm'
  -- the two nodes are the same records, so the caveats see the same
  have hsub : (st.writeAll ws).getSubject request.subjectId = st.getSubject request.subjectId :=
    (Option.filter_eq_some_iff.1 hadm'.subject).1.trans
      (Option.filter_eq_some_iff.1 hadm.subject).1.symm
  have hres : (st.writeAll ws).getResource request.resourceId = st.getResource request.resourceId :=
    (Option.filter_eq_some_iff.1 hadm'.resource).1.trans
      (Option.filter_eq_some_iff.1 hadm.resource).1.symm
  have hpass' : ∀ r ∈ _, stepPasses H (caveatsBefore H options st request asOf evaluatedAt) r
      = true := fun r hr => (stepPasses_over (caveatsBefore H options st request asOf evaluatedAt)
        (st.writeAll ws) hsub hres r).symm.trans (hpass r hr)
  obtain ⟨q, hq, hqpass⟩ := hlinked.allow _ hwalk hpass'
  have hok : admitRequest H st (asked request asOf) evaluatedAt
      (normalizeDecisionRuntimeVersionPins H (asked request asOf)
        (RebacDecisionEngine.new H options).options evaluatedAt) = .ok a :=
    admitRequest_eq_ok.2 hadm
  refine decision_allow_iff.2 ⟨a, hok, pathsAllow_of_walks ?_ ?_ ⟨q, hq⟩ ?_⟩
  · unfold Within evaluate buildDecisionContext at hwithin
    rw [hok] at hwithin
    exact hwithin
  · intro p hp
    obtain ⟨p', hp'⟩ := denyReachable_iff.2 (hlinked.deny (denyReachable_iff.1 ⟨p, hp⟩))
    exact hnodeny p' hp'
  · intro hw hmin
    exact hshort ⟨q, hq, hqpass⟩ _ hw hmin

/-- Alice leaves the team and gets the plan, both at 18:00. -/
def laterChanges : List GraphWrite :=
  [.deleteRelationship aliceCaseTeam.id later,
   .upsertRelationship { ownedByAlice with createdAt := later }]

/-- What she might write as of 17:00 she might before. -/
theorem later_changes_fail_closed :
    FailsClosed plainHost {} localStore writePlan timestamp later laterChanges := by
  refine maintenance_fails_closed plainHost {} localStore writePlan timestamp later laterChanges
    ⟨⟨later, rfl, by decide⟩, ⟨rfl, by decide⟩, trivial⟩ (by unfold Within; decide +kernel) ?_
  intro a _
  have hplain : ∀ r, stepPasses plainHost
      (caveatsBefore plainHost {} localStore writePlan timestamp later) r = true :=
    fun r => stepPasses_of_unconditional rfl r
  refine ⟨fun _ _ _ _ r _ => hplain r, ?_, trivial, trivial⟩
  intro r hr _
  have hmember : localStore.getRelationship aliceCaseTeam.id = some aliceCaseTeam := rfl
  obtain rfl : aliceCaseTeam = r := Option.some.inj (hmember.symm.trans hr)
  exact ⟨Scene.isActiveRelationshipAt_timestamp plainHost _ _ _ _, fun _ => hplain _⟩

end AccessKit.Bugs.LaterMaintenance
