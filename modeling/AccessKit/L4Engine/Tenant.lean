import AccessKit.L2Graph.Writes
import AccessKit.L4Engine.Agreement

/-!
# Tenant isolation

Both searches look at the tenant of a tuple and of the node it points to
(packages/core/src/engine.ts:899-931) before they follow it. So a walk that
leaves the tenant of the requesting subject never starts, and a graph that
grows by nodes and tuples of other tenants is, from the requesting subject on,
the graph it was.

A node belongs to another tenant when it has a record and no record of it
names the tenant in question; an id may name a subject and a resource at once.

Results:
* `allow_path_in_tenant`: the path of an allow stays in the tenant.
* `decision_of_grown`: adding nodes and tuples of other tenants, under fresh
  ids, does not change a decision.
* `tenant_isolation`: both.
-/
namespace AccessKit.L4
open AccessKit.Core AccessKit.L1 AccessKit.L2.Store AccessKit.L2.Fixtures AccessKit.L3

/-! ## The path of an allow -/

/-- What the searches see under an id is there and has the tenant. -/
def InTenant (H : Host) (st : InMemoryRebacStore) (asOf : IsoDateTime) (tenant : Option String)
    (id : CanonicalId) : Prop :=
  ∃ node, visibleNodeAt H st id asOf = some node ∧ tenantIdFor (some node) = tenant

/-- The tuple has no tenant or that one, and so do the nodes it joins. -/
structure TupleInTenant (H : Host) (st : InMemoryRebacStore) (asOf : IsoDateTime)
    (tenant : Option String) (r : RelationshipTuple) : Prop where
  tag : stringAttribute r.attributes "tenantId" = none ∨
    stringAttribute r.attributes "tenantId" = tenant
  source : InTenant H st asOf tenant r.subjectId
  target : InTenant H st asOf tenant r.objectId

section
variable {H : Host} {i : TraversalInput}

/-- A tuple the tenant test lets through ends in the tenant, if it ends at a
node that is there. -/
theorem inTenant_of_matches {r : RelationshipTuple} (h : i.matchesTenant H r = true)
    {node : GraphNode} (hn : visibleNodeAt H i.store r.objectId i.asOf = some node) :
    InTenant H i.store i.asOf i.rootTenantId r.objectId :=
  ⟨node, hn, hn ▸ (relationshipMatchesTenantBoundary_iff.1 h).2⟩

theorem walk_inTenant {S C : Type} {sp : Space S RelationshipTuple C} {nodeOf : S → CanonicalId}
    (ho : OverGraph H i sp nodeOf) {root : S}
    (hroot : InTenant H i.store i.asOf i.rootTenantId (nodeOf root))
    {trail : List RelationshipTuple} {s : S} (h : sp.Walk root trail s) :
    InTenant H i.store i.asOf i.rootTenantId (nodeOf s) ∧
      ∀ r ∈ trail, TupleInTenant H i.store i.asOf i.rootTenantId r := by
  induction h with
  | root => exact ⟨hroot, nofun⟩
  | @snoc trail s t r _ hr hu hn ih =>
    obtain ⟨hs, htrail⟩ := ih
    obtain ⟨-, hact, ht⟩ := ho.next s r t hn
    rw [ho.usable] at hu
    rw [ho.edges] at hr
    obtain ⟨node, hnode, -⟩ := activeNode_visible hact
    have htarget := inTenant_of_matches hu hnode
    refine ⟨ht ▸ htarget, List.forall_mem_cons.2 ⟨⟨?_, ?_, htarget⟩, htrail⟩⟩
    · exact (relationshipMatchesTenantBoundary_iff.1 hu).1
    · rw [(usable_iff.1 ⟨hr, hu⟩).2]
      exact hs

theorem goalWalk_inTenant {S C : Type} {sp : Space S RelationshipTuple C}
    {nodeOf : S → CanonicalId} (ho : OverGraph H i sp nodeOf) (root : S)
    (hroot : InTenant H i.store i.asOf i.rootTenantId (nodeOf root))
    (hres : ∃ node, visibleNodeAt H i.store i.resourceId i.asOf = some node)
    {path : List RelationshipTuple} (h : sp.GoalWalk root path) :
    ∀ r ∈ path, TupleInTenant H i.store i.asOf i.rootTenantId r := by
  obtain ⟨trail, s, r, rfl, hw, hr, hu, hg⟩ := h
  obtain ⟨hs, htrail⟩ := walk_inTenant ho hroot hw
  rw [ho.usable] at hu
  rw [ho.edges] at hr
  obtain ⟨node, hnode⟩ := hres
  rw [← ho.goal s r hg] at hnode
  intro x hx
  rcases List.mem_cons.1 (List.mem_reverse.1 hx) with rfl | hx
  · refine ⟨(relationshipMatchesTenantBoundary_iff.1 hu).1, ?_, inTenant_of_matches hu hnode⟩
    rw [(usable_iff.1 ⟨hr, hu⟩).2]
    exact hs
  · exact htrail x hx

end

section
variable {H : Host} {options : DecisionEngineOptions} {st : InMemoryRebacStore}
  {request : DecisionRequest} {evaluatedAt : IsoDateTime}
  {versionPins : DecisionRuntimeVersionPins} {a : Admission}

theorem Admissible.inTenant {asOf : IsoDateTime}
    (h : Admissible H st request evaluatedAt asOf a) :
    InTenant H st asOf a.rootTenantId request.subjectId := by
  refine ⟨.subject a.subject, ?_, rfl⟩
  simp only [visibleNodeAt, h.subject]

theorem visibleNodeAt_of_resource {id : CanonicalId} {asOf : IsoDateTime} {r : Resource}
    (h : visibleResourceAt H st id asOf = some r) :
    ∃ node, visibleNodeAt H st id asOf = some node := by
  unfold visibleNodeAt
  cases visibleSubjectAt H st id asOf with
  | some s => exact ⟨_, rfl⟩
  | none => exact ⟨.resource r, by rw [h]; rfl⟩

/-- **The path of an allow stays in the tenant** of the requesting subject,
from the subject to the resource. -/
theorem allow_path_in_tenant (hd : (buildDecisionContext H (.new H options) st request evaluatedAt
      versionPins).decision = .allow) :
    ∃ a, Admissible H st request evaluatedAt versionPins.asOf a ∧
      tenantIdFor (some (.resource a.resource)) = a.rootTenantId ∧
      ∀ r ∈ (buildDecisionContext H (.new H options) st request evaluatedAt
        versionPins).path.relationships,
        TupleInTenant H st versionPins.asOf a.rootTenantId r := by
  obtain ⟨a, hadm, -, hw, -⟩ := allow_path hd
  exact ⟨a, hadm, hadm.tenants.symm, goalWalk_inTenant
    (allowSpace_overGraph H (traversalInput (.new H options) st request versionPins a))
    ⟨request.subjectId, false⟩ hadm.inTenant (visibleNodeAt_of_resource hadm.resource) hw⟩

end

/-! ## Growing by other tenants -/

/-- There is a subject or a resource with this id. -/
def KnownNode (st : InMemoryRebacStore) (id : CanonicalId) : Prop :=
  (st.getSubject id).isSome ∨ (st.getResource id).isSome

/-- No record under the id has the tenant. -/
structure Outside (st : InMemoryRebacStore) (tenant : Option String) (id : CanonicalId) :
    Prop where
  subject : ∀ s, st.getSubject id = some s → tenantIdFor (some (.subject s)) ≠ tenant
  resource : ∀ r, st.getResource id = some r → tenantIdFor (some (.resource r)) ≠ tenant

/-- A node of another tenant. -/
def ForeignNode (st : InMemoryRebacStore) (tenant : Option String) (id : CanonicalId) : Prop :=
  KnownNode st id ∧ Outside st tenant id

/-- A tuple that is tagged with another tenant, or starts or ends at a node of
another tenant. -/
def ForeignTuple (st : InMemoryRebacStore) (tenant : Option String) (r : RelationshipTuple) :
    Prop :=
  (∃ t, stringAttribute r.attributes "tenantId" = some t ∧ some t ≠ tenant) ∨
    ForeignNode st tenant r.subjectId ∨ ForeignNode st tenant r.objectId

/-- The write adds a node of another tenant, or a tuple that is foreign in the
store `grown` at the end of all writes, under an id that `st` does not have. -/
def ForeignWrite (st grown : InMemoryRebacStore) (tenant : Option String) : GraphWrite → Prop
  | .upsertSubject s => ¬ KnownNode st s.id ∧ tenantIdFor (some (.subject s)) ≠ tenant
  | .upsertResource r => ¬ KnownNode st r.id ∧ tenantIdFor (some (.resource r)) ≠ tenant
  | .upsertRelationship r => st.getRelationship r.id = none ∧ ForeignTuple grown tenant r
  | .deleteRelationship _ _ => False

/-- What a store has in common with one that grew out of it by foreign
writes. -/
structure GrownBy (st grown : InMemoryRebacStore) (tenant : Option String) : Prop where
  subject : ∀ id, KnownNode st id → grown.getSubject id = st.getSubject id
  resource : ∀ id, KnownNode st id → grown.getResource id = st.getResource id
  node : ∀ id, ¬ KnownNode st id → Outside grown tenant id
  listed : ∀ s, (grown.listRelationshipsForSubject s).filter
    (fun r => (st.getRelationship r.id).isSome) = st.listRelationshipsForSubject s
  tuple : ∀ r, grown.getRelationship r.id = some r → st.getRelationship r.id = none →
    ForeignTuple grown tenant r

theorem outside_write {st st' grown : InMemoryRebacStore} {tenant : Option String} {w : GraphWrite}
    (hw : ForeignWrite st grown tenant w) {id : CanonicalId} (h : Outside st' tenant id) :
    Outside (st'.write w) tenant id := by
  cases w with
  | upsertSubject s =>
    refine ⟨fun t ht => ?_, h.resource⟩
    rw [InMemoryRebacStore.write, InMemoryRebacStore.getSubject_upsertSubject] at ht
    split at ht
    · cases ht
      exact hw.2
    · exact h.subject t ht
  | upsertResource r =>
    refine ⟨h.subject, fun t ht => ?_⟩
    rw [InMemoryRebacStore.write, InMemoryRebacStore.getResource_upsertResource] at ht
    split at ht
    · cases ht
      exact hw.2
    · exact h.resource t ht
  | upsertRelationship r => exact ⟨h.subject, h.resource⟩
  | deleteRelationship a d => exact hw.elim

theorem tuple_write {st st' grown : InMemoryRebacStore} {tenant : Option String} {w : GraphWrite}
    (hw : ForeignWrite st grown tenant w)
    (h : ∀ r, st'.getRelationship r.id = some r → st.getRelationship r.id = none →
      ForeignTuple grown tenant r) :
    ∀ r, (st'.write w).getRelationship r.id = some r → st.getRelationship r.id = none →
      ForeignTuple grown tenant r := by
  cases w with
  | upsertSubject s => exact h
  | upsertResource s => exact h
  | upsertRelationship e =>
    intro r hr hnew
    rw [InMemoryRebacStore.write, InMemoryRebacStore.getRelationship_upsert] at hr
    split at hr
    · cases hr
      exact hw.2
    · exact h r hr hnew
  | deleteRelationship a d => exact hw.elim

theorem grownBy_writeAll {st : InMemoryRebacStore} {tenant : Option String}
    {ws : List GraphWrite} (hw : ∀ w ∈ ws, ForeignWrite st (st.writeAll ws) tenant w) :
    GrownBy st (st.writeAll ws) tenant := by
  have hknown : ∀ id, KnownNode st id → ∀ w ∈ ws, ¬ w.AboutNode id := by
    intro id hid w hm habout
    have hf := hw w hm
    cases w with
    | upsertSubject s => exact hf.1 (habout ▸ hid)
    | upsertResource r => exact hf.1 (habout ▸ hid)
    | upsertRelationship r => exact habout
    | deleteRelationship a d => exact hf
  refine ⟨fun id hid => ?_, fun id hid => ?_, fun id hid => ?_, fun s => ?_, ?_⟩
  · exact InMemoryRebacStore.getSubject_writeAll (hknown id hid)
  · exact InMemoryRebacStore.getResource_writeAll (hknown id hid)
  · refine InMemoryRebacStore.writeAll_induction (P := fun st' => Outside st' tenant id)
      (fun st' w hm hst => outside_write (hw w hm) hst) ?_
    refine ⟨fun t ht => absurd (.inl ?_) hid, fun t ht => absurd (.inr ?_) hid⟩
    · rw [ht]; rfl
    · rw [ht]; rfl
  · rw [InMemoryRebacStore.filter_writeAll]
    · refine List.filter_eq_self.2 fun r hr => ?_
      rw [(InMemoryRebacStore.mem_listRelationshipsForSubject.1 hr).1]
      rfl
    · intro w hm e habout
      have hf := hw w hm
      cases w with
      | upsertSubject s => exact habout.elim
      | upsertResource r => exact habout.elim
      | upsertRelationship r =>
        have hid : r.id = e.id := habout
        rw [← hid, hf.1]
        rfl
      | deleteRelationship a d => exact hf.elim
  · exact InMemoryRebacStore.writeAll_induction
      (P := fun st' => ∀ r, st'.getRelationship r.id = some r → st.getRelationship r.id = none →
        ForeignTuple (st.writeAll ws) tenant r)
      (fun st' w hm hst => tuple_write (hw w hm) hst)
      (fun r hr hnew => by rw [hr] at hnew; cases hnew)

/-! ## What the grown graph looks like from inside -/

section
variable {H : Host} {st grown : InMemoryRebacStore} {tenant : Option String} {asOf : IsoDateTime}

theorem GrownBy.visibleSubject (h : GrownBy st grown tenant) {id : CanonicalId}
    (hid : KnownNode st id) : visibleSubjectAt H grown id asOf = visibleSubjectAt H st id asOf := by
  rw [visibleSubjectAt, visibleSubjectAt, h.subject id hid]

theorem GrownBy.visibleResource (h : GrownBy st grown tenant) {id : CanonicalId}
    (hid : KnownNode st id) :
    visibleResourceAt H grown id asOf = visibleResourceAt H st id asOf := by
  rw [visibleResourceAt, visibleResourceAt, h.resource id hid]

theorem GrownBy.visibleNode (h : GrownBy st grown tenant) {id : CanonicalId}
    (hid : KnownNode st id) : visibleNodeAt H grown id asOf = visibleNodeAt H st id asOf := by
  rw [visibleNodeAt, visibleNodeAt, h.visibleSubject hid, h.visibleResource hid]

theorem GrownBy.activeNode (h : GrownBy st grown tenant) {id : CanonicalId}
    (hid : KnownNode st id) :
    isActiveGraphNodeAt H grown id asOf = isActiveGraphNodeAt H st id asOf := by
  rw [isActiveGraphNodeAt, isActiveGraphNodeAt, h.visibleSubject hid, h.visibleResource hid]

theorem known_of_visible {id : CanonicalId} {node : GraphNode}
    (h : visibleNodeAt H st id asOf = some node) : KnownNode st id := by
  by_contra hid
  simp only [KnownNode, not_or, Bool.not_eq_true, Option.isSome_eq_false_iff,
    Option.isNone_iff_eq_none] at hid
  simp [visibleNodeAt, visibleSubjectAt, visibleResourceAt, hid] at h

theorem Outside.not_inTenant {id : CanonicalId} (h : Outside grown tenant id) :
    ¬ InTenant H grown asOf tenant id := by
  rintro ⟨node, hn, ht⟩
  unfold visibleNodeAt at hn
  split at hn
  · rename_i s hs
    cases hn
    exact h.subject s (Option.filter_eq_some_iff.1 hs).1 ht
  · rw [Option.map_eq_some_iff] at hn
    obtain ⟨r, hr, rfl⟩ := hn
    exact h.resource r (Option.filter_eq_some_iff.1 hr).1 ht

theorem GrownBy.inTenant (h : GrownBy st grown tenant) {id : CanonicalId}
    (hin : InTenant H st asOf tenant id) : InTenant H grown asOf tenant id := by
  obtain ⟨node, hn, ht⟩ := hin
  exact ⟨node, (h.visibleNode (known_of_visible hn)).trans hn, ht⟩

end

section
variable {H : Host} {i : TraversalInput} {grown : InMemoryRebacStore} {S C : Type}
  {sp sp' : Space S RelationshipTuple C} {nodeOf : S → CanonicalId}

theorem inTenant_of_live (ho : OverGraph H i sp nodeOf)
    (hres : ∃ node, visibleNodeAt H i.store i.resourceId i.asOf = some node) {s : S}
    {r : RelationshipTuple} (hl : sp.liveAt s r = true) :
    InTenant H i.store i.asOf i.rootTenantId r.objectId := by
  simp only [Space.liveAt, ho.usable, Bool.and_eq_true, Bool.or_eq_true,
    Option.isSome_iff_exists] at hl
  obtain ⟨hu, hg | ⟨t, hn⟩⟩ := hl
  · obtain ⟨node, hnode⟩ := hres
    exact inTenant_of_matches hu (ho.goal s r hg ▸ hnode)
  · obtain ⟨node, hnode, -⟩ := activeNode_visible (ho.next s r t hn).2.1
    exact inTenant_of_matches hu hnode

/-- What a search over the grown store shares with the one before. -/
structure SameSearch (H : Host) (i : TraversalInput) (grown : InMemoryRebacStore)
    (sp sp' : Space S RelationshipTuple C) : Prop where
  goal : sp'.goal = sp.goal
  next : ∀ s r, (i.over grown).isActiveNode H r.objectId = i.isActiveNode H r.objectId →
    sp'.next s r = sp.next s r
  covered : sp.covered = sp'.covered
  mark : sp.mark = sp'.mark

theorem SameSearch.next_eq (hs : SameSearch H i grown sp sp')
    (hg : GrownBy i.store grown i.rootTenantId) {r : RelationshipTuple}
    (hr : KnownNode i.store r.objectId) (s : S) : sp'.next s r = sp.next s r :=
  hs.next s r (hg.activeNode hr)

/-- An edge is live in the grown store iff it was live before, provided that
its tuple is an old one or starts in the tenant. -/
theorem live_iff_of_grown (ho : OverGraph H i sp nodeOf)
    (ho' : OverGraph H (i.over grown) sp' nodeOf) (hs : SameSearch H i grown sp sp')
    (hg : GrownBy i.store grown i.rootTenantId)
    (hres : ∃ node, visibleNodeAt H i.store i.resourceId i.asOf = some node) (s : S)
    (r : RelationshipTuple) : sp'.liveAt s r = sp.liveAt s r := by
  obtain ⟨res, hres'⟩ := hres
  have hresGrown : ∃ node, visibleNodeAt H grown i.resourceId i.asOf = some node :=
    ⟨res, (hg.visibleNode (known_of_visible hres')).trans hres'⟩
  by_cases hr : KnownNode i.store r.objectId
  · have hu : sp'.usable s r = sp.usable s r := by
      simp only [ho.usable, ho'.usable, TraversalInput.matchesTenant, TraversalInput.over,
        relationshipMatchesTenantBoundary, hg.visibleNode hr]
    simp only [Space.liveAt, hu, hs.goal, hs.next_eq hg hr]
  · -- a tuple to a node that the old store does not have leads nowhere in either
    have hold : sp.liveAt s r = false := by
      by_contra hl
      obtain ⟨node, hn, -⟩ := inTenant_of_live ho ⟨res, hres'⟩ (by simpa using hl)
      exact hr (known_of_visible hn)
    have hnew : sp'.liveAt s r = false := by
      by_contra hl
      exact (hg.node _ hr).not_inTenant
        (inTenant_of_live ho' hresGrown (by simpa using hl))
    rw [hold, hnew]

theorem old_of_live (ho' : OverGraph H (i.over grown) sp' nodeOf)
    (hg : GrownBy i.store grown i.rootTenantId)
    (hres : ∃ node, visibleNodeAt H i.store i.resourceId i.asOf = some node) {s : S}
    (hsrc : InTenant H i.store i.asOf i.rootTenantId (nodeOf s)) {r : RelationshipTuple}
    (hr : r ∈ grown.listRelationshipsForSubject (nodeOf s)) (hl : sp'.liveAt s r = true) :
    (i.store.getRelationship r.id).isSome = true := by
  obtain ⟨res, hres⟩ := hres
  obtain ⟨hstored, hsub⟩ := InMemoryRebacStore.mem_listRelationshipsForSubject.1 hr
  by_contra hnew
  simp only [Bool.not_eq_true, Option.isSome_eq_false_iff, Option.isNone_iff_eq_none] at hnew
  have htarget := inTenant_of_live ho'
    ⟨res, (hg.visibleNode (known_of_visible hres)).trans hres⟩ hl
  rcases hg.tuple r hstored hnew with ⟨t, htag, hne⟩ | hf | hf
  · simp only [Space.liveAt, ho'.usable, Bool.and_eq_true] at hl
    rcases (relationshipMatchesTenantBoundary_iff.1 hl.1).1 with h | h
    · rw [htag] at h
      cases h
    · rw [htag] at h
      exact hne h
  · rw [hsub] at hf
    exact hf.2.not_inTenant (hg.inTenant hsrc)
  · exact hf.2.not_inTenant htarget

/-- From a node of the tenant on, the live tuples are the same, in the same
order. -/
theorem live_edges_of_grown (ho : OverGraph H i sp nodeOf)
    (ho' : OverGraph H (i.over grown) sp' nodeOf) (hs : SameSearch H i grown sp sp')
    (hg : GrownBy i.store grown i.rootTenantId)
    (hres : ∃ node, visibleNodeAt H i.store i.resourceId i.asOf = some node) {s : S}
    (hsrc : InTenant H i.store i.asOf i.rootTenantId (nodeOf s)) :
    sp.live.edges s = sp'.live.edges s := by
  simp only [Space.live, ho.edges, ho'.edges, TraversalInput.relationshipsFrom,
    activeRelationshipsForSubject, List.filter_filter, TraversalInput.over]
  rw [← hg.listed, List.filter_filter]
  refine List.filter_congr fun r hr => ?_
  rw [live_iff_of_grown ho ho' hs hg hres]
  cases hl : sp.liveAt s r with
  | false => rfl
  | true =>
    rw [old_of_live ho' hg hres hsrc hr
      ((live_iff_of_grown ho ho' hs hg hres s r).trans hl), Bool.and_true]

/-- **Noninterference, for one search.** The live part of the grown graph that
the root reaches is the live part of the old one. -/
theorem alike_of_grown (ho : OverGraph H i sp nodeOf)
    (ho' : OverGraph H (i.over grown) sp' nodeOf) (hs : SameSearch H i grown sp sp')
    (hg : GrownBy i.store grown i.rootTenantId)
    (hres : ∃ node, visibleNodeAt H i.store i.resourceId i.asOf = some node) (root : S)
    (hroot : InTenant H i.store i.asOf i.rootTenantId (nodeOf root)) :
    Space.Alike sp.live sp'.live root := by
  have hin : ∀ s, Space.Reached sp.live root s →
      InTenant H i.store i.asOf i.rootTenantId (nodeOf s) := by
    rintro s ⟨trail, hw⟩
    cases hw with
    | root => exact hroot
    | @snoc trail s t r _ hr _ hn =>
      rw [(ho.next _ r _ hn).2.2]
      exact inTenant_of_live ho hres (List.mem_filter.1 hr).2
  refine ⟨?_, fun _ _ _ _ => rfl, ?_, ?_, hs.covered, hs.mark⟩
  · exact fun s h => live_edges_of_grown ho ho' hs hg hres (hin s h)
  · intro s _ r _
    exact (congrFun (congrFun hs.goal s) r).symm
  · intro s _ r hr
    obtain ⟨node, hn, -⟩ := inTenant_of_live ho hres (List.mem_filter.1 hr).2
    exact (hs.next_eq hg (known_of_visible hn) s).symm

theorem allowSpace_same : SameSearch H i grown (allowSpace H i) (allowSpace H (i.over grown)) where
  goal := rfl
  next s r h := by
    simp only [allowSpace, h]
    rfl
  covered := rfl
  mark := rfl

theorem denySpace_same : SameSearch H i grown (denySpace H i) (denySpace H (i.over grown)) where
  goal := rfl
  next s r h := by
    simp only [denySpace, h]
    rfl
  covered := rfl
  mark := rfl

end

section
variable {H : Host} {options : DecisionEngineOptions} {st : InMemoryRebacStore}
  {request : DecisionRequest} {evaluatedAt : IsoDateTime}
  {versionPins : DecisionRuntimeVersionPins} {tenant : Option String}

/-- The request joins a subject and a resource of the tenant. -/
structure RequestInTenant (st : InMemoryRebacStore) (tenant : Option String)
    (request : DecisionRequest) : Prop where
  subject : ∃ s, st.getSubject request.subjectId = some s ∧
    tenantIdFor (some (.subject s)) = tenant
  resource : ∃ r, st.getResource request.resourceId = some r ∧
    tenantIdFor (some (.resource r)) = tenant

theorem RequestInTenant.knownSubject (h : RequestInTenant st tenant request) :
    KnownNode st request.subjectId := by
  obtain ⟨s, hs, -⟩ := h.subject
  exact .inl (by rw [hs]; rfl)

theorem RequestInTenant.knownResource (h : RequestInTenant st tenant request) :
    KnownNode st request.resourceId := by
  obtain ⟨r, hr, -⟩ := h.resource
  exact .inr (by rw [hr]; rfl)

/-- The tenant of an admitted request is the tenant of its nodes. -/
theorem RequestInTenant.root (h : RequestInTenant st tenant request) {asOf : IsoDateTime}
    {a : Admission} (ha : Admissible H st request evaluatedAt asOf a) :
    a.rootTenantId = tenant := by
  obtain ⟨s, hs, ht⟩ := h.subject
  have hs' := ha.subject
  rw [visibleSubjectAt, hs, Option.filter_eq_some_iff] at hs'
  obtain ⟨rfl, -⟩ : s = a.subject ∧ True := ⟨Option.some.inj hs'.1, trivial⟩
  exact ht

theorem admitRequest_of_grown {grown : InMemoryRebacStore} (hg : GrownBy st grown tenant)
    (hreq : RequestInTenant st tenant request) :
    admitRequest H st request evaluatedAt versionPins =
      admitRequest H grown request evaluatedAt versionPins := by
  simp only [admitRequest, admitResource, hg.visibleSubject hreq.knownSubject,
    hg.visibleResource hreq.knownResource]

/-- **Noninterference.** Nodes and tuples of other tenants, written under
fresh ids, do not change the decision of a request inside a tenant, when no
bound is exceeded without them or with them. -/
theorem decision_of_grown {grown : InMemoryRebacStore} (hg : GrownBy st grown tenant)
    (hreq : RequestInTenant st tenant request)
    (hb : (buildDecisionContext H (.new H options) st request evaluatedAt
      versionPins).traversal.boundsExceeded = none)
    (hb' : (buildDecisionContext H (.new H options) grown request evaluatedAt
      versionPins).traversal.boundsExceeded = none) :
    (buildDecisionContext H (.new H options) st request evaluatedAt versionPins).decision =
      (buildDecisionContext H (.new H options) grown request evaluatedAt
        versionPins).decision := by
  refine decision_congr (admitRequest_of_grown hg hreq) (fun a ha => ?_) hb hb'
  have hadm := admitRequest_eq_ok.1 ha
  have hin := hadm.inTenant
  have hres := visibleNodeAt_of_resource hadm.resource
  have hga : GrownBy st grown a.rootTenantId := (hreq.root hadm).symm ▸ hg
  refine ⟨?_, ?_, fun path => caveats_allows_congr fun r _ => ?_⟩
  · exact alike_of_grown (i := traversalInput (.new H options) st request versionPins a)
      (denySpace_overGraph H _) (denySpace_overGraph H _) denySpace_same hga hres
      request.subjectId hin
  · exact alike_of_grown (i := traversalInput (.new H options) st request versionPins a)
      (allowSpace_overGraph H _) (allowSpace_overGraph H _) allowSpace_same hga hres
      ⟨request.subjectId, false⟩ hin
  · exact (stepPasses_over ⟨st, _, request, evaluatedAt⟩ grown
      (hg.subject _ hreq.knownSubject) (hg.resource _ hreq.knownResource) r).symm

/-- **Tenant isolation.** Everything on the path of an allow is in the tenant
of the requesting subject, or all of it is untenanted; and writing nodes of
other tenants, and tuples that are tagged with, start in or end in another
tenant, under fresh ids, never changes the decision of a request between two
nodes of a tenant while no bound is exceeded. -/
theorem tenant_isolation (H : Host) (options : DecisionEngineOptions) (st : InMemoryRebacStore)
    (request : DecisionRequest) (evaluatedAt : IsoDateTime)
    (versionPins : DecisionRuntimeVersionPins) :
    ((buildDecisionContext H (.new H options) st request evaluatedAt versionPins).decision =
        .allow →
      ∃ a, Admissible H st request evaluatedAt versionPins.asOf a ∧
        tenantIdFor (some (.resource a.resource)) = a.rootTenantId ∧
        ∀ r ∈ (buildDecisionContext H (.new H options) st request evaluatedAt
          versionPins).path.relationships,
          TupleInTenant H st versionPins.asOf a.rootTenantId r) ∧
    (∀ (tenant : Option String) (ws : List GraphWrite), RequestInTenant st tenant request →
      (∀ w ∈ ws, ForeignWrite st (st.writeAll ws) tenant w) →
      (buildDecisionContext H (.new H options) st request evaluatedAt
        versionPins).traversal.boundsExceeded = none →
      (buildDecisionContext H (.new H options) (st.writeAll ws) request evaluatedAt
        versionPins).traversal.boundsExceeded = none →
      (buildDecisionContext H (.new H options) st request evaluatedAt versionPins).decision =
        (buildDecisionContext H (.new H options) (st.writeAll ws) request evaluatedAt
          versionPins).decision) :=
  ⟨allow_path_in_tenant, fun _ _ hreq hw hb hb' =>
    decision_of_grown (grownBy_writeAll hw) hreq hb hb'⟩

/-- A group of another tenant that holds the case plan, and Alice as its
member. -/
def foreignWrites : List GraphWrite :=
  [.upsertSubject { fixtureSubject "group:other" .group "Other Team" .active with
      attributes := some [("tenantId", .str "tenant:other")] },
   .upsertRelationship (fixtureRelationship "relationship:alice-other" "user:alice" "member_of"
      "group:other"),
   .upsertRelationship (fixtureRelationship "relationship:other-plan" "group:other" "denied"
      "document:case-plan")]

theorem foreignWrites_foreign : ∀ w ∈ foreignWrites,
    ForeignWrite localStore (localStore.writeAll foreignWrites) none w := by
  have hgroup : ForeignNode (localStore.writeAll foreignWrites) none "group:other" := by
    refine ⟨.inl (by decide +kernel), fun s hs => ?_, fun r hr => ?_⟩
    · cases hs
      exact (by decide +kernel)
    · cases hr
  intro w hw
  simp only [foreignWrites, List.mem_cons, List.not_mem_nil, or_false] at hw
  rcases hw with rfl | rfl | rfl
  · exact ⟨by unfold KnownNode; decide +kernel, by decide +kernel⟩
  · exact ⟨by decide +kernel, .inr (.inr hgroup)⟩
  · exact ⟨by decide +kernel, .inr (.inl hgroup)⟩

/-- Neither the membership nor the explicit deny of the foreign group reaches
Alice's request. -/
theorem writePlan_isolated :
    (buildDecisionContext plainHost (.new plainHost {}) (localStore.writeAll foreignWrites)
      writePlan timestamp writePlanPins).decision = .allow ∧
    ∃ a, Admissible plainHost localStore writePlan timestamp timestamp a := by
  have h := tenant_isolation plainHost {} localStore writePlan timestamp writePlanPins
  obtain ⟨a, ha, -⟩ := h.1 (by decide +kernel)
  refine ⟨(h.2 none foreignWrites ⟨⟨alice, rfl, rfl⟩, ⟨casePlan, rfl, rfl⟩⟩ foreignWrites_foreign
    (by decide +kernel) (by decide +kernel)).symm.trans (by decide +kernel), a, ha⟩

end

end AccessKit.L4
