import AccessKit.L2Graph.Store
import AccessKit.L1Domain.Js

/-!
# What is there at an instant

packages/core/src/engine.ts:634-664, 832-848, 885-979: which tuples are active
at `asOf`, which nodes are visible and active, and which tuples pass the
tenant test of a decision. A node id is looked up among the subjects first
and among the resources next.

Results:
* `relationshipMatchesTenantBoundary_iff`: the two cases of the tenant test
  (with and without a root tenant) say the same thing.
* `activeNode_visible`: an active node is visible.
-/
namespace AccessKit.L4
open AccessKit.Core AccessKit.L1 AccessKit.L2.Store

/-- `Subject | Resource` -/
inductive GraphNode
  | subject (s : Subject)
  | resource (r : Resource)

namespace GraphNode

def createdAt : GraphNode → IsoDateTime
  | .subject s => s.createdAt
  | .resource r => r.createdAt

def updatedAt : GraphNode → Option IsoDateTime
  | .subject s => s.updatedAt
  | .resource r => r.updatedAt

def lifecycleState : GraphNode → LifecycleState
  | .subject s => s.lifecycleState
  | .resource r => r.lifecycleState

def attributes : GraphNode → Option JsonRecord
  | .subject s => s.attributes
  | .resource r => r.attributes

end GraphNode

/-- `Subject["lifecycleState"] | "unknown"` -/
inductive EffectiveLifecycleState
  | known (state : LifecycleState)
  | unknown
  deriving DecidableEq, Repr

/-- The attribute if it is a nonempty string.
mirrors packages/core/src/engine.ts:967-971 -/
def stringAttribute (attributes : Option JsonRecord) (key : String) : Option String :=
  match JsonRecord.get (attributes.getD []) key with
  | .str s => if s = "" then none else some s
  | _ => none

/-- mirrors packages/core/src/engine.ts:963-965 -/
def tenantIdFor (node : Option GraphNode) : Option String :=
  stringAttribute (node.bind GraphNode.attributes) "tenantId"

section
variable (H : Host)

/-- mirrors packages/core/src/engine.ts:943-951 -/
def isVisibleAt (createdAt : IsoDateTime) (updatedAt : Option IsoDateTime) (deleted : Bool)
    (asOf : IsoDateTime) : Bool :=
  let asOfMs := dateParse H asOf
  if gtMs (dateParse H createdAt) asOfMs then false
  else
    match truthy updatedAt with
    | some u => !(deleted && leMs (dateParse H u) asOfMs)
    | none => true

/-- mirrors packages/core/src/engine.ts:634-664 -/
def isActiveRelationshipAt (r : RelationshipTuple) (asOf : IsoDateTime)
    (pinnedTupleVersion : Option String) : Bool :=
  if (match truthy pinnedTupleVersion with | some v => r.version != v | none => false) then false
  else if isVisibleAt H r.createdAt r.updatedAt (r.status = .deleted) asOf = false then false
  else
    let asOfMs := dateParse H asOf
    if gtMs (dateParse H r.assertedAt) asOfMs then false
    else
      match r.status with
      | .deleted =>
        let deletedAfterAsOf := match truthy r.updatedAt with
          | some u => gtMs (dateParse H u) asOfMs
          | none => false
        let expiresAfterAsOf := match truthy r.expiresAt with
          | some e => gtMs (dateParse H e) asOfMs
          | none => true
        deletedAfterAsOf && expiresAfterAsOf
      | .expired =>
        match truthy r.expiresAt with
        | some e => gtMs (dateParse H e) asOfMs
        | none => false
      | .active =>
        match truthy r.expiresAt with
        | some e => gtMs (dateParse H e) asOfMs
        | none => true

/-- mirrors packages/core/src/engine.ts:933-936 -/
def visibleSubjectAt (st : InMemoryRebacStore) (id : CanonicalId) (asOf : IsoDateTime) :
    Option Subject :=
  (st.getSubject id).filter fun s => isVisibleAt H s.createdAt s.updatedAt false asOf

/-- mirrors packages/core/src/engine.ts:938-941 -/
def visibleResourceAt (st : InMemoryRebacStore) (id : CanonicalId) (asOf : IsoDateTime) :
    Option Resource :=
  (st.getResource id).filter fun r => isVisibleAt H r.createdAt r.updatedAt false asOf

/-- `visibleSubjectAt(…) ?? visibleResourceAt(…)` -/
def visibleNodeAt (st : InMemoryRebacStore) (id : CanonicalId) (asOf : IsoDateTime) :
    Option GraphNode :=
  match visibleSubjectAt H st id asOf with
  | some s => some (.subject s)
  | none => (visibleResourceAt H st id asOf).map .resource

/-- mirrors packages/core/src/engine.ts:955-961 -/
def effectiveLifecycleStateAt (node : GraphNode) (asOf : IsoDateTime) :
    EffectiveLifecycleState :=
  match truthy node.updatedAt with
  | some u =>
    if gtMs (dateParse H u) (dateParse H asOf) then .unknown else .known node.lifecycleState
  | none => .known node.lifecycleState

/-- mirrors packages/core/src/engine.ts:885-897 -/
def isActiveGraphNodeAt (st : InMemoryRebacStore) (id : CanonicalId) (asOf : IsoDateTime) : Bool :=
  match visibleSubjectAt H st id asOf with
  | some s => effectiveLifecycleStateAt H (.subject s) asOf = .known .active
  | none =>
    match visibleResourceAt H st id asOf with
    | some r => effectiveLifecycleStateAt H (.resource r) asOf = .known .active
    | none => false

/-- mirrors packages/core/src/engine.ts:899-908 -/
def tenantBoundaryDenies (subject : Subject) (resource : Resource) : Bool :=
  let subjectTenantId := tenantIdFor (some (.subject subject))
  let resourceTenantId := tenantIdFor (some (.resource resource))
  if subjectTenantId.isNone && resourceTenantId.isNone then false
  else subjectTenantId.isNone || resourceTenantId.isNone || subjectTenantId != resourceTenantId

/-- mirrors packages/core/src/engine.ts:910-931 -/
def relationshipMatchesTenantBoundary (st : InMemoryRebacStore) (r : RelationshipTuple)
    (rootTenantId : Option String) (asOf : IsoDateTime) : Bool :=
  let relationshipTenantId := stringAttribute r.attributes "tenantId"
  let objectNode := visibleNodeAt H st r.objectId asOf
  match rootTenantId with
  | none => relationshipTenantId.isNone && (tenantIdFor objectNode).isNone
  | some root =>
    if (match relationshipTenantId with | some t => t != root | none => false) then false
    else tenantIdFor objectNode == some root

/-- What an active list is computed for; the source keeps the lists it has
computed under the store's revision, so that they are always those of the
current store.
mirrors packages/core/src/engine.ts:85-90, 349-371 -/
structure ActiveRelationshipScope where
  asOf : IsoDateTime
  pinnedTupleVersion : Option String

/-- mirrors packages/core/src/engine.ts:814-829 -/
def activeRelationshipsForSubject (st : InMemoryRebacStore) (scope : ActiveRelationshipScope)
    (subjectId : CanonicalId) : List RelationshipTuple :=
  (st.listRelationshipsForSubject subjectId).filter fun r =>
    isActiveRelationshipAt H r scope.asOf scope.pinnedTupleVersion

end

section
variable {H : Host}

theorem isVisibleAt_undeleted {createdAt : IsoDateTime} {updatedAt : Option IsoDateTime}
    {asOf : IsoDateTime} : isVisibleAt H createdAt updatedAt false asOf =
      !gtMs (dateParse H createdAt) (dateParse H asOf) := by
  unfold isVisibleAt
  cases hc : gtMs (dateParse H createdAt) (dateParse H asOf) <;>
    cases hu : truthy updatedAt <;> simp [hc]

/-- A deleted tuple is active at `u` when it holds by then, is deleted later and
does not expire before. -/
theorem active_markDeleted_iff {r : RelationshipTuple}
    {last asOf : IsoDateTime} {u : Int} (hu : dateParse H asOf = some u) :
    isActiveRelationshipAt H (InMemoryRebacStore.markDeleted r last) asOf none = true ↔
      last ≠ "" ∧ gtMs (dateParse H last) (some u) = true ∧
      gtMs (dateParse H r.createdAt) (some u) = false ∧
      gtMs (dateParse H r.assertedAt) (some u) = false ∧
      ∀ e, truthy r.expiresAt = some e → gtMs (dateParse H e) (some u) = true := by
  have hle : gtMs (dateParse H last) (some u) = true → leMs (dateParse H last) (some u) = false := by
    cases dateParse H last with
    | none => simp [gtMs]
    | some v => simp [gtMs, leMs]
  unfold isActiveRelationshipAt isVisibleAt
  simp only [InMemoryRebacStore.markDeleted, hu]
  by_cases hl : last = ""
  · simp [hl, truthy]
  · cases hc : gtMs (dateParse H r.createdAt) (some u) <;>
      cases ha : gtMs (dateParse H r.assertedAt) (some u) <;>
      cases hg : gtMs (dateParse H last) (some u) <;>
      cases he : truthy r.expiresAt <;> simp_all [truthy]

/-- An active tuple is there, asserted, and has not expired. -/
theorem holds_of_active {r : RelationshipTuple} {asOf : IsoDateTime}
    (h : isActiveRelationshipAt H r asOf none = true) :
    gtMs (dateParse H r.createdAt) (dateParse H asOf) = false ∧
      gtMs (dateParse H r.assertedAt) (dateParse H asOf) = false ∧
      ∀ e, truthy r.expiresAt = some e → gtMs (dateParse H e) (dateParse H asOf) = true := by
  unfold isActiveRelationshipAt isVisibleAt at h
  cases hc : gtMs (dateParse H r.createdAt) (dateParse H asOf) with
  | true => simp [hc] at h
  | false =>
    cases ha : gtMs (dateParse H r.assertedAt) (dateParse H asOf) with
    | true => simp [ha] at h
    | false =>
      refine ⟨rfl, rfl, fun e he => ?_⟩
      cases hs : r.status <;> simp_all [truthy]

theorem tenantBoundaryDenies_eq_false {s : Subject} {r : Resource} :
    tenantBoundaryDenies s r = false ↔
      tenantIdFor (some (.subject s)) = tenantIdFor (some (.resource r)) := by
  unfold tenantBoundaryDenies
  cases tenantIdFor (some (.subject s)) <;> cases tenantIdFor (some (.resource r)) <;> simp

/-- The tuple is untagged or tagged with the root tenant, and the node it
points to has the tenant of the root (none, when the root has none). -/
theorem relationshipMatchesTenantBoundary_iff {st : InMemoryRebacStore} {r : RelationshipTuple}
    {root : Option String} {asOf : IsoDateTime} :
    relationshipMatchesTenantBoundary H st r root asOf = true ↔
      (stringAttribute r.attributes "tenantId" = none ∨
        stringAttribute r.attributes "tenantId" = root) ∧
      tenantIdFor (visibleNodeAt H st r.objectId asOf) = root := by
  unfold relationshipMatchesTenantBoundary
  cases root with
  | none => simp
  | some t => cases stringAttribute r.attributes "tenantId" <;> simp

theorem activeNode_visible {st : InMemoryRebacStore} {id : CanonicalId} {asOf : IsoDateTime}
    (h : isActiveGraphNodeAt H st id asOf = true) :
    ∃ node, visibleNodeAt H st id asOf = some node ∧
      effectiveLifecycleStateAt H node asOf = .known .active := by
  unfold isActiveGraphNodeAt at h
  unfold visibleNodeAt
  split at h
  · exact ⟨_, rfl, by simpa using h⟩
  · split at h
    · rename_i r hr
      rw [hr]
      exact ⟨_, rfl, by simpa using h⟩
    · cases h

end

end AccessKit.L4
