import AccessKit.Core.OrderedMap
import AccessKit.L1Domain.Entities

/-!
# The in-memory ReBAC store

packages/core/src/store.ts:78-292: the maps of subjects, resources,
relationships and native grants, the index of relationships by subject, and
the relationship revision. The store carries what every write keeps: each
record is filed under its own id, and the index of a subject lists exactly
the stored tuples of that subject (in some order).

Results:
* `mem_listRelationshipsForSubject`: the index lists a tuple iff the store
  holds it and it starts at that subject.
* `getRelationship_upsert`, `getRelationship_delete`: what a write changes.

The job, evidence, audit and policy collections of the class are not part of
the graph and are left out here.
-/
namespace AccessKit.L2.Store
open AccessKit.Core AccessKit.L1

abbrev SubjectIndex := OrderedMap CanonicalId (List RelationshipTuple)

/-- `index.get(subjectId) ?? emptyRelationships` -/
def listFor (idx : SubjectIndex) (s : CanonicalId) : List RelationshipTuple :=
  (idx.get? s).getD []

/-- mirrors packages/core/src/store.ts:234-242 -/
def addRelationshipToSubjectIndex (idx : SubjectIndex) (r : RelationshipTuple) : SubjectIndex :=
  match idx.get? r.subjectId with
  | some l => idx.set r.subjectId (l ++ [r])
  | none => idx.set r.subjectId [r]

/-- mirrors packages/core/src/store.ts:244-258 -/
def removeRelationshipFromSubjectIndex (idx : SubjectIndex) (r : RelationshipTuple) :
    SubjectIndex :=
  match idx.get? r.subjectId with
  | none => idx
  | some l =>
    let l' := l.eraseP fun e => e.id = r.id
    if l'.isEmpty then idx.delete r.subjectId else idx.set r.subjectId l'

/-- Take the old tuple out of the index, if there is one, and enter the new. -/
def reindex (idx : SubjectIndex) (old : Option RelationshipTuple) (r : RelationshipTuple) :
    SubjectIndex :=
  match old with
  | some e => addRelationshipToSubjectIndex (removeRelationshipFromSubjectIndex idx e) r
  | none => addRelationshipToSubjectIndex idx r

theorem listFor_add (idx : SubjectIndex) (r : RelationshipTuple) (s : CanonicalId) :
    listFor (addRelationshipToSubjectIndex idx r) s =
      listFor idx s ++ if r.subjectId = s then [r] else [] := by
  unfold addRelationshipToSubjectIndex listFor
  by_cases hs : r.subjectId = s
  · subst hs
    cases h : idx.get? r.subjectId <;> simp
  · cases h : idx.get? r.subjectId <;> simp [OrderedMap.get?_set, hs]

theorem listFor_remove (idx : SubjectIndex) (r : RelationshipTuple) (s : CanonicalId) :
    listFor (removeRelationshipFromSubjectIndex idx r) s =
      if r.subjectId = s then (listFor idx s).eraseP (fun e => e.id = r.id)
      else listFor idx s := by
  unfold removeRelationshipFromSubjectIndex listFor
  by_cases hs : r.subjectId = s
  · subst hs
    cases h : idx.get? r.subjectId with
    | none => simp [h]
    | some l =>
      by_cases he : l.eraseP (fun e => decide (e.id = r.id)) = []
      · simp [he, OrderedMap.get?_delete]
      · simp [he]
  · cases h : idx.get? r.subjectId with
    | none => simp [hs]
    | some l =>
      by_cases he : l.eraseP (fun e => decide (e.id = r.id)) = []
      · simp [he, OrderedMap.get?_delete, hs]
      · simp [he, OrderedMap.get?_set, hs]

/-- Taking a listed tuple out by its id takes out that tuple, when no other
listed tuple has the id. -/
theorem perm_eraseP {l : List RelationshipTuple} {r : RelationshipTuple} (hr : r ∈ l)
    (hu : ∀ e ∈ l, e.id = r.id → e = r) :
    List.Perm (r :: l.eraseP fun e => e.id = r.id) l := by
  obtain ⟨a, l₁, l₂, -, ha, hl, he⟩ :=
    List.exists_of_eraseP (p := fun e : RelationshipTuple => decide (e.id = r.id)) hr (by simp)
  have ha : a = r := hu a (by rw [hl]; simp) (by simpa using ha)
  subst ha
  rw [he]
  conv_rhs => rw [hl]
  exact List.perm_middle.symm

structure RebacGraphSize where
  subjects : Nat
  resources : Nat
  relationships : Nat
  deriving DecidableEq, Repr

/-- mirrors packages/core/src/store.ts:82-102 -/
structure InMemoryRebacStore where
  subjects : OrderedMap CanonicalId Subject
  resources : OrderedMap CanonicalId Resource
  relationships : OrderedMap CanonicalId RelationshipTuple
  relationshipsBySubject : SubjectIndex
  nativeGrants : OrderedMap CanonicalId NativeGrant
  relationshipRevision : Nat
  subject_id : ∀ id s, subjects.get? id = some s → s.id = id
  resource_id : ∀ id r, resources.get? id = some r → r.id = id
  relationship_id : ∀ id r, relationships.get? id = some r → r.id = id
  nativeGrant_id : ∀ id g, nativeGrants.get? id = some g → g.id = id
  indexed : ∀ s, List.Perm (listFor relationshipsBySubject s)
    (relationships.values.filter fun r => r.subjectId = s)

theorem foldl_delete_keeps (stale : List NativeGrant) (m : OrderedMap CanonicalId NativeGrant)
    (h : ∀ id g, m.get? id = some g → g.id = id) :
    ∀ id g, (stale.foldl (fun m g => m.delete g.id) m).get? id = some g → g.id = id := by
  induction stale generalizing m with
  | nil => exact h
  | cons a stale ih =>
    refine ih (m.delete a.id) fun id g hg => ?_
    rw [OrderedMap.get?_delete] at hg
    split at hg
    · cases hg
    · exact h id g hg

namespace InMemoryRebacStore

def empty : InMemoryRebacStore where
  subjects := .empty
  resources := .empty
  relationships := .empty
  relationshipsBySubject := .empty
  nativeGrants := .empty
  relationshipRevision := 0
  subject_id _ _ h := by cases h
  resource_id _ _ h := by cases h
  relationship_id _ _ h := by cases h
  nativeGrant_id _ _ h := by cases h
  indexed _ := List.Perm.refl _

def graphSize (st : InMemoryRebacStore) : RebacGraphSize :=
  ⟨st.subjects.size, st.resources.size, st.relationships.size⟩

def getSubject (st : InMemoryRebacStore) (id : CanonicalId) : Option Subject := st.subjects.get? id

def getResource (st : InMemoryRebacStore) (id : CanonicalId) : Option Resource :=
  st.resources.get? id

def getRelationship (st : InMemoryRebacStore) (id : CanonicalId) : Option RelationshipTuple :=
  st.relationships.get? id

/-- mirrors packages/core/src/store.ts:190-192 -/
def listRelationshipsForSubject (st : InMemoryRebacStore) (s : CanonicalId) :
    List RelationshipTuple :=
  listFor st.relationshipsBySubject s

def listSubjects (st : InMemoryRebacStore) : List Subject := st.subjects.values

def listResources (st : InMemoryRebacStore) : List Resource := st.resources.values

def listRelationships (st : InMemoryRebacStore) : List RelationshipTuple :=
  st.relationships.values

def listNativeGrants (st : InMemoryRebacStore) : List NativeGrant := st.nativeGrants.values

theorem mem_listRelationshipsForSubject {st : InMemoryRebacStore} {s : CanonicalId}
    {r : RelationshipTuple} : r ∈ st.listRelationshipsForSubject s ↔
      st.getRelationship r.id = some r ∧ r.subjectId = s := by
  rw [listRelationshipsForSubject, (st.indexed s).mem_iff, List.mem_filter,
    OrderedMap.mem_values]
  simp only [decide_eq_true_eq, getRelationship]
  constructor
  · rintro ⟨⟨k, hk⟩, hs⟩
    have := st.relationship_id k r hk
    subst this
    exact ⟨hk, hs⟩
  · rintro ⟨h, hs⟩
    exact ⟨⟨_, h⟩, hs⟩

theorem listRelationshipsForSubject_nodup (st : InMemoryRebacStore) (s : CanonicalId) :
    ((st.listRelationshipsForSubject s).map (·.id)).Nodup := by
  have hkeys : st.relationships.values.map (·.id) = st.relationships.keys := by
    unfold OrderedMap.values OrderedMap.keys
    rw [List.map_map]
    refine List.map_congr_left fun p hp => ?_
    exact st.relationship_id p.1 p.2 (OrderedMap.get?_eq_some.2 hp)
  have hall : (st.relationships.values.map (·.id)).Nodup := hkeys ▸ st.relationships.nodup
  have hsub := (List.filter_sublist (l := st.relationships.values)
    (p := fun r => decide (r.subjectId = s))).map (·.id)
  exact ((st.indexed s).map (·.id)).nodup_iff.2 (hall.sublist hsub)

theorem mem_listRelationships {st : InMemoryRebacStore} {r : RelationshipTuple} :
    r ∈ st.listRelationships ↔ st.getRelationship r.id = some r := by
  rw [listRelationships, OrderedMap.mem_values]
  constructor
  · rintro ⟨k, hk⟩
    have := st.relationship_id k r hk
    subst this
    exact hk
  · exact fun h => ⟨_, h⟩

/-! ## Writes -/

theorem indexed_set (st : InMemoryRebacStore) (r : RelationshipTuple) (s : CanonicalId) :
    List.Perm (listFor (reindex st.relationshipsBySubject (st.relationships.get? r.id) r) s)
      ((st.relationships.set r.id r).values.filter fun e => e.subjectId = s) := by
  cases h : st.relationships.get? r.id with
  | none =>
    rw [reindex, listFor_add, OrderedMap.values_set_new _ _ h, List.filter_append]
    refine List.Perm.append (st.indexed s) ?_
    by_cases hs : r.subjectId = s <;> simp [hs]
  | some e =>
    have hid : e.id = r.id := st.relationship_id _ _ h
    -- the old tuple `e` leaves the lists, the new one enters them
    have hout : List.Perm
        ((if e.subjectId = s then [e] else []) ++
          listFor (removeRelationshipFromSubjectIndex st.relationshipsBySubject e) s)
        (listFor st.relationshipsBySubject s) := by
      rw [listFor_remove]
      by_cases hs : e.subjectId = s
      · subst hs
        simp only [if_true, List.singleton_append]
        refine perm_eraseP ?_ fun a ha hae => ?_
        · exact mem_listRelationshipsForSubject.2 ⟨by rw [hid]; exact h, rfl⟩
        · have ha := (mem_listRelationshipsForSubject.1 ha).1
          rw [hae, hid] at ha
          exact Option.some.inj (ha.symm.trans h)
      · simp [hs]
    have hvals := (OrderedMap.values_set_perm st.relationships r h).filter
      fun t => decide (t.subjectId = s)
    have hsplit : ∀ (a : RelationshipTuple) (l : List RelationshipTuple),
        (a :: l).filter (fun t => decide (t.subjectId = s)) =
          (if a.subjectId = s then [a] else []) ++ l.filter fun t => decide (t.subjectId = s) := by
      intro a l
      by_cases hs : a.subjectId = s <;> simp [hs]
    rw [hsplit, hsplit] at hvals
    rw [reindex, listFor_add]
    refine (List.perm_append_left_iff (if e.subjectId = s then [e] else [])).1 ?_
    rw [← List.append_assoc]
    refine ((hout.append_right _).trans ?_).trans hvals
    exact (((st.indexed s).append_right _).trans List.perm_append_comm)

/-- mirrors packages/core/src/store.ts:164-167 -/
def upsertSubject (st : InMemoryRebacStore) (s : Subject) : InMemoryRebacStore :=
  { st with
    subjects := st.subjects.set s.id s
    subject_id := fun id t h => by
      rw [OrderedMap.get?_set] at h
      split at h
      · cases h; assumption
      · exact st.subject_id id t h }

/-- mirrors packages/core/src/store.ts:177-180 -/
def upsertResource (st : InMemoryRebacStore) (r : Resource) : InMemoryRebacStore :=
  { st with
    resources := st.resources.set r.id r
    resource_id := fun id t h => by
      rw [OrderedMap.get?_set] at h
      split at h
      · cases h; assumption
      · exact st.resource_id id t h }

/-- mirrors packages/core/src/store.ts:204-213 -/
def upsertRelationship (st : InMemoryRebacStore) (r : RelationshipTuple) : InMemoryRebacStore :=
  { st with
    relationships := st.relationships.set r.id r
    relationshipsBySubject :=
      reindex st.relationshipsBySubject (st.relationships.get? r.id) r
    relationshipRevision := st.relationshipRevision + 1
    relationship_id := fun id t h => by
      rw [OrderedMap.get?_set] at h
      split at h
      · cases h; assumption
      · exact st.relationship_id id t h
    indexed := indexed_set st r }

/-- `{ ...relationship, status: "deleted", updatedAt: deletedAt }` -/
def markDeleted (r : RelationshipTuple) (deletedAt : IsoDateTime) : RelationshipTuple :=
  { r with status := .deleted, updatedAt := some deletedAt }

/-- Replaces the tuple in the map and in the index, as `upsertRelationship`
does, or leaves the store alone when there is none.
mirrors packages/core/src/store.ts:215-231 -/
def deleteRelationship (st : InMemoryRebacStore) (id : CanonicalId) (deletedAt : IsoDateTime) :
    InMemoryRebacStore :=
  match st.relationships.get? id with
  | none => st
  | some r => st.upsertRelationship (markDeleted r deletedAt)

/-- mirrors packages/core/src/store.ts:278-281 -/
def upsertNativeGrant (st : InMemoryRebacStore) (g : NativeGrant) : InMemoryRebacStore :=
  { st with
    nativeGrants := st.nativeGrants.set g.id g
    nativeGrant_id := fun id t h => by
      rw [OrderedMap.get?_set] at h
      split at h
      · cases h; assumption
      · exact st.nativeGrant_id id t h }

/-- Delete every grant the connector recorded, then enter the new ones.
mirrors packages/core/src/store.ts:283-292 -/
def replaceNativeGrantsForConnector (st : InMemoryRebacStore) (sourceConnectorId : CanonicalId)
    (grants : List NativeGrant) : InMemoryRebacStore :=
  let stale := st.nativeGrants.values.filter fun g => g.sourceConnectorId = sourceConnectorId
  let kept := stale.foldl (fun m g => m.delete g.id) st.nativeGrants
  grants.foldl upsertNativeGrant
    { st with
      nativeGrants := kept
      nativeGrant_id := foldl_delete_keeps stale st.nativeGrants st.nativeGrant_id }

/-! ## Reading after a write -/

section
variable (st : InMemoryRebacStore)

@[simp] theorem getSubject_upsertRelationship (r : RelationshipTuple) (id : CanonicalId) :
    (st.upsertRelationship r).getSubject id = st.getSubject id := rfl

@[simp] theorem getResource_upsertRelationship (r : RelationshipTuple) (id : CanonicalId) :
    (st.upsertRelationship r).getResource id = st.getResource id := rfl

theorem getRelationship_upsert (r : RelationshipTuple) (id : CanonicalId) :
    (st.upsertRelationship r).getRelationship id =
      if r.id = id then some r else st.getRelationship id :=
  OrderedMap.get?_set _ _ _ _

theorem getRelationship_delete (id : CanonicalId) (deletedAt : IsoDateTime) (a : CanonicalId) :
    (st.deleteRelationship id deletedAt).getRelationship a =
      if id = a then (st.getRelationship a).map fun r => markDeleted r deletedAt
      else st.getRelationship a := by
  unfold deleteRelationship
  cases h : st.relationships.get? id with
  | none =>
    by_cases ha : id = a
    · subst ha; simp [getRelationship, h]
    · simp [ha]
  | some r =>
    have hid : (markDeleted r deletedAt).id = id := st.relationship_id id r h
    simp only [getRelationship_upsert, hid]
    by_cases ha : id = a
    · subst ha; simp [getRelationship, h]
    · simp [ha]

theorem getSubject_delete (id : CanonicalId) (deletedAt : IsoDateTime) (a : CanonicalId) :
    (st.deleteRelationship id deletedAt).getSubject a = st.getSubject a := by
  unfold deleteRelationship; split <;> rfl

theorem getResource_delete (id : CanonicalId) (deletedAt : IsoDateTime) (a : CanonicalId) :
    (st.deleteRelationship id deletedAt).getResource a = st.getResource a := by
  unfold deleteRelationship; split <;> rfl

theorem getSubject_upsertSubject (s : Subject) (id : CanonicalId) :
    (st.upsertSubject s).getSubject id = if s.id = id then some s else st.getSubject id :=
  OrderedMap.get?_set _ _ _ _

theorem getResource_upsertResource (r : Resource) (id : CanonicalId) :
    (st.upsertResource r).getResource id = if r.id = id then some r else st.getResource id :=
  OrderedMap.get?_set _ _ _ _

end

/-! ## Seeds -/

/-- The graph part of the seed.
mirrors packages/core/src/store.ts:48-67 -/
structure RebacSeedData where
  subjects : List Subject := []
  resources : List Resource := []
  relationships : List RelationshipTuple := []
  nativeGrants : List NativeGrant := []

/-- `new InMemoryRebacStore(seed)`
mirrors packages/core/src/store.ts:104-108 -/
def ofSeed (seed : RebacSeedData) : InMemoryRebacStore :=
  seed.nativeGrants.foldl upsertNativeGrant
    (seed.relationships.foldl upsertRelationship
      (seed.resources.foldl upsertResource (seed.subjects.foldl upsertSubject empty)))

/-- mirrors packages/core/src/store.ts:125-130 -/
def exportSeedData (st : InMemoryRebacStore) : RebacSeedData :=
  ⟨st.listSubjects, st.listResources, st.listRelationships, st.listNativeGrants⟩

end InMemoryRebacStore

end AccessKit.L2.Store
