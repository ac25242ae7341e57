import AccessKit.L2Graph.Store

/-!
# Sequences of writes to the graph

The four ways a caller changes the graph of a store
(packages/core/src/store.ts:164-231) as data, and what a sequence of them
leaves alone: a node no write is about, and the order of the tuples of a
subject, when only tuples with other ids are written.

Results:
* `writeAll_induction`: the rule for what every write of a sequence keeps.
* `getSubject_writeAll`, `getResource_writeAll`: reading a node that no write of the
  sequence is about.
* `filter_writeAll`: the tuples that no write is about stay in order.
* `sameGraph_export`: exporting and importing a store keeps its graph.
-/
namespace AccessKit.L2.Store
open AccessKit.Core AccessKit.L1

/-- One call of a writing method of the store. -/
inductive GraphWrite
  | upsertSubject (s : Subject)
  | upsertResource (r : Resource)
  | upsertRelationship (r : RelationshipTuple)
  | deleteRelationship (id : CanonicalId) (deletedAt : IsoDateTime)

namespace GraphWrite

/-- The write is about a subject or a resource with this id. -/
def AboutNode (id : CanonicalId) : GraphWrite → Prop
  | upsertSubject s => s.id = id
  | upsertResource r => r.id = id
  | upsertRelationship _ => False
  | deleteRelationship _ _ => False

/-- The write is about the tuple with this id. -/
def AboutTuple (id : CanonicalId) : GraphWrite → Prop
  | upsertSubject _ => False
  | upsertResource _ => False
  | upsertRelationship r => r.id = id
  | deleteRelationship a _ => a = id

end GraphWrite

namespace InMemoryRebacStore

def write (st : InMemoryRebacStore) : GraphWrite → InMemoryRebacStore
  | .upsertSubject s => st.upsertSubject s
  | .upsertResource r => st.upsertResource r
  | .upsertRelationship r => st.upsertRelationship r
  | .deleteRelationship id deletedAt => st.deleteRelationship id deletedAt

def writeAll (st : InMemoryRebacStore) (ws : List GraphWrite) : InMemoryRebacStore :=
  ws.foldl write st

/-- What every write of a sequence keeps, the sequence keeps. -/
theorem writeAll_induction {P : InMemoryRebacStore → Prop} {ws : List GraphWrite}
    (hstep : ∀ st, ∀ w ∈ ws, P st → P (st.write w)) {st : InMemoryRebacStore} (h : P st) :
    P (st.writeAll ws) := by
  induction ws generalizing st with
  | nil => exact h
  | cons w ws ih =>
    exact ih (fun st' w' hw => hstep st' w' (List.mem_cons_of_mem _ hw))
      (hstep st w List.mem_cons_self h)

theorem getSubject_write {st : InMemoryRebacStore} {w : GraphWrite} {id : CanonicalId}
    (h : ¬ w.AboutNode id) : (st.write w).getSubject id = st.getSubject id := by
  cases w with
  | upsertSubject s => exact (getSubject_upsertSubject st s id).trans (if_neg h)
  | upsertResource r => rfl
  | upsertRelationship r => rfl
  | deleteRelationship a d => exact getSubject_delete st a d id

theorem getResource_write {st : InMemoryRebacStore} {w : GraphWrite} {id : CanonicalId}
    (h : ¬ w.AboutNode id) : (st.write w).getResource id = st.getResource id := by
  cases w with
  | upsertSubject s => rfl
  | upsertResource r => exact (getResource_upsertResource st r id).trans (if_neg h)
  | upsertRelationship r => rfl
  | deleteRelationship a d => exact getResource_delete st a d id

theorem getSubject_writeAll {st : InMemoryRebacStore} {ws : List GraphWrite} {id : CanonicalId}
    (h : ∀ w ∈ ws, ¬ w.AboutNode id) : (st.writeAll ws).getSubject id = st.getSubject id :=
  writeAll_induction (P := fun st' => st'.getSubject id = st.getSubject id)
    (fun _ w hw hst => (getSubject_write (h w hw)).trans hst) rfl

theorem getResource_writeAll {st : InMemoryRebacStore} {ws : List GraphWrite} {id : CanonicalId}
    (h : ∀ w ∈ ws, ¬ w.AboutNode id) : (st.writeAll ws).getResource id = st.getResource id :=
  writeAll_induction (P := fun st' => st'.getResource id = st.getResource id)
    (fun _ w hw hst => (getResource_write (h w hw)).trans hst) rfl

/-! ## The order of the other tuples -/

theorem filter_eraseP {α : Type*} {p q : α → Bool} (h : ∀ a, q a = true → p a = false)
    (l : List α) : (l.eraseP q).filter p = l.filter p := by
  induction l with
  | nil => rfl
  | cons a l ih =>
    cases hq : q a with
    | true => rw [List.eraseP_cons_of_pos hq, List.filter_cons_of_neg (by simp [h a hq])]
    | false =>
      rw [List.eraseP_cons_of_neg (by simp [hq])]
      simp only [List.filter_cons, ih]

theorem filter_upsert (st : InMemoryRebacStore) (r : RelationshipTuple)
    {p : RelationshipTuple → Bool} (hp : ∀ e, e.id = r.id → p e = false) (s : CanonicalId) :
    ((st.upsertRelationship r).listRelationshipsForSubject s).filter p =
      (st.listRelationshipsForSubject s).filter p := by
  have htail : (if r.subjectId = s then [r] else []).filter p = [] := by
    split
    · simp [hp r rfl]
    · rfl
  simp only [listRelationshipsForSubject, upsertRelationship]
  cases ho : st.relationships.get? r.id with
  | none => rw [reindex, listFor_add, List.filter_append, htail, List.append_nil]
  | some e =>
    have he : e.id = r.id := st.relationship_id _ _ ho
    rw [reindex, listFor_add, List.filter_append, htail, List.append_nil, listFor_remove]
    split
    · refine filter_eraseP (fun a ha => hp a ?_) _
      rw [decide_eq_true_eq] at ha
      exact ha.trans he
    · rfl

theorem filter_write {st : InMemoryRebacStore} {w : GraphWrite} {p : RelationshipTuple → Bool}
    (hp : ∀ e, w.AboutTuple e.id → p e = false) (s : CanonicalId) :
    ((st.write w).listRelationshipsForSubject s).filter p =
      (st.listRelationshipsForSubject s).filter p := by
  cases w with
  | upsertSubject a => rfl
  | upsertResource a => rfl
  | upsertRelationship r => exact filter_upsert st r (fun e he => hp e he.symm) s
  | deleteRelationship id d =>
    simp only [write, deleteRelationship]
    split
    · rfl
    · rename_i r hr
      have hid : r.id = id := st.relationship_id _ _ hr
      exact filter_upsert st (markDeleted r d) (fun e he => hp e (hid.symm.trans he.symm)) s

theorem filter_writeAll {st : InMemoryRebacStore} {ws : List GraphWrite}
    {p : RelationshipTuple → Bool} (hp : ∀ w ∈ ws, ∀ e, w.AboutTuple e.id → p e = false)
    (s : CanonicalId) : ((st.writeAll ws).listRelationshipsForSubject s).filter p =
      (st.listRelationshipsForSubject s).filter p :=
  writeAll_induction (P := fun st' => (st'.listRelationshipsForSubject s).filter p =
    (st.listRelationshipsForSubject s).filter p)
    (fun _ w hw hst => (filter_write (hp w hw) s).trans hst) rfl

/-! ## The same graph -/

/-- Two stores hold the same nodes and the same tuples, listed in whatever
order. -/
structure SameGraph (st st' : InMemoryRebacStore) : Prop where
  subject : st.getSubject = st'.getSubject
  resource : st.getResource = st'.getResource
  tuple : st.getRelationship = st'.getRelationship

theorem SameGraph.symm {st st' : InMemoryRebacStore} (h : SameGraph st st') : SameGraph st' st :=
  ⟨h.subject.symm, h.resource.symm, h.tuple.symm⟩

/-- Writing tuples one after the other. -/
def upsertAll (st : InMemoryRebacStore) (tuples : List RelationshipTuple) : InMemoryRebacStore :=
  tuples.foldl upsertRelationship st

section
variable (st : InMemoryRebacStore)

theorem subjects_foldl (l : List Subject) :
    (l.foldl upsertSubject st).subjects = l.foldl (fun m s => m.set s.id s) st.subjects ∧
    (l.foldl upsertSubject st).resources = st.resources ∧
    (l.foldl upsertSubject st).relationships = st.relationships := by
  induction l generalizing st with
  | nil => exact ⟨rfl, rfl, rfl⟩
  | cons s l ih => exact ih (st.upsertSubject s)

theorem resources_foldl (l : List Resource) :
    (l.foldl upsertResource st).resources = l.foldl (fun m r => m.set r.id r) st.resources ∧
    (l.foldl upsertResource st).subjects = st.subjects ∧
    (l.foldl upsertResource st).relationships = st.relationships := by
  induction l generalizing st with
  | nil => exact ⟨rfl, rfl, rfl⟩
  | cons r l ih => exact ih (st.upsertResource r)

theorem relationships_foldl (l : List RelationshipTuple) :
    (l.foldl upsertRelationship st).relationships =
      l.foldl (fun m r => m.set r.id r) st.relationships ∧
    (l.foldl upsertRelationship st).subjects = st.subjects ∧
    (l.foldl upsertRelationship st).resources = st.resources := by
  induction l generalizing st with
  | nil => exact ⟨rfl, rfl, rfl⟩
  | cons r l ih => exact ih (st.upsertRelationship r)

theorem nativeGrants_foldl (l : List NativeGrant) :
    (l.foldl upsertNativeGrant st).relationships = st.relationships ∧
    (l.foldl upsertNativeGrant st).subjects = st.subjects ∧
    (l.foldl upsertNativeGrant st).resources = st.resources := by
  induction l generalizing st with
  | nil => exact ⟨rfl, rfl, rfl⟩
  | cons g l ih => exact ih (st.upsertNativeGrant g)

/-- **A round trip.** Importing what was exported gives the same graph. -/
theorem sameGraph_export : SameGraph (ofSeed st.exportSeedData) st := by
  obtain ⟨hs, hsr, hst⟩ := subjects_foldl empty st.listSubjects
  obtain ⟨hr, hrs, hrt⟩ :=
    resources_foldl (st.listSubjects.foldl upsertSubject empty) st.listResources
  obtain ⟨ht, hts, htr⟩ := relationships_foldl
    (st.listResources.foldl upsertResource (st.listSubjects.foldl upsertSubject empty))
    st.listRelationships
  obtain ⟨hgt, hgs, hgr⟩ := nativeGrants_foldl (st.listRelationships.foldl upsertRelationship
    (st.listResources.foldl upsertResource (st.listSubjects.foldl upsertSubject empty)))
    st.listNativeGrants
  have hsub : (ofSeed st.exportSeedData).subjects = st.subjects :=
    (hgs.trans (hts.trans (hrs.trans hs))).trans
      (OrderedMap.ofList_values st.subjects (·.id) st.subject_id)
  have hres : (ofSeed st.exportSeedData).resources = st.resources := by
    refine (hgr.trans (htr.trans hr)).trans ?_
    rw [hsr]
    exact OrderedMap.ofList_values st.resources (·.id) st.resource_id
  have hrel : (ofSeed st.exportSeedData).relationships = st.relationships := by
    refine (hgt.trans ht).trans ?_
    rw [hrt, hst]
    exact OrderedMap.ofList_values st.relationships (·.id) st.relationship_id
  refine ⟨?_, ?_, ?_⟩ <;> funext id
  · exact congrArg (·.get? id) hsub
  · exact congrArg (·.get? id) hres
  · exact congrArg (·.get? id) hrel

end

end InMemoryRebacStore

end AccessKit.L2.Store
