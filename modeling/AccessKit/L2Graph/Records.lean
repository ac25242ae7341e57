import AccessKit.Core.Replica
import AccessKit.L1Domain.Clone
import AccessKit.L2Graph.Writes

/-!
# The graph as records

The subjects, resources, relationships and native grants of a store as records of one
kind, each under its own key, so that a store, a seed and a repository of a graph can be
compared key by key. What a repository keeps is the JSON copy of a record
(packages/core/src/repositories.ts:1031-1033).

Results:
* `find_upsert`, `find_upsertRecords`, `find_replaceNativeGrants`: what a write changes.
* `find_ofSeed`, `load_export`: a store and the lists it is made of.
-/
namespace AccessKit.L1
open AccessKit.Core

/-! ## Copies -/

/-- The copy of the optional attributes of a record. -/
def cloneAttributes (attributes : Option JsonRecord) : Option JsonRecord :=
  attributes.map cloneFields

theorem cloneAttributes_cloneAttributes (attributes : Option JsonRecord) :
    cloneAttributes (cloneAttributes attributes) = cloneAttributes attributes := by
  cases attributes with
  | none => rfl
  | some fields => exact congrArg some (JsValue.obj.inj (clone_clone (.obj fields)))

def Subject.copy (s : Subject) : Subject := { s with attributes := cloneAttributes s.attributes }

def Resource.copy (r : Resource) : Resource := { r with attributes := cloneAttributes r.attributes }

def RelationshipTuple.copy (t : RelationshipTuple) : RelationshipTuple :=
  { t with attributes := cloneAttributes t.attributes }

def NativeGrant.copy (g : NativeGrant) : NativeGrant :=
  { g with attributes := cloneAttributes g.attributes }

end AccessKit.L1

namespace AccessKit.L2.Store
open AccessKit.Core AccessKit.L1

/-! ## Records -/

inductive GraphKey
  | subject (id : CanonicalId)
  | resource (id : CanonicalId)
  | relationship (id : CanonicalId)
  | nativeGrant (id : CanonicalId)
  deriving DecidableEq, Repr

inductive GraphRecord
  | subject (s : Subject)
  | resource (r : Resource)
  | relationship (t : RelationshipTuple)
  | nativeGrant (g : NativeGrant)

namespace GraphRecord

def key : GraphRecord → GraphKey
  | .subject s => .subject s.id
  | .resource r => .resource r.id
  | .relationship t => .relationship t.id
  | .nativeGrant g => .nativeGrant g.id

def copy : GraphRecord → GraphRecord
  | .subject s => .subject s.copy
  | .resource r => .resource r.copy
  | .relationship t => .relationship t.copy
  | .nativeGrant g => .nativeGrant g.copy

/-- A native grant that the connector recorded. -/
def ofConnector (sourceConnectorId : CanonicalId) : GraphRecord → Bool
  | .nativeGrant g => g.sourceConnectorId = sourceConnectorId
  | _ => false

/-- How the records of a graph are filed. -/
def filing : Filing GraphRecord GraphKey where
  key := key
  copy := copy
  key_copy r := by cases r <;> rfl
  copy_copy r := by
    cases r <;> simp [copy, Subject.copy, Resource.copy, RelationshipTuple.copy, NativeGrant.copy,
      cloneAttributes_cloneAttributes]

end GraphRecord

open GraphRecord (filing)

namespace InMemoryRebacStore

def upsert (st : InMemoryRebacStore) : GraphRecord → InMemoryRebacStore
  | .subject s => st.upsertSubject s
  | .resource r => st.upsertResource r
  | .relationship t => st.upsertRelationship t
  | .nativeGrant g => st.upsertNativeGrant g

def upsertRecords (st : InMemoryRebacStore) (records : List GraphRecord) : InMemoryRebacStore :=
  records.foldl upsert st

/-- The record under a key. -/
def find (st : InMemoryRebacStore) : GraphKey → Option GraphRecord
  | .subject id => (st.subjects.get? id).map .subject
  | .resource id => (st.resources.get? id).map .resource
  | .relationship id => (st.relationships.get? id).map .relationship
  | .nativeGrant id => (st.nativeGrants.get? id).map .nativeGrant

theorem find_key {st : InMemoryRebacStore} {k : GraphKey} {r : GraphRecord}
    (h : st.find k = some r) : r.key = k := by
  cases k with
  | subject id =>
    obtain ⟨s, hs, rfl⟩ := Option.map_eq_some_iff.1 h
    exact congrArg GraphKey.subject (st.subject_id id s hs)
  | resource id =>
    obtain ⟨s, hs, rfl⟩ := Option.map_eq_some_iff.1 h
    exact congrArg GraphKey.resource (st.resource_id id s hs)
  | relationship id =>
    obtain ⟨s, hs, rfl⟩ := Option.map_eq_some_iff.1 h
    exact congrArg GraphKey.relationship (st.relationship_id id s hs)
  | nativeGrant id =>
    obtain ⟨s, hs, rfl⟩ := Option.map_eq_some_iff.1 h
    exact congrArg GraphKey.nativeGrant (st.nativeGrant_id id s hs)

theorem find_upsert (st : InMemoryRebacStore) (r : GraphRecord) :
    (st.upsert r).find = filing.put st.find r := by
  funext k
  unfold Filing.put
  cases r with
  | subject s =>
    cases k with
    | subject id =>
      refine (OrderedMap.map_get?_set st.subjects GraphRecord.subject s s.id id).trans ?_
      simp [filing, GraphRecord.key, find]
    | _ => rfl
  | resource s =>
    cases k with
    | resource id =>
      refine (OrderedMap.map_get?_set st.resources GraphRecord.resource s s.id id).trans ?_
      simp [filing, GraphRecord.key, find]
    | _ => rfl
  | relationship s =>
    cases k with
    | relationship id =>
      refine (OrderedMap.map_get?_set st.relationships GraphRecord.relationship s s.id id).trans ?_
      simp [filing, GraphRecord.key, find]
    | _ => rfl
  | nativeGrant s =>
    cases k with
    | nativeGrant id =>
      refine (OrderedMap.map_get?_set st.nativeGrants GraphRecord.nativeGrant s s.id id).trans ?_
      simp [filing, GraphRecord.key, find]
    | _ => rfl

theorem find_upsertRecords (st : InMemoryRebacStore) (records : List GraphRecord) :
    (st.upsertRecords records).find = filing.putAll st.find records := by
  induction records generalizing st with
  | nil => rfl
  | cons r records ih =>
    rw [Filing.putAll_cons, ← find_upsert]
    exact ih (st.upsert r)

theorem deleteRelationship_eq (st : InMemoryRebacStore) (id : CanonicalId)
    (deletedAt : IsoDateTime) : st.deleteRelationship id deletedAt = st.upsertRecords
      ((st.getRelationship id).toList.map fun t => .relationship (markDeleted t deletedAt)) := by
  unfold deleteRelationship getRelationship
  cases st.relationships.get? id <;> rfl

theorem get?_foldl_delete (stale : List NativeGrant) (m : OrderedMap CanonicalId NativeGrant)
    (id : CanonicalId) : (stale.foldl (fun m g => m.delete g.id) m).get? id =
      if ∃ g ∈ stale, g.id = id then none else m.get? id := by
  induction stale generalizing m with
  | nil => simp
  | cons g stale ih =>
    rw [List.foldl_cons, ih, OrderedMap.get?_delete]
    by_cases hid : g.id = id
    · simp [hid]
    · simp [hid]

theorem get?_dropConnector {m : OrderedMap CanonicalId NativeGrant}
    (hid : ∀ a g, m.get? a = some g → g.id = a) (sourceConnectorId id : CanonicalId) :
    ((m.values.filter fun g => g.sourceConnectorId = sourceConnectorId).foldl
      (fun m g => m.delete g.id) m).get? id =
      (m.get? id).filter fun g => !decide (g.sourceConnectorId = sourceConnectorId) := by
  rw [get?_foldl_delete]
  have hmem : (∃ g ∈ m.values.filter fun g => g.sourceConnectorId = sourceConnectorId, g.id = id) ↔
      ∃ g, m.get? id = some g ∧ g.sourceConnectorId = sourceConnectorId := by
    simp only [List.mem_filter, OrderedMap.mem_values, decide_eq_true_eq]
    constructor
    · rintro ⟨g, ⟨⟨a, ha⟩, hsource⟩, rfl⟩
      have ha' := hid a g ha
      exact ⟨g, by rw [ha', ha], hsource⟩
    · rintro ⟨g, hg, hsource⟩
      exact ⟨g, ⟨⟨id, hg⟩, hsource⟩, hid id g hg⟩
  rw [if_congr hmem rfl rfl]
  cases m.get? id with
  | none => simp
  | some g =>
    by_cases hsource : g.sourceConnectorId = sourceConnectorId <;> simp [Option.filter, hsource]

/-- The grants of the connector go, and what it read comes. -/
theorem find_replaceNativeGrants (st : InMemoryRebacStore) (sourceConnectorId : CanonicalId)
    (grants : List NativeGrant) :
    (st.replaceNativeGrantsForConnector sourceConnectorId grants).find =
      filing.putAll (fun k => (st.find k).filter fun r => !r.ofConnector sourceConnectorId)
        (grants.map .nativeGrant) := by
  have hfold : ∀ st' : InMemoryRebacStore, (grants.foldl upsertNativeGrant st').find =
      filing.putAll st'.find (grants.map .nativeGrant) := by
    intro st'
    rw [← find_upsertRecords, upsertRecords, List.foldl_map]
    rfl
  have hnode : ∀ {V : Type} (o : Option V) (f : V → GraphRecord),
      (∀ v, (f v).ofConnector sourceConnectorId = false) →
        o.map f = (o.map f).filter fun r => !r.ofConnector sourceConnectorId := by
    intro V o f hf
    cases o with
    | none => rfl
    | some v => simp [Option.filter, hf]
  rw [replaceNativeGrantsForConnector, hfold]
  congr 1
  funext k
  cases k with
  | subject id => exact hnode _ _ fun _ => rfl
  | resource id => exact hnode _ _ fun _ => rfl
  | relationship id => exact hnode _ _ fun _ => rfl
  | nativeGrant id =>
    refine (congrArg (Option.map GraphRecord.nativeGrant)
      (get?_dropConnector st.nativeGrant_id sourceConnectorId id)).trans ?_
    show _ = ((st.nativeGrants.get? id).map GraphRecord.nativeGrant).filter _
    rw [Option.filter_map]
    rfl

/-! ## Lists -/

end InMemoryRebacStore

namespace InMemoryRebacStore.RebacSeedData

/-- The records of a seed, in the order in which a store takes them. -/
def records (seed : RebacSeedData) : List GraphRecord :=
  seed.subjects.map .subject ++ seed.resources.map .resource ++
    seed.relationships.map .relationship ++ seed.nativeGrants.map .nativeGrant

def copy (seed : RebacSeedData) : RebacSeedData where
  subjects := seed.subjects.map Subject.copy
  resources := seed.resources.map Resource.copy
  relationships := seed.relationships.map RelationshipTuple.copy
  nativeGrants := seed.nativeGrants.map NativeGrant.copy

theorem records_copy (seed : RebacSeedData) : seed.copy.records = seed.records.map filing.copy := by
  simp only [records, copy, List.map_append, List.map_map]
  rfl

end InMemoryRebacStore.RebacSeedData

namespace InMemoryRebacStore

theorem ofSeed_eq (seed : RebacSeedData) : ofSeed seed = empty.upsertRecords seed.records := by
  unfold ofSeed upsertRecords RebacSeedData.records
  simp only [List.foldl_append, List.foldl_map]
  rfl

/-- **A store** is what the lists make it. -/
theorem find_ofSeed (seed : RebacSeedData) : (ofSeed seed).find = filing.load seed.records := by
  rw [ofSeed_eq, find_upsertRecords]
  congr 1
  funext k
  cases k <;> rfl

theorem mem_records_export {st : InMemoryRebacStore} {r : GraphRecord} :
    r ∈ st.exportSeedData.records ↔ st.find r.key = some r := by
  simp only [RebacSeedData.records, exportSeedData, List.mem_append, List.mem_map]
  cases r with
  | subject s =>
    simpa [find, listSubjects, GraphRecord.key, Option.map_eq_some_iff]
      using OrderedMap.mem_values_key st.subject_id
  | resource s =>
    simpa [find, listResources, GraphRecord.key, Option.map_eq_some_iff]
      using OrderedMap.mem_values_key st.resource_id
  | relationship s =>
    simpa [find, listRelationships, GraphRecord.key, Option.map_eq_some_iff]
      using OrderedMap.mem_values_key st.relationship_id
  | nativeGrant s =>
    simpa [find, listNativeGrants, GraphRecord.key, Option.map_eq_some_iff]
      using OrderedMap.mem_values_key st.nativeGrant_id

/-- **An export** makes the store again. -/
theorem load_export (st : InMemoryRebacStore) : filing.load st.exportSeedData.records = st.find :=
  Filing.load_eq (fun _ _ h => find_key h) fun _ => mem_records_export

end InMemoryRebacStore

end AccessKit.L2.Store
