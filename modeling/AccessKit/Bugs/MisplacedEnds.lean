import AccessKit.L2Graph.Fixtures
import AccessKit.L7Persistence.CleanGraphs

/-!
# Tuples whose ends are looked up on one side

Status: open. Before it writes a tuple, `ReferenceGraphStoreAdapter` looks its subject up among
the subjects and its object among the resources, and refuses the tuple when either is not there
(packages/core/src/reference-repositories.ts:354-365; native grants, :367-377). But the subject
of a tuple may be a resource and its object a subject: the policy model has groups as objects
of `member_of`, and workspaces and folders as subjects of `contains`
(packages/core/src/policy-model.ts:189-190). The store of the runtime and
`LocalJsonFileGraphRepository` take such tuples, and so does the adapter when it finds them in
what it loads.

Counterexample: a group and its member (`membership_refused`).

Exact condition: the subject of each tuple, and of each native grant, is a stored subject, and
its object a stored resource (`refines_iff`).
-/
namespace AccessKit.Bugs.MisplacedEnds
open AccessKit.Core AccessKit.L1 AccessKit.L2.Fixtures AccessKit.L7
open AccessKit.L2.Store (GraphRecord GraphKey InMemoryRebacStore)
open AccessKit.L2.Store.InMemoryRebacStore (RebacSeedData markDeleted)

/-! ## Three graphs -/

/-- The store of a runtime, a file, and the store of an adapter, that get the same writes. -/
structure Graphs where
  store : InMemoryRebacStore
  file : Memory graphSnapshots.toSnapshots × Option (StoredState RebacSeedData)
  reference : ReferenceMemory referenceGraph × ExternalSnapshotStore RebacSeedData

/-- Nothing was written. -/
def newGraphs : Graphs where
  store := .empty
  file := (Memory.load _ emptyGraphSnapshot, none)
  reference := ({ memory := Memory.load _ emptyGraphSnapshot, backupMetadata := [] },
    { current := none, backups := .empty })

def writeStore (st : InMemoryRebacStore) : GraphCall → InMemoryRebacStore
  | .upsert r => st.upsert r
  | .deleteRelationship id deletedAt => st.deleteRelationship id deletedAt
  | .flush _ => st

section
variable (repository : LocalJsonFile) (adapter : ReferenceAdapter)

/-- A write to a file that can be written, at a time of the clock. -/
def writeFile (g : Graphs) (c : IsoDateTime × GraphCall) : FileOutcome graphSnapshots :=
  LocalJsonFileGraphRepository.perform repository none c.1 g.file.1 g.file.2 c.2

/-- The same write to a store that can be written. -/
def writeReference (g : Graphs) (c : IsoDateTime × GraphCall) :
    StoreOutcome referenceGraph (RepositoryAnswer GraphRecord) :=
  ReferenceGraphStoreAdapter.perform adapter ⟨none, none⟩ c.1 g.reference.1 g.reference.2
    (.call c.2)

def step (g : Graphs) (c : IsoDateTime × GraphCall) : Graphs where
  store := writeStore g.store c.2
  file := ((writeFile repository g c).1, (writeFile repository g c).2.1)
  reference := ((writeReference adapter g c).1, (writeReference adapter g c).2.1)

/-- The adapter takes what the file takes; the store of a runtime takes everything. -/
def Accepts (g : Graphs) (c : IsoDateTime × GraphCall) : Prop :=
  (∃ answer, (writeFile repository g c).2.2 = .ok answer) →
    ∃ answer, (writeReference adapter g c).2.2 = .ok answer

/-- All export copies of the same lists. -/
structure Same (g : Graphs) : Prop where
  file : graphSnapshots.copyAll g.file.1.snapshot = g.store.exportSeedData.copy
  reference : graphSnapshots.copyAll g.reference.1.memory.snapshot = g.store.exportSeedData.copy

/-- **The adapter refines** the file and the store: every write that they take it takes, and
exports the same afterwards. -/
def Refines : Graphs → List (IsoDateTime × GraphCall) → Prop
  | _, [] => True
  | g, c :: calls => Accepts repository adapter g c ∧ Same (step repository adapter g c) ∧
      Refines (step repository adapter g c) calls

/-! ### The writes -/

/-- A node that is stored: a subject or a resource. -/
def IsNode (st : InMemoryRebacStore) (id : CanonicalId) : Prop :=
  (st.getSubject id).isSome ∨ (st.getResource id).isSome

/-- A tuple connects stored nodes. -/
def Connects (st : InMemoryRebacStore) : GraphRecord → Prop
  | .relationship t => IsNode st t.subjectId ∧ IsNode st t.objectId
  | _ => True

/-- What is written is of the tenant and without secrets, and a tuple connects stored nodes. -/
def Legitimate (st : InMemoryRebacStore) : GraphCall → Prop
  | .upsert r => Clean adapter r ∧ Connects st r
  | _ => True

def AllLegitimate : InMemoryRebacStore → List (IsoDateTime × GraphCall) → Prop
  | _, [] => True
  | st, c :: calls => Legitimate adapter st c.2 ∧ AllLegitimate (writeStore st c.2) calls

end

/-- The subject is a stored subject, and the object a stored resource. -/
def EndsPlaced (st : InMemoryRebacStore) : GraphCall → Prop
  | .upsert (.relationship t) =>
    (st.getSubject t.subjectId).isSome ∧ (st.getResource t.objectId).isSome
  | .upsert (.nativeGrant g) =>
    (st.getSubject g.subjectId).isSome ∧ (st.getResource g.targetObjectId).isSome
  | _ => True

def AllEndsPlaced : InMemoryRebacStore → List (IsoDateTime × GraphCall) → Prop
  | _, [] => True
  | st, c :: calls => EndsPlaced st c.2 ∧ AllEndsPlaced (writeStore st c.2) calls

/-! ## One write -/

section
variable {repository : LocalJsonFile} {adapter : ReferenceAdapter} {g : Graphs}
  {st : InMemoryRebacStore}

theorem export_upsert (r : GraphRecord) :
    (st.upsert r).exportSeedData = upsertGraphRecord st.exportSeedData r := by
  cases r with
  | subject s =>
    exact congrArg (fun subjects => { st.exportSeedData with subjects })
      (OrderedMap.values_set_keyed st.subject_id s)
  | resource r =>
    exact congrArg (fun resources => { st.exportSeedData with resources })
      (OrderedMap.values_set_keyed st.resource_id r)
  | relationship t =>
    exact congrArg (fun relationships => { st.exportSeedData with relationships })
      (OrderedMap.values_set_keyed st.relationship_id t)
  | nativeGrant g =>
    exact congrArg (fun nativeGrants => { st.exportSeedData with nativeGrants })
      (OrderedMap.values_set_keyed st.nativeGrant_id g)

theorem copies_upsert {memory : Memory graphSnapshots.toSnapshots} (r : GraphRecord)
    (h : memory.snapshot = st.exportSeedData.copy) :
    (memory.upsert r).snapshot = (st.upsert r).exportSeedData.copy := by
  have hcopy : (upsertGraphRecord st.exportSeedData r).copy =
      upsertGraphRecord st.exportSeedData.copy r.copy := graphSnapshots.copyAll_upsert _ _
  rw [export_upsert, hcopy, ← h]
  rfl

theorem same_iff : Same g ↔ g.file.1.snapshot = g.store.exportSeedData.copy ∧
    g.reference.1.memory.snapshot = g.store.exportSeedData.copy := by
  constructor
  · rintro ⟨hfile, hreference⟩
    exact ⟨g.file.1.copied.symm.trans hfile, g.reference.1.memory.copied.symm.trans hreference⟩
  · rintro ⟨hfile, hreference⟩
    exact ⟨g.file.1.copied.trans hfile, g.reference.1.memory.copied.trans hreference⟩

theorem reference_changed (now : IsoDateTime)
    (change : ReferenceMemory referenceGraph → Except String (ReferenceMemory referenceGraph))
    (answer : StorageReceipt → RepositoryAnswer GraphRecord)
    (memory memory' : ReferenceMemory referenceGraph) (store : ExternalSnapshotStore RebacSeedData)
    (h : change memory = .ok memory') (hclean : CleanGraph adapter memory'.memory.snapshot) :
    (changeThenPersist (adapter.persist referenceGraph ⟨none, none⟩ now) change answer memory
        store).1 = memory' ∧
      ∃ a, (changeThenPersist (adapter.persist referenceGraph ⟨none, none⟩ now) change answer
        memory store).2.2 = .ok a := by
  obtain ⟨record, receipt, -, hpersist⟩ :=
    @persist_clean _ ⟨none, none⟩ memory' store now rfl hclean
  rw [changeThenPersist_made h, hpersist]
  exact ⟨rfl, _, rfl⟩

theorem endsIn_iff {graph : RebacSeedData} (h : graph = st.exportSeedData.copy)
    {subjectId objectId : CanonicalId} : EndsIn graph subjectId objectId ↔
      (st.getSubject subjectId).isSome ∧ (st.getResource objectId).isSome := by
  have hsubject : findBy (·.id) (st.listSubjects.map Subject.copy) subjectId =
      (st.getSubject subjectId).map Subject.copy :=
    (findBy_map (f := Subject.copy) (fun _ => rfl) _ _).trans
      (congrArg _ (OrderedMap.findBy_values st.subject_id subjectId))
  have hresource : findBy (·.id) (st.listResources.map Resource.copy) objectId =
      (st.getResource objectId).map Resource.copy :=
    (findBy_map (f := Resource.copy) (fun _ => rfl) _ _).trans
      (congrArg _ (OrderedMap.findBy_values st.resource_id objectId))
  unfold EndsIn
  rw [h]
  show (findBy _ (st.listSubjects.map Subject.copy) _).isSome ∧
    (findBy _ (st.listResources.map Resource.copy) _).isSome ↔ _
  rw [hsubject, hresource, Option.isSome_map, Option.isSome_map]

/-- Where the adapter looks for the ends of a record. -/
theorem endsFound_iff {graph : RebacSeedData} (h : graph = st.exportSeedData.copy)
    {r : GraphRecord} : EndsFound graph r ↔ EndsPlaced st (.upsert r) := by
  cases r with
  | subject s => exact Iff.rfl
  | resource r => exact Iff.rfl
  | relationship t => exact endsIn_iff h
  | nativeGrant g => exact endsIn_iff h

theorem find_relationship {graph : RebacSeedData} (h : graph = st.exportSeedData.copy)
    (id : CanonicalId) : findBy (·.id) graph.relationships id =
      (st.getRelationship id).map RelationshipTuple.copy := by
  rw [h]
  exact (findBy_map (f := RelationshipTuple.copy) (fun _ => rfl) _ _).trans
    (congrArg _ (OrderedMap.findBy_values st.relationship_id id))

/-- The memories after a write that both took. -/
structure Written (repository : LocalJsonFile) (adapter : ReferenceAdapter) (g : Graphs)
    (c : IsoDateTime × GraphCall) : Prop where
  accepted : ∃ answer, (writeReference adapter g c).2.2 = .ok answer
  same : Same (step repository adapter g c)
  clean : CleanGraph adapter (step repository adapter g c).reference.1.memory.snapshot

variable {now : IsoDateTime}

theorem written_record (hsame : Same g) {c : IsoDateTime × GraphCall} {r : GraphRecord}
    (hstore : writeStore g.store c.2 = g.store.upsert r)
    (hfile : (writeFile repository g c).1 = g.file.1.upsert r)
    (hreference : (writeReference adapter g c).1.memory = g.reference.1.memory.upsert r)
    (haccepted : ∃ answer, (writeReference adapter g c).2.2 = .ok answer)
    (hclean : CleanGraph adapter (g.reference.1.memory.upsert r).snapshot) :
    Written repository adapter g c := by
  rw [same_iff] at hsame
  refine ⟨haccepted, same_iff.2 ⟨?_, ?_⟩, ?_⟩
  · show (writeFile repository g c).1.snapshot = (writeStore g.store c.2).exportSeedData.copy
    rw [hfile, hstore, copies_upsert r hsame.1]
  · show (writeReference adapter g c).1.memory.snapshot =
      (writeStore g.store c.2).exportSeedData.copy
    rw [hreference, hstore]
    exact copies_upsert r hsame.2
  · show CleanGraph adapter (writeReference adapter g c).1.memory.snapshot
    rw [hreference]
    exact hclean

/-- What a write of a record checks before it changes the memory. -/
def checked (adapter : ReferenceAdapter) (r : GraphRecord)
    (memory : ReferenceMemory referenceGraph) : Except String (ReferenceMemory referenceGraph) :=
  (assertGraphRecord adapter.host adapter.tenantBoundary memory.memory.snapshot r).map fun _ =>
    { memory with memory := memory.memory.upsert r }

theorem written_upsert (hsame : Same g)
    (hclean : CleanGraph adapter g.reference.1.memory.snapshot) {r : GraphRecord}
    (hr : Clean adapter r) (hends : EndsPlaced g.store (.upsert r)) :
    Written repository adapter g (now, .upsert r) := by
  have hassert := (assertGraphRecord_iff hclean hr).2
    ((endsFound_iff (same_iff.1 hsame).2).2 hends)
  have hclean' : CleanGraph adapter (g.reference.1.memory.upsert r).snapshot :=
    hclean.upsert hr.copy
  obtain ⟨hmemory, haccepted⟩ := reference_changed now (checked adapter r)
    (fun _ => .record (some r.copy)) g.reference.1
    { g.reference.1 with memory := g.reference.1.memory.upsert r } g.reference.2
    (congrArg (Except.map _) hassert) hclean'
  exact written_record hsame rfl (Memory.load_snapshot _) (congrArg (·.memory) hmemory)
    haccepted hclean'

theorem refused_upsert (hsame : Same g)
    (hclean : CleanGraph adapter g.reference.1.memory.snapshot) {r : GraphRecord}
    (hr : Clean adapter r) (hends : ¬ EndsPlaced g.store (.upsert r)) :
    ∃ message, (writeReference adapter g (now, .upsert r)).2.2 = .error message := by
  obtain ⟨message, hassert⟩ : ∃ message, assertGraphRecord adapter.host adapter.tenantBoundary
      g.reference.1.memory.snapshot r = .error message := by
    cases hassert : assertGraphRecord adapter.host adapter.tenantBoundary
        g.reference.1.memory.snapshot r with
    | error message => exact ⟨message, rfl⟩
    | ok _ =>
      exact absurd ((endsFound_iff (same_iff.1 hsame).2).1
        ((assertGraphRecord_iff hclean hr).1 hassert)) hends
  have hrefused : checked adapter r g.reference.1 = .error message :=
    congrArg (Except.map _) hassert
  refine ⟨message, ?_⟩
  show (changeThenPersist (adapter.persist referenceGraph ⟨none, none⟩ now) (checked adapter r)
    (fun _ => RepositoryAnswer.record (some r.copy)) g.reference.1 g.reference.2).2.2 = _
  rw [changeThenPersist_refused hrefused]

theorem upsert_copy {memory : Memory graphSnapshots.toSnapshots} {r r' : GraphRecord}
    (h : r.copy = r'.copy) : memory.upsert r = memory.upsert r' :=
  Memory.ext (congrArg (upsertGraphRecord memory.snapshot) h)

theorem written_delete_none (hsame : Same g)
    (hclean : CleanGraph adapter g.reference.1.memory.snapshot) {id : CanonicalId}
    (deletedAt : IsoDateTime) (ht : g.store.getRelationship id = none) :
    Written repository adapter g (now, .deleteRelationship id deletedAt) := by
  have hfile : writeFile repository g (now, .deleteRelationship id deletedAt) =
      (g.file.1, g.file.2, .ok (.record none)) := by
    show LocalJsonFileGraphRepository.deleteRelationship .. = _
    unfold LocalJsonFileGraphRepository.deleteRelationship
    rw [find_relationship (same_iff.1 hsame).1, ht]
    rfl
  have hreference : writeReference adapter g (now, .deleteRelationship id deletedAt) =
      (g.reference.1, g.reference.2, .ok (.record none)) := by
    show ReferenceGraphStoreAdapter.deleteRelationship .. = _
    unfold ReferenceGraphStoreAdapter.deleteRelationship
    rw [find_relationship (same_iff.1 hsame).2, ht]
    rfl
  have hstore : writeStore g.store (.deleteRelationship id deletedAt) = g.store := by
    show InMemoryRebacStore.deleteRelationship .. = _
    unfold InMemoryRebacStore.deleteRelationship
    rw [show g.store.relationships.get? id = none from ht]
  have hstep : step repository adapter g (now, .deleteRelationship id deletedAt) = g := by
    unfold step
    rw [hfile, hreference, hstore]
  exact ⟨⟨_, by rw [hreference]⟩, by rw [hstep]; exact hsame, by rw [hstep]; exact hclean⟩

theorem written_delete_some (hsame : Same g)
    (hclean : CleanGraph adapter g.reference.1.memory.snapshot) {id : CanonicalId}
    (deletedAt : IsoDateTime) {t : RelationshipTuple} (ht : g.store.getRelationship id = some t) :
    Written repository adapter g (now, .deleteRelationship id deletedAt) := by
  have hcopy : GraphRecord.copy (.relationship (markDeleted t.copy deletedAt)) =
      GraphRecord.copy (.relationship (markDeleted t deletedAt)) :=
    GraphRecord.filing.copy_copy (.relationship (markDeleted t deletedAt))
  have hcleaned : Clean adapter (.relationship (markDeleted t.copy deletedAt)) := by
    have hfound := find_relationship (same_iff.1 hsame).2 id
    rw [ht] at hfound
    refine Clean.markDeleted (hclean _ ?_)
    simp [RebacSeedData.records, mem_of_findBy hfound]
  have hstore : writeStore g.store (.deleteRelationship id deletedAt) =
      g.store.upsert (.relationship (markDeleted t deletedAt)) := by
    show InMemoryRebacStore.deleteRelationship .. = _
    unfold InMemoryRebacStore.deleteRelationship
    rw [show g.store.relationships.get? id = some t from ht]
    rfl
  have hfile : (writeFile repository g (now, .deleteRelationship id deletedAt)).1 =
      g.file.1.upsert (.relationship (markDeleted t deletedAt)) := by
    show (LocalJsonFileGraphRepository.deleteRelationship ..).1 = _
    unfold LocalJsonFileGraphRepository.deleteRelationship
    rw [find_relationship (same_iff.1 hsame).1, ht, ← upsert_copy hcopy]
    exact Memory.load_snapshot _
  have hupsert : g.reference.1.memory.upsert (.relationship (markDeleted t.copy deletedAt)) =
      g.reference.1.memory.upsert (.relationship (markDeleted t deletedAt)) := upsert_copy hcopy
  have hclean' : CleanGraph adapter
      (g.reference.1.memory.upsert (.relationship (markDeleted t.copy deletedAt))).snapshot :=
    hclean.upsert hcleaned.copy
  have hreference := reference_changed now
    (fun memory => .ok { memory with
      memory := memory.memory.upsert (.relationship (markDeleted t.copy deletedAt)) })
    (fun _ => .record (some (GraphRecord.copy (.relationship (markDeleted t.copy deletedAt)))))
    g.reference.1 _ g.reference.2 rfl hclean'
  have hwrite : writeReference adapter g (now, .deleteRelationship id deletedAt) =
      changeThenPersist (adapter.persist referenceGraph ⟨none, none⟩ now)
        (fun memory => .ok { memory with
          memory := memory.memory.upsert (.relationship (markDeleted t.copy deletedAt)) })
        (fun _ => .record (some (GraphRecord.copy (.relationship (markDeleted t.copy deletedAt)))))
        g.reference.1 g.reference.2 := by
    show ReferenceGraphStoreAdapter.deleteRelationship .. = _
    unfold ReferenceGraphStoreAdapter.deleteRelationship
    rw [find_relationship (same_iff.1 hsame).2, ht]
    rfl
  rw [← hwrite] at hreference
  refine written_record hsame hstore hfile ?_ hreference.2 (hupsert ▸ hclean')
  rw [hreference.1]
  exact hupsert

theorem written_flush (hsame : Same g)
    (hclean : CleanGraph adapter g.reference.1.memory.snapshot) (storedAt : Option IsoDateTime) :
    Written repository adapter g (now, .flush storedAt) := by
  obtain ⟨hmemory, haccepted⟩ := reference_changed (storedAt.getD now) .ok .receipt g.reference.1
    g.reference.1 g.reference.2 rfl hclean
  rw [same_iff] at hsame
  refine ⟨haccepted, same_iff.2 ⟨?_, ?_⟩, ?_⟩
  · exact (congrArg (·.snapshot) (Memory.load_snapshot g.file.1)).trans hsame.1
  · exact (congrArg (·.memory.snapshot) hmemory).trans hsame.2
  · show CleanGraph adapter (writeReference adapter g (now, .flush storedAt)).1.memory.snapshot
    rw [show (writeReference adapter g (now, .flush storedAt)).1 = _ from hmemory]
    exact hclean

variable (repository) in
/-- **One write** of a legitimate run: it is taken, and the three graphs stay the same, when its
ends are where the adapter looks for them; else it is refused. -/
theorem written_iff (hsame : Same g) (hclean : CleanGraph adapter g.reference.1.memory.snapshot)
    {c : IsoDateTime × GraphCall} (hc : Legitimate adapter g.store c.2) :
    (EndsPlaced g.store c.2 → Written repository adapter g c) ∧
      (¬ EndsPlaced g.store c.2 →
        ∃ message, (writeReference adapter g c).2.2 = .error message) := by
  obtain ⟨now, c⟩ := c
  cases c with
  | upsert r =>
    exact ⟨written_upsert hsame hclean hc.1, refused_upsert hsame hclean hc.1⟩
  | deleteRelationship id deletedAt =>
    refine ⟨fun _ => ?_, fun h => absurd trivial h⟩
    cases ht : g.store.getRelationship id with
    | none => exact written_delete_none hsame hclean deletedAt ht
    | some t => exact written_delete_some hsame hclean deletedAt ht
  | flush storedAt =>
    exact ⟨fun _ => written_flush hsame hclean storedAt, fun h => absurd trivial h⟩

theorem file_accepts (c : IsoDateTime × GraphCall) :
    ∃ answer, (writeFile repository g c).2.2 = .ok answer := by
  obtain ⟨now, c⟩ := c
  cases c with
  | upsert r => exact ⟨_, rfl⟩
  | flush storedAt => exact ⟨_, rfl⟩
  | deleteRelationship id deletedAt =>
    show ∃ answer, (LocalJsonFileGraphRepository.deleteRelationship ..).2.2 = .ok answer
    unfold LocalJsonFileGraphRepository.deleteRelationship
    split
    · exact ⟨_, rfl⟩
    · exact ⟨_, rfl⟩

theorem refines_iff_from (hsame : Same g)
    (hclean : CleanGraph adapter g.reference.1.memory.snapshot)
    {calls : List (IsoDateTime × GraphCall)} (hcalls : AllLegitimate adapter g.store calls) :
    Refines repository adapter g calls ↔ AllEndsPlaced g.store calls := by
  induction calls generalizing g with
  | nil => exact Iff.rfl
  | cons c calls ih =>
    obtain ⟨hc, hrest⟩ := hcalls
    obtain ⟨hwritten, hrefused⟩ := written_iff repository hsame hclean hc
    by_cases hends : EndsPlaced g.store c.2
    · obtain ⟨haccepted, hsame', hclean'⟩ := hwritten hends
      refine ⟨fun h => ⟨hends, (ih hsame' hclean' hrest).1 h.2.2⟩, fun h => ?_⟩
      exact ⟨fun _ => haccepted, hsame', (ih hsame' hclean' hrest).2 h.2⟩
    · obtain ⟨message, herror⟩ := hrefused hends
      refine ⟨fun h => ?_, fun h => absurd h.1 hends⟩
      obtain ⟨answer, hanswer⟩ := h.1 (file_accepts c)
      rw [herror] at hanswer
      cases hanswer

end

/-- **When the adapter refines** the file and the store of a runtime, in a run of legitimate
writes: the subject of each tuple is a stored subject, and its object a stored resource. -/
theorem refines_iff (repository : LocalJsonFile) (adapter : ReferenceAdapter)
    (calls : List (IsoDateTime × GraphCall)) (hcalls : AllLegitimate adapter .empty calls) :
    Refines repository adapter newGraphs calls ↔ AllEndsPlaced .empty calls :=
  refines_iff_from ⟨rfl, rfl⟩ (fun _ h => by cases h) hcalls

/-! ## A group and its member -/

def repository : LocalJsonFile where
  host := plainHost
  location := "graph-state.json"

def tenantAdapter : ReferenceAdapter where
  host := plainHost
  tenantBoundary := "tenant:default"
  location := "postgres:access-kit"
  tenantBoundary_ne := defaultBoundary_ne

def ofTenant (s : Subject) : Subject :=
  { s with attributes := some [("tenantId", .str "tenant:default")] }

/-- Alice, and the team of the case. -/
def nodes : List (IsoDateTime × GraphCall) :=
  [(timestamp, .upsert (.subject (ofTenant alice))),
    (timestamp, .upsert (.subject (ofTenant caseTeam)))]

/-- Alice in the team. -/
def membership : IsoDateTime × GraphCall := (timestamp, .upsert (.relationship aliceCaseTeam))

theorem clean_ofTenant (id displayName : String) (type : SubjectType) :
    Clean tenantAdapter (.subject (ofTenant (fixtureSubject id type displayName .active))) :=
  clean_subject rfl rfl

theorem legitimate_nodes : AllLegitimate tenantAdapter .empty nodes :=
  ⟨⟨clean_ofTenant _ _ _, trivial⟩, ⟨clean_ofTenant _ _ _, trivial⟩, trivial⟩

theorem legitimate_membership :
    Legitimate tenantAdapter (writeStore (writeStore .empty nodes[0].2) nodes[1].2)
      membership.2 :=
  ⟨clean_relationship rfl, .inl rfl, .inl rfl⟩

/-! ### A plan and its owner -/

def tenantPlan : Resource :=
  { casePlan with attributes := some [("tenantId", .str "tenant:default")] }

/-- Alice owns the plan. -/
def ownership : List (IsoDateTime × GraphCall) :=
  [(timestamp, .upsert (.subject (ofTenant alice))), (timestamp, .upsert (.resource tenantPlan)),
    (timestamp, .upsert (.relationship
      (fixtureRelationship "relationship:alice-plan" "user:alice" "owner_of"
        "document:case-plan")))]

/-- The tuple has its subject and its resource, and is taken by all three. -/
theorem ownership_refined : Refines repository tenantAdapter newGraphs ownership := by
  have hlegitimate : AllLegitimate tenantAdapter .empty ownership :=
    ⟨⟨clean_ofTenant _ _ _, trivial⟩, ⟨clean_resource rfl, trivial⟩,
      ⟨clean_relationship rfl, .inl rfl, .inr rfl⟩, trivial⟩
  exact (refines_iff repository tenantAdapter ownership hlegitimate).2
    ⟨trivial, trivial, ⟨rfl, rfl⟩, trivial⟩

/-- **Counterexample**: the membership of the local fixture is refused. -/
theorem membership_refused :
    AllLegitimate tenantAdapter .empty (nodes ++ [membership]) ∧
      ¬ Refines repository tenantAdapter newGraphs (nodes ++ [membership]) := by
  have hlegitimate : AllLegitimate tenantAdapter .empty (nodes ++ [membership]) :=
    ⟨legitimate_nodes.1, legitimate_nodes.2.1, legitimate_membership, trivial⟩
  refine ⟨hlegitimate, fun h => ?_⟩
  obtain ⟨-, -, hends, -⟩ := (refines_iff_from (g := newGraphs) ⟨rfl, rfl⟩
    (fun _ hr => by cases hr) hlegitimate).1 h
  cases (hends.2 : false = true)

end AccessKit.Bugs.MisplacedEnds
