import AccessKit.L7Persistence.ReferenceAdapters

/-!
# What the graph adapter accepts

`ReferenceGraphStoreAdapter` checks a record against its tenant boundary, for keys that name
secret material, and, where it has two ends, for the subject and the resource that they are
(packages/core/src/reference-repositories.ts:205-292, 354-377). Before it stores a graph it
checks all of it once more, but for the ends (:395-413, 727-737). A graph of clean records
passes that.

Results:
* `assertGraphRecord_iff`: a clean record is accepted exactly when its ends are stored where the
  adapter looks for them.
* `persist_clean`: a clean graph is stored.
* `writeRecord_clean`: a clean record whose ends are found is written.
* `CleanGraph.upsert`, `Clean.copy`, `Clean.markDeleted`: it stays clean.
-/
namespace AccessKit.L7
open AccessKit.Core AccessKit.L1
open AccessKit.L2.Audit (ReferenceRepositoryBackupMetadata optional seq_ok)
open AccessKit.L2.Store (GraphRecord GraphKey)
open AccessKit.L2.Store.InMemoryRebacStore (RebacSeedData markDeleted)
open AccessKit.L3 (optionalJs)
open AccessKit.L6 (NoSecretKeys noSecretKeys_arr noSecretKeys_obj)

/-! ## Tenants -/

/-- `attributes.tenantId` is the tenant. -/
def OfTenant (tenantBoundary : String) (attributes : Option JsonRecord) : Prop :=
  JsonRecord.get (attributes.getD []) "tenantId" = .str tenantBoundary

/-- It is the tenant where there is one. -/
def OfNoOtherTenant (tenantBoundary : String) (attributes : Option JsonRecord) : Prop :=
  ∀ v, ("tenantId", v) ∈ attributes.getD [] → v = .undefined ∨ v = .str tenantBoundary

section
variable {tenantBoundary label : String} {attributes : Option JsonRecord}

theorem assertEntityTenant_ok (hne : tenantBoundary ≠ "") (h : OfTenant tenantBoundary attributes) :
    assertEntityTenant attributes tenantBoundary label = .ok () := by
  unfold assertEntityTenant
  rw [show JsonRecord.get (attributes.getD []) "tenantId" = .str tenantBoundary from h]
  show (if tenantBoundary = "" then _ else if tenantBoundary ≠ tenantBoundary then _ else _) = _
  rw [if_neg hne, if_neg (not_not.2 rfl)]

theorem assertOptionalTenantAttribute_ok (h : OfNoOtherTenant tenantBoundary attributes) :
    assertOptionalTenantAttribute attributes tenantBoundary label = .ok () := by
  have hget : JsonRecord.get (attributes.getD []) "tenantId" = .undefined ∨
      JsonRecord.get (attributes.getD []) "tenantId" = .str tenantBoundary := by
    rcases get_undefined_or_mem (attributes.getD []) "tenantId" with hnone | hmem
    · exact .inl hnone
    · exact h _ hmem
  unfold assertOptionalTenantAttribute
  rcases hget with hget | hget
  · rw [hget]
    rfl
  · rw [hget]
    simp [JsValue.isUndefined, JsValue.strictEq]

theorem OfTenant.copy (h : OfTenant tenantBoundary attributes) :
    OfTenant tenantBoundary (cloneAttributes attributes) := by
  cases attributes with
  | none => exact h
  | some fields =>
    show JsonRecord.get (cloneFields fields) "tenantId" = _
    replace h : JsonRecord.get fields "tenantId" = .str tenantBoundary := h
    unfold JsonRecord.get at h ⊢
    induction fields with
    | nil => cases h
    | cons p fields ih =>
      obtain ⟨k, v⟩ := p
      by_cases hk : k = "tenantId"
      · rw [List.find?_cons_of_pos (by simp [hk])] at h
        rw [show v = .str tenantBoundary from h, cloneFields]
        simp [JsValue.isUndefined, clone, hk]
      · rw [List.find?_cons_of_neg (by simp [hk])] at h
        by_cases hu : v.isUndefined
        · rw [cloneFields, if_pos hu]
          exact ih h
        · rw [cloneFields, if_neg hu, List.find?_cons_of_neg (by simp [hk])]
          exact ih h

theorem OfNoOtherTenant.copy (h : OfNoOtherTenant tenantBoundary attributes) :
    OfNoOtherTenant tenantBoundary (cloneAttributes attributes) := by
  cases attributes with
  | none => exact h
  | some fields =>
    intro v hv
    replace hv : ("tenantId", v) ∈ cloneFields fields := hv
    rw [cloneFields_eq, List.mem_map] at hv
    obtain ⟨⟨k, w⟩, hw, he⟩ := hv
    obtain ⟨rfl, rfl⟩ := Prod.mk.inj he
    rcases h w (List.mem_filter.1 hw).1 with rfl | rfl
    · exact .inl rfl
    · exact .inr rfl

end

/-! ## Clean records -/

/-- The tenant of a record. A tuple need not name it, and a native grant does not. -/
def RecordOfTenant (tenantBoundary : String) : GraphRecord → Prop
  | .subject s => OfTenant tenantBoundary s.attributes
  | .resource r => OfTenant tenantBoundary r.attributes
  | .relationship t => OfNoOtherTenant tenantBoundary t.attributes
  | .nativeGrant _ => True

/-- The checks of the adapter have nothing against the record, but for its ends. -/
structure Clean (adapter : ReferenceAdapter) (r : GraphRecord) : Prop where
  tenant : RecordOfTenant adapter.tenantBoundary r
  secrets : NoSecretKeys adapter.host (graphRecordToJs r)

def CleanGraph (adapter : ReferenceAdapter) (graph : RebacSeedData) : Prop :=
  ∀ r ∈ graph.records, Clean adapter r

section
variable {adapter : ReferenceAdapter} {graph : RebacSeedData}

theorem noSecretKeys_optional {H : Host} (text : Option String) :
    NoSecretKeys H (optional text) := by
  cases text with
  | none => exact .undefined
  | some text => exact .str text

theorem noSecretKeys_attributes {H : Host} {attributes : Option JsonRecord}
    (h : NoSecretKeys H (optionalJs .obj attributes)) :
    NoSecretKeys H (optionalJs .obj (cloneAttributes attributes)) := by
  cases attributes with
  | none => exact h
  | some fields => exact L6.NoSecretKeys.cloned (v := .obj fields) h

/-- An object with the same keys and values without secret keys. -/
theorem noSecretKeys_values {H : Host} {fields fields' : JsonRecord}
    (h : List.Forall₂ (fun p p' => p'.1 = p.1 ∧ (NoSecretKeys H p.2 → NoSecretKeys H p'.2))
      fields fields') (hfields : NoSecretKeys H (.obj fields)) : NoSecretKeys H (.obj fields') := by
  rw [noSecretKeys_obj] at hfields ⊢
  induction h with
  | nil => exact hfields
  | cons hp _ ih =>
    obtain ⟨hfirst, hrest⟩ := List.forall_mem_cons.1 hfields
    exact List.forall_mem_cons.2 ⟨⟨hp.1 ▸ hfirst.1, hp.2 hfirst.2⟩, ih hrest⟩

theorem Clean.copy {r : GraphRecord} (h : Clean adapter r) : Clean adapter r.copy := by
  obtain ⟨htenant, hsecrets⟩ := h
  cases r with
  | subject s =>
    refine ⟨OfTenant.copy htenant, noSecretKeys_values ?_ hsecrets⟩
    simp only [List.forall₂_cons, List.Forall₂.nil, Subject.copy, imp_self, true_and, and_true]
    exact noSecretKeys_attributes
  | resource r =>
    refine ⟨OfTenant.copy htenant, noSecretKeys_values ?_ hsecrets⟩
    simp only [List.forall₂_cons, List.Forall₂.nil, Resource.copy, imp_self, true_and, and_true]
    exact noSecretKeys_attributes
  | relationship t =>
    refine ⟨OfNoOtherTenant.copy htenant, noSecretKeys_values ?_ hsecrets⟩
    simp only [List.forall₂_cons, List.Forall₂.nil, RelationshipTuple.copy, imp_self, true_and,
      and_true]
    exact noSecretKeys_attributes
  | nativeGrant g =>
    refine ⟨trivial, noSecretKeys_values ?_ hsecrets⟩
    simp only [List.forall₂_cons, List.Forall₂.nil, NativeGrant.copy, imp_self, true_and, and_true]
    exact noSecretKeys_attributes

theorem Clean.markDeleted {t : RelationshipTuple} {deletedAt : IsoDateTime}
    (h : Clean adapter (.relationship t)) :
    Clean adapter (.relationship (markDeleted t deletedAt)) := by
  obtain ⟨htenant, hsecrets⟩ := h
  refine ⟨htenant, noSecretKeys_values ?_ hsecrets⟩
  simp only [List.forall₂_cons, List.Forall₂.nil, L2.Store.InMemoryRebacStore.markDeleted,
    imp_self, true_and, and_true]
  exact ⟨fun _ => .str _, fun _ => .str _⟩

/-! ### Entities with no other attribute than their tenant -/

/-- The properties of the entities. -/
def subjectProperties : List String :=
  ["id", "version", "createdAt", "updatedAt", "type", "displayName", "sourceSystem",
    "lifecycleState", "identifiers", "attributes", "lastSeenAt"]

def resourceProperties : List String :=
  ["id", "version", "createdAt", "updatedAt", "type", "displayName", "sourceSystem", "ownerId",
    "dataStewardId", "technicalOwnerId", "classification", "lifecycleState", "parentId",
    "attributes", "lastSeenAt"]

def tupleProperties : List String :=
  ["id", "version", "createdAt", "updatedAt", "subjectId", "relation", "objectId",
    "sourceSystem", "assertedAt", "assertedBy", "expiresAt", "status", "attributes"]

theorem noSecretKeys_tenant {H : Host} {attributes : Option JsonRecord}
    (h : attributes = some [("tenantId", .str adapter.tenantBoundary)]) :
    NoSecretKeys H (optionalJs .obj attributes) := by
  rw [h]
  exact .obj (fun p hp => @L6.insensitive _ ["tenantId"] (by decide +kernel) _
    (List.mem_map_of_mem (f := Prod.fst) hp)) (by simp [NoSecretKeys.str])

theorem clean_subject {s : Subject} (hidentifiers : s.identifiers = [])
    (h : s.attributes = some [("tenantId", .str adapter.tenantBoundary)]) :
    Clean adapter (.subject s) := by
  have htenant : OfTenant adapter.tenantBoundary s.attributes := by
    rw [h]
    rfl
  refine ⟨htenant, .obj (fun p hp => @L6.insensitive _ subjectProperties (by decide +kernel) _ ?_)
    ?_⟩
  · exact List.mem_map_of_mem (f := Prod.fst) hp
  · simp only [List.forall_mem_cons, List.not_mem_nil, false_implies, implies_true, and_true,
      NoSecretKeys.str, true_and, noSecretKeys_optional, noSecretKeys_tenant h]
    exact .obj (by simp [hidentifiers]) (by simp [hidentifiers])

theorem clean_resource {r : Resource}
    (h : r.attributes = some [("tenantId", .str adapter.tenantBoundary)]) :
    Clean adapter (.resource r) := by
  have htenant : OfTenant adapter.tenantBoundary r.attributes := by
    rw [h]
    rfl
  refine ⟨htenant, .obj (fun p hp => @L6.insensitive _ resourceProperties (by decide +kernel) _ ?_)
    ?_⟩
  · exact List.mem_map_of_mem (f := Prod.fst) hp
  · simp only [List.forall_mem_cons, List.not_mem_nil, false_implies, implies_true, and_true,
      NoSecretKeys.str, noSecretKeys_optional, noSecretKeys_tenant h]

theorem clean_relationship {t : RelationshipTuple} (h : t.attributes = none) :
    Clean adapter (.relationship t) := by
  have htenant : OfNoOtherTenant adapter.tenantBoundary t.attributes := by
    intro v hv
    rw [h] at hv
    cases hv
  refine ⟨htenant, .obj (fun p hp => @L6.insensitive _ tupleProperties (by decide +kernel) _ ?_)
    ?_⟩
  · exact List.mem_map_of_mem (f := Prod.fst) hp
  · simp only [List.forall_mem_cons, List.not_mem_nil, false_implies, implies_true, and_true,
      NoSecretKeys.str, true_and, noSecretKeys_optional, h]
    exact .undefined

/-! ## Clean graphs -/

theorem CleanGraph.upsert {r : GraphRecord} (hgraph : CleanGraph adapter graph)
    (hr : Clean adapter r) : CleanGraph adapter (upsertGraphRecord graph r) := by
  have hrecords : ∀ r' ∈ (upsertGraphRecord graph r).records, r' = r ∨ r' ∈ graph.records := by
    intro r' hr'
    unfold RebacSeedData.records at hr' ⊢
    simp only [List.mem_append, List.mem_map] at hr' ⊢
    cases r with
    | subject s =>
      rcases hr' with ((⟨s', hs, rfl⟩ | hr') | hr') | hr'
      · rcases mem_upsertBy hs with rfl | hs
        · exact .inl rfl
        · exact .inr (.inl (.inl (.inl ⟨s', hs, rfl⟩)))
      · exact .inr (.inl (.inl (.inr hr')))
      · exact .inr (.inl (.inr hr'))
      · exact .inr (.inr hr')
    | resource s =>
      rcases hr' with ((hr' | ⟨s', hs, rfl⟩) | hr') | hr'
      · exact .inr (.inl (.inl (.inl hr')))
      · rcases mem_upsertBy hs with rfl | hs
        · exact .inl rfl
        · exact .inr (.inl (.inl (.inr ⟨s', hs, rfl⟩)))
      · exact .inr (.inl (.inr hr'))
      · exact .inr (.inr hr')
    | relationship s =>
      rcases hr' with (hr' | ⟨s', hs, rfl⟩) | hr'
      · exact .inr (.inl (.inl hr'))
      · rcases mem_upsertBy hs with rfl | hs
        · exact .inl rfl
        · exact .inr (.inl (.inr ⟨s', hs, rfl⟩))
      · exact .inr (.inr hr')
    | nativeGrant s =>
      rcases hr' with hr' | ⟨s', hs, rfl⟩
      · exact .inr (.inl hr')
      · rcases mem_upsertBy hs with rfl | hs
        · exact .inl rfl
        · exact .inr (.inr ⟨s', hs, rfl⟩)
  intro r' hr'
  rcases hrecords r' hr' with rfl | hr'
  · exact hr
  · exact hgraph r' hr'

/-! ## A graph that is stored -/

theorem forM_ok {α : Type} {f : α → Except String Unit} {items : List α}
    (h : ∀ a ∈ items, f a = .ok ()) : items.forM f = .ok () := by
  induction items with
  | nil => rfl
  | cons a items ih =>
    obtain ⟨ha, hitems⟩ := List.forall_mem_cons.1 h
    show (f a >>= fun _ => items.forM f) = _
    rw [ha]
    exact ih hitems

theorem assertGraphTenantBoundary_ok (h : CleanGraph adapter graph) :
    assertGraphTenantBoundary adapter.tenantBoundary graph = .ok () := by
  unfold assertGraphTenantBoundary
  rw [forM_ok fun s hs => ?subject, forM_ok fun r hr => ?resource, forM_ok fun t ht => ?tuple]
  case subject =>
    exact assertEntityTenant_ok adapter.tenantBoundary_ne
      (h (.subject s) (by simp [RebacSeedData.records, hs])).tenant
  case resource =>
    exact assertEntityTenant_ok adapter.tenantBoundary_ne
      (h (.resource r) (by simp [RebacSeedData.records, hr])).tenant
  case tuple =>
    exact assertOptionalTenantAttribute_ok
      (h (.relationship t) (by simp [RebacSeedData.records, ht])).tenant
  rfl

/-- The properties of a graph. -/
def graphProperties : List String := ["subjects", "resources", "relationships", "nativeGrants"]

theorem noSecretKeys_graph (h : CleanGraph adapter graph) :
    NoSecretKeys adapter.host (graphToJs graph) := by
  refine .obj (fun p hp => @L6.insensitive _ graphProperties (by decide +kernel) _ ?_) ?_
  · exact List.mem_map_of_mem (f := Prod.fst) hp
  · simp only [List.forall_mem_cons, List.not_mem_nil, false_implies, implies_true, and_true,
      noSecretKeys_arr, List.forall_mem_map]
    exact ⟨fun s hs => (h (.subject s) (by simp [RebacSeedData.records, hs])).secrets,
      fun r hr => (h (.resource r) (by simp [RebacSeedData.records, hr])).secrets,
      fun t ht => (h (.relationship t) (by simp [RebacSeedData.records, ht])).secrets,
      fun g hg => (h (.nativeGrant g) (by simp [RebacSeedData.records, hg])).secrets⟩

theorem createRecord_clean (h : CleanGraph adapter graph) (storedAt : IsoDateTime)
    (backupMetadata : List ReferenceRepositoryBackupMetadata) :
    ∃ record, adapter.createRecord referenceGraph storedAt graph backupMetadata = .ok record := by
  have hsecrets := (L6.assertNoSecretMaterial_ok _ referenceGraph.snapshotLabel).2
    (noSecretKeys_graph h)
  exact ⟨_, seq_ok.2 ⟨assertGraphTenantBoundary_ok h, seq_ok.2 ⟨hsecrets, rfl⟩⟩⟩

section
variable {failures : WriteFailures} {memory : ReferenceMemory referenceGraph}
  {store : ExternalSnapshotStore RebacSeedData}

/-- **A clean graph** is stored, when the store can be written. -/
theorem persist_clean {storedAt : IsoDateTime} (hworks : failures.writeCurrent = none)
    (h : CleanGraph adapter memory.memory.snapshot) :
    ∃ record receipt, adapter.createRecord referenceGraph storedAt
        (referenceGraph.copyAll memory.memory.snapshot) memory.backupMetadata = .ok record ∧
      adapter.persist referenceGraph failures storedAt memory store =
        (memory, { store with current := some record }, .ok receipt) := by
  have hcopied : referenceGraph.copyAll memory.memory.snapshot = memory.memory.snapshot :=
    memory.memory.copied
  obtain ⟨record, hrecord⟩ := createRecord_clean (hcopied.symm ▸ h) storedAt memory.backupMetadata
  have hremember := (ReferenceAdapter.remember_createRecord hrecord).1
  unfold ReferenceAdapter.persist
  rw [hrecord]
  dsimp only
  rw [hworks, hremember]
  exact ⟨record, _, rfl, rfl⟩

/-! ## Ends -/

/-- The ends of a tuple or of a native grant, where the adapter looks for them: a subject, and
a resource. -/
def EndsIn (graph : RebacSeedData) (subjectId objectId : CanonicalId) : Prop :=
  (findBy (·.id) graph.subjects subjectId).isSome ∧
    (findBy (·.id) graph.resources objectId).isSome

def EndsFound (graph : RebacSeedData) : GraphRecord → Prop
  | .relationship t => EndsIn graph t.subjectId t.objectId
  | .nativeGrant g => EndsIn graph g.subjectId g.targetObjectId
  | _ => True

theorem assertEndsTenant_iff (h : CleanGraph adapter graph) {label : String}
    {subjectId objectId : CanonicalId} :
    assertEndsTenant adapter.tenantBoundary graph label subjectId objectId = .ok () ↔
      EndsIn graph subjectId objectId := by
  unfold assertEndsTenant EndsIn
  cases hs : findBy (·.id) graph.subjects subjectId with
  | none => exact ⟨fun h => (by cases h), fun h => (by cases h.1)⟩
  | some s =>
    cases hr : findBy (·.id) graph.resources objectId with
    | none => exact ⟨fun h => (by cases h), fun h => (by cases h.2)⟩
    | some r =>
      refine ⟨fun _ => ⟨rfl, rfl⟩, fun _ => ?_⟩
      have hsubject := (h (.subject s) (by simp [RebacSeedData.records, mem_of_findBy hs])).tenant
      have hresource := (h (.resource r) (by simp [RebacSeedData.records, mem_of_findBy hr])).tenant
      dsimp only
      rw [assertEntityTenant_ok adapter.tenantBoundary_ne hsubject,
        assertEntityTenant_ok adapter.tenantBoundary_ne hresource]
      rfl

/-- **What is accepted** of clean records: those whose ends the adapter finds. -/
theorem assertGraphRecord_iff {r : GraphRecord} (hgraph : CleanGraph adapter graph)
    (hr : Clean adapter r) :
    assertGraphRecord adapter.host adapter.tenantBoundary graph r = .ok () ↔
      EndsFound graph r := by
  have hsecrets : ∀ label, L6.assertNoSecretMaterial adapter.host (graphRecordToJs r) label =
      .ok () := fun label => (L6.assertNoSecretMaterial_ok _ label).2 hr.secrets
  cases r with
  | subject s =>
    refine iff_of_true (L6.bind_ok.2 ⟨?_, hsecrets _⟩) trivial
    exact assertEntityTenant_ok adapter.tenantBoundary_ne hr.tenant
  | resource r =>
    refine iff_of_true (L6.bind_ok.2 ⟨?_, hsecrets _⟩) trivial
    exact assertEntityTenant_ok adapter.tenantBoundary_ne hr.tenant
  | relationship t =>
    refine L6.bind_ok.trans ((and_iff_left (hsecrets _)).trans ?_)
    refine L6.bind_ok.trans ((and_iff_left ?_).trans (assertEndsTenant_iff hgraph))
    exact assertOptionalTenantAttribute_ok hr.tenant
  | nativeGrant g =>
    exact L6.bind_ok.trans ((and_iff_left (hsecrets _)).trans (assertEndsTenant_iff hgraph))

/-- **A clean record** whose ends are found is written. -/
theorem writeRecord_clean {now : IsoDateTime} {r : GraphRecord}
    (hworks : failures.writeCurrent = none) (hgraph : CleanGraph adapter memory.memory.snapshot)
    (hr : Clean adapter r) (hends : EndsFound memory.memory.snapshot r) :
    ∃ record, adapter.createRecord referenceGraph (referenceGraph.storedAt now r)
        (referenceGraph.copyAll (memory.memory.upsert r).snapshot) memory.backupMetadata =
          .ok record ∧
      adapter.writeRecord referenceGraph failures now memory store r =
        ({ memory with memory := memory.memory.upsert r },
          { store with current := some record }, .ok (.record (some r.copy))) := by
  have hchange : ((referenceGraph.assertRecord adapter.host adapter.tenantBoundary
      memory.memory.snapshot r).map fun _ => { memory with memory := memory.memory.upsert r }) =
      .ok { memory with memory := memory.memory.upsert r } :=
    congrArg (Except.map _) ((assertGraphRecord_iff hgraph hr).2 hends)
  have hupserted : CleanGraph adapter (memory.memory.upsert r).snapshot := hgraph.upsert hr.copy
  obtain ⟨record, receipt, hrecord, hpersist⟩ := @persist_clean adapter failures
    { memory with memory := memory.memory.upsert r } store (referenceGraph.storedAt now r) hworks
    hupserted
  refine ⟨record, hrecord, ?_⟩
  unfold ReferenceAdapter.writeRecord
  rw [changeThenPersist_made hchange, hpersist]
  rfl

end

end

end AccessKit.L7
