import AccessKit.L2Graph.Fixtures
import AccessKit.L3Policy.Valid
import AccessKit.L4Engine.SmallGraphs

/-!
# Scenes: the smallest graphs a request is decided on

A scene is a request together with the two records it is about, both there,
active and in one tenant at the instant of the decision. It can be set up as a
store: the two records, two more nodes in between, and a few tuples. Whatever
an engine does wrong in a large graph can be looked for in a scene, since the
caveats of a tuple do not depend on where the tuple is.

Results:
* `Scene.admissible`: the request of a scene is admitted, whatever the tuples.
* `Scene.usable_iff`: which tuples of a scene the searches may follow.
* `Scene.allow_of`: when a scene is allowed; `Scene.walks_of_allow`: what an
  allow says.
* `Scene.exists_decisive`: a tuple that carries the action decides a scene.
* `Scene.ofAdmissible`: the scene of an admitted request of any store.
-/
namespace AccessKit.L4
open AccessKit.Core AccessKit.L1 AccessKit.L2.Store AccessKit.L2.Fixtures AccessKit.L3

structure Scene (H : Host) where
  subject : Subject
  resource : Resource
  request : DecisionRequest
  evaluatedAt : IsoDateTime
  subjectId : request.subjectId = subject.id
  resourceId : request.resourceId = resource.id
  valid : (dateParse H (request.asOf.getD evaluatedAt)).isSome
  past : gtMs (dateParse H (request.asOf.getD evaluatedAt)) (dateParse H evaluatedAt) = false
  subjectVisible : isVisibleAt H subject.createdAt subject.updatedAt false
    (request.asOf.getD evaluatedAt) = true
  subjectActive : effectiveLifecycleStateAt H (.subject subject)
    (request.asOf.getD evaluatedAt) = .known .active
  resourceVisible : isVisibleAt H resource.createdAt resource.updatedAt false
    (request.asOf.getD evaluatedAt) = true
  resourceActive : effectiveLifecycleStateAt H (.resource resource)
    (request.asOf.getD evaluatedAt) = .known .active
  tenants : tenantIdFor (some (.subject subject)) = tenantIdFor (some (.resource resource))

namespace Scene

variable {H : Host}

/-- The instant of the decision. -/
def asOf (sc : Scene H) : IsoDateTime := sc.request.asOf.getD sc.evaluatedAt

def tenant (sc : Scene H) : Option String := tenantIdFor (some (.subject sc.subject))

/-- Two ids that neither the subject nor the resource has. -/
def middleId (sc : Scene H) : CanonicalId := sc.subject.id ++ sc.resource.id ++ "/"

def otherId (sc : Scene H) : CanonicalId := sc.subject.id ++ sc.resource.id ++ "//"

def spareIds (sc : Scene H) : List CanonicalId := [sc.middleId, sc.otherId]

/-- A node between the subject and the resource, as active as the subject and
in its tenant. -/
def spare (sc : Scene H) (id : CanonicalId) : Subject :=
  { sc.subject with id := id, type := .group }

/-- The scene as a graph. -/
def store (sc : Scene H) (tuples : List RelationshipTuple) : InMemoryRebacStore :=
  .ofSeed { subjects := [sc.subject, sc.spare sc.middleId, sc.spare sc.otherId],
            resources := [sc.resource], relationships := tuples }

/-- The admission of the request. -/
def admission (sc : Scene H) : Admission := ⟨sc.subject, sc.resource⟩

/-- The caveats are evaluated against this. -/
def caveatInput (sc : Scene H) (model : PolicyModel) : CaveatInput :=
  ⟨sc.store [], model, sc.request, sc.evaluatedAt⟩

theorem middleId_mem (sc : Scene H) : sc.middleId ∈ sc.spareIds := List.mem_cons_self

theorem otherId_mem (sc : Scene H) : sc.otherId ∈ sc.spareIds :=
  List.mem_cons_of_mem _ List.mem_cons_self

/-- The spare ids are longer than the ids of the subject and the resource. -/
theorem length_of_spare {sc : Scene H} {id : CanonicalId} (h : id ∈ sc.spareIds) :
    sc.subject.id.length + sc.resource.id.length < id.length := by
  have hone : "/".length = 1 := rfl
  have htwo : "//".length = 2 := rfl
  simp only [spareIds, List.mem_cons, List.not_mem_nil, or_false] at h
  rcases h with rfl | rfl
  · simp only [middleId, String.length_append]
    omega
  · simp only [otherId, String.length_append]
    omega

theorem spare_ne_subject {sc : Scene H} {id : CanonicalId} (h : id ∈ sc.spareIds) :
    id ≠ sc.subject.id := by
  rintro rfl
  have := length_of_spare h
  omega

theorem spare_ne_resource {sc : Scene H} {id : CanonicalId} (h : id ∈ sc.spareIds) :
    id ≠ sc.resource.id := by
  rintro rfl
  have := length_of_spare h
  omega

theorem middleId_ne_other (sc : Scene H) : sc.middleId ≠ sc.otherId := by
  intro h
  have hlen := congrArg String.length h
  have hone : "/".length = 1 := rfl
  have htwo : "//".length = 2 := rfl
  simp only [middleId, otherId, String.length_append] at hlen
  omega

/-! ## Records of the store of a scene -/

theorem getSubject_foldl (tuples : List RelationshipTuple) (st : InMemoryRebacStore)
    (id : CanonicalId) : (tuples.foldl InMemoryRebacStore.upsertRelationship st).getSubject id =
      st.getSubject id := by
  induction tuples generalizing st with
  | nil => rfl
  | cons r tuples ih => rw [List.foldl_cons, ih, InMemoryRebacStore.getSubject_upsertRelationship]

theorem getResource_foldl (tuples : List RelationshipTuple) (st : InMemoryRebacStore)
    (id : CanonicalId) : (tuples.foldl InMemoryRebacStore.upsertRelationship st).getResource id =
      st.getResource id := by
  induction tuples generalizing st with
  | nil => rfl
  | cons r tuples ih => rw [List.foldl_cons, ih, InMemoryRebacStore.getResource_upsertRelationship]

/-- The nodes of a scene, before its tuples are written. -/
def nodes (sc : Scene H) : InMemoryRebacStore := sc.store []

theorem store_eq (sc : Scene H) (tuples : List RelationshipTuple) :
    sc.store tuples = tuples.foldl InMemoryRebacStore.upsertRelationship sc.nodes := rfl

theorem getSubject_store (sc : Scene H) (tuples : List RelationshipTuple) (id : CanonicalId) :
    (sc.store tuples).getSubject id = if id ∈ sc.spareIds then some (sc.spare id)
      else if sc.subject.id = id then some sc.subject else none := by
  rw [store_eq, getSubject_foldl]
  change (((InMemoryRebacStore.empty.upsertSubject sc.subject).upsertSubject
    (sc.spare sc.middleId)).upsertSubject (sc.spare sc.otherId)).getSubject id = _
  simp only [InMemoryRebacStore.getSubject_upsertSubject, spareIds, List.mem_cons,
    List.not_mem_nil, or_false]
  by_cases ho : sc.otherId = id
  · subst ho
    simp [spare]
  by_cases hm : sc.middleId = id
  · subst hm
    simp [spare, ho]
  · have hno : ¬ (id = sc.middleId ∨ id = sc.otherId) := by
      intro h
      rcases h with rfl | rfl
      · exact hm rfl
      · exact ho rfl
    rw [if_neg hno]
    change (if sc.otherId = id then _ else if sc.middleId = id then _ else _) = _
    rw [if_neg ho, if_neg hm]
    rfl

theorem getResource_store (sc : Scene H) (tuples : List RelationshipTuple) (id : CanonicalId) :
    (sc.store tuples).getResource id =
      if sc.resource.id = id then some sc.resource else none := by
  rw [store_eq, getResource_foldl]
  change ((((InMemoryRebacStore.empty.upsertSubject sc.subject).upsertSubject
    (sc.spare sc.middleId)).upsertSubject (sc.spare sc.otherId)).upsertResource
      sc.resource).getResource id = _
  rw [InMemoryRebacStore.getResource_upsertResource]
  rfl

theorem getSubject_subject (sc : Scene H) (tuples : List RelationshipTuple) :
    (sc.store tuples).getSubject sc.subject.id = some sc.subject := by
  rw [getSubject_store, if_neg fun h => spare_ne_subject h rfl, if_pos rfl]

theorem getSubject_self (sc : Scene H) (tuples : List RelationshipTuple) :
    (sc.store tuples).getSubject sc.request.subjectId = some sc.subject := by
  rw [sc.subjectId, getSubject_subject]

theorem getResource_self (sc : Scene H) (tuples : List RelationshipTuple) :
    (sc.store tuples).getResource sc.request.resourceId = some sc.resource := by
  rw [sc.resourceId, getResource_store, if_pos rfl]

theorem mem_of_getRelationship (tuples : List RelationshipTuple) {st : InMemoryRebacStore}
    {id : CanonicalId} {r : RelationshipTuple}
    (h : (tuples.foldl InMemoryRebacStore.upsertRelationship st).getRelationship id = some r) :
    r ∈ tuples ∨ st.getRelationship id = some r := by
  induction tuples generalizing st with
  | nil => exact .inr h
  | cons e tuples ih =>
    rcases ih h with hm | hs
    · exact .inl (List.mem_cons_of_mem _ hm)
    · rw [InMemoryRebacStore.getRelationship_upsert] at hs
      split at hs
      · cases hs
        exact .inl List.mem_cons_self
      · exact .inr hs

theorem getRelationship_foldl_of_ne {tuples : List RelationshipTuple} {st : InMemoryRebacStore}
    {id : CanonicalId} (h : ∀ e ∈ tuples, e.id ≠ id) :
    (tuples.foldl InMemoryRebacStore.upsertRelationship st).getRelationship id =
      st.getRelationship id := by
  induction tuples generalizing st with
  | nil => rfl
  | cons e tuples ih =>
    rw [List.foldl_cons, ih fun e' he' => h e' (List.mem_cons_of_mem _ he'),
      InMemoryRebacStore.getRelationship_upsert, if_neg (h e List.mem_cons_self)]

theorem getRelationship_of_mem {tuples : List RelationshipTuple}
    (hn : (tuples.map (·.id)).Nodup) {st : InMemoryRebacStore} {r : RelationshipTuple}
    (h : r ∈ tuples) :
    (tuples.foldl InMemoryRebacStore.upsertRelationship st).getRelationship r.id = some r := by
  induction tuples generalizing st with
  | nil => cases h
  | cons e tuples ih =>
    obtain ⟨he, hn⟩ := List.nodup_cons.1 hn
    rcases List.mem_cons.1 h with rfl | h
    · rw [List.foldl_cons, getRelationship_foldl_of_ne
        (fun e' he' heq => he (List.mem_map.2 ⟨e', he', heq⟩)),
        InMemoryRebacStore.getRelationship_upsert, if_pos rfl]
    · exact ih hn h

theorem listRelationships_foldl_length (tuples : List RelationshipTuple)
    (st : InMemoryRebacStore) :
    (tuples.foldl InMemoryRebacStore.upsertRelationship st).listRelationships.length ≤
      tuples.length + st.listRelationships.length := by
  induction tuples generalizing st with
  | nil => simp
  | cons e tuples ih =>
    have hstep : (st.upsertRelationship e).listRelationships.length ≤
        st.listRelationships.length + 1 := by
      simp only [InMemoryRebacStore.listRelationships, InMemoryRebacStore.upsertRelationship]
      cases ho : st.relationships.get? e.id with
      | none => rw [OrderedMap.values_set_new _ _ ho, List.length_append, List.length_singleton]
      | some old =>
        have := (OrderedMap.values_set_perm st.relationships e ho).length_eq
        simp only [List.length_cons] at this
        omega
    have := ih (st.upsertRelationship e)
    rw [List.foldl_cons, List.length_cons]
    omega

theorem listRelationships_length (sc : Scene H) (tuples : List RelationshipTuple) :
    (sc.store tuples).listRelationships.length ≤ tuples.length :=
  listRelationships_foldl_length tuples sc.nodes

theorem getRelationship_store {sc : Scene H} {tuples : List RelationshipTuple}
    (hn : (tuples.map (·.id)).Nodup) {r : RelationshipTuple} :
    (sc.store tuples).getRelationship r.id = some r ↔ r ∈ tuples := by
  constructor
  · intro h
    rcases mem_of_getRelationship tuples h with hm | hs
    · exact hm
    · cases hs
  · exact fun h => getRelationship_of_mem hn h

/-! ## Nodes of a scene -/

theorem visibleSubject (sc : Scene H) (tuples : List RelationshipTuple) :
    visibleSubjectAt H (sc.store tuples) sc.subject.id sc.asOf = some sc.subject := by
  rw [visibleSubjectAt, getSubject_subject]
  exact Option.filter_eq_some_iff.2 ⟨rfl, sc.subjectVisible⟩

theorem visibleSpare {sc : Scene H} (tuples : List RelationshipTuple) {id : CanonicalId}
    (h : id ∈ sc.spareIds) :
    visibleSubjectAt H (sc.store tuples) id sc.asOf = some (sc.spare id) := by
  rw [visibleSubjectAt, getSubject_store, if_pos h]
  exact Option.filter_eq_some_iff.2 ⟨rfl, sc.subjectVisible⟩

theorem visibleResource (sc : Scene H) (tuples : List RelationshipTuple) :
    visibleResourceAt H (sc.store tuples) sc.resource.id sc.asOf = some sc.resource := by
  rw [visibleResourceAt, getResource_store, if_pos rfl]
  exact Option.filter_eq_some_iff.2 ⟨rfl, sc.resourceVisible⟩

/-- The request is admitted, whatever the tuples of the scene. -/
theorem admissible (sc : Scene H) (tuples : List RelationshipTuple) :
    Admissible H (sc.store tuples) sc.request sc.evaluatedAt sc.asOf sc.admission where
  valid := sc.valid
  past := sc.past
  subject := by
    rw [sc.subjectId]
    exact sc.visibleSubject tuples
  subjectActive := sc.subjectActive
  resource := by
    rw [sc.resourceId]
    exact sc.visibleResource tuples
  resourceActive := sc.resourceActive
  tenants := sc.tenants

theorem tenantOf_resource (sc : Scene H) (tuples : List RelationshipTuple) :
    tenantIdFor (visibleNodeAt H (sc.store tuples) sc.resource.id sc.asOf) = sc.tenant := by
  unfold visibleNodeAt
  rw [sc.visibleResource]
  split
  · rename_i s hs
    rw [visibleSubjectAt, getSubject_store, if_neg fun h => spare_ne_resource h rfl] at hs
    obtain ⟨hs, -⟩ := Option.filter_eq_some_iff.1 hs
    split at hs
    · cases hs
      rfl
    · cases hs
  · exact sc.tenants.symm

theorem tenantOf_spare {sc : Scene H} (tuples : List RelationshipTuple) {id : CanonicalId}
    (h : id ∈ sc.spareIds) :
    tenantIdFor (visibleNodeAt H (sc.store tuples) id sc.asOf) = sc.tenant := by
  unfold visibleNodeAt
  rw [visibleSpare tuples h]
  rfl

theorem active_spare {sc : Scene H} (tuples : List RelationshipTuple) {id : CanonicalId}
    (h : id ∈ sc.spareIds) :
    isActiveGraphNodeAt H (sc.store tuples) id sc.asOf = true := by
  unfold isActiveGraphNodeAt
  rw [visibleSpare tuples h]
  exact decide_eq_true sc.subjectActive

/-! ## Tuples of a scene -/

/-- The tuple is active, of the version the request asks for, and not tagged
with another tenant. -/
structure Fits (sc : Scene H) (r : RelationshipTuple) : Prop where
  active : isActiveRelationshipAt H r sc.asOf none = true
  pinned : ∀ v, truthy sc.request.tupleVersion = some v → r.version = v
  tag : stringAttribute r.attributes "tenantId" = none ∨
    stringAttribute r.attributes "tenantId" = sc.tenant

/-- A tuple of any relation that fits into the scene. -/
def tuple (sc : Scene H) (relation : String) : RelationshipTuple where
  id := "tuple"
  version := (truthy sc.request.tupleVersion).getD "tuple:v1"
  createdAt := sc.asOf
  subjectId := sc.subject.id
  relation := relation
  objectId := sc.resource.id
  sourceSystem := "scene"
  assertedAt := sc.asOf
  status := .active

theorem fits_tuple (sc : Scene H) (relation : String) : sc.Fits (sc.tuple relation) where
  active := by
    have hnow : ∀ t, gtMs t t = false := by
      intro t
      cases t <;> simp [gtMs]
    simp [isActiveRelationshipAt, tuple, isVisibleAt, hnow, truthy]
  pinned v hv := by simp [tuple, hv]
  tag := .inl rfl

end Scene

/-- The same tuple under another id and between other nodes. -/
def RelationshipTuple.place (r : RelationshipTuple) (id : CanonicalId)
    (subjectId objectId : CanonicalId) : RelationshipTuple :=
  { r with id := id, subjectId := subjectId, objectId := objectId }

/-- The caveats of a tuple do not depend on where it is. -/
theorem stepPasses_place {H : Host} {inp : CaveatInput} {r : RelationshipTuple}
    {id a b : CanonicalId} :
    stepPasses H inp (RelationshipTuple.place r id a b) = stepPasses H inp r := rfl

namespace Scene

variable {H : Host} {sc : Scene H} {model : PolicyModel} {tuples : List RelationshipTuple}

theorem Fits.place {r : RelationshipTuple} (h : sc.Fits r) (id a b : CanonicalId) :
    sc.Fits (RelationshipTuple.place r id a b) := ⟨h.active, h.pinned, h.tag⟩

/-- The options of an engine for a model and nothing else. -/
def engineFor (model : PolicyModel) : DecisionEngineOptions := { policyModel := some model }

/-- The version pins of the request under the engine for the model. -/
def pins (sc : Scene H) (model : PolicyModel) : DecisionRuntimeVersionPins :=
  normalizeDecisionRuntimeVersionPins H sc.request
    (RebacDecisionEngine.new H (engineFor model)).options sc.evaluatedAt

/-- What the searches of that decision are called with. -/
def input (sc : Scene H) (model : PolicyModel) (tuples : List RelationshipTuple) :
    TraversalInput :=
  traversalInput (.new H (engineFor model)) (sc.store tuples) sc.request (sc.pins model)
    sc.admission

/-- The decision of the scene with some tuples. -/
def outcome (sc : Scene H) (model : PolicyModel) (tuples : List RelationshipTuple) :
    DecisionContext :=
  buildDecisionContext H (.new H (engineFor model)) (sc.store tuples) sc.request sc.evaluatedAt
    (sc.pins model)

theorem admitted (sc : Scene H) (model : PolicyModel) (tuples : List RelationshipTuple) :
    admitRequest H (sc.store tuples) sc.request sc.evaluatedAt (sc.pins model) =
      .ok sc.admission := admitRequest_eq_ok.2 (sc.admissible tuples)

theorem engineFor_bounds : (RebacDecisionEngine.new H (engineFor model)).options.traversalBounds =
    DEFAULT_DECISION_TRAVERSAL_BOUNDS := rfl

theorem input_pin : (sc.input model tuples).activeRelationshipScope.pinnedTupleVersion =
    sc.request.tupleVersion := by
  simp only [input, traversalInput, pinnedTupleVersion]
  cases sc.request.tupleVersion <;> rfl

theorem usable_of_fits (hn : (tuples.map (·.id)).Nodup) {r : RelationshipTuple} (hr : r ∈ tuples)
    (hfit : sc.Fits r) (ho : r.objectId = sc.resource.id ∨ r.objectId ∈ sc.spareIds) :
    Usable H (sc.input model tuples) r where
  stored := (getRelationship_store hn).2 hr
  active := hfit.active
  pinned := by
    rw [input_pin]
    exact hfit.pinned
  tenant := by
    refine relationshipMatchesTenantBoundary_iff.2 ⟨hfit.tag, ?_⟩
    rcases ho with ho | ho
    · rw [ho]
      exact sc.tenantOf_resource tuples
    · exact tenantOf_spare tuples ho

theorem mem_of_usable {r : RelationshipTuple} (h : Usable H (sc.input model tuples) r) :
    r ∈ tuples := by
  rcases mem_of_getRelationship tuples h.stored with hm | hs
  · exact hm
  · cases hs

theorem passable_spare {id : CanonicalId} (h : id ∈ sc.spareIds) :
    Passable H (sc.input model tuples) id where
  active := active_spare tuples h
  ne := by
    have hres : (sc.input model tuples).resourceId = sc.resource.id := sc.resourceId
    rw [hres]
    exact spare_ne_resource h

theorem caveatPasses_store (tuples : List RelationshipTuple) (r : RelationshipTuple) :
    caveatPasses H ⟨sc.store tuples, model, sc.request, sc.evaluatedAt⟩ r =
      caveatPasses H (sc.caveatInput model) r := by
  refine caveatPasses_over (sc.caveatInput model) (sc.store tuples) ?_ ?_ r
  · exact (sc.getSubject_self tuples).trans (sc.getSubject_self []).symm
  · exact (sc.getResource_self tuples).trans (sc.getResource_self []).symm

theorem stepPasses_store (tuples : List RelationshipTuple) (r : RelationshipTuple) :
    stepPasses H ⟨sc.store tuples, model, sc.request, sc.evaluatedAt⟩ r =
      stepPasses H (sc.caveatInput model) r := by
  refine stepPasses_over (sc.caveatInput model) (sc.store tuples) ?_ ?_ r
  · exact (sc.getSubject_self tuples).trans (sc.getSubject_self []).symm
  · exact (sc.getResource_self tuples).trans (sc.getResource_self []).symm

/-! ## Decisions of a scene -/

/-- Four tuples at most, that point to three nodes at most. -/
structure Small (tuples : List RelationshipTuple) : Prop where
  length : tuples.length ≤ 4
  targets : (tuples.map (·.objectId)).toFinset.card ≤ 3

theorem small_of_length (h : tuples.length ≤ 3) : Small tuples where
  length := by omega
  targets := le_trans (List.toFinset_card_le _) (by rw [List.length_map]; exact h)

theorem within (sc : Scene H) (model : PolicyModel) (hsmall : Small tuples) :
    (sc.outcome model tuples).traversal.boundsExceeded = none := by
  have htargets : ((sc.store tuples).listRelationships.map (·.objectId)).toFinset.card ≤ 3 := by
    refine le_trans (Finset.card_le_card fun id hid => ?_) hsmall.targets
    obtain ⟨r, hr, hid⟩ := List.mem_map.1 (List.mem_toFinset.1 hid)
    refine List.mem_toFinset.2 (List.mem_map.2 ⟨r, ?_, hid⟩)
    rcases mem_of_getRelationship tuples (InMemoryRebacStore.mem_listRelationships.1 hr) with
      hm | hs
    · exact hm
    · cases hs
  refine decision_within (n := 4) (k := 3)
    (le_trans (sc.listRelationships_length tuples) hsmall.length) htargets ?_ ?_ ?_ <;>
    (rw [engineFor_bounds]; decide)

/-- A walk no other walk is shorter than. -/
def Shortest (sc : Scene H) (model : PolicyModel) (tuples p : List RelationshipTuple) : Prop :=
  AllowWalk H (sc.input model tuples) p ∧
    ∀ q, AllowWalk H (sc.input model tuples) q → p.length ≤ q.length

/-- **A scene is allowed** when no deny walk exists, an allow walk exists and
the shortest ones pass their caveats. -/
theorem allow_of_shortest (hnames : (model.relations.map (·.name)).Nodup) (hsmall : Small tuples)
    (hd : ¬ DenyReachable H (sc.input model tuples))
    (hw : AllowReachable H (sc.input model tuples))
    (hc : ∀ p, sc.Shortest model tuples p →
      ∀ r ∈ p, stepPasses H (sc.caveatInput model) r = true) :
    (sc.outcome model tuples).decision = .allow := by
  have hadm := sc.admitted model tuples
  have hb := sc.within model hsmall
  have hkinds : KindsApart H (sc.input model tuples) := kindsApart_compile hnames rfl
  refine decision_allow_iff.2 ⟨sc.admission, hadm, pathsAllow_of_walks ?_ ?_ ?_ ?_⟩
  · rw [outcome, buildDecisionContext, hadm] at hb
    exact hb
  · intro p hp
    exact hd (denyReachable_iff.1 ⟨p, hp⟩)
  · exact (allowReachable_iff hkinds).2 hw
  · intro hwalk hmin r hr
    exact (sc.stepPasses_store tuples r).trans (hc _ ⟨hwalk, hmin⟩ r hr)

theorem mem_of_allowWalk {p : List RelationshipTuple}
    (hp : AllowWalk H (sc.input model tuples) p) : ∀ t ∈ p, t ∈ tuples :=
  fun t ht => mem_of_usable ((allowSpace_overGraph H _).goalWalk_usable hp t ht)

theorem allow_of (hnames : (model.relations.map (·.name)).Nodup) (hsmall : Small tuples)
    (hd : ¬ DenyReachable H (sc.input model tuples))
    (hw : AllowReachable H (sc.input model tuples))
    (hc : ∀ r ∈ tuples, stepPasses H (sc.caveatInput model) r = true) :
    (sc.outcome model tuples).decision = .allow :=
  allow_of_shortest hnames hsmall hd hw fun _ hp r hr => hc r (mem_of_allowWalk hp.1 r hr)

theorem walks_of_allow (hallow : (sc.outcome model tuples).decision = .allow) :
    (∀ p, ¬ DenyWalk H (sc.input model tuples) p) ∧
      AllowWalk H (sc.input model tuples) (sc.outcome model tuples).path.relationships ∧
      ∀ r ∈ (sc.outcome model tuples).path.relationships,
        stepPasses H (sc.caveatInput model) r = true := by
  obtain ⟨a, hadm, hd, hw, hc⟩ := allow_path hallow
  have ha : a = sc.admission := by
    have h := sc.admitted model tuples
    exact Except.ok.inj ((admitRequest_eq_ok.2 hadm).symm.trans h)
  subst ha
  exact ⟨hd, hw, fun r hr => (sc.stepPasses_store tuples r).symm.trans (hc r hr)⟩

/-- An allowed scene has a shortest walk that passes its caveats. -/
theorem shortest_of_allow (hallow : (sc.outcome model tuples).decision = .allow) :
    ∃ p, sc.Shortest model tuples p ∧
      ∀ r ∈ p, stepPasses H (sc.caveatInput model) r = true := by
  obtain ⟨a, hadm, hp⟩ := decision_allow_iff.1 hallow
  obtain rfl : sc.admission = a := Except.ok.inj ((sc.admitted model tuples).symm.trans hadm)
  obtain ⟨-, hw, hmin⟩ := hp.walks
  exact ⟨_, ⟨hw, hmin⟩, fun r hr =>
    (sc.stepPasses_store tuples r).symm.trans (caveats_allow_iff.1 hp.caveats r hr)⟩

/-! ## Ways from the subject to the resource -/

/-- A grant from the subject to the resource. -/
def direct (sc : Scene H) (g : RelationshipTuple) : List RelationshipTuple :=
  [RelationshipTuple.place g "tuple:1" sc.subject.id sc.resource.id]

/-- One tuple from the subject to the middle, one on to the resource. -/
def through (sc : Scene H) (r g : RelationshipTuple) : List RelationshipTuple :=
  [RelationshipTuple.place r "tuple:1" sc.subject.id sc.middleId,
   RelationshipTuple.place g "tuple:2" sc.middleId sc.resource.id]

theorem direct_nodup (sc : Scene H) (g : RelationshipTuple) :
    ((sc.direct g).map (·.id)).Nodup := List.nodup_singleton _

theorem through_nodup (sc : Scene H) (r g : RelationshipTuple) :
    ((sc.through r g).map (·.id)).Nodup := by
  change ["tuple:1", "tuple:2"].Nodup
  decide

section
variable {r g : RelationshipTuple}

theorem allowReach_subject : AllowReach H (sc.input model tuples) sc.subject.id false := by
  have h : (sc.input model tuples).subjectId = sc.subject.id := sc.subjectId
  exact h ▸ AllowReach.subject

theorem denyReach_subject : DenyReach H (sc.input model tuples) sc.subject.id := by
  have h : (sc.input model tuples).subjectId = sc.subject.id := sc.subjectId
  exact h ▸ DenyReach.subject

theorem input_resourceId : (sc.input model tuples).resourceId = sc.resource.id := sc.resourceId

theorem allowReachable_direct (hn : (tuples.map (·.id)).Nodup) {id : CanonicalId}
    (hm : RelationshipTuple.place g id sc.subject.id sc.resource.id ∈ tuples) (hfit : sc.Fits g)
    (hg : g.relation ∈ (sc.input model tuples).allowedRelations H) :
    AllowReachable H (sc.input model tuples) :=
  ⟨_, false, allowReach_subject, usable_of_fits hn hm (hfit.place _ _ _) (.inl rfl),
    input_resourceId.symm, .inl hg⟩

theorem allowReachable_member (hn : (tuples.map (·.id)).Nodup) {id id' : CanonicalId}
    (hm : RelationshipTuple.place r id sc.subject.id sc.middleId ∈ tuples)
    (hm' : RelationshipTuple.place g id' sc.middleId sc.resource.id ∈ tuples)
    (hfit : sc.Fits r) (hfit' : sc.Fits g)
    (hr : r.relation ∈ (sc.input model tuples).compiledPolicyModel.membershipRelations)
    (ht : r.relation ∈ (sc.input model tuples).traversalRelations H)
    (hg : g.relation ∈ (sc.input model tuples).allowedRelations H) :
    AllowReachable H (sc.input model tuples) :=
  ⟨_, false, AllowReach.membership allowReach_subject
      (usable_of_fits hn hm (hfit.place _ _ _) (.inr sc.middleId_mem)) hr ht
      (passable_spare sc.middleId_mem),
    usable_of_fits hn hm' (hfit'.place _ _ _) (.inl rfl), input_resourceId.symm, .inl hg⟩

theorem allowReachable_container (hn : (tuples.map (·.id)).Nodup) {id id' : CanonicalId}
    (hm : RelationshipTuple.place g id sc.subject.id sc.middleId ∈ tuples)
    (hm' : RelationshipTuple.place r id' sc.middleId sc.resource.id ∈ tuples)
    (hfit : sc.Fits g) (hfit' : sc.Fits r)
    (hg : g.relation ∈ (sc.input model tuples).allowedRelations H)
    (hr : r.relation ∈ (sc.input model tuples).compiledPolicyModel.containmentRelations)
    (ht : r.relation ∈ (sc.input model tuples).traversalRelations H) :
    AllowReachable H (sc.input model tuples) :=
  ⟨_, true, AllowReach.grant allowReach_subject
      (usable_of_fits hn hm (hfit.place _ _ _) (.inr sc.middleId_mem)) hg
      (passable_spare sc.middleId_mem),
    usable_of_fits hn hm' (hfit'.place _ _ _) (.inl rfl), input_resourceId.symm,
    .inr ⟨hr, ht, rfl⟩⟩

/-- Without a deny relation there is no deny walk. -/
theorem not_denyReachable
    (h : ∀ r ∈ tuples, r.relation ∉ (sc.input model tuples).denyRelations H) :
    ¬ DenyReachable H (sc.input model tuples) := by
  rintro ⟨r, -, hu, -, hd⟩
  exact h r (mem_of_usable hu) hd

end

/-- The lower-cased action of the request. -/
def actionKey (sc : Scene H) : String := toLowerCase H sc.request.action

/-- The tuples are `r` and perhaps `g`, somewhere in the scene. -/
def MadeOf (r g : RelationshipTuple) (tuples : List RelationshipTuple) : Prop :=
  ∀ t ∈ tuples, ∃ id a b, t = RelationshipTuple.place r id a b ∨
    t = RelationshipTuple.place g id a b

/-- A setting in which `r` decides: there is an allow walk, and every allow
walk uses `r`. -/
structure Decisive (sc : Scene H) (model : PolicyModel) (r g : RelationshipTuple)
    (tuples : List RelationshipTuple) : Prop where
  madeOf : MadeOf r g tuples
  small : Small tuples
  reachable : AllowReachable H (sc.input model tuples)
  uses : ∀ p, AllowWalk H (sc.input model tuples) p → ∃ id a b, RelationshipTuple.place r id a b ∈ p

theorem direct_allowed (hnames : (model.relations.map (·.name)).Nodup) {g : RelationshipTuple}
    (hfit : sc.Fits g) (hg : g.relation ∈ (compilePolicyModel H model).grants sc.actionKey)
    (hc : stepPasses H (sc.caveatInput model) g = true) :
    (sc.outcome model (sc.direct g)).decision = .allow := by
  refine allow_of hnames (small_of_length (by simp [direct])) (not_denyReachable ?_)
    (allowReachable_direct (sc.direct_nodup g) (List.mem_singleton_self _) hfit hg) ?_
  · intro t ht
    obtain rfl := List.mem_singleton.1 ht
    exact carries_not_denies hnames (.inl hg)
  · intro t ht
    obtain rfl := List.mem_singleton.1 ht
    exact hc

theorem grant_of_direct {g : RelationshipTuple}
    (h : (sc.outcome model (sc.direct g)).decision = .allow) :
    g.relation ∈ (compilePolicyModel H model).grants sc.actionKey ∧
      stepPasses H (sc.caveatInput model) g = true := by
  obtain ⟨-, hw, hpass⟩ := walks_of_allow h
  obtain ⟨t, ht, hg⟩ := allowWalk_grant hw
  have hpt := hpass t ht
  obtain rfl := List.mem_singleton.1 (mem_of_allowWalk hw t ht)
  exact ⟨hg, hpt⟩

section
variable {r g : RelationshipTuple}

theorem madeOf_direct : MadeOf r g (sc.direct r) := by
  intro t ht
  rw [direct, List.mem_singleton] at ht
  exact ⟨_, _, _, .inl ht⟩

theorem madeOf_through : MadeOf r g (sc.through r g) ∧ MadeOf r g (sc.through g r) := by
  constructor <;> intro t ht <;> rw [through, List.mem_pair] at ht
  · rcases ht with ht | ht
    · exact ⟨_, _, _, .inl ht⟩
    · exact ⟨_, _, _, .inr ht⟩
  · rcases ht with ht | ht
    · exact ⟨_, _, _, .inr ht⟩
    · exact ⟨_, _, _, .inl ht⟩

/-- A grant decides when it is the only tuple. -/
theorem decisive_direct (hfit : sc.Fits r)
    (hr : r.relation ∈ (compilePolicyModel H model).grants sc.actionKey) :
    sc.Decisive model r g (sc.direct r) where
  madeOf := madeOf_direct
  small := small_of_length (by change 1 ≤ 3; omega)
  reachable := allowReachable_direct (sc.direct_nodup r) (List.mem_singleton_self _) hfit hr
  uses p hp := by
    obtain ⟨t, ht, -⟩ := (allowSpace_overGraph H _).goalWalk_target hp
    have hm := mem_of_allowWalk hp t ht
    rw [direct, List.mem_singleton] at hm
    exact ⟨_, _, _, hm ▸ ht⟩

/-- A membership decides when the grant is behind it: a walk has to leave the
subject. -/
theorem decisive_member (hfit : sc.Fits r) (hfit' : sc.Fits g)
    (hr : r.relation ∈ (compilePolicyModel H model).membershipRelations)
    (ht : r.relation ∈ (compilePolicyModel H model).traversals sc.actionKey)
    (hg : g.relation ∈ (compilePolicyModel H model).grants sc.actionKey) :
    sc.Decisive model r g (sc.through r g) where
  madeOf := madeOf_through.1
  small := small_of_length (by change 2 ≤ 3; omega)
  reachable := allowReachable_member (sc.through_nodup r g) List.mem_cons_self
    (List.mem_cons_of_mem _ (List.mem_singleton_self _)) hfit hfit' hr ht hg
  uses p hp := by
    obtain ⟨t, ht, hsub⟩ := (allowSpace_overGraph H _).goalWalk_source hp
    have hm := mem_of_allowWalk hp t ht
    rw [through, List.mem_pair] at hm
    rcases hm with rfl | rfl
    · exact ⟨_, _, _, ht⟩
    · exact absurd (hsub.trans sc.subjectId) (spare_ne_subject sc.middleId_mem)

/-- A containment decides when it is behind the grant: a walk has to arrive at
the resource. -/
theorem decisive_container (hfit : sc.Fits r) (hfit' : sc.Fits g)
    (hr : r.relation ∈ (compilePolicyModel H model).containmentRelations)
    (ht : r.relation ∈ (compilePolicyModel H model).traversals sc.actionKey)
    (hg : g.relation ∈ (compilePolicyModel H model).grants sc.actionKey) :
    sc.Decisive model r g (sc.through g r) where
  madeOf := madeOf_through.2
  small := small_of_length (by change 2 ≤ 3; omega)
  reachable := allowReachable_container (sc.through_nodup g r) List.mem_cons_self
    (List.mem_cons_of_mem _ (List.mem_singleton_self _)) hfit' hfit hg hr ht
  uses p hp := by
    obtain ⟨t, ht, hobj⟩ := (allowSpace_overGraph H _).goalWalk_target hp
    have hm := mem_of_allowWalk hp t ht
    rw [through, List.mem_pair] at hm
    rcases hm with rfl | rfl
    · exact absurd (hobj.trans sc.resourceId) (spare_ne_resource sc.middleId_mem)
    · exact ⟨_, _, _, ht⟩

/-- **A tuple that carries the action decides some scene**, with the help of
one grant. -/
theorem exists_decisive (hfit : sc.Fits r) (hfit' : sc.Fits g)
    (hr : Carries (compilePolicyModel H model) sc.actionKey r.relation)
    (hg : g.relation ∈ (compilePolicyModel H model).grants sc.actionKey) :
    ∃ tuples, sc.Decisive model r g tuples := by
  rcases hr with hgr | ⟨hm | hc, ht⟩
  · exact ⟨_, decisive_direct hfit hgr⟩
  · exact ⟨_, decisive_member hfit hfit' hm ht hg⟩
  · exact ⟨_, decisive_container hfit hfit' hc ht hg⟩

theorem not_denyReachable_of_madeOf (hnames : (model.relations.map (·.name)).Nodup)
    (hmade : MadeOf r g tuples)
    (hr : Carries (compilePolicyModel H model) sc.actionKey r.relation)
    (hg : g.relation ∈ (compilePolicyModel H model).grants sc.actionKey) :
    ¬ DenyReachable H (sc.input model tuples) := by
  refine not_denyReachable fun t ht => ?_
  obtain ⟨id, a, b, rfl | rfl⟩ := hmade t ht
  · exact carries_not_denies hnames hr
  · exact carries_not_denies hnames (.inl hg)

end

/-! ## The scene of a decision -/

/-- The scene an admitted request takes place in. -/
def ofAdmissible {st : InMemoryRebacStore} {request : DecisionRequest}
    {evaluatedAt : IsoDateTime} {a : Admission}
    (h : Admissible H st request evaluatedAt (request.asOf.getD evaluatedAt) a) : Scene H where
  subject := a.subject
  resource := a.resource
  request := request
  evaluatedAt := evaluatedAt
  subjectId := (st.subject_id _ _ (Option.filter_eq_some_iff.1 h.subject).1).symm
  resourceId := (st.resource_id _ _ (Option.filter_eq_some_iff.1 h.resource).1).symm
  valid := h.valid
  past := h.past
  subjectVisible := (Option.filter_eq_some_iff.1 h.subject).2
  subjectActive := h.subjectActive
  resourceVisible := (Option.filter_eq_some_iff.1 h.resource).2
  resourceActive := h.resourceActive
  tenants := h.tenants

section
variable {options : DecisionEngineOptions} {st : InMemoryRebacStore} {request : DecisionRequest}
  {evaluatedAt : IsoDateTime} {a : Admission}
  (h : Admissible H st request evaluatedAt (request.asOf.getD evaluatedAt) a)

include h

theorem fits_of_usable {r : RelationshipTuple}
    (hu : Usable H (traversalInput (.new H options) st request
      (normalizeDecisionRuntimeVersionPins H request (RebacDecisionEngine.new H options).options
        evaluatedAt) a) r) : (ofAdmissible h).Fits r where
  active := hu.active
  pinned v hv := by
    refine hu.pinned v ?_
    change truthy request.tupleVersion = some v at hv
    simp only [traversalInput, pinnedTupleVersion]
    cases ht : request.tupleVersion with
    | none =>
      rw [ht] at hv
      cases hv
    | some w =>
      rw [ht] at hv
      exact hv
  tag := (relationshipMatchesTenantBoundary_iff.1 hu.tenant).1

theorem caveatPasses_ofAdmissible (r : RelationshipTuple) :
    caveatPasses H ⟨st, model, request, evaluatedAt⟩ r =
      caveatPasses H ((ofAdmissible h).caveatInput model) r := by
  refine caveatPasses_over ((ofAdmissible h).caveatInput model) st ?_ ?_ r
  · exact (Option.filter_eq_some_iff.1 h.subject).1.trans
      ((ofAdmissible h).getSubject_self []).symm
  · exact (Option.filter_eq_some_iff.1 h.resource).1.trans
      ((ofAdmissible h).getResource_self []).symm

theorem stepPasses_ofAdmissible (r : RelationshipTuple) :
    stepPasses H ⟨st, model, request, evaluatedAt⟩ r =
      stepPasses H ((ofAdmissible h).caveatInput model) r := by
  refine stepPasses_over ((ofAdmissible h).caveatInput model) st ?_ ?_ r
  · exact (Option.filter_eq_some_iff.1 h.subject).1.trans
      ((ofAdmissible h).getSubject_self []).symm
  · exact (Option.filter_eq_some_iff.1 h.resource).1.trans
      ((ofAdmissible h).getResource_self []).symm

end

/-! ## A scene of the fixture -/

theorem dateParse_timestamp (H : Host) : dateParse H timestamp = some 1779382800000 := rfl

theorem dateParse_timestamp_isSome (H : Host) : (dateParse H timestamp).isSome := by
  simp [dateParse_timestamp]

theorem gtMs_timestamp (H : Host) :
    gtMs (dateParse H timestamp) (dateParse H timestamp) = false := by
  simp [gtMs, dateParse_timestamp]

theorem isVisibleAt_timestamp (H : Host) (deleted : Bool) :
    isVisibleAt H timestamp none deleted timestamp = true := by
  simp [isVisibleAt, gtMs_timestamp, truthy]

/-- Alice asks for any action on the case plan, classified in any way. -/
def fixture (H : Host) (classification action : String) (context : Option JsonRecord) :
    Scene H where
  subject := alice
  resource := { casePlan with classification := classification }
  request := { subjectId := alice.id, action := action, resourceId := casePlan.id,
               context := context }
  evaluatedAt := timestamp
  subjectId := rfl
  resourceId := rfl
  valid := dateParse_timestamp_isSome H
  past := gtMs_timestamp H
  subjectVisible := isVisibleAt_timestamp H false
  subjectActive := rfl
  resourceVisible := isVisibleAt_timestamp H false
  resourceActive := rfl
  tenants := rfl

theorem isActiveRelationshipAt_timestamp (H : Host) (id subjectId relation objectId : String) :
    isActiveRelationshipAt H (fixtureRelationship id subjectId relation objectId) timestamp none =
      true := by
  simp [isActiveRelationshipAt, fixtureRelationship, isVisibleAt_timestamp, gtMs_timestamp, truthy]

theorem fits_fixture (H : Host) (classification action : String) (context : Option JsonRecord)
    (relation : String) : (fixture H classification action context).Fits
      (fixtureRelationship "tuple" alice.id relation casePlan.id) where
  active := isActiveRelationshipAt_timestamp H _ _ _ _
  pinned _ h := nomatch (show (none : Option String) = some _ from h)
  tag := .inl rfl

end Scene

end AccessKit.L4
