import AccessKit.L2Audit.Fixtures
import AccessKit.L4Engine.ContextBounds
import AccessKit.L4Engine.DecisionCache
import AccessKit.L4Engine.Scene

/-!
# When one cache key means one decision

A PEP that finds a decision under the key of its request takes it for the
decision on its request. The key holds the labels of the versions and the recorded
instant (packages/core/src/decision-runtime.ts:268-279); the engine reads the context
itself, pins the tuple version of the request if there is one (engine.ts:257),
and records its own instant for one it cannot use (engine.ts:205-211).

Results:
* `keySound_iff`: under the labels of an engine, equal keys of two requests mean
  equal decisions on every graph and every model, exactly when requests with the
  same labels agree in whether their instant is usable, in the pinned tuple
  version and in what a condition can see of the context.
* `cacheInput_writeAll`, `revocation_unsignalled`: writes of relationships, a
  revocation among them, change nothing that a decision is kept under.
-/
namespace AccessKit.L4
open AccessKit.Core AccessKit.L1 AccessKit.L2.Store AccessKit.L2.Fixtures
  AccessKit.L2.Audit.Fixtures AccessKit.L3

/-! ## What is recorded -/

/-- The instant can be read and is not in the future. -/
def UsableAsOf (H : Host) (asOf evaluatedAt : IsoDateTime) : Prop :=
  (dateParse H asOf).isSome ∧ gtMs (dateParse H asOf) (dateParse H evaluatedAt) = false

instance (H : Host) (asOf evaluatedAt : IsoDateTime) :
    Decidable (UsableAsOf H asOf evaluatedAt) := inferInstanceAs (Decidable (_ ∧ _))

/-- The instant that is recorded for a request. -/
def recordedAsOf (H : Host) (request : DecisionRequest) (evaluatedAt : IsoDateTime) :
    IsoDateTime :=
  if UsableAsOf H (request.asOf.getD evaluatedAt) evaluatedAt then request.asOf.getD evaluatedAt
  else evaluatedAt

/-- The pins that are recorded for a request. -/
def recordedPins (H : Host) (e : RebacDecisionEngine) (request : DecisionRequest)
    (evaluatedAt : IsoDateTime) : DecisionRuntimeVersionPins :=
  { pinsOf H e request evaluatedAt with asOf := recordedAsOf H request evaluatedAt }

section
variable {H : Host} {e : RebacDecisionEngine} {st : InMemoryRebacStore}
  {request : DecisionRequest} {evaluatedAt : IsoDateTime}
  {versionPins : DecisionRuntimeVersionPins} {a : Admission}

theorem Admissible.usable {asOf : IsoDateTime} (h : Admissible H st request evaluatedAt asOf a) :
    UsableAsOf H asOf evaluatedAt := ⟨h.valid, h.past⟩

/-- A refusal keeps the pins, and the instant if it was usable. -/
theorem refusal_pins {r : Refusal}
    (h : admitRequest H st request evaluatedAt versionPins = .error r) :
    r.versionPins = { versionPins with
      asOf := if UsableAsOf H versionPins.asOf evaluatedAt then versionPins.asOf
        else evaluatedAt } := by
  unfold admitRequest admitResource at h
  cases hd : dateParse H versionPins.asOf with
  | none =>
    rw [hd] at h
    cases h
    simp [UsableAsOf, hd]
  | some t =>
    rw [hd] at h
    dsimp only at h
    by_cases hp : gtMs (some t) (dateParse H evaluatedAt) = true
    · rw [if_pos hp] at h
      cases h
      simp [UsableAsOf, hd, hp]
    · rw [if_neg hp] at h
      have hu : UsableAsOf H versionPins.asOf evaluatedAt := by simp [UsableAsOf, hd, hp]
      rw [if_pos hu]
      repeat' split at h
      all_goals cases h
      all_goals rfl

/-- A refusal of an instant says nothing about the graph. -/
theorem refusal_scope {r : Refusal}
    (h : admitRequest H st request evaluatedAt versionPins = .error r)
    (hu : ¬ UsableAsOf H versionPins.asOf evaluatedAt) : r.scope = {} := by
  unfold admitRequest at h
  split at h
  · cases h
    rfl
  · rename_i t hd
    split at h
    · cases h
      rfl
    · rename_i hp
      exact absurd (by simp [UsableAsOf, hd, hp]) hu

/-- What a search adds to a decision is not part of its key. -/
theorem decidePaths_cacheInput :
    (decidePaths H e st request evaluatedAt versionPins a).cacheInput =
      ⟨request, versionPins, evaluatedAt, a.scope.tenantId, a.scope.resourceClassification⟩ := by
  unfold decidePaths
  dsimp only
  repeat' split
  all_goals rfl

theorem evaluate_request : (evaluate H e st request evaluatedAt).cacheInput.request = request := by
  unfold evaluate buildDecisionContext
  split
  · rfl
  · rw [decidePaths_cacheInput]

theorem evaluate_evaluatedAt :
    (evaluate H e st request evaluatedAt).cacheInput.evaluatedAt = evaluatedAt := by
  unfold evaluate buildDecisionContext
  split
  · rfl
  · rw [decidePaths_cacheInput]

theorem evaluate_versionPins : (evaluate H e st request evaluatedAt).cacheInput.versionPins =
    recordedPins H e request evaluatedAt := by
  unfold evaluate buildDecisionContext
  split
  · rename_i r hr
    exact refusal_pins hr
  · rename_i a ha
    have hu : UsableAsOf H (request.asOf.getD evaluatedAt) evaluatedAt :=
      (admitRequest_eq_ok.1 ha).usable
    rw [decidePaths_cacheInput, recordedPins, recordedAsOf, if_pos hu]
    rfl

theorem deny_of_unusable (hu : ¬ UsableAsOf H (request.asOf.getD evaluatedAt) evaluatedAt) :
    (evaluate H e st request evaluatedAt).decision = .deny := by
  cases hd : (evaluate H e st request evaluatedAt).decision with
  | deny => rfl
  | allow =>
    obtain ⟨a, ha, -⟩ := decision_allow_iff.1 hd
    exact absurd (admitRequest_eq_ok.1 ha).usable hu

end

/-! ## What a condition sees of a context -/

/-- The value under a key, if a condition can compare it with anything. -/
def seenAt (context : Option JsonRecord) (key : String) : Option JsValue :=
  (valueAt context key).filter fun v => v.strictEq v

section
variable {H : Host}

/-- An array, an object or `NaN` passes no comparison. -/
theorem compareCondition_of_unseen {v : JsValue} (h : v.strictEq v = false)
    (condition : PolicyModelCaveatCondition) : compareCondition H v condition = false := by
  have hnan : ∀ n, v = .num n → n = .nan := by
    rintro n rfl
    cases n <;> simp_all [JsValue.strictEq, JsNumber.strictEq]
  have heq : ∀ w, v.strictEq w = false ∧ w.strictEq v = false := by
    intro w
    cases v with
    | num n =>
      obtain rfl := hnan n rfl
      cases w with
      | num m => cases m <;> exact ⟨rfl, rfl⟩
      | _ => exact ⟨rfl, rfl⟩
    | arr _ => cases w <;> exact ⟨rfl, rfl⟩
    | obj _ => cases w <;> exact ⟨rfl, rfl⟩
    | _ => simp [JsValue.strictEq] at h
  have hle : ∀ m : JsNumber, JsNumber.nan.le m = false ∧ m.le .nan = false := by
    intro m
    cases m with
    | inf neg => cases neg <;> exact ⟨rfl, rfl⟩
    | _ => exact ⟨rfl, rfl⟩
  unfold compareCondition
  cases condition.operator with
  | equals => exact (heq _).1
  | oneOf => cases condition.value <;> simp [heq]
  | lessThanOrEqual =>
    cases v with
    | num n =>
      obtain rfl := hnan n rfl
      cases condition.value <;> simp [hle]
    | _ => rfl
  | greaterThanOrEqual =>
    cases v with
    | num n =>
      obtain rfl := hnan n rfl
      cases condition.value <;> simp [hle]
    | _ => rfl
  | before => cases v <;> simp_all [JsValue.strictEq]
  | after => cases v <;> simp_all [JsValue.strictEq]

/-- A condition passes on a value it sees, of its type, that compares. -/
theorem condition_passes_iff {inp : CaveatInput} {r : RelationshipTuple}
    {condition : PolicyModelCaveatCondition} :
    (evaluateCaveatCondition H inp r condition).status = .pass ↔
      ∃ v, (resolveConditionValue inp r condition).filter (fun v => v.strictEq v) = some v ∧
        valueMatchesContextType H v condition.type = true ∧
        compareCondition H v condition = true := by
  unfold evaluateCaveatCondition
  cases hv : resolveConditionValue inp r condition with
  | none => simp
  | some v =>
    simp only [Option.filter_eq_some_iff, Option.some.injEq]
    by_cases ht : valueMatchesContextType H v condition.type = true
    · by_cases hc : compareCondition H v condition = true
      · have hself : v.strictEq v = true := by
          by_contra hne
          rw [compareCondition_of_unseen (by simpa using hne)] at hc
          cases hc
        simp [ht, hc, hself]
      · simp [ht, hc]
    · simp [ht]

/-- Requests that differ in their contexts pass the same caveats when nothing
that can be seen differs. -/
theorem stepPasses_of_seen {st : InMemoryRebacStore} {model : PolicyModel}
    {request request' : DecisionRequest} {evaluatedAt : IsoDateTime}
    (hs : request.subjectId = request'.subjectId) (ha : request.action = request'.action)
    (hr : request.resourceId = request'.resourceId)
    (hseen : ∀ key, seenAt request.context key = seenAt request'.context key)
    (r : RelationshipTuple) : stepPasses H ⟨st, model, request, evaluatedAt⟩ r =
      stepPasses H ⟨st, model, request', evaluatedAt⟩ r := by
  have hresolve : ∀ c : PolicyModelCaveatCondition,
      (resolveConditionValue ⟨st, model, request, evaluatedAt⟩ r c).filter (fun v => v.strictEq v) =
      (resolveConditionValue ⟨st, model, request', evaluatedAt⟩ r c).filter
        (fun v => v.strictEq v) := by
    intro c
    unfold resolveConditionValue
    cases c.source with
    | context => exact hseen c.key
    | _ => simp only [hs, hr]
  have hcaveat : ∀ name, caveatPasses H ⟨st, model, request, evaluatedAt⟩ r name =
      caveatPasses H ⟨st, model, request', evaluatedAt⟩ r name := by
    intro name
    have hstatus : ∀ c : PolicyModelCaveatCondition,
        ((evaluateCaveatCondition H ⟨st, model, request, evaluatedAt⟩ r c).status = .pass) =
        ((evaluateCaveatCondition H ⟨st, model, request', evaluatedAt⟩ r c).status = .pass) := by
      intro c
      rw [condition_passes_iff, condition_passes_iff, hresolve]
    simp only [caveatPasses, CaveatInput.caveatByName, hstatus]
  simp only [stepPasses, CaveatInput.matchingConditionals, CaveatInput.conditionalRelationships, ha,
    funext hcaveat]

end

/-! ## Equal keys -/

/-- An engine under the same labels, with its own model and bounds. -/
def DecisionEngineOptions.running (o : DecisionEngineOptions) (model : PolicyModel)
    (bounds : TraversalBoundOverrides) : DecisionEngineOptions :=
  { o with policyModel := some model, traversalBounds := bounds }

/-- What the key of a decision is made from. -/
def keyInput (H : Host) (o : DecisionEngineOptions) (st : InMemoryRebacStore)
    (request : DecisionRequest) (evaluatedAt : IsoDateTime) : DecisionCacheMetadataInput :=
  (evaluate H (.new H o) st request evaluatedAt).cacheInput

/-- On every graph and under every model, the two requests have one decision if
they have one key. -/
def KeySound (H : Host) (o : DecisionEngineOptions) (request request' : DecisionRequest)
    (evaluatedAt : IsoDateTime) : Prop :=
  ∀ model bounds st,
    NoCollision H 32 (.obj (cacheKeyRecord (keyInput H (o.running model bounds) st request
      evaluatedAt))) (.obj (cacheKeyRecord (keyInput H (o.running model bounds) st request'
      evaluatedAt))) →
    cacheKey H (keyInput H (o.running model bounds) st request evaluatedAt) =
      cacheKey H (keyInput H (o.running model bounds) st request' evaluatedAt) →
    (evaluate H (.new H (o.running model bounds)) st request evaluatedAt).decision =
      (evaluate H (.new H (o.running model bounds)) st request' evaluatedAt).decision

/-- The two requests are about one question, under the same recorded labels. -/
structure SameLabels (H : Host) (o : DecisionEngineOptions) (request request' : DecisionRequest)
    (evaluatedAt : IsoDateTime) : Prop where
  subjectId : request.subjectId = request'.subjectId
  action : request.action = request'.action
  resourceId : request.resourceId = request'.resourceId
  pins : recordedPins H (.new H o) request evaluatedAt =
    recordedPins H (.new H o) request' evaluatedAt

/-- Nothing that the labels do not tell apart matters to the decision. -/
structure LabelsTell (H : Host) (o : DecisionEngineOptions) (request request' : DecisionRequest)
    (evaluatedAt : IsoDateTime) : Prop where
  asOf : UsableAsOf H (request.asOf.getD evaluatedAt) evaluatedAt ↔
    UsableAsOf H (request'.asOf.getD evaluatedAt) evaluatedAt
  pin : UsableAsOf H (request.asOf.getD evaluatedAt) evaluatedAt →
    truthy (tuplePin (.new H o) request) = truthy (tuplePin (.new H o) request')
  context : UsableAsOf H (request.asOf.getD evaluatedAt) evaluatedAt →
    ∀ key, seenAt request.context key = seenAt request'.context key

section
variable {H : Host} {o : DecisionEngineOptions} {request request' : DecisionRequest}
  {evaluatedAt : IsoDateTime}

theorem SameLabels.symm (h : SameLabels H o request request' evaluatedAt) :
    SameLabels H o request' request evaluatedAt :=
  ⟨h.subjectId.symm, h.action.symm, h.resourceId.symm, h.pins.symm⟩

theorem SameLabels.recorded (h : SameLabels H o request request' evaluatedAt) :
    recordedAsOf H request evaluatedAt = recordedAsOf H request' evaluatedAt :=
  congrArg DecisionRuntimeVersionPins.asOf h.pins

/-- Instants that are both usable and recorded alike are the same. -/
theorem SameLabels.asOf (h : SameLabels H o request request' evaluatedAt)
    (hu : UsableAsOf H (request.asOf.getD evaluatedAt) evaluatedAt)
    (hu' : UsableAsOf H (request'.asOf.getD evaluatedAt) evaluatedAt) :
    request.asOf.getD evaluatedAt = request'.asOf.getD evaluatedAt := by
  have hr := h.recorded
  rwa [recordedAsOf, recordedAsOf, if_pos hu, if_pos hu'] at hr

theorem KeySound.symm (h : KeySound H o request request' evaluatedAt) :
    KeySound H o request' request evaluatedAt := fun model bounds st hno hkey =>
  (h model bounds st (fun he => (hno he.symm).symm) hkey.symm).symm

theorem sameLabels_of_key (hprint : PrintsNumbers H) {model : PolicyModel}
    {bounds : TraversalBoundOverrides} {st : InMemoryRebacStore}
    (hno : NoCollision H 32 (.obj (cacheKeyRecord (keyInput H (o.running model bounds) st request
      evaluatedAt))) (.obj (cacheKeyRecord (keyInput H (o.running model bounds) st request'
      evaluatedAt))))
    (hkey : cacheKey H (keyInput H (o.running model bounds) st request evaluatedAt) =
      cacheKey H (keyInput H (o.running model bounds) st request' evaluatedAt)) :
    SameLabels H o request request' evaluatedAt := by
  have h := cacheKey_same hprint hno hkey
  have hs := h.subjectId
  have ha := h.action
  have hr := h.resourceId
  have hp := h.versionPins
  unfold keyInput at hs ha hr hp
  rw [evaluate_request, evaluate_request] at hs ha hr
  rw [evaluate_versionPins, evaluate_versionPins] at hp
  exact ⟨hs, ha, hr, hp⟩

/-- Labels that tell everything make the key sound. -/
theorem keySound_of_labels (hprint : PrintsNumbers H)
    (h : SameLabels H o request request' evaluatedAt →
      LabelsTell H o request request' evaluatedAt) : KeySound H o request request' evaluatedAt := by
  intro model bounds st hno hkey
  have hl := sameLabels_of_key hprint hno hkey
  have ht := h hl
  by_cases hu : UsableAsOf H (request.asOf.getD evaluatedAt) evaluatedAt
  · exact SameQuestion.decision_eq ⟨rfl, rfl, hl.subjectId, hl.action, hl.resourceId,
      hl.asOf hu (ht.asOf.1 hu), ht.pin hu,
      stepPasses_of_seen hl.subjectId hl.action hl.resourceId (ht.context hu)⟩
  · rw [deny_of_unusable hu, deny_of_unusable (mt ht.asOf.2 hu)]

end

/-! ## A graph that tells two requests apart -/

section
variable {H : Host} {o : DecisionEngineOptions} {request request' : DecisionRequest}
  {evaluatedAt : IsoDateTime}

theorem cacheInput_of_admissible {e : RebacDecisionEngine} {st : InMemoryRebacStore}
    {a : Admission} (h : Admissible H st request evaluatedAt (request.asOf.getD evaluatedAt) a) :
    (evaluate H e st request evaluatedAt).cacheInput = ⟨request, pinsOf H e request evaluatedAt,
      evaluatedAt, a.scope.tenantId, a.scope.resourceClassification⟩ := by
  have ha : admitRequest H st request evaluatedAt (pinsOf H e request evaluatedAt) = .ok a :=
    admitRequest_eq_ok.2 h
  unfold evaluate buildDecisionContext
  rw [ha]
  exact decidePaths_cacheInput

theorem scope_of_unusable {e : RebacDecisionEngine} {st : InMemoryRebacStore}
    (hu : ¬ UsableAsOf H (request.asOf.getD evaluatedAt) evaluatedAt) :
    (evaluate H e st request evaluatedAt).cacheInput.tenantId = none ∧
      (evaluate H e st request evaluatedAt).cacheInput.resourceClassification = none := by
  unfold evaluate buildDecisionContext
  split
  · rename_i r hr
    exact ⟨congrArg CacheScope.tenantId (refusal_scope hr hu),
      congrArg CacheScope.resourceClassification (refusal_scope hr hu)⟩
  · rename_i a ha
    exact absurd (admitRequest_eq_ok.1 ha).usable hu

/-- One relation, granted for one action, behind a caveat. -/
def gate (action : String) (conditions : List PolicyModelCaveatCondition) : PolicyModel :=
  { createDefaultPolicyModel with
    relations := [⟨"granted", .grant, defaultGrantee, defaultGrantable⟩]
    actions := [⟨action, ["granted"]⟩]
    inheritanceRules := []
    denyRules := []
    caveats := some [⟨"gate", true, "DENY_GATE", conditions⟩]
    conditionalRelationships := some [⟨"granted", ["gate"], none⟩] }

theorem gate_grants {action : String} {conditions : List PolicyModelCaveatCondition} :
    "granted" ∈ (compilePolicyModel H (gate action conditions)).grants (toLowerCase H action) :=
  mem_grants.2 ⟨mem_relationNamesOfKind.2 ⟨_, List.mem_singleton_self _, rfl, rfl⟩,
    _, List.mem_singleton_self _, rfl, List.mem_singleton_self _⟩

/-- A grant passes the gate when it passes every condition. -/
theorem gate_passes {action : String} {conditions : List PolicyModelCaveatCondition}
    {st : InMemoryRebacStore} {r : RelationshipTuple} (hr : r.relation = "granted") :
    stepPasses H ⟨st, gate action conditions, request, evaluatedAt⟩ r =
      conditions.all fun c => (evaluateCaveatCondition H
        ⟨st, gate action conditions, request, evaluatedAt⟩ r c).status = .pass := by
  have hone : CaveatInput.matchingConditionals
      ⟨st, gate action conditions, request, evaluatedAt⟩ r.relation =
        [⟨"granted", ["gate"], none⟩] := by
    rw [hr]
    rfl
  rw [stepPasses, hone]
  simp only [List.all_cons, List.all_nil, Bool.and_true]
  rfl

/-- The scene of a request: a subject and a resource of a classification under its
ids, both there since the instant it asks about, and the tuple version pinned. -/
def askedScene (H : Host) (o : DecisionEngineOptions) (request : DecisionRequest)
    (evaluatedAt : IsoDateTime) (classification : String)
    (hu : UsableAsOf H (request.asOf.getD evaluatedAt) evaluatedAt) : Scene H where
  subject := { fixtureSubject request.subjectId .user "Subject" .active with
    createdAt := request.asOf.getD evaluatedAt }
  resource := { fixtureResource request.resourceId .document "Resource" none with
    createdAt := request.asOf.getD evaluatedAt
    classification := classification }
  request := { request with tupleVersion := tuplePin (.new H o) request }
  evaluatedAt := evaluatedAt
  subjectId := rfl
  resourceId := rfl
  valid := hu.1
  past := hu.2
  subjectVisible := by
    rw [isVisibleAt_undeleted]
    cases dateParse H (request.asOf.getD evaluatedAt) <;> simp [gtMs]
  subjectActive := rfl
  resourceVisible := by
    rw [isVisibleAt_undeleted]
    cases dateParse H (request.asOf.getD evaluatedAt) <;> simp [gtMs]
  resourceActive := rfl
  tenants := rfl

theorem tuplePin_asked {model : PolicyModel} : tuplePin (.new H (Scene.engineFor model))
    { request with tupleVersion := tuplePin (.new H o) request } =
      tuplePin (.new H o) request := by
  cases h : tuplePin (.new H o) request with
  | none => simp [tuplePin, RebacDecisionEngine.new, Scene.engineFor, truthy]
  | some v => rfl

/-- The one tuple of the scene. -/
def grantOf (sc : Scene H) (version : String) : RelationshipTuple :=
  { sc.tuple "granted" with version := version }

theorem fits_grantOf {sc : Scene H} {version : String}
    (h : ∀ v, truthy sc.request.tupleVersion = some v → version = v) :
    sc.Fits (grantOf sc version) := ⟨(sc.fits_tuple "granted").active, h, .inl rfl⟩

section
variable {conditions : List PolicyModelCaveatCondition} {classification version : String}
  (hu : UsableAsOf H (request.asOf.getD evaluatedAt) evaluatedAt)

/-- The graph of the scene with that tuple. -/
def askedStore (H : Host) (o : DecisionEngineOptions) (request : DecisionRequest)
    (evaluatedAt : IsoDateTime) (classification : String)
    (hu : UsableAsOf H (request.asOf.getD evaluatedAt) evaluatedAt) (version : String) :
    InMemoryRebacStore :=
  let sc := askedScene H o request evaluatedAt classification hu
  sc.store (sc.direct (grantOf sc version))

/-- The engine of the labels for the gated model. -/
abbrev gateEngine (H : Host) (o : DecisionEngineOptions) (action : String)
    (conditions : List PolicyModelCaveatCondition) : RebacDecisionEngine :=
  .new H (o.running (gate action conditions) {})

include hu in
/-- The request is allowed there when it pins the version of the tuple, or none,
and passes the conditions. -/
theorem asked_allowed
    (hpin : ∀ v, truthy (tuplePin (.new H o) request) = some v → version = v)
    (hpass : ∀ c ∈ conditions, (evaluateCaveatCondition H
      ⟨askedStore H o request evaluatedAt classification hu version,
        gate request.action conditions, request, evaluatedAt⟩
      (grantOf (askedScene H o request evaluatedAt classification hu) version) c).status = .pass) :
    (evaluate H (gateEngine H o request.action conditions)
      (askedStore H o request evaluatedAt classification hu version) request
      evaluatedAt).decision = .allow := by
  have hallow := @Scene.direct_allowed H (askedScene H o request evaluatedAt classification hu)
    (gate request.action conditions) (List.nodup_singleton _) _ (fits_grantOf hpin)
    gate_grants (by
      rw [← Scene.stepPasses_store ((askedScene H o request evaluatedAt classification hu).direct
        (grantOf (askedScene H o request evaluatedAt classification hu) version)),
        gate_passes rfl]
      exact List.all_eq_true.2 fun c hc => decide_eq_true (hpass c hc))
  have hsame : SameQuestion H (gateEngine H o request.action conditions)
      (.new H (Scene.engineFor (gate request.action conditions)))
      (askedStore H o request evaluatedAt classification hu version) request
      (askedScene H o request evaluatedAt classification hu).request evaluatedAt :=
    ⟨rfl, rfl, rfl, rfl, rfl, rfl, congrArg truthy tuplePin_asked.symm, fun _ => rfl⟩
  exact hsame.decision_eq.trans hallow

include hu in
/-- An allow there pins the version of the tuple, or none, and passes the
conditions. -/
theorem of_asked_allowed {action : String}
    (h : (evaluate H (gateEngine H o action conditions)
      (askedStore H o request evaluatedAt classification hu version) request'
      evaluatedAt).decision = .allow) :
    (∀ v, truthy (tuplePin (.new H o) request') = some v → version = v) ∧
      ∃ r, ∀ c ∈ conditions, (evaluateCaveatCondition H
        ⟨askedStore H o request evaluatedAt classification hu version, gate action conditions,
          request', evaluatedAt⟩ r c).status = .pass := by
  obtain ⟨a, -, -, hw, hpass⟩ := allow_path h
  obtain ⟨t, ht, -⟩ := allowWalk_grant hw
  have hused := (allowSpace_overGraph H _).goalWalk_usable hw t ht
  have hmem : t = RelationshipTuple.place
      (grantOf (askedScene H o request evaluatedAt classification hu) version)
      "tuple:1" request.subjectId request.resourceId := by
    rcases Scene.mem_of_getRelationship _ hused.stored with hm | hm
    · exact List.mem_singleton.1 hm
    · cases hm
  refine ⟨fun v hv => ?_, t, ?_⟩
  · have hpinned := hused.pinned v (by
      simp only [traversalInput, pinnedTupleVersion_normalize]
      exact hv)
    rw [hmem] at hpinned
    exact hpinned
  · have hgate := hpass t ht
    have hgranted : t.relation = "granted" := by
      rw [hmem]
      rfl
    have hmodel : (RebacDecisionEngine.new H (o.running (gate action conditions) {})).policyModel =
      gate action conditions := rfl
    rw [hmodel, gate_passes hgranted] at hgate
    exact fun c hc => of_decide_eq_true (List.all_eq_true.1 hgate c hc)

variable (classification version) in
theorem asked_admissible :
    Admissible H (askedStore H o request evaluatedAt classification hu version) request
      evaluatedAt (request.asOf.getD evaluatedAt)
      (askedScene H o request evaluatedAt classification hu).admission := by
  have h := (askedScene H o request evaluatedAt classification hu).admissible
    ((askedScene H o request evaluatedAt classification hu).direct
      (grantOf (askedScene H o request evaluatedAt classification hu) version))
  exact ⟨h.valid, h.past, h.subject, h.subjectActive, h.resource, h.resourceActive, h.tenants⟩

variable (classification version) in
/-- A request with the same labels is admitted there too, at a usable instant. -/
theorem asked_admissible_of_labels (hl : SameLabels H o request request' evaluatedAt)
    (hu' : UsableAsOf H (request'.asOf.getD evaluatedAt) evaluatedAt) :
    Admissible H (askedStore H o request evaluatedAt classification hu version) request'
      evaluatedAt (request'.asOf.getD evaluatedAt)
      (askedScene H o request evaluatedAt classification hu).admission := by
  have hadm := asked_admissible (o := o) classification version hu
  rw [← hl.asOf hu hu']
  exact ⟨hadm.valid, hadm.past, hl.subjectId ▸ hadm.subject, hadm.subjectActive,
    hl.resourceId ▸ hadm.resource, hadm.resourceActive, hadm.tenants⟩

variable (conditions classification version) in
theorem asked_key (hl : SameLabels H o request request' evaluatedAt) (action : String) :
    SameKeyFields
      (keyInput H (o.running (gate action conditions) {})
        (askedStore H o request evaluatedAt classification hu version) request evaluatedAt)
      (keyInput H (o.running (gate action conditions) {})
        (askedStore H o request evaluatedAt classification hu version) request' evaluatedAt) := by
  have hadm := asked_admissible (o := o) classification version hu
  unfold keyInput
  refine ⟨?_, ?_, ?_, ?_, ?_⟩
  · by_cases hu' : UsableAsOf H (request'.asOf.getD evaluatedAt) evaluatedAt
    · rw [cacheInput_of_admissible hadm,
        cacheInput_of_admissible (asked_admissible_of_labels classification version hu hl hu')]
    · rw [cacheInput_of_admissible hadm, (scope_of_unusable hu').1]
      rfl
  · rw [evaluate_request, evaluate_request, hl.subjectId]
  · rw [evaluate_request, evaluate_request, hl.action]
  · rw [evaluate_request, evaluate_request, hl.resourceId]
  · rw [evaluate_versionPins, evaluate_versionPins]
    exact hl.pins

end

/-- On the graphs of the scene, with any gate, what allows the one request allows the
other. -/
def AllowsAlike (H : Host) (o : DecisionEngineOptions) (request request' : DecisionRequest)
    (evaluatedAt : IsoDateTime) (classification : String)
    (hu : UsableAsOf H (request.asOf.getD evaluatedAt) evaluatedAt) : Prop :=
  ∀ conditions version, (∀ v, truthy (tuplePin (.new H o) request) = some v → version = v) →
    (∀ c ∈ conditions, (evaluateCaveatCondition H
      ⟨askedStore H o request evaluatedAt classification hu version,
        gate request.action conditions, request, evaluatedAt⟩
      (grantOf (askedScene H o request evaluatedAt classification hu) version) c).status = .pass) →
    (evaluate H (gateEngine H o request.action conditions)
      (askedStore H o request evaluatedAt classification hu version) request'
      evaluatedAt).decision = .allow

theorem KeySound.alike (hs : KeySound H o request request' evaluatedAt)
    (hl : SameLabels H o request request' evaluatedAt) (classification : String)
    (hu : UsableAsOf H (request.asOf.getD evaluatedAt) evaluatedAt) :
    AllowsAlike H o request request' evaluatedAt classification hu := by
  intro conditions version hpin hpass
  have hkey := asked_key conditions classification version hu hl request.action
  refine (hs _ _ _ (fun _ => ?_) hkey.key).symm.trans (asked_allowed hu hpin hpass)
  rw [hkey.record]

/-! ## What that says of the labels -/

section
variable {classification : String} {hu : UsableAsOf H (request.asOf.getD evaluatedAt) evaluatedAt}

theorem AllowsAlike.usable (hs : AllowsAlike H o request request' evaluatedAt classification hu) :
    UsableAsOf H (request'.asOf.getD evaluatedAt) evaluatedAt := by
  by_contra hu'
  have hallow := hs [] ((truthy (tuplePin (.new H o) request)).getD "")
    (fun v hv => by rw [hv]; rfl) (fun c hc => absurd hc List.not_mem_nil)
  rw [deny_of_unusable hu'] at hallow
  cases hallow

theorem AllowsAlike.pinned (hs : AllowsAlike H o request request' evaluatedAt classification hu)
    {w : String} (hw : truthy (tuplePin (.new H o) request') = some w) :
    truthy (tuplePin (.new H o) request) = some w := by
  cases hv : truthy (tuplePin (.new H o) request) with
  | some v =>
    have hallow := hs [] v (fun v' hv' => Option.some.inj (hv.symm.trans hv'))
      (fun c hc => absurd hc List.not_mem_nil)
    rw [(of_asked_allowed hu hallow).1 w hw]
  | none =>
    -- a tuple of another version, which an unpinned request finds
    have hallow := hs [] (w ++ "+") (fun v' hv' => by rw [hv] at hv'; cases hv')
      (fun c hc => absurd hc List.not_mem_nil)
    have hlength := congrArg String.length ((of_asked_allowed hu hallow).1 w hw)
    have hone : "+".length = 1 := rfl
    rw [String.length_append] at hlength
    omega

end

theorem exists_type_of_seen {context : Option JsonRecord} {key : String} {v : JsValue}
    (h : seenAt context key = some v) :
    ∃ type, valueMatchesContextType H v type = true := by
  obtain ⟨hv, hself⟩ := Option.filter_eq_some_iff.1 h
  unfold valueAt at hv
  cases v with
  | bool b => exact ⟨.boolean, rfl⟩
  | num n => exact ⟨.number, rfl⟩
  | str s => exact ⟨.string, rfl⟩
  | arr items => cases hself
  | obj fields => cases hself
  | undefined =>
    cases context with
    | none => cases hv
    | some record =>
      dsimp only at hv
      split at hv
      · cases hv
      · rename_i hn
        simp [Option.some.inj hv, JsValue.isUndefined] at hn
  | null =>
    cases context with
    | none => cases hv
    | some record =>
      dsimp only at hv
      split at hv
      · cases hv
      · rename_i hn
        simp [Option.some.inj hv, JsValue.isNull] at hn

theorem AllowsAlike.seen {classification : String}
    {hu : UsableAsOf H (request.asOf.getD evaluatedAt) evaluatedAt}
    (hs : AllowsAlike H o request request' evaluatedAt classification hu) {key : String}
    {v : JsValue} (hv : seenAt request.context key = some v) :
    seenAt request'.context key = some v := by
  obtain ⟨type, htype⟩ := exists_type_of_seen (H := H) hv
  have hself : v.strictEq v = true := (Option.filter_eq_some_iff.1 hv).2
  have hallow := hs [⟨.context, key, type, .equals, v⟩]
    ((truthy (tuplePin (.new H o) request)).getD "")
    (fun v hv => by rw [hv]; rfl) (fun c hc => by
      obtain rfl := List.mem_singleton.1 hc
      exact condition_passes_iff.2 ⟨v, hv, htype, hself⟩)
  obtain ⟨r, hpass⟩ := (of_asked_allowed hu hallow).2
  obtain ⟨v', hv', -, heq⟩ := condition_passes_iff.1 (hpass _ (List.mem_singleton_self _))
  have hsame : v' = v := ((strictEq_iff htype).1 heq).1
  rw [← hsame]
  exact hv'

/-- **When one key means one decision**: when requests that the labels do not
tell apart do not differ in anything else the engine reads. -/
theorem keySound_iff (hprint : PrintsNumbers H) : KeySound H o request request' evaluatedAt ↔
    (SameLabels H o request request' evaluatedAt →
      LabelsTell H o request request' evaluatedAt) := by
  refine ⟨fun hs hl => ?_, keySound_of_labels hprint⟩
  have halike := hs.alike hl "internal"
  have halike' := hs.symm.alike hl.symm "internal"
  refine ⟨⟨fun hu => (halike hu).usable, fun hu => (halike' hu).usable⟩, fun hu => ?_,
    fun hu key => ?_⟩
  · have hu' := (halike hu).usable
    exact Option.ext fun w => ⟨(halike' hu').pinned, (halike hu).pinned⟩
  · have hu' := (halike hu).usable
    exact Option.ext fun v => ⟨(halike hu).seen, (halike' hu').seen⟩

/-- Writing the default tuple version into a request keeps its labels and
pins what was not pinned. -/
theorem keySound_default_version :
    KeySound exactHost {} writePlan writePlan timestamp ∧
    ¬ KeySound exactHost {} writePlan
      { writePlan with tupleVersion := some "tuple:v1" } timestamp := by
  refine ⟨(keySound_iff printsNumbers_exact).2 fun _ => ⟨.rfl, fun _ => rfl, fun _ _ => rfl⟩,
    fun hs => ?_⟩
  have htell := (keySound_iff printsNumbers_exact).1 hs ⟨rfl, rfl, rfl, rfl⟩
  have hpin := htell.pin ⟨Scene.dateParse_timestamp_isSome _, Scene.gtMs_timestamp _⟩
  cases hpin

end

/-! ## Writes that no signal shows -/

section
variable {H : Host} {e : RebacDecisionEngine} {st : InMemoryRebacStore}
  {request : DecisionRequest} {evaluatedAt : IsoDateTime}

/-- A decision is kept under nothing that such writes change. -/
theorem cacheInput_writeAll {ws : List GraphWrite}
    (hs : ∀ w ∈ ws, ¬ w.AboutNode request.subjectId)
    (hr : ∀ w ∈ ws, ¬ w.AboutNode request.resourceId) :
    (evaluate H e (st.writeAll ws) request evaluatedAt).cacheInput =
      (evaluate H e st request evaluatedAt).cacheInput := by
  have hsame : admitRequest H (st.writeAll ws) request evaluatedAt
      (pinsOf H e request evaluatedAt) =
        admitRequest H st request evaluatedAt (pinsOf H e request evaluatedAt) := by
    unfold admitRequest admitResource visibleSubjectAt visibleResourceAt
    simp only [InMemoryRebacStore.getSubject_writeAll hs,
      InMemoryRebacStore.getResource_writeAll hr]
  unfold evaluate buildDecisionContext
  rw [hsame]
  cases admitRequest H st request evaluatedAt (pinsOf H e request evaluatedAt) with
  | error r => rfl
  | ok a => exact decidePaths_cacheInput.trans decidePaths_cacheInput.symm

/-- Admitted at two instants, a request has the same signals at both when the
records of its nodes are the same. -/
theorem signals_admitted {st' : InMemoryRebacStore} {evaluatedAt' : IsoDateTime} {a a' : Admission}
    (h : Admissible H st request evaluatedAt (request.asOf.getD evaluatedAt) a)
    (h' : Admissible H st' request evaluatedAt' (request.asOf.getD evaluatedAt') a')
    (hs : st'.getSubject request.subjectId = st.getSubject request.subjectId)
    (hr : st'.getResource request.resourceId = st.getResource request.resourceId) :
    invalidationSignals H (evaluate H e st' request evaluatedAt').cacheInput =
      invalidationSignals H (evaluate H e st request evaluatedAt).cacheInput := by
  have hsubject : a'.subject = a.subject := by
    have hv := (Option.filter_eq_some_iff.1 h.subject).1
    have hv' := (Option.filter_eq_some_iff.1 h'.subject).1
    exact Option.some.inj (hv'.symm.trans (hs.trans hv))
  have hresource : a'.resource = a.resource := by
    have hv := (Option.filter_eq_some_iff.1 h.resource).1
    have hv' := (Option.filter_eq_some_iff.1 h'.resource).1
    exact Option.some.inj (hv'.symm.trans (hr.trans hv))
  obtain ⟨subject, resource⟩ := a
  obtain ⟨_, _⟩ := a'
  cases hsubject
  cases hresource
  rw [cacheInput_of_admissible h, cacheInput_of_admissible h']
  rfl

/-! ## A revocation -/

theorem not_active_of_deleted {r : RelationshipTuple} {deletedAt asOf : IsoDateTime}
    (h : leMs (dateParse H deletedAt) (dateParse H asOf) = true) :
    isActiveRelationshipAt H (InMemoryRebacStore.markDeleted r deletedAt) asOf none = false := by
  unfold isActiveRelationshipAt isVisibleAt
  by_cases hd : deletedAt = ""
  · simp [InMemoryRebacStore.markDeleted, truthy, hd]
  · simp [InMemoryRebacStore.markDeleted, truthy, hd, h]

/-- Deletes every tuple of the subject. -/
def revocations (st : InMemoryRebacStore) (subjectId : CanonicalId) (deletedAt : IsoDateTime) :
    List GraphWrite :=
  (st.listRelationshipsForSubject subjectId).map fun r => .deleteRelationship r.id deletedAt

theorem not_aboutNode_of_revocation {subjectId id : CanonicalId} {deletedAt : IsoDateTime} :
    ∀ w ∈ revocations st subjectId deletedAt, ¬ w.AboutNode id := by
  intro w hw habout
  obtain ⟨r, -, rfl⟩ := List.mem_map.1 hw
  exact habout

theorem getRelationship_deleteAll {ids : List CanonicalId} {deletedAt : IsoDateTime}
    {id : CanonicalId} : (st.writeAll (ids.map fun i => .deleteRelationship i deletedAt)
      ).getRelationship id =
        if id ∈ ids then (st.getRelationship id).map fun r =>
          InMemoryRebacStore.markDeleted r deletedAt
        else st.getRelationship id := by
  induction ids generalizing st with
  | nil => rfl
  | cons i ids ih =>
    refine ih.trans ?_
    simp only [InMemoryRebacStore.write, InMemoryRebacStore.getRelationship_delete]
    by_cases hi : i = id
    · subst hi
      cases st.getRelationship i <;> simp [InMemoryRebacStore.markDeleted]
    · simp [hi, Ne.symm hi]

/-- After it, no tuple of the subject is followed. -/
theorem not_usable_of_revoked {i : TraversalInput} {deletedAt : IsoDateTime}
    {subjectId : CanonicalId} {r : RelationshipTuple}
    (hstore : i.store = st.writeAll (revocations st subjectId deletedAt))
    (hd : leMs (dateParse H deletedAt) (dateParse H i.activeRelationshipScope.asOf) = true)
    (hsubject : r.subjectId = subjectId) : ¬ Usable H i r := by
  intro hu
  have hstored := hu.stored
  have hids : revocations st subjectId deletedAt = ((st.listRelationshipsForSubject subjectId).map
      (·.id)).map fun i => .deleteRelationship i deletedAt := by
    rw [List.map_map]
    rfl
  rw [hstore, hids, getRelationship_deleteAll] at hstored
  by_cases hmem : r.id ∈ (st.listRelationshipsForSubject subjectId).map (·.id)
  · rw [if_pos hmem] at hstored
    obtain ⟨r', -, rfl⟩ := Option.map_eq_some_iff.1 hstored
    exact absurd hu.active (by simp [not_active_of_deleted hd])
  · rw [if_neg hmem] at hstored
    exact hmem (List.mem_map_of_mem
      (InMemoryRebacStore.mem_listRelationshipsForSubject.2 ⟨hstored, hsubject⟩))

/-- **No signal shows a revocation**: a later decision under the deletion of
every tuple of the subject is a deny, with the signals of the earlier one. -/
theorem revocation_unsignalled {o : DecisionEngineOptions} {evaluatedAt' deletedAt : IsoDateTime}
    {a a' : Admission}
    (h : Admissible H st request evaluatedAt (request.asOf.getD evaluatedAt) a)
    (h' : Admissible H st request evaluatedAt' (request.asOf.getD evaluatedAt') a')
    (hd : leMs (dateParse H deletedAt) (dateParse H (request.asOf.getD evaluatedAt')) = true) :
    let revoked := st.writeAll (revocations st request.subjectId deletedAt)
    (evaluate H (.new H o) revoked request evaluatedAt').decision = .deny ∧
      invalidationSignals H (evaluate H (.new H o) revoked request evaluatedAt').cacheInput =
        invalidationSignals H (evaluate H (.new H o) st request evaluatedAt).cacheInput := by
  intro revoked
  have hnodes : (evaluate H (.new H o) revoked request evaluatedAt').cacheInput =
      (evaluate H (.new H o) st request evaluatedAt').cacheInput :=
    cacheInput_writeAll not_aboutNode_of_revocation not_aboutNode_of_revocation
  refine ⟨?_, (congrArg _ hnodes).trans (signals_admitted h h' rfl rfl)⟩
  cases hdecision : (evaluate H (.new H o) revoked request evaluatedAt').decision with
  | deny => rfl
  | allow =>
    obtain ⟨b, -, -, hw, -⟩ := allow_path hdecision
    obtain ⟨r, hr, hsubject⟩ := (allowSpace_overGraph H _).goalWalk_source hw
    exact absurd ((allowSpace_overGraph H _).goalWalk_usable hw r hr)
      (not_usable_of_revoked rfl hd hsubject)

/-- Alice is granted a read; her tuple is deleted at once. -/
theorem revocation_fixture :
    let sc := Scene.fixture exactHost "internal" "read" none
    let st := sc.store (sc.direct (sc.tuple "granted"))
    let engine := RebacDecisionEngine.new exactHost (Scene.engineFor (gate "read" []))
    let granted := evaluate exactHost engine st sc.request timestamp
    let revoked := evaluate exactHost engine
      (st.writeAll (revocations st sc.request.subjectId timestamp)) sc.request timestamp
    granted.decision = .allow ∧ revoked.decision = .deny ∧
      invalidationSignals exactHost revoked.cacheInput =
        invalidationSignals exactHost granted.cacheInput := by
  intro sc st engine granted revoked
  have hadmissible := sc.admissible (sc.direct (sc.tuple "granted"))
  have hnames : ((gate "read" []).relations.map (·.name)).Nodup := List.nodup_singleton _
  refine ⟨Scene.direct_allowed hnames (sc.fits_tuple "granted") gate_grants rfl,
    revocation_unsignalled hadmissible hadmissible (by decide)⟩

end

end AccessKit.L4
