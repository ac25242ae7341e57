import AccessKit.L4Engine.CacheSoundness

/-!
# Decisions that share a key

Status: open.

`createDecisionCacheMetadata` (packages/core/src/decision-runtime.ts:252-306) makes the key
of a decision from the labels of the versions, and docs/decisions.md says that any change to
the version pins and to the instant changes the key. A request without a tuple version is
labelled with the default (decision-runtime.ts:183-196), though the engine then pins none
(engine.ts:255-258); an instant that cannot be used is recorded as the present one
(engine.ts:205-211); and a context that comes with a version is known by the version only.

Counterexample (`default_pin_shared`): a write through a membership of version `tuple:v2`
is allowed to a request without a tuple version and denied to one that pins `tuple:v1`.

Exact condition (`metadataSound_iff`): requests under the same labels agree in whether
their instants can be used, and if they can, in the pinned tuple version and in what a
condition sees of the context.
-/
namespace AccessKit.Bugs.SharedKeys
open AccessKit.Core AccessKit.L1 AccessKit.L2.Audit.Fixtures AccessKit.L2.Fixtures
  AccessKit.L2.Store AccessKit.L3 AccessKit.L4

/-! ## The law -/

/-- What is claimed of two requests at one instant: decisions whose metadata have one key,
on any graph and under any model and bounds, are the same. -/
def MetadataSound (H : Host) (o : DecisionEngineOptions) (request request' : DecisionRequest)
    (evaluatedAt : IsoDateTime) : Prop :=
  ∀ model bounds st metadata metadata',
    decisionCache H (.new H (o.running model bounds)) st request evaluatedAt = .ok metadata →
    decisionCache H (.new H (o.running model bounds)) st request' evaluatedAt = .ok metadata' →
    NoCollision H 32 (.obj (cacheKeyRecord (keyInput H (o.running model bounds) st request
      evaluatedAt))) (.obj (cacheKeyRecord (keyInput H (o.running model bounds) st request'
      evaluatedAt))) →
    metadata.key = metadata'.key →
    (evaluate H (.new H (o.running model bounds)) st request evaluatedAt).decision =
      (evaluate H (.new H (o.running model bounds)) st request' evaluatedAt).decision

/-- Nothing that the labels do not tell apart matters to the decisions, as far as there are
metadata at the instant. -/
structure KeyTells (H : Host) (o : DecisionEngineOptions) (request request' : DecisionRequest)
    (evaluatedAt : IsoDateTime) : Prop where
  asOf : Expires H evaluatedAt none →
    (UsableAsOf H (request.asOf.getD evaluatedAt) evaluatedAt ↔
      UsableAsOf H (request'.asOf.getD evaluatedAt) evaluatedAt)
  pin : ∀ classification, Expires H evaluatedAt (some classification) →
    UsableAsOf H (request.asOf.getD evaluatedAt) evaluatedAt →
    UsableAsOf H (request'.asOf.getD evaluatedAt) evaluatedAt →
    truthy (tuplePin (.new H o) request) = truthy (tuplePin (.new H o) request')
  context : ∀ classification, Expires H evaluatedAt (some classification) →
    UsableAsOf H (request.asOf.getD evaluatedAt) evaluatedAt →
    UsableAsOf H (request'.asOf.getD evaluatedAt) evaluatedAt →
    ∀ key, seenAt request.context key = seenAt request'.context key

section
variable {H : Host} {o : DecisionEngineOptions} {request request' : DecisionRequest}
  {evaluatedAt : IsoDateTime}

theorem MetadataSound.symm (h : MetadataSound H o request request' evaluatedAt) :
    MetadataSound H o request' request evaluatedAt :=
  fun model bounds st metadata metadata' hm hm' hno hkey =>
    (h model bounds st metadata' metadata hm' hm (fun he => (hno he.symm).symm) hkey.symm).symm

/-! ## Labels that tell -/

theorem expires_of_allow {e : RebacDecisionEngine} {st : InMemoryRebacStore}
    {metadata : DecisionCacheMetadata}
    (hm : decisionCache H e st request evaluatedAt = .ok metadata)
    (ha : (evaluate H e st request evaluatedAt).decision = .allow) :
    ∃ classification, Expires H evaluatedAt (some classification) := by
  obtain ⟨a, hadm, -⟩ := decision_allow_iff.1 ha
  have hexpires := exists_metadata.1 ⟨metadata, hm⟩
  rw [cacheInput_of_admissible (admitRequest_eq_ok.1 hadm)] at hexpires
  exact ⟨_, hexpires⟩

theorem usable_of_allow {e : RebacDecisionEngine} {st : InMemoryRebacStore}
    (ha : (evaluate H e st request evaluatedAt).decision = .allow) :
    UsableAsOf H (request.asOf.getD evaluatedAt) evaluatedAt := by
  by_contra hu
  rw [deny_of_unusable hu] at ha
  cases ha

theorem allow_of_key (hprint : PrintsNumbers H)
    (h : SameLabels H o request request' evaluatedAt → KeyTells H o request request' evaluatedAt)
    {model : PolicyModel} {bounds : TraversalBoundOverrides} {st : InMemoryRebacStore}
    {metadata metadata' : DecisionCacheMetadata}
    (hm : decisionCache H (.new H (o.running model bounds)) st request evaluatedAt = .ok metadata)
    (hm' : decisionCache H (.new H (o.running model bounds)) st request' evaluatedAt =
      .ok metadata')
    (hno : NoCollision H 32 (.obj (cacheKeyRecord (keyInput H (o.running model bounds) st request
      evaluatedAt))) (.obj (cacheKeyRecord (keyInput H (o.running model bounds) st request'
      evaluatedAt))))
    (hkey : metadata.key = metadata'.key)
    (ha : (evaluate H (.new H (o.running model bounds)) st request evaluatedAt).decision =
      .allow) :
    (evaluate H (.new H (o.running model bounds)) st request' evaluatedAt).decision = .allow := by
  rw [(metadata_ok hm).1, (metadata_ok hm').1] at hkey
  have hl : SameLabels H o request request' evaluatedAt := sameLabels_of_key hprint hno hkey
  obtain ⟨classification, hexpires⟩ := expires_of_allow hm ha
  have hu := usable_of_allow ha
  have hu' : UsableAsOf H (request'.asOf.getD evaluatedAt) evaluatedAt := by
    by_contra hne
    have hexpires' := exists_metadata.1 ⟨metadata', hm'⟩
    rw [(scope_of_unusable hne).2, evaluate_evaluatedAt] at hexpires'
    exact hne (((h hl).asOf hexpires').1 hu)
  exact SameQuestion.allow ⟨rfl, rfl, hl.subjectId, hl.action, hl.resourceId, hl.asOf hu hu',
    (h hl).pin classification hexpires hu hu', stepPasses_of_seen hl.subjectId hl.action
      hl.resourceId ((h hl).context classification hexpires hu hu')⟩ ha

theorem KeyTells.symm (h : KeyTells H o request request' evaluatedAt) :
    KeyTells H o request' request evaluatedAt :=
  ⟨fun hexpires => (h.asOf hexpires).symm,
    fun classification hexpires hu hu' => (h.pin classification hexpires hu' hu).symm,
    fun classification hexpires hu hu' key => (h.context classification hexpires hu' hu key).symm⟩

/-! ## What a sound key tells -/

theorem exists_asked (classification version : String) (model : PolicyModel)
    (hu : UsableAsOf H (request.asOf.getD evaluatedAt) evaluatedAt)
    (hexpires : Expires H evaluatedAt (some classification)) :
    ∃ metadata, decisionCache H (.new H (o.running model {}))
      (askedStore H o request evaluatedAt classification hu version) request evaluatedAt =
        .ok metadata := by
  refine exists_metadata.2 ?_
  rw [cacheInput_of_admissible (asked_admissible classification version hu)]
  exact hexpires

/-- A sound key answers two requests alike there, where there are metadata of both. -/
theorem MetadataSound.alike (hs : MetadataSound H o request request' evaluatedAt)
    (hl : SameLabels H o request request' evaluatedAt) {classification : String}
    (hu : UsableAsOf H (request.asOf.getD evaluatedAt) evaluatedAt)
    (hexpires : Expires H evaluatedAt (some classification))
    (h' : UsableAsOf H (request'.asOf.getD evaluatedAt) evaluatedAt ∨
      Expires H evaluatedAt none) :
    AllowsAlike H o request request' evaluatedAt classification hu := by
  intro conditions version hpin hpass
  have hkey := asked_key conditions classification version hu hl request.action
  obtain ⟨metadata, hm⟩ := exists_asked (o := o) classification version
    (gate request.action conditions) hu hexpires
  obtain ⟨metadata', hm'⟩ : ∃ metadata', decisionCache H (gateEngine H o request.action conditions)
      (askedStore H o request evaluatedAt classification hu version) request' evaluatedAt =
        .ok metadata' := by
    refine exists_metadata.2 ?_
    by_cases hu' : UsableAsOf H (request'.asOf.getD evaluatedAt) evaluatedAt
    · rw [cacheInput_of_admissible (asked_admissible_of_labels classification version hu hl hu')]
      exact hexpires
    · rw [(scope_of_unusable hu').2, evaluate_evaluatedAt]
      exact h'.resolve_left hu'
  refine (hs _ _ _ metadata metadata' hm hm' (fun _ => ?_) ?_).symm.trans
    (asked_allowed hu hpin hpass)
  · rw [hkey.record]
  · rw [(metadata_ok hm).1, (metadata_ok hm').1]
    exact hkey.key

theorem expires_unknown : Expires H evaluatedAt none ↔ Expires H evaluatedAt (some "unknown") := by
  have hname : normalizeClassification H (some "unknown") = normalizeClassification H none := by
    rfl
  unfold Expires
  rw [hname]

/-- **When the keys of two requests are sound**: when what their labels do not tell apart
does not matter. -/
theorem metadataSound_iff (hprint : PrintsNumbers H) :
    MetadataSound H o request request' evaluatedAt ↔
      (SameLabels H o request request' evaluatedAt →
        KeyTells H o request request' evaluatedAt) := by
  constructor
  · refine fun hs hl => ⟨fun hexpires => ⟨fun hu => ?_, fun hu' => ?_⟩,
      fun classification hexpires hu hu' => ?_, fun classification hexpires hu hu' key => ?_⟩
    · exact (hs.alike hl hu (expires_unknown.1 hexpires) (.inr hexpires)).usable
    · exact (hs.symm.alike hl.symm hu' (expires_unknown.1 hexpires) (.inr hexpires)).usable
    · exact Option.ext fun w => ⟨(hs.symm.alike hl.symm hu' hexpires (.inl hu)).pinned,
        (hs.alike hl hu hexpires (.inl hu')).pinned⟩
    · exact Option.ext fun v => ⟨(hs.alike hl hu hexpires (.inl hu')).seen,
        (hs.symm.alike hl.symm hu' hexpires (.inl hu)).seen⟩
  · intro h model bounds st metadata metadata' hm hm' hno hkey
    refine decisionValue_ext ⟨allow_of_key hprint h hm hm' hno hkey,
      allow_of_key hprint (fun hl => (h hl.symm).symm) hm' hm (fun he => (hno he.symm).symm)
        hkey.symm⟩

end

/-- A request that names the present instant and the one that leaves it out share their
keys, and their decisions. -/
theorem metadataSound_present :
    MetadataSound exactHost {} writePlan { writePlan with asOf := some timestamp } timestamp :=
  (metadataSound_iff printsNumbers_exact).2 fun _ =>
    ⟨fun _ => .rfl, fun _ _ _ _ => rfl, fun _ _ _ _ _ => rfl⟩

/-! ## Two decisions under one key -/

/-- The membership of a contributor in its second version. -/
def secondVersion : InMemoryRebacStore :=
  localStore.upsertRelationship { aliceCaseTeam with version := "tuple:v2" }

/-- The request with the default tuple version written out. -/
def pinnedPlan : DecisionRequest := { writePlan with tupleVersion := some "tuple:v1" }

theorem exists_second (request : DecisionRequest)
    (h : (evaluate plainHost (.new plainHost {}) secondVersion request
      timestamp).cacheInput.resourceClassification = some "internal") :
    ∃ metadata, decisionCache plainHost (.new plainHost {}) secondVersion request timestamp =
      .ok metadata := by
  refine exists_metadata.2 ?_
  rw [h, evaluate_evaluatedAt]
  exact ⟨"2026-05-21T17:02:00.000Z", by decide +kernel⟩

theorem sameKey_second : SameKeyFields
    (evaluate plainHost (.new plainHost {}) secondVersion writePlan timestamp).cacheInput
    (evaluate plainHost (.new plainHost {}) secondVersion pinnedPlan timestamp).cacheInput where
  tenant := by decide +kernel
  subjectId := by rw [evaluate_request, evaluate_request]; rfl
  action := by rw [evaluate_request, evaluate_request]; rfl
  resourceId := by rw [evaluate_request, evaluate_request]; rfl
  versionPins := by rw [evaluate_versionPins, evaluate_versionPins]; rfl

/-- **Counterexample**: written out, the default tuple version turns the allow into a deny
under the same key. -/
theorem default_pin_shared :
    (evaluate plainHost (.new plainHost {}) secondVersion writePlan timestamp).decision = .allow ∧
    (evaluate plainHost (.new plainHost {}) secondVersion pinnedPlan timestamp).decision = .deny ∧
    ¬ MetadataSound plainHost {} writePlan pinnedPlan timestamp := by
  have hallow : (evaluate plainHost (.new plainHost {}) secondVersion writePlan
    timestamp).decision = .allow := by decide +kernel
  have hdeny : (evaluate plainHost (.new plainHost {}) secondVersion pinnedPlan
    timestamp).decision = .deny := by decide +kernel
  obtain ⟨metadata, hm⟩ := exists_second writePlan (by decide +kernel)
  obtain ⟨metadata', hm'⟩ := exists_second pinnedPlan (by decide +kernel)
  refine ⟨hallow, hdeny, fun hsound => ?_⟩
  have hsame := hsound createDefaultPolicyModel {} secondVersion metadata metadata' hm hm'
    (fun _ => congrArg (fun record => stableStringify plainHost (.obj record))
      sameKey_second.record)
    (by rw [(metadata_ok hm).1, (metadata_ok hm').1]; exact sameKey_second.key)
  cases hallow.symm.trans (hsame.trans hdeny)

end AccessKit.Bugs.SharedKeys
