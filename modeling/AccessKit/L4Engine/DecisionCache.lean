import AccessKit.L1Domain.IsoDate
import AccessKit.L1Domain.Unknown
import AccessKit.L2Audit.Records
import AccessKit.L4Engine.Agreement
import AccessKit.L4Engine.ScopeCache

/-!
# What a cached decision is kept under

packages/core/src/decision-runtime.ts:252-306, 401-413 and engine.ts:373-426: the cache
metadata that every decision carries. A PEP keeps the decision under the key until
the metadata expires or one of the invalidation signals changes.

The ttl is looked up in a plain object, where two classifications find what
every object inherits, and no number; the expiry is then an invalid time.

Results:
* `exists_metadata`, `metadata_ok`: when there are metadata, and what they hold.
* `cacheKey_same`: two results with one key are about one question, under the
  same labels and at the same recorded instant.
* `SameQuestion.decision_eq`: what a decision depends on besides the store.
-/
namespace AccessKit.L4
open AccessKit.Core AccessKit.L1 AccessKit.L2.Store AccessKit.L3
open AccessKit.L2.Audit (bind_ok)

/-! ## Cache metadata -/

/-- White space and line terminators, as `trim` removes them. -/
def isTrimmed (c : Char) : Bool :=
  c.toNat ∈ [0x09, 0x0A, 0x0B, 0x0C, 0x0D, 0x20, 0xA0, 0x1680, 0x2028, 0x2029, 0x202F, 0x205F,
    0x3000, 0xFEFF] || (0x2000 ≤ c.toNat && c.toNat ≤ 0x200A)

/-- `s.trim()` -/
def trim (s : String) : String :=
  String.ofList ((s.toList.dropWhile isTrimmed).reverse.dropWhile isTrimmed).reverse

/-- mirrors packages/core/src/decision-runtime.ts:401-403 -/
def normalizeClassification (H : Host) (classification : Option String) : String :=
  (truthy (classification.map fun c => toLowerCase H (trim c))).getD "unknown"

/-- mirrors packages/core/src/decision-runtime.ts:96-103 -/
def DECISION_CACHE_TTL_BY_CLASSIFICATION : List (String × Nat) :=
  [("public", 300), ("internal", 120), ("confidential", 60), ("controlled", 30),
   ("restricted", 30), ("secret", 15)]

/-- The names in lower case that every object inherits a value under. -/
def inheritedNames : List String := ["constructor", "__proto__"]

/-- `DECISION_CACHE_TTL_BY_CLASSIFICATION[classification] ?? 30`, if that is a
number. -/
def maxTtl (classification : String) : Option Nat :=
  match DECISION_CACHE_TTL_BY_CLASSIFICATION.find? fun p => p.1 == classification with
  | some p => some p.2
  | none => if classification ∈ inheritedNames then none else some 30

/-- An invalid time is left as it is; a time without a number added to it is
invalid.
mirrors packages/core/src/decision-runtime.ts:405-413 -/
def addSeconds (H : Host) (isoDateTime : IsoDateTime) (seconds : Option Nat) :
    Except String IsoDateTime :=
  match dateParse H isoDateTime with
  | none => .ok isoDateTime
  | some milliseconds =>
    match seconds.bind fun s => timeClip ((milliseconds : Rat) + s * 1000) with
    | some time => .ok (toISOString time)
    | none => .error "Invalid time value"

/-- mirrors packages/core/src/decision-runtime.ts:58-64 -/
structure DecisionCacheMetadataInput where
  request : DecisionRequest
  versionPins : DecisionRuntimeVersionPins
  evaluatedAt : IsoDateTime
  tenantId : Option String
  resourceClassification : Option String

/-- mirrors packages/core/src/decision-runtime.ts:66-80 -/
structure DecisionCacheMetadata where
  key : String
  tenantId : String
  resourceClassification : String
  maxTtlSeconds : Option Nat
  expiresAt : IsoDateTime
  invalidationSignals : List String
  failClosed : Bool
  localFallbackAllowed : Bool
  staleDecisionBehavior : String
  auditEventType : String
  auditRequiredFields : List String
  deriving DecidableEq, Repr

/-- `input.tenantId ?? "tenant:unknown"` -/
def cacheTenant (tenantId : Option String) : String := tenantId.getD "tenant:unknown"

/-- The record the key is a hash of.
mirrors packages/core/src/decision-runtime.ts:268-279 -/
def cacheKeyRecord (input : DecisionCacheMetadataInput) : JsonRecord :=
  [("tenantId", .str (cacheTenant input.tenantId)),
   ("subjectId", .str input.request.subjectId),
   ("action", .str input.request.action),
   ("resourceId", .str input.request.resourceId),
   ("policyVersion", .str input.versionPins.policyVersion),
   ("modelVersion", .str input.versionPins.modelVersion),
   ("relationshipVersion", .str input.versionPins.relationshipVersion),
   ("tupleVersion", .str input.versionPins.tupleVersion),
   ("contextVersion", .str input.versionPins.contextVersion),
   ("asOf", .str input.versionPins.asOf)]

/-- mirrors packages/core/src/decision-runtime.ts:268-279 -/
def cacheKey (H : Host) (input : DecisionCacheMetadataInput) : String :=
  "decision-cache:" ++ sliceTo 32 (sha256 H (.obj (cacheKeyRecord input)))

/-- mirrors packages/core/src/decision-runtime.ts:256-267 -/
def invalidationSignals (H : Host) (input : DecisionCacheMetadataInput) : List String :=
  ["tenant:" ++ cacheTenant input.tenantId,
   "subject:" ++ input.request.subjectId,
   "resource:" ++ input.request.resourceId,
   "action:" ++ input.request.action,
   "policy:" ++ input.versionPins.policyVersion,
   "model:" ++ input.versionPins.modelVersion,
   "relationship-set:" ++ input.versionPins.relationshipVersion,
   "tuple:" ++ input.versionPins.tupleVersion,
   "context:" ++ input.versionPins.contextVersion,
   "classification:" ++ normalizeClassification H input.resourceClassification]

/-- mirrors packages/core/src/decision-runtime.ts:252-306 -/
def createDecisionCacheMetadata (H : Host) (input : DecisionCacheMetadataInput) :
    Except String DecisionCacheMetadata := do
  let resourceClassification := normalizeClassification H input.resourceClassification
  let maxTtlSeconds := maxTtl resourceClassification
  let expiresAt ← addSeconds H input.evaluatedAt maxTtlSeconds
  return {
    key := cacheKey H input
    tenantId := cacheTenant input.tenantId
    resourceClassification
    maxTtlSeconds
    expiresAt
    invalidationSignals := invalidationSignals H input
    failClosed := true
    localFallbackAllowed := false
    staleDecisionBehavior := "deny"
    auditEventType := "decision.cache_policy_evaluated"
    auditRequiredFields :=
      ["key", "tenantId", "resourceClassification", "maxTtlSeconds", "expiresAt",
       "invalidationSignals", "failClosed", "localFallbackAllowed", "staleDecisionBehavior"] }

/-- What the metadata of a decision are made from.
mirrors packages/core/src/engine.ts:379-385 -/
def DecisionContext.cacheInput (context : DecisionContext) : DecisionCacheMetadataInput :=
  ⟨context.request, context.versionPins, context.evaluatedAt, context.tenantId,
    context.resourceClassification⟩

/-- The metadata of the decision on a request. -/
def decisionCache (H : Host) (e : RebacDecisionEngine) (st : InMemoryRebacStore)
    (request : DecisionRequest) (evaluatedAt : IsoDateTime) : Except String DecisionCacheMetadata :=
  createDecisionCacheMetadata H (evaluate H e st request evaluatedAt).cacheInput

/-- Metadata of a classification can be made: their expiry is a valid time. -/
def Expires (H : Host) (evaluatedAt : IsoDateTime) (classification : Option String) : Prop :=
  ∃ expiresAt, addSeconds H evaluatedAt (maxTtl (normalizeClassification H classification)) =
    .ok expiresAt

section
variable {H : Host} {input : DecisionCacheMetadataInput} {metadata : DecisionCacheMetadata}

theorem exists_metadata : (∃ metadata, createDecisionCacheMetadata H input = .ok metadata) ↔
    Expires H input.evaluatedAt input.resourceClassification := by
  constructor
  · rintro ⟨metadata, h⟩
    obtain ⟨expiresAt, hexpiry, -⟩ := bind_ok.1 h
    exact ⟨expiresAt, hexpiry⟩
  · rintro ⟨expiresAt, hexpiry⟩
    exact ⟨_, bind_ok.2 ⟨expiresAt, hexpiry, rfl⟩⟩

theorem metadata_ok (h : createDecisionCacheMetadata H input = .ok metadata) :
    metadata.key = cacheKey H input ∧
      metadata.invalidationSignals = invalidationSignals H input := by
  obtain ⟨expiresAt, -, h⟩ := bind_ok.1 h
  cases h
  exact ⟨rfl, rfl⟩

end

/-! ## One key -/

/-- The truncated hashes of two values differ when their texts do. -/
def NoCollision (H : Host) (n : Nat) (v w : JsValue) : Prop :=
  sliceTo n (sha256 H v) = sliceTo n (sha256 H w) → stableStringify H v = stableStringify H w

/-- Everything a key is made of. -/
structure SameKeyFields (i i' : DecisionCacheMetadataInput) : Prop where
  tenant : cacheTenant i.tenantId = cacheTenant i'.tenantId
  subjectId : i.request.subjectId = i'.request.subjectId
  action : i.request.action = i'.request.action
  resourceId : i.request.resourceId = i'.request.resourceId
  versionPins : i.versionPins = i'.versionPins

section
variable {H : Host} {i i' : DecisionCacheMetadataInput}

theorem isJson_cacheKeyRecord (i : DecisionCacheMetadataInput) :
    IsJson (.obj (cacheKeyRecord i)) := by
  refine .obj (by simp [cacheKeyRecord]) fun p hp _ => ?_
  simp only [cacheKeyRecord, List.mem_cons, List.not_mem_nil, or_false] at hp
  rcases hp with rfl | rfl | rfl | rfl | rfl | rfl | rfl | rfl | rfl | rfl <;> exact .str _

theorem sameKeyFields_of_json
    (h : SameJson (.obj (cacheKeyRecord i)) (.obj (cacheKeyRecord i'))) : SameKeyFields i i' := by
  cases h with
  | obj h =>
    refine ⟨(h "tenantId").str_inj, (h "subjectId").str_inj, (h "action").str_inj,
      (h "resourceId").str_inj, ?_⟩
    have hpolicy := (h "policyVersion").str_inj
    have hmodel := (h "modelVersion").str_inj
    have hrelationship := (h "relationshipVersion").str_inj
    have htuple := (h "tupleVersion").str_inj
    have hcontext := (h "contextVersion").str_inj
    have hasOf := (h "asOf").str_inj
    obtain ⟨_, ⟨⟩, _, _, _⟩ := i
    obtain ⟨_, ⟨⟩, _, _, _⟩ := i'
    simp only [DecisionRuntimeVersionPins.mk.injEq]
    exact ⟨hpolicy, hmodel, hrelationship, htuple, hcontext, hasOf⟩

/-- **One key, one question**: results with one key agree in everything the
key is made of. -/
theorem cacheKey_same (hprint : PrintsNumbers H)
    (hno : NoCollision H 32 (.obj (cacheKeyRecord i)) (.obj (cacheKeyRecord i')))
    (h : cacheKey H i = cacheKey H i') : SameKeyFields i i' := by
  have hslice := String.append_right_inj "decision-cache:" |>.1 h
  exact sameKeyFields_of_json (sameJson_of_text hprint (isJson_cacheKeyRecord i)
    (isJson_cacheKeyRecord i') (hno hslice))

theorem SameKeyFields.record (h : SameKeyFields i i') : cacheKeyRecord i = cacheKeyRecord i' := by
  simp only [cacheKeyRecord, h.tenant, h.subjectId, h.action, h.resourceId, h.versionPins]

theorem SameKeyFields.key (h : SameKeyFields i i') : cacheKey H i = cacheKey H i' := by
  rw [cacheKey, cacheKey, h.record]

end

/-! ## One question -/

/-- The tuple version that a request pins under an engine. -/
def tuplePin (e : RebacDecisionEngine) (request : DecisionRequest) : Option String :=
  match request.tupleVersion with
  | some v => some v
  | none => if e.options.enforceTupleVersion then some e.options.tupleVersion else none

section
variable {H : Host} {e e' : RebacDecisionEngine} {st : InMemoryRebacStore}
  {request request' : DecisionRequest} {evaluatedAt : IsoDateTime} {a : Admission}

theorem pinnedTupleVersion_normalize : pinnedTupleVersion e request
    (normalizeDecisionRuntimeVersionPins H request e.options evaluatedAt) = tuplePin e request := by
  unfold pinnedTupleVersion tuplePin normalizeDecisionRuntimeVersionPins
  cases request.tupleVersion <;> rfl

/-- Two requests to two engines that differ in nothing that is read. -/
structure SameQuestion (H : Host) (e e' : RebacDecisionEngine) (st : InMemoryRebacStore)
    (request request' : DecisionRequest) (evaluatedAt : IsoDateTime) : Prop where
  compiled : e.compiledPolicyModel = e'.compiledPolicyModel
  bounds : e.options.traversalBounds = e'.options.traversalBounds
  subjectId : request.subjectId = request'.subjectId
  action : request.action = request'.action
  resourceId : request.resourceId = request'.resourceId
  asOf : request.asOf.getD evaluatedAt = request'.asOf.getD evaluatedAt
  pin : truthy (tuplePin e request) = truthy (tuplePin e' request')
  caveats : ∀ r, stepPasses H ⟨st, e.policyModel, request, evaluatedAt⟩ r =
    stepPasses H ⟨st, e'.policyModel, request', evaluatedAt⟩ r

/-- The pins of the request under the engine. -/
abbrev pinsOf (H : Host) (e : RebacDecisionEngine) (request : DecisionRequest)
    (evaluatedAt : IsoDateTime) : DecisionRuntimeVersionPins :=
  normalizeDecisionRuntimeVersionPins H request e.options evaluatedAt

namespace SameQuestion

theorem symm (h : SameQuestion H e e' st request request' evaluatedAt) :
    SameQuestion H e' e st request' request evaluatedAt :=
  ⟨h.compiled.symm, h.bounds.symm, h.subjectId.symm, h.action.symm, h.resourceId.symm,
    h.asOf.symm, h.pin.symm, fun r => (h.caveats r).symm⟩

theorem input (h : SameQuestion H e e' st request request' evaluatedAt) :
    traversalInput e' st request' (pinsOf H e' request' evaluatedAt) a =
      { traversalInput e st request (pinsOf H e request evaluatedAt) a with
        activeRelationshipScope := ⟨request.asOf.getD evaluatedAt, tuplePin e' request'⟩ } := by
  simp only [traversalInput, pinsOf, pinnedTupleVersion_normalize, h.compiled, h.subjectId,
    h.action, h.resourceId]
  simp only [normalizeDecisionRuntimeVersionPins, h.asOf]

theorem relationshipsFrom (h : SameQuestion H e e' st request request' evaluatedAt) :
    TraversalInput.relationshipsFrom H
        { traversalInput e st request (pinsOf H e request evaluatedAt) a with
          activeRelationshipScope := ⟨request.asOf.getD evaluatedAt, tuplePin e' request'⟩ } =
      (traversalInput e st request (pinsOf H e request evaluatedAt) a).relationshipsFrom H := by
  have hpin := @activeRelationships_pin H st (request.asOf.getD evaluatedAt) _ _ h.pin.symm
  unfold TraversalInput.relationshipsFrom
  simp only [traversalInput, pinnedTupleVersion_normalize]
  exact hpin

theorem denySearch (h : SameQuestion H e e' st request request' evaluatedAt) :
    L4.denySearch H e' st request' (pinsOf H e' request' evaluatedAt) a =
      L4.denySearch H e st request (pinsOf H e request evaluatedAt) a := by
  have hspace := findDenyPath_space (H := H)
    (i := traversalInput e st request (pinsOf H e request evaluatedAt) a)
    (j := { traversalInput e st request (pinsOf H e request evaluatedAt) a with
      activeRelationshipScope := ⟨request.asOf.getD evaluatedAt, tuplePin e' request'⟩ }) rfl (by
      simp only [denySpace, h.relationshipsFrom]
      rfl)
  rw [L4.denySearch, L4.denySearch, h.input, hspace, initialGuard, initialGuard, h.bounds,
    h.subjectId]

theorem allowSearch (h : SameQuestion H e e' st request request' evaluatedAt) :
    L4.allowSearch H e' st request' (pinsOf H e' request' evaluatedAt) a =
      L4.allowSearch H e st request (pinsOf H e request evaluatedAt) a := by
  have hspace := findAllowPath_space (H := H)
    (i := traversalInput e st request (pinsOf H e request evaluatedAt) a)
    (j := { traversalInput e st request (pinsOf H e request evaluatedAt) a with
      activeRelationshipScope := ⟨request.asOf.getD evaluatedAt, tuplePin e' request'⟩ }) rfl (by
      simp only [allowSpace, h.relationshipsFrom]
      rfl)
  rw [L4.allowSearch, L4.allowSearch, h.denySearch, h.input, hspace]

theorem allow (h : SameQuestion H e e' st request request' evaluatedAt)
    (ha : (evaluate H e st request evaluatedAt).decision = .allow) :
    (evaluate H e' st request' evaluatedAt).decision = .allow := by
  obtain ⟨a, hadm, hp⟩ := decision_allow_iff.1 ha
  have hadm := admitRequest_eq_ok.1 hadm
  refine decision_allow_iff.2 ⟨a, admitRequest_eq_ok.2 ?_, ?_⟩
  · refine ⟨?_, ?_, ?_, ?_, ?_, ?_, hadm.tenants⟩ <;>
      simp only [normalizeDecisionRuntimeVersionPins, ← h.asOf, ← h.subjectId, ← h.resourceId]
    · exact hadm.valid
    · exact hadm.past
    · exact hadm.subject
    · exact hadm.subjectActive
    · exact hadm.resource
    · exact hadm.resourceActive
  · have hd := h.denySearch (a := a)
    have hs := h.allowSearch (a := a)
    refine ⟨?_, ?_, ?_, ?_, ?_⟩
    · rw [hd]
      exact hp.noDeny
    · rw [hd]
      exact hp.denyWithin
    · rw [hs]
      exact hp.allowWithin
    · rw [hs]
      exact hp.path
    · rw [hs, ← caveats_allows_congr fun r _ => h.caveats r]
      exact hp.caveats

/-- **What a decision depends on**, besides the store. -/
theorem decision_eq (h : SameQuestion H e e' st request request' evaluatedAt) :
    (evaluate H e st request evaluatedAt).decision =
      (evaluate H e' st request' evaluatedAt).decision :=
  decisionValue_ext ⟨h.allow, h.symm.allow⟩

end SameQuestion

end

end AccessKit.L4
