import AccessKit.L2Audit.ReferenceOperations

/-!
# The audit log of the runtime

packages/api/src/runtime-state.ts, runtime-seed.ts and local-app.ts: what a
runtime records, it records in memory, in the audit repository and, with a state
repository, in the snapshots it writes. The model is the audit part of a runtime
with an audit repository; the rest of the store, the graph and the job
repository do not touch it.

An append that throws is caught and noted as a degradation. With a state
repository an append is skipped when the audit repository does not list the
events of the store before it.

`RebacLocalApp` is all of it; of it the state of the audit repository and the
snapshot outlive a crash.
-/
namespace AccessKit.L5
open AccessKit.Core AccessKit.L1 AccessKit.L2.Audit

/-- What the runtime does with an audit repository, whose states are `σ`.
mirrors packages/core/src/repositories.ts:57-61 -/
structure AuditEventRepository (σ : Type) where
  appendAuditEvent : σ → AuditEvent → IsoDateTime → Except String (AuditStorageReceipt × σ)
  listAuditEvents : σ → Except String (List AuditEvent)

/-- The repository on a local file. -/
def localRepository (H : Host) : AuditEventRepository LocalAppendOnlyAuditRepository where
  appendAuditEvent := LocalAppendOnlyAuditRepository.appendAuditEvent H
  listAuditEvents := LocalAppendOnlyAuditRepository.listAuditEvents H

/-- The reference store, through an adapter. -/
def referenceRepository (H : Host) (adapter : ReferenceAuditEvidenceAdapter) :
    AuditEventRepository ExternalAppendOnlyAuditStore where
  appendAuditEvent := adapter.appendAuditEvent H
  listAuditEvents := adapter.listAuditEvents H

inductive PersistenceComponent
  | audit
  | evidence
  | graph
  | job
  | state
  deriving DecidableEq, Repr

/-- mirrors packages/core/src/domain/evidence.ts:26-32 -/
structure PersistenceDegradationReceipt where
  component : PersistenceComponent
  operation : String
  occurredAt : IsoDateTime
  message : String
  version : String := "persistence-degradation:v1"
  deriving DecidableEq, Repr

/-- The audit part of `RebacSeedData`.
mirrors packages/core/src/store.ts:67-68 -/
structure AuditSeed where
  auditEvents : Option (List AuditEvent) := none
  persistenceDegradations : Option (List PersistenceDegradationReceipt) := none

/-- The audit part of `RebacLocalApp`. There may be no state repository; there
is one that nothing was written to as long as it holds none.
mirrors packages/api/src/runtime-app.ts:54-70 -/
structure RebacLocalApp (σ : Type) where
  auditRecorder : AuditRecorder
  storeEvents : List AuditEvent
  storeDegradations : List PersistenceDegradationReceipt
  persistenceDegradations : List PersistenceDegradationReceipt
  auditRepository : σ
  stateRepository : Option (Option AuditSeed)

def maxPersistenceDegradations : Nat := 20

/-- mirrors packages/api/src/runtime-state.ts:299-308, packages/core/src/store.ts:483-490 -/
def recordPersistenceDegradation (degradations : List PersistenceDegradationReceipt)
    (degradation : PersistenceDegradationReceipt) : List PersistenceDegradationReceipt :=
  (if degradations.length ≥ maxPersistenceDegradations then degradations.drop 1
    else degradations) ++ [degradation]

/-- `degradations.slice(-20)` -/
def lastDegradations (degradations : List PersistenceDegradationReceipt) :
    List PersistenceDegradationReceipt :=
  degradations.drop (degradations.length - maxPersistenceDegradations)

section
variable (H : Host) {σ : Type} (repository : AuditEventRepository σ)

/-! ## Appending -/

/-- The texts of two lists of events are the same.
mirrors packages/api/src/runtime-state.ts:123-124 -/
def sameTexts (events expected : List AuditEvent) : Bool :=
  events.length = expected.length &&
    (events.zip expected).all fun p => stableStringify H p.1.toJs = stableStringify H p.2.toJs

/-- mirrors packages/api/src/runtime-state.ts:120-125 -/
def auditRepositoryMatches (s : σ) (expectedEvents : List AuditEvent) : Except String Bool := do
  let storedEvents ← repository.listAuditEvents s
  return sameTexts H storedEvents expectedEvents

/-- What is tried: `none` when the append is skipped.
mirrors packages/api/src/runtime-state.ts:60-72 -/
def tryAppend (s : σ) (event : AuditEvent) (storedAt : IsoDateTime) :
    Option (List AuditEvent) → Except String (Option σ)
  | none => do
    let (_, s') ← repository.appendAuditEvent s event storedAt
    return some s'
  | some expectedPriorEvents => do
    if ← auditRepositoryMatches H repository s expectedPriorEvents then
      let (_, s') ← repository.appendAuditEvent s event storedAt
      return some s'
    else return none

/-- mirrors packages/api/src/runtime-state.ts:53-82 -/
def appendAuditEvent (s : σ) (event : AuditEvent) (storedAt : IsoDateTime)
    (expectedPriorEvents : Option (List AuditEvent))
    (degradations : List PersistenceDegradationReceipt) :
    σ × List PersistenceDegradationReceipt :=
  let noted (message : String) := recordPersistenceDegradation degradations
    { component := .audit, operation := "appendAuditEvent", occurredAt := storedAt, message }
  match tryAppend H repository s event storedAt expectedPriorEvents with
  | .ok (some s') => (s', degradations)
  | .ok none =>
    (s, noted "Audit repository did not match the authoritative runtime snapshot; append was skipped.")
  | .error message => (s, noted message)

/-! ## Recording -/

namespace RebacLocalApp

/-- `store.exportSeedData()` as a snapshot of it is read back.
mirrors packages/core/src/store.ts:125-146 -/
def exportSeedData (app : RebacLocalApp σ) : AuditSeed where
  auditEvents := some (app.storeEvents.map AuditEvent.copy)
  persistenceDegradations := some app.storeDegradations

/-- mirrors packages/api/src/runtime-state.ts:127-129, 279-297 -/
def persistAppState (app : RebacLocalApp σ) : RebacLocalApp σ :=
  { app with stateRepository := app.stateRepository.map fun _ => some app.exportSeedData }

/-- The recorder and the store with an event more. -/
def remember (app : RebacLocalApp σ) (input : AuditEventInput) (occurredAt : IsoDateTime) :
    RebacLocalApp σ :=
  { app with
    auditRecorder := app.auditRecorder.record H input occurredAt
    storeEvents := app.storeEvents ++ [app.auditRecorder.next H input occurredAt] }

/-- The append of an event, and the store's list of degradations after it.
mirrors packages/api/src/runtime-state.ts:131-145 -/
def append (app : RebacLocalApp σ) (event : AuditEvent)
    (expectedPriorEvents : Option (List AuditEvent)) : RebacLocalApp σ :=
  let (auditRepository, persistenceDegradations) := appendAuditEvent H repository
    app.auditRepository event event.occurredAt expectedPriorEvents app.persistenceDegradations
  { app with
    auditRepository
    persistenceDegradations
    storeDegradations := lastDegradations persistenceDegradations }

/-- Whom an event is recorded for: the caller of the request, if there is one. -/
def attributed (input : AuditEventInput) (requestActor : Option CanonicalId) : AuditEventInput :=
  { input with actor := requestActor.getD input.actor }

/-- mirrors packages/api/src/runtime-state.ts:42-51 -/
def recordAudit (app : RebacLocalApp σ) (input : AuditEventInput) (occurredAt : IsoDateTime)
    (requestActor : Option CanonicalId := none) (persistState : Bool := true) : RebacLocalApp σ :=
  let input := attributed input requestActor
  let event := app.auditRecorder.next H input occurredAt
  let priorStoreAuditEvents := if app.stateRepository.isSome then some app.storeEvents else none
  let app := (app.remember H input occurredAt).append H repository event priorStoreAuditEvents
  if persistState then app.persistAppState else app

/-- What an engine does with the event of a decision: the store has it when the
callback runs.
mirrors packages/core/src/engine.ts:160-193, packages/api/src/local-app.ts:98-103 -/
def recordDecision (app : RebacLocalApp σ) (input : AuditEventInput) (evaluatedAt : IsoDateTime)
    (requestActor : Option CanonicalId := none) : RebacLocalApp σ :=
  let input := attributed input requestActor
  let event := app.auditRecorder.next H input evaluatedAt
  let app := app.remember H input evaluatedAt
  let priorStoreAuditEvents :=
    if app.stateRepository.isSome then some app.storeEvents.dropLast else none
  (app.append H repository event priorStoreAuditEvents).persistAppState

end RebacLocalApp

/-! ## Starting -/

/-- mirrors packages/api/src/runtime-seed.ts:81-83 -/
def auditEventsStartWith (events expected : List AuditEvent) : Bool :=
  expected.length ≤ events.length && sameTexts H (events.take expected.length) expected

/-- mirrors packages/api/src/runtime-seed.ts:62-79 -/
def recoverAppendOnlyAuditEvents (s : σ) (hasState : Bool) (baseSeed : AuditSeed)
    (now : IsoDateTime) : Except String (Option (List AuditEvent)) :=
  if hasState then do
    let storedEvents := baseSeed.auditEvents.getD []
    let repositoryEvents ← repository.listAuditEvents s
    if repositoryEvents.length ≤ storedEvents.length ||
        !auditEventsStartWith H repositoryEvents storedEvents then
      return baseSeed.auditEvents
    return if (verifyAuditChain H repositoryEvents now).status = .verified then some repositoryEvents
      else baseSeed.auditEvents
  else .ok baseSeed.auditEvents

/-- Start a runtime on the repositories there are.
mirrors packages/api/src/local-app.ts:78-124, packages/api/src/runtime-seed.ts:16-52 -/
def createRebacLocalApp (s : σ) (stateRepository : Option (Option AuditSeed))
    (fallbackSeed : AuditSeed) (now : IsoDateTime) : Except String (RebacLocalApp σ) := do
  let baseSeed := stateRepository.join.getD fallbackSeed
  let auditEvents ← recoverAppendOnlyAuditEvents H repository s stateRepository.isSome baseSeed now
  let storeEvents := (auditEvents.or baseSeed.auditEvents).getD []
  let degradations :=
    (baseSeed.persistenceDegradations.getD []).foldl recordPersistenceDegradation []
  -- `initialAuditEvents`
  let initial ← if stateRepository.isSome then pure storeEvents else repository.listAuditEvents s
  return {
    auditRecorder := ⟨initial⟩
    storeEvents
    storeDegradations := lastDegradations degradations
    persistenceDegradations := degradations
    auditRepository := s
    stateRepository }

end

end AccessKit.L5
