import AccessKit.L1Domain.Entities
import AccessKit.L1Domain.Stringify

/-!
# Audit events, the recorder and the check of a chain

packages/core/src/audit.ts. An event is hashed whole, with the hash of the
event before it among its fields; the recorder builds such chains and
`verifyAuditChain` reports where a list is none.

`AccessKit.L2Audit.Chain` says what a verified list is.
-/
namespace AccessKit.L2.Audit
open AccessKit.L1

/-- mirrors packages/core/src/domain/evidence.ts:11-24 -/
structure AuditEvent where
  eventId : CanonicalId
  eventType : String
  occurredAt : IsoDateTime
  actor : CanonicalId
  subjectId : Option CanonicalId := none
  resourceId : Option CanonicalId := none
  correlationId : CanonicalId
  policyVersion : Option String := none
  relationshipVersion : Option String := none
  payloadHash : String
  previousEventHash : Option String := none
  payload : JsonRecord

/-- mirrors packages/core/src/audit.ts:4-13 -/
structure AuditEventInput where
  eventType : String
  actor : CanonicalId
  subjectId : Option CanonicalId := none
  resourceId : Option CanonicalId := none
  correlationId : CanonicalId
  policyVersion : Option String := none
  relationshipVersion : Option String := none
  payload : JsonRecord

/-- An optional string as a value. -/
def optional : Option String → JsValue
  | none => .undefined
  | some s => .str s

def AuditEvent.toJs (e : AuditEvent) : JsValue :=
  .obj [("eventId", .str e.eventId), ("eventType", .str e.eventType),
    ("occurredAt", .str e.occurredAt), ("actor", .str e.actor),
    ("subjectId", optional e.subjectId), ("resourceId", optional e.resourceId),
    ("correlationId", .str e.correlationId), ("policyVersion", optional e.policyVersion),
    ("relationshipVersion", optional e.relationshipVersion), ("payloadHash", .str e.payloadHash),
    ("previousEventHash", optional e.previousEventHash), ("payload", .obj e.payload)]

inductive FindingSeverity
  | low
  | medium
  | high
  | critical
  deriving DecidableEq, Repr

/-- mirrors packages/core/src/domain/evidence.ts:34-41 -/
structure AuditIntegrityFinding where
  code : String
  message : String
  severity : FindingSeverity
  eventId : Option CanonicalId := none
  expected : Option String := none
  actual : Option String := none
  deriving DecidableEq, Repr

inductive AuditIntegrityStatus
  | verified
  | failed
  deriving DecidableEq, Repr

/-- mirrors packages/core/src/domain/evidence.ts:43-54 -/
structure AuditIntegrityReport where
  status : AuditIntegrityStatus
  eventCount : Nat
  verifiedAt : IsoDateTime
  firstEventId : Option CanonicalId
  lastEventId : Option CanonicalId
  firstEventHash : Option String
  lastEventHash : Option String
  findings : List AuditIntegrityFinding
  version : String

section
variable (H : Host)

/-- mirrors packages/core/src/audit.ts:108-110 -/
def hashReference (v : JsValue) : String := "sha256:" ++ sha256 H v

/-- mirrors packages/core/src/audit.ts:54-56 -/
def auditEventHash (event : AuditEvent) : String := hashReference H event.toJs

/-- mirrors packages/core/src/audit.ts:58-60 -/
def auditPayloadHash (payload : JsonRecord) : String := hashReference H (.obj payload)

/-! ## The recorder -/

/-- mirrors packages/core/src/audit.ts:15-20 -/
structure AuditRecorder where
  events : List AuditEvent

/-- `{ ...input, occurredAt, previousEventHash }` -/
def eventIdSource (input : AuditEventInput) (occurredAt : IsoDateTime)
    (previousEventHash : Option String) : JsValue :=
  .obj [("eventType", .str input.eventType), ("actor", .str input.actor),
    ("subjectId", optional input.subjectId), ("resourceId", optional input.resourceId),
    ("correlationId", .str input.correlationId), ("policyVersion", optional input.policyVersion),
    ("relationshipVersion", optional input.relationshipVersion), ("payload", .obj input.payload),
    ("occurredAt", .str occurredAt), ("previousEventHash", optional previousEventHash)]

namespace AuditRecorder

/-- The event that `record` adds.
mirrors packages/core/src/audit.ts:22-39 -/
def next (recorder : AuditRecorder) (input : AuditEventInput) (occurredAt : IsoDateTime) :
    AuditEvent :=
  let previousEventHash := recorder.events.getLast?.map (auditEventHash H)
  { eventId := "evt:" ++ sliceTo 24 (sha256 H (eventIdSource input occurredAt previousEventHash))
    eventType := input.eventType
    occurredAt
    actor := input.actor
    subjectId := input.subjectId
    resourceId := input.resourceId
    correlationId := input.correlationId
    policyVersion := input.policyVersion
    relationshipVersion := input.relationshipVersion
    payloadHash := auditPayloadHash H input.payload
    previousEventHash
    payload := input.payload }

/-- mirrors packages/core/src/audit.ts:22-43 -/
def record (recorder : AuditRecorder) (input : AuditEventInput) (occurredAt : IsoDateTime) :
    AuditRecorder :=
  ⟨recorder.events ++ [recorder.next H input occurredAt]⟩

/-- A run of the recorder. -/
def recordAll (recorder : AuditRecorder) (inputs : List (AuditEventInput × IsoDateTime)) :
    AuditRecorder :=
  inputs.foldl (fun r p => r.record H p.1 p.2) recorder

/-- mirrors packages/core/src/audit.ts:45-47 -/
def list (recorder : AuditRecorder) : List AuditEvent := recorder.events

end AuditRecorder

/-! ## The check -/

/-- What the loop reports about one event.
mirrors packages/core/src/audit.ts:65-90 -/
def eventFindings (previousEvent : Option AuditEvent) (event : AuditEvent) :
    List AuditIntegrityFinding :=
  let expectedPayloadHash := auditPayloadHash H event.payload
  let expectedPreviousHash := previousEvent.map (auditEventHash H)
  (if event.payloadHash ≠ expectedPayloadHash then
    [{ code := "PAYLOAD_HASH_MISMATCH"
       message := "Audit event payload hash does not match the current payload."
       severity := .critical
       eventId := some event.eventId
       expected := some expectedPayloadHash
       actual := some event.payloadHash }]
  else []) ++
  if event.previousEventHash ≠ expectedPreviousHash then
    [{ code := "PREVIOUS_EVENT_HASH_MISMATCH"
       message := "Audit event previousEventHash does not match the prior event in append-only order."
       severity := .critical
       eventId := some event.eventId
       expected := some (expectedPreviousHash.getD "<none>")
       actual := some (event.previousEventHash.getD "<none>") }]
  else []

/-- `events.forEach(…)`, given the event before the list. -/
def chainFindings : Option AuditEvent → List AuditEvent → List AuditIntegrityFinding
  | _, [] => []
  | previousEvent, event :: events =>
    eventFindings H previousEvent event ++ chainFindings (some event) events

/-- mirrors packages/core/src/audit.ts:62-106 -/
def verifyAuditChain (events : List AuditEvent) (verifiedAt : IsoDateTime) :
    AuditIntegrityReport :=
  let findings := chainFindings H none events
  { status := if findings.length = 0 then .verified else .failed
    eventCount := events.length
    verifiedAt
    firstEventId := events.head?.map (·.eventId)
    lastEventId := events.getLast?.map (·.eventId)
    firstEventHash := events.head?.map (auditEventHash H)
    lastEventHash := events.getLast?.map (auditEventHash H)
    findings
    version := "audit-integrity:v1" }

end

end AccessKit.L2.Audit
