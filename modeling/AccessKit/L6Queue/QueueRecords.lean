import AccessKit.Core.Keyed
import AccessKit.L1Domain.IsoDate
import AccessKit.L5Runtime.JobRecords
import AccessKit.L5Runtime.ProvisioningRuns
import AccessKit.L6Queue.Envelopes

/-!
# The records of the job queue

packages/core/src/reference-job-queue.ts: a queued job with all that the queue keeps of it,
the requests it is made from, and the record that a store holds. Texts of times are compared
as texts; a text that `addMilliseconds` makes goes through the date it names.

A request is copied when it comes in. What is stored is such a copy, and reading it copies
it again, which changes nothing.
-/
namespace AccessKit.L6
open AccessKit.Core AccessKit.L1 AccessKit.L2.Audit AccessKit.L3
open AccessKit.L5 (RebacJobSnapshot JobRecord RuntimeRecord RecordCollection ProvisioningApproval
  EnforcementControl EnforcementReadinessReport EnforcementReadinessCheck ProvisioningPlan
  ProvisioningJob ReferenceQueuedJobKind)

/-! ## Names -/

/-- The string literal of the source. -/
def kindName : ReferenceQueuedJobKind → String
  | .discovery => "discovery"
  | .reconciliation => "reconciliation"
  | .provisioning => "provisioning"
  | .evidence => "evidence"
  | .revocation => "revocation"

theorem kindName_inj {kind kind' : ReferenceQueuedJobKind} (h : kindName kind = kindName kind') :
    kind = kind' := by
  revert h
  cases kind <;> cases kind' <;> decide

inductive ReferenceQueuedJobPriority
  | emergency
  | high
  | normal
  | low
  deriving DecidableEq, Repr

/-- The string literal of the source. -/
def ReferenceQueuedJobPriority.name : ReferenceQueuedJobPriority → String
  | .emergency => "emergency"
  | .high => "high"
  | .normal => "normal"
  | .low => "low"

inductive ReferenceQueuedJobStatus
  | queued
  | running
  | completed
  | failed
  | deadLettered
  deriving DecidableEq, Repr

/-- The string literal of the source. -/
def ReferenceQueuedJobStatus.name : ReferenceQueuedJobStatus → String
  | .queued => "queued"
  | .running => "running"
  | .completed => "completed"
  | .failed => "failed"
  | .deadLettered => "dead_lettered"

inductive ReferenceConnectorHealthStatus
  | healthy
  | degraded
  | offline
  deriving DecidableEq, Repr

/-- The string literal of the source. -/
def ReferenceConnectorHealthStatus.name : ReferenceConnectorHealthStatus → String
  | .healthy => "healthy"
  | .degraded => "degraded"
  | .offline => "offline"

/-! ## Times -/

/-- `new Date(Date.parse(isoDate) + milliseconds).toISOString()`
mirrors packages/core/src/reference-job-queue.ts:1118-1120 -/
def addMilliseconds (H : Host) (isoDate : IsoDateTime) (milliseconds : Rat) :
    Except String IsoDateTime :=
  match (dateParse H isoDate).bind fun time => timeClip (time + milliseconds) with
  | some time => .ok (toISOString time)
  | none => .error "Invalid time value"

/-! ## Requests and jobs -/

/-- The strategy has one value.
mirrors packages/core/src/reference-job-queue.ts:55-60 -/
structure ReferenceJobQueueBackoffPolicy where
  initialDelayMs : Rat
  maxDelayMs : Rat
  multiplier : Option Rat := none
  deriving DecidableEq

/-- mirrors packages/core/src/reference-job-queue.ts:62-75 -/
structure ReferenceJobQueueEnqueueRequest where
  kind : ReferenceQueuedJobKind
  connectorId : CanonicalId
  idempotencyKey : String
  payload : JsonRecord
  priority : Option ReferenceQueuedJobPriority := none
  requestedAt : Option IsoDateTime := none
  maxAttempts : Option Rat := none
  backoff : Option ReferenceJobQueueBackoffPolicy := none
  approval : Option ProvisioningApproval := none
  control : Option EnforcementControl := none
  readinessReportId : Option CanonicalId := none
  replayedFromJobId : Option CanonicalId := none

/-- mirrors packages/core/src/reference-job-queue.ts:77-84 -/
structure ReferenceProvisioningJobQueueOptions where
  plan : Option ProvisioningPlan := none
  requestedAt : Option IsoDateTime := none
  priority : Option ReferenceQueuedJobPriority := none
  maxAttempts : Option Rat := none
  backoff : Option ReferenceJobQueueBackoffPolicy := none
  readinessReportId : Option CanonicalId := none

/-- mirrors packages/core/src/reference-job-queue.ts:86-97 -/
structure ReferenceRevocationJobQueueRequest where
  connectorId : CanonicalId
  nativeGrantId : CanonicalId
  idempotencyKey : String
  requestedAt : Option IsoDateTime := none
  reason : Option String := none
  approval : Option ProvisioningApproval := none
  control : Option EnforcementControl := none
  readinessReportId : Option CanonicalId := none
  maxAttempts : Option Rat := none
  backoff : Option ReferenceJobQueueBackoffPolicy := none

/-- mirrors packages/core/src/reference-job-queue.ts:99-126, where a job of the runtime has
what running it reads. -/
structure ReferenceQueuedJob extends L5.ReferenceQueuedJob where
  status : ReferenceQueuedJobStatus
  priority : ReferenceQueuedJobPriority
  requestHash : String
  attempts : Nat
  maxAttempts : Rat
  backoff : ReferenceJobQueueBackoffPolicy
  requestedAt : IsoDateTime
  availableAt : IsoDateTime
  updatedAt : IsoDateTime
  workerId : Option CanonicalId := none
  startedAt : Option IsoDateTime := none
  leaseExpiresAt : Option IsoDateTime := none
  completedAt : Option IsoDateTime := none
  failedAt : Option IsoDateTime := none
  deadLetteredAt : Option IsoDateTime := none
  lastError : Option String := none
  replayedFromJobId : Option CanonicalId := none

/-- mirrors packages/core/src/reference-job-queue.ts:128-134 -/
structure ReferenceJobQueueIdempotencyRecord where
  idempotencyKey : String
  jobId : CanonicalId
  requestHash : String
  recordedAt : IsoDateTime

/-- mirrors packages/core/src/reference-job-queue.ts:136-144 -/
structure ReferenceConnectorHealth where
  connectorId : CanonicalId
  status : ReferenceConnectorHealthStatus
  updatedAt : IsoDateTime
  reason : Option String := none
  lastSuccessAt : Option IsoDateTime := none
  lastFailureAt : Option IsoDateTime := none

/-- mirrors packages/core/src/reference-job-queue.ts:146-150 -/
structure ReferenceJobQueueSnapshot where
  queuedJobs : List ReferenceQueuedJob
  connectorHealth : List ReferenceConnectorHealth
  idempotencyRecords : List ReferenceJobQueueIdempotencyRecord

/-! ## As JavaScript values -/

def ReferenceJobQueueBackoffPolicy.toJs (b : ReferenceJobQueueBackoffPolicy) : JsValue :=
  .obj [("strategy", .str "exponential"), ("initialDelayMs", .num (.fin b.initialDelayMs)),
    ("maxDelayMs", .num (.fin b.maxDelayMs)),
    ("multiplier", optionalJs (fun q => .num (.fin q)) b.multiplier)]

/-! ## Enqueuing -/

/-- A request with its defaults, and its hash.
mirrors packages/core/src/reference-job-queue.ts:965-979 -/
structure RequiredQueueRequest where
  kind : ReferenceQueuedJobKind
  connectorId : CanonicalId
  idempotencyKey : String
  payload : JsonRecord
  priority : ReferenceQueuedJobPriority
  requestedAt : IsoDateTime
  maxAttempts : Rat
  backoff : ReferenceJobQueueBackoffPolicy
  approval : Option ProvisioningApproval
  control : Option EnforcementControl
  readinessReportId : Option CanonicalId
  replayedFromJobId : Option CanonicalId

namespace RequiredQueueRequest

/-- What the hash of a request is made of: everything but `requestedAt`. -/
def source (request : RequiredQueueRequest) : JsonRecord :=
  [("kind", .str (kindName request.kind)), ("connectorId", .str request.connectorId),
    ("idempotencyKey", .str request.idempotencyKey), ("payload", .obj request.payload),
    ("priority", .str request.priority.name), ("maxAttempts", .num (.fin request.maxAttempts)),
    ("backoff", request.backoff.toJs),
    ("approval", optionalJs ProvisioningApproval.toJs request.approval),
    ("control", optionalJs EnforcementControl.toJs request.control),
    ("readinessReportId", optional request.readinessReportId),
    ("replayedFromJobId", optional request.replayedFromJobId)]

/-- mirrors packages/core/src/reference-job-queue.ts:871-883 -/
def requestHash (H : Host) (request : RequiredQueueRequest) : String :=
  "sha256:" ++ sha256 H (.obj request.source)

/-- What the id of a job is made of. -/
def identity (request : RequiredQueueRequest) : JsonRecord :=
  [("connectorId", .str request.connectorId), ("idempotencyKey", .str request.idempotencyKey),
    ("kind", .str (kindName request.kind))]

/-- mirrors packages/core/src/reference-job-queue.ts:983-987 -/
def jobId (H : Host) (request : RequiredQueueRequest) : CanonicalId :=
  "queue:" ++ sliceTo 24 (sha256 H (.obj request.identity))

end RequiredQueueRequest

/-- mirrors packages/core/src/reference-job-queue.ts:1096-1098 -/
def defaultPriority : ReferenceQueuedJobKind → ReferenceQueuedJobPriority
  | .revocation => .emergency
  | _ => .normal

/-- mirrors packages/core/src/reference-job-queue.ts:1100-1107 -/
def defaultBackoffPolicy : ReferenceJobQueueBackoffPolicy where
  initialDelayMs := 30000
  maxDelayMs := 900000
  multiplier := some 2

/-- mirrors packages/core/src/reference-job-queue.ts:1109-1111 -/
def defaultLeaseDurationMs : Rat := 300000

/-- In exact numbers.
mirrors packages/core/src/reference-job-queue.ts:1113-1116 -/
def backoffDelayMs (job : ReferenceQueuedJob) : Rat :=
  min job.backoff.maxDelayMs
    (job.backoff.initialDelayMs * job.backoff.multiplier.getD 2 ^ (job.attempts - 1))

/-- mirrors packages/core/src/reference-job-queue.ts:858-900 -/
def normalizeEnqueueRequest (now : IsoDateTime) (request : ReferenceJobQueueEnqueueRequest) :
    Except String RequiredQueueRequest :=
  if request.idempotencyKey = "" then
    .error "Reference queue jobs require an idempotency key."
  else if request.connectorId = "" then
    .error "Reference queue jobs require a connector id."
  else
    .ok
      { kind := request.kind
        connectorId := request.connectorId
        idempotencyKey := request.idempotencyKey
        payload := cloneFields request.payload
        priority := request.priority.getD (defaultPriority request.kind)
        requestedAt := request.requestedAt.getD now
        maxAttempts := request.maxAttempts.getD 3
        backoff := request.backoff.getD defaultBackoffPolicy
        approval := request.approval
        control := request.control
        readinessReportId := request.readinessReportId
        replayedFromJobId := request.replayedFromJobId }

/-- mirrors packages/core/src/reference-job-queue.ts:981-1007 -/
def createQueuedJob (H : Host) (request : RequiredQueueRequest) : ReferenceQueuedJob where
  id := request.jobId H
  kind := request.kind
  connectorId := request.connectorId
  status := .queued
  priority := request.priority
  idempotencyKey := request.idempotencyKey
  requestHash := request.requestHash H
  payload := request.payload
  attempts := 0
  maxAttempts := request.maxAttempts
  backoff := request.backoff
  requestedAt := request.requestedAt
  availableAt := request.requestedAt
  updatedAt := request.requestedAt
  approval := request.approval
  control := request.control
  readinessReportId := request.readinessReportId
  replayedFromJobId := request.replayedFromJobId

/-- The request that a job was made from. -/
def ReferenceQueuedJob.request (job : ReferenceQueuedJob) : RequiredQueueRequest where
  kind := job.kind
  connectorId := job.connectorId
  idempotencyKey := job.idempotencyKey
  payload := job.payload
  priority := job.priority
  requestedAt := job.requestedAt
  maxAttempts := job.maxAttempts
  backoff := job.backoff
  approval := job.approval
  control := job.control
  readinessReportId := job.readinessReportId
  replayedFromJobId := job.replayedFromJobId

namespace ReferenceQueuedJob

def toJs (job : ReferenceQueuedJob) : JsValue :=
  .obj [("id", .str job.id), ("kind", .str (kindName job.kind)),
    ("connectorId", .str job.connectorId), ("status", .str job.status.name),
    ("priority", .str job.priority.name), ("idempotencyKey", .str job.idempotencyKey),
    ("requestHash", .str job.requestHash), ("payload", .obj job.payload),
    ("attempts", natural job.attempts), ("maxAttempts", .num (.fin job.maxAttempts)),
    ("backoff", job.backoff.toJs), ("requestedAt", .str job.requestedAt),
    ("availableAt", .str job.availableAt), ("updatedAt", .str job.updatedAt),
    ("workerId", optional job.workerId), ("startedAt", optional job.startedAt),
    ("leaseExpiresAt", optional job.leaseExpiresAt), ("completedAt", optional job.completedAt),
    ("failedAt", optional job.failedAt), ("deadLetteredAt", optional job.deadLetteredAt),
    ("lastError", optional job.lastError), ("replayedFromJobId", optional job.replayedFromJobId),
    ("approval", optionalJs ProvisioningApproval.toJs job.approval),
    ("control", optionalJs EnforcementControl.toJs job.control),
    ("readinessReportId", optional job.readinessReportId),
    ("version", .str "production-queued-job:v1")]

end ReferenceQueuedJob

def ReferenceJobQueueIdempotencyRecord.toJs (r : ReferenceJobQueueIdempotencyRecord) : JsValue :=
  .obj [("idempotencyKey", .str r.idempotencyKey), ("jobId", .str r.jobId),
    ("requestHash", .str r.requestHash), ("recordedAt", .str r.recordedAt),
    ("version", .str "production-job-idempotency:v1")]

def ReferenceConnectorHealth.toJs (health : ReferenceConnectorHealth) : JsValue :=
  .obj [("connectorId", .str health.connectorId), ("status", .str health.status.name),
    ("updatedAt", .str health.updatedAt), ("reason", optional health.reason),
    ("lastSuccessAt", optional health.lastSuccessAt),
    ("lastFailureAt", optional health.lastFailureAt),
    ("version", .str "production-connector-health:v1")]

def ReferenceJobQueueSnapshot.toJs (queue : ReferenceJobQueueSnapshot) : JsValue :=
  .obj [("queuedJobs", .arr (queue.queuedJobs.map ReferenceQueuedJob.toJs)),
    ("connectorHealth", .arr (queue.connectorHealth.map ReferenceConnectorHealth.toJs)),
    ("idempotencyRecords",
      .arr (queue.idempotencyRecords.map ReferenceJobQueueIdempotencyRecord.toJs))]

theorem noSecretKeys_optional {H : Host} (o : Option String) : NoSecretKeys H (optional o) := by
  cases o with
  | none => exact .undefined
  | some s => exact .str s

/-- mirrors packages/core/src/reference-job-queue.ts:1157-1163 -/
def emptyQueueSnapshot : ReferenceJobQueueSnapshot where
  queuedJobs := []
  connectorHealth := []
  idempotencyRecords := []

end AccessKit.L6
