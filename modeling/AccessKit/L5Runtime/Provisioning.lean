import AccessKit.L3Policy.Json
import AccessKit.L3Policy.Validate

/-!
# Provisioning plans, jobs and readiness reports

packages/core/src/domain/provisioning.ts. The records as structures, as JavaScript
values for the audit events that carry them, and, where the runtime compares two of
them with `JSON.stringify`, the list of properties that it writes: its text depends
on the order in which an object has its properties, so approvals and controls carry
that order.
-/
namespace AccessKit.L5
open AccessKit.L1 AccessKit.L2.Audit AccessKit.L3

inductive ProvisioningMode
  | dryRun
  | enforcement
  deriving DecidableEq, Repr

/-- The string literal of the source. -/
def ProvisioningMode.name : ProvisioningMode → String
  | .dryRun => "dry_run"
  | .enforcement => "enforcement"

inductive ProvisioningStepStatus
  | planned
  | skipped
  | verified
  | applied
  | failed
  deriving DecidableEq, Repr

/-- The string literal of the source. -/
def ProvisioningStepStatus.name : ProvisioningStepStatus → String
  | .planned => "planned"
  | .skipped => "skipped"
  | .verified => "verified"
  | .applied => "applied"
  | .failed => "failed"

inductive ProvisioningVerificationStatus
  | pending
  | verified
  | skipped
  | failed
  deriving DecidableEq, Repr

/-- The string literal of the source. -/
def ProvisioningVerificationStatus.name : ProvisioningVerificationStatus → String
  | .pending => "pending"
  | .verified => "verified"
  | .skipped => "skipped"
  | .failed => "failed"

inductive ProvisioningCompensationStatus
  | planned
  | notRequired
  | skipped
  | failed
  deriving DecidableEq, Repr

/-- The string literal of the source. -/
def ProvisioningCompensationStatus.name : ProvisioningCompensationStatus → String
  | .planned => "planned"
  | .notRequired => "not_required"
  | .skipped => "skipped"
  | .failed => "failed"

inductive EnforcementReadinessStatus
  | ready
  | blocked
  deriving DecidableEq, Repr

/-- The string literal of the source. -/
def EnforcementReadinessStatus.name : EnforcementReadinessStatus → String
  | .ready => "ready"
  | .blocked => "blocked"

inductive ProvisioningOperation
  | grant
  | revoke
  | expire
  | repair
  | verify
  deriving DecidableEq, Repr

/-- The string literal of the source. -/
def ProvisioningOperation.name : ProvisioningOperation → String
  | .grant => "grant"
  | .revoke => "revoke"
  | .expire => "expire"
  | .repair => "repair"
  | .verify => "verify"

inductive ProvisioningPlanStatus
  | planned
  | approved
  | applied
  | failed
  | rolledBack
  deriving DecidableEq, Repr

/-- The string literal of the source. -/
def ProvisioningPlanStatus.name : ProvisioningPlanStatus → String
  | .planned => "planned"
  | .approved => "approved"
  | .applied => "applied"
  | .failed => "failed"
  | .rolledBack => "rolled_back"

inductive ProvisioningJobStatus
  | queued
  | running
  | completed
  | failed
  | rolledBack
  deriving DecidableEq, Repr

/-- The string literal of the source. -/
def ProvisioningJobStatus.name : ProvisioningJobStatus → String
  | .queued => "queued"
  | .running => "running"
  | .completed => "completed"
  | .failed => "failed"
  | .rolledBack => "rolled_back"

/-- mirrors packages/core/src/domain/provisioning.ts:23-30 -/
structure ProvisioningVerification where
  status : ProvisioningVerificationStatus
  method : String
  expectedState : JsonRecord
  readbackState : Option JsonRecord := none
  checkedAt : Option IsoDateTime := none
  message : Option String := none

/-- mirrors packages/core/src/domain/provisioning.ts:32-37 -/
structure ProvisioningCompensation where
  operation : ProvisioningOperation
  reason : String
  status : ProvisioningCompensationStatus
  idempotencyKey : String

/-- mirrors packages/core/src/domain/provisioning.ts:9-21 -/
structure ProvisioningAction where
  actionId : CanonicalId
  operation : ProvisioningOperation
  targetPlatform : String
  targetObjectId : CanonicalId
  requestedState : JsonRecord
  previousState : Option JsonRecord := none
  dryRun : Bool
  idempotencyKey : String
  status : ProvisioningStepStatus
  verification : ProvisioningVerification
  compensation : Option ProvisioningCompensation := none

/-- An approval, and the order of its properties, each of which it has once. The type has
one `decision`; the runtime looks at it anyway.
mirrors packages/core/src/domain/provisioning.ts:39-46 -/
structure ProvisioningApproval where
  decision : String := "approved"
  approverId : CanonicalId
  changeTicket : CanonicalId
  approvedAt : IsoDateTime
  expiresAt : Option IsoDateTime := none
  reason : Option String := none
  order : List String :=
    ["decision", "approverId", "changeTicket", "approvedAt", "expiresAt", "reason"]
  order_perm : order.Perm
    ["decision", "approverId", "changeTicket", "approvedAt", "expiresAt", "reason"] := by decide
  deriving DecidableEq

/-- Control settings, and the order of their properties, each of which they have once.
mirrors packages/core/src/domain/provisioning.ts:48-53 -/
structure EnforcementControl where
  syntheticOnly : Bool
  liveProviderWrites : Bool
  incidentMode : Bool
  breakGlass : Bool
  order : List String := ["syntheticOnly", "liveProviderWrites", "incidentMode", "breakGlass"]
  order_perm : order.Perm ["syntheticOnly", "liveProviderWrites", "incidentMode", "breakGlass"] := by
    decide
  deriving DecidableEq

/-- mirrors packages/core/src/domain/provisioning.ts:55-60 -/
structure EnforcementReadinessCheck where
  name : String
  status : ValidationCheckStatus
  message : String
  evidence : Option JsonRecord := none

/-- mirrors packages/core/src/domain/provisioning.ts:62-75; the mode has one value. -/
structure EnforcementReadinessReport where
  id : CanonicalId
  version : String
  createdAt : IsoDateTime
  connectorId : String
  provider : String
  tenantBoundary : String
  status : EnforcementReadinessStatus
  checkedAt : IsoDateTime
  control : EnforcementControl
  checks : List EnforcementReadinessCheck
  requiredApproverRole : String
  changeTicketPattern : String
  liveProviderWritesAllowed : Bool
  auditEventIds : List CanonicalId

/-- mirrors packages/core/src/domain/provisioning.ts:77-90 -/
structure ProvisioningPlan where
  id : CanonicalId
  version : String
  createdAt : IsoDateTime
  updatedAt : Option IsoDateTime := none
  sourceDecisionId : Option CanonicalId := none
  idempotencyKey : Option String := none
  connectorId : String
  subjectId : CanonicalId
  resourceId : CanonicalId
  action : String
  mode : ProvisioningMode
  status : ProvisioningPlanStatus
  actions : List ProvisioningAction
  approval : Option ProvisioningApproval := none
  control : Option EnforcementControl := none
  readinessReportId : Option CanonicalId := none

/-- mirrors packages/core/src/domain/provisioning.ts:92-101 -/
structure ProvisioningActionResult where
  actionId : CanonicalId
  operation : ProvisioningOperation
  status : ProvisioningStepStatus
  dryRun : Bool
  idempotencyKey : String
  message : String
  verification : ProvisioningVerification
  compensation : Option ProvisioningCompensation := none

/-- mirrors packages/core/src/domain/provisioning.ts:103-118 -/
structure ProvisioningJob where
  id : CanonicalId
  version : String
  createdAt : IsoDateTime
  planId : CanonicalId
  connectorId : String
  mode : ProvisioningMode
  dryRun : Bool
  status : ProvisioningJobStatus
  approverId : CanonicalId
  idempotencyKey : String
  actionResults : List ProvisioningActionResult
  verification : ProvisioningVerification
  auditEventIds : List CanonicalId
  approval : Option ProvisioningApproval := none
  control : Option EnforcementControl := none
  startedAt : IsoDateTime
  completedAt : Option IsoDateTime := none

/-! ## What `JSON.stringify` compares -/

/-- A property of an approval, when it is not `undefined`. -/
def ProvisioningApproval.property (a : ProvisioningApproval) : String → Option String
  | "decision" => some a.decision
  | "approverId" => some a.approverId
  | "changeTicket" => some a.changeTicket
  | "approvedAt" => some a.approvedAt
  | "expiresAt" => a.expiresAt
  | "reason" => a.reason
  | _ => none

/-- The properties that `JSON.stringify` writes, in order. Two approvals have the same
text exactly when these are the same. -/
def ProvisioningApproval.properties (a : ProvisioningApproval) : List (String × String) :=
  a.order.filterMap fun k => (a.property k).map (k, ·)

def EnforcementControl.property (c : EnforcementControl) : String → Option Bool
  | "syntheticOnly" => some c.syntheticOnly
  | "liveProviderWrites" => some c.liveProviderWrites
  | "incidentMode" => some c.incidentMode
  | "breakGlass" => some c.breakGlass
  | _ => none

def EnforcementControl.properties (c : EnforcementControl) : List (String × Bool) :=
  c.order.filterMap fun k => (c.property k).map (k, ·)

/-! ## As JavaScript values

Plans and jobs are records, as audit events carry them. -/

def ProvisioningVerification.toJs (v : ProvisioningVerification) : JsValue :=
  .obj [("status", .str v.status.name), ("method", .str v.method),
    ("expectedState", .obj v.expectedState), ("readbackState", optionalJs .obj v.readbackState),
    ("checkedAt", optional v.checkedAt), ("message", optional v.message)]

def ProvisioningCompensation.toJs (c : ProvisioningCompensation) : JsValue :=
  .obj [("operation", .str c.operation.name), ("reason", .str c.reason),
    ("status", .str c.status.name), ("idempotencyKey", .str c.idempotencyKey)]

def ProvisioningAction.toJs (a : ProvisioningAction) : JsValue :=
  .obj [("actionId", .str a.actionId), ("operation", .str a.operation.name),
    ("targetPlatform", .str a.targetPlatform), ("targetObjectId", .str a.targetObjectId),
    ("requestedState", .obj a.requestedState), ("previousState", optionalJs .obj a.previousState),
    ("dryRun", .bool a.dryRun), ("idempotencyKey", .str a.idempotencyKey),
    ("status", .str a.status.name), ("verification", a.verification.toJs),
    ("compensation", optionalJs ProvisioningCompensation.toJs a.compensation)]

def ProvisioningApproval.toJs (a : ProvisioningApproval) : JsValue :=
  .obj [("decision", .str a.decision), ("approverId", .str a.approverId),
    ("changeTicket", .str a.changeTicket), ("approvedAt", .str a.approvedAt),
    ("expiresAt", optional a.expiresAt), ("reason", optional a.reason)]

def EnforcementControl.toJs (c : EnforcementControl) : JsValue :=
  .obj [("syntheticOnly", .bool c.syntheticOnly), ("liveProviderWrites", .bool c.liveProviderWrites),
    ("incidentMode", .bool c.incidentMode), ("breakGlass", .bool c.breakGlass)]

def ProvisioningPlan.toJs (p : ProvisioningPlan) : JsonRecord :=
  [("id", .str p.id), ("version", .str p.version), ("createdAt", .str p.createdAt),
    ("updatedAt", optional p.updatedAt), ("sourceDecisionId", optional p.sourceDecisionId),
    ("idempotencyKey", optional p.idempotencyKey), ("connectorId", .str p.connectorId),
    ("subjectId", .str p.subjectId), ("resourceId", .str p.resourceId), ("action", .str p.action),
    ("mode", .str p.mode.name), ("status", .str p.status.name),
    ("actions", .arr (p.actions.map ProvisioningAction.toJs)),
    ("approval", optionalJs ProvisioningApproval.toJs p.approval),
    ("control", optionalJs EnforcementControl.toJs p.control),
    ("readinessReportId", optional p.readinessReportId)]

def ProvisioningActionResult.toJs (r : ProvisioningActionResult) : JsValue :=
  .obj [("actionId", .str r.actionId), ("operation", .str r.operation.name),
    ("status", .str r.status.name), ("dryRun", .bool r.dryRun),
    ("idempotencyKey", .str r.idempotencyKey), ("message", .str r.message),
    ("verification", r.verification.toJs),
    ("compensation", optionalJs ProvisioningCompensation.toJs r.compensation)]

def ProvisioningJob.toJs (j : ProvisioningJob) : JsonRecord :=
  [("id", .str j.id), ("version", .str j.version), ("createdAt", .str j.createdAt),
    ("planId", .str j.planId), ("connectorId", .str j.connectorId), ("mode", .str j.mode.name),
    ("dryRun", .bool j.dryRun), ("status", .str j.status.name), ("approverId", .str j.approverId),
    ("idempotencyKey", .str j.idempotencyKey),
    ("actionResults", .arr (j.actionResults.map ProvisioningActionResult.toJs)),
    ("verification", j.verification.toJs), ("auditEventIds", L3.strings j.auditEventIds),
    ("approval", optionalJs ProvisioningApproval.toJs j.approval),
    ("control", optionalJs EnforcementControl.toJs j.control), ("startedAt", .str j.startedAt),
    ("completedAt", optional j.completedAt)]

end AccessKit.L5
