import AccessKit.L2Graph.Records
import AccessKit.L5Runtime.GraphRuntime
import AccessKit.L5Runtime.Plans
import AccessKit.L6Queue.Drain
import AccessKit.L8Drift.Findings

/-!
# Reconciliation and drift remediation

packages/api/src/runtime-reconciliation.ts. A reconciliation stores what a connector detects,
each finding with its lifecycle and, when the connector names none, a native grant that is
inferred from the store. A remediation dry run plans the revocation of that grant.

What a connector answers is given with a call. Nothing comes between the parts of a call, and
what it persists is left out; the run records and events of a discovery are in
`AccessKit.L6Queue.Drain`.

Results:
* `runReconciliation_spec`, `runReconciliation_findings`: what a reconciliation stores.
* `reconciled_last`: a finding that is stored comes from the last one that was detected.
* `requestRemediation_ok`: what a dry run asks for, once it is past its checks.
-/
namespace AccessKit.L8
open AccessKit.Core AccessKit.L1 AccessKit.L2.Audit
open AccessKit.L2.Store (InMemoryRebacStore)
open AccessKit.L5 (ProvisioningApp ProvisioningPlan ProvisioningApproval RuntimeError PlanCall
  ConnectorAdapter Discovery)
open AccessKit.L5.ProvisioningApp (refusal unknownConnector)

/-! ## Records as values -/

def DriftSeverity.name : DriftSeverity → String
  | .low => "low"
  | .medium => "medium"
  | .high => "high"
  | .critical => "critical"

def DriftLifecycleState.name : DriftLifecycleState → String
  | .open => "open"
  | .triaged => "triaged"
  | .accepted => "accepted"
  | .remediationPending => "remediation_pending"
  | .repairing => "repairing"
  | .resolved => "resolved"
  | .expiredException => "expired_exception"

def DriftFindingStatus.name : DriftFindingStatus → String
  | .open => "open"
  | .accepted => "accepted"
  | .repairing => "repairing"
  | .resolved => "resolved"

def DriftRecommendedAction.name : DriftRecommendedAction → String
  | .revoke => "revoke"
  | .exception => "exception"
  | .repair => "repair"
  | .review => "review"

def ReconciliationTrigger.name : ReconciliationTrigger → String
  | .manual => "manual"
  | .scheduled => "scheduled"

def ReconciliationCadence.name : ReconciliationCadence → String
  | .manual => "manual"
  | .hourly => "hourly"
  | .daily => "daily"
  | .weekly => "weekly"

def DriftHookSystem.name : DriftHookSystem → String
  | .ticket => "ticket"
  | .siem => "siem"

def DriftHookStatus.name : DriftHookStatus → String
  | .pending => "pending"
  | .linked => "linked"
  | .notified => "notified"
  | .failed => "failed"

def ReconciliationScheduleEvidence.toJs (s : ReconciliationScheduleEvidence) : JsValue :=
  .obj [("cadence", .str s.cadence.name), ("scheduledAt", .str s.scheduledAt),
    ("windowStart", optional s.windowStart), ("windowEnd", optional s.windowEnd),
    ("nextRunAt", optional s.nextRunAt), ("gracePeriodHours", .num (.fin s.gracePeriodHours)),
    ("overdue", .bool s.overdue)]

def DriftHookEvidence.toJs (hook : DriftHookEvidence) : JsValue :=
  .obj [("system", .str hook.system.name), ("referenceId", .str hook.referenceId),
    ("status", .str hook.status.name), ("recordedAt", .str hook.recordedAt),
    ("url", optional hook.url), ("evidence", L3.optionalJs .obj hook.evidence)]

def DriftAutoRepairPolicy.toJs (policy : DriftAutoRepairPolicy) : JsValue :=
  .obj [("enabled", .bool policy.enabled),
    ("allowedActions", strings (policy.allowedActions.map (·.name))),
    ("maxSeverity", .str policy.maxSeverity.name),
    ("requireApproval", .bool policy.requireApproval),
    ("requireConnectorReadiness", .bool policy.requireConnectorReadiness),
    ("liveProviderWrites", .bool policy.liveProviderWrites), ("reason", optional policy.reason)]

def DriftDryRunRepairEvidence.toJs (repair : DriftDryRunRepairEvidence) : JsValue :=
  .obj [("planId", .str repair.planId), ("mode", .str "dry_run"),
    ("action", .str repair.action.name), ("status", .str repair.status),
    ("providerWrite", .bool false), ("generatedAt", .str repair.generatedAt),
    ("idempotencyKey", .str repair.idempotencyKey), ("evidence", .obj repair.evidence)]

def DriftRemediationEvidence.toJs (remediation : DriftRemediationEvidence) : JsValue :=
  .obj [("approval", L3.optionalJs ProvisioningApproval.toJs remediation.approval),
    ("approvedAt", optional remediation.approvedAt),
    ("dryRunRepair", L3.optionalJs DriftDryRunRepairEvidence.toJs remediation.dryRunRepair)]

def DriftFinding.toJs (finding : DriftFinding) : JsonRecord :=
  [("id", .str finding.id), ("version", .str finding.version),
    ("createdAt", .str finding.createdAt), ("updatedAt", optional finding.updatedAt),
    ("resourceId", .str finding.resourceId), ("subjectId", .str finding.subjectId),
    ("nativeGrantId", optional finding.nativeGrantId),
    ("nativeAccess", .str finding.nativeAccess), ("intendedAccess", .str finding.intendedAccess),
    ("severity", .str finding.severity.name),
    ("lifecycleState", optional (finding.lifecycleState.map (·.name))),
    ("ownerId", optional finding.ownerId), ("assigneeId", optional finding.assigneeId),
    ("detectedAt", .str finding.detectedAt),
    ("exceptionExpiresAt", optional finding.exceptionExpiresAt),
    ("sourceConnectorId", .str finding.sourceConnectorId),
    ("recommendedAction", .str finding.recommendedAction.name),
    ("status", .str finding.status.name),
    ("scheduledReconciliation",
      L3.optionalJs ReconciliationScheduleEvidence.toJs finding.scheduledReconciliation),
    ("hookEvidence", L3.optionalJs (fun hooks => .arr (hooks.map DriftHookEvidence.toJs))
      finding.hookEvidence),
    ("remediation", L3.optionalJs DriftRemediationEvidence.toJs finding.remediation),
    ("autoRepairPolicy", L3.optionalJs DriftAutoRepairPolicy.toJs finding.autoRepairPolicy)]

/-! ## The runtime -/

/-- mirrors packages/core/src/domain/drift.ts:84-98; a run completes. -/
structure ReconciliationRun where
  id : CanonicalId
  version : String := "reconciliation-run:v1"
  createdAt : IsoDateTime
  connectorId : String
  trigger : ReconciliationTrigger
  schedule : ReconciliationScheduleEvidence
  findings : List DriftFinding
  auditEventIds : List CanonicalId
  completedAt : IsoDateTime

/-- The parts of a runtime that reconciliation reads and writes. -/
structure DriftApp where
  runtime : ProvisioningApp
  store : InMemoryRebacStore
  driftFindings : OrderedMap CanonicalId DriftFinding
  reconciliationRuns : OrderedMap CanonicalId ReconciliationRun
  sequences : OrderedMap String Nat
  finding_id : ∀ id f, driftFindings.get? id = some f → f.id = id

/-- mirrors packages/api/src/runtime-reconciliation.ts:24-27 -/
structure ReconciliationRunOptions where
  trigger : Option ReconciliationTrigger := none
  schedule : Option ScheduleOptions := none

/-- mirrors packages/api/src/runtime-reconciliation.ts:29-34 -/
structure DriftRemediationPlanRequest where
  approval : ProvisioningApproval
  autoRepairPolicy : DriftAutoRepairPolicy
  readinessReportId : Option CanonicalId := none
  hookEvidence : Option (List DriftHookEvidence) := none

namespace DriftApp

section
variable (H : Host) (requestActor : Option CanonicalId) (app : DriftApp)

def now : IsoDateTime := app.runtime.now

def tick : DriftApp := { app with runtime := app.runtime.tick }

/-- mirrors packages/api/src/runtime-state.ts:42-51 -/
def recordAudit (input : AuditEventInput) : DriftApp × CanonicalId :=
  let (runtime, event) := app.runtime.recordAudit H requestActor input
  ({ app with runtime }, event.eventId)

/-- mirrors packages/core/src/store.ts:366-368 -/
def getDriftFinding (id : CanonicalId) : Option DriftFinding := app.driftFindings.get? id

/-- mirrors packages/core/src/store.ts:370-373 -/
def upsertDriftFinding (finding : DriftFinding) : DriftApp :=
  { app with
    driftFindings := app.driftFindings.set finding.id finding
    finding_id := OrderedMap.get?_set_key app.finding_id finding }

/-- mirrors packages/api/src/runtime-shared.ts:14-25 -/
def nextAppRecordSequence (key : String) (existingCount : Nat) : DriftApp × Nat :=
  let sequence := max ((app.sequences.get? key).getD 0) existingCount + 1
  ({ app with sequences := app.sequences.set key sequence }, sequence)

/-- The grants of a connector, a resource and a subject; an empty id filters nothing.
mirrors packages/core/src/store.ts:260-276 -/
def listNativeGrants (sourceConnectorId : String) (targetObjectId subjectId : CanonicalId) :
    List NativeGrant :=
  app.store.listNativeGrants.filter fun grant =>
    (sourceConnectorId = "" || grant.sourceConnectorId = sourceConnectorId) &&
    (targetObjectId = "" || grant.targetObjectId = targetObjectId) &&
    (subjectId = "" || grant.subjectId = subjectId)

/-- The grants that may be a finding's. -/
def candidateGrants (finding : DriftFinding) : List NativeGrant :=
  app.listNativeGrants finding.sourceConnectorId finding.resourceId finding.subjectId

/-- mirrors packages/api/src/runtime-reconciliation.ts:218-228 -/
def inferNativeGrantIdForFinding (finding : DriftFinding) : Option CanonicalId :=
  (((app.candidateGrants finding).find? (·.nativePermission = finding.nativeAccess)).or
    (app.candidateGrants finding).head?).map (·.id)

/-! ## Reconciliation -/

/-- Schedule evidence, as options. -/
def scheduleOptions (s : ReconciliationScheduleEvidence) : ScheduleOptions where
  cadence := some s.cadence
  scheduledAt := some s.scheduledAt
  windowStart := s.windowStart
  windowEnd := s.windowEnd
  nextRunAt := s.nextRunAt
  gracePeriodHours := some s.gracePeriodHours
  overdue := some s.overdue

/-- A finding that was detected, as it is stored.
mirrors packages/api/src/runtime-reconciliation.ts:47-54 -/
def enrichDetected (startedAt : IsoDateTime) (trigger : ReconciliationTrigger)
    (schedule : ReconciliationScheduleEvidence) (finding : DriftFinding) :
    Except String DriftFinding :=
  enrichDriftFindingLifecycle H finding
    { now := some startedAt
      trigger := some trigger
      schedule := some (scheduleOptions schedule)
      nativeGrantId := finding.nativeGrantId.or (app.inferNativeGrantIdForFinding finding) }

/-- mirrors packages/api/src/runtime-reconciliation.ts:60-67 -/
def driftEvent (finding : DriftFinding) : AuditEventInput where
  eventType := "drift.detected"
  actor := app.runtime.actor
  subjectId := some finding.subjectId
  resourceId := some finding.resourceId
  correlationId := "corr:" ++ finding.id
  payload := finding.toJs

/-- mirrors packages/api/src/runtime-reconciliation.ts:57-69 -/
def recordFindings : List DriftFinding → DriftApp → DriftApp × List CanonicalId
  | [], app => (app, [])
  | finding :: findings, app =>
    let app := app.upsertDriftFinding finding
    let (app, eventId) := app.recordAudit H requestActor (app.driftEvent finding)
    let (app, eventIds) := recordFindings findings app
    (app, eventId :: eventIds)

/-- mirrors packages/api/src/runtime-reconciliation.ts:83-86 -/
def reconciliationCounts (findings : List DriftFinding) : JsValue :=
  .obj [("findings", natural findings.length),
    ("highOrCritical", natural (findings.filter fun finding =>
      finding.severity = .high || finding.severity = .critical).length)]

/-- mirrors packages/api/src/runtime-reconciliation.ts:92-105 -/
def completedEvent (run : ReconciliationRun) : AuditEventInput where
  eventType := "reconciliation.completed"
  actor := app.runtime.actor
  correlationId := "corr:" ++ run.id ++ ":completed"
  payload := [("runId", .str run.id), ("connectorId", .str run.connectorId), ("dryRun", .bool true),
    ("trigger", .str run.trigger.name), ("schedule", run.schedule.toJs),
    ("counts", reconciliationCounts run.findings),
    ("findingIds", strings (run.findings.map (·.id)))]

/-- mirrors packages/core/src/store.ts:421-425 -/
def recordReconciliationRun (run : ReconciliationRun) :
    DriftApp × Except RuntimeError ReconciliationRun :=
  if (app.reconciliationRuns.get? run.id).isSome then
    (app, .error (.other ("Reconciliation run " ++ run.id ++ " has already been recorded.")))
  else ({ app with reconciliationRuns := app.reconciliationRuns.set run.id run }, .ok run)

/-- From the findings on.
mirrors packages/api/src/runtime-reconciliation.ts:57-109 -/
def storeReconciliation (connectorId runKey : String) (trigger : ReconciliationTrigger)
    (schedule : ReconciliationScheduleEvidence) (startedAt : IsoDateTime)
    (findings : List DriftFinding) : DriftApp × Except RuntimeError ReconciliationRun :=
  let (app, eventIds) := recordFindings H requestActor findings app
  let run : ReconciliationRun :=
    { id := "reconciliation:" ++ connectorId ++ ":" ++ runKey
      createdAt := startedAt
      connectorId
      trigger
      schedule
      findings
      auditEventIds := eventIds
      completedAt := app.now }
  let (app, eventId) := app.tick.recordAudit H requestActor (app.completedEvent run)
  app.recordReconciliationRun { run with auditEventIds := eventIds ++ [eventId] }

/-- Nothing is stored when the schedule or a finding throws.
mirrors packages/api/src/runtime-reconciliation.ts:36-109 -/
def runReconciliation (connectorId : String) (options : ReconciliationRunOptions)
    (detected : Except RuntimeError (List DriftFinding)) :
    DriftApp × Except RuntimeError ReconciliationRun :=
  match app.runtime.connectors.get? connectorId with
  | none => (app, .error (unknownConnector connectorId))
  | some _ =>
    let startedAt := app.now
    let trigger := options.trigger.getD .manual
    match buildReconciliationSchedule H startedAt trigger (options.schedule.getD {}) with
    | .error message => (app.tick, .error (.other message))
    | .ok schedule =>
      let existingRuns := app.reconciliationRuns.values.filter (·.connectorId = connectorId)
      let (app, runSequence) := app.tick.nextAppRecordSequence ("reconciliation:" ++ connectorId)
        existingRuns.length
      match detected with
      | .error e => (app, .error e)
      | .ok detected =>
        match detected.mapM (app.enrichDetected H startedAt trigger schedule) with
        | .error message => (app, .error (.other message))
        | .ok findings =>
          app.storeReconciliation H requestActor connectorId
            (L6.compactTimestamp startedAt ++ ":" ++ toString runSequence) trigger schedule
            startedAt findings

/-- The graph that a discovery stores.
mirrors packages/api/src/runtime-discovery.ts:24-51 -/
def syncConnector (connectorId : String) (discovery : Discovery) : DriftApp :=
  if (app.runtime.connectors.get? connectorId).isNone then app
  else
    match L5.GraphApp.discover discovery with
    | .error _ => app
    | .ok (resources, records) =>
      let store := app.store.upsertRecords records
      match discovery.readAll resources with
      | .error _ => { app with store }
      | .ok nativeGrants =>
        { app with store := discovery.storeNativeGrants connectorId nativeGrants store }

/-! ## Remediation -/

/-- mirrors packages/api/src/runtime-reconciliation.ts:275-277 -/
def driftRemediationAction (action : DriftRecommendedAction) : DriftRecommendedAction :=
  if action = .exception then .review else action

/-- The approval is there, since its type requires it.
mirrors packages/api/src/runtime-reconciliation.ts:230-273 -/
def assertDriftRemediationControls (finding : DriftFinding)
    (policy : DriftAutoRepairPolicy) : Except RuntimeError Unit :=
  if policy.liveProviderWrites then
    .error (refusal 403 "DRIFT_AUTO_REPAIR_LIVE_WRITES_BLOCKED"
      "Drift remediation dry-runs cannot enable live provider writes.")
  else if !policy.requireApproval then
    .error (refusal 409 "DRIFT_REMEDIATION_APPROVAL_REQUIRED"
      "Drift remediation requires explicit approval evidence.")
  else if !policy.requireConnectorReadiness then
    .error (refusal 409 "DRIFT_CONNECTOR_READINESS_REQUIRED"
      ("Drift remediation must require connector readiness before any auto-repair policy can " ++
        "be accepted."))
  else if !driftSeverityAllowed finding.severity policy.maxSeverity then
    .error (refusal 409 "DRIFT_AUTO_REPAIR_SEVERITY_BLOCKED"
      ("Finding " ++ finding.id ++ " severity " ++ finding.severity.name ++
        " exceeds auto-repair policy maximum " ++ policy.maxSeverity.name ++ "."))
  else if !policy.allowedActions.contains (driftRemediationAction finding.recommendedAction) then
    .error (refusal 409 "DRIFT_AUTO_REPAIR_ACTION_BLOCKED"
      ("Finding " ++ finding.id ++ " recommended action " ++
        (driftRemediationAction finding.recommendedAction).name ++ " is not allowed by policy."))
  else .ok ()

/-- The checks before a target is looked for.
mirrors packages/api/src/runtime-reconciliation.ts:123-131 -/
def assertRemediationAllowed (regExp : String → Option (String → Bool)) (finding : DriftFinding)
    (request : DriftRemediationPlanRequest) : Except RuntimeError Unit := do
  assertDriftRemediationControls finding request.autoRepairPolicy
  match app.runtime.connectors.get? finding.sourceConnectorId with
  | none => .error (unknownConnector finding.sourceConnectorId)
  | some connector =>
    app.runtime.assertEnforcementReadiness regExp connector finding.sourceConnectorId
      request.readinessReportId (some request.approval) none

/-- mirrors packages/api/src/runtime-reconciliation.ts:134-140 -/
def targetMissing (finding : DriftFinding) : RuntimeError :=
  refusal 409 "DRIFT_REPAIR_TARGET_MISSING"
    ("Finding " ++ finding.id ++ " cannot be dry-run repaired because no native grant target is " ++
      "available.")

/-- mirrors packages/api/src/runtime-reconciliation.ts:132 -/
def remediationTarget (finding : DriftFinding) : Option CanonicalId :=
  finding.nativeGrantId.or (app.inferNativeGrantIdForFinding finding)

/-- The plan that is asked for.
mirrors packages/api/src/runtime-reconciliation.ts:142-148 -/
def remediationCall (finding : DriftFinding) (nativeGrantId : Option CanonicalId)
    (idempotencyKey : String) : PlanCall where
  request := match finding.recommendedAction, truthy nativeGrantId with
    | .revoke, some nativeGrantId => .revocation nativeGrantId
    | _, _ => .decision {
        subjectId := finding.subjectId
        resourceId := finding.resourceId
        action := if finding.intendedAccess = "none" then "review" else finding.intendedAccess }
  connectorId := finding.sourceConnectorId
  options := { mode := some .dryRun }
  idempotencyKey := some idempotencyKey
  requestActor := requestActor

/-- A dry run up to its plan: the finding, its target and the plan that is asked for.
mirrors packages/api/src/runtime-reconciliation.ts:117-148 -/
def requestRemediation (regExp : String → Option (String → Bool)) (findingId : CanonicalId)
    (request : DriftRemediationPlanRequest) (idempotencyKey : String) :
    Except RuntimeError (Option (DriftFinding × Option CanonicalId × PlanCall)) :=
  match app.getDriftFinding findingId with
  | none => .ok none
  | some finding =>
    match app.assertRemediationAllowed regExp finding request with
    | .error e => .error e
    | .ok () =>
      let nativeGrantId := app.remediationTarget finding
      if (truthy nativeGrantId).isNone && finding.recommendedAction = .revoke then
        .error (targetMissing finding)
      else
        .ok (some (finding, nativeGrantId,
          remediationCall requestActor finding nativeGrantId idempotencyKey))

/-- mirrors packages/api/src/runtime-reconciliation.ts:279-287 -/
def mergeDriftHookEvidence (existing incoming : List DriftHookEvidence) :
    List DriftHookEvidence :=
  let key (hook : DriftHookEvidence) : String := hook.system.name ++ ":" ++ hook.referenceId
  (incoming.foldl (fun hooks hook => hooks.set (key hook) hook)
    (OrderedMap.ofList key existing)).values

/-- mirrors packages/api/src/runtime-reconciliation.ts:161-179 -/
def dryRunRepair (finding : DriftFinding) (request : DriftRemediationPlanRequest)
    (plan : ProvisioningPlan) (plannedAt : IsoDateTime) (idempotencyKey : String) :
    DriftDryRunRepairEvidence where
  planId := plan.id
  action := driftRemediationAction finding.recommendedAction
  generatedAt := plannedAt
  idempotencyKey
  evidence := [("connectorId", .str finding.sourceConnectorId),
    ("readinessReportId", optional request.readinessReportId), ("planId", .str plan.id),
    ("actionIds", strings (plan.actions.map (·.actionId))), ("dryRun", .bool true),
    ("liveProviderWrites", .bool false)]

/-- The finding after a dry run. One that was stored without hook evidence throws.
mirrors packages/api/src/runtime-reconciliation.ts:150-182 -/
def remediatedFinding (finding : DriftFinding) (nativeGrantId : Option CanonicalId)
    (request : DriftRemediationPlanRequest) (plan : ProvisioningPlan) (plannedAt : IsoDateTime)
    (idempotencyKey : String) : Except String DriftFinding :=
  match finding.hookEvidence with
  | none => .error "Cannot read properties of undefined (reading 'map')"
  | some hookEvidence =>
    enrichDriftFindingLifecycle H
      { finding with
        nativeGrantId
        status := .repairing
        lifecycleState := some .repairing
        hookEvidence := some
          (mergeDriftHookEvidence hookEvidence (request.hookEvidence.getD []))
        autoRepairPolicy := some request.autoRepairPolicy
        remediation := some
          { approval := some request.approval
            approvedAt := some request.approval.approvedAt
            dryRunRepair := some (dryRunRepair finding request plan plannedAt idempotencyKey) }
        updatedAt := some plannedAt }
      { now := some plannedAt }

/-- mirrors packages/api/src/runtime-reconciliation.ts:186-212 -/
def remediationEvents (finding : DriftFinding) (request : DriftRemediationPlanRequest)
    (plan : ProvisioningPlan) : List AuditEventInput :=
  let event (eventType step : String) (payload : JsonRecord) : AuditEventInput :=
    { eventType
      actor := app.runtime.actor
      subjectId := some finding.subjectId
      resourceId := some finding.resourceId
      correlationId := "corr:" ++ finding.id ++ ":" ++ step
      payload }
  [event "drift.remediation_approved" "remediation-approved"
      [("findingId", .str finding.id), ("approval", request.approval.toJs),
        ("autoRepairPolicy", request.autoRepairPolicy.toJs),
        ("readinessReportId", optional request.readinessReportId),
        ("hookEvidence", .arr ((finding.hookEvidence.getD []).map (·.toJs)))],
    event "drift.repair_dry_run_planned" "repair-dry-run"
      [("findingId", .str finding.id), ("planId", .str plan.id), ("providerWrite", .bool false),
        ("liveProviderWrites", .bool false),
        ("dryRunRepair", L3.optionalJs DriftDryRunRepairEvidence.toJs
          (finding.remediation.bind (·.dryRunRepair)))]]

/-- From the plan on.
mirrors packages/api/src/runtime-reconciliation.ts:149-215 -/
def storeRemediation (finding : DriftFinding) (nativeGrantId : Option CanonicalId)
    (request : DriftRemediationPlanRequest) (plan : ProvisioningPlan) (idempotencyKey : String) :
    DriftApp × Except RuntimeError (Option DriftFinding) :=
  let plannedAt := app.now
  let app := app.tick
  match remediatedFinding H finding nativeGrantId request plan plannedAt idempotencyKey with
  | .error message => (app, .error (.other message))
  | .ok updatedFinding =>
    let app := app.upsertDriftFinding updatedFinding
    let runtime := (ProvisioningApp.recordAll H requestActor
      (app.remediationEvents updatedFinding request plan) app.runtime).1
    ({ app with runtime }, .ok (some updatedFinding))

/-- A dry run of a remediation. `decision` is the event of the decision that is asked for when
nothing is revoked, and `planned` what the connector answers to a call.
mirrors packages/api/src/runtime-reconciliation.ts:111-216 -/
def planDriftRemediationDryRun (regExp : String → Option (String → Bool))
    (findingId : CanonicalId) (request : DriftRemediationPlanRequest) (idempotencyKey : String)
    (decision : AuditEventInput) (planned : PlanCall → Except RuntimeError ProvisioningPlan) :
    DriftApp × Except RuntimeError (Option DriftFinding) :=
  match app.requestRemediation requestActor regExp findingId request idempotencyKey with
  | .error e => (app, .error e)
  | .ok none => (app, .ok none)
  | .ok (some (finding, nativeGrantId, call)) =>
    match app.runtime.createProvisioningPlan H regExp call decision (planned call) with
    | (runtime, .error e) => ({ app with runtime }, .error e)
    | (runtime, .ok plan) =>
      { app with runtime }.storeRemediation H requestActor finding nativeGrantId request plan
        idempotencyKey

end

/-! ## What a reconciliation stores -/

section
variable {H : Host} {requestActor : Option CanonicalId} {app : DriftApp}

/-- The findings of a reconciliation, as they are stored, or what is thrown before any is. -/
def reconciledFindings (H : Host) (app : DriftApp) (connectorId : String)
    (options : ReconciliationRunOptions) (detected : Except RuntimeError (List DriftFinding)) :
    Except RuntimeError (List DriftFinding) := do
  if (app.runtime.connectors.get? connectorId).isNone then
    throw (unknownConnector connectorId)
  let trigger := options.trigger.getD .manual
  let schedule ← (buildReconciliationSchedule H app.now trigger
    (options.schedule.getD {})).mapError .other
  let detected ← detected
  (detected.mapM (app.enrichDetected H app.now trigger schedule)).mapError .other

theorem recordFindings_driftFindings (findings : List DriftFinding) (app : DriftApp) :
    (recordFindings H requestActor findings app).1.driftFindings =
      findings.foldl (fun m f => m.set f.id f) app.driftFindings ∧
    (recordFindings H requestActor findings app).1.store = app.store := by
  induction findings generalizing app with
  | nil => exact ⟨rfl, rfl⟩
  | cons finding findings ih => exact ih _

theorem storeReconciliation_driftFindings (connectorId runKey : String)
    (trigger : ReconciliationTrigger) (schedule : ReconciliationScheduleEvidence)
    (startedAt : IsoDateTime) (findings : List DriftFinding) :
    (app.storeReconciliation H requestActor connectorId runKey trigger schedule startedAt
      findings).1.driftFindings = findings.foldl (fun m f => m.set f.id f) app.driftFindings ∧
    (app.storeReconciliation H requestActor connectorId runKey trigger schedule startedAt
      findings).1.store = app.store := by
  rw [← (recordFindings_driftFindings (H := H) findings app).1,
    ← (recordFindings_driftFindings (H := H) findings app).2]
  unfold storeReconciliation recordReconciliationRun
  dsimp only
  split <;> exact ⟨rfl, rfl⟩

/-- **A reconciliation.** It stores the findings that it was given, or nothing; and it leaves
the graph. -/
theorem runReconciliation_spec (connectorId : String) (options : ReconciliationRunOptions)
    (detected : Except RuntimeError (List DriftFinding)) :
    (app.runReconciliation H requestActor connectorId options detected).1.driftFindings =
      (match reconciledFindings H app connectorId options detected with
        | .ok findings => findings.foldl (fun m f => m.set f.id f) app.driftFindings
        | .error _ => app.driftFindings) ∧
    (app.runReconciliation H requestActor connectorId options detected).1.store = app.store := by
  unfold runReconciliation reconciledFindings
  cases app.runtime.connectors.get? connectorId with
  | none => exact ⟨rfl, rfl⟩
  | some connector =>
    simp only [Option.isNone_some]
    cases buildReconciliationSchedule H app.now (options.trigger.getD .manual)
        (options.schedule.getD {}) with
    | error message => exact ⟨rfl, rfl⟩
    | ok schedule =>
      cases detected with
      | error e => exact ⟨rfl, rfl⟩
      | ok detected =>
        -- The findings are enriched from the same grants.
        have henrich (key : String) (n : Nat) :
            (app.tick.nextAppRecordSequence key n).1.enrichDetected H = app.enrichDetected H := rfl
        simp only [henrich]
        cases hfindings : detected.mapM
            (app.enrichDetected H app.now (options.trigger.getD .manual) schedule) with
        | error message =>
          refine ⟨?_, rfl⟩
          simp [hfindings, Except.mapError, bind, Except.bind]
          rfl
        | ok findings =>
          refine ⟨(storeReconciliation_driftFindings ..).1.trans ?_,
            (storeReconciliation_driftFindings ..).2⟩
          simp [hfindings, Except.mapError, bind, Except.bind]
          rfl

theorem runReconciliation_findings (connectorId : String) (options : ReconciliationRunOptions)
    (detected : Except RuntimeError (List DriftFinding)) (id : CanonicalId) :
    (app.runReconciliation H requestActor connectorId options detected).1.getDriftFinding id =
      match reconciledFindings H app connectorId options detected with
      | .ok findings => (findings.reverse.find? (·.id = id)).or (app.getDriftFinding id)
      | .error _ => app.getDriftFinding id := by
  rw [getDriftFinding, (runReconciliation_spec connectorId options detected).1]
  cases reconciledFindings H app connectorId options detected with
  | error e => rfl
  | ok findings =>
    simp only [OrderedMap.get?_foldl_set]
    cases findings.reverse.find? fun f => decide (f.id = id) <;> rfl

theorem last_mapM {ε α β : Type} {f : α → Except ε β} {p : α → Bool} {q : β → Bool}
    (hpq : ∀ a b, f a = .ok b → q b = p a) {l : List α} {l' : List β} (h : l.mapM f = .ok l') :
    Option.Rel (fun a b => f a = .ok b) (l.reverse.find? p) (l'.reverse.find? q) := by
  induction l generalizing l' with
  | nil =>
    obtain rfl := Except.ok.inj h
    exact .none
  | cons a l ih =>
    rw [List.mapM_cons] at h
    obtain ⟨b, hb, h⟩ := L2.Audit.bind_ok.1 h
    obtain ⟨rest, hrest, h⟩ := L2.Audit.bind_ok.1 h
    obtain rfl := Except.ok.inj h
    simp only [List.reverse_cons, List.find?_append]
    have hrel := ih hrest
    generalize l.reverse.find? p = x, rest.reverse.find? q = y at hrel ⊢
    cases hrel with
    | some hrel => exact .some hrel
    | none =>
      rw [Option.none_or, Option.none_or]
      by_cases hp : p a = true
      · rw [List.find?_cons_of_pos hp, List.find?_cons_of_pos ((hpq a b hb).trans hp)]
        exact .some hb
      · rw [List.find?_cons_of_neg hp, List.find?_cons_of_neg (by rwa [hpq a b hb])]
        exact .none

theorem enrichDetected_id {startedAt : IsoDateTime} {trigger : ReconciliationTrigger}
    {schedule : ReconciliationScheduleEvidence} {d f : DriftFinding}
    (h : app.enrichDetected H startedAt trigger schedule d = .ok f) : f.id = d.id := by
  rw [(enrichDriftFindingLifecycle_ok h).rest]

/-- **Where a stored finding comes from.** The last finding of an id that is stored is the last
one of that id that was detected, enriched. -/
theorem reconciled_last {connectorId : String} {options : ReconciliationRunOptions}
    {detected findings : List DriftFinding}
    (h : reconciledFindings H app connectorId options (.ok detected) = .ok findings)
    (id : CanonicalId) :
    ∃ startedAt trigger schedule, Option.Rel
      (fun d f => app.enrichDetected H startedAt trigger schedule d = .ok f)
      (detected.reverse.find? (·.id = id)) (findings.reverse.find? (·.id = id)) := by
  unfold reconciledFindings at h
  split at h
  · cases h
  · obtain ⟨schedule, -, h⟩ := L2.Audit.bind_ok.1 h
    cases hmap : detected.mapM
        (app.enrichDetected H app.now (options.trigger.getD .manual) schedule) with
    | error message =>
      simp [hmap, bind, Except.bind, Except.mapError] at h
    | ok mapped =>
      simp only [hmap, bind, Except.bind, Except.mapError] at h
      obtain rfl := Except.ok.inj h
      exact ⟨_, _, schedule, last_mapM (fun d f hf => by rw [enrichDetected_id hf]) hmap⟩

theorem syncConnector_driftFindings (connectorId : String) (discovery : Discovery) :
    (app.syncConnector connectorId discovery).driftFindings = app.driftFindings := by
  unfold syncConnector
  split
  · rfl
  · split
    · rfl
    · dsimp only
      split <;> rfl

/-! ## What a dry run does -/

/-- **A dry run that asks for a plan.** -/
theorem requestRemediation_ok {regExp : String → Option (String → Bool)}
    {findingId : CanonicalId} {request : DriftRemediationPlanRequest} {idempotencyKey : String}
    {finding : DriftFinding} {nativeGrantId : Option CanonicalId} {call : PlanCall}
    (h : app.requestRemediation requestActor regExp findingId request idempotencyKey =
      .ok (some (finding, nativeGrantId, call))) :
    app.getDriftFinding findingId = some finding ∧
    app.assertRemediationAllowed regExp finding request = .ok () ∧
    nativeGrantId = app.remediationTarget finding ∧
    (finding.recommendedAction = .revoke → ∃ g, truthy nativeGrantId = some g ∧
      call.request = .revocation g) := by
  unfold requestRemediation at h
  cases hfinding : app.getDriftFinding findingId with
  | none =>
    rw [hfinding] at h
    cases h
  | some f =>
    rw [hfinding] at h
    cases hallowed : app.assertRemediationAllowed regExp f request with
    | error e =>
      simp only [hallowed] at h
      cases h
    | ok =>
      simp only [hallowed] at h
      split at h
      · cases h
      · rename_i htarget
        cases Except.ok.inj h
        refine ⟨rfl, hallowed, rfl, fun hrevoke => ?_⟩
        simp only [hrevoke, decide_true, Bool.and_true, Option.isNone_iff_eq_none] at htarget
        obtain ⟨g, hg⟩ := Option.ne_none_iff_exists'.1 htarget
        exact ⟨g, hg, by simp only [remediationCall, hrevoke, hg]⟩

theorem requestRemediation_missing {regExp : String → Option (String → Bool)}
    {findingId : CanonicalId} {request : DriftRemediationPlanRequest} {finding : DriftFinding}
    (hfinding : app.getDriftFinding findingId = some finding)
    (hrevoke : finding.recommendedAction = .revoke)
    (htarget : truthy (app.remediationTarget finding) = none) (idempotencyKey : String) :
    ∃ e, app.requestRemediation requestActor regExp findingId request idempotencyKey = .error e ∧
      (app.assertRemediationAllowed regExp finding request = .ok () →
        e = targetMissing finding) := by
  unfold requestRemediation
  rw [hfinding]
  cases hallowed : app.assertRemediationAllowed regExp finding request with
  | error e => exact ⟨e, by simp only [hallowed], fun h => by cases h⟩
  | ok => exact ⟨_, by simp [hallowed, htarget, hrevoke], fun _ => rfl⟩

/-- A finding is another one with a target, as far as its target depends on it. -/
structure Retargeted (finding : DriftFinding) (nativeGrantId : Option CanonicalId)
    (updated : DriftFinding) : Prop where
  id : updated.id = finding.id
  nativeGrantId : updated.nativeGrantId = nativeGrantId
  recommendedAction : updated.recommendedAction = finding.recommendedAction
  sourceConnectorId : updated.sourceConnectorId = finding.sourceConnectorId
  resourceId : updated.resourceId = finding.resourceId
  subjectId : updated.subjectId = finding.subjectId
  nativeAccess : updated.nativeAccess = finding.nativeAccess

theorem remediatedFinding_ok {finding updated : DriftFinding} {nativeGrantId : Option CanonicalId}
    {request : DriftRemediationPlanRequest} {plan : ProvisioningPlan} {plannedAt : IsoDateTime}
    {idempotencyKey : String}
    (h : remediatedFinding H finding nativeGrantId request plan plannedAt idempotencyKey =
      .ok updated) : Retargeted finding nativeGrantId updated := by
  unfold remediatedFinding at h
  split at h
  · cases h
  · have henriched := enrichDriftFindingLifecycle_ok h
    have hgrant := henriched.nativeGrantId
    rw [Option.or_none] at hgrant
    rw [henriched.rest]
    exact ⟨rfl, hgrant, rfl, rfl, rfl, rfl, rfl⟩

/-- **A dry run.** It stores the finding with its target, or no finding. -/
theorem planDriftRemediationDryRun_spec (H : Host) (requestActor : Option CanonicalId)
    (app : DriftApp) (regExp : String → Option (String → Bool))
    (findingId : CanonicalId) (request : DriftRemediationPlanRequest) (idempotencyKey : String)
    (decision : AuditEventInput) (planned : PlanCall → Except RuntimeError ProvisioningPlan) :
    (app.planDriftRemediationDryRun H requestActor regExp findingId request idempotencyKey decision
      planned).1.store = app.store ∧
    ((app.planDriftRemediationDryRun H requestActor regExp findingId request idempotencyKey
        decision planned).1.driftFindings = app.driftFindings ∨
      ∃ finding nativeGrantId call updated,
        app.requestRemediation requestActor regExp findingId request idempotencyKey =
          .ok (some (finding, nativeGrantId, call)) ∧
        Retargeted finding nativeGrantId updated ∧
        (app.planDriftRemediationDryRun H requestActor regExp findingId request idempotencyKey
          decision planned).1.driftFindings = app.driftFindings.set updated.id updated) := by
  unfold planDriftRemediationDryRun
  cases hrequest : app.requestRemediation requestActor regExp findingId request
      idempotencyKey with
  | error e => exact ⟨rfl, .inl rfl⟩
  | ok asked =>
    cases asked with
    | none => exact ⟨rfl, .inl rfl⟩
    | some asked =>
      obtain ⟨finding, nativeGrantId, call⟩ := asked
      dsimp only
      cases hplan : app.runtime.createProvisioningPlan H regExp call decision (planned call) with
      | mk runtime result =>
        cases result with
        | error e => exact ⟨rfl, .inl rfl⟩
        | ok plan =>
          dsimp only
          unfold storeRemediation
          dsimp only
          split
          · exact ⟨rfl, .inl rfl⟩
          · rename_i updated hupdated
            exact ⟨rfl, .inr ⟨finding, nativeGrantId, call, updated, rfl,
              remediatedFinding_ok hupdated, rfl⟩⟩

end

end DriftApp

end AccessKit.L8
