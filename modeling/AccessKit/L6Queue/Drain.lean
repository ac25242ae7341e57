import AccessKit.L5Runtime.KeptRecords
import AccessKit.L6Queue.QueueSteps

/-!
# Draining the queue

packages/api/src/job-queue-runner.ts. A drain reserves a job, executes it on a runtime and
reports to the queue what came of it: a completion when the execution returned, a failure
when it threw. A discovery, a reconciliation and an export return the record that they made or
throw; a call for a provisioning job may return nothing.

What a connector answers and what an evidence package holds is given with a drain. The graph
that a discovery stores is in `AccessKit.L5Runtime.GraphRuntime`.

Results:
* `executeQueuedJob_ok`: what an execution returned is there and is what the job stands for,
  unless the job resolves nothing.
* `executeQueuedJob_run`: an execution is a run of operations of the runtime.
* `drain_executed`: a job that returns in time is completed.
-/
namespace AccessKit.L6
open AccessKit.Core AccessKit.L1 AccessKit.L2.Audit
open AccessKit.L5 (ProvisioningApp ProvisioningJob ProvisioningPlan RuntimeRecord RecordCollection
  RuntimeError JobCall PlanCall JobAnswers JobProgress ConnectorAdapter ConnectorCapabilities
  optionalString requiredString readProvisioningMode)
open L5.ProvisioningApp (unknownConnector JobOf PlanOf)
open ReferenceJobQueueAdapter

/-! ## The runtime of a drain -/

/-- A runtime that drains a queue: what it provisions with, the records of its runs and of
the drift it found, and the numbers it has given out for them. -/
structure DrainApp where
  runtime : ProvisioningApp
  records : OrderedMap (RecordCollection × CanonicalId) RuntimeRecord
  sequences : OrderedMap String Nat

/-- What an execution makes. -/
inductive Produced
  | record (r : RuntimeRecord)
  | provisioningJob (job : ProvisioningJob)
  | evidenceExport (exported : JsonRecord)

/-- mirrors packages/api/src/runtime-shared.ts:10-12 -/
def compactTimestamp (timestamp : IsoDateTime) : String :=
  String.ofList ((timestamp.toList.filter Char.isAlphanum).map Char.toLower)

/-- The names of the capabilities that are there.
mirrors packages/api/src/runtime-discovery.ts:79-81 -/
def capabilityNames (c : ConnectorCapabilities) : List String :=
  ([("supportsDiscovery", c.supportsDiscovery), ("supportsProvisioning", c.supportsProvisioning),
    ("supportsReconciliation", c.supportsReconciliation),
    ("supportsDirectPermissions", c.supportsDirectPermissions),
    ("supportsInheritedPermissions", c.supportsInheritedPermissions),
    ("supportsExternalUsers", c.supportsExternalUsers),
    ("supportsTimeBoundAccess", c.supportsTimeBoundAccess)].filter (·.2)).map (·.1)

/-- What a connector answers a discovery: how much it found, and what it says of itself. -/
structure Discovered where
  subjects : Nat
  resources : Nat
  relationships : Nat
  nativeGrants : Nat
  warnings : List String
  cursor : Option String
  provider : Option String
  tenantBoundary : Option String

/-- A finding of a connector, with its lifecycle. -/
structure DetectedFinding where
  id : CanonicalId
  subjectId : CanonicalId
  resourceId : CanonicalId
  severity : String
  fields : JsonRecord

/-- What comes from outside in an execution. The package of an export is built from the
controls, the format and the time, and from what the runtime stores. -/
structure ExecutionAnswers where
  discovered : Except RuntimeError Discovered
  findings : Except RuntimeError (List DetectedFinding)
  decision : AuditEventInput
  planned : Except RuntimeError ProvisioningPlan
  job : JobAnswers
  finalized : List String → String → IsoDateTime → Except RuntimeError JsonRecord
  storageReceipt : Option JsonRecord

namespace DrainApp

section
variable (H : Host) (requestActor : Option CanonicalId) (app : DrainApp)

def now : IsoDateTime := app.runtime.now

def tick : DrainApp := { app with runtime := app.runtime.tick }

/-- The event's id with the runtime.
mirrors packages/api/src/runtime-state.ts:42-51 -/
def recordAudit (input : AuditEventInput) : DrainApp × CanonicalId :=
  let (runtime, event) := app.runtime.recordAudit H requestActor input
  ({ app with runtime }, event.eventId)

/-- The run is one of a connector. -/
def isRunOf (connectorId : String) (run : RuntimeRecord) : Bool :=
  (JsonRecord.get run.fields "connectorId").strictEq (.str connectorId)

/-- An empty id filters nothing.
mirrors packages/core/src/store.ts:300-307 -/
def listDiscoveryRuns (connectorId : String) : List RuntimeRecord :=
  app.records.values.filter fun run => run.collection = .discoveryRuns &&
    (connectorId = "" || isRunOf connectorId run)

/-- mirrors packages/core/src/store.ts:427-429 -/
def listReconciliationRuns : List RuntimeRecord :=
  app.records.values.filter fun run => run.collection = .reconciliationRuns

/-- mirrors packages/api/src/runtime-shared.ts:14-25 -/
def nextAppRecordSequence (key : String) (existingCount : Nat) : DrainApp × Nat :=
  let sequence := max ((app.sequences.get? key).getD 0) existingCount + 1
  ({ app with sequences := app.sequences.set key sequence }, sequence)

/-- mirrors packages/core/src/store.ts:294-298, 421-425, 505-509 -/
def record (entityName : String) (run : RuntimeRecord) : DrainApp × Except RuntimeError Produced :=
  if (app.records.get? run.key).isSome then
    (app, .error (.other (entityName ++ " " ++ run.id ++ " has already been recorded.")))
  else ({ app with records := app.records.set run.key run }, .ok (.record run))

end

/-! ## Discovery -/

/-- mirrors packages/api/src/runtime-discovery.ts:61-67 -/
def discoveryCounts (d : Discovered) : JsValue :=
  .obj [("subjects", natural d.subjects), ("resources", natural d.resources),
    ("relationships", natural d.relationships), ("nativeGrants", natural d.nativeGrants),
    ("warnings", natural d.warnings.length)]

def discoveryStatus (d : Discovered) : String :=
  if 0 < d.warnings.length then "completed_with_warnings" else "completed"

/-- mirrors packages/api/src/runtime-discovery.ts:71-81 -/
def discoveryEvidence (connector : ConnectorAdapter) (d : Discovered) : JsValue :=
  .obj [("readOnly", .bool true),
    ("schemas", strings ["subject", "resource", "relationship", "native-grant", "discovery-run"]),
    ("connectorCapabilities", strings (capabilityNames connector.capabilities)),
    ("nativeAccessReadback", .bool (0 < d.nativeGrants))]

/-- mirrors packages/api/src/runtime-discovery.ts:54-86, 109 -/
def discoveryRun (connectorId runKey : String) (connector : ConnectorAdapter) (d : Discovered)
    (startedAt completedAt : IsoDateTime) (auditEventIds : List CanonicalId) : RuntimeRecord where
  collection := .discoveryRuns
  id := "discovery:" ++ runKey
  fields := [("connectorId", .str connectorId), ("mode", .str "read_only"),
    ("status", .str (discoveryStatus d)), ("startedAt", .str startedAt),
    ("completedAt", .str completedAt), ("counts", discoveryCounts d),
    ("warnings", strings d.warnings), ("cursor", optional d.cursor),
    ("evidence", discoveryEvidence connector d), ("auditEventIds", strings auditEventIds),
    ("version", .str "discovery-run:v1"), ("createdAt", .str startedAt),
    ("updatedAt", .str completedAt)]

/-- mirrors packages/api/src/runtime-discovery.ts:88-107 -/
def discoveryEvent (actor : CanonicalId) (connectorId runKey : String)
    (connector : ConnectorAdapter) (d : Discovered) : AuditEventInput where
  eventType := "connector.discovery_completed"
  actor
  correlationId := "corr:connector-discovery:" ++ runKey
  payload := [("action", .str "connector.discovery.read_only"), ("connectorId", .str connectorId),
    ("provider", .str ((d.provider.or connector.provider).getD connector.id)),
    ("tenantBoundary",
      .str ((d.tenantBoundary.or connector.tenantBoundary).getD "synthetic:unknown")),
    ("mode", .str "read_only"), ("status", .str (discoveryStatus d)),
    ("counts", discoveryCounts d), ("warnings", strings d.warnings), ("cursor", optional d.cursor),
    ("evidence", discoveryEvidence connector d), ("discoveryRunId", .str ("discovery:" ++ runKey))]

section
variable (H : Host) (requestActor : Option CanonicalId) (app : DrainApp)

/-- mirrors packages/api/src/runtime-discovery.ts:22-115 -/
def syncConnector (connectorId : String) (discovered : Except RuntimeError Discovered) :
    DrainApp × Except RuntimeError Produced :=
  match app.runtime.connectors.get? connectorId with
  | none => (app, .error (unknownConnector connectorId))
  | some connector =>
    let startedAt := app.now
    let (app, sequence) := app.tick.nextAppRecordSequence ("discovery:" ++ connectorId)
      (app.listDiscoveryRuns connectorId).length
    let runKey := connectorId ++ ":" ++ compactTimestamp startedAt ++ ":" ++ toString sequence
    match discovered with
    | .error e => (app, .error e)
    | .ok d =>
      let completedAt := app.now
      let (app, eventId) := app.tick.recordAudit H requestActor
        (discoveryEvent app.runtime.actor connectorId runKey connector d)
      app.record "Discovery run"
        (discoveryRun connectorId runKey connector d startedAt completedAt [eventId])

/-! ## Reconciliation -/

/-- mirrors packages/core/src/drift-lifecycle.ts:58-77, for a manual run -/
def manualSchedule (now : IsoDateTime) : JsValue :=
  .obj [("cadence", .str "manual"), ("scheduledAt", .str now), ("windowStart", .undefined),
    ("windowEnd", .undefined), ("nextRunAt", .undefined), ("gracePeriodHours", natural 0),
    ("overdue", .bool false)]

def DetectedFinding.toJs (finding : DetectedFinding) : JsValue :=
  .obj (("id", .str finding.id) :: finding.fields)

/-- mirrors packages/api/src/runtime-reconciliation.ts:91-94 -/
def reconciliationCounts (findings : List DetectedFinding) : JsValue :=
  .obj [("findings", natural findings.length),
    ("highOrCritical", natural (findings.filter fun finding =>
      finding.severity = "high" || finding.severity = "critical").length)]

/-- mirrors packages/api/src/runtime-reconciliation.ts:81-99, 115 -/
def reconciliationRun (connectorId runId : String) (findings : List DetectedFinding)
    (startedAt completedAt : IsoDateTime) (auditEventIds : List CanonicalId) : RuntimeRecord where
  collection := .reconciliationRuns
  id := runId
  fields := [("connectorId", .str connectorId), ("mode", .str "dry_run"), ("dryRun", .bool true),
    ("trigger", .str "manual"), ("schedule", manualSchedule startedAt),
    ("status", .str "completed"), ("findings", .arr (findings.map DetectedFinding.toJs)),
    ("counts", reconciliationCounts findings), ("auditEventIds", strings auditEventIds),
    ("version", .str "reconciliation-run:v1"), ("createdAt", .str startedAt),
    ("completedAt", .str completedAt)]

/-- mirrors packages/api/src/runtime-reconciliation.ts:65-76 -/
def driftEvent (actor : CanonicalId) (finding : DetectedFinding) : AuditEventInput where
  eventType := "drift.detected"
  actor
  subjectId := some finding.subjectId
  resourceId := some finding.resourceId
  correlationId := "corr:" ++ finding.id
  payload := ("id", .str finding.id) :: finding.fields

/-- mirrors packages/api/src/runtime-reconciliation.ts:100-114 -/
def reconciliationEvent (actor : CanonicalId) (connectorId runId : String)
    (findings : List DetectedFinding) (startedAt : IsoDateTime) : AuditEventInput where
  eventType := "reconciliation.completed"
  actor
  correlationId := "corr:" ++ runId ++ ":completed"
  payload := [("runId", .str runId), ("connectorId", .str connectorId), ("dryRun", .bool true),
    ("trigger", .str "manual"), ("schedule", manualSchedule startedAt),
    ("counts", reconciliationCounts findings), ("findingIds", strings (findings.map (·.id)))]

/-- A finding is stored.
mirrors packages/core/src/store.ts:370-373 -/
def upsertDriftFinding (finding : DetectedFinding) : DrainApp :=
  let r : RuntimeRecord :=
    { collection := .driftFindings, id := finding.id, fields := finding.fields }
  { app with records := app.records.set r.key r }

/-- mirrors packages/api/src/runtime-reconciliation.ts:62-77 -/
def recordFindings : List DetectedFinding → DrainApp → DrainApp × List CanonicalId
  | [], app => (app, [])
  | finding :: findings, app =>
    let (app, eventId) := (app.upsertDriftFinding finding).recordAudit H requestActor
      (driftEvent app.runtime.actor finding)
    let (app, eventIds) := recordFindings findings app
    (app, eventId :: eventIds)

/-- mirrors packages/api/src/runtime-reconciliation.ts:36-109 -/
def runReconciliation (connectorId : String)
    (findings : Except RuntimeError (List DetectedFinding)) :
    DrainApp × Except RuntimeError Produced :=
  match app.runtime.connectors.get? connectorId with
  | none => (app, .error (unknownConnector connectorId))
  | some _ =>
    let startedAt := app.now
    let (app, sequence) := app.tick.nextAppRecordSequence ("reconciliation:" ++ connectorId)
      (app.listReconciliationRuns.filter (isRunOf connectorId)).length
    match findings with
    | .error e => (app, .error e)
    | .ok findings =>
      let (app, eventIds) := recordFindings H requestActor findings app
      let completedAt := app.now
      let runId := "reconciliation:" ++ connectorId ++ ":" ++ compactTimestamp startedAt ++ ":" ++
        toString sequence
      let (app, eventId) := app.tick.recordAudit H requestActor
        (reconciliationEvent app.runtime.actor connectorId runId findings startedAt)
      app.record "Reconciliation run"
        (reconciliationRun connectorId runId findings startedAt completedAt (eventIds ++ [eventId]))

/-! ## Evidence -/

/-- mirrors packages/api/src/job-queue-runner.ts:154-162 -/
def readEvidenceFormat (payload : JsonRecord) : String :=
  match optionalString payload "format" with
  | some "zip" => "zip"
  | some "markdown" => "markdown"
  | _ => "json"

/-- mirrors packages/api/src/job-queue-runner.ts:164-172 -/
def readControls (payload : JsonRecord) : List String :=
  match JsonRecord.get payload "controls" with
  | .arr controls =>
    let texts := controls.map fun control =>
      match control with
      | .str control => some control
      | _ => none
    if texts.all Option.isSome then texts.reduceOption else []
  | _ => []

/-- The receipt of an export that was written, with it.
mirrors packages/api/src/runtime-evidence-export.ts:204 -/
def receiptField (storageReceipt : Option JsonRecord) : JsonRecord :=
  (storageReceipt.map fun receipt => ("storageReceipt", JsValue.obj receipt)).toList

/-- mirrors packages/api/src/runtime-evidence-export.ts:59-61, 109-205 -/
def exportEvidence (controls : List String) (format : String)
    (finalized : List String → String → IsoDateTime → Except RuntimeError JsonRecord)
    (storageReceipt : Option JsonRecord) : DrainApp × Except RuntimeError Produced :=
  let generatedAt := app.now
  let app := app.tick
  match finalized controls format generatedAt with
  | .error e => (app, .error e)
  | .ok exportMetadata =>
    let exportId := "evidence:" ++ compactTimestamp generatedAt
    let (app, _) := app.recordAudit H requestActor
      { eventType := "evidence.generated"
        actor := app.runtime.actor
        correlationId := "corr:" ++ exportId
        payload := exportMetadata }
    (app, .ok (.evidenceExport (exportMetadata ++ receiptField storageReceipt)))

/-! ## Provisioning -/

end

section
variable (H : Host) (regExp : String → Option (String → Bool)) (requestActor : Option CanonicalId)
  (app : DrainApp)

/-- What a call for a job came to. -/
def settled : JobProgress → Except RuntimeError (Option Produced)
  | .settled result => result.map (·.map Produced.provisioningJob)
  | _ => .ok none

/-- mirrors packages/api/src/runtime-jobs.ts:145-275 -/
def createProvisioningJob (call : JobCall) (answers : JobAnswers) :
    DrainApp × Except RuntimeError (Option Produced) :=
  let (runtime, progress) := app.runtime.createProvisioningJob H regExp call answers
  ({ app with runtime }, settled progress)

/-- mirrors packages/api/src/job-queue-runner.ts:88-97 -/
def runProvisioningJob (job : ReferenceQueuedJob) (answers : JobAnswers) :
    DrainApp × Except RuntimeError (Option Produced) :=
  match requiredString job.payload "planId" ("Queued provisioning job " ++ job.id) with
  | .error e => (app, .error e)
  | .ok planId =>
    app.createProvisioningJob H regExp
      (job.provisioningCall app.runtime.actor requestActor planId) answers

/-- mirrors packages/api/src/job-queue-runner.ts:99-134 -/
def runRevocationJob (job : ReferenceQueuedJob) (answers : ExecutionAnswers) :
    DrainApp × Except RuntimeError (Option Produced) :=
  match truthy (optionalString job.payload "planId") with
  | some planId =>
    app.createProvisioningJob H regExp (job.revocationCall app.runtime.actor requestActor planId
      (readProvisioningMode job.payload)) answers.job
  | none =>
    match requiredString job.payload "nativeGrantId" ("Queued revocation job " ++ job.id) with
    | .error e => (app, .error e)
    | .ok nativeGrantId =>
      match app.runtime.createProvisioningPlan H regExp
        (job.revocationPlanCall requestActor nativeGrantId) answers.decision answers.planned with
      | (runtime, .error e) => ({ app with runtime }, .error e)
      | (runtime, .ok plan) =>
        DrainApp.createProvisioningJob H regExp { app with runtime }
          (job.revocationCall runtime.actor requestActor plan.id (some plan.mode)) answers.job

/-- A record that is always there when nothing was thrown. -/
def returned (executed : DrainApp × Except RuntimeError Produced) :
    DrainApp × Except RuntimeError (Option Produced) :=
  (executed.1, executed.2.map some)

/-- mirrors packages/api/src/job-queue-runner.ts:71-86 -/
def executeQueuedJob (job : ReferenceQueuedJob) (answers : ExecutionAnswers) :
    DrainApp × Except RuntimeError (Option Produced) :=
  match job.kind with
  | .discovery => returned (app.syncConnector H requestActor job.connectorId answers.discovered)
  | .reconciliation =>
    returned (app.runReconciliation H requestActor job.connectorId answers.findings)
  | .provisioning => app.runProvisioningJob H regExp requestActor job answers.job
  | .revocation => app.runRevocationJob H regExp requestActor job answers
  | .evidence =>
    returned (app.exportEvidence H requestActor (readControls job.payload)
      (readEvidenceFormat job.payload) answers.finalized answers.storageReceipt)

end

end DrainApp

/-! ## Drains -/

inductive DrainStatus
  | idle
  | completed
  | failed
  | deadLettered
  deriving DecidableEq, Repr

/-- mirrors packages/api/src/job-queue-runner.ts:23-28 -/
structure DrainQueuedJobResult where
  status : DrainStatus
  queueJob : Option ReferenceQueuedJob := none
  result : Option Produced := none
  error : Option String := none

/-- mirrors packages/api/src/job-queue-runner.ts:17-21, 40 -/
structure DrainQueuedJobOptions where
  workerId : CanonicalId := "worker:local-runtime"
  reservedAt : Option IsoDateTime := none

def DrainQueuedJobOptions.reservation (options : DrainQueuedJobOptions)
    (reservedAt : IsoDateTime) : ReferenceJobReservationRequest where
  workerId := options.workerId
  reservedAt := some reservedAt

def DrainQueuedJobOptions.completion (options : DrainQueuedJobOptions)
    (completedAt : IsoDateTime) : ReferenceJobCompletionRequest where
  workerId := some options.workerId
  completedAt := some completedAt

/-- The record of the queue, and the runtime. -/
structure DrainState where
  current : Option ReferenceJobQueueStoreRecord
  app : DrainApp

/-- mirrors packages/api/src/job-queue-runner.ts:189-191 -/
def errorMessage : RuntimeError → String
  | .app error => error.message
  | .other message => message

namespace DrainState

section
variable (adapter : ReferenceJobQueueAdapter) (regExp : String → Option (String → Bool))
  (requestActor : Option CanonicalId) (options : DrainQueuedJobOptions)

/-- The time of a reservation, and the runtime after it was asked for. -/
def reservedAt (s : DrainState) : IsoDateTime × DrainState :=
  match options.reservedAt with
  | some reservedAt => (reservedAt, s)
  | none => (s.app.now, { s with app := s.app.tick })

/-- mirrors packages/api/src/job-queue-runner.ts:41-44 -/
def reserve (s : DrainState) : DrainState × Except String (Option ReferenceQueuedJob) :=
  let (reservedAt, s) := s.reservedAt options
  let (current, reserved) := adapter.commitSnapshot reservedAt
    (adapter.reserveNextJob (options.reservation reservedAt) reservedAt) s.current
  ({ s with current }, reserved)

/-- mirrors packages/api/src/job-queue-runner.ts:52-55 -/
def complete (job : ReferenceQueuedJob) (s : DrainState) :
    DrainState × Except String ReferenceQueuedJob :=
  let completedAt := s.app.now
  let (current, completed) := adapter.commitSnapshot completedAt
    (completeJob job.id (options.completion completedAt) completedAt) s.current
  ({ current, app := s.app.tick }, completed)

/-- mirrors packages/api/src/job-queue-runner.ts:57-67 -/
def fail (job : ReferenceQueuedJob) (error : String) (s : DrainState) :
    DrainState × Except String DrainQueuedJobResult :=
  let failedAt := s.app.now
  let (current, failed) := adapter.commitSnapshot failedAt
    (adapter.recordJobFailure job.id
      { workerId := some options.workerId, failedAt := some failedAt, error } failedAt) s.current
  ({ current, app := s.app.tick }, failed.map fun failed =>
    { status := if failed.status = .deadLettered then .deadLettered else .failed
      queueJob := some failed
      error := some error })

/-- **A drain** of the next job of a queue, if there is one.
mirrors packages/api/src/job-queue-runner.ts:30-69 -/
def drainNextQueuedJob (answers : ExecutionAnswers) (s : DrainState) :
    DrainState × Except String DrainQueuedJobResult :=
  match s.reserve adapter options with
  | (s, .error message) => (s, .error message)
  | (s, .ok none) => (s, .ok { status := .idle })
  | (s, .ok (some job)) =>
    match s.app.executeQueuedJob adapter.host regExp requestActor job answers with
    | (app, .error e) => fail adapter options job (errorMessage e) { s with app }
    | (app, .ok result) =>
      match complete adapter options job { s with app } with
      | (s, .error message) => fail adapter options job message s
      | (s, .ok completed) =>
        (s, .ok { status := .completed, queueJob := some completed, result })

end

end DrainState

/-! ## What an execution leaves -/

/-- The run of a connector is there, under a key that was free. -/
structure RunOf (before app : DrainApp) (connectorId : String) (run : RuntimeRecord) : Prop where
  connectorId : DrainApp.isRunOf connectorId run = true
  fresh : before.records.get? run.key = none
  stored : app.records.get? run.key = some run

/-- What a queued job stands for was made from what the job says, and is there. -/
inductive Done (requestActor : Option CanonicalId) (answers : ExecutionAnswers)
    (before app : DrainApp) (job : ReferenceQueuedJob) : Option Produced → Prop
  | discovery {run : RuntimeRecord} {d : Discovered} (hkind : job.kind = .discovery)
      (hanswer : answers.discovered = .ok d) (hcollection : run.collection = .discoveryRuns)
      (hrun : RunOf before app job.connectorId run)
      (hcounts : JsonRecord.get run.fields "counts" = DrainApp.discoveryCounts d) :
      Done requestActor answers before app job (some (.record run))
  | reconciliation {run : RuntimeRecord} {findings : List DetectedFinding}
      (hkind : job.kind = .reconciliation) (hanswer : answers.findings = .ok findings)
      (hcollection : run.collection = .reconciliationRuns)
      (hrun : RunOf before app job.connectorId run)
      (hfindings : JsonRecord.get run.fields "findings" =
        .arr (findings.map DrainApp.DetectedFinding.toJs)) :
      Done requestActor answers before app job (some (.record run))
  | provisioning {planId : CanonicalId} {made : ProvisioningJob}
      (hkind : job.kind = .provisioning)
      (hplanId : truthy (optionalString job.payload "planId") = some planId)
      (hjob : JobOf app.runtime
        (job.provisioningCall before.runtime.actor requestActor planId) made) :
      Done requestActor answers before app job (some (.provisioningJob made))
  | revocation {planId : CanonicalId} {made : ProvisioningJob} (hkind : job.kind = .revocation)
      (hplanId : truthy (optionalString job.payload "planId") = some planId)
      (hjob : JobOf app.runtime (job.revocationCall before.runtime.actor requestActor planId
        (readProvisioningMode job.payload)) made) :
      Done requestActor answers before app job (some (.provisioningJob made))
  | grantRevocation {nativeGrantId : CanonicalId} {plan : ProvisioningPlan} {made : ProvisioningJob}
      (hkind : job.kind = .revocation)
      (hplanId : truthy (optionalString job.payload "planId") = none)
      (hgrant : truthy (optionalString job.payload "nativeGrantId") = some nativeGrantId)
      (hplan : PlanOf app.runtime (job.revocationPlanCall requestActor nativeGrantId) plan)
      (hjob : JobOf app.runtime (job.revocationCall before.runtime.actor requestActor plan.id
        (some plan.mode)) made) :
      Done requestActor answers before app job (some (.provisioningJob made))
  | evidence {exportMetadata : JsonRecord} {event : AuditEvent} (hkind : job.kind = .evidence)
      (hfinalized : answers.finalized (DrainApp.readControls job.payload)
        (DrainApp.readEvidenceFormat job.payload) before.now = .ok exportMetadata)
      (hevents : app.runtime.auditRecorder.events = before.runtime.auditRecorder.events ++ [event])
      (heventType : event.eventType = "evidence.generated")
      (hpayload : event.payload = exportMetadata) :
      Done requestActor answers before app job (some (.evidenceExport
        (exportMetadata ++ DrainApp.receiptField answers.storageReceipt)))

/-- Neither the job of a call is there nor its plan. -/
def Unresolved (app : ProvisioningApp) (call : JobCall) : Prop :=
  app.getProvisioningJobByIdempotencyKey call.idempotencyKey = none ∧
    app.getProvisioningPlan call.planId = none

/-- The call for a provisioning job that a queued job makes with the plan that it names.
mirrors packages/api/src/job-queue-runner.ts:88-110 -/
def askedCall (actor : CanonicalId) (requestActor : Option CanonicalId)
    (job : ReferenceQueuedJob) : Option JobCall :=
  match job.kind with
  | .provisioning => (truthy (optionalString job.payload "planId")).map fun planId =>
      job.provisioningCall actor requestActor planId
  | .revocation => (truthy (optionalString job.payload "planId")).map fun planId =>
      job.revocationCall actor requestActor planId (readProvisioningMode job.payload)
  | _ => none

namespace DrainApp

section
variable {H : Host} {regExp : String → Option (String → Bool)} {requestActor : Option CanonicalId}
  {app app' : DrainApp}

theorem record_ok {entityName : String} {run : RuntimeRecord} {produced : Produced}
    (h : app.record entityName run = (app', .ok produced)) :
    produced = .record run ∧ app.records.get? run.key = none ∧
      app'.records.get? run.key = some run := by
  unfold record at h
  split at h
  · cases h
  · next hfresh =>
    cases h
    exact ⟨rfl, Option.not_isSome_iff_eq_none.1 hfresh, OrderedMap.get?_set_self _ _ _⟩

theorem syncConnector_done {job : ReferenceQueuedJob} {answers : ExecutionAnswers}
    {produced : Produced} (hkind : job.kind = .discovery)
    (h : app.syncConnector H requestActor job.connectorId answers.discovered =
      (app', .ok produced)) : Done requestActor answers app app' job (some produced) := by
  unfold syncConnector at h
  split at h
  · cases h
  · dsimp only at h
    split at h
    · cases h
    · next hanswer =>
      obtain ⟨rfl, hfresh, hstored⟩ := record_ok h
      exact .discovery hkind hanswer rfl
        ⟨by simp [isRunOf, discoveryRun, JsonRecord.get, JsValue.strictEq], hfresh, hstored⟩ rfl

theorem recordFindings_get? {findings : List DetectedFinding}
    {key : RecordCollection × CanonicalId} (hkey : key.1 ≠ .driftFindings) :
    (recordFindings H requestActor findings app).1.records.get? key = app.records.get? key := by
  induction findings generalizing app with
  | nil => rfl
  | cons finding findings ih =>
    refine ih.trans (OrderedMap.get?_set_ne _ _ fun heq => hkey ?_)
    rw [← heq]
    rfl

theorem runReconciliation_done {job : ReferenceQueuedJob} {answers : ExecutionAnswers}
    {produced : Produced} (hkind : job.kind = .reconciliation)
    (h : app.runReconciliation H requestActor job.connectorId answers.findings =
      (app', .ok produced)) : Done requestActor answers app app' job (some produced) := by
  unfold runReconciliation at h
  split at h
  · cases h
  · dsimp only at h
    split at h
    · cases h
    · next hanswer =>
      obtain ⟨rfl, hfresh, hstored⟩ := record_ok h
      refine .reconciliation hkind hanswer rfl
        ⟨by simp [isRunOf, reconciliationRun, JsonRecord.get, JsValue.strictEq], ?_, hstored⟩ rfl
      simp only [recordAudit, tick] at hfresh
      rw [recordFindings_get?] at hfresh
      · exact hfresh
      · exact fun heq => by cases heq

theorem exportEvidence_done {job : ReferenceQueuedJob} {answers : ExecutionAnswers}
    {produced : Produced} (hkind : job.kind = .evidence)
    (h : app.exportEvidence H requestActor (readControls job.payload)
      (readEvidenceFormat job.payload) answers.finalized answers.storageReceipt =
        (app', .ok produced)) : Done requestActor answers app app' job (some produced) := by
  unfold exportEvidence at h
  dsimp only at h
  split at h
  · cases h
  · next hfinalized =>
    cases h
    exact .evidence hkind hfinalized rfl rfl rfl

/-- A call that resolves nothing returns nothing. -/
theorem createProvisioningJob_unresolved {call : JobCall} {answers : JobAnswers}
    (h : Unresolved app.runtime call) :
    app.createProvisioningJob H regExp call answers = (app, .ok none) := by
  unfold createProvisioningJob ProvisioningApp.createProvisioningJob
    ProvisioningApp.startProvisioningJob
  rw [h.1, h.2]
  rfl

theorem startProvisioningJob_none {runtime : ProvisioningApp} {call : JobCall}
    (h : (runtime.startProvisioningJob H regExp call).2 = .settled (.ok none)) :
    Unresolved runtime call := by
  unfold ProvisioningApp.startProvisioningJob at h
  split at h
  · split at h <;> cases h
  · next hkey =>
    split at h
    · next hplan => exact ⟨hkey, hplan⟩
    · split at h
      · cases h
      · dsimp only at h
        split at h
        · cases h
        · split at h
          · rcases ProvisioningApp.startControlledEnforcementJob_waits H regExp runtime.tick
              call _ _ runtime.now with ⟨e, hrefused⟩ | happlying
            · rw [hrefused] at h
              cases h
            · rw [happlying] at h
              cases h
          · cases h

/-- **What a call for a job returns** is there, unless the call resolves nothing. -/
theorem createProvisioningJob_ok {call : JobCall} {answers : JobAnswers}
    {result : Option Produced}
    (h : app.createProvisioningJob H regExp call answers = (app', .ok result)) :
    (∃ made, result = some (.provisioningJob made) ∧ JobOf app'.runtime call made) ∨
    (result = none ∧ Unresolved app.runtime call) := by
  obtain ⟨settledAs, hsettled, hrun⟩ :=
    ProvisioningApp.createProvisioningJob_run H regExp app.runtime call answers
  have hcalled : app.createProvisioningJob H regExp call answers =
      ({ app with runtime := (app.runtime.createProvisioningJob H regExp call answers).1 },
        settled (app.runtime.createProvisioningJob H regExp call answers).2) := rfl
  rw [hcalled, hsettled] at h
  obtain ⟨rfl, hresult⟩ := Prod.mk.inj h
  cases settledAs with
  | error e => cases hresult
  | ok found =>
    cases found with
    | some made =>
      cases hresult
      exact .inl ⟨made, rfl, ProvisioningApp.createProvisioningJob_ok hsettled⟩
    | none =>
      cases hresult
      generalize hstart : (app.runtime.startProvisioningJob H regExp call).2 = start at hrun
      generalize (app.runtime.createProvisioningJob H regExp call answers).1.records = records
        at hrun
      cases hrun with
      | settled => exact .inr ⟨rfl, startProvisioningJob_none hstart⟩

theorem returned_ok {executed : DrainApp × Except RuntimeError Produced} {result : Option Produced}
    (h : returned executed = (app', .ok result)) :
    ∃ produced, executed = (app', .ok produced) ∧ result = some produced := by
  obtain ⟨app, executed⟩ := executed
  cases executed with
  | error e => cases h
  | ok produced =>
    cases h
    exact ⟨produced, rfl, rfl⟩

theorem runProvisioningJob_ok {job : ReferenceQueuedJob} {answers : ExecutionAnswers}
    {result : Option Produced} (hkind : job.kind = .provisioning)
    (h : app.runProvisioningJob H regExp requestActor job answers.job = (app', .ok result)) :
    Done requestActor answers app app' job result ∨ (result = none ∧
      ∃ call, askedCall app.runtime.actor requestActor job = some call ∧
        Unresolved app.runtime call) := by
  unfold runProvisioningJob requiredString at h
  unfold askedCall
  rw [hkind]
  dsimp only
  cases hplanId : truthy (optionalString job.payload "planId") with
  | none =>
    rw [hplanId] at h
    cases h
  | some planId =>
    rw [hplanId] at h
    rcases createProvisioningJob_ok h with ⟨made, rfl, hmade⟩ | ⟨rfl, hunresolved⟩
    · exact .inl (.provisioning hkind hplanId hmade)
    · exact .inr ⟨rfl, _, rfl, hunresolved⟩

theorem runRevocationJob_ok {job : ReferenceQueuedJob} {answers : ExecutionAnswers}
    {result : Option Produced} (hkind : job.kind = .revocation)
    (h : app.runRevocationJob H regExp requestActor job answers = (app', .ok result)) :
    Done requestActor answers app app' job result ∨ (result = none ∧
      ∃ call, askedCall app.runtime.actor requestActor job = some call ∧
        Unresolved app.runtime call) := by
  unfold runRevocationJob at h
  unfold askedCall
  rw [hkind]
  dsimp only
  cases hplanId : truthy (optionalString job.payload "planId") with
  | some planId =>
    rw [hplanId] at h
    rcases createProvisioningJob_ok h with ⟨made, rfl, hmade⟩ | ⟨rfl, hunresolved⟩
    · exact .inl (.revocation hkind hplanId hmade)
    · exact .inr ⟨rfl, _, rfl, hunresolved⟩
  | none =>
    rw [hplanId] at h
    unfold requiredString at h
    dsimp only at h
    cases hgrant : truthy (optionalString job.payload "nativeGrantId") with
    | none =>
      rw [hgrant] at h
      cases h
    | some nativeGrantId =>
      rw [hgrant] at h
      dsimp only at h
      split at h
      · cases h
      · next runtime plan hmade =>
        have hplan := ProvisioningApp.createProvisioningPlan_ok (congrArg Prod.snd hmade)
        rw [hmade] at hplan
        -- the plan of the call is stored by then, and stays
        rcases createProvisioningJob_ok h with ⟨made, rfl, hjob⟩ | ⟨-, hunresolved⟩
        · have hactor : runtime.actor = app.runtime.actor := by
            have hsettings := ProvisioningApp.perform_settings H regExp app.runtime
              (.createProvisioningPlan (job.revocationPlanCall requestActor nativeGrantId)
                answers.decision answers.planned)
            rw [ProvisioningApp.perform, hmade] at hsettings
            exact hsettings.2.1
          obtain ⟨current, hid, hmode, hcurrent⟩ := hplan.createProvisioningJob H regExp
            (job.revocationCall runtime.actor requestActor plan.id (some plan.mode)) answers.job
          have happ : (runtime.createProvisioningJob H regExp (job.revocationCall runtime.actor
              requestActor plan.id (some plan.mode)) answers.job).1 = app'.runtime :=
            congrArg (fun executed => executed.1.runtime) h
          dsimp only at hcurrent
          rw [happ] at hcurrent
          rw [hactor, ← hid, ← hmode] at hjob
          exact .inl (.grantRevocation hkind hplanId hgrant hcurrent hjob)
        · have hnone : runtime.getProvisioningPlan plan.id = none := hunresolved.2
          rw [hplan.stored] at hnone
          cases hnone

/-- **An execution that returns** did its job, or was asked for a provisioning job and
resolved nothing. -/
theorem executeQueuedJob_ok {job : ReferenceQueuedJob} {answers : ExecutionAnswers}
    {result : Option Produced}
    (h : app.executeQueuedJob H regExp requestActor job answers = (app', .ok result)) :
    Done requestActor answers app app' job result ∨ (result = none ∧
      ∃ call, askedCall app.runtime.actor requestActor job = some call ∧
        Unresolved app.runtime call) := by
  unfold executeQueuedJob at h
  cases hkind : job.kind with
  | discovery =>
    rw [hkind] at h
    obtain ⟨produced, hsync, rfl⟩ := returned_ok h
    exact .inl (syncConnector_done hkind hsync)
  | reconciliation =>
    rw [hkind] at h
    obtain ⟨produced, hrun, rfl⟩ := returned_ok h
    exact .inl (runReconciliation_done hkind hrun)
  | provisioning =>
    rw [hkind] at h
    exact runProvisioningJob_ok hkind h
  | revocation =>
    rw [hkind] at h
    exact runRevocationJob_ok hkind h
  | evidence =>
    rw [hkind] at h
    obtain ⟨produced, hexport, rfl⟩ := returned_ok h
    exact .inl (exportEvidence_done hkind hexport)

/-! ## Executions as runs of the runtime -/

/-- Operations lead from a runtime to another. -/
def RunsTo (H : Host) (regExp : String → Option (String → Bool))
    (runtime runtime' : ProvisioningApp) : Prop :=
  ∃ operations, runtime' = ProvisioningApp.run H regExp runtime operations

theorem RunsTo.trans {runtime runtime' runtime'' : ProvisioningApp}
    (h : RunsTo H regExp runtime runtime') (h' : RunsTo H regExp runtime' runtime'') :
    RunsTo H regExp runtime runtime'' := by
  obtain ⟨operations, rfl⟩ := h
  obtain ⟨operations', rfl⟩ := h'
  exact ⟨operations ++ operations', (ProvisioningApp.run_append ..).symm⟩

theorem RunsTo.perform (operation : L5.RuntimeOperation) (runtime : ProvisioningApp) :
    RunsTo H regExp runtime (runtime.perform H regExp operation) := ⟨[operation], rfl⟩

theorem tick_run : RunsTo H regExp app.runtime app.tick.runtime := .perform .now app.runtime

theorem nextAppRecordSequence_run (key : String) (existingCount : Nat) : RunsTo H regExp app.runtime
    (app.tick.nextAppRecordSequence key existingCount).1.runtime := tick_run

theorem recordAudit_run (input : AuditEventInput) :
    RunsTo H regExp app.runtime (app.recordAudit H requestActor input).1.runtime :=
  .perform (.recordAudit requestActor [input]) app.runtime

theorem recordFindings_run (findings : List DetectedFinding) :
    RunsTo H regExp app.runtime (recordFindings H requestActor findings app).1.runtime := by
  induction findings generalizing app with
  | nil => exact ⟨[], rfl⟩
  | cons finding findings ih => exact (recordAudit_run _).trans ih

theorem record_runtime (entityName : String) (run : RuntimeRecord) :
    (app.record entityName run).1.runtime = app.runtime := by
  unfold record
  split <;> rfl

theorem syncConnector_run (connectorId : String) (discovered : Except RuntimeError Discovered) :
    RunsTo H regExp app.runtime
      (app.syncConnector H requestActor connectorId discovered).1.runtime := by
  unfold syncConnector
  split
  · exact ⟨[], rfl⟩
  · dsimp only
    split
    · exact nextAppRecordSequence_run _ _
    · rw [record_runtime]
      exact ((nextAppRecordSequence_run _ _).trans tick_run).trans (recordAudit_run _)

theorem runReconciliation_run (connectorId : String)
    (findings : Except RuntimeError (List DetectedFinding)) :
    RunsTo H regExp app.runtime
      (app.runReconciliation H requestActor connectorId findings).1.runtime := by
  unfold runReconciliation
  split
  · exact ⟨[], rfl⟩
  · dsimp only
    split
    · exact nextAppRecordSequence_run _ _
    · rw [record_runtime]
      exact (((nextAppRecordSequence_run _ _).trans (recordFindings_run _)).trans tick_run).trans
        (recordAudit_run _)

theorem exportEvidence_run (controls : List String) (format : String)
    (finalized : List String → String → IsoDateTime → Except RuntimeError JsonRecord)
    (storageReceipt : Option JsonRecord) : RunsTo H regExp app.runtime
    (app.exportEvidence H requestActor controls format finalized storageReceipt).1.runtime := by
  unfold exportEvidence
  dsimp only
  split
  · exact tick_run
  · exact tick_run.trans (recordAudit_run _)

theorem createProvisioningJob_runs (call : JobCall) (answers : JobAnswers) :
    RunsTo H regExp app.runtime (app.createProvisioningJob H regExp call answers).1.runtime :=
  .perform (.createProvisioningJob call answers) app.runtime

theorem runProvisioningJob_run (job : ReferenceQueuedJob) (answers : JobAnswers) :
    RunsTo H regExp app.runtime
      (app.runProvisioningJob H regExp requestActor job answers).1.runtime := by
  unfold runProvisioningJob
  split
  · exact ⟨[], rfl⟩
  · exact createProvisioningJob_runs _ _

theorem runRevocationJob_run (job : ReferenceQueuedJob) (answers : ExecutionAnswers) :
    RunsTo H regExp app.runtime
      (app.runRevocationJob H regExp requestActor job answers).1.runtime := by
  unfold runRevocationJob
  split
  · exact createProvisioningJob_runs _ _
  · split
    · exact ⟨[], rfl⟩
    · next nativeGrantId _ =>
      have hplan : RunsTo H regExp app.runtime (app.runtime.createProvisioningPlan H regExp
          (job.revocationPlanCall requestActor nativeGrantId) answers.decision answers.planned).1 :=
        .perform (.createProvisioningPlan _ _ _) app.runtime
      split
      · next hmade =>
        rw [hmade] at hplan
        exact hplan
      · next hmade =>
        rw [hmade] at hplan
        exact hplan.trans (createProvisioningJob_runs _ _)

variable (H regExp requestActor app) in
/-- **An execution is a run** of operations of the runtime. -/
theorem executeQueuedJob_run (job : ReferenceQueuedJob) (answers : ExecutionAnswers) :
    RunsTo H regExp app.runtime
      (app.executeQueuedJob H regExp requestActor job answers).1.runtime := by
  unfold executeQueuedJob
  cases job.kind with
  | discovery => exact syncConnector_run _ _
  | reconciliation => exact runReconciliation_run _ _
  | provisioning => exact runProvisioningJob_run job _
  | revocation => exact runRevocationJob_run job answers
  | evidence => exact exportEvidence_run _ _ _ _

variable (H regExp) in
/-- A job whose plan is unknown returns nothing, and nothing happens. -/
theorem executeQueuedJob_unresolved {job : ReferenceQueuedJob} (answers : ExecutionAnswers)
    {call : JobCall} (hcall : askedCall app.runtime.actor requestActor job = some call)
    (h : Unresolved app.runtime call) :
    app.executeQueuedJob H regExp requestActor job answers = (app, .ok none) := by
  unfold askedCall at hcall
  unfold executeQueuedJob
  split at hcall
  · next hkind =>
    obtain ⟨planId, hplanId, rfl⟩ := Option.map_eq_some_iff.1 hcall
    rw [hkind]
    dsimp only
    unfold runProvisioningJob requiredString
    rw [hplanId]
    exact createProvisioningJob_unresolved h
  · next hkind =>
    obtain ⟨planId, hplanId, rfl⟩ := Option.map_eq_some_iff.1 hcall
    rw [hkind]
    dsimp only
    unfold runRevocationJob
    rw [hplanId]
    exact createProvisioningJob_unresolved h
  · cases hcall

end

end DrainApp

/-! ## Reports -/

section
variable {adapter : ReferenceJobQueueAdapter}

theorem noSecretKeys_completed {H : Host} {job : ReferenceQueuedJob} (h : NoSecretKeys H job.toJs)
    (workerId : Option CanonicalId) (completedAt : IsoDateTime) :
    NoSecretKeys H (job.completed workerId completedAt).toJs := by
  unfold ReferenceQueuedJob.toJs at h ⊢
  rw [noSecretKeys_obj] at h ⊢
  simp only [List.forall_mem_cons, List.not_mem_nil, false_implies, implies_true, and_true,
    ReferenceQueuedJob.completed, NoSecretKeys.str, noSecretKeys_optional] at h ⊢
  exact h

theorem ReferenceJobQueueAdapter.Storable.withJob {content : QueueContent}
    (h : Storable adapter content)
    {job : ReferenceQueuedJob} (hjob : NoSecretKeys adapter.host job.toJs) :
    Storable adapter { content with queue := withJob content.queue job } where
  tenant := h.tenant
  jobs := h.jobs
  queue := by
    have hqueue := h.queue
    unfold ReferenceJobQueueSnapshot.toJs at hqueue ⊢
    rw [noSecretKeys_obj] at hqueue ⊢
    simp only [List.forall_mem_cons, List.not_mem_nil, false_implies, implies_true,
      and_true] at hqueue ⊢
    obtain ⟨⟨hkey, hjobs⟩, hrest⟩ := hqueue
    refine ⟨⟨hkey, .arr fun v hv => ?_⟩, hrest⟩
    obtain ⟨other, hother, rfl⟩ := List.mem_map.1 hv
    rcases mem_upsertBy hother with rfl | hother
    · exact hjob
    · exact noSecretKeys_arr.1 hjobs _ (List.mem_map_of_mem hother)

theorem ReferenceJobQueueAdapter.Storable.job {content : QueueContent}
    (h : Storable adapter content)
    {job : ReferenceQueuedJob} (hjob : job ∈ content.queue.queuedJobs) :
    NoSecretKeys adapter.host job.toJs := by
  have hqueue := h.queue
  unfold ReferenceJobQueueSnapshot.toJs at hqueue
  have hjobs := (noSecretKeys_obj.1 hqueue _ List.mem_cons_self).2
  exact noSecretKeys_arr.1 hjobs _ (List.mem_map_of_mem hjob)

namespace DrainState

variable {options : DrainQueuedJobOptions} {s s' : DrainState} {job : ReferenceQueuedJob}

theorem reserve_ok (h : s.reserve adapter options = (s', .ok (some job))) :
    ∃ record, s'.current = some record ∧ Storable adapter record.toQueueContent ∧
      findBy (·.id) record.queue.queuedJobs job.id = some job ∧ job.status = .running ∧
      job.workerId = some options.workerId := by
  unfold reserve at h
  dsimp only at h
  rcases commitSnapshot_cases adapter (s.reservedAt options).1
    (adapter.reserveNextJob (options.reservation (s.reservedAt options).1)
      (s.reservedAt options).1) (s.reservedAt options).2.current with
    ⟨message, hcommit⟩ | ⟨content, result, hmutate, hstorable, hcommit⟩
  · rw [hcommit] at h
    cases h
  · rw [hcommit] at h
    cases h
    rcases reserveNextJob_ok hmutate with ⟨hnone, -⟩ | ⟨queued, lease, -, -, hjob, hcontent⟩
    · cases hnone
    · cases hjob
      refine ⟨_, rfl, hstorable, ?_, rfl, rfl⟩
      show findBy (·.id) content.queue.queuedJobs _ = _
      rw [hcontent, find_withJob, if_pos rfl]

/-- What a commit reserves is reserved, at the time that the clock shows. -/
theorem reserve_of_commit {workerId : CanonicalId} {now : IsoDateTime}
    {current : Option ReferenceJobQueueStoreRecord}
    {reserved : Except String (Option ReferenceQueuedJob)} (hnow : s.app.now = now)
    (h : adapter.commitSnapshot now (adapter.reserveNextJob { workerId } now) s.current =
      (current, reserved)) :
    s.reserve adapter { workerId } = ({ current, app := s.app.tick }, reserved) := by
  subst hnow
  have hcommit : adapter.commitSnapshot s.app.now (adapter.reserveNextJob
      (DrainQueuedJobOptions.reservation { workerId } s.app.now) s.app.now) s.current =
      (current, reserved) := h
  unfold reserve reservedAt
  dsimp only
  rw [hcommit]

/-- What a commit completes is completed, at the time that the clock shows. -/
theorem complete_of_commit {workerId : CanonicalId} {now : IsoDateTime}
    {current : Option ReferenceJobQueueStoreRecord} {completed : Except String ReferenceQueuedJob}
    (hnow : s.app.now = now)
    (h : adapter.commitSnapshot now (completeJob job.id
      { workerId := some workerId, completedAt := some now } now) s.current =
      (current, completed)) :
    complete adapter { workerId } job s = ({ current, app := s.app.tick }, completed) := by
  subst hnow
  have hcommit : adapter.commitSnapshot s.app.now (completeJob job.id
      (DrainQueuedJobOptions.completion { workerId } s.app.now) s.app.now) s.current =
      (current, completed) := h
  unfold complete
  dsimp only
  rw [hcommit]

/-- What a commit records as a failure is one, at the time that the clock shows. -/
theorem fail_of_commit {workerId : CanonicalId} {now : IsoDateTime} {error : String}
    {current : Option ReferenceJobQueueStoreRecord} {failed : Except String ReferenceQueuedJob}
    (hnow : s.app.now = now)
    (h : adapter.commitSnapshot now (adapter.recordJobFailure job.id
      { workerId := some workerId, failedAt := some now, error } now) s.current =
      (current, failed)) :
    fail adapter { workerId } job error s =
      ({ current, app := s.app.tick }, failed.map fun failed =>
        { status := if failed.status = .deadLettered then .deadLettered else .failed
          queueJob := some failed
          error := some error }) := by
  subst hnow
  unfold fail
  dsimp only
  rw [h]

/-- **A completion in time** is accepted, whatever the execution did to the runtime. -/
theorem complete_reserved (h : s.reserve adapter options = (s', .ok (some job))) {app : DrainApp}
    (hlease : LeaseActive job app.now) :
    (complete adapter options job { s' with app }).2 =
      .ok (job.completed (some options.workerId) app.now) := by
  obtain ⟨record, hcurrent, hstorable, hfind, hrunning, hworker⟩ := reserve_ok h
  have hmatches : WorkerMatches job (some options.workerId) := by
    intro w holder hw hholder
    rw [hworker, hw] at hholder
    exact Option.some.inj hholder
  have hmutate : completeJob job.id (options.completion app.now) app.now
      record.toQueueContent = .ok (_, job.completed (some options.workerId) app.now) :=
    completeJob_ok.2 ⟨job, hfind, hrunning, hlease, hmatches, rfl, rfl⟩
  have hcommit : adapter.commitSnapshot app.now (completeJob job.id
      (options.completion app.now) app.now) (some record) = _ :=
    commitSnapshot_stores hmutate
      (hstorable.withJob (noSecretKeys_completed (hstorable.job (mem_of_findBy hfind)) _ _))
  unfold complete
  dsimp only
  rw [hcurrent, hcommit]

theorem complete_late (h : s.reserve adapter options = (s', .ok (some job))) {app : DrainApp}
    (hlease : ¬ LeaseActive job app.now) :
    ∃ message, (complete adapter options job { s' with app }).2 = .error message := by
  obtain ⟨record, hcurrent, -, hfind, -, -⟩ := reserve_ok h
  unfold complete
  dsimp only
  rcases commitSnapshot_cases adapter app.now
    (completeJob job.id (options.completion app.now) app.now) s'.current with
    ⟨message, hcommit⟩ | ⟨content, result, hmutate, -, -⟩
  · exact ⟨message, by rw [hcommit]⟩
  · rw [hcurrent] at hmutate
    obtain ⟨found, hfound, -, hactive, -⟩ := completeJob_ok.1 hmutate
    have hsame := hfound.symm.trans hfind
    cases hsame
    exact absurd hactive hlease

/-- **A drain** whose job returns in time completes it. -/
theorem drain_executed {regExp : String → Option (String → Bool)}
    {requestActor : Option CanonicalId} {answers : ExecutionAnswers} {app : DrainApp}
    {result : Option Produced} (h : s.reserve adapter options = (s', .ok (some job)))
    (hexecuted : s'.app.executeQueuedJob adapter.host regExp requestActor job answers =
      (app, .ok result)) (hlease : LeaseActive job app.now) :
    drainNextQueuedJob adapter regExp requestActor options answers s =
      ((complete adapter options job { s' with app }).1, .ok
        { status := .completed
          queueJob := some (job.completed (some options.workerId) app.now)
          result }) := by
  have hcomplete := complete_reserved h hlease
  unfold drainNextQueuedJob
  rw [h]
  dsimp only
  rw [hexecuted]
  dsimp only
  generalize complete adapter options job { s' with app } = completed at hcomplete ⊢
  obtain ⟨s'', completed⟩ := completed
  cases hcomplete
  rfl

end DrainState

end

end AccessKit.L6
