import AccessKit.L1Domain.SameValues
import AccessKit.L2Audit.EvidenceKeys
import AccessKit.L5Runtime.AuditLog
import AccessKit.L7Persistence.EvidenceFiles
import AccessKit.L9Evidence.Sections

/-!
# Evidence exports of a runtime

packages/api/src/runtime-evidence-export.ts:59-313, with the parts of
runtime-state.ts they use: an export reads the events of a period and the stores, brings
the governance records up to date, finalizes a package, records an event of it and hands it
to the evidence repository.

An export that throws keeps what it stored before. Writes to the job repository and the
snapshots of a state repository are left out.
-/
namespace AccessKit.L9
open AccessKit.Core AccessKit.L1 AccessKit.L8
open AccessKit.L2.Audit (AuditEvent AuditEventInput AuditRecorder AuditIntegrityReport
  EvidenceStorageReceipt verifyAuditChain natural strings)
open AccessKit.L2.Evidence (EvidenceModule EvidenceVerificationReport failedNames
  finalizeEvidenceExport verifyEvidenceExport verifierOf)
open AccessKit.L3 (sortStrings)
open AccessKit.L5 (AuditEventRepository PersistenceDegradationReceipt appendAuditEvent
  recordPersistenceDegradation)
open AccessKit.L6 (compactTimestamp)
open AccessKit.L7 (EvidenceExport EvidenceWrite)

/-! ## Repositories -/

/-- What the runtime does with an audit repository, whose states are `σ`.
mirrors packages/core/src/repositories.ts:57-61 -/
structure AuditRepository (σ : Type) extends AuditEventRepository σ where
  verifyIntegrity : σ → IsoDateTime → Except String AuditIntegrityReport

/-- What the runtime does with an evidence repository, whose states are `ρ`.
mirrors packages/core/src/repositories.ts:63-66 -/
structure EvidencePackageRepository (ρ : Type) where
  writeEvidenceExport : ρ → EvidenceWrite → Except String (EvidenceStorageReceipt × ρ)

/-- What a runtime works with. -/
structure EvidenceEnvironment (κ σ ρ : Type) where
  evidence : EvidenceModule κ
  localeCompare : String → String → Int
  audit : AuditRepository σ
  packages : EvidencePackageRepository ρ

/-- The parts of a runtime that evidence is exported from. -/
structure EvidenceApp (σ ρ : Type) where
  auditRecorder : AuditRecorder
  storeEvents : List AuditEvent
  auditRepository : Option σ
  hasStateRepository : Bool
  evidenceRepository : Option ρ
  persistenceDegradations : List PersistenceDegradationReceipt
  connectors : OrderedMap String RegisteredConnector
  counts : StoreCounts
  driftFindings : OrderedMap CanonicalId DriftFinding
  accessReviewCampaigns : OrderedMap CanonicalId AccessReviewCampaign
  governanceFindings : OrderedMap CanonicalId GovernanceFinding
  exceptionRequests : OrderedMap CanonicalId ExceptionRequest
  actor : CanonicalId
  clock : Nat → IsoDateTime
  ticks : Nat

/-- mirrors packages/api/src/runtime-evidence-export.ts:47-51 -/
structure EvidenceExportOptions where
  framework : Option EvidenceFramework := none
  periodStart : Option IsoDateTime := none
  periodEnd : Option IsoDateTime := none

inductive AuditEventExportTarget
  | operatorDownload
  | siemForwarder
  deriving DecidableEq, Repr

def AuditEventExportTarget.name : AuditEventExportTarget → String
  | .operatorDownload => "operator_download"
  | .siemForwarder => "siem_forwarder"

/-- mirrors packages/api/src/runtime-evidence-export.ts:53-57 -/
structure AuditEventExportOptions where
  periodStart : Option IsoDateTime := none
  periodEnd : Option IsoDateTime := none
  target : Option AuditEventExportTarget := none

/-- mirrors packages/core/src/domain/evidence.ts:335-349 -/
structure AuditEventExport where
  exportId : CanonicalId
  generatedAt : IsoDateTime
  periodStart : IsoDateTime
  periodEnd : IsoDateTime
  format : String := "jsonl"
  target : AuditEventExportTarget
  schemaVersion : String := "audit-event:v1"
  includesPayloadHashes : Bool := true
  exportedEventCount : Nat
  sourceEventIds : List CanonicalId
  records : List String
  auditIntegrity : AuditIntegrityReport
  version : String := "audit-event-export:v1"

/-- The package that a record is, if it is one. -/
def evidenceExportOf (content : JsonRecord) : Option EvidenceExport :=
  if hjson : IsJson (.obj content) then
    match hid : JsonRecord.get content "exportId",
      hhash : L2.Audit.JsValue.prop (JsonRecord.get content "integrityManifest")
        "packageHash" with
    | .str exportId, .str packageHash => some ⟨content, exportId, packageHash, hjson, hid, hhash⟩
    | _, _ => none
  else none

/-! ## Periods -/

/-- `events.map((event) => event.occurredAt).sort().at(0)` -/
def firstOccurrence (events : List AuditEvent) : Option IsoDateTime :=
  (sortStrings (events.map (·.occurredAt))).head?

/-- The events from one text of a time to another, both included. -/
def eventsBetween (periodStart periodEnd : IsoDateTime) (events : List AuditEvent) :
    List AuditEvent :=
  events.filter fun event =>
    stringLe periodStart event.occurredAt && stringLe event.occurredAt periodEnd

/-- mirrors packages/core/src/governance.ts:86-95 -/
def sourceEventIdsForAccessReview (events : List AuditEvent) : List CanonicalId :=
  (events.filter fun event => startsWith event.eventType "decision." ||
    startsWith event.eventType "relationship." ||
    startsWith event.eventType "connector.current_access_read" ||
    startsWith event.eventType "reconciliation.").map (·.eventId)

/-! ## The draft -/

/-- The types of evidence of a package. -/
def evidenceTypes : List String :=
  ["audit_events", "decision_logs", "provisioning_plans", "drift_findings", "audit_integrity",
   "control_mappings", "conmon_metrics", "poam_items", "siem_export", "system_boundary",
   "data_flows", "control_statements", "access_reviews", "exception_register",
   "operational_evidence", "oscal_component_definition", "oscal_ssp",
   "oscal_assessment_results", "poam_export", "signed_evidence_package", "control_trace_views",
   "verifier_checks"]

/-- What a draft is made from. -/
structure ExportInputs where
  controls : List String
  format : EvidenceExportFormat
  framework : EvidenceFramework
  periodStart : IsoDateTime
  periodEnd : IsoDateTime
  generatedAt : IsoDateTime
  events : List AuditEvent
  auditIntegrity : AuditIntegrityReport
  governance : AccessReviewGovernanceRecords

/-- The draft, from the sections that may throw.
mirrors packages/api/src/runtime-evidence-export.ts:136-188 -/
def evidenceDraft (connectors : List RegisteredConnector) (counts : StoreCounts)
    (driftFindings : List DriftFinding) (i : ExportInputs)
    (controlMappings : List EvidenceControlMapping) (poamItems controlStatements : List JsValue) :
    JsonRecord :=
  [("exportId", .str ("evidence:" ++ compactTimestamp i.generatedAt)),
   ("framework", .str i.framework.name),
   ("controls", strings i.controls),
   ("periodStart", .str i.periodStart),
   ("periodEnd", .str i.periodEnd),
   ("generatedAt", .str i.generatedAt),
   ("evidenceTypes", strings evidenceTypes),
   ("sourceEventIds", strings (i.events.map (·.eventId))),
   ("responsibleRole", .str "ISSO"),
   ("format", .str i.format.name),
   ("auditIntegrity", .obj (integrityReportJs i.auditIntegrity)),
   ("controlMappings", .arr (controlMappings.map EvidenceControlMapping.toJs)),
   ("artifacts", .arr ((buildEvidenceArtifacts i.format i.events.length).map
     EvidenceArtifact.toJs)),
   ("conmonMetrics", .arr (buildConMonMetrics counts driftFindings i.events i.auditIntegrity
     i.governance)),
   ("poamItems", .arr poamItems),
   ("siemExport", .obj [
     ("format", .str "jsonl"), ("eventCount", natural i.events.length),
     ("schemaVersion", .str "audit-event:v1"), ("includesPayloadHashes", .bool true),
     ("target", .str "operator_download")]),
   ("systemBoundary", buildSystemBoundary connectors),
   ("dataFlows", .arr (buildDataFlows connectors)),
   ("controlStatements", .arr controlStatements),
   ("accessReviews", .arr (i.governance.campaigns.map (accessReview i.generatedAt))),
   ("exceptionRegister", .arr (i.governance.exceptionRequests.map exceptionRecord)),
   ("operationalEvidence", .arr (buildOperationalEvidence i.generatedAt))]

namespace EvidenceApp

section
variable {κ σ ρ : Type} (E : EvidenceEnvironment κ σ ρ) (requestActor : Option CanonicalId)
  (app : EvidenceApp σ ρ)

def now : IsoDateTime := app.clock app.ticks

def tick : EvidenceApp σ ρ := { app with ticks := app.ticks + 1 }

/-- An event is recorded, stored and appended.
mirrors packages/api/src/runtime-state.ts:42-51 -/
def recordAudit (input : AuditEventInput) : EvidenceApp σ ρ × AuditEvent :=
  let H := E.evidence.host
  let input := L5.RebacLocalApp.attributed input requestActor
  let event := app.auditRecorder.next H input app.now
  let priorStoreAuditEvents := if app.hasStateRepository then some app.storeEvents else none
  let appended := app.auditRepository.map fun s => appendAuditEvent H
    E.audit.toAuditEventRepository s event event.occurredAt priorStoreAuditEvents
    app.persistenceDegradations
  ({ app.tick with
      auditRecorder := app.auditRecorder.record H input app.now
      storeEvents := app.storeEvents ++ [event]
      auditRepository := appended.map (·.1)
      persistenceDegradations := (appended.map (·.2)).getD app.persistenceDegradations }, event)

/-- mirrors packages/api/src/runtime-state.ts:108-114 -/
def authoritativeAuditEvents : Except String (List AuditEvent) :=
  if app.hasStateRepository then .ok app.storeEvents
  else match app.auditRepository with
    | some s => E.audit.listAuditEvents s
    | none => .ok app.storeEvents

/-- mirrors packages/api/src/runtime-state.ts:116-118 -/
def verifyRuntimeAuditIntegrity (verifiedAt : IsoDateTime) : Except String AuditIntegrityReport :=
  match app.auditRepository with
  | some s => E.audit.verifyIntegrity s verifiedAt
  | none => return verifyAuditChain E.evidence.host (← app.authoritativeAuditEvents E) verifiedAt

/-! ## Governance -/

/-- mirrors packages/api/src/runtime-evidence-export.ts:288-297 -/
def governanceInput (events : List AuditEvent) (generatedAt : IsoDateTime) :
    AccessReviewGovernanceInput where
  generatedAt
  subjectCount := app.counts.subjects
  resourceCount := app.counts.resources
  sourceEventIds := sourceEventIdsForAccessReview events
  driftFindings := app.driftFindings.values
  existing := ⟨app.accessReviewCampaigns.values, app.governanceFindings.values,
    app.exceptionRequests.values⟩

/-- mirrors packages/api/src/runtime-evidence-export.ts:299-310 -/
def storeGovernance (records : AccessReviewGovernanceRecords) : EvidenceApp σ ρ :=
  { app with
    accessReviewCampaigns := records.campaigns.foldl
      (fun campaigns campaign => campaigns.set campaign.id campaign) app.accessReviewCampaigns
    governanceFindings := records.findings.foldl
      (fun findings finding => findings.set finding.id finding) app.governanceFindings
    exceptionRequests := records.exceptionRequests.foldl
      (fun requests request => requests.set request.id request) app.exceptionRequests }

/-! ## Exports -/

/-- mirrors packages/api/src/runtime-evidence-export.ts:117-120 -/
def exportStart (options : EvidenceExportOptions) (generatedAt : IsoDateTime) : IsoDateTime :=
  options.periodStart.getD ((firstOccurrence app.storeEvents).getD generatedAt)

/-- The events of the period of an export.
mirrors packages/api/src/runtime-evidence-export.ts:116-122 -/
def exportEvents (options : EvidenceExportOptions) (generatedAt : IsoDateTime) :
    List AuditEvent :=
  eventsBetween (app.exportStart options generatedAt) (options.periodEnd.getD generatedAt)
    app.storeEvents

/-- What is read and generated before anything is stored.
mirrors packages/api/src/runtime-evidence-export.ts:115-125 -/
def exportInputs (controls : List String) (format : EvidenceExportFormat)
    (options : EvidenceExportOptions) (generatedAt : IsoDateTime) :
    Except String (ExportInputs × List EvidenceControlMapping) := do
  let events := app.exportEvents options generatedAt
  let auditIntegrity ← app.verifyRuntimeAuditIntegrity E generatedAt
  let controlMappings ←
    (buildControlMappings controls events).mapError E.evidence.errorMessage
  let governance ← buildAccessReviewGovernance E.evidence.host E.localeCompare
    (app.governanceInput events generatedAt)
  return (
    { controls
      format
      framework := options.framework.getD .nist80053
      periodStart := app.exportStart options generatedAt
      periodEnd := options.periodEnd.getD generatedAt
      generatedAt
      events
      auditIntegrity
      governance }, controlMappings)

/-- The draft of an export, and the package it is finalized to.
mirrors packages/api/src/runtime-evidence-export.ts:126-188 -/
def exportMetadata (wallClock : IsoDateTime) (i : ExportInputs)
    (controlMappings : List EvidenceControlMapping) : Except String JsonRecord := do
  let poamItems ← buildPoamItems E.evidence.host controlMappings i.auditIntegrity i.generatedAt
    i.governance.findings
  let controlStatements ← (buildControlStatements controlMappings
    (buildEvidenceArtifacts i.format i.events.length) i.generatedAt).mapError
    E.evidence.errorMessage
  finalizeEvidenceExport E.evidence (evidenceDraft app.connectors.values app.counts
    app.driftFindings.values i controlMappings poamItems controlStatements) {} wallClock

/-- mirrors packages/api/src/runtime-evidence-export.ts:190-195 -/
def generatedEvent (exportId : CanonicalId) (exportMetadata : JsonRecord) : AuditEventInput where
  eventType := "evidence.generated"
  actor := app.actor
  correlationId := "corr:" ++ exportId
  payload := exportMetadata

/-- The package is handed to the repository, if there is one; what is finalized has the
type of one. A write that throws is noted.
mirrors packages/api/src/runtime-state.ts:310-328 -/
def writeEvidenceExport (exportMetadata : JsonRecord) (storedAt : IsoDateTime) :
    EvidenceApp σ ρ × Option EvidenceStorageReceipt :=
  match app.evidenceRepository, evidenceExportOf exportMetadata with
  | none, _ => (app, none)
  | _, none => (app, none)
  | some s, some evidence =>
    match E.packages.writeEvidenceExport s ⟨evidence, storedAt⟩ with
    | .ok (receipt, s') => ({ app with evidenceRepository := some s' }, some receipt)
    | .error message =>
      ({ app with
          persistenceDegradations := recordPersistenceDegradation app.persistenceDegradations
            { component := .evidence, operation := "writeEvidenceExport", occurredAt := storedAt,
              message } }, none)

/-- The package, with the receipt if there is one. -/
def withReceipt (exportMetadata : JsonRecord) : Option EvidenceStorageReceipt → JsonRecord
  | some receipt => JsonRecord.set "storageReceipt" receipt.toJs exportMetadata
  | none => exportMetadata

/-- What comes of a package that was finalized.
mirrors packages/api/src/runtime-evidence-export.ts:190-204 -/
def publish (exportId : CanonicalId) (exportMetadata : JsonRecord) : EvidenceApp σ ρ × JsonRecord :=
  let recorded := app.recordAudit E requestActor (app.generatedEvent exportId exportMetadata)
  let written := recorded.1.writeEvidenceExport E exportMetadata recorded.2.occurredAt
  (written.1, withReceipt exportMetadata written.2)

/-- `wallClock` is the time of the process.
mirrors packages/api/src/runtime-evidence-export.ts:109-205 -/
def exportEvidencePackage (wallClock : IsoDateTime) (controls : List String)
    (format : EvidenceExportFormat) (options : EvidenceExportOptions) :
    EvidenceApp σ ρ × Except String JsonRecord :=
  let generatedAt := app.now
  let app := app.tick
  match app.exportInputs E controls format options generatedAt with
  | .error message => (app, .error message)
  | .ok (i, controlMappings) =>
    let app := app.storeGovernance i.governance
    match app.exportMetadata E wallClock i controlMappings with
    | .error message => (app, .error message)
    | .ok exportMetadata =>
      let (app, stored) := app.publish E requestActor ("evidence:" ++ compactTimestamp generatedAt)
        exportMetadata
      (app, .ok stored)

/-- mirrors packages/api/src/runtime-evidence-export.ts:59-61 -/
def exportEvidence (wallClock : IsoDateTime) (controls : List String)
    (format : EvidenceExportFormat) : EvidenceApp σ ρ × Except String JsonRecord :=
  app.exportEvidencePackage E requestActor wallClock controls format {}

/-! ## Verification -/

def evidenceStatusName : L2.Evidence.EvidenceStatus → String
  | .verified => "verified"
  | .failed => "failed"

/-- mirrors packages/api/src/runtime-evidence-export.ts:213-227 -/
def verifiedEvent (report : EvidenceVerificationReport) (idempotencyKey : String) :
    AuditEventInput where
  eventType := "evidence.verified"
  actor := app.actor
  correlationId := "corr:evidence-verify:" ++ compactTimestamp report.verifiedAt
  payload := [("status", .str (evidenceStatusName report.status)),
    ("packageHash", report.packageHash), ("verifiedAt", .str report.verifiedAt),
    ("idempotencyKey", .str idempotencyKey), ("checkCount", natural report.checks.length),
    ("failedChecks", strings (failedNames report.checks))]

/-- mirrors packages/api/src/runtime-evidence-export.ts:207-229 -/
def verifyEvidencePackage (wallClock : IsoDateTime) (evidencePackage : JsValue)
    (idempotencyKey : String) : EvidenceApp σ ρ × Except String EvidenceVerificationReport :=
  let verifiedAt := app.now
  let app := app.tick
  match verifyEvidenceExport (verifierOf E.evidence {}) evidencePackage (some verifiedAt)
      wallClock with
  | .error fault => (app, .error (E.evidence.errorMessage fault))
  | .ok report => ((app.recordAudit E requestActor (app.verifiedEvent report idempotencyKey)).1,
      .ok report)

/-! ## The audit log -/

/-- mirrors packages/api/src/runtime-evidence-export.ts:89-104 -/
def exportedEvent (exportMetadata : AuditEventExport) : AuditEventInput where
  eventType := "audit.exported"
  actor := app.actor
  correlationId := "corr:" ++ exportMetadata.exportId
  payload := [("exportId", .str exportMetadata.exportId),
    ("periodStart", .str exportMetadata.periodStart),
    ("periodEnd", .str exportMetadata.periodEnd), ("format", .str exportMetadata.format),
    ("target", .str exportMetadata.target.name),
    ("exportedEventCount", natural exportMetadata.exportedEventCount),
    ("sourceEventIds", strings exportMetadata.sourceEventIds),
    ("auditIntegrityStatus", .str (integrityStatusName exportMetadata.auditIntegrity.status)),
    ("version", .str exportMetadata.version)]

/-- mirrors packages/api/src/runtime-evidence-export.ts:64-86 -/
def auditEventExport (options : AuditEventExportOptions) (generatedAt : IsoDateTime) :
    Except String AuditEventExport := do
  let allEvents ← app.authoritativeAuditEvents E
  let periodStart := options.periodStart.getD ((firstOccurrence allEvents).getD generatedAt)
  let periodEnd := options.periodEnd.getD generatedAt
  let events := eventsBetween periodStart periodEnd allEvents
  let auditIntegrity ← app.verifyRuntimeAuditIntegrity E generatedAt
  return {
    exportId := "audit-export:" ++ compactTimestamp generatedAt
    generatedAt
    periodStart
    periodEnd
    target := options.target.getD .operatorDownload
    exportedEventCount := events.length
    sourceEventIds := events.map (·.eventId)
    records := events.map fun event => (stableStringify E.evidence.host event.toJs).getD ""
    auditIntegrity }

/-- mirrors packages/api/src/runtime-evidence-export.ts:63-107 -/
def exportAuditEvents (options : AuditEventExportOptions) :
    EvidenceApp σ ρ × Except String AuditEventExport :=
  let generatedAt := app.now
  let app := app.tick
  match app.auditEventExport E options generatedAt with
  | .error message => (app, .error message)
  | .ok exportMetadata =>
    ((app.recordAudit E requestActor (app.exportedEvent exportMetadata)).1, .ok exportMetadata)

/-- The report, and the event it was recorded with.
mirrors packages/api/src/runtime-evidence-export.ts:231-245 -/
def verifyAuditIntegrity : EvidenceApp σ ρ × Except String (AuditIntegrityReport × CanonicalId) :=
  let verifiedAt := app.now
  let app := app.tick
  match app.verifyRuntimeAuditIntegrity E verifiedAt with
  | .error message => (app, .error message)
  | .ok report =>
    let (app, event) := app.recordAudit E requestActor
      { eventType := "audit.integrity_verified"
        actor := app.actor
        correlationId := "corr:audit-integrity:" ++ compactTimestamp report.verifiedAt
        payload := integrityReportJs report }
    (app, .ok (report, event.eventId))

end

end EvidenceApp

end AccessKit.L9
