import AccessKit.L2Audit.EvidencePackages
import AccessKit.L8Drift.Governance
import AccessKit.L8Drift.Reconciliation
import AccessKit.L9Evidence.Catalog

/-!
# The sections of an evidence export

packages/api/src/runtime-evidence-export.ts:247-703: the mappings of the controls,
the metrics, the plan of action, the boundary, the data flows, the statements, the access
reviews and the exceptions, from what a runtime has.

A mapping of a control whose name every object inherits has no prefixes to look for, so
that looking for them throws. A plan of action has dates, which may be out of range.
-/
namespace AccessKit.L8
open AccessKit.Core AccessKit.L1
open AccessKit.L2.Audit (optional strings)

/-! ## Governance records as values -/

def GovernanceApprovalDecision.name : GovernanceApprovalDecision → String
  | .pending => "pending"
  | .approved => "approved"
  | .rejected => "rejected"

def GovernanceWorkflowSource.name : GovernanceWorkflowSource → String
  | .drift => "drift"
  | .accessReview => "access_review"
  | .manual => "manual"

def GovernanceRemediationStatus.name : GovernanceRemediationStatus → String
  | .open => "open"
  | .planned => "planned"
  | .inProgress => "in_progress"
  | .completed => "completed"
  | .overdue => "overdue"

def GovernanceRiskAcceptanceStatus.name : GovernanceRiskAcceptanceStatus → String
  | .pending => "pending"
  | .accepted => "accepted"
  | .expired => "expired"
  | .revoked => "revoked"

def ExceptionRequestStatus.name : ExceptionRequestStatus → String
  | .requested => "requested"
  | .ownerApproved => "owner_approved"
  | .riskAccepted => "risk_accepted"
  | .expired => "expired"
  | .revoked => "revoked"
  | .remediated => "remediated"

def GovernanceApproval.toJs (a : GovernanceApproval) : JsValue :=
  .obj [("approverRole", .str a.approverRole), ("decision", .str a.decision.name),
    ("decidedAt", optional a.decidedAt), ("evidenceRefs", strings a.evidenceRefs)]

def GovernanceRemediationTracking.toJs (r : GovernanceRemediationTracking) : JsValue :=
  .obj [("status", .str r.status.name), ("ownerRole", .str r.ownerRole), ("plan", .str r.plan),
    ("dueAt", .str r.dueAt), ("completedAt", optional r.completedAt),
    ("evidenceRefs", strings r.evidenceRefs), ("poamItemId", .str r.poamItemId)]

def GovernanceRiskAcceptance.toJs (r : GovernanceRiskAcceptance) : JsValue :=
  .obj [("status", .str r.status.name), ("acceptedByRole", optional r.acceptedByRole),
    ("acceptedAt", optional r.acceptedAt), ("rationale", .str r.rationale),
    ("residualRisk", .str r.residualRisk.name), ("expiresAt", .str r.expiresAt),
    ("reviewRequiredAt", .str r.reviewRequiredAt), ("evidenceRefs", strings r.evidenceRefs)]

end AccessKit.L8

namespace AccessKit.L9
open AccessKit.Core AccessKit.L1 AccessKit.L8
open AccessKit.L2.Audit (AuditEvent AuditIntegrityReport AuditIntegrityFinding
  AuditIntegrityStatus FindingSeverity optional natural strings)
open AccessKit.L2.Evidence (isCanonicalUnit lowerUnit hyphenate)

/-! ## What an export reads -/

/-- mirrors packages/core/src/domain/connector.ts:17 -/
inductive ConnectorMode
  | readOnly
  | simulation
  | dryRun
  | enforcement
  deriving DecidableEq, Repr

/-- A connector of the runtime, with its mode.
mirrors packages/core/src/domain/connector.ts:136-142 -/
structure RegisteredConnector extends L5.ConnectorAdapter where
  mode : ConnectorMode

/-! ## Audit integrity -/

def severityName : FindingSeverity → String
  | .low => "low"
  | .medium => "medium"
  | .high => "high"
  | .critical => "critical"

def integrityFindingJs (f : AuditIntegrityFinding) : JsValue :=
  .obj [("code", .str f.code), ("message", .str f.message),
    ("severity", .str (severityName f.severity)), ("eventId", optional f.eventId),
    ("expected", optional f.expected), ("actual", optional f.actual)]

def integrityStatusName : AuditIntegrityStatus → String
  | .verified => "verified"
  | .failed => "failed"

/-- A report, and the event it was recorded with. -/
def integrityReportJs (report : AuditIntegrityReport) (auditEventId : Option CanonicalId := none) :
    JsonRecord :=
  [("status", .str (integrityStatusName report.status)),
    ("eventCount", natural report.eventCount), ("verifiedAt", .str report.verifiedAt),
    ("firstEventId", optional report.firstEventId), ("lastEventId", optional report.lastEventId),
    ("firstEventHash", optional report.firstEventHash),
    ("lastEventHash", optional report.lastEventHash),
    ("findings", .arr (report.findings.map integrityFindingJs)), ("version", .str report.version),
    ("auditEventId", optional auditEventId)]

/-! ## Control mappings -/

/-- What an inherited name is mapped to has no summary and no types.
mirrors packages/core/src/domain/evidence.ts:56-64 -/
structure EvidenceControlMapping where
  controlId : String
  family : String
  status : ControlImplementationStatus
  implementationSummary : Option String
  evidenceTypes : Option (List String)
  sourceEventIds : List CanonicalId
  gaps : List String

def EvidenceControlMapping.toJs (m : EvidenceControlMapping) : JsValue :=
  .obj [("controlId", .str m.controlId), ("family", .str m.family), ("status", .str m.status.name),
    ("implementationSummary", optional m.implementationSummary),
    ("evidenceTypes", L3.optionalJs strings m.evidenceTypes),
    ("sourceEventIds", strings m.sourceEventIds), ("gaps", strings m.gaps)]

/-- `controlId.split("-").at(0)`, which is always there.
mirrors packages/api/src/runtime-evidence-export.ts:679-681 -/
def controlFamily (controlId : String) : String :=
  String.ofList (controlId.toList.takeWhile (· ≠ '-'))

/-- `value.startsWith(start)` -/
def startsWith (value start : String) : Bool := start.toList.isPrefixOf value.toList

/-- mirrors packages/api/src/runtime-evidence-export.ts:683-685 -/
def matchesAnyPrefix (value : String) (prefixes : List String) : Bool :=
  prefixes.any (startsWith value)

/-- The events with one of the prefixes, which are read for each event. -/
def selectEvents (events : List AuditEvent) : Option (List String) →
    Except TypeFault (List AuditEvent)
  | some prefixes => .ok (events.filter fun event => matchesAnyPrefix event.eventType prefixes)
  | none => if events.isEmpty then .ok [] else .error (.reading "some")

/-- mirrors packages/api/src/runtime-evidence-export.ts:251-280 -/
def buildControlMapping (events : List AuditEvent) (controlId : String) :
    Except TypeFault EvidenceControlMapping :=
  match getControlImplementationDefinition controlId with
  | none => .ok {
      controlId
      family := controlFamily controlId
      status := .planned
      implementationSummary :=
        some "Control mapping is not yet defined for this local proof-point package."
      evidenceTypes := some []
      sourceEventIds := []
      gaps := ["Define implementation statement and source evidence selectors for this control."] }
  | some definition => do
    let sourceEventIds := (← selectEvents events definition.eventPrefixes).map (·.eventId)
    return {
      controlId
      family := controlFamily controlId
      status := if sourceEventIds.length > 0 then .implemented else .partiallyImplemented
      implementationSummary := definition.summary
      evidenceTypes := definition.evidenceTypes
      sourceEventIds
      gaps := if sourceEventIds.length > 0 then [] else
        [("No matching audit events were observed for this control in the selected evidence " ++
          "period.")] }

/-- mirrors packages/api/src/runtime-evidence-export.ts:247-281 -/
def buildControlMappings (controls : List String) (events : List AuditEvent) :
    Except TypeFault (List EvidenceControlMapping) :=
  controls.mapM (buildControlMapping events)

/-! ## Control statements -/

/-- mirrors packages/api/src/runtime-evidence-export.ts:603-609 -/
def artifactSupportsMapping (mapping : EvidenceControlMapping) (artifact : EvidenceArtifact) :
    Except TypeFault Bool :=
  if artifact.type = .controlMapping then .ok true
  else match mapping.evidenceTypes with
    | some evidenceTypes => .ok (evidenceTypes.any fun evidenceType =>
        includes (evidenceType.toList.map fun c => if c = '_' then '-' else c)
          artifact.name.toList)
    | none => .error (.reading "some")

def sourceArtifactNames (artifacts : List EvidenceArtifact) (mapping : EvidenceControlMapping) :
    Except TypeFault (List String) := do
  let supports ← artifacts.mapM (artifactSupportsMapping mapping)
  return ((artifacts.zip supports).filter (·.2)).map (·.1.name)

/-- mirrors packages/api/src/runtime-evidence-export.ts:588-600 -/
def buildControlStatement (artifacts : List EvidenceArtifact) (generatedAt : IsoDateTime)
    (mapping : EvidenceControlMapping) : Except TypeFault JsValue := do
  return .obj [
    ("controlId", .str mapping.controlId),
    ("status", .str mapping.status.name),
    ("statement", .str (mapping.implementationSummary.getD "undefined" ++
      " This statement is generated from the local synthetic Phase 5 proof-point package and " ++
      "requires assessor review before production use.")),
    ("responsibleRole", .str "ISSO"),
    ("reviewerRole", .str "Security Control Assessor"),
    ("reviewedAt", .str generatedAt),
    ("evidenceTypes", L3.optionalJs strings mapping.evidenceTypes),
    ("sourceArtifactNames", strings (← sourceArtifactNames artifacts mapping)),
    ("gaps", strings mapping.gaps)]

/-- mirrors packages/api/src/runtime-evidence-export.ts:583-601 -/
def buildControlStatements (mappings : List EvidenceControlMapping)
    (artifacts : List EvidenceArtifact) (generatedAt : IsoDateTime) :
    Except TypeFault (List JsValue) :=
  mappings.mapM (buildControlStatement artifacts generatedAt)

/-! ## Metrics -/

/-- mirrors packages/core/src/domain/evidence.ts:121-126 -/
def conMonMetric (name : String) (value : Nat) (unit source : String) : JsValue :=
  .obj [("name", .str name), ("value", natural value), ("unit", .str unit),
    ("source", .str source)]

/-- mirrors packages/api/src/runtime-evidence-export.ts:687-689 -/
def countEvents (events : List AuditEvent) (eventType : String) : Nat :=
  (events.filter fun event => event.eventType = eventType).length

def isOpenRequest (request : ExceptionRequest) : Bool :=
  request.status ≠ .expired && request.status ≠ .revoked && request.status ≠ .remediated

def awaitsOwner (approvals : List GovernanceApproval) : Bool :=
  approvals.any fun approval => approval.decision = .pending

/-- How many records the stores of a runtime have. -/
structure StoreCounts where
  subjects : Nat
  resources : Nat
  provisioningJobs : Nat
  enforcementReadinessReports : Nat

/-- mirrors packages/api/src/runtime-evidence-export.ts:315-392 -/
def buildConMonMetrics (counts : StoreCounts) (driftFindings : List DriftFinding)
    (events : List AuditEvent) (auditIntegrity : AuditIntegrityReport)
    (governance : AccessReviewGovernanceRecords) : List JsValue :=
  let requests := governance.exceptionRequests
  let pendingOwnerApprovals :=
    (governance.campaigns.filter fun campaign => awaitsOwner campaign.ownerApprovals).length +
    (requests.filter fun request => awaitsOwner request.ownerApprovals).length
  [conMonMetric "audit_events_in_period" events.length "count" "audit_log",
   conMonMetric "audit_chain_verified" (if auditIntegrity.status = .verified then 1 else 0)
     "boolean" "audit_integrity",
   conMonMetric "audit_integrity_findings" auditIntegrity.findings.length "count"
     "audit_integrity",
   conMonMetric "allowed_decisions" (countEvents events "decision.allowed") "count" "audit_log",
   conMonMetric "denied_decisions" (countEvents events "decision.denied") "count" "audit_log",
   conMonMetric "provisioning_jobs" counts.provisioningJobs "count" "provisioning_store",
   conMonMetric "open_drift_findings"
     (driftFindings.filter fun finding => finding.status = .open).length "count" "drift_store",
   conMonMetric "high_or_critical_drift_findings"
     (driftFindings.filter fun finding =>
       finding.severity = .high || finding.severity = .critical).length "count" "drift_store",
   conMonMetric "enforcement_readiness_reports" counts.enforcementReadinessReports "count"
     "connector_readiness_store",
   conMonMetric "access_review_campaigns" governance.campaigns.length "count" "governance_store",
   conMonMetric "open_governance_findings"
     (governance.findings.filter fun finding => finding.status ≠ .remediated).length "count"
     "governance_store",
   conMonMetric "open_exception_requests" (requests.filter isOpenRequest).length "count"
     "governance_store",
   conMonMetric "expired_exception_requests"
     (requests.filter fun request => request.status = .expired).length "count"
     "governance_store",
   conMonMetric "pending_owner_approvals" pendingOwnerApprovals "count" "governance_store",
   conMonMetric "pending_risk_acceptances"
     (requests.filter fun request => request.riskAcceptance.status = .pending).length "count"
     "governance_store",
   conMonMetric "overdue_remediation_items"
     (governance.findings.filter fun finding => finding.remediation.status = .overdue).length
     "count" "governance_store"]

/-! ## The plan of action -/

/-- mirrors packages/core/src/domain/evidence.ts:128-136 -/
def poamItem (id : CanonicalId) (controlId weakness status ownerRole : String)
    (plannedCompletion : IsoDateTime) (source : String) : JsValue :=
  .obj [("id", .str id), ("controlId", .str controlId), ("weakness", .str weakness),
    ("status", .str status), ("ownerRole", .str ownerRole),
    ("plannedCompletion", .str plannedCompletion), ("source", .str source)]

/-- `text.replaceAll(/^-|-$/g, "")` -/
def trimHyphen (text : List Char) : List Char :=
  let text := match text with
    | '-' :: rest => rest
    | text => text
  if text.getLast? = some '-' then text.dropLast else text

/-- mirrors packages/api/src/runtime-evidence-export.ts:448-451 -/
def buildPoamControlId (H : Host) (controlId : String) : CanonicalId :=
  let slug := trimHyphen (hyphenate false (utf16 (toLowerCase H controlId)))
  "poam:" ++ if slug.isEmpty then "control" else String.ofList slug

/-- mirrors packages/api/src/runtime-evidence-export.ts:430-443 -/
def governancePoamItem (finding : GovernanceFinding) : JsValue :=
  poamItem finding.remediation.poamItemId finding.controlId finding.weakness
    (if finding.remediation.status = .planned ∨ finding.remediation.status = .inProgress then
      "planned" else "open")
    finding.remediation.ownerRole finding.remediation.dueAt "governance_findings"

/-- mirrors packages/api/src/runtime-evidence-export.ts:394-446 -/
def buildPoamItems (H : Host) (mappings : List EvidenceControlMapping)
    (auditIntegrity : AuditIntegrityReport) (generatedAt : IsoDateTime)
    (governanceFindings : List GovernanceFinding) : Except String (List JsValue) := do
  let plannedCompletion ← addDays H generatedAt 30
  let integrityItems := if auditIntegrity.status ≠ .verified then
    [poamItem "poam:audit-integrity" "AU-6"
      "Audit hash-chain verification reported one or more findings." "open" "ISSO"
      plannedCompletion "audit_integrity"] else []
  let mappingItems := (mappings.filter fun mapping => mapping.status ≠ .implemented).map
    fun mapping => poamItem (buildPoamControlId H mapping.controlId) mapping.controlId
      (mapping.gaps.head?.getD "Control implementation evidence is incomplete.") "planned" "ISSO"
      plannedCompletion "control_mapping"
  let governanceItems := (governanceFindings.filter fun finding =>
    finding.status ≠ .remediated).map governancePoamItem
  return integrityItems ++ mappingItems ++ governanceItems

/-! ## Boundary and data flows -/

/-- mirrors packages/api/src/runtime-evidence-export.ts:697-699 -/
def sanitizeCanonicalId (value : String) : String :=
  String.ofList ((utf16 value).map fun u => if isCanonicalUnit u then lowerUnit u else '_')

/-- mirrors packages/api/src/runtime-evidence-export.ts:701-703 -/
def connectorComponentId (connectorId : String) : CanonicalId :=
  "component:connector:" ++ sanitizeCanonicalId connectorId

/-- mirrors packages/core/src/domain/evidence.ts:271-278 -/
def boundaryComponent (id : CanonicalId) (name type trustZone description : String) : JsValue :=
  .obj [("id", .str id), ("name", .str name), ("type", .str type), ("trustZone", .str trustZone),
    ("dataClassification", .str "synthetic"), ("description", .str description)]

/-- mirrors packages/api/src/runtime-evidence-export.ts:454-461 -/
def connectorComponent (connector : RegisteredConnector) : JsValue :=
  boundaryComponent (connectorComponentId connector.id) (connector.id ++ " connector") "connector"
    (if connector.provider = some "mock" then "local_runtime" else "synthetic_provider")
    (connector.provider.getD connector.id ++ " adapter boundary for discovery, readback, " ++
      "reconciliation, and proof-point evidence.")

/-- The components that every boundary has. -/
def runtimeComponents : List JsValue :=
  [boundaryComponent "component:operator-cli" "rebac CLI" "operator" "operator_boundary"
     "Operator and assessor command surface that wraps the API contract.",
   boundaryComponent "component:api-runtime" "Local API runtime" "control_plane" "local_runtime"
     ("HTTP API runtime for decisions, provisioning, audit, reconciliation, and evidence " ++
      "export."),
   boundaryComponent "component:rebac-engine" "Deterministic ReBAC engine" "control_plane"
     "local_runtime"
     "Non-LLM authorization engine for deterministic check and explain decisions.",
   boundaryComponent "component:local-store" "Restartable proof-point store" "data_store"
     "local_runtime"
     ("Local proof-point store for subjects, resources, relationships, native grants, jobs, " ++
      "findings, audit events, and optional JSON state snapshots."),
   boundaryComponent "component:local-evidence-repository" "Local file evidence repository"
     "data_store" "local_runtime"
     ("Optional JSONL/JSON proof-point repository for audit events and evidence packages; not " ++
      "production WORM storage.")]

/-- mirrors packages/api/src/runtime-evidence-export.ts:453-520 -/
def buildSystemBoundary (connectors : List RegisteredConnector) : JsValue :=
  .obj [
    ("boundaryId", .str "boundary:local-rebac-control-plane"),
    ("name", .str "Local ReBAC control plane proof-point boundary"),
    ("description", .str ("Synthetic local runtime boundary used to prove ATO evidence package " ++
      "shape without live tenant data, secrets, or provider writes.")),
    ("environment", .str "local_proof_point"),
    ("liveTenantData", .bool false),
    ("components", .arr (runtimeComponents ++ connectors.map connectorComponent)),
    ("externalSystems", strings (connectors.map fun connector =>
      connector.provider.getD connector.id).eraseDups),
    ("assumptions", strings [
      ("All examples are synthetic and must not include real tenant identifiers, secrets, " ++
        "production users, or sensitive records."),
      "Authorization decisions are deterministic and never made by an LLM.",
      "Live connector writes remain out of scope for this local Phase 5 package."]),
    ("version", .str "system-boundary:v1")]

/-- mirrors packages/core/src/domain/evidence.ts:292-300 -/
def dataFlow (id : CanonicalId) (name : String) (source destination : CanonicalId)
    (dataTypes protections : List String) : JsValue :=
  .obj [("id", .str id), ("name", .str name), ("source", .str source),
    ("destination", .str destination), ("dataTypes", strings dataTypes),
    ("protections", strings protections), ("liveTenantData", .bool false)]

/-- mirrors packages/api/src/runtime-evidence-export.ts:523-540 -/
def connectorFlow (connector : RegisteredConnector) : JsValue :=
  dataFlow ("data-flow:api-connector:" ++ sanitizeCanonicalId connector.id)
    ("API to " ++ connector.id ++ " connector") "component:api-runtime"
    (connectorComponentId connector.id)
    (["discovery_requests", "readback_requests"] ++
      (if connector.capabilities.supportsProvisioning then
        ["dry_run_or_synthetic_enforcement_requests"] else []) ++
      (if connector.capabilities.supportsReconciliation then ["reconciliation_findings"] else []))
    ["connector_boundary",
      if connector.mode = .readOnly then "read_only_synthetic_providers"
      else "controlled_enforcement_guardrails",
      if connector.provider = some "mock" then "controlled_enforcement_guardrails"
      else "synthetic_provider_boundary"]

/-- mirrors packages/api/src/runtime-evidence-export.ts:522-581 -/
def buildDataFlows (connectors : List RegisteredConnector) : List JsValue :=
  [dataFlow "data-flow:cli-api" "Operator CLI to API" "component:operator-cli"
     "component:api-runtime"
     ["operator_requests", "synthetic_subject_ids", "synthetic_resource_ids"]
     ["api_contract_validation", "idempotency_keys_for_writes", "audit_event_emission"],
   dataFlow "data-flow:api-engine" "API to deterministic ReBAC engine" "component:api-runtime"
     "component:rebac-engine"
     ["decision_requests", "relationship_tuples", "policy_versions"]
     ["deny_by_default", "versioned_decisions", "explainable_paths"],
   dataFlow "data-flow:api-store" "API to local proof-point store" "component:api-runtime"
     "component:local-store"
     ["inventory", "native_grants", "provisioning_jobs", "audit_events", "drift_findings"]
     ["synthetic_data_only", "hash_chained_audit_events", "state_snapshot_hashes",
      "separate_intended_and_native_access"]] ++
  connectors.map connectorFlow ++
  [dataFlow "data-flow:evidence-repository" "API to local evidence repository"
     "component:api-runtime" "component:local-evidence-repository"
     ["audit_jsonl", "evidence_package_json", "storage_receipts"]
     ["payload_hashes", "storage_receipts", "explicit_non_worm_flag"]]

/-! ## Reviews and exceptions -/

/-- mirrors packages/api/src/runtime-evidence-export.ts:611-633 -/
def accessReview (reviewedAt : IsoDateTime) (campaign : AccessReviewCampaign) : JsValue :=
  .obj [("reviewId", .str campaign.id), ("campaignId", .str campaign.id),
    ("scope", .str campaign.scope), ("ownerRole", .str campaign.ownerRole),
    ("reviewerRole", .str campaign.reviewerRole),
    ("status", .str (if campaign.status = .completed then "completed" else "planned")),
    ("reviewedAt", .str (campaign.completedAt.getD reviewedAt)), ("dueAt", .str campaign.dueAt),
    ("completedAt", optional campaign.completedAt),
    ("subjectCount", natural campaign.subjectCount),
    ("resourceCount", natural campaign.resourceCount),
    ("findingCount", natural campaign.findingIds.length),
    ("exceptionCount", natural campaign.exceptionRequestIds.length),
    ("findingIds", strings campaign.findingIds),
    ("exceptionRequestIds", strings campaign.exceptionRequestIds),
    ("remediationItemIds", strings campaign.remediationItemIds),
    ("ownerApprovals", .arr (campaign.ownerApprovals.map GovernanceApproval.toJs)),
    ("sourceEventIds", strings campaign.sourceEventIds), ("version", .str "access-review:v2")]

/-- mirrors packages/api/src/runtime-evidence-export.ts:662-677 -/
def exceptionRecordStatus : ExceptionRequestStatus → String
  | .riskAccepted => "approved"
  | .ownerApproved => "approved"
  | .expired => "expired"
  | .revoked => "revoked"
  | .remediated => "remediated"
  | .requested => "open"

/-- mirrors packages/api/src/runtime-evidence-export.ts:635-660 -/
def exceptionRecord (request : ExceptionRequest) : JsValue :=
  .obj [("id", .str request.id), ("subjectId", .str request.subjectId),
    ("resourceId", .str request.resourceId), ("action", .str request.action),
    ("reason", .str request.justification),
    ("status", .str (exceptionRecordStatus request.status)),
    ("requestStatus", .str request.status.name), ("requesterRole", .str request.requesterRole),
    ("ownerRole", .str request.ownerRole), ("approverRole", .str "Authorizing Official"),
    ("requestedAt", .str request.requestedAt), ("expiresAt", .str request.expiresAt),
    ("reviewRequiredAt", .str request.reviewRequiredAt),
    ("ownerApprovals", .arr (request.ownerApprovals.map GovernanceApproval.toJs)),
    ("riskAcceptance", request.riskAcceptance.toJs), ("remediation", request.remediation.toJs),
    ("source", .str request.source.name), ("findingId", .str request.findingId),
    ("sourceFindingId", optional request.sourceFindingId),
    ("controlIds", strings request.controlIds), ("evidenceRefs", strings request.evidenceRefs),
    ("version", .str "exception-record:v2")]

end AccessKit.L9
