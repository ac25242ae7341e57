import AccessKit.L1Domain.SecretMaterial
import AccessKit.L1Domain.Unknown
import AccessKit.L2Audit.ReferenceRecords

/-!
# What an export knows of the controls

packages/api/src/runtime-evidence.ts: the catalog of the controls, the operational
evidence, and the artifacts of a package.

The catalog is an object of the language: under the name of a method that every
object inherits a function is found, which has none of the properties of a definition.
-/
namespace AccessKit.L9
open AccessKit.Core AccessKit.L1
open AccessKit.L2.Audit (natural)

/-! ## Names -/

inductive EvidenceFramework
  | nist80053
  | fedrampRev5
  | custom
  deriving DecidableEq, Repr

def EvidenceFramework.name : EvidenceFramework → String
  | .nist80053 => "nist-800-53"
  | .fedrampRev5 => "fedramp-rev5"
  | .custom => "custom"

inductive EvidenceExportFormat
  | json
  | zip
  | markdown
  deriving DecidableEq, Repr

def EvidenceExportFormat.name : EvidenceExportFormat → String
  | .json => "json"
  | .zip => "zip"
  | .markdown => "markdown"

inductive ControlImplementationStatus
  | implemented
  | partiallyImplemented
  | planned
  deriving DecidableEq, Repr

def ControlImplementationStatus.name : ControlImplementationStatus → String
  | .implemented => "implemented"
  | .partiallyImplemented => "partially_implemented"
  | .planned => "planned"

/-- The types that artifacts of an export have.
mirrors packages/core/src/domain/evidence.ts:66-89 -/
inductive EvidenceArtifactType
  | auditEvents
  | controlMapping
  | siemExport
  | poam
  | poamExport
  | systemBoundary
  | dataFlow
  | controlStatement
  | accessReview
  | exceptionRegister
  | securityEvidence
  | oscalComponentDefinition
  | oscalSsp
  | oscalAssessmentResults
  | signedEvidencePackage
  | controlTrace
  deriving DecidableEq, Repr

def EvidenceArtifactType.name : EvidenceArtifactType → String
  | .auditEvents => "audit_events"
  | .controlMapping => "control_mapping"
  | .siemExport => "siem_export"
  | .poam => "poam"
  | .poamExport => "poam_export"
  | .systemBoundary => "system_boundary"
  | .dataFlow => "data_flow"
  | .controlStatement => "control_statement"
  | .accessReview => "access_review"
  | .exceptionRegister => "exception_register"
  | .securityEvidence => "security_evidence"
  | .oscalComponentDefinition => "oscal_component_definition"
  | .oscalSsp => "oscal_ssp"
  | .oscalAssessmentResults => "oscal_assessment_results"
  | .signedEvidencePackage => "signed_evidence_package"
  | .controlTrace => "control_trace"

/-! ## The catalog -/

/-- What is found under a name; each property may be missing.
mirrors packages/api/src/runtime-evidence.ts:7-11 -/
structure ControlImplementationDefinition where
  summary : Option String
  evidenceTypes : Option (List String)
  eventPrefixes : Option (List String)

def known (summary : String) (evidenceTypes eventPrefixes : List String) :
    ControlImplementationDefinition := ⟨some summary, some evidenceTypes, some eventPrefixes⟩

/-- mirrors packages/api/src/runtime-evidence.ts:13-54 -/
def controlImplementationCatalog : List (String × ControlImplementationDefinition) :=
  [("AC-2", known
    ("Account lifecycle evidence is produced through subject inventory, provisioning, " ++
     "revocation, and native-access readback events.")
    ["subject_inventory", "provisioning_logs", "native_access_readback"]
    ["subject.", "provisioning.", "access.", "connector.current_access_read"]),
   ("AC-3", known
    ("Access enforcement evidence is produced through deterministic decision events, " ++
     "relationship facts, and provisioning records.")
    ["decision_logs", "relationship_tuples", "provisioning_logs"]
    ["decision.", "relationship.", "provisioning.", "connector.permission_changed"]),
   ("AC-6", known
    ("Least-privilege evidence is produced through connector readiness, approval, and scoped " ++
     "provisioning evidence.")
    ["connector_readiness", "approval_records", "provisioning_logs"]
    ["connector.enforcement_readiness_checked", "provisioning.approved",
     "connector.permission_changed"]),
   ("AU-2", known
    ("Auditable events are emitted for decisions, relationship writes, connector actions, " ++
     "provisioning, reconciliation, and evidence generation.")
    ["audit_events"]
    [""]),
   ("AU-6", known
    ("Audit review evidence includes hash-chain integrity verification and evidence-package " ++
     "generation.")
    ["audit_integrity", "evidence_exports"]
    ["audit.integrity_verified", "evidence.generated"]),
   ("CM-3", known
    ("Configuration change evidence is produced through policy, relationship, connector, and " ++
     "provisioning change events.")
    ["policy_changes", "relationship_tuples", "connector_logs", "provisioning_logs"]
    ["policy.", "relationship.", "connector.", "provisioning."]),
   ("CA-7", known
    ("Continuous monitoring evidence is produced through reconciliation, drift findings, " ++
     "ConMon metrics, and evidence exports.")
    ["reconciliation_runs", "drift_findings", "conmon_metrics", "evidence_exports"]
    ["reconciliation.", "drift.", "evidence.generated"]),
   ("IR-4", known
    ("Incident response evidence is represented through rollback, break-glass, incident-mode, " ++
     "and failed-provisioning records.")
    ["incident_records", "rollback_records", "provisioning_logs"]
    ["breakglass.", "provisioning.rollback_", "provisioning.failed"])]

/-- A name that every object has something under. -/
def isInherited (name : String) : Bool := name ∈ inheritedMethods ∨ name = "__proto__"

/-- mirrors packages/api/src/runtime-evidence.ts:56-58 -/
def getControlImplementationDefinition (controlId : String) :
    Option ControlImplementationDefinition :=
  match controlImplementationCatalog.find? fun p => p.1 == controlId with
  | some p => some p.2
  | none => if isInherited controlId then some ⟨none, none, none⟩ else none

/-! ## Operational evidence -/

/-- mirrors packages/core/src/domain/evidence.ts:314-323 -/
def operationalEvidence (generatedAt : IsoDateTime) (id : CanonicalId)
    (type status ownerRole summary : String) (evidenceRefs gaps : List String) : JsValue :=
  .obj [("id", .str id), ("type", .str type), ("status", .str status),
    ("ownerRole", .str ownerRole), ("generatedAt", .str generatedAt), ("summary", .str summary),
    ("evidenceRefs", L2.Audit.strings evidenceRefs), ("gaps", L2.Audit.strings gaps)]

/-- mirrors packages/api/src/runtime-evidence.ts:60-143 -/
def buildOperationalEvidence (generatedAt : IsoDateTime) : List JsValue :=
  [operationalEvidence generatedAt "operational:break-glass-runbook" "break_glass"
     "implemented" "ISSO"
     ("Local proof-point documents break-glass as a governed exception source and blocks " ++
      "break-glass use in controlled synthetic enforcement.")
     ["docs/security-model.md", "packages/api/src/runtime-app.ts"]
     [("Production break-glass identity, approval, expiry, and post-action review workflow " ++
       "must be integrated with the deployment identity provider.")],
   operationalEvidence generatedAt "operational:incident-response-runbook" "incident_response"
     "implemented" "Incident Commander"
     ("Incident-mode guardrails block controlled enforcement and evidence exports include IR-4 " ++
      "control mapping hooks for failed provisioning and rollback events.")
     ["docs/security-model.md", "docs/ato-evidence-model.md"]
     [("Production incident ticketing, notification, and post-incident review integrations " ++
       "remain deployment work.")],
   operationalEvidence generatedAt "operational:backup-restore-proof" "backup_restore"
     "planned" "System Owner"
     ("Evidence package declares backup and restore evidence requirements for future durable " ++
      "graph, audit, and evidence stores.")
     ["docs/implementation-backlog.md"]
     [("No production database, retention policy, restore test, or recovery time objective " ++
       "exists in the local runtime.")],
   operationalEvidence generatedAt "operational:contingency-plan" "contingency"
     "planned" "System Owner"
     ("Contingency evidence is represented as package metadata until deployment architecture " ++
      "and storage services are selected.")
     ["docs/ato-evidence-model.md"]
     [("Define deployment-specific contingency plan, alternate processing procedures, and " ++
       "recovery test cadence.")],
   operationalEvidence generatedAt "operational:sbom" "sbom"
     "implemented" "DevSecOps"
     ("Workspace dependency inventory is represented through package manifests, lockfile, and " ++
      "CI dependency audit evidence.")
     ["package.json", "pnpm-lock.yaml", ".github/workflows/security.yml"]
     ["Generate and archive a formal CycloneDX or SPDX SBOM artifact in release CI."],
   operationalEvidence generatedAt "operational:dependency-scan" "dependency_scan"
     "implemented" "DevSecOps"
     "Security workflow runs dependency audit, secret scan, and CodeQL checks for pull requests."
     [".github/workflows/security.yml", "docs/ci.md"]
     ["Add release-retained scan artifacts and vulnerability exception workflow."],
   operationalEvidence generatedAt "operational:vulnerability-scan" "vulnerability_scan"
     "planned" "DevSecOps"
     ("Static analysis proof points exist in CI, while authenticated DAST and infrastructure " ++
      "vulnerability scanning remain deployment-specific.")
     [".github/workflows/security.yml"]
     [("Add DAST, container/image scans, infrastructure scans, and remediation SLA evidence " ++
       "once deployable packaging exists.")],
   operationalEvidence generatedAt "operational:configuration-baseline" "configuration_baseline"
     "implemented" "Configuration Manager"
     ("Configuration baseline evidence is represented by strict TypeScript, validated " ++
      "OpenAPI/JSON Schemas, CI workflow validation, and ADRs.")
     ["tsconfig.json", "openapi/rebac-control-plane.yaml", "schemas", "adrs"]
     [("Add deployment IaC baseline, environment hardening checklist, and drift monitoring for " ++
       "production configuration.")]]

/-! ## Artifacts -/

/-- mirrors packages/core/src/domain/evidence.ts:91-97 -/
structure EvidenceArtifact where
  name : String
  type : EvidenceArtifactType
  description : String
  eventCount : Option Nat
  format : String

def EvidenceArtifact.toJs (a : EvidenceArtifact) : JsValue :=
  .obj ([("name", .str a.name), ("type", .str a.type.name), ("description", .str a.description)] ++
    (a.eventCount.map fun count => ("eventCount", natural count)).toList ++
    [("format", .str a.format)])

/-- mirrors packages/api/src/runtime-evidence.ts:145-252 -/
def buildEvidenceArtifacts (format : EvidenceExportFormat) (eventCount : Nat) :
    List EvidenceArtifact :=
  [⟨"audit-events", .auditEvents,
    "Time-bounded audit events with payload hashes and previous-event hash references.",
    some eventCount, format.name⟩,
   ⟨"control-mapping", .controlMapping,
    "Requested controls mapped to implementation statements, source events, and gaps.",
    none, format.name⟩,
   ⟨"poam", .poam,
    "Machine-readable POA&M inputs for incomplete or failed evidence checks.",
    none, format.name⟩,
   ⟨"poam-export", .poamExport,
    "OSCAL-oriented POA&M export derived from the same POA&M evidence items.",
    none, format.name⟩,
   ⟨"siem-events", .siemExport,
    "JSONL-ready SIEM export metadata for the same audit-event scope.",
    some eventCount, "jsonl"⟩,
   ⟨"oscal-component-definition", .oscalComponentDefinition,
    ("OSCAL component-definition fragment generated from boundary components and reviewed " ++
     "control statements."),
    none, format.name⟩,
   ⟨"oscal-ssp-fragment", .oscalSsp,
    "OSCAL SSP fragment generated from deployment scope, data flows, and control statements.",
    none, format.name⟩,
   ⟨"oscal-assessment-results", .oscalAssessmentResults,
    "OSCAL assessment-results fragment linking reviewed controls to observed audit evidence.",
    none, format.name⟩,
   ⟨"signed-evidence-package", .signedEvidencePackage,
    ("Signed package metadata that binds the evidence hash to source events, reviewed " ++
     "statements, and deployment scope."),
    none, format.name⟩,
   ⟨"control-trace-views", .controlTrace,
    ("Control-to-event trace views linking source events, reviewed statements, signatures, " ++
     "and deployment scope."),
    none, format.name⟩,
   ⟨"system-boundary", .systemBoundary,
    "Synthetic local system boundary and component inventory for ATO inspection.",
    none, format.name⟩,
   ⟨"data-flows", .dataFlow,
    "Synthetic data-flow inventory with protections and live-tenant-data flags.",
    none, format.name⟩,
   ⟨"control-statements", .controlStatement,
    "Control implementation statements generated from source evidence and gaps.",
    none, format.name⟩,
   ⟨"access-reviews", .accessReview,
    "Synthetic access review summary for relationship, native-access, and drift evidence.",
    none, format.name⟩,
   ⟨"exception-register", .exceptionRegister,
    "Risk exception records derived from drift findings that require review.",
    none, format.name⟩,
   ⟨"operational-evidence", .securityEvidence,
    ("Operational proof points for SBOM, dependency scanning, incident response, " ++
     "contingency, and configuration baseline evidence."),
    none, format.name⟩,
   ⟨"evidence-integrity-verifier", .securityEvidence,
    "Verifier documentation for recomputing stable-json package and section hashes.",
    none, "markdown"⟩]

end AccessKit.L9
