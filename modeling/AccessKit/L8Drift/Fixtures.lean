import AccessKit.L2Audit.Fixtures
import AccessKit.L8Drift.GovernanceRuns

/-!
# Drift findings and governance records

Drift findings on the plan, and the governance records of one of them.
-/
namespace AccessKit.L8
open AccessKit.L1 AccessKit.L2.Audit.Fixtures

/-- A drift finding of a subject, on the plan. -/
def planFinding (id subjectId : CanonicalId) : DriftFinding where
  id := id
  version := "drift:v1"
  createdAt := "2026-01-01T00:00:00.000Z"
  resourceId := "document:plan"
  subjectId := subjectId
  nativeAccess := "read"
  intendedAccess := "none"
  severity := .high
  detectedAt := "2026-01-01T00:00:00.000Z"
  sourceConnectorId := "mock"
  recommendedAction := .revoke
  status := .open

/-- A generation over drift findings. -/
def planInput (driftFindings : List DriftFinding) (existing : AccessReviewGovernanceRecords) :
    AccessReviewGovernanceInput where
  generatedAt := "2026-01-02T00:00:00.000Z"
  subjectCount := 2
  resourceCount := 1
  sourceEventIds := []
  driftFindings := driftFindings
  existing := existing

theorem planInput_dated {driftFindings : List DriftFinding}
    (hplan : ∀ d ∈ driftFindings, ∃ id subjectId, d = planFinding id subjectId)
    (existing : AccessReviewGovernanceRecords) :
    (planInput driftFindings existing).Dated exactHost where
  generatedAt := by change L8.Dated exactHost "2026-01-02T00:00:00.000Z"; decide +kernel
  detectedAt := by
    intro d hd
    obtain ⟨id, subjectId, rfl⟩ := hplan d hd
    change L8.Dated exactHost "2026-01-01T00:00:00.000Z"
    decide +kernel

/-- The remediation of the plan's finding. -/
def planRemediation : GovernanceRemediationTracking where
  status := .planned
  ownerRole := "Resource Owner"
  plan := "Repair intended relationship or native grant mismatch and rerun reconciliation."
  dueAt := "2026-01-15T00:00:00.000Z"
  completedAt := none
  evidenceRefs := ["drift:drift:plan"]
  poamItemId := "poam:governance:drift:plan"

/-- The governance finding of `drift:plan`, with its request. -/
def planGovernanceFinding (requestId : CanonicalId) : GovernanceFinding where
  id := "governance-finding:drift:plan"
  version := "governance-finding:v1"
  createdAt := "2026-01-01T00:00:00.000Z"
  updatedAt := some "2026-01-01T00:00:00.000Z"
  campaignId := localAccessReviewCampaignId
  subjectId := "user:alice"
  resourceId := "document:plan"
  action := "read"
  severity := .high
  status := .open
  source := .drift
  sourceFindingId := some "drift:plan"
  ownerRole := "Resource Owner"
  weakness := "Native read access for user:alice on document:plan."
  recommendedAction := .revoke
  detectedAt := "2026-01-01T00:00:00.000Z"
  dueAt := "2026-01-15T00:00:00.000Z"
  controlId := "CA-7"
  remediation := planRemediation
  exceptionRequestId := some requestId
  evidenceRefs := ["drift:drift:plan"]

/-- A request for the governance finding of `drift:plan`. -/
def planRequest (requestId : CanonicalId) (status : ExceptionRequestStatus)
    (risk : GovernanceRiskAcceptanceStatus) : ExceptionRequest where
  id := requestId
  version := "exception-request:v1"
  createdAt := "2026-01-01T00:00:00.000Z"
  updatedAt := some "2026-01-01T00:00:00.000Z"
  campaignId := localAccessReviewCampaignId
  findingId := "governance-finding:drift:plan"
  subjectId := "user:alice"
  resourceId := "document:plan"
  action := "read"
  justification := "Drift finding drift:plan requires documented risk acceptance or remediation."
  status := status
  requesterRole := "Security Engineer"
  ownerRole := "Resource Owner"
  requestedAt := "2026-01-01T00:00:00.000Z"
  expiresAt := "2026-01-31T00:00:00.000Z"
  reviewRequiredAt := "2026-01-15T00:00:00.000Z"
  ownerApprovals := [⟨"Resource Owner", .pending, none, ["evidence:exception-request"]⟩]
  riskAcceptance :=
    { status := risk
      acceptedByRole := none
      acceptedAt := none
      rationale := "Residual access drift drift:plan is tracked for owner review."
      residualRisk := .high
      expiresAt := "2026-01-31T00:00:00.000Z"
      reviewRequiredAt := "2026-01-15T00:00:00.000Z"
      evidenceRefs := ["drift:drift:plan"] }
  remediation := planRemediation
  source := .drift
  sourceFindingId := some "drift:plan"
  controlIds := ["CA-7", "RA-5"]
  evidenceRefs := ["drift:drift:plan"]

/-- The governance records of `drift:plan`: its finding and a request. -/
def planRecords (requestId : CanonicalId) : AccessReviewGovernanceRecords where
  campaigns := []
  findings := [planGovernanceFinding requestId]
  exceptionRequests := [planRequest requestId .requested .pending]

end AccessKit.L8
