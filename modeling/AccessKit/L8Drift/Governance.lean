import AccessKit.Core.OrderedMap
import AccessKit.L3Policy.Validate
import AccessKit.L8Drift.Findings

/-!
# Access review governance

packages/core/src/governance.ts: governance findings and exception requests from drift
findings, merged with the records that are there, and the campaign over them. A record is
filed under an id that the normalised id of its drift finding gives. A date out of range
throws where it is printed; `localeCompare` is the host's.

Results:
* `generate_ok`: the finding and the request that a drift finding gives.
* `generate_again`: from the records it gave, a drift finding gives the same.
-/
namespace AccessKit.L8
open AccessKit.Core AccessKit.L1 AccessKit.L3

/-! ## The records -/

inductive GovernanceApprovalDecision
  | pending
  | approved
  | rejected
  deriving DecidableEq, Repr

inductive GovernanceWorkflowSource
  | drift
  | accessReview
  | manual
  deriving DecidableEq, Repr

inductive GovernanceRemediationStatus
  | open
  | planned
  | inProgress
  | completed
  | overdue
  deriving DecidableEq, Repr

inductive GovernanceRiskAcceptanceStatus
  | pending
  | accepted
  | expired
  | revoked
  deriving DecidableEq, Repr

inductive ExceptionRequestStatus
  | requested
  | ownerApproved
  | riskAccepted
  | expired
  | revoked
  | remediated
  deriving DecidableEq, Repr

inductive AccessReviewCampaignStatus
  | planned
  | active
  | completed
  deriving DecidableEq, Repr

inductive GovernanceFindingStatus
  | open
  | riskAccepted
  | remediationPlanned
  | remediated
  | expired
  deriving DecidableEq, Repr

/-- mirrors packages/core/src/domain/evidence-governance.ts:10-15 -/
structure GovernanceApproval where
  approverRole : String
  decision : GovernanceApprovalDecision
  decidedAt : Option IsoDateTime
  evidenceRefs : List String
  deriving DecidableEq

/-- mirrors packages/core/src/domain/evidence-governance.ts:17-25 -/
structure GovernanceRemediationTracking where
  status : GovernanceRemediationStatus
  ownerRole : String
  plan : String
  dueAt : IsoDateTime
  completedAt : Option IsoDateTime
  evidenceRefs : List String
  poamItemId : CanonicalId
  deriving DecidableEq

/-- mirrors packages/core/src/domain/evidence-governance.ts:27-36 -/
structure GovernanceRiskAcceptance where
  status : GovernanceRiskAcceptanceStatus
  acceptedByRole : Option String
  acceptedAt : Option IsoDateTime
  rationale : String
  residualRisk : DriftSeverity
  expiresAt : IsoDateTime
  reviewRequiredAt : IsoDateTime
  evidenceRefs : List String
  deriving DecidableEq

/-- mirrors packages/core/src/domain/governance.ts:26-42 -/
structure AccessReviewCampaign where
  id : CanonicalId
  version : String
  createdAt : IsoDateTime
  updatedAt : Option IsoDateTime
  name : String
  scope : String
  ownerRole : String
  reviewerRole : String
  status : AccessReviewCampaignStatus
  startedAt : IsoDateTime
  dueAt : IsoDateTime
  completedAt : Option IsoDateTime
  subjectCount : Nat
  resourceCount : Nat
  findingIds : List CanonicalId
  exceptionRequestIds : List CanonicalId
  remediationItemIds : List CanonicalId
  sourceEventIds : List CanonicalId
  ownerApprovals : List GovernanceApproval
  deriving DecidableEq

/-- mirrors packages/core/src/domain/governance.ts:44-62 -/
structure GovernanceFinding where
  id : CanonicalId
  version : String
  createdAt : IsoDateTime
  updatedAt : Option IsoDateTime
  campaignId : CanonicalId
  subjectId : CanonicalId
  resourceId : CanonicalId
  action : String
  severity : DriftSeverity
  status : GovernanceFindingStatus
  source : GovernanceWorkflowSource
  sourceFindingId : Option CanonicalId
  ownerRole : String
  weakness : String
  recommendedAction : DriftRecommendedAction
  detectedAt : IsoDateTime
  dueAt : IsoDateTime
  controlId : String
  remediation : GovernanceRemediationTracking
  exceptionRequestId : Option CanonicalId
  evidenceRefs : List String
  deriving DecidableEq

/-- mirrors packages/core/src/domain/governance.ts:64-84 -/
structure ExceptionRequest where
  id : CanonicalId
  version : String
  createdAt : IsoDateTime
  updatedAt : Option IsoDateTime
  campaignId : CanonicalId
  findingId : CanonicalId
  subjectId : CanonicalId
  resourceId : CanonicalId
  action : String
  justification : String
  status : ExceptionRequestStatus
  requesterRole : String
  ownerRole : String
  requestedAt : IsoDateTime
  expiresAt : IsoDateTime
  reviewRequiredAt : IsoDateTime
  ownerApprovals : List GovernanceApproval
  riskAcceptance : GovernanceRiskAcceptance
  remediation : GovernanceRemediationTracking
  source : GovernanceWorkflowSource
  sourceFindingId : Option CanonicalId
  controlIds : List String
  evidenceRefs : List String
  deriving DecidableEq

/-- mirrors packages/core/src/governance.ts:31-35 -/
structure AccessReviewGovernanceRecords where
  campaigns : List AccessReviewCampaign
  findings : List GovernanceFinding
  exceptionRequests : List ExceptionRequest
  deriving DecidableEq

/-- mirrors packages/core/src/governance.ts:20-29, with the records that are there -/
structure AccessReviewGovernanceInput where
  generatedAt : IsoDateTime
  subjectCount : Nat
  resourceCount : Nat
  sourceEventIds : List CanonicalId
  driftFindings : List DriftFinding
  existing : AccessReviewGovernanceRecords := ⟨[], [], []⟩

/-! ## Ids -/

/-- `text.replaceAll(/p+/g, "_")` -/
def replaceRuns (p : Char → Bool) : Bool → List Char → List Char
  | _, [] => []
  | inRun, c :: rest =>
    if p c then (if inRun then replaceRuns p true rest else '_' :: replaceRuns p true rest)
    else c :: replaceRuns p false rest

/-- A character outside `[a-z0-9_:-]`. -/
def outsideId (c : Char) : Bool :=
  !(decide ('a' ≤ c ∧ c ≤ 'z') || decide ('0' ≤ c ∧ c ≤ '9') || c = '_' || c = ':' || c = '-')

/-- `text.replaceAll(/^_|_$/g, "")` -/
def trimUnderscore (text : List Char) : List Char :=
  let text := match text with
    | '_' :: rest => rest
    | text => text
  if text.getLast? = some '_' then text.dropLast else text

section
variable (H : Host)

/-- mirrors packages/core/src/governance.ts:101-107 -/
def governanceEvidenceId (value : String) : CanonicalId :=
  let text := trimUnderscore (replaceRuns (· = '_') false
    (replaceRuns outsideId false (toLowerCase H value).toList))
  if text.isEmpty then "unknown" else String.ofList text

/-- mirrors packages/core/src/governance.ts:365-367 -/
def governanceFindingId (sourceFindingId : String) : CanonicalId :=
  "governance-finding:" ++ governanceEvidenceId H sourceFindingId

/-- mirrors packages/core/src/governance.ts:369-371 -/
def exceptionRequestId (sourceFindingId : String) : CanonicalId :=
  "exception:" ++ governanceEvidenceId H sourceFindingId

end

def localAccessReviewCampaignId : CanonicalId := "access-review:campaign:local-governance"

/-- mirrors packages/core/src/governance.ts:97-99 -/
def requiresExceptionRequest (finding : DriftFinding) : Bool :=
  finding.recommendedAction = .exception || finding.severity = .high ||
    finding.severity = .critical

/-- `existing?.length ? existing : refs` -/
def keptRefs {α : Type} (existing : Option (List α)) (refs : List α) : List α :=
  match existing with
  | some (ref :: more) => ref :: more
  | _ => refs

/-- `existing ?? fresh`, where making a fresh date may throw. -/
def keptDate (existing : Option IsoDateTime) (fresh : Except String IsoDateTime) :
    Except String IsoDateTime :=
  match existing with
  | some date => .ok date
  | none => fresh

/-! ## Statuses -/

section
variable (H : Host)

/-- mirrors packages/core/src/governance.ts:387-391 -/
def addDays (timestamp : IsoDateTime) (days : Nat) : Except String IsoDateTime :=
  match (dateParse H timestamp).bind fun time =>
    timeClip ((time + days * 86400000 : Int) : Rat) with
  | some time => .ok (toISOString time)
  | none => .error "Invalid time value"

/-- mirrors packages/core/src/governance.ts:393-395 -/
def isAfter (value compareTo : IsoDateTime) : Bool :=
  gtMs (dateParse H value) (dateParse H compareTo)

/-- mirrors packages/core/src/governance.ts:301-318 -/
def governanceFindingStatus (finding : DriftFinding)
    (remediationStatus : GovernanceRemediationStatus)
    (generatedAt riskAcceptanceExpiresAt : IsoDateTime) : GovernanceFindingStatus :=
  if finding.status = .resolved ∨ remediationStatus = .completed then .remediated
  else if finding.status = .accepted then
    if isAfter H generatedAt riskAcceptanceExpiresAt then .expired else .riskAccepted
  else if finding.status = .repairing then .remediationPlanned
  else .open

/-- mirrors packages/core/src/governance.ts:320-332 -/
def remediationStatus (finding : DriftFinding) (generatedAt dueAt : IsoDateTime) :
    GovernanceRemediationStatus :=
  if finding.status = .resolved then .completed
  else if finding.status = .repairing then .inProgress
  else if isAfter H generatedAt dueAt then .overdue
  else if finding.recommendedAction = .review then .open
  else .planned

/-- mirrors packages/core/src/governance.ts:334-346 -/
def exceptionRequestStatus (finding : DriftFinding) (generatedAt expiresAt : IsoDateTime) :
    ExceptionRequestStatus :=
  if finding.status = .resolved then .remediated
  else if isAfter H generatedAt expiresAt then .expired
  else if finding.status = .accepted then .riskAccepted
  else .requested

/-- mirrors packages/core/src/governance.ts:348-363 -/
def riskAcceptanceStatus (existingStatus : Option GovernanceRiskAcceptanceStatus)
    (requestStatus : ExceptionRequestStatus) : GovernanceRiskAcceptanceStatus :=
  if requestStatus = .expired then .expired
  else if requestStatus = .revoked then .revoked
  else if requestStatus = .riskAccepted ∨ existingStatus = some .accepted then .accepted
  else .pending

/-- mirrors packages/core/src/governance.ts:297-299 -/
def exceptionExpiresAt (finding : DriftFinding) (existing : Option ExceptionRequest) :
    Except String IsoDateTime :=
  keptDate (existing.map (·.expiresAt))
    (addDays H ((existing.map (·.requestedAt)).getD finding.detectedAt) 30)

/-! ## Builders -/

/-- mirrors packages/core/src/governance.ts:283-295 -/
def remediationPlan (finding : DriftFinding) : String :=
  match finding.recommendedAction with
  | .revoke => "Validate intended access, plan revocation, and verify reconciliation closure."
  | .repair =>
    "Repair intended relationship or native grant mismatch and rerun reconciliation."
  | .exception => "Obtain owner approval, document risk acceptance, set expiry, and track " ++
    "remediation before access can remain."
  | .review => "Review access with the resource owner and choose revoke, repair, or " ++
    "time-bound exception handling."

/-- mirrors packages/core/src/governance.ts:373-385 -/
def buildOwnerApproval (approverRole : String) (decision : GovernanceApprovalDecision)
    (decidedAt : Option IsoDateTime) (evidenceRefs : List String) : GovernanceApproval :=
  { approverRole, decision, decidedAt, evidenceRefs }

/-- mirrors packages/core/src/governance.ts:238-257 -/
def buildRemediationTracking (driftFinding : DriftFinding)
    (existing : Option GovernanceRemediationTracking) (generatedAt : IsoDateTime) :
    Except String GovernanceRemediationTracking := do
  let dueAt ← keptDate (existing.map (·.dueAt)) (addDays H driftFinding.detectedAt 14)
  let status := remediationStatus H driftFinding generatedAt dueAt
  let completedAt := existing.bind (·.completedAt)
  return {
    status
    ownerRole := (existing.map (·.ownerRole)).getD "Resource Owner"
    plan := (existing.map (·.plan)).getD (remediationPlan driftFinding)
    dueAt
    completedAt := if status = .completed then some (completedAt.getD generatedAt) else completedAt
    evidenceRefs := keptRefs (existing.map (·.evidenceRefs))
      ["drift:" ++ governanceEvidenceId H driftFinding.id, "runbooks/drift-remediation.md"]
    poamItemId := (existing.map (·.poamItemId)).getD
      ("poam:governance:" ++ governanceEvidenceId H driftFinding.id) }

/-- mirrors packages/core/src/governance.ts:259-281 -/
def buildRiskAcceptance (existing : Option GovernanceRiskAcceptance) (driftFinding : DriftFinding)
    (requestStatus : ExceptionRequestStatus)
    (generatedAt expiresAt reviewRequiredAt : IsoDateTime) : GovernanceRiskAcceptance :=
  let status := riskAcceptanceStatus (existing.map (·.status)) requestStatus
  let acceptedByRole := existing.bind (·.acceptedByRole)
  let acceptedAt := existing.bind (·.acceptedAt)
  { status
    acceptedByRole :=
      if status = .accepted then some (acceptedByRole.getD "Authorizing Official")
      else acceptedByRole
    acceptedAt := if status = .accepted then some (acceptedAt.getD generatedAt) else acceptedAt
    rationale := (existing.map (·.rationale)).getD ("Residual access drift " ++ driftFinding.id ++
      " is tracked for owner review, remediation, or time-bound acceptance.")
    residualRisk := (existing.map (·.residualRisk)).getD driftFinding.severity
    expiresAt
    reviewRequiredAt
    evidenceRefs := keptRefs (existing.map (·.evidenceRefs))
      ["drift:" ++ governanceEvidenceId H driftFinding.id, "runbooks/access-review-exceptions.md"] }

/-- mirrors packages/core/src/governance.ts:155-191 -/
def buildGovernanceFinding (driftFinding : DriftFinding) (existing : Option GovernanceFinding)
    (generatedAt riskAcceptanceExpiresAt : IsoDateTime) : Except String GovernanceFinding := do
  let normalizedSourceFindingId := governanceEvidenceId H driftFinding.id
  let remediation ←
    buildRemediationTracking H driftFinding (existing.map (·.remediation)) generatedAt
  let status := governanceFindingStatus H driftFinding remediation.status generatedAt
    riskAcceptanceExpiresAt
  return {
    id := governanceFindingId H driftFinding.id
    campaignId := (existing.map (·.campaignId)).getD localAccessReviewCampaignId
    subjectId := governanceEvidenceId H driftFinding.subjectId
    resourceId := governanceEvidenceId H driftFinding.resourceId
    action := if driftFinding.nativeAccess = "" then "review" else driftFinding.nativeAccess
    severity := driftFinding.severity
    status
    source := .drift
    sourceFindingId := some normalizedSourceFindingId
    ownerRole := (existing.map (·.ownerRole)).getD "Resource Owner"
    weakness := "Native " ++ driftFinding.nativeAccess ++ " access for " ++
      driftFinding.subjectId ++ " on " ++ driftFinding.resourceId ++ " differs from intended " ++
      driftFinding.intendedAccess ++ " access."
    recommendedAction := driftFinding.recommendedAction
    detectedAt := driftFinding.detectedAt
    dueAt := remediation.dueAt
    controlId := "CA-7"
    remediation
    exceptionRequestId := existing.bind (·.exceptionRequestId)
    evidenceRefs := keptRefs (existing.map (·.evidenceRefs))
      ["drift:" ++ normalizedSourceFindingId, "runbooks/access-review-exceptions.md"]
    version := "governance-finding:v1"
    createdAt := (existing.map (·.createdAt)).getD driftFinding.createdAt
    updatedAt := some generatedAt }

/-- mirrors packages/core/src/governance.ts:193-236 -/
def buildExceptionRequest (driftFinding : DriftFinding) (finding : GovernanceFinding)
    (existing : Option ExceptionRequest) (generatedAt : IsoDateTime) :
    Except String ExceptionRequest := do
  let normalizedSourceFindingId := governanceEvidenceId H driftFinding.id
  let requestedAt := (existing.map (·.requestedAt)).getD driftFinding.detectedAt
  let expiresAt ← keptDate (existing.map (·.expiresAt)) (addDays H requestedAt 30)
  let reviewRequiredAt ← keptDate (existing.map (·.reviewRequiredAt)) (addDays H requestedAt 14)
  let status := exceptionRequestStatus H driftFinding generatedAt expiresAt
  let riskAcceptance := buildRiskAcceptance H (existing.map (·.riskAcceptance)) driftFinding status
    generatedAt expiresAt reviewRequiredAt
  return {
    id := exceptionRequestId H driftFinding.id
    campaignId := finding.campaignId
    findingId := finding.id
    subjectId := finding.subjectId
    resourceId := finding.resourceId
    action := finding.action
    justification := (existing.map (·.justification)).getD ("Drift finding " ++ driftFinding.id ++
      " requires documented risk acceptance or remediation.")
    status
    requesterRole := (existing.map (·.requesterRole)).getD "Security Engineer"
    ownerRole := (existing.map (·.ownerRole)).getD "Resource Owner"
    requestedAt
    expiresAt
    reviewRequiredAt
    ownerApprovals := keptRefs (existing.map (·.ownerApprovals))
      [buildOwnerApproval "Resource Owner" (if status = .riskAccepted then .approved else .pending)
        riskAcceptance.acceptedAt ["evidence:exception-request"]]
    riskAcceptance
    remediation := finding.remediation
    source := .drift
    sourceFindingId := some normalizedSourceFindingId
    controlIds := keptRefs (existing.map (·.controlIds)) ["CA-7", "RA-5"]
    evidenceRefs := keptRefs (existing.map (·.evidenceRefs))
      ["drift:" ++ normalizedSourceFindingId, "runbooks/access-review-exceptions.md"]
    version := "exception-request:v1"
    createdAt := (existing.map (·.createdAt)).getD requestedAt
    updatedAt := some generatedAt }

/-- mirrors packages/core/src/governance.ts:109-153 -/
def buildAccessReviewCampaign (existing : Option AccessReviewCampaign)
    (input : AccessReviewGovernanceInput) (findings : List GovernanceFinding)
    (exceptionRequests : List ExceptionRequest) : Except String AccessReviewCampaign := do
  let generatedAt := input.generatedAt
  let hasEvidence := !input.sourceEventIds.isEmpty || !findings.isEmpty ||
    !exceptionRequests.isEmpty
  let existingOwnerApprovals := (existing.map (·.ownerApprovals)).getD []
  let completedOwnerApproval :=
    existingOwnerApprovals.find? fun approval => approval.decision = .approved
  let status : AccessReviewCampaignStatus :=
    if completedOwnerApproval.isSome then .completed else if hasEvidence then .active else .planned
  let completedAt := if status = .completed then
    some (((existing.bind (·.completedAt)).or
      (completedOwnerApproval.bind (·.decidedAt))).getD generatedAt) else none
  let dueAt ← keptDate (existing.map (·.dueAt)) (addDays H generatedAt 30)
  return {
    id := localAccessReviewCampaignId
    name := "Local access review and exception governance campaign"
    scope := "synthetic local subjects, resources, relationship tuples, native grants, " ++
      "drift findings, exception requests, and remediation records"
    ownerRole := "Data Owner"
    reviewerRole := "Data Steward"
    status
    startedAt := (existing.map (·.startedAt)).getD generatedAt
    dueAt
    completedAt
    subjectCount := input.subjectCount
    resourceCount := input.resourceCount
    findingIds := sortStrings (findings.map (·.id))
    exceptionRequestIds := sortStrings (exceptionRequests.map (·.id))
    remediationItemIds := sortStrings ((findings.filter fun finding =>
      finding.status ≠ .remediated).map (·.remediation.poamItemId))
    sourceEventIds := sortStrings input.sourceEventIds.eraseDups
    ownerApprovals := keptRefs (some existingOwnerApprovals)
      [buildOwnerApproval "Data Owner" .pending none ["evidence:access-review-campaign"]]
    version := "access-review-campaign:v1"
    createdAt := (existing.map (·.createdAt)).getD generatedAt
    updatedAt := some generatedAt }

/-! ## Generation -/

/-- The records by id, while they are generated. -/
structure GovernanceIndex where
  findingsById : OrderedMap CanonicalId GovernanceFinding
  exceptionRequestsById : OrderedMap CanonicalId ExceptionRequest

/-- One drift finding.
mirrors packages/core/src/governance.ts:42-66 -/
def mergeDriftFinding (generatedAt : IsoDateTime) (index : GovernanceIndex)
    (driftFinding : DriftFinding) : Except String GovernanceIndex := do
  let existingExceptionRequest :=
    index.exceptionRequestsById.get? (exceptionRequestId H driftFinding.id)
  let riskAcceptanceExpiresAt ← exceptionExpiresAt H driftFinding existingExceptionRequest
  let finding ← buildGovernanceFinding H driftFinding
    (index.findingsById.get? (governanceFindingId H driftFinding.id)) generatedAt
    riskAcceptanceExpiresAt
  let findingsById := index.findingsById.set finding.id finding
  if requiresExceptionRequest driftFinding then
    let exceptionRequest ←
      buildExceptionRequest H driftFinding finding existingExceptionRequest generatedAt
    return {
      exceptionRequestsById :=
        index.exceptionRequestsById.set exceptionRequest.id exceptionRequest
      findingsById := findingsById.set finding.id
        { finding with exceptionRequestId := some exceptionRequest.id,
                       updatedAt := some generatedAt } }
  else return { index with findingsById }

end

/-- mirrors packages/core/src/governance.ts:397-399 -/
def toIdMap {α : Type} (id : α → CanonicalId) (items : List α) : OrderedMap CanonicalId α :=
  .ofList id items

/-- mirrors packages/core/src/governance.ts:401-403 -/
def sortById {α : Type} (localeCompare : String → String → Int) (id : α → CanonicalId)
    (items : List α) : List α :=
  items.mergeSort fun left right => decide (localeCompare (id left) (id right) ≤ 0)

/-- mirrors packages/core/src/governance.ts:37-84 -/
def buildAccessReviewGovernance (H : Host) (localeCompare : String → String → Int)
    (input : AccessReviewGovernanceInput) : Except String AccessReviewGovernanceRecords := do
  let campaignsById := toIdMap (·.id) input.existing.campaigns
  let index ← input.driftFindings.foldlM (mergeDriftFinding H input.generatedAt)
    { findingsById := toIdMap (·.id) input.existing.findings
      exceptionRequestsById := toIdMap (·.id) input.existing.exceptionRequests }
  let campaign ← buildAccessReviewCampaign H (campaignsById.get? localAccessReviewCampaignId) input
    (index.findingsById.values.filter fun finding =>
      finding.campaignId = localAccessReviewCampaignId)
    (index.exceptionRequestsById.values.filter fun request =>
      request.campaignId = localAccessReviewCampaignId)
  return {
    campaigns := sortById localeCompare (·.id) (campaignsById.set campaign.id campaign).values
    findings := sortById localeCompare (·.id) index.findingsById.values
    exceptionRequests := sortById localeCompare (·.id) index.exceptionRequestsById.values }

/-! ## What a drift finding gives -/

section
variable (H : Host)

/-- The finding and the request that a drift finding gives, over the records under its ids. -/
def generate (generatedAt : IsoDateTime) (driftFinding : DriftFinding)
    (existing : Option GovernanceFinding) (existingRequest : Option ExceptionRequest) :
    Except String (GovernanceFinding × Option ExceptionRequest) := do
  let riskAcceptanceExpiresAt ← exceptionExpiresAt H driftFinding existingRequest
  let finding ←
    buildGovernanceFinding H driftFinding existing generatedAt riskAcceptanceExpiresAt
  if requiresExceptionRequest driftFinding then
    let request ← buildExceptionRequest H driftFinding finding existingRequest generatedAt
    return ({ finding with exceptionRequestId := some request.id, updatedAt := some generatedAt },
      some request)
  else return (finding, none)

/-- What the records of a drift finding have to do with it. -/
structure Generated (generatedAt : IsoDateTime) (driftFinding : DriftFinding)
    (existing : Option GovernanceFinding) (existingRequest : Option ExceptionRequest)
    (finding : GovernanceFinding) (request : Option ExceptionRequest) : Prop where
  id : finding.id = governanceFindingId H driftFinding.id
  requestId : ∀ r, request = some r → r.id = exceptionRequestId H driftFinding.id ∧
    r.findingId = finding.id ∧ finding.exceptionRequestId = some r.id
  required : request.isSome = requiresExceptionRequest driftFinding
  kept : request = none → finding.exceptionRequestId = existing.bind (·.exceptionRequestId)
  status : ∃ expiresAt, exceptionExpiresAt H driftFinding existingRequest = .ok expiresAt ∧
    finding.status = governanceFindingStatus H driftFinding finding.remediation.status generatedAt
      expiresAt ∧
    (finding.remediation.status = .completed ↔ driftFinding.status = .resolved) ∧
    ∀ r, request = some r → r.expiresAt = expiresAt ∧
      r.status = exceptionRequestStatus H driftFinding generatedAt expiresAt ∧
      r.riskAcceptance.status = riskAcceptanceStatus
        (existingRequest.map (·.riskAcceptance.status)) r.status

end

section
variable {H : Host} {t : IsoDateTime} {d : DriftFinding}

theorem completed_iff {dueAt : IsoDateTime} :
    remediationStatus H d t dueAt = .completed ↔ d.status = .resolved := by
  unfold remediationStatus
  split
  · simp_all
  · split
    · simp_all
    · split
      · simp_all
      · split <;> simp_all

theorem buildRemediationTracking_ok {existing : Option GovernanceRemediationTracking}
    {remediation : GovernanceRemediationTracking}
    (h : buildRemediationTracking H d existing t = .ok remediation) :
    remediation.status = .completed ↔ d.status = .resolved := by
  obtain ⟨dueAt, -, h⟩ := L2.Audit.bind_ok.1 h
  obtain rfl := Except.ok.inj h
  exact completed_iff

theorem buildGovernanceFinding_ok {existing : Option GovernanceFinding} {expiresAt : IsoDateTime}
    {finding : GovernanceFinding}
    (h : buildGovernanceFinding H d existing t expiresAt = .ok finding) :
    finding.id = governanceFindingId H d.id ∧
    finding.exceptionRequestId = existing.bind (·.exceptionRequestId) ∧
    finding.status = governanceFindingStatus H d finding.remediation.status t expiresAt ∧
    (finding.remediation.status = .completed ↔ d.status = .resolved) := by
  obtain ⟨remediation, hremediation, h⟩ := L2.Audit.bind_ok.1 h
  obtain rfl := Except.ok.inj h
  exact ⟨rfl, rfl, rfl, buildRemediationTracking_ok hremediation⟩

theorem buildExceptionRequest_ok {finding : GovernanceFinding} {existing : Option ExceptionRequest}
    {expiresAt : IsoDateTime} {request : ExceptionRequest}
    (hexpires : exceptionExpiresAt H d existing = .ok expiresAt)
    (h : buildExceptionRequest H d finding existing t = .ok request) :
    request.id = exceptionRequestId H d.id ∧ request.findingId = finding.id ∧
    request.expiresAt = expiresAt ∧
    request.status = exceptionRequestStatus H d t expiresAt ∧
    request.riskAcceptance.status = riskAcceptanceStatus
      (existing.map (·.riskAcceptance.status)) request.status := by
  obtain ⟨expiresAt', hexpires', h⟩ := L2.Audit.bind_ok.1 h
  obtain ⟨reviewRequiredAt, -, h⟩ := L2.Audit.bind_ok.1 h
  obtain rfl := Except.ok.inj (hexpires.symm.trans hexpires')
  obtain rfl := Except.ok.inj h
  exact ⟨rfl, rfl, rfl, rfl, by cases existing <;> rfl⟩

/-- **What a drift finding gives.** -/
theorem generate_ok {existing : Option GovernanceFinding}
    {existingRequest : Option ExceptionRequest} {finding : GovernanceFinding}
    {request : Option ExceptionRequest}
    (h : generate H t d existing existingRequest = .ok (finding, request)) :
    Generated H t d existing existingRequest finding request := by
  obtain ⟨expiresAt, hexpires, h⟩ := L2.Audit.bind_ok.1 h
  obtain ⟨built, hbuilt, h⟩ := L2.Audit.bind_ok.1 h
  obtain ⟨hid, hkept, hstatus, hcompleted⟩ := buildGovernanceFinding_ok hbuilt
  by_cases hrequires : requiresExceptionRequest d
  · rw [if_pos hrequires] at h
    obtain ⟨r, hr, h⟩ := L2.Audit.bind_ok.1 h
    obtain ⟨hrid, hrfinding, hrexpires, hrstatus, hrrisk⟩ := buildExceptionRequest_ok hexpires hr
    cases Except.ok.inj h
    exact
      { id := hid
        requestId := fun q hq => by
          obtain rfl := Option.some.inj hq
          exact ⟨hrid, hrfinding, rfl⟩
        required := hrequires.symm
        kept := fun hnone => by cases hnone
        status := ⟨expiresAt, hexpires, hstatus, hcompleted, fun q hq => by
          obtain rfl := Option.some.inj hq
          exact ⟨hrexpires, hrstatus, hrrisk⟩⟩ }
  · rw [if_neg hrequires] at h
    cases Except.ok.inj h
    exact
      { id := hid
        requestId := fun q hq => by cases hq
        required := by simpa using hrequires
        kept := fun _ => hkept
        status := ⟨expiresAt, hexpires, hstatus, hcompleted, fun q hq => by cases hq⟩ }

/-! ### Once more -/

theorem keptRefs_again {α : Type} (existing : Option (List α)) {refs : List α} (h : refs ≠ [])
    (refs' : List α) : keptRefs (some (keptRefs existing refs)) refs' = keptRefs existing refs := by
  obtain ⟨ref, more, rfl⟩ := List.exists_cons_of_ne_nil h
  rcases existing with _ | (_ | ⟨first, rest⟩) <;> rfl

theorem buildRemediationTracking_again {existing : Option GovernanceRemediationTracking}
    {remediation : GovernanceRemediationTracking}
    (h : buildRemediationTracking H d existing t = .ok remediation) :
    buildRemediationTracking H d (some remediation) t = .ok remediation := by
  obtain ⟨dueAt, -, h⟩ := L2.Audit.bind_ok.1 h
  obtain rfl := Except.ok.inj h
  simp only [buildRemediationTracking, Option.map_some, Option.bind_some, Option.getD_some,
    keptDate, keptRefs_again _ (List.cons_ne_nil _ _)]
  by_cases hcompleted : remediationStatus H d t dueAt = .completed <;>
    simp [hcompleted, bind, Except.bind, pure, Except.pure]

/-- The finding that a drift finding gave gives it again, with the request id it has. -/
theorem buildGovernanceFinding_again {existing : Option GovernanceFinding} {expiresAt : IsoDateTime}
    {finding : GovernanceFinding} (requestId : Option CanonicalId) (updatedAt : Option IsoDateTime)
    (h : buildGovernanceFinding H d existing t expiresAt = .ok finding) :
    buildGovernanceFinding H d
      (some { finding with exceptionRequestId := requestId, updatedAt := updatedAt }) t expiresAt =
        .ok { finding with exceptionRequestId := requestId } := by
  obtain ⟨remediation, hremediation, h⟩ := L2.Audit.bind_ok.1 h
  obtain rfl := Except.ok.inj h
  have hagain := buildRemediationTracking_again hremediation
  simp only [buildGovernanceFinding, Option.map_some, Option.bind_some, Option.getD_some, hagain,
    keptRefs_again _ (List.cons_ne_nil _ _)]
  rfl

theorem riskAcceptanceStatus_again (existing : Option GovernanceRiskAcceptanceStatus)
    (requestStatus : ExceptionRequestStatus) :
    riskAcceptanceStatus (some (riskAcceptanceStatus existing requestStatus)) requestStatus =
      riskAcceptanceStatus existing requestStatus := by
  unfold riskAcceptanceStatus
  split
  · rfl
  · split
    · rfl
    · split <;> simp_all

theorem buildRiskAcceptance_again (existing : Option GovernanceRiskAcceptance)
    (requestStatus : ExceptionRequestStatus) (expiresAt reviewRequiredAt : IsoDateTime) :
    buildRiskAcceptance H
      (some (buildRiskAcceptance H existing d requestStatus t expiresAt reviewRequiredAt)) d
      requestStatus t expiresAt reviewRequiredAt =
        buildRiskAcceptance H existing d requestStatus t expiresAt reviewRequiredAt := by
  simp only [buildRiskAcceptance, Option.map_some, Option.bind_some, Option.getD_some,
    riskAcceptanceStatus_again, keptRefs_again _ (List.cons_ne_nil _ _)]
  congr 1 <;> split <;> simp

/-- The request that a drift finding gave gives it again. -/
theorem buildExceptionRequest_again {finding : GovernanceFinding}
    {existing : Option ExceptionRequest} {request : ExceptionRequest}
    (requestId : Option CanonicalId)
    (h : buildExceptionRequest H d finding existing t = .ok request) :
    buildExceptionRequest H d { finding with exceptionRequestId := requestId } (some request) t =
      .ok request := by
  obtain ⟨expiresAt, -, h⟩ := L2.Audit.bind_ok.1 h
  obtain ⟨reviewRequiredAt, -, h⟩ := L2.Audit.bind_ok.1 h
  obtain rfl := Except.ok.inj h
  simp only [buildExceptionRequest, Option.map_some, Option.getD_some, keptDate, bind,
    Except.bind, buildRiskAcceptance_again, keptRefs_again _ (List.cons_ne_nil _ _)]
  rfl

/-- **Once more.** Over the records that it gave, a drift finding gives the same. -/
theorem generate_again {existing : Option GovernanceFinding}
    {existingRequest : Option ExceptionRequest} {finding : GovernanceFinding}
    {request : Option ExceptionRequest}
    (h : generate H t d existing existingRequest = .ok (finding, request)) :
    generate H t d (some finding) (request.or existingRequest) = .ok (finding, request) := by
  obtain ⟨expiresAt, hexpires, h⟩ := L2.Audit.bind_ok.1 h
  obtain ⟨built, hbuilt, h⟩ := L2.Audit.bind_ok.1 h
  by_cases hrequires : requiresExceptionRequest d
  · rw [if_pos hrequires] at h
    obtain ⟨r, hr, h⟩ := L2.Audit.bind_ok.1 h
    obtain ⟨-, -, hrexpires, -⟩ := buildExceptionRequest_ok hexpires hr
    cases Except.ok.inj h
    have hexpires' : exceptionExpiresAt H d (some r) = .ok expiresAt := by
      simp [exceptionExpiresAt, keptDate, hrexpires]
    have hbuilt' := buildGovernanceFinding_again (some r.id) (some t) hbuilt
    have hr' := buildExceptionRequest_again (some r.id) hr
    simp only [generate, Option.or, hexpires', bind, Except.bind, hbuilt', if_pos hrequires, hr',
      pure, Except.pure]
  · rw [if_neg hrequires] at h
    cases Except.ok.inj h
    have hbuilt' : buildGovernanceFinding H d (some finding) t expiresAt = .ok finding :=
      buildGovernanceFinding_again finding.exceptionRequestId finding.updatedAt hbuilt
    simp only [generate, Option.or, hexpires, bind, Except.bind, hbuilt', if_neg hrequires, pure,
      Except.pure]

end

end AccessKit.L8
