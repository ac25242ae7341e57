import AccessKit.L2Graph.Fixtures
import AccessKit.L5Runtime.ProvisioningRuns

/-!
# The mock connector

packages/connectors-mock/src/index.ts:158-317: the connector that controlled enforcement is
limited to, with what it answers, and a runtime that has no other. Concrete runs of
provisioning operations start from it.

Results:
* `startProvisioningJob_approved`: with a ready report an approved plan goes to the
  connector.
-/
namespace AccessKit.L5.Mock
open AccessKit.Core AccessKit.L1 AccessKit.L2.Audit AccessKit.L2.Fixtures AccessKit.L5
  AccessKit.L5.ProvisioningApp

/-- mirrors packages/connectors-mock/src/index.ts:158-172 -/
def mockConnector : ConnectorAdapter where
  id := "mock"
  capabilities :=
    { supportsDiscovery := true
      supportsProvisioning := true
      supportsReconciliation := true
      supportsDirectPermissions := true
      supportsInheritedPermissions := true
      supportsExternalUsers := true
      supportsTimeBoundAccess := true }
  provider := some "mock"
  tenantBoundary := some "synthetic:local"

/-- mirrors packages/connectors-mock/src/index.ts:278-315 -/
def revokeAccess (nativeGrantId : CanonicalId) : ProvisioningPlan where
  id := "plan:revoke:" ++ nativeGrantId
  version := "plan:v1"
  createdAt := timestamp
  connectorId := "mock"
  subjectId := "user:alice"
  resourceId := "document:case-plan"
  action := "read"
  mode := .dryRun
  status := .planned
  actions :=
    [{ actionId := "action:revoke:" ++ nativeGrantId
       operation := .revoke
       targetPlatform := "mock"
       targetObjectId := "document:case-plan"
       requestedState := [("nativeGrantId", .str nativeGrantId), ("status", .str "revoked")]
       dryRun := true
       idempotencyKey := "revoke:" ++ nativeGrantId
       status := .planned
       verification :=
         { status := .pending
           method := "connector.current_access_readback"
           expectedState := [("nativeGrantId", .str nativeGrantId), ("status", .str "revoked")] }
       compensation := some
         { operation := .grant
           reason := "Restore previous native grant if revocation verification fails after enforcement is enabled."
           status := .planned
           idempotencyKey := "compensate:grant:" ++ nativeGrantId } }]

/-- mirrors packages/connectors-mock/src/index.ts:269-271 -/
def applyProvisioningChange (plan : ProvisioningPlan) : ProvisioningPlan :=
  { plan with status := .applied }

/-- What the connector answers for a plan.
mirrors packages/connectors-mock/src/index.ts:269-276 -/
def answers (plan : ProvisioningPlan) : JobAnswers where
  applied := .ok (applyProvisioningChange plan)
  verified := .ok true

/-- The class `[a-z0-9_:-]`. -/
def ticketChar (c : Char) : Bool := c.isLower || c.isDigit || c = '_' || c = ':' || c = '-'

/-- The default pattern of change tickets, and no other. -/
def ticketRegExp (pattern : String) : Option (String → Bool) :=
  if pattern = "^chg:[a-z0-9_:-]+$" then
    some fun value => value.toList.take 4 = "chg:".toList && !(value.toList.drop 4).isEmpty &&
      (value.toList.drop 4).all ticketChar
  else none

theorem noPlans_id (id : CanonicalId) (plan : ProvisioningPlan)
    (h : (OrderedMap.empty : OrderedMap CanonicalId ProvisioningPlan).get? id = some plan) :
    plan.id = id := by
  cases h

theorem noJobs_id (id : CanonicalId) (job : ProvisioningJob)
    (h : (OrderedMap.empty : OrderedMap CanonicalId ProvisioningJob).get? id = some job) :
    job.id = id := by
  cases h

/-- A runtime with the connector, and nothing stored. -/
def runtime : ProvisioningApp where
  connectors := OrderedMap.empty.set "mock" mockConnector
  provisioningPlans := .empty
  provisioningJobs := .empty
  enforcementReadinessReports := .empty
  auditRecorder := ⟨[]⟩
  actor := "service:api"
  clock _ := later
  ticks := 0
  plan_id := noPlans_id
  job_id := noJobs_id

def grantId : CanonicalId := "native-grant:mock:document:case-plan:user:alice:read:direct"

/-- A dry run of revoking the grant, with a key. -/
def revocation (idempotencyKey : String) : PlanCall where
  request := .revocation grantId
  connectorId := "mock"
  idempotencyKey := some idempotencyKey

/-- The event of no decision: a revocation asks for none. -/
def noDecision : AuditEventInput where
  eventType := ""
  actor := ""
  correlationId := ""
  payload := []

/-! ## Controlled enforcement -/

def approval : ProvisioningApproval where
  approverId := "user:approver"
  changeTicket := "chg:release-1"
  approvedAt := timestamp

def control : EnforcementControl where
  syntheticOnly := true
  liveProviderWrites := false
  incidentMode := false
  breakGlass := false

/-- What `checkEnforcementReadiness` reports of the connector; its checks are not read
again. -/
def report : EnforcementReadinessReport where
  id := "readiness:mock:20260521t170000000z:1"
  version := "enforcement-readiness:v1"
  createdAt := timestamp
  connectorId := "mock"
  provider := "mock"
  tenantBoundary := "synthetic:local"
  status := .ready
  checkedAt := timestamp
  control := control
  checks := []
  requiredApproverRole := "access-approver"
  changeTicketPattern := "^chg:[a-z0-9_:-]+$"
  liveProviderWritesAllowed := false
  auditEventIds := []

/-- A revocation, approved. -/
def approvedPlan : ProvisioningPlan :=
  { revokeAccess grantId with
    idempotencyKey := some "key:plan"
    mode := .enforcement
    status := .approved
    approval := some approval
    control := some control
    readinessReportId := some report.id }

/-- The runtime with the report and the approved plan. -/
def approvedRuntime : ProvisioningApp :=
  (runtime.recordEnforcementReadinessReport report).upsertProvisioningPlan approvedPlan

/-- A call to have the plan applied. -/
def jobCall (approverId : CanonicalId) (idempotencyKey : String) : JobCall where
  planId := approvedPlan.id
  approverId
  idempotencyKey

theorem getProvisioningPlan_approvedRuntime :
    approvedRuntime.getProvisioningPlan approvedPlan.id = some approvedPlan :=
  OrderedMap.get?_set_self _ _ _

theorem dateParse_timestamp : dateParse plainHost timestamp ≠ none := by
  decide +kernel

theorem changeTicketMatches_approval :
    changeTicketMatches ticketRegExp "^chg:[a-z0-9_:-]+$" approval.changeTicket = true := by
  decide +kernel

/-- The gate opens for the approver of the plan and for no approver at all, whatever the
status of the plan. -/
theorem gatePassed_ticket {app : ProvisioningApp}
    (hconnectors : app.connectors = approvedRuntime.connectors)
    (hreports : app.enforcementReadinessReports = approvedRuntime.enforcementReadinessReports)
    {approverId : CanonicalId} (happrover : approverId = "user:approver" ∨ approverId = "")
    (idempotencyKey : String) (status : ProvisioningPlanStatus) (updatedAt : Option IsoDateTime) :
    GatePassed plainHost ticketRegExp app (jobCall approverId idempotencyKey)
      { approvedPlan with status, updatedAt } mockConnector approval control report where
  registered := by rw [hconnectors]; exact OrderedMap.get?_set_self _ _ _
  approvalInForce := rfl
  controlInForce := rfl
  matchesPlan := rfl
  allowed :=
    { decision := rfl
      approverId_nonempty := by decide
      changeTicket_nonempty := by decide
      approvedAt_nonempty := by decide
      approver := by
        intro id hid
        rcases happrover with rfl | rfl
        · exact Option.some.inj (truthy_eq_some.1 hid).1
        · cases hid
      approvedAt := dateParse_timestamp
      expiresAt := fun _ h => by cases h
      control := ⟨rfl, rfl, rfl, rfl, rfl, rfl, rfl⟩ }
  reported := by
    refine ⟨report.id, rfl, ?_⟩
    rw [hreports]
    exact OrderedMap.get?_set_self _ _ _
  ready :=
    { connectorId := rfl
      provider := rfl
      tenantBoundary := rfl
      status := rfl
      liveProviderWritesAllowed := rfl
      control := fun c hc => by cases hc; rfl
      changeTicket := fun a ha => by cases ha; exact changeTicketMatches_approval }

/-- A call for the plan goes to the connector when no job has its key. -/
theorem startProvisioningJob_approved {app : ProvisioningApp}
    (hconnectors : app.connectors = approvedRuntime.connectors)
    (hreports : app.enforcementReadinessReports = approvedRuntime.enforcementReadinessReports)
    {approverId : CanonicalId} (happrover : approverId = "user:approver" ∨ approverId = "")
    {idempotencyKey : String} {status : ProvisioningPlanStatus} {updatedAt : Option IsoDateTime}
    (hfresh : app.getProvisioningJobByIdempotencyKey idempotencyKey = none)
    (hplan : app.getProvisioningPlan approvedPlan.id = some { approvedPlan with status, updatedAt }) :
    (app.startProvisioningJob plainHost ticketRegExp (jobCall approverId idempotencyKey)).2 =
      .applying { approvedPlan with status, updatedAt } app.now :=
  startProvisioningJob_applying.2 ⟨rfl, ⟨hfresh, hplan, rfl, rfl⟩, _, _, _, _,
    gatePassed_ticket hconnectors hreports happrover idempotencyKey status updatedAt⟩

/-- So does one that finds the records as they were. -/
theorem startProvisioningJob_records {app : ProvisioningApp}
    (hrecords : app.records = approvedRuntime.records) {approverId : CanonicalId}
    (happrover : approverId = "user:approver" ∨ approverId = "") (idempotencyKey : String) :
    (app.startProvisioningJob plainHost ticketRegExp (jobCall approverId idempotencyKey)).2 =
      .applying approvedPlan app.now := by
  have hfresh : app.getProvisioningJobByIdempotencyKey idempotencyKey = none :=
    getProvisioningJobByIdempotencyKey_congr (congrArg Records.jobs hrecords) idempotencyKey
  have hplan : app.getProvisioningPlan approvedPlan.id = some approvedPlan := by
    rw [getProvisioningPlan, show app.provisioningPlans = _ from congrArg Records.plans hrecords]
    exact getProvisioningPlan_approvedRuntime
  exact startProvisioningJob_approved (congrArg Records.connectors hrecords)
    (congrArg Records.reports hrecords) happrover hfresh hplan

end AccessKit.L5.Mock
