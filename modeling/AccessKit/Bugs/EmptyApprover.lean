import AccessKit.L5Runtime.Interleaving
import AccessKit.L5Runtime.MockConnector

/-!
# A job without an approver

Status: open.

The gate compares the approver of a job with the one of the approval only when the job
names one (packages/api/src/runtime-enforcement.ts:473-479: `if (approverId && …)`). The
HTTP decoder refuses an empty `approverId`; a queued job whose payload has one
(packages/api/src/job-queue-runner.ts:91) and a caller of `createProvisioningJob` do not
go through it, and have the plan applied with no approver.

Counterexample (`applied_without_approver`): a job with an empty `approverId`.

Exact condition (`gated_iff`): in every state of every run, a call is gated as claimed
exactly when it names an approver or fails another check. Readiness reports, approvals
and control settings are compared by their text; texts are equal when the contents are
(`approval_sameContent`, `control_sameContent`).
-/
namespace AccessKit.Bugs.EmptyApprover
open AccessKit.Core AccessKit.L1 AccessKit.L2.Audit AccessKit.L2.Fixtures AccessKit.L5
  AccessKit.L5.ProvisioningApp

section
variable (H : Host) (regExp : String → Option (String → Bool))

/-- The approval in force is that of the job, which then is that of the plan, or that of
the plan. -/
inductive ApprovalInForce (call : JobCall) (plan : ProvisioningPlan)
    (approval : ProvisioningApproval) : Prop
  | ofJob {planned : ProvisioningApproval} (hjob : call.approval = some approval)
      (hplan : plan.approval = some planned)
      (hsame : { approval with order := planned.order, order_perm := planned.order_perm } = planned)
  | ofPlan (hjob : call.approval = none) (hplan : plan.approval = some approval)

/-- What is claimed when the connector is asked to apply a plan, at that time. -/
structure Gate (app : ProvisioningApp) (call : JobCall) (plan : ProvisioningPlan)
    (connector : ConnectorAdapter) (approval : ProvisioningApproval) (control : EnforcementControl)
    (report : EnforcementReadinessReport) : Prop where
  registered : app.connectors.get? plan.connectorId = some connector
  provider : connector.provider = some "mock"
  tenantBoundary : connector.tenantBoundary = some "synthetic:local"
  supportsProvisioning : connector.capabilities.supportsProvisioning = true
  approvalInForce : ApprovalInForce call plan approval
  decision : approval.decision = "approved"
  approverId : approval.approverId = call.approverId
  approverId_nonempty : call.approverId ≠ ""
  changeTicket : approval.changeTicket ≠ ""
  approvedAt : dateParse H approval.approvedAt ≠ none
  expiresAt : ∀ expiresAt, approval.expiresAt = some expiresAt → NotExpired H expiresAt app.tick.now
  controlInForce : call.controlFor plan = some control
  syntheticOnly : control.syntheticOnly = true
  liveProviderWrites : control.liveProviderWrites = false
  breakGlass : control.breakGlass = false
  incidentMode : control.incidentMode = false
  reported : ∃ id, plan.readinessReportId = some id ∧
    app.enforcementReadinessReports.get? id = some report
  status : report.status = .ready
  reportConnector : report.connectorId = plan.connectorId
  reportProvider : connector.provider = some report.provider
  reportBoundary : connector.tenantBoundary = some report.tenantBoundary
  reportControl :
    { report.control with order := control.order, order_perm := control.order_perm } = control
  ticket : changeTicketMatches regExp report.changeTicketPattern approval.changeTicket = true

/-- **The law**: a call that goes to the connector passes the gate; any other call for an
enforcement plan is rejected, and nothing is stored. -/
structure Gated (app : ProvisioningApp) (call : JobCall) : Prop where
  applied : ∀ plan startedAt,
    (app.startProvisioningJob H regExp call).2 = .applying plan startedAt →
      ∃ connector approval control report,
        Gate H regExp app call plan connector approval control report
  rejected : (∀ plan startedAt,
    (app.startProvisioningJob H regExp call).2 ≠ .applying plan startedAt) →
      (∀ plan, app.getProvisioningJobByIdempotencyKey call.idempotencyKey = none →
        app.getProvisioningPlan call.planId = some plan → plan.mode = .enforcement →
          ∃ e, (app.startProvisioningJob H regExp call).2 = .settled (.error e)) ∧
      (app.startProvisioningJob H regExp call).1.provisioningPlans = app.provisioningPlans ∧
      (app.startProvisioningJob H regExp call).1.provisioningJobs = app.provisioningJobs

/-- A call names an approver, or fails another check. -/
def Meets (app : ProvisioningApp) (call : JobCall) : Prop :=
  call.approverId = "" → ∀ plan connector approval control report, EnforcementCall app call plan →
    ¬ GatePassed H regExp app call plan connector approval control report

end

section
variable {H : Host} {regExp : String → Option (String → Bool)} {app : ProvisioningApp}
  {call : JobCall}

theorem approvalInForce_of_gatePassed {plan : ProvisioningPlan} {connector : ConnectorAdapter}
    {approval : ProvisioningApproval} {control : EnforcementControl}
    {report : EnforcementReadinessReport} (hcontrolled : plan.approval.isSome)
    (h : GatePassed H regExp app call plan connector approval control report) :
    ApprovalInForce call plan approval := by
  obtain ⟨planned, hplanned⟩ := Option.isSome_iff_exists.1 hcontrolled
  have happroval := h.approvalInForce
  have hmatches := h.matchesPlan
  unfold JobCall.approvalFor at happroval
  cases hjob : call.approval with
  | none =>
    rw [hjob, Option.none_or] at happroval
    exact .ofPlan hjob happroval
  | some given =>
    rw [hjob, Option.some_or, Option.some.injEq] at happroval
    subst happroval
    refine .ofJob hjob hplanned (approval_sameContent ?_)
    by_contra hdiffer
    unfold assertJobControlsMatchPlan at hmatches
    rw [if_pos (by rw [hjob, hplanned]; exact decide_eq_true hdiffer)] at hmatches
    cases hmatches

/-- What the checks of the code come to for a call that names an approver. -/
theorem gate_of_gatePassed {plan : ProvisioningPlan} {connector : ConnectorAdapter}
    {approval : ProvisioningApproval} {control : EnforcementControl}
    {report : EnforcementReadinessReport} (hcontrolled : plan.approval.isSome)
    (happrover : call.approverId ≠ "")
    (h : GatePassed H regExp app call plan connector approval control report) :
    Gate H regExp app call plan connector approval control report where
  registered := h.registered
  provider := h.allowed.control.provider
  tenantBoundary := h.allowed.control.tenantBoundary
  supportsProvisioning := h.allowed.control.supportsProvisioning
  approvalInForce := approvalInForce_of_gatePassed hcontrolled h
  decision := h.allowed.decision
  approverId := h.allowed.approver call.approverId (truthy_eq_some.2 ⟨rfl, happrover⟩)
  approverId_nonempty := happrover
  changeTicket := h.allowed.changeTicket_nonempty
  approvedAt := h.allowed.approvedAt
  expiresAt := h.allowed.expiresAt
  controlInForce := h.controlInForce
  syntheticOnly := h.allowed.control.syntheticOnly
  liveProviderWrites := h.allowed.control.liveProviderWrites
  breakGlass := h.allowed.control.breakGlass
  incidentMode := h.allowed.control.incidentMode
  reported := by
    obtain ⟨id, hid, hreport⟩ := h.reported
    exact ⟨id, (truthy_eq_some.1 hid).1, hreport⟩
  status := h.ready.status
  reportConnector := h.ready.connectorId
  reportProvider := by
    rw [h.ready.provider, h.allowed.control.provider]
    rfl
  reportBoundary := by
    rw [h.ready.tenantBoundary, h.allowed.control.tenantBoundary]
    rfl
  reportControl := control_sameContent (h.ready.control control rfl)
  ticket := h.ready.changeTicket approval rfl

end

/-- **The gate**, in every state of every run. -/
theorem gated_iff (H : Host) (regExp : String → Option (String → Bool)) (app₀ : ProvisioningApp)
    (hseed : Controlled app₀) (calls : List RuntimeCall) (app : ProvisioningApp)
    (slots : List (RuntimeCall × Option RuntimeProgress))
    (h : (runtimeCalls H regExp).Reached (fun _ => True) (fun _ _ => True) app₀ calls app slots)
    (call : JobCall) : Gated H regExp app call ↔ Meets H regExp app call := by
  have hcontrolled := reached_controlled hseed h
  constructor
  · intro hgated hempty plan connector approval control report hcall hgate
    obtain ⟨_, _, _, _, hpassed⟩ := hgated.applied plan app.now
      (startProvisioningJob_applying.2 ⟨rfl, hcall, connector, approval, control, report, hgate⟩)
    exact hpassed.approverId_nonempty hempty
  · intro hmeets
    have hrecords := records_startProvisioningJob H regExp app call
    refine ⟨fun plan startedAt happlying => ?_, fun hnot => ⟨fun plan hfresh hplan hmode => ?_,
      congrArg Records.plans hrecords, congrArg Records.jobs hrecords⟩⟩
    · obtain ⟨-, hcall, connector, approval, control, report, hgate⟩ :=
        startProvisioningJob_applying.1 happlying
      exact ⟨connector, approval, control, report, gate_of_gatePassed
        (hcontrolled _ plan hcall.stored hcall.mode).1
        (fun hempty => hmeets hempty _ _ _ _ _ hcall hgate) hgate⟩
    · rcases startProvisioningJob_enforcement hfresh hplan hmode with herror | happlying
      · exact herror
      · exact absurd happlying (hnot _ _)

/-! ## The counterexample -/

theorem controlled_approvedRuntime : Controlled Mock.approvedRuntime := by
  have hnone : Controlled (Mock.runtime.recordEnforcementReadinessReport Mock.report) :=
    fun id plan hplan => by cases hplan
  have hplan : ControlledPlan Mock.approvedPlan := fun _ => ⟨rfl, rfl⟩
  exact controlled_set hnone hplan rfl

/-- **Counterexample**: the approved plan goes to the connector for a job whose approver
is empty. -/
theorem applied_without_approver : Controlled Mock.approvedRuntime ∧
    ¬ Gated plainHost Mock.ticketRegExp Mock.approvedRuntime (Mock.jobCall "" "key:1") := by
  refine ⟨controlled_approvedRuntime, fun hgated => ?_⟩
  have happlying := Mock.startProvisioningJob_approved rfl rfl (.inr rfl)
    (show Mock.approvedRuntime.getProvisioningJobByIdempotencyKey "key:1" = none from rfl)
    Mock.getProvisioningPlan_approvedRuntime
  obtain ⟨_, _, _, _, hgate⟩ := hgated.applied _ _ happlying
  exact hgate.approverId_nonempty rfl

/-- While a call for the plan waits for the connector and the clock was read, another call of
the approver of the plan is let through. -/
theorem gated_approver : ∃ app slots,
    (runtimeCalls plainHost Mock.ticketRegExp).Reached (fun _ => True) (fun _ _ => True)
      Mock.approvedRuntime [.job (Mock.jobCall "user:approver" "key:1"), .now] app slots ∧
    (app.startProvisioningJob plainHost Mock.ticketRegExp (Mock.jobCall "user:approver" "key:2")).2 =
      .applying Mock.approvedPlan app.now ∧
    Gated plainHost Mock.ticketRegExp app (Mock.jobCall "user:approver" "key:2") := by
  have hinitial : (runtimeCalls plainHost Mock.ticketRegExp).Reached (fun _ => True)
      (fun _ _ => True) Mock.approvedRuntime
      [.job (Mock.jobCall "user:approver" "key:1"), .now] Mock.approvedRuntime
      [(.job (Mock.jobCall "user:approver" "key:1"), none), (.now, none)] := .initial
  have hreached := (Calls.Reached.started [] [_] hinitial trivial).started [_] [] trivial
  refine ⟨_, _, hreached, ?_, (gated_iff plainHost Mock.ticketRegExp Mock.approvedRuntime
    controlled_approvedRuntime _ _ _ hreached _).2 fun hempty => absurd hempty (by decide)⟩
  have hrecords := records_startProvisioningJob plainHost Mock.ticketRegExp Mock.approvedRuntime
    (Mock.jobCall "user:approver" "key:1")
  exact Mock.startProvisioningJob_records hrecords (.inl rfl) "key:2"

end AccessKit.Bugs.EmptyApprover
