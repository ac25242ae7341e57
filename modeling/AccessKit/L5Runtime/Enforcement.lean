import AccessKit.Core.OrderedMap
import AccessKit.L2Audit.Records
import AccessKit.L5Runtime.AuditLog
import AccessKit.L5Runtime.Policies
import AccessKit.L5Runtime.Provisioning

/-!
# The gate of controlled enforcement

packages/api/src/runtime-enforcement.ts and runtime-provisioning.ts: what is checked
before a provider is written to. The plans, jobs and readiness reports of a runtime,
its connectors, its audit recorder and its clock are the state; what
`new RegExp(pattern)` gives is a parameter, `none` when it throws.

Results:
* `controlledEnforcementAllowed_ok`, `enforcementReadiness_ok`: what passes each
  check.
* `approval_sameContent`, `control_sameContent`: two approvals, or two control
  settings, with one text are the same but for the order.
-/
namespace AccessKit.L5
open AccessKit.Core AccessKit.L1 AccessKit.L2.Audit AccessKit.L3

/-- What a call of the runtime throws: an error of its own, or any other. -/
inductive RuntimeError
  | app (error : RebacLocalAppError)
  | other (message : String)
  deriving DecidableEq, Repr

/-- mirrors packages/core/src/domain/connector.ts:66-74 -/
structure ConnectorCapabilities where
  supportsDiscovery : Bool
  supportsProvisioning : Bool
  supportsReconciliation : Bool
  supportsDirectPermissions : Bool
  supportsInheritedPermissions : Bool
  supportsExternalUsers : Bool
  supportsTimeBoundAccess : Bool
  deriving DecidableEq, Repr

/-- What a connector says of itself; what its methods answer comes with each call.
mirrors packages/core/src/domain/connector.ts:136-142 -/
structure ConnectorAdapter where
  id : String
  capabilities : ConnectorCapabilities
  provider : Option String := none
  tenantBoundary : Option String := none
  deriving DecidableEq, Repr

/-- mirrors packages/api/src/runtime-enforcement.ts:19-24 -/
structure ProvisioningExecutionOptions where
  mode : Option ProvisioningMode := none
  approval : Option ProvisioningApproval := none
  control : Option EnforcementControl := none
  readinessReportId : Option CanonicalId := none

/-- The provisioning part of a runtime. `clock n` is what `now` returns the `n`-th
time. -/
structure ProvisioningApp where
  connectors : OrderedMap String ConnectorAdapter
  provisioningPlans : OrderedMap CanonicalId ProvisioningPlan
  provisioningJobs : OrderedMap CanonicalId ProvisioningJob
  enforcementReadinessReports : OrderedMap CanonicalId EnforcementReadinessReport
  auditRecorder : AuditRecorder
  actor : CanonicalId
  clock : Nat → IsoDateTime
  ticks : Nat
  plan_id : ∀ id p, provisioningPlans.get? id = some p → p.id = id
  job_id : ∀ id j, provisioningJobs.get? id = some j → j.id = id

/-! ## Change tickets -/

/-- `/\\[1-9]/.test(pattern)` -/
def hasBackreference : List Char → Bool
  | '\\' :: c :: l => ('1' ≤ c && c ≤ '9') || hasBackreference (c :: l)
  | _ :: l => hasBackreference l
  | [] => false

/-- mirrors packages/api/src/runtime-provisioning.ts:4-15 -/
def isSafeChangeTicketPattern (regExp : String → Option (String → Bool)) (pattern : String) : Bool :=
  !((utf16 pattern).length > 128 || pattern.toList.any "()|".toList.contains ||
    hasBackreference pattern.toList) && (regExp pattern).isSome

/-- mirrors packages/api/src/runtime-provisioning.ts:17-27 -/
def changeTicketMatches (regExp : String → Option (String → Bool)) (pattern value : String) : Bool :=
  if !isSafeChangeTicketPattern regExp pattern || (utf16 value).length > 256 then false
  else match regExp pattern with
    | some test => test value
    | none => false

namespace ProvisioningApp

section
variable (app : ProvisioningApp)

/-! ## The state -/

/-- `app.now()` -/
def now : IsoDateTime := app.clock app.ticks

/-- The runtime after it asked for the time. -/
def tick : ProvisioningApp := { app with ticks := app.ticks + 1 }

def getProvisioningPlan (id : CanonicalId) : Option ProvisioningPlan := app.provisioningPlans.get? id

def getProvisioningJob (id : CanonicalId) : Option ProvisioningJob := app.provisioningJobs.get? id

/-- mirrors packages/core/src/store.ts:336-338 -/
def getProvisioningPlanByIdempotencyKey (key : String) : Option ProvisioningPlan :=
  app.provisioningPlans.values.find? fun plan => plan.idempotencyKey = some key

/-- mirrors packages/core/src/store.ts:349-351 -/
def getProvisioningJobByIdempotencyKey (key : String) : Option ProvisioningJob :=
  app.provisioningJobs.values.find? fun job => job.idempotencyKey = key

/-- mirrors packages/core/src/store.ts:340-343 -/
def upsertProvisioningPlan (plan : ProvisioningPlan) : ProvisioningApp :=
  { app with
    provisioningPlans := app.provisioningPlans.set plan.id plan
    plan_id := fun id p h => by
      rw [OrderedMap.get?_set] at h
      split at h
      · cases h; assumption
      · exact app.plan_id id p h }

/-- mirrors packages/core/src/store.ts:357-360 -/
def upsertProvisioningJob (job : ProvisioningJob) : ProvisioningApp :=
  { app with
    provisioningJobs := app.provisioningJobs.set job.id job
    job_id := fun id j h => by
      rw [OrderedMap.get?_set] at h
      split at h
      · cases h; assumption
      · exact app.job_id id j h }

/-- Record an event for the caller of the request, at the time that it is.
mirrors packages/api/src/runtime-state.ts:42-51 -/
def recordAudit (H : Host) (requestActor : Option CanonicalId) (input : AuditEventInput) :
    ProvisioningApp × AuditEvent :=
  let input := RebacLocalApp.attributed input requestActor
  ({ app with
      auditRecorder := app.auditRecorder.record H input app.now
      ticks := app.ticks + 1 },
    app.auditRecorder.next H input app.now)

/-- Record one event after the other, with the ids of the events. -/
def recordAll (H : Host) (requestActor : Option CanonicalId) :
    List AuditEventInput → ProvisioningApp → ProvisioningApp × List CanonicalId
  | [], app => (app, [])
  | input :: inputs, app =>
    let (app, event) := app.recordAudit H requestActor input
    let (app, ids) := recordAll H requestActor inputs app
    (app, event.eventId :: ids)

/-! ## The checks -/

/-- A refusal of the gate. -/
def refusal (statusCode : Nat) (code message : String) : RuntimeError :=
  .app { statusCode, code, message }

def approvalTimestampInvalid : RuntimeError :=
  refusal 400 "CONTROLLED_ENFORCEMENT_APPROVAL_INVALID"
    "Controlled enforcement approval timestamps must be valid date-times."

/-- The check of the expiry, at a time.
mirrors packages/api/src/runtime-enforcement.ts:489-508 -/
def assertNotExpired (H : Host) (expiresAt : IsoDateTime) (now : IsoDateTime) :
    Except RuntimeError Unit :=
  match dateParse H expiresAt, dateParse H now with
  | some expiresAt, some now =>
    if expiresAt ≤ now then
      .error (refusal 400 "CONTROLLED_ENFORCEMENT_APPROVAL_EXPIRED"
        "Controlled enforcement approval has expired.")
    else .ok ()
  | _, _ => .error approvalTimestampInvalid

/-- mirrors packages/api/src/runtime-enforcement.ts:510-536 -/
def assertControlAllowed (connector : ConnectorAdapter) (control : EnforcementControl) :
    Except RuntimeError Unit :=
  if !control.syntheticOnly || control.liveProviderWrites || control.breakGlass then
    .error (refusal 403 "CONTROLLED_ENFORCEMENT_GUARDRAIL_REQUIRED"
      "Phase 4 enforcement must be synthetic-only, must not allow live provider writes, and must not use break-glass.")
  else if control.incidentMode then
    .error (refusal 409 "CONTROLLED_ENFORCEMENT_INCIDENT_MODE_BLOCKED"
      "Controlled enforcement is blocked while incident mode is active.")
  else if !connector.capabilities.supportsProvisioning then
    .error (refusal 403 "CONNECTOR_ENFORCEMENT_DISABLED"
      (connector.id ++ " does not support provisioning."))
  else if connector.provider ≠ some "mock" ∨ connector.tenantBoundary ≠ some "synthetic:local" then
    .error (refusal 403 "CONNECTOR_ENFORCEMENT_NOT_ALLOWED"
      "Phase 4 controlled enforcement is limited to the synthetic mock connector.")
  else .ok ()

/-- The approval of the job is compared with its approver only when there is one. The
time is asked for when the approval expires.
mirrors packages/api/src/runtime-enforcement.ts:442-537 -/
def assertControlledEnforcementAllowed (H : Host) (connector : ConnectorAdapter)
    (approval : Option ProvisioningApproval) (control : Option EnforcementControl)
    (approverId : Option CanonicalId) : ProvisioningApp × Except RuntimeError Unit :=
  match approval, control with
  | none, _ =>
    (app, .error (refusal 400 "CONTROLLED_ENFORCEMENT_APPROVAL_REQUIRED"
      "Controlled enforcement requires an approved change ticket."))
  | some _, none =>
    (app, .error (refusal 400 "CONTROLLED_ENFORCEMENT_CONTROL_REQUIRED"
      "Controlled enforcement requires explicit synthetic-only control settings."))
  | some approval, some control =>
    if approval.decision ≠ "approved" ∨ approval.approverId = "" ∨ approval.changeTicket = "" ∨
        approval.approvedAt = "" then
      (app, .error (refusal 400 "CONTROLLED_ENFORCEMENT_APPROVAL_INVALID"
        "Controlled enforcement approval must include decision, approverId, changeTicket, and approvedAt."))
    else if (truthy approverId).any (approval.approverId ≠ ·) then
      (app, .error (refusal 400 "CONTROLLED_ENFORCEMENT_APPROVER_MISMATCH"
        "The job approverId must match the approved change ticket."))
    else if dateParse H approval.approvedAt = none then
      (app, .error approvalTimestampInvalid)
    else
      match approval.expiresAt with
      | none => (app, assertControlAllowed connector control)
      | some expiresAt =>
        (app.tick, do
          assertNotExpired H expiresAt app.now
          assertControlAllowed connector control)

/-- mirrors packages/api/src/runtime-enforcement.ts:371-440 -/
def assertEnforcementReadiness (regExp : String → Option (String → Bool))
    (connector : ConnectorAdapter) (connectorId : String) (readinessReportId : Option CanonicalId)
    (approval : Option ProvisioningApproval) (control : Option EnforcementControl) :
    Except RuntimeError Unit :=
  match truthy readinessReportId with
  | none =>
    .error (refusal 400 "ENFORCEMENT_READINESS_REQUIRED"
      "Controlled enforcement requires a ready connector readiness report.")
  | some readinessReportId =>
    match app.enforcementReadinessReports.get? readinessReportId with
    | none =>
      .error (refusal 400 "ENFORCEMENT_READINESS_NOT_FOUND"
        ("Readiness report " ++ readinessReportId ++ " was not found."))
    | some report =>
      if report.connectorId ≠ connectorId then
        .error (refusal 400 "ENFORCEMENT_READINESS_CONNECTOR_MISMATCH"
          "The readiness report connector must match the provisioning connector.")
      else if report.provider ≠ connector.provider.getD connector.id ∨
          report.tenantBoundary ≠ connector.tenantBoundary.getD "synthetic:unknown" then
        .error (refusal 400 "ENFORCEMENT_READINESS_BOUNDARY_MISMATCH"
          "The readiness report provider boundary must match the current connector registration.")
      else if report.status ≠ .ready then
        .error (refusal 403 "ENFORCEMENT_READINESS_BLOCKED"
          "The connector readiness report is blocked and cannot authorize controlled enforcement.")
      else if report.liveProviderWritesAllowed then
        .error (refusal 403 "ENFORCEMENT_READINESS_LIVE_WRITES_BLOCKED"
          "Phase 4 readiness reports must not allow live provider writes.")
      else if control.any (report.control.properties ≠ ·.properties) then
        .error (refusal 400 "ENFORCEMENT_READINESS_CONTROL_MISMATCH"
          "The readiness report controls must match the provisioning controls.")
      else if approval.any (!changeTicketMatches regExp report.changeTicketPattern ·.changeTicket) then
        .error (refusal 400 "ENFORCEMENT_READINESS_CHANGE_TICKET_MISMATCH"
          "The approval change ticket must match the readiness report change-ticket pattern.")
      else .ok ()

end

/-! ## What passes -/

/-- What is asked of the control settings and of the connector. -/
structure ControlAllowed (connector : ConnectorAdapter) (control : EnforcementControl) : Prop where
  syntheticOnly : control.syntheticOnly = true
  liveProviderWrites : control.liveProviderWrites = false
  breakGlass : control.breakGlass = false
  incidentMode : control.incidentMode = false
  supportsProvisioning : connector.capabilities.supportsProvisioning = true
  provider : connector.provider = some "mock"
  tenantBoundary : connector.tenantBoundary = some "synthetic:local"

/-- An expiry is after a time, and both are times. -/
def NotExpired (H : Host) (expiresAt now : IsoDateTime) : Prop :=
  ∃ expiry time, dateParse H expiresAt = some expiry ∧ dateParse H now = some time ∧ time < expiry

/-- What the first check asks, at a time. -/
structure EnforcementAllowed (H : Host) (connector : ConnectorAdapter)
    (approval : ProvisioningApproval) (control : EnforcementControl)
    (approverId : Option CanonicalId) (now : IsoDateTime) : Prop where
  decision : approval.decision = "approved"
  approverId_nonempty : approval.approverId ≠ ""
  changeTicket_nonempty : approval.changeTicket ≠ ""
  approvedAt_nonempty : approval.approvedAt ≠ ""
  approver : ∀ id, truthy approverId = some id → approval.approverId = id
  approvedAt : dateParse H approval.approvedAt ≠ none
  expiresAt : ∀ expiresAt, approval.expiresAt = some expiresAt → NotExpired H expiresAt now
  control : ControlAllowed connector control

/-- What the second check asks of a report. -/
structure Ready (regExp : String → Option (String → Bool)) (connector : ConnectorAdapter)
    (connectorId : String) (approval : Option ProvisioningApproval)
    (control : Option EnforcementControl) (report : EnforcementReadinessReport) : Prop where
  connectorId : report.connectorId = connectorId
  provider : report.provider = connector.provider.getD connector.id
  tenantBoundary : report.tenantBoundary = connector.tenantBoundary.getD "synthetic:unknown"
  status : report.status = .ready
  liveProviderWritesAllowed : report.liveProviderWritesAllowed = false
  control : ∀ c, control = some c → report.control.properties = c.properties
  changeTicket : ∀ a, approval = some a →
    changeTicketMatches regExp report.changeTicketPattern a.changeTicket = true

theorem assertNotExpired_ok {H : Host} {expiresAt now : IsoDateTime} :
    assertNotExpired H expiresAt now = .ok () ↔ NotExpired H expiresAt now := by
  unfold assertNotExpired NotExpired
  cases dateParse H expiresAt with
  | none => simp
  | some expiry =>
    cases dateParse H now with
    | none => simp
    | some time =>
      by_cases h : expiry ≤ time
      · simp [h]
      · have hlt : time < expiry := by omega
        simp [h, hlt]

theorem assertControlAllowed_ok {connector : ConnectorAdapter} {control : EnforcementControl} :
    assertControlAllowed connector control = .ok () ↔ ControlAllowed connector control := by
  unfold assertControlAllowed
  split
  · rename_i h
    exact ⟨nofun, fun ⟨hs, hl, hb, _, _, _, _⟩ => by simp [hs, hl, hb] at h⟩
  · split
    · rename_i h
      exact ⟨nofun, fun hall => by simp [hall.incidentMode] at h⟩
    · split
      · rename_i h
        exact ⟨nofun, fun hall => by simp [hall.supportsProvisioning] at h⟩
      · split
        · rename_i h
          exact ⟨nofun, fun hall => by simp [hall.provider, hall.tenantBoundary] at h⟩
        · simp_all only [Bool.or_eq_true, Bool.not_eq_true', not_or, Bool.not_eq_true,
            Bool.not_eq_false, ne_eq, not_not, true_iff]
          constructor <;> tauto

theorem controlledEnforcementAllowed_ok {H : Host} {app : ProvisioningApp}
    {connector : ConnectorAdapter} {approval : Option ProvisioningApproval}
    {control : Option EnforcementControl} {approverId : Option CanonicalId} :
    (app.assertControlledEnforcementAllowed H connector approval control approverId).2 = .ok () ↔
      ∃ a c, approval = some a ∧ control = some c ∧
        EnforcementAllowed H connector a c approverId app.now := by
  unfold assertControlledEnforcementAllowed
  cases approval with
  | none =>
    constructor
    · intro hok
      cases hok
    · rintro ⟨_, _, h, _⟩
      cases h
  | some approval =>
    cases control with
    | none =>
      constructor
      · intro hok
        cases hok
      · rintro ⟨_, _, _, h, _⟩
        cases h
    | some control =>
      simp only [Option.some.injEq, exists_and_left, exists_eq_left']
      split
      · rename_i h
        refine ⟨fun hok => (by cases hok), fun hall => ?_⟩
        rcases h with h | h | h | h
        · exact absurd hall.decision h
        · exact absurd h hall.approverId_nonempty
        · exact absurd h hall.changeTicket_nonempty
        · exact absurd h hall.approvedAt_nonempty
      · rename_i hfields
        simp only [not_or, ne_eq, not_not] at hfields
        obtain ⟨hdecision, hid, hticket, hat⟩ := hfields
        split
        · rename_i h
          refine ⟨fun hok => (by cases hok), fun hall => ?_⟩
          obtain ⟨id, hid, hne⟩ := (Option.any_eq_true _ _).1 h
          exact absurd (hall.approver id hid) (of_decide_eq_true hne)
        · rename_i h
          have happrover : ∀ id, truthy approverId = some id → approval.approverId = id := by
            intro id hid
            by_contra hne
            exact h ((Option.any_eq_true _ _).2 ⟨id, hid, decide_eq_true hne⟩)
          split
          · rename_i h
            exact ⟨fun hok => (by cases hok), fun hall => absurd h hall.approvedAt⟩
          · rename_i happrovedAt
            have hrest : EnforcementAllowed H connector approval control approverId app.now ↔
                (∀ e, approval.expiresAt = some e → NotExpired H e app.now) ∧
                  ControlAllowed connector control := by
              constructor
              · exact fun hall => ⟨hall.expiresAt, hall.control⟩
              · rintro ⟨hexpires, hcontrol⟩
                exact ⟨hdecision, hid, hticket, hat, happrover, happrovedAt, hexpires, hcontrol⟩
            cases hexpires : approval.expiresAt with
            | none => rw [assertControlAllowed_ok, hrest]; simp [hexpires]
            | some expiresAt =>
              rw [seq_ok, assertNotExpired_ok, assertControlAllowed_ok, hrest]
              simp [hexpires]

theorem enforcementReadiness_ok {app : ProvisioningApp} {regExp : String → Option (String → Bool)}
    {connector : ConnectorAdapter} {connectorId : String} {readinessReportId : Option CanonicalId}
    {approval : Option ProvisioningApproval} {control : Option EnforcementControl} :
    app.assertEnforcementReadiness regExp connector connectorId readinessReportId approval control =
        .ok () ↔
      ∃ id report, truthy readinessReportId = some id ∧
        app.enforcementReadinessReports.get? id = some report ∧
        Ready regExp connector connectorId approval control report := by
  unfold assertEnforcementReadiness
  cases hid : truthy readinessReportId with
  | none => simp
  | some id =>
    simp only [Option.some.injEq, exists_and_left, exists_eq_left']
    cases hreport : app.enforcementReadinessReports.get? id with
    | none => simp
    | some report =>
      simp only [Option.some.injEq, exists_eq_left']
      split
      · rename_i h
        exact ⟨fun hok => (by cases hok), fun hall => absurd hall.connectorId h⟩
      · rename_i hconnector
        split
        · rename_i h
          exact ⟨fun hok => (by cases hok), fun hall => h.elim (absurd hall.provider) (absurd hall.tenantBoundary)⟩
        · rename_i hboundary
          simp only [ne_eq, not_or, not_not] at hconnector hboundary
          split
          · rename_i h
            exact ⟨fun hok => (by cases hok), fun hall => absurd hall.status h⟩
          · rename_i hstatus
            split
            · rename_i h
              exact ⟨fun hok => (by cases hok), fun hall => absurd (h.symm.trans hall.liveProviderWritesAllowed) (by decide)⟩
            · rename_i hlive
              simp only [ne_eq, not_not, Bool.not_eq_true] at hstatus hlive
              split
              · rename_i h
                refine ⟨fun hok => (by cases hok), fun hall => ?_⟩
                obtain ⟨c, hc, hne⟩ := (Option.any_eq_true _ _).1 h
                exact absurd (hall.control c hc) (of_decide_eq_true hne)
              · rename_i hcontrol
                split
                · rename_i h
                  refine ⟨fun hok => (by cases hok), fun hall => ?_⟩
                  obtain ⟨a, ha, hne⟩ := (Option.any_eq_true _ _).1 h
                  simp [hall.changeTicket a ha] at hne
                · rename_i hticket
                  refine ⟨fun _ => ⟨hconnector, hboundary.1, hboundary.2, hstatus, hlive,
                    fun c hc => ?_, fun a ha => ?_⟩, fun _ => rfl⟩
                  · by_contra hne
                    exact hcontrol ((Option.any_eq_true _ _).2 ⟨c, hc, decide_eq_true hne⟩)
                  · by_contra hne
                    exact hticket ((Option.any_eq_true _ _).2 ⟨a, ha, by simp [hne]⟩)

/-! ## What the checks leave alone -/

/-- What the requests of a runtime read and write, without its log and how often it asked
for the time. -/
structure Records where
  connectors : OrderedMap String ConnectorAdapter
  plans : OrderedMap CanonicalId ProvisioningPlan
  jobs : OrderedMap CanonicalId ProvisioningJob
  reports : OrderedMap CanonicalId EnforcementReadinessReport
  actor : CanonicalId
  clock : Nat → IsoDateTime

def records (app : ProvisioningApp) : Records where
  connectors := app.connectors
  plans := app.provisioningPlans
  jobs := app.provisioningJobs
  reports := app.enforcementReadinessReports
  actor := app.actor
  clock := app.clock

theorem getProvisioningJobByIdempotencyKey_congr {app app' : ProvisioningApp}
    (h : app'.provisioningJobs = app.provisioningJobs) (key : String) :
    app'.getProvisioningJobByIdempotencyKey key = app.getProvisioningJobByIdempotencyKey key := by
  unfold getProvisioningJobByIdempotencyKey
  rw [h]

@[simp] theorem records_tick (app : ProvisioningApp) : app.tick.records = app.records := rfl

@[simp] theorem records_recordAudit (app : ProvisioningApp) (H : Host)
    (requestActor : Option CanonicalId) (input : AuditEventInput) :
    (app.recordAudit H requestActor input).1.records = app.records := rfl

@[simp] theorem records_recordAll (H : Host) (requestActor : Option CanonicalId)
    (inputs : List AuditEventInput) (app : ProvisioningApp) :
    (recordAll H requestActor inputs app).1.records = app.records := by
  induction inputs generalizing app with
  | nil => rfl
  | cons input inputs ih => exact ih _

@[simp] theorem records_upsertProvisioningPlan (app : ProvisioningApp) (plan : ProvisioningPlan) :
    (app.upsertProvisioningPlan plan).records =
      { app.records with plans := app.provisioningPlans.set plan.id plan } := rfl

@[simp] theorem records_upsertProvisioningJob (app : ProvisioningApp) (job : ProvisioningJob) :
    (app.upsertProvisioningJob job).records =
      { app.records with jobs := app.provisioningJobs.set job.id job } := rfl

@[simp] theorem records_controlledEnforcementAllowed (app : ProvisioningApp) (H : Host)
    (connector : ConnectorAdapter) (approval : Option ProvisioningApproval)
    (control : Option EnforcementControl) (approverId : Option CanonicalId) :
    (app.assertControlledEnforcementAllowed H connector approval control approverId).1.records =
      app.records := by
  unfold assertControlledEnforcementAllowed
  cases approval with
  | none => rfl
  | some approval =>
    cases control with
    | none => rfl
    | some control =>
      dsimp only
      split
      · rfl
      · split
        · rfl
        · split
          · rfl
          · split <;> rfl

end ProvisioningApp

/-- The two texts of something that both have differ. -/
def differ {α β : Type} [DecidableEq β] (text : α → β) (a b : Option α) : Bool :=
  match a, b with
  | some a, some b => text a ≠ text b
  | _, _ => false

/-- mirrors packages/api/src/runtime-enforcement.ts:539-559 -/
def assertJobControlsMatchPlan (plan : ProvisioningPlan) (approval : Option ProvisioningApproval)
    (control : Option EnforcementControl) : Except RuntimeError Unit :=
  if differ ProvisioningApproval.properties approval plan.approval then
    .error (ProvisioningApp.refusal 400 "CONTROLLED_ENFORCEMENT_APPROVAL_MISMATCH"
      "The job approval must match the approved provisioning plan.")
  else if differ EnforcementControl.properties control plan.control then
    .error (ProvisioningApp.refusal 400 "CONTROLLED_ENFORCEMENT_CONTROL_MISMATCH"
      "The job control settings must match the approved provisioning plan.")
  else .ok ()

/-! ## Texts -/

theorem mem_properties {α : Type} (property : String → Option α) (order : List String) (k : String)
    (v : α) : (k, v) ∈ order.filterMap (fun k => (property k).map (k, ·)) ↔
      k ∈ order ∧ property k = some v := by
  simp only [List.mem_filterMap, Option.map_eq_some_iff, Prod.mk.injEq]
  constructor
  · intro ⟨k', hk, v', hv, h1, h2⟩
    exact ⟨h1 ▸ hk, h1 ▸ h2 ▸ hv⟩
  · intro ⟨hk, hv⟩
    exact ⟨k, hk, v, hv, rfl, rfl⟩

theorem property_eq {α : Type} {p q : String → Option α} {order order' : List String}
    {keys : List String} (horder : order.Perm keys) (horder' : order'.Perm keys)
    (h : order.filterMap (fun k => (p k).map (k, ·)) =
      order'.filterMap (fun k => (q k).map (k, ·))) {k : String} (hk : k ∈ keys) : p k = q k := by
  apply Option.ext
  intro v
  have hp := mem_properties p order k v
  have hq := mem_properties q order' k v
  rw [h, hq] at hp
  simpa [horder.mem_iff.2 hk, horder'.mem_iff.2 hk, eq_comm] using hp.symm

/-- **One text, one content**: approvals differ in the order of their properties at
most. -/
theorem approval_sameContent {a b : ProvisioningApproval} (h : a.properties = b.properties) :
    { a with order := b.order, order_perm := b.order_perm } = b := by
  have hkey : ∀ k ∈ ["decision", "approverId", "changeTicket", "approvedAt", "expiresAt", "reason"],
      a.property k = b.property k := fun k hk => property_eq a.order_perm b.order_perm h hk
  have hdecision := hkey "decision" (by simp)
  have happrover := hkey "approverId" (by simp)
  have hticket := hkey "changeTicket" (by simp)
  have hat := hkey "approvedAt" (by simp)
  have hexpires := hkey "expiresAt" (by simp)
  have hreason := hkey "reason" (by simp)
  simp only [ProvisioningApproval.property, Option.some.injEq] at *
  cases a; cases b
  simp_all

theorem control_sameContent {a b : EnforcementControl} (h : a.properties = b.properties) :
    { a with order := b.order, order_perm := b.order_perm } = b := by
  have hkey : ∀ k ∈ ["syntheticOnly", "liveProviderWrites", "incidentMode", "breakGlass"],
      a.property k = b.property k := fun k hk => property_eq a.order_perm b.order_perm h hk
  have hsynthetic := hkey "syntheticOnly" (by simp)
  have hlive := hkey "liveProviderWrites" (by simp)
  have hincident := hkey "incidentMode" (by simp)
  have hbreak := hkey "breakGlass" (by simp)
  simp only [EnforcementControl.property, Option.some.injEq] at *
  cases a; cases b
  simp_all

end AccessKit.L5
