import AccessKit.L5Runtime.Plans

/-!
# Provisioning jobs

packages/api/src/runtime-jobs.ts:145-303, 372-413 and runtime-enforcement.ts:180-242,
578-707. A call is looked up by its idempotency key. For a dry run it waits for the
connector's verification; for controlled enforcement it passes the gate, has the
connector apply the plan and then verify it. `startProvisioningJob` is what runs before
the call waits for the first time, `resumeProvisioningJob` what runs each time it goes
on; `createProvisioningJob` is a call that nothing comes between.

Results:
* `startProvisioningJob_applying`: the connector is only asked to apply a plan that
  passed every check, at that time.
* `resumeProvisioningJob_step`: what each part of a call does and stores, as the cases
  of `JobStep`.
* `createProvisioningJob_run`: a call that nothing comes between comes to an end, and
  what it leaves, as the cases of `JobRun`.
-/
namespace AccessKit.L5
open AccessKit.Core AccessKit.L1 AccessKit.L2.Audit AccessKit.L3

/-- A call of `createProvisioningJob`, with the actor of the request that makes it.
mirrors packages/api/src/runtime-jobs.ts:145-155 -/
structure JobCall where
  planId : CanonicalId
  approverId : CanonicalId
  idempotencyKey : String
  mode : Option ProvisioningMode := none
  approval : Option ProvisioningApproval := none
  control : Option EnforcementControl := none
  requestActor : Option CanonicalId := none

/-- What the connector answers: the plan it applied and whether it could verify it. -/
structure JobAnswers where
  applied : Except RuntimeError ProvisioningPlan
  verified : Except RuntimeError Bool

/-- Where a call for a job is: it waits for its connector, or it is over. A verified
dry run waits for nothing, but other calls may run before it goes on. -/
inductive JobProgress
  | verifyingDryRun (plan : ProvisioningPlan) (startedAt : IsoDateTime)
  | verifiedDryRun (plan : ProvisioningPlan) (startedAt : IsoDateTime)
      (verification : ProvisioningVerification)
  | applying (plan : ProvisioningPlan) (startedAt : IsoDateTime)
  | verifying (plan : ProvisioningPlan) (startedAt : IsoDateTime) (appliedPlan : ProvisioningPlan)
      (completedAt : IsoDateTime)
  | settled (result : Except RuntimeError (Option ProvisioningJob))

/-- The plan that a call holds while it waits. -/
def JobProgress.plan? : JobProgress → Option ProvisioningPlan
  | .verifyingDryRun plan _ => some plan
  | .verifiedDryRun plan _ _ => some plan
  | .applying plan _ => some plan
  | .verifying plan _ _ _ => some plan
  | .settled _ => none

/-! ## Verifications -/

/-- A number of actions. -/
def count (n : Nat) : JsValue := .num (.fin n)

/-- mirrors packages/api/src/runtime-jobs.ts:372-413 -/
def dryRunVerification (plan : ProvisioningPlan) (verified : Bool) (checkedAt : IsoDateTime) :
    ProvisioningVerification where
  status := if verified then .verified else .skipped
  method := "connector.verifyProvisioningChange"
  expectedState := [("planId", .str plan.id), ("actionCount", count plan.actions.length)]
  readbackState := some [("dryRun", .bool true), ("providerWrite", .bool false),
    ("verificationHook", .bool verified)]
  checkedAt := some checkedAt
  message := some (if verified then
    "Dry-run verification hook completed without provider mutation."
    else "Connector did not provide positive dry-run verification; provider write remains skipped.")

/-- mirrors packages/api/src/runtime-enforcement.ts:657-707 -/
def enforcementVerification (plan : ProvisioningPlan) (verified : Bool) (checkedAt : IsoDateTime) :
    ProvisioningVerification where
  status := if verified then .verified else .failed
  method := "connector.verifyProvisioningChange"
  expectedState := [("planId", .str plan.id), ("actionCount", count plan.actions.length),
    ("mode", .str "enforcement")]
  readbackState := some [("dryRun", .bool false), ("providerWrite", .bool false),
    ("syntheticProviderWrite", .bool verified), ("liveProviderWrite", .bool false),
    ("verificationHook", .bool verified)]
  checkedAt := some checkedAt
  message := some (if verified then
    "Controlled synthetic enforcement verified; no live provider mutation occurred."
    else "Controlled enforcement verification failed; compensation must be reviewed before retry.")

/-- The result of an action, of a job whose plan came to a verification. -/
def actionResult (status : ProvisioningStepStatus) (dryRun : Bool) (message : String)
    (verification : ProvisioningVerification) (action : ProvisioningAction) :
    ProvisioningActionResult where
  actionId := action.actionId
  operation := action.operation
  status
  dryRun
  idempotencyKey := action.idempotencyKey
  message
  verification := { action.verification with
    status := verification.status
    readbackState := verification.readbackState
    checkedAt := verification.checkedAt
    message := verification.message }
  compensation := action.compensation

/-! ## The jobs -/

section
variable (H : Host) (call : JobCall) (plan : ProvisioningPlan) (startedAt : IsoDateTime)

/-- mirrors packages/api/src/runtime-jobs.ts:178 -/
def JobCall.jobId : CanonicalId :=
  "job:" ++ sliceTo 24 (sha256 H
    (.obj [("planId", .str call.planId), ("idempotencyKey", .str call.idempotencyKey)]))

/-- The approval in force.
mirrors packages/api/src/runtime-enforcement.ts:187 -/
def JobCall.approvalFor : Option ProvisioningApproval := call.approval.or plan.approval

/-- The control in force.
mirrors packages/api/src/runtime-enforcement.ts:188 -/
def JobCall.controlFor : Option EnforcementControl := call.control.or plan.control

/-- mirrors packages/api/src/runtime-jobs.ts:195-227 -/
def dryRunJob (verification : ProvisioningVerification) (completedAt : IsoDateTime) :
    ProvisioningJob where
  id := call.jobId H
  planId := plan.id
  connectorId := plan.connectorId
  mode := .dryRun
  dryRun := true
  status := .completed
  approverId := call.approverId
  idempotencyKey := call.idempotencyKey
  actionResults := plan.actions.map
    (actionResult .skipped true "Dry-run only: provider write was not executed." verification)
  verification
  auditEventIds := []
  version := "provisioning-job:v1"
  createdAt := startedAt
  startedAt
  completedAt := some completedAt

/-- mirrors packages/api/src/runtime-jobs.ts:229-269 -/
def buildDryRunJobAuditInputs (actor : CanonicalId) (job : ProvisioningJob) :
    List AuditEventInput :=
  job.actionResults.map (fun result =>
    planEvent actor plan "provisioning.skipped"
      ("corr:" ++ job.id ++ ":" ++ result.actionId ++ ":skipped")
      [("jobId", .str job.id), ("planId", .str plan.id), ("actionId", .str result.actionId),
        ("operation", .str result.operation.name), ("dryRun", .bool true),
        ("reason", .str result.message), ("providerWrite", .bool false)]) ++
  [planEvent actor plan "provisioning.verified" ("corr:" ++ job.id ++ ":verified")
      [("jobId", .str job.id), ("planId", .str plan.id), ("connectorId", .str plan.connectorId),
        ("verification", job.verification.toJs)],
    planEvent actor plan "provisioning.completed" ("corr:" ++ job.id ++ ":completed") job.toJs]

/-- The connector applied the plan and could verify it.
mirrors packages/api/src/runtime-enforcement.ts:195 -/
def completed (appliedPlan : ProvisioningPlan) (verified : Bool) : Bool :=
  appliedPlan.status = .applied && verified

/-- mirrors packages/api/src/runtime-enforcement.ts:196-232 -/
def enforcementJob (completed : Bool) (verification : ProvisioningVerification)
    (completedAt : IsoDateTime) : ProvisioningJob where
  id := call.jobId H
  planId := plan.id
  connectorId := plan.connectorId
  mode := .enforcement
  dryRun := false
  status := if completed then .completed else .failed
  approverId := call.approverId
  idempotencyKey := call.idempotencyKey
  actionResults := plan.actions.map
    (actionResult (if completed then .applied else .failed) false
      (if completed then
        "Controlled synthetic enforcement executed through the mock connector and verified by readback."
        else "Controlled enforcement did not verify; rollback or compensation is required.")
      verification)
  verification
  auditEventIds := []
  approval := call.approvalFor plan
  control := call.controlFor plan
  version := "provisioning-job:v1"
  createdAt := startedAt
  startedAt
  completedAt := some completedAt

/-- mirrors packages/api/src/runtime-enforcement.ts:233 -/
def updatedPlan (completed : Bool) (completedAt : IsoDateTime) : ProvisioningPlan :=
  { plan with status := if completed then .applied else .failed, updatedAt := some completedAt }

/-- mirrors packages/api/src/runtime-enforcement.ts:639-655 -/
def buildRollbackPlannedAuditInputs (actor jobId : CanonicalId) : List AuditEventInput :=
  plan.actions.filterMap fun action => action.compensation.map fun compensation =>
    planEvent actor plan "provisioning.rollback_planned"
      ("corr:" ++ jobId ++ ":" ++ action.actionId ++ ":rollback-planned")
      [("jobId", .str jobId), ("planId", .str plan.id), ("actionId", .str action.actionId),
        ("compensation", compensation.toJs)]

/-- mirrors packages/api/src/runtime-enforcement.ts:578-637 -/
def buildControlledEnforcementJobAuditInputs (actor : CanonicalId) (job : ProvisioningJob)
    (completed : Bool) : List AuditEventInput :=
  job.actionResults.map (fun result =>
    planEvent actor plan "connector.permission_changed"
      ("corr:" ++ job.id ++ ":" ++ result.actionId ++ ":permission-changed")
      [("jobId", .str job.id), ("planId", .str plan.id), ("connectorId", .str plan.connectorId),
        ("actionId", .str result.actionId), ("operation", .str result.operation.name),
        ("dryRun", .bool false), ("syntheticProviderWrite", .bool true),
        ("liveProviderWrite", .bool false), ("providerWrite", .bool false),
        ("approval", optionalJs ProvisioningApproval.toJs job.approval),
        ("control", optionalJs EnforcementControl.toJs job.control)]) ++
  [planEvent actor plan "provisioning.verified" ("corr:" ++ job.id ++ ":verified")
    [("jobId", .str job.id), ("planId", .str plan.id), ("connectorId", .str plan.connectorId),
      ("verification", job.verification.toJs)]] ++
  (if completed then [] else buildRollbackPlannedAuditInputs plan actor job.id) ++
  [planEvent actor plan (if completed then "provisioning.completed" else "provisioning.failed")
    ("corr:" ++ job.id ++ ":" ++ (if completed then "completed" else "failed")) job.toJs]

end

namespace ProvisioningApp

def provisioningModeMismatch (plan : ProvisioningPlan) (requestedMode : ProvisioningMode) :
    RuntimeError :=
  refusal 400 "PROVISIONING_MODE_MISMATCH"
    ("Plan " ++ plan.id ++ " is " ++ plan.mode.name ++ ", not " ++ requestedMode.name ++ ".")

section
variable (H : Host) (regExp : String → Option (String → Bool)) (app : ProvisioningApp)
  (call : JobCall)

/-! ## Storing a job -/

/-- Store a job, record its events and store it again with their ids.
mirrors packages/api/src/runtime-jobs.ts:228-274, 293-302 -/
def storeProvisioningJob (job : ProvisioningJob) (auditInputs : List AuditEventInput) :
    ProvisioningApp × ProvisioningJob :=
  let (app, auditEventIds) := recordAll H call.requestActor auditInputs (app.upsertProvisioningJob job)
  let job := { job with auditEventIds }
  (app.upsertProvisioningJob job, job)

/-- The completion of a dry run is the time of its verification.
mirrors packages/api/src/runtime-jobs.ts:194-274 -/
def storeDryRunJob (plan : ProvisioningPlan) (startedAt : IsoDateTime)
    (verification : ProvisioningVerification) : ProvisioningApp × ProvisioningJob :=
  let (app, completedAt) := match verification.checkedAt with
    | some checkedAt => (app, checkedAt)
    | none => (app.tick, app.now)
  let job := dryRunJob H call plan startedAt verification completedAt
  app.storeProvisioningJob H call job (buildDryRunJobAuditInputs plan app.actor job)

/-- mirrors packages/api/src/runtime-jobs.ts:292-302 -/
def storeEnforcementJob (plan : ProvisioningPlan) (startedAt : IsoDateTime)
    (appliedPlan : ProvisioningPlan) (completedAt : IsoDateTime) (verified : Bool) :
    ProvisioningApp × ProvisioningJob :=
  let completed := completed appliedPlan verified
  let job := enforcementJob H call plan startedAt completed
    (enforcementVerification appliedPlan verified completedAt) completedAt
  (app.upsertProvisioningPlan (updatedPlan plan completed completedAt)).storeProvisioningJob H call
    job (buildControlledEnforcementJobAuditInputs plan app.actor job completed)

/-! ## A call for a job -/

/-- The gate, up to `connector.applyProvisioningChange(plan)`.
mirrors packages/api/src/runtime-enforcement.ts:186-192 -/
def startControlledEnforcementJob (connector : ConnectorAdapter) (plan : ProvisioningPlan)
    (startedAt : IsoDateTime) : ProvisioningApp × JobProgress :=
  match assertJobControlsMatchPlan plan call.approval call.control with
  | .error e => (app, .settled (.error e))
  | .ok () =>
    let approval := call.approvalFor plan
    let control := call.controlFor plan
    let (checked, allowed) := app.assertControlledEnforcementAllowed H connector approval control
      (some call.approverId)
    match allowed >>= fun _ => checked.assertEnforcementReadiness regExp connector plan.connectorId
      plan.readinessReportId approval control with
    | .error e => (checked, .settled (.error e))
    | .ok () => (checked, .applying plan startedAt)

/-- mirrors packages/api/src/runtime-jobs.ts:156-193 -/
def startProvisioningJob : ProvisioningApp × JobProgress :=
  match app.getProvisioningJobByIdempotencyKey call.idempotencyKey with
  | some existing =>
    (app, .settled (
      if existing.planId ≠ call.planId ∨ existing.approverId ≠ call.approverId then
        .error (idempotencyKeyReused "job")
      else .ok (some existing)))
  | none =>
    match app.getProvisioningPlan call.planId with
    | none => (app, .settled (.ok none))
    | some plan =>
      match app.connectors.get? plan.connectorId with
      | none => (app, .settled (.error (unknownConnector plan.connectorId)))
      | some connector =>
        let requestedMode := call.mode.getD plan.mode
        if requestedMode ≠ plan.mode then
          (app.tick, .settled (.error (provisioningModeMismatch plan requestedMode)))
        else match requestedMode with
          | .enforcement =>
            app.tick.startControlledEnforcementJob H regExp call connector plan app.now
          | .dryRun => (app.tick, .verifyingDryRun plan app.now)

/-- Go on with what the connector answered.
mirrors packages/api/src/runtime-enforcement.ts:192-241, packages/api/src/runtime-jobs.ts:193-302 -/
def resumeProvisioningJob (answers : JobAnswers) : JobProgress → ProvisioningApp × JobProgress
  | .verifyingDryRun plan startedAt =>
    match answers.verified with
    | .error e => (app, .settled (.error e))
    | .ok verified =>
      (app.tick, .verifiedDryRun plan startedAt (dryRunVerification plan verified app.now))
  | .verifiedDryRun plan startedAt verification =>
    let (app, job) := app.storeDryRunJob H call plan startedAt verification
    (app, .settled (.ok (some job)))
  | .applying plan startedAt =>
    match answers.applied with
    | .error e => (app, .settled (.error e))
    | .ok appliedPlan => (app.tick, .verifying plan startedAt appliedPlan app.now)
  | .verifying plan startedAt appliedPlan completedAt =>
    match answers.verified with
    | .error e => (app, .settled (.error e))
    | .ok verified =>
      let (app, job) := app.storeEnforcementJob H call plan startedAt appliedPlan completedAt verified
      (app, .settled (.ok (some job)))
  | .settled result => (app, .settled result)

/-- A call that nothing comes between: it waits twice at most.
mirrors packages/api/src/runtime-jobs.ts:145-303 -/
def createProvisioningJob (answers : JobAnswers) : ProvisioningApp × JobProgress :=
  let (app, progress) := app.startProvisioningJob H regExp call
  let (app, progress) := app.resumeProvisioningJob H call answers progress
  app.resumeProvisioningJob H call answers progress

end

/-! ## What a part of a call does -/

section
variable {H : Host} {regExp : String → Option (String → Bool)} {app : ProvisioningApp}
  {call : JobCall}

/-- A plan that the gate lets through: what it looks at, and what it finds. -/
structure GatePassed (H : Host) (regExp : String → Option (String → Bool)) (app : ProvisioningApp)
    (call : JobCall) (plan : ProvisioningPlan) (connector : ConnectorAdapter)
    (approval : ProvisioningApproval) (control : EnforcementControl)
    (report : EnforcementReadinessReport) : Prop where
  registered : app.connectors.get? plan.connectorId = some connector
  approvalInForce : call.approvalFor plan = some approval
  controlInForce : call.controlFor plan = some control
  matchesPlan : assertJobControlsMatchPlan plan call.approval call.control = .ok ()
  allowed : EnforcementAllowed H connector approval control (some call.approverId) app.tick.now
  reported : ∃ id, truthy plan.readinessReportId = some id ∧
    app.enforcementReadinessReports.get? id = some report
  ready : Ready regExp connector plan.connectorId (some approval) (some control) report

/-- The plan that a call asks to have applied, with no job of its key there yet. -/
structure EnforcementCall (app : ProvisioningApp) (call : JobCall) (plan : ProvisioningPlan) :
    Prop where
  fresh : app.getProvisioningJobByIdempotencyKey call.idempotencyKey = none
  stored : app.getProvisioningPlan call.planId = some plan
  mode : plan.mode = .enforcement
  requestedMode : call.mode.getD plan.mode = plan.mode

@[simp] theorem records_startControlledEnforcementJob {connector : ConnectorAdapter}
    {plan : ProvisioningPlan} {startedAt : IsoDateTime} :
    (app.startControlledEnforcementJob H regExp call connector plan startedAt).1.records =
      app.records := by
  unfold startControlledEnforcementJob
  split
  · rfl
  · dsimp only
    split <;> exact records_controlledEnforcementAllowed _ _ _ _ _ _

variable (H regExp app call) in
@[simp] theorem records_startProvisioningJob :
    (app.startProvisioningJob H regExp call).1.records = app.records := by
  unfold startProvisioningJob
  split
  · rfl
  · split
    · rfl
    · split
      · rfl
      · dsimp only
        split
        · rfl
        · split
          · exact records_startControlledEnforcementJob
          · rfl

theorem startControlledEnforcementJob_applying {connector : ConnectorAdapter}
    {plan plan' : ProvisioningPlan} {startedAt startedAt' : IsoDateTime}
    (hconnector : app.connectors.get? plan.connectorId = some connector) :
    (app.tick.startControlledEnforcementJob H regExp call connector plan startedAt).2 =
        .applying plan' startedAt' ↔
      (plan' = plan ∧ startedAt' = startedAt) ∧
        ∃ approval control report, GatePassed H regExp app call plan connector approval control
          report := by
  have hreports := congrArg Records.reports (records_controlledEnforcementAllowed app.tick H
    connector (call.approvalFor plan) (call.controlFor plan) (some call.approverId))
  unfold startControlledEnforcementJob
  split
  · rename_i e he
    refine ⟨nofun, fun ⟨_, _, _, _, hgate⟩ => ?_⟩
    rw [hgate.matchesPlan] at he
    cases he
  · rename_i hmatches
    dsimp only
    split
    · rename_i e he
      refine ⟨nofun, fun ⟨_, approval, control, report, hgate⟩ => ?_⟩
      obtain ⟨id, hid, hreport⟩ := hgate.reported
      have hallowed := controlledEnforcementAllowed_ok.2
        ⟨approval, control, hgate.approvalInForce, hgate.controlInForce, hgate.allowed⟩
      have hready := hgate.ready
      rw [← hgate.approvalInForce, ← hgate.controlInForce] at hready
      rw [seq_ok.2 ⟨hallowed, enforcementReadiness_ok.2
        ⟨id, report, hid, (congrArg (·.get? id) hreports).trans hreport, hready⟩⟩] at he
      cases he
    · rename_i hok
      obtain ⟨hallowed, hready⟩ := seq_ok.1 hok
      obtain ⟨approval, control, happroval, hcontrol, hallowed⟩ :=
        controlledEnforcementAllowed_ok.1 hallowed
      obtain ⟨id, report, hid, hreport, hready⟩ := enforcementReadiness_ok.1 hready
      rw [happroval, hcontrol] at hready
      refine ⟨fun h => ?_, fun ⟨⟨hplan, hstarted⟩, _⟩ => by rw [hplan, hstarted]⟩
      cases h
      exact ⟨⟨rfl, rfl⟩, approval, control, report, hconnector, happroval, hcontrol, hmatches,
        hallowed, ⟨id, hid, (congrArg (·.get? id) hreports).symm.trans hreport⟩, hready⟩

/-- **The gate**: the connector is asked to apply a plan exactly when the call asks for
it and every check passes. -/
theorem startProvisioningJob_applying {plan : ProvisioningPlan} {startedAt : IsoDateTime} :
    (app.startProvisioningJob H regExp call).2 = .applying plan startedAt ↔
      startedAt = app.now ∧ EnforcementCall app call plan ∧
        ∃ connector approval control report,
          GatePassed H regExp app call plan connector approval control report := by
  unfold startProvisioningJob
  split
  · rename_i existing hkey
    refine ⟨nofun, fun ⟨_, hcall, _⟩ => ?_⟩
    rw [hcall.fresh] at hkey
    cases hkey
  · rename_i hkey
    split
    · rename_i hplan
      refine ⟨nofun, fun ⟨_, hcall, _⟩ => ?_⟩
      rw [hcall.stored] at hplan
      cases hplan
    · rename_i stored hplan
      split
      · rename_i hconnector
        refine ⟨nofun, fun ⟨_, hcall, connector, _, _, _, hgate⟩ => ?_⟩
        obtain rfl := Option.some.inj (hplan.symm.trans hcall.stored)
        rw [hgate.registered] at hconnector
        cases hconnector
      · rename_i connector hconnector
        dsimp only
        split
        · rename_i hmode
          refine ⟨nofun, fun ⟨_, hcall, _⟩ => ?_⟩
          obtain rfl := Option.some.inj (hplan.symm.trans hcall.stored)
          exact absurd hcall.requestedMode hmode
        · rename_i hmode
          rw [ne_eq, not_not] at hmode
          split
          · rename_i henforcement
            rw [startControlledEnforcementJob_applying hconnector]
            constructor
            · intro ⟨⟨hsame, hstarted⟩, hgate⟩
              subst hsame
              exact ⟨hstarted, ⟨hkey, hplan, hmode.symm.trans henforcement, hmode⟩, connector, hgate⟩
            · intro ⟨hstarted, hcall, connector', hgate⟩
              obtain rfl := Option.some.inj (hplan.symm.trans hcall.stored)
              obtain ⟨_, _, _, hpassed⟩ := hgate
              obtain rfl := Option.some.inj (hconnector.symm.trans hpassed.registered)
              exact ⟨⟨rfl, hstarted⟩, _, _, _, hpassed⟩
          · rename_i hdryRun
            refine ⟨nofun, fun ⟨_, hcall, _⟩ => ?_⟩
            obtain rfl := Option.some.inj (hplan.symm.trans hcall.stored)
            rw [hmode, hcall.mode] at hdryRun
            cases hdryRun

/-- A part of a call: where it was, where it is then, and what it stores. -/
inductive JobStep (H : Host) (call : JobCall) (answers : JobAnswers) (records : Records) :
    JobProgress → JobProgress → Records → Prop
  | dryRunThrew {plan : ProvisioningPlan} {startedAt : IsoDateTime} {e : RuntimeError}
      (hanswer : answers.verified = .error e) :
      JobStep H call answers records (.verifyingDryRun plan startedAt) (.settled (.error e)) records
  | dryRunVerified {plan : ProvisioningPlan} {startedAt : IsoDateTime} {verified : Bool}
      {checkedAt : IsoDateTime} (hanswer : answers.verified = .ok verified) :
      JobStep H call answers records (.verifyingDryRun plan startedAt)
        (.verifiedDryRun plan startedAt (dryRunVerification plan verified checkedAt)) records
  | dryRunStored {plan : ProvisioningPlan} {startedAt completedAt : IsoDateTime}
      {verification : ProvisioningVerification} {auditEventIds : List CanonicalId}
      {job : ProvisioningJob}
      (hjob : job = { dryRunJob H call plan startedAt verification completedAt with auditEventIds }) :
      JobStep H call answers records (.verifiedDryRun plan startedAt verification)
        (.settled (.ok (some job))) { records with jobs := records.jobs.set (call.jobId H) job }
  | applyThrew {plan : ProvisioningPlan} {startedAt : IsoDateTime} {e : RuntimeError}
      (hanswer : answers.applied = .error e) :
      JobStep H call answers records (.applying plan startedAt) (.settled (.error e)) records
  | applied {plan appliedPlan : ProvisioningPlan} {startedAt completedAt : IsoDateTime}
      (hanswer : answers.applied = .ok appliedPlan) :
      JobStep H call answers records (.applying plan startedAt)
        (.verifying plan startedAt appliedPlan completedAt) records
  | verifyThrew {plan appliedPlan : ProvisioningPlan} {startedAt completedAt : IsoDateTime}
      {e : RuntimeError} (hanswer : answers.verified = .error e) :
      JobStep H call answers records (.verifying plan startedAt appliedPlan completedAt)
        (.settled (.error e)) records
  | enforcementStored {plan appliedPlan : ProvisioningPlan} {startedAt completedAt : IsoDateTime}
      {verified : Bool} {auditEventIds : List CanonicalId} {job : ProvisioningJob}
      (hanswer : answers.verified = .ok verified)
      (hjob : job = { enforcementJob H call plan startedAt (completed appliedPlan verified)
        (enforcementVerification appliedPlan verified completedAt) completedAt with
          auditEventIds }) :
      JobStep H call answers records (.verifying plan startedAt appliedPlan completedAt)
        (.settled (.ok (some job)))
        { records with
          plans := records.plans.set plan.id
            (updatedPlan plan (completed appliedPlan verified) completedAt)
          jobs := records.jobs.set (call.jobId H) job }
  | settled {result : Except RuntimeError (Option ProvisioningJob)} :
      JobStep H call answers records (.settled result) (.settled result) records

variable (H app call) in
theorem storeProvisioningJob_spec (job : ProvisioningJob) (auditInputs : List AuditEventInput)
    (hid : job.id = call.jobId H) :
    ∃ auditEventIds, (app.storeProvisioningJob H call job auditInputs).2 =
        { job with auditEventIds } ∧
      (app.storeProvisioningJob H call job auditInputs).1.records =
        { app.records with jobs := app.records.jobs.set (call.jobId H) { job with auditEventIds } } := by
  refine ⟨_, rfl, ?_⟩
  have hrecords := records_recordAll H call.requestActor auditInputs (app.upsertProvisioningJob job)
  have hjobs := congrArg Records.jobs hrecords
  unfold storeProvisioningJob
  rw [records_upsertProvisioningJob, hrecords]
  simp only [records] at hjobs ⊢
  rw [hjobs]
  simp [upsertProvisioningJob, hid]

variable (H app call) in
/-- **A part of a call** is one of these steps. -/
theorem resumeProvisioningJob_step (answers : JobAnswers) (progress : JobProgress) :
    JobStep H call answers app.records progress
      (app.resumeProvisioningJob H call answers progress).2
      (app.resumeProvisioningJob H call answers progress).1.records := by
  cases progress with
  | verifyingDryRun plan startedAt =>
    unfold resumeProvisioningJob
    cases hanswer : answers.verified with
    | error e => exact .dryRunThrew hanswer
    | ok verified => exact .dryRunVerified hanswer
  | verifiedDryRun plan startedAt verification =>
    unfold resumeProvisioningJob storeDryRunJob
    dsimp only
    cases verification.checkedAt with
    | none =>
      obtain ⟨ids, hjob, hrecords⟩ := storeProvisioningJob_spec H app.tick call
        (dryRunJob H call plan startedAt verification app.now)
        (buildDryRunJobAuditInputs plan app.tick.actor
          (dryRunJob H call plan startedAt verification app.now)) rfl
      dsimp only
      rw [hrecords, hjob]
      exact .dryRunStored rfl
    | some checkedAt =>
      obtain ⟨ids, hjob, hrecords⟩ := storeProvisioningJob_spec H app call
        (dryRunJob H call plan startedAt verification checkedAt)
        (buildDryRunJobAuditInputs plan app.actor
          (dryRunJob H call plan startedAt verification checkedAt)) rfl
      dsimp only
      rw [hrecords, hjob]
      exact .dryRunStored rfl
  | applying plan startedAt =>
    unfold resumeProvisioningJob
    cases hanswer : answers.applied with
    | error e => exact .applyThrew hanswer
    | ok appliedPlan => exact .applied hanswer
  | verifying plan startedAt appliedPlan completedAt =>
    unfold resumeProvisioningJob
    cases hanswer : answers.verified with
    | error e => exact .verifyThrew hanswer
    | ok verified =>
      obtain ⟨ids, hjob, hrecords⟩ := storeProvisioningJob_spec H
        (app.upsertProvisioningPlan (updatedPlan plan (completed appliedPlan verified) completedAt))
        call
        (enforcementJob H call plan startedAt (completed appliedPlan verified)
          (enforcementVerification appliedPlan verified completedAt) completedAt)
        (buildControlledEnforcementJobAuditInputs plan app.actor
          (enforcementJob H call plan startedAt (completed appliedPlan verified)
            (enforcementVerification appliedPlan verified completedAt) completedAt)
          (completed appliedPlan verified)) rfl
      unfold storeEnforcementJob
      dsimp only
      rw [hrecords, hjob]
      exact .enforcementStored hanswer rfl
  | settled result => exact .settled

/-- What a call that nothing comes between leaves, where it was before it waited. -/
inductive JobRun (H : Host) (call : JobCall) (answers : JobAnswers) (records : Records) :
    JobProgress → Except RuntimeError (Option ProvisioningJob) → Records → Prop
  | settled {result : Except RuntimeError (Option ProvisioningJob)} :
      JobRun H call answers records (.settled result) result records
  | dryRunThrew {plan : ProvisioningPlan} {startedAt : IsoDateTime} {e : RuntimeError}
      (hverified : answers.verified = .error e) :
      JobRun H call answers records (.verifyingDryRun plan startedAt) (.error e) records
  | dryRunStored {plan : ProvisioningPlan} {startedAt completedAt : IsoDateTime} {verified : Bool}
      {verification : ProvisioningVerification} {auditEventIds : List CanonicalId}
      {job : ProvisioningJob} (hverified : answers.verified = .ok verified)
      (hjob : job = { dryRunJob H call plan startedAt verification completedAt with auditEventIds }) :
      JobRun H call answers records (.verifyingDryRun plan startedAt) (.ok (some job))
        { records with jobs := records.jobs.set (call.jobId H) job }
  | applyThrew {plan : ProvisioningPlan} {startedAt : IsoDateTime} {e : RuntimeError}
      (happlied : answers.applied = .error e) :
      JobRun H call answers records (.applying plan startedAt) (.error e) records
  | verifyThrew {plan appliedPlan : ProvisioningPlan} {startedAt : IsoDateTime} {e : RuntimeError}
      (happlied : answers.applied = .ok appliedPlan) (hverified : answers.verified = .error e) :
      JobRun H call answers records (.applying plan startedAt) (.error e) records
  | enforcementStored {plan appliedPlan : ProvisioningPlan} {startedAt completedAt : IsoDateTime}
      {verified : Bool} {auditEventIds : List CanonicalId} {job : ProvisioningJob}
      (happlied : answers.applied = .ok appliedPlan) (hverified : answers.verified = .ok verified)
      (hjob : job = { enforcementJob H call plan startedAt (completed appliedPlan verified)
        (enforcementVerification appliedPlan verified completedAt) completedAt with
          auditEventIds }) :
      JobRun H call answers records (.applying plan startedAt) (.ok (some job))
        { records with
          plans := records.plans.set plan.id
            (updatedPlan plan (completed appliedPlan verified) completedAt)
          jobs := records.jobs.set (call.jobId H) job }

variable (H regExp app call) in
theorem startControlledEnforcementJob_waits (connector : ConnectorAdapter) (plan : ProvisioningPlan)
    (startedAt : IsoDateTime) :
    (∃ e, (app.startControlledEnforcementJob H regExp call connector plan startedAt).2 =
      .settled (.error e)) ∨
    (app.startControlledEnforcementJob H regExp call connector plan startedAt).2 =
      .applying plan startedAt := by
  unfold startControlledEnforcementJob
  split
  · exact .inl ⟨_, rfl⟩
  · dsimp only
    split
    · exact .inl ⟨_, rfl⟩
    · exact .inr rfl

/-- A call that waits found no job of its key, and holds the stored plan. -/
theorem startProvisioningJob_plan {plan : ProvisioningPlan}
    (h : (app.startProvisioningJob H regExp call).2.plan? = some plan) :
    app.getProvisioningJobByIdempotencyKey call.idempotencyKey = none ∧
      app.getProvisioningPlan call.planId = some plan := by
  unfold startProvisioningJob at h
  split at h
  · cases h
  · rename_i hfresh
    split at h
    · cases h
    · rename_i stored hplan
      split at h
      · cases h
      · dsimp only at h
        split at h
        · cases h
        · split at h
          · rcases startControlledEnforcementJob_waits H regExp app.tick call _ stored app.now with
              ⟨e, hrefused⟩ | happlying
            · rw [hrefused] at h
              cases h
            · rw [happlying] at h
              cases h
              exact ⟨hfresh, hplan⟩
          · cases h
            exact ⟨hfresh, hplan⟩

theorem startProvisioningJob_enforcement {plan : ProvisioningPlan}
    (hfresh : app.getProvisioningJobByIdempotencyKey call.idempotencyKey = none)
    (hplan : app.getProvisioningPlan call.planId = some plan) (hmode : plan.mode = .enforcement) :
    (∃ e, (app.startProvisioningJob H regExp call).2 = .settled (.error e)) ∨
      (app.startProvisioningJob H regExp call).2 = .applying plan app.now := by
  unfold startProvisioningJob
  rw [hfresh, hplan]
  dsimp only
  split
  · exact .inl ⟨_, rfl⟩
  · split
    · exact .inl ⟨_, rfl⟩
    · rename_i hrequested
      rw [ne_eq, not_not, hmode] at hrequested
      rw [hmode, hrequested]
      exact startControlledEnforcementJob_waits H regExp app.tick call _ plan app.now

theorem startProvisioningJob_dryRun {plan : ProvisioningPlan} {connector : ConnectorAdapter}
    (hfresh : app.getProvisioningJobByIdempotencyKey call.idempotencyKey = none)
    (hplan : app.getProvisioningPlan call.planId = some plan)
    (hconnector : app.connectors.get? plan.connectorId = some connector)
    (hmode : plan.mode = .dryRun) (hrequested : call.mode.getD plan.mode = plan.mode) :
    (app.startProvisioningJob H regExp call).2 = .verifyingDryRun plan app.now := by
  unfold startProvisioningJob
  rw [hfresh, hplan]
  dsimp only
  rw [hconnector, hrequested, hmode]
  rfl

variable (H regExp app call) in
/-- A call is over before it waits, or waits for what the mode of its plan has it wait
for. -/
theorem startProvisioningJob_waits :
    (∃ result, (app.startProvisioningJob H regExp call).2 = .settled result) ∨
    (∃ plan startedAt, (app.startProvisioningJob H regExp call).2 = .verifyingDryRun plan startedAt) ∨
    ∃ plan startedAt, (app.startProvisioningJob H regExp call).2 = .applying plan startedAt := by
  unfold startProvisioningJob
  split
  · exact .inl ⟨_, rfl⟩
  · split
    · exact .inl ⟨_, rfl⟩
    · split
      · exact .inl ⟨_, rfl⟩
      · dsimp only
        split
        · exact .inl ⟨_, rfl⟩
        · split
          · rcases startControlledEnforcementJob_waits H regExp app.tick call _ _ app.now with
              ⟨e, h⟩ | h
            · exact .inl ⟨_, h⟩
            · exact .inr (.inr ⟨_, _, h⟩)
          · exact .inr (.inl ⟨_, _, rfl⟩)

variable (H regExp app call) in
/-- **A call that nothing comes between** comes to an end, in one of these ways. -/
theorem createProvisioningJob_run (answers : JobAnswers) :
    ∃ result, (app.createProvisioningJob H regExp call answers).2 = .settled result ∧
      JobRun H call answers app.records (app.startProvisioningJob H regExp call).2 result
        (app.createProvisioningJob H regExp call answers).1.records := by
  have hstart := records_startProvisioningJob H regExp app call
  have hwaits := startProvisioningJob_waits H regExp app call
  unfold createProvisioningJob
  generalize app.startProvisioningJob H regExp call = started at hstart hwaits ⊢
  obtain ⟨app₁, progress⟩ := started
  dsimp only at hstart hwaits ⊢
  have hfirst := resumeProvisioningJob_step H app₁ call answers progress
  generalize app₁.resumeProvisioningJob H call answers progress = resumed at hfirst ⊢
  obtain ⟨app₂, progress₂⟩ := resumed
  dsimp only at hfirst ⊢
  have hsecond := resumeProvisioningJob_step H app₂ call answers progress₂
  generalize app₂.resumeProvisioningJob H call answers progress₂ = ended at hsecond ⊢
  obtain ⟨app₃, progress₃⟩ := ended
  dsimp only at hsecond ⊢
  rw [hstart] at hfirst
  generalize app₂.records = records₂ at hfirst hsecond
  generalize app₃.records = records₃ at hsecond ⊢
  rcases hwaits with ⟨result, rfl⟩ | ⟨plan, startedAt, rfl⟩ | ⟨plan, startedAt, rfl⟩
  · cases hfirst
    cases hsecond
    exact ⟨_, rfl, .settled⟩
  · cases hfirst with
    | dryRunThrew hverified =>
      cases hsecond
      exact ⟨_, rfl, .dryRunThrew hverified⟩
    | dryRunVerified hverified =>
      cases hsecond with
      | dryRunStored hjob => exact ⟨_, rfl, .dryRunStored hverified hjob⟩
  · cases hfirst with
    | applyThrew happlied =>
      cases hsecond
      exact ⟨_, rfl, .applyThrew happlied⟩
    | applied happlied =>
      cases hsecond with
      | verifyThrew hverified => exact ⟨_, rfl, .verifyThrew happlied hverified⟩
      | enforcementStored hverified hjob =>
        exact ⟨_, rfl, .enforcementStored happlied hverified hjob⟩

end

end ProvisioningApp

end AccessKit.L5
