import AccessKit.L5Runtime.Enforcement

/-!
# Creating a provisioning plan

packages/api/src/runtime-jobs.ts:66-143, 309-370 and runtime-enforcement.ts:93-178. A
call is looked up by its idempotency key; when no stored plan has it, the connector is
asked for a plan, and what it answers is prepared, stored and recorded. The call waits
once, for the connector: `requestProvisioningPlan` is what runs before,
`storeProvisioningPlan` what runs after.

What the engine decided and what the connector answered come with the call: the event
of the decision, and the plan or what was thrown.

Results:
* `storeProvisioningPlan_ok`, `storeProvisioningPlan_error`: what is stored is the plan
  of the connector, prepared for the call, and nothing else changes.
* `requestProvisioningPlan_settled`: a call that is answered from the store, or refused,
  changed nothing.
* `samePlan_of_prepared`: how replays see what was stored for a call.
-/
namespace AccessKit.L5
open AccessKit.Core AccessKit.L1 AccessKit.L2.Audit

/-- What a plan is asked for. -/
inductive PlanRequest
  | decision (request : DecisionRequest)
  | revocation (nativeGrantId : CanonicalId)

/-- A call of `createProvisioningPlan` or of `createRevocationPlan`, with the actor of
the request that makes it.
mirrors packages/api/src/runtime-jobs.ts:66-102 -/
structure PlanCall where
  request : PlanRequest
  connectorId : String
  options : ProvisioningExecutionOptions := {}
  idempotencyKey : Option String := none
  requestActor : Option CanonicalId := none

/-! ## Replays -/

/-- mirrors packages/api/src/runtime-jobs.ts:358-370 -/
def normalizeApprovalForReplay (approval : Option ProvisioningApproval)
    (ignoreApprovalApprovedAt : Bool) : Option ProvisioningApproval :=
  if ignoreApprovalApprovedAt then
    approval.map fun approval => { approval with approvedAt := "idempotency-replay-normalized" }
  else approval

/-- mirrors packages/api/src/runtime-jobs.ts:344-356 -/
def planMatchesExecutionOptions (plan : ProvisioningPlan) (options : ProvisioningExecutionOptions)
    (ignoreApprovalApprovedAt : Bool := false) : Bool :=
  plan.mode = options.mode.getD .dryRun &&
  (normalizeApprovalForReplay plan.approval ignoreApprovalApprovedAt).map
      ProvisioningApproval.properties =
    (normalizeApprovalForReplay options.approval ignoreApprovalApprovedAt).map
      ProvisioningApproval.properties &&
  plan.control.map EnforcementControl.properties =
    options.control.map EnforcementControl.properties &&
  plan.readinessReportId = options.readinessReportId

/-- mirrors packages/api/src/runtime-jobs.ts:316-329 -/
def planMatchesDecisionRequest (plan : ProvisioningPlan) (request : DecisionRequest)
    (connectorId : String) (options : ProvisioningExecutionOptions) : Bool :=
  plan.connectorId = connectorId && plan.subjectId = request.subjectId &&
    plan.resourceId = request.resourceId && plan.action = request.action &&
    planMatchesExecutionOptions plan options

/-- An action revokes a grant. -/
def revokes (nativeGrantId : CanonicalId) (action : ProvisioningAction) : Bool :=
  action.operation = .revoke &&
    (action.requestedState.get "nativeGrantId").strictEq (.str nativeGrantId)

/-- mirrors packages/api/src/runtime-jobs.ts:331-342 -/
def planMatchesRevocationRequest (plan : ProvisioningPlan) (nativeGrantId : CanonicalId)
    (connectorId : String) (options : ProvisioningExecutionOptions) : Bool :=
  plan.connectorId = connectorId && plan.actions.any (revokes nativeGrantId) &&
    planMatchesExecutionOptions plan options true

/-- The `matchesExisting` of a call. -/
def PlanCall.matchesExisting (call : PlanCall) (plan : ProvisioningPlan) : Bool :=
  match call.request with
  | .decision request => planMatchesDecisionRequest plan request call.connectorId call.options
  | .revocation nativeGrantId =>
    planMatchesRevocationRequest plan nativeGrantId call.connectorId call.options

/-- A connector's plan as a call prepares it, as far as replays look at it. In a dry run
the approval, the control and the report of the call are not stored. -/
def PlanCall.asPrepared (call : PlanCall) (plan : ProvisioningPlan) : ProvisioningPlan :=
  let mode := call.options.mode.getD .dryRun
  { plan with
    connectorId := call.connectorId
    mode
    approval := if mode = .enforcement then call.options.approval else plan.approval
    control := if mode = .enforcement then call.options.control else plan.control
    readinessReportId :=
      if mode = .enforcement then call.options.readinessReportId else plan.readinessReportId }

/-- Two plans that replays cannot tell apart. -/
structure SamePlan (plan plan' : ProvisioningPlan) : Prop where
  connectorId : plan'.connectorId = plan.connectorId
  subjectId : plan'.subjectId = plan.subjectId
  resourceId : plan'.resourceId = plan.resourceId
  action : plan'.action = plan.action
  revokes : ∀ g, plan'.actions.any (L5.revokes g) = plan.actions.any (L5.revokes g)
  mode : plan'.mode = plan.mode
  approval : plan'.approval = plan.approval
  control : plan'.control = plan.control
  readinessReportId : plan'.readinessReportId = plan.readinessReportId

theorem matchesExisting_congr {plan plan' : ProvisioningPlan} (h : SamePlan plan plan')
    (call : PlanCall) : call.matchesExisting plan' = call.matchesExisting plan := by
  unfold PlanCall.matchesExisting planMatchesDecisionRequest planMatchesRevocationRequest
    planMatchesExecutionOptions
  simp only [h.connectorId, h.subjectId, h.resourceId, h.action, h.revokes, h.mode, h.approval,
    h.control, h.readinessReportId]

/-! ## The events of a plan -/

/-- An event about a plan.
mirrors packages/api/src/runtime-enforcement.ts:133-140 -/
def planEvent (actor : CanonicalId) (plan : ProvisioningPlan) (eventType correlationId : String)
    (payload : JsonRecord) : AuditEventInput where
  eventType
  actor
  subjectId := some plan.subjectId
  resourceId := some plan.resourceId
  correlationId
  payload

/-- The actions with compensation, each with its own.
mirrors packages/api/src/runtime-enforcement.ts:561-576 -/
def buildCompensationAuditInputs (actor : CanonicalId) (plan : ProvisioningPlan) :
    List AuditEventInput :=
  plan.actions.filterMap fun action => action.compensation.map fun compensation =>
    planEvent actor plan "provisioning.compensation_planned"
      ("corr:" ++ plan.id ++ ":" ++ action.actionId ++ ":compensation")
      [("planId", .str plan.id), ("actionId", .str action.actionId),
        ("compensation", compensation.toJs)]

/-- mirrors packages/api/src/runtime-enforcement.ts:131-178 -/
def buildProvisioningPlanAuditInputs (actor : CanonicalId) (plan : ProvisioningPlan) :
    List AuditEventInput :=
  [planEvent actor plan "provisioning.requested" ("corr:" ++ plan.id) plan.toJs,
    planEvent actor plan "provisioning.planned" ("corr:" ++ plan.id ++ ":planned")
      [("planId", .str plan.id), ("connectorId", .str plan.connectorId),
        ("mode", .str plan.mode.name), ("status", .str plan.status.name),
        ("actionIds", strings (plan.actions.map (·.actionId))),
        ("idempotencyKeys", strings (plan.actions.map (·.idempotencyKey)))]] ++
  (match plan.mode, plan.approval, plan.control with
    | .enforcement, some approval, some control =>
      [planEvent actor plan "provisioning.approved" ("corr:" ++ plan.id ++ ":approved")
        [("planId", .str plan.id), ("connectorId", .str plan.connectorId),
          ("mode", .str plan.mode.name), ("status", .str plan.status.name),
          ("approval", approval.toJs), ("control", control.toJs)]]
    | _, _, _ => []) ++
  buildCompensationAuditInputs actor plan

namespace ProvisioningApp

/-- What `getConnector` throws.
mirrors packages/api/src/runtime-shared.ts:27-35 -/
def unknownConnector (connectorId : String) : RuntimeError :=
  .other ("Unknown connector: " ++ connectorId)

def idempotencyKeyReused (record : String) : RuntimeError :=
  refusal 409 "IDEMPOTENCY_KEY_REUSED"
    ("Idempotency-Key was already used for a different provisioning " ++ record ++ " request.")

/-- Where a call for a plan is: it waits for its connector, or it is over. -/
inductive PlanProgress
  | planning (connector : ConnectorAdapter)
  | settled (result : Except RuntimeError ProvisioningPlan)

section
variable (H : Host) (regExp : String → Option (String → Bool)) (app : ProvisioningApp)

/-! ## Preparing a plan -/

/-- mirrors packages/api/src/runtime-enforcement.ts:93-129 -/
def prepareProvisioningPlanForExecution (connector : ConnectorAdapter) (plan : ProvisioningPlan)
    (options : ProvisioningExecutionOptions) :
    ProvisioningApp × Except RuntimeError ProvisioningPlan :=
  match options.mode.getD .dryRun with
  | .dryRun =>
    (app, .ok { plan with
      mode := .dryRun
      status := .planned
      actions := plan.actions.map fun action => { action with dryRun := true, status := .planned } })
  | .enforcement =>
    let (checked, allowed) := app.assertControlledEnforcementAllowed H connector options.approval
      options.control (options.approval.map (·.approverId))
    (checked, do
      allowed
      checked.assertEnforcementReadiness regExp connector plan.connectorId
        options.readinessReportId options.approval options.control
      return { plan with
        mode := .enforcement
        status := .approved
        actions := plan.actions.map fun action =>
          { action with dryRun := false, status := .planned }
        approval := options.approval
        control := options.control
        readinessReportId := options.readinessReportId })

/-! ## A call for a plan -/

/-- The plan that a key stands for.
mirrors packages/api/src/runtime-jobs.ts:113 -/
def planOfKey (idempotencyKey : Option String) : Option ProvisioningPlan :=
  (truthy idempotencyKey).bind app.getProvisioningPlanByIdempotencyKey

/-- Up to the connector's plan; for a decision the engine has recorded its event then.
mirrors packages/api/src/runtime-jobs.ts:73-84, 112-127 -/
def requestProvisioningPlan (call : PlanCall) (decision : AuditEventInput) :
    ProvisioningApp × PlanProgress :=
  match app.connectors.get? call.connectorId with
  | none => (app, .settled (.error (unknownConnector call.connectorId)))
  | some connector =>
    match app.planOfKey call.idempotencyKey with
    | some existing =>
      (app, .settled (if call.matchesExisting existing then .ok existing
        else .error (idempotencyKeyReused "plan")))
    | none =>
      match call.request with
      | .decision _ => ((app.recordAudit H call.requestActor decision).1, .planning connector)
      | .revocation _ => (app, .planning connector)

/-- From the connector's plan on.
mirrors packages/api/src/runtime-jobs.ts:127-143, 309-314 -/
def storeProvisioningPlan (call : PlanCall) (connector : ConnectorAdapter)
    (planned : Except RuntimeError ProvisioningPlan) :
    ProvisioningApp × Except RuntimeError ProvisioningPlan :=
  match planned with
  | .error e => (app, .error e)
  | .ok plan =>
    match app.prepareProvisioningPlanForExecution H regExp connector
      { plan with connectorId := call.connectorId } call.options with
    | (app, .error e) => (app, .error e)
    | (app, .ok plan) =>
      let plan := { plan with idempotencyKey := call.idempotencyKey }
      ((recordAll H call.requestActor (buildProvisioningPlanAuditInputs app.actor plan)
        (app.upsertProvisioningPlan plan)).1, .ok plan)

/-- A call that nothing comes between.
mirrors packages/api/src/runtime-jobs.ts:66-137 -/
def createProvisioningPlan (call : PlanCall) (decision : AuditEventInput)
    (planned : Except RuntimeError ProvisioningPlan) :
    ProvisioningApp × Except RuntimeError ProvisioningPlan :=
  match app.requestProvisioningPlan H call decision with
  | (app, .settled result) => (app, result)
  | (app, .planning connector) => app.storeProvisioningPlan H regExp call connector planned

end

/-! ## What is prepared -/

section
variable {H : Host} {regExp : String → Option (String → Bool)} {app : ProvisioningApp}

/-- What preparing makes of a plan. -/
structure Prepared (options : ProvisioningExecutionOptions) (plan prepared : ProvisioningPlan) :
    Prop where
  id : prepared.id = plan.id
  connectorId : prepared.connectorId = plan.connectorId
  subjectId : prepared.subjectId = plan.subjectId
  resourceId : prepared.resourceId = plan.resourceId
  action : prepared.action = plan.action
  revokes : ∀ g, prepared.actions.any (revokes g) = plan.actions.any (L5.revokes g)
  mode : prepared.mode = options.mode.getD .dryRun
  approval : prepared.approval =
    if prepared.mode = .enforcement then options.approval else plan.approval
  control : prepared.control =
    if prepared.mode = .enforcement then options.control else plan.control
  readinessReportId : prepared.readinessReportId =
    if prepared.mode = .enforcement then options.readinessReportId else plan.readinessReportId
  status : prepared.status = if prepared.mode = .enforcement then .approved else .planned
  controlled : prepared.mode = .enforcement →
    prepared.approval.isSome ∧ prepared.control.isSome

theorem revokes_comp (g : CanonicalId) (dryRun : Bool) (status : ProvisioningStepStatus) :
    (L5.revokes g ∘ fun action => { action with dryRun, status }) = L5.revokes g := rfl

variable (H regExp app) in
@[simp] theorem records_prepare (connector : ConnectorAdapter) (plan : ProvisioningPlan)
    (options : ProvisioningExecutionOptions) :
    (app.prepareProvisioningPlanForExecution H regExp connector plan options).1.records =
      app.records := by
  unfold prepareProvisioningPlanForExecution
  split
  · rfl
  · exact records_controlledEnforcementAllowed _ _ _ _ _ _

theorem prepared_of_ok {connector : ConnectorAdapter} {plan prepared : ProvisioningPlan}
    {options : ProvisioningExecutionOptions}
    (h : (app.prepareProvisioningPlanForExecution H regExp connector plan options).2 =
      .ok prepared) : Prepared options plan prepared := by
  unfold prepareProvisioningPlanForExecution at h
  cases hmode : options.mode.getD .dryRun with
  | dryRun =>
    simp only [hmode, Except.ok.injEq] at h
    subst h
    constructor <;> simp [hmode, revokes_comp]
  | enforcement =>
    simp only [hmode] at h
    rw [seq_ok, seq_ok] at h
    obtain ⟨hallowed, -, hprepared⟩ := h
    obtain ⟨approval, control, happroval, hcontrol, -⟩ := controlledEnforcementAllowed_ok.1 hallowed
    simp only [pure, Except.pure, Except.ok.injEq] at hprepared
    subst hprepared
    constructor <;> simp [hmode, revokes_comp, happroval, hcontrol]

/-! ## The plan of a key -/

theorem getProvisioningPlan_of_values {plan : ProvisioningPlan}
    (h : plan ∈ app.provisioningPlans.values) : app.getProvisioningPlan plan.id = some plan := by
  obtain ⟨id, hid⟩ := OrderedMap.mem_values.1 h
  rw [app.plan_id id plan hid]
  exact hid

theorem planOfKey_none {key : String} (hkey : key ≠ "") (h : app.planOfKey (some key) = none)
    {id : CanonicalId} {plan : ProvisioningPlan} (hplan : app.getProvisioningPlan id = some plan) :
    plan.idempotencyKey ≠ some key := by
  have hfind : app.getProvisioningPlanByIdempotencyKey key = none := by
    rw [← h, planOfKey, truthy, if_neg hkey]
    rfl
  have hmem := OrderedMap.mem_values.2 ⟨id, hplan⟩
  exact fun heq => of_decide_eq_false (eq_false_of_ne_true (List.find?_eq_none.1 hfind plan hmem)) heq

theorem planOfKey_eq {key : String} (hkey : key ≠ "") {plan : ProvisioningPlan}
    (hplan : app.getProvisioningPlan plan.id = some plan) (hhas : plan.idempotencyKey = some key)
    (honly : ∀ id other, app.getProvisioningPlan id = some other →
      other.idempotencyKey = some key → id = plan.id) :
    app.planOfKey (some key) = some plan := by
  rw [planOfKey, truthy, if_neg hkey]
  show app.getProvisioningPlanByIdempotencyKey key = some plan
  cases hfind : app.getProvisioningPlanByIdempotencyKey key with
  | none =>
    have hmem := OrderedMap.mem_values.2 ⟨plan.id, hplan⟩
    exact absurd (decide_eq_true hhas) (List.find?_eq_none.1 hfind plan hmem)
  | some found =>
    have hfound := getProvisioningPlan_of_values (List.mem_of_find?_eq_some hfind)
    have hhas' : decide (found.idempotencyKey = some key) = true := by
      unfold getProvisioningPlanByIdempotencyKey at hfind
      simpa using List.find?_some hfind
    have hid := honly found.id found hfound (of_decide_eq_true hhas')
    rw [hid, hplan, Option.some.injEq] at hfound
    rw [hfound]

/-! ## What a call does -/

variable (H app) in
@[simp] theorem records_requestProvisioningPlan (call : PlanCall) (decision : AuditEventInput) :
    (app.requestProvisioningPlan H call decision).1.records = app.records := by
  unfold requestProvisioningPlan
  split
  · rfl
  · split
    · rfl
    · split <;> rfl

/-- What is left to do when no stored plan has the key. -/
theorem requestProvisioningPlan_planning {call : PlanCall} {decision : AuditEventInput}
    {connector : ConnectorAdapter}
    (h : (app.requestProvisioningPlan H call decision).2 = .planning connector) :
    app.connectors.get? call.connectorId = some connector ∧
      app.planOfKey call.idempotencyKey = none := by
  unfold requestProvisioningPlan at h
  split at h
  · cases h
  · rename_i hconnector
    split at h
    · cases h
    · rename_i hkey
      split at h <;> cases h <;> exact ⟨hconnector, hkey⟩

/-- A call that is over before the connector is asked changed nothing, whatever it came
to. -/
theorem requestProvisioningPlan_settled {call : PlanCall} {decision : AuditEventInput}
    {result : Except RuntimeError ProvisioningPlan}
    (h : (app.requestProvisioningPlan H call decision).2 = .settled result) :
    (app.requestProvisioningPlan H call decision).1 = app ∧
      ((app.connectors.get? call.connectorId = none ∧
          result = .error (unknownConnector call.connectorId)) ∨
        ∃ existing, app.planOfKey call.idempotencyKey = some existing ∧
          result = if call.matchesExisting existing then .ok existing
            else .error (idempotencyKeyReused "plan")) := by
  unfold requestProvisioningPlan at h ⊢
  split at h
  · rename_i hconnector
    cases h
    exact ⟨rfl, .inl ⟨hconnector, rfl⟩⟩
  · split at h
    · rename_i existing hkey
      cases h
      exact ⟨rfl, .inr ⟨existing, hkey, rfl⟩⟩
    · split at h <;> cases h

/-- **What is stored** is the plan of the connector, prepared for the call. -/
theorem storeProvisioningPlan_ok {call : PlanCall} {connector : ConnectorAdapter}
    {planned : Except RuntimeError ProvisioningPlan} {stored : ProvisioningPlan}
    (h : (app.storeProvisioningPlan H regExp call connector planned).2 = .ok stored) :
    (app.storeProvisioningPlan H regExp call connector planned).1.records =
        { app.records with plans := app.provisioningPlans.set stored.id stored } ∧
      ∃ plan, planned = .ok plan ∧ stored.idempotencyKey = call.idempotencyKey ∧
        Prepared call.options { plan with connectorId := call.connectorId } stored := by
  unfold storeProvisioningPlan at h ⊢
  cases planned with
  | error e => cases h
  | ok plan =>
    have hrecords := records_prepare H regExp app connector
      { plan with connectorId := call.connectorId } call.options
    dsimp only at h ⊢
    split at h
    · cases h
    · rename_i app' prepared hprepare
      rw [hprepare] at hrecords
      cases h
      have hprepared := prepared_of_ok (congrArg Prod.snd hprepare)
      refine ⟨?_, plan, rfl, rfl, hprepared.1, hprepared.2, hprepared.3, hprepared.4, hprepared.5,
        hprepared.6, hprepared.7, hprepared.8, hprepared.9, hprepared.10, hprepared.11,
        hprepared.12⟩
      have hplans : app'.provisioningPlans = app.provisioningPlans := congrArg Records.plans hrecords
      rw [records_recordAll, records_upsertProvisioningPlan, hrecords, hplans]

theorem storeProvisioningPlan_error {call : PlanCall} {connector : ConnectorAdapter}
    {planned : Except RuntimeError ProvisioningPlan} {e : RuntimeError}
    (h : (app.storeProvisioningPlan H regExp call connector planned).2 = .error e) :
    (app.storeProvisioningPlan H regExp call connector planned).1.records = app.records := by
  unfold storeProvisioningPlan at h ⊢
  cases planned with
  | error e => rfl
  | ok plan =>
    have hrecords := records_prepare H regExp app connector
      { plan with connectorId := call.connectorId } call.options
    dsimp only at h ⊢
    split at h
    · rename_i hprepare
      rw [hprepare] at hrecords
      exact hrecords
    · cases h

/-- What is prepared for a call is told apart by replays as the plan of the connector
is. -/
theorem samePlan_of_prepared {call : PlanCall} {plan stored : ProvisioningPlan}
    (h : Prepared call.options { plan with connectorId := call.connectorId } stored) :
    SamePlan (call.asPrepared plan) stored := by
  constructor
  · exact h.connectorId
  · exact h.subjectId
  · exact h.resourceId
  · exact h.action
  · exact h.revokes
  · exact h.mode
  · rw [h.approval, h.mode]
    rfl
  · rw [h.control, h.mode]
    rfl
  · rw [h.readinessReportId, h.mode]
    rfl

end

end ProvisioningApp

end AccessKit.L5
