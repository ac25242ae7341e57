import AccessKit.L5Runtime.Jobs

/-!
# Runs of provisioning operations

A runtime that makes one call after the other: calls for plans and for jobs, readiness
reports, and whatever else only records events and asks for the time. A drift remediation
(packages/api/src/runtime-reconciliation.ts:114-177) makes a call for a plan, and a queued
job that is drained (packages/api/src/job-queue-runner.ts) the calls given here.

Results:
* `perform_settings`: the connectors stay as they were registered, with the actor and the
  clock.
* `perform_plans`: an operation leaves the plans as they are, stores the plan of a
  creation, or gives an applied plan its status.
-/
namespace AccessKit.L5
open AccessKit.Core AccessKit.L1 AccessKit.L2.Audit

/-- An operation, with what the engine and the connector answer in it. -/
inductive RuntimeOperation
  | createProvisioningPlan (call : PlanCall) (decision : AuditEventInput)
      (planned : Except RuntimeError ProvisioningPlan)
  | createProvisioningJob (call : JobCall) (answers : JobAnswers)
  | recordEnforcementReadinessReport (report : EnforcementReadinessReport)
  | recordAudit (requestActor : Option CanonicalId) (inputs : List AuditEventInput)
  | now

/-! ## The queue -/

inductive ReferenceQueuedJobKind
  | discovery
  | reconciliation
  | provisioning
  | revocation
  | evidence
  deriving DecidableEq, Repr

/-- What running a queued job reads of it.
mirrors packages/core/src/reference-job-queue.ts:99-126 -/
structure ReferenceQueuedJob where
  id : CanonicalId
  kind : ReferenceQueuedJobKind
  connectorId : CanonicalId
  idempotencyKey : String
  payload : JsonRecord
  approval : Option ProvisioningApproval := none
  control : Option EnforcementControl := none
  readinessReportId : Option CanonicalId := none

/-- mirrors packages/api/src/job-queue-runner.ts:184-187 -/
def optionalString (payload : JsonRecord) (key : String) : Option String :=
  match payload.get key with
  | .str s => some s
  | _ => none

/-- mirrors packages/api/src/job-queue-runner.ts:174-182 -/
def requiredString (payload : JsonRecord) (key label : String) : Except RuntimeError String :=
  match truthy (optionalString payload key) with
  | some value => .ok value
  | none => .error (.other (label ++ " payload requires " ++ key ++ "."))

/-- mirrors packages/api/src/job-queue-runner.ts:144-152 -/
def readProvisioningMode (payload : JsonRecord) : Option ProvisioningMode :=
  match optionalString payload "mode" with
  | some "dry_run" => some .dryRun
  | some "enforcement" => some .enforcement
  | _ => none

namespace ReferenceQueuedJob

variable (job : ReferenceQueuedJob) (actor : CanonicalId) (requestActor : Option CanonicalId)

/-- The approver of the job that a queued job asks for. -/
def approverId : CanonicalId :=
  (optionalString job.payload "approverId").getD
    ((job.approval.map (·.approverId)).getD actor)

/-- mirrors packages/api/src/job-queue-runner.ts:88-97 -/
def provisioningCall (planId : CanonicalId) : JobCall where
  planId
  approverId := job.approverId actor
  idempotencyKey := ((optionalString job.payload "jobIdempotencyKey").or
    (optionalString job.payload "idempotencyKey")).getD job.idempotencyKey
  mode := readProvisioningMode job.payload
  approval := job.approval
  control := job.control
  requestActor

/-- mirrors packages/api/src/job-queue-runner.ts:103-110, 126-133 -/
def revocationCall (planId : CanonicalId) (mode : Option ProvisioningMode) : JobCall where
  planId
  approverId := job.approverId actor
  idempotencyKey := (optionalString job.payload "jobIdempotencyKey").getD (job.idempotencyKey ++ ":job")
  mode
  approval := job.approval
  control := job.control
  requestActor

/-- mirrors packages/api/src/job-queue-runner.ts:113-124 -/
def revocationPlanCall (nativeGrantId : CanonicalId) : PlanCall where
  request := .revocation nativeGrantId
  connectorId := job.connectorId
  options :=
    { mode := some ((readProvisioningMode job.payload).getD .dryRun)
      approval := job.approval
      control := job.control
      readinessReportId := job.readinessReportId }
  idempotencyKey :=
    some ((optionalString job.payload "planIdempotencyKey").getD (job.idempotencyKey ++ ":plan"))
  requestActor

end ReferenceQueuedJob

namespace ProvisioningApp

section
variable (H : Host) (regExp : String → Option (String → Bool)) (app : ProvisioningApp)

/-! ## Runs -/

/-- A report is recorded once.
mirrors packages/core/src/store.ts:322-326 -/
def recordEnforcementReadinessReport (report : EnforcementReadinessReport) : ProvisioningApp :=
  if app.enforcementReadinessReports.has report.id then app
  else { app with
    enforcementReadinessReports := app.enforcementReadinessReports.set report.id report }

/-- The runtime after an operation, whether it throws or not. -/
def perform : RuntimeOperation → ProvisioningApp
  | .createProvisioningPlan call decision planned =>
    (app.createProvisioningPlan H regExp call decision planned).1
  | .createProvisioningJob call answers => (app.createProvisioningJob H regExp call answers).1
  | .recordEnforcementReadinessReport report => app.recordEnforcementReadinessReport report
  | .recordAudit requestActor inputs => (recordAll H requestActor inputs app).1
  | .now => app.tick

def run (app : ProvisioningApp) (operations : List RuntimeOperation) : ProvisioningApp :=
  operations.foldl (fun app operation => app.perform H regExp operation) app

@[simp] theorem run_nil : run H regExp app [] = app := rfl

@[simp] theorem run_cons (operation : RuntimeOperation) (operations : List RuntimeOperation) :
    run H regExp app (operation :: operations) =
      run H regExp (app.perform H regExp operation) operations := rfl

theorem run_append (operations operations' : List RuntimeOperation) :
    run H regExp app (operations ++ operations') =
      run H regExp (run H regExp app operations) operations' :=
  List.foldl_append ..

end

/-! ## What an operation leaves -/

section
variable {H : Host} {regExp : String → Option (String → Bool)} {app : ProvisioningApp}

variable (H regExp app) in
/-- A call for a plan: it throws or is answered from the store, and the records stay, or
a new plan is stored. -/
theorem createProvisioningPlan_cases (call : PlanCall) (decision : AuditEventInput)
    (planned : Except RuntimeError ProvisioningPlan) :
    ((app.createProvisioningPlan H regExp call decision planned).1.records = app.records ∧
      ∀ stored, (app.createProvisioningPlan H regExp call decision planned).2 = .ok stored →
        app.planOfKey call.idempotencyKey = some stored) ∨
    ∃ stored plan, (app.createProvisioningPlan H regExp call decision planned).2 = .ok stored ∧
      (∃ connector, app.connectors.get? call.connectorId = some connector) ∧
      app.planOfKey call.idempotencyKey = none ∧ planned = .ok plan ∧
      stored.idempotencyKey = call.idempotencyKey ∧
      Prepared call.options { plan with connectorId := call.connectorId } stored ∧
      (app.createProvisioningPlan H regExp call decision planned).1.records =
        { app.records with plans := app.provisioningPlans.set stored.id stored } := by
  have hrecords := records_requestProvisioningPlan H app call decision
  unfold createProvisioningPlan
  split
  · rename_i app' result hrequest
    rw [hrequest] at hrecords
    refine .inl ⟨hrecords, fun stored hstored => ?_⟩
    obtain ⟨-, ⟨-, rfl⟩ | ⟨existing, hkey, rfl⟩⟩ :=
      requestProvisioningPlan_settled (congrArg Prod.snd hrequest)
    · cases hstored
    · dsimp only at hstored
      split at hstored
      · cases hstored
        exact hkey
      · cases hstored
  · rename_i app' connector hrequest
    rw [hrequest] at hrecords
    obtain ⟨hconnector, hkey⟩ := requestProvisioningPlan_planning (congrArg Prod.snd hrequest)
    have hplans : app'.provisioningPlans = app.provisioningPlans := congrArg Records.plans hrecords
    cases hstored : (app'.storeProvisioningPlan H regExp call connector planned).2 with
    | error e => exact .inl ⟨(storeProvisioningPlan_error hstored).trans hrecords, fun _ h => by cases h⟩
    | ok stored =>
      obtain ⟨hset, plan, hplanned, hidempotencyKey, hprepared⟩ := storeProvisioningPlan_ok hstored
      refine .inr ⟨stored, plan, rfl, ⟨connector, hconnector⟩, hkey, hplanned, hidempotencyKey, hprepared, ?_⟩
      have hrecords : app'.records = app.records := hrecords
      rw [hset, hplans, hrecords]

theorem createProvisioningPlan_replay {call : PlanCall} {existing : ProvisioningPlan}
    {connector : ConnectorAdapter} (hconnector : app.connectors.get? call.connectorId = some connector)
    (hkey : app.planOfKey call.idempotencyKey = some existing) (decision : AuditEventInput)
    (planned : Except RuntimeError ProvisioningPlan) :
    app.createProvisioningPlan H regExp call decision planned =
      (app, if call.matchesExisting existing then .ok existing
        else .error (idempotencyKeyReused "plan")) := by
  unfold createProvisioningPlan requestProvisioningPlan
  rw [hconnector, hkey]

variable (app) in
theorem recordEnforcementReadinessReport_records (report : EnforcementReadinessReport) :
    ∃ reports, (app.recordEnforcementReadinessReport report).records =
      { app.records with reports } := by
  unfold recordEnforcementReadinessReport
  split
  · exact ⟨_, rfl⟩
  · exact ⟨_, rfl⟩

/-- What becomes of the plans: they stay, the plan of a creation is stored, or an applied
plan gets its status. -/
inductive PlansStep (H : Host) (regExp : String → Option (String → Bool)) (app : ProvisioningApp) :
    RuntimeOperation → OrderedMap CanonicalId ProvisioningPlan → Prop
  | same {operation : RuntimeOperation} : PlansStep H regExp app operation app.provisioningPlans
  | created {call : PlanCall} {decision : AuditEventInput} {plan stored : ProvisioningPlan}
      (hfresh : app.planOfKey call.idempotencyKey = none)
      (hresult : (app.createProvisioningPlan H regExp call decision (.ok plan)).2 = .ok stored)
      (hkey : stored.idempotencyKey = call.idempotencyKey)
      (hprepared : Prepared call.options { plan with connectorId := call.connectorId } stored) :
      PlansStep H regExp app (.createProvisioningPlan call decision (.ok plan))
        (app.provisioningPlans.set stored.id stored)
  | applied {call : JobCall} {answers : JobAnswers} {plan appliedPlan : ProvisioningPlan}
      {startedAt completedAt : IsoDateTime} {verified : Bool}
      (happlying : (app.startProvisioningJob H regExp call).2 = .applying plan startedAt)
      (happlied : answers.applied = .ok appliedPlan) (hverified : answers.verified = .ok verified) :
      PlansStep H regExp app (.createProvisioningJob call answers)
        (app.provisioningPlans.set plan.id
          (updatedPlan plan (completed appliedPlan verified) completedAt))

variable (H regExp app) in
theorem perform_plans (operation : RuntimeOperation) :
    PlansStep H regExp app operation (app.perform H regExp operation).provisioningPlans := by
  cases operation with
  | createProvisioningPlan call decision planned =>
    rcases createProvisioningPlan_cases H regExp app call decision planned with
      ⟨h, -⟩ | ⟨stored, plan, hresult, -, hfresh, rfl, hkey, hprepared, h⟩
    · show PlansStep H regExp app _ (app.createProvisioningPlan H regExp call _ _).1.records.plans
      rw [h]
      exact .same
    · show PlansStep H regExp app _ (app.createProvisioningPlan H regExp call _ _).1.records.plans
      rw [h]
      exact .created hfresh hresult hkey hprepared
  | createProvisioningJob call answers =>
    obtain ⟨result, -, h⟩ := createProvisioningJob_run H regExp app call answers
    show PlansStep H regExp app _ (app.createProvisioningJob H regExp call answers).1.records.plans
    generalize (app.createProvisioningJob H regExp call answers).1.records = records at h ⊢
    generalize happlying : (app.startProvisioningJob H regExp call).2 = progress at h
    cases h with
    | enforcementStored happlied hverified _ => exact .applied happlying happlied hverified
    | _ => exact .same
  | recordEnforcementReadinessReport report =>
    obtain ⟨reports, h⟩ := recordEnforcementReadinessReport_records app report
    show PlansStep H regExp app _ (app.recordEnforcementReadinessReport report).records.plans
    rw [h]
    exact .same
  | recordAudit requestActor inputs =>
    show PlansStep H regExp app _ (recordAll H requestActor inputs app).1.records.plans
    rw [records_recordAll]
    exact .same
  | now => exact .same

variable (H regExp app) in
theorem perform_settings (operation : RuntimeOperation) :
    (app.perform H regExp operation).connectors = app.connectors ∧
      (app.perform H regExp operation).actor = app.actor ∧
      (app.perform H regExp operation).clock = app.clock := by
  have hsame : ∀ {app' : ProvisioningApp} {plans jobs reports},
      app'.records = { app.records with plans, jobs, reports } →
      app'.connectors = app.connectors ∧ app'.actor = app.actor ∧ app'.clock = app.clock :=
    fun h => ⟨congrArg Records.connectors h, congrArg Records.actor h, congrArg Records.clock h⟩
  cases operation with
  | createProvisioningPlan call decision planned =>
    rcases createProvisioningPlan_cases H regExp app call decision planned with
      ⟨h, -⟩ | ⟨stored, plan, -, -, -, -, -, -, h⟩
    · exact hsame h
    · exact hsame h
  | createProvisioningJob call answers =>
    obtain ⟨result, -, h⟩ := createProvisioningJob_run H regExp app call answers
    generalize hrecords : (app.createProvisioningJob H regExp call answers).1.records = records at h
    generalize (app.startProvisioningJob H regExp call).2 = progress at h
    cases h <;> exact hsame hrecords
  | recordEnforcementReadinessReport report =>
    obtain ⟨reports, h⟩ := recordEnforcementReadinessReport_records app report
    exact hsame h
  | recordAudit requestActor inputs => exact hsame (records_recordAll H requestActor inputs app)
  | now => exact ⟨rfl, rfl, rfl⟩

variable (H regExp app) in
theorem perform_connectors (operation : RuntimeOperation) :
    (app.perform H regExp operation).connectors = app.connectors :=
  (perform_settings H regExp app operation).1

theorem run_clock (operations : List RuntimeOperation) :
    (run H regExp app operations).clock = app.clock := by
  induction operations generalizing app with
  | nil => rfl
  | cons operation operations ih => exact ih.trans (perform_settings H regExp app operation).2.2

end

end ProvisioningApp

end AccessKit.L5
