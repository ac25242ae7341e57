import AccessKit.L2Graph.Records
import AccessKit.L5Runtime.Provisioning

/-!
# The runtime's records of its work

Plans, jobs, readiness reports and the records that seven more collections hold, as records
of one kind, each under its own key: packages/core/src/store.ts:294-418 keeps a map for each
collection, packages/core/src/persistence.ts:147-178 exports a list for each. What a
repository keeps is the JSON copy of a record.

Results:
* `filing`: the records under their keys, with their copies.
* `assertNotRecorded`: what a collection takes once.
-/
namespace AccessKit.L5
open AccessKit.Core AccessKit.L1

/-! ## Copies -/

theorem cloneFields_cloneFields (fields : JsonRecord) :
    cloneFields (cloneFields fields) = cloneFields fields :=
  JsValue.obj.inj (clone_clone (.obj fields))

def ProvisioningVerification.copy (v : ProvisioningVerification) : ProvisioningVerification :=
  { v with
    expectedState := cloneFields v.expectedState
    readbackState := cloneAttributes v.readbackState }

theorem ProvisioningVerification.copy_copy (v : ProvisioningVerification) :
    v.copy.copy = v.copy := by
  simp [copy, cloneFields_cloneFields, cloneAttributes_cloneAttributes]

def ProvisioningAction.copy (a : ProvisioningAction) : ProvisioningAction :=
  { a with
    requestedState := cloneFields a.requestedState
    previousState := cloneAttributes a.previousState
    verification := a.verification.copy }

theorem ProvisioningAction.copy_copy (a : ProvisioningAction) : a.copy.copy = a.copy := by
  simp [copy, cloneFields_cloneFields, cloneAttributes_cloneAttributes,
    ProvisioningVerification.copy_copy]

def ProvisioningPlan.copy (p : ProvisioningPlan) : ProvisioningPlan :=
  { p with actions := p.actions.map ProvisioningAction.copy }

def ProvisioningActionResult.copy (r : ProvisioningActionResult) : ProvisioningActionResult :=
  { r with verification := r.verification.copy }

theorem ProvisioningActionResult.copy_copy (r : ProvisioningActionResult) :
    r.copy.copy = r.copy := by
  simp [copy, ProvisioningVerification.copy_copy]

def ProvisioningJob.copy (j : ProvisioningJob) : ProvisioningJob :=
  { j with
    actionResults := j.actionResults.map ProvisioningActionResult.copy
    verification := j.verification.copy }

def EnforcementReadinessCheck.copy (c : EnforcementReadinessCheck) : EnforcementReadinessCheck :=
  { c with evidence := cloneAttributes c.evidence }

def EnforcementReadinessReport.copy (r : EnforcementReadinessReport) :
    EnforcementReadinessReport :=
  { r with checks := r.checks.map EnforcementReadinessCheck.copy }

/-! ## Records -/

/-- The collections whose records are kept as they are. -/
inductive RecordCollection
  | discoveryRuns
  | driftFindings
  | accessReviewCampaigns
  | governanceFindings
  | exceptionRequests
  | reconciliationRuns
  | decisions
  deriving DecidableEq, Repr

/-- A record of such a collection, with its `id`, or `decisionId`. -/
structure RuntimeRecord where
  collection : RecordCollection
  id : CanonicalId
  fields : JsonRecord

def RuntimeRecord.key (r : RuntimeRecord) : RecordCollection × CanonicalId := (r.collection, r.id)

def RuntimeRecord.copy (r : RuntimeRecord) : RuntimeRecord :=
  { r with fields := cloneFields r.fields }

inductive JobKey
  | provisioningPlan (id : CanonicalId)
  | provisioningJob (id : CanonicalId)
  | enforcementReadinessReport (id : CanonicalId)
  | record (collection : RecordCollection) (id : CanonicalId)
  deriving DecidableEq, Repr

inductive JobRecord
  | provisioningPlan (plan : ProvisioningPlan)
  | provisioningJob (job : ProvisioningJob)
  | enforcementReadinessReport (report : EnforcementReadinessReport)
  | record (r : RuntimeRecord)

namespace JobRecord

def key : JobRecord → JobKey
  | .provisioningPlan plan => .provisioningPlan plan.id
  | .provisioningJob job => .provisioningJob job.id
  | .enforcementReadinessReport report => .enforcementReadinessReport report.id
  | .record r => .record r.collection r.id

def copy : JobRecord → JobRecord
  | .provisioningPlan plan => .provisioningPlan plan.copy
  | .provisioningJob job => .provisioningJob job.copy
  | .enforcementReadinessReport report => .enforcementReadinessReport report.copy
  | .record r => .record r.copy

/-- How the records of a runtime are filed. -/
def filing : Filing JobRecord JobKey where
  key := key
  copy := copy
  key_copy r := by cases r <;> rfl
  copy_copy r := by
    cases r with
    | provisioningPlan plan =>
      simp [copy, ProvisioningPlan.copy, ProvisioningAction.copy_copy, Function.comp_def]
    | provisioningJob job =>
      simp [copy, ProvisioningJob.copy, ProvisioningActionResult.copy_copy,
        ProvisioningVerification.copy_copy, Function.comp_def]
    | enforcementReadinessReport report =>
      simp [copy, EnforcementReadinessReport.copy, EnforcementReadinessCheck.copy,
        cloneAttributes_cloneAttributes, Function.comp_def]
    | record r => simp [copy, RuntimeRecord.copy, cloneFields_cloneFields]

/-- What the entity is called that a collection takes once, when it does. -/
def recordedOnce : JobRecord → Option String
  | .enforcementReadinessReport _ => some "Enforcement readiness report"
  | .record { collection := .discoveryRuns, .. } => some "Discovery run"
  | .record { collection := .reconciliationRuns, .. } => some "Reconciliation run"
  | _ => none

/-- The id of a record in its collection. -/
def recordId : JobRecord → CanonicalId
  | .provisioningPlan plan => plan.id
  | .provisioningJob job => job.id
  | .enforcementReadinessReport report => report.id
  | .record r => r.id

/-- mirrors packages/core/src/store.ts:505-509 -/
def assertNotRecorded (found : Option JobRecord) (r : JobRecord) : Except String Unit :=
  match recordedOnce r, found with
  | some entityName, some _ =>
    .error (entityName ++ " " ++ recordId r ++ " has already been recorded.")
  | _, _ => .ok ()

end JobRecord

/-- mirrors packages/core/src/persistence.ts:108-119 -/
structure RebacJobSnapshot where
  provisioningPlans : List ProvisioningPlan
  provisioningJobs : List ProvisioningJob
  enforcementReadinessReports : List EnforcementReadinessReport
  records : List RuntimeRecord

namespace RebacJobSnapshot

def copy (jobs : RebacJobSnapshot) : RebacJobSnapshot where
  provisioningPlans := jobs.provisioningPlans.map ProvisioningPlan.copy
  provisioningJobs := jobs.provisioningJobs.map ProvisioningJob.copy
  enforcementReadinessReports := jobs.enforcementReadinessReports.map
    EnforcementReadinessReport.copy
  records := jobs.records.map RuntimeRecord.copy

end RebacJobSnapshot

end AccessKit.L5
