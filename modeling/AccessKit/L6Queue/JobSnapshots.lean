import AccessKit.Core.Keyed
import AccessKit.L5Runtime.JobRecords
import AccessKit.L6Queue.Envelopes

/-!
# Job snapshots

The ten collections that the job queue and the connector-state store keep next to what is
their own: packages/core/src/reference-job-snapshot-store.ts, with the ten writes of
packages/core/src/reference-job-queue.ts:500-727 as one.

Results:
* `find_upsertRecord`: the records of a snapshot after a write.
* `recordIn_ok`: what a write that is accepted leaves.
-/
namespace AccessKit.L6
open AccessKit.Core AccessKit.L1 AccessKit.L2.Audit AccessKit.L3 AccessKit.L5

/-! ## As JavaScript values -/

def EnforcementReadinessCheck.toJs (c : EnforcementReadinessCheck) : JsValue :=
  .obj [("name", .str c.name),
    ("status", .str (match c.status with
      | .pass => "pass"
      | .warn => "warn"
      | .fail => "fail")),
    ("message", .str c.message), ("evidence", optionalJs .obj c.evidence)]

def EnforcementReadinessReport.toJs (r : EnforcementReadinessReport) : JsValue :=
  .obj [("id", .str r.id), ("version", .str r.version), ("createdAt", .str r.createdAt),
    ("connectorId", .str r.connectorId), ("provider", .str r.provider),
    ("tenantBoundary", .str r.tenantBoundary), ("mode", .str "enforcement"),
    ("status", .str r.status.name), ("checkedAt", .str r.checkedAt), ("control", r.control.toJs),
    ("checks", .arr (r.checks.map EnforcementReadinessCheck.toJs)),
    ("requiredApproverRole", .str r.requiredApproverRole),
    ("changeTicketPattern", .str r.changeTicketPattern),
    ("liveProviderWritesAllowed", .bool r.liveProviderWritesAllowed),
    ("auditEventIds", L3.strings r.auditEventIds)]

/-- The property that has the id of a record. -/
def idName : RecordCollection → String
  | .decisions => "decisionId"
  | _ => "id"

/-- A record with its id in front of its other properties. -/
def RuntimeRecord.toJs (r : RuntimeRecord) : JsValue :=
  .obj ((idName r.collection, .str r.id) :: r.fields)

def JobRecord.toJs : JobRecord → JsValue
  | .provisioningPlan plan => .obj plan.toJs
  | .provisioningJob job => .obj job.toJs
  | .enforcementReadinessReport report => EnforcementReadinessReport.toJs report
  | .record r => RuntimeRecord.toJs r

/-- The records of a collection. -/
def collected (jobs : RebacJobSnapshot) (collection : RecordCollection) : List RuntimeRecord :=
  jobs.records.filter fun r => r.collection = collection

def jobsToJs (jobs : RebacJobSnapshot) : JsValue :=
  let collection (c : RecordCollection) : JsValue :=
    .arr ((collected jobs c).map RuntimeRecord.toJs)
  .obj [("discoveryRuns", collection .discoveryRuns),
    ("enforcementReadinessReports",
      .arr (jobs.enforcementReadinessReports.map EnforcementReadinessReport.toJs)),
    ("provisioningPlans", .arr (jobs.provisioningPlans.map fun plan => .obj plan.toJs)),
    ("provisioningJobs", .arr (jobs.provisioningJobs.map fun job => .obj job.toJs)),
    ("driftFindings", collection .driftFindings),
    ("accessReviewCampaigns", collection .accessReviewCampaigns),
    ("governanceFindings", collection .governanceFindings),
    ("exceptionRequests", collection .exceptionRequests),
    ("reconciliationRuns", collection .reconciliationRuns), ("decisions", collection .decisions)]

/-- mirrors packages/core/src/reference-job-snapshot-store.ts:183-196 -/
def emptyReferenceJobSnapshot : RebacJobSnapshot where
  provisioningPlans := []
  provisioningJobs := []
  enforcementReadinessReports := []
  records := []

/-! ## Reads and writes -/

/-- The record under a key. -/
def findRecord (jobs : RebacJobSnapshot) : JobKey → Option JobRecord
  | .provisioningPlan id => (findBy (·.id) jobs.provisioningPlans id).map .provisioningPlan
  | .provisioningJob id => (findBy (·.id) jobs.provisioningJobs id).map .provisioningJob
  | .enforcementReadinessReport id =>
    (findBy (·.id) jobs.enforcementReadinessReports id).map .enforcementReadinessReport
  | .record collection id => (findBy RuntimeRecord.key jobs.records (collection, id)).map .record

/-- mirrors packages/core/src/reference-job-queue.ts:1181-1209 -/
def upsertRecord (jobs : RebacJobSnapshot) : JobRecord → RebacJobSnapshot
  | .provisioningPlan plan =>
    { jobs with provisioningPlans := upsertBy (·.id) jobs.provisioningPlans plan }
  | .provisioningJob job =>
    { jobs with provisioningJobs := upsertBy (·.id) jobs.provisioningJobs job }
  | .enforcementReadinessReport report =>
    { jobs with
      enforcementReadinessReports := upsertBy (·.id) jobs.enforcementReadinessReports report }
  | .record r => { jobs with records := upsertBy RuntimeRecord.key jobs.records r }

/-- **The records after a write.** -/
theorem find_upsertRecord (jobs : RebacJobSnapshot) (r : JobRecord) (k : JobKey) :
    findRecord (upsertRecord jobs r) k = if r.key = k then some r else findRecord jobs k := by
  cases r with
  | provisioningPlan plan =>
    cases k with
    | provisioningPlan id =>
      simp only [findRecord, upsertRecord, findBy_upsertBy, JobRecord.key,
        JobKey.provisioningPlan.injEq]
      split <;> rfl
    | _ => rfl
  | provisioningJob job =>
    cases k with
    | provisioningJob id =>
      simp only [findRecord, upsertRecord, findBy_upsertBy, JobRecord.key,
        JobKey.provisioningJob.injEq]
      split <;> rfl
    | _ => rfl
  | enforcementReadinessReport report =>
    cases k with
    | enforcementReadinessReport id =>
      simp only [findRecord, upsertRecord, findBy_upsertBy, JobRecord.key,
        JobKey.enforcementReadinessReport.injEq]
      split <;> rfl
    | _ => rfl
  | record r =>
    cases k with
    | record collection id =>
      simp only [findRecord, upsertRecord, findBy_upsertBy, JobRecord.key, RuntimeRecord.key,
        JobKey.record.injEq, Prod.mk.injEq]
      split <;> rfl
    | _ => rfl

/-- What a record is called in a message. -/
def recordLabel : JobRecord → String
  | .provisioningPlan plan => "Provisioning plan " ++ plan.id
  | .provisioningJob job => "Provisioning job " ++ job.id
  | .enforcementReadinessReport report => "Enforcement readiness report " ++ report.id
  | .record r =>
    (match r.collection with
      | .discoveryRuns => "Discovery run "
      | .driftFindings => "Drift finding "
      | .accessReviewCampaigns => "Access review campaign "
      | .governanceFindings => "Governance finding "
      | .exceptionRequests => "Exception request "
      | .reconciliationRuns => "Reconciliation run "
      | .decisions => "Decision ") ++ r.id

/-- The write of a record: in its place, or once.
mirrors packages/core/src/reference-job-queue.ts:1173-1209 -/
def recordIn (jobs : RebacJobSnapshot) (r : JobRecord) : Except String RebacJobSnapshot := do
  JobRecord.assertNotRecorded (findRecord jobs r.key) r
  return upsertRecord jobs r.copy

theorem recordIn_ok {jobs jobs' : RebacJobSnapshot} {r : JobRecord}
    (h : recordIn jobs r = .ok jobs') : jobs' = upsertRecord jobs r.copy := by
  unfold recordIn at h
  cases hnew : JobRecord.assertNotRecorded (findRecord jobs r.key) r with
  | error message =>
    rw [hnew] at h
    cases h
  | ok u =>
    rw [hnew] at h
    exact (Except.ok.inj h).symm

/-! ## Tenant boundaries -/

section
variable (tenantBoundary : String)

/-- mirrors packages/core/src/reference-repository-security-utils.ts:4-8 -/
def assertReportTenantBoundary (report : EnforcementReadinessReport) : Except String Unit :=
  if report.tenantBoundary = tenantBoundary then .ok ()
  else .error ("Enforcement readiness report " ++ report.id ++
    " crosses the configured tenant boundary.")

/-- The evidence of a run that is stored, or the boundary of a report.
mirrors packages/core/src/reference-job-snapshot-store.ts:199-205 -/
def assertRecordTenant : JobRecord → Except String Unit
  | .enforcementReadinessReport report => assertReportTenantBoundary tenantBoundary report
  | .record r =>
    if r.collection = .discoveryRuns then
      assertEvidenceTenantBoundary (JsonRecord.get r.fields "evidence") tenantBoundary
        ("Discovery run " ++ r.id)
    else .ok ()
  | _ => .ok ()

/-- mirrors packages/core/src/reference-job-snapshot-store.ts:198-205 -/
def assertJobTenantBoundary (jobs : RebacJobSnapshot) : Except String Unit := do
  (collected jobs .discoveryRuns).forM fun r => assertRecordTenant tenantBoundary (.record r)
  jobs.enforcementReadinessReports.forM fun report =>
    assertRecordTenant tenantBoundary (.enforcementReadinessReport report)

end

end AccessKit.L6
