import AccessKit.L2Audit.Fixtures
import AccessKit.L6Queue.QueueSteps

/-!
# A queue to try things on

A store with one job, and what calls make of it.
-/
namespace AccessKit.L6.Fixtures
open AccessKit.Core AccessKit.L1 AccessKit.L2.Audit AccessKit.L2.Audit.Fixtures AccessKit.L3
  ReferenceJobQueueAdapter

/-- An adapter on a host without collisions. -/
def plainAdapter : ReferenceJobQueueAdapter where
  host := exactHost
  localeCompare s t := if stringLe s t then (if stringLe t s then 0 else -1) else 1
  tenantBoundary := "tenant:acme"
  location := "memory:queue"

/-- An export that is asked for and reserved. -/
def evidenceRequest : ReferenceJobQueueEnqueueRequest where
  kind := .evidence
  connectorId := "connector:mock"
  idempotencyKey := "evidence:1"
  payload := []

/-- The job of the export. -/
def evidenceJob (maxAttempts : Rat) (requestedAt : IsoDateTime) : ReferenceQueuedJob :=
  createQueuedJob exactHost
    { kind := .evidence
      connectorId := "connector:mock"
      idempotencyKey := "evidence:1"
      payload := []
      priority := .normal
      requestedAt
      maxAttempts
      backoff := defaultBackoffPolicy
      approval := none
      control := none
      readinessReportId := none
      replayedFromJobId := none }

/-- A queue with one job. -/
def queueOf (job : ReferenceQueuedJob) : ReferenceJobQueueSnapshot :=
  withNewJob emptyQueueSnapshot job

/-- A record with one job. -/
def recordOf (job : ReferenceQueuedJob) (storedAt : IsoDateTime) :
    ReferenceJobQueueStoreRecord where
  jobs := emptyReferenceJobSnapshot
  queue := queueOf job
  backupMetadata := []
  storedAt

theorem find_queueOf (job : ReferenceQueuedJob) :
    findBy (·.id) (queueOf job).queuedJobs job.id = some job :=
  (findBy_cons job [] job.id).trans (if_pos rfl)

/-! ## What can be stored -/

/-- The properties of what a record holds, when nothing comes with its jobs. -/
def plainKeys : List String :=
  ["id", "kind", "connectorId", "status", "priority", "idempotencyKey", "requestHash", "payload",
    "attempts", "maxAttempts", "backoff", "requestedAt", "availableAt", "updatedAt", "workerId",
    "startedAt", "leaseExpiresAt", "completedAt", "failedAt", "deadLetteredAt", "lastError",
    "replayedFromJobId", "approval", "control", "readinessReportId", "version", "strategy",
    "initialDelayMs", "maxDelayMs", "multiplier", "jobId", "recordedAt", "queuedJobs",
    "connectorHealth", "idempotencyRecords", "discoveryRuns", "enforcementReadinessReports",
    "provisioningPlans", "provisioningJobs", "driftFindings", "accessReviewCampaigns",
    "governanceFindings", "exceptionRequests", "reconciliationRuns", "decisions", "planId"]

theorem plainKeys_clean (k : String) (hk : k ∈ plainKeys) :
    isSecretMaterialSensitiveKey exactHost k = false := by
  -- the kernel judges a quarter of the keys at a time
  rw [← List.take_append_drop 24 plainKeys, ← List.take_append_drop 12 (plainKeys.take 24),
    ← List.take_append_drop 12 (plainKeys.drop 24)] at hk
  simp only [List.mem_append, or_assoc] at hk
  obtain hk | hk | hk | hk := hk
  · exact insensitive exactHost (by decide +kernel) k hk
  · exact insensitive exactHost (by decide +kernel) k hk
  · exact insensitive exactHost (by decide +kernel) k hk
  · exact insensitive exactHost (by decide +kernel) k hk

theorem noSecretKeys_obj_of {fields : JsonRecord} (hkeys : ∀ p ∈ fields, p.1 ∈ plainKeys)
    (h : ∀ p ∈ fields, NoSecretKeys exactHost p.2) : NoSecretKeys exactHost (.obj fields) :=
  .obj (fun p hp => plainKeys_clean _ (hkeys p hp)) h

theorem noSecretKeys_empty : NoSecretKeys exactHost (.obj []) :=
  .obj (fun p hp => by cases hp) fun p hp => by cases hp

/-- A job without approval and control settings. -/
structure Plain (job : ReferenceQueuedJob) : Prop where
  payload : NoSecretKeys exactHost (.obj job.payload)
  approval : job.approval = none
  control : job.control = none

theorem noSecretKeys_backoff (b : ReferenceJobQueueBackoffPolicy) :
    NoSecretKeys exactHost b.toJs := by
  refine noSecretKeys_obj_of (by simp [plainKeys]) ?_
  simp only [List.forall_mem_cons, NoSecretKeys.str, NoSecretKeys.num, true_and, List.not_mem_nil,
    false_implies, implies_true, and_true]
  cases b.multiplier with
  | none => exact .undefined
  | some q => exact .num _

theorem noSecretKeys_job {job : ReferenceQueuedJob} (h : Plain job) :
    NoSecretKeys exactHost job.toJs := by
  refine noSecretKeys_obj_of (by simp [plainKeys]) ?_
  rw [h.approval, h.control]
  simp only [List.forall_mem_cons, NoSecretKeys.str, NoSecretKeys.num, noSecretKeys_optional,
    noSecretKeys_backoff, natural, optionalJs, NoSecretKeys.undefined, h.payload,
    List.not_mem_nil, false_implies, implies_true, and_true]

theorem storable_queueOf {job : ReferenceQueuedJob} (h : Plain job) (storedAt : IsoDateTime) :
    Storable plainAdapter (recordOf job storedAt).toQueueContent where
  tenant := rfl
  jobs := by
    refine noSecretKeys_obj_of (by simp [plainKeys]) ?_
    simp only [List.forall_mem_cons, List.not_mem_nil, false_implies, implies_true, and_true]
    refine ⟨?_, ?_, ?_, ?_, ?_, ?_, ?_, ?_, ?_, ?_⟩ <;> exact .arr fun v hv => by cases hv
  queue := by
    refine noSecretKeys_obj_of (by simp [plainKeys]) ?_
    simp only [List.forall_mem_cons, List.not_mem_nil, false_implies, implies_true, and_true]
    refine ⟨.arr ?_, .arr ?_, .arr ?_⟩
    · intro v hv
      rw [List.mem_singleton.1 hv]
      exact noSecretKeys_job h
    · exact fun v hv => by cases hv
    · intro v hv
      rw [List.mem_singleton.1 hv]
      refine noSecretKeys_obj_of (by simp [plainKeys]) ?_
      simp only [List.forall_mem_cons, NoSecretKeys.str, true_and, List.not_mem_nil,
        false_implies, implies_true]

/-! ## Calls -/

theorem withJob_queueOf {job job' : ReferenceQueuedJob}
    (h : (job'.id, job'.idempotencyKey, job'.requestHash, job'.requestedAt) =
      (job.id, job.idempotencyKey, job.requestHash, job.requestedAt)) :
    withJob (queueOf job) job' = queueOf job' := by
  simp only [Prod.mk.injEq] at h
  obtain ⟨hid, hkey, hhash, hrequested⟩ := h
  simp [withJob, queueOf, withNewJob, emptyQueueSnapshot, upsertBy, hid, hkey, hhash, hrequested]

theorem content_queueOf (job job' : ReferenceQueuedJob) (storedAt storedAt' : IsoDateTime)
    (h : (job'.id, job'.idempotencyKey, job'.requestHash, job'.requestedAt) =
      (job.id, job.idempotencyKey, job.requestHash, job.requestedAt)) :
    { (recordOf job storedAt).toQueueContent with
      queue := withJob (recordOf job storedAt).queue job' } =
      (recordOf job' storedAt').toQueueContent := by
  rw [show (recordOf job storedAt).queue = queueOf job from rfl, withJob_queueOf h]
  rfl

theorem checked_evidence (maxAttempts : Rat) (now : IsoDateTime) :
    plainAdapter.checked now (contentOf none)
      (.enqueueJob { evidenceRequest with maxAttempts := some maxAttempts }) =
      .ok { request := (evidenceJob maxAttempts now).request } := by
  exact enqueueJob_ok.2 ⟨_, rfl, assertEnqueueable_ok.2 ⟨rfl, noSecretKeys_empty⟩, rfl⟩

theorem perform_evidence (maxAttempts : Rat) (now : IsoDateTime) :
    plainAdapter.perform now
      (.enqueue (.enqueueJob { evidenceRequest with maxAttempts := some maxAttempts })) none =
      some (recordOf (evidenceJob maxAttempts now) now) := by
  have hcommit : plainAdapter.commitSnapshot now (plainAdapter.enqueueNormalizedJob
      { request := (evidenceJob maxAttempts now).request }) none =
      (some (recordOf (evidenceJob maxAttempts now) now), .ok (evidenceJob maxAttempts now)) :=
    commitSnapshot_stores rfl (storable_queueOf ⟨noSecretKeys_empty, rfl, rfl⟩ now)
  rw [perform_enqueue, enqueue_of_checked (checked_evidence maxAttempts now)]
  exact congrArg Prod.fst hcommit

/-- The only job is reserved, when it may be after a recovery. -/
theorem commit_reserve {job : ReferenceQueuedJob} (hplain : Plain job) {storedAt : IsoDateTime}
    (now : IsoDateTime) {workerId leaseExpiresAt : String}
    (hqueued : (job.recovered now).status = .queued)
    (havailable : stringLe (job.recovered now).availableAt now = true)
    (hlease : addMilliseconds exactHost now defaultLeaseDurationMs = .ok leaseExpiresAt) :
    plainAdapter.commitSnapshot now (plainAdapter.reserveNextJob { workerId } now)
      (some (recordOf job storedAt)) =
      (some (recordOf ((job.recovered now).reserved workerId now leaseExpiresAt) now),
        .ok (some ((job.recovered now).reserved workerId now leaseExpiresAt))) := by
  have hsame : (job.recovered now).payload = job.payload ∧
      (job.recovered now).approval = job.approval ∧ (job.recovered now).control = job.control ∧
      (job.recovered now).idempotencyKey = job.idempotencyKey ∧ (job.recovered now).id = job.id ∧
      (job.recovered now).requestHash = job.requestHash ∧
      (job.recovered now).requestedAt = job.requestedAt := by
    unfold ReferenceQueuedJob.recovered
    split <;> exact ⟨rfl, rfl, rfl, rfl, rfl, rfl, rfl⟩
  obtain ⟨hpayload, happroval, hcontrol, hkey, hid, hhash, hrequested⟩ := hsame
  generalize hrecovered : job.recovered now = recovered at *
  have hqueue : recoverExpiredRunningJobs (queueOf job) now = queueOf recovered := by
    simp only [recoverExpiredRunningJobs, queueOf, withNewJob, emptyQueueSnapshot, List.nil_append,
      List.map_cons, List.map_nil, hrecovered, hkey, hid, hhash, hrequested]
  refine commitSnapshot_stores ?_ (storable_queueOf ⟨?_, ?_, ?_⟩ now)
  · show plainAdapter.reserveNextJob { workerId } now (recordOf job storedAt).toQueueContent = _
    unfold reserveNextJob
    simp only [recordOf, hqueue]
    have heligible : ((queueOf recovered).queuedJobs.filter fun job =>
        job.status = .queued && stringLe job.availableAt now &&
          isConnectorReservable job (queueOf recovered)) = [recovered] := by
      simp [queueOf, withNewJob, emptyQueueSnapshot, isConnectorReservable, hqueued, havailable]
    rw [heligible, List.mergeSort_singleton]
    have hput : withJob (queueOf recovered) (recovered.reserved workerId now leaseExpiresAt) =
        queueOf (recovered.reserved workerId now leaseExpiresAt) := withJob_queueOf rfl
    show (addMilliseconds exactHost now defaultLeaseDurationMs >>= _) = _
    rw [hlease, ← hput]
    rfl
  · exact hpayload.symm ▸ hplain.payload
  · exact happroval.trans hplain.approval
  · exact hcontrol.trans hplain.control

/-- The only job fails, and goes back to the queue. -/
theorem commit_retry {job : ReferenceQueuedJob} (hplain : Plain job) {storedAt : IsoDateTime}
    {now availableAt : IsoDateTime} {request : ReferenceJobFailureRequest}
    (hrunning : job.status = .running) (hworker : WorkerMatches job request.workerId)
    (hattempts : (job.attempts : Rat) < job.maxAttempts)
    (havailable : addMilliseconds exactHost now (backoffDelayMs job) = .ok availableAt) :
    plainAdapter.commitSnapshot now (plainAdapter.recordJobFailure job.id request now)
      (some (recordOf job storedAt)) =
      (some (recordOf (job.retried now availableAt request.error) now),
        .ok (job.retried now availableAt request.error)) := by
  have hfailed : Plain (job.retried now availableAt request.error) :=
    ⟨hplain.payload, hplain.approval, hplain.control⟩
  refine commitSnapshot_stores ?_ (storable_queueOf hfailed now)
  exact (recordJobFailure_retried (find_queueOf _) hrunning hworker hattempts havailable).trans
    (congrArg (fun content => Except.ok (content, _))
      (content_queueOf job (job.retried _ _ _) _ now rfl))

/-- The only job fails on its last attempt, and is dead-lettered. -/
theorem commit_deadLetter {job : ReferenceQueuedJob} (hplain : Plain job) {storedAt : IsoDateTime}
    (now : IsoDateTime) {request : ReferenceJobFailureRequest} (hrunning : job.status = .running)
    (hworker : WorkerMatches job request.workerId)
    (hattempts : ¬ (job.attempts : Rat) < job.maxAttempts) :
    plainAdapter.commitSnapshot now (plainAdapter.recordJobFailure job.id request now)
      (some (recordOf job storedAt)) =
      (some (recordOf (job.deadLettered request.workerId now request.error) now),
        .ok (job.deadLettered request.workerId now request.error)) := by
  have hfailed : Plain (job.deadLettered request.workerId now request.error) :=
    ⟨hplain.payload, hplain.approval, hplain.control⟩
  refine commitSnapshot_stores ?_ (storable_queueOf hfailed now)
  exact (recordJobFailure_deadLettered (find_queueOf _) hrunning hworker hattempts).trans
    (congrArg (fun content => Except.ok (content, _))
      (content_queueOf job (job.deadLettered _ _ _) _ now rfl))

/-! ## A worker that dies -/

def midnight : IsoDateTime := "2026-01-01T00:00:00.000Z"

/-- When the lease of a reservation at midnight is long over. -/
def oneOClock : IsoDateTime := "2026-01-01T01:00:00.000Z"

/-- The job of the export, as it is reserved at midnight. -/
def heldFirst (maxAttempts : Rat) (workerId : CanonicalId) : ReferenceQueuedJob :=
  (evidenceJob maxAttempts midnight).reserved workerId midnight "2026-01-01T00:05:00.000Z"

/-- The same job, reserved again an hour later. -/
def heldAgain (maxAttempts : Rat) (workerId workerId' : CanonicalId) : ReferenceQueuedJob :=
  ((heldFirst maxAttempts workerId).recovered oneOClock).reserved workerId' oneOClock
    "2026-01-01T01:05:00.000Z"

theorem reserve_first (maxAttempts : Rat) (workerId : CanonicalId) :
    plainAdapter.commitSnapshot midnight (plainAdapter.reserveNextJob { workerId } midnight)
      (some (recordOf (evidenceJob maxAttempts midnight) midnight)) =
      (some (recordOf (heldFirst maxAttempts workerId) midnight),
        .ok (some (heldFirst maxAttempts workerId))) := by
  have havailable : stringLe midnight midnight = true := by decide +kernel
  have hlease : addMilliseconds exactHost midnight defaultLeaseDurationMs =
      .ok "2026-01-01T00:05:00.000Z" := by decide +kernel
  exact commit_reserve ⟨noSecretKeys_empty, rfl, rfl⟩ midnight rfl havailable hlease

theorem expired_first (maxAttempts : Rat) (workerId : CanonicalId) :
    (heldFirst maxAttempts workerId).expiredLease oneOClock = some "2026-01-01T00:05:00.000Z" := by
  have hover : (truthy (some "2026-01-01T00:05:00.000Z")).filter
      (fun lease => stringLe lease oneOClock) = some "2026-01-01T00:05:00.000Z" := by
    decide +kernel
  exact hover

theorem reserve_again (maxAttempts : Rat) (workerId workerId' : CanonicalId) :
    plainAdapter.commitSnapshot oneOClock
      (plainAdapter.reserveNextJob { workerId := workerId' } oneOClock)
      (some (recordOf (heldFirst maxAttempts workerId) midnight)) =
      (some (recordOf (heldAgain maxAttempts workerId workerId') oneOClock),
        .ok (some (heldAgain maxAttempts workerId workerId'))) := by
  have hlease : addMilliseconds exactHost oneOClock defaultLeaseDurationMs =
      .ok "2026-01-01T01:05:00.000Z" := by decide +kernel
  have hrecovered : ((heldFirst maxAttempts workerId).recovered oneOClock).status = .queued ∧
      ((heldFirst maxAttempts workerId).recovered oneOClock).availableAt = oneOClock := by
    unfold ReferenceQueuedJob.recovered
    rw [expired_first]
    exact ⟨rfl, rfl⟩
  have havailable : stringLe oneOClock oneOClock = true := by decide +kernel
  exact commit_reserve ⟨noSecretKeys_empty, rfl, rfl⟩ oneOClock hrecovered.1
    (hrecovered.2.symm ▸ havailable) hlease

end AccessKit.L6.Fixtures
