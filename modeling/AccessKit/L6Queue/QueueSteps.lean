import AccessKit.L6Queue.JobQueue

/-!
# What a call can do to the queue

One lemma for each write of packages/core/src/reference-job-queue.ts, and what they say
together: a call leaves the queue, or takes one of the steps of `QueueStep`.

Results:
* `commitSnapshot_cases`: a commit that throws leaves the store, and one that does not
  stores what the mutation computed.
* `commit_queue_invariant`: what holds of the queue after a commit.
* `perform_queue`: a call takes a step, or leaves the queue.
-/
namespace AccessKit.L6
open AccessKit.Core AccessKit.L1 AccessKit.L2.Audit
open AccessKit.L5 (RebacJobSnapshot JobRecord ProvisioningPlan ProvisioningJob)

/-! ## Commits -/

theorem except_bind_ok {ε α β : Type} {e : Except ε α} {f : α → Except ε β} {b : β} :
    (e >>= f) = .ok b ↔ ∃ a, e = .ok a ∧ f a = .ok b := by
  cases e with
  | error message => exact ⟨fun h => (by cases h), fun ⟨_, h, _⟩ => (by cases h)⟩
  | ok a => exact ⟨fun h => ⟨a, rfl, h⟩, fun ⟨a', h, hf⟩ => (by cases h; exact hf)⟩

theorem exists_unit {p : Unit → Prop} : (∃ u, p u) ↔ p () :=
  ⟨fun ⟨_, h⟩ => h, fun h => ⟨(), h⟩⟩

namespace ReferenceJobQueueAdapter

variable {adapter : ReferenceJobQueueAdapter}

/-- What the adapter stores: everything in its tenant, and nothing secret. -/
structure Storable (adapter : ReferenceJobQueueAdapter) (content : QueueContent) : Prop where
  tenant : assertJobTenantBoundary adapter.tenantBoundary content.jobs = .ok ()
  jobs : NoSecretKeys adapter.host (jobsToJs content.jobs)
  queue : NoSecretKeys adapter.host content.queue.toJs

theorem createRecord_ok {storedAt : IsoDateTime} {content : QueueContent}
    {record : ReferenceJobQueueStoreRecord} :
    adapter.createRecord storedAt content = .ok record ↔
      Storable adapter content ∧ record = { toQueueContent := content, storedAt } := by
  unfold createRecord
  simp only [except_bind_ok, exists_unit, assertNoSecretMaterial_ok]
  constructor
  · rintro ⟨htenant, hjobs, hqueue, h⟩
    exact ⟨⟨htenant, hjobs, hqueue⟩, (Except.ok.inj h).symm⟩
  · rintro ⟨⟨htenant, hjobs, hqueue⟩, rfl⟩
    exact ⟨htenant, hjobs, hqueue, rfl⟩

theorem attempt_ok {α : Type} {storedAt : IsoDateTime} {mutate : Mutation α}
    {expected : Option ReferenceJobQueueStoreRecord} {record : ReferenceJobQueueStoreRecord}
    {result : α} : adapter.attempt storedAt mutate expected = .ok (record, result) ↔
      mutate (contentOf expected) = .ok (record.toQueueContent, result) ∧
        Storable adapter record.toQueueContent ∧ record.storedAt = storedAt := by
  unfold attempt
  simp only [except_bind_ok, Prod.exists, createRecord_ok]
  constructor
  · rintro ⟨content, result', hmutate, record', ⟨hstorable, rfl⟩, h⟩
    cases h
    exact ⟨hmutate, hstorable, rfl⟩
  · rintro ⟨hmutate, hstorable, rfl⟩
    exact ⟨_, _, hmutate, record, ⟨hstorable, rfl⟩, rfl⟩

variable (adapter) in
/-- **A commit** throws and leaves the store, or stores what was computed. -/
theorem commitSnapshot_cases {α : Type} (storedAt : IsoDateTime) (mutate : Mutation α)
    (current : Option ReferenceJobQueueStoreRecord) :
    (∃ message, adapter.commitSnapshot storedAt mutate current = (current, .error message)) ∨
    ∃ content result, mutate (contentOf current) = .ok (content, result) ∧
      Storable adapter content ∧ adapter.commitSnapshot storedAt mutate current =
        (some { toQueueContent := content, storedAt }, .ok result) := by
  unfold commitSnapshot
  cases hattempt : adapter.attempt storedAt mutate current with
  | error message => exact .inl ⟨message, rfl⟩
  | ok stored =>
    obtain ⟨hmutate, hstorable, hstoredAt⟩ := attempt_ok.1 hattempt
    refine .inr ⟨_, _, hmutate, hstorable, ?_⟩
    rw [← hstoredAt]

theorem commitSnapshot_throws {α : Type} {storedAt : IsoDateTime} {mutate : Mutation α}
    {current : Option ReferenceJobQueueStoreRecord} {message : String}
    (h : mutate (contentOf current) = .error message) :
    adapter.commitSnapshot storedAt mutate current = (current, .error message) := by
  unfold commitSnapshot attempt
  rw [h]
  rfl

/-! ## Mutations -/

theorem requiredQueuedJob_ok {queue : ReferenceJobQueueSnapshot} {id : CanonicalId}
    {job : ReferenceQueuedJob} :
    requiredQueuedJob queue id = .ok job ↔ findBy (·.id) queue.queuedJobs id = some job := by
  unfold requiredQueuedJob
  split <;> simp_all

theorem assertJobRunning_ok {job : ReferenceQueuedJob} {operation : String} :
    assertJobRunning job operation = .ok () ↔ job.status = .running := by
  unfold assertJobRunning
  split <;> simp_all

/-- The lease of a job is not over at a time. -/
def LeaseActive (job : ReferenceQueuedJob) (time : IsoDateTime) : Prop :=
  ∀ lease, truthy job.leaseExpiresAt = some lease → stringLe lease time = false

theorem assertLeaseActive_ok {job : ReferenceQueuedJob} {time : IsoDateTime} {operation : String} :
    assertLeaseActive job time operation = .ok () ↔ LeaseActive job time := by
  unfold assertLeaseActive LeaseActive
  cases truthy job.leaseExpiresAt with
  | none => simp
  | some lease => by_cases h : stringLe lease time <;> simp [Option.filter, h]

/-- A report names the worker that holds the job, or one of them is left out. -/
def WorkerMatches (job : ReferenceQueuedJob) (workerId : Option CanonicalId) : Prop :=
  ∀ w holder, truthy workerId = some w → truthy job.workerId = some holder → w = holder

theorem assertWorkerMatches_ok {job : ReferenceQueuedJob} {workerId : Option CanonicalId} :
    assertWorkerMatches job workerId = .ok () ↔ WorkerMatches job workerId := by
  unfold assertWorkerMatches WorkerMatches
  cases truthy workerId with
  | none => simp
  | some w =>
    cases truthy job.workerId with
    | none => simp
    | some holder => by_cases h : w = holder <;> simp [h]

theorem completeJob_ok {jobId : CanonicalId} {request : ReferenceJobCompletionRequest}
    {completedAt : IsoDateTime} {content content' : QueueContent} {result : ReferenceQueuedJob} :
    completeJob jobId request completedAt content = .ok (content', result) ↔
      ∃ job, findBy (·.id) content.queue.queuedJobs jobId = some job ∧ job.status = .running ∧
        LeaseActive job completedAt ∧ WorkerMatches job request.workerId ∧
        result = job.completed request.workerId completedAt ∧
        content' = { content with queue := withJob content.queue result } := by
  unfold completeJob
  simp only [except_bind_ok, exists_unit, requiredQueuedJob_ok, assertJobRunning_ok,
    assertLeaseActive_ok, assertWorkerMatches_ok]
  constructor
  · rintro ⟨job, hfind, hrunning, hlease, hworker, h⟩
    cases h
    exact ⟨job, hfind, hrunning, hlease, hworker, rfl, rfl⟩
  · rintro ⟨job, hfind, hrunning, hlease, hworker, rfl, rfl⟩
    exact ⟨job, hfind, hrunning, hlease, hworker, rfl⟩

theorem completeJob_expired {jobId : CanonicalId} {request : ReferenceJobCompletionRequest}
    {completedAt lease : IsoDateTime} {content : QueueContent} {job : ReferenceQueuedJob}
    (hfind : findBy (·.id) content.queue.queuedJobs jobId = some job)
    (hrunning : job.status = .running)
    (hlease : (truthy job.leaseExpiresAt).filter (fun lease => stringLe lease completedAt) =
      some lease) :
    completeJob jobId request completedAt content =
      .error ("Cannot complete production queue job " ++ job.id ++
        " because its worker lease expired at " ++ lease ++ ".") := by
  unfold completeJob
  simp only [requiredQueuedJob_ok.2 hfind, assertJobRunning_ok.2 hrunning, assertLeaseActive,
    hlease, bind, Except.bind]
  rfl

/-- What a failure makes of a job. -/
inductive Failed (request : ReferenceJobFailureRequest) (failedAt : IsoDateTime)
    (job : ReferenceQueuedJob) : ReferenceQueuedJob → Prop
  | retried (availableAt : IsoDateTime) (hattempts : (job.attempts : Rat) < job.maxAttempts) :
      Failed request failedAt job (job.retried failedAt availableAt request.error)
  | deadLettered (hattempts : ¬ (job.attempts : Rat) < job.maxAttempts) :
      Failed request failedAt job (job.deadLettered request.workerId failedAt request.error)

theorem recordJobFailure_ok {jobId : CanonicalId} {request : ReferenceJobFailureRequest}
    {failedAt : IsoDateTime} {content content' : QueueContent} {result : ReferenceQueuedJob}
    (h : adapter.recordJobFailure jobId request failedAt content = .ok (content', result)) :
    ∃ job, findBy (·.id) content.queue.queuedJobs jobId = some job ∧ job.status = .running ∧
      WorkerMatches job request.workerId ∧ Failed request failedAt job result ∧
      content' = { content with queue := withJob content.queue result } := by
  unfold recordJobFailure at h
  simp only [except_bind_ok, exists_unit, requiredQueuedJob_ok, assertJobRunning_ok,
    assertWorkerMatches_ok] at h
  obtain ⟨job, hfind, hrunning, hworker, h⟩ := h
  refine ⟨job, hfind, hrunning, hworker, ?_⟩
  split at h
  · next hattempts =>
    obtain ⟨availableAt, -, h⟩ := except_bind_ok.1 h
    cases h
    exact ⟨.retried availableAt hattempts, rfl⟩
  · next hattempts =>
    cases h
    exact ⟨.deadLettered hattempts, rfl⟩

theorem recordJobFailure_dated {jobId : CanonicalId} {request : ReferenceJobFailureRequest}
    {failedAt : IsoDateTime} {content content' : QueueContent} {job result : ReferenceQueuedJob}
    (hfind : findBy (·.id) content.queue.queuedJobs jobId = some job)
    (hattempts : (job.attempts : Rat) < job.maxAttempts)
    (h : adapter.recordJobFailure jobId request failedAt content = .ok (content', result)) :
    ∃ availableAt,
      addMilliseconds adapter.host failedAt (backoffDelayMs job) = .ok availableAt := by
  unfold recordJobFailure at h
  simp only [except_bind_ok, exists_unit, requiredQueuedJob_ok, hfind, Option.some.injEq,
    exists_eq_left'] at h
  obtain ⟨-, -, h⟩ := h
  rw [if_pos hattempts] at h
  obtain ⟨availableAt, havailable, -⟩ := except_bind_ok.1 h
  exact ⟨availableAt, havailable⟩

theorem recordJobFailure_retried {jobId : CanonicalId} {request : ReferenceJobFailureRequest}
    {failedAt availableAt : IsoDateTime} {content : QueueContent} {job : ReferenceQueuedJob}
    (hfind : findBy (·.id) content.queue.queuedJobs jobId = some job)
    (hrunning : job.status = .running) (hworker : WorkerMatches job request.workerId)
    (hattempts : (job.attempts : Rat) < job.maxAttempts)
    (havailable : addMilliseconds adapter.host failedAt (backoffDelayMs job) = .ok availableAt) :
    adapter.recordJobFailure jobId request failedAt content =
      .ok ({ content with
          queue := withJob content.queue (job.retried failedAt availableAt request.error) },
        job.retried failedAt availableAt request.error) := by
  unfold recordJobFailure
  simp only [requiredQueuedJob_ok.2 hfind, assertJobRunning_ok.2 hrunning,
    assertWorkerMatches_ok.2 hworker, bind, Except.bind, if_pos hattempts, havailable]
  rfl

theorem recordJobFailure_deadLettered {jobId : CanonicalId} {request : ReferenceJobFailureRequest}
    {failedAt : IsoDateTime} {content : QueueContent} {job : ReferenceQueuedJob}
    (hfind : findBy (·.id) content.queue.queuedJobs jobId = some job)
    (hrunning : job.status = .running) (hworker : WorkerMatches job request.workerId)
    (hattempts : ¬ (job.attempts : Rat) < job.maxAttempts) :
    adapter.recordJobFailure jobId request failedAt content =
      .ok ({ content with
          queue := withJob content.queue (job.deadLettered request.workerId failedAt request.error) },
        job.deadLettered request.workerId failedAt request.error) := by
  unfold recordJobFailure
  simp only [requiredQueuedJob_ok.2 hfind, assertJobRunning_ok.2 hrunning,
    assertWorkerMatches_ok.2 hworker, bind, Except.bind, if_neg hattempts]
  rfl

/-- A running job of the worker fails, if its retry has a date. -/
theorem recordJobFailure_held {jobId : CanonicalId} {request : ReferenceJobFailureRequest}
    {failedAt : IsoDateTime} {content : QueueContent} {job : ReferenceQueuedJob}
    (hfind : findBy (·.id) content.queue.queuedJobs jobId = some job)
    (hrunning : job.status = .running) (hworker : WorkerMatches job request.workerId)
    (hdate : (job.attempts : Rat) < job.maxAttempts →
      ∃ availableAt, addMilliseconds adapter.host failedAt (backoffDelayMs job) = .ok availableAt) :
    ∃ failed, Failed request failedAt job failed ∧
      adapter.recordJobFailure jobId request failedAt content =
        .ok ({ content with queue := withJob content.queue failed }, failed) := by
  by_cases hattempts : (job.attempts : Rat) < job.maxAttempts
  · obtain ⟨availableAt, havailable⟩ := hdate hattempts
    exact ⟨_, .retried availableAt hattempts,
      recordJobFailure_retried hfind hrunning hworker hattempts havailable⟩
  · exact ⟨_, .deadLettered hattempts,
      recordJobFailure_deadLettered hfind hrunning hworker hattempts⟩

theorem reserveNextJob_ok {request : ReferenceJobReservationRequest} {reservedAt : IsoDateTime}
    {content content' : QueueContent} {result : Option ReferenceQueuedJob}
    (h : adapter.reserveNextJob request reservedAt content = .ok (content', result)) :
    (result = none ∧
      content' = { content with queue := recoverExpiredRunningJobs content.queue reservedAt }) ∨
    ∃ job leaseExpiresAt, job ∈ (recoverExpiredRunningJobs content.queue reservedAt).queuedJobs ∧
      job.status = .queued ∧
      result = some (job.reserved request.workerId reservedAt leaseExpiresAt) ∧
      content' = { content with
        queue := withJob (recoverExpiredRunningJobs content.queue reservedAt)
          (job.reserved request.workerId reservedAt leaseExpiresAt) } := by
  unfold reserveNextJob at h
  dsimp only at h
  split at h
  · cases h
    exact .inl ⟨rfl, rfl⟩
  · next job hhead =>
    obtain ⟨leaseExpiresAt, -, h⟩ := except_bind_ok.1 h
    cases h
    have hmem := List.mem_mergeSort.1 (List.mem_of_mem_head? hhead)
    obtain ⟨hmem, heligible⟩ := List.mem_filter.1 hmem
    simp only [Bool.and_eq_true, decide_eq_true_eq] at heligible
    exact .inr ⟨job, leaseExpiresAt, hmem, heligible.1.1, rfl, rfl⟩

theorem enqueueNormalizedJob_ok {checked : CheckedRequest} {content content' : QueueContent}
    {result : ReferenceQueuedJob}
    (h : adapter.enqueueNormalizedJob checked content = .ok (content', result)) :
    (∃ existing, findBy (·.idempotencyKey) content.queue.idempotencyRecords
        checked.request.idempotencyKey = some existing ∧
      existing.requestHash = checked.request.requestHash adapter.host ∧
      findBy (·.id) content.queue.queuedJobs existing.jobId = some result ∧ content' = content) ∨
    (findBy (·.idempotencyKey) content.queue.idempotencyRecords
        checked.request.idempotencyKey = none ∧
      result = createQueuedJob adapter.host checked.request ∧
      content' = { content with
        jobs := checked.records.foldl upsertRecord content.jobs
        queue := withNewJob content.queue result }) := by
  unfold enqueueNormalizedJob at h
  dsimp only at h
  split at h
  · next existing hexisting =>
    split at h
    · next hhash =>
      obtain ⟨job, hjob, h⟩ := except_bind_ok.1 h
      cases h
      exact .inl ⟨existing, hexisting, hhash, requiredQueuedJob_ok.1 hjob, rfl⟩
    · cases h
  · next hnew =>
    cases h
    exact .inr ⟨hnew, rfl, rfl⟩

theorem recordJobRecord_ok {r result : JobRecord} {content content' : QueueContent}
    (h : recordJobRecord r content = .ok (content', result)) :
    result = r ∧ content' = { content with jobs := upsertRecord content.jobs r.copy } := by
  unfold recordJobRecord at h
  obtain ⟨jobs, hjobs, h⟩ := except_bind_ok.1 h
  cases h
  rw [recordIn_ok hjobs]
  exact ⟨rfl, rfl⟩

/-! ## What is found after a write -/

theorem id_recovered (job : ReferenceQueuedJob) (recoveredAt : IsoDateTime) :
    (job.recovered recoveredAt).id = job.id := by
  unfold ReferenceQueuedJob.recovered
  split <;> rfl

theorem find_recovered (queue : ReferenceJobQueueSnapshot) (recoveredAt : IsoDateTime)
    (id : CanonicalId) :
    findBy (·.id) (recoverExpiredRunningJobs queue recoveredAt).queuedJobs id =
      (findBy (·.id) queue.queuedJobs id).map (·.recovered recoveredAt) :=
  findBy_map (fun job => id_recovered job recoveredAt) queue.queuedJobs id

theorem find_withJob (queue : ReferenceJobQueueSnapshot) (job : ReferenceQueuedJob)
    (id : CanonicalId) : findBy (·.id) (withJob queue job).queuedJobs id =
      if job.id = id then some job else findBy (·.id) queue.queuedJobs id :=
  findBy_upsertBy queue.queuedJobs job id

/-! ## Requests -/

theorem assertEnqueueable_ok {r : RequiredQueueRequest} : adapter.assertEnqueueable r = .ok () ↔
    assertEnforcementEvidence r = .ok () ∧ NoSecretKeys adapter.host (.obj r.payload) := by
  unfold assertEnqueueable
  rw [bind_ok, assertNoSecretMaterial_ok]

theorem enqueueJob_ok {now : IsoDateTime} {request : ReferenceJobQueueEnqueueRequest}
    {checked : CheckedRequest} :
    adapter.enqueueJob now request = .ok checked ↔
      ∃ r, normalizeEnqueueRequest now request = .ok r ∧ adapter.assertEnqueueable r = .ok () ∧
        checked = { request := r } := by
  unfold enqueueJob
  simp only [except_bind_ok, exists_unit]
  refine exists_congr fun r => and_congr_right fun _ => and_congr_right fun _ => ?_
  exact ⟨fun h => (Except.ok.inj h).symm, fun h => congrArg Except.ok h.symm⟩

theorem perform_enqueue (now : IsoDateTime) (call : EnqueueCall)
    (current : Option ReferenceJobQueueStoreRecord) :
    adapter.perform now (.enqueue call) current = (adapter.enqueue now call current).1 := rfl

theorem run_nil (current : Option ReferenceJobQueueStoreRecord) :
    adapter.run [] current = current := rfl

theorem run_cons (now : IsoDateTime) (call : QueueCall) (calls : List (IsoDateTime × QueueCall))
    (current : Option ReferenceJobQueueStoreRecord) :
    adapter.run ((now, call) :: calls) current =
      adapter.run calls (adapter.perform now call current) := rfl

/-- A reservation at the time that the clock shows. -/
theorem perform_reserve (now : IsoDateTime) (workerId : CanonicalId)
    (current : Option ReferenceJobQueueStoreRecord) :
    adapter.perform now (.reserveNextJob { workerId }) current =
      (adapter.commitSnapshot now (adapter.reserveNextJob { workerId } now) current).1 := rfl

theorem perform_completeJob (now : IsoDateTime) (jobId : CanonicalId)
    (workerId : Option CanonicalId) (current : Option ReferenceJobQueueStoreRecord) :
    adapter.perform now (.completeJob jobId { workerId }) current =
      (adapter.commitSnapshot now (completeJob jobId { workerId } now) current).1 := rfl

theorem perform_recordJobFailure (now : IsoDateTime) (jobId : CanonicalId)
    (workerId : Option CanonicalId) (error : String)
    (current : Option ReferenceJobQueueStoreRecord) :
    adapter.perform now (.recordJobFailure jobId { workerId, error }) current =
      (adapter.commitSnapshot now (adapter.recordJobFailure jobId { workerId, error } now)
        current).1 := rfl

theorem enqueue_of_checked {now : IsoDateTime} {call : EnqueueCall}
    {current : Option ReferenceJobQueueStoreRecord} {checked : CheckedRequest}
    (h : adapter.checked now (contentOf current) call = .ok checked) :
    adapter.enqueue now call current = adapter.commitSnapshot checked.request.requestedAt
      (adapter.enqueueNormalizedJob checked) current := by
  unfold enqueue
  rw [h]

/-! ## Steps -/

/-- The request that a call asks to enqueue. -/
def enqueues (adapter : ReferenceJobQueueAdapter) (now : IsoDateTime) (call : QueueCall)
    (current : Option ReferenceJobQueueStoreRecord) : Option RequiredQueueRequest :=
  match call with
  | .enqueue call =>
    match adapter.checked now (contentOf current) call with
    | .ok checked => some checked.request
    | .error _ => none
  | _ => none

theorem enqueues_of_checked {now : IsoDateTime} {call : EnqueueCall}
    {current : Option ReferenceJobQueueStoreRecord} {checked : CheckedRequest}
    (h : adapter.checked now (contentOf current) call = .ok checked) :
    adapter.enqueues now (.enqueue call) current = some checked.request := by
  simp only [enqueues, h]

/-- What becomes of the queue in a call that asks to enqueue a request, or does not. -/
inductive QueueStep (H : Host) (asked : Option RequiredQueueRequest)
    (queue : ReferenceJobQueueSnapshot) : ReferenceJobQueueSnapshot → Prop
  | same : QueueStep H asked queue queue
  | enqueued {request : RequiredQueueRequest} (hasked : asked = some request)
      (hnew : findBy (·.idempotencyKey) queue.idempotencyRecords request.idempotencyKey = none) :
      QueueStep H asked queue (withNewJob queue (createQueuedJob H request))
  | recovered (recoveredAt : IsoDateTime) :
      QueueStep H asked queue (recoverExpiredRunningJobs queue recoveredAt)
  | reserved {job : ReferenceQueuedJob} (workerId : CanonicalId)
      (reservedAt leaseExpiresAt : IsoDateTime)
      (hmem : job ∈ (recoverExpiredRunningJobs queue reservedAt).queuedJobs)
      (hqueued : job.status = .queued) :
      QueueStep H asked queue (withJob (recoverExpiredRunningJobs queue reservedAt)
        (job.reserved workerId reservedAt leaseExpiresAt))
  | completed {job : ReferenceQueuedJob} (workerId : Option CanonicalId) (completedAt : IsoDateTime)
      (hfind : findBy (·.id) queue.queuedJobs job.id = some job) (hrunning : job.status = .running)
      (hlease : LeaseActive job completedAt) :
      QueueStep H asked queue (withJob queue (job.completed workerId completedAt))
  | failed {job failed : ReferenceQueuedJob} (request : ReferenceJobFailureRequest)
      (failedAt : IsoDateTime) (hfind : findBy (·.id) queue.queuedJobs job.id = some job)
      (hrunning : job.status = .running) (hfailed : Failed request failedAt job failed) :
      QueueStep H asked queue (withJob queue failed)
  | health (connectorHealth : List ReferenceConnectorHealth) :
      QueueStep H asked queue { queue with connectorHealth }

/-- What is computed is stored, when it may be. -/
theorem commitSnapshot_stores {α : Type} {storedAt : IsoDateTime} {mutate : Mutation α}
    {current : Option ReferenceJobQueueStoreRecord} {content : QueueContent} {result : α}
    (hmutate : mutate (contentOf current) = .ok (content, result))
    (hstorable : Storable adapter content) :
    adapter.commitSnapshot storedAt mutate current =
      (some { toQueueContent := content, storedAt }, .ok result) := by
  have hattempt : adapter.attempt storedAt mutate current =
      .ok ({ toQueueContent := content, storedAt }, result) :=
    attempt_ok.2 ⟨hmutate, hstorable, rfl⟩
  rw [commitSnapshot, hattempt]

/-- A commit stores what its mutation computed, or nothing. -/
theorem commit_queue_invariant {α : Type} {P : ReferenceJobQueueSnapshot → Prop}
    {storedAt : IsoDateTime} {mutate : Mutation α} {current : Option ReferenceJobQueueStoreRecord}
    (h : P (contentOf current).queue)
    (hmutate : ∀ content result, mutate (contentOf current) = .ok (content, result) →
      P content.queue) :
    P (contentOf (adapter.commitSnapshot storedAt mutate current).1).queue := by
  rcases commitSnapshot_cases adapter storedAt mutate current with
    ⟨message, hcommit⟩ | ⟨content, result, hok, -, hcommit⟩
  · rw [hcommit]
    exact h
  · rw [hcommit]
    exact hmutate content result hok

variable (adapter) in
/-- **A call** takes one of the steps. -/
theorem perform_queue (now : IsoDateTime) (call : QueueCall)
    (current : Option ReferenceJobQueueStoreRecord) :
    QueueStep adapter.host (adapter.enqueues now call current) (contentOf current).queue
      (contentOf (adapter.perform now call current)).queue := by
  cases call with
  | enqueue call =>
    rw [perform_enqueue]
    unfold enqueue
    cases hchecked : adapter.checked now (contentOf current) call with
    | error message => exact .same
    | ok checked =>
      refine commit_queue_invariant .same fun content result hmutate => ?_
      rcases enqueueNormalizedJob_ok hmutate with ⟨existing, -, -, -, rfl⟩ | ⟨hnew, rfl, rfl⟩
      · exact .same
      · exact .enqueued (enqueues_of_checked hchecked) hnew
  | reserveNextJob request =>
    refine commit_queue_invariant .same fun content result hmutate => ?_
    rcases reserveNextJob_ok hmutate with ⟨-, rfl⟩ | ⟨job, leaseExpiresAt, hmem, hqueued, -, rfl⟩
    · exact .recovered _
    · exact .reserved request.workerId _ leaseExpiresAt hmem hqueued
  | completeJob jobId request =>
    refine commit_queue_invariant .same fun content result hmutate => ?_
    obtain ⟨job, hfind, hrunning, hlease, -, rfl, rfl⟩ := completeJob_ok.1 hmutate
    rw [← findBy_key hfind] at hfind
    exact .completed request.workerId _ hfind hrunning hlease
  | recordJobFailure jobId request =>
    refine commit_queue_invariant .same fun content result hmutate => ?_
    obtain ⟨job, hfind, hrunning, -, hfailed, rfl⟩ := recordJobFailure_ok hmutate
    rw [← findBy_key hfind] at hfind
    exact .failed request _ hfind hrunning hfailed
  | setConnectorHealth health =>
    unfold perform
    dsimp only
    split
    · exact .same
    · refine commit_queue_invariant .same fun content result hmutate => ?_
      cases hmutate
      exact .health _
  | record r =>
    unfold perform
    dsimp only
    split
    · exact .same
    · refine commit_queue_invariant .same fun content result hmutate => ?_
      obtain ⟨-, rfl⟩ := recordJobRecord_ok hmutate
      exact .same

variable (adapter) in
/-- What a call leaves in the store: what was there, or a record that was checked. -/
theorem perform_cases (now : IsoDateTime) (call : QueueCall)
    (current : Option ReferenceJobQueueStoreRecord) :
    adapter.perform now call current = current ∨
      ∃ record, adapter.perform now call current = some record ∧
        Storable adapter record.toQueueContent := by
  have hcommit : ∀ {α : Type} (storedAt : IsoDateTime) (mutate : Mutation α),
      (adapter.commitSnapshot storedAt mutate current).1 = current ∨
        ∃ record, (adapter.commitSnapshot storedAt mutate current).1 = some record ∧
          Storable adapter record.toQueueContent := by
    intro α storedAt mutate
    rcases commitSnapshot_cases adapter storedAt mutate current with
      ⟨message, h⟩ | ⟨content, result, -, hstorable, h⟩
    · exact .inl (congrArg Prod.fst h)
    · exact .inr ⟨_, congrArg Prod.fst h, hstorable⟩
  cases call with
  | enqueue call =>
    rw [perform_enqueue]
    unfold enqueue
    split
    · exact .inl rfl
    · exact hcommit _ _
  | reserveNextJob request => exact hcommit _ _
  | completeJob jobId request => exact hcommit _ _
  | recordJobFailure jobId request => exact hcommit _ _
  | setConnectorHealth health =>
    unfold perform
    dsimp only
    split
    · exact .inl rfl
    · exact hcommit _ _
  | record r =>
    unfold perform
    dsimp only
    split
    · exact .inl rfl
    · exact hcommit _ _

end ReferenceJobQueueAdapter

end AccessKit.L6
