import AccessKit.L6Queue.StoreEntries

/-!
# What a commit writes

A commit computes a whole record from the one that it read. What it means to write is an
`effect`, a few entries; everything else is to stay as it was read. A job and a plan can come
along that nobody asked to write: a plan that `enqueueProvisioningJob` looked up before it
began (packages/core/src/reference-job-queue.ts:259-260, 289-293).

Results:
* `Commit.writes`: what is stored after a commit is its effect over what was read.
* `Commit.json`: a commit of JSON keeps a store of JSON.
-/
namespace AccessKit.L6
open AccessKit.Core AccessKit.L1 AccessKit.L2.Audit
open AccessKit.L5 (RebacJobSnapshot JobRecord JobKey RuntimeRecord ProvisioningPlan ProvisioningJob)
open ReferenceJobQueueAdapter

/-! ## Effects -/

/-- The entries that are written. -/
abbrev Effect := StoreKey → Option StoreEntry

def Effect.nothing : Effect := fun _ => none

def Effect.single (e : StoreEntry) : Effect := fun k => if e.key = k then some e else none

/-- The first one, over the second one. -/
def Effect.over (e e' : Effect) : Effect := fun k => (e k).or (e' k)

/-- The jobs whose leases are over go back to the queue. -/
def recoveredBy (queue : ReferenceJobQueueSnapshot) (recoveredAt : IsoDateTime) : Effect
  | .queuedJob id => (findBy (·.id) queue.queuedJobs id).bind fun job =>
    if job.expiredLease recoveredAt = none then none
    else some (.queuedJob (job.recovered recoveredAt))
  | _ => none

/-- The job that a write returned. -/
def returnedJob : Except String (QueueContent × ReferenceQueuedJob) → Effect
  | .ok (_, job) => .single (.queuedJob job)
  | .error _ => .nothing

/-- The records, the last one of a key. -/
def recordsOf (records : List JobRecord) : Effect
  | .jobRecord k => (findBy JobRecord.key records.reverse k).map .jobRecord
  | _ => none

/-- A new job with its idempotency record. -/
def newJob (job : ReferenceQueuedJob) : Effect :=
  Effect.over (.single (.queuedJob job))
    (.single (.idempotencyRecord
      { idempotencyKey := job.idempotencyKey
        jobId := job.id
        requestHash := job.requestHash
        recordedAt := job.requestedAt }))

/-! ## Commits -/

/-- What a call commits, once its arguments are checked. Of the records that are stored with
a new job, some were `looked` up, and the call was `asked` to write the others. -/
inductive Commit
  | enqueue (checked : CheckedRequest) (looked asked : List JobRecord)
  | reserveNextJob (request : ReferenceJobReservationRequest) (reservedAt : IsoDateTime)
  | completeJob (jobId : CanonicalId) (request : ReferenceJobCompletionRequest)
    (completedAt : IsoDateTime)
  | recordJobFailure (jobId : CanonicalId) (request : ReferenceJobFailureRequest)
    (failedAt : IsoDateTime)
  | setConnectorHealth (health : ReferenceConnectorHealth)
  | record (r : JobRecord) (recordedAt : IsoDateTime)

namespace Commit

def storedAt : Commit → IsoDateTime
  | enqueue checked _ _ => checked.request.requestedAt
  | reserveNextJob _ reservedAt => reservedAt
  | completeJob _ _ completedAt => completedAt
  | recordJobFailure _ _ failedAt => failedAt
  | setConnectorHealth health => health.updatedAt
  | record _ recordedAt => recordedAt

section
variable (adapter : ReferenceJobQueueAdapter)

/-- What is computed from what was read. -/
def mutate : Commit → Mutation Unit
  | enqueue checked _ _, content => do
    return ((← adapter.enqueueNormalizedJob checked content).1, ())
  | reserveNextJob request reservedAt, content => do
    return ((← adapter.reserveNextJob request reservedAt content).1, ())
  | completeJob jobId request completedAt, content => do
    return ((← ReferenceJobQueueAdapter.completeJob jobId request completedAt content).1, ())
  | recordJobFailure jobId request failedAt, content => do
    return ((← adapter.recordJobFailure jobId request failedAt content).1, ())
  | setConnectorHealth health, content => do
    return ((← ReferenceJobQueueAdapter.setConnectorHealth health content).1, ())
  | record r _, content => do
    return ((← recordJobRecord r content).1, ())

/-- What is written, when this was read. -/
def effect : Commit → QueueContent → Effect
  | enqueue checked _ asked, content =>
    match findBy (·.idempotencyKey) content.queue.idempotencyRecords
      checked.request.idempotencyKey with
    | some _ => .nothing
    | none => Effect.over (newJob (createQueuedJob adapter.host checked.request)) (recordsOf asked)
  | reserveNextJob request reservedAt, content =>
    let recovered := recoveredBy content.queue reservedAt
    match adapter.reserveNextJob request reservedAt content with
    | .ok (_, some job) => Effect.over (.single (.queuedJob job)) recovered
    | _ => recovered
  | completeJob jobId request completedAt, content =>
    returnedJob (ReferenceJobQueueAdapter.completeJob jobId request completedAt content)
  | recordJobFailure jobId request failedAt, content =>
    returnedJob (adapter.recordJobFailure jobId request failedAt content)
  | setConnectorHealth health, _ => .single (.connectorHealth health)
  | record r _, _ => .single (.jobRecord r.copy)

/-- What was looked up is what is read, and a new job has an id of its own. -/
def Current : Commit → QueueContent → Prop
  | enqueue checked looked _, content =>
    findBy (·.idempotencyKey) content.queue.idempotencyRecords checked.request.idempotencyKey =
      none →
    find content (.queuedJob (checked.request.jobId adapter.host)) = none ∧
      ∀ r ∈ looked, SameEntry (some (.jobRecord r)) (find content (.jobRecord r.key))
  | _, _ => True

/-- The records of a commit are those that were looked up and those that were asked for. -/
def Splits : Commit → Prop
  | enqueue checked looked asked => checked.records = looked ++ asked
  | _ => True

end

end Commit

/-! ## What is found after a write -/

section
variable {content : QueueContent}

theorem find_upsertRecords (records : List JobRecord) (jobs : RebacJobSnapshot) (k : JobKey) :
    findRecord (records.foldl upsertRecord jobs) k =
      (findBy JobRecord.key records.reverse k).or (findRecord jobs k) := by
  induction records generalizing jobs with
  | nil => rfl
  | cons r records ih =>
    rw [List.foldl_cons, ih, find_upsertRecord, List.reverse_cons, findBy_append, findBy_cons,
      Option.or_assoc]
    split <;> rfl

theorem writes_withJob (queue : ReferenceJobQueueSnapshot) (job : ReferenceQueuedJob)
    (k : StoreKey) : find { content with queue := withJob queue job } k =
      (Effect.single (.queuedJob job) k).or (find { content with queue } k) := by
  cases k with
  | queuedJob id =>
    show (findBy (·.id) (withJob queue job).queuedJobs id).map StoreEntry.queuedJob = _
    rw [find_withJob]
    by_cases hid : job.id = id
    · simp [Effect.single, StoreEntry.key, hid]
    · simp [Effect.single, StoreEntry.key, hid, find]
  | _ => simp [Effect.single, StoreEntry.key, find, withJob]

theorem writes_recovered (recoveredAt : IsoDateTime) (k : StoreKey) :
    find { content with queue := recoverExpiredRunningJobs content.queue recoveredAt } k =
      (recoveredBy content.queue recoveredAt k).or (find content k) := by
  cases k with
  | queuedJob id =>
    show (findBy (·.id) (recoverExpiredRunningJobs content.queue recoveredAt).queuedJobs id).map
      StoreEntry.queuedJob = _
    rw [find_recovered]
    simp only [recoveredBy, find]
    cases findBy (·.id) content.queue.queuedJobs id with
    | none => rfl
    | some job =>
      by_cases hlease : job.expiredLease recoveredAt = none
      · simp [ReferenceQueuedJob.recovered, hlease]
      · simp [hlease]
  | _ => rfl

theorem writes_withNewJob (content : QueueContent) (job : ReferenceQueuedJob)
    (hid : find content (.queuedJob job.id) = none)
    (hkey : find content (.idempotencyRecord job.idempotencyKey) = none) (k : StoreKey) :
    find { content with queue := withNewJob content.queue job } k =
      (newJob job k).or (find content k) := by
  cases k with
  | queuedJob id =>
    show (findBy (·.id) (content.queue.queuedJobs ++ [job]) id).map StoreEntry.queuedJob = _
    rw [findBy_append, findBy_cons, findBy_nil]
    by_cases h : job.id = id
    · subst h
      simp only [find, Option.map_eq_none_iff] at hid
      simp [hid, newJob, Effect.over, Effect.single, StoreEntry.key]
    · simp [h, newJob, Effect.over, Effect.single, StoreEntry.key, find]
  | idempotencyRecord idempotencyKey =>
    show (findBy (·.idempotencyKey) (content.queue.idempotencyRecords ++ [_])
      idempotencyKey).map StoreEntry.idempotencyRecord = _
    rw [findBy_append, findBy_cons, findBy_nil]
    by_cases h : job.idempotencyKey = idempotencyKey
    · subst h
      simp only [find, Option.map_eq_none_iff] at hkey
      simp [hkey, newJob, Effect.over, Effect.single, StoreEntry.key]
    · simp [h, newJob, Effect.over, Effect.single, StoreEntry.key, find]
  | _ => simp [newJob, Effect.over, Effect.single, StoreEntry.key, find, withNewJob]

theorem writes_connectorHealth (health : ReferenceConnectorHealth) (k : StoreKey) :
    find { content with queue := { content.queue with
      connectorHealth := upsertBy (·.connectorId) content.queue.connectorHealth health } } k =
      (Effect.single (.connectorHealth health) k).or (find content k) := by
  cases k with
  | connectorHealth connectorId =>
    show (findBy (·.connectorId) (upsertBy (·.connectorId) content.queue.connectorHealth health)
      connectorId).map StoreEntry.connectorHealth = _
    rw [findBy_upsertBy]
    by_cases hid : health.connectorId = connectorId
    · simp [Effect.single, StoreEntry.key, hid]
    · simp [Effect.single, StoreEntry.key, hid, find]
  | _ => simp [Effect.single, StoreEntry.key, find]

theorem writes_record (r : JobRecord) (k : StoreKey) :
    find { content with jobs := upsertRecord content.jobs r } k =
      (Effect.single (.jobRecord r) k).or (find content k) := by
  cases k with
  | jobRecord k =>
    simp only [find, find_upsertRecord, Effect.single, StoreEntry.key, StoreKey.jobRecord.injEq]
    split <;> rfl
  | _ => simp [Effect.single, StoreEntry.key, find]

theorem writes_records (records : List JobRecord) (k : StoreKey) :
    find { content with jobs := records.foldl upsertRecord content.jobs } k =
      (recordsOf records k).or (find content k) := by
  cases k with
  | jobRecord k =>
    simp only [find, find_upsertRecords, recordsOf]
    cases findBy JobRecord.key records.reverse k <;> rfl
  | _ => rfl

end

/-! ## What a commit writes -/

section
variable {adapter : ReferenceJobQueueAdapter} {content content' : QueueContent}

theorem over_assoc {w w' e : Option StoreEntry} : (w.or w').or e = w.or (w'.or e) :=
  Option.or_assoc

/-- Records that were looked up change nothing that is asked for. -/
theorem looked_records {looked asked : List JobRecord}
    (h : ∀ r ∈ looked, SameEntry (some (.jobRecord r)) (find content (.jobRecord r.key)))
    (k : StoreKey) : SameEntry ((recordsOf (looked ++ asked) k).or (find content k))
      ((recordsOf asked k).or (find content k)) := by
  cases k with
  | jobRecord k =>
    simp only [recordsOf, List.reverse_append, findBy_append]
    cases findBy JobRecord.key asked.reverse k with
    | some r => exact .refl _
    | none =>
      rw [Option.none_or, Option.map_none, Option.none_or]
      cases hlooked : findBy JobRecord.key looked.reverse k with
      | none => exact .refl _
      | some r =>
        have hr := h r (List.mem_reverse.1 (mem_of_findBy hlooked))
        rw [findBy_key hlooked] at hr
        exact hr
  | _ => exact .refl _

/-- **What a commit stores** is its effect over what it read. -/
theorem Commit.writes {commit : Commit} (hsplits : commit.Splits)
    (hcurrent : commit.Current adapter content)
    (h : commit.mutate adapter content = .ok (content', ())) (k : StoreKey) :
    SameEntry (find content' k) ((commit.effect adapter content k).or (find content k)) := by
  cases commit with
  | enqueue checked looked asked =>
    obtain ⟨⟨stored, job⟩, hmutate, he⟩ := except_bind_ok.1 h
    cases he
    unfold effect
    rcases enqueueNormalizedJob_ok hmutate with ⟨existing, hexisting, -, -, rfl⟩ | ⟨hnew, rfl, rfl⟩
    · simp only [hexisting]
      exact .refl _
    · obtain ⟨hid, hlooked⟩ := hcurrent hnew
      have hkey : find content (.idempotencyRecord checked.request.idempotencyKey) = none := by
        simp only [find, hnew, Option.map_none]
      have hrecords : checked.records = looked ++ asked := hsplits
      simp only [hnew, Effect.over, over_assoc, hrecords]
      have hput : find { content with
          jobs := (looked ++ asked).foldl upsertRecord content.jobs
          queue := withNewJob content.queue (createQueuedJob adapter.host checked.request) } k =
          (newJob (createQueuedJob adapter.host checked.request) k).or (find { content with
            jobs := (looked ++ asked).foldl upsertRecord content.jobs } k) :=
        writes_withNewJob { content with jobs := (looked ++ asked).foldl upsertRecord content.jobs }
          (createQueuedJob adapter.host checked.request) hid hkey k
      rw [hput, writes_records]
      exact (looked_records hlooked k).or _
  | reserveNextJob request reservedAt =>
    obtain ⟨⟨stored, job⟩, hmutate, he⟩ := except_bind_ok.1 h
    cases he
    unfold effect
    rcases reserveNextJob_ok hmutate with ⟨rfl, rfl⟩ | ⟨job, lease, -, -, rfl, rfl⟩
    · simp only [hmutate, writes_recovered]
      exact .refl _
    · simp only [hmutate, Effect.over, over_assoc, writes_withJob, writes_recovered]
      exact .refl _
  | completeJob jobId request completedAt =>
    obtain ⟨⟨stored, job⟩, hmutate, he⟩ := except_bind_ok.1 h
    cases he
    unfold effect
    obtain ⟨job', -, -, -, -, rfl, rfl⟩ := completeJob_ok.1 hmutate
    simp only [hmutate, returnedJob, writes_withJob]
    exact .refl _
  | recordJobFailure jobId request failedAt =>
    obtain ⟨⟨stored, job⟩, hmutate, he⟩ := except_bind_ok.1 h
    cases he
    unfold effect
    obtain ⟨job', -, -, -, -, rfl⟩ := recordJobFailure_ok hmutate
    simp only [hmutate, returnedJob, writes_withJob]
    exact .refl _
  | setConnectorHealth health =>
    cases h
    exact writes_connectorHealth health k ▸ .refl _
  | record r recordedAt =>
    obtain ⟨⟨stored, r'⟩, hmutate, he⟩ := except_bind_ok.1 h
    cases he
    obtain ⟨-, rfl⟩ := recordJobRecord_ok hmutate
    exact writes_record r.copy k ▸ .refl _

/-! ## A store of JSON -/

theorem mem_allRecords_upsert {jobs : RebacJobSnapshot} {r r' : JobRecord}
    (h : r' ∈ allRecords (upsertRecord jobs r)) : r' = r ∨ r' ∈ allRecords jobs := by
  have hput : ∀ {α : Type} {key : α → CanonicalId} {f : α → JobRecord} {items : List α} {item : α},
      r' ∈ (upsertBy key items item).map f → r' = f item ∨ r' ∈ items.map f := by
    intro α key f items item hmem
    obtain ⟨a, ha, rfl⟩ := List.mem_map.1 hmem
    rcases mem_upsertBy ha with rfl | ha
    · exact .inl rfl
    · exact .inr (List.mem_map_of_mem ha)
  simp only [allRecords, List.mem_append] at h ⊢
  cases r with
  | provisioningPlan plan =>
    rcases h with ((h | h) | h) | h
    · exact (hput h).imp_right fun h => .inl (.inl (.inl h))
    · exact .inr (.inl (.inl (.inr h)))
    · exact .inr (.inl (.inr h))
    · exact .inr (.inr h)
  | provisioningJob job =>
    rcases h with ((h | h) | h) | h
    · exact .inr (.inl (.inl (.inl h)))
    · exact (hput h).imp_right fun h => .inl (.inl (.inr h))
    · exact .inr (.inl (.inr h))
    · exact .inr (.inr h)
  | enforcementReadinessReport report =>
    rcases h with ((h | h) | h) | h
    · exact .inr (.inl (.inl (.inl h)))
    · exact .inr (.inl (.inl (.inr h)))
    · exact (hput h).imp_right fun h => .inl (.inr h)
    · exact .inr (.inr h)
  | record r =>
    rcases h with ((h | h) | h) | h
    · exact .inr (.inl (.inl (.inl h)))
    · exact .inr (.inl (.inl (.inr h)))
    · exact .inr (.inl (.inr h))
    · obtain ⟨a, ha, rfl⟩ := List.mem_map.1 h
      rcases mem_upsertBy ha with rfl | ha
      · exact .inl rfl
      · exact .inr (.inr (List.mem_map_of_mem ha))

/-- The records that are stored are JSON, and copies. -/
def JsonRecords (jobs : RebacJobSnapshot) : Prop :=
  ∀ r ∈ allRecords jobs, IsJson (JobRecord.toJs r) ∧ r.copy = r

theorem JsonRecords.upsert {jobs : RebacJobSnapshot} (h : JsonRecords jobs) {r : JobRecord}
    (hr : IsJson (JobRecord.toJs r) ∧ r.copy = r) : JsonRecords (upsertRecord jobs r) := by
  intro r' hr'
  rcases mem_allRecords_upsert hr' with rfl | hr'
  · exact hr
  · exact h r' hr'

theorem JsonRecords.upsertAll {jobs : RebacJobSnapshot} (h : JsonRecords jobs)
    {records : List JobRecord}
    (hrecords : ∀ r ∈ records, IsJson (JobRecord.toJs r) ∧ r.copy = r) :
    JsonRecords (records.foldl upsertRecord jobs) := by
  induction records generalizing jobs with
  | nil => exact h
  | cons r records ih =>
    obtain ⟨hr, hrecords⟩ := List.forall_mem_cons.1 hrecords
    exact ih (h.upsert hr) hrecords

/-- The payloads of the jobs are JSON. -/
def JsonPayloads (queue : ReferenceJobQueueSnapshot) : Prop :=
  ∀ job ∈ queue.queuedJobs, IsJson (.obj job.payload)

theorem JsonPayloads.withJob {queue : ReferenceJobQueueSnapshot} (h : JsonPayloads queue)
    {job : ReferenceQueuedJob} (hjob : IsJson (.obj job.payload)) :
    JsonPayloads (withJob queue job) := by
  intro other hother
  rcases mem_upsertBy hother with rfl | hother
  · exact hjob
  · exact h other hother

theorem JsonPayloads.recovered {queue : ReferenceJobQueueSnapshot} (h : JsonPayloads queue)
    (recoveredAt : IsoDateTime) : JsonPayloads (recoverExpiredRunningJobs queue recoveredAt) := by
  intro other hother
  obtain ⟨job, hjob, rfl⟩ := List.mem_map.1 hother
  have hpayload : (job.recovered recoveredAt).payload = job.payload :=
    congrArg (·.2.2.payload) (ReferenceQueuedJob.origin_recovered job recoveredAt)
  rw [hpayload]
  exact h job hjob

/-- What comes with a commit is JSON. -/
def Commit.Json : Commit → Prop
  | enqueue checked _ _ => IsJson (.obj checked.request.payload) ∧
      ∀ r ∈ checked.records, IsJson (JobRecord.toJs r) ∧ r.copy = r
  | record r _ => IsJson (JobRecord.toJs r.copy)
  | _ => True

/-- **A commit of JSON** keeps a store of JSON. -/
theorem Commit.json {commit : Commit} (hcommit : commit.Json) (hcontent : JsonContent content)
    (h : commit.mutate adapter content = .ok (content', ())) : JsonContent content' := by
  obtain ⟨hpayloads, hrecords, hcounts⟩ := hcontent
  cases commit with
  | enqueue checked looked asked =>
    obtain ⟨⟨stored, job⟩, hmutate, he⟩ := except_bind_ok.1 h
    cases he
    rcases enqueueNormalizedJob_ok hmutate with ⟨existing, -, -, -, rfl⟩ | ⟨-, rfl, rfl⟩
    · exact ⟨hpayloads, hrecords, hcounts⟩
    · refine ⟨fun job hjob => ?_, JsonRecords.upsertAll hrecords hcommit.2, hcounts⟩
      rcases List.mem_append.1 hjob with hjob | hjob
      · exact hpayloads job hjob
      · rw [List.mem_singleton.1 hjob]
        exact hcommit.1
  | reserveNextJob request reservedAt =>
    obtain ⟨⟨stored, job⟩, hmutate, he⟩ := except_bind_ok.1 h
    cases he
    have hrecovered := JsonPayloads.recovered hpayloads reservedAt
    rcases reserveNextJob_ok hmutate with ⟨rfl, rfl⟩ | ⟨job, lease, hjob, -, rfl, rfl⟩
    · exact ⟨hrecovered, hrecords, hcounts⟩
    · exact ⟨hrecovered.withJob (hrecovered job hjob), hrecords, hcounts⟩
  | completeJob jobId request completedAt =>
    obtain ⟨⟨stored, job⟩, hmutate, he⟩ := except_bind_ok.1 h
    cases he
    obtain ⟨job', hfind, -, -, -, rfl, rfl⟩ := completeJob_ok.1 hmutate
    exact ⟨JsonPayloads.withJob hpayloads (hpayloads job' (mem_of_findBy hfind)), hrecords, hcounts⟩
  | recordJobFailure jobId request failedAt =>
    obtain ⟨⟨stored, job⟩, hmutate, he⟩ := except_bind_ok.1 h
    cases he
    obtain ⟨job', hfind, -, -, hfailed, rfl⟩ := recordJobFailure_ok hmutate
    have hpayload : job.payload = job'.payload :=
      congrArg (·.2.2.payload) (ReferenceQueuedJob.origin_failed hfailed)
    refine ⟨JsonPayloads.withJob hpayloads ?_, hrecords, hcounts⟩
    rw [hpayload]
    exact hpayloads job' (mem_of_findBy hfind)
  | setConnectorHealth health =>
    cases h
    exact ⟨hpayloads, hrecords, hcounts⟩
  | record r recordedAt =>
    obtain ⟨⟨stored, r'⟩, hmutate, he⟩ := except_bind_ok.1 h
    cases he
    obtain ⟨-, rfl⟩ := recordJobRecord_ok hmutate
    exact ⟨hpayloads, JsonRecords.upsert hrecords ⟨hcommit, JobRecord.filing.copy_copy r⟩, hcounts⟩

end

end AccessKit.L6
