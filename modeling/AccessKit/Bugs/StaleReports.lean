import AccessKit.L6Queue.Fixtures
import AccessKit.L6Queue.QueueInvariant

/-!
# Reports of a reservation that is over

Status: open. A report names a job and, if it likes, a worker
(packages/core/src/reference-job-queue.ts:349-410). `completeJob` checks the lease that
the job has now, and both compare the worker that is named with the one that holds the
job. A worker that reserves a job again, such as two drains under their default name
(packages/api/src/job-queue-runner.ts:40), is taken for its earlier self, and so is a
report without a name. `recordJobFailure` does not check the lease at all: the drain
whose completion is refused because its lease is over reports a failure next
(packages/api/src/job-queue-runner.ts:50-69), and this is accepted.

Counterexample: two drains with one name, of which the first completes what the second
holds (`stale_completion`), and a failure that is reported an hour late
(`late_failure`).

Exact condition: when a job that runs has been reserved again since, a report of an
earlier reservation names another worker than the one that holds the job (a completion is
also refused when the lease is over); and a failure is reported while the lease lasts of the
reservation it comes from, if that still holds the job (`reports_fenced`).
-/
namespace AccessKit.Bugs.StaleReports
open AccessKit.Core AccessKit.L1 AccessKit.L2.Audit.Fixtures AccessKit.L6 AccessKit.L6.Fixtures
  ReferenceJobQueueAdapter

/-! ## Reservations and reports -/

/-- What a worker has of a job it reserved, with how many reservations there were before. -/
structure Reservation where
  number : Nat
  job : ReferenceQueuedJob

/-- A store, with the reservations that were made, the last one in front. -/
structure WorkState where
  current : Option ReferenceJobQueueStoreRecord
  reservations : List Reservation

/-- A reservation, a report of one, or another call. -/
inductive Work
  | reserve (request : ReferenceJobReservationRequest)
  | complete (held : Reservation) (request : ReferenceJobCompletionRequest)
  | fail (held : Reservation) (request : ReferenceJobFailureRequest)
  | enqueue (call : EnqueueCall)
  | setConnectorHealth (health : ReferenceConnectorHealth)
  | record (r : L5.JobRecord)

/-- The call that is made of the queue. -/
def Work.call : Work → QueueCall
  | .reserve request => .reserveNextJob request
  | .complete held request => .completeJob held.job.id request
  | .fail held request => .recordJobFailure held.job.id request
  | .enqueue call => .enqueue call
  | .setConnectorHealth health => .setConnectorHealth health
  | .record r => .record r

/-- The job that is stored under an id. -/
def stored (current : Option ReferenceJobQueueStoreRecord) (id : CanonicalId) :
    Option ReferenceQueuedJob :=
  findBy (·.id) (contentOf current).queue.queuedJobs id

/-- The last reservation of a job. -/
def latest (s : WorkState) (id : CanonicalId) : Option Reservation :=
  findBy (fun r : Reservation => r.job.id) s.reservations id

section
variable (adapter : ReferenceJobQueueAdapter)

/-- The reservation that a call makes. -/
def reservationOf (now : IsoDateTime) (s : WorkState) : Work → Option Reservation
  | .reserve request =>
    let reservedAt := request.reservedAt.getD now
    match (adapter.commitSnapshot reservedAt (adapter.reserveNextJob request reservedAt)
      s.current).2 with
    | .ok (some job) => some { number := s.reservations.length, job }
    | _ => none
  | _ => none

def perform (now : IsoDateTime) (work : Work) (s : WorkState) : WorkState where
  current := adapter.perform now work.call s.current
  reservations := (reservationOf adapter now s work).toList ++ s.reservations

/-! ## The law and its condition -/

/-- A report at a time comes from the reservation that holds the job, and its lease lasts. -/
structure Holds (s : WorkState) (held : Reservation) (time : IsoDateTime) : Prop where
  stored : stored s.current held.job.id = some held.job
  latest : latest s held.job.id = some held
  lease : LeaseActive held.job time

/-- What a report changes is the job of its reservation, while it holds that. -/
def FencedReport (now : IsoDateTime) (s : WorkState) (work : Work) (held : Reservation)
    (time : IsoDateTime) : Prop :=
  ∀ id, stored (perform adapter now work s).current id ≠ stored s.current id →
    id = held.job.id ∧ Holds s held time

def Fenced (now : IsoDateTime) (s : WorkState) (work : Work) : Prop :=
  match work with
  | .complete held request =>
    FencedReport adapter now s work held (request.completedAt.getD now)
  | .fail held request => FencedReport adapter now s work held (request.failedAt.getD now)
  | _ => True

/-- The worker that is named is another one than the one of a reservation. -/
def NamesOther (workerId : Option CanonicalId) (r : Reservation) : Prop :=
  ∃ w w', truthy workerId = some w ∧ truthy r.job.workerId = some w' ∧ w ≠ w'

/-- A report whose job runs and passes a check: it is of the last reservation, or names
another worker. -/
def NamesItself (s : WorkState) (held : Reservation) (workerId : Option CanonicalId)
    (checked : ReferenceQueuedJob → Prop) : Prop :=
  ∀ r, latest s held.job.id = some r → stored s.current held.job.id = some r.job → r ≠ held →
    checked r.job → NamesOther workerId r

/-- What a report needs. -/
def Meets (now : IsoDateTime) (s : WorkState) : Work → Prop
  | .complete held request => NamesItself s held request.workerId fun job =>
      LeaseActive job (request.completedAt.getD now)
  | .fail held request => (NamesItself s held request.workerId fun _ => True) ∧
      (stored s.current held.job.id = some held.job →
        LeaseActive held.job (request.failedAt.getD now))
  | _ => True

/-- What calls lead to when each meets its condition. -/
inductive Reached : WorkState → Prop
  | opened : Reached { current := none, reservations := [] }
  | performed {s : WorkState} (h : Reached s) (now : IsoDateTime) (work : Work)
      (hmeets : Meets now s work) : Reached (perform adapter now work s)

end

theorem perform_reserved {adapter : ReferenceJobQueueAdapter} {now : IsoDateTime} {s : WorkState}
    {request : ReferenceJobReservationRequest} {record : ReferenceJobQueueStoreRecord}
    {job : ReferenceQueuedJob}
    (hcommit : adapter.commitSnapshot (request.reservedAt.getD now)
      (adapter.reserveNextJob request (request.reservedAt.getD now)) s.current =
      (some record, .ok (some job))) :
    perform adapter now (.reserve request) s =
      { current := some record
        reservations := ⟨s.reservations.length, job⟩ :: s.reservations } := by
  unfold perform Work.call
  show WorkState.mk (adapter.commitSnapshot _ _ _).1 _ = _
  simp only [reservationOf, hcommit, Option.toList_some, List.singleton_append]

/-! ## Counterexamples -/

/-- The default of a drain.
mirrors packages/api/src/job-queue-runner.ts:40 -/
def drainWorker : CanonicalId := "worker:local-runtime"

/-- What the first of two drains has, both of them under their default name. -/
def firstDrain : Reservation where
  number := 0
  job := heldFirst 3 drainWorker

def secondDrain : Reservation where
  number := 1
  job := heldAgain 3 drainWorker drainWorker

/-- A job is in the queue. -/
def asked : WorkState where
  current := some (recordOf (evidenceJob 3 midnight) midnight)
  reservations := []

/-- The first drain has reserved it. -/
def drained : WorkState where
  current := some (recordOf firstDrain.job midnight)
  reservations := [firstDrain]

/-- Its lease was over, and the second drain has reserved the job again. -/
def drainedAgain : WorkState where
  current := some (recordOf secondDrain.job oneOClock)
  reservations := [secondDrain, firstDrain]

theorem perform_asked : perform plainAdapter midnight (.enqueue (.enqueueJob
    { evidenceRequest with maxAttempts := some 3 })) { current := none, reservations := [] } =
    asked := by
  unfold perform Work.call
  rw [perform_evidence]
  rfl

theorem perform_drained :
    perform plainAdapter midnight (.reserve { workerId := drainWorker }) asked = drained :=
  perform_reserved (reserve_first 3 drainWorker)

theorem perform_drainedAgain :
    perform plainAdapter oneOClock (.reserve { workerId := drainWorker }) drained = drainedAgain :=
  perform_reserved (reserve_again 3 drainWorker drainWorker)

theorem runs_secondDrain : secondDrain.job.status = .running ∧
    secondDrain.job.leaseExpiresAt = some "2026-01-01T01:05:00.000Z" ∧
    secondDrain.job.workerId = some drainWorker :=
  ⟨rfl, rfl, rfl⟩

/-- A commit that puts another job in the place of the only one changes what is stored. -/
theorem changed_of_commit {α : Type} {now storedAt : IsoDateTime} {work : Work} {s : WorkState}
    {mutate : Mutation α} {result : α} (job job' : ReferenceQueuedJob)
    (hwork : plainAdapter.perform now work.call s.current =
      (plainAdapter.commitSnapshot now mutate s.current).1)
    (hcurrent : s.current = some (recordOf job storedAt)) (hid : job'.id = job.id)
    (hne : job'.status ≠ job.status)
    (hmutate : mutate (recordOf job storedAt).toQueueContent =
      .ok ((recordOf job' storedAt).toQueueContent, result)) (hplain : Plain job') :
    stored (perform plainAdapter now work s).current job.id ≠ stored s.current job.id := by
  have hcommit : plainAdapter.commitSnapshot now mutate s.current =
      (some (recordOf job' now), .ok result) := by
    rw [hcurrent]
    exact commitSnapshot_stores hmutate (storable_queueOf hplain now)
  show stored (plainAdapter.perform now work.call s.current) job.id ≠ _
  rw [hwork, hcommit, hcurrent]
  rw [show stored (some (recordOf job storedAt)) job.id = _ from find_queueOf job, ← hid,
    show stored (some (recordOf job' now)) job'.id = _ from find_queueOf job']
  exact fun he => hne (congrArg ReferenceQueuedJob.status (Option.some.inj he))

/-- **Counterexample**: the first of two drains of one name completes the job that the second
one holds. -/
theorem stale_completion :
    perform plainAdapter midnight (.enqueue (.enqueueJob
      { evidenceRequest with maxAttempts := some 3 })) { current := none, reservations := [] } =
      asked ∧
    perform plainAdapter midnight (.reserve { workerId := drainWorker }) asked = drained ∧
    perform plainAdapter oneOClock (.reserve { workerId := drainWorker }) drained = drainedAgain ∧
    ¬ Fenced plainAdapter oneOClock drainedAgain
      (.complete firstDrain { workerId := some drainWorker }) := by
  refine ⟨perform_asked, perform_drained, perform_drainedAgain, fun hfenced => ?_⟩
  have hlease : LeaseActive secondDrain.job oneOClock := by
    intro lease hlease
    rw [runs_secondDrain.2.1] at hlease
    cases hlease
    decide +kernel
  have hworker : WorkerMatches secondDrain.job (some drainWorker) := by
    intro w holder hw hholder
    rw [runs_secondDrain.2.2] at hholder
    exact Option.some.inj (hw.symm.trans hholder)
  have hmutate : completeJob secondDrain.job.id { workerId := some drainWorker } oneOClock
      (recordOf secondDrain.job oneOClock).toQueueContent =
      .ok ((recordOf (secondDrain.job.completed (some drainWorker) oneOClock)
        oneOClock).toQueueContent, secondDrain.job.completed (some drainWorker) oneOClock) :=
    completeJob_ok.2 ⟨secondDrain.job, find_queueOf _, rfl, hlease, hworker, rfl,
      (content_queueOf secondDrain.job (secondDrain.job.completed _ _) _ _ rfl).symm⟩
  have hchanged : stored (perform plainAdapter oneOClock (.complete firstDrain
      { workerId := some drainWorker }) drainedAgain).current _ ≠ _ :=
    changed_of_commit secondDrain.job (secondDrain.job.completed (some drainWorker) oneOClock)
      (perform_completeJob _ _ _ _) rfl rfl (fun he => by cases he) hmutate
      ⟨noSecretKeys_empty, rfl, rfl⟩
  have hlatest := (hfenced _ hchanged).2.latest
  cases hlatest

/-- **Counterexample**: the failure that a drain reports an hour late sends its job back. -/
theorem late_failure :
    perform plainAdapter midnight (.reserve { workerId := drainWorker }) asked = drained ∧
    ¬ Fenced plainAdapter oneOClock drained
      (.fail firstDrain { workerId := some drainWorker, error := "lease expired" }) := by
  refine ⟨perform_drained, fun hfenced => ?_⟩
  have havailable : addMilliseconds exactHost oneOClock (backoffDelayMs firstDrain.job) =
      .ok "2026-01-01T01:00:30.000Z" := by decide +kernel
  have hmutate : plainAdapter.recordJobFailure firstDrain.job.id
      { workerId := some drainWorker, error := "lease expired" } oneOClock
      (recordOf firstDrain.job midnight).toQueueContent =
      .ok ((recordOf (firstDrain.job.retried oneOClock "2026-01-01T01:00:30.000Z" "lease expired")
        midnight).toQueueContent,
        firstDrain.job.retried oneOClock "2026-01-01T01:00:30.000Z" "lease expired") := by
    have hworker : WorkerMatches firstDrain.job (some drainWorker) :=
      fun w holder hw hholder => Option.some.inj (hw.symm.trans hholder)
    have hattempts : (firstDrain.job.attempts : Rat) < firstDrain.job.maxAttempts := by
      show ((1 : Nat) : Rat) < 3
      decide +kernel
    exact (recordJobFailure_retried (find_queueOf _) rfl hworker hattempts havailable).trans
      (congrArg (fun content => Except.ok (content, _))
        (content_queueOf firstDrain.job (firstDrain.job.retried _ _ _) _ _ rfl))
  have hchanged : stored (perform plainAdapter oneOClock (.fail firstDrain
      { workerId := some drainWorker, error := "lease expired" }) drained).current _ ≠ _ :=
    changed_of_commit firstDrain.job
      (firstDrain.job.retried oneOClock "2026-01-01T01:00:30.000Z" "lease expired")
      (perform_recordJobFailure _ _ _ _ _) rfl rfl (fun he => by cases he) hmutate
      ⟨noSecretKeys_empty, rfl, rfl⟩
  have hlease : LeaseActive firstDrain.job oneOClock := (hfenced _ hchanged).2.lease
  have hover : stringLe "2026-01-01T00:05:00.000Z" oneOClock = true := by decide +kernel
  rw [hlease "2026-01-01T00:05:00.000Z" rfl] at hover
  cases hover

/-! ## A job that runs is held by its last reservation -/

/-- What is stored of a job that runs is what its last reservation returned. -/
def Held (s : WorkState) : Prop :=
  ∀ id job, stored s.current id = some job → job.status = .running →
    ∃ r, latest s id = some r ∧ r.job = job

/-- A job that runs after a recovery has not been touched by it. -/
theorem recovered_running {job : ReferenceQueuedJob} {recoveredAt : IsoDateTime}
    (h : (job.recovered recoveredAt).status = .running) : job.recovered recoveredAt = job := by
  unfold ReferenceQueuedJob.recovered at h ⊢
  split at h
  · rfl
  · cases h

section
variable {adapter : ReferenceJobQueueAdapter} {now : IsoDateTime} {s : WorkState} {work : Work}

/-- Jobs that run after a call ran before it as they are. -/
def RunsFrom (queue queue' : ReferenceJobQueueSnapshot) : Prop :=
  ∀ id job, findBy (·.id) queue'.queuedJobs id = some job → job.status = .running →
    findBy (·.id) queue.queuedJobs id = some job

theorem runsFrom_recovered (queue : ReferenceJobQueueSnapshot) (recoveredAt : IsoDateTime) :
    RunsFrom queue (recoverExpiredRunningJobs queue recoveredAt) := by
  intro id job hfind hrunning
  rw [find_recovered, Option.map_eq_some_iff] at hfind
  obtain ⟨job', hfind, rfl⟩ := hfind
  rw [hfind, recovered_running hrunning]

theorem runsFrom_withJob {queue : ReferenceJobQueueSnapshot} {job : ReferenceQueuedJob}
    (h : job.status ≠ .running) : RunsFrom queue (withJob queue job) := by
  intro id job' hfind hrunning
  rw [find_withJob] at hfind
  split at hfind
  · cases hfind
    exact absurd hrunning h
  · exact hfind

theorem runsFrom_withNewJob {queue : ReferenceJobQueueSnapshot} {job : ReferenceQueuedJob}
    (h : job.status ≠ .running) : RunsFrom queue (withNewJob queue job) := by
  intro id job' hfind hrunning
  rw [show findBy (·.id) (withNewJob queue job).queuedJobs id =
    (findBy (·.id) queue.queuedJobs id).or (findBy (·.id) [job] id) from findBy_append ..] at hfind
  cases hbefore : findBy (·.id) queue.queuedJobs id with
  | some before =>
    rw [hbefore] at hfind
    exact hfind
  | none =>
    rw [hbefore, Option.none_or] at hfind
    cases List.mem_singleton.1 (mem_of_findBy hfind)
    exact absurd hrunning h

theorem not_running_failed {job failed : ReferenceQueuedJob} {request : ReferenceJobFailureRequest}
    {failedAt : IsoDateTime} (h : Failed request failedAt job failed) :
    failed.status ≠ .running := by
  cases h <;> exact fun he => by cases he

theorem runsFrom_perform (hwork : ∀ request, work ≠ .reserve request) :
    RunsFrom (contentOf s.current).queue
      (contentOf (adapter.perform now work.call s.current)).queue := by
  have hsame : RunsFrom (contentOf s.current).queue (contentOf s.current).queue :=
    fun _ _ hfind _ => hfind
  cases work with
  | reserve request => exact absurd rfl (hwork request)
  | complete held request =>
    refine commit_queue_invariant hsame fun content result hmutate => ?_
    obtain ⟨job, -, -, -, -, rfl, rfl⟩ := completeJob_ok.1 hmutate
    exact runsFrom_withJob fun he => by cases he
  | fail held request =>
    refine commit_queue_invariant hsame fun content result hmutate => ?_
    obtain ⟨job, -, -, -, hfailed, rfl⟩ := recordJobFailure_ok hmutate
    exact runsFrom_withJob (not_running_failed hfailed)
  | enqueue call =>
    unfold Work.call
    rw [perform_enqueue]
    unfold enqueue
    split
    · exact hsame
    · refine commit_queue_invariant hsame fun content result hmutate => ?_
      rcases enqueueNormalizedJob_ok hmutate with ⟨existing, -, -, -, rfl⟩ | ⟨-, rfl, rfl⟩
      · exact hsame
      · exact runsFrom_withNewJob fun he => by cases he
  | setConnectorHealth health =>
    unfold ReferenceJobQueueAdapter.perform Work.call
    dsimp only
    split
    · exact hsame
    · refine commit_queue_invariant hsame fun content result hmutate => ?_
      cases hmutate
      exact hsame
  | record r =>
    unfold ReferenceJobQueueAdapter.perform Work.call
    dsimp only
    split
    · exact hsame
    · refine commit_queue_invariant hsame fun content result hmutate => ?_
      obtain ⟨-, rfl⟩ := recordJobRecord_ok hmutate
      exact hsame

theorem held_of_runsFrom (h : Held s) {s' : WorkState}
    (hcurrent : RunsFrom (contentOf s.current).queue (contentOf s'.current).queue)
    (hreservations : s'.reservations = s.reservations) : Held s' := by
  intro id job hfind hrunning
  unfold latest
  rw [hreservations]
  exact h id job (hcurrent id job hfind hrunning) hrunning

theorem held_reserved (h : Held s) {record : ReferenceJobQueueStoreRecord} {number : Nat}
    {queue : ReferenceJobQueueSnapshot} {reserved : ReferenceQueuedJob}
    (hqueue : record.queue = withJob queue reserved)
    (hruns : RunsFrom (contentOf s.current).queue queue) :
    Held { current := some record, reservations := ⟨number, reserved⟩ :: s.reservations } := by
  intro id job hfind hrunning
  have hlatest : latest ⟨some record, ⟨number, reserved⟩ :: s.reservations⟩ id =
      if reserved.id = id then some ⟨number, reserved⟩ else latest s id :=
    findBy_cons _ s.reservations id
  rw [show stored (some record) id = findBy (·.id) record.queue.queuedJobs id from rfl, hqueue,
    find_withJob] at hfind
  rw [hlatest]
  by_cases hid : reserved.id = id
  · rw [if_pos hid] at hfind ⊢
    cases hfind
    exact ⟨_, rfl, rfl⟩
  · rw [if_neg hid] at hfind ⊢
    exact h id job (hruns id job hfind hrunning) hrunning

/-- **A call** keeps every job that runs with its last reservation. -/
theorem held_perform (h : Held s) : Held (perform adapter now work s) := by
  by_cases hwork : ∃ request, work = .reserve request
  · obtain ⟨request, rfl⟩ := hwork
    rcases commitSnapshot_cases adapter (request.reservedAt.getD now)
      (adapter.reserveNextJob request (request.reservedAt.getD now)) s.current with
      ⟨message, hcommit⟩ | ⟨content, result, hmutate, -, hcommit⟩
    · refine held_of_runsFrom h ?_ ?_
      · show RunsFrom _ (contentOf (adapter.commitSnapshot _ _ _).1).queue
        rw [hcommit]
        exact fun _ _ hfind _ => hfind
      · simp only [perform, reservationOf, hcommit, Option.toList_none, List.nil_append]
    · rcases reserveNextJob_ok hmutate with ⟨rfl, rfl⟩ | ⟨job, lease, -, -, rfl, rfl⟩
      · refine held_of_runsFrom h ?_ ?_
        · show RunsFrom _ (contentOf (adapter.commitSnapshot _ _ _).1).queue
          rw [hcommit]
          exact runsFrom_recovered _ _
        · simp only [perform, reservationOf, hcommit, Option.toList_none, List.nil_append]
      · rw [perform_reserved hcommit]
        exact held_reserved h rfl (runsFrom_recovered _ _)
  · rw [not_exists] at hwork
    refine held_of_runsFrom h (runsFrom_perform hwork) ?_
    cases work with
    | reserve request => exact absurd rfl (hwork request)
    | _ => rfl

theorem reached_held (h : Reached adapter s) : Held s := by
  induction h with
  | opened => exact fun id job hfind => by cases hfind
  | performed _ _ _ _ ih => exact held_perform ih

/-! ## Reports -/

/-- A report that names itself, and is accepted, is of the reservation that holds the job. -/
theorem holds_of_namesItself (h : Held s) {held : Reservation} {workerId : Option CanonicalId}
    {checked : ReferenceQueuedJob → Prop} (hnames : NamesItself s held workerId checked)
    {job : ReferenceQueuedJob} (hchecked : checked job)
    (hfind : stored s.current held.job.id = some job) (hrunning : job.status = .running)
    (hworker : WorkerMatches job workerId) :
    job = held.job ∧ latest s held.job.id = some held := by
  obtain ⟨r, hlatest, rfl⟩ := h held.job.id job hfind hrunning
  by_cases hr : r = held
  · exact ⟨congrArg Reservation.job hr, hr ▸ hlatest⟩
  · obtain ⟨w, w', hw, hw', hne⟩ := hnames r hlatest hfind hr hchecked
    exact absurd (hworker w w' hw hw') hne

/-- A commit in which nothing but one job changes. -/
theorem only_changed {id : CanonicalId} {job : ReferenceQueuedJob} (hid : job.id = id)
    {queue : ReferenceJobQueueSnapshot} {id' : CanonicalId}
    (h : findBy (·.id) (withJob queue job).queuedJobs id' ≠ findBy (·.id) queue.queuedJobs id') :
    id' = id := by
  rw [find_withJob, hid] at h
  by_contra hne
  exact h (if_neg (Ne.symm hne))

theorem fenced_complete (h : Held s) {held : Reservation} {request : ReferenceJobCompletionRequest}
    (hnames : NamesItself s held request.workerId fun job =>
      LeaseActive job (request.completedAt.getD now)) :
    Fenced adapter now s (.complete held request) := by
  intro id hchanged
  rcases commitSnapshot_cases adapter (request.completedAt.getD now)
    (completeJob held.job.id request (request.completedAt.getD now)) s.current with
    ⟨message, hcommit⟩ | ⟨content, result, hmutate, -, hcommit⟩
  · refine absurd ?_ hchanged
    show stored (adapter.commitSnapshot _ _ _).1 id = _
    rw [hcommit]
  · obtain ⟨job, hfind, hrunning, hlease, hworker, rfl, rfl⟩ := completeJob_ok.1 hmutate
    obtain ⟨rfl, hlatest⟩ := holds_of_namesItself h hnames hlease hfind hrunning hworker
    have hid : (held.job.completed request.workerId (request.completedAt.getD now)).id =
        held.job.id := rfl
    have hafter : (perform adapter now (.complete held request) s).current = _ :=
      congrArg Prod.fst hcommit
    rw [hafter] at hchanged
    exact ⟨only_changed hid hchanged, hfind, hlatest, hlease⟩

theorem fenced_fail (h : Held s) {held : Reservation} {request : ReferenceJobFailureRequest}
    (hnames : NamesItself s held request.workerId fun _ => True)
    (hlease : stored s.current held.job.id = some held.job →
      LeaseActive held.job (request.failedAt.getD now)) :
    Fenced adapter now s (.fail held request) := by
  intro id hchanged
  rcases commitSnapshot_cases adapter (request.failedAt.getD now)
    (adapter.recordJobFailure held.job.id request (request.failedAt.getD now)) s.current with
    ⟨message, hcommit⟩ | ⟨content, result, hmutate, -, hcommit⟩
  · refine absurd ?_ hchanged
    show stored (adapter.commitSnapshot _ _ _).1 id = _
    rw [hcommit]
  · obtain ⟨job, hfind, hrunning, hworker, hfailed, rfl⟩ := recordJobFailure_ok hmutate
    obtain ⟨rfl, hlatest⟩ := holds_of_namesItself h hnames trivial hfind hrunning hworker
    have hid : result.id = held.job.id := ReferenceQueuedJob.id_of_origin
      (ReferenceQueuedJob.origin_failed hfailed)
    have hafter : (perform adapter now (.fail held request) s).current = _ :=
      congrArg Prod.fst hcommit
    rw [hafter] at hchanged
    exact ⟨only_changed hid hchanged, hfind, hlatest, hlease hfind⟩

/-- **When reports are fenced**: in every run whose reports meet their condition, a report
changes the job of its reservation alone, while it holds that and its lease lasts. -/
theorem reports_fenced (h : Reached adapter s) (hmeets : Meets now s work) :
    Fenced adapter now s work := by
  have hheld := reached_held h
  cases work with
  | complete held request => exact fenced_complete hheld hmeets
  | fail held request => exact fenced_fail hheld hmeets.1 hmeets.2
  | _ => trivial

theorem reports_fenced_drained : Fenced plainAdapter midnight drained
    (.complete firstDrain { workerId := some drainWorker }) := by
  have hasked : Reached plainAdapter asked := perform_asked ▸ .performed .opened midnight _ trivial
  have hdrained : Reached plainAdapter drained :=
    perform_drained ▸ .performed hasked midnight _ trivial
  refine reports_fenced hdrained fun r hlatest _ hne _ => ?_
  exact absurd (Option.some.inj hlatest).symm hne

end

end AccessKit.Bugs.StaleReports
