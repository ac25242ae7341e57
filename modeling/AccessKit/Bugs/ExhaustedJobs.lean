import AccessKit.L6Queue.Fixtures
import AccessKit.L6Queue.QueueInvariant
import AccessKit.L6Queue.QueueStore

/-!
# Jobs without attempts left are reserved again

Status: open. A reservation counts an attempt, and `recordJobFailure`
(packages/core/src/reference-job-queue.ts:374-410) dead-letters a job whose attempts
are used up. `recoverExpiredRunningJobs`
(packages/core/src/reference-job-queue.ts:1019-1039) does not look at them: a job
whose worker died goes back to the queue whatever its attempts are, and the next
reservation counts past the limit. A limit that is not a whole number is passed in
the same way by a failure report, which compares it with the attempts made so far.

Counterexample: a job with one attempt is reserved, its lease ends, and it is
reserved again (`reserved_past_limit`).

Exact condition: when a reservation is made, no running job without attempts left
has a lease that is over, and no failure is reported of a job that has less than
one attempt left but more than none (`attempts_bounded`).
-/
namespace AccessKit.L6

/-- One more attempt would be one too many. -/
def ReferenceQueuedJob.Exhausted (job : ReferenceQueuedJob) : Prop :=
  job.maxAttempts < (job.attempts : Rat) + 1

end AccessKit.L6

namespace AccessKit.Bugs.ExhaustedJobs
open AccessKit.Core AccessKit.L1 AccessKit.L6 AccessKit.L6.Fixtures ReferenceJobQueueAdapter

/-! ## The law -/

/-- A job whose limit allows an attempt: the limit holds, and nobody can reserve the job
when its attempts are used up. -/
structure Bounded (job : ReferenceQueuedJob) : Prop where
  attempts : 1 ≤ job.maxAttempts → (job.attempts : Rat) ≤ job.maxAttempts
  exhausted : 1 ≤ job.maxAttempts → job.Exhausted → job.status ≠ .queued

/-- All jobs of a queue are bounded. -/
def AllBounded (queue : ReferenceJobQueueSnapshot) : Prop := ∀ job ∈ queue.queuedJobs, Bounded job

section
variable (adapter : ReferenceJobQueueAdapter)

/-- A call that ends the last attempt of a job, by a failure or because the lease is over,
leaves the job dead-lettered. -/
def DeadLetters (now : IsoDateTime) (call : QueueCall)
    (current : Option ReferenceJobQueueStoreRecord) : Prop :=
  match call with
  | .recordJobFailure jobId request =>
    let failedAt := request.failedAt.getD now
    ∀ job, findBy (·.id) (contentOf current).queue.queuedJobs jobId = some job →
      1 ≤ job.maxAttempts → job.Exhausted → ∀ failed,
      (adapter.commitSnapshot failedAt (adapter.recordJobFailure jobId request failedAt)
        current).2 = .ok failed → failed.status = .deadLettered
  | .reserveNextJob request =>
    let reservedAt := request.reservedAt.getD now
    ∀ job ∈ (contentOf current).queue.queuedJobs,
      1 ≤ job.maxAttempts → job.Exhausted → job.expiredLease reservedAt ≠ none → ∀ reserved,
      (adapter.commitSnapshot reservedAt (adapter.reserveNextJob request reservedAt)
        current).2 = .ok reserved →
      ∃ job' ∈ (contentOf (adapter.perform now call current)).queue.queuedJobs,
        job'.origin = job.origin ∧ job'.status = .deadLettered
  | _ => True

/-- What a call needs, so that no job passes its limit. -/
def Meets (now : IsoDateTime) (store : QueueStore) : StoreCall → Prop
  | .call (.reserveNextJob request) => ∀ job ∈ (contentOf store.current).queue.queuedJobs,
      1 ≤ job.maxAttempts → job.Exhausted → job.expiredLease (request.reservedAt.getD now) = none
  | .call (.recordJobFailure jobId _) => ∀ job,
      findBy (·.id) (contentOf store.current).queue.queuedJobs jobId = some job →
      1 ≤ job.maxAttempts → job.Exhausted → job.maxAttempts ≤ job.attempts
  | _ => True

/-- The stores that calls lead to, when each meets its condition. -/
inductive Reached : QueueStore → Prop
  | opened : Reached emptyStore
  | performed {store : QueueStore} (h : Reached store) (now : IsoDateTime) (call : StoreCall)
      (hmeets : Meets now store call) : Reached (adapter.performOn now call store)

end

/-! ## The counterexample -/

/-- One attempt, a reservation of five minutes, and another one an hour later. -/
def onceOnly : List (IsoDateTime × QueueCall) :=
  [(midnight, .enqueue (.enqueueJob { evidenceRequest with maxAttempts := some 1 })),
    (midnight, .reserveNextJob { workerId := "worker:1" }),
    (oneOClock, .reserveNextJob { workerId := "worker:2" })]

theorem run_onceOnly : plainAdapter.run onceOnly none =
    some (recordOf (heldAgain 1 "worker:1" "worker:2") oneOClock) := by
  unfold onceOnly
  rw [run_cons, perform_evidence, run_cons, perform_reserve, reserve_first, run_cons,
    perform_reserve, reserve_again, run_nil]

/-- **Counterexample**: after the second reservation a job with one attempt has had two. -/
theorem reserved_past_limit :
    ∃ job ∈ (contentOf (plainAdapter.run onceOnly none)).queue.queuedJobs,
      job.maxAttempts = 1 ∧ job.attempts = 2 := by
  rw [run_onceOnly]
  refine ⟨heldAgain 1 "worker:1" "worker:2", List.mem_singleton_self _, ?_⟩
  unfold heldAgain ReferenceQueuedJob.recovered
  rw [expired_first]
  exact ⟨rfl, rfl⟩

/-! ## What the steps of a job keep -/

section
variable {job : ReferenceQueuedJob}

theorem not_exhausted (hjob : ¬ job.Exhausted) : (job.attempts : Rat) + 1 ≤ job.maxAttempts :=
  not_lt.1 hjob

theorem bounded_new (H : Host) (request : RequiredQueueRequest) :
    Bounded (createQueuedJob H request) := by
  have hattempts : ((createQueuedJob H request).attempts : Rat) = 0 := rfl
  constructor
  · intro hmax
    rw [hattempts]
    exact zero_le_one.trans hmax
  · intro hmax hexhausted
    unfold ReferenceQueuedJob.Exhausted at hexhausted
    rw [hattempts, zero_add] at hexhausted
    exact absurd hmax (not_le.2 hexhausted)

theorem bounded_reserved (h : Bounded job) (hqueued : job.status = .queued)
    (workerId : CanonicalId) (reservedAt leaseExpiresAt : IsoDateTime) :
    Bounded (job.reserved workerId reservedAt leaseExpiresAt) := by
  constructor
  · intro hmax
    have hleft := not_exhausted fun hexhausted => h.exhausted hmax hexhausted hqueued
    show ((job.attempts + 1 : Nat) : Rat) ≤ job.maxAttempts
    push_cast
    exact hleft
  · exact fun _ _ hstatus => by cases hstatus

theorem bounded_completed (h : Bounded job) (workerId : Option CanonicalId)
    (completedAt : IsoDateTime) : Bounded (job.completed workerId completedAt) :=
  ⟨h.attempts, fun _ _ hstatus => by cases hstatus⟩

/-- A failure keeps the attempts, and the job is tried again only when one is left. -/
theorem bounded_failed {failed : ReferenceQueuedJob} {request : ReferenceJobFailureRequest}
    {failedAt : IsoDateTime} (h : Bounded job) (hfailed : Failed request failedAt job failed)
    (hmeets : 1 ≤ job.maxAttempts → job.Exhausted → job.maxAttempts ≤ job.attempts) :
    Bounded failed := by
  cases hfailed with
  | retried availableAt hattempts =>
    exact ⟨h.attempts, fun hmax hexhausted => absurd hattempts (not_lt.2 (hmeets hmax hexhausted))⟩
  | deadLettered hattempts => exact ⟨h.attempts, fun _ _ hstatus => by cases hstatus⟩

/-- A job whose lease is over goes back to the queue, with the attempts it has. -/
theorem bounded_recovered (h : Bounded job) {recoveredAt : IsoDateTime}
    (hmeets : 1 ≤ job.maxAttempts → job.Exhausted → job.expiredLease recoveredAt = none) :
    Bounded (job.recovered recoveredAt) := by
  cases hlease : job.expiredLease recoveredAt with
  | none =>
    rw [ReferenceQueuedJob.recovered, hlease]
    exact h
  | some lease =>
    rw [ReferenceQueuedJob.recovered, hlease]
    refine ⟨h.attempts, fun hmax hexhausted => ?_⟩
    rw [hmeets hmax hexhausted] at hlease
    cases hlease

end

/-! ## Calls and runs -/

section
variable {queue : ReferenceJobQueueSnapshot}

theorem AllBounded.withJob (h : AllBounded queue) {job : ReferenceQueuedJob} (hjob : Bounded job) :
    AllBounded (withJob queue job) := by
  intro other hother
  rcases mem_upsertBy hother with rfl | hother
  · exact hjob
  · exact h other hother

theorem AllBounded.withNewJob (h : AllBounded queue) {job : ReferenceQueuedJob}
    (hjob : Bounded job) : AllBounded (withNewJob queue job) := by
  intro other hother
  rcases List.mem_append.1 hother with hother | hother
  · exact h other hother
  · rw [List.mem_singleton.1 hother]
    exact hjob

theorem AllBounded.recovered (h : AllBounded queue) {recoveredAt : IsoDateTime}
    (hmeets : ∀ job ∈ queue.queuedJobs, 1 ≤ job.maxAttempts → job.Exhausted →
      job.expiredLease recoveredAt = none) :
    AllBounded (recoverExpiredRunningJobs queue recoveredAt) := by
  intro other hother
  obtain ⟨job, hjob, rfl⟩ := List.mem_map.1 hother
  exact bounded_recovered (h job hjob) (hmeets job hjob)

variable {adapter : ReferenceJobQueueAdapter} {store : QueueStore}

/-- **A write of the queue** that meets its condition keeps every job bounded. -/
theorem perform_bounded {now : IsoDateTime} {call : QueueCall}
    (h : AllBounded (contentOf store.current).queue) (hmeets : Meets now store (.call call)) :
    AllBounded (contentOf (adapter.perform now call store.current)).queue := by
  cases call with
  | enqueue call =>
    rw [perform_enqueue]
    unfold enqueue
    split
    · exact h
    · next checked hchecked =>
      refine commit_queue_invariant h fun content result hmutate => ?_
      rcases enqueueNormalizedJob_ok hmutate with ⟨existing, -, -, -, rfl⟩ | ⟨-, rfl, rfl⟩
      · exact h
      · exact h.withNewJob (bounded_new _ _)
  | reserveNextJob request =>
    have hrecovered := h.recovered hmeets
    refine commit_queue_invariant h fun content result hmutate => ?_
    rcases reserveNextJob_ok hmutate with ⟨-, rfl⟩ | ⟨job, lease, hjob, hqueued, -, rfl⟩
    · exact hrecovered
    · exact hrecovered.withJob (bounded_reserved (hrecovered job hjob) hqueued _ _ _)
  | completeJob jobId request =>
    refine commit_queue_invariant h fun content result hmutate => ?_
    obtain ⟨job, hfind, -, -, -, rfl, rfl⟩ := completeJob_ok.1 hmutate
    exact h.withJob (bounded_completed (h job (mem_of_findBy hfind)) _ _)
  | recordJobFailure jobId request =>
    refine commit_queue_invariant h fun content result hmutate => ?_
    obtain ⟨job, hfind, -, -, hfailed, rfl⟩ := recordJobFailure_ok hmutate
    exact h.withJob (bounded_failed (h job (mem_of_findBy hfind)) hfailed (hmeets job hfind))
  | setConnectorHealth health =>
    unfold perform
    dsimp only
    split
    · exact h
    · refine commit_queue_invariant h fun content result hmutate => ?_
      cases hmutate
      exact h
  | record r =>
    unfold perform
    dsimp only
    split
    · exact h
    · refine commit_queue_invariant h fun content result hmutate => ?_
      obtain ⟨-, rfl⟩ := recordJobRecord_ok hmutate
      exact h

theorem deadLetters_of_meets {now : IsoDateTime} {call : QueueCall}
    (hmeets : Meets now store (.call call)) : DeadLetters adapter now call store.current := by
  cases call with
  | recordJobFailure jobId request =>
    intro job hfind hmax hexhausted failed hok
    rcases commitSnapshot_cases adapter (request.failedAt.getD now)
      (adapter.recordJobFailure jobId request (request.failedAt.getD now)) store.current with
      ⟨message, hcommit⟩ | ⟨content, result, hmutate, -, hcommit⟩
    · rw [hcommit] at hok
      cases hok
    · rw [hcommit] at hok
      cases hok
      obtain ⟨job', hfind', -, -, hfailed, -⟩ := recordJobFailure_ok hmutate
      rw [hfind] at hfind'
      cases hfind'
      cases hfailed with
      | retried _ hattempts => exact absurd hattempts (not_lt.2 (hmeets job hfind hmax hexhausted))
      | deadLettered => rfl
  | reserveNextJob request =>
    intro job hjob hmax hexhausted hexpired
    exact absurd (hmeets job hjob hmax hexhausted) hexpired
  | _ => trivial

/-- **When attempts are bounded**: in every run whose calls meet their condition, every job
of every state is bounded, and a call that ends a last attempt dead-letters the job. -/
theorem attempts_bounded (h : Reached adapter store) :
    (∀ job ∈ (contentOf store.current).queue.queuedJobs, Bounded job) ∧
      ∀ now call, Meets now store (.call call) → DeadLetters adapter now call store.current := by
  have hholds : StoreHolds AllBounded store := by
    induction h with
    | opened => exact ⟨fun job hjob => (by cases hjob), fun id backup hbackup => (by cases hbackup)⟩
    | performed _ now call hmeets ih =>
      exact performOn_invariant ih fun c hc => perform_bounded ih.current (hc ▸ hmeets)
  exact ⟨hholds.current, fun _ _ hmeets => deadLetters_of_meets hmeets⟩

theorem Reached.called {current : Option ReferenceJobQueueStoreRecord} (h : Reached adapter store)
    (now : IsoDateTime) (call : QueueCall) (hmeets : Meets now store (.call call))
    (hperform : adapter.perform now call store.current = current) :
    Reached adapter { store with current } :=
  hperform ▸ .performed h now (.call call) hmeets

/-- A job of two attempts, before any and after one. -/
theorem not_exhausted_first :
    ¬ (evidenceJob 2 midnight).Exhausted ∧ ¬ (heldFirst 2 "worker:1").Exhausted := by
  unfold ReferenceQueuedJob.Exhausted
  exact ⟨by decide +kernel, by decide +kernel⟩

/-- The job of two attempts, reserved for the second time. -/
def lastAttempt : ReferenceQueuedJob := heldAgain 2 "worker:1" "worker:2"

/-- What its worker reports. -/
def timeout : ReferenceJobFailureRequest where
  workerId := some "worker:2"
  error := "timeout"

theorem lastAttempt_eq : lastAttempt.attempts = 2 ∧ lastAttempt.maxAttempts = 2 ∧
    lastAttempt.status = .running ∧ lastAttempt.workerId = some "worker:2" ∧ Plain lastAttempt := by
  unfold lastAttempt heldAgain ReferenceQueuedJob.recovered
  rw [expired_first]
  exact ⟨rfl, rfl, rfl, rfl, noSecretKeys_empty, rfl, rfl⟩

theorem reached_lastAttempt : Reached plainAdapter
    { emptyStore with current := some (recordOf lastAttempt oneOClock) } := by
  have henqueued := Reached.called .opened midnight
    (.enqueue (.enqueueJob { evidenceRequest with maxAttempts := some 2 })) trivial
    (perform_evidence 2 midnight)
  have hreserved := henqueued.called midnight (.reserveNextJob { workerId := "worker:1" })
    (fun job hjob _ hexhausted => absurd (List.mem_singleton.1 hjob ▸ hexhausted)
      not_exhausted_first.1)
    (by rw [perform_reserve, reserve_first])
  exact hreserved.called oneOClock (.reserveNextJob { workerId := "worker:2" })
    (fun job hjob _ hexhausted => absurd (List.mem_singleton.1 hjob ▸ hexhausted)
      not_exhausted_first.2)
    (by rw [perform_reserve, reserve_again]; rfl)

/-- A job with two attempts is reserved, its lease ends, it is reserved again, and the
failure of its last attempt dead-letters it. -/
theorem attempts_bounded_deadLettered :
    lastAttempt.attempts = 2 ∧ Bounded lastAttempt ∧
    ∃ failed, (plainAdapter.commitSnapshot oneOClock
        (plainAdapter.recordJobFailure lastAttempt.id timeout oneOClock)
        (some (recordOf lastAttempt oneOClock))).2 = .ok failed ∧
      failed.status = .deadLettered := by
  obtain ⟨hattempts, hmax, hrunning, hworkerId, hplain⟩ := lastAttempt_eq
  obtain ⟨hbounded, hdeadLetters⟩ := attempts_bounded reached_lastAttempt
  have hlast : ¬ (lastAttempt.attempts : Rat) < lastAttempt.maxAttempts := by
    rw [hattempts, hmax]
    exact lt_irrefl 2
  have hexhausted : lastAttempt.Exhausted := by
    unfold ReferenceQueuedJob.Exhausted
    rw [hattempts, hmax]
    decide +kernel
  have hmeets : Meets oneOClock { emptyStore with current := some (recordOf lastAttempt oneOClock) }
      (.call (.recordJobFailure lastAttempt.id timeout)) := by
    intro job hfind _ _
    obtain rfl := Option.some.inj ((find_queueOf lastAttempt).symm.trans hfind)
    exact not_lt.1 hlast
  have hworker : WorkerMatches lastAttempt timeout.workerId := fun w holder hw hholder =>
    Option.some.inj (hw.symm.trans (hworkerId.symm.trans hholder))
  have hcommit : (plainAdapter.commitSnapshot oneOClock
      (plainAdapter.recordJobFailure lastAttempt.id timeout oneOClock)
      (some (recordOf lastAttempt oneOClock))).2 =
      .ok (lastAttempt.deadLettered timeout.workerId oneOClock timeout.error) :=
    congrArg Prod.snd (commit_deadLetter hplain oneOClock hrunning hworker hlast)
  exact ⟨hattempts, hbounded _ (List.mem_singleton_self _), _, hcommit,
    hdeadLetters oneOClock _ hmeets lastAttempt (find_queueOf _) (by rw [hmax]; decide +kernel)
      hexhausted _ hcommit⟩

end

end AccessKit.Bugs.ExhaustedJobs
