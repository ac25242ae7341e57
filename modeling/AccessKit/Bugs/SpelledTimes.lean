import AccessKit.L6Queue.Fixtures
import AccessKit.L6Queue.QueueInvariant
import AccessKit.L8Drift.GovernanceRuns

/-!
# Times compared by their spelling

Status: open. A reservation compares the texts of times, not the instants they denote:
`availableAt <= reservedAt` and `leaseExpiresAt > recoveredAt`
(packages/core/src/reference-job-queue.ts:321, 1022), and `requestedAt` by `localeCompare`
(1122-1124). Times come in from callers, with or without milliseconds and with any offset
(`requestedAt` of an enqueued job, `reservedAt` of a reservation). A job is reserved before it
is available, or passed over by a later one, when its texts are in another order than its
instants.

Counterexample: a job available at half past midnight in New York, reserved at one o'clock in
London (`early_reservation`).

Exact condition: on the spellings in use the order of the texts is that of the instants
(`picksRight_iff`); `picksRight_of_agrees` is the direction for one reservation.
-/
namespace AccessKit.Bugs.SpelledTimes
open AccessKit.Core AccessKit.L1 AccessKit.L2.Audit AccessKit.L2.Audit.Fixtures AccessKit.L6
  AccessKit.L6.Fixtures ReferenceJobQueueAdapter
open ReferenceQueuedJob (origin_recovered id_of_origin request_of_origin recovered_of_not_running)
open AccessKit.L8 (Collates plainCompare plainCompare_le plainCompare_collates)

/-! ## Instants -/

/-- The instant that an ISO 8601 text denotes, in milliseconds. -/
def instant (t : IsoDateTime) : Option Int :=
  (parseIso t.toList).filter fun time => -maxTime ≤ time ∧ time ≤ maxTime

/-- A text denotes an instant that is not after the one of another. -/
def NotAfter (s t : IsoDateTime) : Prop := leMs (instant s) (instant t) = true

instance (s t : IsoDateTime) : Decidable (NotAfter s t) :=
  inferInstanceAs (Decidable (leMs (instant s) (instant t) = true))

theorem notAfter_refl {t : IsoDateTime} (h : (instant t).isSome) : NotAfter t t := by
  obtain ⟨time, htime⟩ := Option.isSome_iff_exists.1 h
  unfold NotAfter
  rw [htime]
  exact decide_eq_true le_rfl

theorem dateParse_instant (H : Host) {t : IsoDateTime} {time : Int} (h : instant t = some time) :
    dateParse H t = some time ∧ -maxTime ≤ time ∧ time ≤ maxTime := by
  obtain ⟨hparse, hrange⟩ := Option.filter_eq_some_iff.1 h
  rw [decide_eq_true_eq] at hrange
  unfold dateParse
  rw [hparse]
  exact ⟨if_pos hrange, hrange⟩

/-! ## The law -/

/-- A job that a reservation may take at an instant: it waits and is available, or the lease
of its worker is over. -/
structure Candidate (queue : ReferenceJobQueueSnapshot) (reservedAt : IsoDateTime)
    (job : ReferenceQueuedJob) : Prop where
  mem : job ∈ queue.queuedJobs
  free : (job.status = .queued ∧ NotAfter job.availableAt reservedAt) ∨
    (job.status = .running ∧
      ∃ lease, truthy job.leaseExpiresAt = some lease ∧ NotAfter lease reservedAt)
  connector : isConnectorReservable job queue = true

/-- By priority, and then by the instant it was requested at. -/
def GoesFirst (job other : ReferenceQueuedJob) : Prop :=
  priorityRank job.priority < priorityRank other.priority ∨
    (priorityRank job.priority = priorityRank other.priority ∧
      NotAfter job.requestedAt other.requestedAt)

/-- **The law** of a reservation. -/
structure PicksRight (queue queue' : ReferenceJobQueueSnapshot) (reservedAt : IsoDateTime)
    (result : Option ReferenceQueuedJob) : Prop where
  available : ∀ running, result = some running → NotAfter running.availableAt reservedAt
  first : ∀ running, result = some running → ∃ job, Candidate queue reservedAt job ∧
    running.id = job.id ∧ ∀ other, Candidate queue reservedAt other → GoesFirst job other
  leases : ∀ job ∈ queue.queuedJobs, job.status = .running →
    (∀ lease, truthy job.leaseExpiresAt = some lease → ¬ NotAfter lease reservedAt) →
      job ∈ queue'.queuedJobs

/-- The times of a queue are spelled in one of some ways, and its jobs have ids of their own. -/
structure SpelledIn (T : Set IsoDateTime) (queue : ReferenceJobQueueSnapshot) : Prop where
  ids : (queue.queuedJobs.map (·.id)).Nodup
  requestedAt : ∀ job ∈ queue.queuedJobs, job.requestedAt ∈ T
  availableAt : ∀ job ∈ queue.queuedJobs, job.availableAt ∈ T
  leaseExpiresAt : ∀ job ∈ queue.queuedJobs,
    ∀ lease, truthy job.leaseExpiresAt = some lease → lease ∈ T

/-- Spellings whose texts are in the order of the instants, for both comparisons. -/
structure Agrees (localeCompare : String → String → Int) (T : Set IsoDateTime) : Prop where
  texts : ∀ s ∈ T, ∀ t ∈ T, (stringLe s t = true ↔ NotAfter s t)
  requests : ∀ s ∈ T, ∀ t ∈ T, localeCompare s t ≤ 0 → NotAfter s t

/-- Every reservation in a queue of these spellings meets the law. -/
def ReservesRight (adapter : ReferenceJobQueueAdapter) (T : Set IsoDateTime) : Prop :=
  ∀ (request : ReferenceJobReservationRequest) (reservedAt : IsoDateTime)
    (content content' : QueueContent) (result : Option ReferenceQueuedJob),
    SpelledIn T content.queue → reservedAt ∈ T →
    adapter.reserveNextJob request reservedAt content = .ok (content', result) →
    PicksRight content.queue content'.queue reservedAt result

/-! ## What a reservation picks -/

section
variable {adapter : ReferenceJobQueueAdapter} {request : ReferenceJobReservationRequest}
  {reservedAt : IsoDateTime} {content content' : QueueContent}
  {job running : ReferenceQueuedJob}

/-- The jobs that a reservation chooses from, by their texts. -/
def eligible (queue : ReferenceJobQueueSnapshot) (reservedAt : IsoDateTime) :
    List ReferenceQueuedJob :=
  (recoverExpiredRunningJobs queue reservedAt).queuedJobs.filter fun job =>
    job.status = .queued && stringLe job.availableAt reservedAt &&
      isConnectorReservable job (recoverExpiredRunningJobs queue reservedAt)

theorem mem_eligible {queue : ReferenceJobQueueSnapshot} :
    job ∈ eligible queue reservedAt ↔
      job ∈ (recoverExpiredRunningJobs queue reservedAt).queuedJobs ∧ job.status = .queued ∧
        stringLe job.availableAt reservedAt = true ∧ isConnectorReservable job queue = true := by
  unfold eligible
  rw [List.mem_filter, Bool.and_eq_true, Bool.and_eq_true, decide_eq_true_eq, and_assoc]
  exact Iff.rfl

/-- The head of a sorted list goes before all that was sorted. -/
theorem le_of_head?_mergeSort {α : Type*} {le : α → α → Bool}
    (trans : ∀ a b c, le a b → le b c → le a c) (total : ∀ a b, le a b || le b a) {l : List α}
    {a b : α} (h : (l.mergeSort le).head? = some a) (hb : b ∈ l) : le a b = true := by
  have hsorted := List.pairwise_mergeSort trans total l
  have hb : b ∈ l.mergeSort le := List.mem_mergeSort.2 hb
  obtain ⟨rest, hrest⟩ := List.head?_eq_some_iff.1 h
  rw [hrest] at hsorted hb
  rcases List.mem_cons.1 hb with rfl | hb
  · have hself := total b b
    rwa [Bool.or_self] at hself
  · exact (List.pairwise_cons.1 hsorted).1 b hb

theorem compareQueuedJobs_collates (h : Collates adapter.localeCompare)
    (a b c : ReferenceQueuedJob) :
    (adapter.compareQueuedJobs a b ≤ 0 → adapter.compareQueuedJobs b c ≤ 0 →
      adapter.compareQueuedJobs a c ≤ 0) ∧
    (adapter.compareQueuedJobs a b ≤ 0 ∨ adapter.compareQueuedJobs b a ≤ 0) := by
  have htotal := h.total a.requestedAt b.requestedAt
  have htrans := @Collates.trans _ h a.requestedAt b.requestedAt c.requestedAt
  unfold compareQueuedJobs
  dsimp only
  constructor
  · intro hab hbc
    split at hab <;> split at hbc <;> split <;> omega
  · split <;> split <;> omega

theorem compareQueuedJobs_recovered (left right : ReferenceQueuedJob) (reservedAt : IsoDateTime) :
    adapter.compareQueuedJobs (left.recovered reservedAt) (right.recovered reservedAt) =
      adapter.compareQueuedJobs left right := by
  have hleft := request_of_origin (origin_recovered left reservedAt)
  have hright := request_of_origin (origin_recovered right reservedAt)
  have hcompare (left right : ReferenceQueuedJob) : adapter.compareQueuedJobs left right =
      if priorityRank left.request.priority - priorityRank right.request.priority = 0 then
        adapter.localeCompare left.request.requestedAt right.request.requestedAt
      else priorityRank left.request.priority - priorityRank right.request.priority := rfl
  rw [hcompare, hcompare, hleft, hright]

/-- **What a reservation picks**: the first of the eligible jobs. -/
theorem reserveNextJob_picked (hcollates : Collates adapter.localeCompare)
    (h : adapter.reserveNextJob request reservedAt content = .ok (content', some running)) :
    ∃ job lease, job ∈ eligible content.queue reservedAt ∧
      (∀ other ∈ eligible content.queue reservedAt, adapter.compareQueuedJobs job other ≤ 0) ∧
      running = job.reserved request.workerId reservedAt lease ∧
      content'.queue = withJob (recoverExpiredRunningJobs content.queue reservedAt) running := by
  unfold reserveNextJob at h
  dsimp only at h
  split at h
  · cases h
  · next job hhead =>
    obtain ⟨lease, -, h⟩ := except_bind_ok.1 h
    cases h
    have hmem : job ∈ eligible content.queue reservedAt :=
      List.mem_mergeSort.1 (List.mem_of_mem_head? hhead)
    refine ⟨job, lease, hmem, fun other hother => ?_, rfl, rfl⟩
    refine of_decide_eq_true (le_of_head?_mergeSort ?_ ?_ hhead hother)
    · intro a b c hab hbc
      exact decide_eq_true ((compareQueuedJobs_collates hcollates a b c).1
        (of_decide_eq_true hab) (of_decide_eq_true hbc))
    · intro a b
      rw [Bool.or_eq_true, decide_eq_true_eq, decide_eq_true_eq]
      exact (compareQueuedJobs_collates hcollates a b a).2

theorem reserveNextJob_none
    (h : adapter.reserveNextJob request reservedAt content = .ok (content', none)) :
    content'.queue = recoverExpiredRunningJobs content.queue reservedAt := by
  rcases reserveNextJob_ok h with ⟨-, hcontent⟩ | ⟨_, _, _, _, hresult, _⟩
  · rw [hcontent]
  · cases hresult

/-! ## Spellings that agree -/

theorem stringLe_refl (t : String) : stringLe t t = true := by
  rcases lexLe_total (utf16 t) (utf16 t) with h | h <;> exact h

section
variable {T : Set IsoDateTime} (hagrees : Agrees adapter.localeCompare T)
  (hspelled : SpelledIn T content.queue) (hreserved : reservedAt ∈ T)
include hagrees hspelled hreserved

/-- The lease of a running job is over by its text when it is by its instant. -/
theorem expiredLease_of_agrees (hjob : job ∈ content.queue.queuedJobs)
    (hrunning : job.status = .running) (lease : IsoDateTime) :
    job.expiredLease reservedAt = some lease ↔
      truthy job.leaseExpiresAt = some lease ∧ NotAfter lease reservedAt := by
  unfold ReferenceQueuedJob.expiredLease
  rw [if_pos hrunning, Option.filter_eq_some_iff]
  refine and_congr_right fun hlease => ?_
  exact hagrees.texts lease (hspelled.leaseExpiresAt job hjob lease hlease) reservedAt hreserved

theorem candidate_of_agrees (hjob : job ∈ content.queue.queuedJobs)
    (heligible : job.recovered reservedAt ∈ eligible content.queue reservedAt) :
    Candidate content.queue reservedAt job := by
  obtain ⟨-, hqueued, havailable, hconnector⟩ := mem_eligible.1 heligible
  cases hexpired : job.expiredLease reservedAt with
  | none =>
    have hsame : job.recovered reservedAt = job := by
      unfold ReferenceQueuedJob.recovered
      rw [hexpired]
    rw [hsame] at hqueued havailable hconnector
    refine ⟨hjob, .inl ⟨hqueued, ?_⟩, hconnector⟩
    exact (hagrees.texts _ (hspelled.availableAt job hjob) reservedAt hreserved).1 havailable
  | some lease =>
    have hrunning : job.status = .running := by
      by_contra hother
      unfold ReferenceQueuedJob.expiredLease at hexpired
      rw [if_neg hother] at hexpired
      cases hexpired
    have hsame : isConnectorReservable (job.recovered reservedAt) content.queue =
        isConnectorReservable job content.queue := by
      unfold ReferenceQueuedJob.recovered
      rw [hexpired]
      rfl
    rw [hsame] at hconnector
    exact ⟨hjob, .inr ⟨hrunning, lease,
      (expiredLease_of_agrees hagrees hspelled hreserved hjob hrunning lease).1 hexpired⟩,
      hconnector⟩

theorem eligible_of_agrees (h : Candidate content.queue reservedAt job) :
    job.recovered reservedAt ∈ eligible content.queue reservedAt := by
  have hmem : job.recovered reservedAt ∈
      (recoverExpiredRunningJobs content.queue reservedAt).queuedJobs :=
    List.mem_map_of_mem h.mem
  rcases h.free with ⟨hqueued, havailable⟩ | ⟨hrunning, lease, hlease⟩
  · have hsame : job.recovered reservedAt = job :=
      recovered_of_not_running (by rw [hqueued]; exact nofun) reservedAt
    rw [hsame] at hmem ⊢
    refine mem_eligible.2 ⟨hmem, hqueued, ?_, h.connector⟩
    exact (hagrees.texts _ (hspelled.availableAt job h.mem) reservedAt hreserved).2 havailable
  · have hexpired :=
      (expiredLease_of_agrees hagrees hspelled hreserved h.mem hrunning lease).2 hlease
    have hconnector := h.connector
    have hself := stringLe_refl reservedAt
    refine mem_eligible.2 ⟨hmem, ?_⟩
    unfold ReferenceQueuedJob.recovered
    rw [hexpired]
    exact ⟨rfl, hself, hconnector⟩

theorem recovered_of_live (hjob : job ∈ content.queue.queuedJobs) (hrunning : job.status = .running)
    (hlive : ∀ lease, truthy job.leaseExpiresAt = some lease → ¬ NotAfter lease reservedAt) :
    job.recovered reservedAt = job := by
  unfold ReferenceQueuedJob.recovered
  cases hexpired : job.expiredLease reservedAt with
  | none => rfl
  | some lease =>
    obtain ⟨hlease, hover⟩ :=
      (expiredLease_of_agrees hagrees hspelled hreserved hjob hrunning lease).1 hexpired
    exact absurd hover (hlive lease hlease)

/-- **One reservation**: where the texts are in the order of the instants it meets the law. -/
theorem picksRight_of_agrees (hcollates : Collates adapter.localeCompare)
    {result : Option ReferenceQueuedJob}
    (h : adapter.reserveNextJob request reservedAt content = .ok (content', result)) :
    PicksRight content.queue content'.queue reservedAt result := by
  have hlive : ∀ job ∈ content.queue.queuedJobs, job.status = .running →
      (∀ lease, truthy job.leaseExpiresAt = some lease → ¬ NotAfter lease reservedAt) →
        job ∈ (recoverExpiredRunningJobs content.queue reservedAt).queuedJobs := by
    intro job hjob hrunning hlive
    have hsame := recovered_of_live hagrees hspelled hreserved hjob hrunning hlive
    exact hsame ▸ List.mem_map_of_mem hjob
  cases result with
  | none =>
    refine ⟨fun running hnone => ?_, fun running hnone => ?_, ?_⟩
    · cases hnone
    · cases hnone
    · rw [reserveNextJob_none h]
      exact hlive
  | some running =>
    obtain ⟨picked, lease, hmem, hfirst, rfl, hqueue⟩ := reserveNextJob_picked hcollates h
    obtain ⟨hrecovered, hqueued, havailable, -⟩ := mem_eligible.1 hmem
    obtain ⟨job, hjob, rfl⟩ := List.mem_map.1 hrecovered
    refine ⟨?_, ?_, ?_⟩
    · intro running hrunning
      cases hrunning
      have hspelling : (job.recovered reservedAt).availableAt ∈ T := by
        unfold ReferenceQueuedJob.recovered
        split
        · exact hspelled.availableAt job hjob
        · exact hreserved
      exact (hagrees.texts _ hspelling reservedAt hreserved).1 havailable
    · intro running hrunning
      cases hrunning
      refine ⟨job, candidate_of_agrees hagrees hspelled hreserved hjob hmem,
        id_of_origin (origin_recovered job reservedAt), fun other hother => ?_⟩
      have hle := hfirst _ (eligible_of_agrees hagrees hspelled hreserved hother)
      rw [compareQueuedJobs_recovered] at hle
      unfold compareQueuedJobs at hle
      dsimp only at hle
      split at hle
      · next hrank =>
        exact .inr ⟨by omega, hagrees.requests _ (hspelled.requestedAt job hjob) _
          (hspelled.requestedAt other hother.mem) hle⟩
      · exact .inl (by omega)
    · intro other hother hrunning hleases
      rw [hqueue]
      refine mem_upsertBy_of_ne (hlive other hother hrunning hleases) fun hid => ?_
      have hsame := recovered_of_live hagrees hspelled hreserved hother hrunning hleases
      have hids : other.id = job.id := hid.trans (id_of_origin (origin_recovered job reservedAt))
      obtain rfl := List.inj_on_of_nodup_map hspelled.ids hother hjob hids
      rw [hsame, hrunning] at hqueued
      cases hqueued

end

/-! ## Spellings that do not -/

variable (request) in
/-- A reservation of the first of the eligible jobs, when they are in their order. -/
theorem reserveNextJob_head {rest : List ReferenceQueuedJob} {lease : IsoDateTime}
    (heligible : eligible content.queue reservedAt = job :: rest)
    (hsorted : (job :: rest).Pairwise fun left right => adapter.compareQueuedJobs left right ≤ 0)
    (hlease : addMilliseconds adapter.host reservedAt
      (request.leaseDurationMs.getD defaultLeaseDurationMs) = .ok lease) :
    adapter.reserveNextJob request reservedAt content = .ok
      ({ content with
          queue := withJob (recoverExpiredRunningJobs content.queue reservedAt)
            (job.reserved request.workerId reservedAt lease) },
        some (job.reserved request.workerId reservedAt lease)) := by
  have hsort : (eligible content.queue reservedAt).mergeSort
      (fun left right => decide (adapter.compareQueuedJobs left right ≤ 0)) = job :: rest := by
    rw [heligible]
    exact List.mergeSort_of_pairwise (hsorted.imp fun h => decide_eq_true h)
  unfold eligible at hsort
  unfold reserveNextJob
  dsimp only
  rw [hsort]
  show (addMilliseconds adapter.host reservedAt _ >>= _) = _
  rw [hlease]
  rfl

theorem addMilliseconds_zero (H : Host) {t : IsoDateTime} (h : (instant t).isSome) :
    ∃ lease, addMilliseconds H t 0 = .ok lease := by
  obtain ⟨time, htime⟩ := Option.isSome_iff_exists.1 h
  obtain ⟨hparse, hlow, hhigh⟩ := dateParse_instant H htime
  have hclip : ∃ clipped, timeClip ((time : Rat) + 0) = some clipped := by
    unfold timeClip
    rw [add_zero, if_pos ⟨by exact_mod_cast hlow, by exact_mod_cast hhigh⟩]
    exact ⟨_, rfl⟩
  obtain ⟨clipped, hclip⟩ := hclip
  refine ⟨toISOString clipped, ?_⟩
  unfold addMilliseconds
  rw [hparse, Option.bind_some, hclip]

/-- A job that waits. -/
def waiting (id : CanonicalId) (priority : ReferenceQueuedJobPriority)
    (requestedAt availableAt : IsoDateTime) : ReferenceQueuedJob :=
  { evidenceJob 3 requestedAt with id, priority, availableAt }

/-- A queue of waiting jobs. -/
def contentWith (jobs : List ReferenceQueuedJob) : QueueContent where
  jobs := emptyReferenceJobSnapshot
  queue := { emptyQueueSnapshot with queuedJobs := jobs }
  backupMetadata := []

/-- A request for a lease of no time. -/
def momentary : ReferenceJobReservationRequest where
  workerId := "worker"
  leaseDurationMs := some 0

theorem recover_waiting {jobs : List ReferenceQueuedJob} (h : ∀ job ∈ jobs, job.status = .queued)
    (reservedAt : IsoDateTime) :
    (recoverExpiredRunningJobs (contentWith jobs).queue reservedAt).queuedJobs = jobs := by
  refine (List.map_congr_left fun job hjob => ?_).trans (List.map_id jobs)
  exact recovered_of_not_running (by rw [h job hjob]; exact nofun) reservedAt

/-- Among waiting jobs, those are eligible that are available by their texts. -/
theorem eligible_waiting {jobs : List ReferenceQueuedJob} (h : ∀ job ∈ jobs, job.status = .queued)
    (reservedAt : IsoDateTime) :
    eligible (contentWith jobs).queue reservedAt =
      jobs.filter fun job => stringLe job.availableAt reservedAt := by
  unfold eligible
  rw [recover_waiting h]
  refine List.filter_congr fun job hjob => ?_
  have hconnector : isConnectorReservable job
      (recoverExpiredRunningJobs (contentWith jobs).queue reservedAt) = true := rfl
  rw [hconnector, h job hjob]
  exact Bool.and_true _

theorem candidate_waiting {jobs : List ReferenceQueuedJob} (hjob : job ∈ jobs)
    (hqueued : job.status = .queued) (havailable : NotAfter job.availableAt reservedAt) :
    Candidate (contentWith jobs).queue reservedAt job :=
  ⟨hjob, .inl ⟨hqueued, havailable⟩, rfl⟩

section
variable {T : Set IsoDateTime} (hright : ReservesRight adapter T)
  (hvalid : ∀ t ∈ T, (instant t).isSome) {s t : IsoDateTime} (hs : s ∈ T) (ht : t ∈ T)
include hright hvalid hs ht

/-- A job that is available too early by its text is reserved too early. -/
theorem notAfter_of_reservesRight (hle : stringLe s t = true) : NotAfter s t := by
  obtain ⟨lease, hlease⟩ := addMilliseconds_zero adapter.host (hvalid t ht)
  have heligible : eligible (contentWith [waiting "job:1" .normal s s]).queue t =
      [waiting "job:1" .normal s s] := by
    rw [eligible_waiting (List.forall_mem_singleton.2 rfl)]
    exact List.filter_eq_self.2 (List.forall_mem_singleton.2 hle)
  have hreserve := reserveNextJob_head momentary heligible
    (List.pairwise_singleton _ _) hlease
  have hspelled : SpelledIn T (contentWith [waiting "job:1" .normal s s]).queue :=
    { ids := List.nodup_singleton _
      requestedAt := List.forall_mem_singleton.2 hs
      availableAt := List.forall_mem_singleton.2 hs
      leaseExpiresAt := List.forall_mem_singleton.2 nofun }
  exact (hright momentary t _ _ _ hspelled ht hreserve).available _ rfl

/-- A job that is available too late by its text is passed over. -/
theorem stringLe_of_reservesRight (hle : NotAfter s t) : stringLe s t = true := by
  by_contra hlate
  obtain ⟨lease, hlease⟩ := addMilliseconds_zero adapter.host (hvalid t ht)
  have hqueued : ∀ job ∈ [waiting "job:1" .high s s, waiting "job:2" .low t t],
      job.status = .queued := List.forall_mem_cons.2 ⟨rfl, List.forall_mem_singleton.2 rfl⟩
  have heligible : eligible
      (contentWith [waiting "job:1" .high s s, waiting "job:2" .low t t]).queue t =
      [waiting "job:2" .low t t] := by
    have hpassed : [waiting "job:1" .high s s, waiting "job:2" .low t t].filter
        (fun job => stringLe job.availableAt t) =
        [waiting "job:2" .low t t].filter (fun job => stringLe job.availableAt t) :=
      List.filter_cons_of_neg hlate
    rw [eligible_waiting hqueued, hpassed]
    exact List.filter_eq_self.2 (List.forall_mem_singleton.2 (stringLe_refl t))
  have hreserve := reserveNextJob_head momentary heligible (List.pairwise_singleton _ _) hlease
  have hspelled : SpelledIn T
      (contentWith [waiting "job:1" .high s s, waiting "job:2" .low t t]).queue :=
    { ids := by
        show ["job:1", "job:2"].Nodup
        decide
      requestedAt := List.forall_mem_cons.2 ⟨hs, List.forall_mem_singleton.2 ht⟩
      availableAt := List.forall_mem_cons.2 ⟨hs, List.forall_mem_singleton.2 ht⟩
      leaseExpiresAt := List.forall_mem_cons.2 ⟨nofun, List.forall_mem_singleton.2 nofun⟩ }
  obtain ⟨job, hjob, hid, hfirst⟩ :=
    (hright momentary t _ _ _ hspelled ht hreserve).first _ rfl
  have hother := hfirst _ (candidate_waiting List.mem_cons_self rfl hle)
  have hids : "job:2" ≠ "job:1" := by decide
  have hranks : ¬ priorityRank .low ≤ priorityRank .high := by decide
  rcases List.mem_cons.1 hjob.mem with rfl | hjob
  · exact hids hid
  · obtain rfl := List.mem_singleton.1 hjob
    rcases hother with hrank | ⟨hrank, -⟩
    · exact hranks (le_of_lt hrank)
    · exact hranks (le_of_eq hrank)

/-- A job that was requested later goes first, when its text is compared as earlier. -/
theorem requests_of_reservesRight (hle : adapter.localeCompare s t ≤ 0) : NotAfter s t := by
  obtain ⟨lease, hlease⟩ := addMilliseconds_zero adapter.host (hvalid s hs)
  have hqueued : ∀ job ∈ [waiting "job:1" .normal s s, waiting "job:2" .normal t s],
      job.status = .queued := List.forall_mem_cons.2 ⟨rfl, List.forall_mem_singleton.2 rfl⟩
  have heligible : eligible
      (contentWith [waiting "job:1" .normal s s, waiting "job:2" .normal t s]).queue s =
      [waiting "job:1" .normal s s, waiting "job:2" .normal t s] := by
    rw [eligible_waiting hqueued]
    exact List.filter_eq_self.2 (List.forall_mem_cons.2
      ⟨stringLe_refl s, List.forall_mem_singleton.2 (stringLe_refl s)⟩)
  have hsorted : [waiting "job:1" .normal s s, waiting "job:2" .normal t s].Pairwise
      fun left right => adapter.compareQueuedJobs left right ≤ 0 :=
    List.pairwise_pair.2 hle
  have hreserve := reserveNextJob_head momentary heligible hsorted hlease
  have hspelled : SpelledIn T
      (contentWith [waiting "job:1" .normal s s, waiting "job:2" .normal t s]).queue :=
    { ids := by
        show ["job:1", "job:2"].Nodup
        decide
      requestedAt := List.forall_mem_cons.2 ⟨hs, List.forall_mem_singleton.2 ht⟩
      availableAt := List.forall_mem_cons.2 ⟨hs, List.forall_mem_singleton.2 hs⟩
      leaseExpiresAt := List.forall_mem_cons.2 ⟨nofun, List.forall_mem_singleton.2 nofun⟩ }
  obtain ⟨job, hjob, hid, hfirst⟩ :=
    (hright momentary s _ _ _ hspelled hs hreserve).first _ rfl
  have hother := hfirst _ (candidate_waiting (List.mem_cons_of_mem _ List.mem_cons_self) rfl
    (notAfter_refl (hvalid s hs)))
  have hids : "job:1" ≠ "job:2" := by decide
  rcases List.mem_cons.1 hjob.mem with rfl | hjob
  · rcases hother with hrank | ⟨-, hfirst⟩
    · exact absurd hrank (lt_irrefl _)
    · exact hfirst
  · obtain rfl := List.mem_singleton.1 hjob
    exact absurd hid hids

end

/-- **Exact condition**: reservations in queues of some spellings meet the law exactly if on
these the texts are in the order of the instants. -/
theorem picksRight_iff {T : Set IsoDateTime} (hcollates : Collates adapter.localeCompare)
    (hvalid : ∀ t ∈ T, (instant t).isSome) :
    ReservesRight adapter T ↔ Agrees adapter.localeCompare T := by
  constructor
  · intro hright
    refine ⟨fun s hs t ht => ⟨?_, ?_⟩, fun s hs t ht => ?_⟩
    · exact notAfter_of_reservesRight hright hvalid hs ht
    · exact stringLe_of_reservesRight hright hvalid hs ht
    · exact requests_of_reservesRight hright hvalid hs ht
  · intro hagrees request reservedAt content content' result hspelled hreserved hreserve
    exact picksRight_of_agrees hagrees hspelled hreserved hcollates hreserve

end

/-! ## New York and London -/

/-- Half past midnight, five hours behind. -/
def halfPastMidnight : IsoDateTime := "2026-01-01T00:30:00-05:00"

/-- One o'clock. -/
def oneInLondon : IsoDateTime := "2026-01-01T01:00:00Z"

/-- The job that is available at half past midnight, reserved. -/
def reservedEarly : ReferenceQueuedJob :=
  (waiting "job:1" .normal halfPastMidnight halfPastMidnight).reserved "worker:a" oneInLondon
    "2026-01-01T01:05:00.000Z"

/-- **Counterexample**: the job is available from half past five, London time, and is reserved
at one. -/
theorem early_reservation :
    instant halfPastMidnight = some 1767245400000 ∧ instant oneInLondon = some 1767229200000 ∧
    ∃ content', plainAdapter.reserveNextJob { workerId := "worker:a" } oneInLondon
        (contentWith [waiting "job:1" .normal halfPastMidnight halfPastMidnight]) =
          .ok (content', some reservedEarly) ∧
      ¬ PicksRight (contentWith [waiting "job:1" .normal halfPastMidnight halfPastMidnight]).queue
        content'.queue oneInLondon (some reservedEarly) := by
  have heligible : eligible
      (contentWith [waiting "job:1" .normal halfPastMidnight halfPastMidnight]).queue oneInLondon =
      [waiting "job:1" .normal halfPastMidnight halfPastMidnight] := by
    have hle : stringLe halfPastMidnight oneInLondon = true := by decide +kernel
    rw [eligible_waiting (List.forall_mem_singleton.2 rfl)]
    exact List.filter_eq_self.2 (List.forall_mem_singleton.2 hle)
  have hlease : addMilliseconds exactHost oneInLondon defaultLeaseDurationMs =
      .ok "2026-01-01T01:05:00.000Z" := by decide +kernel
  have hreserve : plainAdapter.reserveNextJob { workerId := "worker:a" } oneInLondon
      (contentWith [waiting "job:1" .normal halfPastMidnight halfPastMidnight]) = _ :=
    reserveNextJob_head { workerId := "worker:a" } heligible (List.pairwise_singleton _ _) hlease
  refine ⟨by decide +kernel, by decide +kernel, _, hreserve, fun hlaw => ?_⟩
  have hlate : ¬ NotAfter halfPastMidnight oneInLondon := by decide +kernel
  exact hlate (hlaw.available _ rfl)

/-- Two times that the runtime spelled. -/
theorem picksRight_iff_canonical : ReservesRight plainAdapter {midnight, oneOClock} := by
  have hmidnight : (instant midnight).isSome := by decide +kernel
  have honeOClock : (instant oneOClock).isSome := by decide +kernel
  have hafter : NotAfter midnight oneOClock ∧ ¬ NotAfter oneOClock midnight := by
    decide +kernel
  have htexts : stringLe midnight oneOClock = true ∧ stringLe oneOClock midnight = false := by
    decide +kernel
  have hagrees : ∀ s ∈ ({midnight, oneOClock} : Set IsoDateTime),
      ∀ t ∈ ({midnight, oneOClock} : Set IsoDateTime), stringLe s t = true ↔ NotAfter s t := by
    rintro s (rfl | rfl) t (rfl | rfl)
    · exact iff_of_true (stringLe_refl _) (notAfter_refl hmidnight)
    · exact iff_of_true htexts.1 hafter.1
    · rw [htexts.2]
      exact iff_of_false nofun hafter.2
    · exact iff_of_true (stringLe_refl _) (notAfter_refl honeOClock)
  refine (picksRight_iff plainCompare_collates ?_).2 ⟨hagrees, fun s hs t ht hle => ?_⟩
  · rintro t (rfl | rfl)
    · exact hmidnight
    · exact honeOClock
  · exact (hagrees s hs t ht).1 (plainCompare_le.1 hle)

end AccessKit.Bugs.SpelledTimes
