import AccessKit.L1Domain.SameText
import AccessKit.L6Queue.Fixtures
import AccessKit.L6Queue.QueueSteps

/-!
# What holds of the queue in every run

A job keeps what it was made from, its `origin`, through every step, so that what links
jobs and idempotency records is settled when a job is enqueued. The id of a job is a short
piece of a hash: that no two requests of a run collide in it is a hypothesis on the run.

Results:
* `Sound.step`, `Kept.step`: what a step keeps.
* `RunSound.run`: what holds after calls in sequence.
* `enqueue_known`: what an enqueue does whose idempotency key is known.
* `queue_invariant`: all of it, for every run.
-/
namespace AccessKit.L6
open AccessKit.Core AccessKit.L1 AccessKit.L2.Audit AccessKit.L3
open AccessKit.L5 (RebacJobSnapshot JobRecord ProvisioningPlan ProvisioningJob ProvisioningApproval
  EnforcementControl)
open ReferenceJobQueueAdapter

/-! ## The origin of a job -/

namespace ReferenceQueuedJob

/-- What a job is from the start: its id, its request, and the hash of that. -/
def origin (job : ReferenceQueuedJob) : CanonicalId × String × RequiredQueueRequest :=
  (job.id, job.requestHash, job.request)

section
variable (job : ReferenceQueuedJob)

@[simp] theorem origin_recovered (recoveredAt : IsoDateTime) :
    (job.recovered recoveredAt).origin = job.origin := by
  unfold recovered
  split <;> rfl

end

theorem origin_failed {job failed : ReferenceQueuedJob} {request : ReferenceJobFailureRequest}
    {failedAt : IsoDateTime} (h : Failed request failedAt job failed) :
    failed.origin = job.origin := by
  cases h <;> rfl

theorem id_of_origin {job job' : ReferenceQueuedJob} (h : job.origin = job'.origin) :
    job.id = job'.id :=
  congrArg (·.1) h

theorem request_of_origin {job job' : ReferenceQueuedJob} (h : job.origin = job'.origin) :
    job.request = job'.request :=
  congrArg (·.2.2) h

/-- The job is over. -/
def Over (job : ReferenceQueuedJob) : Prop := job.status = .completed ∨ job.status = .deadLettered

/-- Neither worker nor lease. -/
def Unheld (job : ReferenceQueuedJob) : Prop := job.workerId = none ∧ job.leaseExpiresAt = none

theorem recovered_of_not_running {job : ReferenceQueuedJob} (h : job.status ≠ .running)
    (recoveredAt : IsoDateTime) : job.recovered recoveredAt = job := by
  unfold recovered expiredLease
  rw [if_neg h]

theorem unheld_recovered {job : ReferenceQueuedJob} (h : job.status = .queued → job.Unheld)
    (recoveredAt : IsoDateTime) :
    (job.recovered recoveredAt).status = .queued → (job.recovered recoveredAt).Unheld := by
  unfold recovered
  split
  · exact h
  · exact fun _ => ⟨rfl, rfl⟩

end ReferenceQueuedJob

open ReferenceQueuedJob (origin Over Unheld origin_recovered origin_failed id_of_origin
  request_of_origin)

/-! ## Queues -/

/-- What a job and its idempotency record agree on. -/
def ReferenceQueuedJob.link (job : ReferenceQueuedJob) : CanonicalId × String × String :=
  (job.id, job.idempotencyKey, job.requestHash)

def ReferenceJobQueueIdempotencyRecord.link (r : ReferenceJobQueueIdempotencyRecord) :
    CanonicalId × String × String :=
  (r.jobId, r.idempotencyKey, r.requestHash)

/-- Every id and every key is there once, the idempotency records are those of the jobs, and a
queued job is held by nobody. -/
structure Sound (H : Host) (queue : ReferenceJobQueueSnapshot) : Prop where
  ids : (queue.queuedJobs.map (·.id)).Nodup
  keys : (queue.queuedJobs.map (·.idempotencyKey)).Nodup
  records : queue.idempotencyRecords.map (·.link) = queue.queuedJobs.map (·.link)
  made : ∀ job ∈ queue.queuedJobs, job.id = job.request.jobId H ∧
    job.requestHash = job.request.requestHash H
  unheld : ∀ job ∈ queue.queuedJobs, job.status = .queued → job.Unheld

/-- The jobs are still there, and those that are over are as they were. -/
structure Kept (queue queue' : ReferenceJobQueueSnapshot) : Prop where
  jobs : ∀ job ∈ queue.queuedJobs, ∃ job' ∈ queue'.queuedJobs, job'.origin = job.origin
  ended : ∀ job ∈ queue.queuedJobs, job.Over → job ∈ queue'.queuedJobs

theorem Kept.refl (queue : ReferenceJobQueueSnapshot) : Kept queue queue :=
  ⟨fun job h => ⟨job, h, rfl⟩, fun _ h _ => h⟩

theorem Kept.trans {queue queue' queue'' : ReferenceJobQueueSnapshot} (h : Kept queue queue')
    (h' : Kept queue' queue'') : Kept queue queue'' := by
  refine ⟨fun job hjob => ?_, fun job hjob hover => h'.ended job (h.ended job hjob hover) hover⟩
  obtain ⟨job', hjob', horigin⟩ := h.jobs job hjob
  obtain ⟨job'', hjob'', horigin'⟩ := h'.jobs job' hjob'
  exact ⟨job'', hjob'', horigin'.trans horigin⟩

section
variable {H : Host} {queue queue' : ReferenceJobQueueSnapshot}

/-- What links jobs and records depends on the origins of the jobs alone. -/
theorem Sound.of_origins (h : Sound H queue)
    (horigins : queue'.queuedJobs.map origin = queue.queuedJobs.map origin)
    (hrecords : queue'.idempotencyRecords = queue.idempotencyRecords)
    (hunheld : ∀ job ∈ queue'.queuedJobs, job.status = .queued → job.Unheld) : Sound H queue' := by
  have hmap : ∀ {β : Type} (f : CanonicalId × String × RequiredQueueRequest → β),
      queue'.queuedJobs.map (f ∘ origin) = queue.queuedJobs.map (f ∘ origin) := by
    intro β f
    rw [← List.map_map, ← List.map_map, horigins]
  refine ⟨?_, ?_, ?_, fun job hjob => ?_, hunheld⟩
  · rw [show queue'.queuedJobs.map (·.id) = _ from hmap (·.1)]
    exact h.ids
  · rw [show queue'.queuedJobs.map (·.idempotencyKey) = _ from hmap (·.2.2.idempotencyKey)]
    exact h.keys
  · rw [hrecords, show queue'.queuedJobs.map (·.link) = _ from
      hmap fun o => (o.1, o.2.2.idempotencyKey, o.2.1)]
    exact h.records
  · have hmem : job.origin ∈ queue.queuedJobs.map origin :=
      horigins ▸ List.mem_map_of_mem hjob
    obtain ⟨job', hjob', horigin⟩ := List.mem_map.1 hmem
    obtain ⟨hid, hhash⟩ := h.made job' hjob'
    rw [id_of_origin horigin, request_of_origin horigin] at hid
    rw [show job'.requestHash = job.requestHash from congrArg (·.2.1) horigin,
      request_of_origin horigin] at hhash
    exact ⟨hid, hhash⟩

/-- A job in its place, with the origin it had. -/
theorem Sound.withJob (h : Sound H queue) {job job' : ReferenceQueuedJob}
    (hmem : job ∈ queue.queuedJobs) (horigin : job'.origin = job.origin)
    (hunheld : job'.status = .queued → job'.Unheld) : Sound H (withJob queue job') := by
  refine h.of_origins (map_upsertBy h.ids hmem (id_of_origin horigin).symm horigin) rfl ?_
  intro other hother
  rcases mem_upsertBy hother with rfl | hother
  · exact hunheld
  · exact h.unheld other hother

theorem Kept.withJob (h : Sound H queue) {job job' : ReferenceQueuedJob}
    (hmem : job ∈ queue.queuedJobs) (horigin : job'.origin = job.origin) (hover : ¬ job.Over) :
    Kept queue (withJob queue job') := by
  have hid : job'.id = job.id := id_of_origin horigin
  constructor
  · intro other hother
    have horigins := map_upsertBy h.ids hmem hid.symm horigin
    have hmem' : other.origin ∈ (upsertBy (·.id) queue.queuedJobs job').map origin :=
      horigins ▸ List.mem_map_of_mem hother
    obtain ⟨other', hother', he⟩ := List.mem_map.1 hmem'
    exact ⟨other', hother', he⟩
  · intro other hother hoverOther
    refine mem_upsertBy_of_ne hother fun he => hover ?_
    rwa [← List.inj_on_of_nodup_map h.ids hother hmem (he.trans hid)]

theorem Sound.recovered (h : Sound H queue) (recoveredAt : IsoDateTime) :
    Sound H (recoverExpiredRunningJobs queue recoveredAt) := by
  refine h.of_origins ?_ rfl ?_
  · show (queue.queuedJobs.map _).map origin = _
    rw [List.map_map]
    exact List.map_congr_left fun job _ => origin_recovered job recoveredAt
  · intro job hjob
    obtain ⟨job', hjob', rfl⟩ := List.mem_map.1 hjob
    exact ReferenceQueuedJob.unheld_recovered (h.unheld job' hjob') recoveredAt

theorem Kept.recovered (queue : ReferenceJobQueueSnapshot) (recoveredAt : IsoDateTime) :
    Kept queue (recoverExpiredRunningJobs queue recoveredAt) := by
  refine ⟨fun job hjob => ⟨_, List.mem_map_of_mem hjob, origin_recovered job recoveredAt⟩,
    fun job hjob hover => ?_⟩
  refine List.mem_map.2 ⟨job, hjob, ReferenceQueuedJob.recovered_of_not_running ?_ recoveredAt⟩
  rcases hover with hstatus | hstatus
  · rw [hstatus]
    decide
  · rw [hstatus]
    decide

theorem Kept.withNewJob (queue : ReferenceJobQueueSnapshot) (job : ReferenceQueuedJob) :
    Kept queue (withNewJob queue job) :=
  ⟨fun job hjob => ⟨job, List.mem_append_left _ hjob, rfl⟩,
    fun _ hjob _ => List.mem_append_left _ hjob⟩

theorem Sound.record_of_job (h : Sound H queue) {job : ReferenceQueuedJob}
    (hmem : job ∈ queue.queuedJobs) : ∃ r, findBy (·.idempotencyKey) queue.idempotencyRecords
      job.idempotencyKey = some r ∧ r.jobId = job.id ∧ r.requestHash = job.requestHash := by
  have hlink : job.link ∈ queue.idempotencyRecords.map (·.link) :=
    h.records ▸ List.mem_map_of_mem hmem
  obtain ⟨r, hr, hlink⟩ := List.mem_map.1 hlink
  have hkeys : (queue.idempotencyRecords.map (·.idempotencyKey)).Nodup := by
    have hsame := congrArg (List.map fun l : CanonicalId × String × String => l.2.1) h.records
    rw [List.map_map, List.map_map] at hsame
    exact (show queue.idempotencyRecords.map (·.idempotencyKey) = _ from hsame) ▸ h.keys
  have hkey : r.idempotencyKey = job.idempotencyKey := congrArg (·.2.1) hlink
  refine ⟨r, ?_, congrArg (·.1) hlink, congrArg (·.2.2) hlink⟩
  rw [← hkey]
  exact findBy_of_mem hkeys hr

theorem Sound.withNewJob (h : Sound H queue) {request : RequiredQueueRequest}
    (hnew : findBy (·.idempotencyKey) queue.idempotencyRecords request.idempotencyKey = none)
    (hids : ∀ job ∈ queue.queuedJobs, job.request.jobId H = request.jobId H →
      job.request.identity = request.identity) :
    Sound H (withNewJob queue (createQueuedJob H request)) := by
  have hkey : ∀ job ∈ queue.queuedJobs, job.idempotencyKey ≠ request.idempotencyKey := by
    intro job hjob he
    obtain ⟨r, hr, -⟩ := h.record_of_job hjob
    rw [he, hnew] at hr
    cases hr
  have hid : ∀ job ∈ queue.queuedJobs, job.id ≠ request.jobId H := by
    intro job hjob he
    have hidentity := hids job hjob ((h.made job hjob).1.symm.trans he)
    simp only [RequiredQueueRequest.identity, List.cons.injEq, Prod.mk.injEq, JsValue.str.injEq,
      true_and] at hidentity
    exact hkey job hjob hidentity.2.1
  refine ⟨?_, ?_, ?_, fun job hjob => ?_, fun job hjob hqueued => ?_⟩
  · show ((queue.queuedJobs ++ [_]).map _).Nodup
    rw [List.map_append, List.nodup_append]
    refine ⟨h.ids, List.nodup_singleton _, fun id hmem id' hmem' => ?_⟩
    obtain ⟨job, hjob, rfl⟩ := List.mem_map.1 hmem
    rw [List.map_singleton, List.mem_singleton] at hmem'
    exact hmem' ▸ hid job hjob
  · show ((queue.queuedJobs ++ [_]).map _).Nodup
    rw [List.map_append, List.nodup_append]
    refine ⟨h.keys, List.nodup_singleton _, fun key hmem key' hmem' => ?_⟩
    obtain ⟨job, hjob, rfl⟩ := List.mem_map.1 hmem
    rw [List.map_singleton, List.mem_singleton] at hmem'
    exact hmem' ▸ hkey job hjob
  · show (queue.idempotencyRecords ++ [_]).map _ = (queue.queuedJobs ++ [_]).map _
    rw [List.map_append, List.map_append, h.records]
    rfl
  · rcases List.mem_append.1 hjob with hjob | hjob
    · exact h.made job hjob
    · rw [List.mem_singleton.1 hjob]
      exact ⟨rfl, rfl⟩
  · rcases List.mem_append.1 hjob with hjob | hjob
    · exact h.unheld job hjob hqueued
    · rw [List.mem_singleton.1 hjob]
      exact ⟨rfl, rfl⟩

/-! ## Steps -/

theorem not_over_of_running {job : ReferenceQueuedJob} (h : job.status = .running) :
    ¬ job.Over := by
  rintro (hover | hover) <;> rw [h] at hover <;> cases hover

theorem not_over_of_queued {job : ReferenceQueuedJob} (h : job.status = .queued) : ¬ job.Over := by
  rintro (hover | hover) <;> rw [h] at hover <;> cases hover

theorem failed_unheld {job failed : ReferenceQueuedJob} {request : ReferenceJobFailureRequest}
    {failedAt : IsoDateTime} (h : Failed request failedAt job failed) :
    failed.status = .queued → failed.Unheld := by
  cases h with
  | retried => exact fun _ => ⟨rfl, rfl⟩
  | deadLettered => exact fun hqueued => by cases hqueued

/-- **A step** keeps the links, and the jobs. -/
theorem Sound.step {asked : Option RequiredQueueRequest} (h : Sound H queue)
    (hstep : QueueStep H asked queue queue')
    (hids : ∀ request, asked = some request → ∀ job ∈ queue.queuedJobs,
      job.request.jobId H = request.jobId H → job.request.identity = request.identity) :
    Sound H queue' ∧ Kept queue queue' := by
  cases hstep with
  | same => exact ⟨h, .refl queue⟩
  | enqueued hasked hnew => exact ⟨h.withNewJob hnew (hids _ hasked), .withNewJob queue _⟩
  | recovered recoveredAt => exact ⟨h.recovered recoveredAt, .recovered queue recoveredAt⟩
  | reserved workerId reservedAt leaseExpiresAt hmem hqueued =>
    have hrecovered := h.recovered reservedAt
    refine ⟨hrecovered.withJob hmem rfl nofun, ?_⟩
    exact (Kept.recovered queue reservedAt).trans
      (.withJob hrecovered hmem rfl (not_over_of_queued hqueued))
  | completed workerId completedAt hfind hrunning _ =>
    refine ⟨h.withJob (mem_of_findBy hfind) rfl nofun, ?_⟩
    exact .withJob h (mem_of_findBy hfind) rfl (not_over_of_running hrunning)
  | failed request failedAt hfind hrunning hfailed =>
    refine ⟨h.withJob (mem_of_findBy hfind) (origin_failed hfailed) (failed_unheld hfailed), ?_⟩
    exact .withJob h (mem_of_findBy hfind) (origin_failed hfailed) (not_over_of_running hrunning)
  | health connectorHealth =>
    exact ⟨⟨h.ids, h.keys, h.records, h.made, h.unheld⟩, ⟨fun job hjob => ⟨job, hjob, rfl⟩,
      fun _ hjob _ => hjob⟩⟩

end

/-! ## Requests -/

/-- The same request up to `requestedAt`. -/
def SameRequest (r r' : RequiredQueueRequest) : Prop := SameJson (.obj r.source) (.obj r'.source)

section
variable {H : Host}

theorem isJson_optionalJs {α : Type} {toJs : α → JsValue} (h : ∀ a, IsJson (toJs a))
    {o : Option α} (hne : optionalJs toJs o ≠ .undefined) : IsJson (optionalJs toJs o) := by
  cases o with
  | none => exact absurd rfl hne
  | some a => exact h a

theorem isJson_approval (a : ProvisioningApproval) : IsJson a.toJs := by
  refine .obj (by simp) ?_
  simp only [List.forall_mem_cons, IsJson.str, implies_true, true_and, List.not_mem_nil,
    false_implies, and_true]
  exact ⟨isJson_optional, isJson_optional⟩

theorem isJson_control (c : EnforcementControl) : IsJson c.toJs := by
  refine .obj (by simp) ?_
  simp only [List.forall_mem_cons, IsJson.bool, implies_true, true_and, List.not_mem_nil,
    false_implies]

theorem isJson_backoff (b : ReferenceJobQueueBackoffPolicy) : IsJson b.toJs := by
  refine .obj (by simp) ?_
  simp only [List.forall_mem_cons, IsJson.str, IsJson.num, implies_true, true_and,
    List.not_mem_nil, false_implies, and_true]
  exact isJson_optionalJs fun q => .num q

theorem isJson_source {r : RequiredQueueRequest} (h : IsJson (.obj r.payload)) :
    IsJson (.obj r.source) := by
  refine .obj (by simp [RequiredQueueRequest.source]) ?_
  simp only [RequiredQueueRequest.source, List.forall_mem_cons, IsJson.str, IsJson.num, h,
    isJson_backoff, implies_true, true_and, List.not_mem_nil, false_implies, and_true]
  exact ⟨isJson_optionalJs isJson_approval, isJson_optionalJs isJson_control, isJson_optional,
    isJson_optional⟩

/-- **The hash of a request** tells whether it is the same. -/
theorem requestHash_eq_iff (hprint : PrintsNumbers H) (hsha : Function.Injective H.sha256Hex)
    {r r' : RequiredQueueRequest} (h : IsJson (.obj r.payload)) (h' : IsJson (.obj r'.payload)) :
    r.requestHash H = r'.requestHash H ↔ SameRequest r r' := by
  constructor
  · intro he
    exact sameJson_of_text hprint (isJson_source h) (isJson_source h')
      (hashReference_inj hsha nofun nofun he)
  · intro hsame
    show "sha256:" ++ sha256 H _ = "sha256:" ++ sha256 H _
    rw [sha256, sha256, stableStringify_congr (isJson_source h) (isJson_source h') hsame]

theorem SameRequest.fields {r r' : RequiredQueueRequest} (h : SameRequest r r') :
    r.kind = r'.kind ∧ SameJson (.obj r.payload) (.obj r'.payload) ∧
      r.approval.isNone = r'.approval.isNone ∧ r.control.isNone = r'.control.isNone ∧
      r.readinessReportId = r'.readinessReportId := by
  unfold SameRequest at h
  cases h with
  | obj h =>
    have hisNone : ∀ {α : Type} (toJs : α → JsValue) {o o' : Option α},
        (∀ a, toJs a ≠ .undefined) → SameJson (optionalJs toJs o) (optionalJs toJs o') →
        o.isNone = o'.isNone := by
      intro α toJs o o' hne hsame
      cases o with
      | none =>
        cases o' with
        | none => rfl
        | some a' => exact absurd hsame.undefined_left (hne a')
      | some a =>
        cases o' with
        | none => exact absurd hsame.symm.undefined_left (hne a)
        | some a' => rfl
    exact ⟨kindName_inj (sameJson_str (h "kind")), h "payload",
      hisNone ProvisioningApproval.toJs nofun (h "approval"),
      hisNone EnforcementControl.toJs nofun (h "control"),
      sameJson_optional (h "readinessReportId")⟩

theorem SameRequest.evidence {r r' : RequiredQueueRequest} (h : SameRequest r r') :
    assertEnforcementEvidence r' = assertEnforcementEvidence r := by
  obtain ⟨hkind, hpayload, happroval, hcontrol, hreport⟩ := h.fields
  cases hpayload with
  | obj hpayload =>
    unfold assertEnforcementEvidence
    simp only [hkind, hreport, ← happroval, ← hcontrol,
      (hpayload "mode").strictEq (.str "enforcement") nofun nofun,
      (hpayload "dryRun").strictEq (.bool false) nofun nofun]

/-! ## What a call asks for -/

/-- The request of a call, with its defaults.
mirrors packages/core/src/reference-job-queue.ts:252, 261-283, 299-314, 413-437 -/
def EnqueueCall.normalized (H : Host) (now : IsoDateTime) (content : QueueContent) :
    EnqueueCall → Except String RequiredQueueRequest
  | .enqueueJob request => normalizeEnqueueRequest now request
  | .enqueueProvisioningJob job options =>
    normalizeEnqueueRequest now (provisioningRequest (planOf content.jobs job options) job options)
  | .enqueueRevocationJob request => normalizeEnqueueRequest now (revocationRequest request)
  | .replayDeadLetteredJob jobId request => do
    normalizeEnqueueRequest now (← replayRequest H now content.queue jobId request)

/-- The job of a call, or its plan, has a key that names secret material. -/
def EnqueueCall.CarriesSecrets (H : Host) (content : QueueContent) : EnqueueCall → Prop
  | .enqueueProvisioningJob job options => ¬ NoSecretKeys H (.obj job.toJs) ∨
    ∃ plan, planOf content.jobs job options = some plan ∧ ¬ NoSecretKeys H (.obj plan.toJs)
  | _ => False

section
variable {adapter : ReferenceJobQueueAdapter} {now : IsoDateTime} {content : QueueContent}

theorem enqueueProvisioningJob_ok {job : ProvisioningJob}
    {options : ReferenceProvisioningJobQueueOptions} {checked : CheckedRequest} :
    adapter.enqueueProvisioningJob now content.jobs job options = .ok checked ↔
      ∃ r, normalizeEnqueueRequest now
          (provisioningRequest (planOf content.jobs job options) job options) = .ok r ∧
        adapter.assertEnqueueable r = .ok () ∧
        ¬ (EnqueueCall.enqueueProvisioningJob job options).CarriesSecrets adapter.host content ∧
        checked = { request := r, records := ((planOf content.jobs job options).map fun plan =>
          JobRecord.provisioningPlan plan.copy).toList ++ [.provisioningJob job.copy] } := by
  unfold enqueueProvisioningJob EnqueueCall.CarriesSecrets
  simp only [except_bind_ok, exists_unit, assertNoSecretMaterial_ok]
  refine exists_congr fun r => and_congr_right fun _ => and_congr_right fun _ => ?_
  rw [not_or, not_not, and_assoc]
  refine and_congr_right fun _ => ?_
  cases planOf content.jobs job options with
  | none =>
    constructor
    · intro h
      refine ⟨?_, (Except.ok.inj h).symm⟩
      rintro ⟨plan, hplan, -⟩
      cases hplan
    · rintro ⟨-, rfl⟩
      rfl
  | some plan =>
    simp only [except_bind_ok, exists_unit, assertNoSecretMaterial_ok, Option.some.injEq,
      exists_eq_left', not_not]
    refine and_congr_right fun _ => ?_
    exact ⟨fun h => (Except.ok.inj h).symm, fun h => congrArg Except.ok h.symm⟩

/-- **What is checked**: the request of the call, and that nothing secret comes with it. -/
theorem checked_iff {call : EnqueueCall} {r : RequiredQueueRequest} :
    (∃ checked, adapter.checked now content call = .ok checked ∧ checked.request = r) ↔
      call.normalized adapter.host now content = .ok r ∧ adapter.assertEnqueueable r = .ok () ∧
        ¬ call.CarriesSecrets adapter.host content := by
  have hjob : ∀ request, (∃ checked, adapter.enqueueJob now request = .ok checked ∧
      checked.request = r) ↔ normalizeEnqueueRequest now request = .ok r ∧
        adapter.assertEnqueueable r = .ok () := by
    intro request
    simp only [enqueueJob_ok]
    constructor
    · rintro ⟨checked, ⟨r', hnormalized, hchecked, rfl⟩, rfl⟩
      exact ⟨hnormalized, hchecked⟩
    · rintro ⟨hnormalized, hchecked⟩
      exact ⟨_, ⟨r, hnormalized, hchecked, rfl⟩, rfl⟩
  cases call with
  | enqueueJob request =>
    show (∃ checked, adapter.enqueueJob now request = .ok checked ∧ checked.request = r) ↔ _
    rw [hjob]
    exact and_congr_right fun _ => (and_iff_left not_false).symm
  | enqueueProvisioningJob job options =>
    show (∃ checked, adapter.enqueueProvisioningJob now content.jobs job options = .ok checked ∧
      checked.request = r) ↔ _
    simp only [enqueueProvisioningJob_ok]
    constructor
    · rintro ⟨checked, ⟨r', hnormalized, hchecked, hclean, rfl⟩, rfl⟩
      exact ⟨hnormalized, hchecked, hclean⟩
    · rintro ⟨hnormalized, hchecked, hclean⟩
      exact ⟨_, ⟨r, hnormalized, hchecked, hclean, rfl⟩, rfl⟩
  | enqueueRevocationJob request =>
    show (∃ checked, adapter.enqueueJob now (revocationRequest request) = .ok checked ∧
      checked.request = r) ↔ _
    rw [hjob]
    exact and_congr_right fun _ => (and_iff_left not_false).symm
  | replayDeadLetteredJob jobId request =>
    show (∃ checked, (replayRequest adapter.host now content.queue jobId request >>=
      fun request => adapter.enqueueJob now request) = .ok checked ∧ checked.request = r) ↔
      (replayRequest adapter.host now content.queue jobId request >>=
        fun request => normalizeEnqueueRequest now request) = .ok r ∧ _ ∧ ¬ False
    cases replayRequest adapter.host now content.queue jobId request with
    | error message =>
      constructor
      · rintro ⟨checked, h, -⟩
        cases h
      · rintro ⟨h, -⟩
        cases h
    | ok request =>
      show (∃ checked, adapter.enqueueJob now request = .ok checked ∧ checked.request = r) ↔ _
      rw [hjob]
      exact and_congr_right fun _ => (and_iff_left not_false).symm

theorem normalizeEnqueueRequest_payload {request : ReferenceJobQueueEnqueueRequest}
    {r : RequiredQueueRequest} (h : normalizeEnqueueRequest now request = .ok r) :
    cloneFields r.payload = r.payload := by
  unfold normalizeEnqueueRequest at h
  split at h
  · cases h
  · split at h
    · cases h
    · cases h
      exact L5.cloneFields_cloneFields request.payload

theorem normalized_payload {H : Host} {call : EnqueueCall} {r : RequiredQueueRequest}
    (h : call.normalized H now content = .ok r) : cloneFields r.payload = r.payload := by
  cases call with
  | replayDeadLetteredJob jobId request =>
    obtain ⟨request', -, h⟩ := except_bind_ok.1 h
    exact normalizeEnqueueRequest_payload h
  | _ => exact normalizeEnqueueRequest_payload h

/-- **The same request** is accepted again. -/
theorem SameRequest.enqueueable {r r' : RequiredQueueRequest} (h : SameRequest r r')
    (hjson : IsJson (.obj r'.payload)) (hcopy : cloneFields r'.payload = r'.payload)
    (hr : adapter.assertEnqueueable r = .ok ()) : adapter.assertEnqueueable r' = .ok () := by
  rw [assertEnqueueable_ok] at hr ⊢
  rw [h.evidence]
  exact ⟨hr.1, .of_same hjson hr.2 h.fields.2.1 (congrArg JsValue.obj hcopy)⟩

end

end

/-! ## Runs -/

/-- The requests that calls ask to enqueue. -/
def requested (adapter : ReferenceJobQueueAdapter) :
    List (IsoDateTime × QueueCall) → Option ReferenceJobQueueStoreRecord → List RequiredQueueRequest
  | [], _ => []
  | (now, call) :: calls, current =>
    (adapter.enqueues now call current).toList ++
      requested adapter calls (adapter.perform now call current)

/-- Requests with one id are for the same connector, key and kind. -/
def IdsDiffer (H : Host) (requests : List RequiredQueueRequest) : Prop :=
  ∀ r ∈ requests, ∀ r' ∈ requests, r.jobId H = r'.jobId H → r.identity = r'.identity

/-- What is known of a store after calls that asked for these requests. -/
structure RunSound (adapter : ReferenceJobQueueAdapter) (requests : List RequiredQueueRequest)
    (current : Option ReferenceJobQueueStoreRecord) : Prop where
  sound : Sound adapter.host (contentOf current).queue
  asked : ∀ job ∈ (contentOf current).queue.queuedJobs, job.request ∈ requests
  enqueueable : ∀ job ∈ (contentOf current).queue.queuedJobs,
    adapter.assertEnqueueable job.request = .ok ()
  storable : ∀ record, current = some record → Storable adapter record.toQueueContent

section
variable {adapter : ReferenceJobQueueAdapter}

theorem runSound_none (adapter : ReferenceJobQueueAdapter) : RunSound adapter [] none where
  sound :=
    { ids := List.nodup_nil
      keys := List.nodup_nil
      records := rfl
      made := fun job hjob => by cases hjob
      unheld := fun job hjob => by cases hjob }
  asked job hjob := by cases hjob
  enqueueable job hjob := by cases hjob
  storable record h := by cases h

theorem enqueues_enqueueable {now : IsoDateTime} {call : QueueCall}
    {current : Option ReferenceJobQueueStoreRecord} {r : RequiredQueueRequest}
    (h : adapter.enqueues now call current = some r) : adapter.assertEnqueueable r = .ok () := by
  cases call with
  | enqueue call =>
    unfold enqueues at h
    dsimp only at h
    split at h
    · next checked hchecked =>
      cases h
      exact (checked_iff.1 ⟨checked, hchecked, rfl⟩).2.1
    · cases h
  | _ => cases h

/-- A job after a step has the origin of a job before it, or is the new one. -/
theorem origin_step {H : Host} {asked : Option RequiredQueueRequest}
    {queue queue' : ReferenceJobQueueSnapshot} (h : QueueStep H asked queue queue') :
    ∀ job ∈ queue'.queuedJobs, (∃ job' ∈ queue.queuedJobs, job'.origin = job.origin) ∨
      ∃ r, asked = some r ∧ job.request = r := by
  have hrecovered : ∀ recoveredAt, ∀ job ∈ (recoverExpiredRunningJobs queue recoveredAt).queuedJobs,
      ∃ job' ∈ queue.queuedJobs, job'.origin = job.origin := by
    intro recoveredAt job hjob
    obtain ⟨job', hjob', rfl⟩ := List.mem_map.1 hjob
    exact ⟨job', hjob', (origin_recovered job' recoveredAt).symm⟩
  intro job hjob
  cases h with
  | same => exact .inl ⟨job, hjob, rfl⟩
  | enqueued hasked _ =>
    rcases List.mem_append.1 hjob with hjob | hjob
    · exact .inl ⟨job, hjob, rfl⟩
    · exact .inr ⟨_, hasked, by rw [List.mem_singleton.1 hjob]; rfl⟩
  | recovered recoveredAt => exact .inl (hrecovered recoveredAt job hjob)
  | reserved workerId reservedAt leaseExpiresAt hmem _ =>
    rcases mem_upsertBy hjob with rfl | hjob
    · obtain ⟨job', hjob', horigin⟩ := hrecovered reservedAt _ hmem
      exact .inl ⟨job', hjob', horigin⟩
    · exact .inl (hrecovered reservedAt job hjob)
  | completed workerId completedAt hfind _ _ =>
    rcases mem_upsertBy hjob with rfl | hjob
    · exact .inl ⟨_, mem_of_findBy hfind, rfl⟩
    · exact .inl ⟨job, hjob, rfl⟩
  | failed request failedAt hfind _ hfailed =>
    rcases mem_upsertBy hjob with rfl | hjob
    · exact .inl ⟨_, mem_of_findBy hfind, (origin_failed hfailed).symm⟩
    · exact .inl ⟨job, hjob, rfl⟩
  | health => exact .inl ⟨job, hjob, rfl⟩

theorem RunSound.step {requests : List RequiredQueueRequest}
    {current : Option ReferenceJobQueueStoreRecord} (h : RunSound adapter requests current)
    (now : IsoDateTime) (call : QueueCall)
    (hids : IdsDiffer adapter.host (requests ++ (adapter.enqueues now call current).toList)) :
    RunSound adapter (requests ++ (adapter.enqueues now call current).toList)
        (adapter.perform now call current) ∧
      Kept (contentOf current).queue (contentOf (adapter.perform now call current)).queue := by
  have hstep := perform_queue adapter now call current
  obtain ⟨hsound, hkept⟩ := h.sound.step hstep fun request hasked job hjob hid =>
    hids _ (List.mem_append_left _ (h.asked job hjob)) _
      (List.mem_append_right _ (by rw [hasked]; exact List.mem_singleton_self _)) hid
  have horigins := origin_step hstep
  refine ⟨⟨hsound, fun job hjob => ?_, fun job hjob => ?_, ?_⟩, hkept⟩
  · rcases horigins job hjob with ⟨job', hjob', horigin⟩ | ⟨r, hasked, rfl⟩
    · exact List.mem_append_left _ (request_of_origin horigin ▸ h.asked job' hjob')
    · exact List.mem_append_right _ (by rw [hasked]; exact List.mem_singleton_self _)
  · rcases horigins job hjob with ⟨job', hjob', horigin⟩ | ⟨r, hasked, rfl⟩
    · exact request_of_origin horigin ▸ h.enqueueable job' hjob'
    · exact enqueues_enqueueable hasked
  · intro record hrecord
    rcases perform_cases adapter now call current with hsame | ⟨record', hnew, hstorable⟩
    · exact h.storable record (hsame.symm.trans hrecord)
    · rw [hnew, Option.some.injEq] at hrecord
      exact hrecord ▸ hstorable

/-- **After calls in sequence**, whatever they are and whatever the clock shows. -/
theorem RunSound.run (calls : List (IsoDateTime × QueueCall)) {requests : List RequiredQueueRequest}
    {current : Option ReferenceJobQueueStoreRecord} (h : RunSound adapter requests current)
    (hids : IdsDiffer adapter.host (requests ++ requested adapter calls current)) :
    RunSound adapter (requests ++ requested adapter calls current) (adapter.run calls current) ∧
      Kept (contentOf current).queue (contentOf (adapter.run calls current)).queue := by
  induction calls generalizing requests current with
  | nil =>
    rw [requested, List.append_nil]
    exact ⟨h, .refl _⟩
  | cons call calls ih =>
    obtain ⟨now, call⟩ := call
    rw [requested, ← List.append_assoc] at hids ⊢
    obtain ⟨hnext, hkept⟩ := h.step now call fun r hr r' hr' =>
      hids r (List.mem_append_left _ hr) r' (List.mem_append_left _ hr')
    obtain ⟨hrun, hkept'⟩ := ih hnext hids
    exact ⟨hrun, hkept.trans hkept'⟩

theorem requested_append (calls later : List (IsoDateTime × QueueCall))
    (current : Option ReferenceJobQueueStoreRecord) :
    requested adapter (calls ++ later) current =
      requested adapter calls current ++ requested adapter later (adapter.run calls current) := by
  induction calls generalizing current with
  | nil => rfl
  | cons call calls ih =>
    obtain ⟨now, call⟩ := call
    rw [List.cons_append, requested, requested, ih, List.append_assoc]
    rfl

/-! ## Known keys -/

/-- An enqueue whose key is that of a job: the same request gets the job and changes nothing
that the record holds, and any other request throws, as does one that comes with something
secret. -/
def KnownKey (adapter : ReferenceJobQueueAdapter) (now : IsoDateTime) (call : EnqueueCall)
    (current : Option ReferenceJobQueueStoreRecord) : Prop :=
  ∀ r, call.normalized adapter.host now (contentOf current) = .ok r → IsJson (.obj r.payload) →
    ∀ job ∈ (contentOf current).queue.queuedJobs, job.idempotencyKey = r.idempotencyKey →
      (SameRequest job.request r ∧ ¬ call.CarriesSecrets adapter.host (contentOf current) ∧
        ∃ record, adapter.enqueue now call current = (some record, .ok job) ∧
          record.toQueueContent = contentOf current) ∨
      ((¬ SameRequest job.request r ∨ call.CarriesSecrets adapter.host (contentOf current)) ∧
        ∃ message, adapter.enqueue now call current = (current, .error message))

theorem enqueue_refused {now : IsoDateTime} {call : EnqueueCall}
    {current : Option ReferenceJobQueueStoreRecord}
    (h : ∀ checked, adapter.checked now (contentOf current) call ≠ .ok checked) :
    ∃ message, adapter.enqueue now call current = (current, .error message) := by
  unfold enqueue
  cases hchecked : adapter.checked now (contentOf current) call with
  | error message => exact ⟨message, rfl⟩
  | ok checked => exact absurd hchecked (h checked)

/-- **A known key** is answered from the queue, or refused. -/
theorem enqueue_known (hprint : PrintsNumbers adapter.host)
    (hsha : Function.Injective adapter.host.sha256Hex) {requests : List RequiredQueueRequest}
    {current : Option ReferenceJobQueueStoreRecord} (h : RunSound adapter requests current)
    (hjson : ∀ r ∈ requests, IsJson (.obj r.payload)) (now : IsoDateTime) (call : EnqueueCall) :
    KnownKey adapter now call current := by
  intro r hr hpayload job hjob hkey
  obtain ⟨existing, hexisting, hjobId, hhash⟩ := h.sound.record_of_job hjob
  have hmade := (h.sound.made job hjob).2
  have hsame : existing.requestHash = r.requestHash adapter.host ↔ SameRequest job.request r := by
    rw [hhash, hmade]
    exact requestHash_eq_iff hprint hsha (hjson _ (h.asked job hjob)) hpayload
  by_cases haccepted : ∃ checked, adapter.checked now (contentOf current) call = .ok checked ∧
      checked.request = r
  · obtain ⟨checked, hchecked, rfl⟩ := haccepted
    obtain ⟨-, -, hclean⟩ := checked_iff.1 ⟨checked, hchecked, rfl⟩
    have henqueue := enqueue_of_checked hchecked
    rw [hkey] at hexisting
    by_cases hreq : SameRequest job.request checked.request
    · refine .inl ⟨hreq, hclean, ?_⟩
      cases current with
      | none => cases hjob
      | some record =>
        have hmutate : adapter.enqueueNormalizedJob checked record.toQueueContent =
            .ok (record.toQueueContent, job) := by
          have hfound : requiredQueuedJob record.queue existing.jobId = .ok job := by
            rw [requiredQueuedJob_ok, hjobId]
            exact findBy_of_mem h.sound.ids hjob
          unfold enqueueNormalizedJob
          have hfind : findBy (·.idempotencyKey) record.queue.idempotencyRecords
              checked.request.idempotencyKey = some existing := hexisting
          simp only [hfind, if_pos (hsame.2 hreq), hfound]
          rfl
        have hattempt : adapter.attempt checked.request.requestedAt
            (adapter.enqueueNormalizedJob checked) (some record) =
            .ok ({ record with storedAt := checked.request.requestedAt }, job) :=
          attempt_ok.2 ⟨hmutate, h.storable record rfl, rfl⟩
        refine ⟨{ record with storedAt := checked.request.requestedAt }, ?_, rfl⟩
        rw [henqueue]
        unfold commitSnapshot
        rw [hattempt]
    · refine .inr ⟨.inl hreq, ?_⟩
      rw [henqueue]
      rcases commitSnapshot_cases adapter checked.request.requestedAt
        (adapter.enqueueNormalizedJob checked) current with herror | ⟨content, result, hmutate, -⟩
      · exact herror
      · rcases enqueueNormalizedJob_ok hmutate with ⟨existing', hexisting', hhash', -⟩ | ⟨hnew, -⟩
        · rw [hexisting] at hexisting'
          cases hexisting'
          exact absurd (hsame.1 hhash') hreq
        · rw [hexisting] at hnew
          cases hnew
  · -- what was accepted once is accepted again, so a refusal tells of a difference
    refine .inr ⟨?_, ?_⟩
    · by_contra hnot
      rw [not_or, not_not] at hnot
      exact haccepted (checked_iff.2 ⟨hr, hnot.1.enqueueable hpayload (normalized_payload hr)
        (h.enqueueable job hjob), hnot.2⟩)
    · refine enqueue_refused fun checked hchecked => haccepted ⟨checked, hchecked, ?_⟩
      have hnormalized := (checked_iff.1 ⟨checked, hchecked, rfl⟩).1
      rw [hr] at hnormalized
      exact (Except.ok.inj hnormalized).symm

/-- **The invariant of the queue.** After any calls, with any clock: ids are unique, jobs and
idempotency records belong together one to one, nobody holds a queued job, later calls leave
every job, and those that are over as they are, and an enqueue with a known key is answered
with the job or throws. -/
theorem queue_invariant (adapter : ReferenceJobQueueAdapter) (hprint : PrintsNumbers adapter.host)
    (hsha : Function.Injective adapter.host.sha256Hex)
    (calls later : List (IsoDateTime × QueueCall))
    (hids : IdsDiffer adapter.host (requested adapter (calls ++ later) none))
    (hjson : ∀ r ∈ requested adapter (calls ++ later) none, IsJson (.obj r.payload)) :
    Sound adapter.host (contentOf (adapter.run calls none)).queue ∧
      Kept (contentOf (adapter.run calls none)).queue
        (contentOf (adapter.run (calls ++ later) none)).queue ∧
      ∀ now call, KnownKey adapter now call (adapter.run calls none) := by
  rw [requested_append] at hids hjson
  obtain ⟨hrun, -⟩ := (runSound_none adapter).run calls fun r hr r' hr' =>
    hids r (List.mem_append_left _ hr) r' (List.mem_append_left _ hr')
  obtain ⟨-, hkept⟩ := hrun.run later hids
  have happend : adapter.run (calls ++ later) none = adapter.run later (adapter.run calls none) :=
    List.foldl_append ..
  rw [happend]
  exact ⟨hrun.sound, hkept, enqueue_known hprint hsha hrun fun r hr =>
    hjson r (List.mem_append_left _ hr)⟩

end

open Fixtures L2.Audit.Fixtures

theorem requested_evidence (later : List (IsoDateTime × QueueCall))
    (hlater : ∀ current, requested plainAdapter later current = []) :
    ∀ r ∈ requested plainAdapter
      (("2026-01-01T00:00:00.000Z", .enqueue (.enqueueJob evidenceRequest)) :: later) none,
      normalizeEnqueueRequest "2026-01-01T00:00:00.000Z" evidenceRequest = .ok r := by
  intro r hr
  rw [requested, hlater, List.append_nil, Option.mem_toList] at hr
  unfold enqueues at hr
  dsimp only at hr
  split at hr
  · next checked hchecked =>
    cases hr
    exact (checked_iff.1 ⟨checked, hchecked, rfl⟩).1
  · cases hr

theorem queue_invariant_evidence :
    let calls : List (IsoDateTime × QueueCall) :=
      [("2026-01-01T00:00:00.000Z", .enqueue (.enqueueJob evidenceRequest))]
    let later : List (IsoDateTime × QueueCall) :=
      [("2026-01-01T00:00:01.000Z", .reserveNextJob { workerId := "worker:1" })]
    Sound exactHost (contentOf (plainAdapter.run calls none)).queue ∧
      Kept (contentOf (plainAdapter.run calls none)).queue
        (contentOf (plainAdapter.run (calls ++ later) none)).queue ∧
      ∀ now call, KnownKey plainAdapter now call (plainAdapter.run calls none) := by
  have hone := requested_evidence
    [("2026-01-01T00:00:01.000Z", .reserveNextJob { workerId := "worker:1" })] fun _ => rfl
  refine queue_invariant plainAdapter printsNumbers_exact noCollision_exact _ _ ?_ ?_
  · intro r hr r' hr' _
    rw [Except.ok.inj ((hone r hr).symm.trans (hone r' hr'))]
  · intro r hr
    cases hone r hr
    exact .obj List.nodup_nil fun p hp => by cases hp

end AccessKit.L6
