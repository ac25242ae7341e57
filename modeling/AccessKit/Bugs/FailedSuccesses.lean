import AccessKit.L5Runtime.MockConnector
import AccessKit.L6Queue.Drain
import AccessKit.L6Queue.Fixtures

/-!
# Successes that are recorded as failures

Status: open. `drainNextQueuedJob` executes a job and reports its completion in one `try`
(packages/api/src/job-queue-runner.ts:49-69). What the queue throws at a completion goes to the
same `catch` as what an execution throws: an execution that took longer than its lease, or
whose completion could not be stored, is recorded as a failure, and the job is executed again
or dead-lettered, after its effects.

What the code does not control is given: what the execution comes to, what other workers
write meanwhile (`Writers`), and whether the store takes a report (`StoreFaults`).

Counterexample: an export that took an hour (`late_export_failed`).

Exact condition: the lease is not over when the completion is reported, and the queue accepts
it, or records no failure either (`kept_iff`).
-/
namespace AccessKit.Bugs.FailedSuccesses
open AccessKit.Core AccessKit.L1 AccessKit.L2.Audit AccessKit.L2.Audit.Fixtures AccessKit.L6
  AccessKit.L6.Fixtures ReferenceJobQueueAdapter DrainState
open AccessKit.L5 (RuntimeError)

/-! ## What a drain does not control -/

/-- What is stored was checked when it was written. -/
def StoredBy (adapter : ReferenceJobQueueAdapter)
    (current : Option ReferenceJobQueueStoreRecord) : Prop :=
  ∀ record, current = some record → Storable adapter record.toQueueContent

/-- Other workers on the store: what they leave was checked, too. -/
structure Writers (adapter : ReferenceJobQueueAdapter) where
  write : Option ReferenceJobQueueStoreRecord → Option ReferenceJobQueueStoreRecord
  stored : ∀ current, StoredBy adapter current → StoredBy adapter (write current)

/-- The calls of other workers, each with what the clock shows. -/
def Writers.ofCalls (adapter : ReferenceJobQueueAdapter) (calls : List (IsoDateTime × QueueCall)) :
    Writers adapter where
  write := adapter.run calls
  stored current hstored := by
    unfold run
    induction calls generalizing current with
    | nil => exact hstored
    | cons call calls ih =>
      refine ih (adapter.perform call.1 call.2 current) ?_
      rcases perform_cases adapter call.1 call.2 current with hsame | ⟨record, hrecord, hstorable⟩
      · rwa [hsame]
      · intro other hother
        obtain rfl := Option.some.inj (hrecord.symm.trans hother)
        exact hstorable

/-- An execution of a job on the runtime, and what other workers write to the queue until it
is over. -/
structure Execution (adapter : ReferenceJobQueueAdapter) where
  run : ReferenceQueuedJob → DrainApp → DrainApp × Except RuntimeError (Option Produced)
  others : Writers adapter

/-- A store that refuses a report: a write conflict that persisted, with what the other
writers left, or a write that failed. -/
structure Refusal (adapter : ReferenceJobQueueAdapter) where
  message : String
  others : Writers adapter

/-- The reports of a drain that its store refuses. -/
structure StoreFaults (adapter : ReferenceJobQueueAdapter) where
  completion : Option (Refusal adapter) := none
  failure : Option String := none

/-- What a drain throws: the error of one of its calls to the queue. -/
inductive Thrown
  | reserving (message : String)
  | completing (message : String)
  | failing (message : String)

def Thrown.message : Thrown → String
  | .reserving message => message
  | .completing message => message
  | .failing message => message

section
variable (adapter : ReferenceJobQueueAdapter) (options : DrainQueuedJobOptions)
  (faults : StoreFaults adapter)

/-- mirrors packages/api/src/job-queue-runner.ts:51-55 -/
def completeUnder (job : ReferenceQueuedJob) (s : DrainState) :
    DrainState × Except String ReferenceQueuedJob :=
  match faults.completion with
  | none => complete adapter options job s
  | some refusal =>
    ({ current := refusal.others.write s.current, app := s.app.tick }, .error refusal.message)

/-- mirrors packages/api/src/job-queue-runner.ts:57-67 -/
def failUnder (job : ReferenceQueuedJob) (error : String) (s : DrainState) :
    DrainState × Except Thrown DrainQueuedJobResult :=
  match faults.failure with
  | none =>
    let (s, failed) := fail adapter options job error s
    (s, failed.mapError .failing)
  | some message => ({ s with app := s.app.tick }, .error (.failing message))

/-- The execution, with what the queue holds after it. -/
def Execution.execute {adapter : ReferenceJobQueueAdapter} (execution : Execution adapter)
    (job : ReferenceQueuedJob) (s : DrainState) :
    DrainState × Except RuntimeError (Option Produced) :=
  let (app, result) := execution.run job s.app
  ({ current := execution.others.write s.current, app }, result)

/-- **A drain** among other workers, on a store that may refuse its reports.
mirrors packages/api/src/job-queue-runner.ts:30-69 -/
def drainUnder (execution : Execution adapter) (s : DrainState) :
    DrainState × Except Thrown DrainQueuedJobResult :=
  match s.reserve adapter options with
  | (s, .error message) => (s, .error (.reserving message))
  | (s, .ok none) => (s, .ok { status := .idle })
  | (s, .ok (some job)) =>
    match execution.execute job s with
    | (s, .error e) => failUnder adapter options faults job (errorMessage e) s
    | (s, .ok result) =>
      match completeUnder adapter options faults job s with
      | (s, .error message) => failUnder adapter options faults job message s
      | (s, .ok completed) =>
        (s, .ok { status := .completed, queueJob := some completed, result })

/-- The execution of the runtime, with no other worker. -/
def alone (regExp : String → Option (String → Bool)) (requestActor : Option CanonicalId)
    (answers : ExecutionAnswers) : Execution adapter where
  run job app := app.executeQueuedJob adapter.host regExp requestActor job answers
  others := .ofCalls adapter []

theorem drainUnder_alone (regExp : String → Option (String → Bool))
    (requestActor : Option CanonicalId) (answers : ExecutionAnswers) (s : DrainState) :
    (drainUnder adapter options {} (alone adapter regExp requestActor answers) s).map id
        (·.mapError Thrown.message) =
      drainNextQueuedJob adapter regExp requestActor options answers s := by
  have hfail (job : ReferenceQueuedJob) (error : String) (s : DrainState) :
      (failUnder adapter options {} job error s).map id (·.mapError Thrown.message) =
        fail adapter options job error s := by
    unfold failUnder
    dsimp only
    generalize fail adapter options job error s = failed
    obtain ⟨s, failed⟩ := failed
    cases failed <;> rfl
  unfold drainUnder drainNextQueuedJob
  generalize s.reserve adapter options = reserved
  obtain ⟨s, message | (_ | job)⟩ := reserved
  · rfl
  · rfl
  · unfold Execution.execute alone
    dsimp only
    generalize s.app.executeQueuedJob adapter.host regExp requestActor job answers = executed
    obtain ⟨app, result⟩ := executed
    cases result with
    | error e => exact hfail _ _ _
    | ok result =>
      have hcomplete : completeUnder adapter options {} job { s with app } =
        complete adapter options job { s with app } := rfl
      have hcurrent : (Writers.ofCalls adapter []).write s.current = s.current := rfl
      dsimp only
      rw [hcurrent, hcomplete]
      generalize complete adapter options job { s with app } = completed
      obtain ⟨s, completed⟩ := completed
      cases completed with
      | error message => exact hfail _ _ _
      | ok completed => rfl

/-! ## The law -/

/-- **The law** of a success, in the state after the execution: no failure is reported, the
queue holds what it holds after the completion, and when the lease is over the refused
completion is what the caller gets. -/
structure SuccessKept (job : ReferenceQueuedJob) (s : DrainState)
    (ended : DrainState × Except Thrown DrainQueuedJobResult) : Prop where
  unfailed : ∀ result, ended.2 = .ok result → result.status = .completed
  kept : ended.1.current = (completeUnder adapter options faults job s).1.current
  late : ¬ LeaseActive job s.app.now → ∃ message,
    (completeUnder adapter options faults job s).2 = .error message ∧
      ended.2 = .error (.completing message)

/-- The job is the worker's, in the queue. -/
structure Held (job : ReferenceQueuedJob) (current : Option ReferenceJobQueueStoreRecord)
    (held : ReferenceQueuedJob) : Prop where
  found : findBy (·.id) (contentOf current).queue.queuedJobs job.id = some held
  running : held.status = .running
  worker : WorkerMatches held (some options.workerId)

/-- The queue accepts the completion, and its store takes it. -/
def Accepted (job : ReferenceQueuedJob) (s : DrainState) : Prop :=
  faults.completion.isNone ∧ ∃ held, Held options job s.current held ∧
    LeaseActive held s.app.now

/-- What is stored once a completion was refused. -/
def leftBy (current : Option ReferenceJobQueueStoreRecord) :
    Option ReferenceJobQueueStoreRecord :=
  match faults.completion with
  | none => current
  | some refusal => refusal.others.write current

/-- The queue takes a failure of the job: it is still the worker's, a retry has a date, and
the store takes it. -/
def Failable (job : ReferenceQueuedJob) (current : Option ReferenceJobQueueStoreRecord)
    (failedAt : IsoDateTime) : Prop :=
  faults.failure.isNone ∧ ∃ held, Held options job current held ∧
    ((held.attempts : Rat) < held.maxAttempts →
      ∃ availableAt, addMilliseconds adapter.host failedAt (backoffDelayMs held) = .ok availableAt)

/-- What a success needs: its lease is not over, and its completion is accepted, or no
failure can be recorded. -/
def Meets (job : ReferenceQueuedJob) (s : DrainState) : Prop :=
  LeaseActive job s.app.now ∧ (Accepted adapter options faults job s ∨
    ¬ Failable adapter options faults job (leftBy adapter faults s.current) s.app.tick.now)

end

section
variable {adapter : ReferenceJobQueueAdapter} {options : DrainQueuedJobOptions}
  {faults : StoreFaults adapter} {job held : ReferenceQueuedJob} {s : DrainState}

/-! ## Reports -/

theorem StoredBy.content (h : StoredBy adapter s.current)
    (hheld : Held options job s.current held) : Storable adapter (contentOf s.current) := by
  have hfound := hheld.found
  cases hcurrent : s.current with
  | none =>
    rw [hcurrent] at hfound
    cases hfound
  | some record => exact h record hcurrent

theorem noSecretKeys_failed {H : Host} (h : NoSecretKeys H job.toJs)
    {request : ReferenceJobFailureRequest} {failedAt : IsoDateTime} {failed : ReferenceQueuedJob}
    (hfailed : Failed request failedAt job failed) : NoSecretKeys H failed.toJs := by
  cases hfailed <;>
  · unfold ReferenceQueuedJob.toJs at h ⊢
    rw [noSecretKeys_obj] at h ⊢
    simp only [List.forall_mem_cons, List.not_mem_nil, false_implies, implies_true, and_true,
      ReferenceQueuedJob.retried, ReferenceQueuedJob.deadLettered, NoSecretKeys.str,
      noSecretKeys_optional] at h ⊢
    exact h

variable (options faults job) in
theorem complete_iff (hstored : StoredBy adapter s.current) :
    (∃ completed, (completeUnder adapter options faults job s).2 = .ok completed) ↔
      Accepted adapter options faults job s := by
  unfold completeUnder Accepted
  cases faults.completion with
  | some refusal =>
    refine ⟨fun h => ?_, fun h => ?_⟩
    · obtain ⟨_, h⟩ := h
      cases h
    · cases h.1
  | none =>
    unfold complete
    dsimp only
    constructor
    · rintro ⟨completed, h⟩
      rcases commitSnapshot_cases adapter s.app.now (completeJob job.id
        (options.completion s.app.now) s.app.now) s.current with
        ⟨message, hcommit⟩ | ⟨content, result, hmutate, -, -⟩
      · rw [hcommit] at h
        cases h
      · obtain ⟨held, hfound, hrunning, hactive, hworker, -⟩ := completeJob_ok.1 hmutate
        exact ⟨rfl, held, ⟨hfound, hrunning, hworker⟩, hactive⟩
    · rintro ⟨-, held, hheld, hactive⟩
      have hstorable := hstored.content hheld
      refine ⟨held.completed (some options.workerId) s.app.now, ?_⟩
      rw [commitSnapshot_stores (completeJob_ok.2
        ⟨held, hheld.found, hheld.running, hactive, hheld.worker, rfl, rfl⟩)]
      · rfl
      · exact hstorable.withJob
          (noSecretKeys_completed (hstorable.job (mem_of_findBy hheld.found)) _ _)

theorem complete_refused {message : String}
    (h : (completeUnder adapter options faults job s).2 = .error message) :
    (completeUnder adapter options faults job s).1 =
      { current := leftBy adapter faults s.current, app := s.app.tick } := by
  unfold completeUnder leftBy at *
  cases hcompletion : faults.completion with
  | some refusal => rfl
  | none =>
    rw [hcompletion] at h
    unfold complete at h ⊢
    dsimp only at h ⊢
    rcases commitSnapshot_cases adapter s.app.now (completeJob job.id
      (options.completion s.app.now) s.app.now) s.current with
      ⟨message, hcommit⟩ | ⟨content, result, -, -, hcommit⟩
    · rw [hcommit]
    · rw [hcommit] at h
      cases h

variable (options faults job) in
theorem fail_iff (hstored : StoredBy adapter s.current) (error : String) :
    (∃ result, (failUnder adapter options faults job error s).2 = .ok result) ↔
      Failable adapter options faults job s.current s.app.now := by
  unfold failUnder Failable
  cases faults.failure with
  | some message =>
    refine ⟨fun h => ?_, fun h => ?_⟩
    · obtain ⟨_, h⟩ := h
      cases h
    · cases h.1
  | none =>
    unfold fail
    dsimp only
    constructor
    · rintro ⟨result, h⟩
      rcases commitSnapshot_cases adapter s.app.now (adapter.recordJobFailure job.id
        { workerId := some options.workerId, failedAt := some s.app.now, error } s.app.now)
        s.current with ⟨message, hcommit⟩ | ⟨content, failed, hmutate, -, -⟩
      · rw [hcommit] at h
        cases h
      · obtain ⟨held, hfound, hrunning, hworker, -, -⟩ := recordJobFailure_ok hmutate
        refine ⟨rfl, held, ⟨hfound, hrunning, hworker⟩, fun hattempts => ?_⟩
        exact recordJobFailure_dated hfound hattempts hmutate
    · rintro ⟨-, held, hheld, hdate⟩
      have hstorable := hstored.content hheld
      have hjob := hstorable.job (mem_of_findBy hheld.found)
      let request : ReferenceJobFailureRequest :=
        { workerId := some options.workerId, failedAt := some s.app.now, error }
      obtain ⟨failed, hfailed, hmutate⟩ : ∃ failed, Failed request s.app.now held failed ∧
          adapter.recordJobFailure job.id request s.app.now (contentOf s.current) =
            .ok ({ contentOf s.current with
              queue := withJob (contentOf s.current).queue failed }, failed) :=
        recordJobFailure_held hheld.found hheld.running hheld.worker hdate
      rw [commitSnapshot_stores hmutate (hstorable.withJob (noSecretKeys_failed hjob hfailed))]
      exact ⟨_, rfl⟩

variable (adapter options faults job s) in
/-- What a report of a failure leaves: a job that failed, or what was there. -/
theorem fail_outcome (error : String) :
    (∃ result, (failUnder adapter options faults job error s).2 = .ok result ∧
      result.status ≠ .completed) ∨
    ∃ message, failUnder adapter options faults job error s =
      ({ s with app := s.app.tick }, .error (.failing message)) := by
  unfold failUnder
  cases faults.failure with
  | some message => exact .inr ⟨message, rfl⟩
  | none =>
    unfold fail
    dsimp only
    rcases commitSnapshot_cases adapter s.app.now (adapter.recordJobFailure job.id
      { workerId := some options.workerId, failedAt := some s.app.now, error } s.app.now)
      s.current with ⟨message, hcommit⟩ | ⟨content, failed, -, -, hcommit⟩
    · rw [hcommit]
      exact .inr ⟨message, rfl⟩
    · rw [hcommit]
      refine .inl ⟨_, rfl, ?_⟩
      dsimp only
      split <;> exact nofun

/-! ## When a success is kept -/

theorem StoredBy.reserved {s' : DrainState}
    (h : s.reserve adapter options = (s', .ok (some job))) : StoredBy adapter s'.current := by
  obtain ⟨record, hcurrent, hstorable, -⟩ := reserve_ok h
  intro other hother
  obtain rfl := Option.some.inj (hcurrent.symm.trans hother)
  exact hstorable

theorem StoredBy.leftBy {current : Option ReferenceJobQueueStoreRecord}
    (h : StoredBy adapter current) : StoredBy adapter (leftBy adapter faults current) := by
  unfold FailedSuccesses.leftBy
  split
  · exact h
  · exact Writers.stored _ _ h

theorem drainUnder_success {execution : Execution adapter} {s₀ s' : DrainState}
    {result : Option Produced} (hreserve : s.reserve adapter options = (s₀, .ok (some job)))
    (hexecuted : execution.execute job s₀ = (s', .ok result)) :
    drainUnder adapter options faults execution s =
      match completeUnder adapter options faults job s' with
      | (s, .error message) => failUnder adapter options faults job message s
      | (s, .ok completed) =>
        (s, .ok { status := .completed, queueJob := some completed, result }) := by
  unfold drainUnder
  rw [hreserve]
  dsimp only
  rw [hexecuted]

/-- A success whose completion is refused ends as the failure that is recorded. -/
theorem drainUnder_refused {execution : Execution adapter} {s₀ s' s₁ s₂ : DrainState}
    {result : Option Produced} {message : String} {failed : DrainQueuedJobResult}
    (hreserve : s.reserve adapter options = (s₀, .ok (some job)))
    (hexecuted : execution.execute job s₀ = (s', .ok result))
    (hcomplete : complete adapter options job s' = (s₁, .error message))
    (hfail : fail adapter options job message s₁ = (s₂, .ok failed)) :
    drainUnder adapter options {} execution s = (s₂, .ok failed) := by
  have hrefused : completeUnder adapter options {} job s' = (s₁, .error message) := hcomplete
  rw [drainUnder_success hreserve hexecuted, hrefused]
  dsimp only
  unfold failUnder
  dsimp only
  rw [hfail]
  rfl

/-- **Exact condition**: a drain keeps the success of an execution exactly if the lease is not
over when it reports it, and the completion is accepted or no failure can be recorded. -/
theorem kept_iff {execution : Execution adapter} {s₀ s' : DrainState}
    {result : Option Produced} (hreserve : s.reserve adapter options = (s₀, .ok (some job)))
    (hexecuted : execution.execute job s₀ = (s', .ok result)) :
    SuccessKept adapter options faults job s' (drainUnder adapter options faults execution s) ↔
      Meets adapter options faults job s' := by
  have hstored : StoredBy adapter s'.current := by
    have hothers := execution.others.stored _ (StoredBy.reserved hreserve)
    have hcurrent := congrArg (fun e => e.1.current) hexecuted
    exact hcurrent ▸ hothers
  have haccepted := complete_iff options faults job hstored
  rw [drainUnder_success hreserve hexecuted]
  cases hcomplete : completeUnder adapter options faults job s' with
  | mk s₁ completed =>
    cases completed with
    | ok completed =>
      have hyes := haccepted.1 ⟨completed, congrArg Prod.snd hcomplete⟩
      refine ⟨fun hlaw => ⟨?_, .inl hyes⟩, fun hmeets => ⟨?_, ?_, ?_⟩⟩
      · by_contra hlate
        obtain ⟨message, hrefused, -⟩ := hlaw.late hlate
        rw [hcomplete] at hrefused
        cases hrefused
      · intro result hresult
        cases hresult
        rfl
      · rw [hcomplete]
      · exact fun hlate => absurd hmeets.1 hlate
    | error message =>
      have hno : ¬ Accepted adapter options faults job s' := by
        intro hyes
        obtain ⟨completed, hcompleted⟩ := haccepted.2 hyes
        rw [hcomplete] at hcompleted
        cases hcompleted
      have hleft : s₁ = { current := leftBy adapter faults s'.current, app := s'.app.tick } := by
        have hrefused := complete_refused (congrArg Prod.snd hcomplete)
        rwa [hcomplete] at hrefused
      have hleftStored : StoredBy adapter s₁.current := hleft ▸ hstored.leftBy
      have hfailable := fail_iff options faults job hleftStored message
      have houtcome := fail_outcome adapter options faults job s₁ message
      dsimp only
      constructor
      · intro hlaw
        refine ⟨?_, .inr fun hfail => ?_⟩
        · by_contra hlate
          obtain ⟨_, -, hended⟩ := hlaw.late hlate
          rcases houtcome with ⟨result, hresult, -⟩ | ⟨other, hfailed⟩
          · rw [hresult] at hended
            cases hended
          · rw [hfailed] at hended
            cases hended
        · subst hleft
          obtain ⟨result, hresult⟩ := hfailable.2 hfail
          rcases houtcome with ⟨other, hother, hstatus⟩ | ⟨other, hfailed⟩
          · exact hstatus (hlaw.unfailed other hother)
          · rw [hfailed] at hresult
            cases hresult
      · rintro ⟨hactive, hyes | hunfailable⟩
        · exact absurd hyes hno
        · have hrefused : ∀ result,
              (failUnder adapter options faults job message s₁).2 ≠ .ok result := by
            intro result hresult
            subst hleft
            exact hunfailable (hfailable.1 ⟨result, hresult⟩)
          refine ⟨fun result hresult => absurd hresult (hrefused result), ?_,
            fun hlate => absurd hactive hlate⟩
          rcases houtcome with ⟨result, hresult, -⟩ | ⟨other, hfailed⟩
          · exact absurd hresult (hrefused result)
          · rw [hfailed, hcomplete]

end

/-! ## An export -/

def worker : CanonicalId := "worker:local-runtime"

/-- An export that finds nothing to export. -/
def emptyExport : ExecutionAnswers where
  discovered := .error (.other "")
  findings := .error (.other "")
  decision := L5.Mock.noDecision
  planned := .error (.other "")
  job := L5.Mock.answers L5.Mock.approvedPlan
  finalized _ _ _ := .ok []
  storageReceipt := none

/-- A queue with an export at midnight, and what the clock shows once it is reserved. -/
def exporting (later : IsoDateTime) : DrainState where
  current := some (recordOf (evidenceJob 3 midnight) midnight)
  app :=
    { runtime := { L5.Mock.runtime with clock := fun n => if n = 0 then midnight else later }
      records := .empty
      sequences := .empty }

/-- The state when the job is reserved. -/
def exportReserved (later : IsoDateTime) : DrainState where
  current := some (recordOf (heldFirst 3 worker) midnight)
  app := (exporting later).app.tick

theorem reserve_exporting (later : IsoDateTime) :
    (exporting later).reserve plainAdapter {} =
      (exportReserved later, .ok (some (heldFirst 3 worker))) :=
  reserve_of_commit rfl (reserve_first 3 worker)

theorem execute_exporting (later : IsoDateTime) :
    ∃ s', (alone plainAdapter (fun _ => none) none emptyExport).execute (heldFirst 3 worker)
        (exportReserved later) = (s', .ok (some (.evidenceExport []))) ∧
      s'.current = some (recordOf (heldFirst 3 worker) midnight) ∧ s'.app.now = later ∧
      s'.app.tick.now = later :=
  ⟨_, rfl, rfl, rfl, rfl⟩

theorem held_exporting {s' : DrainState}
    (hcurrent : s'.current = some (recordOf (heldFirst 3 worker) midnight)) :
    Held {} (heldFirst 3 worker) s'.current (heldFirst 3 worker) where
  found := by
    rw [hcurrent]
    exact find_queueOf _
  running := rfl
  worker := fun _ _ hw hholder => Option.some.inj (hw.symm.trans hholder)

/-- What the queue throws at its completion. -/
def lateExport : String :=
  "Cannot complete production queue job " ++ (heldFirst 3 worker).id ++
    " because its worker lease expired at " ++ "2026-01-01T00:05:00.000Z" ++ "."

/-- The job of the export, after its completion was refused. -/
def failedExport : ReferenceQueuedJob :=
  (heldFirst 3 worker).retried oneOClock "2026-01-01T01:00:30.000Z" lateExport

/-- **Counterexample**: an export that took an hour returned what it exported. The drain
records a failure of the job, which is queued again. -/
theorem late_export_failed :
    ∃ s' ended, (alone plainAdapter (fun _ => none) none emptyExport).execute (heldFirst 3 worker)
        (exportReserved oneOClock) = (s', .ok (some (.evidenceExport []))) ∧
      drainNextQueuedJob plainAdapter (fun _ => none) none {} emptyExport (exporting oneOClock) =
        (ended, .ok { status := .failed, queueJob := some failedExport,
                      error := failedExport.lastError }) ∧
      ended.current = some (recordOf failedExport oneOClock) ∧ failedExport.status = .queued ∧
      ¬ SuccessKept plainAdapter {} {} (heldFirst 3 worker) s' (drainUnder plainAdapter {} {}
        (alone plainAdapter (fun _ => none) none emptyExport) (exporting oneOClock)) := by
  obtain ⟨s', hexecuted, hcurrent, hnow, htick⟩ := execute_exporting oneOClock
  have hheld := held_exporting hcurrent
  have hlease : (truthy (heldFirst 3 worker).leaseExpiresAt).filter
      (fun lease => stringLe lease oneOClock) = some "2026-01-01T00:05:00.000Z" := by
    decide +kernel
  have hcomplete : complete plainAdapter {} (heldFirst 3 worker) s' = _ :=
    complete_of_commit hnow (commitSnapshot_throws (completeJob_expired hheld.found rfl hlease))
  have hattempts : ((heldFirst 3 worker).attempts : Rat) < (heldFirst 3 worker).maxAttempts := by
    show ((1 : Nat) : Rat) < 3
    decide +kernel
  have havailable : addMilliseconds exactHost oneOClock (backoffDelayMs (heldFirst 3 worker)) =
      .ok "2026-01-01T01:00:30.000Z" := by decide +kernel
  have hcommit : plainAdapter.commitSnapshot oneOClock (plainAdapter.recordJobFailure
      (heldFirst 3 worker).id
      { workerId := some worker, failedAt := some oneOClock, error := lateExport } oneOClock)
      (some (recordOf (heldFirst 3 worker) midnight)) =
      (some (recordOf failedExport oneOClock), .ok failedExport) :=
    commit_retry ⟨noSecretKeys_empty, rfl, rfl⟩ rfl hheld.worker hattempts havailable
  rw [← hcurrent] at hcommit
  have hfail : fail plainAdapter {} (heldFirst 3 worker) lateExport
      { current := s'.current, app := s'.app.tick } = _ := fail_of_commit htick hcommit
  have hdrain := drainUnder_refused (reserve_exporting oneOClock) hexecuted hcomplete hfail
  have hsame := drainUnder_alone plainAdapter {} (fun _ => none) none emptyExport
    (exporting oneOClock)
  rw [hdrain] at hsame
  refine ⟨s', _, hexecuted, hsame.symm, rfl, rfl, fun hlaw => ?_⟩
  rw [hdrain] at hlaw
  cases hlaw.unfailed _ rfl

/-- An export in time is completed. -/
theorem kept_iff_midnight :
    ∃ s', SuccessKept plainAdapter {} {} (heldFirst 3 worker) s' (drainUnder plainAdapter {} {}
      (alone plainAdapter (fun _ => none) none emptyExport) (exporting midnight)) := by
  obtain ⟨s', hexecuted, hcurrent, hnow, -⟩ := execute_exporting midnight
  have hlease : LeaseActive (heldFirst 3 worker) s'.app.now := by
    intro lease hlease
    cases hlease
    rw [hnow]
    decide +kernel
  exact ⟨s', (kept_iff (reserve_exporting midnight) hexecuted).2
    ⟨hlease, .inl ⟨rfl, _, held_exporting hcurrent, hlease⟩⟩⟩

end AccessKit.Bugs.FailedSuccesses
