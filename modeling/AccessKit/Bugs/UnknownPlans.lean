import AccessKit.L5Runtime.MockConnector
import AccessKit.L6Queue.Drain
import AccessKit.L6Queue.Fixtures

/-!
# Jobs of unknown plans

Status: open. A drain takes an execution that returns for one that did its job
(packages/api/src/job-queue-runner.ts:49-56). `createProvisioningJob` returns nothing when
there is neither a job of its key nor the plan it names
(packages/api/src/runtime-jobs.ts:169-173), which the server answers with a 404
(packages/api/src/server.ts:600-603). The drain does not look at it, and completes a queued
job for which nothing was made.

Counterexample: a provisioning job that names a plan nobody stored (`unknown_plan_completed`).

Exact condition: the queued job that is reserved names no plan, or one that is stored, or its
provisioning job is there; or its lease is over when the completion is reported
(`completed_iff_done`). Jobs of all kinds are drained in `completed_kinds`.
-/
namespace AccessKit.Bugs.UnknownPlans
open AccessKit.Core AccessKit.L1 AccessKit.L2.Audit AccessKit.L2.Audit.Fixtures AccessKit.L6
  AccessKit.L6.Fixtures ReferenceJobQueueAdapter DrainState

section
variable (adapter : ReferenceJobQueueAdapter) (regExp : String → Option (String → Bool))
  (requestActor : Option CanonicalId) (options : DrainQueuedJobOptions)
  (answers : ExecutionAnswers) (s : DrainState)

/-- A drain completes jobs that are done, and reports those as failed whose plan is unknown. -/
structure CompletesDone : Prop where
  done : ∀ result,
    (drainNextQueuedJob adapter regExp requestActor options answers s).2 = .ok result →
    result.status = .completed → ∃ s' job, s.reserve adapter options = (s', .ok (some job)) ∧
      Done requestActor answers s'.app
        (drainNextQueuedJob adapter regExp requestActor options answers s).1.app job result.result
  failed : ∀ s' job call, s.reserve adapter options = (s', .ok (some job)) →
    askedCall s'.app.runtime.actor requestActor job = some call →
    Unresolved s'.app.runtime call → ∀ result,
    (drainNextQueuedJob adapter regExp requestActor options answers s).2 = .ok result →
    result.status = .failed ∨ result.status = .deadLettered

/-- What a drain needs: the call of its job resolves something, or the completion is late. -/
def Meets : Prop :=
  ∀ s' job call, s.reserve adapter options = (s', .ok (some job)) →
    askedCall s'.app.runtime.actor requestActor job = some call →
    Unresolved s'.app.runtime call → ¬ LeaseActive job s'.app.now

end

section
variable {adapter : ReferenceJobQueueAdapter} {regExp : String → Option (String → Bool)}
  {requestActor : Option CanonicalId} {options : DrainQueuedJobOptions}
  {answers : ExecutionAnswers} {s s' : DrainState} {job : ReferenceQueuedJob} {call : L5.JobCall}

theorem status_fail {error : String} {result : DrainQueuedJobResult}
    (h : (fail adapter options job error s).2 = .ok result) :
    result.status = .failed ∨ result.status = .deadLettered := by
  unfold fail at h
  dsimp only at h
  cases hcommit : (adapter.commitSnapshot s.app.now (adapter.recordJobFailure job.id
    { workerId := some options.workerId, failedAt := some s.app.now, error } s.app.now)
      s.current).2 with
  | error message =>
    rw [hcommit] at h
    cases h
  | ok failed =>
    rw [hcommit] at h
    cases h
    dsimp only
    split
    · exact .inr rfl
    · exact .inl rfl

/-- A job of an unknown plan fails when its completion is late. -/
theorem drain_unresolved_late (hreserve : s.reserve adapter options = (s', .ok (some job)))
    (hcall : askedCall s'.app.runtime.actor requestActor job = some call)
    (hunresolved : Unresolved s'.app.runtime call) (hlease : ¬ LeaseActive job s'.app.now)
    {result : DrainQueuedJobResult}
    (h : (drainNextQueuedJob adapter regExp requestActor options answers s).2 = .ok result) :
    result.status = .failed ∨ result.status = .deadLettered := by
  obtain ⟨message, hcomplete⟩ := complete_late hreserve hlease
  unfold drainNextQueuedJob at h
  rw [hreserve] at h
  dsimp only at h
  rw [DrainApp.executeQueuedJob_unresolved _ _ _ hcall hunresolved] at h
  dsimp only at h
  generalize complete adapter options job s' = completed at hcomplete h
  obtain ⟨s'', completed⟩ := completed
  cases hcomplete
  exact status_fail h

theorem drain_completed {result : DrainQueuedJobResult}
    (h : (drainNextQueuedJob adapter regExp requestActor options answers s).2 = .ok result)
    (hcompleted : result.status = .completed) :
    ∃ s' job app, s.reserve adapter options = (s', .ok (some job)) ∧
      s'.app.executeQueuedJob adapter.host regExp requestActor job answers =
        (app, .ok result.result) ∧
      (drainNextQueuedJob adapter regExp requestActor options answers s).1.app = app.tick := by
  unfold drainNextQueuedJob at h ⊢
  split at h
  · cases h
  · cases h
    cases hcompleted
  · next s' job hreserve =>
    rw [hreserve]
    split at h
    · rcases status_fail h with hstatus | hstatus <;> rw [hcompleted] at hstatus <;> cases hstatus
    · next app returned hexecuted =>
      split at h
      · rcases status_fail h with hstatus | hstatus <;> rw [hcompleted] at hstatus <;> cases hstatus
      · next s'' completed hcomplete =>
        cases h
        have happ := congrArg (fun c : DrainState × Except String ReferenceQueuedJob => c.1.app)
          hcomplete
        exact ⟨s', job, app, rfl, hexecuted, happ.symm⟩

theorem done_tick {before app : DrainApp} {result : Option Produced}
    (h : Done requestActor answers before app job result) :
    Done requestActor answers before app.tick job result := by
  cases h with
  | discovery hkind hanswer hcollection hrun hcounts =>
    exact .discovery hkind hanswer hcollection ⟨hrun.1, hrun.2, hrun.3⟩ hcounts
  | reconciliation hkind hanswer hcollection hrun hfindings =>
    exact .reconciliation hkind hanswer hcollection ⟨hrun.1, hrun.2, hrun.3⟩ hfindings
  | provisioning hkind hplanId hjob =>
    exact .provisioning hkind hplanId ⟨hjob.1, hjob.2, hjob.3, hjob.4⟩
  | revocation hkind hplanId hjob =>
    exact .revocation hkind hplanId ⟨hjob.1, hjob.2, hjob.3, hjob.4⟩
  | grantRevocation hkind hplanId hgrant hplan hjob =>
    exact .grantRevocation hkind hplanId hgrant ⟨hplan.1, hplan.2, hplan.3⟩
      ⟨hjob.1, hjob.2, hjob.3, hjob.4⟩
  | evidence hkind hfinalized hevents heventType hpayload =>
    exact .evidence hkind hfinalized hevents heventType hpayload

end

/-! ## Counterexample -/

/-- A queued job of a kind. -/
def queuedJob (kind : L5.ReferenceQueuedJobKind) (payload : JsonRecord) : ReferenceQueuedJob :=
  createQueuedJob exactHost
    { kind
      connectorId := "mock"
      idempotencyKey := "queue:1"
      payload
      priority := .normal
      requestedAt := midnight
      maxAttempts := 3
      backoff := defaultBackoffPolicy
      approval := none
      control := none
      readinessReportId := none
      replayedFromJobId := none }

/-- As the drain reserves it. -/
def reservedJob (kind : L5.ReferenceQueuedJobKind) (payload : JsonRecord) : ReferenceQueuedJob :=
  (queuedJob kind payload).reserved "worker:local-runtime" midnight "2026-01-01T00:05:00.000Z"

/-- Nothing answers: nothing is asked. -/
def noAnswers : ExecutionAnswers where
  discovered := .error (.other "")
  findings := .error (.other "")
  decision := L5.Mock.noDecision
  planned := .error (.other "")
  job := L5.Mock.answers L5.Mock.approvedPlan
  finalized _ _ _ := .error (.other "")
  storageReceipt := none

/-- A runtime at midnight that stores nothing. -/
def midnightRuntime : L5.ProvisioningApp := { L5.Mock.runtime with clock := fun _ => midnight }

/-- A runtime, and a job in its queue. -/
def queued (job : ReferenceQueuedJob) (runtime : L5.ProvisioningApp) : DrainState where
  current := some (recordOf job midnight)
  app := { runtime, records := .empty, sequences := .empty }

theorem reserve_queued (kind : L5.ReferenceQueuedJobKind) {payload : JsonRecord}
    (hpayload : NoSecretKeys exactHost (.obj payload)) {runtime : L5.ProvisioningApp}
    (hclock : runtime.clock = fun _ => midnight) :
    (queued (queuedJob kind payload) runtime).reserve plainAdapter {} =
      ({ current := some (recordOf (reservedJob kind payload) midnight)
         app := (queued (queuedJob kind payload) runtime).app.tick },
        .ok (some (reservedJob kind payload))) := by
  have havailable : stringLe midnight midnight = true := by decide +kernel
  have hlease : addMilliseconds exactHost midnight defaultLeaseDurationMs =
      .ok "2026-01-01T00:05:00.000Z" := by decide +kernel
  have hcommit : plainAdapter.commitSnapshot midnight
      (plainAdapter.reserveNextJob { workerId := "worker:local-runtime" } midnight)
      (some (recordOf (queuedJob kind payload) midnight)) = _ :=
    commit_reserve ⟨hpayload, rfl, rfl⟩ midnight rfl havailable hlease
  exact reserve_of_commit (congrFun hclock _) hcommit

theorem leaseActive_reservedJob (kind : L5.ReferenceQueuedJobKind) (payload : JsonRecord) :
    LeaseActive (reservedJob kind payload) midnight := by
  intro lease hlease
  cases hlease
  decide +kernel

/-- A payload that names a plan. -/
def planPayload (planId : String) : JsonRecord := [("planId", .str planId)]

theorem noSecretKeys_planPayload (planId : String) :
    NoSecretKeys exactHost (.obj (planPayload planId)) :=
  noSecretKeys_obj_of (by simp [planPayload, plainKeys]) (by simp [planPayload, NoSecretKeys.str])

/-- **Counterexample**: a job that names an unknown plan is completed. -/
theorem unknown_plan_completed :
    ¬ ∀ (adapter : ReferenceJobQueueAdapter) (regExp : String → Option (String → Bool))
      (requestActor : Option CanonicalId) (options : DrainQueuedJobOptions)
      (answers : ExecutionAnswers) (s : DrainState),
      CompletesDone adapter regExp requestActor options answers s := by
  intro hclaim
  have hlaw := hclaim plainAdapter (fun _ => none) none {} noAnswers
    (queued (queuedJob .provisioning (planPayload "plan:unknown")) midnightRuntime)
  have hreserve := reserve_queued .provisioning (noSecretKeys_planPayload "plan:unknown")
    (show midnightRuntime.clock = fun _ => midnight from rfl)
  have hunresolved : Unresolved midnightRuntime.tick
      ((reservedJob .provisioning (planPayload "plan:unknown")).provisioningCall
        midnightRuntime.actor none "plan:unknown") := ⟨rfl, rfl⟩
  have hdrain := drain_executed hreserve
    (DrainApp.executeQueuedJob_unresolved exactHost (fun _ => none) noAnswers rfl hunresolved)
    (leaseActive_reservedJob _ _)
  rcases hlaw.failed _ _ _ hreserve rfl hunresolved _ (congrArg Prod.snd hdrain) with h | h <;>
    cases h

/-! ## When what is completed is done -/

/-- **Exact condition**: a drain completes only what is done exactly if the plan of the job
it reserves is there, or the completion is late. -/
theorem completed_iff_done (adapter : ReferenceJobQueueAdapter)
    (regExp : String → Option (String → Bool)) (requestActor : Option CanonicalId)
    (options : DrainQueuedJobOptions) (answers : ExecutionAnswers) (s : DrainState) :
    CompletesDone adapter regExp requestActor options answers s ↔
      Meets adapter requestActor options s := by
  constructor
  · intro hlaw s' job call hreserve hcall hunresolved hlease
    have hdrain := drain_executed hreserve
      (DrainApp.executeQueuedJob_unresolved adapter.host regExp answers hcall hunresolved) hlease
    rcases hlaw.failed s' job call hreserve hcall hunresolved _ (congrArg Prod.snd hdrain) with
      h | h <;> cases h
  · intro hmeets
    refine ⟨fun result hdrain hcompleted => ?_, fun s' job call hreserve hcall hunresolved result =>
      drain_unresolved_late hreserve hcall hunresolved
        (hmeets s' job call hreserve hcall hunresolved)⟩
    obtain ⟨s', job, app, hreserve, hexecuted, happ⟩ := drain_completed hdrain hcompleted
    rcases DrainApp.executeQueuedJob_ok hexecuted with hdone | ⟨-, call, hcall, hunresolved⟩
    · refine ⟨s', job, hreserve, ?_⟩
      rw [happ]
      exact done_tick hdone
    · have hlate := hmeets s' job call hreserve hcall hunresolved
      rcases drain_unresolved_late hreserve hcall hunresolved hlate hdrain with h | h <;>
        rw [hcompleted] at h <;> cases h

/-! ## Drains that complete -/

/-- A drain of a job of a kind that completes it, with what it stands for. -/
def Drained (kind : L5.ReferenceQueuedJobKind) (answers : ExecutionAnswers) (s : DrainState) :
    Prop :=
  ∃ s' job completed produced, s.reserve plainAdapter {} = (s', .ok (some job)) ∧ job.kind = kind ∧
    (drainNextQueuedJob plainAdapter (fun _ => none) none {} answers s).2 =
      .ok { status := .completed, queueJob := some completed, result := some produced } ∧
    Done none answers s'.app
      (drainNextQueuedJob plainAdapter (fun _ => none) none {} answers s).1.app job (some produced)

section
variable {kind : L5.ReferenceQueuedJobKind} {payload : JsonRecord} {runtime : L5.ProvisioningApp}
  {answers : ExecutionAnswers} {app : DrainApp} {produced : Produced}

/-- What an execution of the reserved job returns. -/
def Executes (kind : L5.ReferenceQueuedJobKind) (payload : JsonRecord)
    (runtime : L5.ProvisioningApp) (answers : ExecutionAnswers) (app : DrainApp)
    (produced : Produced) : Prop :=
  (queued (queuedJob kind payload) runtime).app.tick.executeQueuedJob exactHost (fun _ => none) none
    (reservedJob kind payload) answers = (app, .ok (some produced))

theorem Executes.meets (h : Executes kind payload runtime answers app produced)
    (hpayload : NoSecretKeys exactHost (.obj payload))
    (hclock : runtime.clock = fun _ => midnight) :
    Meets plainAdapter none {} (queued (queuedJob kind payload) runtime) := by
  intro s' job call hreserve hcall hunresolved
  rw [reserve_queued kind hpayload hclock] at hreserve
  cases hreserve
  have hnothing := DrainApp.executeQueuedJob_unresolved exactHost (fun _ => none) answers hcall
    hunresolved
  rw [show _ = _ from h] at hnothing
  cases hnothing

theorem Executes.drained (h : Executes kind payload runtime answers app produced)
    (hpayload : NoSecretKeys exactHost (.obj payload)) (hclock : runtime.clock = fun _ => midnight)
    (hlaw : CompletesDone plainAdapter (fun _ => none) none {} answers
      (queued (queuedJob kind payload) runtime)) :
    Drained kind answers (queued (queuedJob kind payload) runtime) := by
  have hreserve := reserve_queued kind hpayload hclock
  have hnow : app.now = midnight := by
    obtain ⟨operations, hrun⟩ := DrainApp.executeQueuedJob_run exactHost (fun _ => none) none
      (queued (queuedJob kind payload) runtime).app.tick (reservedJob kind payload) answers
    rw [show _ = _ from h] at hrun
    have hkept : app.runtime.clock = runtime.clock := by
      rw [hrun, L5.ProvisioningApp.run_clock]
      rfl
    show app.runtime.clock app.runtime.ticks = midnight
    rw [hkept, hclock]
  have hdrain := drain_executed hreserve h (hnow ▸ leaseActive_reservedJob kind payload)
  have hresult := congrArg Prod.snd hdrain
  obtain ⟨s', job, hreserve', hdone⟩ := hlaw.done _ hresult rfl
  rw [hreserve] at hreserve'
  cases hreserve'
  exact ⟨_, _, _, produced, hreserve, rfl, hresult, hdone⟩

end

def discovered : Discovered where
  subjects := 1
  resources := 1
  relationships := 0
  nativeGrants := 1
  warnings := []
  cursor := none
  provider := none
  tenantBoundary := none

def finding : DetectedFinding where
  id := "drift:1"
  subjectId := "user:alice"
  resourceId := "document:case-plan"
  severity := "high"
  fields := []

/-- What a job of each kind needs. -/
def plainAnswers : ExecutionAnswers :=
  { noAnswers with
    discovered := .ok discovered
    findings := .ok [finding]
    planned := .ok (L5.Mock.revokeAccess L5.Mock.grantId)
    finalized := fun _ _ generatedAt => .ok [("generatedAt", .str generatedAt)] }

/-- The runtime stores the plan of a revocation. -/
def plannedRuntime : L5.ProvisioningApp :=
  midnightRuntime.upsertProvisioningPlan (L5.Mock.revokeAccess L5.Mock.grantId)

theorem executes_discovery :
    ∃ app produced, Executes .discovery [] midnightRuntime plainAnswers app produced := ⟨_, _, rfl⟩

theorem executes_reconciliation :
    ∃ app produced, Executes .reconciliation [] midnightRuntime plainAnswers app produced :=
  ⟨_, _, rfl⟩

theorem executes_evidence :
    ∃ app produced, Executes .evidence [] midnightRuntime plainAnswers app produced := ⟨_, _, rfl⟩

/-- The plan of the revocation, as the connector answers it. -/
def grantPlan : L5.ProvisioningPlan := L5.Mock.revokeAccess L5.Mock.grantId

/-- A payload that names a native grant. -/
def grantPayload : JsonRecord := [("nativeGrantId", .str L5.Mock.grantId)]

theorem createProvisioningJob_dryRun (app : DrainApp) (call : L5.JobCall) (answers : L5.JobAnswers)
    {plan : L5.ProvisioningPlan} {connector : L5.ConnectorAdapter}
    (hfresh : app.runtime.getProvisioningJobByIdempotencyKey call.idempotencyKey = none)
    (hplan : app.runtime.getProvisioningPlan call.planId = some plan)
    (hconnector : app.runtime.connectors.get? plan.connectorId = some connector)
    (hmode : plan.mode = .dryRun) (hrequested : call.mode.getD plan.mode = plan.mode)
    (hverified : answers.verified = .ok true) :
    ∃ app' made, app.createProvisioningJob exactHost (fun _ => none) call answers =
      (app', .ok (some (.provisioningJob made))) := by
  obtain ⟨result, hresult, hrun⟩ :=
    L5.ProvisioningApp.createProvisioningJob_run exactHost (fun _ => none) app.runtime call answers
  generalize (app.runtime.createProvisioningJob exactHost (fun _ => none) call answers).1.records =
    records at hrun
  rw [L5.ProvisioningApp.startProvisioningJob_dryRun hfresh hplan hconnector hmode hrequested]
    at hrun
  have hcalled : app.createProvisioningJob exactHost (fun _ => none) call answers =
      ({ app with runtime :=
        (app.runtime.createProvisioningJob exactHost (fun _ => none) call answers).1 },
        DrainApp.settled
          (app.runtime.createProvisioningJob exactHost (fun _ => none) call answers).2) := rfl
  rw [hcalled, hresult]
  cases hrun with
  | dryRunThrew hthrew =>
    rw [hverified] at hthrew
    cases hthrew
  | dryRunStored => exact ⟨_, _, rfl⟩

theorem executes_provisioning : ∃ app produced,
    Executes .provisioning (planPayload grantPlan.id) plannedRuntime plainAnswers app produced := by
  obtain ⟨app, made, hmade⟩ := createProvisioningJob_dryRun
    (queued (queuedJob .provisioning (planPayload grantPlan.id)) plannedRuntime).app.tick
    ((reservedJob .provisioning (planPayload grantPlan.id)).provisioningCall plannedRuntime.actor
      none grantPlan.id) plainAnswers.job
    rfl (OrderedMap.get?_set_self _ _ _) (OrderedMap.get?_set_self _ _ _) rfl rfl rfl
  exact ⟨app, _, hmade⟩

/-- The runtime when the plan of a revocation is stored. -/
def revokedRuntime : L5.ProvisioningApp :=
  (midnightRuntime.tick.createProvisioningPlan exactHost (fun _ => none)
    ((reservedJob .revocation grantPayload).revocationPlanCall none L5.Mock.grantId)
    plainAnswers.decision plainAnswers.planned).1

def revokedPlan : L5.ProvisioningPlan := { grantPlan with idempotencyKey := some "queue:1:plan" }

theorem executes_revocation : ∃ app produced,
    Executes .revocation grantPayload midnightRuntime plainAnswers app produced := by
  obtain ⟨app, made, hmade⟩ := createProvisioningJob_dryRun
    { runtime := revokedRuntime, records := .empty, sequences := .empty }
    ((reservedJob .revocation grantPayload).revocationCall revokedRuntime.actor none revokedPlan.id
      (some revokedPlan.mode)) plainAnswers.job
    rfl (OrderedMap.get?_set_self _ _ _) (OrderedMap.get?_set_self _ _ _) rfl rfl rfl
  exact ⟨app, _, hmade⟩

theorem noSecretKeys_grantPayload : NoSecretKeys exactHost (.obj grantPayload) := by
  refine .obj (fun p hp => ?_) fun p hp => ?_
  · rw [List.mem_singleton.1 hp]
    decide +kernel
  · rw [List.mem_singleton.1 hp]
    exact .str _

/-- **A job of each kind** that is drained and completed, with what it stands for. -/
theorem completed_kinds :
    Drained .discovery plainAnswers (queued (queuedJob .discovery []) midnightRuntime) ∧
    Drained .reconciliation plainAnswers (queued (queuedJob .reconciliation []) midnightRuntime) ∧
    Drained .provisioning plainAnswers
      (queued (queuedJob .provisioning (planPayload grantPlan.id)) plannedRuntime) ∧
    Drained .revocation plainAnswers (queued (queuedJob .revocation grantPayload) midnightRuntime) ∧
    Drained .evidence plainAnswers (queued (queuedJob .evidence []) midnightRuntime) := by
  obtain ⟨_, _, hdiscovery⟩ := executes_discovery
  obtain ⟨_, _, hreconciliation⟩ := executes_reconciliation
  obtain ⟨_, _, hprovisioning⟩ := executes_provisioning
  obtain ⟨_, _, hrevocation⟩ := executes_revocation
  obtain ⟨_, _, hevidence⟩ := executes_evidence
  have hplan := noSecretKeys_planPayload grantPlan.id
  have hgrant := noSecretKeys_grantPayload
  exact ⟨hdiscovery.drained noSecretKeys_empty rfl ((completed_iff_done _ _ _ _ _ _).2
      (hdiscovery.meets noSecretKeys_empty rfl)),
    hreconciliation.drained noSecretKeys_empty rfl ((completed_iff_done _ _ _ _ _ _).2
      (hreconciliation.meets noSecretKeys_empty rfl)),
    hprovisioning.drained hplan rfl ((completed_iff_done _ _ _ _ _ _).2
      (hprovisioning.meets hplan rfl)),
    hrevocation.drained hgrant rfl ((completed_iff_done _ _ _ _ _ _).2
      (hrevocation.meets hgrant rfl)),
    hevidence.drained noSecretKeys_empty rfl ((completed_iff_done _ _ _ _ _ _).2
      (hevidence.meets noSecretKeys_empty rfl))⟩

end AccessKit.Bugs.UnknownPlans
