import AccessKit.L5Runtime.MockConnector

/-!
# Changes that are not recorded

Status: open. `executeControlledEnforcementJob` has the connector apply the plan and then
waits for its verification (packages/api/src/runtime-enforcement.ts:192-194); the plan, the
job and the events are stored after both (packages/api/src/runtime-jobs.ts:291-302). When
`verifyProvisioningChange` throws, the call throws with the change made and nothing stored,
although docs/provisioning-lifecycle.md:34 has a missing verification treated as failure and
docs/security-model.md:40 has every connector action emit an event.

Counterexample: a readback that throws, after the plan was applied (`applied_unrecorded`).

Exact condition: the verification answers, whatever it answers (`recorded_iff`).
-/
namespace AccessKit.Bugs.UnrecordedChanges
open AccessKit.Core AccessKit.L1 AccessKit.L2.Audit AccessKit.L2.Fixtures AccessKit.L5
  AccessKit.L5.ProvisioningApp

/-! ## A call among others -/

section
variable (H : Host) (regExp : String → Option (String → Bool)) (app : ProvisioningApp)
  (call : JobCall) (answers : JobAnswers)
  (meanwhile : JobProgress → ProvisioningApp → ProvisioningApp)

/-- A call up to the answer to its last wait: other requests run while it waits. -/
def beforeLastPart : ProvisioningApp × JobProgress :=
  let (app, progress) := app.startProvisioningJob H regExp call
  let (app, progress) := (meanwhile progress app).resumeProvisioningJob H call answers progress
  (meanwhile progress app, progress)

/-- A call to its end. -/
def createProvisioningJobAmid : ProvisioningApp × JobProgress :=
  let (app, progress) := beforeLastPart H regExp app call answers meanwhile
  app.resumeProvisioningJob H call answers progress

/-- With no other requests it is the call that nothing comes between. -/
theorem createProvisioningJobAmid_alone :
    createProvisioningJobAmid H regExp app call answers (fun _ app => app) =
      app.createProvisioningJob H regExp call answers := rfl

end

/-! ## What has to be recorded -/

/-- An event of a call: of a type, under the correlation id of its job. -/
def Logged (events : List AuditEvent) (eventType correlationId : String) : Prop :=
  ∃ event ∈ events, event.eventType = eventType ∧ event.correlationId = correlationId

/-- **The law**: what a runtime stores and logs of a plan that the connector applied. When
the change is not `completed` it was applied, but not verified. -/
structure ChangeRecorded (H : Host) (call : JobCall) (plan appliedPlan : ProvisioningPlan)
    (before after : ProvisioningApp) (completed : Bool) : Prop where
  storedPlan : ∃ stored, after.getProvisioningPlan plan.id = some stored ∧
    stored.status = if completed then .applied else .failed
  storedJob : ∃ job, after.getProvisioningJob (call.jobId H) = some job ∧ job.planId = plan.id ∧
    job.mode = .enforcement ∧ job.actionResults.map (·.actionId) = plan.actions.map (·.actionId) ∧
    job.status = (if completed then .completed else .failed) ∧
    (completed = true ↔ appliedPlan.status = .applied ∧ job.verification.status = .verified)
  logged : ∃ events, after.auditRecorder.events = before.auditRecorder.events ++ events ∧
    (∀ action ∈ plan.actions, Logged events "connector.permission_changed"
      ("corr:" ++ call.jobId H ++ ":" ++ action.actionId ++ ":permission-changed")) ∧
    (completed = false → ∀ action ∈ plan.actions, action.compensation.isSome →
      Logged events "provisioning.rollback_planned"
        ("corr:" ++ call.jobId H ++ ":" ++ action.actionId ++ ":rollback-planned")) ∧
    Logged events (if completed then "provisioning.completed" else "provisioning.failed")
      ("corr:" ++ call.jobId H ++ ":" ++ if completed then "completed" else "failed")

section
variable {H : Host} {regExp : String → Option (String → Bool)} {app : ProvisioningApp}
  {call : JobCall} {answers : JobAnswers} {plan appliedPlan : ProvisioningPlan}
  {startedAt completedAt : IsoDateTime} {verified : Bool}

/-! ## The log -/

variable (H) in
theorem recordAll_logs (requestActor : Option CanonicalId) (inputs : List AuditEventInput)
    (app : ProvisioningApp) :
    ∃ events, (recordAll H requestActor inputs app).1.auditRecorder.events =
        app.auditRecorder.events ++ events ∧
      ∀ input ∈ inputs, Logged events input.eventType input.correlationId := by
  induction inputs generalizing app with
  | nil => exact ⟨[], (List.append_nil _).symm, nofun⟩
  | cons input inputs ih =>
    obtain ⟨events, hevents, hlogged⟩ := ih (app.recordAudit H requestActor input).1
    refine ⟨(app.recordAudit H requestActor input).2 :: events, ?_, ?_⟩
    · exact hevents.trans (List.append_assoc ..)
    · intro other hother
      rcases List.mem_cons.1 hother with rfl | hother
      · exact ⟨_, List.mem_cons_self, rfl, rfl⟩
      · obtain ⟨event, hevent, hsame⟩ := hlogged other hother
        exact ⟨event, List.mem_cons_of_mem _ hevent, hsame⟩

theorem enforcementEvents_logged {events : List AuditEvent} {actor : CanonicalId}
    {completed : Bool} {verification : ProvisioningVerification}
    (hlogged : ∀ input ∈ buildControlledEnforcementJobAuditInputs plan actor
      (enforcementJob H call plan startedAt completed verification completedAt) completed,
      Logged events input.eventType input.correlationId) :
    (∀ action ∈ plan.actions, Logged events "connector.permission_changed"
      ("corr:" ++ call.jobId H ++ ":" ++ action.actionId ++ ":permission-changed")) ∧
    (completed = false → ∀ action ∈ plan.actions, action.compensation.isSome →
      Logged events "provisioning.rollback_planned"
        ("corr:" ++ call.jobId H ++ ":" ++ action.actionId ++ ":rollback-planned")) ∧
    Logged events (if completed then "provisioning.completed" else "provisioning.failed")
      ("corr:" ++ call.jobId H ++ ":" ++ if completed then "completed" else "failed") := by
  unfold buildControlledEnforcementJobAuditInputs at hlogged
  simp only [List.forall_mem_append, List.forall_mem_singleton] at hlogged
  obtain ⟨⟨⟨hchanged, -⟩, hplanned⟩, hended⟩ := hlogged
  refine ⟨fun action haction => ?_, fun hfailed action haction hcompensation => ?_, hended⟩
  · exact hchanged _ (List.mem_map_of_mem (List.mem_map_of_mem haction))
  · obtain ⟨compensation, hcompensation⟩ := Option.isSome_iff_exists.1 hcompensation
    subst hfailed
    have hplan := congrArg (·.map fun compensation =>
      planEvent actor plan "provisioning.rollback_planned"
        ("corr:" ++ call.jobId H ++ ":" ++ action.actionId ++ ":rollback-planned")
        [("jobId", .str (call.jobId H)), ("planId", .str plan.id),
          ("actionId", .str action.actionId), ("compensation", compensation.toJs)]) hcompensation
    exact hplanned _ (List.mem_filterMap.2 ⟨action, haction, hplan⟩)

/-! ## The last part of a call -/

variable (H call) in
/-- A verification that answers, whatever it answers, has the change stored and logged. -/
theorem recorded_stored (app : ProvisioningApp) (hanswer : answers.verified = .ok verified) :
    ChangeRecorded H call plan appliedPlan app
      (app.resumeProvisioningJob H call answers
        (.verifying plan startedAt appliedPlan completedAt)).1
      (completed appliedPlan verified) := by
  unfold resumeProvisioningJob
  rw [hanswer]
  dsimp only
  unfold storeEnforcementJob
  dsimp only
  generalize hverification : enforcementVerification appliedPlan verified completedAt = verification
  generalize hjob : enforcementJob H call plan startedAt (completed appliedPlan verified)
    verification completedAt = job
  have hid : job.id = call.jobId H := by rw [← hjob]; rfl
  have hlogs := recordAll_logs H call.requestActor
    (buildControlledEnforcementJobAuditInputs plan app.actor job (completed appliedPlan verified))
    ((app.upsertProvisioningPlan
      (updatedPlan plan (completed appliedPlan verified) completedAt)).upsertProvisioningJob job)
  obtain ⟨events, hevents, hlogged⟩ := hlogs
  obtain ⟨ids, -, hrecords⟩ := storeProvisioningJob_spec H
    (app.upsertProvisioningPlan (updatedPlan plan (completed appliedPlan verified) completedAt))
    call job
    (buildControlledEnforcementJobAuditInputs plan app.actor job (completed appliedPlan verified)) hid
  refine ⟨⟨updatedPlan plan (completed appliedPlan verified) completedAt, ?_, rfl⟩, ?_, ?_⟩
  · refine (congrArg (fun records => records.plans.get? plan.id) hrecords).trans ?_
    exact OrderedMap.get?_set_self _ _ _
  · refine ⟨{ job with auditEventIds := ids }, ?_, ?_⟩
    · refine (congrArg (fun records => records.jobs.get? (call.jobId H)) hrecords).trans ?_
      exact OrderedMap.get?_set_self _ _ _
    · subst hjob
      refine ⟨rfl, rfl, ?_, rfl, ?_⟩
      · exact (List.map_map ..).trans rfl
      · subst hverification
        cases verified <;> simp [completed, enforcementJob, enforcementVerification]
  · refine ⟨events, hevents, ?_⟩
    subst hjob
    exact enforcementEvents_logged hlogged

/-- A verification that throws leaves the runtime as it is. -/
theorem unrecorded_thrown {e : RuntimeError} (hanswer : answers.verified = .error e) :
    app.resumeProvisioningJob H call answers (.verifying plan startedAt appliedPlan completedAt) =
      (app, .settled (.error e)) := by
  unfold resumeProvisioningJob
  rw [hanswer]

theorem ChangeRecorded.logs {before after : ProvisioningApp} {completed : Bool}
    (h : ChangeRecorded H call plan appliedPlan before after completed) :
    after.auditRecorder.events ≠ before.auditRecorder.events := by
  obtain ⟨events, hevents, -, -, hended⟩ := h.logged
  intro hsame
  obtain rfl := List.append_cancel_left ((hsame.symm.trans hevents).symm.trans
    (List.append_nil _).symm)
  obtain ⟨_, hmem, -⟩ := hended
  cases hmem

/-! ## A whole call -/

theorem beforeLastPart_applied (meanwhile : JobProgress → ProvisioningApp → ProvisioningApp)
    (happlying : (app.startProvisioningJob H regExp call).2 = .applying plan startedAt)
    (happlied : answers.applied = .ok appliedPlan) :
    ∃ completedAt, (beforeLastPart H regExp app call answers meanwhile).2 =
      .verifying plan startedAt appliedPlan completedAt := by
  unfold beforeLastPart
  generalize app.startProvisioningJob H regExp call = started at happlying ⊢
  obtain ⟨started, progress⟩ := started
  obtain rfl : progress = .applying plan startedAt := happlying
  refine ⟨(meanwhile (.applying plan startedAt) started).now, ?_⟩
  dsimp only
  unfold resumeProvisioningJob
  rw [happlied]

/-- A call whose verification throws ends as other requests left the runtime. -/
theorem thrown_unchanged (meanwhile : JobProgress → ProvisioningApp → ProvisioningApp)
    {e : RuntimeError}
    (happlying : (app.startProvisioningJob H regExp call).2 = .applying plan startedAt)
    (happlied : answers.applied = .ok appliedPlan) (hanswer : answers.verified = .error e) :
    createProvisioningJobAmid H regExp app call answers meanwhile =
      ((beforeLastPart H regExp app call answers meanwhile).1, .settled (.error e)) := by
  obtain ⟨completedAt, hverifying⟩ :=
    beforeLastPart_applied meanwhile happlying happlied
  unfold createProvisioningJobAmid
  dsimp only
  rw [hverifying, unrecorded_thrown hanswer]

/-- **When a change is recorded**: once the connector applied the plan of a call, whatever
other requests do meanwhile, the change is stored and logged exactly when the verification
answers. -/
theorem recorded_iff {meanwhile : JobProgress → ProvisioningApp → ProvisioningApp}
    (happlying : (app.startProvisioningJob H regExp call).2 = .applying plan startedAt)
    (happlied : answers.applied = .ok appliedPlan) :
    (∃ completed, ChangeRecorded H call plan appliedPlan
      (beforeLastPart H regExp app call answers meanwhile).1
      (createProvisioningJobAmid H regExp app call answers meanwhile).1 completed) ↔
    ∃ verified, answers.verified = .ok verified := by
  constructor
  · rintro ⟨completed, hrecorded⟩
    cases hanswer : answers.verified with
    | ok verified => exact ⟨verified, rfl⟩
    | error e =>
      have hlogs := hrecorded.logs
      rw [thrown_unchanged meanwhile happlying happlied hanswer] at hlogs
      exact absurd rfl hlogs
  · rintro ⟨verified, hanswer⟩
    obtain ⟨completedAt, hverifying⟩ :=
      beforeLastPart_applied meanwhile happlying happlied
    refine ⟨completed appliedPlan verified, ?_⟩
    unfold createProvisioningJobAmid
    dsimp only
    rw [hverifying]
    exact recorded_stored H call _ hanswer

/-- What the gate logs: nothing. -/
theorem auditRecorder_startProvisioningJob :
    (app.startProvisioningJob H regExp call).1.auditRecorder = app.auditRecorder := by
  have hchecked (app : ProvisioningApp) (connector : ConnectorAdapter)
      (approval : Option ProvisioningApproval) (control : Option EnforcementControl)
      (approverId : Option CanonicalId) :
      (app.assertControlledEnforcementAllowed H connector approval control
        approverId).1.auditRecorder = app.auditRecorder := by
    unfold assertControlledEnforcementAllowed
    split
    · rfl
    · rfl
    · split_ifs
      · rfl
      · rfl
      · rfl
      · split <;> rfl
  unfold startProvisioningJob
  split
  · rfl
  · split
    · rfl
    · split
      · rfl
      · dsimp only
        split
        · rfl
        · split
          · unfold startControlledEnforcementJob
            split
            · rfl
            · dsimp only
              split <;> exact hchecked ..
          · rfl

end

/-! ## The runtime with an approved plan -/

theorem approved_applying :
    (Mock.approvedRuntime.startProvisioningJob plainHost Mock.ticketRegExp
      (Mock.jobCall "user:approver" "key:job")).2 =
        .applying Mock.approvedPlan Mock.approvedRuntime.now :=
  Mock.startProvisioningJob_approved rfl rfl (.inl rfl) rfl Mock.getProvisioningPlan_approvedRuntime

/-- The connector applies the plan, and its readback throws. -/
def unreadable : JobAnswers :=
  { Mock.answers Mock.approvedPlan with verified := .error (.other "The readback timed out.") }

/-- **Counterexample**: the connector applied the plan and could not read it back. The call
throws, the plan is approved as before, there is no job and the log is empty. -/
theorem applied_unrecorded :
    (Mock.approvedRuntime.startProvisioningJob plainHost Mock.ticketRegExp
        (Mock.jobCall "user:approver" "key:job")).2 =
      .applying Mock.approvedPlan Mock.approvedRuntime.now ∧
    unreadable.applied = .ok (Mock.applyProvisioningChange Mock.approvedPlan) ∧
    ∃ ended, Mock.approvedRuntime.createProvisioningJob plainHost Mock.ticketRegExp
        (Mock.jobCall "user:approver" "key:job") unreadable =
          (ended, .settled (.error (.other "The readback timed out."))) ∧
      ended.getProvisioningPlan Mock.approvedPlan.id = some Mock.approvedPlan ∧
      Mock.approvedPlan.status = .approved ∧ ended.provisioningJobs.values = [] ∧
      ended.auditRecorder.events = [] ∧
      ¬ ∃ completed, ChangeRecorded plainHost (Mock.jobCall "user:approver" "key:job")
        Mock.approvedPlan (Mock.applyProvisioningChange Mock.approvedPlan) Mock.approvedRuntime ended
        completed := by
  have happlying := approved_applying
  have hrecords := records_startProvisioningJob plainHost Mock.ticketRegExp Mock.approvedRuntime
    (Mock.jobCall "user:approver" "key:job")
  have hlog : (Mock.approvedRuntime.startProvisioningJob plainHost Mock.ticketRegExp
    (Mock.jobCall "user:approver" "key:job")).1.auditRecorder = Mock.approvedRuntime.auditRecorder :=
    auditRecorder_startProvisioningJob
  have hended := thrown_unchanged (fun _ app => app) happlying
    (rfl : unreadable.applied = .ok (Mock.applyProvisioningChange Mock.approvedPlan)) rfl
  refine ⟨happlying, rfl, _, hended, ?_⟩
  unfold beforeLastPart
  generalize Mock.approvedRuntime.startProvisioningJob plainHost Mock.ticketRegExp
    (Mock.jobCall "user:approver" "key:job") = started at happlying hrecords hlog
  obtain ⟨started, progress⟩ := started
  obtain rfl : progress = .applying Mock.approvedPlan Mock.approvedRuntime.now := happlying
  refine ⟨?_, rfl, ?_, congrArg AuditRecorder.events hlog, ?_⟩
  · exact (congrArg (fun records => records.plans.get? Mock.approvedPlan.id) hrecords).trans
      Mock.getProvisioningPlan_approvedRuntime
  · exact (congrArg (fun records => records.jobs.values) hrecords).trans rfl
  · rintro ⟨completed, hrecorded⟩
    exact hrecorded.logs (congrArg AuditRecorder.events hlog)

/-- The mock connector verifies what it applied. -/
theorem recorded_iff_mock :
    ∃ completed, ChangeRecorded plainHost (Mock.jobCall "user:approver" "key:job")
      Mock.approvedPlan (Mock.applyProvisioningChange Mock.approvedPlan)
      (beforeLastPart plainHost Mock.ticketRegExp Mock.approvedRuntime
        (Mock.jobCall "user:approver" "key:job") (Mock.answers Mock.approvedPlan)
        fun _ app => app).1
      (createProvisioningJobAmid plainHost Mock.ticketRegExp Mock.approvedRuntime
        (Mock.jobCall "user:approver" "key:job") (Mock.answers Mock.approvedPlan)
        fun _ app => app).1 completed :=
  (recorded_iff approved_applying rfl).2 ⟨true, rfl⟩

end AccessKit.Bugs.UnrecordedChanges
