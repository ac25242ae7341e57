import AccessKit.L5Runtime.ProvisioningRuns

/-!
# Records that keep their keys

What later calls find under an idempotency key is the record that the first call made, as
long as no other record is stored over it (packages/core/src/store.ts:336-360). Plans are
stored under the id that the connector gives them, jobs under a hash of their plan and
key.

Results:
* `createProvisioningJob_ok`, `createProvisioningPlan_ok`: what a call is answered with is
  stored, and has what the call asked for.
* `PlanKept.run`, `JobKept.run`: in a run that stores nothing over a record with a key,
  the key stands for the record that was made for it.
-/
namespace AccessKit.L5
open AccessKit.Core AccessKit.L1 AccessKit.L2.Audit

theorem SamePlan.refl (plan : ProvisioningPlan) : SamePlan plan plan :=
  ⟨rfl, rfl, rfl, rfl, fun _ => rfl, rfl, rfl, rfl, rfl⟩

theorem SamePlan.trans {plan plan' plan'' : ProvisioningPlan} (h : SamePlan plan plan')
    (h' : SamePlan plan' plan'') : SamePlan plan plan'' where
  connectorId := h'.connectorId.trans h.connectorId
  subjectId := h'.subjectId.trans h.subjectId
  resourceId := h'.resourceId.trans h.resourceId
  action := h'.action.trans h.action
  revokes g := (h'.revokes g).trans (h.revokes g)
  mode := h'.mode.trans h.mode
  approval := h'.approval.trans h.approval
  control := h'.control.trans h.control
  readinessReportId := h'.readinessReportId.trans h.readinessReportId

namespace ProvisioningApp

section
variable (H : Host) (regExp : String → Option (String → Bool))

/-- A call made a plan, and no stored one had its key. -/
def MakesPlan (app : ProvisioningApp) (call : PlanCall) (decision : AuditEventInput)
    (planned : Except RuntimeError ProvisioningPlan) (plan : ProvisioningPlan) : Prop :=
  app.planOfKey call.idempotencyKey = none ∧
    (app.createProvisioningPlan H regExp call decision planned).2 = .ok plan

/-- A call made a job, and no stored one had its key. -/
def MakesJob (app : ProvisioningApp) (call : JobCall) (answers : JobAnswers)
    (job : ProvisioningJob) : Prop :=
  app.getProvisioningJobByIdempotencyKey call.idempotencyKey = none ∧
    (app.createProvisioningJob H regExp call answers).2 = .settled (.ok (some job))

/-- A step stores no plan over one that has a key, and no job over another. -/
def SparesKeys (app : ProvisioningApp) : RuntimeOperation → Prop
  | .createProvisioningPlan call decision (.ok plan) =>
    (∃ stored, MakesPlan H regExp app call decision (.ok plan) stored) →
      ∀ stored, app.getProvisioningPlan plan.id = some stored → stored.idempotencyKey = none
  | .createProvisioningJob call answers =>
    (∃ job, MakesJob H regExp app call answers job) → app.getProvisioningJob (call.jobId H) = none
  | _ => True

/-- No step of a run does. -/
def RunSparesKeys (app : ProvisioningApp) : List RuntimeOperation → Prop
  | [] => True
  | operation :: operations =>
    SparesKeys H regExp app operation ∧ RunSparesKeys (app.perform H regExp operation) operations

end

/-- The plan that was made for a key is stored, and nothing else has the key. -/
structure PlanKept (app : ProvisioningApp) (key : String) (plan : ProvisioningPlan) : Prop where
  stored : ∃ current, app.getProvisioningPlan plan.id = some current ∧
    current.idempotencyKey = some key ∧ SamePlan plan current
  only : ∀ id other, app.getProvisioningPlan id = some other → other.idempotencyKey = some key →
    id = plan.id

/-- The job that was made for a key is stored, and no other has the key. -/
structure JobKept (app : ProvisioningApp) (job : ProvisioningJob) : Prop where
  stored : app.getProvisioningJob job.id = some job
  only : ∀ id other, app.getProvisioningJob id = some other →
    other.idempotencyKey = job.idempotencyKey → id = job.id

section
variable {H : Host} {regExp : String → Option (String → Bool)} {app : ProvisioningApp}
  {key : String}

/-! ## Plans -/

theorem PlanKept.planOfKey {plan : ProvisioningPlan} (h : PlanKept app key plan) (hkey : key ≠ "") :
    ∃ current, app.planOfKey (some key) = some current ∧ current.id = plan.id ∧
      SamePlan plan current := by
  obtain ⟨current, hcurrent, hhas, hsame⟩ := h.stored
  have hid : current.id = plan.id := app.plan_id plan.id current hcurrent
  exact ⟨current, planOfKey_eq hkey (by rw [hid, hcurrent]) hhas (hid ▸ h.only), hid, hsame⟩

theorem planKept_made {call : PlanCall} {decision : AuditEventInput}
    {planned : Except RuntimeError ProvisioningPlan} {plan : ProvisioningPlan}
    (hcall : call.idempotencyKey = some key) (hkey : key ≠ "")
    (hmakes : MakesPlan H regExp app call decision planned plan) :
    PlanKept (app.perform H regExp (.createProvisioningPlan call decision planned)) key plan := by
  obtain ⟨hfresh, hresult⟩ := hmakes
  rcases createProvisioningPlan_cases H regExp app call decision planned with
    ⟨-, hanswered⟩ | ⟨stored, answer, hstored, -, -, rfl, hhas, -, hrecords⟩
  · rw [hanswered plan hresult] at hfresh
    cases hfresh
  · obtain rfl : stored = plan := Except.ok.inj (hstored.symm.trans hresult)
    have hget : ∀ id, (app.perform H regExp
        (.createProvisioningPlan call decision (.ok answer))).getProvisioningPlan id =
          (app.provisioningPlans.set stored.id stored).get? id :=
      fun id => congrArg (fun records : Records => records.plans.get? id) hrecords
    rw [hcall] at hfresh hhas
    refine ⟨⟨stored, by rw [hget, OrderedMap.get?_set_self], hhas, SamePlan.refl stored⟩,
      fun id other hother hsame => ?_⟩
    rw [hget, OrderedMap.get?_set] at hother
    split at hother
    · rename_i hid
      exact hid.symm
    · exact absurd hsame (planOfKey_none hkey hfresh hother)

/-- **A step** keeps the plan of a key. -/
theorem PlanKept.perform {plan : ProvisioningPlan} (h : PlanKept app key plan) (hkey : key ≠ "")
    {operation : RuntimeOperation} (hspares : SparesKeys H regExp app operation) :
    PlanKept (app.perform H regExp operation) key plan := by
  obtain ⟨current, hcurrent, hhas, hsame⟩ := h.stored
  have hplans := perform_plans H regExp app operation
  have hget : ∀ id, (app.perform H regExp operation).getProvisioningPlan id =
      (app.perform H regExp operation).provisioningPlans.get? id := fun _ => rfl
  generalize (app.perform H regExp operation).provisioningPlans = plans at hplans hget
  cases hplans with
  | same => exact ⟨⟨current, (hget _).trans hcurrent, hhas, hsame⟩,
      fun id other hother => h.only id other ((hget id).symm.trans hother)⟩
  | @created call decision answer stored hfresh hresult hstoredKey hprepared =>
    have hne : stored.id ≠ plan.id := by
      intro heq
      have hnone := hspares ⟨stored, hfresh, hresult⟩ current
        (by rw [← hprepared.id, heq, hcurrent])
      rw [hhas] at hnone
      cases hnone
    have hother : stored.idempotencyKey ≠ some key := by
      intro heq
      rw [← hstoredKey, heq] at hfresh
      exact planOfKey_none hkey hfresh hcurrent hhas
    refine ⟨⟨current, ?_, hhas, hsame⟩, fun id other hget' hhas' => ?_⟩
    · rw [hget, OrderedMap.get?_set_ne _ _ hne]
      exact hcurrent
    · rw [hget, OrderedMap.get?_set] at hget'
      split at hget'
      · cases hget'
        exact absurd hhas' hother
      · exact h.only id other hget' hhas'
  | @applied call answers applying appliedPlan startedAt completedAt verified happlying _ _ =>
    obtain ⟨-, hcall, -⟩ := startProvisioningJob_applying.1 happlying
    have hplan : app.getProvisioningPlan applying.id = some applying := by
      rw [app.plan_id _ _ hcall.stored, hcall.stored]
    have honly : ∀ id other, (app.provisioningPlans.set applying.id
        (updatedPlan applying (completed appliedPlan verified) completedAt)).get? id = some other →
        other.idempotencyKey = some key → id = plan.id := by
      intro id other hget' hhas'
      rw [OrderedMap.get?_set] at hget'
      split at hget'
      · rename_i heq
        cases hget'
        exact heq ▸ h.only applying.id applying hplan hhas'
      · exact h.only id other hget' hhas'
    refine ⟨?_, fun id other hget' => honly id other ((hget id).symm.trans hget')⟩
    by_cases hid : applying.id = plan.id
    · obtain rfl : current = applying := by
        rw [← hid, hplan, Option.some.injEq] at hcurrent
        exact hcurrent.symm
      refine ⟨updatedPlan current (completed appliedPlan verified) completedAt, ?_, hhas, ?_⟩
      · rw [hget, hid, OrderedMap.get?_set_self]
      · exact hsame.trans ⟨rfl, rfl, rfl, rfl, fun _ => rfl, rfl, rfl, rfl, rfl⟩
    · refine ⟨current, ?_, hhas, hsame⟩
      rw [hget, OrderedMap.get?_set_ne _ _ hid]
      exact hcurrent

/-- **A run** keeps the plan of a key. -/
theorem PlanKept.run {plan : ProvisioningPlan} {operations : List RuntimeOperation}
    (h : PlanKept app key plan) (hkey : key ≠ "")
    (hspares : RunSparesKeys H regExp app operations) :
    PlanKept (run H regExp app operations) key plan := by
  induction operations generalizing app with
  | nil => exact h
  | cons operation operations ih => exact ih (h.perform hkey hspares.1) hspares.2

/-! ## Jobs -/

theorem JobKept.found {job : ProvisioningJob} (h : JobKept app job) :
    app.getProvisioningJobByIdempotencyKey job.idempotencyKey = some job := by
  refine OrderedMap.find?_values h.stored (decide_eq_true rfl) fun id other hother hhas => ?_
  have hid := h.only id other hother (of_decide_eq_true hhas)
  rw [hid] at hother
  exact Option.some.inj (hother.symm.trans h.stored)

theorem getProvisioningJobByIdempotencyKey_none
    (h : app.getProvisioningJobByIdempotencyKey key = none) {id : CanonicalId}
    {job : ProvisioningJob} (hjob : app.getProvisioningJob id = some job) :
    job.idempotencyKey ≠ key :=
  fun heq => List.find?_eq_none.1 h job (OrderedMap.mem_values.2 ⟨id, hjob⟩) (decide_eq_true heq)

/-- A call that is answered before it waits is answered from the store. -/
theorem startProvisioningJob_answered {call : JobCall} {job : ProvisioningJob}
    (h : (app.startProvisioningJob H regExp call).2 = .settled (.ok (some job))) :
    app.getProvisioningJobByIdempotencyKey call.idempotencyKey = some job := by
  unfold startProvisioningJob at h
  split at h
  · rename_i existing hkey
    split at h
    · cases h
    · cases h
      exact hkey
  · split at h
    · cases h
    · split at h
      · cases h
      · dsimp only at h
        split at h
        · cases h
        · split at h
          · rcases startControlledEnforcementJob_waits H regExp app.tick call _ _ app.now with
              ⟨e, hrefused⟩ | happlying
            · rw [hrefused] at h
              cases h
            · rw [happlying] at h
              cases h
          · cases h

/-- **What a call stores** when it makes a job. -/
theorem MakesJob.stores {call : JobCall} {answers : JobAnswers} {job : ProvisioningJob}
    (h : MakesJob H regExp app call answers job) :
    (app.perform H regExp (.createProvisioningJob call answers)).provisioningJobs =
        app.provisioningJobs.set job.id job ∧
      job.id = call.jobId H ∧ job.idempotencyKey = call.idempotencyKey ∧
      job.planId = call.planId ∧ job.approverId = call.approverId := by
  obtain ⟨hfresh, hjob⟩ := h
  obtain ⟨result, hresult, hrun⟩ := createProvisioningJob_run H regExp app call answers
  obtain rfl : result = .ok (some job) := JobProgress.settled.inj (hresult.symm.trans hjob)
  have hstored : ∀ plan, (app.startProvisioningJob H regExp call).2.plan? = some plan →
      plan.id = call.planId := fun plan hplan =>
    app.plan_id _ _ (startProvisioningJob_plan hplan).2
  have hanswered : (app.startProvisioningJob H regExp call).2 ≠ .settled (.ok (some job)) := by
    intro hstart
    rw [startProvisioningJob_answered hstart] at hfresh
    cases hfresh
  show (app.createProvisioningJob H regExp call answers).1.records.jobs = _ ∧ _
  generalize (app.createProvisioningJob H regExp call answers).1.records = records at hrun ⊢
  generalize (app.startProvisioningJob H regExp call).2 = progress at hrun hstored hanswered
  cases hrun with
  | settled => exact absurd rfl hanswered
  | dryRunStored _ hjob =>
    subst hjob
    exact ⟨rfl, rfl, rfl, hstored _ rfl, rfl⟩
  | enforcementStored _ _ hjob =>
    subst hjob
    exact ⟨rfl, rfl, rfl, hstored _ rfl, rfl⟩

/-- What becomes of the jobs: they stay, or the job of a call is stored. -/
theorem perform_jobs (H : Host) (regExp : String → Option (String → Bool)) (app : ProvisioningApp)
    (operation : RuntimeOperation) :
    (app.perform H regExp operation).provisioningJobs = app.provisioningJobs ∨
    ∃ call answers job, operation = .createProvisioningJob call answers ∧
      MakesJob H regExp app call answers job := by
  cases operation with
  | createProvisioningPlan call decision planned =>
    rcases createProvisioningPlan_cases H regExp app call decision planned with
      ⟨h, -⟩ | ⟨stored, plan, -, -, -, -, -, -, h⟩
    · exact .inl (congrArg Records.jobs h)
    · exact .inl (congrArg Records.jobs h)
  | createProvisioningJob call answers =>
    obtain ⟨result, hresult, h⟩ := createProvisioningJob_run H regExp app call answers
    have hmakes : ∀ plan, (app.startProvisioningJob H regExp call).2.plan? = some plan →
        ∀ job, result = .ok (some job) → MakesJob H regExp app call answers job := fun plan hplan job hjob =>
      ⟨(startProvisioningJob_plan hplan).1, hjob ▸ hresult⟩
    show (app.createProvisioningJob H regExp call answers).1.records.jobs = _ ∨ _
    generalize (app.createProvisioningJob H regExp call answers).1.records = records at h ⊢
    generalize (app.startProvisioningJob H regExp call).2 = progress at h hmakes
    cases h with
    | dryRunStored _ _ => exact .inr ⟨call, answers, _, rfl, hmakes _ rfl _ rfl⟩
    | enforcementStored _ _ _ => exact .inr ⟨call, answers, _, rfl, hmakes _ rfl _ rfl⟩
    | _ => exact .inl rfl
  | recordEnforcementReadinessReport report =>
    obtain ⟨reports, h⟩ := recordEnforcementReadinessReport_records app report
    exact .inl (congrArg Records.jobs h)
  | recordAudit requestActor inputs =>
    exact .inl (congrArg Records.jobs (records_recordAll H requestActor inputs app))
  | now => exact .inl rfl

theorem jobKept_made {call : JobCall} {answers : JobAnswers} {job : ProvisioningJob}
    (hmakes : MakesJob H regExp app call answers job) :
    JobKept (app.perform H regExp (.createProvisioningJob call answers)) job := by
  obtain ⟨hjobs, -, hkey, -⟩ := hmakes.stores
  have hget : ∀ id, (app.perform H regExp (.createProvisioningJob call answers)).getProvisioningJob id =
      (app.provisioningJobs.set job.id job).get? id :=
    fun id => congrArg (fun jobs : OrderedMap _ _ => jobs.get? id) hjobs
  refine ⟨by rw [hget, OrderedMap.get?_set_self], fun id other hother hhas => ?_⟩
  rw [hget, OrderedMap.get?_set] at hother
  split at hother
  · rename_i hid
    exact hid.symm
  · exact absurd (hhas.trans hkey) (getProvisioningJobByIdempotencyKey_none hmakes.1 hother)

/-- **A step** keeps the job of a key. -/
theorem JobKept.perform {job : ProvisioningJob} (h : JobKept app job) {operation : RuntimeOperation}
    (hspares : SparesKeys H regExp app operation) : JobKept (app.perform H regExp operation) job := by
  rcases perform_jobs H regExp app operation with hsame | ⟨call, answers, made, rfl, hmakes⟩
  · constructor
    · show (app.perform H regExp operation).provisioningJobs.get? job.id = some job
      rw [hsame]
      exact h.stored
    · intro id other hother
      rw [getProvisioningJob, hsame] at hother
      exact h.only id other hother
  · obtain ⟨hjobs, hid, hkey, -⟩ := hmakes.stores
    have hget : ∀ id, (app.perform H regExp
        (.createProvisioningJob call answers)).getProvisioningJob id =
          (app.provisioningJobs.set made.id made).get? id :=
      fun id => congrArg (fun jobs : OrderedMap _ _ => jobs.get? id) hjobs
    have hne : made.id ≠ job.id := by
      intro heq
      have hnone := hspares ⟨made, hmakes⟩
      rw [← hid, heq, h.stored] at hnone
      cases hnone
    have hother : made.idempotencyKey ≠ job.idempotencyKey := by
      intro heq
      have hfresh := hmakes.1
      rw [← hkey, heq, h.found] at hfresh
      cases hfresh
    refine ⟨?_, fun id other hget' hhas => ?_⟩
    · rw [hget, OrderedMap.get?_set_ne _ _ hne]
      exact h.stored
    · rw [hget, OrderedMap.get?_set] at hget'
      split at hget'
      · cases hget'
        exact absurd hhas hother
      · exact h.only id other hget' hhas

/-- **A run** keeps the job of a key. -/
theorem JobKept.run {job : ProvisioningJob} {operations : List RuntimeOperation}
    (h : JobKept app job) (hspares : RunSparesKeys H regExp app operations) :
    JobKept (run H regExp app operations) job := by
  induction operations generalizing app with
  | nil => exact h
  | cons operation operations ih => exact ih (h.perform hspares.1) hspares.2

/-! ## What a call is answered with -/

/-- A provisioning job is there that has the plan, the key and the approver of a call. -/
structure JobOf (app : ProvisioningApp) (call : JobCall) (made : ProvisioningJob) : Prop where
  planId : made.planId = call.planId
  idempotencyKey : made.idempotencyKey = call.idempotencyKey
  approverId : made.approverId = call.approverId
  stored : app.getProvisioningJob made.id = some made

/-- A plan is there that has the connector and the key of a call. -/
structure PlanOf (app : ProvisioningApp) (call : PlanCall) (plan : ProvisioningPlan) : Prop where
  connectorId : plan.connectorId = call.connectorId
  idempotencyKey : plan.idempotencyKey = call.idempotencyKey
  stored : app.getProvisioningPlan plan.id = some plan

/-- A call that finds its key is over, and nothing happened. -/
theorem createProvisioningJob_replay {call : JobCall} {existing : ProvisioningJob}
    (hkey : app.getProvisioningJobByIdempotencyKey call.idempotencyKey = some existing)
    (answers : JobAnswers) :
    app.createProvisioningJob H regExp call answers = (app, .settled (
      if existing.planId ≠ call.planId ∨ existing.approverId ≠ call.approverId then
        .error (idempotencyKeyReused "job")
      else .ok (some existing))) := by
  unfold createProvisioningJob startProvisioningJob
  rw [hkey]
  rfl

/-- **The job that a call is answered with**, whether it was made or found. -/
theorem createProvisioningJob_ok {call : JobCall} {answers : JobAnswers} {job : ProvisioningJob}
    (h : (app.createProvisioningJob H regExp call answers).2 = .settled (.ok (some job))) :
    JobOf (app.createProvisioningJob H regExp call answers).1 call job := by
  cases hkey : app.getProvisioningJobByIdempotencyKey call.idempotencyKey with
  | none =>
    have hmakes : MakesJob H regExp app call answers job := ⟨hkey, h⟩
    obtain ⟨hjobs, -, hidempotencyKey, hplanId, happroverId⟩ := hmakes.stores
    refine ⟨hplanId, hidempotencyKey, happroverId, ?_⟩
    exact (congrArg (fun jobs : OrderedMap _ _ => jobs.get? job.id) hjobs).trans
      (OrderedMap.get?_set_self _ _ _)
  | some existing =>
    rw [createProvisioningJob_replay hkey] at h ⊢
    split at h
    · cases h
    · next hsame =>
      cases h
      rw [not_or, not_not, not_not] at hsame
      have hfound : decide (job.idempotencyKey = call.idempotencyKey) = true := by
        simpa using List.find?_some hkey
      exact ⟨hsame.1, of_decide_eq_true hfound, hsame.2,
        (OrderedMap.mem_values_key app.job_id).1 (List.mem_of_find?_eq_some hkey)⟩

/-- A plan that replays take for the request has its connector. -/
theorem connectorId_of_matches {call : PlanCall} {plan : ProvisioningPlan}
    (h : call.matchesExisting plan = true) : plan.connectorId = call.connectorId := by
  unfold PlanCall.matchesExisting planMatchesDecisionRequest planMatchesRevocationRequest at h
  split at h <;> simp only [Bool.and_eq_true, decide_eq_true_eq] at h
  · exact h.1.1.1.1
  · exact h.1.1

/-- **The plan that a call is answered with**, whether it was made or found. -/
theorem createProvisioningPlan_ok {call : PlanCall} {decision : AuditEventInput}
    {planned : Except RuntimeError ProvisioningPlan} {plan : ProvisioningPlan}
    (h : (app.createProvisioningPlan H regExp call decision planned).2 = .ok plan) :
    PlanOf (app.createProvisioningPlan H regExp call decision planned).1 call plan := by
  cases hconnector : app.connectors.get? call.connectorId with
  | none =>
    unfold createProvisioningPlan requestProvisioningPlan at h
    rw [hconnector] at h
    cases h
  | some connector =>
    cases hkey : app.planOfKey call.idempotencyKey with
    | some existing =>
      rw [createProvisioningPlan_replay hconnector hkey] at h ⊢
      dsimp only at h
      split at h
      · next hmatches =>
        cases h
        obtain ⟨key, hcall, hfind⟩ := Option.bind_eq_some_iff.1 hkey
        have hfound : decide (plan.idempotencyKey = some key) = true := by
          unfold getProvisioningPlanByIdempotencyKey at hfind
          simpa using List.find?_some hfind
        exact ⟨connectorId_of_matches hmatches,
          (of_decide_eq_true hfound).trans (truthy_eq_some.1 hcall).1.symm,
          (OrderedMap.mem_values_key app.plan_id).1 (List.mem_of_find?_eq_some hfind)⟩
      · cases h
    | none =>
      rcases createProvisioningPlan_cases H regExp app call decision planned with
        ⟨-, hfound⟩ | ⟨stored, made, hresult, -, -, -, hidempotencyKey, hprepared, hrecords⟩
      · rw [hfound plan h] at hkey
        cases hkey
      · obtain rfl : stored = plan := Except.ok.inj (hresult.symm.trans h)
        refine ⟨hprepared.connectorId, hidempotencyKey, ?_⟩
        exact (congrArg (fun records : Records => records.plans.get? stored.id) hrecords).trans
          (OrderedMap.get?_set_self _ _ _)

variable (H regExp) in
theorem PlanOf.createProvisioningJob {call : PlanCall} {plan : ProvisioningPlan}
    (h : PlanOf app call plan) (jobCall : JobCall) (answers : JobAnswers) :
    ∃ current, current.id = plan.id ∧ current.mode = plan.mode ∧
      PlanOf (app.createProvisioningJob H regExp jobCall answers).1 call current := by
  have hplans := perform_plans H regExp app (.createProvisioningJob jobCall answers)
  have hget : ∀ id, (app.createProvisioningJob H regExp jobCall answers).1.getProvisioningPlan id =
      (app.perform H regExp (.createProvisioningJob jobCall answers)).provisioningPlans.get? id :=
    fun _ => rfl
  generalize (app.perform H regExp (.createProvisioningJob jobCall answers)).provisioningPlans =
    plans at hplans hget
  cases hplans with
  | same => exact ⟨plan, rfl, rfl, h.connectorId, h.idempotencyKey, (hget _).trans h.stored⟩
  | @applied _ _ applying appliedPlan startedAt completedAt verified happlying =>
    obtain ⟨-, hcall, -⟩ := startProvisioningJob_applying.1 happlying
    by_cases hid : applying.id = plan.id
    · have happlyingStored : app.getProvisioningPlan applying.id = some applying := by
        rw [app.plan_id _ _ hcall.stored, hcall.stored]
      obtain rfl : applying = plan :=
        Option.some.inj (happlyingStored.symm.trans (hid ▸ h.stored))
      exact ⟨updatedPlan applying (completed appliedPlan verified) completedAt, rfl, rfl,
        h.connectorId, h.idempotencyKey, (hget _).trans (OrderedMap.get?_set_self _ _ _)⟩
    · exact ⟨plan, rfl, rfl, h.connectorId, h.idempotencyKey,
        ((hget _).trans (OrderedMap.get?_set_ne _ _ hid)).trans h.stored⟩

end

end ProvisioningApp

end AccessKit.L5
