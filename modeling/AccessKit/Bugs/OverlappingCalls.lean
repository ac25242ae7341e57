import AccessKit.L5Runtime.Interleaving
import AccessKit.L5Runtime.MockConnector

/-!
# Calls that overlap

Status: open.

A call looks for a record of its idempotency key before it waits for the connector, and
stores its own afterwards (packages/api/src/runtime-jobs.ts:113-136, 156-192, 291-302).
Two calls with one key that overlap both find none: both have the connector apply the
plan, or both store a plan.

Counterexample (`overlapping_apply`): two calls for one job, the second of which starts
while the first one waits for the connector.

Exact condition (`oneRecord_alone`): when no call starts while another one waits, the
connector does not throw when it verifies a plan that it applied, and the plan that it
answers matches the request, there is one record and one application, and whoever gets a
record gets this one.
-/
namespace AccessKit.Bugs.OverlappingCalls
open AccessKit.Core AccessKit.L1 AccessKit.L2.Audit AccessKit.L2.Fixtures AccessKit.L5
  AccessKit.L5.ProvisioningApp

variable {S C P A : Type*}

section
variable (H : Host) (regExp : String → Option (String → Bool))

/-! ## Calls for one job -/

/-- How often the connector applied a plan, and the jobs that calls stored. -/
structure JobLog where
  applications : Nat := 0
  stored : List ProvisioningJob := []

/-- The connector applied the plan. -/
def applies (answers : JobAnswers) : JobProgress → Nat
  | .applying _ _ => if answers.applied.isOk then 1 else 0
  | _ => 0

/-- The job that a call is answered with, if it is. -/
def answered : JobProgress → Option ProvisioningJob
  | .settled (.ok job) => job
  | _ => none

/-- The same call, of any number of callers: each has an actor of its own. -/
def jobCalls (call : JobCall) :
    Calls (ProvisioningApp × JobLog) (Option CanonicalId) JobProgress JobAnswers where
  start requestActor s :=
    let (app, progress) := s.1.startProvisioningJob H regExp { call with requestActor }
    ((app, s.2), progress)
  resume requestActor answers progress s :=
    let (app, progress') := s.1.resumeProvisioningJob H { call with requestActor } answers progress
    ((app, { applications := s.2.applications + applies answers progress
             stored := s.2.stored ++ (answered progress').toList }), progress')
  ended := JobProgress.isSettled

/-- **The law** of calls for one job, in a state. -/
structure OneJob (call : JobCall) (s : ProvisioningApp × JobLog)
    (slots : List (Option CanonicalId × Option JobProgress)) : Prop where
  applications : s.2.applications ≤ 1
  stored : s.2.stored.length ≤ 1
  same : ∀ requestActor progress requestActor' progress' job job',
    (requestActor, some progress) ∈ slots → (requestActor', some progress') ∈ slots →
      answered progress = some job → answered progress' = some job' → job = job'
  stays : ∀ requestActor progress job, (requestActor, some progress) ∈ slots →
    answered progress = some job → ∀ job' ∈ s.2.stored, job = job'
  later : ∀ job ∈ s.2.stored, ∀ requestActor,
    (s.1.startProvisioningJob H regExp { call with requestActor }).2 = .settled (.ok (some job))

/-! ## Calls for one plan -/

/-- The plan that a call is answered with, if it is. -/
def answeredPlan : PlanProgress → Option ProvisioningPlan
  | .settled (.ok plan) => some plan
  | _ => none

/-- The same call, of any number of callers, with the plans that calls stored. The event
of the engine's decision comes with each. -/
def planCalls (call : PlanCall) :
    Calls (ProvisioningApp × List ProvisioningPlan) (Option CanonicalId × AuditEventInput)
      PlanProgress (Except RuntimeError ProvisioningPlan) where
  start caller s :=
    let (app, progress) :=
      s.1.requestProvisioningPlan H { call with requestActor := caller.1 } caller.2
    ((app, s.2), progress)
  resume caller planned progress s :=
    let (app, progress') :=
      s.1.resumeProvisioningPlan H regExp { call with requestActor := caller.1 } planned progress
    ((app, s.2 ++ (answeredPlan progress').toList), progress')
  ended := PlanProgress.isSettled

/-- **The law** of calls for one plan, in a state. -/
structure OnePlan (call : PlanCall) (s : ProvisioningApp × List ProvisioningPlan)
    (slots : List ((Option CanonicalId × AuditEventInput) × Option PlanProgress)) : Prop where
  stored : s.2.length ≤ 1
  same : ∀ caller progress caller' progress' plan plan',
    (caller, some progress) ∈ slots → (caller', some progress') ∈ slots →
      answeredPlan progress = some plan → answeredPlan progress' = some plan' → plan = plan'
  stays : ∀ caller progress plan, (caller, some progress) ∈ slots →
    answeredPlan progress = some plan → ∀ plan' ∈ s.2, plan = plan'
  later : ∀ plan ∈ s.2, ∀ requestActor decision,
    (s.1.requestProvisioningPlan H { call with requestActor } decision).2 = .settled (.ok plan)

/-- The connector does not throw when it verifies a plan that it applied. -/
def Verifies (progress : JobProgress) (answers : JobAnswers) : Prop :=
  ∀ plan startedAt appliedPlan completedAt,
    progress = .verifying plan startedAt appliedPlan completedAt →
      ∃ verified, answers.verified = .ok verified

/-- The plan that the connector answers matches the request. -/
def Fits (call : PlanCall) (_ : PlanProgress) (planned : Except RuntimeError ProvisioningPlan) :
    Prop :=
  ∀ plan, planned = .ok plan → call.matchesExisting (call.asPrepared plan) = true

end

section
variable {H : Host} {regExp : String → Option (String → Bool)} {app : ProvisioningApp}
  {call : JobCall}

/-! ## One job -/

variable (H regExp call) in
theorem startProvisioningJob_replay {existing : ProvisioningJob}
    (hkey : app.getProvisioningJobByIdempotencyKey call.idempotencyKey = some existing) :
    (app.startProvisioningJob H regExp call).2 = .settled (
      if existing.planId ≠ call.planId ∨ existing.approverId ≠ call.approverId then
        .error (idempotencyKeyReused "job")
      else .ok (some existing)) := by
  unfold startProvisioningJob
  rw [hkey]

theorem answered_start {job : ProvisioningJob}
    (h : answered (app.startProvisioningJob H regExp call).2 = some job) :
    app.getProvisioningJobByIdempotencyKey call.idempotencyKey = some job := by
  cases hkey : app.getProvisioningJobByIdempotencyKey call.idempotencyKey with
  | some existing =>
    rw [startProvisioningJob_replay H regExp call hkey] at h
    split at h
    · cases h
    · exact h
  | none =>
    unfold startProvisioningJob at h
    rw [hkey] at h
    dsimp only at h
    split at h
    · cases h
    · split at h
      · cases h
      · split at h
        · cases h
        · split at h
          · rcases startControlledEnforcementJob_waits H regExp app.tick call _ _ app.now with
              ⟨e, hrefused⟩ | happlying
            · rw [hrefused] at h
              cases h
            · rw [happlying] at h
              cases h
          · cases h

theorem getProvisioningJobByIdempotencyKey_set {app' : ProvisioningApp} {id : CanonicalId}
    {job : ProvisioningJob} (h : app'.provisioningJobs = app.provisioningJobs.set id job)
    (hnone : app.getProvisioningJobByIdempotencyKey job.idempotencyKey = none) :
    app'.getProvisioningJobByIdempotencyKey job.idempotencyKey = some job := by
  unfold getProvisioningJobByIdempotencyKey at hnone ⊢
  rw [h]
  have honly : ∀ other ∈ (app.provisioningJobs.set id job).values,
      other.idempotencyKey = job.idempotencyKey → other = job := by
    intro other hmem hkey
    obtain ⟨id', hid'⟩ := OrderedMap.mem_values.1 hmem
    rw [OrderedMap.get?_set] at hid'
    split at hid'
    · exact (Option.some.inj hid').symm
    · exact absurd (decide_eq_true hkey)
        (List.find?_eq_none.1 hnone other (OrderedMap.mem_values.2 ⟨id', hid'⟩))
  cases hfind : (app.provisioningJobs.set id job).values.find?
      (fun other => other.idempotencyKey = job.idempotencyKey) with
  | none =>
    exact absurd (decide_eq_true rfl) (List.find?_eq_none.1 hfind job
      (OrderedMap.mem_values.2 ⟨id, OrderedMap.get?_set_self _ _ _⟩))
  | some found =>
    have hkey : decide (found.idempotencyKey = job.idempotencyKey) = true := by
      simpa using List.find?_some hfind
    rw [honly found (List.mem_of_find?_eq_some hfind) (of_decide_eq_true hkey)]

/-- What is known when no call waits: nothing happened, or one job is stored. -/
def QuietJob (call : JobCall) (s : ProvisioningApp × JobLog) : Prop :=
  (s.2.stored = [] ∧ s.2.applications = 0) ∨
  ∃ job, s.2.stored = [job] ∧ s.2.applications ≤ 1 ∧ job.planId = call.planId ∧
    job.approverId = call.approverId ∧
    s.1.getProvisioningJobByIdempotencyKey call.idempotencyKey = some job

/-- What is known when a call waits. -/
def WaitingJob (call : JobCall) (s : ProvisioningApp × JobLog) (_ : Option CanonicalId)
    (progress : JobProgress) : Prop :=
  s.2.stored = [] ∧ s.1.getProvisioningJobByIdempotencyKey call.idempotencyKey = none ∧
  (∀ plan, progress.plan? = some plan → plan.id = call.planId) ∧
  match progress with
  | .verifying _ _ _ _ => s.2.applications ≤ 1
  | _ => s.2.applications = 0

/-- What is known of a call that is over. -/
def AnsweredJob (call : JobCall) (s : ProvisioningApp × JobLog) (_ : Option CanonicalId)
    (progress : JobProgress) : Prop :=
  ∀ job, answered progress = some job →
    s.1.getProvisioningJobByIdempotencyKey call.idempotencyKey = some job

theorem start_establishes {s : ProvisioningApp × JobLog} (h : QuietJob call s)
    (requestActor : Option CanonicalId) :
    Calls.Establishes (jobCalls H regExp call) (QuietJob call) (WaitingJob call) (AnsweredJob call) s
      requestActor ((jobCalls H regExp call).start requestActor s).1
      ((jobCalls H regExp call).start requestActor s).2 := by
  obtain ⟨app, log⟩ := s
  have hjobs := congrArg Records.jobs
    (records_startProvisioningJob H regExp app { call with requestActor })
  have hsame := getProvisioningJobByIdempotencyKey_congr hjobs call.idempotencyKey
  refine ⟨fun _ progress hold job hjob => hsame.trans (hold job hjob), fun _ => ⟨?_, ?_⟩,
    fun hwaits => ?_⟩
  · rcases h with h | ⟨job, hstored, happlications, hplan, happrover, hkey⟩
    · exact .inl h
    · exact .inr ⟨job, hstored, happlications, hplan, happrover, hsame.trans hkey⟩
  · exact fun job hjob => hsame.trans (answered_start hjob)
  · obtain ⟨plan, hplan⟩ : ∃ plan, (app.startProvisioningJob H regExp
        { call with requestActor }).2.plan? = some plan := by
      cases hstart : (app.startProvisioningJob H regExp { call with requestActor }).2 with
      | settled result =>
        have hover : JobProgress.isSettled
            (app.startProvisioningJob H regExp { call with requestActor }).2 = false := hwaits
        rw [hstart] at hover
        cases hover
      | _ => exact ⟨_, rfl⟩
    obtain ⟨hfresh, hstoredPlan⟩ := startProvisioningJob_plan hplan
    rcases h with ⟨hstored, happlications⟩ | ⟨job, _, _, _, _, hkey⟩
    · refine ⟨hstored, hsame.trans hfresh, fun plan' hplan' => ?_, ?_⟩
      · obtain rfl := Option.some.inj (hplan.symm.trans hplan')
        exact app.plan_id _ _ hstoredPlan
      · split
        · exact le_of_eq_of_le happlications (by omega)
        · exact happlications
    · rw [hfresh] at hkey
      cases hkey

theorem resume_establishes {s : ProvisioningApp × JobLog} {requestActor : Option CanonicalId}
    {progress : JobProgress} {answers : JobAnswers} (h : WaitingJob call s requestActor progress)
    (hwaits : progress.isSettled = false) (hverifies : Verifies progress answers) :
    Calls.Establishes (jobCalls H regExp call) (QuietJob call) (WaitingJob call) (AnsweredJob call) s
      requestActor ((jobCalls H regExp call).resume requestActor answers progress s).1
      ((jobCalls H regExp call).resume requestActor answers progress s).2 := by
  obtain ⟨app, log⟩ := s
  obtain ⟨hstored, hfresh, hplan, happlications⟩ := h
  have hstep := resumeProvisioningJob_step H app { call with requestActor } answers progress
  unfold jobCalls
  dsimp only
  generalize app.resumeProvisioningJob H { call with requestActor } answers progress = resumed at hstep ⊢
  obtain ⟨app', progress'⟩ := resumed
  dsimp only at hstep hstored hfresh happlications ⊢
  generalize hrecords : app'.records = records at hstep
  have hjobs : app'.provisioningJobs = records.jobs := congrArg Records.jobs hrecords
  refine ⟨fun _ progress hold job hjob => ?_, fun hover => ?_, fun hwaits' => ?_⟩
  · have hsome := hold job hjob
    rw [hfresh] at hsome
    cases hsome
  · cases hstep with
    | dryRunThrew _ =>
      exact ⟨.inl ⟨by simp [hstored, answered], by simp [happlications, applies]⟩,
        fun _ h => by cases h⟩
    | dryRunVerified _ => cases hover
    | dryRunStored hjob =>
      subst hjob
      have hkey := getProvisioningJobByIdempotencyKey_set hjobs hfresh
      refine ⟨.inr ⟨_, by simp only [hstored, answered]; rfl, ?_, ?_, ?_, hkey⟩, fun _ h => by cases h; exact hkey⟩
      · simp [happlications, applies]
      · exact hplan _ rfl
      · rfl
    | applyThrew hthrew =>
      refine ⟨.inl ⟨by simp [hstored, answered], ?_⟩, fun _ h => by cases h⟩
      simp [happlications, applies, hthrew, Except.isOk, Except.toBool]
    | applied _ => cases hover
    | verifyThrew hthrew =>
      obtain ⟨verified, hverified⟩ := hverifies _ _ _ _ rfl
      rw [hthrew] at hverified
      cases hverified
    | enforcementStored _ hjob =>
      subst hjob
      have hkey := getProvisioningJobByIdempotencyKey_set hjobs hfresh
      refine ⟨.inr ⟨_, by simp only [hstored, answered]; rfl, happlications, ?_, ?_, hkey⟩,
        fun _ h => by cases h; exact hkey⟩
      · exact hplan _ rfl
      · rfl
    | settled => cases hwaits
  · cases hstep with
    | dryRunVerified _ =>
      exact ⟨by simp [hstored, answered],
        (getProvisioningJobByIdempotencyKey_congr hjobs _).trans hfresh, hplan,
        by simp [happlications, applies]⟩
    | applied happlied =>
      refine ⟨by simp [hstored, answered],
        (getProvisioningJobByIdempotencyKey_congr hjobs _).trans hfresh, hplan, ?_⟩
      simp [happlications, applies, happlied, Except.isOk, Except.toBool]
    | settled => cases hwaits
    | _ => cases hwaits'

/-- **One job**, when no call starts while another one waits. -/
theorem oneJob_alone {callers : List (Option CanonicalId)} {s : ProvisioningApp × JobLog}
    {slots : List (Option CanonicalId × Option JobProgress)}
    (h : (jobCalls H regExp call).Reached (fun slots => ¬ (jobCalls H regExp call).Waits slots)
      Verifies (app, {}) callers s slots) : OneJob H regExp call s slots := by
  have halone := Calls.alone_invariant (I := QuietJob call) (J := WaitingJob call)
    (K := AnsweredJob call) (fun requestActor _ s hs => start_establishes hs requestActor)
    (fun requestActor _ answers progress s hwaits hverifies hs =>
      resume_establishes hs hwaits hverifies) (.inl ⟨rfl, rfl⟩) h
  have hanswered : ∀ requestActor progress job, (requestActor, some progress) ∈ slots →
      answered progress = some job →
      s.1.getProvisioningJobByIdempotencyKey call.idempotencyKey = some job := by
    intro requestActor progress job hmem hjob
    refine halone.ended _ hmem progress rfl ?_ job hjob
    cases progress with
    | settled result => rfl
    | _ => cases hjob
  have hstored : (s.2.stored = [] ∧ s.2.applications ≤ 1) ∨ ∃ job, s.2.stored = [job] ∧
      s.2.applications ≤ 1 ∧ job.planId = call.planId ∧ job.approverId = call.approverId ∧
      s.1.getProvisioningJobByIdempotencyKey call.idempotencyKey = some job := by
    rcases halone.state with ⟨-, ⟨hnone, happlications⟩ | hone⟩ |
      ⟨_, _, progress, _, _, _, _, _, hnone, _, _, happlications⟩
    · exact .inl ⟨hnone, by omega⟩
    · exact .inr hone
    · refine .inl ⟨hnone, ?_⟩
      split at happlications <;> omega
  constructor
  · rcases hstored with ⟨_, h⟩ | ⟨_, _, h, _⟩ <;> exact h
  · rcases hstored with ⟨h, _⟩ | ⟨job, h, _⟩ <;> simp [h]
  · intro requestActor progress requestActor' progress' job job' hmem hmem' hjob hjob'
    exact Option.some.inj ((hanswered _ _ _ hmem hjob).symm.trans (hanswered _ _ _ hmem' hjob'))
  · intro requestActor progress job hmem hjob job' hjob'
    rcases hstored with ⟨hnone, _⟩ | ⟨one, hone, _, _, _, hkey⟩
    · rw [hnone] at hjob'
      cases hjob'
    · rw [hone, List.mem_singleton] at hjob'
      rw [hjob']
      exact Option.some.inj ((hanswered _ _ _ hmem hjob).symm.trans hkey)
  · intro job hjob requestActor
    rcases hstored with ⟨hnone, _⟩ | ⟨one, hone, _, hplan, happrover, hkey⟩
    · rw [hnone] at hjob
      cases hjob
    · rw [hone, List.mem_singleton] at hjob
      rw [hjob, startProvisioningJob_replay H regExp { call with requestActor } hkey, if_neg]
      simp [hplan, happrover]

end

section
variable {H : Host} {regExp : String → Option (String → Bool)} {app : ProvisioningApp}
  {call : PlanCall}

/-! ## One plan -/

/-- What is known when no call waits: nothing is stored, or one plan, which matches. -/
def QuietPlan (call : PlanCall) (s : ProvisioningApp × List ProvisioningPlan) : Prop :=
  s.2 = [] ∨
  ∃ plan, s.2 = [plan] ∧ s.1.planOfKey call.idempotencyKey = some plan ∧
    call.matchesExisting plan = true ∧
    ∃ connector, s.1.connectors.get? call.connectorId = some connector

/-- What is known when a call waits. -/
def WaitingPlan (call : PlanCall) (s : ProvisioningApp × List ProvisioningPlan)
    (_ : Option CanonicalId × AuditEventInput) (_ : PlanProgress) : Prop :=
  s.2 = [] ∧ s.1.planOfKey call.idempotencyKey = none ∧
    ∃ connector, s.1.connectors.get? call.connectorId = some connector

/-- What is known of a call that is over. -/
def AnsweredPlan (call : PlanCall) (s : ProvisioningApp × List ProvisioningPlan)
    (_ : Option CanonicalId × AuditEventInput) (progress : PlanProgress) : Prop :=
  ∀ plan, answeredPlan progress = some plan → s.1.planOfKey call.idempotencyKey = some plan

theorem planOfKey_congr {app' : ProvisioningApp} (h : app'.provisioningPlans = app.provisioningPlans)
    (idempotencyKey : Option String) : app'.planOfKey idempotencyKey = app.planOfKey idempotencyKey := by
  unfold planOfKey getProvisioningPlanByIdempotencyKey
  rw [h]

theorem planOfKey_set {app' : ProvisioningApp} {key : String} {plan : ProvisioningPlan}
    (h : app'.provisioningPlans = app.provisioningPlans.set plan.id plan) (hkey : key ≠ "")
    (hhas : plan.idempotencyKey = some key) (hnone : app.planOfKey (some key) = none) :
    app'.planOfKey (some key) = some plan := by
  have hget : ∀ id, app'.getProvisioningPlan id =
      (app.provisioningPlans.set plan.id plan).get? id := fun id => by rw [getProvisioningPlan, h]
  refine planOfKey_eq hkey (by rw [hget, OrderedMap.get?_set_self]) hhas fun id other hother hsame => ?_
  rw [hget, OrderedMap.get?_set] at hother
  split at hother
  · rename_i hid
    exact hid.symm
  · exact absurd hsame (planOfKey_none hkey hnone hother)

theorem requestProvisioningPlan_establishes {s : ProvisioningApp × List ProvisioningPlan}
    (h : QuietPlan call s) (caller : Option CanonicalId × AuditEventInput) :
    Calls.Establishes (planCalls H regExp call) (QuietPlan call) (WaitingPlan call)
      (AnsweredPlan call) s caller ((planCalls H regExp call).start caller s).1
      ((planCalls H regExp call).start caller s).2 := by
  obtain ⟨app, stored⟩ := s
  obtain ⟨requestActor, decision⟩ := caller
  have hrecords := records_requestProvisioningPlan H app { call with requestActor } decision
  have hsame := planOfKey_congr (congrArg Records.plans hrecords) call.idempotencyKey
  have hconnectors : (app.requestProvisioningPlan H { call with requestActor } decision).1.connectors =
      app.connectors := congrArg Records.connectors hrecords
  refine ⟨fun _ _ hold plan hplan => hsame.trans (hold plan hplan), fun _ => ⟨?_, ?_⟩,
    fun hwaits => ?_⟩
  · rcases h with h | ⟨plan, hstored, hkey, hmatches, hconnector⟩
    · exact .inl h
    · exact .inr ⟨plan, hstored, hsame.trans hkey, hmatches, by
        show ∃ connector, (app.requestProvisioningPlan H _ decision).1.connectors.get? _ = _
        rw [hconnectors]
        exact hconnector⟩
  · intro plan hplan
    refine hsame.trans ?_
    cases hprogress : (app.requestProvisioningPlan H { call with requestActor } decision).2 with
    | planning connector =>
      have hplan : answeredPlan (app.requestProvisioningPlan H { call with requestActor } decision).2 =
        some plan := hplan
      rw [hprogress] at hplan
      cases hplan
    | settled result =>
      have hplan : answeredPlan (app.requestProvisioningPlan H { call with requestActor } decision).2 =
        some plan := hplan
      rw [hprogress] at hplan
      obtain ⟨-, ⟨-, rfl⟩ | ⟨existing, hkey, rfl⟩⟩ := requestProvisioningPlan_settled hprogress
      · cases hplan
      · split at hplan
        · cases hplan
          exact hkey
        · cases hplan
  · cases hprogress : (app.requestProvisioningPlan H { call with requestActor } decision).2 with
    | settled result =>
      have hover : (app.requestProvisioningPlan H { call with requestActor } decision).2.isSettled =
        false := hwaits
      rw [hprogress] at hover
      cases hover
    | planning connector =>
      obtain ⟨hconnector, hfresh⟩ := requestProvisioningPlan_planning hprogress
      rcases h with hnone | ⟨plan, _, hkey, _⟩
      · refine ⟨hnone, hsame.trans hfresh, ?_⟩
        show ∃ connector, (app.requestProvisioningPlan H _ decision).1.connectors.get? _ = _
        rw [hconnectors]
        exact ⟨connector, hconnector⟩
      · exact absurd (hkey.symm.trans hfresh) (fun h => by cases h)

theorem storeProvisioningPlan_establishes {s : ProvisioningApp × List ProvisioningPlan}
    {caller : Option CanonicalId × AuditEventInput} {progress : PlanProgress}
    {planned : Except RuntimeError ProvisioningPlan} (h : WaitingPlan call s caller progress)
    (hkey : call.idempotencyKey ≠ none) (hempty : call.idempotencyKey ≠ some "")
    (hwaits : progress.isSettled = false) (hfits : Fits call progress planned) :
    Calls.Establishes (planCalls H regExp call) (QuietPlan call) (WaitingPlan call)
      (AnsweredPlan call) s caller ((planCalls H regExp call).resume caller planned progress s).1
      ((planCalls H regExp call).resume caller planned progress s).2 := by
  obtain ⟨app, log⟩ := s
  obtain ⟨hstored, hfresh, hconnector⟩ := h
  dsimp only at hstored hfresh hconnector
  cases progress with
  | settled result => cases hwaits
  | planning connector =>
    have hkeeps : ∀ (s' : ProvisioningApp × List ProvisioningPlan) caller progress,
        AnsweredPlan call (app, log) caller progress → AnsweredPlan call s' caller progress := by
      intro s' caller progress hold plan hplan
      have hsome := hold plan hplan
      rw [hfresh] at hsome
      cases hsome
    unfold planCalls resumeProvisioningPlan
    dsimp only
    cases hresult : (app.storeProvisioningPlan H regExp { call with requestActor := caller.1 }
        connector planned).2 with
    | error e =>
      refine ⟨fun _ _ => hkeeps _ _ _, fun _ => ⟨.inl ?_, fun _ h => by cases h⟩, fun h => by cases h⟩
      simp [hstored, answeredPlan]
    | ok plan =>
      obtain ⟨hrecords, answer, hplanned, hhas, hprepared⟩ := storeProvisioningPlan_ok hresult
      obtain ⟨key, hsome⟩ := Option.ne_none_iff_exists'.1 hkey
      rw [hsome] at hempty hfresh
      have hplans := congrArg Records.plans hrecords
      have hset := planOfKey_set hplans (fun h => hempty (by rw [h])) (hhas.trans hsome) hfresh
      rw [← hsome] at hset
      refine ⟨fun _ _ => hkeeps _ _ _, fun _ => ⟨.inr ⟨plan, ?_, ?_, ?_, ?_⟩, fun _ h => ?_⟩,
        fun h => by cases h⟩
      · simp [hstored, answeredPlan]
      · exact hset
      · have hsame := matchesExisting_congr (samePlan_of_prepared hprepared) call
        exact hsame.trans (hfits answer hplanned)
      · have hconnectors : (app.storeProvisioningPlan H regExp
            { call with requestActor := caller.1 } connector planned).1.connectors = app.connectors :=
          congrArg Records.connectors hrecords
        rw [hconnectors]
        exact hconnector
      · cases h
        exact hset

/-- **One plan**, when no call starts while another one waits. -/
theorem onePlan_alone {callers : List (Option CanonicalId × AuditEventInput)}
    {s : ProvisioningApp × List ProvisioningPlan}
    {slots : List ((Option CanonicalId × AuditEventInput) × Option PlanProgress)}
    (hkey : call.idempotencyKey ≠ none) (hempty : call.idempotencyKey ≠ some "")
    (h : (planCalls H regExp call).Reached (fun slots => ¬ (planCalls H regExp call).Waits slots)
      (Fits call) (app, []) callers s slots) : OnePlan H call s slots := by
  have halone := Calls.alone_invariant (I := QuietPlan call) (J := WaitingPlan call)
    (K := AnsweredPlan call) (fun caller _ s hs => requestProvisioningPlan_establishes hs caller)
    (fun caller _ planned progress s hwaits hfits hs =>
      storeProvisioningPlan_establishes hs hkey hempty hwaits hfits) (.inl rfl) h
  have hanswered : ∀ caller progress plan, (caller, some progress) ∈ slots →
      answeredPlan progress = some plan → s.1.planOfKey call.idempotencyKey = some plan := by
    intro caller progress plan hmem hplan
    refine halone.ended _ hmem progress rfl ?_ plan hplan
    cases progress with
    | settled result => rfl
    | planning connector => cases hplan
  have hstored : QuietPlan call s := by
    rcases halone.state with ⟨-, hquiet⟩ | ⟨_, _, _, _, _, _, _, _, hnone, _⟩
    · exact hquiet
    · exact .inl hnone
  constructor
  · rcases hstored with h | ⟨plan, h, _⟩ <;> simp [h]
  · intro caller progress caller' progress' plan plan' hmem hmem' hplan hplan'
    exact Option.some.inj ((hanswered _ _ _ hmem hplan).symm.trans (hanswered _ _ _ hmem' hplan'))
  · intro caller progress plan hmem hplan plan' hplan'
    rcases hstored with hnone | ⟨one, hone, hkey, _⟩
    · rw [hnone] at hplan'
      cases hplan'
    · rw [hone, List.mem_singleton] at hplan'
      rw [hplan']
      exact Option.some.inj ((hanswered _ _ _ hmem hplan).symm.trans hkey)
  · intro plan hplan requestActor decision
    rcases hstored with hnone | ⟨one, hone, hkey, hmatches, connector, hconnector⟩
    · rw [hnone] at hplan
      cases hplan
    · rw [hone, List.mem_singleton] at hplan
      unfold requestProvisioningPlan
      rw [hconnector, hkey, hplan]
      show PlanProgress.settled (if call.matchesExisting one then _ else _) = _
      rw [if_pos hmatches]

end

/-- **One record** for calls that do not overlap, for jobs and for plans. -/
theorem oneRecord_alone (H : Host) (regExp : String → Option (String → Bool)) (app : ProvisioningApp) :
    (∀ call callers s slots,
      (jobCalls H regExp call).Reached (fun slots => ¬ (jobCalls H regExp call).Waits slots) Verifies
        (app, {}) callers s slots → OneJob H regExp call s slots) ∧
    ∀ call callers s slots, call.idempotencyKey ≠ none → call.idempotencyKey ≠ some "" →
      (planCalls H regExp call).Reached (fun slots => ¬ (planCalls H regExp call).Waits slots)
        (Fits call) (app, []) callers s slots → OnePlan H call s slots :=
  ⟨fun _ _ _ _ h => oneJob_alone h, fun _ _ _ _ hkey hempty h => onePlan_alone hkey hempty h⟩

/-! ## The counterexample -/

/-- The job that both callers ask for. -/
def call : JobCall := Mock.jobCall "user:approver" "key:1"

theorem resume_applying (requestActor : Option CanonicalId) (app : ProvisioningApp) (log : JobLog)
    (plan : ProvisioningPlan) (startedAt : IsoDateTime) :
    (jobCalls plainHost Mock.ticketRegExp call).resume requestActor (Mock.answers plan)
        (.applying plan startedAt) (app, log) =
      ((app.tick, { applications := log.applications + 1, stored := log.stored ++ [] }),
        .verifying plan startedAt (Mock.applyProvisioningChange plan) app.now) := rfl

theorem start_approved {app : ProvisioningApp} (log : JobLog)
    (hrecords : app.records = Mock.approvedRuntime.records) :
    ∃ app', app'.records = Mock.approvedRuntime.records ∧
      (jobCalls plainHost Mock.ticketRegExp call).start none (app, log) =
        ((app', log), .applying Mock.approvedPlan app.now) := by
  have hstart := Mock.startProvisioningJob_records hrecords (.inl rfl) "key:1"
  refine ⟨(app.startProvisioningJob plainHost Mock.ticketRegExp call).1,
    (records_startProvisioningJob _ _ _ _).trans hrecords, ?_⟩
  show (((app.startProvisioningJob plainHost Mock.ticketRegExp call).1, log),
    (app.startProvisioningJob plainHost Mock.ticketRegExp call).2) = _
  rw [call, hstart]

/-- **Counterexample**: the second call starts while the first one waits, and the
connector applies the plan for both. -/
theorem overlapping_apply : ∃ s slots,
    (jobCalls plainHost Mock.ticketRegExp call).Reached (fun _ => True) (fun _ _ => True)
      (Mock.approvedRuntime, {}) [none, none] s slots ∧
    ¬ OneJob plainHost Mock.ticketRegExp call s slots := by
  have h₀ : (jobCalls plainHost Mock.ticketRegExp call).Reached (fun _ => True) (fun _ _ => True)
      (Mock.approvedRuntime, {}) [none, none] (Mock.approvedRuntime, {})
      [(none, none), (none, none)] := .initial
  obtain ⟨app₁, hrecords, hstart⟩ := start_approved {} (Eq.refl Mock.approvedRuntime.records)
  have h₁ := Calls.Reached.started [] [(none, none)] h₀ trivial
  rw [hstart] at h₁
  obtain ⟨app₂, -, hstart'⟩ := start_approved {} hrecords
  have h₂ := Calls.Reached.started [_] [] h₁ trivial
  rw [hstart'] at h₂
  have h₃ := Calls.Reached.resumed [] [_]
    (a := Mock.answers Mock.approvedPlan) h₂ rfl trivial
  rw [resume_applying] at h₃
  have h₄ := Calls.Reached.resumed [_] [] (a := Mock.answers Mock.approvedPlan) h₃ rfl trivial
  rw [resume_applying] at h₄
  refine ⟨_, _, h₄, fun hone => ?_⟩
  have happlications := hone.applications
  dsimp only at happlications
  omega

theorem resume_verifying (requestActor : Option CanonicalId) (app : ProvisioningApp) (log : JobLog)
    (plan : ProvisioningPlan) (startedAt completedAt : IsoDateTime) : ∃ app' job,
    (jobCalls plainHost Mock.ticketRegExp call).resume requestActor (Mock.answers plan)
        (.verifying plan startedAt (Mock.applyProvisioningChange plan) completedAt) (app, log) =
      ((app', { applications := log.applications, stored := log.stored ++ [job] }),
        .settled (.ok (some job))) :=
  ⟨_, _, rfl⟩

theorem not_waits_none {calls : Calls S C P A} {c c' : C} :
    ¬ calls.Waits ([] ++ (c, none) :: [(c', none)]) :=
  Calls.not_waits_iff.2 fun slot hslot p hp => by
    simp only [List.nil_append, List.mem_cons, List.not_mem_nil, or_false] at hslot
    rcases hslot with rfl | rfl <;> cases hp

theorem not_waits_ended {calls : Calls S C P A} {c c' : C} {p : P} (hended : calls.ended p = true) :
    ¬ calls.Waits ([(c, some p)] ++ (c', none) :: []) :=
  Calls.not_waits_iff.2 fun slot hslot p' hp' => by
    simp only [List.cons_append, List.nil_append, List.mem_cons, List.not_mem_nil, or_false]
      at hslot
    rcases hslot with rfl | rfl
    · exact Option.some.inj hp' ▸ hended
    · cases hp'

/-- A run of two callers of the job, of whom neither starts while the other one waits. -/
def JobsApart : ProvisioningApp × JobLog → List (Option CanonicalId × Option JobProgress) → Prop :=
  (jobCalls plainHost Mock.ticketRegExp call).Reached
    (fun slots => ¬ (jobCalls plainHost Mock.ticketRegExp call).Waits slots) Verifies
    (Mock.approvedRuntime, {}) [none, none]

/-- The first of two callers has the plan applied, verified and the job stored before the
second one starts. -/
theorem reached_stored : ∃ app job, JobsApart (app, { applications := 1, stored := [job] })
    ([(none, some (.settled (.ok (some job))))] ++ (none, none) :: []) := by
  have h₀ : JobsApart (Mock.approvedRuntime, {}) ([] ++ (none, none) :: [(none, none)]) := .initial
  obtain ⟨app₁, -, hstart⟩ := start_approved {} (Eq.refl Mock.approvedRuntime.records)
  have h₁ := Calls.Reached.started [] [(none, none)] h₀ not_waits_none
  rw [hstart] at h₁
  have h₂ := Calls.Reached.resumed [] [_] (a := Mock.answers Mock.approvedPlan) h₁ rfl
    (fun _ _ _ _ hverifying => by cases hverifying)
  rw [resume_applying] at h₂
  have h₃ := Calls.Reached.resumed [] [_] (a := Mock.answers Mock.approvedPlan) h₂ rfl
    (fun _ _ _ _ _ => ⟨true, rfl⟩)
  obtain ⟨app₃, job, hresume⟩ := resume_verifying none _ _ Mock.approvedPlan _ _
  rw [hresume] at h₃
  exact ⟨app₃, job, h₃⟩

/-- The plan that is stored for the revocation. -/
def revocationPlan : ProvisioningPlan :=
  { Mock.revokeAccess Mock.grantId with idempotencyKey := some "key:1" }

/-- A run of two callers of the plan, of whom neither starts while the other one waits. -/
def PlansApart : ProvisioningApp × List ProvisioningPlan →
    List ((Option CanonicalId × AuditEventInput) × Option PlanProgress) → Prop :=
  (planCalls plainHost Mock.ticketRegExp (Mock.revocation "key:1")).Reached
    (fun slots => ¬ (planCalls plainHost Mock.ticketRegExp (Mock.revocation "key:1")).Waits slots)
    (Fits (Mock.revocation "key:1")) (Mock.runtime, [])
    [(none, Mock.noDecision), (none, Mock.noDecision)]

/-- The connector answers the first of two callers, whose plan is stored before the second
one starts. -/
theorem reached_planned : ∃ app, PlansApart (app, [revocationPlan])
    ([((none, Mock.noDecision), some (.settled (.ok revocationPlan)))] ++
      ((none, Mock.noDecision), none) :: []) := by
  have h₀ : PlansApart (Mock.runtime, [])
      ([] ++ ((none, Mock.noDecision), none) :: [((none, Mock.noDecision), none)]) := .initial
  have h₁ := Calls.Reached.started [] [_] h₀ not_waits_none
  have hfits : ∀ progress, Fits (Mock.revocation "key:1") progress
      (.ok (Mock.revokeAccess Mock.grantId)) := by
    intro progress plan hplan
    cases hplan
    decide +kernel
  have h₂ := Calls.Reached.resumed [] [_] (a := .ok (Mock.revokeAccess Mock.grantId)) h₁ rfl
    (hfits _)
  exact ⟨_, h₂⟩

/-- Two callers one after the other, for the job and for a plan: the second one is
answered with what the first one stored. -/
theorem oneRecord_replayed :
    (∃ s job, s.2 = { applications := 1, stored := [job] } ∧
      JobsApart s [(none, some (.settled (.ok (some job)))),
        (none, some (.settled (.ok (some job))))] ∧
      OneJob plainHost Mock.ticketRegExp call s [(none, some (.settled (.ok (some job)))),
        (none, some (.settled (.ok (some job))))]) ∧
    ∃ s, s.2 = [revocationPlan] ∧
      PlansApart s [((none, Mock.noDecision), some (.settled (.ok revocationPlan))),
        ((none, Mock.noDecision), some (.settled (.ok revocationPlan)))] ∧
      OnePlan plainHost (Mock.revocation "key:1") s
        [((none, Mock.noDecision), some (.settled (.ok revocationPlan))),
          ((none, Mock.noDecision), some (.settled (.ok revocationPlan)))] := by
  constructor
  · obtain ⟨app, job, h⟩ := reached_stored
    have hone := (oneRecord_alone plainHost Mock.ticketRegExp Mock.approvedRuntime).1 call _ _ _ h
    have hsecond : ((jobCalls plainHost Mock.ticketRegExp call).start none
        (app, { applications := 1, stored := [job] })).2 = .settled (.ok (some job)) :=
      hone.later job (List.mem_singleton_self job) none
    have h' := Calls.Reached.started [_] [] h (not_waits_ended rfl)
    rw [hsecond] at h'
    exact ⟨_, job, rfl, h',
      (oneRecord_alone plainHost Mock.ticketRegExp Mock.approvedRuntime).1 call _ _ _ h'⟩
  · obtain ⟨app, h⟩ := reached_planned
    have hone := (oneRecord_alone plainHost Mock.ticketRegExp Mock.runtime).2
      (Mock.revocation "key:1") _ _ _ (by decide) (by decide) h
    have hsecond : ((planCalls plainHost Mock.ticketRegExp (Mock.revocation "key:1")).start
        (none, Mock.noDecision) (app, [revocationPlan])).2 = .settled (.ok revocationPlan) :=
      hone.later revocationPlan (List.mem_singleton_self _) none Mock.noDecision
    have h' := Calls.Reached.started [_] [] h (not_waits_ended rfl)
    rw [hsecond] at h'
    exact ⟨_, rfl, h', (oneRecord_alone plainHost Mock.ticketRegExp Mock.runtime).2
      (Mock.revocation "key:1") _ _ _ (by decide) (by decide) h'⟩

end AccessKit.Bugs.OverlappingCalls
