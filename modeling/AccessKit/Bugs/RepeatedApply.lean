import AccessKit.L5Runtime.MockConnector

/-!
# A plan that is applied again

Status: open.

`createProvisioningJob` looks at the mode of a plan, not at its status
(packages/api/src/runtime-jobs.ts:162-191), and neither does the gate
(packages/api/src/runtime-enforcement.ts:180-192). A job with another idempotency key has
the connector apply a plan that is applied already; so has a queued job that is tried
again after the connector threw while it verified, since no job was stored then.

Counterexample (`applied_twice`): two jobs for one approved plan.

Exact condition (`appliedOnce_of_meets`): in a run in which a job that passes the gate is
for a plan whose status is approved, the connector does not throw when it verifies a plan
that it applied, and no plan is stored over one that was applied or failed, no plan is
applied twice.
-/
namespace AccessKit.Bugs.RepeatedApply
open AccessKit.Core AccessKit.L1 AccessKit.L2.Audit AccessKit.L2.Fixtures AccessKit.L5
  AccessKit.L5.ProvisioningApp

section
variable (H : Host) (regExp : String → Option (String → Bool))

/-- The connector applies the plan of an id in an operation. -/
def Applies (app : ProvisioningApp) (id : CanonicalId) : RuntimeOperation → Prop
  | .createProvisioningJob call answers => ∃ plan startedAt appliedPlan,
      (app.startProvisioningJob H regExp call).2 = .applying plan startedAt ∧ plan.id = id ∧
        answers.applied = .ok appliedPlan ∧ appliedPlan.status = .applied
  | _ => False

/-- A run in which the connector applies the plan of an id so many times. -/
inductive AppliedTimes (id : CanonicalId) : ProvisioningApp → List RuntimeOperation → Nat → Prop
  | nil {app : ProvisioningApp} : AppliedTimes id app [] 0
  | applies {app : ProvisioningApp} {operation : RuntimeOperation}
      {operations : List RuntimeOperation} {n : Nat} (happlies : Applies H regExp app id operation)
      (hrest : AppliedTimes id (app.perform H regExp operation) operations n) :
      AppliedTimes id app (operation :: operations) (n + 1)
  | other {app : ProvisioningApp} {operation : RuntimeOperation}
      {operations : List RuntimeOperation} {n : Nat} (hother : ¬ Applies H regExp app id operation)
      (hrest : AppliedTimes id (app.perform H regExp operation) operations n) :
      AppliedTimes id app (operation :: operations) n

theorem exists_appliedTimes (id : CanonicalId) (app : ProvisioningApp)
    (operations : List RuntimeOperation) : ∃ n, AppliedTimes H regExp id app operations n := by
  induction operations generalizing app with
  | nil => exact ⟨0, .nil⟩
  | cons operation operations ih =>
    obtain ⟨n, hrest⟩ := ih (app.perform H regExp operation)
    by_cases happlies : Applies H regExp app id operation
    · exact ⟨n + 1, .applies happlies hrest⟩
    · exact ⟨n, .other happlies hrest⟩

/-- A job that passes the gate is for an approved plan, and the connector does not
throw when it verifies what it applied; a plan that is created is stored over none that
was applied or failed. -/
def Meets (app : ProvisioningApp) : RuntimeOperation → Prop
  | .createProvisioningJob call answers => ∀ plan connector approval control report,
      EnforcementCall app call plan →
      GatePassed H regExp app call plan connector approval control report →
        plan.status = .approved ∧
        ∀ appliedPlan, answers.applied = .ok appliedPlan → appliedPlan.status = .applied →
          ∃ verified, answers.verified = .ok verified
  | .createProvisioningPlan call _ (.ok plan) =>
    app.planOfKey call.idempotencyKey = none → ∀ stored, app.getProvisioningPlan plan.id = some stored →
      stored.status = .planned ∨ stored.status = .approved
  | _ => True

def MeetsAll (app : ProvisioningApp) : List RuntimeOperation → Prop
  | [] => True
  | operation :: operations =>
    Meets H regExp app operation ∧ MeetsAll (app.perform H regExp operation) operations

end

section
variable {H : Host} {regExp : String → Option (String → Bool)} {app : ProvisioningApp}

/-- A plan that a job cannot be for any more. -/
def Closed (app : ProvisioningApp) (id : CanonicalId) : Prop :=
  ∃ plan, app.getProvisioningPlan id = some plan ∧ plan.status ≠ .planned ∧ plan.status ≠ .approved

theorem Closed.not_applies {id : CanonicalId} (h : Closed app id) {operation : RuntimeOperation}
    (hmeets : Meets H regExp app operation) : ¬ Applies H regExp app id operation := by
  intro happlies
  cases operation with
  | createProvisioningJob call answers =>
    obtain ⟨plan, startedAt, _, happlying, hid, -, -⟩ := happlies
    obtain ⟨stored, hstored, -, hnot⟩ := h
    obtain ⟨-, hcall, _, _, _, _, hgate⟩ := startProvisioningJob_applying.1 happlying
    have hplan := hcall.stored
    rw [← app.plan_id _ _ hplan, hid, hstored, Option.some.injEq] at hplan
    exact hnot (hplan ▸ (hmeets _ _ _ _ _ hcall hgate).1)
  | _ => exact happlies

theorem Closed.perform {id : CanonicalId} (h : Closed app id) {operation : RuntimeOperation}
    (hmeets : Meets H regExp app operation) : Closed (app.perform H regExp operation) id := by
  have hnot := h.not_applies hmeets
  obtain ⟨plan, hplan, hplanned, happroved⟩ := h
  have hplans := perform_plans H regExp app operation
  have hkeep : ∀ {other : ProvisioningPlan}, other.id ≠ id →
      (app.provisioningPlans.set other.id other).get? id = some plan :=
    fun hne => (OrderedMap.get?_set_ne _ _ hne).trans hplan
  suffices hget : (app.perform H regExp operation).getProvisioningPlan id = some plan from
    ⟨plan, hget, hplanned, happroved⟩
  show (app.perform H regExp operation).provisioningPlans.get? id = some plan
  generalize (app.perform H regExp operation).provisioningPlans = plans at hplans
  cases hplans with
  | same => exact hplan
  | @created call decision answer stored hfresh _ _ hprepared =>
    refine hkeep fun heq => ?_
    rcases hmeets hfresh plan (by rw [← hprepared.id, heq, hplan]) with hstatus | hstatus
    · exact hplanned hstatus
    · exact happroved hstatus
  | @applied call answers other appliedPlan startedAt completedAt verified happlying _ _ =>
    obtain ⟨-, hcall, _, _, _, _, hgate⟩ := startProvisioningJob_applying.1 happlying
    have hstatus := (hmeets _ _ _ _ _ hcall hgate).1
    refine (OrderedMap.get?_set_ne _ _ fun heq => ?_).trans hplan
    have hother := hcall.stored
    rw [← app.plan_id _ _ hother, heq, hplan, Option.some.injEq] at hother
    exact happroved (hother ▸ hstatus)

theorem closed_of_applies {id : CanonicalId} {operation : RuntimeOperation}
    (happlies : Applies H regExp app id operation) (hmeets : Meets H regExp app operation) :
    Closed (app.perform H regExp operation) id := by
  cases operation with
  | createProvisioningJob call answers =>
    obtain ⟨plan, startedAt, appliedPlan, happlying, rfl, happlied, hstatus⟩ := happlies
    obtain ⟨-, hcall, _, _, _, _, hgate⟩ := startProvisioningJob_applying.1 happlying
    obtain ⟨-, hverifies⟩ := hmeets _ _ _ _ _ hcall hgate
    obtain ⟨verified, hverified⟩ := hverifies appliedPlan happlied hstatus
    obtain ⟨result, -, hrun⟩ := createProvisioningJob_run H regExp app call answers
    rw [happlying] at hrun
    show ∃ stored, (app.createProvisioningJob H regExp call answers).1.records.plans.get? plan.id =
      some stored ∧ _
    generalize (app.createProvisioningJob H regExp call answers).1.records = records at hrun
    cases hrun with
    | applyThrew hthrew =>
      rw [happlied] at hthrew
      cases hthrew
    | verifyThrew _ hthrew =>
      rw [hverified] at hthrew
      cases hthrew
    | enforcementStored _ _ _ =>
      refine ⟨_, OrderedMap.get?_set_self _ _ _, ?_, ?_⟩
      · unfold updatedPlan
        split <;> simp
      · unfold updatedPlan
        split <;> simp
  | _ => exact happlies.elim

theorem Closed.appliedTimes {id : CanonicalId} {operations : List RuntimeOperation} {n : Nat}
    (h : Closed app id) (hmeets : MeetsAll H regExp app operations)
    (htimes : AppliedTimes H regExp id app operations n) : n = 0 := by
  induction htimes with
  | nil => rfl
  | applies happlies _ _ => exact absurd happlies (h.not_applies hmeets.1)
  | other _ _ ih => exact ih (h.perform hmeets.1) hmeets.2

end

/-- **At most once**, in a run whose steps meet the condition. -/
theorem appliedOnce_of_meets (H : Host) (regExp : String → Option (String → Bool))
    (app : ProvisioningApp) (operations : List RuntimeOperation)
    (hmeets : MeetsAll H regExp app operations) (id : CanonicalId) (n : Nat)
    (htimes : AppliedTimes H regExp id app operations n) : n ≤ 1 := by
  induction htimes with
  | nil => omega
  | applies happlies hrest _ =>
    have hnone := (closed_of_applies happlies hmeets.1).appliedTimes hmeets.2 hrest
    omega
  | other _ _ ih => exact ih hmeets.2

/-! ## The counterexample -/

/-- A job for the approved plan. -/
def job (idempotencyKey : String) : RuntimeOperation :=
  .createProvisioningJob (Mock.jobCall "user:approver" idempotencyKey)
    (Mock.answers Mock.approvedPlan)

theorem applied_records {idempotencyKey idempotencyKey' : String} (hne : idempotencyKey ≠ idempotencyKey')
    {startedAt : IsoDateTime} {result : Except RuntimeError (Option ProvisioningJob)}
    {records : Records}
    (hrun : JobRun plainHost (Mock.jobCall "user:approver" idempotencyKey)
      (Mock.answers Mock.approvedPlan) Mock.approvedRuntime.records
      (.applying Mock.approvedPlan startedAt) result records) :
    (∃ completedAt, records.plans.get? Mock.approvedPlan.id =
      some { Mock.approvedPlan with status := .applied, updatedAt := completedAt }) ∧
    records.jobs.values.find? (fun job => job.idempotencyKey = idempotencyKey') = none ∧
    records.connectors = Mock.approvedRuntime.connectors ∧
    records.reports = Mock.approvedRuntime.enforcementReadinessReports := by
  cases hrun with
  | applyThrew hthrew => cases hthrew
  | verifyThrew _ hthrew => cases hthrew
  | enforcementStored happlied hverified hjob =>
    cases happlied
    cases hverified
    refine ⟨⟨_, OrderedMap.get?_set_self _ _ _⟩, ?_, rfl, rfl⟩
    rw [List.find?_eq_none]
    intro job hmem
    obtain ⟨id, hid⟩ := OrderedMap.mem_values.1 hmem
    rw [OrderedMap.get?_set] at hid
    split at hid
    · cases hid
      rw [hjob]
      simp [enforcementJob, Mock.jobCall, hne]
    · cases hid

/-- **Counterexample**: the plan is applied by the job of one key and by that of
another. -/
theorem applied_twice : ¬ ∀ n, AppliedTimes plainHost Mock.ticketRegExp Mock.approvedPlan.id
    Mock.approvedRuntime [job "key:1", job "key:2"] n → n ≤ 1 := by
  have hfirst := Mock.startProvisioningJob_records (Eq.refl Mock.approvedRuntime.records)
    (.inl rfl) "key:1"
  obtain ⟨result, -, hrun⟩ := createProvisioningJob_run plainHost Mock.ticketRegExp
    Mock.approvedRuntime (Mock.jobCall "user:approver" "key:1") (Mock.answers Mock.approvedPlan)
  rw [hfirst] at hrun
  obtain ⟨⟨completedAt, hplan⟩, hfresh, hconnectors, hreports⟩ :=
    applied_records (show "key:1" ≠ "key:2" by decide) hrun
  have hsecond := Mock.startProvisioningJob_approved hconnectors hreports (.inl rfl) hfresh hplan
  have happlies : Applies plainHost Mock.ticketRegExp Mock.approvedRuntime Mock.approvedPlan.id
      (job "key:1") := ⟨_, _, _, hfirst, rfl, rfl, rfl⟩
  have happlies' : Applies plainHost Mock.ticketRegExp (Mock.approvedRuntime.perform plainHost
      Mock.ticketRegExp (job "key:1")) Mock.approvedPlan.id (job "key:2") :=
    ⟨_, _, _, hsecond, rfl, rfl, rfl⟩
  intro h
  have htwice := h 2 (.applies happlies (.applies happlies' .nil))
  omega

/-- The job once more under its key, and one that another approver asks for. -/
def laterJobs : List RuntimeOperation :=
  [job "key:1", .createProvisioningJob
    { Mock.jobCall "user:other" "key:2" with approval := some Mock.approval }
    (Mock.answers Mock.approvedPlan)]

theorem key_recorded {idempotencyKey : String} {startedAt : IsoDateTime}
    {result : Except RuntimeError (Option ProvisioningJob)} {records : Records}
    (hrun : JobRun plainHost (Mock.jobCall "user:approver" idempotencyKey)
      (Mock.answers Mock.approvedPlan) Mock.approvedRuntime.records
      (.applying Mock.approvedPlan startedAt) result records) :
    records.jobs.values.find? (fun job => job.idempotencyKey = idempotencyKey) ≠ none := by
  cases hrun with
  | applyThrew hthrew => cases hthrew
  | verifyThrew _ hthrew => cases hthrew
  | enforcementStored happlied hverified hjob =>
    intro hnone
    rw [List.find?_eq_none] at hnone
    refine hnone _ (OrderedMap.mem_values.2 ⟨_, OrderedMap.get?_set_self _ _ _⟩) ?_
    rw [hjob]
    simp [enforcementJob, Mock.jobCall]

theorem meets_laterJobs : MeetsAll plainHost Mock.ticketRegExp
    (Mock.approvedRuntime.perform plainHost Mock.ticketRegExp (job "key:1")) laterJobs := by
  obtain ⟨result, -, hrun⟩ := createProvisioningJob_run plainHost Mock.ticketRegExp
    Mock.approvedRuntime (Mock.jobCall "user:approver" "key:1") (Mock.answers Mock.approvedPlan)
  rw [Mock.startProvisioningJob_records (Eq.refl Mock.approvedRuntime.records) (.inl rfl)] at hrun
  have hkey := key_recorded hrun
  refine ⟨fun plan _ _ _ _ hcall _ => absurd hcall.fresh hkey,
    fun plan _ approval _ _ _ hgate => ?_, trivial⟩
  have happroval : approval = Mock.approval := Option.some.inj hgate.approvalInForce.symm
  have happrover := hgate.allowed.approver "user:other" rfl
  rw [happroval] at happrover
  exact absurd happrover (by decide)

/-- A run of three jobs, of which one applies the plan. -/
theorem appliedOnce_jobs : ∃ n, AppliedTimes plainHost Mock.ticketRegExp Mock.approvedPlan.id
    Mock.approvedRuntime (job "key:1" :: laterJobs) n ∧ 0 < n ∧ n ≤ 1 := by
  have hmeets : MeetsAll plainHost Mock.ticketRegExp Mock.approvedRuntime
      (job "key:1" :: laterJobs) := by
    refine ⟨fun plan _ _ _ _ hcall _ => ?_, meets_laterJobs⟩
    obtain rfl := Option.some.inj (Mock.getProvisioningPlan_approvedRuntime.symm.trans hcall.stored)
    exact ⟨rfl, fun _ _ _ => ⟨true, rfl⟩⟩
  have happlies : Applies plainHost Mock.ticketRegExp Mock.approvedRuntime Mock.approvedPlan.id
      (job "key:1") :=
    ⟨_, _, _, Mock.startProvisioningJob_records (Eq.refl Mock.approvedRuntime.records) (.inl rfl)
      "key:1", rfl, rfl, rfl⟩
  obtain ⟨n, hrest⟩ := exists_appliedTimes plainHost Mock.ticketRegExp Mock.approvedPlan.id
    (Mock.approvedRuntime.perform plainHost Mock.ticketRegExp (job "key:1")) laterJobs
  have htimes := AppliedTimes.applies happlies hrest
  exact ⟨n + 1, htimes, by omega, appliedOnce_of_meets _ _ _ _ hmeets _ _ htimes⟩

end AccessKit.Bugs.RepeatedApply
