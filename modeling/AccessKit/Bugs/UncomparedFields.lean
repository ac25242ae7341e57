import AccessKit.L5Runtime.KeptRecords
import AccessKit.L5Runtime.MockConnector

/-!
# Fields that a key does not bind

Status: open.

`createPolicy` and `publishPolicy` answer a call whose key they know with the record of the
first call, whatever it asks for (packages/api/src/runtime-policies.ts:29-33, 92-97). A
repeated call for a plan is compared with the stored plan, which has the subject, the
resource and the action of the decision but not its context and its versions
(packages/api/src/runtime-jobs.ts:316-356); one for a job is compared in its plan and its
approver only (:158).

Counterexample (`other_draft_answered`): two drafts with one key.

Exact condition (`binds_iff`): the key of a policy binds no field; the key of a plan binds
what `matchesExisting` compares, the key of a job its plan and its approver.
-/
namespace AccessKit.Bugs.UncomparedFields
open AccessKit.Core AccessKit.L1 AccessKit.L2.Audit AccessKit.L2.Fixtures AccessKit.L3 AccessKit.L5
  AccessKit.L5.ProvisioningApp

/-! ## The law -/

/-- The approval of a revocation may be given again at another time
(tests/api/api-runtime.test.ts:3440). -/
def isRevocation (call : PlanCall) : Bool :=
  match call.request with
  | .decision _ => false
  | .revocation _ => true

/-- Two calls for a plan that ask for the same, and have the same recorded. The approval,
the control and the report are those of an enforcement. -/
structure SamePlanRequest (call call' : PlanCall) : Prop where
  request : call'.request = call.request
  connectorId : call'.connectorId = call.connectorId
  mode : call'.options.mode.getD .dryRun = call.options.mode.getD .dryRun
  approval : call.options.mode.getD .dryRun = .enforcement →
    normalizeApprovalForReplay call'.options.approval (isRevocation call) =
      normalizeApprovalForReplay call.options.approval (isRevocation call)
  control : call.options.mode.getD .dryRun = .enforcement →
    call'.options.control = call.options.control
  readinessReportId : call.options.mode.getD .dryRun = .enforcement →
    call'.options.readinessReportId = call.options.readinessReportId

/-- Two calls for a job of a plan that ask for the same, and have the same recorded. -/
structure SameJobRequest (plan : ProvisioningPlan) (call call' : JobCall) : Prop where
  planId : call'.planId = call.planId
  approverId : call'.approverId = call.approverId
  mode : call'.mode.getD plan.mode = call.mode.getD plan.mode
  approval : plan.mode = .enforcement → call'.approvalFor plan = call.approvalFor plan
  control : plan.mode = .enforcement → call'.controlFor plan = call.controlFor plan

section
variable (H : Host) (regExp : String → Option (String → Bool))

/-- Another draft is not answered with the policy of the first one. `createPolicy`
throws nothing. -/
def CreateBinds (app : PolicyApp) (draft : PersistedPolicyDraft) (key : String) (now : IsoDateTime)
    (between : List (PolicyOperation × IsoDateTime)) (draft' : PersistedPolicyDraft)
    (now' : IsoDateTime) : Prop :=
  draft' ≠ draft → (((app.createPolicy H draft key now).1.run H between).createPolicy H draft' key
    now').2 ≠ (app.createPolicy H draft key now).2

/-- A publication with another ticket or approver is rejected. -/
def PublishBinds (app : PolicyApp) (id : String) (request : PolicyPublishRequest) (key : String)
    (now : IsoDateTime) (between : List (PolicyOperation × IsoDateTime))
    (request' : PolicyPublishRequest) (now' : IsoDateTime) : Prop :=
  request' ≠ request → ∃ e, (((app.publishPolicy H id request key now).1.run H between).publishPolicy
    H id request' key now').2 = .error e

/-- Another request for a plan is rejected. -/
def PlanBinds (app : ProvisioningApp) (call : PlanCall) (decision : AuditEventInput)
    (planned : Except RuntimeError ProvisioningPlan) (between : List RuntimeOperation)
    (call' : PlanCall) (decision' : AuditEventInput)
    (planned' : Except RuntimeError ProvisioningPlan) : Prop :=
  ¬ SamePlanRequest call call' →
    ∃ e, ((run H regExp app (.createProvisioningPlan call decision planned :: between
      )).createProvisioningPlan H regExp call' decision' planned').2 = .error e

/-- Another request for a job is rejected. -/
def JobBinds (app : ProvisioningApp) (plan : ProvisioningPlan) (call : JobCall)
    (answers : JobAnswers) (between : List RuntimeOperation) (call' : JobCall)
    (answers' : JobAnswers) : Prop :=
  ¬ SameJobRequest plan call call' →
    ∃ e, ((run H regExp app (.createProvisioningJob call answers :: between)).createProvisioningJob
      H regExp call' answers').2 = .settled (.error e)

/-- What is claimed of every run. -/
structure KeyBinds : Prop where
  createPolicy : ∀ app draft key now between draft' now',
    app.getPolicyIdempotencyRecord ("create:" ++ key) = none →
    CreateBinds H app draft key now between draft' now'
  publishPolicy : ∀ app id request key now summary between request' now',
    app.getPolicyIdempotencyRecord ("publish:" ++ id ++ ":" ++ key) = none →
    (app.publishPolicy H id request key now).2 = .ok summary →
    PublishBinds H app id request key now between request' now'
  plan : ∀ app call decision planned plan key between call' decision' planned',
    truthy call.idempotencyKey = some key → call'.idempotencyKey = call.idempotencyKey →
    MakesPlan H regExp app call decision planned plan →
    PlanBinds H regExp app call decision planned between call' decision' planned'
  job : ∀ app plan call answers job between call' answers',
    app.getProvisioningPlan call.planId = some plan →
    call'.idempotencyKey = call.idempotencyKey → MakesJob H regExp app call answers job →
    JobBinds H regExp app plan call answers between call' answers'

end

section
variable {H : Host} {regExp : String → Option (String → Bool)}

/-! ## Policies -/

/-- The key stands for the first policy in every run. -/
theorem createPolicy_replay {app : PolicyApp} (draft : PersistedPolicyDraft) {key : String}
    (now : IsoDateTime) (hfresh : app.getPolicyIdempotencyRecord ("create:" ++ key) = none)
    (between : List (PolicyOperation × IsoDateTime)) (draft' : PersistedPolicyDraft)
    (now' : IsoDateTime) :
    (((app.createPolicy H draft key now).1.run H between).createPolicy H draft' key now').2 =
      (app.createPolicy H draft key now).2 := by
  have hfirst : (app.createPolicy H draft key now).1.getPolicyIdempotencyRecord ("create:" ++ key) =
      some { key := "create:" ++ key, summary := (app.createPolicy H draft key now).2 } := by
    simp only [PolicyApp.createPolicy, hfresh]
    exact OrderedMap.get?_set_self _ _ _
  have hlater := PolicyApp.getPolicyIdempotencyRecord_run (H := H) hfirst between
  generalize (app.createPolicy H draft key now).1.run H between = later at hlater ⊢
  simp only [PolicyApp.createPolicy, hlater]

/-- The key stands for the first publication in every run. -/
theorem publishPolicy_replay {app : PolicyApp} {id : String} {request : PolicyPublishRequest}
    {key : String} {now : IsoDateTime} {summary : PersistedPolicySummary}
    (hfresh : app.getPolicyIdempotencyRecord ("publish:" ++ id ++ ":" ++ key) = none)
    (hfirst : (app.publishPolicy H id request key now).2 = .ok summary)
    (between : List (PolicyOperation × IsoDateTime)) (request' : PolicyPublishRequest)
    (now' : IsoDateTime) :
    (((app.publishPolicy H id request key now).1.run H between).publishPolicy H id request' key
      now').2 = .ok summary := by
  have hstored : (app.publishPolicy H id request key now).1.getPolicyIdempotencyRecord
      ("publish:" ++ id ++ ":" ++ key) =
        some { key := "publish:" ++ id ++ ":" ++ key, summary } := by
    unfold PolicyApp.publishPolicy at hfirst ⊢
    dsimp only at hfirst ⊢
    rw [hfresh] at hfirst ⊢
    cases hprior : app.getPolicy id with
    | none =>
      rw [hprior] at hfirst
      cases hfirst
    | some prior =>
      rw [hprior] at hfirst
      dsimp only at hfirst ⊢
      split at hfirst
      · cases hfirst
      · rename_i hstatus
        split at hfirst
        · cases hfirst
        · rename_i hvalid
          cases hfirst
          rw [if_neg hstatus, if_neg hvalid]
          exact OrderedMap.get?_set_self _ _ _
  have hlater := PolicyApp.getPolicyIdempotencyRecord_run (H := H) hstored between
  generalize (app.publishPolicy H id request key now).1.run H between = later at hlater ⊢
  simp only [PolicyApp.publishPolicy, hlater]

/-! ## Plans -/

variable (H regExp) in
theorem run_connectors (app : ProvisioningApp) (operations : List RuntimeOperation) :
    (run H regExp app operations).connectors = app.connectors := by
  induction operations generalizing app with
  | nil => rfl
  | cons operation operations ih => rw [run_cons, ih, perform_connectors]

theorem createProvisioningPlan_unknown {app : ProvisioningApp} {call : PlanCall}
    (hconnector : app.connectors.get? call.connectorId = none) (decision : AuditEventInput)
    (planned : Except RuntimeError ProvisioningPlan) :
    app.createProvisioningPlan H regExp call decision planned =
      (app, .error (unknownConnector call.connectorId)) := by
  unfold createProvisioningPlan requestProvisioningPlan
  rw [hconnector]

/-- **A later call** for a plan is rejected when its connector is not there or it does not
match the first plan. -/
theorem laterPlan_rejected {app : ProvisioningApp} {call : PlanCall} {decision : AuditEventInput}
    {planned : Except RuntimeError ProvisioningPlan} {plan : ProvisioningPlan} {key : String}
    {between : List RuntimeOperation} {call' : PlanCall}
    (hkey : truthy call.idempotencyKey = some key)
    (hsame : call'.idempotencyKey = call.idempotencyKey)
    (hmakes : MakesPlan H regExp app call decision planned plan)
    (hspares : RunSparesKeys H regExp
      (app.perform H regExp (.createProvisioningPlan call decision planned)) between)
    (decision' : AuditEventInput) (planned' : Except RuntimeError ProvisioningPlan) :
    (∃ e, ((run H regExp app (.createProvisioningPlan call decision planned :: between
      )).createProvisioningPlan H regExp call' decision' planned').2 = .error e) ↔
      app.connectors.get? call'.connectorId = none ∨ call'.matchesExisting plan = false := by
  obtain ⟨hhas, hempty⟩ := truthy_eq_some.1 hkey
  obtain ⟨current, hcurrent, -, hsamePlan⟩ :=
    ((planKept_made hhas hempty hmakes).run hempty hspares).planOfKey hempty
  have hconnectors := run_connectors H regExp app
    (.createProvisioningPlan call decision planned :: between)
  rw [← run_cons] at hcurrent
  generalize run H regExp app (.createProvisioningPlan call decision planned :: between) = later
    at hcurrent hconnectors ⊢
  rw [← hhas, ← hsame] at hcurrent
  cases hconnector : app.connectors.get? call'.connectorId with
  | none =>
    rw [createProvisioningPlan_unknown (hconnectors ▸ hconnector)]
    exact ⟨fun _ => .inl rfl, fun _ => ⟨_, rfl⟩⟩
  | some connector =>
    rw [createProvisioningPlan_replay (hconnectors ▸ hconnector) hcurrent,
      matchesExisting_congr hsamePlan]
    cases call'.matchesExisting plan with
    | true => simp
    | false => simp

/-! ## Jobs -/

/-- **A later call** for a job is rejected when its plan or its approver is another. -/
theorem laterJob_rejected {app : ProvisioningApp} {call : JobCall} {answers : JobAnswers}
    {job : ProvisioningJob} {between : List RuntimeOperation} {call' : JobCall}
    (hsame : call'.idempotencyKey = call.idempotencyKey)
    (hmakes : MakesJob H regExp app call answers job)
    (hspares : RunSparesKeys H regExp (app.perform H regExp (.createProvisioningJob call answers))
      between) (answers' : JobAnswers) :
    (∃ e, ((run H regExp app (.createProvisioningJob call answers :: between)).createProvisioningJob
      H regExp call' answers').2 = .settled (.error e)) ↔
      call'.planId ≠ call.planId ∨ call'.approverId ≠ call.approverId := by
  obtain ⟨-, -, hkey, hplan, happrover⟩ := hmakes.stores
  have hfound := ((jobKept_made hmakes).run hspares).found
  rw [← run_cons] at hfound
  generalize run H regExp app (.createProvisioningJob call answers :: between) = later at hfound ⊢
  rw [hkey, ← hsame] at hfound
  have hresult : (later.createProvisioningJob H regExp call' answers').2 = .settled (
      if job.planId ≠ call'.planId ∨ job.approverId ≠ call'.approverId then
        .error (idempotencyKeyReused "job")
      else .ok (some job)) := by
    unfold createProvisioningJob startProvisioningJob
    rw [hfound]
    rfl
  rw [hresult, hplan, happrover]
  split
  · rename_i hdiffers
    refine ⟨fun _ => ?_, fun _ => ⟨_, rfl⟩⟩
    rcases hdiffers with hne | hne
    · exact .inl (Ne.symm hne)
    · exact .inr (Ne.symm hne)
  · rename_i hmatches
    rw [not_or, ne_eq, ne_eq, not_not, not_not] at hmatches
    refine ⟨fun ⟨_, h⟩ => (by cases h), fun h => ?_⟩
    rcases h with hne | hne
    · exact absurd hmatches.1.symm hne
    · exact absurd hmatches.2.symm hne

end

/-- **What keys bind**: for policies nothing, for plans what is compared with the first
plan, for jobs the plan and the approver. -/
theorem binds_iff (H : Host) (regExp : String → Option (String → Bool)) :
    (∀ app draft key now between draft' now',
      app.getPolicyIdempotencyRecord ("create:" ++ key) = none →
        (CreateBinds H app draft key now between draft' now' ↔ draft' = draft)) ∧
    (∀ app id request key now summary between request' now',
      app.getPolicyIdempotencyRecord ("publish:" ++ id ++ ":" ++ key) = none →
      (app.publishPolicy H id request key now).2 = .ok summary →
        (PublishBinds H app id request key now between request' now' ↔ request' = request)) ∧
    (∀ app call decision planned plan key between call' decision' planned',
      truthy call.idempotencyKey = some key → call'.idempotencyKey = call.idempotencyKey →
      MakesPlan H regExp app call decision planned plan →
      RunSparesKeys H regExp (app.perform H regExp (.createProvisioningPlan call decision planned))
        between →
        (PlanBinds H regExp app call decision planned between call' decision' planned' ↔
          SamePlanRequest call call' ∨ app.connectors.get? call'.connectorId = none ∨
            call'.matchesExisting plan = false)) ∧
    ∀ app plan call answers job between call' answers',
      call'.idempotencyKey = call.idempotencyKey → MakesJob H regExp app call answers job →
      RunSparesKeys H regExp (app.perform H regExp (.createProvisioningJob call answers)) between →
        (JobBinds H regExp app plan call answers between call' answers' ↔
          SameJobRequest plan call call' ∨ call'.planId ≠ call.planId ∨
            call'.approverId ≠ call.approverId) := by
  refine ⟨fun app draft key now between draft' now' hfresh => ?_,
    fun app id request key now summary between request' now' hfresh hfirst => ?_,
    fun app call decision planned plan key between call' decision' planned' hkey hsame hmakes
      hspares => ?_,
    fun app plan call answers job between call' answers' hsame hmakes hspares => ?_⟩
  · rw [CreateBinds, createPolicy_replay draft now hfresh between draft' now']
    simp
  · rw [PublishBinds, publishPolicy_replay hfresh hfirst between request' now']
    simp
  · rw [PlanBinds, laterPlan_rejected hkey hsame hmakes hspares]
    exact or_iff_not_imp_left.symm
  · rw [JobBinds, laterJob_rejected hsame hmakes hspares]
    exact or_iff_not_imp_left.symm

/-! ## The counterexample -/

def draft (name : String) : PersistedPolicyDraft where
  name
  model := createDefaultPolicyModel
  tests := []

/-- **Counterexample**: another draft is answered with the policy of the first one. -/
theorem other_draft_answered : ¬ KeyBinds plainHost Mock.ticketRegExp := by
  intro h
  have hne : draft "Second" ≠ draft "First" := by
    intro heq
    exact absurd (congrArg PersistedPolicyDraft.name heq) (by decide)
  have hfresh : (PolicyApp.started "service:api").getPolicyIdempotencyRecord ("create:" ++ "key:1") =
      none := rfl
  exact h.createPolicy (PolicyApp.started "service:api") (draft "First") "key:1" timestamp []
    (draft "Second") timestamp hfresh hne (createPolicy_replay _ _ hfresh _ _ _)

/-- The revocation of another grant. -/
def otherGrant : PlanCall :=
  { Mock.revocation "key:1" with request := .revocation "native-grant:other" }

/-- Another draft is answered; another grant is rejected. -/
theorem binds_otherGrant :
    ¬ CreateBinds plainHost (PolicyApp.started "service:api") (draft "First") "key:1" timestamp []
      (draft "Second") timestamp ∧
    PlanBinds plainHost Mock.ticketRegExp Mock.runtime (Mock.revocation "key:1") Mock.noDecision
      (.ok (Mock.revokeAccess Mock.grantId)) [] otherGrant Mock.noDecision
      (.ok (Mock.revokeAccess "native-grant:other")) := by
  obtain ⟨hcreate, -, hplan, -⟩ := binds_iff plainHost Mock.ticketRegExp
  have hne : draft "Second" ≠ draft "First" := by
    intro heq
    exact absurd (congrArg PersistedPolicyDraft.name heq) (by decide)
  refine ⟨fun h => hne ((hcreate _ _ _ _ _ _ _ rfl).1 h), ?_⟩
  refine (hplan Mock.runtime (Mock.revocation "key:1") Mock.noDecision _
    { Mock.revokeAccess Mock.grantId with idempotencyKey := some "key:1" } "key:1" [] otherGrant _ _ rfl rfl
    ⟨rfl, ?_⟩ trivial).2 (.inr (.inr ?_))
  · rfl
  · decide

end AccessKit.Bugs.UncomparedFields
