import AccessKit.L5Runtime.MockConnector

/-!
# Plans with one id

Status: open.

A plan is stored under the id that the connector gives it, and found again under its
idempotency key (packages/core/src/store.ts:336-343). The mock connector makes the id of a
revocation plan of the grant alone (packages/connectors-mock/src/index.ts:145-147,
265-270), so that a second request for the same grant, with another key, is stored over
the plan of the first: its approval and its status are gone, and its key stands for no
plan any more. A dry run that carries an approval is stored without it
(packages/api/src/runtime-enforcement.ts:93-112), so that its repetition is refused.

Counterexample (`revocation_stored_over`): two revocations of one grant with different
keys.

Exact condition (`planIdempotency_of_meets`): in a run in which each plan that is created
gets an id under which no plan with a key is stored, and matches its own request, a
repeated request is answered with the stored plan, and no plan is stored over one of
another key.
-/
namespace AccessKit.Bugs.ReusedPlanIds
open AccessKit.Core AccessKit.L1 AccessKit.L2.Audit AccessKit.L2.Fixtures AccessKit.L5
  AccessKit.L5.ProvisioningApp

section
variable (H : Host) (regExp : String → Option (String → Bool))

/-- A call made a plan: no stored plan had its key. -/
def Creates (app : ProvisioningApp) (call : PlanCall) (decision : AuditEventInput)
    (planned : Except RuntimeError ProvisioningPlan) (plan : ProvisioningPlan) : Prop :=
  app.planOfKey call.idempotencyKey = none ∧
    (app.createProvisioningPlan H regExp call decision planned).2 = .ok plan

/-- The same request with the same key, whoever makes it. -/
structure Repeats (call call' : PlanCall) : Prop where
  request : call'.request = call.request
  connectorId : call'.connectorId = call.connectorId
  options : call'.options = call.options
  idempotencyKey : call'.idempotencyKey = call.idempotencyKey

/-- What is claimed of a run. -/
structure PlanIdempotency (app : ProvisioningApp) (operations : List RuntimeOperation) : Prop where
  replays : ∀ before call decision planned between plan key,
    operations = before ++ .createProvisioningPlan call decision planned :: between →
    call.idempotencyKey = some key →
    Creates H regExp (run H regExp app before) call decision planned plan →
    ∀ call' decision' planned', Repeats call call' →
      ∃ current, (run H regExp app operations).getProvisioningPlan plan.id = some current ∧
        (run H regExp app operations).createProvisioningPlan H regExp call' decision' planned' =
          (run H regExp app operations, .ok current)
  keeps : ∀ before call decision planned key,
    operations = before ++ [.createProvisioningPlan call decision planned] →
    call.idempotencyKey = some key →
    (run H regExp app before).planOfKey call.idempotencyKey = none →
    ∀ id stored key', (run H regExp app before).getProvisioningPlan id = some stored →
      stored.idempotencyKey = some key' → key' ≠ key →
      (run H regExp app operations).getProvisioningPlan id = some stored

/-- A creation that makes a plan has a key that is not empty, its plan is stored over none
that has a key, and matches the request. -/
def Meets (app : ProvisioningApp) : RuntimeOperation → Prop
  | .createProvisioningPlan call decision (.ok plan) =>
    (∃ stored, Creates H regExp app call decision (.ok plan) stored) →
      call.idempotencyKey ≠ some "" ∧
      (∀ stored, app.getProvisioningPlan plan.id = some stored → stored.idempotencyKey = none) ∧
      (call.idempotencyKey.isSome → call.matchesExisting (call.asPrepared plan) = true)
  | _ => True

/-- Every step of a run meets the condition in the state it finds. -/
def MeetsAll (app : ProvisioningApp) : List RuntimeOperation → Prop
  | [] => True
  | operation :: operations =>
    Meets H regExp app operation ∧ MeetsAll (app.perform H regExp operation) operations

end

section
variable {H : Host} {regExp : String → Option (String → Bool)} {app : ProvisioningApp}

theorem meetsAll_append {operations operations' : List RuntimeOperation} :
    MeetsAll H regExp app (operations ++ operations') ↔
      MeetsAll H regExp app operations ∧ MeetsAll H regExp (run H regExp app operations) operations' := by
  induction operations generalizing app with
  | nil => simp [MeetsAll]
  | cons operation operations ih => simp [MeetsAll, ih, and_assoc]

/-! ## The plan of a request -/

/-- A request has its plan: the one stored under the id, which alone has the key. -/
structure HasPlan (app : ProvisioningApp) (call : PlanCall) (key : String) (id : CanonicalId) :
    Prop where
  connector : ∃ connector, app.connectors.get? call.connectorId = some connector
  stored : ∃ current, app.getProvisioningPlan id = some current ∧
    current.idempotencyKey = some key ∧ call.matchesExisting current = true
  only : ∀ id' other, app.getProvisioningPlan id' = some other →
    other.idempotencyKey = some key → id' = id

/-- **A repetition** is answered with it. -/
theorem HasPlan.answers {call : PlanCall} {key : String} {id : CanonicalId}
    (h : HasPlan app call key id) (hkey : key ≠ "") {call' : PlanCall}
    (hrepeats : Repeats call call') (hhas : call.idempotencyKey = some key)
    (decision : AuditEventInput) (planned : Except RuntimeError ProvisioningPlan) :
    ∃ current, app.getProvisioningPlan id = some current ∧
      app.createProvisioningPlan H regExp call' decision planned = (app, .ok current) := by
  obtain ⟨connector, hconnector⟩ := h.connector
  obtain ⟨current, hcurrent, hcurrentKey, hmatches⟩ := h.stored
  have hid : current.id = id := app.plan_id id current hcurrent
  refine ⟨current, hcurrent, ?_⟩
  have hfound : app.planOfKey call'.idempotencyKey = some current := by
    rw [hrepeats.idempotencyKey, hhas]
    exact planOfKey_eq hkey (by rw [hid, hcurrent]) hcurrentKey (hid ▸ h.only)
  have hmatches' : call'.matchesExisting current = true := by
    rw [← hmatches]
    unfold PlanCall.matchesExisting
    rw [hrepeats.request, hrepeats.connectorId, hrepeats.options]
  rw [createProvisioningPlan_replay (hrepeats.connectorId ▸ hconnector) hfound, if_pos hmatches']

theorem Creates.plans {call : PlanCall} {decision : AuditEventInput}
    {planned : Except RuntimeError ProvisioningPlan} {plan : ProvisioningPlan}
    (h : Creates H regExp app call decision planned plan) :
    (app.perform H regExp (.createProvisioningPlan call decision planned)).provisioningPlans =
      app.provisioningPlans.set plan.id plan := by
  rcases createProvisioningPlan_cases H regExp app call decision planned with
    ⟨-, hanswered⟩ | ⟨stored, _, hstored, _, _, _, _, _, hrecords⟩
  · have hfresh := h.1
    rw [hanswered plan h.2] at hfresh
    cases hfresh
  · obtain rfl : stored = plan := Except.ok.inj (hstored.symm.trans h.2)
    exact congrArg Records.plans hrecords

/-- What a call that made a plan meets. -/
theorem Creates.meets {call : PlanCall} {decision : AuditEventInput}
    {planned : Except RuntimeError ProvisioningPlan} {plan : ProvisioningPlan}
    (h : Creates H regExp app call decision planned plan)
    (hmeets : Meets H regExp app (.createProvisioningPlan call decision planned)) :
    call.idempotencyKey ≠ some "" := by
  rcases createProvisioningPlan_cases H regExp app call decision planned with
    ⟨-, hanswered⟩ | ⟨_, _, _, _, _, rfl, _⟩
  · have hfresh := h.1
    rw [hanswered plan h.2] at hfresh
    cases hfresh
  · exact (hmeets ⟨plan, h⟩).1

theorem hasPlan_created {call : PlanCall} {decision : AuditEventInput}
    {planned : Except RuntimeError ProvisioningPlan} {plan : ProvisioningPlan} {key : String}
    (hkey : call.idempotencyKey = some key)
    (hcreates : Creates H regExp app call decision planned plan)
    (hmeets : Meets H regExp app (.createProvisioningPlan call decision planned)) :
    HasPlan (app.perform H regExp (.createProvisioningPlan call decision planned)) call key
      plan.id := by
  obtain ⟨hfresh, hresult⟩ := hcreates
  rcases createProvisioningPlan_cases H regExp app call decision planned with
    ⟨-, hanswered⟩ | ⟨stored, answer, hstored, hconnector, -, rfl, hstoredKey, hprepared, hrecords⟩
  · rw [hanswered plan hresult] at hfresh
    cases hfresh
  · obtain rfl : stored = plan := Except.ok.inj (hstored.symm.trans hresult)
    obtain ⟨hempty, -, hfits⟩ := hmeets ⟨stored, hfresh, hresult⟩
    have hget : ∀ id, (app.perform H regExp
        (.createProvisioningPlan call decision (.ok answer))).getProvisioningPlan id =
          (app.provisioningPlans.set stored.id stored).get? id :=
      fun id => congrArg (fun records : Records => records.plans.get? id) hrecords
    rw [hkey] at hempty hfresh hstoredKey hfits
    refine ⟨?_, ⟨stored, ?_, hstoredKey, ?_⟩, fun id other hother hhas => ?_⟩
    · rw [perform_connectors]
      exact hconnector
    · rw [hget, OrderedMap.get?_set_self]
    · rw [matchesExisting_congr (samePlan_of_prepared hprepared)]
      exact hfits rfl
    · rw [hget, OrderedMap.get?_set] at hother
      split at hother
      · rename_i hid
        exact hid.symm
      · exact absurd hhas (planOfKey_none (fun h => hempty (by rw [h])) hfresh hother)

/-- **A step** keeps the plan of a request. -/
theorem HasPlan.perform {call : PlanCall} {key : String} {id : CanonicalId}
    (h : HasPlan app call key id) (hkey : key ≠ "") {operation : RuntimeOperation}
    (hmeets : Meets H regExp app operation) :
    HasPlan (app.perform H regExp operation) call key id := by
  obtain ⟨current, hcurrent, hcurrentKey, hmatches⟩ := h.stored
  have hplans := perform_plans H regExp app operation
  have hconnector : ∃ connector,
      (app.perform H regExp operation).connectors.get? call.connectorId = some connector := by
    rw [perform_connectors]
    exact h.connector
  have hget : ∀ id, (app.perform H regExp operation).getProvisioningPlan id =
      (app.perform H regExp operation).provisioningPlans.get? id := fun _ => rfl
  generalize (app.perform H regExp operation).provisioningPlans = plans at hplans hget
  cases hplans with
  | same => exact ⟨hconnector, ⟨current, (hget id).trans hcurrent, hcurrentKey, hmatches⟩,
      fun id' other hother => h.only id' other ((hget id').symm.trans hother)⟩
  | @created call' decision plan stored hfresh hresult hstoredKey hprepared =>
    obtain ⟨-, hover, -⟩ := hmeets ⟨stored, hfresh, hresult⟩
    have hne : stored.id ≠ id := by
      intro heq
      have := hover current (by rw [← hprepared.id, heq, hcurrent])
      rw [hcurrentKey] at this
      cases this
    have hother : stored.idempotencyKey ≠ some key := by
      intro heq
      rw [← hstoredKey, heq] at hfresh
      exact planOfKey_none hkey hfresh hcurrent hcurrentKey
    refine ⟨hconnector, ⟨current, ?_, hcurrentKey, hmatches⟩, fun id' other hget' hhas => ?_⟩
    · rw [hget, OrderedMap.get?_set_ne _ _ hne]
      exact hcurrent
    · rw [hget, OrderedMap.get?_set] at hget'
      split at hget'
      · cases hget'
        exact absurd hhas hother
      · exact h.only id' other hget' hhas
  | @applied call' answers plan appliedPlan startedAt completedAt verified happlying _ _ =>
    obtain ⟨-, hcall, -⟩ := startProvisioningJob_applying.1 happlying
    have hplan : app.getProvisioningPlan plan.id = some plan := by
      rw [app.plan_id _ _ hcall.stored, hcall.stored]
    by_cases hid : plan.id = id
    · obtain rfl : current = plan := by
        rw [← hid, hplan, Option.some.injEq] at hcurrent
        exact hcurrent.symm
      refine ⟨hconnector, ⟨updatedPlan current (completed appliedPlan verified) completedAt, ?_,
        hcurrentKey, ?_⟩, fun id' other hget' hhas => ?_⟩
      · rw [hget, hid, OrderedMap.get?_set_self]
      · rw [← hmatches]
        exact matchesExisting_congr ⟨rfl, rfl, rfl, rfl, fun _ => rfl, rfl, rfl, rfl, rfl⟩ call
      · rw [hget, OrderedMap.get?_set] at hget'
        split at hget'
        · rename_i heq
          exact heq.symm.trans hid
        · exact h.only id' other hget' hhas
    · refine ⟨hconnector, ⟨current, ?_, hcurrentKey, hmatches⟩, fun id' other hget' hhas => ?_⟩
      · rw [hget, OrderedMap.get?_set_ne _ _ hid]
        exact hcurrent
      · rw [hget, OrderedMap.get?_set] at hget'
        split at hget'
        · rename_i heq
          cases hget'
          exact heq ▸ h.only plan.id plan hplan hhas
        · exact h.only id' other hget' hhas

/-- **A run** keeps the plan of a request. -/
theorem HasPlan.run {call : PlanCall} {key : String} {id : CanonicalId}
    {operations : List RuntimeOperation} (h : HasPlan app call key id) (hkey : key ≠ "")
    (hmeets : MeetsAll H regExp app operations) :
    HasPlan (run H regExp app operations) call key id := by
  induction operations generalizing app with
  | nil => exact h
  | cons operation operations ih => exact ih (h.perform hkey hmeets.1) hmeets.2

end

/-- **Plan idempotency**, in a run whose steps meet the condition. -/
theorem planIdempotency_of_meets (H : Host) (regExp : String → Option (String → Bool))
    (app : ProvisioningApp) (operations : List RuntimeOperation)
    (hmeets : MeetsAll H regExp app operations) : PlanIdempotency H regExp app operations := by
  constructor
  · intro before call decision planned between plan key hrun hkey hcreates call' decision' planned'
      hrepeats
    subst hrun
    obtain ⟨-, hmeets, hbetween⟩ := meetsAll_append.1 hmeets
    have hempty : key ≠ "" := fun h => hcreates.meets hmeets (by rw [hkey, h])
    rw [run_append, run_cons]
    exact ((hasPlan_created hkey hcreates hmeets).run hempty hbetween).answers hempty hrepeats hkey
      decision' planned'
  · intro before call decision planned key hrun hkey hfresh id stored key' hstored hhas hother
    subst hrun
    obtain ⟨-, hmeets, -⟩ := meetsAll_append.1 hmeets
    rw [run_append, run_cons, run_nil]
    rcases createProvisioningPlan_cases H regExp (run H regExp app before) call decision planned with
      ⟨hrecords, -⟩ | ⟨created, answer, hcreated, -, -, rfl, -, hprepared, hrecords⟩
    · exact (congrArg (fun records : Records => records.plans.get? id) hrecords).trans hstored
    · have hne : created.id ≠ id := by
        intro heq
        have hnone := (hmeets ⟨created, hfresh, hcreated⟩).2.1 stored
          (by rw [← hprepared.id, heq, hstored])
        rw [hhas] at hnone
        cases hnone
      exact (congrArg (fun records : Records => records.plans.get? id) hrecords).trans
        ((OrderedMap.get?_set_ne _ _ hne).trans hstored)

/-! ## The counterexample -/

def revoke (idempotencyKey : String) : RuntimeOperation :=
  .createProvisioningPlan (Mock.revocation idempotencyKey) Mock.noDecision (.ok (Mock.revokeAccess Mock.grantId))

/-- What is stored for a revocation. -/
def revocationPlan (idempotencyKey : String) : ProvisioningPlan :=
  { Mock.revokeAccess Mock.grantId with idempotencyKey := some idempotencyKey }

theorem creates_revocation {app : ProvisioningApp} (hconnectors : app.connectors = Mock.runtime.connectors)
    {idempotencyKey : String} (hfresh : app.planOfKey (some idempotencyKey) = none) :
    Creates plainHost Mock.ticketRegExp app (Mock.revocation idempotencyKey) Mock.noDecision
      (.ok (Mock.revokeAccess Mock.grantId)) (revocationPlan idempotencyKey) := by
  have hconnector : app.connectors.get? "mock" = some Mock.mockConnector := by
    rw [hconnectors]
    exact OrderedMap.get?_set_self _ _ _
  refine ⟨hfresh, ?_⟩
  unfold createProvisioningPlan requestProvisioningPlan
  rw [show (Mock.revocation idempotencyKey).connectorId = "mock" from rfl, hconnector,
    show (Mock.revocation idempotencyKey).idempotencyKey = some idempotencyKey from rfl, hfresh]
  rfl

/-- **Counterexample**: the second revocation is stored over the plan of the first. -/
theorem revocation_stored_over : ¬ PlanIdempotency plainHost Mock.ticketRegExp Mock.runtime
    [revoke "key:1", revoke "key:2"] := by
  intro h
  have hfirst := creates_revocation rfl (show Mock.runtime.planOfKey (some "key:1") = none from rfl)
  have hplans := hfirst.plans
  rw [← revoke] at hplans
  generalize hnow : Mock.runtime.perform plainHost Mock.ticketRegExp (revoke "key:1") = now at hplans
  have hconnectors : now.connectors = Mock.runtime.connectors := by
    rw [← hnow, perform_connectors]
  have hvalues : now.provisioningPlans.values = [revocationPlan "key:1"] := by
    rw [hplans]
    rfl
  have hfresh : now.planOfKey (some "key:2") = none := by
    show now.getProvisioningPlanByIdempotencyKey "key:2" = none
    unfold getProvisioningPlanByIdempotencyKey
    rw [hvalues]
    rfl
  have hsecond := (creates_revocation hconnectors hfresh).plans
  rw [← revoke] at hsecond
  have hkept := h.keeps [revoke "key:1"] (Mock.revocation "key:2") Mock.noDecision
    (.ok (Mock.revokeAccess Mock.grantId)) "key:2" rfl rfl
    (by rw [run_cons, run_nil, hnow]; exact hfresh)
    (revocationPlan "key:1").id (revocationPlan "key:1") "key:1"
    (by
      rw [run_cons, run_nil, hnow, getProvisioningPlan, hplans]
      exact OrderedMap.get?_set_self _ _ _)
    rfl (by decide)
  rw [run_cons, run_cons, run_nil, hnow, getProvisioningPlan, hsecond] at hkept
  have hover : (now.provisioningPlans.set (revocationPlan "key:2").id (revocationPlan "key:2")).get?
      (revocationPlan "key:1").id = some (revocationPlan "key:2") := OrderedMap.get?_set_self _ _ _
  rw [hover, Option.some.injEq] at hkept
  have hkeys := congrArg ProvisioningPlan.idempotencyKey hkept
  exact absurd hkeys (by decide)

/-- Another grant of the plan's. -/
def bobsGrantId : CanonicalId := "native-grant:mock:document:case-plan:user:bob:read:direct"

def bobsRevocation : PlanCall :=
  { Mock.revocation "key:2" with request := .revocation bobsGrantId }

/-- The two grants are revoked, under two keys. -/
def revokeBoth : List RuntimeOperation :=
  [revoke "key:1",
    .createProvisioningPlan bobsRevocation Mock.noDecision (.ok (Mock.revokeAccess bobsGrantId))]

theorem meets_revokeBoth : MeetsAll plainHost Mock.ticketRegExp Mock.runtime revokeBoth := by
  have hmatches : (Mock.revocation "key:1").matchesExisting
      ((Mock.revocation "key:1").asPrepared (Mock.revokeAccess Mock.grantId)) = true := by
    decide +kernel
  have hmatches' : bobsRevocation.matchesExisting
      (bobsRevocation.asPrepared (Mock.revokeAccess bobsGrantId)) = true := by
    decide +kernel
  have hplans := (creates_revocation rfl
    (show Mock.runtime.planOfKey (some "key:1") = none from rfl)).plans
  refine ⟨fun _ => ⟨by decide, ?_, fun _ => hmatches⟩,
    fun _ => ⟨by decide, ?_, fun _ => hmatches'⟩, trivial⟩
  · intro stored hstored
    cases hstored
  · intro stored hstored
    rw [getProvisioningPlan, revoke, hplans, OrderedMap.get?_set_ne _ _ (by decide)] at hstored
    cases hstored

/-- Each of the revocations has its plan. -/
theorem planIdempotency_revoked :
    PlanIdempotency plainHost Mock.ticketRegExp Mock.runtime revokeBoth :=
  planIdempotency_of_meets plainHost Mock.ticketRegExp Mock.runtime revokeBoth meets_revokeBoth

end AccessKit.Bugs.ReusedPlanIds
