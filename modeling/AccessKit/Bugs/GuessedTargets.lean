import AccessKit.L5Runtime.MockConnector
import AccessKit.L8Drift.Reconciliation

/-!
# Grants that a revocation guesses

Status: open. When a connector names no grant for a finding, one is inferred from the store:
the first grant with the finding's connector, resource, subject and permission, or else the
first one of the three without the permission
(packages/api/src/runtime-reconciliation.ts:218-228), although a finding whose target is
missing is refused (lines 134-140). The id is stored with the finding, where nothing tells it
from one that the connector named, and later dry runs take it whatever became of the grant.

Counterexample: a finding of read access and a subject that only has a write grant
(`write_revoked`).

Exact condition, of every step: where a grant is inferred, no grant has the finding's
connector, resource and subject, or the first one of these with its permission is of that
connector, resource and subject (it is when none of the three is empty); and a
synchronisation leaves, under each id that was inferred, a grant that fits its finding
(`targets_right`).
-/
namespace AccessKit.Bugs.GuessedTargets
open AccessKit.Core AccessKit.L1 AccessKit.L2.Audit AccessKit.L2.Fixtures AccessKit.L8
open AccessKit.L2.Store (InMemoryRebacStore GraphRecord)
open AccessKit.L5 (PlanCall ProvisioningPlan RuntimeError Discovery)

/-! ## Runs -/

/-- A runtime, and what the connector named for each finding when it detected it. -/
structure TargetState where
  app : DriftApp
  named : CanonicalId → Option CanonicalId

/-- A call of a dry run. -/
structure DryRunCall where
  findingId : CanonicalId
  request : DriftRemediationPlanRequest
  idempotencyKey : String
  decision : AuditEventInput
  planned : PlanCall → Except RuntimeError ProvisioningPlan

/-- A call of the runtime. -/
inductive DriftOperation
  | syncConnector (connectorId : String) (discovery : Discovery)
  | runReconciliation (connectorId : String) (options : ReconciliationRunOptions)
    (detected : List DriftFinding)
  | planDriftRemediationDryRun (call : DryRunCall)
  | createProvisioningPlan (call : PlanCall) (decision : AuditEventInput)
    (planned : Except RuntimeError ProvisioningPlan)

section
variable (H : Host) (regExp : String → Option (String → Bool)) (requestActor : Option CanonicalId)

/-- mirrors packages/api/src/runtime-reconciliation.ts:111-216 -/
def DryRunCall.run (call : DryRunCall) (app : DriftApp) :
    DriftApp × Except RuntimeError (Option DriftFinding) :=
  app.planDriftRemediationDryRun H requestActor regExp call.findingId call.request
    call.idempotencyKey call.decision call.planned

/-- What the connector named for the findings that it detects. -/
def named (s : TargetState) (connectorId : String) (options : ReconciliationRunOptions)
    (detected : List DriftFinding) (id : CanonicalId) : Option CanonicalId :=
  match DriftApp.reconciledFindings H s.app connectorId options (.ok detected) with
  | .error _ => s.named id
  | .ok _ =>
    match detected.reverse.find? (·.id = id) with
    | some finding => finding.nativeGrantId
    | none => s.named id

def perform (s : TargetState) : DriftOperation → TargetState
  | .syncConnector connectorId discovery =>
    { s with app := s.app.syncConnector connectorId discovery }
  | .runReconciliation connectorId options detected =>
    { app := (s.app.runReconciliation H requestActor connectorId options (.ok detected)).1
      named := named H s connectorId options detected }
  | .planDriftRemediationDryRun call => { s with app := (call.run H regExp requestActor s.app).1 }
  | .createProvisioningPlan call decision planned =>
    { s with app := { s.app with
        runtime := (s.app.runtime.createProvisioningPlan H regExp call decision planned).1 } }

/-! ## The law and its condition -/

/-- A grant is of the connector, resource and subject of a finding. -/
structure Concerns (grant : NativeGrant) (finding : DriftFinding) : Prop where
  connector : grant.sourceConnectorId = finding.sourceConnectorId
  resource : grant.targetObjectId = finding.resourceId
  subject : grant.subjectId = finding.subjectId

/-- A grant is the one that a finding is about. -/
structure Fits (grant : NativeGrant) (finding : DriftFinding) : Prop extends
    Concerns grant finding where
  permission : grant.nativePermission = finding.nativeAccess

/-- The connector named a grant for a finding, or it fits. -/
def Targeted (s : TargetState) (finding : DriftFinding) (nativeGrantId : CanonicalId) : Prop :=
  s.named finding.id = some nativeGrantId ∨
    ∃ grant, s.app.store.nativeGrants.get? nativeGrantId = some grant ∧ Fits grant finding

/-- A dry run asks for the revocation of a grant that is targeted; without one it is refused,
as a missing target once it is past its checks, and stores nothing. -/
structure TargetsRight (s : TargetState) (call : DryRunCall) : Prop where
  target : ∀ finding, s.app.getDriftFinding call.findingId = some finding →
    finding.recommendedAction = .revoke → ∀ asked nativeGrantId plan,
      s.app.requestRemediation requestActor regExp call.findingId call.request
        call.idempotencyKey = .ok (some (asked, nativeGrantId, plan)) →
      ∃ g, plan.request = .revocation g ∧ Targeted s finding g
  missing : ∀ finding, s.app.getDriftFinding call.findingId = some finding →
    finding.recommendedAction = .revoke → (¬ ∃ g, Targeted s finding g) →
      ∃ e, call.run H regExp requestActor s.app = (s.app, .error e) ∧
        (s.app.assertRemediationAllowed regExp finding call.request = .ok () →
          e = DriftApp.targetMissing finding)

/-- Of the grants that may be a finding's there is none, or the first one with its permission
concerns it. -/
def Inferable (app : DriftApp) (finding : DriftFinding) : Prop :=
  app.candidateGrants finding = [] ∨
    ∃ grant, (app.candidateGrants finding).find?
      (·.nativePermission = finding.nativeAccess) = some grant ∧ Concerns grant finding

/-- What a call needs. -/
def Meets (s : TargetState) : DriftOperation → Prop
  | .syncConnector connectorId discovery =>
    ∀ id finding, s.app.getDriftFinding id = some finding → finding.recommendedAction = .revoke →
      ∀ g, finding.nativeGrantId = some g → s.named id ≠ some g →
        ∃ grant, (s.app.syncConnector connectorId discovery).store.nativeGrants.get? g =
          some grant ∧ Fits grant finding
  | .runReconciliation _ _ detected =>
    ∀ finding ∈ detected, finding.recommendedAction = .revoke → finding.nativeGrantId = none →
      Inferable s.app finding
  | .planDriftRemediationDryRun call =>
    ∀ finding, s.app.getDriftFinding call.findingId = some finding →
      finding.recommendedAction = .revoke → finding.nativeGrantId = none → Inferable s.app finding
  | .createProvisioningPlan _ _ _ => True

/-- What calls lead to when each meets a condition. The ids that findings come with at the
start are named. -/
inductive Reached (condition : TargetState → DriftOperation → Prop) : TargetState → Prop
  | opened (app : DriftApp) :
    Reached condition { app, named := fun id => (app.getDriftFinding id).bind (·.nativeGrantId) }
  | performed {s : TargetState} (h : Reached condition s) (operation : DriftOperation)
    (hcondition : condition s operation) :
    Reached condition (perform H regExp requestActor s operation)

end

/-! ## Targets -/

/-- The ids that are stored with findings are targeted. -/
def Targets (s : TargetState) : Prop :=
  ∀ id finding, s.app.getDriftFinding id = some finding → finding.recommendedAction = .revoke →
    ∀ g, finding.nativeGrantId = some g → Targeted s finding g

section
variable {H : Host} {regExp : String → Option (String → Bool)} {requestActor : Option CanonicalId}
  {s : TargetState} {app : DriftApp} {finding : DriftFinding}

theorem inferred_fits (hinferable : Inferable app finding) {g : CanonicalId}
    (hg : app.inferNativeGrantIdForFinding finding = some g) :
    ∃ grant, app.store.nativeGrants.get? g = some grant ∧ Fits grant finding := by
  unfold DriftApp.inferNativeGrantIdForFinding at hg
  rcases hinferable with hnone | ⟨grant, hgrant, hconcerns⟩
  · rw [hnone] at hg
    cases hg
  · rw [hgrant] at hg
    obtain rfl := Option.some.inj hg
    have hlisted := List.mem_of_find?_eq_some hgrant
    rw [DriftApp.candidateGrants, DriftApp.listNativeGrants, List.mem_filter] at hlisted
    refine ⟨grant, (OrderedMap.mem_values_key app.store.nativeGrant_id).1 hlisted.1, hconcerns, ?_⟩
    simpa using List.find?_some hgrant

theorem target_targeted (htargets : Targets s) {call : DryRunCall}
    (hmeets : Meets s (.planDriftRemediationDryRun call))
    (hfinding : s.app.getDriftFinding call.findingId = some finding)
    (hrevoke : finding.recommendedAction = .revoke) {g : CanonicalId}
    (hg : s.app.remediationTarget finding = some g) : Targeted s finding g := by
  unfold DriftApp.remediationTarget at hg
  cases hstored : finding.nativeGrantId with
  | some stored =>
    rw [hstored, Option.some_or] at hg
    obtain rfl := Option.some.inj hg
    exact htargets _ _ hfinding hrevoke _ hstored
  | none =>
    rw [hstored, Option.none_or] at hg
    exact .inr (inferred_fits (hmeets finding hfinding hrevoke hstored) hg)

/-- **The law of a call.** -/
theorem targetsRight_of_targets (htargets : Targets s) {call : DryRunCall}
    (hmeets : Meets s (.planDriftRemediationDryRun call)) :
    TargetsRight H regExp requestActor s call := by
  have htarget : ∀ finding, s.app.getDriftFinding call.findingId = some finding →
      finding.recommendedAction = .revoke → ∀ g, truthy (s.app.remediationTarget finding) = some g →
        Targeted s finding g := fun finding hfinding hrevoke g hg =>
    target_targeted htargets hmeets hfinding hrevoke (truthy_eq_some.1 hg).1
  refine ⟨fun finding hfinding hrevoke asked nativeGrantId plan hasked => ?_,
    fun finding hfinding hrevoke hnone => ?_⟩
  · obtain ⟨hthere, -, rfl, hplan⟩ := DriftApp.requestRemediation_ok hasked
    obtain rfl := Option.some.inj (hfinding.symm.trans hthere)
    obtain ⟨g, hg, hplan⟩ := hplan hrevoke
    exact ⟨g, hplan, htarget finding hfinding hrevoke g hg⟩
  · have hmissing : truthy (s.app.remediationTarget finding) = none := by
      by_contra hsome
      obtain ⟨g, hg⟩ := Option.ne_none_iff_exists'.1 hsome
      exact hnone ⟨g, htarget finding hfinding hrevoke g hg⟩
    obtain ⟨e, he, hallowed⟩ : ∃ e, s.app.requestRemediation requestActor regExp call.findingId
        call.request call.idempotencyKey = .error e ∧ (s.app.assertRemediationAllowed regExp finding
          call.request = .ok () → e = DriftApp.targetMissing finding) :=
      DriftApp.requestRemediation_missing hfinding hrevoke hmissing call.idempotencyKey
    refine ⟨e, ?_, hallowed⟩
    unfold DryRunCall.run DriftApp.planDriftRemediationDryRun
    rw [he]

theorem targeted_retargeted {nativeGrantId : Option CanonicalId} {updated : DriftFinding}
    (h : DriftApp.Retargeted finding nativeGrantId updated) {g : CanonicalId} {t : TargetState}
    (hnamed : t.named = s.named) (hstore : t.app.store = s.app.store)
    (htargeted : Targeted s finding g) : Targeted t updated g := by
  rw [Targeted, hnamed, hstore, h.id]
  refine htargeted.imp_right fun ⟨grant, hgrant, hfits⟩ => ⟨grant, hgrant, ⟨?_, ?_, ?_⟩, ?_⟩
  · rw [hfits.connector, h.sourceConnectorId]
  · rw [hfits.resource, h.resourceId]
  · rw [hfits.subject, h.subjectId]
  · rw [hfits.permission, h.nativeAccess]

theorem targets_dryRun (htargets : Targets s) {call : DryRunCall}
    (hmeets : Meets s (.planDriftRemediationDryRun call)) :
    Targets (perform H regExp requestActor s (.planDriftRemediationDryRun call)) := by
  intro id finding hfinding hrevoke g hg
  have hstore : (call.run H regExp requestActor s.app).1.store = s.app.store :=
    (DriftApp.planDriftRemediationDryRun_spec ..).1
  have hsame : s.app.getDriftFinding id = some finding →
      Targeted (perform H regExp requestActor s (.planDriftRemediationDryRun call)) finding g := by
    intro hthere
    unfold Targeted perform
    rw [hstore]
    exact htargets id finding hthere hrevoke g hg
  rcases (DriftApp.planDriftRemediationDryRun_spec H requestActor s.app regExp call.findingId
    call.request call.idempotencyKey call.decision call.planned).2 with
    hnothing | ⟨asked, nativeGrantId, plan, updated, hasked, hupdated, hset⟩
  · exact hsame ((congrArg (·.get? id) hnothing).symm.trans hfinding)
  · have hget : (s.app.driftFindings.set updated.id updated).get? id = some finding :=
      (congrArg (·.get? id) hset).symm.trans hfinding
    rw [OrderedMap.get?_set] at hget
    split at hget
    · obtain rfl := Option.some.inj hget
      obtain ⟨hthere, -, rfl, -⟩ := DriftApp.requestRemediation_ok hasked
      rw [hupdated.nativeGrantId] at hg
      rw [hupdated.recommendedAction] at hrevoke
      exact targeted_retargeted (s := s) hupdated rfl hstore
        (target_targeted htargets hmeets hthere hrevoke hg)
    · exact hsame hget

theorem targets_reconciliation (htargets : Targets s) {connectorId : String}
    {options : ReconciliationRunOptions} {detected : List DriftFinding}
    (hmeets : Meets s (.runReconciliation connectorId options detected)) :
    Targets (perform H regExp requestActor s
      (.runReconciliation connectorId options detected)) := by
  intro id finding hfinding hrevoke g hg
  have hid : finding.id = id := (perform H regExp requestActor s
    (.runReconciliation connectorId options detected)).app.finding_id id finding hfinding
  have hstore : (s.app.runReconciliation H requestActor connectorId options
    (.ok detected)).1.store = s.app.store := (DriftApp.runReconciliation_spec ..).2
  unfold Targeted perform named at *
  rw [hstore, hid]
  dsimp only at hfinding ⊢
  rw [DriftApp.runReconciliation_findings] at hfinding
  cases hfindings : DriftApp.reconciledFindings H s.app connectorId options (.ok detected) with
  | error e =>
    rw [hfindings] at hfinding
    simpa only [Targeted, hid] using htargets id finding hfinding hrevoke g hg
  | ok findings =>
    rw [hfindings] at hfinding
    dsimp only at hfinding ⊢
    obtain ⟨startedAt, trigger, schedule, hrel⟩ := DriftApp.reconciled_last hfindings id
    cases hlast : detected.reverse.find? (·.id = id) with
    | none =>
      rw [hlast] at hrel
      generalize findings.reverse.find? (·.id = id) = last at hrel hfinding
      cases hrel
      simpa only [Targeted, hid] using htargets id finding hfinding hrevoke g hg
    | some d =>
      rw [hlast] at hrel
      generalize findings.reverse.find? (·.id = id) = last at hrel hfinding
      cases hrel with
      | some henrich =>
        obtain rfl := Option.some.inj hfinding
        have henriched := enrichDriftFindingLifecycle_ok henrich
        have hgrant := henriched.nativeGrantId
        rw [hg] at hgrant
        cases hnamed : d.nativeGrantId with
        | some named =>
          rw [hnamed, Option.some_or] at hgrant
          exact .inl (hnamed.trans hgrant.symm)
        | none =>
          rw [hnamed, Option.none_or, Option.none_or] at hgrant
          rw [henriched.rest] at hrevoke ⊢
          have hmem := List.mem_reverse.1 (List.mem_of_find?_eq_some hlast)
          obtain ⟨grant, hget, hfits⟩ :=
            inferred_fits (hmeets d hmem hrevoke hnamed) hgrant.symm
          exact .inr ⟨grant, hget,
            ⟨hfits.connector, hfits.resource, hfits.subject⟩, hfits.permission⟩

/-- **One step.** -/
theorem targets_perform (htargets : Targets s) (operation : DriftOperation)
    (hmeets : Meets s operation) : Targets (perform H regExp requestActor s operation) := by
  cases operation with
  | syncConnector connectorId discovery =>
    intro id finding hfinding hrevoke g hg
    have hthere : s.app.getDriftFinding id = some finding :=
      (congrArg (·.get? id) (DriftApp.syncConnector_driftFindings ..)).symm.trans hfinding
    have hid := s.app.finding_id id finding hthere
    by_cases hnamed : s.named id = some g
    · exact .inl (hid ▸ hnamed)
    · exact .inr (hmeets id finding hthere hrevoke g hg hnamed)
  | runReconciliation connectorId options detected => exact targets_reconciliation htargets hmeets
  | planDriftRemediationDryRun call => exact targets_dryRun htargets hmeets
  | createProvisioningPlan call decision planned => exact htargets

theorem targets_reached (h : Reached H regExp requestActor Meets s) : Targets s := by
  induction h with
  | opened app =>
    intro id finding hfinding hrevoke g hg
    have hthere : app.getDriftFinding id = some finding := hfinding
    refine .inl ?_
    rw [app.finding_id id finding hthere]
    change (app.getDriftFinding id).bind (·.nativeGrantId) = some g
    rw [hthere]
    exact hg
  | performed h operation hmeets ih => exact targets_perform ih operation hmeets

end

/-! ## The counterexample and the theorem -/

/-- A grant of the external user on the plan. -/
def grantOf (nativePermission : String) : NativeGrant where
  id := "grant:external"
  version := "native-grant:v1"
  createdAt := "2026-05-21T16:00:00.000Z"
  targetPlatform := "mock"
  targetObjectId := "document:case-plan"
  subjectId := "user:external"
  principalType := .user
  nativePermission := nativePermission
  grantType := .direct
  sourceConnectorId := "mock"
  status := .observed
  observedAt := "2026-05-21T16:00:00.000Z"

/-- Read access of the user that was not intended, where the connector named no grant. -/
def readFinding : DriftFinding where
  id := "drift:external"
  version := "drift:v1"
  createdAt := "2026-05-21T16:00:00.000Z"
  resourceId := "document:case-plan"
  subjectId := "user:external"
  nativeAccess := "read"
  intendedAccess := "none"
  severity := .high
  detectedAt := "2026-05-21T16:00:00.000Z"
  sourceConnectorId := "mock"
  recommendedAction := .revoke
  status := .open
  hookEvidence := some []

/-- A runtime with the finding, the grant, and a readiness report. -/
def appWith (nativePermission : String) : DriftApp where
  runtime := L5.Mock.approvedRuntime
  store := InMemoryRebacStore.empty.upsertNativeGrant (grantOf nativePermission)
  driftFindings := OrderedMap.empty.set readFinding.id readFinding
  reconciliationRuns := .empty
  sequences := .empty
  finding_id := OrderedMap.get?_set_key (fun _ _ h => by cases h) readFinding

/-- A dry run of the finding. -/
def dryRun : DryRunCall where
  findingId := readFinding.id
  request :=
    { approval := L5.Mock.approval
      autoRepairPolicy :=
        { enabled := false
          allowedActions := [.revoke]
          maxSeverity := .high
          requireApproval := true
          requireConnectorReadiness := true
          liveProviderWrites := false }
      readinessReportId := some L5.Mock.report.id }
  idempotencyKey := "key:dry-run"
  decision := L5.Mock.noDecision
  planned _ := .ok (L5.Mock.revokeAccess "grant:external")

theorem getDriftFinding_appWith (nativePermission : String) :
    (appWith nativePermission).getDriftFinding readFinding.id = some readFinding :=
  OrderedMap.get?_set_self ..

theorem candidateGrants_appWith (nativePermission : String) :
    (appWith nativePermission).candidateGrants readFinding = [grantOf nativePermission] := rfl

theorem ready_report : L5.ProvisioningApp.Ready L5.Mock.ticketRegExp L5.Mock.mockConnector "mock"
    (some L5.Mock.approval) none L5.Mock.report where
  connectorId := rfl
  provider := rfl
  tenantBoundary := rfl
  status := rfl
  liveProviderWritesAllowed := rfl
  control := fun _ h => by cases h
  changeTicket := fun a ha => by
    cases ha
    exact L5.Mock.changeTicketMatches_approval

theorem allowed_appWith (nativePermission : String) :
    (appWith nativePermission).assertRemediationAllowed L5.Mock.ticketRegExp readFinding
      dryRun.request = .ok () := by
  have hconnector : (appWith nativePermission).runtime.connectors.get? "mock" =
      some L5.Mock.mockConnector := OrderedMap.get?_set_self ..
  have hreadiness : (appWith nativePermission).runtime.assertEnforcementReadiness
      L5.Mock.ticketRegExp L5.Mock.mockConnector "mock" (some L5.Mock.report.id)
      (some L5.Mock.approval) none = .ok () :=
    L5.ProvisioningApp.enforcementReadiness_ok.2 ⟨L5.Mock.report.id, L5.Mock.report, rfl,
      OrderedMap.get?_set_self .., ready_report⟩
  refine L2.Audit.bind_ok.2 ⟨(), rfl, ?_⟩
  rw [show readFinding.sourceConnectorId = "mock" from rfl, hconnector]
  exact hreadiness

theorem requestRemediation_appWith (requestActor : Option CanonicalId)
    (nativePermission : String) :
    ∃ plan, (appWith nativePermission).requestRemediation requestActor L5.Mock.ticketRegExp
      dryRun.findingId dryRun.request dryRun.idempotencyKey =
        .ok (some (readFinding, some "grant:external", plan)) ∧
      plan.request = .revocation "grant:external" := by
  have htarget : (appWith nativePermission).remediationTarget readFinding =
      some "grant:external" := by
    unfold DriftApp.remediationTarget DriftApp.inferNativeGrantIdForFinding
    rw [candidateGrants_appWith]
    by_cases hread : nativePermission = "read" <;>
      simp [readFinding, grantOf, hread]
  refine ⟨DriftApp.remediationCall requestActor readFinding (some "grant:external")
    dryRun.idempotencyKey, ?_, rfl⟩
  unfold DriftApp.requestRemediation
  rw [show (appWith nativePermission).getDriftFinding dryRun.findingId = some readFinding from
    getDriftFinding_appWith nativePermission]
  simp only [allowed_appWith, htarget]
  rfl

/-- **A write grant is revoked for read access.** -/
theorem write_revoked :
    ¬ ∀ (H : Host) (regExp : String → Option (String → Bool)) (requestActor : Option CanonicalId)
      (s : TargetState) (call : DryRunCall),
      Reached H regExp requestActor (fun _ _ => True) s →
      TargetsRight H regExp requestActor s call := by
  intro hall
  obtain ⟨plan, hasked, hplan⟩ := requestRemediation_appWith none "write"
  obtain ⟨g, hg, hnamed | ⟨grant, hgrant, hfits⟩⟩ :=
    (hall plainHost L5.Mock.ticketRegExp none _ dryRun (.opened (appWith "write"))).target
      readFinding (getDriftFinding_appWith "write") rfl _ _ _ hasked
  · cases hnamed.symm.trans (congrArg (Option.bind · DriftFinding.nativeGrantId)
      (getDriftFinding_appWith "write"))
  · obtain rfl := L5.PlanRequest.revocation.inj (hplan.symm.trans hg)
    obtain rfl := Option.some.inj (hgrant.symm.trans (OrderedMap.get?_set_self ..))
    exact absurd hfits.permission (by decide)

/-- **When a dry run targets the right grant.** In every run whose steps meet the condition,
and for every dry run that meets it there. -/
theorem targets_right (H : Host) (regExp : String → Option (String → Bool))
    (requestActor : Option CanonicalId) (s : TargetState) (call : DryRunCall)
    (hreached : Reached H regExp requestActor Meets s)
    (hmeets : Meets s (.planDriftRemediationDryRun call)) :
    TargetsRight H regExp requestActor s call :=
  targetsRight_of_targets (targets_reached hreached) hmeets

/-- The finding and a grant of its access. -/
theorem targets_read : TargetsRight plainHost L5.Mock.ticketRegExp none
    { app := appWith "read"
      named := fun id => ((appWith "read").getDriftFinding id).bind (·.nativeGrantId) } dryRun := by
  refine targets_right plainHost L5.Mock.ticketRegExp none _ dryRun (.opened (appWith "read")) ?_
  intro finding hfinding _ _
  obtain rfl := Option.some.inj ((getDriftFinding_appWith "read").symm.trans hfinding)
  exact .inr ⟨grantOf "read", by rw [candidateGrants_appWith]; rfl, rfl, rfl, rfl⟩

end AccessKit.Bugs.GuessedTargets
