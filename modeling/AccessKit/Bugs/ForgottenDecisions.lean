import AccessKit.L5Runtime.MockConnector
import AccessKit.L8Drift.Reconciliation

/-!
# Decisions that a reconciliation forgets

Status: open. A reconciliation stores each finding as the connector detects it
(packages/api/src/runtime-reconciliation.ts:47-58) over the one that is there
(packages/core/src/store.ts:370-373). Ids of findings are stable, so the approval, the dry-run
repair, the hook evidence and the accepted status that were recorded on a finding are gone when
it is detected again, although docs/drift-detection-model.md:56 has them in its evidence.

Counterexample: a finding with a linked ticket, detected again (`ticket_forgotten`).

Exact condition: the finding that is detected has them itself (`keeps_iff`).
-/
namespace AccessKit.Bugs.ForgottenDecisions
open AccessKit.Core AccessKit.L1 AccessKit.L2.Fixtures AccessKit.L8

/-- What was recorded on a finding is on another. -/
structure Keeps (finding other : DriftFinding) : Prop where
  approval : ∀ approval, finding.remediation.bind (·.approval) = some approval →
    other.remediation.bind (·.approval) = some approval ∧
      other.remediation.bind (·.approvedAt) = finding.remediation.bind (·.approvedAt)
  dryRunRepair : ∀ repair, finding.remediation.bind (·.dryRunRepair) = some repair →
    other.remediation.bind (·.dryRunRepair) = some repair
  hookEvidence : ∀ hook ∈ finding.hookEvidence.getD [], hook ∈ other.hookEvidence.getD []
  accepted : finding.status = .accepted →
    other.status = .accepted ∧ other.exceptionExpiresAt = finding.exceptionExpiresAt

section
variable {H : Host} {app : DriftApp} {finding detected stored : DriftFinding}

theorem keeps_enriched {startedAt : IsoDateTime} {trigger : ReconciliationTrigger}
    {schedule : ReconciliationScheduleEvidence}
    (h : app.enrichDetected H startedAt trigger schedule detected = .ok stored) :
    Keeps finding stored ↔ Keeps finding detected := by
  have henriched := enrichDriftFindingLifecycle_ok h
  have hremediation {α : Type} (p : DriftRemediationEvidence → Option α) (hp : p {} = none) :
      stored.remediation.bind p = detected.remediation.bind p := by
    rw [henriched.remediation]
    cases detected.remediation with
    | none => exact hp
    | some remediation => rfl
  have hhooks : stored.hookEvidence.getD [] = detected.hookEvidence.getD [] := by
    rw [henriched.hookEvidence]
    cases detected.hookEvidence <;> rfl
  have hstatus : stored.status = detected.status := by rw [henriched.rest]
  have hexception : stored.exceptionExpiresAt = detected.exceptionExpiresAt := by
    rw [henriched.rest]
  have happroval := hremediation (·.approval) rfl
  have happrovedAt := hremediation (·.approvedAt) rfl
  have hrepair := hremediation (·.dryRunRepair) rfl
  constructor
  · rintro ⟨approval, repair, hooks, accepted⟩
    exact ⟨by rwa [← happroval, ← happrovedAt], by rwa [← hrepair], by rwa [← hhooks],
      by rwa [← hstatus, ← hexception]⟩
  · rintro ⟨approval, repair, hooks, accepted⟩
    exact ⟨by rwa [happroval, happrovedAt], by rwa [hrepair], by rwa [hhooks],
      by rwa [hstatus, hexception]⟩

theorem keeps_again {requestActor : Option CanonicalId} {connectorId : String}
    {options : ReconciliationRunOptions} {all findings : List DriftFinding}
    (hfindings : DriftApp.reconciledFindings H app connectorId options (.ok all) = .ok findings)
    (hagain : all.reverse.find? (·.id = finding.id) = some detected) :
    (∃ stored, (app.runReconciliation H requestActor connectorId options
      (.ok all)).1.getDriftFinding finding.id = some stored ∧ Keeps finding stored) ↔
      Keeps finding detected := by
  obtain ⟨startedAt, trigger, schedule, hrel⟩ := DriftApp.reconciled_last hfindings finding.id
  rw [DriftApp.runReconciliation_findings, hfindings]
  rw [hagain] at hrel
  dsimp only
  generalize findings.reverse.find? (·.id = finding.id) = last at hrel ⊢
  cases hrel with
  | some henriched => simp [keeps_enriched henriched]

end

/-- The mock connector's finding, as it detects it. -/
def mockFinding : DriftFinding where
  id := "drift:001"
  version := "drift:v1"
  createdAt := "2026-05-21T16:00:00.000Z"
  resourceId := "document:case-plan"
  subjectId := "user:external"
  nativeGrantId := some "native-grant:mock:document:case-plan:user:external:read:direct"
  nativeAccess := "read"
  intendedAccess := "none"
  severity := .high
  lifecycleState := some .open
  ownerId := some "role:security-operations"
  assigneeId := some "role:security-engineer"
  detectedAt := "2026-05-21T16:00:00.000Z"
  sourceConnectorId := "mock"
  recommendedAction := .revoke
  status := .open
  scheduledReconciliation := some
    { cadence := .manual
      scheduledAt := "2026-05-21T16:00:00.000Z"
      gracePeriodHours := 0
      overdue := false }
  hookEvidence := some []
  remediation := some {}

/-- A ticket that an operator linked to it. -/
def ticket : DriftHookEvidence where
  system := .ticket
  referenceId := "TICKET-1"
  status := .linked
  recordedAt := "2026-05-21T16:30:00.000Z"

/-- The finding with a ticket. -/
def ticketed : DriftFinding :=
  { mockFinding with hookEvidence := some [ticket] }

/-- A runtime with the mock connector that has stored a finding. -/
def appWith (finding : DriftFinding) : DriftApp where
  runtime := L5.Mock.runtime
  store := .empty
  driftFindings := OrderedMap.empty.set finding.id finding
  reconciliationRuns := .empty
  sequences := .empty
  finding_id := OrderedMap.get?_set_key (fun _ _ h => by cases h) finding

theorem getDriftFinding_appWith (finding : DriftFinding) :
    (appWith finding).getDriftFinding finding.id = some finding :=
  OrderedMap.get?_set_self ..

/-- The mock connector's finding is enriched and stored, whatever hooks it is detected with. -/
theorem reconciled_mock (finding : DriftFinding) (hooks : Option (List DriftHookEvidence)) :
    ∃ findings, DriftApp.reconciledFindings plainHost (appWith finding) "mock" {}
      (.ok [{ mockFinding with hookEvidence := hooks }]) = .ok findings := by
  have hconnector : (appWith finding).runtime.connectors.get? "mock" =
      some L5.Mock.mockConnector := OrderedMap.get?_set_self ..
  unfold DriftApp.reconciledFindings
  rw [hconnector]
  exact ⟨_, rfl⟩

/-- **A ticket is forgotten.** -/
theorem ticket_forgotten :
    ¬ ∀ (H : Host) (requestActor : Option CanonicalId) (app : DriftApp) (connectorId : String)
      (options : ReconciliationRunOptions) (detected findings : List DriftFinding)
      (finding again : DriftFinding),
      app.getDriftFinding finding.id = some finding →
      DriftApp.reconciledFindings H app connectorId options (.ok detected) = .ok findings →
      detected.reverse.find? (·.id = finding.id) = some again →
      ∃ stored, (app.runReconciliation H requestActor connectorId options
        (.ok detected)).1.getDriftFinding finding.id = some stored ∧ Keeps finding stored := by
  intro hall
  obtain ⟨findings, hfindings⟩ := reconciled_mock ticketed (some [])
  have hkept := (keeps_again hfindings rfl).1 (hall plainHost none (appWith ticketed) "mock" {}
    [mockFinding] findings ticketed mockFinding (getDriftFinding_appWith ticketed) hfindings rfl)
  exact absurd (hkept.hookEvidence ticket (List.mem_singleton.2 rfl)) List.not_mem_nil

/-- **Exactly when decisions are kept.** -/
theorem keeps_iff (H : Host) (requestActor : Option CanonicalId) (app : DriftApp)
    (connectorId : String) (options : ReconciliationRunOptions)
    (detected findings : List DriftFinding) (finding again : DriftFinding)
    (hfindings : DriftApp.reconciledFindings H app connectorId options (.ok detected) =
      .ok findings)
    (hagain : detected.reverse.find? (·.id = finding.id) = some again) :
    (∃ stored, (app.runReconciliation H requestActor connectorId options
      (.ok detected)).1.getDriftFinding finding.id = some stored ∧ Keeps finding stored) ↔
      Keeps finding again :=
  keeps_again hfindings hagain

theorem keeps_self (finding : DriftFinding) : Keeps finding finding where
  approval _ h := ⟨h, rfl⟩
  dryRunRepair _ h := h
  hookEvidence _ h := h
  accepted h := ⟨h, rfl⟩

/-- A ticket is kept when the connector detects the finding with it. -/
theorem keeps_ticketed : ∃ findings,
    DriftApp.reconciledFindings plainHost (appWith ticketed) "mock" {} (.ok [ticketed]) =
      .ok findings ∧
    ∃ stored, ((appWith ticketed).runReconciliation plainHost none "mock" {}
      (.ok [ticketed])).1.getDriftFinding ticketed.id = some stored ∧
        Keeps ticketed stored ∧ ticket ∈ stored.hookEvidence.getD [] := by
  obtain ⟨findings, hfindings⟩ := reconciled_mock ticketed (some [ticket])
  obtain ⟨stored, hstored, hkeeps⟩ := (keeps_iff plainHost none (appWith ticketed) "mock" {}
    [ticketed] findings ticketed ticketed hfindings rfl).2 (keeps_self ticketed)
  exact ⟨findings, hfindings, stored, hstored, hkeeps,
    hkeeps.hookEvidence ticket (List.mem_singleton.2 rfl)⟩

end AccessKit.Bugs.ForgottenDecisions
