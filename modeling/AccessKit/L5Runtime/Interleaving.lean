import AccessKit.Core.Interleave
import AccessKit.L5Runtime.ProvisioningRuns

/-!
# Calls of the runtime that interleave

The runtime is one thread: a call runs until it waits for its connector, and other calls
run before it goes on. The calls of a runtime as `Calls` that share its state, with the
calls that do not wait among them.

Results:
* `reached_controlled`: in every run the enforcement plans that are stored, and those that
  calls hold while they wait, carry an approval and control settings.
-/
namespace AccessKit.L5
open AccessKit.Core AccessKit.L1 AccessKit.L2.Audit

/-- A call, with the event of the engine's decision for a plan. -/
inductive RuntimeCall
  | plan (call : PlanCall) (decision : AuditEventInput)
  | job (call : JobCall)
  | recordEnforcementReadinessReport (report : EnforcementReadinessReport)
  | recordAudit (requestActor : Option CanonicalId) (inputs : List AuditEventInput)
  | now

/-- Where a call is. -/
inductive RuntimeProgress
  | plan (progress : ProvisioningApp.PlanProgress)
  | job (progress : JobProgress)
  | done

/-- What the connector answers. -/
structure ConnectorAnswers extends JobAnswers where
  planned : Except RuntimeError ProvisioningPlan

def ProvisioningApp.PlanProgress.isSettled : ProvisioningApp.PlanProgress → Bool
  | .settled _ => true
  | .planning _ => false

def JobProgress.isSettled : JobProgress → Bool
  | .settled _ => true
  | _ => false

namespace ProvisioningApp

section
variable (H : Host) (regExp : String → Option (String → Bool))

/-- Go on with the plan that the connector answered. -/
def resumeProvisioningPlan (app : ProvisioningApp) (call : PlanCall)
    (planned : Except RuntimeError ProvisioningPlan) :
    PlanProgress → ProvisioningApp × PlanProgress
  | .planning connector =>
    let (app, result) := app.storeProvisioningPlan H regExp call connector planned
    (app, .settled result)
  | .settled result => (app, .settled result)

def startCall (app : ProvisioningApp) : RuntimeCall → ProvisioningApp × RuntimeProgress
  | .plan call decision =>
    let (app, progress) := app.requestProvisioningPlan H call decision
    (app, .plan progress)
  | .job call =>
    let (app, progress) := app.startProvisioningJob H regExp call
    (app, .job progress)
  | .recordEnforcementReadinessReport report => (app.recordEnforcementReadinessReport report, .done)
  | .recordAudit requestActor inputs => ((recordAll H requestActor inputs app).1, .done)
  | .now => (app.tick, .done)

def resumeCall (app : ProvisioningApp) (answers : ConnectorAnswers) :
    RuntimeCall → RuntimeProgress → ProvisioningApp × RuntimeProgress
  | .plan call _, .plan progress =>
    let (app, progress) := app.resumeProvisioningPlan H regExp call answers.planned progress
    (app, .plan progress)
  | .job call, .job progress =>
    let (app, progress) := app.resumeProvisioningJob H call answers.toJobAnswers progress
    (app, .job progress)
  | _, progress => (app, progress)

/-- The calls of a runtime. -/
def runtimeCalls : Calls ProvisioningApp RuntimeCall RuntimeProgress ConnectorAnswers where
  start call app := app.startCall H regExp call
  resume call answers progress app := app.resumeCall H regExp answers call progress
  ended
    | .plan progress => progress.isSettled
    | .job progress => progress.isSettled
    | .done => true

end

/-! ## Plans with an approval and control settings -/

/-- What the runtime stores of an enforcement plan. -/
def ControlledPlan (plan : ProvisioningPlan) : Prop :=
  plan.mode = .enforcement → plan.approval.isSome ∧ plan.control.isSome

/-- The plans of a store are such plans. -/
def Controlled (app : ProvisioningApp) : Prop :=
  ∀ id plan, app.getProvisioningPlan id = some plan → ControlledPlan plan

/-- The plan that a call holds is such a plan. -/
def ControlledProgress : RuntimeProgress → Prop
  | .job (.applying plan _) => ControlledPlan plan
  | .job (.verifying plan _ _ _) => ControlledPlan plan
  | _ => True

section
variable {H : Host} {regExp : String → Option (String → Bool)} {app : ProvisioningApp}

theorem controlled_congr {app' : ProvisioningApp} (h : Controlled app)
    (hplans : app'.provisioningPlans = app.provisioningPlans) : Controlled app' := by
  intro id plan hplan
  rw [getProvisioningPlan, hplans] at hplan
  exact h id plan hplan

theorem controlled_set {app' : ProvisioningApp} {plan : ProvisioningPlan} (h : Controlled app)
    (hplan : ControlledPlan plan)
    (hplans : app'.provisioningPlans = app.provisioningPlans.set plan.id plan) : Controlled app' := by
  intro id stored hstored
  rw [getProvisioningPlan, hplans, OrderedMap.get?_set] at hstored
  split at hstored
  · cases hstored
    exact hplan
  · exact h id stored hstored

theorem startCall_controlled (call : RuntimeCall) (h : Controlled app) :
    Controlled (app.startCall H regExp call).1 ∧
      ControlledProgress (app.startCall H regExp call).2 := by
  cases call with
  | plan call decision =>
    exact ⟨controlled_congr h (congrArg Records.plans (records_requestProvisioningPlan H app call
      decision)), trivial⟩
  | job call =>
    refine ⟨controlled_congr h (congrArg Records.plans (records_startProvisioningJob H regExp app
      call)), ?_⟩
    rcases startProvisioningJob_waits H regExp app call with ⟨result, hsettled⟩ |
      ⟨plan, startedAt, hverifying⟩ | ⟨plan, startedAt, happlying⟩
    · simp [startCall, hsettled, ControlledProgress]
    · simp [startCall, hverifying, ControlledProgress]
    · obtain ⟨-, hcall, -⟩ := startProvisioningJob_applying.1 happlying
      simp only [startCall, happlying, ControlledProgress]
      exact h _ plan hcall.stored
  | recordEnforcementReadinessReport report =>
    obtain ⟨reports, hrecords⟩ := recordEnforcementReadinessReport_records app report
    exact ⟨controlled_congr h (congrArg Records.plans hrecords), trivial⟩
  | recordAudit requestActor inputs =>
    exact ⟨controlled_congr h (congrArg Records.plans (records_recordAll H requestActor inputs app)),
      trivial⟩
  | now => exact ⟨h, trivial⟩

theorem storeProvisioningPlan_controlled (call : PlanCall) (connector : ConnectorAdapter)
    (planned : Except RuntimeError ProvisioningPlan) (h : Controlled app) :
    Controlled (app.storeProvisioningPlan H regExp call connector planned).1 := by
  cases hstored : (app.storeProvisioningPlan H regExp call connector planned).2 with
  | error e => exact controlled_congr h (congrArg Records.plans (storeProvisioningPlan_error hstored))
  | ok stored =>
    obtain ⟨hrecords, plan, -, -, hprepared⟩ := storeProvisioningPlan_ok hstored
    exact controlled_set h hprepared.controlled (congrArg Records.plans hrecords)

theorem resumeProvisioningJob_controlled (call : JobCall) (answers : JobAnswers)
    (progress : JobProgress) (h : Controlled app) (hprogress : ControlledProgress (.job progress)) :
    Controlled (app.resumeProvisioningJob H call answers progress).1 ∧
      ControlledProgress (.job (app.resumeProvisioningJob H call answers progress).2) := by
  have hstep := resumeProvisioningJob_step H app call answers progress
  generalize app.resumeProvisioningJob H call answers progress = resumed at hstep ⊢
  obtain ⟨app', progress'⟩ := resumed
  dsimp only at hstep ⊢
  generalize hrecords : app'.records = records at hstep
  have hplans : app'.provisioningPlans = records.plans := congrArg Records.plans hrecords
  cases hstep with
  | applied _ => exact ⟨controlled_congr h hplans, hprogress⟩
  | @enforcementStored plan appliedPlan _ completedAt verified =>
    have hupdated : ControlledPlan (updatedPlan plan (completed appliedPlan verified) completedAt) :=
      hprogress
    exact ⟨controlled_set h hupdated hplans, trivial⟩
  | _ => exact ⟨controlled_congr h hplans, trivial⟩

theorem resumeCall_controlled (call : RuntimeCall) (answers : ConnectorAnswers)
    (progress : RuntimeProgress) (h : Controlled app) (hprogress : ControlledProgress progress) :
    Controlled (app.resumeCall H regExp answers call progress).1 ∧
      ControlledProgress (app.resumeCall H regExp answers call progress).2 := by
  unfold resumeCall
  split
  · rename_i call _ progress
    cases progress with
    | planning connector =>
      exact ⟨storeProvisioningPlan_controlled call connector answers.planned h, trivial⟩
    | settled result => exact ⟨h, trivial⟩
  · exact resumeProvisioningJob_controlled _ _ _ h hprogress
  · exact ⟨h, hprogress⟩

/-- **Every run** keeps an approval and control settings with every enforcement plan. -/
theorem reached_controlled {mayStart : List (RuntimeCall × Option RuntimeProgress) → Prop}
    {mayAnswer : RuntimeProgress → ConnectorAnswers → Prop} {app₀ : ProvisioningApp}
    {calls : List RuntimeCall} {slots : List (RuntimeCall × Option RuntimeProgress)}
    (hseed : Controlled app₀)
    (h : (runtimeCalls H regExp).Reached mayStart mayAnswer app₀ calls app slots) :
    Controlled app :=
  (Calls.reached_invariant (I := Controlled) (J := fun _ progress => ControlledProgress progress)
    (fun call _ _ happ => startCall_controlled call happ)
    (fun call _ answers progress _ happ hprogress =>
      resumeCall_controlled call answers progress happ hprogress) hseed h).1

end

end ProvisioningApp

end AccessKit.L5
