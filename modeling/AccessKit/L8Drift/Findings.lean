import AccessKit.L1Domain.IsoDate
import AccessKit.L2Audit.Records
import AccessKit.L5Runtime.Provisioning

/-!
# Drift findings and their lifecycle

packages/core/src/domain/drift.ts and packages/core/src/drift-lifecycle.ts. A finding comes
from a connector and may lack what the enrichment fills in: such a property is an option
here, as the code treats it. A date that is out of range throws where it is printed.

Results:
* `enrichDriftFindingLifecycle_ok`: what an enrichment fills in, and what it leaves.
* `resolveDriftLifecycleState_of_some`: a state that is there stays.
-/
namespace AccessKit.L8
open AccessKit.L1
open AccessKit.L5 (ProvisioningApproval)

/-! ## The records -/

inductive DriftSeverity
  | low
  | medium
  | high
  | critical
  deriving DecidableEq, Repr

inductive DriftLifecycleState
  | open
  | triaged
  | accepted
  | remediationPending
  | repairing
  | resolved
  | expiredException
  deriving DecidableEq, Repr

inductive DriftFindingStatus
  | open
  | accepted
  | repairing
  | resolved
  deriving DecidableEq, Repr

inductive DriftRecommendedAction
  | revoke
  | exception
  | repair
  | review
  deriving DecidableEq, Repr

inductive ReconciliationTrigger
  | manual
  | scheduled
  deriving DecidableEq, Repr

inductive ReconciliationCadence
  | manual
  | hourly
  | daily
  | weekly
  deriving DecidableEq, Repr

/-- mirrors packages/core/src/domain/drift.ts:17-25 -/
structure ReconciliationScheduleEvidence where
  cadence : ReconciliationCadence
  scheduledAt : IsoDateTime
  windowStart : Option IsoDateTime := none
  windowEnd : Option IsoDateTime := none
  nextRunAt : Option IsoDateTime := none
  gracePeriodHours : Rat
  overdue : Bool
  deriving DecidableEq

/-- `Partial<ReconciliationScheduleEvidence>` -/
structure ScheduleOptions where
  cadence : Option ReconciliationCadence := none
  scheduledAt : Option IsoDateTime := none
  windowStart : Option IsoDateTime := none
  windowEnd : Option IsoDateTime := none
  nextRunAt : Option IsoDateTime := none
  gracePeriodHours : Option Rat := none
  overdue : Option Bool := none

inductive DriftHookSystem
  | ticket
  | siem
  deriving DecidableEq, Repr

inductive DriftHookStatus
  | pending
  | linked
  | notified
  | failed
  deriving DecidableEq, Repr

/-- mirrors packages/core/src/domain/drift.ts:27-34 -/
structure DriftHookEvidence where
  system : DriftHookSystem
  referenceId : CanonicalId
  status : DriftHookStatus
  recordedAt : IsoDateTime
  url : Option String := none
  evidence : Option JsonRecord := none

/-- The action of a repair, or of a policy, is never `exception`.
mirrors packages/core/src/domain/drift.ts:36-44 -/
structure DriftAutoRepairPolicy where
  enabled : Bool
  allowedActions : List DriftRecommendedAction
  maxSeverity : DriftSeverity
  requireApproval : Bool
  requireConnectorReadiness : Bool
  liveProviderWrites : Bool
  reason : Option String := none
  deriving DecidableEq

/-- `Partial<DriftAutoRepairPolicy>` -/
structure AutoRepairOptions where
  enabled : Option Bool := none
  allowedActions : Option (List DriftRecommendedAction) := none
  maxSeverity : Option DriftSeverity := none
  requireApproval : Option Bool := none
  requireConnectorReadiness : Option Bool := none
  liveProviderWrites : Option Bool := none
  reason : Option String := none

/-- mirrors packages/core/src/domain/drift.ts:46-55 -/
structure DriftDryRunRepairEvidence where
  planId : CanonicalId
  action : DriftRecommendedAction
  status : String := "planned"
  generatedAt : IsoDateTime
  idempotencyKey : String
  evidence : JsonRecord

/-- mirrors packages/core/src/domain/drift.ts:57-61 -/
structure DriftRemediationEvidence where
  approval : Option ProvisioningApproval := none
  approvedAt : Option IsoDateTime := none
  dryRunRepair : Option DriftDryRunRepairEvidence := none

/-- mirrors packages/core/src/domain/drift.ts:63-82 -/
structure DriftFinding where
  id : CanonicalId
  version : String
  createdAt : IsoDateTime
  updatedAt : Option IsoDateTime := none
  resourceId : CanonicalId
  subjectId : CanonicalId
  nativeGrantId : Option CanonicalId := none
  nativeAccess : String
  intendedAccess : String
  severity : DriftSeverity
  lifecycleState : Option DriftLifecycleState := none
  ownerId : Option CanonicalId := none
  assigneeId : Option CanonicalId := none
  detectedAt : IsoDateTime
  exceptionExpiresAt : Option IsoDateTime := none
  sourceConnectorId : String
  recommendedAction : DriftRecommendedAction
  status : DriftFindingStatus
  scheduledReconciliation : Option ReconciliationScheduleEvidence := none
  hookEvidence : Option (List DriftHookEvidence) := none
  remediation : Option DriftRemediationEvidence := none
  autoRepairPolicy : Option DriftAutoRepairPolicy := none

/-! ## Schedules -/

section
variable (H : Host)

/-- The whole part of a number. -/
def truncate (q : Rat) : Int := if 0 ≤ q then q.floor else q.ceil

/-- `date.setUTCHours(date.getUTCHours() + hours)` -/
def addUTCHours (time : Int) (hours : Rat) : Option Int :=
  let hour : Int := time / 3600000 % 24
  timeClip (((time - hour * 3600000 + truncate ((hour : Rat) + hours) * 3600000 : Int)) : Rat)

/-- mirrors packages/core/src/drift-lifecycle.ts:130-140 -/
def defaultGracePeriodHours : ReconciliationCadence → Rat
  | .hourly => 2
  | .weekly => 48
  | .manual => 0
  | .daily => 24

/-- mirrors packages/core/src/drift-lifecycle.ts:142-151 -/
def nextScheduledRun (scheduledAt : IsoDateTime) (cadence : ReconciliationCadence) :
    Except String (Option IsoDateTime) :=
  let after (hours : Rat) : Except String (Option IsoDateTime) :=
    match (dateParse H scheduledAt).bind fun time => addUTCHours time hours with
    | some time => .ok (some (toISOString time))
    | none => .error "Invalid time value"
  match cadence with
  | .manual => .ok none
  | .hourly => after 1
  | .daily => after 24
  | .weekly => after (24 * 7)

/-- mirrors packages/core/src/drift-lifecycle.ts:153-161 -/
def isScheduleOverdue (now : IsoDateTime) (nextRunAt : Option IsoDateTime)
    (gracePeriodHours : Rat) : Bool :=
  match truthy nextRunAt with
  | none => false
  | some nextRunAt =>
    let due := (dateParse H nextRunAt).bind fun time => addUTCHours time gracePeriodHours
    gtMs (dateParse H now) due

/-- mirrors packages/core/src/drift-lifecycle.ts:58-77 -/
def buildReconciliationSchedule (now : IsoDateTime) (trigger : ReconciliationTrigger)
    (schedule : ScheduleOptions) : Except String ReconciliationScheduleEvidence := do
  let cadence := schedule.cadence.getD (if trigger = .scheduled then .daily else .manual)
  let scheduledAt := schedule.scheduledAt.getD now
  let gracePeriodHours := schedule.gracePeriodHours.getD (defaultGracePeriodHours cadence)
  let nextRunAt ← match schedule.nextRunAt with
    | some nextRunAt => pure (some nextRunAt)
    | none => nextScheduledRun H scheduledAt cadence
  return {
    cadence
    scheduledAt
    windowStart := schedule.windowStart
    windowEnd := schedule.windowEnd
    nextRunAt
    gracePeriodHours
    overdue := schedule.overdue.getD (isScheduleOverdue H now nextRunAt gracePeriodHours) }

/-! ## The lifecycle -/

/-- mirrors packages/core/src/drift-lifecycle.ts:79-92 -/
def createDefaultDriftAutoRepairPolicy (severity : DriftSeverity)
    (recommendedAction : DriftRecommendedAction) : DriftAutoRepairPolicy where
  enabled := false
  allowedActions :=
    if recommendedAction = .repair ∨ recommendedAction = .revoke then [recommendedAction] else []
  maxSeverity := if severity = .critical then .high else severity
  requireApproval := true
  requireConnectorReadiness := true
  liveProviderWrites := false
  reason := some ("Auto-repair remains disabled until approval, connector readiness, and " ++
    "live-write policy controls explicitly allow it.")

/-- mirrors packages/core/src/drift-lifecycle.ts:24-29 -/
def severityRank : DriftSeverity → Nat
  | .low => 1
  | .medium => 2
  | .high => 3
  | .critical => 4

/-- mirrors packages/core/src/drift-lifecycle.ts:94-96 -/
def driftSeverityAllowed (findingSeverity maxSeverity : DriftSeverity) : Bool :=
  severityRank findingSeverity ≤ severityRank maxSeverity

/-- mirrors packages/core/src/drift-lifecycle.ts:98-120 -/
def resolveDriftLifecycleState (finding : DriftFinding) (now : IsoDateTime) :
    DriftLifecycleState :=
  match finding.lifecycleState with
  | some lifecycleState => lifecycleState
  | none =>
    match truthy finding.exceptionExpiresAt with
    | some exceptionExpiresAt =>
      if leMs (dateParse H exceptionExpiresAt) (dateParse H now) then .expiredException
      else ofStatus finding.status
    | none => ofStatus finding.status
where
  ofStatus : DriftFindingStatus → DriftLifecycleState
    | .accepted => .accepted
    | .repairing => .repairing
    | .resolved => .resolved
    | .open => .open

/-- mirrors packages/core/src/drift-lifecycle.ts:122-128 -/
def defaultDriftOwner (severity : DriftSeverity) : CanonicalId :=
  if severity = .critical ∨ severity = .high then "role:security-operations"
  else "role:resource-owner"

def defaultDriftAssignee (severity : DriftSeverity) : CanonicalId :=
  if severity = .critical then "role:incident-commander" else "role:security-engineer"

/-- mirrors packages/core/src/drift-lifecycle.ts:13-22 -/
structure DriftLifecycleDefaultsOptions where
  now : Option IsoDateTime := none
  trigger : Option ReconciliationTrigger := none
  schedule : Option ScheduleOptions := none
  ownerId : Option CanonicalId := none
  assigneeId : Option CanonicalId := none
  nativeGrantId : Option CanonicalId := none
  hookEvidence : Option (List DriftHookEvidence) := none
  autoRepairPolicy : Option AutoRepairOptions := none

/-- `{ ...policy, ...options }` -/
def DriftAutoRepairPolicy.override (policy : DriftAutoRepairPolicy) (options : AutoRepairOptions) :
    DriftAutoRepairPolicy where
  enabled := options.enabled.getD policy.enabled
  allowedActions := options.allowedActions.getD policy.allowedActions
  maxSeverity := options.maxSeverity.getD policy.maxSeverity
  requireApproval := options.requireApproval.getD policy.requireApproval
  requireConnectorReadiness :=
    options.requireConnectorReadiness.getD policy.requireConnectorReadiness
  liveProviderWrites := options.liveProviderWrites.getD policy.liveProviderWrites
  reason := options.reason.or policy.reason

/-- The schedule of a finding, or the one of the run.
mirrors packages/core/src/drift-lifecycle.ts:35-36 -/
def scheduleFor (finding : DriftFinding) (options : DriftLifecycleDefaultsOptions)
    (now : IsoDateTime) : Except String ReconciliationScheduleEvidence :=
  match finding.scheduledReconciliation with
  | some schedule => .ok schedule
  | none =>
    buildReconciliationSchedule H now (options.trigger.getD .manual) (options.schedule.getD {})

/-- mirrors packages/core/src/drift-lifecycle.ts:31-56 -/
def enrichDriftFindingLifecycle (finding : DriftFinding) (options : DriftLifecycleDefaultsOptions) :
    Except String DriftFinding := do
  let now := options.now.getD finding.detectedAt
  let scheduledReconciliation ← scheduleFor H finding options now
  let default := createDefaultDriftAutoRepairPolicy finding.severity finding.recommendedAction
  let own := match finding.autoRepairPolicy with
    | some policy => { policy with reason := policy.reason.or default.reason }
    | none => default
  return { finding with
    nativeGrantId := finding.nativeGrantId.or options.nativeGrantId
    lifecycleState := some (resolveDriftLifecycleState H finding now)
    ownerId := some ((finding.ownerId.or options.ownerId).getD (defaultDriftOwner finding.severity))
    assigneeId :=
      some ((finding.assigneeId.or options.assigneeId).getD (defaultDriftAssignee finding.severity))
    scheduledReconciliation := some scheduledReconciliation
    hookEvidence := some ((finding.hookEvidence.or options.hookEvidence).getD [])
    remediation := some (finding.remediation.getD {})
    autoRepairPolicy := some (own.override (options.autoRepairPolicy.getD {})) }

/-- What an enrichment fills in, and what it leaves as the finding has it. -/
structure Enriched (finding : DriftFinding) (options : DriftLifecycleDefaultsOptions)
    (enriched : DriftFinding) : Prop where
  rest : enriched = { finding with
    nativeGrantId := enriched.nativeGrantId
    lifecycleState := enriched.lifecycleState
    ownerId := enriched.ownerId
    assigneeId := enriched.assigneeId
    scheduledReconciliation := enriched.scheduledReconciliation
    hookEvidence := enriched.hookEvidence
    remediation := enriched.remediation
    autoRepairPolicy := enriched.autoRepairPolicy }
  nativeGrantId : enriched.nativeGrantId = finding.nativeGrantId.or options.nativeGrantId
  lifecycleState : enriched.lifecycleState =
    some (resolveDriftLifecycleState H finding (options.now.getD finding.detectedAt))
  hookEvidence : enriched.hookEvidence =
    some ((finding.hookEvidence.or options.hookEvidence).getD [])
  remediation : enriched.remediation = some (finding.remediation.getD {})

end

section
variable {H : Host}

theorem resolveDriftLifecycleState_of_some {finding : DriftFinding} {now : IsoDateTime}
    {state : DriftLifecycleState} (h : finding.lifecycleState = some state) :
    resolveDriftLifecycleState H finding now = state := by
  simp [resolveDriftLifecycleState, h]

theorem enrichDriftFindingLifecycle_ok {finding enriched : DriftFinding}
    {options : DriftLifecycleDefaultsOptions}
    (h : enrichDriftFindingLifecycle H finding options = .ok enriched) :
    Enriched H finding options enriched := by
  unfold enrichDriftFindingLifecycle at h
  obtain ⟨schedule, -, h⟩ := L2.Audit.bind_ok.1 h
  obtain rfl := Except.ok.inj h
  exact ⟨rfl, rfl, rfl, rfl, rfl⟩

end

end AccessKit.L8
