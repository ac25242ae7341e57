import AccessKit.Core.OrderedMap
import AccessKit.L3Policy.Json
import AccessKit.L3Policy.Validate

/-!
# The policies of a runtime

packages/api/src/runtime-policies.ts, and the two maps of the store it writes
(packages/core/src/store.ts:440-464). A policy is filed under an id that is made of
its draft; a replay is found by the idempotency key.

Results:
* `perform_policies`: an operation leaves the policies as they are or writes one
  record, and `Writes` says which.
* `getPolicyIdempotencyRecord_run`: an idempotency record stays as it is in every run.
-/
namespace AccessKit.L5
open AccessKit.Core AccessKit.L1 AccessKit.L2.Audit AccessKit.L3

/-- mirrors packages/api/src/runtime-app.ts:44-52 -/
structure RebacLocalAppError where
  statusCode : Nat
  code : String
  message : String
  deriving DecidableEq, Repr

inductive PersistedPolicyStatus
  | draft
  | validated
  | approved
  | published
  | rolledBack
  deriving DecidableEq, Repr

/-- The string literal of the source. -/
def PersistedPolicyStatus.name : PersistedPolicyStatus → String
  | .draft => "draft"
  | .validated => "validated"
  | .approved => "approved"
  | .published => "published"
  | .rolledBack => "rolled_back"

/-- mirrors packages/core/src/store.ts:27-33 -/
structure PersistedPolicySummary where
  id : String
  version : String
  status : PersistedPolicyStatus
  createdAt : IsoDateTime
  publishedAt : Option IsoDateTime := none
  deriving DecidableEq, Repr

/-- mirrors packages/core/src/store.ts:35-39 -/
structure PersistedPolicyDraft where
  name : String
  model : PolicyModel
  tests : List JsonRecord

/-- mirrors packages/core/src/store.ts:41-45 -/
structure PersistedPolicyRecord where
  draft : PersistedPolicyDraft
  summary : PersistedPolicySummary
  validation : Option PolicyModelValidationResult := none

/-- mirrors packages/core/src/store.ts:47-50 -/
structure PersistedPolicyIdempotencyRecord where
  key : String
  summary : PersistedPolicySummary

/-- mirrors packages/api/src/runtime-policies.ts:15-18 -/
structure PolicyPublishRequest where
  changeTicket : String
  approverId : String

/-- mirrors packages/api/src/runtime-policies.ts:20-22 -/
structure PolicyRollbackRequest extends PolicyPublishRequest where
  targetVersion : String

inductive PolicyValidationMode
  | validate
  | test
  deriving DecidableEq, Repr

/-- The string literal of the source. -/
def PolicyValidationMode.name : PolicyValidationMode → String
  | .validate => "validate"
  | .test => "test"

def PersistedPolicyDraft.toJs (draft : PersistedPolicyDraft) : JsValue :=
  .obj [("name", .str draft.name), ("model", draft.model.toJs),
    ("tests", .arr (draft.tests.map .obj))]

/-- A run of other characters becomes one `-`. -/
def dashRuns : List Char → List Char
  | [] => []
  | c :: l =>
    if c.isLower || c.isDigit then c :: dashRuns l
    else match dashRuns l with
      | '-' :: rest => '-' :: rest
      | rest => '-' :: rest

/-- mirrors packages/api/src/runtime-policies.ts:214-217 -/
def slugify (H : Host) (value : String) : String :=
  let slug := dashRuns (toLowerCase H value).toList
  let slug := if slug.head? = some '-' then slug.drop 1 else slug
  let slug := if slug.getLast? = some '-' then slug.dropLast else slug
  if slug.isEmpty then "draft" else String.ofList slug

/-- The policy part of a runtime: the two maps, and the audit events that it
recorded. Each record is filed under its own id. -/
structure PolicyApp where
  policies : OrderedMap String PersistedPolicyRecord
  policyIdempotencyRecords : OrderedMap String PersistedPolicyIdempotencyRecord
  recorded : List (AuditEventInput × IsoDateTime)
  actor : CanonicalId
  policy_id : ∀ id r, policies.get? id = some r → r.summary.id = id

namespace PolicyApp

/-- A runtime without policies. -/
def started (actor : CanonicalId) : PolicyApp where
  policies := .empty
  policyIdempotencyRecords := .empty
  recorded := []
  actor
  policy_id _ _ h := by cases h

variable (H : Host) (app : PolicyApp)

def getPolicy (id : String) : Option PersistedPolicyRecord := app.policies.get? id

def getPolicyIdempotencyRecord (key : String) : Option PersistedPolicyIdempotencyRecord :=
  app.policyIdempotencyRecords.get? key

/-- mirrors packages/core/src/store.ts:448-451 -/
def upsertPolicy (record : PersistedPolicyRecord) : PolicyApp :=
  { app with
    policies := app.policies.set record.summary.id record
    policy_id := fun id r h => by
      rw [OrderedMap.get?_set] at h
      split at h
      · cases h; assumption
      · exact app.policy_id id r h }

/-- mirrors packages/core/src/store.ts:461-464 -/
def setPolicyIdempotencyRecord (record : PersistedPolicyIdempotencyRecord) : PolicyApp :=
  { app with policyIdempotencyRecords := app.policyIdempotencyRecords.set record.key record }

/-- mirrors packages/api/src/runtime-policies.ts:197-212 -/
def recordPolicyAudit (eventType : String) (summary : PersistedPolicySummary)
    (occurredAt : IsoDateTime) (payload : JsonRecord) : PolicyApp :=
  let digest := sliceTo 12 (sha256 H (.obj [("occurredAt", .str occurredAt), ("payload", .obj payload)]))
  { app with
    recorded := app.recorded ++ [({
      eventType
      actor := app.actor
      resourceId := some summary.id
      correlationId := "corr:" ++ summary.id ++ ":" ++ eventType ++ ":" ++ digest
      policyVersion := some summary.version
      payload }, occurredAt)] }

/-! ## The operations -/

/-- The id of the policy of a draft. -/
def policyId (draft : PersistedPolicyDraft) : String :=
  "policy:" ++ slugify H draft.name ++ ":" ++ sliceTo 12 (sha256 H draft.toJs)

/-- The summary of a new policy. -/
def draftSummary (draft : PersistedPolicyDraft) (createdAt : IsoDateTime) :
    PersistedPolicySummary where
  id := policyId H draft
  version := policyId H draft ++ ":draft"
  status := .draft
  createdAt

/-- mirrors packages/api/src/runtime-policies.ts:28-51 -/
def createPolicy (draft : PersistedPolicyDraft) (idempotencyKey : String) (now : IsoDateTime) :
    PolicyApp × PersistedPolicySummary :=
  match app.getPolicyIdempotencyRecord ("create:" ++ idempotencyKey) with
  | some existing => (app, existing.summary)
  | none =>
    let summary := draftSummary H draft now
    ((((app.upsertPolicy { draft, summary }).setPolicyIdempotencyRecord
        { key := "create:" ++ idempotencyKey, summary }).recordPolicyAudit H "policy.created" summary
          now
          [("policyId", .str summary.id), ("version", .str summary.version),
            ("status", .str summary.status.name)]), summary)

def policyNotFound (policyId : String) : RebacLocalAppError where
  statusCode := 404
  code := "POLICY_NOT_FOUND"
  message := "Policy " ++ policyId ++ " was not found."

/-- The checks that `validatePolicy` reports. -/
def validationResult (model : PolicyModel) (mode : PolicyValidationMode) :
    PolicyModelValidationResult :=
  let validation := validatePolicyModel H model
  if mode = .test && validation.valid then
    ⟨true, validation.checks ++ [⟨"proof_points", .pass,
      "Policy model is eligible for deterministic proof-point execution."⟩]⟩
  else validation

/-- The status after a validation.
mirrors packages/api/src/runtime-policies.ts:72-77 -/
def validatedStatus (valid : Bool) (status : PersistedPolicyStatus) : PersistedPolicyStatus :=
  if valid && [.draft, .rolledBack, .validated].contains status then .validated
  else if !valid && status = .validated then .draft
  else status

/-- mirrors packages/api/src/runtime-policies.ts:53-89 -/
def validatePolicy (policyId : String) (mode : PolicyValidationMode) (now : IsoDateTime) :
    PolicyApp × Except RebacLocalAppError PolicyModelValidationResult :=
  match app.getPolicy policyId with
  | none => (app, .error (policyNotFound policyId))
  | some existing =>
    let result := validationResult H existing.draft.model mode
    let summary := { existing.summary with
      status := validatedStatus result.valid existing.summary.status }
    ((app.upsertPolicy { existing with summary, validation := some result }).recordPolicyAudit H
      (if result.valid then "policy.validated" else "policy.validation_failed") summary now
      [("policyId", .str policyId), ("version", .str summary.version),
        ("status", .str summary.status.name), ("mode", .str mode.name), ("valid", .bool result.valid)],
      .ok result)

/-- mirrors packages/api/src/runtime-policies.ts:91-144 -/
def publishPolicy (policyId : String) (request : PolicyPublishRequest) (idempotencyKey : String)
    (now : IsoDateTime) : PolicyApp × Except RebacLocalAppError PersistedPolicySummary :=
  let idempotencyScope := "publish:" ++ policyId ++ ":" ++ idempotencyKey
  match app.getPolicyIdempotencyRecord idempotencyScope, app.getPolicy policyId with
  | some existing, _ => (app, .ok existing.summary)
  | none, none => (app, .error (policyNotFound policyId))
  | none, some prior =>
    if prior.summary.status ≠ .validated then
      (app, .error { statusCode := 409, code := "POLICY_NOT_VALIDATED"
                     message := "Policy " ++ policyId ++ " must pass validation before publication." })
    else
      let validation := validatePolicyModel H prior.draft.model
      if !validation.valid then
        let summary := { prior.summary with status := .draft }
        ((app.upsertPolicy { prior with summary, validation := some validation }).recordPolicyAudit H
          "policy.validation_failed" summary now
          [("policyId", .str policyId), ("version", .str summary.version),
            ("status", .str summary.status.name), ("valid", .bool false)],
          .error { statusCode := 422, code := "POLICY_VALIDATION_FAILED"
                   message := "Policy " ++ policyId ++ " failed deterministic validation." })
      else
        let summary : PersistedPolicySummary :=
          { id := policyId
            version := policyId ++ ":published"
            status := .published
            createdAt := prior.summary.createdAt
            publishedAt := some now }
        (((app.upsertPolicy { prior with summary, validation := some validation
            }).setPolicyIdempotencyRecord { key := idempotencyScope, summary }).recordPolicyAudit H
          "policy.published" summary now
          [("policyId", .str policyId), ("version", .str summary.version),
            ("status", .str summary.status.name), ("changeTicket", .str request.changeTicket),
            ("approverId", .str request.approverId)],
          .ok summary)

/-- The snapshot that a rollback goes back to.
mirrors packages/api/src/runtime-policies.ts:163-167 -/
def rollbackTarget (policyId targetVersion : String) (prior : PersistedPolicyRecord) :
    Option PersistedPolicyIdempotencyRecord :=
  app.policyIdempotencyRecords.values.find? fun record =>
    record.summary.id = policyId && record.summary.version = targetVersion &&
      record.summary.version ≠ prior.summary.version

/-- mirrors packages/api/src/runtime-policies.ts:146-195 -/
def rollbackPolicy (policyId : String) (request : PolicyRollbackRequest) (idempotencyKey : String)
    (now : IsoDateTime) : PolicyApp × Except RebacLocalAppError PersistedPolicySummary :=
  let idempotencyScope := "rollback:" ++ policyId ++ ":" ++ idempotencyKey
  match app.getPolicyIdempotencyRecord idempotencyScope, app.getPolicy policyId with
  | some existing, _ => (app, .ok existing.summary)
  | none, none => (app, .error (policyNotFound policyId))
  | none, some prior =>
    if prior.summary.status ≠ .published then
      (app, .error { statusCode := 409, code := "POLICY_NOT_PUBLISHED"
                     message := "Policy " ++ policyId ++ " must be published before rollback." })
    else
      match app.rollbackTarget policyId request.targetVersion prior with
      | none =>
        (app, .error { statusCode := 404, code := "POLICY_VERSION_NOT_FOUND"
                       message := "Policy " ++ policyId ++ " has no prior snapshot for version " ++
                         request.targetVersion ++ "." })
      | some target =>
        let summary : PersistedPolicySummary :=
          { id := policyId
            version := target.summary.version
            status := .rolledBack
            createdAt := prior.summary.createdAt
            publishedAt := prior.summary.publishedAt }
        (((app.upsertPolicy { prior with summary }).setPolicyIdempotencyRecord
            { key := idempotencyScope, summary }).recordPolicyAudit H "policy.rolled_back" summary now
          [("policyId", .str policyId), ("version", .str summary.version),
            ("status", .str summary.status.name), ("targetVersion", .str request.targetVersion),
            ("changeTicket", .str request.changeTicket), ("approverId", .str request.approverId)],
          .ok summary)

/-! ## What an operation writes -/

end PolicyApp

/-- A call of one of the operations. -/
inductive PolicyOperation
  | createPolicy (draft : PersistedPolicyDraft) (idempotencyKey : String)
  | validatePolicy (policyId : String) (mode : PolicyValidationMode)
  | publishPolicy (policyId : String) (request : PolicyPublishRequest) (idempotencyKey : String)
  | rollbackPolicy (policyId : String) (request : PolicyRollbackRequest) (idempotencyKey : String)

/-- The key of the idempotency record of a call. -/
def PolicyOperation.scope : PolicyOperation → Option String
  | .createPolicy _ key => some ("create:" ++ key)
  | .validatePolicy _ _ => none
  | .publishPolicy id _ key => some ("publish:" ++ id ++ ":" ++ key)
  | .rollbackPolicy id _ key => some ("rollback:" ++ id ++ ":" ++ key)

namespace PolicyApp

section
variable (H : Host) (app : PolicyApp)

/-- The runtime after a call, whether it throws or not. -/
def perform (now : IsoDateTime) : PolicyOperation → PolicyApp
  | .createPolicy draft key => (app.createPolicy H draft key now).1
  | .validatePolicy id mode => (app.validatePolicy H id mode now).1
  | .publishPolicy id request key => (app.publishPolicy H id request key now).1
  | .rollbackPolicy id request key => (app.rollbackPolicy H id request key now).1

/-- The runtime after a list of calls, each with the time that it asks for. -/
def run (app : PolicyApp) (operations : List (PolicyOperation × IsoDateTime)) : PolicyApp :=
  operations.foldl (fun app operation => app.perform H operation.2 operation.1) app

/-- The record that a call writes. -/
inductive Writes (now : IsoDateTime) : PolicyOperation → PersistedPolicyRecord → Prop
  | created {draft : PersistedPolicyDraft} {key : String}
      (hnew : app.getPolicyIdempotencyRecord ("create:" ++ key) = none) :
      Writes now (.createPolicy draft key) { draft, summary := draftSummary H draft now }
  | validated {id : String} {mode : PolicyValidationMode} {prior : PersistedPolicyRecord}
      (hprior : app.getPolicy id = some prior) :
      Writes now (.validatePolicy id mode)
        { prior with
          summary := { prior.summary with
            status := validatedStatus (validationResult H prior.draft.model mode).valid
              prior.summary.status }
          validation := some (validationResult H prior.draft.model mode) }
  | invalidated {id : String} {request : PolicyPublishRequest} {key : String}
      {prior : PersistedPolicyRecord} (hprior : app.getPolicy id = some prior)
      (hstatus : prior.summary.status = .validated)
      (hinvalid : (validatePolicyModel H prior.draft.model).valid = false) :
      Writes now (.publishPolicy id request key)
        { prior with
          summary := { prior.summary with status := .draft }
          validation := some (validatePolicyModel H prior.draft.model) }
  | published {id : String} {request : PolicyPublishRequest} {key : String}
      {prior : PersistedPolicyRecord} (hprior : app.getPolicy id = some prior)
      (hstatus : prior.summary.status = .validated)
      (hvalid : (validatePolicyModel H prior.draft.model).valid = true) :
      Writes now (.publishPolicy id request key)
        { prior with
          summary :=
            { id, version := id ++ ":published", status := .published
              createdAt := prior.summary.createdAt, publishedAt := some now }
          validation := some (validatePolicyModel H prior.draft.model) }
  | rolledBack {id : String} {request : PolicyRollbackRequest} {key : String}
      {prior : PersistedPolicyRecord} {target : PersistedPolicyIdempotencyRecord}
      (hnew : app.getPolicyIdempotencyRecord ("rollback:" ++ id ++ ":" ++ key) = none)
      (hprior : app.getPolicy id = some prior) (hstatus : prior.summary.status = .published)
      (htarget : app.rollbackTarget id request.targetVersion prior = some target) :
      Writes now (.rollbackPolicy id request key)
        { prior with
          summary :=
            { id, version := target.summary.version, status := .rolledBack
              createdAt := prior.summary.createdAt, publishedAt := prior.summary.publishedAt } }

variable {H app}

/-- **What a call can do to the policies**: nothing, or write one record. -/
theorem perform_policies (H : Host) (app : PolicyApp) (op : PolicyOperation) (now : IsoDateTime) :
    (app.perform H now op).policies = app.policies ∨
    ∃ record, Writes H app now op record ∧
      (app.perform H now op).policies = app.policies.set record.summary.id record := by
  cases op with
  | createPolicy draft key =>
    simp only [perform, createPolicy]
    cases hkey : app.getPolicyIdempotencyRecord ("create:" ++ key) with
    | some existing => exact .inl rfl
    | none => exact .inr ⟨_, .created hkey, rfl⟩
  | validatePolicy id mode =>
    simp only [perform, validatePolicy]
    cases hprior : app.getPolicy id with
    | none => exact .inl rfl
    | some prior => exact .inr ⟨_, .validated hprior, rfl⟩
  | publishPolicy id request key =>
    simp only [perform, publishPolicy]
    split
    · exact .inl rfl
    · exact .inl rfl
    · rename_i prior _ hprior
      split
      · exact .inl rfl
      · rename_i hstatus
        split
        · rename_i hvalid
          exact .inr ⟨_, .invalidated hprior (not_not.1 hstatus) (by simpa using hvalid), rfl⟩
        · rename_i hvalid
          exact .inr ⟨_, .published hprior (not_not.1 hstatus) (by simpa using hvalid), rfl⟩
  | rollbackPolicy id request key =>
    simp only [perform, rollbackPolicy]
    split
    · exact .inl rfl
    · exact .inl rfl
    · rename_i prior hkey hprior
      split
      · exact .inl rfl
      · rename_i hstatus
        split
        · exact .inl rfl
        · rename_i target htarget
          exact .inr ⟨_, .rolledBack hkey hprior (not_not.1 hstatus) htarget, rfl⟩

theorem getPolicyIdempotencyRecord_perform {op : PolicyOperation} {scope : String}
    (h : op.scope ≠ some scope) (now : IsoDateTime) :
    (app.perform H now op).getPolicyIdempotencyRecord scope =
      app.getPolicyIdempotencyRecord scope := by
  cases op with
  | createPolicy draft key =>
    simp only [perform, createPolicy]
    split
    · rfl
    · exact OrderedMap.get?_set_ne _ _ fun he => h (congrArg some he)
  | validatePolicy id mode =>
    simp only [perform, validatePolicy]
    split <;> rfl
  | publishPolicy id request key =>
    simp only [perform, publishPolicy]
    split
    · rfl
    · rfl
    · split
      · rfl
      · split
        · rfl
        · exact OrderedMap.get?_set_ne _ _ fun he => h (congrArg some he)
  | rollbackPolicy id request key =>
    simp only [perform, rollbackPolicy]
    split
    · rfl
    · rfl
    · split
      · rfl
      · split
        · rfl
        · exact OrderedMap.get?_set_ne _ _ fun he => h (congrArg some he)

theorem getPolicyIdempotencyRecord_kept {scope : String} {record : PersistedPolicyIdempotencyRecord}
    (h : app.getPolicyIdempotencyRecord scope = some record) (op : PolicyOperation)
    (now : IsoDateTime) :
    (app.perform H now op).getPolicyIdempotencyRecord scope = some record := by
  by_cases hscope : op.scope = some scope
  · cases op with
    | createPolicy draft key =>
      obtain rfl := Option.some.inj hscope
      simp only [perform, createPolicy, h]
    | validatePolicy id mode => cases hscope
    | publishPolicy id request key =>
      obtain rfl := Option.some.inj hscope
      simp only [perform, publishPolicy, h]
    | rollbackPolicy id request key =>
      obtain rfl := Option.some.inj hscope
      simp only [perform, rollbackPolicy, h]
  · rw [getPolicyIdempotencyRecord_perform hscope, h]

theorem getPolicyIdempotencyRecord_run {scope : String} {record : PersistedPolicyIdempotencyRecord}
    (h : app.getPolicyIdempotencyRecord scope = some record)
    (operations : List (PolicyOperation × IsoDateTime)) :
    (app.run H operations).getPolicyIdempotencyRecord scope = some record := by
  induction operations generalizing app with
  | nil => exact h
  | cons operation operations ih =>
    exact ih (getPolicyIdempotencyRecord_kept h operation.1 operation.2)

theorem getPolicy_set {app' : PolicyApp} {record : PersistedPolicyRecord}
    (h : app'.policies = app.policies.set record.summary.id record) (id : String) :
    app'.getPolicy id = if record.summary.id = id then some record else app.getPolicy id := by
  rw [getPolicy, h, OrderedMap.get?_set]
  rfl

/-! ## Calls that do what they are for -/

variable {id key : String} {prior : PersistedPolicyRecord} (now : IsoDateTime)

theorem getPolicy_createPolicy {draft : PersistedPolicyDraft}
    (hnew : app.getPolicyIdempotencyRecord ("create:" ++ key) = none) :
    (app.perform H now (.createPolicy draft key)).getPolicy (policyId H draft) =
      some { draft, summary := draftSummary H draft now } := by
  simp only [perform, createPolicy, hnew]
  exact OrderedMap.get?_set_self _ _ _

theorem getPolicy_validatePolicy (hprior : app.getPolicy id = some prior)
    (mode : PolicyValidationMode) :
    (app.perform H now (.validatePolicy id mode)).getPolicy id = some { prior with
      summary := { prior.summary with
        status := validatedStatus (validationResult H prior.draft.model mode).valid
          prior.summary.status }
      validation := some (validationResult H prior.draft.model mode) } := by
  have hid : prior.summary.id = id := app.policy_id id prior hprior
  simp only [perform, validatePolicy, hprior]
  subst hid
  exact OrderedMap.get?_set_self _ _ _

theorem getPolicy_publishPolicy {request : PolicyPublishRequest}
    (hnew : app.getPolicyIdempotencyRecord ("publish:" ++ id ++ ":" ++ key) = none)
    (hprior : app.getPolicy id = some prior) (hstatus : prior.summary.status = .validated)
    (hvalid : (validatePolicyModel H prior.draft.model).valid = true) :
    (app.perform H now (.publishPolicy id request key)).getPolicy id = some { prior with
      summary :=
        { id, version := id ++ ":published", status := .published
          createdAt := prior.summary.createdAt, publishedAt := some now }
      validation := some (validatePolicyModel H prior.draft.model) } := by
  simp only [perform, publishPolicy, hnew, hprior, hstatus, ne_eq, not_true_eq_false, if_false,
    hvalid, Bool.not_true, Bool.false_eq_true]
  exact OrderedMap.get?_set_self _ _ _

end

end PolicyApp

end AccessKit.L5
