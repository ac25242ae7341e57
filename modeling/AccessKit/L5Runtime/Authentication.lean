import AccessKit.L5Runtime.AuditLogRuns

/-!
# Failed authentication

packages/api/src/api-auth.ts:115-155: a request without a valid bearer token is
recorded, once in a minute for each reason; those in between are counted.

Results:
* `recordAuthenticationFailure_app`: it records one event or none.
* `authenticationFailure_unstorable`: the reference store refuses every such event.
-/
namespace AccessKit.L5
open AccessKit.Core AccessKit.L1 AccessKit.L2.Audit

inductive AuthenticationFailureReason
  | missing
  | invalid
  deriving DecidableEq, Repr

def AuthenticationFailureReason.name : AuthenticationFailureReason → String
  | .missing => "missing"
  | .invalid => "invalid"

/-- mirrors packages/api/src/api-auth.ts:8-11 -/
structure AuthenticationFailureSample where
  sampledAtMs : Int
  suppressedCount : Nat

/-- The last sample of each reason. -/
abbrev AuthenticationFailureSamples :=
  AuthenticationFailureReason → Option AuthenticationFailureSample

/-- A request that is not authenticated; `scope` names the server. -/
structure UnauthenticatedRequest where
  method : Option String
  pathname : String
  reason : AuthenticationFailureReason
  scope : String

def sampleWindowMs : Int := 60000

section
variable (H : Host)

/-- mirrors packages/api/src/api-auth.ts:201-204 -/
def timestampMs (dateNow : Int) (timestamp : String) : Int := (dateParse H timestamp).getD dateNow

/-- mirrors packages/api/src/api-auth.ts:206-208 -/
def sampleWindowStart (timestamp : Int) : Int := timestamp / sampleWindowMs * sampleWindowMs

/-- The path of a URL is in ASCII.
mirrors packages/api/src/api-auth.ts:210-212 -/
def sanitizeAuditPath (path : String) : String :=
  String.ofList (path.toList.map fun c =>
    if c.isAlphanum || ['_', ':', '-'].contains c then c.toLower else '_')

/-- mirrors packages/api/src/api-auth.ts:138-151 -/
def authenticationFailureInput (request : UnauthenticatedRequest) (occurredAtMs : Int)
    (suppressedSinceLastSample : Nat) : AuditEventInput where
  eventType := "api.authentication_failed"
  actor := "anonymous"
  correlationId := "corr:auth:" ++ request.reason.name ++ ":" ++ request.scope ++ ":" ++
    H.numberToString (sampleWindowStart occurredAtMs) ++ ":" ++ sanitizeAuditPath request.pathname
  payload :=
    [("method", .str (request.method.getD "GET")), ("path", .str request.pathname),
      ("reason", .str (match request.reason with
        | .invalid => "invalid_bearer_token"
        | .missing => "missing_bearer_token")),
      ("sampled", .bool true), ("sampleWindowMs", .num (.fin sampleWindowMs)),
      ("suppressedSinceLastSample", .num (.fin suppressedSinceLastSample)),
      ("tokenLogged", .bool false)]

variable {σ : Type} (repository : AuditEventRepository σ)

/-- mirrors packages/api/src/api-auth.ts:115-155 -/
def recordAuthenticationFailure (app : RebacLocalApp σ) (samples : AuthenticationFailureSamples)
    (request : UnauthenticatedRequest) (occurredAt : IsoDateTime) (dateNow : Int) :
    RebacLocalApp σ × AuthenticationFailureSamples :=
  let occurredAtMs := timestampMs H dateNow occurredAt
  let sampled (priorSample : Option AuthenticationFailureSample) :=
    let suppressed := (priorSample.map (·.suppressedCount)).getD 0
    (app.recordAudit H repository (authenticationFailureInput H request occurredAtMs suppressed)
      occurredAt none false,
      Function.update samples request.reason (some ⟨occurredAtMs, 0⟩))
  match samples request.reason with
  | some priorSample =>
    if occurredAtMs - priorSample.sampledAtMs < sampleWindowMs then
      (app, Function.update samples request.reason
        (some { priorSample with suppressedCount := priorSample.suppressedCount + 1 }))
    else sampled (some priorSample)
  | none => sampled none

end

section
variable {H : Host} {σ : Type} {repository : AuditEventRepository σ}

theorem recordAuthenticationFailure_first (app : RebacLocalApp σ)
    {samples : AuthenticationFailureSamples} {request : UnauthenticatedRequest}
    (h : samples request.reason = none) (occurredAt : IsoDateTime) (dateNow : Int) :
    (recordAuthenticationFailure H repository app samples request occurredAt dateNow).1 =
      app.recordAudit H repository (authenticationFailureInput H request
        (timestampMs H dateNow occurredAt) 0) occurredAt none false := by
  unfold recordAuthenticationFailure
  rw [h]
  rfl

/-- A failed authentication is one recorded event, or none. -/
theorem recordAuthenticationFailure_app (app : RebacLocalApp σ)
    (samples : AuthenticationFailureSamples) (request : UnauthenticatedRequest)
    (occurredAt : IsoDateTime) (dateNow : Int) :
    (recordAuthenticationFailure H repository app samples request occurredAt dateNow).1 = app ∨
    ∃ suppressed, (recordAuthenticationFailure H repository app samples request occurredAt
      dateNow).1 = app.recordAudit H repository (authenticationFailureInput H request
        (timestampMs H dateNow occurredAt) suppressed) occurredAt none false := by
  cases h : samples request.reason with
  | none => exact .inr ⟨0, recordAuthenticationFailure_first app h occurredAt dateNow⟩
  | some priorSample =>
    unfold recordAuthenticationFailure
    rw [h]
    dsimp only
    split
    · exact .inl rfl
    · exact .inr ⟨priorSample.suppressedCount, rfl⟩

/-- **The event of a failed authentication is refused**: that no token is logged
is said under a key that looks like a token. -/
theorem authenticationFailure_unstorable (adapter : ReferenceAuditEvidenceAdapter)
    (recorder : AuditRecorder) (request : UnauthenticatedRequest) (occurredAtMs : Int)
    (suppressed : Nat) (occurredAt : IsoDateTime) :
    ¬ ReferenceAuditEvidenceAdapter.Storable H adapter (recorder.next H
      (authenticationFailureInput H request occurredAtMs suppressed) occurredAt) := by
  intro h
  have hevent := h.clean
  have hpayload : NoSecrets H (.obj (authenticationFailureInput H request occurredAtMs
      suppressed).payload) := hevent.field (k := "payload") (by simp [AuditRecorder.next])
  have hkey := (noSecrets_obj.1 hpayload ("tokenLogged", .bool false)
    (by simp [authenticationFailureInput])).1
  rw [sensitiveKey_ascii (by decide +kernel) H ⟨id, fun _ => none, fun _ => "", id⟩] at hkey
  exact absurd hkey (by decide +kernel)

end

end AccessKit.L5
