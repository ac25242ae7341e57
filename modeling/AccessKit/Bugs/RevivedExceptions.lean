import AccessKit.L8Drift.GovernanceClosure

/-!
# Revoked exceptions that come back

Status: open. A generation computes the status of a request from its drift finding and its
expiry (packages/core/src/governance.ts:334-346) and never reads the recorded one, although
`riskAcceptanceStatus` has a branch for a revoked request (lines 348-363), which nothing
reaches. A revoked request is asked for again as long as it is not expired, and its acceptance
is pending or, if the drift finding is still accepted, accepted.

Counterexample: a revoked request and one generation before its expiry (`requested_again`).

Exact condition, of every generation: the last drift finding that has the request under its
id, and requires one, is not resolved and the generation is after the recorded expiry; and the
last one that has the finding is not accepted, or the generation is after its expiry. If there
is none, what is recorded of the finding does not count it as risk accepted, as it does when an
acceptance was granted and then revoked (`stays_settled`).
-/
namespace AccessKit.Bugs.RevivedExceptions
open AccessKit.Core AccessKit.L1 AccessKit.L2.Audit.Fixtures AccessKit.L8

section
variable (H : Host) (localeCompare : String → String → Int)

/-- The records after a generation over them. One that throws leaves them. -/
def regenerate (records : AccessReviewGovernanceRecords) (input : AccessReviewGovernanceInput) :
    AccessReviewGovernanceRecords :=
  match buildAccessReviewGovernance H localeCompare { input with existing := records } with
  | .ok next => next
  | .error _ => records

/-- A request that is neither asked for nor accepted. -/
structure Barred (request : ExceptionRequest) : Prop where
  requested : request.status ≠ .requested
  riskAccepted : request.status ≠ .riskAccepted
  pending : request.riskAcceptance.status ≠ .pending
  accepted : request.riskAcceptance.status ≠ .accepted

/-- The finding is not counted as risk accepted. -/
def NotCounted (findingId : CanonicalId) (records : AccessReviewGovernanceRecords) : Prop :=
  ∀ f ∈ records.findings, f.id = findingId → f.status ≠ .riskAccepted

/-- A request that was revoked is as it was, or barred, and its finding is not counted as risk
accepted. -/
structure Settled (revoked : ExceptionRequest) (records : AccessReviewGovernanceRecords) :
    Prop where
  request : ∀ r ∈ records.exceptionRequests, r.id = revoked.id → r = revoked ∨ Barred r
  finding : NotCounted revoked.findingId records

/-- **The law**: whatever a generation of a run returns is settled. -/
def StaysSettled (revoked : ExceptionRequest) :
    AccessReviewGovernanceRecords → List AccessReviewGovernanceInput → Prop
  | _, [] => True
  | records, input :: rest =>
    (∀ next, buildAccessReviewGovernance H localeCompare { input with existing := records } =
      .ok next → Settled revoked next) ∧
      StaysSettled revoked (regenerate H localeCompare records input) rest

/-- A request is recorded as revoked. -/
structure Recorded (revoked : ExceptionRequest) (records : AccessReviewGovernanceRecords) :
    Prop where
  status : revoked.status = .revoked ∨ revoked.riskAcceptance.status = .revoked
  recorded : revoked ∈ records.exceptionRequests
  only : ∀ r ∈ records.exceptionRequests, r.id = revoked.id → r = revoked

/-- The drift finding requires a request, under an id. -/
def asks (requestId : CanonicalId) (d : DriftFinding) : Bool :=
  requiresExceptionRequest d && decide (exceptionRequestId H d.id = requestId)

/-- The drift finding has its governance finding under an id. -/
def concerns (findingId : CanonicalId) (d : DriftFinding) : Bool :=
  decide (governanceFindingId H d.id = findingId)

/-- The expiry that a generation has for the last drift finding of an id: the recorded one, or
the one that the first drift finding with that request makes. -/
def expiryOf (existing : Option ExceptionRequest) (l : List DriftFinding) (d : DriftFinding) :
    Except String IsoDateTime :=
  match existing with
  | some r => .ok r.expiresAt
  | none => addDays H ((l.find? (asks H (exceptionRequestId H d.id))).getD d).detectedAt 30

/-- A generation over records does not bring a revoked request back. -/
structure Guarded (revoked : ExceptionRequest) (records : AccessReviewGovernanceRecords)
    (input : AccessReviewGovernanceInput) : Prop where
  request : ∀ d, input.driftFindings.reverse.find? (asks H revoked.id) = some d →
    d.status ≠ .resolved ∧ isAfter H input.generatedAt revoked.expiresAt = true
  finding : ∀ d, input.driftFindings.reverse.find? (concerns H revoked.findingId) = some d →
    d.status = .accepted →
      ∃ expiresAt, expiryOf H ((toIdMap (·.id) records.exceptionRequests).get?
          (exceptionRequestId H d.id)) input.driftFindings d = .ok expiresAt ∧
        isAfter H input.generatedAt expiresAt = true
  unseen : input.driftFindings.reverse.find? (concerns H revoked.findingId) = none →
    NotCounted revoked.findingId records

/-- Every generation of a run meets its condition. -/
def GuardedRun (revoked : ExceptionRequest) :
    AccessReviewGovernanceRecords → List AccessReviewGovernanceInput → Prop
  | _, [] => True
  | records, input :: rest =>
    Guarded H revoked records input ∧
      GuardedRun revoked (regenerate H localeCompare records input) rest

end

/-! ## The last drift finding of an id -/

section
variable {H : Host} {t : IsoDateTime} {d : DriftFinding} {l before after : List DriftFinding}
  {index index' : GovernanceIndex} {p : DriftFinding → Bool}

theorem split_last (h : l.reverse.find? p = some d) :
    p d = true ∧ ∃ before after, l = before ++ d :: after ∧ ∀ d' ∈ after, ¬ p d' = true := by
  obtain ⟨hp, as, bs, hl, has⟩ := List.find?_eq_some_iff_append.1 h
  refine ⟨hp, bs.reverse, as.reverse, ?_, ?_⟩
  · rw [← List.reverse_reverse l, hl]
    simp
  · intro d' hd'
    simpa using has d' (List.mem_reverse.1 hd')

theorem none_last (h : l.reverse.find? p = none) : ∀ d ∈ l, ¬ p d = true :=
  fun d hd => List.find?_eq_none.1 h d (List.mem_reverse.2 hd)

theorem mergeAll_split (h : mergeAll H t (before ++ d :: after) index = .ok index') :
    ∃ mid next, mergeAll H t before index = .ok mid ∧ mergeDriftFinding H t mid d = .ok next ∧
      mergeAll H t after next = .ok index' := by
  rw [mergeAll, List.foldlM_append] at h
  obtain ⟨mid, hmid, h⟩ := L2.Audit.bind_ok.1 h
  obtain ⟨next, hnext, h⟩ := mergeAll_cons h
  exact ⟨mid, next, hmid, hnext, h⟩

/-- The expiry that a drift finding is given after others. -/
theorem exceptionExpiresAt_after (h : mergeAll H t l index = .ok index') (d : DriftFinding) :
    exceptionExpiresAt H d (index'.exceptionRequestsById.get? (exceptionRequestId H d.id)) =
      expiryOf H (index.exceptionRequestsById.get? (exceptionRequestId H d.id)) l d := by
  induction l generalizing index with
  | nil =>
    obtain rfl := Except.ok.inj h
    cases index.exceptionRequestsById.get? (exceptionRequestId H d.id) <;> rfl
  | cons d' l ih =>
    obtain ⟨next, hnext, h⟩ := mergeAll_cons h
    obtain ⟨finding, request, hgenerate, rfl⟩ := mergeDriftFinding_ok hnext
    have hgenerated := generate_ok hgenerate
    rw [ih h, get?_put_request hgenerated]
    by_cases hasks : asks H (exceptionRequestId H d.id) d' = true
    · obtain ⟨hrequires, hid⟩ := Bool.and_eq_true_iff.1 hasks
      obtain hid := of_decide_eq_true hid
      obtain ⟨r, rfl⟩ := Option.isSome_iff_exists.1 (hgenerated.required.trans hrequires)
      obtain ⟨expiresAt, hexpires, -, -, hrequest⟩ := hgenerated.status
      rw [hid] at hexpires
      rw [if_pos hid, Option.some_or]
      simp only [expiryOf, (hrequest r rfl).1]
      cases hget : index.exceptionRequestsById.get? (exceptionRequestId H d.id) with
      | some q =>
        rw [hget] at hexpires
        exact hexpires.symm
      | none =>
        rw [hget] at hexpires
        simp only [List.find?_cons_of_pos hasks, Option.getD_some]
        exact hexpires.symm
    · have hsame : (if exceptionRequestId H d'.id = exceptionRequestId H d.id then
          request.or (index.exceptionRequestsById.get? (exceptionRequestId H d.id))
          else index.exceptionRequestsById.get? (exceptionRequestId H d.id)) =
            index.exceptionRequestsById.get? (exceptionRequestId H d.id) := by
        split
        · rename_i hid
          have hrequires : requiresExceptionRequest d' = false := by
            simpa [asks, hid] using hasks
          have hnone : request = none := by
            have hrequired := hgenerated.required
            rw [hrequires, Option.isSome_eq_false_iff, Option.isNone_iff_eq_none] at hrequired
            exact hrequired
          rw [hnone, Option.none_or]
        · rfl
      rw [hsame]
      unfold expiryOf
      rw [List.find?_cons_of_neg hasks]

/-- The last drift finding that asks for a request that is there decides its statuses, and
leaves its expiry. -/
theorem request_after {r : ExceptionRequest} {k : CanonicalId}
    (h : mergeAll H t l index = .ok index') (hr : index.exceptionRequestsById.get? k = some r)
    (hlast : l.reverse.find? (asks H k) = some d) :
    ∃ q, index'.exceptionRequestsById.get? k = some q ∧ q.expiresAt = r.expiresAt ∧
      q.status = exceptionRequestStatus H d t r.expiresAt ∧
      ∃ existing, q.riskAcceptance.status = riskAcceptanceStatus existing q.status := by
  obtain ⟨hasks, before, after, rfl, hafter⟩ := split_last hlast
  obtain ⟨hrequires, hid⟩ := Bool.and_eq_true_iff.1 hasks
  obtain rfl := of_decide_eq_true hid
  obtain ⟨mid, next, hmid, hnext, h⟩ := mergeAll_split h
  obtain ⟨finding, request, hgenerate, rfl⟩ := mergeDriftFinding_ok hnext
  have hgenerated := generate_ok hgenerate
  obtain ⟨q, rfl⟩ := Option.isSome_iff_exists.1 (hgenerated.required.trans hrequires)
  obtain ⟨expiresAt, hexpires, -, -, hrequest⟩ := hgenerated.status
  rw [exceptionExpiresAt_after hmid, hr] at hexpires
  obtain rfl := Except.ok.inj hexpires
  obtain ⟨hqexpires, hqstatus, hqrisk⟩ := hrequest q rfl
  refine ⟨q, ?_, hqexpires, hqstatus, _, hqrisk⟩
  rw [mergeAll_request h fun d' hd' hrequires' hid' => hafter d' hd' (by simp [asks, *]),
    get?_put_request hgenerated, if_pos rfl, Option.some_or]

theorem finding_after {k : CanonicalId} (h : mergeAll H t l index = .ok index')
    (hlast : l.reverse.find? (concerns H k) = some d) :
    ∃ f expiresAt, index'.findingsById.get? k = some f ∧
      expiryOf H (index.exceptionRequestsById.get? (exceptionRequestId H d.id)) l d =
        .ok expiresAt ∧
      (f.status = .riskAccepted → d.status = .accepted ∧ isAfter H t expiresAt = false) := by
  obtain ⟨hconcerns, before, after, rfl, hafter⟩ := split_last hlast
  obtain rfl := of_decide_eq_true hconcerns
  obtain ⟨mid, next, hmid, hnext, h⟩ := mergeAll_split h
  obtain ⟨finding, request, hgenerate, rfl⟩ := mergeDriftFinding_ok hnext
  have hgenerated := generate_ok hgenerate
  obtain ⟨expiresAt, hexpires, hstatus, -, -⟩ := hgenerated.status
  rw [exceptionExpiresAt_after hmid] at hexpires
  refine ⟨finding, expiresAt, ?_, ?_, ?_⟩
  · rw [mergeAll_finding h fun d' hd' hid' => hafter d' hd' (decide_eq_true hid'),
      get?_put_finding hgenerated, if_pos rfl]
  · -- None of the drift findings after the last one asks for its request.
    rw [← hexpires]
    unfold expiryOf
    have hnone : after.find? (asks H (exceptionRequestId H d.id)) = none := by
      refine List.find?_eq_none.2 fun d' hd' hasks => hafter d' hd' (decide_eq_true ?_)
      obtain ⟨-, hid⟩ := Bool.and_eq_true_iff.1 hasks
      exact governanceFindingId_inj.2 (exceptionRequestId_inj.1 (of_decide_eq_true hid))
    rw [List.find?_append, List.find?_cons, hnone]
    cases before.find? (asks H (exceptionRequestId H d.id)) with
    | some d' => rfl
    | none => cases asks H (exceptionRequestId H d.id) d <;> rfl
  · intro haccepted
    rw [hstatus, governanceFindingStatus] at haccepted
    split at haccepted
    · cases haccepted
    · split at haccepted
      · rename_i hd
        split at haccepted
        · cases haccepted
        · exact ⟨hd, by simpa using ‹¬ isAfter H t expiresAt = true›⟩
      · split at haccepted <;> cases haccepted

/-! ## Generations -/

/-- What stays of a revoked request. -/
def Kept (revoked : ExceptionRequest) (index : GovernanceIndex) : Prop :=
  ∃ r, index.exceptionRequestsById.get? revoked.id = some r ∧
    r.expiresAt = revoked.expiresAt ∧ (r = revoked ∨ Barred r)

variable {revoked : ExceptionRequest} {localeCompare : String → String → Int}
  {records : AccessReviewGovernanceRecords} {input : AccessReviewGovernanceInput}

theorem barred_of_expired {r : ExceptionRequest} {existing : Option GovernanceRiskAcceptanceStatus}
    (hstatus : r.status = .expired)
    (hrisk : r.riskAcceptance.status = riskAcceptanceStatus existing r.status) : Barred r := by
  rw [hstatus, riskAcceptanceStatus, if_pos rfl] at hrisk
  constructor <;> simp [hstatus, hrisk]

theorem kept_after (hkept : Kept revoked (.ofRecords records))
    (hguarded : Guarded H revoked records input)
    (h : mergeAll H input.generatedAt input.driftFindings (.ofRecords records) = .ok index') :
    Kept revoked index' := by
  obtain ⟨r, hr, hexpires, hbarred⟩ := hkept
  cases hlast : input.driftFindings.reverse.find? (asks H revoked.id) with
  | none =>
    have hsame := mergeAll_request h (k := revoked.id) fun d hd hrequires hid =>
      none_last hlast d hd (by simp [asks, *])
    exact ⟨r, hsame.trans hr, hexpires, hbarred⟩
  | some d =>
    obtain ⟨q, hq, hqexpires, hqstatus, existing, hqrisk⟩ := request_after h hr hlast
    obtain ⟨hopen, hpast⟩ := hguarded.request d hlast
    rw [exceptionRequestStatus, if_neg hopen, hexpires, if_pos hpast] at hqstatus
    exact ⟨q, hq, hqexpires.trans hexpires, .inr (barred_of_expired hqstatus hqrisk)⟩

theorem notCounted_after (hguarded : Guarded H revoked records input)
    (h : mergeAll H input.generatedAt input.driftFindings (.ofRecords records) = .ok index')
    {f : GovernanceFinding} (hf : index'.findingsById.get? revoked.findingId = some f) :
    f.status ≠ .riskAccepted := by
  intro haccepted
  cases hlast : input.driftFindings.reverse.find? (concerns H revoked.findingId) with
  | none =>
    -- the recorded finding is still there
    rw [mergeAll_finding h fun d hd hid => none_last hlast d hd (decide_eq_true hid)] at hf
    exact hguarded.unseen hlast f (mem_of_toIdMap hf) (OrderedMap.get?_ofList_key _ _ hf) haccepted
  | some d =>
    obtain ⟨f', expiresAt, hf', hexpiry, hback⟩ := finding_after h hlast
    obtain rfl := Option.some.inj (hf.symm.trans hf')
    obtain ⟨hd, hbefore⟩ := hback haccepted
    obtain ⟨expiresAt', hexpiry', hpast⟩ := hguarded.finding d hlast hd
    obtain rfl := Except.ok.inj (hexpiry.symm.trans hexpiry')
    rw [hbefore] at hpast
    cases hpast

/-- **One generation.** -/
theorem settled_generated {next : AccessReviewGovernanceRecords}
    (hkept : Kept revoked (.ofRecords records)) (hguarded : Guarded H revoked records input)
    (h : buildAccessReviewGovernance H localeCompare { input with existing := records } =
      .ok next) :
    Kept revoked (.ofRecords next) ∧ Settled revoked next := by
  obtain ⟨index, campaign, hindex, -, rfl⟩ := buildAccessReviewGovernance_ok h
  obtain ⟨r, hr, hexpires, hbarred⟩ := kept_after hkept hguarded hindex
  have hfiled := mergeAll_filed hindex (GovernanceIndex.filed_ofRecords _)
  refine ⟨⟨r, (get?_toIdMap_sortById hfiled.requests _ _).trans hr, hexpires, hbarred⟩,
    fun q hq hid => ?_, fun f hf hid => ?_⟩
  · have hq := (OrderedMap.mem_values_key hfiled.requests).1 ((sortById_perm _).mem_iff.1 hq)
    rw [hid, hr] at hq
    exact Option.some.inj hq ▸ hbarred
  · have hf := (OrderedMap.mem_values_key hfiled.findings).1 ((sortById_perm _).mem_iff.1 hf)
    rw [hid] at hf
    exact notCounted_after hguarded hindex hf

theorem kept_regenerate (hkept : Kept revoked (.ofRecords records))
    (hguarded : Guarded H revoked records input) :
    Kept revoked (.ofRecords (regenerate H localeCompare records input)) := by
  unfold regenerate
  cases h : buildAccessReviewGovernance H localeCompare { input with existing := records } with
  | error message => exact hkept
  | ok next => exact (settled_generated hkept hguarded h).1

/-- **A run.** -/
theorem settled_run {inputs : List AccessReviewGovernanceInput}
    (hkept : Kept revoked (.ofRecords records))
    (hguarded : GuardedRun H localeCompare revoked records inputs) :
    StaysSettled H localeCompare revoked records inputs := by
  induction inputs generalizing records with
  | nil => trivial
  | cons input rest ih =>
    obtain ⟨hinput, hrest⟩ := hguarded
    exact ⟨fun next h => (settled_generated hkept hinput h).2,
      ih (kept_regenerate hkept hinput) hrest⟩

theorem Recorded.kept (h : Recorded revoked records) : Kept revoked (.ofRecords records) := by
  obtain ⟨r, hr⟩ : ∃ r, (toIdMap ExceptionRequest.id records.exceptionRequests).get? revoked.id =
      some r := toIdMap_of_mem h.recorded
  obtain rfl := h.only r (mem_of_toIdMap hr) (OrderedMap.get?_ofList_key _ _ hr)
  exact ⟨r, hr, rfl, .inl rfl⟩

end

/-! ## The law -/

/-- The plan's request, revoked. -/
def revokedRequest : ExceptionRequest := planRequest "exception:drift:plan" .revoked .revoked

/-- The records of the plan, where the acceptance was granted and then revoked: the finding
still counts as risk accepted. -/
def revokedRecords : AccessReviewGovernanceRecords where
  campaigns := []
  findings := [{ planGovernanceFinding "exception:drift:plan" with status := .riskAccepted }]
  exceptionRequests := [revokedRequest]

/-- A generation over the plan's drift finding, before the request expires. -/
def early : AccessReviewGovernanceInput :=
  planInput [planFinding "drift:plan" "user:alice"] revokedRecords

/-- One after that. -/
def late : AccessReviewGovernanceInput :=
  { early with generatedAt := "2026-02-01T00:00:00.000Z" }

/-- One over no drift finding. -/
def quiet : AccessReviewGovernanceInput := planInput [] revokedRecords

theorem recorded_plan : Recorded revokedRequest revokedRecords where
  status := .inl rfl
  recorded := List.mem_singleton.2 rfl
  only := List.forall_mem_singleton.2 fun _ => rfl

/-- **A revoked request is asked for again.** -/
theorem requested_again :
    ¬ ∀ (H : Host) (localeCompare : String → String → Int) (revoked : ExceptionRequest)
      (records : AccessReviewGovernanceRecords) (inputs : List AccessReviewGovernanceInput),
      Recorded revoked records → StaysSettled H localeCompare revoked records inputs := by
  intro hall
  obtain ⟨hsettled, -⟩ := hall exactHost plainCompare revokedRequest revokedRecords [early]
    recorded_plan
  have hdated : early.Dated exactHost :=
    planInput_dated (List.forall_mem_singleton.2 ⟨_, _, rfl⟩) _
  obtain ⟨next, hnext⟩ := buildAccessReviewGovernance_dated plainCompare hdated
  have hsettled := hsettled next hnext
  obtain ⟨index, campaign, hindex, -, rfl⟩ := buildAccessReviewGovernance_ok hnext
  have hasks : asks exactHost "exception:drift:plan"
      (planFinding "drift:plan" "user:alice") = true := by decide +kernel
  obtain ⟨q, hq, -, hstatus, -⟩ := request_after hindex
    (show (GovernanceIndex.ofRecords early.existing).exceptionRequestsById.get?
      "exception:drift:plan" = some revokedRequest from rfl)
    (List.find?_cons_of_pos hasks)
  have hrequested : exceptionRequestStatus exactHost (planFinding "drift:plan" "user:alice")
      "2026-01-02T00:00:00.000Z" "2026-01-31T00:00:00.000Z" = .requested := by decide +kernel
  have hfiled := mergeAll_filed hindex (GovernanceIndex.filed_ofRecords _)
  have hmem : q ∈ index.exceptionRequestsById.values := OrderedMap.mem_values.2 ⟨_, hq⟩
  rcases hsettled.request q ((sortById_perm _).mem_iff.2 hmem) (hfiled.requests _ _ hq) with
    hsame | hbarred
  · rw [hsame] at hstatus
    exact absurd (hstatus.trans hrequested) (by decide)
  · exact hbarred.requested (hstatus.trans hrequested)

/-- **When a revocation stays.** In every run whose generations meet the condition, no
generation has the revoked request asked for or accepted again, or counts its finding as risk
accepted. -/
theorem stays_settled (H : Host) (localeCompare : String → String → Int)
    (revoked : ExceptionRequest) (records : AccessReviewGovernanceRecords)
    (inputs : List AccessReviewGovernanceInput) (hrecorded : Recorded revoked records)
    (hguarded : GuardedRun H localeCompare revoked records inputs) :
    StaysSettled H localeCompare revoked records inputs :=
  settled_run hrecorded.kept hguarded

theorem guarded_late : Guarded exactHost revokedRequest revokedRecords late where
  request d hlast := by
    obtain rfl := List.mem_singleton.1 (List.mem_reverse.1 (List.mem_of_find?_eq_some hlast))
    exact ⟨by decide, by decide +kernel⟩
  finding d hlast haccepted := by
    obtain rfl := List.mem_singleton.1 (List.mem_reverse.1 (List.mem_of_find?_eq_some hlast))
    cases haccepted
  unseen hnone := by
    have hconcerns : concerns exactHost "governance-finding:drift:plan"
        (planFinding "drift:plan" "user:alice") = true := by decide +kernel
    exact absurd hconcerns (none_last hnone _ (List.mem_singleton.2 rfl))

theorem guarded_quiet :
    Guarded exactHost revokedRequest (regenerate exactHost plainCompare revokedRecords late)
      quiet where
  request d hlast := by cases hlast
  finding d hlast := by cases hlast
  unseen _ := by
    have hdated : late.Dated exactHost :=
      ⟨by change L8.Dated exactHost "2026-02-01T00:00:00.000Z"; decide +kernel,
        (planInput_dated (List.forall_mem_singleton.2 ⟨_, _, rfl⟩) revokedRecords).detectedAt⟩
    obtain ⟨next, hnext⟩ := buildAccessReviewGovernance_dated plainCompare hdated
    have hregenerate : regenerate exactHost plainCompare revokedRecords late = next := by
      have hsame : { late with existing := revokedRecords } = late := rfl
      rw [regenerate, hsame, hnext]
    rw [hregenerate]
    exact (settled_generated recorded_plan.kept guarded_late hnext).2.finding

/-- An acceptance that was granted and revoked, a generation after its expiry, and one that does
not have the drift finding any more. -/
theorem settled_late :
    StaysSettled exactHost plainCompare revokedRequest revokedRecords [late, quiet] :=
  stays_settled exactHost plainCompare revokedRequest revokedRecords [late, quiet] recorded_plan
    ⟨guarded_late, guarded_quiet, trivial⟩

end AccessKit.Bugs.RevivedExceptions
