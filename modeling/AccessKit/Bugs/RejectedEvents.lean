import AccessKit.L2Audit.ReferenceFixtures
import AccessKit.L5Runtime.Authentication
import AccessKit.L5Runtime.Recovery

/-!
# A refused event takes the audit log out of step

Status: open. The recorder adds an event to its chain before the repository has
seen it (packages/api/src/runtime-state.ts:42-51), and an append that throws is
noted and forgotten (:53-82). The next event names the refused one, which the
repository does not have, and is refused as well, and so is every other until the
runtime is started again; with a state repository the append is skipped each time.
The reference store refuses what looks like secret material
(packages/core/src/reference-audit-log-storage.ts:42-44), and the runtime makes such
events itself: that of a failed authentication has the key `tokenLogged`
(packages/api/src/api-auth.ts:138-151).

Counterexample: one request without a token, then a subject is created. Neither
event is in the repository (`unauthenticated_blocks`).

Exact condition: the runtime starts in step, and the repository can store the
content of every event, no identifier comes twice, and what JSON brings back of an
event has its text (`log_keeps_up`, `InStep.record_iff`, `Behind.record`).
-/
namespace AccessKit.Bugs.RejectedEvents
open AccessKit.Core AccessKit.L1 AccessKit.L2.Fixtures AccessKit.L2.Audit
  AccessKit.L2.Audit.Fixtures AccessKit.L5 RebacLocalApp

section
variable {H : Host} {σ : Type} {repository : AuditEventRepository σ}

/-- What a recorded event needs. -/
structure Meets (backend : AppendOnly H repository) (app : RebacLocalApp σ) (event : AuditEvent) :
    Prop where
  storable : backend.Storable event
  fresh : ∀ e ∈ app.auditRecorder.events, e.eventId ≠ event.eventId
  text : KeepsText H event

/-- The states of a runtime whose recorded events all meet the condition. A
runtime operation, and a request that is answered or refused, records some
events, writes the state at times and does not touch the log otherwise. -/
inductive Reached (backend : AppendOnly H repository) (start : RebacLocalApp σ) :
    RebacLocalApp σ → Prop
  | started : Reached backend start start
  | recorded {app : RebacLocalApp σ} (h : Reached backend start app) (input : AuditEventInput)
      (occurredAt : IsoDateTime) (requestActor : Option CanonicalId) (persistState : Bool)
      (hmeets : Meets backend app (app.nextEvent H input occurredAt requestActor)) :
      Reached backend start
        (app.recordAudit H repository input occurredAt requestActor persistState)
  | decided {app : RebacLocalApp σ} (h : Reached backend start app) (input : AuditEventInput)
      (evaluatedAt : IsoDateTime) (requestActor : Option CanonicalId)
      (hmeets : Meets backend app (app.nextEvent H input evaluatedAt requestActor)) :
      Reached backend start (app.recordDecision H repository input evaluatedAt requestActor)
  | persisted {app : RebacLocalApp σ} (h : Reached backend start app) :
      Reached backend start app.persistAppState

/-- The repository lists what the recorder has, and accepts the next event that
meets the condition. -/
def KeepsUp (backend : AppendOnly H repository) (app : RebacLocalApp σ) : Prop :=
  repository.listAuditEvents app.auditRepository =
      .ok (app.auditRecorder.events.map AuditEvent.copy) ∧
    ∀ input occurredAt requestActor,
      Meets backend app (app.nextEvent H input occurredAt requestActor) →
      app.Accepts H repository (app.nextEvent H input occurredAt requestActor)

/-! ## Behind -/

/-- The repository misses events of the runtime. -/
structure Behind (backend : AppendOnly H repository) (app : RebacLocalApp σ)
    (events : List AuditEvent) : Prop where
  holds : backend.Holds app.auditRepository events
  misses : if app.stateRepository.isSome then events.length < app.storeEvents.length
    else events = [] ∧ app.auditRecorder.events ≠ []

/-- **Once behind, a runtime appends nothing any more.** -/
theorem Behind.record {backend : AppendOnly H repository} {app : RebacLocalApp σ}
    {events : List AuditEvent} (h : Behind backend app events) (input : AuditEventInput)
    (occurredAt : IsoDateTime) (requestActor : Option CanonicalId) (persistState : Bool) :
    (app.recordAudit H repository input occurredAt requestActor persistState).auditRepository =
        app.auditRepository ∧
      Behind backend (app.recordAudit H repository input occurredAt requestActor persistState)
        events := by
  have hrefused : ¬ app.Accepts H repository (app.nextEvent H input occurredAt requestActor) := by
    rintro ⟨s', hs⟩
    have hmisses := h.misses
    rw [expectedPriorEvents] at hs
    split at hs
    · -- the repository does not list what the store had
      rename_i hstate
      rw [if_pos hstate] at hmisses
      have hmatches : sameTexts H events app.storeEvents = false := by
        rw [Bool.eq_false_iff]
        intro hsame
        have := (sameTexts_iff.1 hsame).length_eq
        omega
      simp [tryAppend, auditRepositoryMatches, backend.lists h.holds, hmatches, bind, Except.bind,
        pure, Except.pure] at hs
    · -- the event names one that the repository does not have
      rename_i hstate
      rw [if_neg hstate] at hmisses
      obtain ⟨rfl, hne⟩ := hmisses
      rw [tryAppend, bind_ok] at hs
      obtain ⟨⟨receipt, s''⟩, happend, -⟩ := hs
      obtain ⟨-, -, hlinks⟩ := (backend.accepts h.holds).1 ⟨receipt, s'', happend⟩
      obtain ⟨init, last, hlast⟩ := (List.eq_nil_or_concat' app.auditRecorder.events).resolve_left hne
      simp [nextEvent, AuditRecorder.next, hlast] at hlinks
  have hsame : (app.recordAudit H repository input occurredAt requestActor
      persistState).auditRepository = app.auditRepository := by
    rw [recordAudit_auditRepository, appendAuditEvent_refused hrefused]
  refine ⟨hsame, hsame ▸ h.holds, ?_⟩
  have hmisses := h.misses
  rw [recordAudit_hasState, recordAudit_storeEvents, recordAudit_events]
  split at hmisses <;> rename_i hstate
  · rw [if_pos hstate, List.length_append]
    omega
  · rw [if_neg hstate]
    exact ⟨hmisses.1, by simp⟩

end

/-! ## The counterexample -/

/-- A runtime on an empty reference store. -/
def startedApp : RebacLocalApp ExternalAppendOnlyAuditStore where
  auditRecorder := ⟨[]⟩
  storeEvents := []
  storeDegradations := []
  persistenceDegradations := []
  auditRepository := emptyStore
  stateRepository := none

abbrev tenantRepository : AuditEventRepository ExternalAppendOnlyAuditStore :=
  referenceRepository exactHost (tenantAdapter exactHost)

def noToken : UnauthenticatedRequest where
  method := some "GET"
  pathname := "/v1/subjects"
  reason := .missing
  scope := "server"

/-- After the request without a token. -/
def refusedApp : RebacLocalApp ExternalAppendOnlyAuditStore :=
  (recordAuthenticationFailure exactHost tenantRepository startedApp (fun _ => none) noToken
    timestamp 0).1

def subjectCreated : AuditEventInput where
  eventType := "subject.created"
  actor := "service:api"
  subjectId := some "user:alice"
  correlationId := "corr:subject:user:alice"
  payload := [("displayName", .str "Alice")]

/-- After the subject is created. -/
def blockedApp : RebacLocalApp ExternalAppendOnlyAuditStore :=
  refusedApp.recordAudit exactHost tenantRepository subjectCreated later

theorem holds_empty (H : Host) :
    (referenceAppendOnly H (tenantAdapter H)).Holds emptyStore [] := ⟨rfl, rfl, rfl⟩

theorem inStep_started : InStep (referenceAppendOnly exactHost (tenantAdapter exactHost))
    startedApp where
  holds := holds_empty exactHost
  texts := nofun
  store := nofun

/-- **Counterexample**: the event of the request without a token is not in the
repository, and neither is that of the subject. -/
theorem unauthenticated_blocks :
    createRebacLocalApp exactHost tenantRepository emptyStore none {} timestamp = .ok startedApp ∧
    refusedApp.auditRecorder.events.length = 1 ∧
    tenantRepository.listAuditEvents refusedApp.auditRepository = .ok [] ∧
    blockedApp.auditRecorder.events.length = 2 ∧
    tenantRepository.listAuditEvents blockedApp.auditRepository = .ok [] := by
  have hrefusedApp : refusedApp = startedApp.recordAudit exactHost tenantRepository
      (authenticationFailureInput exactHost noToken (timestampMs exactHost 0 timestamp) 0) timestamp
      none false := recordAuthenticationFailure_first startedApp rfl timestamp 0
  have hrefused : refusedApp.auditRepository = emptyStore := by
    rw [hrefusedApp, recordAudit_auditRepository, appendAuditEvent_refused]
    · rfl
    · rw [tenantRepository, inStep_started.accepts_iff]
      exact fun h => authenticationFailure_unstorable _ _ _ _ _ _ h.1
  have hevents : refusedApp.auditRecorder.events.length = 1 := by
    rw [hrefusedApp, recordAudit_events]
    rfl
  have hstate : refusedApp.stateRepository.isSome = false := by
    rw [hrefusedApp, recordAudit_hasState]
    rfl
  have hbehind : Behind (referenceAppendOnly exactHost (tenantAdapter exactHost)) refusedApp [] := by
    refine ⟨hrefused ▸ holds_empty exactHost, ?_⟩
    rw [hstate]
    exact ⟨rfl, fun h => by rw [h] at hevents; cases hevents⟩
  obtain ⟨hblocked, hstill⟩ := hbehind.record subjectCreated later none true
  refine ⟨rfl, hevents, ?_, ?_, ?_⟩
  · exact (referenceAppendOnly exactHost (tenantAdapter exactHost)).lists hbehind.holds
  · rw [blockedApp, recordAudit_events, List.length_append, hevents]
    rfl
  · have hlists := (referenceAppendOnly exactHost (tenantAdapter exactHost)).lists hstill.holds
    rw [blockedApp]
    exact hlists

/-! ## When the log keeps up -/

section
variable {H : Host} {σ : Type} {repository : AuditEventRepository σ}

theorem reached_inStep {backend : AppendOnly H repository} {start app : RebacLocalApp σ}
    (hstart : InStep backend start) (h : Reached backend start app) : InStep backend app := by
  induction h with
  | started => exact hstart
  | recorded _ input occurredAt requestActor persistState hmeets ih =>
    exact ih.record hmeets.text (ih.accepts_iff.2 ⟨hmeets.storable, hmeets.fresh⟩)
  | decided _ input evaluatedAt requestActor hmeets ih =>
    rw [recordDecision_eq]
    exact ih.record hmeets.text (ih.accepts_iff.2 ⟨hmeets.storable, hmeets.fresh⟩)
  | persisted _ ih => exact ih.persist

theorem keepsUp_of_inStep {backend : AppendOnly H repository} {app : RebacLocalApp σ}
    (h : InStep backend app) : KeepsUp backend app :=
  ⟨h.lists, fun _ _ _ hmeets => h.accepts_iff.2 ⟨hmeets.storable, hmeets.fresh⟩⟩

end

/-- **When the log keeps up**: in every run of a runtime that starts in step and
whose events meet the condition, on the local file and on the reference store. -/
theorem log_keeps_up (H : Host) :
    (∀ start app : RebacLocalApp LocalAppendOnlyAuditRepository,
      InStep (localAppendOnly H) start → Reached (localAppendOnly H) start app →
      KeepsUp (localAppendOnly H) app) ∧
    ∀ (adapter : ReferenceAuditEvidenceAdapter)
      (start app : RebacLocalApp ExternalAppendOnlyAuditStore),
      InStep (referenceAppendOnly H adapter) start →
      Reached (referenceAppendOnly H adapter) start app →
      KeepsUp (referenceAppendOnly H adapter) app :=
  ⟨fun _ _ hstart h => keepsUp_of_inStep (reached_inStep hstart h),
    fun _ _ _ hstart h => keepsUp_of_inStep (reached_inStep hstart h)⟩

/-! ## Two subjects -/

def bobCreated : AuditEventInput where
  eventType := "subject.created"
  actor := "user:admin"
  subjectId := some "user:bob"
  correlationId := "corr:subject:user:bob"
  payload := [("displayName", .str "Bob")]

def aliceSource : JsValue := eventIdSource subjectCreated timestamp none

def aliceText : String := (stableStringify exactHost aliceSource).getD ""

/-- A host whose digests tell what the identifier of the first event is made of from
anything else. -/
def oneTextHost : Host :=
  { exactHost with sha256Hex := fun text => if text = aliceText then "1" else "0" }

theorem printsNumbers_oneText : PrintsNumbers oneTextHost :=
  ⟨printsNumbers_exact.nonempty, printsNumbers_exact.chars, printsNumbers_exact.inj⟩

theorem sha256_oneText (v : JsValue) : sha256 oneTextHost v =
    if (stableStringify oneTextHost v).getD "" = aliceText then "1" else "0" := rfl

theorem hexDigests_oneText : HexDigests oneTextHost := by
  intro s c hc
  change c ∈ (if s = aliceText then "1" else "0").toList at hc
  split at hc
  · exact mem_of_all (by decide) c hc
  · exact mem_of_all (by decide) c hc

def aliceEvent : AuditEvent := (AuditRecorder.mk []).next oneTextHost subjectCreated timestamp

def bobEvent : AuditEvent := (AuditRecorder.mk [aliceEvent]).next oneTextHost bobCreated later

theorem isJson_displayName (name : String) : IsJson (.obj [("displayName", .str name)]) :=
  .obj (by simp) (by simp [IsJson.str])

theorem text_alice : stableStringify oneTextHost (idSource aliceEvent) = some aliceText := by
  have htext : stableStringify oneTextHost aliceSource = stableStringify exactHost aliceSource := rfl
  obtain ⟨text, hsome⟩ : ∃ text, stableStringify exactHost aliceSource = some text := ⟨_, rfl⟩
  show stableStringify oneTextHost aliceSource = some aliceText
  rw [htext, aliceText, hsome]
  rfl

theorem aliceEvent_id : aliceEvent.eventId = "evt:1" := by
  show "evt:" ++ sliceTo 24 (sha256 oneTextHost (idSource aliceEvent)) = _
  rw [sha256_oneText, if_pos (by rw [text_alice]; rfl)]
  decide

theorem bobEvent_id : bobEvent.eventId = "evt:0" := by
  show "evt:" ++ sliceTo 24 (sha256 oneTextHost (idSource bobEvent)) = _
  rw [sha256_oneText, if_neg fun htext => ?_]
  · decide
  · -- the two have other actors
    have hsame : SameJson (idSource bobEvent) (idSource aliceEvent) := by
      refine sameJson_of_text printsNumbers_oneText (isJson_idSource (isJson_displayName "Bob"))
        (isJson_idSource (isJson_displayName "Alice")) ?_
      obtain ⟨text, hsome⟩ : ∃ text, stableStringify oneTextHost (idSource bobEvent) = some text :=
        ⟨_, rfl⟩
      rw [hsome] at htext ⊢
      rw [text_alice, ← htext]
      rfl
    cases hsame with
    | obj h => exact absurd (sameJson_str (h "actor")) (by decide)

theorem clean_key : ∀ k ∈ ["eventId", "eventType", "occurredAt", "actor", "subjectId",
    "resourceId", "correlationId", "policyVersion", "relationshipVersion", "payloadHash",
    "previousEventHash", "payload"], isSecretMaterialSensitiveKey oneTextHost k = false := by
  decide +kernel

/-- An event shows nothing secret when its texts do not. -/
theorem clean_event {event : AuditEvent}
    (htexts : ∀ text ∈ [event.eventId, event.eventType, event.occurredAt, event.actor,
      event.correlationId], NoSecrets oneTextHost (.str text))
    (hpart : ∀ part ∈ [event.subjectId, event.resourceId, event.policyVersion,
      event.relationshipVersion, event.previousEventHash], NoSecrets oneTextHost (optional part))
    (hhash : NoSecrets oneTextHost (.str event.payloadHash))
    (hpayload : NoSecrets oneTextHost (.obj event.payload)) :
    NoSecrets oneTextHost event.toJs := by
  refine noSecrets_obj.2 fun p hp =>
    ⟨clean_key p.1 (List.mem_map_of_mem (f := Prod.fst) hp), ?_⟩
  simp only [List.forall_mem_cons, List.not_mem_nil, false_implies, implies_true,
    and_true] at htexts hpart
  simp only [List.mem_cons, List.not_mem_nil, or_false] at hp
  rcases hp with rfl | rfl | rfl | rfl | rfl | rfl | rfl | rfl | rfl | rfl | rfl | rfl
  · exact htexts.1
  · exact htexts.2.1
  · exact htexts.2.2.1
  · exact htexts.2.2.2.1
  · exact hpart.1
  · exact hpart.2.1
  · exact htexts.2.2.2.2
  · exact hpart.2.2.1
  · exact hpart.2.2.2.1
  · exact hhash
  · exact hpart.2.2.2.2
  · exact hpayload

theorem clean_displayName {name : String} (h : isSensitiveString name = false) :
    NoSecrets oneTextHost (.obj [("displayName", .str name)]) := by
  refine noSecrets_obj.2 fun p hp => ?_
  obtain rfl := List.mem_singleton.1 hp
  have hkey : isSecretMaterialSensitiveKey oneTextHost "displayName" = false := by decide +kernel
  exact ⟨hkey, noSecrets_str.2 h⟩

theorem storable_both :
    ReferenceAuditEvidenceAdapter.Storable oneTextHost (tenantAdapter oneTextHost) aliceEvent ∧
    ReferenceAuditEvidenceAdapter.Storable oneTextHost (tenantAdapter oneTextHost) bobEvent := by
  have hhash := ReferenceAuditEvidenceAdapter.noSecrets_hash hexDigests_oneText
  have htexts : ∀ texts : List String, (texts.all fun text => !isSensitiveString text) = true →
      ∀ text ∈ texts, NoSecrets oneTextHost (.str text) := fun texts h text htext =>
    noSecrets_str.2 (by simpa using List.all_eq_true.1 h text htext)
  have hparts : ∀ {id : String} {previous : Option String}, isSensitiveString id = false →
      NoSecrets oneTextHost (optional previous) → ∀ part ∈ [some id, none, none, none, previous],
        NoSecrets oneTextHost (optional part) := by
    intro id previous hid hprevious
    simp only [List.forall_mem_cons, List.not_mem_nil, false_implies, implies_true, and_true]
    exact ⟨noSecrets_str.2 hid, noSecrets_none, noSecrets_none, noSecrets_none, hprevious⟩
  refine ⟨⟨clean_event ?_ (hparts (by decide +kernel) noSecrets_none) (hhash _)
    (clean_displayName (by decide +kernel)), .inl rfl⟩, ⟨clean_event ?_
      (hparts (by decide +kernel) (hhash _)) (hhash _) (clean_displayName (by decide +kernel)),
    .inl rfl⟩⟩
  · rw [aliceEvent_id]
    exact htexts ["evt:1", _, _, _, _] (by decide +kernel)
  · rw [bobEvent_id]
    exact htexts ["evt:0", _, _, _, _] (by decide +kernel)

/-- A runtime on an empty file. -/
def localApp : RebacLocalApp LocalAppendOnlyAuditRepository :=
  { startedApp with auditRepository := ⟨[], "append-only-audit-events.jsonl"⟩ }

section
variable {σ : Type} {repository : AuditEventRepository σ}

/-- After both subjects are created. -/
def bothCreated (repository : AuditEventRepository σ) (start : RebacLocalApp σ) :
    RebacLocalApp σ :=
  (start.recordAudit oneTextHost repository subjectCreated timestamp).recordAudit oneTextHost
    repository bobCreated later

theorem reached_bothCreated {backend : AppendOnly oneTextHost repository} {start : RebacLocalApp σ}
    (hempty : start.auditRecorder = ⟨[]⟩) (halice : backend.Storable aliceEvent)
    (hbob : backend.Storable bobEvent) : Reached backend start (bothCreated repository start) := by
  have hfirst : start.nextEvent oneTextHost subjectCreated timestamp none = aliceEvent := by
    rw [nextEvent, hempty]
    rfl
  have hevents : (start.recordAudit oneTextHost repository subjectCreated
      timestamp).auditRecorder.events = [aliceEvent] := by
    rw [recordAudit_events, hfirst, hempty]
    rfl
  have hsecond : (start.recordAudit oneTextHost repository subjectCreated timestamp).nextEvent
      oneTextHost bobCreated later none = bobEvent :=
    congrArg (fun events => (AuditRecorder.mk events).next oneTextHost bobCreated later) hevents
  have hmeets : Meets backend start aliceEvent := by
    refine ⟨halice, fun e he => ?_, keepsText_of_isJson (isJson_displayName "Alice")⟩
    rw [hempty] at he
    cases he
  have hmeets' : Meets backend (start.recordAudit oneTextHost repository subjectCreated timestamp)
      bobEvent := by
    refine ⟨hbob, fun e he => ?_, keepsText_of_isJson (isJson_displayName "Bob")⟩
    rw [hevents] at he
    rw [List.mem_singleton.1 he, aliceEvent_id, bobEvent_id]
    decide
  exact .recorded (.recorded .started subjectCreated timestamp none true (hfirst ▸ hmeets))
    bobCreated later none true (hsecond ▸ hmeets')

end

/-- Both repositories keep up. -/
theorem log_keeps_up_both :
    KeepsUp (localAppendOnly oneTextHost) (bothCreated (localRepository oneTextHost) localApp) ∧
    KeepsUp (referenceAppendOnly oneTextHost (tenantAdapter oneTextHost))
      (bothCreated (referenceRepository oneTextHost (tenantAdapter oneTextHost)) startedApp) := by
  obtain ⟨halice, hbob⟩ := storable_both
  have hlocal : Reached (localAppendOnly oneTextHost) localApp
      (bothCreated (localRepository oneTextHost) localApp) := reached_bothCreated rfl trivial trivial
  have hreference : Reached (referenceAppendOnly oneTextHost (tenantAdapter oneTextHost)) startedApp
      (bothCreated (referenceRepository oneTextHost (tenantAdapter oneTextHost)) startedApp) :=
    reached_bothCreated rfl halice hbob
  exact ⟨(log_keeps_up oneTextHost).1 localApp _ ⟨⟨rfl, rfl, rfl⟩, nofun, nofun⟩ hlocal,
    (log_keeps_up oneTextHost).2 (tenantAdapter oneTextHost) startedApp _
      ⟨holds_empty oneTextHost, nofun, nofun⟩ hreference⟩

end AccessKit.Bugs.RejectedEvents
