import AccessKit.L5Runtime.Authentication
import AccessKit.L5Runtime.Recovery

/-!
# Runs with crashes

A run of a runtime with a state repository, from two empty repositories: appends
that are accepted, writes of the state and restarts, each of them whole. A crash
comes between two of these; what the runtime was doing then is lost.

Results:
* `Run.recoverable`: every runtime of such a run is recoverable.
* `Run.recordAudit`, `Run.recordDecision`: what the runtime does in one go are
  such steps.
* `restart_recovers`: wherever a run stops, a start gives back what was appended,
  verified, and the next event is accepted when the repository takes its content.
* `restart_differs`: events of the seed are in no repository; a payload that is no
  JSON value makes the start throw; the reference store refuses some content.
-/
namespace AccessKit.L5
open AccessKit.Core AccessKit.L1 AccessKit.L2.Fixtures AccessKit.L2.Audit
  AccessKit.L2.Audit.Fixtures RebacLocalApp

section
variable {H : Host} {σ : Type} {repository : AuditEventRepository σ}

/-- The runtimes of a run, with the events that were appended until then. -/
inductive Run (H : Host) (repository : AuditEventRepository σ) (start : σ) :
    RebacLocalApp σ → List AuditEvent → Prop
  | started {app : RebacLocalApp σ} {seed : AuditSeed} {now : IsoDateTime}
      (hseed : seed.auditEvents.getD [] = [])
      (hcreate : createRebacLocalApp H repository start (some none) seed now = .ok app) :
      Run H repository start app []
  | appended {app : RebacLocalApp σ} {appended : List AuditEvent}
      (h : Run H repository start app appended) {input : AuditEventInput}
      (hjson : IsJson (.obj input.payload)) {occurredAt : IsoDateTime}
      {requestActor : Option CanonicalId}
      (haccepts : app.Accepts H repository (app.nextEvent H input occurredAt requestActor)) :
      Run H repository start (app.recordAudit H repository input occurredAt requestActor false)
        (appended ++ [app.nextEvent H input occurredAt requestActor])
  | persisted {app : RebacLocalApp σ} {appended : List AuditEvent}
      (h : Run H repository start app appended) :
      Run H repository start app.persistAppState appended
  | restarted {app app' : RebacLocalApp σ} {appended : List AuditEvent}
      (h : Run H repository start app appended) {seed : AuditSeed} {now : IsoDateTime}
      (hseed : seed.auditEvents.getD [] = [])
      (hcreate : createRebacLocalApp H repository app.auditRepository app.stateRepository seed now =
        .ok app') :
      Run H repository start app' appended

variable {start : σ} {app : RebacLocalApp σ} {appended : List AuditEvent}

/-- An operation that writes the state is the append and the write. -/
theorem Run.recordAudit (h : Run H repository start app appended) {input : AuditEventInput}
    (hjson : IsJson (.obj input.payload)) {occurredAt : IsoDateTime}
    {requestActor : Option CanonicalId}
    (haccepts : app.Accepts H repository (app.nextEvent H input occurredAt requestActor)) :
    Run H repository start (app.recordAudit H repository input occurredAt requestActor)
      (appended ++ [app.nextEvent H input occurredAt requestActor]) :=
  (h.appended hjson haccepts).persisted

/-- And so is a decision. -/
theorem Run.recordDecision (h : Run H repository start app appended) {input : AuditEventInput}
    (hjson : IsJson (.obj input.payload)) {evaluatedAt : IsoDateTime}
    {requestActor : Option CanonicalId}
    (haccepts : app.Accepts H repository (app.nextEvent H input evaluatedAt requestActor)) :
    Run H repository start (app.recordDecision H repository input evaluatedAt requestActor)
      (appended ++ [app.nextEvent H input evaluatedAt requestActor]) := by
  rw [recordDecision_eq]
  exact h.recordAudit hjson haccepts

theorem recoverable_started (backend : AppendOnly H repository) (hstart : backend.Holds start [])
    {seed : AuditSeed} (hseed : seed.auditEvents.getD [] = []) {now : IsoDateTime}
    (hcreate : createRebacLocalApp H repository start (some none) seed now = .ok app) :
    Recoverable backend app [] := by
  have hbase : seed.auditEvents.getD [] = ([] : List AuditEvent).take 0 := hseed
  obtain ⟨auditEvents, hrecover, htakes⟩ :=
    recover_takes (backend.lists hstart) ⟨trivial, nofun⟩ hbase now
  obtain ⟨app', hcreate', hevents, hstore, hrepository, hstate⟩ :
      ∃ app', createRebacLocalApp H repository start (some none) seed now = .ok app' ∧
        app'.auditRecorder.events = [] ∧ app'.storeEvents = [] ∧ app'.auditRepository = start ∧
        app'.stateRepository = some none := createRebacLocalApp_ok hrecover htakes
  obtain rfl : app' = app := Except.ok.inj (hcreate'.symm.trans hcreate)
  exact {
    inStep := {
      holds := by rw [hrepository, hevents]; exact hstart
      texts := by rw [hevents]; exact nofun
      store := fun _ => hstore.trans hevents.symm }
    hasState := by rw [hstate]; rfl
    json := by rw [hevents]; exact nofun
    verified := by rw [hevents]; exact ⟨trivial, nofun⟩
    snapshot := by rw [hstate]; exact nofun
    appended := by rw [hevents] }

/-- **Every runtime of a run is recoverable.** -/
theorem Run.recoverable (backend : AppendOnly H repository) (hstart : backend.Holds start [])
    (h : Run H repository start app appended) : Recoverable backend app appended := by
  induction h with
  | started hseed hcreate => exact recoverable_started backend hstart hseed hcreate
  | appended _ hjson haccepts ih => exact ih.record hjson haccepts false
  | persisted _ ih => exact ih.persist
  | restarted _ hseed hcreate ih =>
    obtain ⟨app', hcreate', -, hrecoverable⟩ := ih.restart hseed _
    obtain rfl : app' = _ := Except.ok.inj (hcreate'.symm.trans hcreate)
    exact hrecoverable

/-! ## What a start gives back -/

/-- A start on what is left gives a recorder with the list of the repository, which
is verified and has what was appended; the next event is accepted when its content
is. -/
def Recovers (backend : AppendOnly H repository) (app : RebacLocalApp σ)
    (appended : List AuditEvent) : Prop :=
  ∀ (seed : AuditSeed) (now : IsoDateTime), seed.auditEvents.getD [] = [] →
    ∃ app', createRebacLocalApp H repository app.auditRepository app.stateRepository seed now =
        .ok app' ∧
      repository.listAuditEvents app'.auditRepository = .ok app'.auditRecorder.events ∧
      (verifyAuditChain H app'.auditRecorder.events now).status = .verified ∧
      app'.auditRecorder.events = appended.map AuditEvent.copy ∧
      ∀ input occurredAt requestActor, IsJson (.obj input.payload) →
        DistinctIds H app'.auditRecorder.events (app'.nextEvent H input occurredAt requestActor) →
        (app'.Accepts H repository (app'.nextEvent H input occurredAt requestActor) ↔
          backend.Storable (app'.nextEvent H input occurredAt requestActor))

theorem Recoverable.recovers {backend : AppendOnly H repository} (hprint : PrintsNumbers H)
    (hsha : Function.Injective H.sha256Hex) (h : Recoverable backend app appended) :
    Recovers backend app appended := by
  intro seed now hseed
  obtain ⟨app', hcreate, hevents, hrecoverable⟩ := h.restart hseed now
  have hcopies : app'.auditRecorder.events.map AuditEvent.copy = app'.auditRecorder.events := by
    rw [hevents, List.map_map]
    exact List.map_congr_left fun e _ => copy_copy e
  refine ⟨app', hcreate, ?_, verified_iff.2 hrecoverable.verified, hevents,
    fun input occurredAt requestActor hjson hids => ?_⟩
  · rw [hrecoverable.inStep.lists, hcopies]
  · have hlinks : (app'.nextEvent H input occurredAt requestActor).previousEventHash =
        tip (auditEventHash H) none app'.auditRecorder.events := by
      rw [tip_eq_getLast]
      rfl
    rw [hrecoverable.inStep.accepts_iff, and_iff_left_iff_imp]
    exact fun _ => fresh_of_chained hprint hsha hrecoverable.verified.1 hrecoverable.json hjson
      hlinks hids

end

/-- **After a crash**: from an empty local file and from an empty reference store. -/
theorem restart_recovers {H : Host} (hprint : PrintsNumbers H)
    (hsha : Function.Injective H.sha256Hex) :
    (∀ location app appended, Run H (localRepository H) ⟨[], location⟩ app appended →
      Recovers (localAppendOnly H) app appended) ∧
    ∀ (adapter : ReferenceAuditEvidenceAdapter) (store : ExternalAppendOnlyAuditStore) app appended,
      store.auditRecords = [] → Run H (referenceRepository H adapter) store app appended →
      Recovers (referenceAppendOnly H adapter) app appended := by
  refine ⟨fun location app appended h => ?_, fun adapter store app appended hempty h => ?_⟩
  · exact (h.recoverable (localAppendOnly H) ⟨rfl, rfl, rfl⟩).recovers hprint hsha
  · refine (h.recoverable (referenceAppendOnly H adapter) ?_).recovers hprint hsha
    show _ ∧ _
    rw [hempty]
    exact ⟨rfl, rfl, rfl⟩

/-- An audit file that nothing was written to. -/
def emptyFile : LocalAppendOnlyAuditRepository := ⟨[], "append-only-audit-events.jsonl"⟩

/-- A runtime on empty repositories, with a state repository. -/
def emptyApp {σ : Type} (start : σ) : RebacLocalApp σ where
  auditRecorder := ⟨[]⟩
  storeEvents := []
  storeDegradations := []
  persistenceDegradations := []
  auditRepository := start
  stateRepository := some none

theorem create_empty {H : Host} {σ : Type} {repository : AuditEventRepository σ} {start : σ}
    (hlists : repository.listAuditEvents start = .ok []) (now : IsoDateTime) :
    createRebacLocalApp H repository start (some none) {} now = .ok (emptyApp start) := by
  simp [createRebacLocalApp, recoverAppendOnlyAuditEvents, hlists, bind, Except.bind, pure,
    Except.pure, emptyApp, lastDegradations]

theorem inStep_emptyFile : InStep (localAppendOnly exactHost) (emptyApp emptyFile) where
  holds := ⟨rfl, rfl, rfl⟩
  texts := nofun
  store _ := rfl

/-- A runtime that recorded one event and had no time to write its state. -/
theorem restart_recovers_file : Recovers (localAppendOnly exactHost)
    ((emptyApp emptyFile).recordAudit exactHost (localRepository exactHost) grantCreated timestamp
      none false) [(emptyApp emptyFile).nextEvent exactHost grantCreated timestamp none] :=
  (restart_recovers printsNumbers_exact noCollision_exact).1 "append-only-audit-events.jsonl" _ _
    (.appended (.started rfl (create_empty rfl timestamp))
      (.obj (by decide) (by simp [grantCreated, IsJson.str, IsJson.num]))
      (inStep_emptyFile.accepts_iff.2 ⟨trivial, nofun⟩))

/-! ## What a start does not give back -/

/-- The seed of a runtime that took its events from elsewhere. -/
def seedWithEvents : AuditSeed where
  auditEvents := some (recorded grantCreated).list

/-- A payload with `undefined` in a list. -/
def holeRecorded : AuditEventInput where
  eventType := "resource.created"
  actor := "service:api"
  resourceId := some "resource:1"
  correlationId := "corr:1"
  payload := [("changed", .arr [.undefined])]

def noToken : UnauthenticatedRequest where
  method := some "GET"
  pathname := "/v1/subjects"
  reason := .missing
  scope := "server"

/-- The event of `noToken`. -/
def tokenMissing : AuditEventInput := authenticationFailureInput exactHost noToken 0 0

theorem create_throws {H : Host} {σ : Type} {repository : AuditEventRepository σ} {s : σ}
    {message : String} (hlists : repository.listAuditEvents s = .error message)
    {state : Option (Option AuditSeed)} (hstate : state.isSome = true) (seed : AuditSeed)
    (now : IsoDateTime) : createRebacLocalApp H repository s state seed now = .error message := by
  simp [createRebacLocalApp, recoverAppendOnlyAuditEvents, hlists, hstate, bind, Except.bind]

/-- The event of `holeRecorded`. -/
def holeEvent : AuditEvent := (emptyApp emptyFile).nextEvent exactHost holeRecorded timestamp none

theorem hole_accepted :
    (emptyApp emptyFile).Accepts exactHost (localRepository exactHost) holeEvent :=
  inStep_emptyFile.accepts_iff.2 ⟨trivial, nofun⟩

/-- The runtime after `holeRecorded`. -/
def holeApp : RebacLocalApp LocalAppendOnlyAuditRepository :=
  (emptyApp emptyFile).recordAudit exactHost (localRepository exactHost) holeRecorded timestamp

/-- `holeEvent` with an empty list, which has the same text. -/
def bareEvent : AuditEvent := { holeEvent with payload := [("changed", .arr [])] }

theorem sameText_bareEvent : SameText exactHost bareEvent holeEvent := ⟨rfl, rfl⟩

/-- JSON brings `null` back for `undefined` in a list. -/
theorem hole_hash :
    auditEventHash exactHost holeEvent.copy ≠ auditEventHash exactHost holeEvent := by
  intro h
  -- the text of `holeEvent` is the text of a JSON value, and that one is another
  rw [← sameText_bareEvent.hash] at h
  have hcopy : IsJson (.obj holeEvent.copy.payload) :=
    .obj (by decide) (List.forall_mem_singleton.2 fun _ => .arr (List.forall_mem_singleton.2 .null))
  have hbare : IsJson (.obj bareEvent.payload) :=
    .obj (by decide) (List.forall_mem_singleton.2 fun _ => .arr (List.forall_mem_nil _))
  have hsame := sameEvent_of_hash printsNumbers_exact noCollision_exact hcopy hbare h
  cases hsame.payload with
  | obj hfields =>
    have hchanged : SameJson (.arr [.null]) (.arr []) := hfields "changed"
    cases hchanged with
    | arr hitems => cases hitems

theorem hole_throws : ∃ message,
    (localRepository exactHost).listAuditEvents holeApp.auditRepository = .error message := by
  cases hlists : (localRepository exactHost).listAuditEvents holeApp.auditRepository with
  | error message => exact ⟨message, rfl⟩
  | ok events =>
    exfalso
    have hlines : holeApp.auditRepository = { emptyFile with
        lines := [.record (LocalAppendOnlyAuditRepository.auditRecord exactHost [] holeEvent
          timestamp)] } := rfl
    obtain ⟨hassert, -⟩ := LocalAppendOnlyAuditRepository.listAuditEvents_ok.1 hlists
    rw [hlines] at hassert
    obtain ⟨-, -, hhash, -⟩ := LocalAppendOnlyAuditRepository.assert_ok.1 hassert
    exact hole_hash hhash.symm

/-- **What a start does not give back**: events of the seed are in no repository;
after an event whose payload is no JSON value no runtime starts any more; and the
reference store refuses the event of a request without a token. -/
theorem restart_differs :
    (createRebacLocalApp exactHost (localRepository exactHost) emptyFile (some none) seedWithEvents
        timestamp = .ok { emptyApp emptyFile with
          auditRecorder := recorded grantCreated, storeEvents := (recorded grantCreated).list } ∧
      (localRepository exactHost).listAuditEvents emptyFile = .ok [] ∧
      (recorded grantCreated).list.length = 2) ∧
    (createRebacLocalApp exactHost (localRepository exactHost) emptyFile (some none) {} timestamp =
        .ok (emptyApp emptyFile) ∧
      (emptyApp emptyFile).Accepts exactHost (localRepository exactHost) holeEvent ∧
      ∀ seed now, ∃ message, createRebacLocalApp exactHost (localRepository exactHost)
        holeApp.auditRepository holeApp.stateRepository seed now = .error message) ∧
    createRebacLocalApp exactHost (referenceRepository exactHost (tenantAdapter exactHost))
        emptyStore (some none) {} timestamp = .ok (emptyApp emptyStore) ∧
      ¬ (emptyApp emptyStore).Accepts exactHost
        (referenceRepository exactHost (tenantAdapter exactHost))
        ((emptyApp emptyStore).nextEvent exactHost tokenMissing timestamp none) := by
  refine ⟨⟨rfl, rfl, rfl⟩, ⟨create_empty rfl timestamp, hole_accepted, fun seed now => ?_⟩,
    create_empty rfl timestamp, fun h => ?_⟩
  · obtain ⟨message, hthrows⟩ := hole_throws
    have hstate : holeApp.stateRepository.isSome = true := by
      rw [holeApp, recordAudit_hasState]
      rfl
    exact ⟨message, create_throws hthrows hstate seed now⟩
  · have hstep : InStep (referenceAppendOnly exactHost (tenantAdapter exactHost))
        (emptyApp emptyStore) := ⟨⟨rfl, rfl, rfl⟩, nofun, fun _ => rfl⟩
    exact authenticationFailure_unstorable _ _ _ _ _ _ (hstep.accepts_iff.1 h).1

end AccessKit.L5
