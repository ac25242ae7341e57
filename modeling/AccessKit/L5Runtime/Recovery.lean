import AccessKit.L2Audit.ReferenceFixtures
import AccessKit.L5Runtime.AuditLogRuns

/-!
# Recovery of the audit log

A runtime with a state repository may crash at any point: what it has in memory
is lost, the audit repository and the last snapshot stay. The snapshot is behind
the repository by as many events as were appended since it was written, and the
start takes the longer of the two when it continues the other and is verified
(packages/api/src/runtime-seed.ts:62-79).

Results:
* `Recoverable.restart`: a start on what is left of a recoverable runtime has
  every appended event, and the runtime is recoverable again.
* `fresh_of_chained`: the identifier of the next event of a chain is new.
-/
namespace AccessKit.L5
open AccessKit.Core AccessKit.L1 AccessKit.L2.Audit RebacLocalApp

/-! ## Identifiers -/

section
variable {H : Host}

/-- What the identifier of an event is the hash of. -/
def idSource (event : AuditEvent) : JsValue :=
  eventIdSource
    { eventType := event.eventType, actor := event.actor, subjectId := event.subjectId
      resourceId := event.resourceId, correlationId := event.correlationId
      policyVersion := event.policyVersion, relationshipVersion := event.relationshipVersion
      payload := event.payload } event.occurredAt event.previousEventHash

/-- An identifier stands for what it was made of: the first 24 digits of the
hashes do not collide. -/
def DistinctIds (H : Host) (events : List AuditEvent) (event : AuditEvent) : Prop :=
  ∀ e ∈ events, e.eventId = event.eventId →
    stableStringify H (idSource e) = stableStringify H (idSource event)

theorem isJson_idSource {event : AuditEvent} (h : IsJson (.obj event.payload)) :
    IsJson (idSource event) := by
  refine .obj (by simp) ?_
  simp only [List.forall_mem_cons, IsJson.str, h, implies_true, true_and,
    List.not_mem_nil, false_implies, and_true]
  exact ⟨isJson_optional, isJson_optional, isJson_optional, isJson_optional, isJson_optional⟩

/-- The next event of a chain names the last one, which no event of the chain
does; so its identifier is made of something else. -/
theorem fresh_of_chained (hprint : PrintsNumbers H) (hsha : Function.Injective H.sha256Hex)
    {events : List AuditEvent} (hchained : Chained H events)
    (hjson : ∀ e ∈ events, IsJson (.obj e.payload)) {event : AuditEvent}
    (hevent : IsJson (.obj event.payload))
    (hlinks : event.previousEventHash = tip (auditEventHash H) none events)
    (hids : DistinctIds H events event) : ∀ e ∈ events, e.eventId ≠ event.eventId := by
  intro e he hid
  have hsame := sameJson_of_text hprint (isJson_idSource (hjson e he)) (isJson_idSource hevent)
    (hids e he hid)
  have hprev : e.previousEventHash = event.previousEventHash := by
    cases hsame with
    | obj h => exact sameJson_optional (h "previousEventHash")
  have hne := Linked.prev_ne_tip (P := fun e => IsJson (.obj e.payload)) (R := SameEvent)
    (auditEventHash H) AuditEvent.previousEventHash
    (fun a b ha hb h =>
      let hab := sameEvent_of_hash hprint hsha ha hb h
      ⟨hab, congrArg (·.previousEventHash) hab.fields⟩) hchained hjson he
  exact hne (hprev.trans hlinks)

end

/-! ## Recoverable runtimes -/

section
variable {H : Host} {σ : Type} {repository : AuditEventRepository σ}

/-- What every runtime with a state repository is: in step, its chain verified,
the snapshot behind by some events, and nothing that was appended missing. -/
structure Recoverable (backend : AppendOnly H repository) (app : RebacLocalApp σ)
    (appended : List AuditEvent) : Prop where
  inStep : InStep backend app
  hasState : app.stateRepository.isSome = true
  json : ∀ e ∈ app.auditRecorder.events, IsJson (.obj e.payload)
  verified : Chained H app.auditRecorder.events ∧ PayloadsHashed H app.auditRecorder.events
  snapshot : ∀ seed, app.stateRepository = some (some seed) →
    ∃ k ≤ app.auditRecorder.events.length,
      seed.auditEvents = some ((app.auditRecorder.events.take k).map AuditEvent.copy)
  appended : app.auditRecorder.events.map AuditEvent.copy = appended.map AuditEvent.copy

variable {backend : AppendOnly H repository} {app : RebacLocalApp σ} {appended : List AuditEvent}

theorem Recoverable.persist (h : Recoverable backend app appended) :
    Recoverable backend app.persistAppState appended where
  inStep := h.inStep.persist
  hasState := by simpa [persistAppState] using h.hasState
  json := h.json
  verified := h.verified
  appended := h.appended
  snapshot := by
    intro seed hseed
    obtain ⟨former, hformer⟩ := Option.isSome_iff_exists.1 h.hasState
    rw [persistAppState, hformer, Option.map_some, Option.some.injEq, Option.some.injEq] at hseed
    refine ⟨app.auditRecorder.events.length, Nat.le_refl _, ?_⟩
    rw [← hseed, exportSeedData, h.inStep.store h.hasState]
    exact congrArg (fun l => some (l.map AuditEvent.copy)) List.take_length.symm

theorem Recoverable.record (h : Recoverable backend app appended) {input : AuditEventInput}
    (hjson : IsJson (.obj input.payload)) {occurredAt : IsoDateTime}
    {requestActor : Option CanonicalId}
    (haccepts : app.Accepts H repository (app.nextEvent H input occurredAt requestActor))
    (persistState : Bool) :
    Recoverable backend (app.recordAudit H repository input occurredAt requestActor persistState)
      (appended ++ [app.nextEvent H input occurredAt requestActor]) := by
  -- without the state written; then with it
  have hrecorded : Recoverable backend
      (app.recordAudit H repository input occurredAt requestActor false)
      (appended ++ [app.nextEvent H input occurredAt requestActor]) :=
    { inStep := h.inStep.record (keepsText_of_isJson hjson) haccepts
      hasState := by rw [recordAudit_hasState]; exact h.hasState
      json := by
        rw [recordAudit_events]
        exact List.forall_mem_append.2 ⟨h.json, List.forall_mem_singleton.2 hjson⟩
      verified := by
        rw [recordAudit_events]
        exact ⟨chained_record h.verified.1 (attributed input requestActor) occurredAt,
          payloadsHashed_record h.verified.2 (attributed input requestActor) occurredAt⟩
      snapshot := by
        intro seed hseed
        obtain ⟨k, hk, htaken⟩ := h.snapshot seed hseed
        refine ⟨k, ?_, ?_⟩
        · rw [recordAudit_events, List.length_append]
          omega
        · rw [recordAudit_events, List.take_append_of_le_length hk]
          exact htaken
      appended := by
        rw [recordAudit_events, List.map_append, List.map_append, h.appended] }
  cases persistState with
  | false => exact hrecorded
  | true => exact hrecorded.persist

/-! ## Starting again -/

theorem verified_copies {events : List AuditEvent} (hjson : ∀ e ∈ events, IsJson (.obj e.payload))
    (h : Chained H events ∧ PayloadsHashed H events) :
    Chained H (events.map AuditEvent.copy) ∧ PayloadsHashed H (events.map AuditEvent.copy) :=
  ⟨(SameText.chained (sameText_copies hjson)).1.2 h.1,
    (SameText.payloadsHashed (sameText_copies hjson)).2 h.2⟩

/-- The start takes the events of the repository when the snapshot has the first
of them. -/
theorem recover_takes {s : σ} {events : List AuditEvent} {baseSeed : AuditSeed}
    (hlists : repository.listAuditEvents s = .ok events)
    (hverified : Chained H events ∧ PayloadsHashed H events) {k : Nat}
    (hbase : baseSeed.auditEvents.getD [] = events.take k) (now : IsoDateTime) :
    ∃ auditEvents, recoverAppendOnlyAuditEvents H repository s true baseSeed now = .ok auditEvents ∧
      (auditEvents.or baseSeed.auditEvents).getD [] = events := by
  have hstarts : auditEventsStartWith H events (events.take k) = true := by
    have hsame : events.take (events.take k).length = events.take k := by
      rw [List.length_take, List.take_eq_take_iff]
      omega
    rw [auditEventsStartWith, Bool.and_eq_true, sameTexts_iff, hsame]
    exact ⟨by simp, List.forall₂_same.2 fun _ _ => rfl⟩
  unfold recoverAppendOnlyAuditEvents
  simp only [if_true, hlists, hbase, hstarts, bind, Except.bind, Bool.not_true, Bool.or_false,
    verified_iff.2 hverified, pure, Except.pure]
  by_cases hlength : events.length ≤ (events.take k).length
  · refine ⟨baseSeed.auditEvents, by rw [if_pos (decide_eq_true hlength)], ?_⟩
    rw [Option.or_self, hbase]
    exact List.take_of_length_le (by rw [List.length_take] at hlength; omega)
  · exact ⟨some events, by rw [if_neg (by simpa using hlength)], rfl⟩

/-- A start with a state repository, from the events that it takes. -/
theorem createRebacLocalApp_ok {s : σ} {former : Option AuditSeed} {seed : AuditSeed}
    {now : IsoDateTime} {auditEvents : Option (List AuditEvent)} {events : List AuditEvent}
    (hrecover : recoverAppendOnlyAuditEvents H repository s true (former.getD seed) now =
      .ok auditEvents)
    (htakes : (auditEvents.or (former.getD seed).auditEvents).getD [] = events) :
    ∃ app, createRebacLocalApp H repository s (some former) seed now = .ok app ∧
      app.auditRecorder.events = events ∧ app.storeEvents = events ∧ app.auditRepository = s ∧
      app.stateRepository = some former := by
  simp only [createRebacLocalApp, Option.join_some, Option.isSome_some, hrecover, bind,
    Except.bind, if_true, pure, Except.pure, htakes, Except.ok.injEq, exists_eq_left', and_self]

/-- **A start on what is left of a recoverable runtime** brings every appended
event back, and the runtime is recoverable again. -/
theorem Recoverable.restart (h : Recoverable backend app appended) {seed : AuditSeed}
    (hseed : seed.auditEvents.getD [] = []) (now : IsoDateTime) :
    ∃ app', createRebacLocalApp H repository app.auditRepository app.stateRepository seed now =
        .ok app' ∧
      app'.auditRecorder.events = appended.map AuditEvent.copy ∧
      Recoverable backend app' appended := by
  have hverified := verified_copies h.json h.verified
  have hcopies : (app.auditRecorder.events.map AuditEvent.copy).map AuditEvent.copy =
      app.auditRecorder.events.map AuditEvent.copy := by simp
  obtain ⟨former, hformer⟩ := Option.isSome_iff_exists.1 h.hasState
  -- what the snapshot has, or the seed when there is none
  obtain ⟨k, hbase⟩ : ∃ k, (former.getD seed).auditEvents.getD [] =
      (app.auditRecorder.events.map AuditEvent.copy).take k := by
    cases former with
    | none => exact ⟨0, hseed⟩
    | some snapshot =>
      obtain ⟨k, -, htaken⟩ := h.snapshot snapshot hformer
      refine ⟨k, ?_⟩
      rw [Option.getD_some, htaken, Option.getD_some, List.map_take]
  obtain ⟨auditEvents, hrecover, htakes⟩ :=
    recover_takes h.inStep.lists hverified hbase now
  obtain ⟨app', hcreate, hevents, hstore, hrepository, hstate⟩ :=
    createRebacLocalApp_ok hrecover htakes
  rw [← hformer] at hcreate hstate
  refine ⟨app', hcreate, hevents.trans h.appended, ?_⟩
  exact {
    inStep := {
      holds := by
        rw [hrepository, hevents, hcopies]
        exact h.inStep.holds
      texts := by
        rw [hevents]
        exact List.forall_mem_map.2 fun e _ => keepsText_copy e
      store := fun _ => hstore.trans hevents.symm }
    hasState := hstate ▸ h.hasState
    json := by
      rw [hevents]
      exact List.forall_mem_map.2 fun e he => isJson_copy (h.json e he)
    verified := hevents ▸ hverified
    snapshot := by
      intro snapshot hsnapshot
      obtain ⟨k, hk, htaken⟩ := h.snapshot snapshot (hstate ▸ hsnapshot)
      refine ⟨k, by rwa [hevents, List.length_map], ?_⟩
      rw [htaken, hevents, ← List.map_take, List.map_map]
      exact congrArg some (List.map_congr_left fun e _ => (copy_copy e).symm)
    appended := by rw [hevents, hcopies, h.appended] }

end

end AccessKit.L5
