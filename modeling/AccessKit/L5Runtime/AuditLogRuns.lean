import AccessKit.L2Audit.ReferenceRuns
import AccessKit.L5Runtime.AuditLog

/-!
# What the audit log of a runtime keeps

`AppendOnly` is what the runtime relies on in an audit repository: it lists what
it holds, and it accepts an event that it can store, whose identifier is new and
that names the last one. Both repositories are append-only.

Results:
* `localAppendOnly`, `referenceAppendOnly`: the two repositories.
* `InStep.record`: a recorded event that is accepted is in the repository too.
-/
namespace AccessKit.L5
open AccessKit.Core AccessKit.L1 AccessKit.L2.Audit

/-- What a repository holds, and what it accepts. -/
structure AppendOnly (H : Host) {σ : Type} (repository : AuditEventRepository σ) where
  /-- The repository holds these events, as JSON brings them back. -/
  Holds : σ → List AuditEvent → Prop
  /-- The content of the event is not refused. -/
  Storable : AuditEvent → Prop
  copies : ∀ {s events}, Holds s events → events.map AuditEvent.copy = events
  lists : ∀ {s events}, Holds s events → repository.listAuditEvents s = .ok events
  accepts : ∀ {s events event storedAt}, Holds s events →
    ((∃ receipt s', repository.appendAuditEvent s event storedAt = .ok (receipt, s')) ↔
      Storable event ∧ (∀ e ∈ events, e.eventId ≠ event.eventId) ∧
        event.previousEventHash = tip (auditEventHash H) none events)
  appended : ∀ {s s' events event storedAt receipt}, Holds s events →
    auditEventHash H event.copy = auditEventHash H event →
    repository.appendAuditEvent s event storedAt = .ok (receipt, s') →
    Holds s' (events ++ [event.copy])

section
variable {H : Host}

theorem tip_of_consistent {α : Type} {f : α → AuditRecord} {records : List α}
    (h : Consistent H 0 (records.map f)) : records.getLast?.map (fun r => (f r).eventHash) =
      tip (auditEventHash H) none (records.map fun r => (f r).event) := by
  have htip := (h.linked_iff none).2.2
  rw [tip_eq_getLast, List.getLast?_map, Option.map_map, List.map_map] at htip
  exact htip

/-- The local file refuses no content. -/
def localAppendOnly (H : Host) : AppendOnly H (localRepository H) where
  Holds repository events := repository.assertStoredAuditRecords H = .ok () ∧
    repository.records.map (·.event) = events ∧ events.map AuditEvent.copy = events
  Storable _ := True
  copies h := h.2.2
  lists := by
    rintro repository events ⟨hassert, rfl, hcopies⟩
    rw [List.map_map] at hcopies
    exact LocalAppendOnlyAuditRepository.listAuditEvents_ok.2 ⟨hassert, hcopies.symm⟩
  accepts := by
    rintro repository _ event storedAt ⟨hassert, rfl, -⟩
    have htip := tip_of_consistent (LocalAppendOnlyAuditRepository.assert_ok.1 hassert).2
    rw [exists_comm]
    simp only [localRepository, LocalAppendOnlyAuditRepository.appendAuditEvent_ok, exists_and_left,
      exists_eq, and_true, hassert, true_and, List.forall_mem_map]
    exact and_congr_right fun _ => by rw [htip]
  appended := by
    rintro repository repository' _ event storedAt receipt ⟨hassert, rfl, hcopies⟩ hhash happend
    obtain ⟨-, -, -, rfl⟩ := LocalAppendOnlyAuditRepository.appendAuditEvent_ok.1 ⟨receipt, happend⟩
    refine ⟨LocalAppendOnlyAuditRepository.assert_concat hassert ⟨rfl, hhash.symm, rfl, trivial⟩,
      ?_, ?_⟩
    · rw [LocalAppendOnlyAuditRepository.records_concat, List.map_append]
      rfl
    · rw [List.map_append, hcopies]
      simp

/-- The reference store refuses secret material and other tenants. -/
def referenceAppendOnly (H : Host) (adapter : ReferenceAuditEvidenceAdapter) :
    AppendOnly H (referenceRepository H adapter) where
  Holds store events := adapter.auditRecordFindings H [] 0 store.auditRecords = [] ∧
    store.auditRecords.map (·.event) = events ∧ events.map AuditEvent.copy = events
  Storable event := ReferenceAuditEvidenceAdapter.Storable H adapter event
  copies h := h.2.2
  lists := by
    rintro store events ⟨htrusted, rfl, hcopies⟩
    rw [List.map_map] at hcopies
    simp only [referenceRepository, ReferenceAuditEvidenceAdapter.listAuditEvents, bind_ok,
      ReferenceAuditEvidenceAdapter.trustedAuditRecords_ok, pure, Except.pure, Except.ok.injEq]
    exact ⟨store.auditRecords, ⟨htrusted, rfl⟩, hcopies⟩
  accepts := by
    rintro store _ event storedAt ⟨htrusted, rfl, -⟩
    have htip := tip_of_consistent
      (ReferenceAuditEvidenceAdapter.auditRecordFindings_nil.1 htrusted).2.1
    rw [exists_comm]
    simp only [referenceRepository, ReferenceAuditEvidenceAdapter.appendAuditEvent_ok,
      exists_and_left, exists_eq, and_true, htrusted, true_and, List.forall_mem_map]
    exact and_congr_right fun _ => and_congr_right fun _ => by rw [htip]
  appended := by
    rintro store store' _ event storedAt receipt ⟨-, rfl, hcopies⟩ hhash happend
    have htrusted := ReferenceAuditEvidenceAdapter.trusted_append ⟨receipt, happend⟩ hhash
    obtain ⟨-, -, -, -, rfl⟩ :=
      ReferenceAuditEvidenceAdapter.appendAuditEvent_ok.1 ⟨receipt, happend⟩
    refine ⟨htrusted, ?_, ?_⟩
    · rw [List.map_append]
      rfl
    · rw [List.map_append, hcopies]
      simp

/-! ## In step -/

/-- What JSON brings back of an event has its text. -/
def KeepsText (H : Host) (event : AuditEvent) : Prop :=
  stableStringify H event.copy.toJs = stableStringify H event.toJs

theorem KeepsText.hash {event : AuditEvent} (h : KeepsText H event) :
    auditEventHash H event.copy = auditEventHash H event := by
  rw [auditEventHash, auditEventHash, hashReference, hashReference, sha256, sha256, h]

theorem keepsText_of_isJson {event : AuditEvent} (h : IsJson (.obj event.payload)) :
    KeepsText H event :=
  (sameText_copy h).text

theorem keepsText_copy (event : AuditEvent) : KeepsText H event.copy := by
  rw [KeepsText, copy_copy]

variable {σ : Type} {repository : AuditEventRepository σ}

/-- The repository holds what the recorder has, and so does the store when there
is a state repository. -/
structure InStep (backend : AppendOnly H repository) (app : RebacLocalApp σ) : Prop where
  holds : backend.Holds app.auditRepository (app.auditRecorder.events.map AuditEvent.copy)
  texts : ∀ e ∈ app.auditRecorder.events, KeepsText H e
  store : app.stateRepository.isSome = true → app.storeEvents = app.auditRecorder.events

theorem sameTexts_iff {events expected : List AuditEvent} : sameTexts H events expected = true ↔
    List.Forall₂ (fun e e' => stableStringify H e.toJs = stableStringify H e'.toJs)
      events expected := by
  rw [sameTexts, Bool.and_eq_true, decide_eq_true_eq, List.all_eq_true, List.forall₂_iff_zip]
  exact and_congr_right fun _ =>
    ⟨fun h a b hab => of_decide_eq_true (h (a, b) hab), fun h p hp => decide_eq_true (h hp)⟩

theorem sameTexts_copies {events : List AuditEvent} (h : ∀ e ∈ events, KeepsText H e) :
    sameTexts H (events.map AuditEvent.copy) events = true :=
  sameTexts_iff.2 (List.forall₂_map_left_iff.2 (List.forall₂_same.2 h))

theorem tip_copies {events : List AuditEvent} (h : ∀ e ∈ events, KeepsText H e) :
    tip (auditEventHash H) none (events.map AuditEvent.copy) =
      tip (auditEventHash H) none events :=
  (@linked_congr _ _ (auditEventHash H) AuditEvent.previousEventHash none _ _
    (List.forall₂_map_left_iff.2 (List.forall₂_same.2 fun e he => ⟨(h e he).hash, rfl⟩))).2

/-- The append that a runtime in step tries is not skipped. -/
theorem tryAppend_inStep (backend : AppendOnly H repository) {s : σ} {events : List AuditEvent}
    (hholds : backend.Holds s (events.map AuditEvent.copy))
    (htexts : ∀ e ∈ events, KeepsText H e) (hasState : Bool) (event : AuditEvent)
    (storedAt : IsoDateTime) :
    tryAppend H repository s event storedAt (if hasState then some events else none) =
      (fun r => some r.2) <$> repository.appendAuditEvent s event storedAt := by
  cases hasState with
  | false => cases h : repository.appendAuditEvent s event storedAt <;>
      simp [tryAppend, h, bind, Except.bind, pure, Except.pure, Functor.map, Except.map]
  | true =>
    have hmatches : auditRepositoryMatches H repository s events = .ok true := by
      simp [auditRepositoryMatches, backend.lists hholds, sameTexts_copies htexts, bind,
        Except.bind, pure, Except.pure]
    cases h : repository.appendAuditEvent s event storedAt <;>
      simp [tryAppend, hmatches, h, bind, Except.bind, pure, Except.pure, Functor.map, Except.map]

/-! ## One event -/

namespace RebacLocalApp

section
variable (H) (repository)

/-- The event that recording an input makes. -/
def nextEvent (app : RebacLocalApp σ) (input : AuditEventInput) (occurredAt : IsoDateTime)
    (requestActor : Option CanonicalId) : AuditEvent :=
  app.auditRecorder.next H (attributed input requestActor) occurredAt

/-- What the runtime expects the repository to hold when it appends. -/
def expectedPriorEvents (app : RebacLocalApp σ) : Option (List AuditEvent) :=
  if app.stateRepository.isSome then some app.storeEvents else none

/-- The append of an event is tried and succeeds. -/
def Accepts (app : RebacLocalApp σ) (event : AuditEvent) : Prop :=
  ∃ s', tryAppend H repository app.auditRepository event event.occurredAt app.expectedPriorEvents =
    .ok (some s')

variable (app : RebacLocalApp σ) (input : AuditEventInput) (occurredAt : IsoDateTime)
  (requestActor : Option CanonicalId) (persistState : Bool)

@[simp] theorem recordAudit_events :
    (app.recordAudit H repository input occurredAt requestActor persistState).auditRecorder.events =
      app.auditRecorder.events ++ [app.nextEvent H input occurredAt requestActor] := by
  cases persistState <;> rfl

@[simp] theorem recordAudit_storeEvents :
    (app.recordAudit H repository input occurredAt requestActor persistState).storeEvents =
      app.storeEvents ++ [app.nextEvent H input occurredAt requestActor] := by
  cases persistState <;> rfl

theorem recordAudit_auditRepository :
    (app.recordAudit H repository input occurredAt requestActor persistState).auditRepository =
      (appendAuditEvent H repository app.auditRepository
        (app.nextEvent H input occurredAt requestActor)
        (app.nextEvent H input occurredAt requestActor).occurredAt app.expectedPriorEvents
        app.persistenceDegradations).1 := by
  cases persistState <;> rfl

@[simp] theorem recordAudit_hasState :
    (app.recordAudit H repository input occurredAt requestActor persistState).stateRepository.isSome =
      app.stateRepository.isSome := by
  cases persistState
  · rfl
  · exact Option.isSome_map

/-- The event of a decision is recorded like any other, and the state written. -/
theorem recordDecision_eq : app.recordDecision H repository input occurredAt requestActor =
    app.recordAudit H repository input occurredAt requestActor true := by
  simp [recordDecision, recordAudit, remember]

end

variable {app : RebacLocalApp σ}

theorem appendAuditEvent_refused {event : AuditEvent} (h : ¬ app.Accepts H repository event) :
    (appendAuditEvent H repository app.auditRepository event event.occurredAt
      app.expectedPriorEvents app.persistenceDegradations).1 = app.auditRepository := by
  unfold appendAuditEvent
  split
  · rename_i s' hs
    exact absurd ⟨s', hs⟩ h
  · rfl
  · rfl

end RebacLocalApp

open RebacLocalApp

section
variable {backend : AppendOnly H repository} {app : RebacLocalApp σ} {input : AuditEventInput}
  {occurredAt : IsoDateTime} {requestActor : Option CanonicalId} {persistState : Bool}

theorem InStep.tryAppend_eq (h : InStep backend app) (event : AuditEvent) (storedAt : IsoDateTime) :
    tryAppend H repository app.auditRepository event storedAt app.expectedPriorEvents =
      (fun r => some r.2) <$> repository.appendAuditEvent app.auditRepository event storedAt := by
  rw [← tryAppend_inStep backend h.holds h.texts app.stateRepository.isSome, expectedPriorEvents]
  by_cases hstate : app.stateRepository.isSome = true
  · rw [if_pos hstate, if_pos hstate, h.store hstate]
  · rw [if_neg hstate, if_neg hstate]

theorem map_some_ok {α : Type} {x : Except String (α × σ)} {s' : σ} :
    (fun r => some r.2) <$> x = .ok (some s') ↔ ∃ receipt, x = .ok (receipt, s') := by
  cases x with
  | error message => simp [Functor.map, Except.map]
  | ok r =>
    obtain ⟨receipt, s''⟩ := r
    simp [Functor.map, Except.map]

/-- A runtime in step has its next event accepted exactly when the repository can
store it and its identifier is new. -/
theorem InStep.accepts_iff (h : InStep backend app) :
    app.Accepts H repository (app.nextEvent H input occurredAt requestActor) ↔
      backend.Storable (app.nextEvent H input occurredAt requestActor) ∧
      ∀ e ∈ app.auditRecorder.events,
        e.eventId ≠ (app.nextEvent H input occurredAt requestActor).eventId := by
  have hlinks : (app.nextEvent H input occurredAt requestActor).previousEventHash =
      tip (auditEventHash H) none (app.auditRecorder.events.map AuditEvent.copy) := by
    rw [tip_copies h.texts, tip_eq_getLast]
    rfl
  generalize app.nextEvent H input occurredAt requestActor = event at hlinks ⊢
  have haccepts : (∃ receipt s', repository.appendAuditEvent app.auditRepository event
      event.occurredAt = .ok (receipt, s')) ↔ _ := backend.accepts h.holds
  rw [exists_comm] at haccepts
  simp only [Accepts, h.tryAppend_eq, map_some_ok, haccepts, List.forall_mem_map, hlinks, and_true]
  exact Iff.rfl

/-- **An accepted event is in the repository too.** -/
theorem InStep.record (h : InStep backend app)
    (htext : KeepsText H (app.nextEvent H input occurredAt requestActor))
    (haccepts : app.Accepts H repository (app.nextEvent H input occurredAt requestActor)) :
    InStep backend (app.recordAudit H repository input occurredAt requestActor persistState) where
  holds := by
    obtain ⟨s', hs⟩ := haccepts
    have hrepository : (app.recordAudit H repository input occurredAt requestActor
        persistState).auditRepository = s' := by
      rw [recordAudit_auditRepository, appendAuditEvent, hs]
    rw [h.tryAppend_eq, map_some_ok] at hs
    obtain ⟨receipt, hs⟩ := hs
    rw [hrepository, recordAudit_events, List.map_append]
    exact backend.appended h.holds htext.hash hs
  texts := by
    rw [recordAudit_events]
    exact List.forall_mem_append.2 ⟨h.texts, List.forall_mem_singleton.2 htext⟩
  store := by
    rw [recordAudit_hasState, recordAudit_events, recordAudit_storeEvents]
    exact fun hstate => by rw [h.store hstate]

/-- Writing the state does not touch the log. -/
theorem InStep.persist (h : InStep backend app) : InStep backend app.persistAppState where
  holds := h.holds
  texts := h.texts
  store hstate := h.store (by simpa [persistAppState] using hstate)

theorem InStep.lists (h : InStep backend app) : repository.listAuditEvents app.auditRepository =
    .ok (app.auditRecorder.events.map AuditEvent.copy) :=
  backend.lists h.holds

/-- A runtime is in step after an event exactly when the event is accepted. -/
theorem InStep.record_iff (h : InStep backend app)
    (htext : KeepsText H (app.nextEvent H input occurredAt requestActor)) :
    InStep backend (app.recordAudit H repository input occurredAt requestActor persistState) ↔
      app.Accepts H repository (app.nextEvent H input occurredAt requestActor) := by
  refine ⟨fun h' => ?_, h.record htext⟩
  by_contra hrefused
  have hlists := h'.lists
  rw [recordAudit_auditRepository, appendAuditEvent_refused hrefused, h.lists, recordAudit_events,
    Except.ok.injEq] at hlists
  have hlength := congrArg List.length hlists
  simp at hlength

end

end

end AccessKit.L5
