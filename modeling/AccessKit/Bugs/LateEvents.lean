import AccessKit.L2Audit.ReferenceFixtures

/-!
# A late event spoils the audit store

Status: open. `signAuditWindow` stores how many events its period has at that
moment (packages/core/src/reference-audit-signed-windows.ts:44-78), and whoever
opens the store compares this with the events the period has then
(packages/core/src/reference-audit-integrity.ts:143-200). `appendAuditEvent`
(packages/core/src/reference-audit-log-storage.ts:42-83) checks no window, and the
period of one may reach into the future. An event that is appended into the
period of a signed window leaves a store on which no adapter opens any more; no
delivery can be recorded and no backup made.

Counterexample: the window of the whole day is signed at its beginning
(`late_event_fails`).

Exact condition: no event is appended into a signed window, and every copy of an
event is hashed like the event; the tenant boundary does not look like secret
material when something is delivered (`performed_valid_iff`, `reached_opens`).
-/
namespace AccessKit.Bugs.LateEvents
open AccessKit.Core AccessKit.L1 AccessKit.L2.Fixtures AccessKit.L2.Audit
  AccessKit.L2.Audit.Fixtures ReferenceAuditEvidenceAdapter

section
variable (H : Host) (adapter : ReferenceAuditEvidenceAdapter)

/-- What an operation that does not throw needs. -/
def Meets (store : ExternalAppendOnlyAuditStore) : AuditOperation → Prop
  | .appendAuditEvent event _ => (∀ w ∈ store.signedWindows, ¬ Covers w event) ∧
      auditEventHash H event.copy = auditEventHash H event
  | .recordSiemDeliveryLogEntry _ | .replaySiemDeliveryLogEntry _ =>
    isSensitiveString adapter.tenantBoundary = false
  | _ => True

/-- The stores that operations lead to, when those that do not throw meet their
condition. One that throws leaves the store as it was. -/
inductive Reached (start : ExternalAppendOnlyAuditStore) : ExternalAppendOnlyAuditStore → Prop
  | opened : Reached start start
  | performed {store store' : ExternalAppendOnlyAuditStore} (h : Reached start store)
      (op : AuditOperation) (now : IsoDateTime) (hnow : IsTime now)
      (hop : adapter.perform H store now op = .ok store') (hmeets : Meets H adapter store op) :
      Reached start store'

end

/-! ## The counterexample -/

def wholeDay : ReferenceAuditWindowRequest where
  windowId := "window:2026-05-21"
  periodStart := "2026-05-21T00:00:00.000Z"
  periodEnd := "2026-05-21T23:59:59.999Z"

/-- The window of the day, before anything happened. -/
def signedStore : ExternalAppendOnlyAuditStore :=
  { emptyStore with
    signedWindows := [(tenantAdapter hexHost).signedWindow hexHost [] wholeDay timestamp] }

def lateEvent : AuditEvent where
  eventId := "evt:1"
  eventType := "relationship.put"
  occurredAt := timestamp
  actor := "service:api"
  correlationId := "corr:1"
  payloadHash := auditPayloadHash hexHost []
  payload := []

def lateStore : ExternalAppendOnlyAuditStore :=
  { signedStore with
    auditRecords := [(tenantAdapter hexHost).auditRecord hexHost [] lateEvent timestamp] }

theorem perform_sign : (tenantAdapter hexHost).perform hexHost emptyStore timestamp
    (.signAuditWindow wholeDay) = .ok signedStore :=
  snd_ok.2 (signAuditWindow_ok.2 ⟨rfl, rfl, fun _ hw => absurd hw List.not_mem_nil, rfl⟩)

theorem perform_append : (tenantAdapter hexHost).perform hexHost signedStore timestamp
    (.appendAuditEvent lateEvent timestamp) = .ok lateStore := by
  have hclean : NoSecrets hexHost lateEvent.toJs := (noSecrets_iff "").2 (by decide +kernel)
  exact snd_ok.2 (appendAuditEvent_ok.2
    ⟨⟨hclean, .inl rfl⟩, rfl, fun _ hr => absurd hr List.not_mem_nil, rfl, rfl⟩)

/-- **Counterexample**: signed at the beginning of the day, the window fails with
the first event of the day, and no adapter opens on the store. -/
theorem late_event_fails :
    ReferenceAuditEvidenceAdapter.new hexHost plainHmac tenantOptions emptyStore =
      .ok (tenantAdapter hexHost) ∧
    (tenantAdapter hexHost).perform hexHost emptyStore timestamp (.signAuditWindow wholeDay) =
      .ok signedStore ∧
    (tenantAdapter hexHost).perform hexHost signedStore timestamp
      (.appendAuditEvent lateEvent timestamp) = .ok lateStore ∧
    ∀ hmac options adapter,
      ReferenceAuditEvidenceAdapter.new hexHost hmac options lateStore ≠ .ok adapter := by
  refine ⟨new_tenant (valid_empty hexHost), perform_sign, perform_append, fun hmac options adapter h => ?_⟩
  have hsigned : Valid hexHost (tenantAdapter hexHost) signedStore.toAuditSnapshot :=
    valid_sign (new_ok (new_tenant (valid_empty hexHost))).2.2 (valid_empty hexHost)
      (snd_ok.1 perform_sign)
  have hcovers : Covers ((tenantAdapter hexHost).signedWindow hexHost [] wholeDay timestamp)
      lateEvent := by
    show (stringLe wholeDay.periodStart lateEvent.occurredAt &&
      stringLe lateEvent.occurredAt wholeDay.periodEnd) = true
    decide +kernel
  exact append_covered hsigned (snd_ok.1 perform_append) (List.mem_singleton_self _) hcovers adapter
    (new_ok h).1

/-! ## When a step and a run keep the store valid -/

section
variable {H : Host} {adapter : ReferenceAuditEvidenceAdapter}
  {store store' : ExternalAppendOnlyAuditStore}

/-- An operation that does not throw keeps the store valid exactly when it meets
its condition. -/
theorem performed_valid_iff (hprint : PrintsNumbers H) (hhex : HexDigests H)
    (hverify : ∀ payload,
      adapter.windowSigner.verify payload (adapter.windowSigner.sign payload) = true)
    (h : Valid H adapter store.toAuditSnapshot) {op : AuditOperation} {now : IsoDateTime}
    (hnow : IsTime now) (hop : adapter.perform H store now op = .ok store') :
    Valid H adapter store'.toAuditSnapshot ↔ Meets H adapter store op := by
  cases op with
  | appendAuditEvent event storedAt =>
    have happend := snd_ok.1 hop
    constructor
    · intro h'
      exact ⟨fun w hw hcovers => append_covered h happend hw hcovers adapter h',
        hash_of_valid_append happend h'⟩
    · intro ⟨hearly, hhash⟩
      exact valid_append h happend hhash hearly
  | signAuditWindow request =>
    exact iff_of_true (valid_sign hverify h (snd_ok.1 hop)) trivial
  | recordSiemDeliveryLogEntry request =>
    obtain ⟨-, window, hw, -, hclean, -, rfl⟩ := recordSiemDeliveryLogEntry_ok.1 (snd_ok.1 hop)
    rw [valid_deliver_iff h]
    exact ⟨SoundDelivery.tenant_clean,
      fun htenant => sound_firstDelivery hprint hhex htenant h hnow hw hclean⟩
  | replaySiemDeliveryLogEntry request =>
    obtain ⟨failedDelivery, hfound, -, -, hclean, -, rfl⟩ :=
      replaySiemDeliveryLogEntry_ok.1 (snd_ok.1 hop)
    have hfailed := List.mem_of_find?_eq_some hfound
    rw [valid_deliver_iff h]
    exact ⟨SoundDelivery.tenant_clean,
      fun htenant => sound_replayDelivery hhex htenant (h.deliveries _ hfailed) hnow hclean⟩
  | createBackup id createdAt =>
    obtain ⟨metadata, hb⟩ := snd_ok.1 hop
    obtain ⟨-, -, rfl⟩ := createBackup_ok.1 hb
    exact iff_of_true ⟨h.records, h.evidence, h.windows, h.deliveries⟩ trivial
  | restoreBackup id =>
    obtain ⟨backup, -, hvalid, rfl⟩ := restoreBackup_ok.1 hop
    exact iff_of_true (validateBackup_ok.1 hvalid).2.2 trivial

/-- **When the store keeps opening**: in every run whose operations meet their
condition, an adapter opens on every store that is reached. -/
theorem reached_opens (hprint : PrintsNumbers H) (hhex : HexDigests H)
    (hmac : String → String → String) (options : ReferenceAuditEvidenceAdapterOptions)
    (hopened : ReferenceAuditEvidenceAdapter.new H hmac options store = .ok adapter)
    (hreached : Reached H adapter store store') :
    ReferenceAuditEvidenceAdapter.new H hmac options store' = .ok adapter := by
  obtain ⟨hvalid, hopens, hverify⟩ := new_ok hopened
  rw [← hopens]
  induction hreached with
  | opened => exact hvalid
  | performed _ op now hnow hop hmeets ih =>
    exact (performed_valid_iff hprint hhex hverify ih hnow hop).2 hmeets

end

/-- An event of the next day, after the window is signed. -/
def nextEvent : AuditEvent := { lateEvent with occurredAt := "2026-05-22T00:00:00.000Z" }

def nextStore : ExternalAppendOnlyAuditStore :=
  { signedStore with
    auditRecords := [(tenantAdapter hexHost).auditRecord hexHost [] nextEvent timestamp] }

theorem reached_opens_signed :
    ReferenceAuditEvidenceAdapter.new hexHost plainHmac tenantOptions nextStore =
      .ok (tenantAdapter hexHost) := by
  have htime : IsTime timestamp := mem_of_all (by decide)
  have hclean : NoSecrets hexHost nextEvent.toJs := (noSecrets_iff "").2 (by decide +kernel)
  have happend : (tenantAdapter hexHost).perform hexHost signedStore timestamp
      (.appendAuditEvent nextEvent timestamp) = .ok nextStore :=
    snd_ok.2 (appendAuditEvent_ok.2
      ⟨⟨hclean, .inl rfl⟩, rfl, fun _ hr => absurd hr List.not_mem_nil, rfl, rfl⟩)
  have hmeets : Meets hexHost (tenantAdapter hexHost) signedStore
      (.appendAuditEvent nextEvent timestamp) := by
    refine ⟨fun w hw => ?_, rfl⟩
    obtain rfl := List.mem_singleton.1 hw
    show ¬ (stringLe wholeDay.periodStart nextEvent.occurredAt &&
      stringLe nextEvent.occurredAt wholeDay.periodEnd) = true
    decide +kernel
  exact reached_opens printsNumbers_hex hexDigests_hex plainHmac tenantOptions
    (new_tenant (valid_empty hexHost)) (.performed (.performed .opened _ timestamp htime
      perform_sign trivial) _ timestamp htime happend hmeets)

end AccessKit.Bugs.LateEvents
