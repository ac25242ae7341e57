import AccessKit.L2Audit.ReferenceRecords

/-!
# The reference audit store

packages/core/src/reference-audit-integrity.ts (what a store is checked for when
it is opened), reference-audit-log-storage.ts, reference-audit-signed-windows.ts,
reference-audit-siem.ts and reference-audit-backups.ts (the operations). An
operation that throws leaves the store as it was. `now` is what the clock shows
when an operation asks it.

Results:
* `recordFindings_nil`, `windowFindings_nil`, `deliveryFindings_nil`: what the
  checks ask of a record, a signed window and a delivery.
-/
namespace AccessKit.L2.Audit
open AccessKit.Core AccessKit.L1

/-- What an adapter is built with.
mirrors packages/core/src/reference-audit-models.ts:125-134 -/
structure ReferenceAuditEvidenceAdapter where
  tenantBoundary : String
  location : String
  retentionPolicy : ReferenceAuditRetentionPolicy
  windowSigner : ReferenceAuditWindowSigner

/-- mirrors packages/core/src/reference-audit-utils.ts:74-89 -/
def finding (code message : String) (eventId : Option CanonicalId) (expected : Option String := none)
    (actual : Option String := none) : AuditIntegrityFinding where
  code
  message
  severity := .critical
  eventId
  expected
  actual

/-- mirrors packages/core/src/reference-audit-utils.ts:68-72 -/
def assertNoIntegrityFindings (findings : List AuditIntegrityFinding) (context : String) :
    Except String Unit :=
  match findings with
  | [] => .ok ()
  | f :: _ => .error (context ++ ": " ++ f.message)

/-- `value.key`, where the value is an object. -/
def JsValue.prop (v : JsValue) (key : String) : JsValue :=
  match v with
  | .obj fields => JsonRecord.get fields key
  | _ => .undefined

namespace ReferenceAuditEvidenceAdapter

section
variable (H : Host) (adapter : ReferenceAuditEvidenceAdapter)

/-! ## The checks -/

/-- The checks of an audit record at an index, given the event identifiers before.
mirrors packages/core/src/reference-audit-integrity.ts:84-115 -/
def recordFindings (seenEventIds : List CanonicalId) (index : Nat)
    (record : ReferenceAuditEventStoreRecord) : List AuditIntegrityFinding :=
  let id := record.event.eventId
  let expectedSequence : Rat := ((index + 1 : Nat) : Rat)
  let expectedEventHash := auditEventHash H record.event
  let expectedRecordHash := hashRecord H record.fields
  report (record.version ≠ "production-audit-event-record:v1")
    (finding "AUDIT_RECORD_VERSION_MISMATCH"
      "Stored production audit record has an unsupported version." id) ++
  report (id ∈ seenEventIds)
    (finding "AUDIT_RECORD_DUPLICATE_EVENT_ID"
      "Stored production audit record duplicates a prior event identifier." id) ++
  report (record.tenantBoundary ≠ adapter.tenantBoundary)
    (finding "AUDIT_TENANT_BOUNDARY_MISMATCH"
      "Stored production audit record tenant boundary does not match the adapter." id) ++
  report (record.sequence ≠ expectedSequence)
    (finding "AUDIT_RECORD_SEQUENCE_MISMATCH"
      "Stored production audit record sequence does not match append-only order." id
      (numberText H expectedSequence) (numberText H record.sequence)) ++
  report (record.eventHash ≠ expectedEventHash)
    (finding "AUDIT_RECORD_HASH_MISMATCH"
      "Stored production audit record hash does not match the current event payload." id
      expectedEventHash record.eventHash) ++
  report (record.previousEventHash ≠ record.event.previousEventHash)
    (finding "AUDIT_RECORD_PREVIOUS_HASH_MISMATCH"
      "Stored production audit record previous hash does not match the event previousEventHash." id
      (record.event.previousEventHash.getD "<none>") (record.previousEventHash.getD "<none>")) ++
  report (record.recordHash ≠ expectedRecordHash)
    (finding "AUDIT_RECORD_ENVELOPE_HASH_MISMATCH"
      "Stored production audit record envelope hash does not match the current record." id
      expectedRecordHash record.recordHash) ++
  secretMaterialFindings H record.event.toJs ("Audit event " ++ id)

/-- mirrors packages/core/src/reference-audit-integrity.ts:81-116 -/
def auditRecordFindings (seenEventIds : List CanonicalId) (index : Nat) :
    List ReferenceAuditEventStoreRecord → List AuditIntegrityFinding
  | [] => []
  | record :: records =>
    recordFindings H adapter seenEventIds index record ++
      auditRecordFindings (record.event.eventId :: seenEventIds) (index + 1) records

/-- mirrors packages/core/src/reference-audit-integrity.ts:118-141 -/
def evidenceRecordFindings (records : List ReferenceEvidenceStoreRecord) :
    List AuditIntegrityFinding :=
  records.flatMap fun record =>
    let manifestHash := JsValue.prop (JsonRecord.get record.evidence "integrityManifest") "packageHash"
    let storedHash := JsValue.prop (JsonRecord.get record.evidence "storageReceipt") "packageHash"
    let expectedRecordHash := hashRecord H record.fields
    report (record.version ≠ "production-evidence-package-record:v1")
      (finding "EVIDENCE_RECORD_VERSION_MISMATCH"
        "Stored production evidence record has an unsupported version." record.exportId) ++
    report (record.tenantBoundary ≠ adapter.tenantBoundary)
      (finding "EVIDENCE_TENANT_BOUNDARY_MISMATCH"
        "Stored production evidence record tenant boundary does not match the adapter."
        record.exportId) ++
    report (manifestHash.strictEq (.str record.packageHash) = false)
      (finding "EVIDENCE_PACKAGE_HASH_MISMATCH"
        "Stored production evidence package hash does not match the integrity manifest."
        record.exportId
        (match manifestHash with
          | .str s => s
          | _ => none) record.packageHash) ++
    report (record.receipt.packageHash ≠ record.packageHash ∨
        storedHash.strictEq (.str record.packageHash) = false)
      (finding "EVIDENCE_RECEIPT_HASH_MISMATCH"
        "Stored production evidence receipt does not match the retained package hash."
        record.exportId) ++
    report (record.recordHash ≠ expectedRecordHash)
      (finding "EVIDENCE_RECORD_ENVELOPE_HASH_MISMATCH"
        "Stored production evidence record envelope hash does not match the current record."
        record.exportId expectedRecordHash record.recordHash) ++
    secretMaterialFindings H (.obj record.evidence) ("Evidence package " ++ record.exportId)

/-- The events of a period, both ends included; texts are compared. -/
def eventsWithin (periodStart periodEnd : String) (records : List ReferenceAuditEventStoreRecord) :
    List AuditEvent :=
  (records.map (·.event)).filter fun event =>
    stringLe periodStart event.occurredAt && stringLe event.occurredAt periodEnd

/-- The checks of a signed window against the records there are now.
mirrors packages/core/src/reference-audit-integrity.ts:143-200 -/
def windowFindings (records : List ReferenceAuditEventStoreRecord)
    (window : ReferenceSignedAuditWindow) : List AuditIntegrityFinding :=
  let events := eventsWithin window.periodStart window.periodEnd records
  let id := window.windowId
  let expectedRecordHash := hashRecord H window.fields
  report (window.tenantBoundary ≠ adapter.tenantBoundary)
    (finding "AUDIT_WINDOW_TENANT_BOUNDARY_MISMATCH"
      "Signed audit window tenant boundary does not match the adapter." id) ++
  report (window.eventCount ≠ events.length)
    (finding "AUDIT_WINDOW_EVENT_COUNT_MISMATCH"
      "Signed audit window event count no longer matches retained events." id
      (toString events.length) (toString window.eventCount)) ++
  report (stableStringify H (strings window.sourceEventIds) ≠
      stableStringify H (strings (events.map (·.eventId))))
    (finding "AUDIT_WINDOW_SOURCE_EVENTS_MISMATCH"
      "Signed audit window source event identifiers no longer match retained events." id) ++
  report (window.firstEventHash ≠ events.head?.map (auditEventHash H))
    (finding "AUDIT_WINDOW_FIRST_HASH_MISMATCH"
      "Signed audit window first event hash no longer matches retained events." id) ++
  report (window.lastEventHash ≠ events.getLast?.map (auditEventHash H))
    (finding "AUDIT_WINDOW_LAST_HASH_MISMATCH"
      "Signed audit window last event hash no longer matches retained events." id) ++
  report (window.signatureAlgorithm ≠ adapter.windowSigner.algorithm)
    (finding "AUDIT_WINDOW_SIGNATURE_ALGORITHM_MISMATCH"
      "Signed audit window algorithm does not match the configured signer." id
      adapter.windowSigner.algorithm window.signatureAlgorithm) ++
  report (window.signingKeyId ≠ adapter.windowSigner.keyId)
    (finding "AUDIT_WINDOW_SIGNING_KEY_MISMATCH"
      "Signed audit window key does not match the configured signer." id
      adapter.windowSigner.keyId window.signingKeyId) ++
  report (adapter.windowSigner.verify window.toAuditWindow.fields window.signatureHash = false)
    (finding "AUDIT_WINDOW_SIGNATURE_MISMATCH"
      "Signed audit window signature hash does not match the retained window metadata." id) ++
  report (window.recordHash ≠ expectedRecordHash)
    (finding "AUDIT_WINDOW_RECORD_HASH_MISMATCH"
      "Signed audit window envelope hash does not match the current record." id
      expectedRecordHash window.recordHash)

def signedWindowFindings (windows : List ReferenceSignedAuditWindow)
    (records : List ReferenceAuditEventStoreRecord) : List AuditIntegrityFinding :=
  windows.flatMap (windowFindings H adapter records)

/-- What a delivery says against the signed windows there are.
mirrors packages/core/src/reference-audit-integrity.ts:209-222 -/
def deliveryWindowFindings (windows : List ReferenceSignedAuditWindow)
    (delivery : ReferenceSiemDeliveryRecord) : List AuditIntegrityFinding :=
  let id := delivery.deliveryId
  report (delivery.tenantBoundary ≠ adapter.tenantBoundary)
    (finding "SIEM_DELIVERY_TENANT_BOUNDARY_MISMATCH"
      "SIEM delivery tenant boundary does not match the adapter." id) ++
  match windows.find? fun window => window.windowId = delivery.windowId with
  | none => [finding "SIEM_DELIVERY_WINDOW_MISSING"
      "SIEM delivery references an unsigned audit window." id]
  | some window =>
    report (stableStringify H (strings delivery.sourceEventIds) ≠
        stableStringify H (strings window.sourceEventIds))
      (finding "SIEM_DELIVERY_SOURCE_EVENTS_MISMATCH"
        "SIEM delivery source event identifiers do not match the signed audit window." id) ++
    report (delivery.lastEventHash ≠ window.lastEventHash)
      (finding "SIEM_DELIVERY_LAST_HASH_MISMATCH"
        "SIEM delivery last event hash does not match the signed audit window." id)

/-- mirrors packages/core/src/reference-audit-integrity.ts:232-238 -/
def deliveryEnvelopeFindings (delivery : ReferenceSiemDeliveryRecord) :
    List AuditIntegrityFinding :=
  let id := delivery.deliveryId
  let expectedRecordHash := hashRecord H delivery.fields
  report (delivery.recordHash ≠ expectedRecordHash)
    (finding "SIEM_DELIVERY_RECORD_HASH_MISMATCH"
      "SIEM delivery envelope hash does not match the current record." id
      expectedRecordHash delivery.recordHash) ++
  secretMaterialFindings H delivery.toJs ("SIEM delivery " ++ id)

/-- The checks of a delivery; the failures of deliveries are no findings here.
mirrors packages/core/src/reference-audit-integrity.ts:202-241 -/
def deliveryFindings (windows : List ReferenceSignedAuditWindow)
    (delivery : ReferenceSiemDeliveryRecord) : List AuditIntegrityFinding :=
  deliveryWindowFindings H adapter windows delivery ++ deliveryEnvelopeFindings H delivery

def siemDeliveryFindings (deliveries : List ReferenceSiemDeliveryRecord)
    (windows : List ReferenceSignedAuditWindow) : List AuditIntegrityFinding :=
  deliveries.flatMap (deliveryFindings H adapter windows)

/-- mirrors packages/core/src/reference-audit-integrity.ts:35-45 -/
def validateStoreState (store : AuditSnapshot) : Except String Unit := do
  assertNoIntegrityFindings (auditRecordFindings H adapter [] 0 store.auditRecords)
    "Stored production audit log integrity check failed"
  assertNoIntegrityFindings (evidenceRecordFindings H adapter store.evidenceRecords)
    "Stored production evidence integrity check failed"
  assertNoIntegrityFindings (signedWindowFindings H adapter store.signedWindows store.auditRecords)
    "Stored production signed audit window integrity check failed"
  assertNoIntegrityFindings (siemDeliveryFindings H adapter store.siemDeliveries store.signedWindows)
    "Stored production SIEM delivery integrity check failed"

/-- mirrors packages/core/src/reference-audit-integrity.ts:47-52 -/
def trustedAuditRecords (store : AuditSnapshot) :
    Except String (List ReferenceAuditEventStoreRecord) := do
  assertNoIntegrityFindings (auditRecordFindings H adapter [] 0 store.auditRecords)
    "Stored production audit log integrity check failed"
  return store.auditRecords

/-- mirrors packages/core/src/reference-audit-integrity.ts:243-260 -/
def validateBackup (backup : ReferenceAuditStoreBackup) : Except String Unit := do
  if backup.tenantBoundary ≠ adapter.tenantBoundary then
    throw ("Reference audit backup " ++ backup.id ++
      " tenant boundary does not match the adapter.")
  if backup.backupHash ≠ hashBackup H backup then
    throw ("Reference audit backup " ++ backup.id ++ " hash does not match the stored snapshot.")
  assertNoIntegrityFindings (auditRecordFindings H adapter [] 0 backup.auditRecords)
    "Reference audit backup event integrity check failed"
  assertNoIntegrityFindings (evidenceRecordFindings H adapter backup.evidenceRecords)
    "Reference audit backup evidence integrity check failed"
  assertNoIntegrityFindings
    (signedWindowFindings H adapter backup.signedWindows backup.auditRecords)
    "Reference audit backup signed-window integrity check failed"
  assertNoIntegrityFindings
    (siemDeliveryFindings H adapter backup.siemDeliveries backup.signedWindows)
    "Reference audit backup SIEM delivery integrity check failed"

end

/-! ## What the checks ask -/

section
variable {H : Host} {adapter : ReferenceAuditEvidenceAdapter}

theorem assertNoIntegrityFindings_ok {findings : List AuditIntegrityFinding} {context : String} :
    assertNoIntegrityFindings findings context = .ok () ↔ findings = [] := by
  unfold assertNoIntegrityFindings
  split <;> simp

/-- What a record is checked for on its own, but for its number and what it names. -/
structure SoundRecord (H : Host) (adapter : ReferenceAuditEvidenceAdapter)
    (record : ReferenceAuditEventStoreRecord) : Prop where
  version : record.version = "production-audit-event-record:v1"
  tenant : record.tenantBoundary = adapter.tenantBoundary
  envelope : record.recordHash = hashRecord H record.fields
  clean : NoSecrets H record.event.toJs

theorem recordFindings_nil {seen : List CanonicalId} {index : Nat}
    {record : ReferenceAuditEventStoreRecord} :
    recordFindings H adapter seen index record = [] ↔ SoundRecord H adapter record ∧
      record.event.eventId ∉ seen ∧ record.sequence = ((index + 1 : Nat) : Rat) ∧
      record.eventHash = auditEventHash H record.event ∧
      record.previousEventHash = record.event.previousEventHash := by
  unfold recordFindings
  simp only [List.append_eq_nil_iff, report_eq_nil, ne_eq, not_not, ← noSecrets_iff]
  constructor
  · rintro ⟨⟨⟨⟨⟨⟨⟨hv, hseen⟩, ht⟩, hs⟩, hh⟩, hp⟩, he⟩, hc⟩
    exact ⟨⟨hv, ht, he, hc⟩, hseen, hs, hh, hp⟩
  · rintro ⟨⟨hv, ht, he, hc⟩, hseen, hs, hh, hp⟩
    exact ⟨⟨⟨⟨⟨⟨⟨hv, hseen⟩, ht⟩, hs⟩, hh⟩, hp⟩, he⟩, hc⟩

/-- A list of records that is trusted: sound and consistent, and no event is in it
twice. -/
theorem auditRecordFindings_nil {seen : List CanonicalId} {index : Nat}
    {records : List ReferenceAuditEventStoreRecord} :
    auditRecordFindings H adapter seen index records = [] ↔
      (∀ r ∈ records, SoundRecord H adapter r) ∧
      Consistent H index (records.map (·.toAuditRecord)) ∧
      (records.map (·.event.eventId)).Nodup ∧ ∀ r ∈ records, r.event.eventId ∉ seen := by
  induction records generalizing seen index with
  | nil => simp [auditRecordFindings, Consistent]
  | cons r records ih =>
    rw [auditRecordFindings, List.append_eq_nil_iff, ih, recordFindings_nil]
    rw [List.forall_mem_cons, List.forall_mem_cons]
    simp only [List.map_cons, Consistent, List.nodup_cons, List.mem_map, List.mem_cons, not_or]
    constructor
    · rintro ⟨⟨hr, hseen, hs, hh, hp⟩, hrs, hc, hn, hnew⟩
      refine ⟨⟨hr, hrs⟩, ⟨hs, hh, hp, hc⟩, ⟨?_, hn⟩, hseen, fun x hx => (hnew x hx).2⟩
      rintro ⟨x, hx, he⟩
      exact (hnew x hx).1 he
    · rintro ⟨⟨hr, hrs⟩, ⟨hs, hh, hp, hc⟩, ⟨hfresh, hn⟩, hseen, hnew⟩
      exact ⟨⟨hr, hseen, hs, hh, hp⟩, hrs, hc, hn,
        fun x hx => ⟨fun he => hfresh ⟨x, hx, he⟩, hnew x hx⟩⟩

/-- A signed window as the records of its period have it. -/
structure SoundWindow (H : Host) (adapter : ReferenceAuditEvidenceAdapter)
    (records : List ReferenceAuditEventStoreRecord) (window : ReferenceSignedAuditWindow) : Prop where
  tenant : window.tenantBoundary = adapter.tenantBoundary
  count : window.eventCount = (eventsWithin window.periodStart window.periodEnd records).length
  sources : stableStringify H (strings window.sourceEventIds) = stableStringify H
    (strings ((eventsWithin window.periodStart window.periodEnd records).map (·.eventId)))
  first : window.firstEventHash =
    (eventsWithin window.periodStart window.periodEnd records).head?.map (auditEventHash H)
  last : window.lastEventHash =
    (eventsWithin window.periodStart window.periodEnd records).getLast?.map (auditEventHash H)
  algorithm : window.signatureAlgorithm = adapter.windowSigner.algorithm
  key : window.signingKeyId = adapter.windowSigner.keyId
  signature : adapter.windowSigner.verify window.toAuditWindow.fields window.signatureHash = true
  envelope : window.recordHash = hashRecord H window.fields

theorem windowFindings_nil {records : List ReferenceAuditEventStoreRecord}
    {window : ReferenceSignedAuditWindow} :
    windowFindings H adapter records window = [] ↔ SoundWindow H adapter records window := by
  unfold windowFindings
  simp only [List.append_eq_nil_iff, report_eq_nil, ne_eq, not_not, Bool.not_eq_false]
  constructor
  · rintro ⟨⟨⟨⟨⟨⟨⟨⟨ht, hc⟩, hs⟩, hf⟩, hl⟩, ha⟩, hk⟩, hsig⟩, he⟩
    exact ⟨ht, hc, hs, hf, hl, ha, hk, hsig, he⟩
  · rintro ⟨ht, hc, hs, hf, hl, ha, hk, hsig, he⟩
    exact ⟨⟨⟨⟨⟨⟨⟨⟨ht, hc⟩, hs⟩, hf⟩, hl⟩, ha⟩, hk⟩, hsig⟩, he⟩

/-- A delivery of a signed window. -/
structure SoundDelivery (H : Host) (adapter : ReferenceAuditEvidenceAdapter)
    (windows : List ReferenceSignedAuditWindow) (delivery : ReferenceSiemDeliveryRecord) : Prop where
  tenant : delivery.tenantBoundary = adapter.tenantBoundary
  window : ∃ window, (windows.find? fun w => w.windowId = delivery.windowId) = some window ∧
    stableStringify H (strings delivery.sourceEventIds) =
      stableStringify H (strings window.sourceEventIds) ∧
    delivery.lastEventHash = window.lastEventHash
  envelope : delivery.recordHash = hashRecord H delivery.fields
  clean : NoSecrets H delivery.toJs

theorem deliveryFindings_nil {windows : List ReferenceSignedAuditWindow}
    {delivery : ReferenceSiemDeliveryRecord} :
    deliveryFindings H adapter windows delivery = [] ↔
      SoundDelivery H adapter windows delivery := by
  unfold deliveryFindings deliveryWindowFindings deliveryEnvelopeFindings
  simp only [List.append_eq_nil_iff, report_eq_nil, ne_eq, not_not, ← noSecrets_iff]
  cases hw : windows.find? fun window => window.windowId = delivery.windowId with
  | none =>
    constructor
    · rintro ⟨⟨-, hnone⟩, -⟩
      cases hnone
    · rintro ⟨-, ⟨window, hfound, -⟩, -, -⟩
      rw [hw] at hfound
      cases hfound
  | some window =>
    simp only [List.append_eq_nil_iff, report_eq_nil, not_not]
    constructor
    · rintro ⟨⟨ht, hs, hl⟩, he, hc⟩
      exact ⟨ht, ⟨window, hw, hs, hl⟩, he, hc⟩
    · rintro ⟨ht, ⟨window', hfound, hs, hl⟩, he, hc⟩
      rw [hw] at hfound
      cases hfound
      exact ⟨⟨ht, hs, hl⟩, he, hc⟩

/-- A store, or what a backup saved of it, that passes all checks. -/
structure Valid (H : Host) (adapter : ReferenceAuditEvidenceAdapter) (store : AuditSnapshot) :
    Prop where
  records : auditRecordFindings H adapter [] 0 store.auditRecords = []
  evidence : evidenceRecordFindings H adapter store.evidenceRecords = []
  windows : ∀ w ∈ store.signedWindows, SoundWindow H adapter store.auditRecords w
  deliveries : ∀ d ∈ store.siemDeliveries, SoundDelivery H adapter store.signedWindows d

theorem signedWindowFindings_nil {windows : List ReferenceSignedAuditWindow}
    {records : List ReferenceAuditEventStoreRecord} :
    signedWindowFindings H adapter windows records = [] ↔
      ∀ w ∈ windows, SoundWindow H adapter records w := by
  simp only [signedWindowFindings, List.flatMap_eq_nil_iff, windowFindings_nil]

theorem siemDeliveryFindings_nil {deliveries : List ReferenceSiemDeliveryRecord}
    {windows : List ReferenceSignedAuditWindow} :
    siemDeliveryFindings H adapter deliveries windows = [] ↔
      ∀ d ∈ deliveries, SoundDelivery H adapter windows d := by
  simp only [siemDeliveryFindings, List.flatMap_eq_nil_iff, deliveryFindings_nil]

theorem assert_bind_ok {findings : List AuditIntegrityFinding} {context : String} {α : Type}
    {next : Unit → Except String α} {a : α} :
    (assertNoIntegrityFindings findings context >>= next) = .ok a ↔
      findings = [] ∧ next () = .ok a := by
  rw [← @assertNoIntegrityFindings_ok findings context]
  cases assertNoIntegrityFindings findings context with
  | error e => simp [bind, Except.bind]
  | ok u => simp [bind, Except.bind]

theorem validateStoreState_ok {store : AuditSnapshot} :
    validateStoreState H adapter store = .ok () ↔ Valid H adapter store := by
  rw [validateStoreState, assert_bind_ok, assert_bind_ok, assert_bind_ok,
    assertNoIntegrityFindings_ok, signedWindowFindings_nil, siemDeliveryFindings_nil]
  exact ⟨fun ⟨hr, he, hw, hd⟩ => ⟨hr, he, hw, hd⟩,
    fun ⟨hr, he, hw, hd⟩ => ⟨hr, he, hw, hd⟩⟩

theorem trustedAuditRecords_ok {store : AuditSnapshot}
    {records : List ReferenceAuditEventStoreRecord} :
    trustedAuditRecords H adapter store = .ok records ↔
      auditRecordFindings H adapter [] 0 store.auditRecords = [] ∧
        store.auditRecords = records := by
  rw [trustedAuditRecords, assert_bind_ok]
  simp [pure, Except.pure]

theorem validateBackup_ok {backup : ReferenceAuditStoreBackup} :
    validateBackup H adapter backup = .ok () ↔
      backup.tenantBoundary = adapter.tenantBoundary ∧ backup.backupHash = hashBackup H backup ∧
        Valid H adapter backup.toAuditSnapshot := by
  unfold validateBackup
  simp only [guard_ok, assert_bind_ok, assertNoIntegrityFindings_ok, signedWindowFindings_nil,
    siemDeliveryFindings_nil, not_not]
  exact ⟨fun ⟨ht, hh, hr, he, hw, hd⟩ => ⟨ht, hh, hr, he, hw, hd⟩,
    fun ⟨ht, hh, hr, he, hw, hd⟩ => ⟨ht, hh, hr, he, hw, hd⟩⟩

end

end ReferenceAuditEvidenceAdapter

end AccessKit.L2.Audit
