import AccessKit.L2Audit.ReferenceStore

/-!
# The operations of the reference audit store

Each one checks what it reads, and adds a record or restores a backup.

Results:
* `appendAuditEvent_ok`, `signAuditWindow_ok`, …: what an operation that does
  not throw found, and the store it leaves.
-/
namespace AccessKit.L2.Audit
open AccessKit.Core AccessKit.L1

/-- mirrors packages/core/src/reference-audit-models.ts:136-142 -/
structure ReferenceAuditWindowRequest where
  windowId : CanonicalId
  periodStart : String
  periodEnd : String
  signedAt : Option IsoDateTime := none
  signingKeyId : Option CanonicalId := none

/-- mirrors packages/core/src/reference-audit-models.ts:144-151 -/
structure ReferenceSiemDeliveryRequest where
  windowId : CanonicalId
  destination : String
  status : ReferenceSiemDeliveryStatus
  attemptedAt : Option IsoDateTime := none
  deliveredAt : Option IsoDateTime := none
  error : Option String := none

/-- mirrors packages/core/src/reference-audit-models.ts:153-160 -/
structure ReferenceSiemReplayRequest where
  deliveryId : CanonicalId
  attemptedAt : Option IsoDateTime := none
  destination : Option String := none
  status : Option ReferenceSiemDeliveryStatus := none
  deliveredAt : Option IsoDateTime := none
  error : Option String := none

def ReferenceSiemDeliveryRequest.toJs (r : ReferenceSiemDeliveryRequest) : JsValue :=
  .obj [("windowId", .str r.windowId), ("destination", .str r.destination),
    ("status", .str r.status.name), ("attemptedAt", optional r.attemptedAt),
    ("deliveredAt", optional r.deliveredAt), ("error", optional r.error)]

def ReferenceSiemReplayRequest.toJs (r : ReferenceSiemReplayRequest) : JsValue :=
  .obj [("deliveryId", .str r.deliveryId), ("attemptedAt", optional r.attemptedAt),
    ("destination", optional r.destination),
    ("status", optional (r.status.map ReferenceSiemDeliveryStatus.name)),
    ("deliveredAt", optional r.deliveredAt), ("error", optional r.error)]

mutual

/-- `String(value)` -/
def stringOf (H : Host) : JsValue → String
  | .undefined => "undefined"
  | .null => "null"
  | .bool b => if b then "true" else "false"
  | .num .nan => "NaN"
  | .num (.inf negative) => if negative then "-Infinity" else "Infinity"
  | .num (.fin q) => H.numberToString q
  | .str s => s
  | .arr items => joinWith "," (stringsOf H items)
  | .obj _ => "[object Object]"

/-- The items of an array as `join` prints them. -/
def stringsOf (H : Host) : List JsValue → List String
  | [] => []
  | v :: l => (if v.isUndefined || v.isNull then "" else stringOf H v) :: stringsOf H l

end

section
variable (H : Host)

/-- mirrors packages/core/src/reference-audit-utils.ts:13-19 -/
def assertOptionalTenantBoundary (payload : JsonRecord) (tenantBoundary label : String) :
    Except String Unit :=
  let payloadTenantBoundary := payload.get "tenantBoundary"
  if !payloadTenantBoundary.isUndefined && !payloadTenantBoundary.strictEq (.str tenantBoundary) then
    .error (label ++ " includes tenantBoundary " ++ stringOf H payloadTenantBoundary ++
      " outside " ++ tenantBoundary ++ ".")
  else .ok ()

end

/-- mirrors packages/core/src/reference-audit-models.ts:125-134 -/
structure ReferenceAuditEvidenceAdapterOptions where
  tenantBoundary : String
  location : String
  retentionDays : Option Rat := none
  retentionPolicyId : Option CanonicalId := none
  signingKeyId : Option CanonicalId := none
  signingKeyMaterial : String

namespace ReferenceAuditEvidenceAdapter

section
variable (H : Host) (adapter : ReferenceAuditEvidenceAdapter)

/-- mirrors packages/core/src/reference-audit-signed-windows.ts:103-110 -/
def assertSigningKeyMaterial (keyMaterial : String) : Except String Unit :=
  if (keyMaterial.toList.dropWhile isJsSpace).isEmpty then
    .error "Reference audit signing key material is required."
  else if (utf16 keyMaterial).length < 32 then
    .error "Reference audit signing key material must be at least 32 characters."
  else .ok ()

/-- Open an adapter on a store.
mirrors packages/core/src/reference-audit.ts:69-124 -/
def new (hmac : String → String → String) (options : ReferenceAuditEvidenceAdapterOptions)
    (store : ExternalAppendOnlyAuditStore) : Except String ReferenceAuditEvidenceAdapter := do
  if options.tenantBoundary = "" then
    throw "Reference audit adapters require a tenant boundary."
  assertNoSecretMaterial H (.str options.location) "production audit location"
  let retentionPolicy : ReferenceAuditRetentionPolicy :=
    { policyId := options.retentionPolicyId.getD "retention:audit:default"
      retentionDays := options.retentionDays.getD 2555
      legalHold := false }
  let signingKeyId := options.signingKeyId.getD "signing-key:audit-window:default"
  assertSigningKeyMaterial options.signingKeyMaterial
  let adapter : ReferenceAuditEvidenceAdapter :=
    { tenantBoundary := options.tenantBoundary
      location := options.location
      retentionPolicy
      windowSigner := createHmacAuditWindowSigner H hmac signingKeyId options.signingKeyMaterial }
  adapter.validateStoreState H store.toAuditSnapshot
  return adapter

/-- The record of an appended event.
mirrors packages/core/src/reference-audit-log-storage.ts:58-69 -/
def auditRecord (records : List ReferenceAuditEventStoreRecord) (event : AuditEvent)
    (storedAt : IsoDateTime) : ReferenceAuditEventStoreRecord :=
  ReferenceAuditEventStoreRecord.withRecordHash H
    { version := "production-audit-event-record:v1"
      tenantBoundary := adapter.tenantBoundary
      sequence := ((records.length + 1 : Nat) : Rat)
      storedAt
      eventHash := auditEventHash H event
      previousEventHash := event.previousEventHash
      retentionPolicy := adapter.retentionPolicy
      event := event.copy
      recordHash := "" }

/-- mirrors packages/core/src/reference-audit-log-storage.ts:42-83 -/
def appendAuditEvent (store : ExternalAppendOnlyAuditStore) (event : AuditEvent)
    (storedAt : IsoDateTime) :
    Except String (AuditStorageReceipt × ExternalAppendOnlyAuditStore) := do
  let label := "Audit event " ++ event.eventId
  assertNoSecretMaterial H event.toJs label
  assertOptionalTenantBoundary H event.payload adapter.tenantBoundary label
  let records ← adapter.trustedAuditRecords H store.toAuditSnapshot
  if records.any fun record => record.event.eventId = event.eventId then
    throw (label ++ " has already been appended.")
  let expectedPreviousEventHash := records.getLast?.map (·.eventHash)
  if event.previousEventHash ≠ expectedPreviousEventHash then
    throw "Audit event previousEventHash does not match the current production audit tail."
  let record := adapter.auditRecord H records event storedAt
  return ({ eventId := event.eventId
            sequence := record.sequence
            eventHash := record.eventHash
            previousEventHash := event.previousEventHash
            storedAt
            backend := "external"
            location := adapter.location ++ "#event:" ++ numberText H record.sequence
            immutable := true
            version := "audit-storage-receipt:v1" },
    { store with auditRecords := store.auditRecords ++ [record] })

/-- mirrors packages/core/src/reference-audit-log-storage.ts:85-87 -/
def listAuditEvents (store : ExternalAppendOnlyAuditStore) : Except String (List AuditEvent) := do
  let records ← adapter.trustedAuditRecords H store.toAuditSnapshot
  return records.map fun record => record.event.copy

/-- The window of a request over the records there are.
mirrors packages/core/src/reference-audit-signed-windows.ts:47-75 -/
def signedWindow (records : List ReferenceAuditEventStoreRecord)
    (request : ReferenceAuditWindowRequest) (now : IsoDateTime) : ReferenceSignedAuditWindow :=
  let events := eventsWithin request.periodStart request.periodEnd records
  let window : AuditWindow :=
    { version := "production-signed-audit-window:v1"
      tenantBoundary := adapter.tenantBoundary
      windowId := request.windowId
      periodStart := request.periodStart
      periodEnd := request.periodEnd
      signedAt := request.signedAt.getD now
      signingKeyId := request.signingKeyId.getD adapter.windowSigner.keyId
      eventCount := events.length
      sourceEventIds := events.map (·.eventId)
      firstEventHash := events.head?.map (auditEventHash H)
      lastEventHash := events.getLast?.map (auditEventHash H)
      retentionPolicy := adapter.retentionPolicy
      signatureAlgorithm := adapter.windowSigner.algorithm }
  ReferenceSignedAuditWindow.withRecordHash H
    { window with
      signatureHash := adapter.windowSigner.sign window.fields
      recordHash := "" }

/-- mirrors packages/core/src/reference-audit-signed-windows.ts:44-78 -/
def signAuditWindow (store : ExternalAppendOnlyAuditStore) (request : ReferenceAuditWindowRequest)
    (now : IsoDateTime) :
    Except String (ReferenceSignedAuditWindow × ExternalAppendOnlyAuditStore) := do
  let records ← adapter.trustedAuditRecords H store.toAuditSnapshot
  let signingKeyId := request.signingKeyId.getD adapter.windowSigner.keyId
  if signingKeyId ≠ adapter.windowSigner.keyId then
    throw ("Reference audit window signer " ++ signingKeyId ++ " is not configured for this adapter.")
  let window := adapter.signedWindow H records request now
  if store.signedWindows.any fun entry => entry.windowId = window.windowId then
    throw ("Reference audit window " ++ window.windowId ++ " has already been signed.")
  return (window, { store with signedWindows := store.signedWindows ++ [window] })

/-- mirrors packages/core/src/reference-audit-signed-windows.ts:80-85 -/
def listSignedAuditWindows (store : ExternalAppendOnlyAuditStore) :
    Except String (List ReferenceSignedAuditWindow) := do
  assertNoIntegrityFindings (adapter.signedWindowFindings H store.signedWindows store.auditRecords)
    "Reference signed audit window integrity check failed"
  return store.signedWindows

/-- A new delivery, unless there is one of its identifier.
mirrors packages/core/src/reference-audit-memory-store.ts:58-63 -/
def appendSiemDeliveryLogEntry (store : ExternalAppendOnlyAuditStore)
    (delivery : ReferenceSiemDeliveryRecord) :
    Except String (ReferenceSiemDeliveryRecord × ExternalAppendOnlyAuditStore) := do
  if store.siemDeliveries.any fun entry => entry.deliveryId = delivery.deliveryId then
    throw ("Reference SIEM delivery " ++ delivery.deliveryId ++ " has already been recorded.")
  return (delivery, { store with siemDeliveries := store.siemDeliveries ++ [delivery] })

/-- `siem-delivery:` and the first 24 digits of a hash. -/
def deliveryId (source : JsonRecord) : CanonicalId :=
  "siem-delivery:" ++ sliceTo 24 (sha256 H (.obj source))

/-- mirrors packages/core/src/reference-audit-siem.ts:53-68 -/
def firstDelivery (window : ReferenceSignedAuditWindow) (request : ReferenceSiemDeliveryRequest)
    (now : IsoDateTime) : ReferenceSiemDeliveryRecord :=
  let attemptedAt := request.attemptedAt.getD now
  ReferenceSiemDeliveryRecord.withRecordHash H
    { version := "production-siem-delivery:v1"
      tenantBoundary := adapter.tenantBoundary
      deliveryId := deliveryId H [("windowId", .str request.windowId),
        ("attemptedAt", .str attemptedAt), ("destination", .str request.destination)]
      windowId := request.windowId
      destination := request.destination
      status := request.status
      attemptedAt
      sourceEventIds := window.sourceEventIds
      eventCount := window.eventCount
      lastEventHash := window.lastEventHash
      deliveredAt := if request.status = .delivered then some (request.deliveredAt.getD attemptedAt)
        else request.deliveredAt
      error := request.error
      recordHash := "" }

/-- mirrors packages/core/src/reference-audit-siem.ts:40-71 -/
def recordSiemDeliveryLogEntry (store : ExternalAppendOnlyAuditStore)
    (request : ReferenceSiemDeliveryRequest) (now : IsoDateTime) :
    Except String (ReferenceSiemDeliveryRecord × ExternalAppendOnlyAuditStore) := do
  let windows ← adapter.listSignedAuditWindows H store
  match windows.find? fun entry => entry.windowId = request.windowId with
  | none =>
    throw ("Reference audit window " ++ request.windowId ++
      " must be signed before SIEM delivery is recorded.")
  | some window =>
    if request.status = .failed ∧ truthy request.error = none then
      throw "Failed SIEM deliveries require an error message."
    assertNoSecretMaterial H request.toJs ("SIEM delivery " ++ request.windowId)
    appendSiemDeliveryLogEntry store (adapter.firstDelivery H window request now)

/-- mirrors packages/core/src/reference-audit-siem.ts:84-105 -/
def replayDelivery (failedDelivery : ReferenceSiemDeliveryRecord)
    (request : ReferenceSiemReplayRequest) (now : IsoDateTime) : ReferenceSiemDeliveryRecord :=
  let attemptedAt := request.attemptedAt.getD now
  let status := request.status.getD .delivered
  ReferenceSiemDeliveryRecord.withRecordHash H
    { version := "production-siem-delivery:v1"
      tenantBoundary := adapter.tenantBoundary
      deliveryId := deliveryId H [("replayOfDeliveryId", .str request.deliveryId),
        ("attemptedAt", .str attemptedAt)]
      windowId := failedDelivery.windowId
      destination := request.destination.getD failedDelivery.destination
      status
      attemptedAt
      sourceEventIds := failedDelivery.sourceEventIds
      eventCount := failedDelivery.eventCount
      lastEventHash := failedDelivery.lastEventHash
      deliveredAt := if status = .delivered then some (request.deliveredAt.getD attemptedAt)
        else request.deliveredAt
      error := request.error
      replayOfDeliveryId := some failedDelivery.deliveryId
      recordHash := "" }

/-- mirrors packages/core/src/reference-audit-siem.ts:73-108 -/
def replaySiemDeliveryLogEntry (store : ExternalAppendOnlyAuditStore)
    (request : ReferenceSiemReplayRequest) (now : IsoDateTime) :
    Except String (ReferenceSiemDeliveryRecord × ExternalAppendOnlyAuditStore) := do
  match store.siemDeliveries.find? fun delivery => delivery.deliveryId = request.deliveryId with
  | none => throw ("Reference SIEM delivery " ++ request.deliveryId ++ " does not exist.")
  | some failedDelivery =>
    if failedDelivery.status ≠ .failed then
      throw ("Reference SIEM delivery " ++ request.deliveryId ++
        " is not failed and cannot be replayed.")
    if request.status.getD .delivered = .failed ∧ truthy request.error = none then
      throw "Failed SIEM replay deliveries require an error message."
    assertNoSecretMaterial H request.toJs ("SIEM delivery replay " ++ request.deliveryId)
    appendSiemDeliveryLogEntry store (adapter.replayDelivery H failedDelivery request now)

/-- mirrors packages/core/src/reference-audit-backups.ts:106-113 -/
def entityCounts (store : AuditSnapshot) : List (String × Nat) :=
  [("auditEvents", store.auditRecords.length), ("evidencePackages", store.evidenceRecords.length),
   ("signedAuditWindows", store.signedWindows.length),
   ("siemDeliveries", store.siemDeliveries.length)]

/-- mirrors packages/core/src/reference-audit-backups.ts:38-71 -/
def createBackup (store : ExternalAppendOnlyAuditStore) (id : CanonicalId)
    (createdAt : IsoDateTime) :
    Except String (ReferenceRepositoryBackupMetadata × ExternalAppendOnlyAuditStore) := do
  adapter.validateStoreState H store.toAuditSnapshot
  let metadata : ReferenceRepositoryBackupMetadata :=
    { id
      component := "audit"
      createdAt
      location := adapter.location ++ "#backup:" ++ id
      snapshotHash := hashReference H (.obj store.toAuditSnapshot.lists)
      tenantBoundary := adapter.tenantBoundary
      entityCounts := entityCounts store.toAuditSnapshot
      version := "production-repository-backup:v1" }
  let backup := ReferenceAuditStoreBackup.withBackupHash H
    { store.toAuditSnapshot with
      backupMetadata := store.backupMetadata ++ [metadata]
      version := "production-audit-store-backup:v1"
      id
      tenantBoundary := adapter.tenantBoundary
      createdAt
      backupHash := "" }
  return (metadata, { store with
    backups := store.backups.set id backup
    backupMetadata := backup.backupMetadata })

/-- mirrors packages/core/src/reference-audit-backups.ts:73-100 -/
def restoreBackup (store : ExternalAppendOnlyAuditStore) (id : CanonicalId) :
    Except String ExternalAppendOnlyAuditStore := do
  match store.backups.get? id with
  | none => throw ("Reference audit backup " ++ id ++ " does not exist.")
  | some backup =>
    adapter.validateBackup H backup
    return { store with toAuditSnapshot := backup.toAuditSnapshot }

end

/-! ## What an operation that does not throw did -/

section
variable {H : Host} {adapter : ReferenceAuditEvidenceAdapter}
  {store store' : ExternalAppendOnlyAuditStore}

theorem assertOptionalTenantBoundary_ok {payload : JsonRecord} {tenantBoundary label : String} :
    assertOptionalTenantBoundary H payload tenantBoundary label = .ok () ↔
      payload.get "tenantBoundary" = .undefined ∨
        (payload.get "tenantBoundary").strictEq (.str tenantBoundary) = true := by
  unfold assertOptionalTenantBoundary
  rw [← isUndefined_iff]
  by_cases hu : (payload.get "tenantBoundary").isUndefined <;>
    by_cases he : (payload.get "tenantBoundary").strictEq (.str tenantBoundary) <;> simp [hu, he]

/-- What an event is checked for before it is appended, but for its place in the
chain. -/
structure Storable (H : Host) (adapter : ReferenceAuditEvidenceAdapter) (event : AuditEvent) :
    Prop where
  clean : NoSecrets H event.toJs
  tenant : event.payload.get "tenantBoundary" = .undefined ∨
    (event.payload.get "tenantBoundary").strictEq (.str adapter.tenantBoundary) = true

theorem appendAuditEvent_ok {event : AuditEvent} {storedAt : IsoDateTime} :
    (∃ receipt, adapter.appendAuditEvent H store event storedAt = .ok (receipt, store')) ↔
      Storable H adapter event ∧
      adapter.auditRecordFindings H [] 0 store.auditRecords = [] ∧
      (∀ r ∈ store.auditRecords, r.event.eventId ≠ event.eventId) ∧
      event.previousEventHash = store.auditRecords.getLast?.map (·.eventHash) ∧
      store' = { store with
        auditRecords := store.auditRecords ++
          [adapter.auditRecord H store.auditRecords event storedAt] } := by
  have hany : (¬ (store.auditRecords.any fun r => decide (r.event.eventId = event.eventId)) = true) ↔
      ∀ r ∈ store.auditRecords, r.event.eventId ≠ event.eventId := by
    simp
  unfold appendAuditEvent
  simp only [seq_ok, assertNoSecretMaterial_ok, assertOptionalTenantBoundary_ok]
  simp only [bind_ok, guard_ok, trustedAuditRecords_ok, pure, Except.pure, Except.ok.injEq,
    Prod.mk.injEq]
  constructor
  · rintro ⟨receipt, hclean, htenant, records, ⟨hfind, rfl⟩, hfresh, hprev, -, rfl⟩
    exact ⟨⟨hclean, htenant⟩, hfind, hany.1 hfresh, not_not.1 hprev, rfl⟩
  · rintro ⟨⟨hclean, htenant⟩, hfind, hfresh, hprev, rfl⟩
    exact ⟨_, hclean, htenant, store.auditRecords, ⟨hfind, rfl⟩, hany.2 hfresh, not_not.2 hprev,
      rfl, rfl⟩

theorem signAuditWindow_ok {request : ReferenceAuditWindowRequest} {now : IsoDateTime} :
    (∃ window, adapter.signAuditWindow H store request now = .ok (window, store')) ↔
      adapter.auditRecordFindings H [] 0 store.auditRecords = [] ∧
      request.signingKeyId.getD adapter.windowSigner.keyId = adapter.windowSigner.keyId ∧
      (∀ w ∈ store.signedWindows, w.windowId ≠ request.windowId) ∧
      store' = { store with
        signedWindows := store.signedWindows ++
          [adapter.signedWindow H store.auditRecords request now] } := by
  have hany : ∀ records, (¬ (store.signedWindows.any fun w => decide (w.windowId =
      (adapter.signedWindow H records request now).windowId)) = true) ↔
      ∀ w ∈ store.signedWindows, w.windowId ≠ request.windowId := by
    intro records
    simp only [List.any_eq_true, decide_eq_true_eq, not_exists, not_and]
    exact .rfl
  unfold signAuditWindow
  simp only [bind_ok, guard_ok, trustedAuditRecords_ok, pure, Except.pure, Except.ok.injEq,
    Prod.mk.injEq, hany, not_not]
  constructor
  · rintro ⟨window, records, ⟨hfind, rfl⟩, hkey, hfresh, -, rfl⟩
    exact ⟨hfind, hkey, hfresh, rfl⟩
  · rintro ⟨hfind, hkey, hfresh, rfl⟩
    exact ⟨_, store.auditRecords, ⟨hfind, rfl⟩, hkey, hfresh, rfl, rfl⟩

theorem appendSiemDeliveryLogEntry_ok {delivery : ReferenceSiemDeliveryRecord} :
    (∃ answer, appendSiemDeliveryLogEntry store delivery = .ok (answer, store')) ↔
      (∀ d ∈ store.siemDeliveries, d.deliveryId ≠ delivery.deliveryId) ∧
      store' = { store with siemDeliveries := store.siemDeliveries ++ [delivery] } := by
  have hany : (¬ (store.siemDeliveries.any fun d => decide (d.deliveryId =
      delivery.deliveryId)) = true) ↔
      ∀ d ∈ store.siemDeliveries, d.deliveryId ≠ delivery.deliveryId := by
    simp
  unfold appendSiemDeliveryLogEntry
  simp only [guard_ok, pure, Except.pure, Except.ok.injEq, Prod.mk.injEq, hany]
  constructor
  · rintro ⟨answer, hfresh, -, rfl⟩
    exact ⟨hfresh, rfl⟩
  · rintro ⟨hfresh, rfl⟩
    exact ⟨delivery, hfresh, rfl, rfl⟩

theorem listSignedAuditWindows_ok {windows : List ReferenceSignedAuditWindow} :
    adapter.listSignedAuditWindows H store = .ok windows ↔
      adapter.signedWindowFindings H store.signedWindows store.auditRecords = [] ∧
      windows = store.signedWindows := by
  unfold listSignedAuditWindows
  simp only [seq_ok, assertNoIntegrityFindings_ok, pure, Except.pure, Except.ok.injEq]
  exact and_congr_right' eq_comm

theorem recordSiemDeliveryLogEntry_ok {request : ReferenceSiemDeliveryRequest} {now : IsoDateTime} :
    (∃ delivery, adapter.recordSiemDeliveryLogEntry H store request now =
        .ok (delivery, store')) ↔
      adapter.signedWindowFindings H store.signedWindows store.auditRecords = [] ∧
      ∃ window, (store.signedWindows.find? fun w => w.windowId = request.windowId) = some window ∧
        ¬ (request.status = .failed ∧ truthy request.error = none) ∧
        NoSecrets H request.toJs ∧
        (∀ d ∈ store.siemDeliveries,
          d.deliveryId ≠ (adapter.firstDelivery H window request now).deliveryId) ∧
        store' = { store with siemDeliveries :=
          store.siemDeliveries ++ [adapter.firstDelivery H window request now] } := by
  unfold recordSiemDeliveryLogEntry
  simp only [bind_ok, listSignedAuditWindows_ok]
  constructor
  · rintro ⟨delivery, windows, ⟨hfindings, rfl⟩, h⟩
    split at h
    · cases h
    · rename_i window hw
      simp only [guard_ok, seq_ok, assertNoSecretMaterial_ok] at h
      obtain ⟨hfresh, hstore⟩ := appendSiemDeliveryLogEntry_ok.1 ⟨delivery, h.2.2⟩
      exact ⟨hfindings, window, hw, h.1, h.2.1, hfresh, hstore⟩
  · rintro ⟨hfindings, window, hw, herror, hclean, hfresh, hstore⟩
    obtain ⟨delivery, happend⟩ := appendSiemDeliveryLogEntry_ok.2 ⟨hfresh, hstore⟩
    refine ⟨delivery, store.signedWindows, ⟨hfindings, rfl⟩, ?_⟩
    simp only [hw, guard_ok, seq_ok, assertNoSecretMaterial_ok]
    exact ⟨herror, hclean, happend⟩

theorem replaySiemDeliveryLogEntry_ok {request : ReferenceSiemReplayRequest} {now : IsoDateTime} :
    (∃ delivery, adapter.replaySiemDeliveryLogEntry H store request now =
        .ok (delivery, store')) ↔
      ∃ failedDelivery, (store.siemDeliveries.find? fun d => d.deliveryId = request.deliveryId) =
          some failedDelivery ∧
        failedDelivery.status = .failed ∧
        ¬ (request.status.getD .delivered = .failed ∧ truthy request.error = none) ∧
        NoSecrets H request.toJs ∧
        (∀ d ∈ store.siemDeliveries,
          d.deliveryId ≠ (adapter.replayDelivery H failedDelivery request now).deliveryId) ∧
        store' = { store with siemDeliveries :=
          store.siemDeliveries ++ [adapter.replayDelivery H failedDelivery request now] } := by
  unfold replaySiemDeliveryLogEntry
  cases store.siemDeliveries.find? fun d => d.deliveryId = request.deliveryId with
  | none => simp [throw, throwThe, MonadExceptOf.throw]
  | some failedDelivery =>
    simp only [guard_ok, seq_ok, assertNoSecretMaterial_ok, exists_and_left,
      appendSiemDeliveryLogEntry_ok, ne_eq, not_not, Option.some.injEq, exists_eq_left']

/-- The entry of a backup in the list of backups. -/
def metadataOf (H : Host) (adapter : ReferenceAuditEvidenceAdapter) (store : AuditSnapshot)
    (id : CanonicalId) (createdAt : IsoDateTime) : ReferenceRepositoryBackupMetadata where
  id
  component := "audit"
  createdAt
  location := adapter.location ++ "#backup:" ++ id
  snapshotHash := hashReference H (.obj store.lists)
  tenantBoundary := adapter.tenantBoundary
  entityCounts := entityCounts store
  version := "production-repository-backup:v1"

/-- What is kept under the identifier of a backup. -/
def backupOf (H : Host) (adapter : ReferenceAuditEvidenceAdapter) (store : AuditSnapshot)
    (id : CanonicalId) (createdAt : IsoDateTime) : ReferenceAuditStoreBackup :=
  ReferenceAuditStoreBackup.withBackupHash H
    { store with
      backupMetadata := store.backupMetadata ++ [metadataOf H adapter store id createdAt]
      version := "production-audit-store-backup:v1"
      id
      tenantBoundary := adapter.tenantBoundary
      createdAt
      backupHash := "" }

theorem createBackup_ok {id : CanonicalId} {createdAt : IsoDateTime}
    {metadata : ReferenceRepositoryBackupMetadata} :
    adapter.createBackup H store id createdAt = .ok (metadata, store') ↔
      Valid H adapter store.toAuditSnapshot ∧
      metadata = metadataOf H adapter store.toAuditSnapshot id createdAt ∧
      store' = { store with
        backups := store.backups.set id (backupOf H adapter store.toAuditSnapshot id createdAt)
        backupMetadata := store.backupMetadata ++
          [metadataOf H adapter store.toAuditSnapshot id createdAt] } := by
  unfold createBackup
  simp only [seq_ok, validateStoreState_ok, pure, Except.pure, Except.ok.injEq, Prod.mk.injEq]
  exact and_congr_right' (and_congr eq_comm eq_comm)

theorem restoreBackup_ok {id : CanonicalId} :
    adapter.restoreBackup H store id = .ok store' ↔
      ∃ backup, store.backups.get? id = some backup ∧ adapter.validateBackup H backup = .ok () ∧
        store' = { store with toAuditSnapshot := backup.toAuditSnapshot } := by
  unfold restoreBackup
  cases store.backups.get? id with
  | none => simp [throw, throwThe, MonadExceptOf.throw]
  | some backup =>
    simp only [seq_ok, pure, Except.pure, Except.ok.injEq]
    exact ⟨fun ⟨hv, hs⟩ => ⟨backup, rfl, hv, hs.symm⟩, fun ⟨_, hb, hv, hs⟩ => by
      cases hb
      exact ⟨hv, hs.symm⟩⟩

/-- **An adapter opens on a store that passes the checks**, and on no other. -/
theorem new_ok {hmac : String → String → String}
    {options : ReferenceAuditEvidenceAdapterOptions} (h : new H hmac options store = .ok adapter) :
    Valid H adapter store.toAuditSnapshot ∧
      (∀ store', Valid H adapter store'.toAuditSnapshot ↔ new H hmac options store' = .ok adapter) ∧
      ∀ payload, adapter.windowSigner.verify payload (adapter.windowSigner.sign payload) = true := by
  unfold new at h ⊢
  simp only [guard_ok, seq_ok, validateStoreState_ok, pure, Except.pure, Except.ok.injEq] at h ⊢
  obtain ⟨ht, hl, hk, hv, rfl⟩ := h
  refine ⟨hv, fun store' => ⟨fun hv' => ⟨ht, hl, hk, hv', rfl⟩, fun h => h.2.2.2.1⟩, fun payload => ?_⟩
  simp [createHmacAuditWindowSigner]

end

end ReferenceAuditEvidenceAdapter

end AccessKit.L2.Audit
