import AccessKit.Core.OrderedMap
import AccessKit.L2Audit.Records
import AccessKit.L2Audit.Secrets

/-!
# What the reference audit store keeps

packages/core/src/reference-audit-models.ts: the records, their JSON and the
hashes over it (packages/core/src/reference-audit-utils.ts:91-127). The content
of an evidence package is a record of values: only the package hashes in it are
read.
-/
namespace AccessKit.L2.Audit
open AccessKit.Core AccessKit.L1

/-- mirrors packages/core/src/reference-audit-models.ts:9-14 -/
structure ReferenceAuditRetentionPolicy where
  policyId : CanonicalId
  retentionDays : Rat
  legalHold : Bool
  version : String := "production-audit-retention-policy:v1"

/-- mirrors packages/core/src/reference-audit-models.ts:16-26 -/
structure ReferenceAuditEventStoreRecord extends AuditRecord where
  version : String
  tenantBoundary : String
  retentionPolicy : ReferenceAuditRetentionPolicy
  recordHash : String

/-- mirrors packages/core/src/domain/evidence.ts:363-371 -/
structure EvidenceStorageReceipt where
  exportId : CanonicalId
  packageHash : String
  storedAt : IsoDateTime
  backend : String
  location : String
  immutable : Bool
  version : String

/-- mirrors packages/core/src/reference-audit-models.ts:28-38 -/
structure ReferenceEvidenceStoreRecord where
  version : String
  tenantBoundary : String
  exportId : CanonicalId
  storedAt : IsoDateTime
  packageHash : String
  retentionPolicy : ReferenceAuditRetentionPolicy
  evidence : JsonRecord
  receipt : EvidenceStorageReceipt
  recordHash : String

/-- The window as it is signed.
mirrors packages/core/src/reference-audit-models.ts:40-54 -/
structure AuditWindow where
  version : String
  tenantBoundary : String
  windowId : CanonicalId
  periodStart : String
  periodEnd : String
  signedAt : IsoDateTime
  signingKeyId : CanonicalId
  eventCount : Nat
  sourceEventIds : List CanonicalId
  firstEventHash : Option String
  lastEventHash : Option String
  retentionPolicy : ReferenceAuditRetentionPolicy
  signatureAlgorithm : String

/-- mirrors packages/core/src/reference-audit-models.ts:40-56 -/
structure ReferenceSignedAuditWindow extends AuditWindow where
  signatureHash : String
  recordHash : String

inductive ReferenceSiemDeliveryStatus
  | delivered
  | failed
  deriving DecidableEq, Repr

def ReferenceSiemDeliveryStatus.name : ReferenceSiemDeliveryStatus → String
  | .delivered => "delivered"
  | .failed => "failed"

/-- mirrors packages/core/src/reference-audit-models.ts:60-75 -/
structure ReferenceSiemDeliveryRecord where
  version : String
  tenantBoundary : String
  deliveryId : CanonicalId
  windowId : CanonicalId
  destination : String
  status : ReferenceSiemDeliveryStatus
  attemptedAt : IsoDateTime
  sourceEventIds : List CanonicalId
  eventCount : Nat
  lastEventHash : Option String
  deliveredAt : Option IsoDateTime
  error : Option String
  replayOfDeliveryId : Option CanonicalId := none
  recordHash : String

/-- mirrors packages/core/src/reference-repositories.ts:79-88 -/
structure ReferenceRepositoryBackupMetadata where
  id : CanonicalId
  component : String
  createdAt : IsoDateTime
  location : String
  snapshotHash : String
  tenantBoundary : String
  entityCounts : List (String × Nat)
  version : String

/-- What a backup saves and a restore brings back. -/
structure AuditSnapshot where
  auditRecords : List ReferenceAuditEventStoreRecord
  evidenceRecords : List ReferenceEvidenceStoreRecord
  signedWindows : List ReferenceSignedAuditWindow
  siemDeliveries : List ReferenceSiemDeliveryRecord
  backupMetadata : List ReferenceRepositoryBackupMetadata

/-- mirrors packages/core/src/reference-audit-models.ts:77-88 -/
structure ReferenceAuditStoreBackup extends AuditSnapshot where
  version : String
  id : CanonicalId
  tenantBoundary : String
  createdAt : IsoDateTime
  backupHash : String

/-- mirrors packages/core/src/reference-audit-memory-store.ts:13-19 -/
structure ExternalAppendOnlyAuditStore extends AuditSnapshot where
  backups : OrderedMap CanonicalId ReferenceAuditStoreBackup

/-! ## The records as values, without their own hash -/

def natural (n : Nat) : JsValue := .num (.fin n)

def strings (l : List String) : JsValue := .arr (l.map .str)

def ReferenceAuditRetentionPolicy.toJs (p : ReferenceAuditRetentionPolicy) : JsValue :=
  .obj [("policyId", .str p.policyId), ("retentionDays", .num (.fin p.retentionDays)),
    ("legalHold", .bool p.legalHold), ("version", .str p.version)]

def ReferenceAuditEventStoreRecord.fields (r : ReferenceAuditEventStoreRecord) : JsonRecord :=
  [("version", .str r.version), ("tenantBoundary", .str r.tenantBoundary),
    ("sequence", .num (.fin r.sequence)), ("storedAt", .str r.storedAt),
    ("eventHash", .str r.eventHash), ("previousEventHash", optional r.previousEventHash),
    ("retentionPolicy", r.retentionPolicy.toJs), ("event", r.event.toJs)]

def EvidenceStorageReceipt.toJs (r : EvidenceStorageReceipt) : JsValue :=
  .obj [("exportId", .str r.exportId), ("packageHash", .str r.packageHash),
    ("storedAt", .str r.storedAt), ("backend", .str r.backend), ("location", .str r.location),
    ("immutable", .bool r.immutable), ("version", .str r.version)]

def ReferenceEvidenceStoreRecord.fields (r : ReferenceEvidenceStoreRecord) : JsonRecord :=
  [("version", .str r.version), ("tenantBoundary", .str r.tenantBoundary),
    ("exportId", .str r.exportId), ("storedAt", .str r.storedAt),
    ("packageHash", .str r.packageHash), ("retentionPolicy", r.retentionPolicy.toJs),
    ("evidence", .obj r.evidence), ("receipt", r.receipt.toJs)]

/-- What is signed: the window without its hashes. -/
def AuditWindow.fields (w : AuditWindow) : JsonRecord :=
  [("version", .str w.version), ("tenantBoundary", .str w.tenantBoundary),
    ("windowId", .str w.windowId), ("periodStart", .str w.periodStart),
    ("periodEnd", .str w.periodEnd), ("signedAt", .str w.signedAt),
    ("signingKeyId", .str w.signingKeyId), ("eventCount", natural w.eventCount),
    ("sourceEventIds", strings w.sourceEventIds), ("firstEventHash", optional w.firstEventHash),
    ("lastEventHash", optional w.lastEventHash), ("retentionPolicy", w.retentionPolicy.toJs),
    ("signatureAlgorithm", .str w.signatureAlgorithm)]

def ReferenceSignedAuditWindow.fields (w : ReferenceSignedAuditWindow) : JsonRecord :=
  w.toAuditWindow.fields ++ [("signatureHash", .str w.signatureHash)]

def ReferenceSiemDeliveryRecord.fields (d : ReferenceSiemDeliveryRecord) : JsonRecord :=
  [("version", .str d.version), ("tenantBoundary", .str d.tenantBoundary),
    ("deliveryId", .str d.deliveryId), ("windowId", .str d.windowId),
    ("destination", .str d.destination), ("status", .str d.status.name),
    ("attemptedAt", .str d.attemptedAt), ("sourceEventIds", strings d.sourceEventIds),
    ("eventCount", natural d.eventCount), ("lastEventHash", optional d.lastEventHash),
    ("deliveredAt", optional d.deliveredAt), ("error", optional d.error),
    ("replayOfDeliveryId", optional d.replayOfDeliveryId)]

def ReferenceRepositoryBackupMetadata.toJs (m : ReferenceRepositoryBackupMetadata) : JsValue :=
  .obj [("id", .str m.id), ("component", .str m.component), ("createdAt", .str m.createdAt),
    ("location", .str m.location), ("snapshotHash", .str m.snapshotHash),
    ("tenantBoundary", .str m.tenantBoundary),
    ("entityCounts", .obj (m.entityCounts.map fun p => (p.1, natural p.2))),
    ("version", .str m.version)]

/-- A record with its hash. -/
def withHash (fields : JsonRecord) (recordHash : String) : JsValue :=
  .obj (fields ++ [("recordHash", .str recordHash)])

/-- The four lists that a snapshot hash covers. -/
def AuditSnapshot.lists (s : AuditSnapshot) : JsonRecord :=
  [("auditRecords", .arr (s.auditRecords.map fun r => withHash r.fields r.recordHash)),
    ("evidenceRecords", .arr (s.evidenceRecords.map fun r => withHash r.fields r.recordHash)),
    ("signedWindows", .arr (s.signedWindows.map fun w => withHash w.fields w.recordHash)),
    ("siemDeliveries", .arr (s.siemDeliveries.map fun d => withHash d.fields d.recordHash))]

section
variable (H : Host)

/-- The hash of the fields without `recordHash`.
mirrors packages/core/src/reference-audit-utils.ts:98-102 -/
def hashRecord (fields : JsonRecord) : String := hashReference H (.obj fields)

/-- mirrors packages/core/src/reference-audit-utils.ts:111-123 -/
def hashBackup (b : ReferenceAuditStoreBackup) : String :=
  hashReference H (.obj ([("version", .str b.version), ("id", .str b.id),
    ("tenantBoundary", .str b.tenantBoundary), ("createdAt", .str b.createdAt)] ++
    b.toAuditSnapshot.lists ++
    [("backupMetadata", .arr (b.backupMetadata.map (·.toJs)))]))

/-- mirrors packages/core/src/reference-audit-utils.ts:91-96 -/
def ReferenceAuditEventStoreRecord.withRecordHash (r : ReferenceAuditEventStoreRecord) :
    ReferenceAuditEventStoreRecord :=
  { r with recordHash := hashRecord H r.fields }

def ReferenceSignedAuditWindow.withRecordHash (w : ReferenceSignedAuditWindow) :
    ReferenceSignedAuditWindow :=
  { w with recordHash := hashRecord H w.fields }

def ReferenceSiemDeliveryRecord.withRecordHash (d : ReferenceSiemDeliveryRecord) :
    ReferenceSiemDeliveryRecord :=
  { d with recordHash := hashRecord H d.fields }

/-- mirrors packages/core/src/reference-audit-utils.ts:104-109 -/
def ReferenceAuditStoreBackup.withBackupHash (b : ReferenceAuditStoreBackup) :
    ReferenceAuditStoreBackup :=
  { b with backupHash := hashBackup H b }

/-- The delivery as a value, as the search for secrets reads it. -/
def ReferenceSiemDeliveryRecord.toJs (d : ReferenceSiemDeliveryRecord) : JsValue :=
  withHash d.fields d.recordHash

end

/-! ## The signer -/

/-- mirrors packages/core/src/reference-audit-models.ts:162-167 -/
structure ReferenceAuditWindowSigner where
  keyId : CanonicalId
  algorithm : String
  sign : JsonRecord → String
  verify : JsonRecord → String → Bool

/-- The signer over HMAC-SHA-256, which takes a key and a text. Comparing two
texts byte by byte is comparing them.
mirrors packages/core/src/reference-audit-signed-windows.ts:88-101 -/
def createHmacAuditWindowSigner (H : Host) (hmac : String → String → String)
    (keyId keyMaterial : String) : ReferenceAuditWindowSigner :=
  let signature (payload : JsonRecord) : String :=
    "hmac-sha256:" ++ hmac keyMaterial ((stableStringify H (.obj payload)).getD "")
  { keyId
    algorithm := "hmac-sha256"
    sign := signature
    verify := fun payload actual => signature payload = actual }

end AccessKit.L2.Audit
