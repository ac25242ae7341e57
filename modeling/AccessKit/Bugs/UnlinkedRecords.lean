import AccessKit.L2Audit.ReferenceFixtures

/-!
# Stored audit records need not be a chain

Status: open. What a repository checks of stored records, it checks of one record
at a time (packages/core/src/repositories.ts:957-998,
packages/core/src/reference-audit-integrity.ts:81-116): the number, the event
hash, and that the record repeats what its event names as the hash before. That
this is the hash of the record before it, which every append is checked for and
`verifyIntegrity` reports, is not looked at, and neither is the payload hash.

Counterexample: a log whose first record was cut off and whose second was
numbered anew. It is listed, trusted, opened, and restored from a backup
(`headless_accepted`).

Exact condition: each record names the event hash of the record before it, and
the payload hashes are those of the payloads (`accepted_iff`).
-/
namespace AccessKit.Bugs.UnlinkedRecords
open AccessKit.Core AccessKit.L1 AccessKit.L2.Fixtures AccessKit.L2.Audit
  AccessKit.L2.Audit.Fixtures ReferenceAuditEvidenceAdapter

/-- The records that a repository lists, or that the reference store takes to be
its log: when it reads them, opens, validates a backup or restores one. -/
inductive Accepted (H : Host) : List AuditRecord → Prop
  | listed (repository : LocalAppendOnlyAuditRepository) (events : List AuditEvent)
      (h : repository.listAuditEvents H = .ok events) :
      Accepted H (repository.records.map (·.toAuditRecord))
  | trusted (adapter : ReferenceAuditEvidenceAdapter) (store : AuditSnapshot)
      (records : List ReferenceAuditEventStoreRecord)
      (h : adapter.trustedAuditRecords H store = .ok records) :
      Accepted H (records.map (·.toAuditRecord))
  | opened (hmac : String → String → String) (options : ReferenceAuditEvidenceAdapterOptions)
      (store : ExternalAppendOnlyAuditStore) (adapter : ReferenceAuditEvidenceAdapter)
      (h : ReferenceAuditEvidenceAdapter.new H hmac options store = .ok adapter) :
      Accepted H (store.auditRecords.map (·.toAuditRecord))
  | validated (adapter : ReferenceAuditEvidenceAdapter) (backup : ReferenceAuditStoreBackup)
      (h : adapter.validateBackup H backup = .ok ()) :
      Accepted H (backup.auditRecords.map (·.toAuditRecord))
  | restored (adapter : ReferenceAuditEvidenceAdapter) (store store' : ExternalAppendOnlyAuditStore)
      (id : CanonicalId) (h : adapter.restoreBackup H store id = .ok store') :
      Accepted H (store'.auditRecords.map (·.toAuditRecord))

/-! ## The counterexample -/

/-- The second event of a log, which names the hash of the first. -/
def severed : AuditEvent where
  eventId := "evt:2"
  eventType := "relationship.put"
  occurredAt := timestamp
  actor := "service:api"
  correlationId := "corr:1"
  payloadHash := auditPayloadHash exactHost []
  previousEventHash := some "sha256:0"
  payload := []

/-- The log without its first record, the second one numbered anew. -/
def headless : List StoredAuditEventRecord :=
  [LocalAppendOnlyAuditRepository.auditRecord exactHost [] severed timestamp]

def headlessFile : LocalAppendOnlyAuditRepository where
  lines := headless.map .record
  location := "append-only-audit-events.jsonl"

/-- The same log as the reference store keeps it. -/
def headlessSnapshot : AuditSnapshot where
  auditRecords := [(tenantAdapter exactHost).auditRecord exactHost [] severed timestamp]
  evidenceRecords := []
  signedWindows := []
  siemDeliveries := []
  backupMetadata := []

def headlessBackup : ReferenceAuditStoreBackup :=
  ReferenceAuditStoreBackup.withBackupHash exactHost
    { headlessSnapshot with
      version := "production-audit-store-backup:v1"
      id := "backup:1"
      tenantBoundary := "tenant:a"
      createdAt := timestamp
      backupHash := "" }

def headlessStore : ExternalAppendOnlyAuditStore :=
  { headlessSnapshot with backups := OrderedMap.empty.set "backup:1" headlessBackup }

theorem valid_headless : Valid exactHost (tenantAdapter exactHost) headlessSnapshot where
  records := by
    refine auditRecordFindings_nil.2 ⟨?_, ⟨by decide, rfl, rfl, trivial⟩, by decide, by simp⟩
    simp only [headlessSnapshot, List.forall_mem_cons, List.not_mem_nil, false_implies,
      implies_true, and_true]
    exact ⟨rfl, rfl, rfl, (noSecrets_iff "").2 (by decide +kernel)⟩
  evidence := rfl
  windows := nofun
  deliveries := nofun

theorem listed_headless : headlessFile.listAuditEvents exactHost = .ok [severed] :=
  LocalAppendOnlyAuditRepository.listAuditEvents_ok.2
    ⟨LocalAppendOnlyAuditRepository.assert_ok.2 ⟨rfl, by decide, rfl, rfl, trivial⟩, rfl⟩

/-- **Counterexample**: the file lists the log, an adapter opens on it and
restores it from a backup, and it is no chain. -/
theorem headless_accepted :
    headlessFile.listAuditEvents exactHost = .ok [severed] ∧
    ReferenceAuditEvidenceAdapter.new exactHost plainHmac tenantOptions headlessStore =
      .ok (tenantAdapter exactHost) ∧
    (tenantAdapter exactHost).restoreBackup exactHost headlessStore "backup:1" = .ok headlessStore ∧
    ¬ HoldsChain exactHost (headless.map (·.toAuditRecord)) ∧
    ¬ HoldsChain exactHost (headlessStore.auditRecords.map (·.toAuditRecord)) := by
  have hunlinked : ¬ HoldsChain exactHost (headless.map (·.toAuditRecord)) := by
    intro h
    exact absurd h.linked.1 (by decide)
  refine ⟨listed_headless, new_tenant valid_headless, ?_, hunlinked, hunlinked⟩
  exact restoreBackup_ok.2
    ⟨headlessBackup, rfl, validateBackup_ok.2 ⟨rfl, rfl, valid_headless⟩, rfl⟩

/-! ## When the accepted list is a chain -/

section
variable {H : Host} {records : List AuditRecord}

/-- What is accepted is numbered from one, hashes its events and repeats what
they name. -/
theorem Accepted.consistent (h : Accepted H records) : Consistent H 0 records := by
  have hstored : ∀ {adapter : ReferenceAuditEvidenceAdapter}
      {records : List ReferenceAuditEventStoreRecord},
      auditRecordFindings H adapter [] 0 records = [] →
      Consistent H 0 (records.map (·.toAuditRecord)) :=
    fun h => (auditRecordFindings_nil.1 h).2.1
  cases h with
  | listed repository events h =>
    have hassert := (LocalAppendOnlyAuditRepository.listAuditEvents_ok.1 h).1
    exact (LocalAppendOnlyAuditRepository.assert_ok.1 hassert).2
  | trusted adapter store records h =>
    obtain ⟨hfind, rfl⟩ := trustedAuditRecords_ok.1 h
    exact hstored hfind
  | opened hmac options store adapter h => exact hstored (new_ok h).1.records
  | validated adapter backup h => exact hstored (validateBackup_ok.1 h).2.2.records
  | restored adapter store store' id h =>
    obtain ⟨backup, -, hvalid, rfl⟩ := restoreBackup_ok.1 h
    exact hstored (validateBackup_ok.1 hvalid).2.2.records

/-- **When an accepted list is a hash chain**: exactly when its records name
each other and the payload hashes are right. -/
theorem accepted_iff (h : Accepted H records) :
    HoldsChain H records ↔ RecordsLinked records ∧ PayloadsHashed H (records.map (·.event)) :=
  h.consistent.chain_iff

theorem accepted_iff_headless :
    Accepted exactHost (headless.map (·.toAuditRecord)) ∧
    (HoldsChain exactHost (headless.map (·.toAuditRecord)) ↔
      RecordsLinked (headless.map (·.toAuditRecord)) ∧
        PayloadsHashed exactHost ((headless.map (·.toAuditRecord)).map (·.event))) := by
  have haccepted := Accepted.listed headlessFile [severed] listed_headless
  exact ⟨haccepted, accepted_iff haccepted⟩

end

end AccessKit.Bugs.UnlinkedRecords
