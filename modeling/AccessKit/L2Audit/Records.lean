import AccessKit.L1Domain.Clone
import AccessKit.L2Audit.Chain

/-!
# Stored audit records

A repository keeps each event in a record with its sequence number, its hash and
the hash of the event before it; `LocalAppendOnlyAuditRepository`
(packages/core/src/repositories.ts:279-391) keeps the records as lines of a
file. The checks of a record that all repositories make are those of `recordFindings`.

Results:
* `recordsFindings_eq_nil`: a list of records without findings is consistent.
* `Consistent.chain_iff`: a consistent list holds an audit chain exactly when its
  records name each other and the payloads are hashed.
* `appendAuditEvent_ok`: what the append of the local repository accepts.
-/
namespace AccessKit.L2.Audit
open AccessKit.Core AccessKit.L1

/-- What the stored records of all repositories have. -/
structure AuditRecord where
  sequence : Rat
  storedAt : IsoDateTime
  eventHash : String
  previousEventHash : Option String := none
  event : AuditEvent

/-- mirrors packages/core/src/repositories.ts:178-185 -/
structure StoredAuditEventRecord extends AuditRecord where
  version : String

/-- mirrors packages/core/src/domain/evidence.ts:351-361 -/
structure AuditStorageReceipt where
  eventId : CanonicalId
  sequence : Rat
  eventHash : String
  previousEventHash : Option String
  storedAt : IsoDateTime
  backend : String
  location : String
  immutable : Bool
  version : String

/-- `clone(event)` -/
def AuditEvent.copy (e : AuditEvent) : AuditEvent := { e with payload := cloneFields e.payload }

/-- A finding about a record: what was expected and what is there. -/
def recordFinding (code message : String) (eventId : CanonicalId) (expected actual : String) :
    AuditIntegrityFinding where
  code
  message
  severity := .critical
  eventId := some eventId
  expected := some expected
  actual := some actual

/-- `if (bad) findings.push(finding)` -/
def report (bad : Prop) [Decidable bad] (finding : AuditIntegrityFinding) :
    List AuditIntegrityFinding :=
  if bad then [finding] else []

@[simp] theorem report_eq_nil {bad : Prop} [Decidable bad] {finding : AuditIntegrityFinding} :
    report bad finding = [] ↔ ¬ bad := by
  unfold report
  split <;> simp_all

section
variable (H : Host)

/-- The text of a sequence number in a message. -/
def numberText (q : Rat) : String := stringifyNumber H (.fin q)

/-- The checks of a record at an index.
mirrors packages/core/src/repositories.ts:957-998 -/
def recordFindings (index : Nat) (record : AuditRecord) : List AuditIntegrityFinding :=
  let expectedSequence : Rat := ((index + 1 : Nat) : Rat)
  let expectedEventHash := auditEventHash H record.event
  report (record.sequence ≠ expectedSequence)
    (recordFinding "AUDIT_RECORD_SEQUENCE_MISMATCH"
      "Stored audit record sequence does not match append-only order." record.event.eventId
      (numberText H expectedSequence) (numberText H record.sequence)) ++
  report (record.eventHash ≠ expectedEventHash)
    (recordFinding "AUDIT_RECORD_HASH_MISMATCH"
      "Stored audit record hash does not match the current event payload." record.event.eventId
      expectedEventHash record.eventHash) ++
  report (record.previousEventHash ≠ record.event.previousEventHash)
    (recordFinding "AUDIT_RECORD_PREVIOUS_HASH_MISMATCH"
      "Stored audit record previous hash does not match the event previousEventHash."
      record.event.eventId (record.event.previousEventHash.getD "<none>")
      (record.previousEventHash.getD "<none>"))

/-- `records.flatMap((record, index) => …)`, from an index on.
mirrors packages/core/src/repositories.ts:957-998 -/
def auditRecordIntegrityFindings : Nat → List AuditRecord → List AuditIntegrityFinding
  | _, [] => []
  | index, record :: records =>
    recordFindings H index record ++ auditRecordIntegrityFindings (index + 1) records

/-! ## The local repository -/

/-- A line of the file: a record, or what is no JSON, with the message of the
parser. -/
inductive AuditLine
  | record (r : StoredAuditEventRecord)
  | malformed (error : String)

/-- mirrors packages/core/src/repositories.ts:279-289 -/
structure LocalAppendOnlyAuditRepository where
  lines : List AuditLine
  location : String

namespace LocalAppendOnlyAuditRepository

def records (repository : LocalAppendOnlyAuditRepository) : List StoredAuditEventRecord :=
  repository.lines.filterMap fun
    | .record r => some r
    | .malformed _ => none

/-- The findings of `#readRecords`, from a line on.
mirrors packages/core/src/repositories.ts:375-387 -/
def parseFindings : Nat → List AuditLine → List AuditIntegrityFinding
  | _, [] => []
  | index, .record _ :: lines => parseFindings (index + 1) lines
  | index, .malformed error :: lines =>
    { code := "MALFORMED_RECORD"
      message := "Stored audit record line " ++ toString (index + 1) ++ " is not valid JSON."
      severity := .critical
      expected := some "valid JSONL audit record"
      actual := some error } :: parseFindings (index + 1) lines

/-- mirrors packages/core/src/repositories.ts:918-927 -/
def assertStoredAuditRecords (repository : LocalAppendOnlyAuditRepository) : Except String Unit :=
  match parseFindings 0 repository.lines ++
      auditRecordIntegrityFindings H 0 (repository.records.map (·.toAuditRecord)) with
  | [] => .ok ()
  | f :: _ => .error ("Stored audit log integrity check failed: " ++ f.message)

/-- The record of an appended event. The file keeps its text, in which the
properties of objects are sorted; nothing here depends on their order.
mirrors packages/core/src/repositories.ts:320-327 -/
def auditRecord (records : List StoredAuditEventRecord) (event : AuditEvent)
    (storedAt : IsoDateTime) : StoredAuditEventRecord where
  version := "rebac-audit-event-record:v1"
  sequence := ((records.length + 1 : Nat) : Rat)
  storedAt
  eventHash := auditEventHash H event
  previousEventHash := event.previousEventHash
  event := event.copy

/-- mirrors packages/core/src/repositories.ts:304-341 -/
def appendAuditEvent (repository : LocalAppendOnlyAuditRepository) (event : AuditEvent)
    (storedAt : IsoDateTime) :
    Except String (AuditStorageReceipt × LocalAppendOnlyAuditRepository) := do
  repository.assertStoredAuditRecords H
  if repository.records.any fun r => r.event.eventId = event.eventId then
    throw ("Audit event " ++ event.eventId ++ " has already been appended.")
  let expectedPreviousEventHash := repository.records.getLast?.map (·.eventHash)
  if event.previousEventHash ≠ expectedPreviousEventHash then
    throw "Audit event previousEventHash does not match the current append-only tail."
  let record := auditRecord H repository.records event storedAt
  return ({ eventId := event.eventId
            sequence := record.sequence
            eventHash := record.eventHash
            previousEventHash := event.previousEventHash
            storedAt
            backend := "local_file"
            location := repository.location
            immutable := false
            version := "audit-storage-receipt:v1" },
    { repository with lines := repository.lines ++ [.record record] })

/-- mirrors packages/core/src/repositories.ts:343-347 -/
def listAuditEvents (repository : LocalAppendOnlyAuditRepository) :
    Except String (List AuditEvent) := do
  repository.assertStoredAuditRecords H
  return repository.records.map fun r => r.event.copy

end LocalAppendOnlyAuditRepository

/-! ## What a record has to be -/

/-- The records are numbered from a number on, hash their events and repeat what
the events name. -/
def Consistent : Nat → List AuditRecord → Prop
  | _, [] => True
  | n, r :: rs => r.sequence = ((n + 1 : Nat) : Rat) ∧ r.eventHash = auditEventHash H r.event ∧
      r.previousEventHash = r.event.previousEventHash ∧ Consistent (n + 1) rs

/-- Each record names the event hash of the record before it, the first none. -/
def RecordsLinked (records : List AuditRecord) : Prop :=
  Linked AuditRecord.eventHash AuditRecord.previousEventHash none records

/-- The events pass `verifyAuditChain`, the sequence numbers are consecutive,
every event hash recomputes and every event names the hash of the record before
it. -/
structure HoldsChain (records : List AuditRecord) : Prop where
  verified : ∀ verifiedAt,
    (verifyAuditChain H (records.map (·.event)) verifiedAt).status = .verified
  consecutive : ∀ i (h : i < records.length), (records.get ⟨i, h⟩).sequence = ((i + 1 : Nat) : Rat)
  recomputes : ∀ r ∈ records, r.eventHash = auditEventHash H r.event
  linked : Linked AuditRecord.eventHash (·.event.previousEventHash) none records

end

/-! ## Computations that may throw -/

section
variable {α β : Type}

theorem bind_ok {ε : Type} {x : Except ε α} {f : α → Except ε β} {b : β} :
    (x >>= f) = .ok b ↔ ∃ a, x = .ok a ∧ f a = .ok b := by
  cases x <;> simp [bind, Except.bind]

theorem seq_ok {ε : Type} {x : Except ε Unit} {f : Unit → Except ε β} {b : β} :
    (x >>= f) = .ok b ↔ x = .ok () ∧ f () = .ok b := by
  cases x <;> simp [bind, Except.bind]

theorem snd_ok {ε : Type} {x : Except ε (α × β)} {b : β} :
    Prod.snd <$> x = .ok b ↔ ∃ a, x = .ok (a, b) := by
  cases x with
  | error e => simp [Functor.map, Except.map]
  | ok p =>
    obtain ⟨a, b'⟩ := p
    simp [Functor.map, Except.map]

theorem guard_ok {c : Prop} [Decidable c] {message : String} {f : β → Except String α}
    {x : Except String α} {a : α} :
    (if c then throw message >>= f else x) = .ok a ↔ ¬ c ∧ x = .ok a := by
  by_cases hc : c <;> simp [hc, bind, Except.bind, throw, throwThe, MonadExceptOf.throw]

end

section
variable {H : Host}

theorem recordFindings_eq_nil {index : Nat} {r : AuditRecord} :
    recordFindings H index r = [] ↔ r.sequence = ((index + 1 : Nat) : Rat) ∧
      r.eventHash = auditEventHash H r.event ∧ r.previousEventHash = r.event.previousEventHash := by
  unfold recordFindings
  simp only [List.append_eq_nil_iff, report_eq_nil, ne_eq, not_not, and_assoc]

theorem recordsFindings_eq_nil {index : Nat} {records : List AuditRecord} :
    auditRecordIntegrityFindings H index records = [] ↔ Consistent H index records := by
  induction records generalizing index with
  | nil => simp [auditRecordIntegrityFindings, Consistent]
  | cons r records ih =>
    rw [auditRecordIntegrityFindings, List.append_eq_nil_iff, ih, recordFindings_eq_nil, Consistent]
    tauto

theorem Consistent.recomputes {n : Nat} {records : List AuditRecord} (h : Consistent H n records) :
    ∀ r ∈ records, r.eventHash = auditEventHash H r.event ∧
      r.previousEventHash = r.event.previousEventHash := by
  induction records generalizing n with
  | nil => simp
  | cons r records ih =>
    obtain ⟨-, hh, hp, hrest⟩ := h
    exact List.forall_mem_cons.2 ⟨⟨hh, hp⟩, ih hrest⟩

theorem Consistent.consecutive {n : Nat} {records : List AuditRecord}
    (h : Consistent H n records) (i : Nat) (hi : i < records.length) :
    (records.get ⟨i, hi⟩).sequence = ((n + i + 1 : Nat) : Rat) := by
  induction records generalizing n i with
  | nil => exact absurd hi (Nat.not_lt_zero i)
  | cons r records ih =>
    obtain ⟨hs, -, -, hrest⟩ := h
    cases i with
    | zero => exact hs
    | succ i =>
      have := ih hrest i (Nat.lt_of_succ_lt_succ hi)
      rw [show n + (i + 1) + 1 = n + 1 + i + 1 by omega]
      exact this

theorem consistent_append {n : Nat} {rs rs' : List AuditRecord} :
    Consistent H n (rs ++ rs') ↔ Consistent H n rs ∧ Consistent H (n + rs.length) rs' := by
  induction rs generalizing n with
  | nil => simp [Consistent]
  | cons r rs ih =>
    simp only [List.cons_append, Consistent, ih, List.length_cons, and_assoc]
    rw [show n + 1 + rs.length = n + (rs.length + 1) by omega]

/-- In a consistent list the records and their events name the same. -/
theorem Consistent.linked_iff {n : Nat} {records : List AuditRecord} (h : Consistent H n records)
    (p : Option String) :
    (Linked AuditRecord.eventHash AuditRecord.previousEventHash p records ↔
      Linked (auditEventHash H) AuditEvent.previousEventHash p (records.map (·.event))) ∧
    (Linked AuditRecord.eventHash (·.event.previousEventHash) p records ↔
      Linked (auditEventHash H) AuditEvent.previousEventHash p (records.map (·.event))) ∧
    tip AuditRecord.eventHash p records = tip (auditEventHash H) p (records.map (·.event)) := by
  induction records generalizing n p with
  | nil => exact ⟨.rfl, .rfl, rfl⟩
  | cons r records ih =>
    obtain ⟨-, hh, hp, hrest⟩ := h
    obtain ⟨hrec, hev, htip⟩ := ih hrest (some (auditEventHash H r.event))
    simp only [Linked, List.map_cons, tip_cons, hh, hp]
    exact ⟨and_congr_right fun _ => hrec, and_congr_right fun _ => hev, htip⟩

/-- **A consistent list holds an audit chain** exactly when each record names the
record before it and every event has the hash of its payload. -/
theorem Consistent.chain_iff {records : List AuditRecord} (h : Consistent H 0 records) :
    HoldsChain H records ↔
      RecordsLinked records ∧ PayloadsHashed H (records.map (·.event)) := by
  obtain ⟨hrec, hev, -⟩ := h.linked_iff none
  constructor
  · intro hc
    obtain ⟨hchain, hpay⟩ := verified_iff.1 (hc.verified "")
    exact ⟨hrec.2 hchain, hpay⟩
  · intro ⟨hlinked, hpay⟩
    exact {
      verified := fun _ => verified_iff.2 ⟨hrec.1 hlinked, hpay⟩
      consecutive := fun i hi => by simpa using h.consecutive i hi
      recomputes := fun r hr => (h.recomputes r hr).1
      linked := hev.2 (hrec.1 hlinked) }

/-! ## Copies of events -/

theorem sameText_copy {e : AuditEvent} (h : IsJson (.obj e.payload)) : SameText H e.copy e :=
  ⟨rfl, stableStringify_clone h⟩

@[simp] theorem copy_copy (e : AuditEvent) : e.copy.copy = e.copy := by
  have h := clone_clone (.obj e.payload)
  simp only [clone, JsValue.obj.injEq] at h
  simp only [AuditEvent.copy, h]

theorem isJson_copy {e : AuditEvent} (h : IsJson (.obj e.payload)) :
    IsJson (.obj e.copy.payload) :=
  isJson_clone h

theorem sameText_copies {events : List AuditEvent} (h : ∀ e ∈ events, IsJson (.obj e.payload)) :
    List.Forall₂ (SameText H) (events.map AuditEvent.copy) events :=
  List.forall₂_map_left_iff.2 (List.forall₂_same.2 fun e he => sameText_copy (h e he))

/-! ## The local repository -/

namespace LocalAppendOnlyAuditRepository

theorem records_concat {repository : LocalAppendOnlyAuditRepository}
    {record : StoredAuditEventRecord} :
    ({ repository with lines := repository.lines ++ [.record record] } :
      LocalAppendOnlyAuditRepository).records = repository.records ++ [record] := by
  simp [records]

theorem assert_ok {repository : LocalAppendOnlyAuditRepository} :
    repository.assertStoredAuditRecords H = .ok () ↔ parseFindings 0 repository.lines = [] ∧
      Consistent H 0 (repository.records.map (·.toAuditRecord)) := by
  rw [← recordsFindings_eq_nil, ← List.append_eq_nil_iff, assertStoredAuditRecords]
  split
  · rename_i h
    simp [h]
  · rename_i h
    simp [h]

theorem listAuditEvents_ok {repository : LocalAppendOnlyAuditRepository}
    {events : List AuditEvent} :
    repository.listAuditEvents H = .ok events ↔
      repository.assertStoredAuditRecords H = .ok () ∧
        events = repository.records.map fun r => r.event.copy := by
  rw [listAuditEvents, seq_ok]
  simp [pure, Except.pure, eq_comm]

theorem assert_concat {repository : LocalAppendOnlyAuditRepository} {record : StoredAuditEventRecord}
    (h : repository.assertStoredAuditRecords H = .ok ())
    (hrecord : Consistent H repository.records.length [record.toAuditRecord]) :
    ({ repository with lines := repository.lines ++ [.record record] } :
      LocalAppendOnlyAuditRepository).assertStoredAuditRecords H = .ok () := by
  have hparse : ∀ (lines : List AuditLine) (i : Nat),
      parseFindings i (lines ++ [.record record]) = parseFindings i lines := by
    intro lines
    induction lines with
    | nil => exact fun _ => rfl
    | cons line lines ih =>
      intro i
      cases line <;> simp only [List.cons_append, parseFindings, ih]
  obtain ⟨hlines, hconsistent⟩ := assert_ok.1 h
  refine assert_ok.2 ⟨(hparse _ 0).trans hlines, ?_⟩
  rw [records_concat, List.map_append, consistent_append]
  refine ⟨hconsistent, ?_⟩
  simpa using hrecord

theorem appendAuditEvent_ok {repository repository' : LocalAppendOnlyAuditRepository}
    {event : AuditEvent} {storedAt : IsoDateTime} :
    (∃ receipt, repository.appendAuditEvent H event storedAt = .ok (receipt, repository')) ↔
      repository.assertStoredAuditRecords H = .ok () ∧
      (∀ r ∈ repository.records, r.event.eventId ≠ event.eventId) ∧
      event.previousEventHash = repository.records.getLast?.map (·.eventHash) ∧
      repository' = { repository with
        lines := repository.lines ++
          [.record (auditRecord H repository.records event storedAt)] } := by
  have hany : (¬ (repository.records.any fun r => decide (r.event.eventId = event.eventId)) = true) ↔
      ∀ r ∈ repository.records, r.event.eventId ≠ event.eventId := by
    simp
  unfold appendAuditEvent
  simp only [seq_ok, guard_ok, pure, Except.pure, Except.ok.injEq, Prod.mk.injEq]
  constructor
  · intro ⟨receipt, hassert, hfresh, hprev, _, hstore⟩
    exact ⟨hassert, hany.1 hfresh, not_not.1 hprev, hstore.symm⟩
  · intro ⟨hassert, hfresh, hprev, hstore⟩
    exact ⟨_, hassert, hany.2 hfresh, not_not.2 hprev, rfl, hstore.symm⟩

end LocalAppendOnlyAuditRepository

end

end AccessKit.L2.Audit
