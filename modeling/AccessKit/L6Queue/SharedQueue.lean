import AccessKit.L6Queue.Commits

/-!
# Adapters that share a store

Any number of adapters on one store, each in a process of its own. A call of an adapter gets
to its store a few times: it reads the record that is there, compares it with the one it read
and exchanges it, or writes a record over it. Between two such steps other calls take theirs.
What is done in between touches nothing that is shared, so that the order of these steps is
all there is to a run.

The world keeps a log of what was written, which the code has not: what a successful call
meant to write is compared with what is stored in the end.

Results:
* `Inv.advance`: what a step keeps, when it writes over nothing that it has not read.
* `Inv.noLostUpdate`: what is stored reflects the log.
* `exchange_alone`: a call that nobody interrupts does what it does in sequence.
-/
namespace AccessKit.L6
open AccessKit.Core AccessKit.L1 AccessKit.L2.Audit
open AccessKit.L5 (RebacJobSnapshot JobRecord JobKey ProvisioningPlan ProvisioningJob)
open ReferenceJobQueueAdapter

/-! ## Calls in steps -/

/-- What adapters of one store may differ in. -/
structure Agent where
  localeCompare : String → String → Int
  tenantBoundary : String
  location : String

def Agent.adapter (H : Host) (agent : Agent) : ReferenceJobQueueAdapter where
  host := H
  localeCompare := agent.localeCompare
  tenantBoundary := agent.tenantBoundary
  location := agent.location

/-- mirrors packages/core/src/reference-repositories.ts:132-134 -/
structure SharedStore where
  current : Option StoredRecord
  backups : OrderedMap CanonicalId StoredRecord

/-- What a record holds, or an empty store. -/
def held : Option StoredRecord → QueueContent
  | some r => r.toQueueContent
  | none => contentOf none

/-- Where a call is: before it tries to commit, and before it exchanges the record that it
`expected`; before it writes over the record that it `read`; or over, with what it wrote. -/
inductive Progress
  | idle
  | attempting (commit : Commit) (attempt : Nat)
  | exchanging (commit : Commit) (attempt : Nat) (expected : Option StoredRecord)
    (record : ReferenceJobQueueStoreRecord)
  | flushing (read : QueueContent) (record : ReferenceJobQueueStoreRecord)
  | backingUp (id : CanonicalId) (metadata : ReferenceRepositoryBackupMetadata)
    (read : QueueContent) (record : ReferenceJobQueueStoreRecord)
  | filing (id : CanonicalId) (metadata : ReferenceRepositoryBackupMetadata)
    (record : ReferenceJobQueueStoreRecord)
  | restoring (record : ReferenceJobQueueStoreRecord)
  | returned (result : Except String Effect)

/-- What happened to the record of the store. -/
inductive StoreEvent
  | written (e : Effect)
  | restored (content : QueueContent)

/-- The records that a call brings along. -/
def askedRecords : EnqueueCall → List JobRecord
  | .enqueueProvisioningJob job options =>
    (options.plan.map fun plan => JobRecord.provisioningPlan plan.copy).toList ++
      [.provisioningJob job.copy]
  | _ => []

/-- The plan that a call looks up when it is given none.
mirrors packages/core/src/reference-job-queue.ts:259-260 -/
def lookedRecords (content : QueueContent) : EnqueueCall → List JobRecord
  | .enqueueProvisioningJob job options =>
    match options.plan with
    | some _ => []
    | none => ((findBy (·.id) content.jobs.provisioningPlans job.planId).map fun plan =>
        JobRecord.provisioningPlan plan.copy).toList
  | _ => []

section
variable (adapter : ReferenceJobQueueAdapter)

/-- mirrors packages/core/src/reference-job-snapshot-store.ts:95-103, 162-168 -/
def readRecord : Option StoredRecord → Except String QueueContent
  | none => .ok (contentOf none)
  | some r =>
    if r.tenantBoundary = adapter.tenantBoundary then .ok r.toQueueContent
    else .error ("Reference job queue store tenant boundary does not match the configured " ++
      "tenant boundary.")

/-- mirrors packages/core/src/reference-job-snapshot-store.ts:105-113 -/
def readBackup (backups : OrderedMap CanonicalId StoredRecord) (id : CanonicalId) :
    Except String QueueContent :=
  match backups.get? id with
  | none => .error ("Reference job queue backup " ++ id ++ " does not exist.")
  | some backup => readRecord adapter backup

/-- What a call to enqueue reads first: two of them look something up. -/
def lookUp (call : EnqueueCall) (current : Option StoredRecord) : Except String QueueContent :=
  match call with
  | .enqueueProvisioningJob .. | .replayDeadLetteredJob .. => readRecord adapter current
  | _ => .ok (contentOf none)

/-- A call up to its first write, or its first attempt to commit. -/
def startCall (now : IsoDateTime) (store : SharedStore) : StoreCall → Except String Progress
  | .call (.enqueue call) => do
    let content ← lookUp adapter call store.current
    let checked ← adapter.checked now content call
    return .attempting (.enqueue checked (lookedRecords content call) (askedRecords call)) 0
  | .call (.reserveNextJob request) =>
    .ok (.attempting (.reserveNextJob request (request.reservedAt.getD now)) 0)
  | .call (.completeJob jobId request) =>
    .ok (.attempting (.completeJob jobId request (request.completedAt.getD now)) 0)
  | .call (.recordJobFailure jobId request) =>
    .ok (.attempting (.recordJobFailure jobId request (request.failedAt.getD now)) 0)
  | .call (.setConnectorHealth health) => do
    assertNoSecretMaterial adapter.host health.toJs ("Connector health " ++ health.connectorId)
    return .attempting (.setConnectorHealth health) 0
  | .call (.record r) => do
    adapter.assertRecord r
    return .attempting (.record r (recordedAt now r)) 0
  | .flush storedAt => do
    let read ← readRecord adapter store.current
    let record ← adapter.createRecord (storedAt.getD now) read
    return .flushing read record
  | .createBackup id createdAt => do
    let read ← readRecord adapter store.current
    let record ← adapter.backupRecord id (createdAt.getD now) read
    return .backingUp id (adapter.createBackupMetadata id (createdAt.getD now) read) read record
  | .restoreBackup id restoredAt => do
    let backup ← readBackup adapter store.backups id
    let record ← adapter.createRecord (restoredAt.getD now) backup
    return .restoring record

/-- An attempt of a commit, up to its exchange.
mirrors packages/core/src/reference-job-queue.ts:827-837 -/
def attemptCommit (commit : Commit) (attempt : Nat) (store : SharedStore) :
    Except String Progress := do
  let content ← readRecord adapter store.current
  let (next, _) ← commit.mutate adapter content
  let record ← adapter.createRecord commit.storedAt next
  return .exchanging commit attempt store.current record

/-- A call goes on, or is over with an error. -/
def settle : Except String Progress → Progress
  | .ok progress => progress
  | .error message => .returned (.error message)

/-- A record with the tenant of the adapter that writes it. -/
def signed (record : ReferenceJobQueueStoreRecord) : StoredRecord :=
  { record with tenantBoundary := adapter.tenantBoundary }

/-- **The next step** of a call: what becomes of the store and of the call, and what happened.
mirrors packages/core/src/reference-job-queue.ts:739-769, 813-849 and
reference-repositories.ts:140-164 -/
def advance (now : IsoDateTime) (call : StoreCall) (store : SharedStore) :
    Progress → SharedStore × Progress × Option StoreEvent
  | .idle => (store, settle (startCall adapter now store call), none)
  | .attempting commit attempt => (store, settle (attemptCommit adapter commit attempt store), none)
  | .exchanging commit attempt expected record =>
    if store.current.map (stableHash adapter.host) = expected.map (stableHash adapter.host) then
      let effect := commit.effect adapter (held expected)
      ({ store with current := some (signed adapter record) }, .returned (.ok effect),
        some (.written effect))
    else if attempt + 1 < 5 then (store, .attempting commit (attempt + 1), none)
    else
      (store,
        .returned (.error "Reference job queue write conflict persisted after retry."), none)
  | .flushing _ record =>
    ({ store with current := some (signed adapter record) }, .returned (.ok .nothing),
      some (.written .nothing))
  | .backingUp id metadata _ record =>
    ({ store with current := some (signed adapter record) }, .filing id metadata record,
      some (.written (.single (.backup metadata))))
  | .filing id metadata record =>
    ({ store with backups := store.backups.set id (signed adapter record) },
      .returned (.ok (.single (.backup metadata))), none)
  | .restoring record =>
    ({ store with current := some (signed adapter record) }, .returned (.ok .nothing),
      some (.restored record.toQueueContent))
  | .returned result => (store, .returned result, none)

end

/-! ## Runs -/

/-- A call of an adapter, and where it is. -/
structure Slot where
  agent : Agent
  call : StoreCall
  progress : Progress

/-- A store, the calls on it, and what happened, the last in front, each with the place of
the call that did it. -/
structure World where
  store : SharedStore
  log : List (Nat × StoreEvent)
  slots : List Slot

/-- A call of the world takes its next step. -/
def World.advance (H : Host) (now : IsoDateTime) (w : World) (before : List Slot) (slot : Slot)
    (after : List Slot) : World :=
  let (store, progress, event) :=
    L6.advance (slot.agent.adapter H) now slot.call w.store slot.progress
  { store
    log := (event.map fun event => (before.length, event)).toList ++ w.log
    slots := before ++ { slot with progress } :: after }

/-- What calls reach from a store, whichever of them goes on next, as long as each step
meets a condition. -/
inductive ReachedBy (H : Host) (meets : World → Slot → Prop) (start : SharedStore)
    (calls : List (Agent × StoreCall)) : World → Prop
  | opened : ReachedBy H meets start calls
      { store := start
        log := []
        slots := calls.map fun call => { agent := call.1, call := call.2, progress := .idle } }
  | advanced {w : World} (h : ReachedBy H meets start calls w) (now : IsoDateTime)
      {before after : List Slot} {slot : Slot} (hslots : w.slots = before ++ slot :: after)
      (hmeets : meets w slot) : ReachedBy H meets start calls (w.advance H now before slot after)

/-! ## No lost update -/

/-- An event after which another one is not seen any more under a key. -/
def StoreEvent.Supersedes (k : StoreKey) : StoreEvent → Prop
  | .written e => e k ≠ none
  | .restored _ => True

/-- Whatever a call wrote that returned without an error is stored, unless something was
written under the same key since, or the whole record restored. -/
def NoLostUpdate (w : World) : Prop :=
  ∀ (i : Nat) (slot : Slot) (e : Effect), w.slots[i]? = some slot →
    slot.progress = .returned (.ok e) → ∀ k v, e k = some v →
    ∃ later earlier, w.log = later ++ (i, .written e) :: earlier ∧
      ((∃ event ∈ later, event.2.Supersedes k) ∨
        SameEntry (find (held w.store.current) k) (some v))

/-- What is stored if everything in the log was done, and nothing else. -/
def ledger (start : QueueContent) : List (Nat × StoreEvent) → Effect
  | [] => find start
  | (_, .written e) :: log => Effect.over e (ledger start log)
  | (_, .restored content) :: _ => find content

theorem ledger_eq {start : QueueContent} {later earlier : List (Nat × StoreEvent)} {i : Nat}
    {e : Effect} {k : StoreKey} {v : StoreEntry} (hv : e k = some v)
    (hlater : ∀ event ∈ later, ¬ event.2.Supersedes k) :
    ledger start (later ++ (i, .written e) :: earlier) k = some v := by
  induction later with
  | nil => simp [ledger, Effect.over, hv]
  | cons event later ih =>
    obtain ⟨j, event⟩ := event
    obtain ⟨hevent, hrest⟩ := List.forall_mem_cons.1 hlater
    cases event with
    | written e' =>
      have hnone : e' k = none := not_not.1 hevent
      rw [List.cons_append, ledger, Effect.over, hnone, Option.none_or]
      exact ih hrest
    | restored content => exact absurd trivial hevent

/-! ## What the steps of a call keep -/

/-- Copies of what comes with a call are JSON. Those of JavaScript values always are: a list of
properties may have a key twice. -/
def JsonCall : StoreCall → Prop
  | .call (.enqueue (.enqueueJob request)) => IsJson (.obj (cloneFields request.payload))
  | .call (.enqueue (.enqueueProvisioningJob job options)) => IsJson (.obj job.copy.toJs) ∧
      ∀ plan, options.plan = some plan → IsJson (.obj plan.copy.toJs)
  | .call (.record r) => IsJson (JobRecord.toJs r.copy)
  | _ => True

/-- What is known of a call, by its place among the others. -/
def SlotInv (H : Host) (log : List (Nat × StoreEvent)) (i : Nat) (slot : Slot) : Prop :=
  JsonCall slot.call ∧
  match slot.progress with
  | .idle => True
  | .attempting commit _ => commit.Json ∧ commit.Splits
  | .exchanging commit _ expected record => commit.Json ∧ commit.Splits ∧
      JsonContent (held expected) ∧
      commit.mutate (slot.agent.adapter H) (held expected) = .ok (record.toQueueContent, ())
  | .flushing read record => JsonContent read ∧ record.toQueueContent = read
  | .backingUp _ metadata read record => JsonContent read ∧
      (metadata.entityCounts.map Prod.fst).Nodup ∧ record.toQueueContent =
        { read with backupMetadata := read.backupMetadata ++ [metadata] }
  | .filing _ metadata record => JsonContent record.toQueueContent ∧
      (i, StoreEvent.written (.single (.backup metadata))) ∈ log
  | .restoring record => JsonContent record.toQueueContent
  | .returned (.ok e) => (∀ k, e k = none) ∨ (i, StoreEvent.written e) ∈ log
  | .returned (.error _) => True

/-- What is known of a world. -/
structure Inv (H : Host) (start : QueueContent) (w : World) : Prop where
  law : ∀ k, SameEntry (find (held w.store.current) k) (ledger start w.log k)
  current : JsonContent (held w.store.current)
  backups : ∀ id backup, w.store.backups.get? id = some backup →
    JsonContent backup.toQueueContent
  slots : ∀ i slot, w.slots[i]? = some slot → SlotInv H w.log i slot

/-- **What is stored reflects the log.** -/
theorem Inv.noLostUpdate {H : Host} {start : QueueContent} {w : World} (h : Inv H start w) :
    NoLostUpdate w := by
  intro i slot e hslot hreturned k v hv
  have hinv := (h.slots i slot hslot).2
  rw [hreturned] at hinv
  rcases hinv with hnothing | hlogged
  · rw [hnothing k] at hv
    cases hv
  · obtain ⟨later, earlier, hlog⟩ := List.append_of_mem hlogged
    refine ⟨later, earlier, hlog, or_iff_not_imp_left.2 fun hlater => ?_⟩
    have hlaw := h.law k
    rw [hlog, ledger_eq hv fun event hevent hsupersedes => hlater ⟨event, hevent, hsupersedes⟩]
      at hlaw
    exact hlaw

/-! ### The start of a call -/

section
variable {adapter : ReferenceJobQueueAdapter} {now : IsoDateTime} {content : QueueContent}

theorem mem_set {fields : JsonRecord} {key : String} {v : JsValue} {p : String × JsValue}
    (h : p ∈ JsonRecord.set key v fields) : p = (key, v) ∨ p ∈ fields := by
  induction fields with
  | nil => exact .inl (List.mem_singleton.1 h)
  | cons q fields ih =>
    rw [JsonRecord.set] at h
    split at h
    · exact (List.mem_cons.1 h).imp_right (List.mem_cons_of_mem q)
    · rcases List.mem_cons.1 h with rfl | h
      · exact .inr List.mem_cons_self
      · exact (ih h).imp_right (List.mem_cons_of_mem q)

theorem nodup_set {fields : JsonRecord} (h : (fields.map Prod.fst).Nodup) (key : String)
    (v : JsValue) : ((JsonRecord.set key v fields).map Prod.fst).Nodup := by
  induction fields with
  | nil => exact List.nodup_singleton key
  | cons q fields ih =>
    obtain ⟨hq, hfields⟩ := List.nodup_cons.1 h
    rw [JsonRecord.set]
    split
    · next hkey =>
      rw [beq_iff_eq] at hkey
      exact List.nodup_cons.2 ⟨hkey ▸ hq, hfields⟩
    · next hkey =>
      refine List.nodup_cons.2 ⟨fun hmem => ?_, ih hfields⟩
      obtain ⟨p, hp, he⟩ := List.mem_map.1 hmem
      rcases mem_set hp with rfl | hp
      · exact hkey (beq_iff_eq.2 he.symm)
      · exact hq (he ▸ List.mem_map_of_mem hp)

theorem isJson_set {fields : JsonRecord} (h : IsJson (.obj fields)) (key s : String) :
    IsJson (.obj (JsonRecord.set key (.str s) fields)) := by
  cases h with
  | obj hkeys hfields =>
    refine .obj (nodup_set hkeys key _) fun p hp hdefined => ?_
    rcases mem_set hp with rfl | hp
    · exact .str s
    · exact hfields p hp hdefined

theorem isJson_cloneFields {fields : JsonRecord} (h : IsJson (.obj fields)) :
    IsJson (.obj (cloneFields fields)) :=
  isJson_clone h

theorem payload_normalized {request : ReferenceJobQueueEnqueueRequest} {r : RequiredQueueRequest}
    (h : normalizeEnqueueRequest now request = .ok r) :
    r.payload = cloneFields request.payload := by
  unfold normalizeEnqueueRequest at h
  split at h
  · cases h
  · split at h
    · cases h
    · cases h
      rfl

theorem mem_allRecords_plan {jobs : RebacJobSnapshot} {id : CanonicalId} {plan : ProvisioningPlan}
    (h : findBy (·.id) jobs.provisioningPlans id = some plan) :
    JobRecord.provisioningPlan plan ∈ allRecords jobs := by
  simp [allRecords, mem_of_findBy h]

theorem json_enqueueJob {request : ReferenceJobQueueEnqueueRequest} {checked : CheckedRequest}
    (hpayload : IsJson (.obj (cloneFields request.payload)))
    (h : adapter.enqueueJob now request = .ok checked) :
    (Commit.enqueue checked [] []).Json ∧ (Commit.enqueue checked [] []).Splits := by
  obtain ⟨r, hnormalized, -, rfl⟩ := enqueueJob_ok.1 h
  refine ⟨⟨?_, fun r hr => by cases hr⟩, rfl⟩
  show IsJson (.obj r.payload)
  rw [payload_normalized hnormalized]
  exact hpayload

theorem json_revocation (request : ReferenceRevocationJobQueueRequest) :
    IsJson (.obj (revocationRequest request).payload) := by
  refine .obj (by simp [revocationRequest]) ?_
  simp [revocationRequest, IsJson.str]

theorem json_provisioning (plan : Option ProvisioningPlan) (job : ProvisioningJob)
    (options : ReferenceProvisioningJobQueueOptions) :
    IsJson (.obj (provisioningRequest plan job options).payload) := by
  refine .obj (by simp [provisioningRequest]) ?_
  simp [provisioningRequest, IsJson.str, IsJson.bool]

/-- The plan that comes with a job is one that was read, or one that was given. -/
theorem json_plan {job : ProvisioningJob} {options : ReferenceProvisioningJobQueueOptions}
    {plan : ProvisioningPlan} (hcontent : JsonContent content)
    (hgiven : ∀ plan, options.plan = some plan → IsJson (.obj plan.copy.toJs))
    (h : planOf content.jobs job options = some plan) :
    IsJson (JobRecord.toJs (.provisioningPlan plan.copy)) := by
  unfold planOf at h
  cases hplan : options.plan with
  | some given =>
    rw [hplan, Option.some_or] at h
    exact hgiven plan (hplan.trans h)
  | none =>
    rw [hplan, Option.none_or] at h
    obtain ⟨hjson, hcopy⟩ := hcontent.records _ (mem_allRecords_plan h)
    have hcopy : JobRecord.provisioningPlan plan.copy = .provisioningPlan plan := hcopy
    rw [hcopy]
    exact hjson

theorem json_checked {call : EnqueueCall} {checked : CheckedRequest}
    (hcall : JsonCall (.call (.enqueue call))) (hcontent : JsonContent content)
    (h : adapter.checked now content call = .ok checked) :
    (Commit.enqueue checked (lookedRecords content call) (askedRecords call)).Json ∧
      (Commit.enqueue checked (lookedRecords content call) (askedRecords call)).Splits := by
  cases call with
  | enqueueJob request => exact json_enqueueJob hcall h
  | enqueueProvisioningJob job options =>
    obtain ⟨r, hnormalized, -, -, rfl⟩ := enqueueProvisioningJob_ok.1 h
    refine ⟨⟨?_, fun r hr => ?_⟩, ?_⟩
    · show IsJson (.obj r.payload)
      rw [payload_normalized hnormalized]
      exact isJson_cloneFields (json_provisioning _ job options)
    · rcases List.mem_append.1 hr with hr | hr
      · obtain ⟨plan, hplan, rfl⟩ := Option.map_eq_some_iff.1 (Option.mem_toList.1 hr)
        exact ⟨json_plan hcontent hcall.2 hplan,
          JobRecord.filing.copy_copy (.provisioningPlan plan)⟩
      · rw [List.mem_singleton.1 hr]
        exact ⟨hcall.1, JobRecord.filing.copy_copy (.provisioningJob job)⟩
    · simp only [Commit.Splits, lookedRecords, askedRecords, planOf]
      cases options.plan <;> rfl
  | enqueueRevocationJob request =>
    exact json_enqueueJob (isJson_cloneFields (json_revocation request)) h
  | replayDeadLetteredJob jobId request =>
    obtain ⟨request', hrequest, h⟩ := except_bind_ok.1 h
    refine json_enqueueJob (isJson_cloneFields ?_) h
    obtain ⟨job, hjob, hrequest⟩ := except_bind_ok.1 hrequest
    split at hrequest
    · cases hrequest
    · cases hrequest
      exact isJson_set (hcontent.payloads job (mem_of_findBy (requiredQueuedJob_ok.1 hjob))) _ _

theorem json_empty : JsonContent (contentOf none) :=
  ⟨fun _ h => (List.not_mem_nil h).elim, fun _ h => (List.not_mem_nil h).elim,
    fun _ h => (List.not_mem_nil h).elim⟩

theorem readRecord_ok {current : Option StoredRecord}
    (h : readRecord adapter current = .ok content) : content = held current := by
  cases current with
  | none => exact (Except.ok.inj h).symm
  | some r =>
    simp only [readRecord] at h
    split at h
    · exact (Except.ok.inj h).symm
    · cases h

theorem lookUp_json {call : EnqueueCall} {current : Option StoredRecord}
    (hcurrent : JsonContent (held current)) (h : lookUp adapter call current = .ok content) :
    JsonContent content := by
  cases call with
  | enqueueJob request => exact Except.ok.inj h ▸ json_empty
  | enqueueProvisioningJob job options => exact readRecord_ok h ▸ hcurrent
  | enqueueRevocationJob request => exact Except.ok.inj h ▸ json_empty
  | replayDeadLetteredJob jobId request => exact readRecord_ok h ▸ hcurrent

theorem content_createRecord {storedAt : IsoDateTime} {record : ReferenceJobQueueStoreRecord}
    (h : adapter.createRecord storedAt content = .ok record) : record.toQueueContent = content := by
  rw [(createRecord_ok.1 h).2]

end

section
variable {H : Host} {log : List (Nat × StoreEvent)} {i : Nat} {agent : Agent} {call : StoreCall}
  {store : SharedStore}

theorem slotInv_settle {e : Except String Progress} (hcall : JsonCall call)
    (h : ∀ progress, e = .ok progress → SlotInv H log i { agent, call, progress }) :
    SlotInv H log i { agent, call, progress := settle e } := by
  cases e with
  | error message => exact ⟨hcall, trivial⟩
  | ok progress => exact h progress rfl

/-- **The start** of a call of JSON. -/
theorem slotInv_start (hcall : JsonCall call) (hcurrent : JsonContent (held store.current))
    (hbackups : ∀ id backup, store.backups.get? id = some backup →
      JsonContent backup.toQueueContent) (now : IsoDateTime) :
    SlotInv H log i
      { agent, call, progress := settle (startCall (agent.adapter H) now store call) } := by
  refine slotInv_settle hcall fun progress h => ⟨hcall, ?_⟩
  cases call with
  | call call =>
    cases call with
    | enqueue call =>
      obtain ⟨content, hlookUp, h⟩ := except_bind_ok.1 h
      obtain ⟨checked, hchecked, h⟩ := except_bind_ok.1 h
      cases h
      exact json_checked hcall (lookUp_json hcurrent hlookUp) hchecked
    | setConnectorHealth health =>
      obtain ⟨-, -, h⟩ := except_bind_ok.1 h
      cases h
      exact ⟨trivial, trivial⟩
    | record r =>
      obtain ⟨-, -, h⟩ := except_bind_ok.1 h
      cases h
      exact ⟨hcall, trivial⟩
    | _ =>
      cases h
      exact ⟨trivial, trivial⟩
  | flush storedAt =>
    obtain ⟨read, hread, h⟩ := except_bind_ok.1 h
    obtain ⟨record, hrecord, h⟩ := except_bind_ok.1 h
    cases h
    exact ⟨readRecord_ok hread ▸ hcurrent, content_createRecord hrecord⟩
  | createBackup id createdAt =>
    obtain ⟨read, hread, h⟩ := except_bind_ok.1 h
    obtain ⟨record, hrecord, h⟩ := except_bind_ok.1 h
    cases h
    exact ⟨readRecord_ok hread ▸ hcurrent, nodup_counts _, content_createRecord hrecord⟩
  | restoreBackup id restoredAt =>
    obtain ⟨backup, hbackup, h⟩ := except_bind_ok.1 h
    obtain ⟨record, hrecord, h⟩ := except_bind_ok.1 h
    cases h
    show JsonContent record.toQueueContent
    rw [content_createRecord hrecord]
    unfold readBackup at hbackup
    split at hbackup
    · cases hbackup
    · next r hr => exact readRecord_ok hbackup ▸ hbackups id r hr

/-- **An attempt** of a commit. -/
theorem slotInv_attempt {commit : Commit} (hcall : JsonCall call) (hjson : commit.Json)
    (hsplits : commit.Splits) (hcurrent : JsonContent (held store.current)) (attempt : Nat) :
    SlotInv H log i
      { agent, call
        progress := settle (attemptCommit (agent.adapter H) commit attempt store) } := by
  refine slotInv_settle hcall fun progress h => ⟨hcall, ?_⟩
  obtain ⟨content, hread, h⟩ := except_bind_ok.1 h
  obtain ⟨⟨next, u⟩, hmutate, h⟩ := except_bind_ok.1 h
  obtain ⟨record, hrecord, h⟩ := except_bind_ok.1 h
  cases h
  refine ⟨hjson, hsplits, hcurrent, ?_⟩
  rw [content_createRecord hrecord, ← readRecord_ok hread]
  exact hmutate

end

/-! ## What the steps of all calls keep -/

/-- A step writes over nothing that it has not read: flush and createBackup find the record
still the same, and a commit the plan that was looked up for it. -/
def WritesOverRead (H : Host) (w : World) (slot : Slot) : Prop :=
  match slot.progress with
  | .exchanging commit _ expected _ =>
    w.store.current.map (stableHash H) = expected.map (stableHash H) →
      commit.Current (slot.agent.adapter H) (held expected)
  | .flushing read _ => Agree read (held w.store.current)
  | .backingUp _ _ read _ => Agree read (held w.store.current)
  | _ => True

section
variable {H : Host} {start : QueueContent} {w : World} {before after : List Slot} {slot : Slot}

/-- What is known of a call stays known when more happens. -/
theorem SlotInv.mono {log : List (Nat × StoreEvent)} {i : Nat} (h : SlotInv H log i slot)
    (events : List (Nat × StoreEvent)) : SlotInv H (events ++ log) i slot := by
  obtain ⟨hcall, h⟩ := h
  refine ⟨hcall, ?_⟩
  split at h
  · exact h
  · exact h
  · exact h
  · exact h
  · exact h
  · exact ⟨h.1, List.mem_append_right events h.2⟩
  · exact h
  · exact h.imp_right (List.mem_append_right events)
  · exact h

/-- The place of a call, and the places of the others. -/
theorem getElem?_replaced (slot : Slot) {i : Nat} {slot' other : Slot}
    (h : (before ++ slot' :: after)[i]? = some other) :
    (i = before.length ∧ other = slot') ∨ (before ++ slot :: after)[i]? = some other := by
  rcases Nat.lt_trichotomy i before.length with hlt | rfl | hgt
  · rw [List.getElem?_append_left hlt] at h ⊢
    exact .inr h
  · rw [List.getElem?_append_right (Nat.le_refl _), Nat.sub_self] at h
    exact .inl ⟨rfl, (Option.some.inj h).symm⟩
  · rw [List.getElem?_append_right (Nat.le_of_lt hgt)] at h ⊢
    obtain ⟨n, hn⟩ := Nat.exists_eq_succ_of_ne_zero (Nat.sub_ne_zero_of_lt hgt)
    rw [hn] at h ⊢
    exact .inr h

theorem Inv.slot_inv (h : Inv H start w) (hslots : w.slots = before ++ slot :: after) :
    SlotInv H w.log before.length slot := by
  refine h.slots before.length slot ?_
  rw [hslots, List.getElem?_append_right (Nat.le_refl _), Nat.sub_self]
  rfl

theorem Inv.replaced (h : Inv H start w) (hslots : w.slots = before ++ slot :: after)
    (store : SharedStore) {progress : Progress} (events : List (Nat × StoreEvent))
    (hlaw : ∀ k, SameEntry (find (held store.current) k) (ledger start (events ++ w.log) k))
    (hcurrent : JsonContent (held store.current))
    (hbackups : ∀ id backup, store.backups.get? id = some backup →
      JsonContent backup.toQueueContent)
    (hslot : SlotInv H (events ++ w.log) before.length { slot with progress }) :
    Inv H start
      { store
        log := events ++ w.log
        slots := before ++ { slot with progress } :: after } where
  law := hlaw
  current := hcurrent
  backups := hbackups
  slots i other hother := by
    rcases getElem?_replaced slot hother with ⟨rfl, rfl⟩ | hother
    · exact hslot
    · exact (h.slots i other (hslots ▸ hother)).mono events

theorem Inv.moved (h : Inv H start w) (hslots : w.slots = before ++ slot :: after)
    {progress : Progress} (hslot : SlotInv H w.log before.length { slot with progress }) :
    Inv H start
      { w with slots := before ++ { slot with progress } :: after } :=
  h.replaced hslots w.store [] h.law h.current h.backups hslot

theorem Inv.wrote (h : Inv H start w) (hslots : w.slots = before ++ slot :: after)
    {record : StoredRecord} {progress : Progress} {event : StoreEvent}
    (hlaw : ∀ k, SameEntry (find record.toQueueContent k)
      (ledger start ((before.length, event) :: w.log) k))
    (hrecord : JsonContent record.toQueueContent)
    (hslot : SlotInv H ((before.length, event) :: w.log) before.length { slot with progress }) :
    Inv H start
      { store := { w.store with current := some record }
        log := (before.length, event) :: w.log
        slots := before ++ { slot with progress } :: after } :=
  h.replaced hslots { w.store with current := some record } [(before.length, event)] hlaw hrecord
    h.backups hslot

theorem writes_backup (content : QueueContent) (metadata : ReferenceRepositoryBackupMetadata)
    (k : StoreKey) :
    find { content with backupMetadata := content.backupMetadata ++ [metadata] } k =
      (Effect.single (.backup metadata) k).or (find content k) := by
  cases k with
  | backup id =>
    show (findBy (·.id) (content.backupMetadata ++ [metadata]).reverse id).map
      StoreEntry.backup = _
    rw [List.reverse_append, List.reverse_singleton, List.singleton_append, findBy_cons]
    by_cases hid : metadata.id = id
    · simp [Effect.single, StoreEntry.key, hid]
    · simp [Effect.single, StoreEntry.key, hid, find]
  | _ => simp [Effect.single, StoreEntry.key, find]

/-- What is written over what was read is written over what is stored. -/
theorem Inv.law_over (h : Inv H start w) {e : Effect} {content read : QueueContent} {i : Nat}
    (hwrites : ∀ k, SameEntry (find content k) ((e k).or (find read k)))
    (hread : Agree read (held w.store.current)) (k : StoreKey) :
    SameEntry (find content k) (ledger start ((i, .written e) :: w.log) k) :=
  (hwrites k).trans (((hread k).trans (h.law k)).or (e k))

/-- Records that exchange are the same. -/
theorem agree_of_exchange (hprint : PrintsNumbers H) (hsha : Function.Injective H.sha256Hex)
    {current expected : Option StoredRecord} (h : JsonContent (held current))
    (h' : JsonContent (held expected))
    (hhash : current.map (stableHash H) = expected.map (stableHash H)) :
    Agree (held expected) (held current) := by
  cases current with
  | none =>
    cases expected with
    | none => exact fun k => .refl _
    | some r' => cases hhash
  | some r =>
    cases expected with
    | none => cases hhash
    | some r' => exact agree_of_hash hprint hsha h' h (Option.some.inj hhash).symm

/-- **A step** keeps what is known, if it writes over nothing that it has not read. -/
theorem Inv.advance (hprint : PrintsNumbers H) (hsha : Function.Injective H.sha256Hex)
    (h : Inv H start w) (hslots : w.slots = before ++ slot :: after)
    (hmeets : WritesOverRead H w slot) (now : IsoDateTime) :
    Inv H start (w.advance H now before slot after) := by
  obtain ⟨hcall, hslot⟩ := h.slot_inv hslots
  unfold World.advance L6.advance
  unfold WritesOverRead at hmeets
  cases hprogress : slot.progress with
  | idle =>
    dsimp only
    exact h.moved hslots (slotInv_start hcall h.current h.backups now)
  | attempting commit attempt =>
    simp only [hprogress] at hslot ⊢
    exact h.moved hslots (slotInv_attempt hcall hslot.1 hslot.2 h.current attempt)
  | exchanging commit attempt expected record =>
    simp only [hprogress] at hslot hmeets ⊢
    obtain ⟨hjson, hsplits, hexpected, hmutate⟩ := hslot
    split
    · next hhash =>
      have hagree := agree_of_exchange hprint hsha h.current hexpected hhash
      refine h.wrote hslots (h.law_over (commit.writes hsplits (hmeets hhash) hmutate) hagree)
        (commit.json hjson hexpected hmutate) ⟨hcall, .inr List.mem_cons_self⟩
    · split
      · exact h.moved hslots ⟨hcall, hjson, hsplits⟩
      · exact h.moved hslots ⟨hcall, trivial⟩
  | flushing read record =>
    simp only [hprogress] at hslot hmeets ⊢
    obtain ⟨hread, rfl⟩ := hslot
    exact h.wrote hslots (h.law_over (fun k => .refl _) hmeets) hread
      ⟨hcall, .inl fun k => rfl⟩
  | backingUp id metadata read record =>
    simp only [hprogress] at hslot hmeets ⊢
    obtain ⟨hread, hcounts, hrecord⟩ := hslot
    have hstored : JsonContent record.toQueueContent := by
      rw [hrecord]
      refine ⟨hread.payloads, hread.records, fun m hm => ?_⟩
      rcases List.mem_append.1 hm with hm | hm
      · exact hread.counts m hm
      · exact List.mem_singleton.1 hm ▸ hcounts
    refine h.wrote hslots (h.law_over (fun k => ?_) hmeets) hstored
      ⟨hcall, hstored, List.mem_cons_self⟩
    show SameEntry (find record.toQueueContent k) _
    rw [hrecord, writes_backup]
    exact .refl _
  | filing id metadata record =>
    simp only [hprogress] at hslot ⊢
    refine h.replaced hslots { w.store with backups := _ } [] h.law h.current ?_
      ⟨hcall, .inr hslot.2⟩
    intro id' backup hbackup
    rw [OrderedMap.get?_set] at hbackup
    split at hbackup
    · cases hbackup
      exact hslot.1
    · exact h.backups id' backup hbackup
  | restoring record =>
    simp only [hprogress] at hslot ⊢
    exact h.wrote hslots (fun k => .refl _) hslot ⟨hcall, .inl fun k => rfl⟩
  | returned result =>
    dsimp only
    exact h.moved hslots ⟨hcall, hprogress ▸ hslot⟩

theorem Inv.opened {store : SharedStore} (hcurrent : JsonContent (held store.current))
    (hbackups : ∀ id backup, store.backups.get? id = some backup →
      JsonContent backup.toQueueContent)
    {calls : List (Agent × StoreCall)} (hcalls : ∀ call ∈ calls, JsonCall call.2) :
    Inv H (held store.current)
      { store
        log := []
        slots := calls.map fun call =>
          { agent := call.1, call := call.2, progress := .idle } } where
  law k := .refl _
  current := hcurrent
  backups := hbackups
  slots i slot hslot := by
    rw [List.getElem?_map] at hslot
    obtain ⟨call, hcall, rfl⟩ := Option.map_eq_some_iff.1 hslot
    exact ⟨hcalls call (List.mem_of_getElem? hcall), trivial⟩

/-- **What is known in a run** whose steps write over nothing that they have not read. -/
theorem Inv.reached (hprint : PrintsNumbers H) (hsha : Function.Injective H.sha256Hex)
    {store : SharedStore} (hcurrent : JsonContent (held store.current))
    (hbackups : ∀ id backup, store.backups.get? id = some backup →
      JsonContent backup.toQueueContent)
    {calls : List (Agent × StoreCall)} (hcalls : ∀ call ∈ calls, JsonCall call.2)
    (h : ReachedBy H (WritesOverRead H) store calls w) : Inv H (held store.current) w := by
  induction h with
  | opened => exact .opened hcurrent hbackups hcalls
  | advanced _ now hslots hmeets ih => exact ih.advance hprint hsha hslots hmeets now

end

/-! ## A call alone on its store -/

section
variable {adapter : ReferenceJobQueueAdapter} {store : SharedStore}

/-- The record that the store of one adapter has. -/
def unsigned (current : Option StoredRecord) : Option ReferenceJobQueueStoreRecord :=
  current.map StoredRecord.toReferenceJobQueueStoreRecord

theorem contentOf_unsigned (current : Option StoredRecord) :
    contentOf (unsigned current) = held current := by
  cases current <;> rfl

theorem readRecord_own {current : Option StoredRecord}
    (h : ∀ r, current = some r → r.tenantBoundary = adapter.tenantBoundary) :
    readRecord adapter current = .ok (held current) := by
  cases current with
  | none => rfl
  | some r =>
    simp only [readRecord, h r rfl, if_true]
    rfl

theorem advance_idle {now : IsoDateTime} {call : StoreCall} {progress : Progress}
    (h : startCall adapter now store call = .ok progress) :
    advance adapter now call store .idle = (store, progress, none) := by
  rw [advance, h, settle]

theorem advance_attempting {now : IsoDateTime} {call : StoreCall} {commit : Commit} {attempt : Nat}
    {progress : Progress} (h : attemptCommit adapter commit attempt store = .ok progress) :
    advance adapter now call store (.attempting commit attempt) = (store, progress, none) := by
  rw [advance, h, settle]

theorem advance_exchanging {now : IsoDateTime} {call : StoreCall} (commit : Commit)
    (attempt : Nat) {expected : Option StoredRecord} (record : ReferenceJobQueueStoreRecord)
    (h : store.current.map (stableHash adapter.host) = expected.map (stableHash adapter.host)) :
    advance adapter now call store (.exchanging commit attempt expected record) =
      ({ store with current := some (signed adapter record) },
        .returned (.ok (commit.effect adapter (held expected))),
        some (.written (commit.effect adapter (held expected)))) := by
  rw [advance, if_pos h]

theorem startCall_flush {now : IsoDateTime} {read : QueueContent}
    {record : ReferenceJobQueueStoreRecord} (hread : readRecord adapter store.current = .ok read)
    (hrecord : adapter.createRecord now read = .ok record) :
    startCall adapter now store (.flush none) = .ok (.flushing read record) := by
  simp only [startCall, hread, Option.getD_none, bind, Except.bind, hrecord]
  rfl

/-- An attempt reads, computes and checks as a commit in sequence does. -/
theorem attemptCommit_alone (commit : Commit) (attempt : Nat)
    (h : ∀ r, store.current = some r → r.tenantBoundary = adapter.tenantBoundary) :
    attemptCommit adapter commit attempt store =
      (adapter.attempt commit.storedAt (commit.mutate adapter) (unsigned store.current)).map
        fun p => .exchanging commit attempt store.current p.1 := by
  unfold attemptCommit ReferenceJobQueueAdapter.attempt
  rw [readRecord_own h, contentOf_unsigned]
  show (commit.mutate adapter (held store.current) >>= _) = _
  cases commit.mutate adapter (held store.current) with
  | error message => rfl
  | ok p =>
    show (adapter.createRecord commit.storedAt p.1 >>= _) =
      Except.map _ (adapter.createRecord commit.storedAt p.1 >>= _)
    cases adapter.createRecord commit.storedAt p.1 <;> rfl

/-- **A commit alone on its store**: what two steps of it do is what it does in sequence. -/
theorem exchange_alone (commit : Commit) (attempt : Nat) (call : StoreCall)
    (now now' : IsoDateTime)
    (h : ∀ r, store.current = some r → r.tenantBoundary = adapter.tenantBoundary) :
    let read := advance adapter now call store (.attempting commit attempt)
    let exchanged := advance adapter now' call read.1 read.2.1
    (unsigned exchanged.1.current, exchanged.2.1) =
      match adapter.commitSnapshot commit.storedAt (commit.mutate adapter)
        (unsigned store.current) with
      | (current, .ok ()) => (current, .returned (.ok (commit.effect adapter (held store.current))))
      | (current, .error message) => (current, .returned (.error message)) := by
  unfold advance commitSnapshot
  simp only [attemptCommit_alone commit attempt h]
  cases adapter.attempt commit.storedAt (commit.mutate adapter) (unsigned store.current) with
  | error message => rfl
  | ok p =>
    simp only [Except.map, settle, if_true]
    rfl

end

end AccessKit.L6
