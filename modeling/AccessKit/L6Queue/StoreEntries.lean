import AccessKit.L6Queue.QueueInvariant
import AccessKit.L6Queue.QueueStore

/-!
# What a stored record holds under a key

A store compares records by the hash of their JSON (packages/core/src/reference-repositories.ts
:144-154). Two records with one hash hold the same JSON under every key: the same jobs,
idempotency records, connector health, runtime records and backups.

Results:
* `agree_of_hash`: records with one hash agree under every key.
* `isJson_stored`: what is stored is JSON, when what comes with its jobs and records is.
-/
namespace AccessKit.L6
open AccessKit.Core AccessKit.L1 AccessKit.L2.Audit AccessKit.L3
open AccessKit.L5 (RebacJobSnapshot JobRecord JobKey RuntimeRecord RecordCollection
  ProvisioningPlan ProvisioningApproval EnforcementControl)

/-! ## Keys and entries -/

inductive StoreKey
  | queuedJob (id : CanonicalId)
  | idempotencyRecord (idempotencyKey : String)
  | connectorHealth (connectorId : CanonicalId)
  | jobRecord (k : JobKey)
  | backup (id : CanonicalId)
  deriving DecidableEq, Repr

inductive StoreEntry
  | queuedJob (job : ReferenceQueuedJob)
  | idempotencyRecord (r : ReferenceJobQueueIdempotencyRecord)
  | connectorHealth (health : ReferenceConnectorHealth)
  | jobRecord (r : JobRecord)
  | backup (metadata : ReferenceRepositoryBackupMetadata)

namespace StoreEntry

def key : StoreEntry → StoreKey
  | queuedJob job => .queuedJob job.id
  | idempotencyRecord r => .idempotencyRecord r.idempotencyKey
  | connectorHealth health => .connectorHealth health.connectorId
  | jobRecord r => .jobRecord r.key
  | backup metadata => .backup metadata.id

def toJs : StoreEntry → JsValue
  | queuedJob job => job.toJs
  | idempotencyRecord r => r.toJs
  | connectorHealth health => health.toJs
  | jobRecord r => JobRecord.toJs r
  | backup metadata => metadata.toJs

end StoreEntry

/-- What is there under a key. Of backups with one id it is the last one. -/
def find (content : QueueContent) : StoreKey → Option StoreEntry
  | .queuedJob id => (findBy (·.id) content.queue.queuedJobs id).map .queuedJob
  | .idempotencyRecord idempotencyKey =>
    (findBy (·.idempotencyKey) content.queue.idempotencyRecords idempotencyKey).map
      .idempotencyRecord
  | .connectorHealth connectorId =>
    (findBy (·.connectorId) content.queue.connectorHealth connectorId).map .connectorHealth
  | .jobRecord k => (findRecord content.jobs k).map .jobRecord
  | .backup id => (findBy (·.id) content.backupMetadata.reverse id).map .backup

/-- The same JSON, or nothing on both sides. -/
def SameEntry (e e' : Option StoreEntry) : Prop :=
  Option.Rel (fun e e' => SameJson e.toJs e'.toJs) e e'

theorem SameEntry.refl (e : Option StoreEntry) : SameEntry e e := by
  cases e with
  | none => exact .none
  | some e => exact .some (SameJson.refl _)

theorem SameEntry.trans {e e' e'' : Option StoreEntry} (h : SameEntry e e')
    (h' : SameEntry e' e'') : SameEntry e e'' := by
  cases h with
  | none => exact h'
  | some h =>
    cases h' with
    | some h' => exact .some (h.trans h')

theorem SameEntry.or (w : Option StoreEntry) {e e' : Option StoreEntry} (h : SameEntry e e') :
    SameEntry (w.or e) (w.or e') := by
  cases w with
  | none => exact h
  | some w => exact .refl _

/-- The same under every key. -/
def Agree (content content' : QueueContent) : Prop :=
  ∀ k, SameEntry (find content k) (find content' k)

/-! ## Records as JavaScript values -/

/-- A record as a store has it, with the tenant of the adapter that wrote it. -/
structure StoredRecord extends ReferenceJobQueueStoreRecord where
  tenantBoundary : String

def countsToJs (counts : List (String × Nat)) : JsValue :=
  .obj (counts.map fun p => (p.1, natural p.2))

/-- mirrors packages/core/src/reference-job-queue.ts:950-961 -/
def StoredRecord.toJs (H : Host) (r : StoredRecord) : JsValue :=
  .obj [("version", .str "production-job-queue-store:v1"), ("storedAt", .str r.storedAt),
    ("tenantBoundary", .str r.tenantBoundary),
    ("jobsHash", .str (hashReference H (jobsToJs r.jobs))),
    ("queueHash", .str (hashReference H r.queue.toJs)), ("jobs", jobsToJs r.jobs),
    ("queue", r.queue.toJs), ("entityCounts", countsToJs (countQueueEntities r.toQueueContent)),
    ("backupMetadata", .arr (r.backupMetadata.map ReferenceRepositoryBackupMetadata.toJs))]

/-- mirrors packages/core/src/repository-envelopes.ts:9-11 -/
def stableHash (H : Host) (r : StoredRecord) : String := sha256 H (r.toJs H)

/-! ## The same JSON under every key -/

theorem find_same {α κ : Type} [DecidableEq κ] {key : α → κ} {toJs : α → JsValue} {l l' : List α}
    (hkey : ∀ a ∈ l, ∀ b ∈ l', SameJson (toJs a) (toJs b) → key a = key b)
    (h : SameJson (.arr (l.map toJs)) (.arr (l'.map toJs))) (k : κ) :
    Option.Rel (fun a b => SameJson (toJs a) (toJs b)) (findBy key l k) (findBy key l' k) := by
  cases h with
  | arr h =>
    rw [List.forall₂_map_left_iff, List.forall₂_map_right_iff] at h
    induction h with
    | nil => exact .none
    | cons hab _ ih =>
      obtain ⟨hhead, htail⟩ := List.forall_mem_cons.1 hkey
      have he := hhead _ List.mem_cons_self hab
      rw [findBy_cons, findBy_cons, he]
      split
      · exact .some hab
      · exact ih fun a ha b hb => htail a ha b (List.mem_cons_of_mem _ hb)

theorem same_map {α : Type} {toJs : α → JsValue} {f : α → StoreEntry}
    (hf : ∀ a, (f a).toJs = toJs a) {o o' : Option α}
    (h : Option.Rel (fun a b => SameJson (toJs a) (toJs b)) o o') :
    SameEntry (o.map f) (o'.map f) := by
  cases h with
  | none => exact .none
  | some h => exact .some (by rw [hf, hf]; exact h)

theorem same_get {fields fields' : JsonRecord} (h : SameJson (.obj fields) (.obj fields'))
    (k : String) : SameJson (JsonRecord.get fields k) (JsonRecord.get fields' k) := by
  cases h with
  | obj h => exact h k

theorem same_text {fields fields' : JsonRecord} (h : SameJson (.obj fields) (.obj fields'))
    (k : String) {s s' : String} (hs : JsonRecord.get fields k = .str s)
    (hs' : JsonRecord.get fields' k = .str s') : s = s' := by
  have hsame := same_get h k
  rw [hs, hs'] at hsame
  exact sameJson_str hsame

theorem find_collected (jobs : RebacJobSnapshot) (c : RecordCollection) (id : CanonicalId) :
    findBy RuntimeRecord.key jobs.records (c, id) = findBy (·.id) (collected jobs c) id := by
  unfold findBy collected
  rw [List.find?_filter]
  congr 1
  funext r
  simp [RuntimeRecord.key, Prod.ext_iff]

theorem mem_collected {jobs : RebacJobSnapshot} {c : RecordCollection} {r : RuntimeRecord} :
    r ∈ collected jobs c ↔ r ∈ jobs.records ∧ r.collection = c := by
  simp [collected]

theorem same_runtimeRecords {jobs jobs' : RebacJobSnapshot} {c : RecordCollection}
    (h : SameJson (.arr ((collected jobs c).map RuntimeRecord.toJs))
      (.arr ((collected jobs' c).map RuntimeRecord.toJs))) (id : CanonicalId) :
    Option.Rel (fun r r' => SameJson (RuntimeRecord.toJs r) (RuntimeRecord.toJs r'))
      (findBy (·.id) (collected jobs c) id) (findBy (·.id) (collected jobs' c) id) := by
  refine find_same (fun r hr r' hr' hsame => ?_) h id
  have hc := (mem_collected.1 hr).2
  have hc' := (mem_collected.1 hr').2
  have hget : ∀ r : RuntimeRecord, r.collection = c →
      JsonRecord.get ((idName r.collection, .str r.id) :: r.fields) (idName c) = .str r.id := by
    intro r hr
    rw [hr]
    simp [JsonRecord.get]
  exact same_text hsame (idName c) (hget r hc) (hget r' hc')

theorem same_findRecord {jobs jobs' : RebacJobSnapshot}
    (h : SameJson (jobsToJs jobs) (jobsToJs jobs')) (k : JobKey) :
    SameEntry ((findRecord jobs k).map .jobRecord) ((findRecord jobs' k).map .jobRecord) := by
  have hget : ∀ name, SameJson (JsonRecord.get _ name) (JsonRecord.get _ name) := same_get h
  cases k with
  | provisioningPlan id =>
    unfold findRecord
    rw [Option.map_map, Option.map_map]
    refine same_map (fun _ => rfl) (find_same (fun a _ b _ hab => ?_) (hget "provisioningPlans") id)
    exact same_text hab "id" rfl rfl
  | provisioningJob id =>
    unfold findRecord
    rw [Option.map_map, Option.map_map]
    refine same_map (fun _ => rfl) (find_same (fun a _ b _ hab => ?_) (hget "provisioningJobs") id)
    exact same_text hab "id" rfl rfl
  | enforcementReadinessReport id =>
    unfold findRecord
    rw [Option.map_map, Option.map_map]
    refine same_map (fun _ => rfl)
      (find_same (fun a _ b _ hab => ?_) (hget "enforcementReadinessReports") id)
    exact same_text hab "id" rfl rfl
  | record c id =>
    unfold findRecord
    rw [Option.map_map, Option.map_map, find_collected, find_collected]
    refine same_map (fun _ => rfl) (same_runtimeRecords ?_ id)
    cases c with
    | discoveryRuns => exact hget "discoveryRuns"
    | driftFindings => exact hget "driftFindings"
    | accessReviewCampaigns => exact hget "accessReviewCampaigns"
    | governanceFindings => exact hget "governanceFindings"
    | exceptionRequests => exact hget "exceptionRequests"
    | reconciliationRuns => exact hget "reconciliationRuns"
    | decisions => exact hget "decisions"

/-- **Records of the same JSON** agree under every key. -/
theorem agree_of_same {H : Host} {r r' : StoredRecord} (h : SameJson (r.toJs H) (r'.toJs H)) :
    Agree r.toQueueContent r'.toQueueContent := by
  have hget : ∀ name, SameJson (JsonRecord.get _ name) (JsonRecord.get _ name) := same_get h
  have hqueue : ∀ name, SameJson (JsonRecord.get _ name) (JsonRecord.get _ name) :=
    same_get (hget "queue")
  intro k
  cases k with
  | queuedJob id =>
    refine same_map (fun _ => rfl) (find_same (fun a _ b _ hab => ?_) (hqueue "queuedJobs") id)
    exact same_text hab "id" rfl rfl
  | idempotencyRecord idempotencyKey =>
    refine same_map (fun _ => rfl)
      (find_same (fun a _ b _ hab => ?_) (hqueue "idempotencyRecords") idempotencyKey)
    exact same_text hab "idempotencyKey" rfl rfl
  | connectorHealth connectorId =>
    refine same_map (fun _ => rfl)
      (find_same (fun a _ b _ hab => ?_) (hqueue "connectorHealth") connectorId)
    exact same_text hab "connectorId" rfl rfl
  | jobRecord k => exact same_findRecord (hget "jobs") k
  | backup id =>
    refine same_map (fun _ => rfl) (find_same (fun a _ b _ hab => ?_) ?_ id)
    · exact same_text hab "id" rfl rfl
    · have hlist : SameJson (.arr (r.backupMetadata.map ReferenceRepositoryBackupMetadata.toJs))
          (.arr (r'.backupMetadata.map ReferenceRepositoryBackupMetadata.toJs)) :=
        hget "backupMetadata"
      cases hlist with
      | arr hlist =>
        rw [List.map_reverse, List.map_reverse]
        exact .arr (List.rel_reverse hlist)

/-! ## What is stored is JSON -/

/-- All records of a snapshot. -/
def allRecords (jobs : RebacJobSnapshot) : List JobRecord :=
  jobs.provisioningPlans.map .provisioningPlan ++ jobs.provisioningJobs.map .provisioningJob ++
    jobs.enforcementReadinessReports.map .enforcementReadinessReport ++ jobs.records.map .record

/-- What comes with the jobs, the records and the backups of a store is JSON, and the records
are copies. -/
structure JsonContent (content : QueueContent) : Prop where
  payloads : ∀ job ∈ content.queue.queuedJobs, IsJson (.obj job.payload)
  records : ∀ r ∈ allRecords content.jobs, IsJson (JobRecord.toJs r) ∧ r.copy = r
  counts : ∀ m ∈ content.backupMetadata, (m.entityCounts.map Prod.fst).Nodup

theorem isJson_counts {counts : List (String × Nat)} (h : (counts.map Prod.fst).Nodup) :
    IsJson (countsToJs counts) := by
  refine .obj ?_ fun p hp _ => ?_
  · rw [List.map_map]
    exact h
  · obtain ⟨c, -, rfl⟩ := List.mem_map.1 hp
    exact .num _

theorem isJson_queuedJob {job : ReferenceQueuedJob} (h : IsJson (.obj job.payload)) :
    IsJson job.toJs := by
  refine .obj (by simp) ?_
  simp only [List.forall_mem_cons, IsJson.str, natural, IsJson.num, h, isJson_backoff,
    implies_true, true_and, List.not_mem_nil, false_implies, and_true]
  exact ⟨isJson_optional, isJson_optional, isJson_optional, isJson_optional, isJson_optional,
    isJson_optional, isJson_optional, isJson_optional, isJson_optionalJs isJson_approval,
    isJson_optionalJs isJson_control, isJson_optional⟩

theorem isJson_idempotencyRecord (r : ReferenceJobQueueIdempotencyRecord) : IsJson r.toJs := by
  refine .obj (by simp) ?_
  simp only [List.forall_mem_cons, IsJson.str, implies_true, true_and, List.not_mem_nil,
    false_implies]

theorem isJson_connectorHealth (health : ReferenceConnectorHealth) : IsJson health.toJs := by
  refine .obj (by simp) ?_
  simp only [List.forall_mem_cons, IsJson.str, implies_true, true_and, List.not_mem_nil,
    false_implies, and_true]
  exact ⟨isJson_optional, isJson_optional, isJson_optional⟩

theorem isJson_backupMetadata {m : ReferenceRepositoryBackupMetadata}
    (h : (m.entityCounts.map Prod.fst).Nodup) : IsJson m.toJs := by
  refine .obj (by simp) ?_
  simp only [List.forall_mem_cons, IsJson.str, implies_true, true_and, List.not_mem_nil,
    false_implies, and_true]
  exact fun _ => isJson_counts h

theorem isJson_list {α : Type} {toJs : α → JsValue} {l : List α} (h : ∀ a ∈ l, IsJson (toJs a)) :
    IsJson (.arr (l.map toJs)) := by
  refine .arr fun v hv => ?_
  obtain ⟨a, ha, rfl⟩ := List.mem_map.1 hv
  exact h a ha

theorem isJson_jobs {jobs : RebacJobSnapshot}
    (h : ∀ r ∈ allRecords jobs, IsJson (JobRecord.toJs r)) : IsJson (jobsToJs jobs) := by
  have hcollection : ∀ c, IsJson (.arr ((collected jobs c).map RuntimeRecord.toJs)) := by
    intro c
    refine isJson_list fun r hr => h (.record r) ?_
    simp [allRecords, (mem_collected.1 hr).1]
  refine .obj (by simp) ?_
  simp only [List.forall_mem_cons, hcollection, implies_true, true_and, List.not_mem_nil,
    false_implies, and_true]
  refine ⟨fun _ => isJson_list fun report hreport => h (.enforcementReadinessReport report) ?_,
    fun _ => isJson_list fun plan hplan => h (.provisioningPlan plan) ?_,
    fun _ => isJson_list fun job hjob => h (.provisioningJob job) ?_⟩
  · simp [allRecords, hreport]
  · simp [allRecords, hplan]
  · simp [allRecords, hjob]

theorem isJson_queue {queue : ReferenceJobQueueSnapshot}
    (h : ∀ job ∈ queue.queuedJobs, IsJson (.obj job.payload)) : IsJson queue.toJs := by
  refine .obj (by simp) ?_
  simp only [List.forall_mem_cons, List.not_mem_nil, false_implies, implies_true, and_true]
  exact ⟨fun _ => isJson_list fun job hjob => isJson_queuedJob (h job hjob),
    fun _ => isJson_list fun health _ => isJson_connectorHealth health,
    fun _ => isJson_list fun r _ => isJson_idempotencyRecord r⟩

theorem nodup_counts (content : QueueContent) :
    ((countQueueEntities content).map Prod.fst).Nodup := by
  simp [countQueueEntities, countJobEntities]

/-- **What is stored** is JSON. -/
theorem isJson_stored (H : Host) {r : StoredRecord} (h : JsonContent r.toQueueContent) :
    IsJson (r.toJs H) := by
  refine .obj (by simp) ?_
  simp only [List.forall_mem_cons, IsJson.str, isJson_jobs fun r hr => (h.records r hr).1,
    isJson_queue h.payloads, isJson_counts (nodup_counts r.toQueueContent), implies_true, true_and,
    List.not_mem_nil, false_implies, and_true]
  exact fun _ => isJson_list fun m hm => isJson_backupMetadata (h.counts m hm)

/-- **Records with one hash** agree under every key. -/
theorem agree_of_hash {H : Host} (hprint : PrintsNumbers H)
    (hsha : Function.Injective H.sha256Hex) {r r' : StoredRecord}
    (h : JsonContent r.toQueueContent) (h' : JsonContent r'.toQueueContent)
    (hhash : stableHash H r = stableHash H r') : Agree r.toQueueContent r'.toQueueContent := by
  refine agree_of_same (H := H) (sameJson_of_text hprint (isJson_stored H h) (isJson_stored H h')
    (hashReference_inj hsha nofun nofun ?_))
  exact congrArg (fun hash => "sha256:" ++ hash) hhash

end AccessKit.L6
