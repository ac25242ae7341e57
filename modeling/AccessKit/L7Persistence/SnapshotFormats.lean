import AccessKit.Core.Snapshots
import AccessKit.L2Graph.Repositories
import AccessKit.L6Queue.QueueStore

/-!
# The snapshots that repositories persist

The four lists of a graph and the ten collections of the runtime's records, each with how it
is written as JSON and counted: packages/core/src/repository-envelopes.ts:59-105.

Results:
* `graphSnapshots`, `jobSnapshots`: both are snapshots of records under keys.
-/
namespace AccessKit.L7
open AccessKit.Core AccessKit.L1 AccessKit.L2.Audit AccessKit.L3
open AccessKit.L2.Store (GraphRecord GraphKey)
open AccessKit.L2.Store.InMemoryRebacStore (RebacSeedData)
open AccessKit.L5 (RebacJobSnapshot JobRecord JobKey RuntimeRecord ProvisioningPlan ProvisioningJob
  EnforcementReadinessReport)
open AccessKit.L6 (jobsToJs findRecord upsertRecord find_upsertRecord countJobEntities
  emptyReferenceJobSnapshot)

/-- How snapshots are stored: as JSON, with the number of their records, in an envelope. -/
structure SnapshotFormat (S R K : Type) [DecidableEq K] extends Snapshots S R K where
  empty : S
  toJs : S → JsValue
  countEntities : S → List (String × Nat)
  /-- The version of the envelope of a file. -/
  stateVersion : String
  /-- The version of a receipt. -/
  receiptVersion : String

/-! ## One list of a snapshot -/

section
variable {α β κ : Type} [DecidableEq κ] {key : α → κ} {copy : α → α}

theorem upsertBy_found_as {c : α → β} (hc : Function.Injective c) {items : List α} {item : α}
    (h : (findBy key items (key item)).map c = some (c item)) : upsertBy key items item = items :=
  upsertBy_found (Option.map_injective hc h)

variable (key copy) in
theorem findBy_copies_as (copy' : β → β) (c : α → β) (hkey : ∀ a, key (copy a) = key a)
    (hc : ∀ a, c (copy a) = copy' (c a)) (items : List α) (k : κ) :
    (findBy key (items.map copy) k).map c = ((findBy key items k).map c).map copy' := by
  rw [findBy_map hkey, Option.map_map, Option.map_map]
  exact congrArg (fun f => (findBy key items k).map f) (funext hc)

theorem copies_copies (hcopy : ∀ a, copy (copy a) = copy a) (items : List α) :
    (items.map copy).map copy = items.map copy := by
  rw [List.map_map]
  exact List.map_congr_left fun a _ => hcopy a

end

/-! ## Graphs -/

/-- The string literal of the source. -/
def nativeGrantTypeName : NativeGrantType → String
  | .direct => "direct"
  | .inherited => "inherited"
  | .group => "group"

/-- The string literal of the source. -/
def nativePrincipalTypeName : NativePrincipalType → String
  | .user => "user"
  | .group => "group"
  | .serviceAccount => "service_account"
  | .servicePrincipal => "service_principal"
  | .managedIdentity => "managed_identity"
  | .externalUser => "external_user"
  | .unknown => "unknown"

/-- The string literal of the source. -/
def nativeGrantStatusName : NativeGrantStatus → String
  | .observed => "observed"
  | .managed => "managed"
  | .revoked => "revoked"
  | .unknown => "unknown"

def subjectToJs (s : Subject) : JsValue :=
  .obj [("id", .str s.id), ("version", .str s.version), ("createdAt", .str s.createdAt),
    ("updatedAt", optional s.updatedAt), ("type", .str s.type.name),
    ("displayName", .str s.displayName), ("sourceSystem", .str s.sourceSystem),
    ("lifecycleState", .str s.lifecycleState.name),
    ("identifiers", .obj (s.identifiers.map fun p => (p.1, .str p.2))),
    ("attributes", optionalJs .obj s.attributes), ("lastSeenAt", optional s.lastSeenAt)]

def resourceToJs (r : Resource) : JsValue :=
  .obj [("id", .str r.id), ("version", .str r.version), ("createdAt", .str r.createdAt),
    ("updatedAt", optional r.updatedAt), ("type", .str r.type.name),
    ("displayName", .str r.displayName), ("sourceSystem", .str r.sourceSystem),
    ("ownerId", .str r.ownerId), ("dataStewardId", .str r.dataStewardId),
    ("technicalOwnerId", .str r.technicalOwnerId), ("classification", .str r.classification),
    ("lifecycleState", .str r.lifecycleState.name), ("parentId", optional r.parentId),
    ("attributes", optionalJs .obj r.attributes), ("lastSeenAt", optional r.lastSeenAt)]

def relationshipToJs (t : RelationshipTuple) : JsValue :=
  .obj [("id", .str t.id), ("version", .str t.version), ("createdAt", .str t.createdAt),
    ("updatedAt", optional t.updatedAt), ("subjectId", .str t.subjectId),
    ("relation", .str t.relation), ("objectId", .str t.objectId),
    ("sourceSystem", .str t.sourceSystem), ("assertedAt", .str t.assertedAt),
    ("assertedBy", optional t.assertedBy), ("expiresAt", optional t.expiresAt),
    ("status", .str t.status.name), ("attributes", optionalJs .obj t.attributes)]

def nativeGrantToJs (g : NativeGrant) : JsValue :=
  .obj [("id", .str g.id), ("version", .str g.version), ("createdAt", .str g.createdAt),
    ("updatedAt", optional g.updatedAt), ("targetPlatform", .str g.targetPlatform),
    ("targetObjectId", .str g.targetObjectId), ("subjectId", .str g.subjectId),
    ("principalType", .str (nativePrincipalTypeName g.principalType)),
    ("nativePermission", .str g.nativePermission),
    ("grantType", .str (nativeGrantTypeName g.grantType)),
    ("sourceConnectorId", .str g.sourceConnectorId),
    ("status", .str (nativeGrantStatusName g.status)), ("observedAt", .str g.observedAt),
    ("inheritedFromObjectId", optional g.inheritedFromObjectId),
    ("expiresAt", optional g.expiresAt), ("attributes", optionalJs .obj g.attributes)]

def graphRecordToJs : GraphRecord → JsValue
  | .subject s => subjectToJs s
  | .resource r => resourceToJs r
  | .relationship t => relationshipToJs t
  | .nativeGrant g => nativeGrantToJs g

def graphToJs (graph : RebacSeedData) : JsValue :=
  .obj [("subjects", .arr (graph.subjects.map subjectToJs)),
    ("resources", .arr (graph.resources.map resourceToJs)),
    ("relationships", .arr (graph.relationships.map relationshipToJs)),
    ("nativeGrants", .arr (graph.nativeGrants.map nativeGrantToJs))]

/-- mirrors packages/core/src/repository-envelopes.ts:98-105 -/
def countGraphEntities (graph : RebacSeedData) : List (String × Nat) :=
  [("subjects", graph.subjects.length), ("resources", graph.resources.length),
    ("relationships", graph.relationships.length), ("nativeGrants", graph.nativeGrants.length)]

/-- mirrors packages/core/src/reference-repositories.ts:773-780 -/
def emptyGraphSnapshot : RebacSeedData where

/-- The record under a key. -/
def findGraphRecord (graph : RebacSeedData) : GraphKey → Option GraphRecord
  | .subject id => (findBy (·.id) graph.subjects id).map .subject
  | .resource id => (findBy (·.id) graph.resources id).map .resource
  | .relationship id => (findBy (·.id) graph.relationships id).map .relationship
  | .nativeGrant id => (findBy (·.id) graph.nativeGrants id).map .nativeGrant

/-- mirrors packages/core/src/reference-repositories.ts:800-808 -/
def upsertGraphRecord (graph : RebacSeedData) : GraphRecord → RebacSeedData
  | .subject s => { graph with subjects := upsertBy (·.id) graph.subjects s }
  | .resource r => { graph with resources := upsertBy (·.id) graph.resources r }
  | .relationship t => { graph with relationships := upsertBy (·.id) graph.relationships t }
  | .nativeGrant g => { graph with nativeGrants := upsertBy (·.id) graph.nativeGrants g }

theorem find_upsertGraphRecord (graph : RebacSeedData) (r : GraphRecord) (k : GraphKey) :
    findGraphRecord (upsertGraphRecord graph r) k =
      if r.key = k then some r else findGraphRecord graph k := by
  cases r with
  | subject s =>
    cases k with
    | subject id =>
      simp only [findGraphRecord, upsertGraphRecord, findBy_upsertBy, GraphRecord.key,
        GraphKey.subject.injEq]
      split <;> rfl
    | _ => rfl
  | resource r =>
    cases k with
    | resource id =>
      simp only [findGraphRecord, upsertGraphRecord, findBy_upsertBy, GraphRecord.key,
        GraphKey.resource.injEq]
      split <;> rfl
    | _ => rfl
  | relationship t =>
    cases k with
    | relationship id =>
      simp only [findGraphRecord, upsertGraphRecord, findBy_upsertBy, GraphRecord.key,
        GraphKey.relationship.injEq]
      split <;> rfl
    | _ => rfl
  | nativeGrant g =>
    cases k with
    | nativeGrant id =>
      simp only [findGraphRecord, upsertGraphRecord, findBy_upsertBy, GraphRecord.key,
        GraphKey.nativeGrant.injEq]
      split <;> rfl
    | _ => rfl

theorem RebacSeedData.copy_copy (graph : RebacSeedData) : graph.copy.copy = graph.copy := by
  have hcopy := GraphRecord.filing.copy_copy
  unfold RebacSeedData.copy
  rw [copies_copies fun s => GraphRecord.subject.inj (hcopy (.subject s)),
    copies_copies fun r => GraphRecord.resource.inj (hcopy (.resource r)),
    copies_copies fun t => GraphRecord.relationship.inj (hcopy (.relationship t)),
    copies_copies fun g => GraphRecord.nativeGrant.inj (hcopy (.nativeGrant g))]

/-- The lists of a graph. -/
def graphSnapshots : SnapshotFormat RebacSeedData GraphRecord GraphKey where
  toFiling := GraphRecord.filing
  find := findGraphRecord
  upsert := upsertGraphRecord
  copyAll := RebacSeedData.copy
  find_upsert := find_upsertGraphRecord
  upsert_found graph r h := by
    cases r with
    | subject s =>
      exact congrArg (fun subjects => { graph with subjects })
        (upsertBy_found_as (fun _ _ he => GraphRecord.subject.inj he) h)
    | resource r =>
      exact congrArg (fun resources => { graph with resources })
        (upsertBy_found_as (fun _ _ he => GraphRecord.resource.inj he) h)
    | relationship t =>
      exact congrArg (fun relationships => { graph with relationships })
        (upsertBy_found_as (fun _ _ he => GraphRecord.relationship.inj he) h)
    | nativeGrant g =>
      exact congrArg (fun nativeGrants => { graph with nativeGrants })
        (upsertBy_found_as (fun _ _ he => GraphRecord.nativeGrant.inj he) h)
  find_copyAll graph k := by
    cases k with
    | subject id =>
      exact findBy_copies_as (·.id) Subject.copy GraphRecord.copy .subject (fun _ => rfl)
        (fun _ => rfl) graph.subjects id
    | resource id =>
      exact findBy_copies_as (·.id) Resource.copy GraphRecord.copy .resource (fun _ => rfl)
        (fun _ => rfl) graph.resources id
    | relationship id =>
      exact findBy_copies_as (·.id) RelationshipTuple.copy GraphRecord.copy .relationship
        (fun _ => rfl) (fun _ => rfl) graph.relationships id
    | nativeGrant id =>
      exact findBy_copies_as (·.id) NativeGrant.copy GraphRecord.copy .nativeGrant (fun _ => rfl)
        (fun _ => rfl) graph.nativeGrants id
  copyAll_upsert graph r := by
    cases r with
    | subject s =>
      exact congrArg (fun subjects => { graph.copy with subjects })
        (map_upsertBy_of_key (·.id) Subject.copy (fun _ => rfl) graph.subjects s)
    | resource r =>
      exact congrArg (fun resources => { graph.copy with resources })
        (map_upsertBy_of_key (·.id) Resource.copy (fun _ => rfl) graph.resources r)
    | relationship t =>
      exact congrArg (fun relationships => { graph.copy with relationships })
        (map_upsertBy_of_key (·.id) RelationshipTuple.copy (fun _ => rfl) graph.relationships t)
    | nativeGrant g =>
      exact congrArg (fun nativeGrants => { graph.copy with nativeGrants })
        (map_upsertBy_of_key (·.id) NativeGrant.copy (fun _ => rfl) graph.nativeGrants g)
  copyAll_copyAll := RebacSeedData.copy_copy
  empty := emptyGraphSnapshot
  toJs := graphToJs
  countEntities := countGraphEntities
  stateVersion := "rebac-graph-state:v1"
  receiptVersion := "rebac-graph-storage-receipt:v1"

/-! ## The records of the runtime -/

theorem RebacJobSnapshot.copy_copy (jobs : RebacJobSnapshot) : jobs.copy.copy = jobs.copy := by
  have hcopy := JobRecord.filing.copy_copy
  unfold RebacJobSnapshot.copy
  rw [copies_copies fun plan => JobRecord.provisioningPlan.inj (hcopy (.provisioningPlan plan)),
    copies_copies fun job => JobRecord.provisioningJob.inj (hcopy (.provisioningJob job)),
    copies_copies fun report => JobRecord.enforcementReadinessReport.inj
      (hcopy (.enforcementReadinessReport report)),
    copies_copies fun r => JobRecord.record.inj (hcopy (.record r))]

/-- The ten collections of the runtime's records. -/
def jobSnapshots : SnapshotFormat RebacJobSnapshot JobRecord JobKey where
  toFiling := JobRecord.filing
  find := findRecord
  upsert := upsertRecord
  copyAll := RebacJobSnapshot.copy
  find_upsert := find_upsertRecord
  upsert_found jobs r h := by
    cases r with
    | provisioningPlan plan =>
      exact congrArg (fun provisioningPlans => { jobs with provisioningPlans })
        (upsertBy_found_as (fun _ _ he => JobRecord.provisioningPlan.inj he) h)
    | provisioningJob job =>
      exact congrArg (fun provisioningJobs => { jobs with provisioningJobs })
        (upsertBy_found_as (fun _ _ he => JobRecord.provisioningJob.inj he) h)
    | enforcementReadinessReport report =>
      exact congrArg (fun enforcementReadinessReports => { jobs with enforcementReadinessReports })
        (upsertBy_found_as (fun _ _ he => JobRecord.enforcementReadinessReport.inj he) h)
    | record r =>
      exact congrArg (fun records => { jobs with records })
        (upsertBy_found_as (fun _ _ he => JobRecord.record.inj he) h)
  find_copyAll jobs k := by
    cases k with
    | provisioningPlan id =>
      exact findBy_copies_as (·.id) ProvisioningPlan.copy JobRecord.copy .provisioningPlan
        (fun _ => rfl) (fun _ => rfl) jobs.provisioningPlans id
    | provisioningJob id =>
      exact findBy_copies_as (·.id) ProvisioningJob.copy JobRecord.copy .provisioningJob
        (fun _ => rfl) (fun _ => rfl) jobs.provisioningJobs id
    | enforcementReadinessReport id =>
      exact findBy_copies_as (·.id) EnforcementReadinessReport.copy JobRecord.copy
        .enforcementReadinessReport (fun _ => rfl) (fun _ => rfl)
        jobs.enforcementReadinessReports id
    | record collection id =>
      exact findBy_copies_as RuntimeRecord.key RuntimeRecord.copy JobRecord.copy .record
        (fun _ => rfl) (fun _ => rfl) jobs.records (collection, id)
  copyAll_upsert jobs r := by
    cases r with
    | provisioningPlan plan =>
      exact congrArg (fun provisioningPlans => { jobs.copy with provisioningPlans })
        (map_upsertBy_of_key (·.id) ProvisioningPlan.copy (fun _ => rfl) jobs.provisioningPlans
          plan)
    | provisioningJob job =>
      exact congrArg (fun provisioningJobs => { jobs.copy with provisioningJobs })
        (map_upsertBy_of_key (·.id) ProvisioningJob.copy (fun _ => rfl) jobs.provisioningJobs job)
    | enforcementReadinessReport report =>
      exact congrArg (fun enforcementReadinessReports =>
          { jobs.copy with enforcementReadinessReports })
        (map_upsertBy_of_key (·.id) EnforcementReadinessReport.copy (fun _ => rfl)
          jobs.enforcementReadinessReports report)
    | record r =>
      exact congrArg (fun records => { jobs.copy with records })
        (map_upsertBy_of_key RuntimeRecord.key RuntimeRecord.copy (fun _ => rfl) jobs.records r)
  copyAll_copyAll := RebacJobSnapshot.copy_copy
  empty := emptyReferenceJobSnapshot
  toJs := jobsToJs
  countEntities := countJobEntities
  stateVersion := "rebac-job-state:v1"
  receiptVersion := "rebac-job-storage-receipt:v1"

end AccessKit.L7
