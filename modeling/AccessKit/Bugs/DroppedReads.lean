import AccessKit.L2Graph.Fixtures
import AccessKit.L5Runtime.AwsConnector
import AccessKit.L5Runtime.EntraConnector
import Mathlib.Data.Fintype.EquivFin

/-!
# Reads that do not count

Status: open.

A connector lowers its flag for an incomplete readback after some of its reads only. The AWS
connector looks at the reads in the scope `native_grants`
(packages/connectors-aws/src/index.ts:437-440); the accounts and the permission sets, over
which it asks for assignments, are read in the scope `resources`. The Microsoft Graph
connector looks at the role assignments and the permissions
(packages/connectors-microsoft-graph/src/connector.ts:1034-1036, 1111-1113), and drops
`completed` of the users, groups, members, owners, sites and drives. With the flag up, a
sync replaces the grants of the connector (packages/api/src/runtime-discovery.ts:48-51).

Counterexample (`grants_dropped`): the list of the accounts is denied; the members of a
group fail.

Exact condition (`keepsGrants_meets`): whenever a read that grants come from is incomplete,
so is one that counts, or a call throws.
-/
namespace AccessKit.Bugs.DroppedReads
open AccessKit.Core AccessKit.L1 AccessKit.L2.Fixtures AccessKit.L2.Store AccessKit.L5
open AccessKit.L5.Aws (AwsReadOperation AwsCollections AwsReadOnlyAccessAnalysisConnector)
open AccessKit.L5.Entra (EntraRead EntraCollections MicrosoftGraphEntraReadOnlyConnector)
open GraphRecord (filing)
open InMemoryRebacStore (RebacSeedData)

/-! ## The law -/

/-- A read that was not completed, and that grants come from. -/
def Incomplete {Q : Type} (feeds : Q → Bool) (reads : List (Read Q JsonRecord)) : Prop :=
  ∃ r ∈ reads, feeds r.request = true ∧ r.completed = false

/-- After such a read a sync keeps each grant that is recorded for the connector. -/
def KeepsGrants {Q : Type} (feeds : Q → Bool) (reads : List (Read Q JsonRecord))
    (discovery : Discovery) : Prop :=
  Incomplete feeds reads →
    ∀ (σ : Type) (repository : RebacGraphRepository σ) (seed : RebacSeedData) (app : GraphApp σ)
      (connectorId : String),
    ∀ grant ∈ app.store.listNativeGrants, grant.sourceConnectorId = connectorId →
      (app.perform repository seed (.syncConnector connectorId discovery)).1.store.find
        (.nativeGrant grant.id) = some (.nativeGrant grant)

/-! ## The flag -/

theorem load_records (inventory : Inventory) (id : CanonicalId) :
    filing.load inventory.records (.nativeGrant id) = none := by
  by_contra hload
  obtain ⟨r, hr, hkey⟩ := Filing.load_ne_none.1 hload
  simp only [Inventory.records, List.mem_append, List.mem_map] at hr
  rcases hr with (⟨s, -, rfl⟩ | ⟨s, -, rfl⟩) | ⟨s, -, rfl⟩
  · cases hkey
  · cases hkey
  · cases hkey

theorem find_listNativeGrants {st : InMemoryRebacStore} {grant : NativeGrant}
    (hgrant : grant ∈ st.listNativeGrants) :
    st.find (.nativeGrant grant.id) = some (.nativeGrant grant) :=
  congrArg (Option.map GraphRecord.nativeGrant)
    ((OrderedMap.mem_values_key st.nativeGrant_id).1 hgrant)

theorem find_incomplete {σ : Type} (repository : RebacGraphRepository σ) (seed : RebacSeedData)
    (app : GraphApp σ) (connectorId : String) (inventory : Inventory) (id : CanonicalId) :
    (app.perform repository seed (.syncConnector connectorId
      (inventory.discovery false))).1.store.find (.nativeGrant id) =
      app.store.find (.nativeGrant id) := by
  by_cases hknown : connectorId ∈ app.connectors
  · rw [sync_discovery repository seed hknown, Discovery.storeNativeGrants,
      if_neg (by simp [Inventory.discovery]),
      InMemoryRebacStore.find_upsertRecords, Filing.putAll_eq_or, load_records, Option.none_or]
  · rw [GraphApp.sync_unread fun h => absurd h hknown]

/-- A grant that a connector has observed. -/
def observedGrant : NativeGrant where
  id := "native-grant:aws:assignment"
  version := "native-grant:v1"
  createdAt := timestamp
  targetPlatform := "aws"
  targetObjectId := "aws-account:1"
  subjectId := "user:alice"
  principalType := .user
  nativePermission := "sso:admin"
  grantType := .direct
  sourceConnectorId := "aws"
  status := .observed
  observedAt := timestamp

/-- A runtime with one grant, which a connector has recorded. -/
def recorded (grant : NativeGrant) : GraphApp InMemoryRebacStore where
  store := InMemoryRebacStore.empty.upsertNativeGrant grant
  graphRepository := none
  stateRepository := none
  connectors := [grant.sourceConnectorId]

theorem find_complete (seed : RebacSeedData) (grant : NativeGrant) (inventory : Inventory)
    (hunread : ∀ read ∈ inventory.syncGrants, read.id ≠ grant.id) :
    ((recorded grant).perform .inMemory seed (.syncConnector grant.sourceConnectorId
      (inventory.discovery true))).1.store.find (.nativeGrant grant.id) = none := by
  have hknown : grant.sourceConnectorId ∈ (recorded grant).connectors := List.mem_singleton.2 rfl
  have hload : filing.load (inventory.syncGrants.map .nativeGrant) (.nativeGrant grant.id) =
      none := by
    by_contra hload
    obtain ⟨r, hr, hkey⟩ := Filing.load_ne_none.1 hload
    obtain ⟨read, hread, rfl⟩ := List.mem_map.1 hr
    exact hunread read hread (GraphKey.nativeGrant.inj hkey)
  have hstored : (recorded grant).store.find (.nativeGrant grant.id) = some (.nativeGrant grant) :=
    congrArg (Option.map GraphRecord.nativeGrant) (OrderedMap.get?_set_self ..)
  rw [sync_discovery .inMemory seed hknown, Discovery.storeNativeGrants,
    if_pos (by simp [Inventory.discovery]), InMemoryRebacStore.find_replaceNativeGrants,
    Filing.putAll_eq_or, hload, Option.none_or, InMemoryRebacStore.find_upsertRecords,
    Filing.putAll_eq_or, load_records, Option.none_or, hstored]
  simp [Option.filter, GraphRecord.ofConnector]

/-- **The law is the flag.** -/
theorem keepsGrants_iff {Q : Type} (feeds : Q → Bool) (reads : List (Read Q JsonRecord))
    (inventory : Inventory) (complete : Bool) :
    KeepsGrants feeds reads (inventory.discovery complete) ↔
      (Incomplete feeds reads → complete = false) := by
  constructor
  · intro h hread
    by_contra hcomplete
    rw [Bool.not_eq_false] at hcomplete
    subst hcomplete
    obtain ⟨id, hid⟩ := Infinite.exists_notMem_finset
      (inventory.syncGrants.map (·.id)).toFinset
    rw [List.mem_toFinset, List.mem_map] at hid
    have hkept := h hread InMemoryRebacStore .inMemory ⟨[], [], [], []⟩
      (recorded { observedGrant with id }) _ { observedGrant with id }
      (List.mem_singleton.2 rfl) rfl
    rw [find_complete _ _ _ fun read hread heq => hid ⟨read, hread, heq⟩] at hkept
    cases hkept
  · intro h hread σ repository seed app connectorId grant hgrant _
    rw [h hread, find_incomplete, find_listNativeGrants hgrant]

theorem keepsGrants_failed {Q : Type} (feeds : Q → Bool) (reads : List (Read Q JsonRecord))
    (message : String) : KeepsGrants feeds reads (failedDiscovery message) := by
  intro _ σ repository seed app connectorId grant hgrant _
  rw [sync_failed, find_listNativeGrants hgrant]

/-! ## The AWS connector -/

section
variable (options : Aws.Options) (inventory : AwsCollections → Inventory)
  (connector : AwsReadOnlyAccessAnalysisConnector)

/-- The collections that grants come from: the accounts and permission sets that assignments
are asked for, the assignments, and the activity that a grant shows.
mirrors packages/connectors-aws/src/native-grants.ts:15-101 -/
def awsFeeds : AwsReadOperation → Bool
  | .listAccounts | .listPermissionSets | .listAccountAssignments _ _ | .lookupEvents => true
  | .describeOrganization | .listRoles | .listFindings => false

/-- The run that reads a snapshot. -/
def awsRun : Progress Nat AwsReadOperation JsonRecord × Except String AwsCollections :=
  (Aws.answers options).run Aws.readCollections { source := connector.calls, complete := true }

/-- The reads behind the snapshot of a sync. -/
def awsReads : List (Read AwsReadOperation JsonRecord) :=
  match connector.snapshot with
  | some snapshot => snapshot.2
  | none => (awsRun options connector).1.reads

/-- The accounts and the permission sets are read to the end, or the flag falls for another
read. A snapshot that was read before comes with the flag of that time. -/
def AwsMeets : Prop :=
  Incomplete awsFeeds (awsReads options connector) →
    match connector.snapshot with
    | some _ => connector.nativeAccessReadbackComplete = false
    | none => (∃ message, (awsRun options connector).2 = .error message) ∨
      Incomplete AwsReadOperation.nativeGrants (awsReads options connector)

theorem keepsGrants_aws :
    KeepsGrants awsFeeds (awsReads options connector) (connector.discovery options inventory).2 ↔
      AwsMeets options connector := by
  unfold AwsMeets awsReads AwsReadOnlyAccessAnalysisConnector.discovery
    AwsReadOnlyAccessAnalysisConnector.loadSnapshot
  cases connector.snapshot with
  | some snapshot => exact keepsGrants_iff awsFeeds snapshot.2 snapshot.1 _
  | none =>
    have hflag := (Aws.answers options).run_complete Aws.readCollections connector.calls
    have hcounted := (Aws.answers options).allComplete_eq_false (awsRun options connector).1.reads
    unfold awsRun at hcounted ⊢
    generalize (Aws.answers options).run Aws.readCollections _ = result at hflag hcounted ⊢
    obtain ⟨progress, message | collections⟩ := result
    · exact iff_of_true (keepsGrants_failed awsFeeds _ message) fun _ => .inl ⟨message, rfl⟩
    · dsimp only at hflag hcounted ⊢
      rw [keepsGrants_iff, hflag, hcounted]
      simp [Incomplete, Aws.answers]

end

/-! ## The Microsoft Graph connector -/

section
variable (H : Host) (options : Entra.Options) (inventory : EntraCollections → Inventory)
  (connector : MicrosoftGraphEntraReadOnlyConnector)

/-- The collections that grants come from: all of them but the teams, and the members of a
group that is not one of Microsoft 365.
mirrors packages/connectors-microsoft-graph/src/connector.ts:613-671, 728-797, 1014-1131 -/
def entraFeeds : EntraRead → Bool
  | .team _ | .members _ false => false
  | _ => true

def entraRun : Progress Entra.CollectionReader EntraRead JsonRecord ×
    Except String EntraCollections :=
  (Entra.answers options).run (Entra.readCollections H options.maxDriveItemDepth)
    { source := connector.collectionReader, complete := true }

/-- The reads behind the snapshot of a sync. -/
def entraReads : List (Read EntraRead JsonRecord) :=
  match connector.snapshot, connector.subjectsReadFromCurrentSnapshot with
  | some snapshot, false => snapshot.2
  | _, _ => (entraRun H options connector).1.reads

/-- The users, groups, applications, members, owners, sites, drives and items are read to the
end, or the flag falls for another read. -/
def EntraMeets : Prop :=
  Incomplete entraFeeds (entraReads H options connector) →
    match connector.snapshot, connector.subjectsReadFromCurrentSnapshot with
    | some _, false => connector.nativeAccessReadbackComplete = false
    | _, _ => (∃ message, (entraRun H options connector).2 = .error message) ∨
      Incomplete EntraRead.counts (entraReads H options connector)

theorem keepsGrants_load
    (hload : connector.snapshot = none ∨ connector.subjectsReadFromCurrentSnapshot = true) :
    KeepsGrants entraFeeds (entraRun H options connector).1.reads
        (connector.discovery H options inventory).2 ↔
      (Incomplete entraFeeds (entraRun H options connector).1.reads →
        (∃ message, (entraRun H options connector).2 = .error message) ∨
          Incomplete EntraRead.counts (entraRun H options connector).1.reads) := by
  rw [connector.discovery_load H options inventory hload]
  have hflag := (Entra.answers options).run_complete
    (Entra.readCollections H options.maxDriveItemDepth) connector.collectionReader
  have hcounted :=
    (Entra.answers options).allComplete_eq_false (entraRun H options connector).1.reads
  unfold entraRun at hcounted ⊢
  generalize (Entra.answers options).run (Entra.readCollections H options.maxDriveItemDepth) _ =
    result at hflag hcounted ⊢
  obtain ⟨progress, message | collections⟩ := result
  · exact iff_of_true (keepsGrants_failed entraFeeds _ message) fun _ => .inl ⟨message, rfl⟩
  · dsimp only at hflag hcounted ⊢
    rw [keepsGrants_iff, hflag, hcounted]
    simp [Incomplete, Entra.answers]

theorem keepsGrants_entra :
    KeepsGrants entraFeeds (entraReads H options connector)
        (connector.discovery H options inventory).2 ↔
      EntraMeets H options connector := by
  unfold EntraMeets entraReads
  cases hsnapshot : connector.snapshot with
  | none => exact keepsGrants_load H options inventory connector (.inl hsnapshot)
  | some snapshot =>
    cases hread : connector.subjectsReadFromCurrentSnapshot with
    | true => exact keepsGrants_load H options inventory connector (.inr hread)
    | false =>
      rw [connector.discovery_kept H options inventory hsnapshot hread]
      exact keepsGrants_iff entraFeeds snapshot.2 snapshot.1 _

end

/-! ## Counterexample -/

/-- An organization without accounts, or a tenant whose group has no members. -/
def unread : Inventory where
  subjects := []
  resources := [fixtureResource "organization:1" .organization "Organization" none]
  relationships := []
  grantsByResource _ := []

/-- The list of the accounts is denied. -/
def deniedAccounts : Aws.Options where
  client _ operation _ :=
    .ok { value := [], status := some (if operation = .listAccounts then 403 else 200) }

/-- A group of Microsoft 365. -/
def m365Group : JsonRecord := [("id", .str "g1"), ("groupTypes", .arr [.str "Unified"])]

/-- The second call returns the group, and the fourth, for its members, fails. -/
def failedMembers : Entra.Options where
  list call _ := .ok {
    value := if call = 1 then [m365Group] else []
    status := some (if call = 3 then 500 else 200) }
  get _ _ := .ok {}

/-- **Counterexample.** The grant that the connector has recorded goes with the sync. -/
theorem grants_dropped :
    ¬ (∀ options inventory connector, KeepsGrants awsFeeds (awsReads options connector)
        (connector.discovery options inventory).2) ∧
      ¬ ∀ options inventory connector,
        KeepsGrants entraFeeds (entraReads plainHost options connector)
          (connector.discovery plainHost options inventory).2 := by
  have hgone := find_complete ⟨[], [], [], []⟩ observedGrant unread fun read hread =>
    absurd hread (by simp [Inventory.syncGrants, unread])
  constructor
  · intro h
    have hincomplete : Incomplete awsFeeds (awsReads deniedAccounts {}) :=
      ⟨⟨.listAccounts, [], false⟩, .tail _ (.head _), rfl, rfl⟩
    have hkept := h deniedAccounts (fun _ => unread) {} hincomplete _ .inMemory ⟨[], [], [], []⟩
      (recorded observedGrant) _ observedGrant (List.mem_singleton.2 rfl) rfl
    exact absurd (hkept.symm.trans hgone) (by simp)
  · intro h
    have hrun : (entraRun plainHost failedMembers {}).2.isOk = true ∧
        ((entraReads plainHost failedMembers {}).any fun r =>
          entraFeeds r.request && !r.completed) = true ∧
        ((entraReads plainHost failedMembers {}).any fun r =>
          r.request.counts && !r.completed) = false := by decide +kernel
    obtain ⟨hok, hfed, hcounted⟩ := hrun
    have hincomplete : Incomplete entraFeeds (entraReads plainHost failedMembers {}) := by
      simpa [Incomplete] using hfed
    rcases (keepsGrants_entra plainHost failedMembers (fun _ => unread) {}).1 (h _ _ _)
      hincomplete with ⟨message, hmessage⟩ | ⟨r, hr, hcount, hread⟩
    · rw [hmessage] at hok
      cases hok
    · have hnone := List.any_eq_false.1 hcounted r hr
      rw [hcount, hread] at hnone
      exact absurd rfl hnone

/-- **Exact condition.** -/
theorem keepsGrants_meets (H : Host) (awsOptions : Aws.Options) (entraOptions : Entra.Options)
    (awsInventory : AwsCollections → Inventory) (entraInventory : EntraCollections → Inventory)
    (awsConnector : AwsReadOnlyAccessAnalysisConnector)
    (entraConnector : MicrosoftGraphEntraReadOnlyConnector) :
    (KeepsGrants awsFeeds (awsReads awsOptions awsConnector)
        (awsConnector.discovery awsOptions awsInventory).2 ↔ AwsMeets awsOptions awsConnector) ∧
      (KeepsGrants entraFeeds (entraReads H entraOptions entraConnector)
          (entraConnector.discovery H entraOptions entraInventory).2 ↔
        EntraMeets H entraOptions entraConnector) :=
  ⟨keepsGrants_aws awsOptions awsInventory awsConnector,
    keepsGrants_entra H entraOptions entraInventory entraConnector⟩

end AccessKit.Bugs.DroppedReads
