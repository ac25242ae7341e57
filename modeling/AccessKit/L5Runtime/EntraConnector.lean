import AccessKit.L1Domain.Stringify
import AccessKit.L5Runtime.EntraReader

/-!
# The Microsoft Graph connector

packages/connectors-microsoft-graph/src/connector.ts: the reads of a snapshot, each by what
the earlier ones returned, and the flag for an incomplete readback. What is made of the
collections is a parameter, `inventory`.

Results:
* `discovery_kept`, `discovery_load`: what a sync gets.
-/
namespace AccessKit.L5.Entra
open AccessKit.Core AccessKit.L1

/-! ## Paths -/

def hexDigit (n : Nat) : Char := "0123456789ABCDEF".toList.getD n '0'

def percentEncode (byte : UInt8) : String :=
  String.ofList ['%', hexDigit (byte.toNat / 16), hexDigit (byte.toNat % 16)]

/-- `encodeURIComponent(s)` -/
def encodeURIComponent (s : String) : String :=
  String.join <| s.toList.map fun c =>
    if c.isAlphanum || "-_.!~*'()".toList.contains c then c.toString
    else String.join (c.toString.toUTF8.toList.map percentEncode)

/-- What a permission read is about.
mirrors packages/connectors-microsoft-graph/src/provider-utils.ts:62-76 -/
inductive GrantTarget
  | sharepointSite (siteId : String)
  | drive (driveId : String)
  | driveItem (driveId itemId : String)
  deriving DecidableEq, Repr

/-- A read of the connector. Of a read of members the request says whether the group is one
of Microsoft 365: only then its members get grants
(packages/connectors-microsoft-graph/src/connector.ts:614-663). -/
inductive EntraRead
  | users
  | groups
  | servicePrincipals
  | team (groupId : String)
  | members (groupId : String) (m365Group : Bool)
  | owners (groupId : String)
  | appRoleAssignedTo (servicePrincipalId : String)
  | sites
  | siteDrives (siteId : String)
  | userDrives (userId : String)
  | rootChildren (driveId : String)
  | itemChildren (driveId itemId : String)
  | permissions (target : GrantTarget)
  deriving DecidableEq, Repr

def directoryObjectSelect : String :=
  "?$select=id,displayName,userPrincipalName,appId,servicePrincipalType"

def driveSelect : String :=
  "?$select=id,name,driveType,webUrl,createdDateTime,lastModifiedDateTime,owner,quota,sharePointIds"

/-- mirrors packages/connectors-microsoft-graph/src/constants.ts:32 -/
def driveItemSelect : String :=
  "?$select=id,name,webUrl,parentReference,folder,file,package,deleted,size," ++
    "createdDateTime,lastModifiedDateTime"

/-- mirrors packages/connectors-microsoft-graph/src/constants.ts:33 -/
def permissionSelect : String :=
  "?$select=id,roles,grantedTo,grantedToV2,grantedToIdentities,grantedToIdentitiesV2," ++
    "link,invitation,inheritedFrom,shareId,hasPassword,expirationDateTime"

namespace EntraRead

/-- The path of a read, which is also the key of its cache.
mirrors packages/connectors-microsoft-graph/src/provider-utils.ts:54-76 -/
def path : EntraRead → String
  | .users =>
    "/users?$select=id,displayName,userPrincipalName,accountEnabled,userType," ++
      "externalUserState,deletedDateTime"
  | .groups =>
    "/groups?$select=id,displayName,securityEnabled,mailEnabled,visibility,groupTypes," ++
      "resourceProvisioningOptions,deletedDateTime"
  | .servicePrincipals =>
    "/servicePrincipals?$select=id,displayName,appId,servicePrincipalType,appRoles,deletedDateTime"
  | .team groupId =>
    "/teams/" ++ encodeURIComponent groupId ++
      "?$select=id,displayName,description,webUrl,isArchived,visibility"
  | .members groupId _ =>
    "/groups/" ++ encodeURIComponent groupId ++ "/members" ++ directoryObjectSelect
  | .owners groupId =>
    "/groups/" ++ encodeURIComponent groupId ++ "/owners" ++ directoryObjectSelect
  | .appRoleAssignedTo servicePrincipalId =>
    "/servicePrincipals/" ++ encodeURIComponent servicePrincipalId ++
      "/appRoleAssignedTo?$select=id,principalId,principalType,principalDisplayName," ++
      "resourceId,resourceDisplayName,appRoleId,createdDateTime"
  | .sites => "/sites?$select=id,name,displayName,webUrl,isPersonalSite,root,siteCollection"
  | .siteDrives siteId => "/sites/" ++ encodeURIComponent siteId ++ "/drives" ++ driveSelect
  | .userDrives userId => "/users/" ++ encodeURIComponent userId ++ "/drives" ++ driveSelect
  | .rootChildren driveId =>
    "/drives/" ++ encodeURIComponent driveId ++ "/root/children" ++ driveItemSelect
  | .itemChildren driveId itemId =>
    "/drives/" ++ encodeURIComponent driveId ++ "/items/" ++ encodeURIComponent itemId ++
      "/children" ++ driveItemSelect
  | .permissions (.sharepointSite siteId) =>
    "/sites/" ++ encodeURIComponent siteId ++ "/permissions" ++ permissionSelect
  | .permissions (.drive driveId) =>
    "/drives/" ++ encodeURIComponent driveId ++ "/root/permissions" ++ permissionSelect
  | .permissions (.driveItem driveId itemId) =>
    "/drives/" ++ encodeURIComponent driveId ++ "/items/" ++ encodeURIComponent itemId ++
      "/permissions" ++ permissionSelect

/-- The reads after which the connector lowers its flag.
mirrors packages/connectors-microsoft-graph/src/connector.ts:1034-1036, 1111-1113 -/
def counts : EntraRead → Bool
  | .appRoleAssignedTo _ | .permissions _ => true
  | _ => false

end EntraRead

/-- A team is read as one record, the rest as collections.
mirrors packages/connectors-microsoft-graph/src/connector.ts:800-809 -/
def answers (options : Options) : Answers CollectionReader EntraRead JsonRecord where
  answer reader request :=
    match request with
    | .team groupId =>
      match reader.readRecord options (EntraRead.team groupId).path with
      | (reader, .error message) => (reader, .error message)
      | (reader, .ok record) => (reader, .ok (record.toList, record.isSome))
    | request => reader.readCollectionResult options request.path
  counts := EntraRead.counts

/-! ## Groups and applications -/

/-- The strings of a field that is a list. -/
def stringItems (record : JsonRecord) (key : String) : List String :=
  match JsonRecord.get record key with
  | .arr items => items.filterMap fun item =>
    match item with
    | .str s => some s
    | _ => none
  | _ => []

/-- mirrors packages/connectors-microsoft-graph/src/provider-utils.ts:42-44 -/
def isM365Group (group : JsonRecord) : Bool := (stringItems group "groupTypes").contains "Unified"

/-- mirrors packages/connectors-microsoft-graph/src/provider-utils.ts:46-48 -/
def isTeamsBackedGroup (H : Host) (group : JsonRecord) : Bool :=
  (stringItems group "resourceProvisioningOptions").any fun option => toLowerCase H option = "team"

/-- A group with what was read for it. The team is there for a group with one. -/
structure GroupReads where
  group : JsonRecord
  team : Option (Option JsonRecord)
  members : List JsonRecord
  owners : List JsonRecord

abbrev EntraReading := Reading EntraRead JsonRecord

/-- The reads for one group.
mirrors packages/connectors-microsoft-graph/src/connector.ts:521-675 -/
def readGroup (H : Host) (m365Group : Bool) (group : JsonRecord) (groupId : String) :
    EntraReading GroupReads := do
  let team ←
    if m365Group && isTeamsBackedGroup H group then do
      let team ← Reading.ask (.team groupId)
      pure (some team.head?)
    else pure none
  let members ← Reading.ask (.members groupId m365Group)
  let owners ← if m365Group then Reading.ask (.owners groupId) else pure []
  pure { group, team, members, owners }

/-- The group resources are looked up by id, among all the groups.
mirrors packages/connectors-microsoft-graph/src/connector.ts:474-476, 517-686 -/
def readGroups (H : Host) (groups : List JsonRecord) : EntraReading (List GroupReads) :=
  (groups.filterMap fun group => (recordId group "id").map (group, ·)).mapM fun p =>
    let m365Group := groups.any fun other => recordId other "id" = some p.2 && isM365Group other
    readGroup H m365Group p.1 p.2

/-- mirrors packages/connectors-microsoft-graph/src/connector.ts:1014-1036 -/
def readAppRoles (servicePrincipals : List JsonRecord) :
    EntraReading (List (JsonRecord × List JsonRecord)) :=
  (servicePrincipals.filterMap fun record => (recordId record "id").map (record, ·)).mapM
    fun p => do
      let assignments ← Reading.ask (.appRoleAssignedTo p.2)
      pure (p.1, assignments)

/-! ## Sites and drives -/

/-- mirrors packages/connectors-microsoft-graph/src/provider-utils.ts:34-36 -/
def redactValue (H : Host) (value : String) : String :=
  sliceTo 16 (sha256 H (.obj [("value", .str value)]))

/-- A resource of the inventory, with what it is made from. -/
inductive InventoryItem
  | site (site : JsonRecord)
  | siteDrive (drive site : JsonRecord)
  | userDrive (drive user : JsonRecord)
  | driveItem (drive item : JsonRecord) (parentId : CanonicalId)

/-- The resources by their id, and what permissions are read for. -/
structure DriveInventory where
  resources : OrderedMap CanonicalId InventoryItem := .empty
  grantTargets : List (CanonicalId × GrantTarget) := []

namespace DriveInventory

def add (inventory : DriveInventory) (id : CanonicalId) (item : InventoryItem)
    (target : GrantTarget) : DriveInventory where
  resources := inventory.resources.set id item
  grantTargets := inventory.grantTargets ++ [(id, target)]

end DriveInventory

/-- mirrors packages/connectors-microsoft-graph/src/provider-utils.ts:78-84 -/
def driveItemResourceType (item : JsonRecord) : Option String :=
  if isTruthy (JsonRecord.get item "folder") || isTruthy (JsonRecord.get item "package") then
    some "folder"
  else if isTruthy (JsonRecord.get item "file") then some "document"
  else none

section
variable (H : Host)

/-- The children of a folder, and theirs, `depth` levels down.
mirrors packages/connectors-microsoft-graph/src/connector.ts:955-1012 -/
def addDriveItems (drive : JsonRecord) (driveId : String) :
    Nat → EntraRead → CanonicalId → DriveInventory → EntraReading DriveInventory
  | 0, _, _, inventory => pure inventory
  | depth + 1, children, parentId, inventory => do
    let items ← Reading.ask children
    items.foldlM (fun inventory item =>
      match recordId item "id", driveItemResourceType item with
      | some itemId, some itemType =>
        let id := itemType ++ ":microsoft-graph-drive-item:" ++ redactValue H itemId
        if inventory.resources.has id then pure inventory
        else
          let inventory := inventory.add id (.driveItem drive item parentId)
            (.driveItem driveId itemId)
          if itemType = "folder" then
            addDriveItems drive driveId depth (.itemChildren driveId itemId) id inventory
          else pure inventory
      | _, _ => pure inventory) inventory

/-- mirrors packages/connectors-microsoft-graph/src/connector.ts:925-953 -/
def addDriveInventory (maxDriveItemDepth : Nat) (item : JsonRecord → InventoryItem)
    (inventory : DriveInventory) (drive : JsonRecord) : EntraReading DriveInventory :=
  match recordId drive "id" with
  | none => pure inventory
  | some driveId =>
    let id := "workspace:microsoft-graph-drive:" ++ redactValue H driveId
    if inventory.resources.has id then pure inventory
    else
      addDriveItems H drive driveId maxDriveItemDepth (.rootChildren driveId) id
        (inventory.add id (item drive) (.drive driveId))

/-- mirrors packages/connectors-microsoft-graph/src/connector.ts:811-923 -/
def readInventory (maxDriveItemDepth : Nat) (users : List JsonRecord) :
    EntraReading DriveInventory := do
  let sites ← Reading.ask .sites
  let inventory ← sites.foldlM (fun inventory site =>
    match recordId site "id" with
    | none => pure inventory
    | some siteId => do
      let inventory := inventory.add ("sharepoint-site:microsoft-graph:" ++ redactValue H siteId)
        (.site site) (.sharepointSite siteId)
      let drives ← Reading.ask (.siteDrives siteId)
      drives.foldlM (addDriveInventory H maxDriveItemDepth fun drive => .siteDrive drive site)
        inventory) ({} : DriveInventory)
  users.foldlM (fun inventory user =>
    match recordId user "id" with
    | none => pure inventory
    | some userId =>
      if graphRecordDeleted user then pure inventory
      else do
        let drives ← Reading.ask (.userDrives userId)
        drives.foldlM (addDriveInventory H maxDriveItemDepth fun drive => .userDrive drive user)
          inventory) inventory

/-! ## The snapshot -/

/-- The collections of a snapshot. -/
structure EntraCollections where
  users : List JsonRecord
  groups : List JsonRecord
  servicePrincipals : List JsonRecord
  groupReads : List GroupReads
  appRoleReads : List (JsonRecord × List JsonRecord)
  driveInventory : DriveInventory
  permissionReads : List ((CanonicalId × GrantTarget) × List JsonRecord)

/-- mirrors packages/connectors-microsoft-graph/src/connector.ts:373-393 -/
def readCollections (maxDriveItemDepth : Nat) : EntraReading EntraCollections := do
  let users ← Reading.ask .users
  let groups ← Reading.ask .groups
  let servicePrincipals ← Reading.ask .servicePrincipals
  let groupReads ← readGroups H groups
  let appRoleReads ← readAppRoles servicePrincipals
  let driveInventory ← readInventory H maxDriveItemDepth users
  let permissionReads ← driveInventory.grantTargets.mapM fun target => do
    let permissions ← Reading.ask (.permissions target.2)
    pure (target, permissions)
  pure { users, groups, servicePrincipals, groupReads, appRoleReads, driveInventory,
         permissionReads }

end

/-- A connector. A snapshot comes with the reads that it was made from. -/
structure MicrosoftGraphEntraReadOnlyConnector where
  collectionReader : CollectionReader := {}
  snapshot : Option (Inventory × List (Read EntraRead JsonRecord)) := none
  nativeAccessReadbackComplete : Bool := true
  subjectsReadFromCurrentSnapshot : Bool := false

namespace MicrosoftGraphEntraReadOnlyConnector

variable (H : Host) (options : Options) (inventory : EntraCollections → Inventory)
  (connector : MicrosoftGraphEntraReadOnlyConnector)

/-- mirrors packages/connectors-microsoft-graph/src/connector.ts:365-415 -/
def loadSnapshot : MicrosoftGraphEntraReadOnlyConnector ×
    Except String (Inventory × List (Read EntraRead JsonRecord)) :=
  match connector.snapshot with
  | some snapshot => (connector, .ok snapshot)
  | none =>
    match (answers options).run (readCollections H options.maxDriveItemDepth)
      { source := connector.collectionReader,
        complete := connector.nativeAccessReadbackComplete } with
    | (progress, .error message) =>
      ({ connector with
         collectionReader := progress.source
         nativeAccessReadbackComplete := progress.complete
         subjectsReadFromCurrentSnapshot := false }, .error message)
    | (progress, .ok collections) =>
      let snapshot := (inventory collections, progress.reads)
      ({ collectionReader := progress.source, snapshot := some snapshot
         nativeAccessReadbackComplete := progress.complete
         subjectsReadFromCurrentSnapshot := false }, .ok snapshot)

/-- mirrors packages/connectors-microsoft-graph/src/connector.ts:417-422 -/
def resetSnapshotState : MicrosoftGraphEntraReadOnlyConnector :=
  { connector with
    snapshot := none, nativeAccessReadbackComplete := true
    subjectsReadFromCurrentSnapshot := false }

/-- The snapshot of a sync: the one that a detection of drift has read before, or a new one.
mirrors packages/connectors-microsoft-graph/src/connector.ts:159-169 -/
def discoverSubjects : MicrosoftGraphEntraReadOnlyConnector ×
    Except String (Inventory × List (Read EntraRead JsonRecord)) :=
  match connector.snapshot, connector.subjectsReadFromCurrentSnapshot with
  | some snapshot, false =>
    ({ connector with subjectsReadFromCurrentSnapshot := true }, .ok snapshot)
  | _, _ =>
    match connector.resetSnapshotState.loadSnapshot H options inventory with
    | (connector, .error message) => (connector, .error message)
    | (connector, .ok snapshot) =>
      ({ connector with subjectsReadFromCurrentSnapshot := true }, .ok snapshot)

/-- What a sync gets, and the connector after it.
mirrors packages/connectors-microsoft-graph/src/connector.ts:171-181, 227-237 -/
def discovery : MicrosoftGraphEntraReadOnlyConnector × Discovery :=
  match connector.discoverSubjects H options inventory with
  | (connector, .error message) => (connector, failedDiscovery message)
  | (connector, .ok snapshot) =>
    (connector, snapshot.1.discovery connector.nativeAccessReadbackComplete)

/-- A sync after a detection of drift uses its snapshot. -/
theorem discovery_kept {snapshot : Inventory × List (Read EntraRead JsonRecord)}
    (hsnapshot : connector.snapshot = some snapshot)
    (hunread : connector.subjectsReadFromCurrentSnapshot = false) :
    (connector.discovery H options inventory).2 =
      snapshot.1.discovery connector.nativeAccessReadbackComplete := by
  unfold discovery discoverSubjects
  rw [hsnapshot, hunread]

/-- Any other one reads a new one. -/
theorem discoverSubjects_load
    (hload : connector.snapshot = none ∨ connector.subjectsReadFromCurrentSnapshot = true) :
    connector.discoverSubjects H options inventory =
      match connector.resetSnapshotState.loadSnapshot H options inventory with
      | (connector, .error message) => (connector, .error message)
      | (connector, .ok snapshot) =>
        ({ connector with subjectsReadFromCurrentSnapshot := true }, .ok snapshot) := by
  unfold discoverSubjects
  rcases hload with hnone | hread
  · rw [hnone]
  · rw [hread]
    cases connector.snapshot <;> rfl

theorem discovery_load
    (hload : connector.snapshot = none ∨ connector.subjectsReadFromCurrentSnapshot = true) :
    (connector.discovery H options inventory).2 =
      match (answers options).run (readCollections H options.maxDriveItemDepth)
        { source := connector.collectionReader, complete := true } with
      | (_, .error message) => failedDiscovery message
      | (progress, .ok collections) => (inventory collections).discovery progress.complete := by
  unfold discovery
  rw [connector.discoverSubjects_load H options inventory hload]
  unfold loadSnapshot resetSnapshotState
  dsimp only
  generalize (answers options).run (readCollections H options.maxDriveItemDepth) _ = result
  obtain ⟨progress, message | collections⟩ := result
  · rfl
  · rfl

end MicrosoftGraphEntraReadOnlyConnector

end AccessKit.L5.Entra
