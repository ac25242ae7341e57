import AccessKit.L5Runtime.ProviderReads

/-!
# The AWS connector

packages/connectors-aws/src/index.ts: the reads of a snapshot, with their pages and
retries, and the flag for an incomplete readback. The snapshot is read once and kept. What
is made of the collections (packages/connectors-aws/src/discovery.ts, native-grants.ts) is a
parameter, `inventory`; a provider answers the calls one after the other.
-/
namespace AccessKit.L5.Aws
open AccessKit.Core AccessKit.L1

/-! ## Collections -/

/-- A read, with its input.
mirrors packages/connectors-aws/src/operations.ts:27-35 -/
inductive AwsReadOperation
  | describeOrganization
  | listAccounts
  | listPermissionSets
  | listAccountAssignments (accountId permissionSetArn : String)
  | listRoles
  | lookupEvents
  | listFindings
  deriving DecidableEq, Repr

namespace AwsReadOperation

/-- The scope that the connector reads a collection in is `native_grants`.
mirrors packages/connectors-aws/src/index.ts:334-343, 418-425 -/
def nativeGrants : AwsReadOperation → Bool
  | .listAccountAssignments _ _ | .lookupEvents | .listFindings => true
  | .describeOrganization | .listAccounts | .listPermissionSets | .listRoles => false

end AwsReadOperation

/-- What the connector is built with. The client gets the number of the call, the operation
and the token of the page. -/
structure Options where
  client : Nat → AwsReadOperation → Option String → Except String ProviderPage
  maxPages : Nat := 100
  maxRetries : Nat := 2

def throttled (page : ProviderPage) : Bool :=
  page.status.getD 200 = 429 ∨ page.status.getD 200 = 503

section
variable (options : Options)

/-- The pages of a collection, as long as `maxPages` allows, with the number of calls.
mirrors packages/connectors-aws/src/index.ts:445-525 -/
def readCollectionResult (operation : AwsReadOperation) :
    Nat → Option String → List JsonRecord → Nat → Nat × Except String (List JsonRecord × Bool)
  | 0, _, values, calls => (calls, .ok (values, false))
  | pages + 1, nextToken, values, calls =>
    match fetchPage (fun call => options.client call operation nextToken) throttled
      options.maxRetries calls with
    | (calls, .error message) => (calls, .error message)
    | (calls, .ok none) => (calls, .ok (values, false))
    | (calls, .ok (some page)) =>
      if 400 ≤ page.status.getD 200 then (calls, .ok (values, false))
      else
        match truthy page.next with
        | some nextToken =>
          readCollectionResult operation pages (some nextToken) (values ++ page.value) calls
        | none => (calls, .ok (values ++ page.value, true))

/-- mirrors packages/connectors-aws/src/index.ts:432-443 -/
def answers : Answers Nat AwsReadOperation JsonRecord where
  answer calls operation :=
    readCollectionResult options operation options.maxPages none [] calls
  counts := AwsReadOperation.nativeGrants

/-! ## The snapshot -/

/-- The collections of a snapshot. -/
structure AwsCollections where
  organization : List JsonRecord
  accounts : List JsonRecord
  permissionSets : List JsonRecord
  roles : List JsonRecord
  cloudTrailEvents : List JsonRecord
  analyzerFindings : List JsonRecord
  assignments : List JsonRecord

/-- mirrors packages/connectors-aws/src/index.ts:403-430 -/
def readAssignments (accounts permissionSets : List JsonRecord) :
    Reading AwsReadOperation JsonRecord (List JsonRecord) := do
  let reads ← accounts.mapM fun account =>
    match recordId account "id" with
    | none => pure []
    | some accountId => do
      let reads ← permissionSets.mapM fun permissionSet =>
        match recordId permissionSet "arn" with
        | none => pure []
        | some permissionSetArn =>
          Reading.ask (.listAccountAssignments accountId permissionSetArn)
      pure reads.flatten
  pure reads.flatten

/-- mirrors packages/connectors-aws/src/index.ts:333-343 -/
def readCollections : Reading AwsReadOperation JsonRecord AwsCollections := do
  let organization ← Reading.ask .describeOrganization
  let accounts ← Reading.ask .listAccounts
  let permissionSets ← Reading.ask .listPermissionSets
  let roles ← Reading.ask .listRoles
  let cloudTrailEvents ← Reading.ask .lookupEvents
  let analyzerFindings ← Reading.ask .listFindings
  let assignments ← readAssignments accounts permissionSets
  pure { organization, accounts, permissionSets, roles, cloudTrailEvents, analyzerFindings,
         assignments }

/-- A connector. A snapshot comes with the reads that it was made from. -/
structure AwsReadOnlyAccessAnalysisConnector where
  calls : Nat := 0
  snapshot : Option (Inventory × List (Read AwsReadOperation JsonRecord)) := none
  nativeAccessReadbackComplete : Bool := true

variable (inventory : AwsCollections → Inventory)

namespace AwsReadOnlyAccessAnalysisConnector

variable (connector : AwsReadOnlyAccessAnalysisConnector)

/-- mirrors packages/connectors-aws/src/index.ts:326-401 -/
def loadSnapshot : AwsReadOnlyAccessAnalysisConnector ×
    Except String (Inventory × List (Read AwsReadOperation JsonRecord)) :=
  match connector.snapshot with
  | some snapshot => (connector, .ok snapshot)
  | none =>
    match (answers options).run readCollections { source := connector.calls, complete := true } with
    | (progress, .error message) =>
      ({ connector with
         calls := progress.source, nativeAccessReadbackComplete := progress.complete },
       .error message)
    | (progress, .ok collections) =>
      let snapshot := (inventory collections, progress.reads)
      ({ calls := progress.source, snapshot := some snapshot,
         nativeAccessReadbackComplete := progress.complete }, .ok snapshot)

/-- What a sync gets, and the connector after it.
mirrors packages/connectors-aws/src/index.ts:158-172, 227-237 -/
def discovery : AwsReadOnlyAccessAnalysisConnector × Discovery :=
  match connector.loadSnapshot options inventory with
  | (connector, .error message) => (connector, failedDiscovery message)
  | (connector, .ok snapshot) =>
    (connector, snapshot.1.discovery connector.nativeAccessReadbackComplete)

end AwsReadOnlyAccessAnalysisConnector

end

end AccessKit.L5.Aws
