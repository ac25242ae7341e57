import AccessKit.Core.Reading
import AccessKit.L5Runtime.GraphRuntime

/-!
# Reads from a provider

What the two connectors share: the answers of a provider, which may differ from call to
call, the retries of a throttled call, and what a connector hands to the runtime from the
snapshot that it has read
(packages/connectors-aws/src/index.ts, packages/connectors-microsoft-graph/src/connector.ts).

Results:
* `readAll_discovery`: the grants that a sync gets.
* `sync_discovery`: what it stores.
-/
namespace AccessKit.L5
open AccessKit.Core AccessKit.L1 AccessKit.L2.Store
open InMemoryRebacStore (RebacSeedData)

/-! ## Answers -/

/-- A page of a collection. `next` is the token or the link of the next page. -/
structure ProviderPage where
  value : List JsonRecord
  next : Option String := none
  deltaLink : Option String := none
  status : Option Nat := none

/-- Send one request until it is not throttled, up to `retries` times more. It comes back
with the number of calls, and with none where it was throttled to the end.
mirrors packages/connectors-aws/src/index.ts:469-491,
packages/connectors-microsoft-graph/src/collection-reader.ts:98-133 -/
def fetchPage {P : Type} (send : Nat → Except String P) (throttled : P → Bool) :
    Nat → Nat → Nat × Except String (Option P)
  | retries, calls =>
    match send calls with
    | .error message => (calls + 1, .error message)
    | .ok page =>
      if throttled page then
        match retries with
        | 0 => (calls + 1, .ok none)
        | retries + 1 => fetchPage send throttled retries (calls + 1)
      else (calls + 1, .ok (some page))

/-- A field that names something: a string that is not empty. -/
def recordId (record : JsonRecord) (key : String) : Option String :=
  match JsonRecord.get record key with
  | .str s => truthy (some s)
  | _ => none

/-! ## Snapshots -/

/-- What a connector makes of what it read. -/
structure Inventory where
  subjects : List Subject
  resources : List Resource
  relationships : List RelationshipTuple
  grantsByResource : CanonicalId → List NativeGrant

namespace Inventory

/-- What the runtime gets from a connector with a snapshot. -/
def discovery (inventory : Inventory) (nativeAccessReadbackComplete : Bool) : Discovery where
  subjects := .ok inventory.subjects
  resources := .ok inventory.resources
  relationships := .ok inventory.relationships
  readCurrentAccess _ resourceId := .ok (inventory.grantsByResource resourceId)
  nativeAccessReadbackComplete := some nativeAccessReadbackComplete

/-- The subjects, resources and relationships. -/
def records (inventory : Inventory) : List GraphRecord :=
  inventory.subjects.map .subject ++ inventory.resources.map .resource ++
    inventory.relationships.map .relationship

/-- The grants on the discovered resources. -/
def syncGrants (inventory : Inventory) : List NativeGrant :=
  inventory.resources.flatMap fun resource => inventory.grantsByResource resource.id

end Inventory

/-- What the runtime gets from a connector that throws. -/
def failedDiscovery (message : String) : Discovery where
  subjects := .error message
  resources := .error message
  relationships := .error message
  readCurrentAccess _ _ := .error message

theorem Inventory.readAll_discovery (inventory : Inventory) (complete : Bool) :
    (inventory.discovery complete).readAll inventory.resources = .ok inventory.syncGrants := by
  have hall : ∀ calls : List (Resource × Nat),
      (calls.mapM fun call => (inventory.discovery complete).readCurrentAccess call.2 call.1.id) =
        .ok (calls.map fun call => inventory.grantsByResource call.1.id) := by
    intro calls
    induction calls with
    | nil => rfl
    | cons call calls ih =>
      rw [List.mapM_cons, ih]
      rfl
  rw [Discovery.readAll, hall]
  show Except.ok _ = Except.ok _
  rw [Inventory.syncGrants, List.flatMap_def]
  congr 2
  rw [show (fun call : Resource × Nat => inventory.grantsByResource call.1.id) =
    (fun resource : Resource => inventory.grantsByResource resource.id) ∘ Prod.fst from rfl,
    ← List.map_map, List.zipIdx_map_fst]

/-- **A sync** of a snapshot stores its records, and then its grants. -/
theorem sync_discovery {σ : Type} (repository : RebacGraphRepository σ) (seed : RebacSeedData)
    {app : GraphApp σ} {connectorId : String} (hknown : connectorId ∈ app.connectors)
    (inventory : Inventory) (complete : Bool) :
    (app.perform repository seed
      (.syncConnector connectorId (inventory.discovery complete))).1.store =
      (inventory.discovery complete).storeNativeGrants connectorId inventory.syncGrants
        (app.store.upsertRecords inventory.records) := by
  rw [GraphApp.sync_read hknown rfl (inventory.readAll_discovery complete), GraphApp.store_write]
  rfl

theorem sync_failed {σ : Type} (repository : RebacGraphRepository σ) (seed : RebacSeedData)
    (app : GraphApp σ) (connectorId message : String) :
    app.perform repository seed (.syncConnector connectorId (failedDiscovery message)) =
      (app, []) :=
  GraphApp.sync_unread fun _ => ⟨message, rfl⟩

end AccessKit.L5
