import AccessKit.L5Runtime.ProviderReads

/-!
# The collection reader of the Microsoft Graph connector

packages/connectors-microsoft-graph/src/collection-reader.ts: a collection is read page by
page, the first time in full and then by the changes since its delta token. A read of
changes that is not completed falls back on a full one. What a read comes to is cached,
completed or not.
-/
namespace AccessKit.L5.Entra
open AccessKit.Core AccessKit.L1

/-! ## Records -/

/-- `Boolean(value)` -/
def isTruthy : JsValue → Bool
  | .undefined | .null => false
  | .bool b => b
  | .num n => n ≠ .nan && !n.strictEq (.fin 0)
  | .str s => s ≠ ""
  | .arr _ | .obj _ => true

/-- mirrors packages/connectors-microsoft-graph/src/provider-utils.ts:115-117 -/
def isGraphTombstone (record : JsonRecord) : Bool := isTruthy (JsonRecord.get record "@removed")

/-- mirrors packages/connectors-microsoft-graph/src/provider-utils.ts:111-113 -/
def graphRecordDeleted (record : JsonRecord) : Bool :=
  isTruthy (JsonRecord.get record "deletedDateTime") ||
    isTruthy (JsonRecord.get record "deleted") || isGraphTombstone record

/-- One change on the records with an id and those without.
mirrors packages/connectors-microsoft-graph/src/provider-utils.ts:98-106 -/
def applyChange (merged : OrderedMap String JsonRecord × List JsonRecord) (change : JsonRecord) :
    OrderedMap String JsonRecord × List JsonRecord :=
  match recordId change "id" with
  | none => (merged.1, merged.2 ++ [change])
  | some id =>
    match merged.1.get? id with
    | some previous =>
      let value := if isGraphTombstone change then JsonRecord.spread previous change else change
      (merged.1.set id value, merged.2)
    | none => (merged.1.set id change, merged.2)

/-- mirrors packages/connectors-microsoft-graph/src/provider-utils.ts:94-109 -/
def applyGraphDeltaChanges (cachedValues changes : List JsonRecord) : List JsonRecord :=
  let byId := cachedValues.foldl (fun byId value =>
    match recordId value "id" with
    | some id => byId.set id value
    | none => byId) (OrderedMap.empty : OrderedMap String JsonRecord)
  let anonymousValues := cachedValues.filter fun value => (recordId value "id").isNone
  let merged := changes.foldl applyChange (byId, anonymousValues)
  merged.2 ++ merged.1.values

/-! ## Pages -/

structure RecordResponse where
  value : Option JsonRecord := none
  status : Option Nat := none

/-- What the connector is built with. The client gets the number of the call. -/
structure Options where
  list : Nat → String → Except String ProviderPage
  get : Nat → String → Except String RecordResponse
  maxPages : Nat := 100
  maxRetries : Nat := 2
  maxDriveItemDepth : Nat := 8

/-- The reader between two reads. Of a delta state, what the cursor alone shows is left out.
mirrors packages/connectors-microsoft-graph/src/collection-reader.ts:24-25 -/
structure CollectionReader where
  calls : Nat := 0
  deltaStates : OrderedMap String String := .empty
  collectionCaches : OrderedMap String (List JsonRecord) := .empty

/-- How the pages of a collection end. -/
inductive PagesEnd
  /-- A limit, a permission or the throttling; with the values so far. -/
  | skipped (values : List JsonRecord)
  /-- The delta token was rejected. -/
  | stale
  | read (values : List JsonRecord) (deltaLink : Option String)

section
variable (options : Options)

/-- mirrors packages/connectors-microsoft-graph/src/collection-reader.ts:82-170 -/
def readPages (incremental : Bool) : Nat → String → List JsonRecord → Option String → Nat →
    Nat × Except String PagesEnd
  | 0, _, values, _, calls => (calls, .ok (.skipped values))
  | pages + 1, nextPath, values, deltaLink, calls =>
    match fetchPage (fun call => options.list call nextPath)
      (fun page => page.status.getD 200 = 429) options.maxRetries calls with
    | (calls, .error message) => (calls, .error message)
    | (calls, .ok none) => (calls, .ok (.skipped values))
    | (calls, .ok (some page)) =>
      if incremental ∧ page.status.getD 200 = 410 then (calls, .ok .stale)
      else if 400 ≤ page.status.getD 200 then (calls, .ok (.skipped values))
      else
        match truthy page.next with
        | some nextPath =>
          readPages incremental pages nextPath (values ++ page.value)
            (page.deltaLink.or deltaLink) calls
        | none => (calls, .ok (.read (values ++ page.value) (page.deltaLink.or deltaLink)))

namespace CollectionReader

variable (reader : CollectionReader)

/-- mirrors packages/connectors-microsoft-graph/src/collection-reader.ts:202-209 -/
def cacheCollection (cacheKey : String) (values : List JsonRecord) (completed : Bool) :
    CollectionReader × Option (List JsonRecord × Bool) :=
  ({ reader with collectionCaches := reader.collectionCaches.set cacheKey values },
    some (values, completed))

/-- Read a collection, or the changes to what is cached; none when the changes are ambiguous.
mirrors packages/connectors-microsoft-graph/src/collection-reader.ts:68-200 -/
def readCollectionPages (cacheKey startPath : String) (cachedValues : Option (List JsonRecord)) :
    CollectionReader × Except String (Option (List JsonRecord × Bool)) :=
  match readPages options cachedValues.isSome options.maxPages startPath [] none reader.calls with
  | (calls, .error message) => ({ reader with calls }, .error message)
  | (calls, .ok .stale) => ({ reader with calls }, .ok none)
  | (calls, .ok (.skipped values)) =>
    match cachedValues with
    | some _ => ({ reader with calls }, .ok none)
    | none =>
      let (reader, result) := { reader with calls }.cacheCollection cacheKey values false
      (reader, .ok result)
  | (calls, .ok (.read values deltaLink)) =>
    match truthy deltaLink, cachedValues with
    | some token, some cachedValues =>
      let (reader, result) :=
        { reader with calls, deltaStates := reader.deltaStates.set cacheKey token }.cacheCollection
          cacheKey (applyGraphDeltaChanges cachedValues values) true
      (reader, .ok result)
    | some token, none =>
      let (reader, result) :=
        { reader with calls, deltaStates := reader.deltaStates.set cacheKey token }.cacheCollection
          cacheKey values true
      (reader, .ok result)
    | none, some _ => ({ reader with calls }, .ok none)
    | none, none =>
      let (reader, result) := { reader with calls }.cacheCollection cacheKey values true
      (reader, .ok result)

/-- A full read of a collection.
mirrors packages/connectors-microsoft-graph/src/collection-reader.ts:65 -/
def readFull (path : String) : CollectionReader × Except String (List JsonRecord × Bool) :=
  match reader.readCollectionPages options path path none with
  | (reader, .error message) => (reader, .error message)
  | (reader, .ok result) => (reader, .ok (result.getD ([], false)))

/-- mirrors packages/connectors-microsoft-graph/src/collection-reader.ts:43-66 -/
def readCollectionResult (path : String) :
    CollectionReader × Except String (List JsonRecord × Bool) :=
  match reader.deltaStates.get? path, reader.collectionCaches.get? path with
  | some token, some cachedValues =>
    match reader.readCollectionPages options path token (some cachedValues) with
    | (reader, .error message) => (reader, .error message)
    | (reader, .ok (some result)) => (reader, .ok result)
    | (reader, .ok none) =>
      { reader with deltaStates := reader.deltaStates.delete path }.readFull options path
  | _, _ => reader.readFull options path

/-- mirrors packages/connectors-microsoft-graph/src/collection-reader.ts:211-256 -/
def readRecord (path : String) : CollectionReader × Except String (Option JsonRecord) :=
  match fetchPage (fun call => options.get call path)
    (fun record => record.status.getD 200 = 429) options.maxRetries reader.calls with
  | (calls, .error message) => ({ reader with calls }, .error message)
  | (calls, .ok none) => ({ reader with calls }, .ok none)
  | (calls, .ok (some record)) =>
    ({ reader with calls }, .ok (if 400 ≤ record.status.getD 200 then none else record.value))

end CollectionReader

end

end AccessKit.L5.Entra
