import AccessKit.L2Graph.Store

/-!
# The local engine fixture

packages/core/src/fixtures.ts: the small graph the engine's own tests run on,
with the pieces it is made of. Concrete runs in this development start from
it.
-/
namespace AccessKit.L2.Fixtures
open AccessKit.L1 AccessKit.L2.Store

/-- A host for runs on ASCII strings and ISO dates, where it is never asked. -/
def plainHost : Host where
  lowerUnicode s := s
  dateLegacy _ := none
  numberToString _ := "0"
  sha256Hex s := s

def timestamp : IsoDateTime := "2026-05-21T17:00:00.000Z"

/-- An hour after the fixture was made. -/
def later : IsoDateTime := "2026-05-21T18:00:00.000Z"

def fixtureSubject (id : CanonicalId) (type : SubjectType) (displayName : String)
    (lifecycleState : LifecycleState) : Subject where
  id := id
  version := "subject:v1"
  createdAt := timestamp
  type := type
  displayName := displayName
  sourceSystem := "mock"
  lifecycleState := lifecycleState
  lastSeenAt := some timestamp

def fixtureResource (id : CanonicalId) (type : ResourceType) (displayName : String)
    (parentId : Option CanonicalId) : Resource where
  id := id
  version := "resource:v1"
  createdAt := timestamp
  type := type
  displayName := displayName
  sourceSystem := "mock"
  ownerId := "user:owner"
  dataStewardId := "user:steward"
  technicalOwnerId := "user:tech-owner"
  classification := "internal"
  lifecycleState := .active
  parentId := parentId
  lastSeenAt := some timestamp

def fixtureRelationship (id : CanonicalId) (subjectId : CanonicalId) (relation : String)
    (objectId : CanonicalId) : RelationshipTuple where
  id := id
  version := "tuple:v1"
  createdAt := timestamp
  subjectId := subjectId
  relation := relation
  objectId := objectId
  sourceSystem := "mock"
  assertedAt := timestamp
  status := .active

def alice : Subject := fixtureSubject "user:alice" .user "Alice Example" .active

def bob : Subject := fixtureSubject "user:bob" .user "Bob Suspended" .suspended

def caseTeam : Subject := fixtureSubject "group:case-team" .group "Case Team" .active

def caseWorkspace : Resource := fixtureResource "workspace:case" .workspace "Case Workspace" none

def casePlan : Resource :=
  fixtureResource "document:case-plan" .document "Case Plan" (some "workspace:case")

def aliceCaseTeam : RelationshipTuple :=
  fixtureRelationship "relationship:alice-case-team" "user:alice" "member_of" "group:case-team"

def caseTeamWorkspace : RelationshipTuple :=
  fixtureRelationship "relationship:case-team-workspace" "group:case-team" "contributor_to"
    "workspace:case"

def workspaceDocument : RelationshipTuple :=
  fixtureRelationship "relationship:workspace-document" "workspace:case" "contains"
    "document:case-plan"

/-- mirrors packages/core/src/fixtures.ts:5-109 -/
def createLocalEngineSeed : InMemoryRebacStore.RebacSeedData where
  subjects := [alice, bob, caseTeam]
  resources := [caseWorkspace, casePlan]
  relationships := [aliceCaseTeam, caseTeamWorkspace, workspaceDocument]

/-- The store of the fixture. -/
def localStore : InMemoryRebacStore := .ofSeed createLocalEngineSeed

/-- Alice asks to write the plan, in capitals. -/
def writePlan : DecisionRequest where
  subjectId := "user:alice"
  action := "WRITE"
  resourceId := "document:case-plan"

end AccessKit.L2.Fixtures
