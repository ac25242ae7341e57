import AccessKit.L1Domain.Js

/-!
# The records of the access graph

packages/core/src/domain/shared.ts. The entities the store keeps and the
engine reads, with the optional properties of the source as options.
-/
namespace AccessKit.L1

abbrev CanonicalId := String

abbrev IsoDateTime := String

inductive SubjectType
  | user
  | group
  | serviceAccount
  | servicePrincipal
  | managedIdentity
  | device
  | workload
  deriving DecidableEq, Repr

/-- The string literal of the source. -/
def SubjectType.name : SubjectType → String
  | .user => "user"
  | .group => "group"
  | .serviceAccount => "service_account"
  | .servicePrincipal => "service_principal"
  | .managedIdentity => "managed_identity"
  | .device => "device"
  | .workload => "workload"

inductive ResourceType
  | organization
  | workspace
  | application
  | sharepointSite
  | team
  | folder
  | document
  | powerApp
  | flow
  | dataverseEnvironment
  | awsAccount
  | awsRole
  | dataset
  | api
  deriving DecidableEq, Repr

/-- The string literal of the source. -/
def ResourceType.name : ResourceType → String
  | .organization => "organization"
  | .workspace => "workspace"
  | .application => "application"
  | .sharepointSite => "sharepoint_site"
  | .team => "team"
  | .folder => "folder"
  | .document => "document"
  | .powerApp => "power_app"
  | .flow => "flow"
  | .dataverseEnvironment => "dataverse_environment"
  | .awsAccount => "aws_account"
  | .awsRole => "aws_role"
  | .dataset => "dataset"
  | .api => "api"

inductive LifecycleState
  | active
  | inactive
  | suspended
  | terminated
  | deleted
  deriving DecidableEq, Repr

/-- The string literal of the source. -/
def LifecycleState.name : LifecycleState → String
  | .active => "active"
  | .inactive => "inactive"
  | .suspended => "suspended"
  | .terminated => "terminated"
  | .deleted => "deleted"

inductive DecisionValue
  | allow
  | deny
  deriving DecidableEq, Repr

inductive RelationshipStatus
  | active
  | expired
  | deleted
  deriving DecidableEq, Repr

/-- The string literal of the source. -/
def RelationshipStatus.name : RelationshipStatus → String
  | .active => "active"
  | .expired => "expired"
  | .deleted => "deleted"

/-- mirrors packages/core/src/domain/shared.ts:49-64 -/
structure Subject where
  id : CanonicalId
  version : String
  createdAt : IsoDateTime
  updatedAt : Option IsoDateTime := none
  type : SubjectType
  displayName : String
  sourceSystem : String
  lifecycleState : LifecycleState
  identifiers : List (String × String) := []
  attributes : Option JsonRecord := none
  lastSeenAt : Option IsoDateTime := none

/-- mirrors packages/core/src/domain/shared.ts:66-78 -/
structure Resource where
  id : CanonicalId
  version : String
  createdAt : IsoDateTime
  updatedAt : Option IsoDateTime := none
  type : ResourceType
  displayName : String
  sourceSystem : String
  ownerId : CanonicalId
  dataStewardId : CanonicalId
  technicalOwnerId : CanonicalId
  classification : String
  lifecycleState : LifecycleState
  parentId : Option CanonicalId := none
  attributes : Option JsonRecord := none
  lastSeenAt : Option IsoDateTime := none

/-- mirrors packages/core/src/domain/shared.ts:80-90 -/
structure RelationshipTuple where
  id : CanonicalId
  version : String
  createdAt : IsoDateTime
  updatedAt : Option IsoDateTime := none
  subjectId : CanonicalId
  relation : String
  objectId : CanonicalId
  sourceSystem : String
  assertedAt : IsoDateTime
  assertedBy : Option CanonicalId := none
  expiresAt : Option IsoDateTime := none
  status : RelationshipStatus
  attributes : Option JsonRecord := none

/-- mirrors packages/core/src/domain/shared.ts:92-103 -/
structure DecisionRequest where
  subjectId : CanonicalId
  action : String
  resourceId : CanonicalId
  context : Option JsonRecord := none
  policyVersion : Option String := none
  modelVersion : Option String := none
  relationshipVersion : Option String := none
  tupleVersion : Option String := none
  contextVersion : Option String := none
  asOf : Option IsoDateTime := none

/-- mirrors packages/core/src/domain/shared.ts:105-109 -/
structure RelationshipPathStep where
  subjectId : CanonicalId
  relation : String
  objectId : CanonicalId
  deriving DecidableEq, Repr

inductive NativeGrantType
  | direct
  | inherited
  | group
  deriving DecidableEq, Repr

inductive NativePrincipalType
  | user
  | group
  | serviceAccount
  | servicePrincipal
  | managedIdentity
  | externalUser
  | unknown
  deriving DecidableEq, Repr

inductive NativeGrantStatus
  | observed
  | managed
  | revoked
  | unknown
  deriving DecidableEq, Repr

/-- mirrors packages/core/src/domain/shared.ts:140-153 -/
structure NativeGrant where
  id : CanonicalId
  version : String
  createdAt : IsoDateTime
  updatedAt : Option IsoDateTime := none
  targetPlatform : String
  targetObjectId : CanonicalId
  subjectId : CanonicalId
  principalType : NativePrincipalType
  nativePermission : String
  grantType : NativeGrantType
  sourceConnectorId : String
  status : NativeGrantStatus
  observedAt : IsoDateTime
  inheritedFromObjectId : Option CanonicalId := none
  expiresAt : Option IsoDateTime := none
  attributes : Option JsonRecord := none

end AccessKit.L1
