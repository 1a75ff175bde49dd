/-
  Records of the RustyAuth store.

  One structure for each record the modelled code reads or writes, with the
  fields of the source.  Time is whole seconds of one clock shared by the
  processes and the database; identifiers are 128-bit UUIDs.  Values drawn from
  a random source (`Uuid::new_v4`, fresh secrets) are inputs of the operations,
  never computed here.
-/
import RustyAuth.Library.Digits

namespace RustyAuth

/-- The largest `u64`. -/
def u64Max : Nat := 2 ^ 64 - 1

/-- `u64::saturating_add`. -/
def satAdd (a b : Nat) : Nat := min (a + b) u64Max

/-! ## Identifiers -/

structure Uuid where
  bits : BitVec 128
deriving DecidableEq

instance (n : Nat) : OfNat Uuid n := ⟨⟨BitVec.ofNat 128 n⟩⟩

/-- The 32 hexadecimal digits of an identifier. -/
def Uuid.hex (id : Uuid) : List Char := Library.digits 16 32 id.bits.toNat

/-- The hyphenated text form, `xxxxxxxx-xxxx-xxxx-xxxx-xxxxxxxxxxxx`. -/
def Uuid.text (id : Uuid) : String :=
  String.ofList (id.hex.take 8 ++ '-' :: (id.hex.drop 8).take 4 ++ '-' :: (id.hex.drop 12).take 4 ++
    '-' :: (id.hex.drop 16).take 4 ++ '-' :: id.hex.drop 20)

/-- A number written with the `{:020}` format; every `u64` fits. -/
def padded (n : Nat) : String := String.ofList (Library.digits 10 20 n)

/-! ## Errors the store reports as policy -/

/-- The variants of `StorePolicyError` that modelled operations return. -/
inductive StorePolicyError
  | fleetResourceMissing
  | fleetSlugConflict
  | fleetParentArchived
  | fleetHasActiveChildren
  | fleetIdempotencyConflict
  | fleetConnectionAttemptExpired
  | fleetConnectionConflict
  | realmPairingInvalid
  | realmFleetGrantInvalid
  | remoteMutationIdempotencyConflict
  | remoteMutationPending
  | userMissing
  | identifierAlreadyExists
  | identifierLimit
  | identifierNotLinked
  | finalIdentifier
  | credentialAlreadyExists
  | credentialNotLinked
  | finalCredential
deriving DecidableEq

/-! ## Accounts and sessions -/

inductive IdentifierKind
  | email
  | phone
deriving DecidableEq

structure IdentifierValue where
  kind : IdentifierKind
  value : String
deriving DecidableEq

structure AccountIdentifier where
  kind : IdentifierKind
  value : String
  verified : Bool
  verifiedAt : Option Nat
  primary : Bool
  createdAt : Nat
deriving DecidableEq

structure AccountProfile where
  givenName : Option String
  familyName : Option String
  displayName : Option String
deriving DecidableEq

structure RecoveryCodeRecord where
  digest : String
  createdAt : Nat
deriving DecidableEq

/-- The credential itself, `passkey`, belongs to the WebAuthn library and is kept as its text;
    `id` is its credential id. -/
structure StoredPasskey where
  id : String
  label : String
  counter : Nat
  createdAt : Nat
  lastUsedAt : Option Nat
  passkey : String
deriving DecidableEq

structure User where
  id : Uuid
  email : String
  emailVerified : Bool
  profile : AccountProfile
  identifiers : List AccountIdentifier
  sessionVersion : Nat
  recoveryCodes : List RecoveryCodeRecord
  createdAt : Nat
  passkeys : List StoredPasskey
deriving DecidableEq

structure Session where
  id : Uuid
  userId : Uuid
  authMethod : String
  currentCredentialId : Option String
  sessionVersion : Nat
  createdAt : Nat
  stepUpAt : Option Nat
  lastSeenAt : Nat
  absoluteExpiresAt : Nat
deriving DecidableEq

/-! ## The Fleet resource hierarchy -/

inductive FleetResourceStateRecord
  | active
  | archived
deriving DecidableEq

inductive FleetEnvironmentKindRecord
  | development
  | preview
  | staging
  | production
deriving DecidableEq

inductive FleetConnectionModeRecord
  | publicEndpoint
  | outboundConnector
deriving DecidableEq

inductive FleetConnectionStateRecord
  | pending
  | verifying
  | healthy
  | degraded
  | offline
  | revoked
deriving DecidableEq

inductive FleetResourceKindRecord
  | organization
  | project
  | environment
deriving DecidableEq

inductive FleetRoleRecord
  | owner
  | administrator
  | operator
  | support
  | auditor
deriving DecidableEq

structure FleetOrganizationRecord where
  id : Uuid
  slug : String
  name : String
  state : FleetResourceStateRecord
  createdAt : Nat
  updatedAt : Nat
  archivedAt : Option Nat
deriving DecidableEq

structure FleetProjectRecord where
  id : Uuid
  organizationId : Uuid
  slug : String
  name : String
  description : String
  state : FleetResourceStateRecord
  createdAt : Nat
  updatedAt : Nat
  archivedAt : Option Nat
deriving DecidableEq

structure FleetEnvironmentRecord where
  id : Uuid
  organizationId : Uuid
  projectId : Uuid
  slug : String
  name : String
  kind : FleetEnvironmentKindRecord
  provider : String
  region : String
  state : FleetResourceStateRecord
  createdAt : Nat
  updatedAt : Nat
  archivedAt : Option Nat
deriving DecidableEq

/-- A credential sealed under a wrapping key of the control plane. -/
structure EncryptedFleetCredential where
  wrappingKeyId : String
  nonce : String
  ciphertext : String
deriving DecidableEq

structure FleetConnectionAttemptRecord where
  id : Uuid
  organizationId : Uuid
  projectId : Uuid
  environmentId : Uuid
  mode : FleetConnectionModeRecord
  managementEndpoint : String
  pairingCodeDigest : Option String
  createdBy : Uuid
  createdAt : Nat
  expiresAt : Nat
deriving DecidableEq

structure FleetConnectionRecord where
  id : Uuid
  organizationId : Uuid
  projectId : Uuid
  environmentId : Uuid
  realmId : String
  assignmentEpoch : Nat
  displayName : String
  mode : FleetConnectionModeRecord
  managementEndpoint : String
  credential : EncryptedFleetCredential
  credentialHint : String
  stagedCredential : Option EncryptedFleetCredential
  stagedCredentialHint : Option String
  credentialRotationRequestId : Option Uuid
  deploymentVersion : String
  protocolVersion : String
  capabilities : List (String × Nat)
  grantedScopes : List String
  issuer : String
  rpId : String
  state : FleetConnectionStateRecord
  lastSeenAt : Option Nat
  createdAt : Nat
  updatedAt : Nat
  revokedAt : Option Nat
deriving DecidableEq

/-- Capabilities, a name and a version, are compared as pairs. -/
instance lawfulBEqCapability : LawfulBEq (String × Nat) := inferInstance

/-! ### Telemetry of the realms -/

/-- An accepted revision of one bucket of one realm; the payload is the encoded bucket. -/
structure FleetTelemetryBucketRecord where
  organizationId : Uuid
  projectId : Uuid
  environmentId : Uuid
  connectionId : Uuid
  realmId : String
  assignmentEpoch : Nat
  bucketStartUnixMilliseconds : Int
  bucketWidthSeconds : Nat
  metricSchemaVersion : Int
  revision : Nat
  firstEventSequence : Nat
  lastEventSequence : Nat
  batchId : Uuid
  payloadBase64url : String
  acceptedAt : Nat
deriving DecidableEq

inductive FleetAnalyticsResidencyRecord
  | rollupsOnly
  | customerOwnedArchive
  | centralLandingArchive
deriving DecidableEq

structure FleetAnalyticsPolicyRecord where
  organizationId : Uuid
  enabled : Bool
  canonicalRetentionDays : Nat
  residency : FleetAnalyticsResidencyRecord
  maxBucketsPerMinutePerRealm : Nat
  updatedAt : Nat
  updatedBy : Option Uuid
deriving DecidableEq

structure FleetAnalyticsIngestionAuditRecord where
  id : Uuid
  organizationId : Uuid
  connectionId : Uuid
  batchId : Uuid
  outcome : String
  reason : String
  bucketCount : Nat
  occurredAt : Nat
deriving DecidableEq

structure FleetAnalyticsQuarantineRecord where
  id : Uuid
  organizationId : Uuid
  connectionId : Uuid
  realmId : String
  assignmentEpoch : Nat
  bucketStartUnixMilliseconds : Int
  revision : Nat
  payloadSha256 : String
  reason : String
  quarantinedAt : Nat
deriving DecidableEq

structure FleetRoleBindingRecord where
  id : Uuid
  operatorId : Uuid
  resourceKind : FleetResourceKindRecord
  resourceId : Uuid
  role : FleetRoleRecord
  createdBy : Uuid
  createdAt : Nat
  revokedBy : Option Uuid
  revokedAt : Option Nat
deriving DecidableEq

structure FleetAuditRecord where
  id : Uuid
  requestId : Uuid
  operatorId : Uuid
  action : String
  resourceKind : String
  resourceId : Uuid
  organizationId : Option Uuid
  projectId : Option Uuid
  environmentId : Option Uuid
  reason : String
  occurredAt : Nat
deriving DecidableEq

structure FleetIdempotencyRecord where
  action : String
  resourceId : Uuid
deriving DecidableEq

/-! ## The realm's side of a Fleet connection -/

structure RealmPairingRecord where
  id : Uuid
  realmId : String
  controlPlaneOrigin : String
  requestedScopes : List String
  createdBy : Uuid
  createdAt : Nat
  expiresAt : Nat
deriving DecidableEq

structure RealmFleetGrantRecord where
  connectionId : Uuid
  realmId : String
  controlPlaneOrigin : String
  controlPlaneInstanceId : String
  assignmentEpoch : Nat
  credentialDigest : String
  credentialHint : String
  grantedScopes : List String
  createdAt : Nat
  expiresAt : Nat
  revokedAt : Option Nat
deriving DecidableEq

structure RealmFleetGrantRotationRecord where
  connectionId : Uuid
  credentialDigest : String
  completedAt : Nat
deriving DecidableEq

inductive RemoteMutationState
  | pending
  | completed
deriving DecidableEq

structure RemoteMutationReceipt where
  digest : String
  state : RemoteMutationState
  claimedAt : Nat
  completedAt : Option Nat
  succeeded : Option Bool
  summary : String
deriving DecidableEq

/-! ## Operators -/

inductive OperatorRoleRecord
  | owner
  | administrator
  | support
  | auditor
deriving DecidableEq

/-- Revocation is a tombstone: the record stays, with `revokedAt` set. -/
structure OperatorRecord where
  userId : Uuid
  role : OperatorRoleRecord
  createdAt : Nat
  revokedAt : Option Nat
deriving DecidableEq

/-! ## Webhooks and their deliveries -/

inductive WebhookStatusRecord
  | active
  | paused
  | failing
deriving DecidableEq

inductive WebhookManagementSourceRecord
  | dashboard
  | configuration
deriving DecidableEq

structure EncryptedWebhookSecret where
  wrappingKeyId : String
  nonce : String
  ciphertext : String
deriving DecidableEq

structure WebhookRecord where
  id : String
  name : String
  url : String
  status : WebhookStatusRecord
  eventTypes : List String
  secret : EncryptedWebhookSecret
  secretHint : String
  managementSource : WebhookManagementSourceRecord
  createdAt : Nat
  updatedAt : Nat
  lastDeliveryAt : Option Nat
deriving DecidableEq

inductive WebhookDeliveryStatusRecord
  | pending
  | succeeded
  | retrying
  | failed
deriving DecidableEq

structure WebhookDeliveryRecord where
  id : Uuid
  webhookId : String
  eventSequence : Nat
  eventId : Uuid
  eventType : String
  status : WebhookDeliveryStatusRecord
  attemptCount : Nat
  responseStatus : Option Nat
  latencyMilliseconds : Nat
  createdAt : Nat
  nextAttemptAt : Option Nat
  completedAt : Option Nat
  errorClass : String
deriving DecidableEq

/-! ## The event log -/

/-- What readers take from the JSON `data` of an event.  A member that is missing, or is
    not of the type its reader asks for, reads as absent; `subjectIds` are the texts of
    that array that parse as identifiers. -/
structure EventData where
  count : Option Nat
  subjectIds : List Uuid
  latencyMilliseconds : Option Nat
  outcomeClass : Option String
  backlog : Option Nat
deriving DecidableEq

/-- `empty_event_data`. -/
def emptyEventData : EventData := ⟨none, [], none, none, none⟩

structure AuthEvent where
  sequence : Nat
  id : Uuid
  tenantId : String
  eventType : String
  subject : Option Uuid
  occurredAt : Nat
  data : EventData
deriving DecidableEq

end RustyAuth
