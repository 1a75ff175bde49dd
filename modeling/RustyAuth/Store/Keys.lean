/-
  The keyspace of one RustyAuth namespace.

  Every key the service writes has a constructor here, `Key.text` is the text it
  has in the database, and `Value` the record it holds.  Records that no modelled
  function looks into are kept as text.
-/
import RustyAuth.Analytics.Messages
import RustyAuth.Library.Keyspace

namespace RustyAuth

open RustyAuth.Library

def IdentifierKind.asStr : IdentifierKind → String
  | .email => "email"
  | .phone => "phone"

def FleetResourceKindRecord.asStr : FleetResourceKindRecord → String
  | .organization => "organization"
  | .project => "project"
  | .environment => "environment"

/-! ## Keys -/

inductive Key
  -- accounts and sessions
  | user (id : Uuid)
  | email (value : String)
  | identifier (kind : IdentifierKind) (value : String)
  | credential (id : String)
  | session (digest : String)
  | sessionActivity (digest : String)
  | registration (id : Uuid)
  | authentication (id : Uuid)
  | identifierVerification (id : Uuid)
  | agentHandoff (digest : String)
  | rateLimit (namespaceId cls subject : String) (epoch : Nat)
  -- the event log
  | event (sequence : Nat)
  | eventSequence
  | eventMinSequence
  -- invitations and webhooks
  | invitation (id : Uuid)
  | invitationCode (digest : String)
  | webhook (id : String)
  | webhookCursor (id : String)
  | webhookDelivery (id : Uuid)
  | webhookDeliveryEvent (webhookId : String) (eventSequence : Nat)
  | webhookDeliveryBacklog
  -- organization, operators and service accounts
  | organization
  | operator (userId : Uuid)
  | operatorSeen (userId : Uuid)
  | serviceAccount (id : Uuid)
  | serviceCredential (digest : String)
  -- the realm's side of Fleet
  | fleetPairing (digest : String)
  | fleetGrant (connectionId : Uuid)
  | fleetGrantSecret (digest : String)
  | fleetGrantRotation (requestId : Uuid)
  | remoteMutation (requestId : Uuid)
  -- signing keys, leases and the restore marker
  | jwtKeyset
  | jwtActive
  | jwtMaintenanceLock
  | writerLease
  | backupLease
  | backupStatus
  | restoreSentinel
  -- the control plane
  | fleetOrganization (id : Uuid)
  | fleetOrganizationSlug (slug : String)
  | fleetProject (id : Uuid)
  | fleetProjectSlug (organizationId : Uuid) (slug : String)
  | fleetEnvironment (id : Uuid)
  | fleetEnvironmentSlug (projectId : Uuid) (slug : String)
  | fleetConnectionAttempt (id : Uuid)
  | fleetConnection (id : Uuid)
  | fleetRoleBinding (id : Uuid)
  | fleetRoleBindingSubject (operatorId : Uuid) (kind : FleetResourceKindRecord) (resourceId : Uuid)
  | fleetIdempotency (requestId : Uuid)
  | fleetAssignmentEpoch (digest : String)
  | fleetAudit (id : Uuid)
  | fleetOperationsCache (connectionId : Uuid)
  | fleetAnalyticsBucket (realmId : String) (assignmentEpoch bucketStart : Nat)
  | fleetAnalyticsPolicy (organizationId : Uuid)
  | fleetAnalyticsPolicyIdempotency (requestId : Uuid)
  | fleetAnalyticsQuota (connectionId : Uuid) (minute : Nat)
  | fleetAnalyticsQuotaBatch (connectionId batchId : Uuid)
  | fleetAnalyticsQuarantine (id : Uuid)
  | fleetAnalyticsIngestionAudit (occurredAt : Nat) (id : Uuid)
  | fleetAnalyticsOperatorAudit (occurredAt : Nat) (id : Uuid)
  | fleetAnalyticsMaintenanceAudit (occurredAt : Nat) (requestId : Uuid)
  | fleetAnalyticsManifest (id : Uuid)
  -- the realm's analytics
  | analyticsProjectorCursor
  | analyticsClosureCursor
  | analyticsBucket (start : Nat)
  | analyticsOutbox (start revision : Nat)
deriving DecidableEq

/-- The head of a key's family and, unless the family is one key, the name under it. -/
def Key.form : Key → String × Option String
  | .user id => ("auth:user:", some id.text)
  | .email value => ("auth:email:", some value)
  | .identifier kind value => ("auth:identifier:", some (kind.asStr ++ ":" ++ value))
  | .credential id => ("auth:credential:", some id)
  | .session digest => ("auth:session:", some digest)
  | .sessionActivity digest => ("auth:session-activity:", some digest)
  | .registration id => ("auth:registration:", some id.text)
  | .authentication id => ("auth:authentication:", some id.text)
  | .identifierVerification id => ("auth:identifier-verification:", some id.text)
  | .agentHandoff digest => ("auth:agent-handoff:", some digest)
  | .rateLimit namespaceId cls subject epoch =>
      ("auth:rate-limit:",
        some (namespaceId ++ ":" ++ cls ++ ":" ++ subject ++ ":" ++ toString epoch))
  | .event sequence => ("auth:event:", some (toString sequence))
  | .eventSequence => ("auth:event-sequence", none)
  | .eventMinSequence => ("auth:event-min-sequence", none)
  | .invitation id => ("auth:invitation:", some id.text)
  | .invitationCode digest => ("auth:invitation-code:", some digest)
  | .webhook id => ("auth:webhook:", some id)
  | .webhookCursor id => ("auth:webhook-cursor:", some id)
  | .webhookDelivery id => ("auth:webhook-delivery:", some id.text)
  | .webhookDeliveryEvent webhookId sequence =>
      ("auth:webhook-delivery-event:", some (webhookId ++ ":" ++ padded sequence))
  | .webhookDeliveryBacklog => ("auth:webhook-delivery-backlog", none)
  | .organization => ("auth:organization", none)
  | .operator userId => ("auth:operator:", some userId.text)
  | .operatorSeen userId => ("auth:operator-seen:", some userId.text)
  | .serviceAccount id => ("auth:service-account:", some id.text)
  | .serviceCredential digest => ("auth:service-credential:", some digest)
  | .fleetPairing digest => ("auth:fleet-pairing:", some digest)
  | .fleetGrant connectionId => ("auth:fleet-grant:", some connectionId.text)
  | .fleetGrantSecret digest => ("auth:fleet-grant-secret:", some digest)
  | .fleetGrantRotation requestId => ("auth:fleet-grant-rotation:", some requestId.text)
  | .remoteMutation requestId => ("auth:remote-mutation:", some requestId.text)
  | .jwtKeyset => ("auth:jwt:keyset:v1", none)
  | .jwtActive => ("auth:jwt:active", none)
  | .jwtMaintenanceLock => ("auth:jwt:maintenance-lock", none)
  | .writerLease => ("auth:writer-lease", none)
  | .backupLease => ("auth:backup:lease", none)
  | .backupStatus => ("auth:backup:status", none)
  | .restoreSentinel => ("auth:restore:in-progress", none)
  | .fleetOrganization id => ("fleet:organization:", some id.text)
  | .fleetOrganizationSlug slug => ("fleet:organization-slug:", some slug)
  | .fleetProject id => ("fleet:project:", some id.text)
  | .fleetProjectSlug organizationId slug =>
      ("fleet:project-slug:", some (organizationId.text ++ ":" ++ slug))
  | .fleetEnvironment id => ("fleet:environment:", some id.text)
  | .fleetEnvironmentSlug projectId slug =>
      ("fleet:environment-slug:", some (projectId.text ++ ":" ++ slug))
  | .fleetConnectionAttempt id => ("fleet:connection-attempt:", some id.text)
  | .fleetConnection id => ("fleet:connection:", some id.text)
  | .fleetRoleBinding id => ("fleet:role-binding:", some id.text)
  | .fleetRoleBindingSubject operatorId kind resourceId =>
      ("fleet:role-binding-subject:",
        some (operatorId.text ++ ":" ++ kind.asStr ++ ":" ++ resourceId.text))
  | .fleetIdempotency requestId => ("fleet:idempotency:", some requestId.text)
  | .fleetAssignmentEpoch digest => ("fleet:assignment-epoch:", some digest)
  | .fleetAudit id => ("fleet:audit:", some id.text)
  | .fleetOperationsCache connectionId => ("fleet:operations-cache:", some connectionId.text)
  | .fleetAnalyticsBucket realmId assignmentEpoch bucketStart =>
      ("fleet:analytics-bucket:",
        some (realmId ++ ":" ++ padded assignmentEpoch ++ ":" ++ padded bucketStart))
  | .fleetAnalyticsPolicy organizationId =>
      ("fleet:analytics-policy:", some organizationId.text)
  | .fleetAnalyticsPolicyIdempotency requestId =>
      ("fleet:analytics-policy-idempotency:", some requestId.text)
  | .fleetAnalyticsQuota connectionId minute =>
      ("fleet:analytics-quota:", some (connectionId.text ++ ":" ++ padded minute))
  | .fleetAnalyticsQuotaBatch connectionId batchId =>
      ("fleet:analytics-quota-batch:", some (connectionId.text ++ ":" ++ batchId.text))
  | .fleetAnalyticsQuarantine id => ("fleet:analytics-quarantine:", some id.text)
  | .fleetAnalyticsIngestionAudit occurredAt id =>
      ("fleet:analytics-ingestion-audit:", some (padded occurredAt ++ ":" ++ id.text))
  | .fleetAnalyticsOperatorAudit occurredAt id =>
      ("fleet:analytics-operator-audit:", some (padded occurredAt ++ ":" ++ id.text))
  | .fleetAnalyticsMaintenanceAudit occurredAt requestId =>
      ("fleet:analytics-maintenance-audit:", some (padded occurredAt ++ ":" ++ requestId.text))
  | .fleetAnalyticsManifest id => ("fleet:analytics-manifest:", some id.text)
  | .analyticsProjectorCursor => ("analytics:projector-cursor", none)
  | .analyticsClosureCursor => ("analytics:closure-cursor", none)
  | .analyticsBucket start => ("analytics:bucket:", some (padded start))
  | .analyticsOutbox start revision =>
      ("analytics:outbox:", some (padded start ++ ":" ++ padded revision))

/-- The text a key has in the database. -/
def Key.text (key : Key) : String := key.form.1 ++ key.form.2.getD ""

/-! ## Values -/

/-- The record held under a key. -/
@[reducible] def Value : Key → Type
  | .user _ => User
  | .email _ => Uuid
  | .identifier _ _ => Uuid
  | .credential _ => Uuid
  | .session _ => Session
  | .sessionActivity _ => Nat
  | .fleetPairing _ => RealmPairingRecord
  | .fleetGrant _ => RealmFleetGrantRecord
  | .fleetGrantSecret _ => Uuid
  | .fleetGrantRotation _ => RealmFleetGrantRotationRecord
  | .remoteMutation _ => RemoteMutationReceipt
  | .fleetOrganization _ => FleetOrganizationRecord
  | .fleetOrganizationSlug _ => Uuid
  | .fleetProject _ => FleetProjectRecord
  | .fleetProjectSlug _ _ => Uuid
  | .fleetEnvironment _ => FleetEnvironmentRecord
  | .fleetEnvironmentSlug _ _ => Uuid
  | .fleetConnectionAttempt _ => FleetConnectionAttemptRecord
  | .fleetConnection _ => FleetConnectionRecord
  | .fleetRoleBinding _ => FleetRoleBindingRecord
  | .fleetRoleBindingSubject _ _ _ => Uuid
  | .fleetIdempotency _ => FleetIdempotencyRecord
  | .fleetAssignmentEpoch _ => Nat
  | .fleetAudit _ => FleetAuditRecord
  | .fleetAnalyticsBucket _ _ _ => FleetTelemetryBucketRecord
  | .fleetAnalyticsPolicy _ => FleetAnalyticsPolicyRecord
  | .fleetAnalyticsQuota _ _ => Nat
  | .fleetAnalyticsQuarantine _ => FleetAnalyticsQuarantineRecord
  | .fleetAnalyticsIngestionAudit _ _ => FleetAnalyticsIngestionAuditRecord
  | .event _ => AuthEvent
  | .eventSequence => Nat
  | .eventMinSequence => Nat
  | .webhook _ => WebhookRecord
  | .webhookCursor _ => Nat
  | .webhookDelivery _ => WebhookDeliveryRecord
  | .webhookDeliveryEvent _ _ => Uuid
  | .webhookDeliveryBacklog => Nat
  | .operator _ => OperatorRecord
  | .analyticsProjectorCursor => Nat
  | .analyticsClosureCursor => Nat
  | .analyticsBucket _ => LocalMetricBucket
  | .analyticsOutbox _ _ => TelemetryOutboxRecord
  | _ => String

/-- The database of one namespace. -/
abbrev Db := Keyspace Value

/-- A state of the database and the time at which the handler meets it. -/
structure Meeting where
  db : Db
  now : Nat

/-- One queued command of a pipeline. -/
abbrev Write := Command Value

end RustyAuth
