/-
  Every writer of the store.

  For each method that writes, the commands it sends.  Methods over records that no other
  module looks into take those records, and the texts their checks have passed, as
  arguments; the methods modelled elsewhere compute them.  A refused or interrupted method
  has sent a prefix of its commands, so a step (`StoreStep`) commits any prefix; atomic
  pipelines are among them.
-/
import RustyAuth.Store.FleetSystem
import RustyAuth.Store.Management
import RustyAuth.Store.Webhooks
import RustyAuth.Store.Snapshot
import RustyAuth.Analytics.Projector

namespace RustyAuth

open RustyAuth.Library

/-! ## Accounts -/

/-- `users`, `credentials`, `recovery`, `verification` and `invitations`.  An
    invitation is its stored text. -/
inductive AccountOp
  | createUserWithPasskey (userId : Uuid) (user : User) (kind : IdentifierKind)
      (identifier credentialId : String) (invitation : Option (Uuid × String × String))
      (events : List AuthEvent)
  | addIdentifier (userId : Uuid) (user : User) (kind : IdentifierKind) (identifier : String)
      (events : List AuthEvent)
  | removeIdentifier (userId : Uuid) (user : User) (kind : IdentifierKind) (identifier : String)
      (events : List AuthEvent)
  | setPrimaryIdentifier (userId : Uuid) (user : User) (events : List AuthEvent)
  | setIdentifierVerification (userId : Uuid) (user : User) (events : List AuthEvent)
  | updateProfile (userId : Uuid) (user : User) (events : List AuthEvent)
  | applyAuthentication (userId : Uuid) (user : User)
  | addPasskey (userId : Uuid) (user : User) (credentialId : String) (events : List AuthEvent)
  | renamePasskey (userId : Uuid) (user : User) (events : List AuthEvent)
  | revokePasskey (userId : Uuid) (user : User) (credentialId : String) (events : List AuthEvent)
  | rotateRecoveryCodes (userId : Uuid) (user : User) (events : List AuthEvent)
  | consumeRecoveryCode (userId : Uuid) (user : User) (events : List AuthEvent)
  | addRecoveryPasskey (userId : Uuid) (user : User) (credentialId : String) (events : List AuthEvent)
  | revokeAllSessions (userId : Uuid) (user : User) (events : List AuthEvent)
  | createIdentifierVerification (id : Uuid) (challenge : String) (events : List AuthEvent)
  | consumeIdentifierVerification (id : Uuid)
  | deleteIdentifierVerification (id : Uuid)
  | createAccountInvitation (id : Uuid) (invitation digest : String) (events : List AuthEvent)
  | consumeAccountInvitationClaim (id : Uuid) (invitation digest : String)
      (events : List AuthEvent)
  | revokeAccountInvitation (id : Uuid) (invitation digest : String) (events : List AuthEvent)

/-- `VERIFICATION_SECONDS`. -/
def verificationSeconds : Nat := 900

def persistUserWithEvent (userId : Uuid) (user : User) (events : List AuthEvent) : List Write :=
  .set (.user userId) user :: Db.queueEvents events

/-- The legacy index of email addresses, beside the one of identifiers. -/
def emailIndex (kind : IdentifierKind) (write : Write) : List Write :=
  if kind = .email then [write] else []

/-- `add_passkey` and `add_recovery_passkey` store the user and the index of the credential. -/
def storePasskey (userId : Uuid) (user : User) (credentialId : String) (events : List AuthEvent) :
    List Write :=
  [.set (.user userId) user, .set (.credential credentialId) userId] ++ Db.queueEvents events

/-- A used or revoked invitation loses its code. -/
def closeInvitation (id : Uuid) (invitation digest : String) : List Write :=
  [.set (.invitation id) invitation, .del (.invitationCode digest)]

def AccountOp.commands : AccountOp → List Write
  | .createUserWithPasskey userId user kind identifier credentialId invitation events =>
      [.set (.user userId) user, .set (.identifier kind identifier) userId,
        .set (.credential credentialId) userId] ++
      emailIndex kind (.set (.email identifier) userId) ++ Db.queueEvents events ++
      invitation.toList.flatMap fun (id, record, digest) => closeInvitation id record digest
  | .addIdentifier userId user kind identifier events =>
      [.set (.user userId) user, .set (.identifier kind identifier) userId] ++
      emailIndex kind (.set (.email identifier) userId) ++ Db.queueEvents events
  | .removeIdentifier userId user kind identifier events =>
      [.set (.user userId) user, .del (.identifier kind identifier)] ++
      emailIndex kind (.del (.email identifier)) ++ Db.queueEvents events
  | .setPrimaryIdentifier userId user events => persistUserWithEvent userId user events
  | .setIdentifierVerification userId user events => persistUserWithEvent userId user events
  | .updateProfile userId user events => persistUserWithEvent userId user events
  | .applyAuthentication userId user => [.set (.user userId) user]
  | .addPasskey userId user credentialId events => storePasskey userId user credentialId events
  | .renamePasskey userId user events => persistUserWithEvent userId user events
  | .revokePasskey userId user credentialId events =>
      [.set (.user userId) user, .del (.credential credentialId)] ++ Db.queueEvents events
  | .rotateRecoveryCodes userId user events => persistUserWithEvent userId user events
  | .consumeRecoveryCode userId user events => persistUserWithEvent userId user events
  | .addRecoveryPasskey userId user credentialId events =>
      storePasskey userId user credentialId events
  | .revokeAllSessions userId user events => persistUserWithEvent userId user events
  | .createIdentifierVerification id challenge events =>
      .setEx (.identifierVerification id) challenge verificationSeconds :: Db.queueEvents events
  | .consumeIdentifierVerification id => [.del (.identifierVerification id)]
  | .deleteIdentifierVerification id => [.del (.identifierVerification id)]
  | .createAccountInvitation id invitation digest events =>
      [.set (.invitation id) invitation, .set (.invitationCode digest) id.text] ++
        Db.queueEvents events
  | .consumeAccountInvitationClaim id invitation digest events =>
      closeInvitation id invitation digest ++ Db.queueEvents events
  | .revokeAccountInvitation id invitation digest events =>
      closeInvitation id invitation digest ++ Db.queueEvents events

/-! ## Sessions and ceremonies -/

/-- `sessions` and `ceremonies`.  Sessions and handoffs lie under the digest of their token. -/
inductive SessionOp
  | applyAuthenticationAndCreateSession (userId : Uuid) (user : User) (digest : String)
      (session : Session) (absoluteSeconds : Nat) (events : List AuthEvent)
  | createSession (digest : String) (session : Session) (absoluteSeconds : Nat)
      (events : List AuthEvent)
  -- `session`: one found invalid is removed
  | readSession (digest : String)
  | deleteSession (digest : String)
  -- `none` when the session has expired
  | markSessionStepUp (digest : String) (stepped : Option (Session × Nat))
      (events : List AuthEvent)
  -- the writer of deferred activity
  | touchSessions (touches : List (String × Nat × Nat))
  | saveRegistration (id : Uuid) (ceremony : String) (seconds : Nat)
  | takeRegistration (id : Uuid)
  | saveAuthentication (id : Uuid) (ceremony : String) (seconds : Nat)
  | takeAuthentication (id : Uuid)
  | createLocalAgentHandoff (digest handoff : String) (lifetimeSeconds : Nat)
      (events : List AuthEvent)
  | takeLocalAgentHandoff (digest : String)

def deleteSessionRecords (digest : String) : List Write :=
  [.del (.session digest), .del (.sessionActivity digest)]

def SessionOp.commands : SessionOp → List Write
  | .applyAuthenticationAndCreateSession userId user digest session absoluteSeconds events =>
      [.set (.user userId) user, .setEx (.session digest) session absoluteSeconds] ++
        Db.queueEvents events
  | .createSession digest session absoluteSeconds events =>
      .setEx (.session digest) session absoluteSeconds :: Db.queueEvents events
  | .readSession digest => deleteSessionRecords digest
  | .deleteSession digest => deleteSessionRecords digest
  | .markSessionStepUp digest none _ => [.del (.session digest)]
  | .markSessionStepUp digest (some (session, seconds)) events =>
      [.setEx (.session digest) session seconds, .del (.sessionActivity digest)] ++
        Db.queueEvents events
  | .touchSessions touches =>
      touches.map fun (digest, observedAt, seconds) =>
        .setEx (.sessionActivity digest) observedAt seconds
  | .saveRegistration id ceremony seconds => [.setEx (.registration id) ceremony seconds]
  | .takeRegistration id => [.del (.registration id)]
  | .saveAuthentication id ceremony seconds => [.setEx (.authentication id) ceremony seconds]
  | .takeAuthentication id => [.del (.authentication id)]
  | .createLocalAgentHandoff digest handoff lifetimeSeconds events =>
      .setEx (.agentHandoff digest) handoff lifetimeSeconds :: Db.queueEvents events
  | .takeLocalAgentHandoff digest => [.del (.agentHandoff digest)]

/-! ## Organization, service accounts and webhooks -/

/-- `organization`, `service_accounts` and the destinations of `webhooks`. -/
inductive RealmOp
  | ensureOrganization (organization : String) (events : List AuthEvent)
  | updateOrganization (organization : String) (events : List AuthEvent)
  -- an honoured grant is only seen, a missing one may be bootstrapped
  | honourOperator (userId : Uuid) (seenAt : String)
  | bootstrapOperator (userId : Uuid) (operator : OperatorRecord) (events : List AuthEvent)
  | promoteOperator (userId : Uuid) (operator : OperatorRecord) (events : List AuthEvent)
  | demoteOperator (userId : Uuid) (operator : OperatorRecord) (events : List AuthEvent)
  | createServiceAccount (id : Uuid) (account : String) (events : List AuthEvent)
  | updateServiceAccount (id : Uuid) (account : String) (events : List AuthEvent)
  | createServiceCredential (id : Uuid) (account digest locator : String)
      (events : List AuthEvent)
  | revokeServiceCredential (id : Uuid) (account : String) (digests : List String)
      (events : List AuthEvent)
  | exchangeServiceCredential (id : Uuid) (account : String) (events : List AuthEvent)
  | putWebhook (id : String) (webhook : WebhookRecord) (events : List AuthEvent)
  | updateWebhookRuntime (id : String) (webhook : WebhookRecord)
  | removeWebhook (id : String) (events : List AuthEvent)
  | setWebhookCursor (id : String) (sequence : Nat)

/-- The three ways to store an operator append an event of their own. -/
def storeOperator (userId : Uuid) (operator : OperatorRecord) (events : List AuthEvent) :
    List Write :=
  .set (.operator userId) operator :: Db.queueEvents events

def storeServiceAccount (id : Uuid) (account : String) (index : List Write)
    (events : List AuthEvent) : List Write :=
  .set (.serviceAccount id) account :: index ++ Db.queueEvents events

def RealmOp.commands : RealmOp → List Write
  | .ensureOrganization organization events =>
      .set .organization organization :: Db.queueEvents events
  | .updateOrganization organization events =>
      .set .organization organization :: Db.queueEvents events
  | .honourOperator userId seenAt => [.set (.operatorSeen userId) seenAt]
  | .bootstrapOperator userId operator events => storeOperator userId operator events
  | .promoteOperator userId operator events => storeOperator userId operator events
  | .demoteOperator userId operator events => storeOperator userId operator events
  | .createServiceAccount id account events => storeServiceAccount id account [] events
  | .updateServiceAccount id account events => storeServiceAccount id account [] events
  | .createServiceCredential id account digest locator events =>
      storeServiceAccount id account [.set (.serviceCredential digest) locator] events
  | .revokeServiceCredential id account digests events =>
      storeServiceAccount id account (digests.map (.del <| .serviceCredential ·)) events
  | .exchangeServiceCredential id account events => storeServiceAccount id account [] events
  | .putWebhook id webhook events => .set (.webhook id) webhook :: Db.queueEvents events
  | .updateWebhookRuntime id webhook => [.set (.webhook id) webhook]
  | .removeWebhook id events =>
      [.del (.webhook id), .del (.webhookCursor id)] ++ Db.queueEvents events
  | .setWebhookCursor id sequence => [.set (.webhookCursor id) sequence]

/-! ## Fleet telemetry -/

/-- `fleet_analytics`, `fleet_analytics_control` and `fleet_operations`, and the outbox of
    `analytics_store`. -/
inductive TelemetryOp
  | consumeFleetAnalyticsQuota (connectionId batchId : Uuid) (minute : Nat) (used : Nat)
      (outcome : String)
  | quarantineFleetAnalyticsBucket (id : Uuid) (record : FleetAnalyticsQuarantineRecord)
  -- the accepted revisions: realm, epoch, bucket start and record
  | acceptFleetTelemetryBatch (accepted : List (String × Nat × Nat × FleetTelemetryBucketRecord))
  | recordFleetAnalyticsIngestion (occurredAt : Nat) (id : Uuid)
      (record : FleetAnalyticsIngestionAuditRecord)
  | recordFleetAnalyticsMaintenance (occurredAt : Nat) (requestId : Uuid) (record : String)
  | registerFleetAnalyticsManifest (id : Uuid) (record : String)
  | completeFleetAnalyticsManifest (id : Uuid) (record : String)
  | updateFleetAnalyticsPolicy (organizationId requestId auditId : Uuid)
      (policy : FleetAnalyticsPolicyRecord) (idempotency audit : String) (timestamp : Nat)
  | cacheFleetOperationalSnapshot (connectionId : Uuid) (record : String)
  | deferTelemetryBucket (start revision : Nat) (record : TelemetryOutboxRecord)
  | acknowledgeTelemetryBucket (start revision : Nat)

def auditRetentionSeconds : Nat := 90 * 86400
def quarantineRetentionSeconds : Nat := 90 * 86400
def operationsCacheSeconds : Nat := 15 * 60
def quotaSeconds : Nat := 120

def TelemetryOp.commands : TelemetryOp → List Write
  | .consumeFleetAnalyticsQuota connectionId batchId minute used outcome =>
      -- `INCR`, then `EXPIRE` for the first of the minute
      [.setEx (.fleetAnalyticsQuotaBatch connectionId batchId) "pending" quotaSeconds,
        .setKeep (.fleetAnalyticsQuota connectionId minute) used,
        .setEx (.fleetAnalyticsQuota connectionId minute) used quotaSeconds,
        .setEx (.fleetAnalyticsQuotaBatch connectionId batchId) outcome quotaSeconds]
  | .quarantineFleetAnalyticsBucket id record =>
      [.setEx (.fleetAnalyticsQuarantine id) record quarantineRetentionSeconds]
  | .acceptFleetTelemetryBatch accepted =>
      accepted.map fun (realmId, assignmentEpoch, bucketStart, record) =>
        .set (.fleetAnalyticsBucket realmId assignmentEpoch bucketStart) record
  | .recordFleetAnalyticsIngestion occurredAt id record =>
      [.setEx (.fleetAnalyticsIngestionAudit occurredAt id) record auditRetentionSeconds]
  | .recordFleetAnalyticsMaintenance occurredAt requestId record =>
      [.setEx (.fleetAnalyticsMaintenanceAudit occurredAt requestId) record auditRetentionSeconds]
  | .registerFleetAnalyticsManifest id record => [.set (.fleetAnalyticsManifest id) record]
  | .completeFleetAnalyticsManifest id record => [.set (.fleetAnalyticsManifest id) record]
  | .updateFleetAnalyticsPolicy organizationId requestId auditId policy idempotency audit
      timestamp =>
      [.set (.fleetAnalyticsPolicy organizationId) policy,
        .set (.fleetAnalyticsPolicyIdempotency requestId) idempotency,
        .set (.fleetAnalyticsOperatorAudit timestamp auditId) audit]
  | .cacheFleetOperationalSnapshot connectionId record =>
      [.setEx (.fleetOperationsCache connectionId) record operationsCacheSeconds]
  | .deferTelemetryBucket start revision record => [.set (.analyticsOutbox start revision) record]
  | .acknowledgeTelemetryBucket start revision => [.del (.analyticsOutbox start revision)]

/-! ## Leases, signing keys and restores -/

/-- A record that `restore_records` is given: its key and value, and how long it still has. -/
structure RestoredRecord where
  key : Key
  value : Value key
  seconds : Option Nat

def RestoredRecord.write (record : RestoredRecord) : Write :=
  match record.seconds with
  | none => .set record.key record.value
  | some seconds => .setEx record.key record.value (max 1 seconds)

/-- `writer_lease` and `snapshot`, and the writers beside the store: signing keys, the rate
    limiter and the status of backups. -/
inductive MaintenanceOp
  | acquireWriterLease (token : String)
  -- `GETEX`: the lease that is there lives on
  | renewWriterLease (token : String)
  | releaseWriterLease
  | acquireBackupLease (token : String)
  | releaseBackupLease
  | restoreRecords (startedAt : String) (records : List RestoredRecord)
  | completeRestore
  | storeKeyset (keyset : String)
  | acquireMaintenanceLock (token : String)
  | releaseMaintenanceLock
  | checkRateLimit (namespaceId cls subject : String) (epoch : Nat) (count : String)
      (window : Nat)
  | storeBackupStatus (status : String)

def writerLeaseSeconds : Nat := 60
def backupLeaseSeconds : Nat := 3600
def maintenanceLockSeconds : Nat := 60

def MaintenanceOp.commands : MaintenanceOp → List Write
  | .acquireWriterLease token => [.setEx .writerLease token writerLeaseSeconds]
  | .renewWriterLease token => [.setEx .writerLease token writerLeaseSeconds]
  | .releaseWriterLease => [.del .writerLease]
  | .acquireBackupLease token => [.setEx .backupLease token backupLeaseSeconds]
  | .releaseBackupLease => [.del .backupLease]
  | .restoreRecords startedAt records =>
      .set .restoreSentinel startedAt :: records.map RestoredRecord.write
  | .completeRestore => [.del .restoreSentinel]
  | .storeKeyset keyset => [.set .jwtKeyset keyset]
  | .acquireMaintenanceLock token => [.setEx .jwtMaintenanceLock token maintenanceLockSeconds]
  | .releaseMaintenanceLock => [.del .jwtMaintenanceLock]
  | .checkRateLimit namespaceId cls subject epoch count window =>
      -- `INCR` and `EXPIRE` in one transaction
      [.setEx (.rateLimit namespaceId cls subject epoch) count (window * 2)]
  | .storeBackupStatus status => [.set .backupStatus status]

/-! ## The store -/

/-- What the store is built with: its tenant, and its digests. -/
structure StoreContext where
  tenantId : String
  -- SHA-256, in hexadecimal and in base64url
  sha256Hex : String → String
  credentialDigest : String → String

inductive StoreOp
  | account (op : AccountOp)
  | session (op : SessionOp)
  | realm (op : RealmOp)
  | telemetry (op : TelemetryOp)
  | maintenance (op : MaintenanceOp)
  | fleet (call : Call) (op : FleetOp)
  | appendEvents (inputs : List EventInput)
  | pruneEventsOlderThan (cutoff maximum : Nat)
  | projectAnalyticsEvents (call : ProjectorCall)
  | putWebhookDelivery (eventId : Uuid) (record : WebhookDeliveryRecord)
  | pruneWebhookDeliveriesOlderThan (cutoff limit : Nat)
  | createRealmPairing (id : Uuid) (code realmId controlPlaneOrigin : String)
      (requestedScopes : List String) (createdBy : Uuid)
  | exchangeRealmPairing (code controlPlaneOrigin controlPlaneInstanceId : String)
      (assignmentEpoch : Nat) (connectionId : Uuid) (credential : String)
  | consumeOutboundRealmPairing (code controlPlaneOrigin controlPlaneInstanceId : String)
      (assignmentEpoch : Nat) (connectionId : Uuid) (credential : String)
      (grantedScopes : List String)
  | revokeRealmFleetGrant (connectionId : Uuid)
  | rotateRealmFleetGrant (connectionId requestId : Uuid) (credential hint : String)
  | claimRemoteMutation (requestId : Uuid) (digest : String)
  | completeRemoteMutation (requestId : Uuid) (digest : String) (succeeded : Bool)
      (summary : String)

/-- The commands of a fallible operation; one that is refused sends none. -/
def sentBy {ε α : Type} : Except ε (Committed α) → List Write
  | .ok (_, writes) => writes
  | .error _ => []

def StoreOp.commands (ctx : StoreContext) (db : Db) (now : Nat) : StoreOp → List Write
  | .account op => op.commands
  | .session op => op.commands
  | .realm op => op.commands
  | .telemetry op => op.commands
  | .maintenance op => op.commands
  | .fleet call op => sentBy ((((), ·)) <$> op.exec ctx.sha256Hex db { call with now })
  | .appendEvents inputs => sentBy (db.appendEvents ctx.tenantId now inputs)
  | .pruneEventsOlderThan cutoff maximum => sentBy (db.pruneEventsOlderThan now cutoff maximum)
  | .projectAnalyticsEvents call => sentBy (RustyAuth.projectAnalyticsEvents db { call with now })
  | .putWebhookDelivery eventId record =>
      sentBy ((((), ·)) <$> RustyAuth.putWebhookDelivery db ctx.tenantId now eventId record)
  | .pruneWebhookDeliveriesOlderThan cutoff limit =>
      RustyAuth.pruneWebhookDeliveriesOlderThan db now cutoff limit
  | .createRealmPairing id code realmId controlPlaneOrigin requestedScopes createdBy =>
      (RustyAuth.createRealmPairing ctx.credentialDigest now id code realmId controlPlaneOrigin
        requestedScopes createdBy).2
  | .exchangeRealmPairing code controlPlaneOrigin instanceId assignmentEpoch connectionId
      credential =>
      (RustyAuth.exchangeRealmPairing ctx.credentialDigest db now code controlPlaneOrigin instanceId
        assignmentEpoch connectionId credential).2
  | .consumeOutboundRealmPairing code controlPlaneOrigin instanceId assignmentEpoch connectionId
      credential grantedScopes =>
      (RustyAuth.consumeOutboundRealmPairing ctx.credentialDigest db now code controlPlaneOrigin
        instanceId assignmentEpoch connectionId credential grantedScopes).2
  | .revokeRealmFleetGrant connectionId =>
      sentBy (RustyAuth.revokeRealmFleetGrant db now connectionId)
  | .rotateRealmFleetGrant connectionId requestId credential hint =>
      sentBy (RustyAuth.rotateRealmFleetGrant ctx.credentialDigest db now connectionId requestId
        credential hint)
  | .claimRemoteMutation requestId digest =>
      sentBy (RustyAuth.claimRemoteMutation db now requestId digest)
  | .completeRemoteMutation requestId digest succeeded summary =>
      sentBy (RustyAuth.completeRemoteMutation db now requestId digest succeeded summary)

/-- A method at a reading of the clock. -/
structure StoreCall where
  now : Nat
  op : StoreOp

/-- The store has taken a prefix of the commands. -/
def StoreStep (ctx : StoreContext) (db : Db) (call : StoreCall) (db' : Db) : Prop :=
  ∃ sent, sent <+: call.op.commands ctx db call.now ∧ db' = commit call.now db sent

/-- The step that is not interrupted. -/
def storeApply (ctx : StoreContext) (db : Db) (call : StoreCall) : Db :=
  commit call.now db (call.op.commands ctx db call.now)

theorem storeStep_storeApply (ctx : StoreContext) (db : Db) (call : StoreCall) :
    StoreStep ctx db call (storeApply ctx db call) :=
  ⟨_, List.prefix_refl _, rfl⟩

/-- The state after some calls, none of them interrupted. -/
def storeRun (ctx : StoreContext) (calls : List StoreCall) : Db :=
  calls.foldl (storeApply ctx) Keyspace.empty

theorem run_storeRun (ctx : StoreContext) (calls : List StoreCall) :
    Run (StoreStep ctx) Keyspace.empty calls (storeRun ctx calls) := by
  have hrun : ∀ db, Run (StoreStep ctx) db calls (calls.foldl (storeApply ctx) db) := by
    induction calls with
    | nil => exact fun db => .nil db
    | cons call calls ih => exact fun db => .cons (storeStep_storeApply ctx db call) (ih _)
  exact hrun _

/-- Digests that show what they are of. -/
def sampleStore : StoreContext where
  tenantId := "acme"
  sha256Hex text := "hex-" ++ text
  credentialDigest text := "digest-" ++ text

end RustyAuth
