/-
  The Fleet store: connection attempts, connections and the audit of remote mutations.

  A connection is created from an attempt (`completeFleetConnection`), observed,
  revoked, and its credential replaced in two steps: `stageFleetConnectionCredential`
  makes the next credential durable beside the active one, and
  `rotateFleetConnectionCredential` promotes it once the realm has taken it over.
-/
import RustyAuth.Store.Fleet

namespace RustyAuth

open RustyAuth.Library

/-- `FLEET_CONNECTION_ATTEMPT_SECONDS`. -/
def fleetConnectionAttemptSeconds : Nat := 600

/-! ## Attempts -/

/-- `sha256Hex` is SHA-256 in hexadecimal; only the digest of a pairing code is kept. -/
def createFleetConnectionAttempt (sha256Hex : String → String) (db : Db) (c : Call)
    (organizationId projectId environmentId : Uuid) (mode : FleetConnectionModeRecord)
    (managementEndpoint : String) (pairingCode : Option String) :
    StoreResult (Committed FleetConnectionAttemptRecord) :=
  replayOr db c "connection.begin"
      (fun id => (db.fleetConnectionAttempt c.now id).filter (c.now < ·.expiresAt))
      .fleetConnectionAttemptExpired do
    let environment ← okOr ((db.fleetEnvironment c.now environmentId).filter fun record =>
      record.organizationId = organizationId ∧ record.projectId = projectId) .fleetResourceMissing
    ensure (environment.state ≠ .archived) .fleetParentArchived
    let record : FleetConnectionAttemptRecord :=
      { id := c.newId, organizationId, projectId, environmentId, mode, managementEndpoint,
        pairingCodeDigest := pairingCode.map sha256Hex, createdBy := c.operatorId,
        createdAt := c.now, expiresAt := satAdd c.now fleetConnectionAttemptSeconds }
    return (record, persistFleetMutation c
      (.setEx (.fleetConnectionAttempt record.id) record fleetConnectionAttemptSeconds) none
      (connectionAudit "connection.begin" organizationId projectId environmentId record.id))

/-! ## Assignment epochs -/

/-- The highest epoch any connection of the realm has. -/
def Db.lastAssignmentEpoch (db : Db) (now : Nat) (realmId : String) : Nat :=
  (((db.fleetConnections now none none none true).filter (·.realmId = realmId)).map
    (·.assignmentEpoch)).max?.getD 0

/-- `SET NX` of the current maximum followed by `INCR`: the next epoch of the realm. -/
def reserveFleetAssignmentEpoch (sha256Hex : String → String) (db : Db) (now : Nat)
    (realmId : String) : Committed Nat :=
  let key := Key.fleetAssignmentEpoch (sha256Hex realmId)
  let next := (db.get now key).getD (db.lastAssignmentEpoch now realmId) + 1
  (next, [.setKeep key next])

/-! ## Connections -/

def completeFleetConnection (db : Db) (c : Call) (attemptId : Uuid)
    (record : FleetConnectionRecord) : StoreResult (Committed FleetConnectionRecord) :=
  replayOr db c "connection.complete" (db.fleetConnection c.now) .fleetResourceMissing do
    let attempt ← okOr ((db.fleetConnectionAttempt c.now attemptId).filter (c.now < ·.expiresAt))
      .fleetConnectionAttemptExpired
    ensure (record.organizationId = attempt.organizationId ∧ record.projectId = attempt.projectId ∧
      record.environmentId = attempt.environmentId ∧ record.mode = attempt.mode ∧
      record.managementEndpoint = attempt.managementEndpoint) .fleetResourceMissing
    ensure (∀ existing ∈ db.fleetConnections c.now none none (some record.environmentId) true,
      ¬(existing.realmId = record.realmId ∧ existing.state ≠ .revoked)) .fleetConnectionConflict
    ensure (record.assignmentEpoch ≠ 0 ∧
      db.lastAssignmentEpoch c.now record.realmId < record.assignmentEpoch) .fleetConnectionConflict
    let record := { record with createdAt := c.now, updatedAt := c.now }
    let audit := connectionAudit "connection.complete" record.organizationId record.projectId
      record.environmentId record.id
    -- an outbound attempt stays until its own expiry so that the realm can retry
    if record.mode = .outboundConnector then
      return (record, persistFleetMutation c (.set (.fleetConnection record.id) record) none audit)
    else
      return (record, persistFleetMutationWithDelete c (.set (.fleetConnection record.id) record)
        (.fleetConnectionAttempt attemptId) audit)

/-- A revoked connection is immutable: a late observation answers it unchanged. -/
def observeFleetConnection (db : Db) (now : Nat) (id : Uuid) (state : FleetConnectionStateRecord) :
    StoreResult (Committed FleetConnectionRecord) := do
  let record ← okOr (db.fleetConnection now id) .fleetResourceMissing
  if record.state = .revoked ∨ record.revokedAt.isSome then
    return (record, [])
  else
    let record :=
      { record with
        state
        updatedAt := now
        lastSeenAt := if state = .healthy then some now else record.lastSeenAt }
    return (record, [.set (.fleetConnection id) record])

def revokeFleetConnection (db : Db) (c : Call) (organizationId projectId environmentId id : Uuid) :
    StoreResult (Committed FleetConnectionRecord) :=
  replayOr db c "connection.revoke" (db.fleetConnection c.now) .fleetResourceMissing do
    let record ← okOr ((db.fleetConnection c.now id).filter fun record =>
      record.organizationId = organizationId ∧ record.projectId = projectId ∧
        record.environmentId = environmentId) .fleetResourceMissing
    let record :=
      if record.state ≠ .revoked then
        { record with state := .revoked, updatedAt := c.now, revokedAt := some c.now }
      else record
    return (record, persistFleetMutation c (.set (.fleetConnection id) record) none
      (connectionAudit "connection.revoke" organizationId projectId environmentId id))

/-! ## Replacing a credential -/

def stageFleetConnectionCredential (db : Db) (now : Nat) (id : Uuid)
    (credential : EncryptedFleetCredential) (credentialHint : String) (requestId : Uuid) :
    StoreResult (Committed FleetConnectionRecord) := do
  let record ← okOr ((db.fleetConnection now id).filter (·.state ≠ .revoked)) .fleetResourceMissing
  match record.credentialRotationRequestId with
  | some existing =>
      if existing = requestId then return (record, []) else throw .fleetConnectionConflict
  | none =>
      let record :=
        { record with
          stagedCredential := some credential
          stagedCredentialHint := some credentialHint
          credentialRotationRequestId := some requestId
          updatedAt := now }
      return (record, [.set (.fleetConnection id) record])

def rotateFleetConnectionCredential (db : Db) (c : Call)
    (organizationId projectId environmentId id : Uuid) :
    StoreResult (Committed FleetConnectionRecord) :=
  replayOr db c "connection.rotate_credential" (db.fleetConnection c.now) .fleetResourceMissing do
    let record ← okOr ((db.fleetConnection c.now id).filter fun record =>
      record.organizationId = organizationId ∧ record.projectId = projectId ∧
        record.environmentId = environmentId ∧ record.state ≠ .revoked) .fleetResourceMissing
    ensure (record.credentialRotationRequestId = some c.requestId) .fleetConnectionConflict
    let credential ← okOr record.stagedCredential .fleetConnectionConflict
    let credentialHint ← okOr record.stagedCredentialHint .fleetConnectionConflict
    let record :=
      { record with
        credential
        credentialHint
        stagedCredential := none
        stagedCredentialHint := none
        credentialRotationRequestId := none
        updatedAt := c.now }
    return (record, persistFleetMutation c (.set (.fleetConnection id) record) none
      (connectionAudit "connection.rotate_credential" organizationId projectId environmentId id))

/-! ## Auditing a mutation made in a realm -/

def Db.fleetAuditRecords (db : Db) (now : Nat) : List FleetAuditRecord :=
  (db.scan now).filterMap fun
    | ⟨.fleetAudit _, record⟩ => some record
    | _ => none

/-- Unlike `persistFleetMutation` this writes no resource, and the audit's resource is
    the environment of the connection whatever the action is called. -/
def recordFleetRemoteMutation (db : Db) (c : Call) (connectionId : Uuid) (action : String) :
    StoreResult (Committed FleetAuditRecord) := do
  match ← db.fleetIdempotentResource c.now action c.requestId with
  | some _ =>
      let record ← okOr ((db.fleetAuditRecords c.now).find? fun record =>
        record.requestId = c.requestId ∧ record.action = action) .fleetResourceMissing
      return (record, [])
  | none =>
      let connection ← okOr ((db.fleetConnection c.now connectionId).filter fun record =>
        record.state ≠ .revoked ∧ record.revokedAt.isNone) .fleetResourceMissing
      let audit := environmentAudit action connection.organizationId connection.projectId
        connection.environmentId
      return (audit.record c, [.set (.fleetAudit c.auditId) (audit.record c),
        .set (.fleetIdempotency c.requestId) audit.idempotency])

end RustyAuth
