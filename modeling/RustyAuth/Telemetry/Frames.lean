/-
  The frames of a realm's connector stream, and how Fleet checks them.

  A frame is bound to its connection by the ids it carries; heartbeats and the answers to
  commands are also signed with a key derived from the connection's credential.
-/
import RustyAuth.Analytics.Contract
import RustyAuth.Library.Bytes
import RustyAuth.Rpc.Errors
import RustyAuth.Store.Keys

namespace RustyAuth

open RustyAuth.Library

inductive ConnectorFrameKind
  | unspecified
  | hello
  | heartbeat
  | command
  | result
  | error
  | goodbye
  | telemetryBatch
  | telemetryAck
deriving DecidableEq

def ConnectorFrameKind.number : ConnectorFrameKind → Nat
  | .unspecified => 0
  | .hello => 1
  | .heartbeat => 2
  | .command => 3
  | .result => 4
  | .error => 5
  | .goodbye => 6
  | .telemetryBatch => 7
  | .telemetryAck => 8

structure ConnectorFrame where
  realmId : String
  connectionId : String
  requestId : String
  kind : EnumValue ConnectorFrameKind
  capability : String
  expiresAt : String
  payload : Bytes
  payloadType : String
  signature : Bytes
deriving DecidableEq

/-- What the connector takes from other crates: UUID, time and message parsing, SHA-256 and
    HMAC-SHA-256, and the opening of a sealed credential. -/
structure ConnectorCrates where
  parseStr : String → Option Uuid
  /-- RFC 3339, in seconds. -/
  parseTime : String → Option Nat
  /-- Decodes a message of at most 256 KiB without unknown fields, or says why not. -/
  decodeBatch : Bytes → Except String TelemetryBucketBatch
  sha256 : Bytes → Bytes
  /-- The signature of a message under a key. -/
  hmac : Bytes → Bytes → Bytes
  openCredential : Uuid → EncryptedFleetCredential → RpcResult String

def capabilityTelemetryRollupsV1 : String := "telemetry.rollups.v1"
def telemetryBatchType : String := "rustyauth.analytics.v1.TelemetryBucketBatch"

def invalidConnector (message : String) : ConnectError := ⟨.invalidArgument, message⟩

/-! ## Credentials and signatures -/

section

variable (crates : ConnectorCrates)

def connectorSigningKeyFromCredential (credential : String) : Bytes := crates.sha256 (utf8 credential)

def connectorProofFromDigest (digest : String) : String := "rfc1_" ++ digest

def connectorProofFromCredential (credential : String) : String :=
  connectorProofFromDigest (hexEncode (crates.sha256 (utf8 credential)))

/-- The first credential that the proof was made from; each one is opened before the next. -/
def authenticateWith (connectionId : Uuid) (supplied : String) :
    List EncryptedFleetCredential → RpcResult Bytes
  | [] => throw ⟨.unauthenticated, "connector identity is invalid"⟩
  | encrypted :: others => do
      let credential ← crates.openCredential connectionId encrypted
      if crates.sha256 (utf8 (connectorProofFromCredential crates credential)) =
          crates.sha256 (utf8 supplied) then
        return connectorSigningKeyFromCredential crates credential
      else authenticateWith connectionId supplied others

/-- The active or the staged credential. -/
def authenticateConnector (connection : FleetConnectionRecord) (supplied : String) :
    RpcResult Bytes :=
  authenticateWith crates connection.id supplied
    (connection.credential :: connection.stagedCredential.toList)

def connectorSignatureDomain : Bytes := utf8 "rustyauth-connector-frame-v1" ++ [0]

/-- The fields that are signed, the kind as `to_i32().to_be_bytes()`. -/
def ConnectorFrame.signedFields (frame : ConnectorFrame) : List Bytes :=
  [utf8 frame.realmId, utf8 frame.connectionId, utf8 frame.requestId,
    bigEndian 4 ((frame.kind.toI32 ConnectorFrameKind.number) % 2 ^ 32).toNat,
    utf8 frame.capability, utf8 frame.expiresAt, utf8 frame.payloadType, frame.payload]

/-- Every field with its length before it. -/
def connectorFrameSigningBytes (frame : ConnectorFrame) : Bytes :=
  connectorSignatureDomain ++ framed 8 frame.signedFields

def signConnectorFrame (frame : ConnectorFrame) (signingKey : Bytes) : ConnectorFrame :=
  { frame with signature := crates.hmac signingKey (connectorFrameSigningBytes frame) }

def verifyConnectorFrame (frame : ConnectorFrame) (signingKey : Bytes) : RpcResult Unit := do
  ensure (frame.signature.length = 32)
    ⟨.unauthenticated, "connector frame signature is invalid"⟩
  ensure (crates.hmac signingKey (connectorFrameSigningBytes frame) = frame.signature)
    ⟨.unauthenticated, "connector frame signature is invalid"⟩

def validateConnectorExpiry (now : Nat) (value : String) : RpcResult Unit := do
  let expiry ← okOr (crates.parseTime value) (invalidConnector "connector frame expiry is invalid")
  ensure (¬(expiry ≤ now ∨ now + 5 * 60 < expiry))
    (invalidConnector "connector frame expiry must be in the next five minutes")

/-! ## Frames that Fleet receives -/

def connectorConnectionActive (connection : FleetConnectionRecord) : Bool :=
  (match connection.state with
    | .healthy | .degraded | .offline => true
    | _ => false) && connection.revokedAt.isNone

def validateHello (frame : ConnectorFrame) (connection : FleetConnectionRecord) :
    RpcResult Unit := do
  ensure (¬(frame.realmId ≠ connection.realmId ∨ frame.connectionId ≠ connection.id.text ∨
      frame.capability ≠ capabilityTelemetryRollupsV1 ∨ frame.payload ≠ [] ∨
      frame.payloadType ≠ ""))
    ⟨.permissionDenied, "connector HELLO does not match the authenticated connection"⟩
  ensure ((capabilityTelemetryRollupsV1, 1) ∈ connection.capabilities)
    ⟨.failedPrecondition, "connection was paired without telemetry.rollups.v1"⟩

def validateTelemetryFrame (frame : ConnectorFrame) (connection : FleetConnectionRecord) :
    RpcResult Unit :=
  ensure (¬(frame.kind.asKnown ≠ some .telemetryBatch ∨ frame.realmId ≠ connection.realmId ∨
      frame.connectionId ≠ connection.id.text ∨
      frame.capability ≠ capabilityTelemetryRollupsV1 ∨ frame.payloadType ≠ telemetryBatchType ∨
      crates.parseStr frame.requestId = none))
    (invalidConnector "invalid telemetry connector frame")

def validateBoundSignedFrame (now : Nat) (frame : ConnectorFrame)
    (connection : FleetConnectionRecord) (signingKey : Bytes) : RpcResult Unit := do
  ensure (¬(frame.realmId ≠ connection.realmId ∨ frame.connectionId ≠ connection.id.text ∨
      crates.parseStr frame.requestId = none))
    ⟨.permissionDenied, "connector frame does not match its authenticated connection"⟩
  validateConnectorExpiry crates now frame.expiresAt
  verifyConnectorFrame crates frame signingKey

def validateHeartbeat (now : Nat) (frame : ConnectorFrame) (connection : FleetConnectionRecord)
    (signingKey : Bytes) : RpcResult Unit := do
  validateBoundSignedFrame crates now frame connection signingKey
  ensure (¬(frame.payload ≠ [] ∨ frame.payloadType ≠ ""))
    (invalidConnector "connector heartbeat payload is invalid")

def validateCommandResponse (now : Nat) (frame : ConnectorFrame)
    (connection : FleetConnectionRecord) (signingKey : Bytes) : RpcResult Unit := do
  validateBoundSignedFrame crates now frame connection signingKey
  ensure (frame.capability = "realm.operations" ∨ frame.capability = "realm.remote-admin" ∨
      frame.capability = "realm.connection.revoke" ∨ frame.capability = "realm.connection.rotate")
    (invalidConnector "connector response capability is invalid")

def AnalyticsContractError.text : AnalyticsContractError → String
  | .invalid field reason => field ++ ": " ++ reason
  | .aggregateOverflow => "analytics aggregate overflow"

def decodeAndValidateBatch (bytes : Bytes) : Except String TelemetryBucketBatch := do
  let batch ← (crates.decodeBatch bytes).mapError ("decode analytics contract: " ++ ·)
  (validateBatch batch).mapError AnalyticsContractError.text
  return batch

/-- The batch of a telemetry frame: decoded, valid, and of the connection's assignment. -/
def receiveBatch (frame : ConnectorFrame) (connection : FleetConnectionRecord) :
    RpcResult TelemetryBucketBatch := do
  validateTelemetryFrame crates frame connection
  let batch ← (decodeAndValidateBatch crates frame.payload).mapError (⟨.invalidArgument, ·⟩)
  ensure (¬(batch.realmId ≠ connection.realmId ∨
      ∃ bucket ∈ batch.buckets, bucket.assignmentEpoch ≠ connection.assignmentEpoch))
    ⟨.permissionDenied,
      "telemetry hierarchy assignment does not match the authenticated connection"⟩
  return batch

end

end RustyAuth
