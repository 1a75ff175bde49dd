/-
  The realm's side of Fleet: pairing codes, grants and the receipts of remote mutations.

  A grant holds the digest of the credential that Fleet presents, and a locator leads from
  the digest to the grant.  Exchanging a pairing code takes the code whether or not the
  exchange succeeds, so that an operation which fails may still have written: it returns
  its answer beside its commands.  `credentialDigest` is SHA-256 in unpadded base64url, and
  fresh credentials are arguments.
-/
import RustyAuth.Store.Fleet
import RustyAuth.Library.Texts

namespace RustyAuth

open RustyAuth.Library

def pairingSeconds : Nat := 600
def grantSeconds : Nat := 31536000
def grantRotationSeconds : Nat := 86400
def remoteMutationRetentionSeconds : Nat := 86400

/-- A refusal: one that callers tell apart, or a message. -/
inductive GrantError
  | policy (error : StorePolicyError)
  | invalid (message : String)
deriving DecidableEq

/-- The last six characters of a secret. -/
def credentialHint (credential : String) : String :=
  String.ofList (credential.toList.reverse.take 6).reverse

def validGrantCredential (credential : String) : Bool :=
  startsWith credential "rfg_" && decide (32 ≤ credential.utf8ByteSize) &&
    decide (credential.utf8ByteSize ≤ 128)

/-- Neither revoked nor expired. -/
def RealmFleetGrantRecord.Active (grant : RealmFleetGrantRecord) (now : Nat) : Prop :=
  grant.revokedAt = none ∧ now < grant.expiresAt

instance (grant : RealmFleetGrantRecord) (now : Nat) : Decidable (grant.Active now) :=
  inferInstanceAs (Decidable (_ ∧ _))

section

variable (credentialDigest : String → String)

/-! ## Pairing -/

def createRealmPairing (now : Nat) (id : Uuid) (code realmId controlPlaneOrigin : String)
    (requestedScopes : List String) (createdBy : Uuid) : Committed RealmPairingRecord :=
  let record : RealmPairingRecord :=
    { id, realmId, controlPlaneOrigin, requestedScopes, createdBy, createdAt := now,
      expiresAt := satAdd now pairingSeconds }
  (record, [.setEx (.fleetPairing (credentialDigest code)) record pairingSeconds])

/-- The grant a pairing is exchanged for. -/
def RealmPairingRecord.grant (pairing : RealmPairingRecord) (now : Nat) (connectionId : Uuid)
    (controlPlaneInstanceId : String) (assignmentEpoch : Nat) (credential : String)
    (grantedScopes : List String) : RealmFleetGrantRecord where
  connectionId
  realmId := pairing.realmId
  controlPlaneOrigin := pairing.controlPlaneOrigin
  controlPlaneInstanceId
  assignmentEpoch
  credentialDigest := credentialDigest credential
  credentialHint := credentialHint credential
  grantedScopes
  createdAt := now
  expiresAt := satAdd now grantSeconds
  revokedAt := none

/-- The pipeline that stores a grant and its locator. -/
def grantWrites (grant : RealmFleetGrantRecord) : List Write :=
  [.set (.fleetGrant grant.connectionId) grant,
    .set (.fleetGrantSecret grant.credentialDigest) grant.connectionId]

def exchangeRealmPairing (db : Db) (now : Nat) (code controlPlaneOrigin : String)
    (controlPlaneInstanceId : String) (assignmentEpoch : Nat) (connectionId : Uuid)
    (credential : String) : Except GrantError RealmFleetGrantRecord × List Write :=
  if assignmentEpoch = 0 then (.error (.invalid "Fleet assignment epoch must be positive"), [])
  else
    let taken : Write := .del (.fleetPairing (credentialDigest code))
    match (db.get now (.fleetPairing (credentialDigest code))).filter fun record =>
        now < record.expiresAt ∧ record.controlPlaneOrigin = controlPlaneOrigin with
    | none => (.error (.policy .realmPairingInvalid), [taken])
    | some pairing =>
        let grant := pairing.grant credentialDigest now connectionId controlPlaneInstanceId
          assignmentEpoch credential pairing.requestedScopes
        (.ok grant, taken :: grantWrites grant)

def consumeOutboundRealmPairing (db : Db) (now : Nat) (code controlPlaneOrigin : String)
    (controlPlaneInstanceId : String) (assignmentEpoch : Nat) (connectionId : Uuid)
    (credential : String) (grantedScopes : List String) :
    Except GrantError RealmFleetGrantRecord × List Write :=
  if assignmentEpoch = 0 ∨ validGrantCredential credential = false then
    (.error (.invalid "outbound Fleet grant is invalid"), [])
  else
    let taken : Write := .del (.fleetPairing (credentialDigest code))
    match (db.get now (.fleetPairing (credentialDigest code))).filter fun record =>
        now < record.expiresAt ∧ record.controlPlaneOrigin = controlPlaneOrigin ∧
          record.requestedScopes = grantedScopes with
    | none => (.error (.policy .realmPairingInvalid), [taken])
    | some pairing =>
        let grant := pairing.grant credentialDigest now connectionId controlPlaneInstanceId
          assignmentEpoch credential grantedScopes
        (.ok grant, taken :: grantWrites grant)

/-! ## Grants -/

/-- The active grant that a credential resolves to. -/
def Db.realmFleetGrantByCredential (db : Db) (now : Nat) (credential : String) :
    Option RealmFleetGrantRecord := do
  let id ← db.get now (.fleetGrantSecret (credentialDigest credential))
  (db.get now (.fleetGrant id)).filter fun grant =>
    grant.Active now ∧ grant.credentialDigest = credentialDigest credential

def revokeRealmFleetGrant (db : Db) (now : Nat) (connectionId : Uuid) :
    Except GrantError (Committed RealmFleetGrantRecord) := do
  let grant ← okOr (db.get now (.fleetGrant connectionId)) (.policy .realmFleetGrantInvalid)
  let grant := { grant with revokedAt := some (grant.revokedAt.getD now) }
  return (grant, [.set (.fleetGrant connectionId) grant,
    .del (.fleetGrantSecret grant.credentialDigest)])

/-- The first rotation of a request. -/
def freshRotation (db : Db) (now : Nat) (connectionId requestId : Uuid) (digest hint : String) :
    Except GrantError (Committed RealmFleetGrantRecord) := do
  let old ← okOr ((db.get now (.fleetGrant connectionId)).filter (·.Active now))
    (.policy .realmFleetGrantInvalid)
  let grant :=
    { old with
      credentialDigest := digest
      credentialHint := hint
      createdAt := now
      expiresAt := satAdd now grantSeconds }
  return (grant, [.set (.fleetGrant grant.connectionId) grant,
    .del (.fleetGrantSecret old.credentialDigest),
    .set (.fleetGrantSecret digest) grant.connectionId,
    .setEx (.fleetGrantRotation requestId)
      { connectionId, credentialDigest := digest, completedAt := now } grantRotationSeconds])

/-- A request that completed before answers its grant, as long as that still has the
    credential of the request. -/
def rotateRealmFleetGrant (db : Db) (now : Nat) (connectionId requestId : Uuid)
    (credential hint : String) : Except GrantError (Committed RealmFleetGrantRecord) := do
  ensure (validGrantCredential credential = true ∧ hint.utf8ByteSize ≤ 32)
    (.invalid "new Fleet grant credential is invalid")
  let digest := credentialDigest credential
  match db.get now (.fleetGrantRotation requestId) with
  | some completed =>
      ensure (completed.connectionId = connectionId ∧ completed.credentialDigest = digest)
        (.invalid "Fleet credential rotation request was replayed with different data")
      let grant ← okOr ((db.get now (.fleetGrant connectionId)).filter fun grant =>
        grant.revokedAt = none ∧ grant.credentialDigest = digest) (.policy .realmFleetGrantInvalid)
      return (grant, [])
  | none => freshRotation db now connectionId requestId digest hint

end

/-! ## Remote mutations -/

inductive RemoteMutationClaim
  | claimed
  | completed (completedAt : Nat) (succeeded : Bool) (summary : String)
deriving DecidableEq

/-- `SET NX`: the first claim of a request is stored, a later one answers the receipt. -/
def claimRemoteMutation (db : Db) (now : Nat) (requestId : Uuid) (digest : String) :
    Except GrantError (Committed RemoteMutationClaim) :=
  match db.get now (.remoteMutation requestId) with
  | none =>
      let receipt : RemoteMutationReceipt :=
        { digest, state := .pending, claimedAt := now, completedAt := none, succeeded := none,
          summary := "" }
      return (.claimed,
        [.setEx (.remoteMutation requestId) receipt remoteMutationRetentionSeconds])
  | some existing => do
      ensure (existing.digest = digest) (.policy .remoteMutationIdempotencyConflict)
      match existing.state, existing.completedAt with
      | .completed, some completedAt =>
          return (.completed completedAt (existing.succeeded.getD false) existing.summary, [])
      | _, _ => throw (.policy .remoteMutationPending)

def completeRemoteMutation (db : Db) (now : Nat) (requestId : Uuid) (digest : String)
    (succeeded : Bool) (summary : String) : Except GrantError (Committed Nat) := do
  let receipt ← okOr (db.get now (.remoteMutation requestId))
    (.invalid "read claimed remote Fleet mutation")
  ensure (receipt.digest = digest) (.policy .remoteMutationIdempotencyConflict)
  if receipt.state = .completed then
    let completedAt ← okOr receipt.completedAt (.policy .remoteMutationPending)
    return (completedAt, [])
  else
    let receipt :=
      { receipt with
        state := .completed
        completedAt := some now
        succeeded := some succeeded
        summary }
    return (now, [.setEx (.remoteMutation requestId) receipt remoteMutationRetentionSeconds])

/-! ## What they write -/

section Writes

variable {credentialDigest : String → String} {db : Db} {now : Nat} {connectionId requestId : Uuid}
  {ws : List Write}

/-- What a pairing writes: at most its code is taken, or the grant is stored as well. -/
inductive PairingWrites (db : Db) (now : Nat) (code : String) (connectionId : Uuid)
    (digest : String) : List Write → Prop
  | invalid : PairingWrites db now code connectionId digest []
  | refused : PairingWrites db now code connectionId digest [.del (.fleetPairing code)]
  | accepted {pairing : RealmPairingRecord} {grant : RealmFleetGrantRecord}
      (hcode : db.get now (.fleetPairing code) = some pairing)
      (hid : grant.connectionId = connectionId) (hdigest : grant.credentialDigest = digest)
      (hlive : grant.revokedAt = none) :
      PairingWrites db now code connectionId digest (.del (.fleetPairing code) :: grantWrites grant)

theorem exchangeRealmPairing_writes (db : Db) (now : Nat) (code origin instanceId : String)
    (epoch : Nat) (connectionId : Uuid) (credential : String) :
    PairingWrites db now (credentialDigest code) connectionId (credentialDigest credential)
      (exchangeRealmPairing credentialDigest db now code origin instanceId epoch connectionId
        credential).2 := by
  unfold exchangeRealmPairing
  split
  · exact .invalid
  · dsimp only
    split
    · exact .refused
    · next pairing hpairing =>
      exact .accepted (Option.filter_eq_some_iff.mp hpairing).1 rfl rfl rfl

theorem consumeOutboundRealmPairing_writes (db : Db) (now : Nat) (code origin instanceId : String)
    (epoch : Nat) (connectionId : Uuid) (credential : String) (scopes : List String) :
    PairingWrites db now (credentialDigest code) connectionId (credentialDigest credential)
      (consumeOutboundRealmPairing credentialDigest db now code origin instanceId epoch connectionId
        credential scopes).2 := by
  unfold consumeOutboundRealmPairing
  split
  · exact .invalid
  · dsimp only
    split
    · exact .refused
    · next pairing hpairing =>
      exact .accepted (Option.filter_eq_some_iff.mp hpairing).1 rfl rfl rfl

/-- The grant that a rotation stores. -/
def RealmFleetGrantRecord.rotated (old : RealmFleetGrantRecord) (now : Nat)
    (digest hint : String) : RealmFleetGrantRecord :=
  { old with
    credentialDigest := digest
    credentialHint := hint
    createdAt := now
    expiresAt := satAdd now grantSeconds }

/-- A rotation writes nothing unless it is the first of its request and the grant is active. -/
inductive RotationWrites (db : Db) (now : Nat) (connectionId requestId : Uuid)
    (digest hint : String) : List Write → Prop
  | nothing : RotationWrites db now connectionId requestId digest hint []
  | rotated (old : RealmFleetGrantRecord)
      (hfirst : db.get now (.fleetGrantRotation requestId) = none)
      (hget : db.get now (.fleetGrant connectionId) = some old) (hactive : old.Active now) :
      RotationWrites db now connectionId requestId digest hint
        [.set (.fleetGrant old.connectionId) (old.rotated now digest hint),
          .del (.fleetGrantSecret old.credentialDigest),
          .set (.fleetGrantSecret digest) old.connectionId,
          .setEx (.fleetGrantRotation requestId)
            { connectionId, credentialDigest := digest, completedAt := now } grantRotationSeconds]

theorem rotateRealmFleetGrant_writes {credential hint : String} {r : RealmFleetGrantRecord}
    (h : rotateRealmFleetGrant credentialDigest db now connectionId requestId credential hint =
      .ok (r, ws)) :
    RotationWrites db now connectionId requestId (credentialDigest credential) hint ws := by
  simp only [rotateRealmFleetGrant, bind_eq_ok, ensure_eq_ok, exists_const] at h
  obtain ⟨_, h⟩ := h
  split at h
  · simp only [bind_eq_ok, okOr_eq_ok, ensure_eq_ok, pure_eq_ok, exists_const, Prod.mk.injEq] at h
    obtain ⟨_, _, _, _, rfl⟩ := h
    exact .nothing
  · next hfirst =>
    simp only [freshRotation, bind_eq_ok, okOr_eq_ok, pure_eq_ok, Prod.mk.injEq,
      Option.filter_eq_some_iff, decide_eq_true_eq] at h
    obtain ⟨old, ⟨hget, hactive⟩, _, rfl⟩ := h
    exact .rotated old hfirst hget hactive

/-- A claim or a completion of a remote mutation stores at most its receipt. -/
def ReceiptWrites (requestId : Uuid) (ws : List Write) : Prop :=
  ws = [] ∨ ∃ receipt,
    ws = [.setEx (.remoteMutation requestId) receipt remoteMutationRetentionSeconds]

theorem claimRemoteMutation_writes {digest : String} {r : RemoteMutationClaim}
    (h : claimRemoteMutation db now requestId digest = .ok (r, ws)) :
    ReceiptWrites requestId ws := by
  unfold claimRemoteMutation at h
  split at h
  · simp only [pure_eq_ok, Prod.mk.injEq] at h
    exact .inr ⟨_, h.2.symm⟩
  · simp only [bind_eq_ok, ensure_eq_ok, exists_const] at h
    obtain ⟨_, h⟩ := h
    split at h
    · simp only [pure_eq_ok, Prod.mk.injEq] at h
      exact .inl h.2.symm
    · cases h

theorem completeRemoteMutation_writes {digest : String} {succeeded : Bool} {summary : String}
    {r : Nat} (h : completeRemoteMutation db now requestId digest succeeded summary = .ok (r, ws)) :
    ReceiptWrites requestId ws := by
  simp only [completeRemoteMutation, bind_eq_ok, okOr_eq_ok, ensure_eq_ok, exists_const] at h
  obtain ⟨receipt, _, _, h⟩ := h
  split at h
  · simp only [bind_eq_ok, okOr_eq_ok, pure_eq_ok, Prod.mk.injEq] at h
    obtain ⟨_, _, _, rfl⟩ := h
    exact .inl rfl
  · simp only [pure_eq_ok, Prod.mk.injEq] at h
    exact .inr ⟨_, h.2.symm⟩

end Writes

end RustyAuth
