/-
  Remote mutations in the realm.

  Fleet sends a mutation over the RPC or over the connector; either way the same executor takes
  it.  It checks the request against the clock, claims the request id with a receipt that no
  second claim replaces while it lasts, applies the mutation, and stores the outcome in the
  receipt.  A delivery is cut at its accesses to the store and to the clock, and may stop for
  good before any of them.

  What is observed is the history: claims, starts of the mutation, recorded outcomes and the
  answers of deliveries that found a receipt.
-/
import RustyAuth.Rpc.CompleteConnection
import RustyAuth.Rpc.RoleBindings
import RustyAuth.Store.Writers
import RustyAuth.Library.Tasks

namespace RustyAuth

open RustyAuth.Library

/-! ## Requests -/

/-- `safe_remote_target`. -/
def safeRemoteTarget (value : String) (maximum : Nat) : RpcResult String :=
  let value := trimmed value
  if value == "" || maximum < value.utf8ByteSize || value.toList.any isWhitespace ||
      value.toList.any isControl then
    .error (invalid "remote mutation target is invalid")
  else .ok value

/-- `RemoteMutationRequest`; an operation that is unknown or unspecified is `none`. -/
structure RemoteMutationRequest where
  connectionId : String
  requestId : String
  operation : Option RemoteMutationOperation
  targetId : String
  secondaryId : String
  enabled : Bool
  reason : String
  expiresAt : String

/-- What the digest of a request covers. -/
structure RemoteMutationBody where
  connectionId : Uuid
  operation : RemoteMutationOperation
  targetId : String
  secondaryId : String
  enabled : Bool
  reason : String
  expiresAt : Nat
deriving DecidableEq

/-- A request that passed its checks. -/
structure RemoteMutation where
  requestId : Uuid
  body : RemoteMutationBody
deriving DecidableEq

/-- What the executor takes from other crates. -/
structure ExecutorConfig where
  parseUuid : String → Option Uuid
  /-- The Unix time of an RFC 3339 text. -/
  parseTime : String → Option Int
  /-- `remote_mutation_digest`: SHA-256, in hex, of the body as JSON. -/
  digest : RemoteMutationBody → String

def requiredRequestUuid (cfg : ExecutorConfig) (value : String) : RpcResult Uuid :=
  okOr (cfg.parseUuid value) (invalid "request id is invalid")

/-- `safe_optional_remote_target`. -/
def safeOptionalRemoteTarget (value : String) (maximum : Nat) : RpcResult String :=
  if trimmed value = "" then .ok "" else safeRemoteTarget value maximum

/-- `remote_mutation_expiry`. -/
def remoteMutationExpiry (cfg : ExecutorConfig) (now : Nat) (value : String) : RpcResult Nat := do
  let time ← okOr (cfg.parseTime value)
    (invalid "remote mutation expiry must be an RFC 3339 timestamp")
  ensure (0 ≤ time) (invalid "remote mutation expiry is invalid")
  ensure (now < time.toNat ∧ time.toNat ≤ satAdd now 300)
    (invalid "remote mutation expiry must be in the next five minutes")
  return time.toNat

def validateRemoteMutationShape (cfg : ExecutorConfig) (operation : RemoteMutationOperation)
    (targetId secondaryId : String) : RpcResult Unit :=
  match operation with
  | .revokeUserPasskey => do
      let _ ← requiredRequestUuid cfg targetId
      ensure (secondaryId ≠ "") (invalid "passkey credential id is required")
  | .setServiceAccountEnabled => do
      let _ ← requiredRequestUuid cfg targetId
      ensure (secondaryId = "") (invalid "secondary_id is not allowed for this operation")
  | .revokeServiceAccountCredential => do
      let _ ← requiredRequestUuid cfg targetId
      let _ ← requiredRequestUuid cfg secondaryId
  | .pauseWebhook | .deleteWebhook => do
      ensure (targetId.utf8ByteSize ≤ 64 ∧ targetId.toList.all
          (fun ch => isAsciiAlphanumeric ch || ch == '-' || ch == '_'))
        (invalid "webhook target id is invalid")
      ensure (secondaryId = "") (invalid "secondary_id is not allowed for this operation")

/-- The checks of `remote_mutation` before it touches the store; `expected` is the connection
    of the grant under which the request came. -/
def RemoteMutationRequest.checked (cfg : ExecutorConfig) (now : Nat) (expected : Uuid)
    (request : RemoteMutationRequest) : RpcResult RemoteMutation := do
  let connectionId ← requiredRequestUuid cfg request.connectionId
  ensure (connectionId = expected)
    ⟨.permissionDenied, "realm grant is bound to another connection"⟩
  let requestId ← requiredRequestUuid cfg request.requestId
  let reason ← safeRemoteReason request.reason
  let expiresAt ← remoteMutationExpiry cfg now request.expiresAt
  let operation ← okOr request.operation (invalid "remote mutation operation is required")
  let targetId ← safeRemoteTarget request.targetId 1024
  let secondaryId ← safeOptionalRemoteTarget request.secondaryId 1024
  validateRemoteMutationShape cfg operation targetId secondaryId
  return ⟨requestId, ⟨connectionId, operation, targetId, secondaryId, request.enabled, reason,
    expiresAt⟩⟩

/-- Not expired on receipt, and expiring within five minutes. -/
def RemoteMutation.InWindow (m : RemoteMutation) (receivedAt : Nat) : Prop :=
  receivedAt < m.body.expiresAt ∧ m.body.expiresAt ≤ satAdd receivedAt 300

theorem inWindow_of_checked {cfg : ExecutorConfig} {now : Nat} {expected : Uuid}
    {request : RemoteMutationRequest} {m : RemoteMutation}
    (h : request.checked cfg now expected = .ok m) : m.InWindow now := by
  simp only [RemoteMutationRequest.checked, remoteMutationExpiry, bind_eq_ok, ensure_eq_ok,
    exists_const, pure_eq_ok] at h
  obtain ⟨_, _, _, _, _, _, _, _, ⟨_, _, _, hwindow, rfl⟩, _, _, _, _, _, _, _, _, rfl⟩ := h
  exact hwindow

/-! ## Answers -/

/-- `store_error` of the management RPC, for what the receipts refuse. -/
def storeError : GrantError → ConnectError
  | .policy .remoteMutationIdempotencyConflict =>
      ⟨.alreadyExists, "remote mutation request id is already bound to another operation"⟩
  | .policy .remoteMutationPending =>
      ⟨.failedPrecondition, "remote mutation outcome is pending manual reconciliation"⟩
  | _ => ⟨.internal, "realm management operation failed"⟩

/-- A recorded success, answered again. -/
structure Replay where
  completedAt : Nat
  summary : String
deriving DecidableEq

/-- How a recorded outcome is answered to a delivery that did not claim the request. -/
def report (completedAt : Nat) (succeeded : Bool) (summary : String) : RpcResult Replay :=
  if succeeded then .ok ⟨completedAt, summary⟩
  else .error ⟨.failedPrecondition,
    "remote mutation previously failed and requires a new request id"⟩

/-- The second half of `claim_remote_mutation`: what a receipt means to another claim. -/
def decideFound (digest : String) (existing : RemoteMutationReceipt) :
    Except GrantError RemoteMutationClaim := do
  ensure (existing.digest = digest) (.policy .remoteMutationIdempotencyConflict)
  match existing.state, existing.completedAt with
  | .completed, some completedAt =>
      return .completed completedAt (existing.succeeded.getD false) existing.summary
  | _, _ => throw (.policy .remoteMutationPending)

/-- The answer of a delivery that found a receipt and reads it; by then it may be gone. -/
def answerFound (digest : String) : Option RemoteMutationReceipt → RpcResult Replay
  | none => .error (storeError (.invalid "read remote Fleet mutation receipt"))
  | some existing =>
      match decideFound digest existing with
      | .ok (.completed completedAt succeeded summary) => report completedAt succeeded summary
      | .ok .claimed => .error (storeError (.invalid ""))
      | .error e => .error (storeError e)

/-! ## Deliveries -/

structure RealmState where
  db : Db
  clock : Nat

/-- A receipt is stored for a retention. -/
def RealmState.putReceipt (s : RealmState) (id : Uuid) (receipt : RemoteMutationReceipt) :
    RealmState :=
  { s with db := commit s.clock s.db [.setEx (.remoteMutation id) receipt
      remoteMutationRetentionSeconds] }

inductive RemoteTask
  | idle
  -- the request was checked at `receivedAt`
  | checked (m : RemoteMutation) (receivedAt : Nat)
  -- the receipt to be stored carries `stamp`
  | claiming (m : RemoteMutation) (receivedAt stamp : Nat)
  -- the claim found a receipt
  | occupied (m : RemoteMutation)
  -- the claim was stored at `claimedAt`
  | claimed (m : RemoteMutation) (receivedAt claimedAt : Nat)
  | applying (m : RemoteMutation) (claimedAt : Nat)
  -- the mutation took effect, its event is appended
  | appending (m : RemoteMutation) (claimedAt : Nat) (summary : String)
  | completing (m : RemoteMutation) (claimedAt : Nat) (succeeded : Bool) (summary : String)
  -- the receipt was read and is pending
  | found (m : RemoteMutation) (claimedAt : Nat) (succeeded : Bool) (summary : String)
      (receipt : RemoteMutationReceipt)
  | storing (m : RemoteMutation) (claimedAt : Nat) (receipt : RemoteMutationReceipt)

inductive RemoteInput
  | tick (now : Nat)
  -- a delivery over either transport, under a grant of the connection `expected`
  | deliver (expected : Uuid) (request : RemoteMutationRequest)
  | proceed
  -- how the mutation or the append of its event ended
  | ended (summary : Option String)
  | appended (succeeded : Bool)
  -- what the mutation, the append and everything else write
  | write (ws : List Write)
  -- the delivery stops here, as in a crash
  | abandon

inductive RemoteEvent
  | claimed (m : RemoteMutation) (second : Nat)
  -- `apply_remote_mutation` is called
  | started (m : RemoteMutation) (receivedAt claimedAt : Nat)
  | recorded (m : RemoteMutation) (receipt : RemoteMutationReceipt) (second : Nat)
  -- a delivery that found a receipt read it at `second`
  | answered (m : RemoteMutation) (answer : RpcResult Replay) (second : Nat)

abbrev RemoteTurn := Turn RealmState RemoteTask RemoteEvent

def Key.isReceipt : Key → Bool
  | .remoteMutation _ => true
  | _ => false

def pendingReceipt (digest : String) (stamp : Nat) : RemoteMutationReceipt where
  digest := digest
  state := .pending
  claimedAt := stamp
  completedAt := none
  succeeded := none
  summary := ""

/-- The mutation ended with a summary, or failed. -/
def afterMutation (m : RemoteMutation) (claimedAt : Nat) : Option String → RemoteTask
  | some summary => .appending m claimedAt summary
  | none => .completing m claimedAt false "remote mutation failed before completion"

def afterAppend (m : RemoteMutation) (claimedAt : Nat) (summary : String) : Bool → RemoteTask
  | true => .completing m claimedAt true summary
  | false =>
      .completing m claimedAt false "remote mutation applied but correlated local audit failed"

section

variable (cfg : ExecutorConfig) (s : RealmState)

/-- A request that fails a check is answered at once. -/
def deliverTurn (expected : Uuid) (request : RemoteMutationRequest) : RemoteTurn :=
  match request.checked cfg s.clock expected with
  | .ok m => ⟨s, .checked m s.clock, []⟩
  | .error _ => ⟨s, .idle, []⟩

/-- `SET NX EX`. -/
def claimTurn (m : RemoteMutation) (receivedAt stamp : Nat) : RemoteTurn :=
  match s.db.get s.clock (.remoteMutation m.requestId) with
  | none =>
      ⟨s.putReceipt m.requestId (pendingReceipt (cfg.digest m.body) stamp),
        .claimed m receivedAt s.clock, [.claimed m s.clock]⟩
  | some _ => ⟨s, .occupied m, []⟩

def answerTurn (m : RemoteMutation) : RemoteTurn :=
  ⟨s, .idle, [.answered m (answerFound (cfg.digest m.body)
    (s.db.get s.clock (.remoteMutation m.requestId))) s.clock]⟩

/-- The first half of `complete_remote_mutation`: only a pending receipt of the same digest is
    completed. -/
def findTurn (m : RemoteMutation) (claimedAt : Nat) (succeeded : Bool) (summary : String) :
    RemoteTurn :=
  match s.db.get s.clock (.remoteMutation m.requestId) with
  | none => ⟨s, .idle, []⟩
  | some receipt =>
      if receipt.digest = cfg.digest m.body ∧ receipt.state ≠ .completed then
        ⟨s, .found m claimedAt succeeded summary receipt, []⟩
      else ⟨s, .idle, []⟩

/-- `SET XX EX`. -/
def storeTurn (m : RemoteMutation) (receipt : RemoteMutationReceipt) : RemoteTurn :=
  if (s.db.get s.clock (.remoteMutation m.requestId)).isSome then
    ⟨s.putReceipt m.requestId receipt, .idle, [.recorded m receipt s.clock]⟩
  else ⟨s, .idle, []⟩

def remoteTurn : RemoteTask → RemoteInput → Option RemoteTurn
  | phase, .tick now => if s.clock ≤ now then some ⟨{ s with clock := now }, phase, []⟩ else none
  | phase, .write ws =>
      if ws.all (fun w => !w.key.isReceipt) then
        some ⟨{ s with db := commit s.clock s.db ws }, phase, []⟩
      else none
  | _, .abandon => some ⟨s, .idle, []⟩
  | .idle, .deliver expected request => some (deliverTurn cfg s expected request)
  | .checked m receivedAt, .proceed => some ⟨s, .claiming m receivedAt s.clock, []⟩
  | .claiming m receivedAt stamp, .proceed => some (claimTurn cfg s m receivedAt stamp)
  | .occupied m, .proceed => some (answerTurn cfg s m)
  | .claimed m receivedAt claimedAt, .proceed =>
      some ⟨s, .applying m claimedAt, [.started m receivedAt claimedAt]⟩
  | .applying m claimedAt, .ended summary => some ⟨s, afterMutation m claimedAt summary, []⟩
  | .appending m claimedAt summary, .appended succeeded =>
      some ⟨s, afterAppend m claimedAt summary succeeded, []⟩
  | .completing m claimedAt succeeded summary, .proceed =>
      some (findTurn cfg s m claimedAt succeeded summary)
  | .found m claimedAt succeeded summary receipt, .proceed =>
      some ⟨s, .storing m claimedAt
        { receipt with
          state := .completed, completedAt := some s.clock, succeeded := some succeeded,
          summary }, []⟩
  | .storing m _ receipt, .proceed => some (storeTurn s m receipt)
  | _, _ => none

end

/-- No receipt, nothing under way. -/
def RealmState.initial : World RealmState RemoteTask RemoteEvent :=
  ⟨⟨Keyspace.empty, 0⟩, fun _ => .idle, []⟩

end RustyAuth
