/-
  Connector streams of realms, interleaved with the other operations of the Fleet store.

  A stream reads its connection once, at HELLO, and keeps that record for all its frames.  A
  telemetry frame is checked against it, and then meets the store three times: for the policy,
  for the quota, and under the mutation lock for the ledger.  Nothing in between reads the
  connection again, so a stream goes on storing telemetry after the connection was revoked.

  * `connectorStep_ledger`: a record of the ledger changes only where it is observed as stored.
  * `observe_frozen`: a heartbeat leaves the record of a revoked connection.
  * `revoked_connection_dead`: no telemetry is stored after a revocation, if no stream of the
    connection is open when it is revoked; HELLO opens none later.
-/
import RustyAuth.Telemetry.Frames
import RustyAuth.Telemetry.Register
import RustyAuth.Store.ConnectionRecords
import RustyAuth.Library.Tasks

namespace RustyAuth

open RustyAuth.Library

/-! ## Streams -/

/-- The connection as HELLO found it, the key of its frames, and the commands in flight. -/
structure ConnectorStream where
  connection : FleetConnectionRecord
  signingKey : Bytes
  pending : List Uuid

inductive ConnectorPhase
  /-- No stream: before HELLO, and after the end of a stream. -/
  | idle
  | streaming (stream : ConnectorStream)
  /-- A checked batch, before its policy is read. -/
  | received (stream : ConnectorStream) (batch : TelemetryBucketBatch)
  /-- Before the quota. -/
  | metering (stream : ConnectorStream) (batch : TelemetryBucketBatch) (batchId : Uuid)
      (policy : FleetAnalyticsPolicyRecord)
  /-- Before the mutation lock. -/
  | accepting (stream : ConnectorStream) (batch : TelemetryBucketBatch) (batchId : Uuid)
      (policy : FleetAnalyticsPolicyRecord)

/-- The connection whose stream is open. -/
def ConnectorPhase.serves : ConnectorPhase → Option Uuid
  | .idle => none
  | .streaming stream | .received stream _ | .metering stream _ _ _ | .accepting stream _ _ _ =>
      some stream.connection.id

inductive ConnectorEvent
  /-- The revocation of a connection has committed. -/
  | revoked (id : Uuid)
  /-- Buckets of a connection were accepted. -/
  | stored (id : Uuid)
deriving DecidableEq

inductive ConnectorInput
  /-- An operation of the store, by any other task. -/
  | operate (request : FleetRequest)
  | hello (now : Nat) (suppliedProof : String) (frame : ConnectorFrame)
  | frame (now : Nat) (frame : ConnectorFrame)
  /-- A command that is to be sent to the realm. -/
  | command (frame : ConnectorFrame)
  /-- The caller of a command has given up. -/
  | abandoned (requestId : Uuid)
  /-- The next access of the store, with the clock and identifiers from `Uuid::new_v4`. -/
  | proceed (now : Nat) (newId : Nat → Uuid)
  | hangUp

abbrev ConnectorTurn := Turn Db ConnectorPhase ConnectorEvent
abbrev ConnectorWorld := World Db ConnectorPhase ConnectorEvent

structure ConnectorContext where
  crates : ConnectorCrates
  ledger : LedgerContext
  sha256Hex : String → String

def connectorCommandQueue : Nat := 32

def openStream (ctx : ConnectorContext) (db : Db) (now : Nat) (suppliedProof : String)
    (hello : ConnectorFrame) : RpcResult ConnectorStream := do
  ensure (hello.kind.asKnown = some .hello) (invalidConnector "first connector frame must be HELLO")
  let connectionId ← okOr (ctx.crates.parseStr hello.connectionId)
    (invalidConnector "connection_id must be a canonical UUID")
  let connection ← okOr ((db.fleetConnection now connectionId).filter connectorConnectionActive)
    ⟨.unauthenticated, "connector identity is invalid"⟩
  let signingKey ← authenticateConnector ctx.crates connection suppliedProof
  validateHello hello connection
  return ⟨connection, signingKey, []⟩

/-- Where a stream goes on when a frame was accepted; a refused frame ends it. -/
def continueWith (db : Db) : RpcResult ConnectorPhase → ConnectorTurn
  | .ok phase => ⟨db, phase, []⟩
  | .error _ => ⟨db, .idle, []⟩

def receiveResponse (ctx : ConnectorContext) (now : Nat) (stream : ConnectorStream)
    (frame : ConnectorFrame) : RpcResult ConnectorPhase := do
  validateCommandResponse ctx.crates now frame stream.connection stream.signingKey
  let requestId ← okOr (ctx.crates.parseStr frame.requestId)
    (invalidConnector "connector response request id is invalid")
  ensure (requestId ∈ stream.pending)
    (invalidConnector "unsolicited or replayed connector response")
  return .streaming { stream with pending := stream.pending.erase requestId }

def receiveHeartbeat (ctx : ConnectorContext) (db : Db) (now : Nat) (stream : ConnectorStream)
    (frame : ConnectorFrame) : ConnectorTurn :=
  match validateHeartbeat ctx.crates now frame stream.connection stream.signingKey with
  | .error _ => ⟨db, .idle, []⟩
  | .ok () =>
      match observeFleetConnection db now stream.connection.id .healthy with
      | .error _ => ⟨db, .idle, []⟩
      | .ok (_, ws) => ⟨commit now db ws, .streaming stream, []⟩

def receiveFrame (ctx : ConnectorContext) (db : Db) (now : Nat) (stream : ConnectorStream)
    (frame : ConnectorFrame) : ConnectorTurn :=
  match frame.kind.asKnown with
  | some .telemetryBatch =>
      continueWith db (.received stream <$> receiveBatch ctx.crates frame stream.connection)
  | some .result | some .error => continueWith db (receiveResponse ctx now stream frame)
  | some .heartbeat => receiveHeartbeat ctx db now stream frame
  | _ => ⟨db, .idle, []⟩

def sendCommand (ctx : ConnectorContext) (stream : ConnectorStream) (frame : ConnectorFrame) :
    RpcResult ConnectorPhase :=
  if connectorCommandQueue ≤ stream.pending.length then return .streaming stream
  else do
    let requestId ← okOr (ctx.crates.parseStr frame.requestId)
      (invalidConnector "connector command request id is invalid")
    ensure (requestId ∉ stream.pending)
      (invalidConnector "duplicate in-flight connector request id")
    return .streaming { stream with pending := requestId :: stream.pending }

/-- The revocation that an operation commits, if it is one that did not complete before. -/
def revocation (db : Db) (request : FleetRequest) : List ConnectorEvent :=
  match request.op with
  | .revokeConnection _ _ _ id => if FirstUse db request.call then [.revoked id] else []
  | _ => []

section

variable (ctx : ConnectorContext) (db : Db) (stream : ConnectorStream)
  (batch : TelemetryBucketBatch) (batchId : Uuid) (policy : FleetAnalyticsPolicyRecord) (now : Nat)
  (newId : Nat → Uuid)

def ConnectorStream.call : TelemetryCall := ⟨now, stream.connection, newId⟩

def readPolicy : ConnectorTurn :=
  let policy := db.fleetAnalyticsPolicy now stream.connection.organizationId
  if policy.enabled = false then
    ⟨commit now db (refuseBatch (stream.call now newId) batchId batch .policyDisabled
      "policy-disabled").2, .streaming stream, []⟩
  else ⟨db, .metering stream batch batchId policy, []⟩

def consumeQuota : ConnectorTurn :=
  let (allowed, metering) := meterBatch db (stream.call now newId) policy batchId batch true
  if allowed = false then
    ⟨commit now db (metering ++ (refuseBatch (stream.call now newId) batchId batch .resourceLimit
      "realm-minute-quota").2), .streaming stream, []⟩
  else ⟨commit now db metering, .accepting stream batch batchId policy, []⟩

def anyAccepted : Bool :=
  batch.buckets.any fun bucket =>
    (bucketOutcome ctx.ledger db (stream.call now newId) policy batchId bucket).1 = .accepted

def acceptBatch : ConnectorTurn :=
  ⟨commit now db (acceptBuckets ctx.ledger db (stream.call now newId) policy batchId batch).2,
    .streaming stream,
    if anyAccepted ctx db stream batch batchId policy now newId then [.stored stream.connection.id]
    else []⟩

end

/-- One turn of a task: up to its next wait. -/
def connectorTurn (ctx : ConnectorContext) (db : Db) :
    ConnectorPhase → ConnectorInput → Option ConnectorTurn
  | .idle, .operate request =>
      (fleetApply ctx.sha256Hex db request).map fun db' => ⟨db', .idle, revocation db request⟩
  | .idle, .hello now suppliedProof frame =>
      some (continueWith db (.streaming <$> openStream ctx db now suppliedProof frame))
  | .streaming stream, .frame now frame => some (receiveFrame ctx db now stream frame)
  | .streaming stream, .command frame => some (continueWith db (sendCommand ctx stream frame))
  | .streaming stream, .abandoned requestId =>
      some ⟨db, .streaming { stream with pending := stream.pending.erase requestId }, []⟩
  | .streaming _, .hangUp => some ⟨db, .idle, []⟩
  | .received stream batch, .proceed now newId =>
      match parseUuid batch.batchId with
      | none => some ⟨db, .idle, []⟩
      | some batchId => some (readPolicy db stream batch batchId now newId)
  | .metering stream batch batchId policy, .proceed now newId =>
      some (consumeQuota db stream batch batchId policy now newId)
  | .accepting stream batch batchId policy, .proceed now newId =>
      some (acceptBatch ctx db stream batch batchId policy now newId)
  | _, _ => none

abbrev ConnectorTurns (ctx : ConnectorContext) :
    ConnectorWorld → Nat × ConnectorInput → ConnectorWorld → Prop :=
  Turns (connectorTurn ctx)

/-- No stream is open, and nothing has been observed. -/
def connectorStart (db : Db) : ConnectorWorld := ⟨db, fun _ => .idle, []⟩

/-! ## What a turn does to the store -/

/-- The families that pairings, telemetry and their place in the hierarchy are kept in. -/
def Key.isTenancy : Key → Bool
  | .fleetProject _ | .fleetEnvironment _ | .fleetConnectionAttempt _ | .fleetConnection _
  | .fleetAssignmentEpoch _ | .fleetAnalyticsBucket _ _ _ => true
  | _ => false

/-- Commands on none of these. -/
def Aside (ws : List Write) : Prop := ∀ w ∈ ws, w.key.isTenancy = false

variable {ws : List Write} {db : Db} {c : TelemetryCall} {policy : FleetAnalyticsPolicyRecord}
  {batchId : Uuid} {batch : TelemetryBucketBatch} {ctx : ConnectorContext} {phase : ConnectorPhase}
  {turn : ConnectorTurn} {now : Nat}

theorem Aside.not_connection (h : Aside ws) :
    ∀ w ∈ ws, ∀ id, w.key ≠ .fleetConnection id := by
  intro w hw id hkey
  have hnot := h w hw
  rw [hkey] at hnot
  cases hnot

theorem Aside.not_ledger (h : Aside ws) : ∀ w ∈ ws, w.key.isLedger = false := by
  intro w hw
  have hnot := h w hw
  cases hkey : w.key with
  | fleetAnalyticsBucket =>
    rw [hkey] at hnot
    cases hnot
  | _ => rfl

theorem aside_meterBatch {enforceLiveQuota : Bool} :
    Aside (meterBatch db c policy batchId batch enforceLiveQuota).2 := by
  unfold Aside meterBatch consumeFleetAnalyticsQuota
  split
  · split
    · exact List.forall_mem_nil _
    · simp only [List.forall_mem_cons]
      refine ⟨rfl, ?_, rfl, List.forall_mem_nil _⟩
      split <;> rfl
  · exact List.forall_mem_nil _

theorem aside_refuseBatch (rejection : BucketRejectionReason) (reason : String) :
    Aside (refuseBatch c batchId batch rejection reason).2 := by
  unfold Aside refuseBatch ingestionAudit
  rw [List.forall_mem_singleton]
  rfl

/-- The ways a turn goes, with what it leaves in the store. -/
inductive ConnectorStep (ctx : ConnectorContext) (db : Db) :
    ConnectorPhase → ConnectorInput → ConnectorTurn → Prop
  | operate {request : FleetRequest} {db' : Db} (step : FleetStep ctx.sha256Hex db request db') :
      ConnectorStep ctx db .idle (.operate request) ⟨db', .idle, revocation db request⟩
  | hello {now : Nat} {suppliedProof : String} {frame : ConnectorFrame} {stream : ConnectorStream}
      (opened : openStream ctx db now suppliedProof frame = .ok stream) :
      ConnectorStep ctx db .idle (.hello now suppliedProof frame) ⟨db, .streaming stream, []⟩
  | quiet {phase : ConnectorPhase} {input : ConnectorInput} (next : ConnectorPhase)
      (serves : next.serves = none ∨ next.serves = phase.serves) :
      ConnectorStep ctx db phase input ⟨db, next, []⟩
  | heartbeat {stream : ConnectorStream} {now : Nat} {frame : ConnectorFrame}
      {record : FleetConnectionRecord} {ws : List Write}
      (observed : observeFleetConnection db now stream.connection.id .healthy = .ok (record, ws)) :
      ConnectorStep ctx db (.streaming stream) (.frame now frame)
        ⟨commit now db ws, .streaming stream, []⟩
  | aside {phase : ConnectorPhase} {input : ConnectorInput} (now : Nat) {ws : List Write}
      (writes : Aside ws) (next : ConnectorPhase) (serves : next.serves = phase.serves) :
      ConnectorStep ctx db phase input ⟨commit now db ws, next, []⟩
  | accept {stream : ConnectorStream} {batch : TelemetryBucketBatch} {batchId : Uuid}
      {policy : FleetAnalyticsPolicyRecord} {now : Nat} {newId : Nat → Uuid} :
      ConnectorStep ctx db (.accepting stream batch batchId policy) (.proceed now newId)
        (acceptBatch ctx db stream batch batchId policy now newId)

theorem continueWith_step (ctx : ConnectorContext) (db : Db) {phase : ConnectorPhase}
    (input : ConnectorInput) {result : RpcResult ConnectorPhase}
    (h : ∀ next, result = .ok next → next.serves = phase.serves) :
    ConnectorStep ctx db phase input (continueWith db result) := by
  cases result with
  | ok next => exact .quiet next (.inr (h next rfl))
  | error e => exact .quiet .idle (.inl rfl)

theorem receiveResponse_serves {stream : ConnectorStream} {frame : ConnectorFrame}
    (h : receiveResponse ctx now stream frame = .ok phase) :
    phase.serves = some stream.connection.id := by
  simp only [receiveResponse, bind_eq_ok, pure_eq_ok] at h
  obtain ⟨_, _, _, _, _, _, rfl⟩ := h
  rfl

theorem sendCommand_serves {stream : ConnectorStream} {frame : ConnectorFrame}
    (h : sendCommand ctx stream frame = .ok phase) : phase.serves = some stream.connection.id := by
  unfold sendCommand at h
  split at h
  · cases h
    rfl
  · simp only [bind_eq_ok, pure_eq_ok] at h
    obtain ⟨_, _, _, _, rfl⟩ := h
    rfl

theorem receiveFrame_step (ctx : ConnectorContext) (db : Db) (now : Nat) (stream : ConnectorStream)
    (frame : ConnectorFrame) : ConnectorStep ctx db (.streaming stream) (.frame now frame)
      (receiveFrame ctx db now stream frame) := by
  unfold receiveFrame
  split
  · refine continueWith_step ctx db _ fun next hnext => ?_
    obtain ⟨batch, _, rfl⟩ := (map_eq_ok _ _ _).mp hnext
    rfl
  · exact continueWith_step ctx db _ fun _ => receiveResponse_serves
  · exact continueWith_step ctx db _ fun _ => receiveResponse_serves
  · unfold receiveHeartbeat
    split
    · exact .quiet _ (.inl rfl)
    · split
      · exact .quiet _ (.inl rfl)
      · next observed => exact .heartbeat observed
  · exact .quiet _ (.inl rfl)

theorem connectorTurn_step {input : ConnectorInput}
    (h : connectorTurn ctx db phase input = some turn) :
    ConnectorStep ctx db phase input turn := by
  unfold connectorTurn at h
  split at h
  · obtain ⟨db', happly, rfl⟩ := Option.map_eq_some_iff.mp h
    exact .operate (fleetStep_of_fleetApply happly)
  · next now suppliedProof frame =>
    cases h
    cases hopened : openStream ctx db now suppliedProof frame with
    | ok stream => exact .hello hopened
    | error e => exact .quiet .idle (.inl rfl)
  · cases h
    exact receiveFrame_step _ _ _ _ _
  · cases h
    exact continueWith_step ctx db _ fun _ => sendCommand_serves
  · cases h
    exact .quiet _ (.inr rfl)
  · cases h
    exact .quiet _ (.inl rfl)
  · split at h
    · cases h
      exact .quiet _ (.inl rfl)
    · cases h
      unfold readPolicy
      dsimp only
      split
      · exact .aside _ (aside_refuseBatch _ _) _ rfl
      · exact .quiet _ (.inr rfl)
  · cases h
    unfold consumeQuota
    dsimp only
    split
    · refine .aside _ (fun w hw => ?_) _ rfl
      rcases List.mem_append.mp hw with hw | hw
      · exact aside_meterBatch w hw
      · exact aside_refuseBatch _ _ w hw
    · exact .aside _ aside_meterBatch _ rfl
  · cases h
    exact .accept
  · cases h

/-! ### The ledger -/

/-- The families that the operations of the store write, reservations of epochs apart. -/
def Key.isFleet : Key → Bool
  | .fleetOrganization _ | .fleetOrganizationSlug _ | .fleetProject _ | .fleetProjectSlug _ _
  | .fleetEnvironment _ | .fleetEnvironmentSlug _ _ | .fleetConnectionAttempt _
  | .fleetConnection _ | .fleetRoleBinding _ | .fleetRoleBindingSubject _ _ _
  | .fleetIdempotency _ | .fleetAudit _ => true
  | _ => false

section

variable {c : Call} {resource index : Write} {audit : MutationAudit}

theorem isFleet_audited (h : resource.key.isFleet = true) :
    ∀ w ∈ persistFleetMutation c resource none audit, w.key.isFleet = true :=
  forall_mem_persistFleetMutation.mpr ⟨⟨h, fun w hw => by cases hw⟩, rfl, rfl⟩

theorem isFleet_indexed (h : resource.key.isFleet = true) (hindex : index.key.isFleet = true) :
    ∀ w ∈ persistFleetMutation c resource (some index) audit, w.key.isFleet = true := by
  refine forall_mem_persistFleetMutation.mpr ⟨⟨h, fun w hw => ?_⟩, rfl, rfl⟩
  rw [← Option.mem_some.mp hw]
  exact hindex

end

theorem isFleet_exec {sha256Hex : String → String} {c : Call} {op : FleetOp}
    (h : op.exec sha256Hex db c = .ok ws) (hop : ∀ realmId, op ≠ .reserveAssignmentEpoch realmId) :
    ∀ w ∈ ws, w.key.isFleet = true := by
  cases exec_effect h with
  | nothing => exact List.forall_mem_nil _
  | createOrganization => exact isFleet_indexed rfl rfl
  | changeOrganization => exact isFleet_audited rfl
  | createProject => exact isFleet_indexed rfl rfl
  | changeProject => exact isFleet_audited rfl
  | createEnvironment => exact isFleet_indexed rfl rfl
  | changeEnvironment => exact isFleet_audited rfl
  | beginConnection => exact isFleet_audited rfl
  | completeConnection attemptId id r consumed audit change deletes =>
    rw [List.forall_mem_append]
    refine ⟨?_, isFleet_audited rfl⟩
    rcases deletes with rfl | rfl
    · exact List.forall_mem_nil _
    · rw [List.forall_mem_singleton]
      rfl
  | changeConnection => exact isFleet_audited rfl
  | touchConnection =>
    rw [List.forall_mem_singleton]
    rfl
  | reserveAssignmentEpoch realmId _ _ asked => exact absurd asked (hop realmId)
  | bindRole => exact isFleet_indexed rfl rfl
  | revokeRoleBinding => exact isFleet_audited rfl
  | recordRemoteMutation =>
    rw [List.forall_mem_cons, List.forall_mem_singleton]
    exact ⟨rfl, rfl⟩

theorem isLedger_exec {sha256Hex : String → String} {c : Call} {op : FleetOp}
    (h : op.exec sha256Hex db c = .ok ws) : ∀ w ∈ ws, w.key.isLedger = false := by
  by_cases hop : ∃ realmId, op = .reserveAssignmentEpoch realmId
  · obtain ⟨realmId, rfl⟩ := hop
    obtain rfl := (pure_eq_ok _ _).mp h
    exact List.forall_mem_singleton.mpr rfl
  · intro w hw
    have hfleet := isFleet_exec h (fun realmId heq => hop ⟨realmId, heq⟩) w hw
    cases hkey : w.key with
    | fleetAnalyticsBucket =>
      rw [hkey] at hfleet
      cases hfleet
    | _ => rfl

theorem isLedger_observe {id : Uuid} {state : FleetConnectionStateRecord}
    {record : FleetConnectionRecord}
    (h : observeFleetConnection db now id state = .ok (record, ws)) :
    ∀ w ∈ ws, w.key.isLedger = false := by
  simp only [observeFleetConnection, bind_eq_ok] at h
  obtain ⟨old, _, h⟩ := h
  split at h <;> cases h
  · exact List.forall_mem_nil _
  · rw [List.forall_mem_singleton]
    rfl

/-- What a ledger key holds after a turn was there before, or is observed as stored for the
    connection it is stamped with. -/
theorem connectorStep_ledger {input : ConnectorInput} (h : ConnectorStep ctx db phase input turn)
    {t : Nat} {realmId : String} {epoch start : Nat} {record : FleetTelemetryBucketRecord}
    (hrecord : turn.shared.get t (.fleetAnalyticsBucket realmId epoch start) = some record) :
    db.get t (.fleetAnalyticsBucket realmId epoch start) = some record ∨
      .stored record.connectionId ∈ turn.observed := by
  cases h with
  | operate step =>
    obtain ⟨ws, hexec, rfl⟩ := step
    exact Or.inl ((get_ledger_commit (isLedger_exec hexec) _ _ _ _ _ _).symm.trans hrecord)
  | hello => exact Or.inl hrecord
  | quiet => exact Or.inl hrecord
  | heartbeat observed =>
    exact Or.inl ((get_ledger_commit (isLedger_observe observed) _ _ _ _ _ _).symm.trans hrecord)
  | aside _ writes =>
    exact Or.inl ((get_ledger_commit writes.not_ledger _ _ _ _ _ _).symm.trans hrecord)
  | @accept stream batch batchId policy now newId =>
    refine (get_commit_cases _ _ _ _ hrecord).imp id ?_
    rintro ⟨w, hw, hputs⟩
    obtain ⟨bucket, hbucket, hwrite⟩ := mem_acceptBuckets (by cases hputs <;> rfl) hw
    obtain ⟨haccepted, rfl⟩ := key_acceptedWrite hwrite
    have hany : anyAccepted ctx db stream batch batchId policy now newId = true :=
      List.any_eq_true.mpr ⟨bucket, hbucket, decide_eq_true haccepted⟩
    show _ ∈ if _ then _ else _
    rw [if_pos hany]
    cases hputs
    exact List.mem_singleton_self _

/-! ### Revoked connections -/

theorem frozen_commit {id : Uuid} (now : Nat) (h : ∀ w ∈ ws, ∀ id, w.key ≠ .fleetConnection id)
    (hfrozen : Frozen db id) :
    Frozen (commit now db ws) id := by
  obtain ⟨r, hrevoked, hr⟩ := hfrozen
  refine ⟨r, hrevoked, fun t => ?_⟩
  rw [get_commit_of_forall_ne now t ws _ db fun w hw hkey => h w hw id hkey.symm, hr]

theorem acceptBuckets_keys {ledger : LedgerContext} :
    ∀ w ∈ (acceptBuckets ledger db c policy batchId batch).2,
      w.key.isLedger = true ∨ w.key.isTenancy = false := by
  intro w hw
  simp only [acceptBuckets, List.mem_append, List.mem_filterMap, List.mem_singleton] at hw
  rcases hw with (⟨⟨bucket, i⟩, _, hquarantine⟩ | ⟨bucket, _, haccepted⟩) | rfl
  · unfold quarantineWrite at hquarantine
    split at hquarantine <;> cases hquarantine
    exact Or.inr rfl
  · obtain ⟨_, rfl⟩ := key_acceptedWrite haccepted
    exact Or.inl rfl
  · exact Or.inr rfl

theorem not_connection_acceptBuckets {ledger : LedgerContext} :
    ∀ w ∈ (acceptBuckets ledger db c policy batchId batch).2, ∀ id, w.key ≠ .fleetConnection id := by
  intro w hw id hkey
  rcases acceptBuckets_keys w hw with h | h <;> rw [hkey] at h <;> cases h

/-- A heartbeat leaves the record of a revoked connection, whatever stream sends it. -/
theorem observe_frozen {id id' : Uuid} {state : FleetConnectionStateRecord}
    {record : FleetConnectionRecord}
    (h : observeFleetConnection db now id' state = .ok (record, ws)) {r : FleetConnectionRecord}
    (hr : db.fleetConnection now id = some r) (hrevoked : r.state = .revoked) (t : Nat) :
    (commit now db ws).get t (.fleetConnection id) = db.get t (.fleetConnection id) := by
  simp only [observeFleetConnection, bind_eq_ok, okOr_eq_ok] at h
  obtain ⟨old, found, h⟩ := h
  split at h <;> cases h
  · rfl
  · next live =>
    refine get_commit_of_forall_ne now t _ _ db fun w hw hkey => ?_
    rw [List.mem_singleton.mp hw] at hkey
    cases hkey
    have hold : old = r := Option.some.inj (found.symm.trans hr)
    exact live (Or.inl (hold ▸ hrevoked))

/-- The condition of the turns: a completion takes a new id, and no stream of a connection is open
    when its revocation commits. -/
def ClosedWhenRevoked (world : ConnectorWorld) (l : Nat × ConnectorInput) : Prop :=
  match l.2 with
  | .operate request => TakesNewId world.shared request ∧
      ∀ id, .revoked id ∈ revocation world.shared request → ∀ i, (world.task i).serves ≠ some id
  | _ => True

/-- Nothing is stored for a connection after its revocation. -/
def DeadAfterRevocation (history : List ConnectorEvent) : Prop :=
  ∀ later id earlier, history = later ++ .stored id :: earlier → .revoked id ∉ earlier

/-- Revoked connections are frozen, and no stream of them is open. -/
structure RevokedAreClosed (world : ConnectorWorld) : Prop where
  own : OwnIds world.shared
  frozen : ∀ id, .revoked id ∈ world.history → Frozen world.shared id
  closed : ∀ i id, (world.task i).serves = some id → .revoked id ∉ world.history
  dead : DeadAfterRevocation world.history

theorem DeadAfterRevocation.cons {history : List ConnectorEvent} (h : DeadAfterRevocation history)
    {event : ConnectorEvent} (hevent : ∀ id, event = .stored id → .revoked id ∉ history) :
    DeadAfterRevocation (event :: history) := by
  intro later id earlier heq
  cases later with
  | nil =>
    obtain ⟨rfl, rfl⟩ := List.cons.inj heq
    exact hevent id rfl
  | cons e later => exact h later id earlier (List.cons.inj heq).2

theorem revocation_cases (db : Db) (request : FleetRequest) :
    revocation db request = [] ∨ ∃ organizationId projectId environmentId id,
      request.op = .revokeConnection organizationId projectId environmentId id ∧
        FirstUse db request.call ∧ revocation db request = [.revoked id] := by
  unfold revocation
  split
  · next organizationId projectId environmentId id hop =>
    split
    · next first => exact Or.inr ⟨_, _, _, id, hop, first, rfl⟩
    · exact Or.inl rfl
  · exact Or.inl rfl

/-- The connection of a stream that opens is in the store, and not revoked there. -/
theorem openStream_active {suppliedProof : String} {frame : ConnectorFrame}
    {stream : ConnectorStream} (h : openStream ctx db now suppliedProof frame = .ok stream) :
    ∃ id, db.fleetConnection now id = some stream.connection ∧
      stream.connection.state ≠ .revoked := by
  simp only [openStream, bind_eq_ok, okOr_eq_ok, Option.filter_eq_some_iff, pure_eq_ok] at h
  obtain ⟨_, _, id, _, connection, ⟨hfound, hactive⟩, _, _, _, _, rfl⟩ := h
  refine ⟨id, hfound, fun hrevoked => ?_⟩
  unfold connectorConnectionActive at hactive
  rw [hrevoked] at hactive
  cases hactive

section Closed

variable {world : ConnectorWorld} {i : Nat} (h : RevokedAreClosed world)

include h

/-- HELLO opens no stream of a connection that was revoked. -/
theorem RevokedAreClosed.opened {suppliedProof : String} {frame : ConnectorFrame}
    {stream : ConnectorStream}
    (hopened : openStream ctx world.shared now suppliedProof frame = .ok stream) :
    .revoked stream.connection.id ∉ world.history := by
  intro hmem
  obtain ⟨id, hfound, hactive⟩ := openStream_active hopened
  have hid := h.own now id _ hfound
  obtain ⟨r, hr, hrevoked⟩ := (h.frozen _ hmem).fleetConnection now
  rw [hid, hfound] at hr
  cases hr
  exact hactive hrevoked

/-- A turn that is not observed as a revocation. -/
theorem RevokedAreClosed.pass (hown : OwnIds turn.shared)
    (hfrozen : ∀ id, .revoked id ∈ world.history → Frozen turn.shared id)
    (hserves : ∀ id, turn.phase.serves = some id →
      (world.task i).serves = some id ∨ .revoked id ∉ world.history)
    (hobserved : turn.observed = [] ∨ ∃ id, turn.observed = [.stored id] ∧
      (world.task i).serves = some id) : RevokedAreClosed (world.take i turn) := by
  have hold : ∀ id, .revoked id ∈ (world.take i turn).history → .revoked id ∈ world.history := by
    intro id hmem
    refine (List.mem_append.mp hmem).resolve_left fun hnew => ?_
    rcases hobserved with hnone | ⟨id', hstored, _⟩
    · rw [hnone] at hnew
      cases hnew
    · rw [hstored] at hnew
      cases List.mem_singleton.mp hnew
  refine ⟨hown, fun id hmem => hfrozen id (hold id hmem), ?_, ?_⟩
  · intro j id hj hmem
    by_cases hji : j = i
    · subst hji
      rw [take_task_self] at hj
      exact (hserves id hj).elim (h.closed j id · (hold id hmem)) (· (hold id hmem))
    · rw [take_task_of_ne hji] at hj
      exact h.closed j id hj (hold id hmem)
  · show DeadAfterRevocation (turn.observed ++ world.history)
    rcases hobserved with hnone | ⟨id, hstored, hopen⟩
    · rw [hnone]
      exact h.dead
    · rw [hstored]
      refine h.dead.cons fun id' heq => ?_
      cases heq
      exact h.closed i id hopen

theorem RevokedAreClosed.operate {request : FleetRequest} {db' : Db}
    (hclosed : ClosedWhenRevoked world (i, .operate request))
    (step : FleetStep ctx.sha256Hex world.shared request db') :
    RevokedAreClosed (world.take i ⟨db', .idle, revocation world.shared request⟩) := by
  obtain ⟨hnew, hnone⟩ := hclosed
  have hown : OwnIds db' := by
    obtain ⟨ws, hexec, rfl⟩ := step
    exact h.own.commit (exec_connection hexec)
  have hkeep : ∀ id, .revoked id ∈ world.history → Frozen db' id := fun id hid =>
    frozen_step step hnew (h.frozen id hid)
  rcases revocation_cases world.shared request with hquiet | ⟨o, p, e, id, hop, first, hrevoked⟩
  · exact h.pass hown hkeep (fun _ => nofun) (.inl hquiet)
  · rw [hrevoked] at hnone ⊢
    obtain ⟨c, op⟩ := request
    dsimp only at hop
    subst hop
    refine ⟨hown, fun id' hmem => ?_, fun j id' hj hmem => ?_, h.dead.cons nofun⟩
    · rcases List.mem_cons.mp hmem with heq | hold
      · cases heq
        exact frozen_of_revoke first step
      · exact hkeep id' hold
    · have hj' : (world.task j).serves = some id' := owner_of_take (.inl rfl) hj
      rcases List.mem_cons.mp hmem with heq | hold
      · cases heq
        exact hnone id (List.mem_singleton_self _) j hj'
      · exact h.closed j id' hj' hold

theorem RevokedAreClosed.step {l : Nat × ConnectorInput} (hclosed : ClosedWhenRevoked world l)
    (hstep : ConnectorStep ctx world.shared (world.task l.1) l.2 turn) :
    RevokedAreClosed (world.take l.1 turn) := by
  obtain ⟨i, input⟩ := l
  dsimp only at hstep ⊢
  -- commands on no connection
  have haside : ∀ {now : Nat} {ws : List Write}, (∀ w ∈ ws, ∀ id, w.key ≠ .fleetConnection id) →
      OwnIds (commit now world.shared ws) ∧
        ∀ id, .revoked id ∈ world.history → Frozen (commit now world.shared ws) id := by
    intro now ws hws
    refine ⟨fun t id r hr => h.own t id r ?_, fun id hid => frozen_commit now hws (h.frozen id hid)⟩
    unfold Db.fleetConnection at hr
    rwa [get_commit_of_forall_ne now t ws _ _ fun w hw hkey => hws w hw id hkey.symm] at hr
  generalize hphase : world.task i = phase at hstep
  cases hstep with
  | operate step => exact h.operate hclosed step
  | hello opened =>
    refine h.pass h.own h.frozen (fun id hid => .inr ?_) (.inl rfl)
    cases hid
    exact h.opened opened
  | quiet next serves =>
    refine h.pass h.own h.frozen (fun id hid => .inl ?_) (.inl rfl)
    rcases serves with hnone | hsame
    · cases hnone.symm.trans hid
    · rw [hphase, ← hsame]
      exact hid
  | @heartbeat stream now frame record ws observed =>
    refine h.pass ?_ (fun id hid => ?_) (fun id hid => .inl (hphase ▸ hid)) (.inl rfl)
    · -- of the call only the clock matters
      exact h.own.commit
        (observeFleetConnection_effect (c := ⟨0, 0, "", now, 0, 0⟩) observed).changesConnection
    · obtain ⟨r, hrevoked, hr⟩ := h.frozen id hid
      exact ⟨r, hrevoked, fun t => (observe_frozen observed (hr _) hrevoked t).trans (hr t)⟩
  | aside now writes next serves =>
    obtain ⟨hown, hfrozen⟩ := haside writes.not_connection
    refine h.pass hown hfrozen (fun id hid => .inl ?_) (.inl rfl)
    rw [hphase, ← serves]
    exact hid
  | @accept stream batch batchId policy now newId =>
    obtain ⟨hown, hfrozen⟩ := haside not_connection_acceptBuckets
    refine h.pass hown hfrozen (fun id hid => .inl (hphase ▸ hid)) ?_
    dsimp only [acceptBatch]
    split
    · exact .inr ⟨stream.connection.id, rfl, by rw [hphase]; rfl⟩
    · exact .inl rfl

end Closed

theorem revokedAreClosed_run {ls : List (Nat × ConnectorInput)} {world : ConnectorWorld}
    (hown : OwnIds db)
    (run : Run (Restrict (ConnectorTurns ctx) ClosedWhenRevoked) (connectorStart db) ls world) :
    RevokedAreClosed world := by
  refine run.invariant (I := RevokedAreClosed) ?_
    ⟨hown, nofun, nofun, fun later id earlier heq => ?_⟩
  · rintro world l world' h ⟨hclosed, turn, hact, rfl⟩
    exact h.step hclosed (connectorTurn_step hact)
  · cases later <;> cases heq

/-- No frame changes the record of a revoked connection. -/
theorem frame_frozen {frame : ConnectorFrame}
    (h : ConnectorStep ctx db phase (.frame now frame) turn) {id : Uuid} {r : FleetConnectionRecord}
    (hr : db.fleetConnection now id = some r) (hrevoked : r.state = .revoked) (t : Nat) :
    turn.shared.get t (.fleetConnection id) = db.get t (.fleetConnection id) := by
  cases h with
  | quiet => rfl
  | heartbeat observed => exact observe_frozen observed hr hrevoked t
  | aside now' writes =>
    exact get_commit_of_forall_ne now' t _ _ db fun w hw hkey =>
      writes.not_connection w hw id hkey.symm

/-- Telemetry and heartbeats after a revocation.  In every run in which no stream of a connection is
    open when its revocation commits, no telemetry is stored for it afterwards.  What is stored is
    observed, and a heartbeat never changes a revoked record. -/
theorem revoked_connection_dead (ctx : ConnectorContext) :
    (∀ db ls world, OwnIds db →
      Run (Restrict (ConnectorTurns ctx) ClosedWhenRevoked) (connectorStart db) ls world →
      DeadAfterRevocation world.history) ∧
    (∀ world l world', ConnectorTurns ctx world l world' →
      ∃ observed, world'.history = observed ++ world.history ∧
        ∀ t realmId epoch start record,
          world'.shared.get t (.fleetAnalyticsBucket realmId epoch start) = some record →
          world.shared.get t (.fleetAnalyticsBucket realmId epoch start) = some record ∨
            .stored record.connectionId ∈ observed) ∧
    ∀ world i now frame world', ConnectorTurns ctx world (i, .frame now frame) world' →
      ∀ id r, world.shared.fleetConnection now id = some r → r.state = .revoked →
        ∀ t, world'.shared.get t (.fleetConnection id) = world.shared.get t (.fleetConnection id) := by
  refine ⟨?_, ?_, ?_⟩
  · intro db ls world hown run
    exact (revokedAreClosed_run hown run).dead
  · rintro world l world' ⟨turn, hact, rfl⟩
    refine ⟨turn.observed, rfl, fun t realmId epoch start record hrecord => ?_⟩
    exact connectorStep_ledger (connectorTurn_step hact) hrecord
  · rintro world i now frame world' ⟨turn, hact, rfl⟩ id r hr hrevoked t
    exact frame_frozen (connectorTurn_step hact) hr hrevoked t

/-! ### A sample stream -/

def sampleReporter : FleetConnectionRecord :=
  { sampleConnection with capabilities := [(capabilityTelemetryRollupsV1, 1)] }

def sampleExpiry : String := "1970-01-01T00:21:40Z"

/-- A checksum of 32 bytes. -/
def sampleTag (key message : Bytes) : Bytes :=
  bigEndian 32 ((key ++ message).foldl (fun n byte => n * 257 + byte.toNat) 1)

/-- Texts are their own digests, and the payload of a frame is the revision it reports. -/
def sampleConnector : ConnectorContext where
  crates :=
    { parseStr := parseUuid
      parseTime := fun text => if text = sampleExpiry then some 1300 else none
      decodeBatch := fun payload => .ok (sampleReport payload.length).batch
      sha256 := id
      hmac := sampleTag
      openCredential := fun _ _ => .ok "secret" }
  ledger := sampleEncoding
  sha256Hex := id

def sampleFrame (kind : ConnectorFrameKind) (payload : Bytes) (payloadType : String) :
    ConnectorFrame :=
  signConnectorFrame sampleConnector.crates
    { realmId := "realm"
      connectionId := sampleReporter.id.text
      requestId := (1 : Uuid).text
      kind := .known kind
      capability := capabilityTelemetryRollupsV1
      expiresAt := sampleExpiry
      payload
      payloadType
      signature := [] } (connectorSigningKeyFromCredential sampleConnector.crates "secret")

def sampleProof : String := connectorProofFromCredential sampleConnector.crates "secret"

def sampleRevocation : FleetRequest := ⟨sampleCall 60, .revokeConnection 101 102 103 500⟩

def reportedLedger : Db :=
  commit 1000 sampleLedger [.set (.fleetConnection 500) sampleReporter]

/-- HELLO, a revision that is stored, and a heartbeat. -/
def sampleStreamed : List (Nat × ConnectorInput) :=
  [(0, .hello 1100 sampleProof (sampleFrame .hello [] "")),
    (0, .frame 1200 (sampleFrame .telemetryBatch [0] telemetryBatchType)),
    (0, .proceed 1200 (sampleReport 1).call.newId), (0, .proceed 1200 (sampleReport 1).call.newId),
    (0, .proceed 1200 (sampleReport 1).call.newId),
    (0, .frame 1201 (sampleFrame .heartbeat [] ""))]

/-- The revocation, and the next revision in a frame that arrives after it. -/
def sampleAfterRevoked : List (Nat × ConnectorInput) :=
  [(1, .operate sampleRevocation),
    (0, .frame 1300 (sampleFrame .telemetryBatch [0, 0] telemetryBatchType)),
    (0, .proceed 1300 (sampleReport 2).call.newId), (0, .proceed 1300 (sampleReport 2).call.newId),
    (0, .proceed 1300 (sampleReport 2).call.newId)]

/-- A frame that arrives after the revocation of its connection replaces the stored revision. -/
theorem telemetry_stored_after_revocation : ∃ world,
    Run (ConnectorTurns sampleConnector) (connectorStart reportedLedger)
      (sampleStreamed ++ sampleAfterRevoked) world ∧
    world.history = [.stored 500, .revoked 500, .stored 500] ∧
    ¬DeadAfterRevocation world.history ∧
    (world.shared.get 1300 (.fleetAnalyticsBucket "realm" 1 900000)).map (·.revision) = some 2 := by
  have hexec : (execAll (takeTurn (connectorTurn sampleConnector)) (connectorStart reportedLedger)
      (sampleStreamed ++ sampleAfterRevoked)).map (fun world => (world.history,
        (world.shared.get 1300 (.fleetAnalyticsBucket "realm" 1 900000)).map (·.revision))) =
      some ([.stored 500, .revoked 500, .stored 500], some 2) := by decide +kernel
  obtain ⟨world, run, hresult⟩ := exists_run (turns_of_takeTurn _) hexec
  obtain ⟨hhistory, hrevision⟩ := Prod.mk.inj hresult
  refine ⟨world, run, hhistory, ?_, hrevision⟩
  rw [hhistory]
  intro hdead
  exact hdead [] 500 _ rfl List.mem_cons_self

/-- The stream ends before the revocation, and HELLO opens no other. -/
def sampleClosed : List (Nat × ConnectorInput) :=
  sampleStreamed ++ [(0, .hangUp), (0, .operate sampleRevocation),
    (0, .hello 1300 sampleProof (sampleFrame .hello [] ""))]

/-- Only task 0 takes turns, and it has no stream open when it operates. -/
def Alone (world : ConnectorWorld) : Nat × ConnectorInput → Prop
  | (i, .operate request) => i = 0 ∧ TakesNewId world.shared request ∧ (world.task 0).serves = none
  | (i, _) => i = 0

instance (world : ConnectorWorld) (l : Nat × ConnectorInput) : Decidable (Alone world l) := by
  rcases l with ⟨i, _ | _⟩ <;> unfold Alone <;> infer_instance

/-- The other tasks never begin, so no stream is open when task 0 revokes. -/
theorem closedWhenRevoked_of_alone {ls : List (Nat × ConnectorInput)} {world : ConnectorWorld}
    (run : Run (Restrict (ConnectorTurns sampleConnector) Alone)
      (connectorStart reportedLedger) ls world) :
    Run (Restrict (ConnectorTurns sampleConnector) ClosedWhenRevoked)
      (connectorStart reportedLedger) ls world := by
  refine run.imp (I := fun world => ∀ j, j ≠ 0 → world.task j = .idle) ?_ fun _ _ => rfl
  rintro world ⟨i, input⟩ world' hidle ⟨halone, turn, hact, rfl⟩
  obtain ⟨rfl, hclosed⟩ : i = 0 ∧ ClosedWhenRevoked world (i, input) := by
    cases input with
    | operate request =>
      obtain ⟨rfl, hnew, hnone⟩ := halone
      refine ⟨rfl, hnew, fun id _ j hj => ?_⟩
      by_cases hj0 : j = 0
      · rw [hj0, hnone] at hj
        cases hj
      · rw [hidle j hj0] at hj
        cases hj
    | _ => exact ⟨halone, trivial⟩
  refine ⟨⟨hclosed, turn, hact, rfl⟩, fun j hj => ?_⟩
  rw [take_task_of_ne hj]
  exact hidle j hj

theorem ownIds_reportedLedger : OwnIds reportedLedger := by
  intro t id r hr
  rcases get_commit_cases _ _ _ _ hr with hr | ⟨w, hw, hputs⟩
  · rcases get_commit_cases _ _ _ _ hr with hr | ⟨w, hw, hputs⟩
    · cases hr
    · rw [List.mem_singleton.mp hw] at hputs
      cases hputs
  · rw [List.mem_singleton.mp hw] at hputs
    cases hputs
    rfl

theorem revoked_connection_dead_sample : OwnIds reportedLedger ∧ ∃ world,
    Run (Restrict (ConnectorTurns sampleConnector) ClosedWhenRevoked)
      (connectorStart reportedLedger) sampleClosed world ∧
    (world.task 0).serves = none ∧ world.history = [.revoked 500, .stored 500] ∧
    DeadAfterRevocation world.history := by
  have hexec : (execAll (execWhen Alone (takeTurn (connectorTurn sampleConnector)))
      (connectorStart reportedLedger) sampleClosed).map
        (fun world => ((world.task 0).serves, world.history)) =
      some (none, [.revoked 500, .stored 500]) := by decide +kernel
  obtain ⟨world, run, hend⟩ := exists_run (restrict_of_execWhen (turns_of_takeTurn _)) hexec
  obtain ⟨hserves, hhistory⟩ := Prod.mk.inj hend
  have run := closedWhenRevoked_of_alone
    run
  exact ⟨ownIds_reportedLedger, world, run, hserves, hhistory,
    (revoked_connection_dead sampleConnector).1 _ _ _ ownIds_reportedLedger run⟩

end RustyAuth
