/-
  Completing a connection to a public realm.

  The RPC reads the attempt, asks the realm for its discovery document, reserves the next
  assignment epoch, exchanges the pairing code for a grant and stores the connection.
  It does not hold the store's lock while it talks to the realm, so it meets the
  database three times, possibly in three different states (`Meeting`).  The realm's two
  answers are arbitrary data.

  * `reserve_frame`: reserving an epoch touches no connection.
  * `completeConnection_creates_iff`: when the connection stored is a new one.  Its id is
    the one the realm answers, and nothing compares it with the ids in use.
-/
import RustyAuth.Rpc.OperatorAuth
import RustyAuth.Store.FleetSystem

namespace RustyAuth

open RustyAuth.Library

/-! ## What the realm answers -/

structure RealmDiscovery where
  realmId : String
  deploymentVersion : String
  managementProtocolVersion : String
  pairingSupported : Bool
  outboundConnectorSupported : Bool
  capabilities : List (String × Nat)
  issuer : String
  rpId : String
deriving DecidableEq

structure PairingGrant where
  connectionId : String
  realmId : String
  credential : String
  credentialHint : String
  grantedScopes : List String
  assignmentEpoch : Nat
deriving DecidableEq

def isAsciiAlphanumeric (ch : Char) : Bool :=
  ('a' ≤ ch && ch ≤ 'z') || ('A' ≤ ch && ch ≤ 'Z') || ('0' ≤ ch && ch ≤ '9')

/-- What the model takes from other crates: SHA-256, UUID and URL parsing, and the sealing
    of a credential under the control plane's key ring. -/
structure Crates where
  sha256Hex : String → String
  parseUuid : String → Option Uuid
  /-- The issuer parses as an origin over https, or over http on the local host. -/
  issuerIsOrigin : String → Bool
  sealCredential : Uuid → String → EncryptedFleetCredential

def validateManagementDiscovery (crates : Crates) (discovery : RealmDiscovery)
    (requireOutboundConnector : Bool) : RpcResult Unit := do
  ensure (¬(discovery.realmId = "" ∨ 128 < discovery.realmId.utf8ByteSize ∨
      ¬ discovery.realmId.toList.all (fun ch => isAsciiAlphanumeric ch || ch == '-' || ch == '_') ∨
      discovery.managementProtocolVersion ≠ "1" ∨ ¬ discovery.pairingSupported ∨
      (requireOutboundConnector ∧ ¬ discovery.outboundConnectorSupported) ∨
      discovery.capabilities = [] ∨ 32 < discovery.capabilities.length ∨
      ∃ capability ∈ discovery.capabilities,
        capability.1 = "" ∨ 128 < capability.1.utf8ByteSize ∨ capability.2 = 0 ∨
        ¬ capability.1.toList.all
          (fun ch => isAsciiAlphanumeric ch || ch == '.' || ch == '-' || ch == '_')))
    (invalid "realm discovery is invalid")
  forEach [discovery.deploymentVersion, discovery.issuer, discovery.rpId] fun value =>
    ensure (¬(value = "" ∨ 512 < value.utf8ByteSize ∨ value.toList.any isControl))
      (invalid "realm discovery is invalid")
  ensure (crates.issuerIsOrigin discovery.issuer)
    (invalid "realm discovery issuer is invalid")

/-! ## The RPC -/

structure CompleteCall where
  actor : OperatorActor
  requestId : Uuid
  reason : String
  attemptId : Uuid
  pairingCode : String
  auditId : Uuid

/-- The realm's answers; a call to it may also fail. -/
structure Realm where
  discovery : RpcResult RealmDiscovery
  grant : RpcResult PairingGrant

def requiredUuid (crates : Crates) (value : String) : RpcResult Uuid :=
  okOr (crates.parseUuid value) (invalid "resource id is invalid")

/-- The record stored for a grant. -/
def grantedConnection (crates : Crates) (attempt : FleetConnectionAttemptRecord)
    (discovery : RealmDiscovery) (grant : PairingGrant) (assignmentEpoch now : Nat) :
    RpcResult FleetConnectionRecord := do
  let id ← requiredUuid crates grant.connectionId
  let realmId ← safeText discovery.realmId "realm_id" 128 false
  let credentialHint ← safeText grant.credentialHint "credential_hint" 32 true
  let deploymentVersion ← safeText discovery.deploymentVersion "deployment_version" 64 true
  let protocolVersion ← safeText discovery.managementProtocolVersion "protocol_version" 32 true
  let issuer ← safeText discovery.issuer "issuer" 512 true
  let rpId ← safeText discovery.rpId "rp_id" 253 true
  return {
    id, organizationId := attempt.organizationId, projectId := attempt.projectId,
    environmentId := attempt.environmentId, realmId, assignmentEpoch, displayName := realmId,
    mode := attempt.mode, managementEndpoint := attempt.managementEndpoint,
    credential := crates.sealCredential id grant.credential, credentialHint, stagedCredential := none,
    stagedCredentialHint := none, credentialRotationRequestId := none, deploymentVersion,
    protocolVersion, capabilities := discovery.capabilities, grantedScopes := grant.grantedScopes,
    issuer, rpId, state := .healthy, lastSeenAt := some now, createdAt := 0, updatedAt := 0,
    revokedAt := none }

/-- What a completion that returns has done: the record it answers, the pipeline of the
    reserved epoch and the pipeline of the connection. -/
structure Completion where
  record : FleetConnectionRecord
  reserved : List Write
  committed : List Write

/-- The attempt is read at `first`, the epoch reserved at `second`, the connection stored
    at `third`. -/
def completeConnection (crates : Crates) (call : CompleteCall) (realm : Realm)
    (first second third : Meeting) : RpcResult Completion := do
  let _pairingCode ← safeSecret call.pairingCode 16 256
  let attempt ← okOr ((first.db.fleetConnectionAttempt first.now call.attemptId).filter
    (first.now < ·.expiresAt)) (sourceError .fleetConnectionAttemptExpired)
  authorizeFleet first.db first.now call.actor .administer .environment attempt.environmentId
  ensure (attempt.mode ≠ .outboundConnector)
    ⟨.failedPrecondition, "outbound attempt must be completed from the private realm"⟩
  let discovery ← realm.discovery
  validateManagementDiscovery crates discovery false
  let (assignmentEpoch, reserved) :=
    reserveFleetAssignmentEpoch crates.sha256Hex second.db second.now discovery.realmId
  let grant ← realm.grant
  ensure (grant.realmId = discovery.realmId ∧ grant.connectionId ≠ "" ∧
      grant.assignmentEpoch = assignmentEpoch)
    ⟨.dataLoss, "realm pairing response is inconsistent"⟩
  let record ← grantedConnection crates attempt discovery grant assignmentEpoch third.now
  let reason ← safeText call.reason "mutation.reason" 500 true
  let (record, committed) ← fromStore (completeFleetConnection third.db
    { requestId := call.requestId, operatorId := call.actor.userId, reason, now := third.now,
      newId := record.id, auditId := call.auditId } call.attemptId record)
  return { record, reserved, committed }

/-! ## What it does to the connections -/

/-- One connection is added, under an id no connection had, and no other changes. -/
def OnlyCreates (db db' : Db) (now : Nat) : Prop :=
  ∃ id, db.fleetConnection now id = none ∧ (db'.fleetConnection now id).isSome ∧
    ∀ t other, other ≠ id → db'.fleetConnection t other = db.fleetConnection t other

/-- Reserving an epoch touches no connection. -/
theorem reserve_frame (sha256Hex : String → String) (db : Db) (now : Nat) (realmId : String)
    (t : Nat) (id : Uuid) :
    Db.fleetConnection (commit now db (reserveFleetAssignmentEpoch sha256Hex db now realmId).2)
      t id = db.fleetConnection t id := by
  refine get_commit_of_forall_ne now t _ (.fleetConnection id) db ?_
  exact List.forall_mem_singleton.mpr (by simp [Command.key])

/-- Completing a connection stores the record and leaves every other connection alone. -/
theorem completeFleetConnection_cases {db : Db} {c : Call} {attemptId : Uuid}
    {record r : FleetConnectionRecord} {ws : List Write}
    (h : completeFleetConnection db c attemptId record = .ok (r, ws)) :
    (¬ FirstUse db c ∧ ws = []) ∨
      (FirstUse db c ∧ ∀ t id, Db.fleetConnection (commit c.now db ws) t id =
        if id = record.id then some r else db.fleetConnection t id) := by
  simp only [completeFleetConnection, replayOr_eq_ok, bind_eq_ok, ensure_eq_ok, okOr_eq_ok,
    exists_const] at h
  obtain ⟨_, used, _, rfl⟩ | ⟨first, attempt, _, _, _, _, h⟩ := h
  · refine .inl ⟨?_, rfl⟩
    intro first
    exact absurd (first.symm.trans used) (by simp)
  refine .inr ⟨first, ?_⟩
  obtain ⟨consumed, audit, hconsumed, rfl⟩ : ∃ consumed audit,
      (consumed = [] ∨ consumed = [.del (.fleetConnectionAttempt attemptId)]) ∧
        ws = consumed ++
          persistFleetMutation c (.set (.fleetConnection record.id) r) none audit := by
    split at h <;> cases h
    · exact ⟨[], _, .inl rfl, rfl⟩
    · exact ⟨[_], _, .inr rfl, rfl⟩
  clear h
  intro t id
  unfold Db.fleetConnection
  rw [commit_append]
  -- consuming the attempt first makes no difference to the connections
  have hconsume : (commit c.now db consumed).get t (.fleetConnection id) =
      db.get t (.fleetConnection id) := by
    refine get_commit_of_forall_ne c.now t _ _ db ?_
    rcases hconsumed with rfl | rfl
    · intro w hw; cases hw
    · exact List.forall_mem_singleton.mpr (by simp [Command.key])
  by_cases hid : id = record.id
  · subst hid
    rw [if_pos rfl]
    refine get_commit_persist_self (k := .fleetConnection record.id) _ c t r (fun f => f) ?_
    rintro w ⟨⟩
  · rw [if_neg hid, ← hconsume]
    refine get_commit_persist_of_ne (k := .fleetConnection id) _ c t (fun f => f) ?_ ?_
    · simpa [Command.key] using hid
    · rintro w ⟨⟩

theorem grantedConnection_id {crates : Crates} {attempt : FleetConnectionAttemptRecord}
    {discovery : RealmDiscovery} {grant : PairingGrant} {assignmentEpoch now : Nat}
    {record : FleetConnectionRecord}
    (h : grantedConnection crates attempt discovery grant assignmentEpoch now = .ok record) :
    crates.parseUuid grant.connectionId = some record.id := by
  simp only [grantedConnection, requiredUuid, bind_eq_ok, okOr_eq_ok, pure_eq_ok] at h
  obtain ⟨id, hid, _, _, _, _, _, _, _, _, _, _, _, _, rfl⟩ := h
  exact hid

/-- A completion that returns on the first use of its request id adds one connection and
    changes no other exactly when the id in the realm's grant names no connection yet.
    Reserving the epoch touches no connection, and a request that already completed
    changes nothing. -/
theorem completeConnection_creates_iff (crates : Crates) (call : CompleteCall) (realm : Realm)
    (first second third : Meeting) (out : Completion)
    (h : completeConnection crates call realm first second third = .ok out) :
    (∀ t id, Db.fleetConnection (commit second.now second.db out.reserved) t id =
        second.db.fleetConnection t id) ∧
    (third.db.get third.now (.fleetIdempotency call.requestId) ≠ none → out.committed = []) ∧
    (third.db.get third.now (.fleetIdempotency call.requestId) = none →
      (OnlyCreates third.db (commit third.now third.db out.committed) third.now ↔
        ∀ grant id, realm.grant = .ok grant → crates.parseUuid grant.connectionId = some id →
          third.db.fleetConnection third.now id = none)) := by
  simp only [completeConnection, bind_eq_ok, pure_eq_ok, fromStore_eq_ok] at h
  obtain ⟨_, _, attempt, _, _, _, _, _, discovery, _, _, _, grant, hgrant, _, _, record, hrecord,
    reason, _, ⟨r, committed⟩, hstore, rfl⟩ := h
  have hid := grantedConnection_id hrecord
  refine ⟨fun t id => reserve_frame _ _ _ _ t id, ?_, ?_⟩
  · intro used
    rcases completeFleetConnection_cases hstore with ⟨-, rfl⟩ | ⟨unused, -⟩
    · rfl
    · exact absurd unused used
  · intro unused
    rcases completeFleetConnection_cases hstore with ⟨used, -⟩ | ⟨-, hread⟩
    · exact absurd unused used
    constructor
    · rintro ⟨id', hnone, hsome, -⟩ grant' id hgrant' hid'
      obtain rfl : grant = grant' := Except.ok.inj (hgrant.symm.trans hgrant')
      obtain rfl : record.id = id := Option.some.inj (hid.symm.trans hid')
      -- only the id of the record can have become present
      by_cases he : id' = record.id
      · exact he ▸ hnone
      · rw [hread, if_neg he, hnone] at hsome
        cases hsome
    · intro hfree
      refine ⟨record.id, hfree grant record.id hgrant hid, ?_, ?_⟩
      · rw [hread, if_pos rfl]; rfl
      · intro t other hne
        rw [hread, if_neg hne]

/-! ### A realm that answers the id of another organization's connection -/

def sampleCrates : Crates where
  sha256Hex := id
  parseUuid text :=
    if text = Uuid.text 500 then some 500 else if text = Uuid.text 600 then some 600 else none
  issuerIsOrigin _ := true
  sealCredential _ text := ⟨"key", "nonce", text⟩

/-- The workspace with its connection revoked, and a second organization with an attempt. -/
def sampleTenants : List FleetRequest :=
  sampleWorkspace ++
    [⟨sampleCall 6, .revokeConnection 101 102 103 500⟩,
      ⟨sampleCall 7, .createOrganization "globex" "Globex"⟩,
      ⟨sampleCall 8, .createProject 107 "app" "App" ""⟩,
      ⟨sampleCall 9, .createEnvironment 107 108 "prod" "Prod" .production "" ""⟩,
      ⟨sampleCall 10, .beginConnection 107 108 109 .publicEndpoint "https://other.example" none⟩]

/-- The attempt is read and the epoch reserved after `sampleTenants`, the connection
    stored after the reservation. -/
def sampleMeeting (requests : List FleetRequest) : Meeting where
  db := (execAll (fleetApply id) Keyspace.empty requests).getD Keyspace.empty
  now := 1011

def sampleReserved : List FleetRequest :=
  sampleTenants ++ [⟨sampleCall 11, .reserveAssignmentEpoch "other"⟩]

theorem run_sampleMeeting {requests : List FleetRequest}
    (h : (execAll (fleetApply id) Keyspace.empty requests).isSome) :
    Run (FleetStep id) Keyspace.empty requests (sampleMeeting requests).db := by
  refine run_of_execAll (fun _ _ _ => fleetStep_of_fleetApply) ?_
  obtain ⟨db, hdb⟩ := Option.isSome_iff_exists.mp h
  rw [sampleMeeting, hdb, Option.getD_some]

def sampleCompletion : CompleteCall where
  actor := ⟨1, .owner, some 1011⟩
  requestId := 11
  reason := "connect the realm"
  attemptId := 110
  pairingCode := "pairing-code-0123456789"
  auditId := 211

/-- A realm that grants the pairing under the id `connectionId`. -/
def sampleRealm (connectionId : Uuid) : Realm where
  discovery := .ok
    { realmId := "other", deploymentVersion := "1.0.0", managementProtocolVersion := "1",
      pairingSupported := true, outboundConnectorSupported := true,
      capabilities := [("management.pairing", 1)], issuer := "https://other.example",
      rpId := "other.example" }
  grant := .ok
    { connectionId := connectionId.text, realmId := "other", credential := "rfg_secret",
      credentialHint := "rfg_", grantedScopes := [], assignmentEpoch := 1 }

def sampleComplete (connectionId : Uuid) : RpcResult Completion :=
  completeConnection sampleCrates sampleCompletion (sampleRealm connectionId)
    (sampleMeeting sampleTenants) (sampleMeeting sampleTenants) (sampleMeeting sampleReserved)

/-- With an id that names no connection the completion only creates. -/
theorem completeConnection_creates_sample : ∃ out, sampleComplete 600 = .ok out ∧
    OnlyCreates (sampleMeeting sampleReserved).db
      (commit 1011 (sampleMeeting sampleReserved).db out.committed) 1011 := by
  have hsome : (sampleComplete 600).toOption.isSome := by decide +kernel
  obtain ⟨out, hout⟩ := Option.isSome_iff_exists.mp hsome
  have hout := (toOption_eq_some _ _).mp hout
  refine ⟨out, hout, ?_⟩
  refine ((completeConnection_creates_iff sampleCrates sampleCompletion (sampleRealm 600)
    (sampleMeeting sampleTenants) (sampleMeeting sampleTenants) (sampleMeeting sampleReserved)
    out hout).2.2 (by decide +kernel)).mpr ?_
  rintro grant id ⟨⟩ hid
  obtain rfl : 600 = id := Option.some.inj hid
  decide +kernel

/-- A realm paired into one organization answers the id of a revoked connection of another:
    the completion returns, moves the record into the realm's environment and revives it. -/
theorem completion_takes_over_connection : ∃ requests db out,
    Run (FleetStep id) Keyspace.empty requests db ∧
      completeConnection sampleCrates sampleCompletion (sampleRealm 500)
        (sampleMeeting sampleTenants) (sampleMeeting sampleTenants) ⟨db, 1011⟩ = .ok out ∧
      (∃ r, db.fleetConnection 1011 500 = some r ∧ r.organizationId = 101 ∧ r.state = .revoked) ∧
      (∃ r, Db.fleetConnection (commit 1011 db out.committed) 1011 500 = some r ∧
        r.organizationId = 107 ∧ r.state = .healthy) ∧
      ¬ OnlyCreates db (commit 1011 db out.committed) 1011 := by
  have hsome : ∃ out ∈ (sampleComplete 500).toOption,
      ∃ r ∈ Db.fleetConnection (commit 1011 (sampleMeeting sampleReserved).db out.committed)
        1011 500, r.organizationId = 107 ∧ r.state = .healthy := by decide +kernel
  have hbefore : ∃ r ∈ (sampleMeeting sampleReserved).db.fleetConnection 1011 500,
      r.organizationId = 101 ∧ r.state = .revoked := by decide +kernel
  obtain ⟨out, hout, hafter⟩ := hsome
  obtain ⟨r, hr, horganization, hstate⟩ := hbefore
  refine ⟨sampleReserved, (sampleMeeting sampleReserved).db, out,
    run_sampleMeeting (by decide +kernel), (toOption_eq_some _ _).mp hout,
    ⟨r, hr, horganization, hstate⟩, hafter, ?_⟩
  rintro ⟨id, hnone, -, hsame⟩
  obtain ⟨r', hr', horganization', -⟩ := hafter
  by_cases hid : 500 = id
  · subst hid
    exact absurd (hnone.symm.trans hr) (by simp)
  · have heq := (hsame 1011 500 hid).symm.trans hr'
    obtain rfl : r = r' := Option.some.inj ((Option.mem_def.mp hr).symm.trans heq)
    exact absurd (horganization.symm.trans horganization') (by decide)

end RustyAuth
