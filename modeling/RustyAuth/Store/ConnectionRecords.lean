/-
  What the operations of the Fleet store do to the record of a connection.

  Every command on a connection is a `ConnectionChange` (`exec_connection`).  A revoked
  record is frozen: only a completion that takes over its id can replace it (`frozen_step`).
-/
import RustyAuth.Store.FleetSystem
import RustyAuth.Library.Integrity

namespace RustyAuth

open RustyAuth.Library

/-- A command that stores a connection does so in one of the ways above. -/
def ChangesConnection (db : Db) (c : Call) (op : FleetOp) (w : Write) : Prop :=
  ∀ id, w.key = .fleetConnection id →
    ∃ r, w = .set (.fleetConnection id) r ∧ ConnectionChange db c op id r

variable {id organizationId projectId environmentId : Uuid} {r : FleetConnectionRecord} {db : Db}

section

variable {sha256Hex : String → String} {db : Db} {c : Call} {op : FleetOp} {ws : List Write}

theorem changesConnection_set (h : ConnectionChange db c op id r) :
    ChangesConnection db c op (.set (.fleetConnection id) r) := by
  intro id' hkey
  cases hkey
  exact ⟨r, rfl, h⟩

/-- A record of another family. -/
theorem changesConnection_other {w : Write} (h : ∀ id, w.key ≠ .fleetConnection id) :
    ChangesConnection db c op w := by
  intro id hkey
  exact absurd hkey (h id)

/-- The index, the audit and the request id of a mutation are no connections. -/
theorem changesConnection_persist {resource : Write} {slugIndex : Option Write}
    {audit : MutationAudit} (hresource : ChangesConnection db c op resource)
    (hindex : ∀ w ∈ slugIndex, ∀ id, Command.key w ≠ .fleetConnection id) :
    ∀ w ∈ persistFleetMutation c resource slugIndex audit, ChangesConnection db c op w :=
  forall_mem_persistFleetMutation.mpr
    ⟨⟨hresource, fun w hw => changesConnection_other (hindex w hw)⟩, nofun, nofun⟩

theorem changesConnection_audited {resource : Write} {audit : MutationAudit}
    (hresource : ChangesConnection db c op resource) :
    ∀ w ∈ persistFleetMutation c resource none audit, ChangesConnection db c op w :=
  changesConnection_persist hresource fun w hw => by cases hw

theorem FleetEffect.changesConnection (h : FleetEffect db c op ws) :
    ∀ w ∈ ws, ChangesConnection db c op w := by
  cases h with
  | nothing => exact List.forall_mem_nil _
  | createOrganization | createProject | createEnvironment | bindRole =>
    exact changesConnection_persist (changesConnection_other fun _ => Key.noConfusion)
      (by simp [Command.key])
  | changeOrganization | changeProject | changeEnvironment | beginConnection
  | revokeRoleBinding =>
    exact changesConnection_audited (changesConnection_other fun _ => Key.noConfusion)
  | completeConnection attemptId id r consumed audit change deletes =>
    rw [List.forall_mem_append]
    refine ⟨?_, changesConnection_audited (changesConnection_set change)⟩
    rcases deletes with rfl | rfl
    · exact List.forall_mem_nil _
    · exact List.forall_mem_singleton.mpr (changesConnection_other fun _ => Key.noConfusion)
  | changeConnection id r audit change =>
    exact changesConnection_audited (changesConnection_set change)
  | touchConnection id r change =>
    exact List.forall_mem_singleton.mpr (changesConnection_set change)
  | reserveAssignmentEpoch =>
    exact List.forall_mem_singleton.mpr (changesConnection_other fun _ => Key.noConfusion)
  | recordRemoteMutation =>
    rw [List.forall_mem_cons, List.forall_mem_singleton]
    exact ⟨changesConnection_other fun _ => Key.noConfusion,
      changesConnection_other fun _ => Key.noConfusion⟩

/-- Every command of a successful operation that is on a connection. -/
theorem exec_connection (h : op.exec sha256Hex db c = .ok ws) :
    ∀ w ∈ ws, ChangesConnection db c op w :=
  (exec_effect h).changesConnection

/-- A connection after the commands of an operation is there before, or changed by it. -/
theorem connection_cases {now t : Nat} (hws : ∀ w ∈ ws, ChangesConnection db c op w)
    (h : Db.fleetConnection (commit now db ws) t id = some r) :
    db.fleetConnection t id = some r ∨ ConnectionChange db c op id r := by
  rcases get_commit_cases _ _ ws db h with hold | ⟨w, hw, hputs⟩
  · exact Or.inl hold
  · obtain ⟨_, hset, hchange⟩ := hws w hw id (by cases hputs <;> rfl)
    rw [hset] at hputs
    cases hputs
    exact Or.inr hchange

end

/-- Every connection is stored under its own id. -/
def OwnIds (db : Db) : Prop := ∀ t id r, db.fleetConnection t id = some r → r.id = id

theorem OwnIds.commit {c : Call} {op : FleetOp} {ws : List Write} {now : Nat} (h : OwnIds db)
    (hws : ∀ w ∈ ws, ChangesConnection db c op w) : OwnIds (commit now db ws) := by
  intro t id r hr
  rcases connection_cases hws hr with hold | hchange
  · exact h t id r hold
  · cases hchange with
    | completed => rfl
    | changed _ old _ _ found same => exact same.1.trans (h _ _ old found)

/-! ## Revoked connections -/

/-- A completion takes an id that no connection has; for an outbound connector it is fresh, a
    public realm chooses it. -/
def TakesNewId (db : Db) (request : FleetRequest) : Prop :=
  match request.op with
  | .completeConnection _ record => db.fleetConnection request.call.now record.id = none
  | _ => True

instance (db : Db) (request : FleetRequest) : Decidable (TakesNewId db request) := by
  unfold TakesNewId
  split <;> infer_instance

/-- What is stored over a revoked connection, other than by a completion, is that record. -/
theorem ConnectionChange.eq_of_revoked {request : FleetRequest} {old : FleetConnectionRecord}
    (h : ConnectionChange db request.call request.op id r) (hnew : TakesNewId db request)
    (hold : db.fleetConnection request.call.now id = some old) (hrevoked : old.state = .revoked) :
    r = old := by
  obtain ⟨c, op⟩ := request
  cases h with
  | completed attemptId record asked =>
    subst asked
    exact absurd (Eq.symm hnew |>.trans hold) nofun
  | changed _ other _ _ found _ frozen =>
    obtain rfl : other = old := Option.some.inj (found.symm.trans hold)
    exact frozen hrevoked

/-- The connection is revoked, and stays so whatever time passes. -/
def Frozen (db : Db) (id : Uuid) : Prop :=
  ∃ r, r.state = .revoked ∧ ∀ t, db.get t (.fleetConnection id) = some r

theorem Frozen.fleetConnection (h : Frozen db id) (now : Nat) :
    ∃ r, db.fleetConnection now id = some r ∧ r.state = .revoked := by
  obtain ⟨r, hrevoked, hr⟩ := h
  exact ⟨r, hr now, hrevoked⟩

/-- No operation changes a revoked connection, unless it takes over its id. -/
theorem frozen_step {sha256Hex : String → String} {db' : Db} {request : FleetRequest}
    (h : FleetStep sha256Hex db request db') (hnew : TakesNewId db request)
    (hfrozen : Frozen db id) :
    Frozen db' id := by
  obtain ⟨ws, hexec, rfl⟩ := h
  obtain ⟨r, hrevoked, hr⟩ := hfrozen
  refine ⟨r, hrevoked, fun t => get_commit_set _ t ws db ?_ (Or.inr (hr t))⟩
  intro w hw hkey
  obtain ⟨r', hset, hchange⟩ := exec_connection hexec w hw id hkey
  rw [hset, hchange.eq_of_revoked hnew (hr _) hrevoked]

/-- A revocation that succeeds leaves the connection revoked, or answers a request that
    completed before. -/
theorem frozen_of_revoke {sha256Hex : String → String} {db' : Db} {c : Call} (first : FirstUse db c)
    (h : FleetStep sha256Hex db
      ⟨c, .revokeConnection organizationId projectId environmentId id⟩ db') : Frozen db' id := by
  obtain ⟨ws, hexec, rfl⟩ := h
  simp only [FleetOp.exec, map_eq_ok] at hexec
  obtain ⟨⟨r, ws⟩, hrevoke, rfl⟩ := hexec
  simp only [revokeFleetConnection, replayOr_eq_ok, bind_eq_ok, okOr_eq_ok, pure_eq_ok,
    Prod.mk.injEq, Option.filter_eq_some_iff, decide_eq_true_eq] at hrevoke
  obtain ⟨_, hused, _⟩ | ⟨_, old, _, rfl, rfl⟩ := hrevoke
  · cases first.symm.trans hused
  · refine ⟨_, ?_, fun t => get_commit_persist_self db c t _ (fun h => h) fun w hw => by cases hw⟩
    split
    · rfl
    · next dead => exact not_not.mp dead

/-! ## Assignment epochs -/

/-- The epoch of a connection is at most the last one of its realm. -/
theorem le_lastAssignmentEpoch {now : Nat} (h : db.fleetConnection now id = some r) :
    r.assignmentEpoch ≤ db.lastAssignmentEpoch now r.realmId := by
  apply List.le_max?_getD_of_mem
  refine List.mem_map.mpr ⟨r, List.mem_filter.mpr ⟨?_, decide_eq_true rfl⟩, rfl⟩
  refine List.mem_filterMap.mpr ⟨⟨.fleetConnection id, r⟩, (Keyspace.mem_scan ..).mpr h, ?_⟩
  simp

/-- A new connection has an epoch above all of its realm; every other change keeps the realm and
    the epoch. -/
theorem ConnectionChange.epoch {c : Call} {op : FleetOp} (h : ConnectionChange db c op id r) :
    (∀ other old, db.fleetConnection c.now other = some old → old.realmId = r.realmId →
        old.assignmentEpoch < r.assignmentEpoch) ∨
      ∃ old, db.fleetConnection c.now id = some old ∧ old.realmId = r.realmId ∧
        old.assignmentEpoch = r.assignmentEpoch := by
  cases h with
  | completed attemptId record _ epoch =>
    refine Or.inl fun other old hold hrealm => ?_
    have hle := le_lastAssignmentEpoch hold
    rw [hrealm] at hle
    exact Nat.lt_of_le_of_lt hle epoch
  | changed _ old _ _ found same => exact Or.inr ⟨old, found, same.2.1.symm, same.2.2.symm⟩

theorem ConnectionChange.connection {c : Call} {op : FleetOp}
    (h : ConnectionChange db c op id r) : op.connection = some id := by
  cases h with
  | completed _ _ asked => rw [asked]; rfl
  | changed _ _ _ asked => exact asked

def isConnection (k : Key) : Prop := ∃ id, k = .fleetConnection id

/-- Connections stay, and no two of them have a realm and an epoch in common. -/
structure EpochsApart (db : Db) : Prop where
  lasts : db.Lasts isConnection
  apart : ∀ t id₁ id₂ r₁ r₂, db.fleetConnection t id₁ = some r₁ →
    db.fleetConnection t id₂ = some r₂ → r₁.realmId = r₂.realmId →
    r₁.assignmentEpoch = r₂.assignmentEpoch → id₁ = id₂

/-- A changed connection beside one that was there before. -/
theorem EpochsApart.changed (h : EpochsApart db) {c : Call} {op : FleetOp} {t : Nat} {id' : Uuid}
    {r' : FleetConnectionRecord} (hchange : ConnectionChange db c op id r)
    (hold : db.fleetConnection t id' = some r') (hrealm : r'.realmId = r.realmId)
    (hepoch : r'.assignmentEpoch = r.assignmentEpoch) : id' = id := by
  have hnow : db.fleetConnection c.now id' = some r' := by
    rw [Db.fleetConnection, h.lasts.get_eq ⟨id', rfl⟩] at hold ⊢
    exact hold
  rcases hchange.epoch with hnew | ⟨old, hsame, hrealm', hepoch'⟩
  · exact absurd hepoch (Nat.ne_of_lt (hnew id' r' hnow hrealm))
  · exact h.apart _ _ _ _ _ hnow hsame (hrealm.trans hrealm'.symm) (hepoch.trans hepoch'.symm)

theorem EpochsApart.step {sha256Hex : String → String} {db' : Db} {request : FleetRequest}
    (h : EpochsApart db) (hstep : FleetStep sha256Hex db request db') : EpochsApart db' := by
  obtain ⟨ws, hexec, rfl⟩ := hstep
  have hchanges := exec_connection hexec
  constructor
  · refine lasts_commit _ ws db h.lasts fun w hw => ?_
    cases w with
    | set => trivial
    | _ =>
      rintro ⟨id, hkey⟩
      obtain ⟨r, hset, _⟩ := hchanges _ hw id hkey
      cases hset
  · intro t id₁ id₂ r₁ r₂ h₁ h₂ hrealm hepoch
    rcases connection_cases hchanges h₁ with hold₁ | hchange₁
    · rcases connection_cases hchanges h₂ with hold₂ | hchange₂
      · exact h.apart t _ _ _ _ hold₁ hold₂ hrealm hepoch
      · exact h.changed hchange₂ hold₁ hrealm hepoch
    · rcases connection_cases hchanges h₂ with hold₂ | hchange₂
      · exact (h.changed hchange₁ hold₂ hrealm.symm hepoch.symm).symm
      · exact Option.some.inj (hchange₁.connection.symm.trans hchange₂.connection)

/-- In every state of the Fleet store, revoked connections included, the realm and the
    assignment epoch of a record identify its connection. -/
theorem epoch_identifies_connection {sha256Hex : String → String} {requests : List FleetRequest}
    (hrun : Run (FleetStep sha256Hex) Keyspace.empty requests db) {t : Nat} {id₁ id₂ : Uuid}
    {r₁ r₂ : FleetConnectionRecord} (h₁ : db.fleetConnection t id₁ = some r₁)
    (h₂ : db.fleetConnection t id₂ = some r₂) (hrealm : r₁.realmId = r₂.realmId)
    (hepoch : r₁.assignmentEpoch = r₂.assignmentEpoch) : id₁ = id₂ := by
  have hapart : EpochsApart db := hrun.invariant (I := EpochsApart)
    (fun _ _ _ h hstep => h.step hstep)
    ⟨Keyspace.lasts_empty _, fun _ _ _ _ _ h => absurd h (by simp [Db.fleetConnection])⟩
  exact hapart.apart t id₁ id₂ r₁ r₂ h₁ h₂ hrealm hepoch

/-- The connection of the workspace is revoked, and its realm connected anew. -/
def sampleReconnection : List FleetRequest :=
  sampleWorkspace ++
    [⟨sampleCall 6, .revokeConnection 101 102 103 500⟩,
      ⟨sampleCall 7, .beginConnection 101 102 103 .publicEndpoint "https://realm.example" none⟩,
      ⟨sampleCall 8, .completeConnection 107
        { sampleConnection with id := 501, assignmentEpoch := 2 }⟩]

theorem epoch_identifies_connection_sample : ∃ db r₁ r₂,
    Run (FleetStep fun text => text) Keyspace.empty sampleReconnection db ∧
      db.fleetConnection 1008 500 = some r₁ ∧ db.fleetConnection 1008 501 = some r₂ ∧
      r₁.realmId = r₂.realmId ∧ r₁.assignmentEpoch ≠ r₂.assignmentEpoch := by
  have hexec : (execAll (fleetApply fun text => text) Keyspace.empty sampleReconnection).map
      (fun db => [500, 501].map fun id => (db.fleetConnection 1008 id).map (·.realmId)) =
        some [some "realm", some "realm"] := by decide +kernel
  obtain ⟨db, hrun, hrealms⟩ := exists_run (fun _ _ _ => fleetStep_of_fleetApply) hexec
  simp only [List.map_cons, List.map_nil, List.cons.injEq, Option.map_eq_some_iff, and_true]
    at hrealms
  obtain ⟨⟨r₁, h₁, hrealm₁⟩, r₂, h₂, hrealm₂⟩ := hrealms
  have hrealm := hrealm₁.trans hrealm₂.symm
  refine ⟨db, r₁, r₂, hrun, h₁, h₂, hrealm, fun hepoch => ?_⟩
  exact absurd (epoch_identifies_connection hrun h₁ h₂ hrealm hepoch) (by decide)

end RustyAuth
