/-
  The Fleet store as a transition system.

  A state is the control plane's database, a label one store operation with the
  context it is called in.  An operation that fails changes nothing, so only the
  successful ones are steps.  `FleetEffect` says once what a successful operation
  can commit; `exec_effect` is the inversion lemma from which every other fact about
  the pipelines is derived.
-/
import RustyAuth.Store.FleetConnections
import RustyAuth.Store.FleetRoles
import RustyAuth.Library.Runs

namespace RustyAuth

open RustyAuth.Library

/-! ## Operations -/

inductive RemoteMutationOperation
  | revokeUserPasskey
  | setServiceAccountEnabled
  | revokeServiceAccountCredential
  | pauseWebhook
  | deleteWebhook
deriving DecidableEq

def remoteMutationAction : RemoteMutationOperation → String
  | .revokeUserPasskey => "revoke-user-passkey"
  | .setServiceAccountEnabled => "set-service-account-enabled"
  | .revokeServiceAccountCredential => "revoke-service-account-credential"
  | .pauseWebhook => "pause-webhook"
  | .deleteWebhook => "delete-webhook"

/-- The mutations of the Fleet store. -/
inductive FleetOp
  | createOrganization (slug name : String)
  | updateOrganization (id : Uuid) (name : String)
  | archiveOrganization (id : Uuid)
  | createProject (organizationId : Uuid) (slug name description : String)
  | updateProject (organizationId id : Uuid) (name description : String)
  | archiveProject (organizationId id : Uuid)
  | createEnvironment (organizationId projectId : Uuid) (slug name : String)
      (kind : FleetEnvironmentKindRecord) (provider region : String)
  | updateEnvironment (organizationId projectId id : Uuid) (name : String)
      (kind : FleetEnvironmentKindRecord) (provider region : String)
  | archiveEnvironment (organizationId projectId id : Uuid)
  | beginConnection (organizationId projectId environmentId : Uuid)
      (mode : FleetConnectionModeRecord) (managementEndpoint : String)
      (pairingCode : Option String)
  | completeConnection (attemptId : Uuid) (record : FleetConnectionRecord)
  | observeConnection (id : Uuid) (state : FleetConnectionStateRecord)
  | revokeConnection (organizationId projectId environmentId id : Uuid)
  | stageCredential (id : Uuid) (credential : EncryptedFleetCredential) (hint : String)
  | rotateCredential (organizationId projectId environmentId id : Uuid)
  | reserveAssignmentEpoch (realmId : String)
  | upsertRoleBinding (operatorId : Uuid) (kind : FleetResourceKindRecord) (resourceId : Uuid)
      (role : FleetRoleRecord)
  | revokeRoleBinding (id : Uuid)
  | recordRemoteMutation (connectionId : Uuid) (operation : RemoteMutationOperation)

/-- The pipeline an operation commits, or its error. -/
def FleetOp.exec (sha256Hex : String → String) (db : Db) (c : Call) :
    FleetOp → StoreResult (List Write)
  | .createOrganization slug name => (·.2) <$> createFleetOrganization db c slug name
  | .updateOrganization id name => (·.2) <$> updateFleetOrganization db c id name
  | .archiveOrganization id => (·.2) <$> archiveFleetOrganization db c id
  | .createProject organizationId slug name description =>
      (·.2) <$> createFleetProject db c organizationId slug name description
  | .updateProject organizationId id name description =>
      (·.2) <$> updateFleetProject db c organizationId id name description
  | .archiveProject organizationId id => (·.2) <$> archiveFleetProject db c organizationId id
  | .createEnvironment organizationId projectId slug name kind provider region =>
      (·.2) <$> createFleetEnvironment db c organizationId projectId slug name kind provider region
  | .updateEnvironment organizationId projectId id name kind provider region =>
      (·.2) <$> updateFleetEnvironment db c organizationId projectId id name kind provider region
  | .archiveEnvironment organizationId projectId id =>
      (·.2) <$> archiveFleetEnvironment db c organizationId projectId id
  | .beginConnection organizationId projectId environmentId mode managementEndpoint pairingCode =>
      (·.2) <$> createFleetConnectionAttempt sha256Hex db c organizationId projectId environmentId
        mode managementEndpoint pairingCode
  | .completeConnection attemptId record => (·.2) <$> completeFleetConnection db c attemptId record
  | .observeConnection id state => (·.2) <$> observeFleetConnection db c.now id state
  | .revokeConnection organizationId projectId environmentId id =>
      (·.2) <$> revokeFleetConnection db c organizationId projectId environmentId id
  | .stageCredential id credential hint =>
      (·.2) <$> stageFleetConnectionCredential db c.now id credential hint c.requestId
  | .rotateCredential organizationId projectId environmentId id =>
      (·.2) <$> rotateFleetConnectionCredential db c organizationId projectId environmentId id
  | .reserveAssignmentEpoch realmId =>
      return (reserveFleetAssignmentEpoch sha256Hex db c.now realmId).2
  | .upsertRoleBinding operatorId kind resourceId role =>
      (·.2) <$> upsertFleetRoleBinding db c operatorId kind resourceId role
  | .revokeRoleBinding id => (·.2) <$> revokeFleetRoleBinding db c id
  | .recordRemoteMutation connectionId operation =>
      (·.2) <$> recordFleetRemoteMutation db c connectionId
        ("realm.remote." ++ remoteMutationAction operation)

/-- One call of the store. -/
structure FleetRequest where
  call : Call
  op : FleetOp

/-- A successful call commits its pipeline. -/
def FleetStep (sha256Hex : String → String) (db : Db) (request : FleetRequest) (db' : Db) : Prop :=
  ∃ ws, request.op.exec sha256Hex db request.call = .ok ws ∧ db' = commit request.call.now db ws

/-- The step as a function. -/
def fleetApply (sha256Hex : String → String) (db : Db) (request : FleetRequest) : Option Db :=
  match request.op.exec sha256Hex db request.call with
  | .ok ws => some (commit request.call.now db ws)
  | .error _ => none

theorem fleetStep_of_fleetApply {sha256Hex : String → String} {db db' : Db}
    {request : FleetRequest} (h : fleetApply sha256Hex db request = some db') :
    FleetStep sha256Hex db request db' := by
  unfold fleetApply at h
  split at h
  · exact ⟨_, ‹_›, (Option.some.inj h).symm⟩
  · cases h

/-! ## What a successful operation commits -/

/-- The request id has not completed a mutation yet. -/
def FirstUse (db : Db) (c : Call) : Prop := db.get c.now (.fleetIdempotency c.requestId) = none

instance (db : Db) (c : Call) : Decidable (FirstUse db c) :=
  inferInstanceAs (Decidable (db.get c.now (.fleetIdempotency c.requestId) = none))

/-- The connection an operation changes. -/
def FleetOp.connection : FleetOp → Option Uuid
  | .completeConnection _ record => some record.id
  | .observeConnection id _ => some id
  | .revokeConnection _ _ _ id => some id
  | .stageCredential id _ _ => some id
  | .rotateCredential _ _ _ id => some id
  | _ => none

/-- The ways an operation stores `r` as the connection `id`: a completion under a new epoch of
    the realm, or a change of the record found there, which leaves a revoked one as it is. -/
inductive ConnectionChange (db : Db) (c : Call) (op : FleetOp) :
    Uuid → FleetConnectionRecord → Prop
  | completed (attemptId : Uuid) (record : FleetConnectionRecord)
      (asked : op = .completeConnection attemptId record)
      (epoch : db.lastAssignmentEpoch c.now record.realmId < record.assignmentEpoch) :
      ConnectionChange db c op record.id { record with createdAt := c.now, updatedAt := c.now }
  | changed (id : Uuid) (old r : FleetConnectionRecord) (asked : op.connection = some id)
      (found : db.fleetConnection c.now id = some old)
      (same : r.id = old.id ∧ r.realmId = old.realmId ∧ r.assignmentEpoch = old.assignmentEpoch)
      (frozen : old.state = .revoked → r = old) : ConnectionChange db c op id r

/-- The pipelines a successful operation can commit. -/
inductive FleetEffect (db : Db) (c : Call) (op : FleetOp) : List Write → Prop
  | nothing : FleetEffect db c op []
  | createOrganization (r : FleetOrganizationRecord) (audit : MutationAudit)
      (asked : op = .createOrganization r.slug r.name) :
      FleetEffect db c op (persistFleetMutation c (.set (.fleetOrganization r.id) r)
        (some (.set (.fleetOrganizationSlug r.slug) r.id)) audit)
  | changeOrganization (id : Uuid) (r : FleetOrganizationRecord) (audit : MutationAudit) :
      FleetEffect db c op (persistFleetMutation c (.set (.fleetOrganization id) r) none audit)
  | createProject (r : FleetProjectRecord) (audit : MutationAudit) :
      FleetEffect db c op (persistFleetMutation c (.set (.fleetProject r.id) r)
        (some (.set (.fleetProjectSlug r.organizationId r.slug) r.id)) audit)
  | changeProject (id : Uuid) (r : FleetProjectRecord) (audit : MutationAudit) :
      FleetEffect db c op (persistFleetMutation c (.set (.fleetProject id) r) none audit)
  | createEnvironment (r : FleetEnvironmentRecord) (audit : MutationAudit) :
      FleetEffect db c op (persistFleetMutation c (.set (.fleetEnvironment r.id) r)
        (some (.set (.fleetEnvironmentSlug r.projectId r.slug) r.id)) audit)
  | changeEnvironment (id : Uuid) (r : FleetEnvironmentRecord) (audit : MutationAudit) :
      FleetEffect db c op (persistFleetMutation c (.set (.fleetEnvironment id) r) none audit)
  | beginConnection (r : FleetConnectionAttemptRecord) (audit : MutationAudit) :
      FleetEffect db c op (persistFleetMutation c
        (.setEx (.fleetConnectionAttempt r.id) r fleetConnectionAttemptSeconds) none audit)
  | completeConnection (attemptId id : Uuid) (r : FleetConnectionRecord) (consumed : List Write)
      (audit : MutationAudit) (change : ConnectionChange db c op id r)
      (deletes : consumed = [] ∨ consumed = [.del (.fleetConnectionAttempt attemptId)]) :
      FleetEffect db c op (consumed ++ persistFleetMutation c (.set (.fleetConnection id) r) none
        audit)
  | changeConnection (id : Uuid) (r : FleetConnectionRecord) (audit : MutationAudit)
      (change : ConnectionChange db c op id r) :
      FleetEffect db c op (persistFleetMutation c (.set (.fleetConnection id) r) none audit)
  -- observations and staged credentials are not audited
  | touchConnection (id : Uuid) (r : FleetConnectionRecord)
      (change : ConnectionChange db c op id r) : FleetEffect db c op [.set (.fleetConnection id) r]
  | reserveAssignmentEpoch (realmId digest : String) (next : Nat)
      (asked : op = .reserveAssignmentEpoch realmId) :
      FleetEffect db c op [.setKeep (.fleetAssignmentEpoch digest) next]
  | bindRole (operatorId : Uuid) (kind : FleetResourceKindRecord) (resourceId : Uuid)
      (r : FleetRoleBindingRecord) (audit : MutationAudit) :
      FleetEffect db c op (persistFleetMutation c (.set (.fleetRoleBinding r.id) r)
        (some (.set (.fleetRoleBindingSubject operatorId kind resourceId) r.id)) audit)
  | revokeRoleBinding (id : Uuid) (old r : FleetRoleBindingRecord) (audit : MutationAudit)
      (found : db.fleetRoleBinding c.now id = some old) (same : r.id = old.id) :
      FleetEffect db c op (persistFleetMutation c (.set (.fleetRoleBinding id) r) none audit)
  | recordRemoteMutation (audit : MutationAudit) :
      FleetEffect db c op [.set (.fleetAudit c.auditId) (audit.record c),
        .set (.fleetIdempotency c.requestId) audit.idempotency]

variable {slug name : String} {r : FleetConnectionRecord}
  {id organizationId projectId environmentId : Uuid}

section Inversion

variable {sha256Hex : String → String} {db : Db} {c : Call} {op : FleetOp} {ws : List Write}

theorem createFleetOrganization_effect {r : FleetOrganizationRecord}
    (h : createFleetOrganization db c slug name = .ok (r, ws)) :
    FleetEffect db c (.createOrganization slug name) ws := by
  simp only [createFleetOrganization, replayOr_eq_ok, bind_eq_ok, ensure_eq_ok, pure_eq_ok,
    Prod.mk.injEq, exists_const, Option.isNone_iff_eq_none] at h
  obtain ⟨_, _, _, rfl⟩ | ⟨_, _, rfl, rfl⟩ := h
  · exact .nothing
  · exact .createOrganization ⟨c.newId, slug, name, _, _, _, _⟩ _ rfl

theorem updateFleetOrganization_effect {r : FleetOrganizationRecord}
    (h : updateFleetOrganization db c id name = .ok (r, ws)) : FleetEffect db c op ws := by
  simp only [updateFleetOrganization, replayOr_eq_ok, bind_eq_ok, ensure_eq_ok, okOr_eq_ok,
    pure_eq_ok, Prod.mk.injEq, exists_const] at h
  obtain ⟨_, _, _, rfl⟩ | ⟨_, _, _, _, rfl, rfl⟩ := h
  · exact .nothing
  · exact .changeOrganization id _ _

theorem archiveFleetOrganization_effect {r : FleetOrganizationRecord}
    (h : archiveFleetOrganization db c id = .ok (r, ws)) : FleetEffect db c op ws := by
  simp only [archiveFleetOrganization, replayOr_eq_ok, bind_eq_ok, ensure_eq_ok, okOr_eq_ok,
    pure_eq_ok, Prod.mk.injEq, exists_const] at h
  obtain ⟨_, _, _, rfl⟩ | ⟨_, _, _, _, rfl, rfl⟩ := h
  · exact .nothing
  · exact .changeOrganization id _ _

theorem createFleetProject_effect {description : String} {r : FleetProjectRecord}
    (h : createFleetProject db c organizationId slug name description = .ok (r, ws)) :
    FleetEffect db c op ws := by
  simp only [createFleetProject, replayOr_eq_ok, bind_eq_ok, ensure_eq_ok, okOr_eq_ok, pure_eq_ok,
    Prod.mk.injEq, exists_const, Option.isNone_iff_eq_none] at h
  obtain ⟨_, _, _, rfl⟩ | ⟨_, _, _, _, _, rfl, rfl⟩ := h
  · exact .nothing
  · exact .createProject ⟨c.newId, organizationId, slug, name, description, _, _, _, _⟩ _

theorem updateFleetProject_effect {description : String} {r : FleetProjectRecord}
    (h : updateFleetProject db c organizationId id name description = .ok (r, ws)) :
    FleetEffect db c op ws := by
  simp only [updateFleetProject, replayOr_eq_ok, bind_eq_ok, ensure_eq_ok, okOr_eq_ok, pure_eq_ok,
    Prod.mk.injEq, exists_const, Option.filter_eq_some_iff, decide_eq_true_eq] at h
  obtain ⟨_, _, _, rfl⟩ | ⟨_, _, _, _, rfl, rfl⟩ := h
  · exact .nothing
  · exact .changeProject id _ _

theorem archiveFleetProject_effect {r : FleetProjectRecord}
    (h : archiveFleetProject db c organizationId id = .ok (r, ws)) : FleetEffect db c op ws := by
  simp only [archiveFleetProject, replayOr_eq_ok, bind_eq_ok, ensure_eq_ok, okOr_eq_ok, pure_eq_ok,
    Prod.mk.injEq, exists_const, Option.filter_eq_some_iff, decide_eq_true_eq] at h
  obtain ⟨_, _, _, rfl⟩ | ⟨_, _, _, _, rfl, rfl⟩ := h
  · exact .nothing
  · exact .changeProject id _ _

theorem createFleetEnvironment_effect {kind : FleetEnvironmentKindRecord} {provider region : String}
    {r : FleetEnvironmentRecord}
    (h : createFleetEnvironment db c organizationId projectId slug name kind provider region =
      .ok (r, ws)) : FleetEffect db c op ws := by
  simp only [createFleetEnvironment, replayOr_eq_ok, bind_eq_ok, ensure_eq_ok, okOr_eq_ok,
    pure_eq_ok, Prod.mk.injEq, exists_const, Option.isNone_iff_eq_none,
    Option.filter_eq_some_iff, decide_eq_true_eq] at h
  obtain ⟨_, _, _, rfl⟩ | ⟨_, _, _, _, _, rfl, rfl⟩ := h
  · exact .nothing
  · exact .createEnvironment ⟨c.newId, organizationId, projectId, slug, name, kind, provider,
      region, _, _, _, _⟩ _

theorem updateFleetEnvironment_effect {kind : FleetEnvironmentKindRecord} {provider region : String}
    {r : FleetEnvironmentRecord}
    (h : updateFleetEnvironment db c organizationId projectId id name kind provider region =
      .ok (r, ws)) : FleetEffect db c op ws := by
  simp only [updateFleetEnvironment, replayOr_eq_ok, bind_eq_ok, ensure_eq_ok, okOr_eq_ok,
    pure_eq_ok, Prod.mk.injEq, exists_const, Option.filter_eq_some_iff, decide_eq_true_eq] at h
  obtain ⟨_, _, _, rfl⟩ | ⟨_, _, _, _, rfl, rfl⟩ := h
  · exact .nothing
  · exact .changeEnvironment id _ _

theorem archiveFleetEnvironment_effect {r : FleetEnvironmentRecord}
    (h : archiveFleetEnvironment db c organizationId projectId id = .ok (r, ws)) :
    FleetEffect db c op ws := by
  simp only [archiveFleetEnvironment, replayOr_eq_ok, bind_eq_ok, okOr_eq_ok, pure_eq_ok,
    Prod.mk.injEq, Option.filter_eq_some_iff, decide_eq_true_eq] at h
  obtain ⟨_, _, _, rfl⟩ | ⟨_, _, _, rfl, rfl⟩ := h
  · exact .nothing
  · exact .changeEnvironment id _ _

theorem createFleetConnectionAttempt_effect {mode : FleetConnectionModeRecord}
    {managementEndpoint : String} {pairingCode : Option String} {r : FleetConnectionAttemptRecord}
    (h : createFleetConnectionAttempt sha256Hex db c organizationId projectId environmentId mode
      managementEndpoint pairingCode = .ok (r, ws)) : FleetEffect db c op ws := by
  simp only [createFleetConnectionAttempt, replayOr_eq_ok, bind_eq_ok, ensure_eq_ok, okOr_eq_ok,
    pure_eq_ok, Prod.mk.injEq, exists_const, Option.filter_eq_some_iff, decide_eq_true_eq] at h
  obtain ⟨_, _, _, rfl⟩ | ⟨_, _, _, _, rfl, rfl⟩ := h
  · exact .nothing
  · exact .beginConnection ⟨c.newId, organizationId, projectId, environmentId, _, _, _, _, _, _⟩ _

theorem completeFleetConnection_effect {attemptId : Uuid} {record : FleetConnectionRecord}
    (h : completeFleetConnection db c attemptId record = .ok (r, ws)) :
    FleetEffect db c (.completeConnection attemptId record) ws := by
  simp only [completeFleetConnection, replayOr_eq_ok, bind_eq_ok, ensure_eq_ok, okOr_eq_ok,
    exists_const] at h
  obtain ⟨_, _, _, rfl⟩ | ⟨_, _, _, _, _, ⟨_, epoch⟩, h⟩ := h
  · exact .nothing
  · have hchange := ConnectionChange.completed (c := c) attemptId record rfl epoch
    split at h <;> cases h
    · exact .completeConnection attemptId _ _ [] _ hchange (.inl rfl)
    · exact .completeConnection attemptId _ _ [_] _ hchange (.inr rfl)

theorem observeFleetConnection_effect {state : FleetConnectionStateRecord}
    (h : observeFleetConnection db c.now id state = .ok (r, ws)) :
    FleetEffect db c (.observeConnection id state) ws := by
  simp only [observeFleetConnection, bind_eq_ok, okOr_eq_ok] at h
  obtain ⟨old, found, h⟩ := h
  split at h <;> cases h
  · exact .nothing
  · next live =>
    exact .touchConnection id _ (.changed id old _ rfl found ⟨rfl, rfl, rfl⟩
      fun dead => absurd (.inl dead) live)

theorem revokeFleetConnection_effect
    (h : revokeFleetConnection db c organizationId projectId environmentId id = .ok (r, ws)) :
    FleetEffect db c (.revokeConnection organizationId projectId environmentId id) ws := by
  simp only [revokeFleetConnection, replayOr_eq_ok, bind_eq_ok, okOr_eq_ok, pure_eq_ok,
    Prod.mk.injEq, Option.filter_eq_some_iff] at h
  obtain ⟨_, _, _, rfl⟩ | ⟨_, old, ⟨found, _⟩, rfl, rfl⟩ := h
  · exact .nothing
  · refine .changeConnection id _ _ (.changed id old _ rfl found ?_ ?_)
    · split <;> exact ⟨rfl, rfl, rfl⟩
    · intro dead
      exact if_neg (not_not.mpr dead)

theorem stageFleetConnectionCredential_effect {credential : EncryptedFleetCredential}
    {hint : String} {requestId : Uuid}
    (h : stageFleetConnectionCredential db c.now id credential hint requestId = .ok (r, ws)) :
    FleetEffect db c (.stageCredential id credential hint) ws := by
  simp only [stageFleetConnectionCredential, bind_eq_ok, okOr_eq_ok, Option.filter_eq_some_iff,
    decide_eq_true_eq] at h
  obtain ⟨old, ⟨found, live⟩, h⟩ := h
  split at h
  · split at h <;> cases h
    exact .nothing
  · cases h
    exact .touchConnection id _ (.changed id old _ rfl found ⟨rfl, rfl, rfl⟩
      fun dead => absurd dead live)

theorem rotateFleetConnectionCredential_effect
    (h : rotateFleetConnectionCredential db c organizationId projectId environmentId id =
      .ok (r, ws)) :
    FleetEffect db c (.rotateCredential organizationId projectId environmentId id) ws := by
  simp only [rotateFleetConnectionCredential, replayOr_eq_ok, bind_eq_ok, ensure_eq_ok, okOr_eq_ok,
    pure_eq_ok, Prod.mk.injEq, exists_const, Option.filter_eq_some_iff, decide_eq_true_eq] at h
  obtain ⟨_, _, _, rfl⟩ | ⟨_, old, ⟨found, _, _, _, live⟩, _, _, _, _, _, rfl, rfl⟩ := h
  · exact .nothing
  · exact .changeConnection id _ _ (.changed id old _ rfl found ⟨rfl, rfl, rfl⟩
      fun dead => absurd dead live)

theorem upsertFleetRoleBinding_effect {operatorId : Uuid} {kind : FleetResourceKindRecord}
    {resourceId : Uuid} {role : FleetRoleRecord} {r : FleetRoleBindingRecord}
    (h : upsertFleetRoleBinding db c operatorId kind resourceId role = .ok (r, ws)) :
    FleetEffect db c op ws := by
  simp only [upsertFleetRoleBinding, replayOr_eq_ok, bind_eq_ok, ensure_eq_ok, pure_eq_ok,
    Prod.mk.injEq, exists_const] at h
  obtain ⟨_, _, _, rfl⟩ | ⟨_, _, record, _, audit, _, rfl, rfl⟩ := h
  · exact .nothing
  · exact .bindRole operatorId kind resourceId record audit

theorem revokeFleetRoleBinding_effect {r : FleetRoleBindingRecord}
    (h : revokeFleetRoleBinding db c id = .ok (r, ws)) : FleetEffect db c op ws := by
  simp only [revokeFleetRoleBinding, replayOr_eq_ok, bind_eq_ok, okOr_eq_ok, pure_eq_ok,
    Prod.mk.injEq] at h
  obtain ⟨_, _, _, rfl⟩ | ⟨_, old, found, audit, _, rfl, rfl⟩ := h
  · exact .nothing
  · refine .revokeRoleBinding id old _ audit found ?_
    split <;> rfl

theorem recordFleetRemoteMutation_effect {connectionId : Uuid}
    {operation : RemoteMutationOperation} {r : FleetAuditRecord}
    (h : recordFleetRemoteMutation db c connectionId
      ("realm.remote." ++ remoteMutationAction operation) = .ok (r, ws)) :
    FleetEffect db c op ws := by
  simp only [recordFleetRemoteMutation, bind_eq_ok, fleetIdempotentResource_eq_ok] at h
  obtain ⟨o, _, h⟩ := h
  cases o with
  | some id =>
    simp only [bind_eq_ok, okOr_eq_ok, pure_eq_ok, Prod.mk.injEq] at h
    obtain ⟨_, _, _, rfl⟩ := h
    exact .nothing
  | none =>
    simp only [bind_eq_ok, okOr_eq_ok, pure_eq_ok, Prod.mk.injEq] at h
    obtain ⟨_, _, _, rfl⟩ := h
    exact .recordRemoteMutation _

/-- Every successful operation commits one of the listed pipelines. -/
theorem exec_effect (h : op.exec sha256Hex db c = .ok ws) : FleetEffect db c op ws := by
  cases op <;> simp only [FleetOp.exec, map_eq_ok, pure_eq_ok] at h
  case reserveAssignmentEpoch realmId =>
    subst h
    exact .reserveAssignmentEpoch realmId _ _ rfl
  all_goals obtain ⟨⟨r, ws⟩, h, rfl⟩ := h
  case createOrganization => exact createFleetOrganization_effect h
  case updateOrganization => exact updateFleetOrganization_effect h
  case archiveOrganization => exact archiveFleetOrganization_effect h
  case createProject => exact createFleetProject_effect h
  case updateProject => exact updateFleetProject_effect h
  case archiveProject => exact archiveFleetProject_effect h
  case createEnvironment => exact createFleetEnvironment_effect h
  case updateEnvironment => exact updateFleetEnvironment_effect h
  case archiveEnvironment => exact archiveFleetEnvironment_effect h
  case beginConnection => exact createFleetConnectionAttempt_effect h
  case completeConnection => exact completeFleetConnection_effect h
  case observeConnection => exact observeFleetConnection_effect h
  case revokeConnection => exact revokeFleetConnection_effect h
  case stageCredential => exact stageFleetConnectionCredential_effect h
  case rotateCredential => exact rotateFleetConnectionCredential_effect h
  case upsertRoleBinding => exact upsertFleetRoleBinding_effect h
  case revokeRoleBinding => exact revokeFleetRoleBinding_effect h
  case recordRemoteMutation => exact recordFleetRemoteMutation_effect h

end Inversion

/-! ## A small workspace

  One organization, project, environment and connection, for the concrete runs. -/

def sampleCall (n : Nat) : Call where
  requestId := ⟨BitVec.ofNat 128 n⟩
  operatorId := 1
  reason := "setup"
  now := 1000 + n
  newId := ⟨BitVec.ofNat 128 (100 + n)⟩
  auditId := ⟨BitVec.ofNat 128 (200 + n)⟩

def sampleConnection : FleetConnectionRecord where
  id := 500
  organizationId := 101
  projectId := 102
  environmentId := 103
  realmId := "realm"
  assignmentEpoch := 1
  displayName := "realm"
  mode := .publicEndpoint
  managementEndpoint := "https://realm.example"
  credential := ⟨"key", "nonce", "ciphertext"⟩
  credentialHint := "rfg_"
  stagedCredential := none
  stagedCredentialHint := none
  credentialRotationRequestId := none
  deploymentVersion := "1.0.0"
  protocolVersion := "v1"
  capabilities := []
  grantedScopes := []
  issuer := "https://realm.example"
  rpId := "realm.example"
  state := .healthy
  lastSeenAt := none
  createdAt := 0
  updatedAt := 0
  revokedAt := none

def sampleHierarchy : List FleetRequest :=
  [⟨sampleCall 1, .createOrganization "acme" "Acme"⟩,
    ⟨sampleCall 2, .createProject 101 "web" "Web" ""⟩,
    ⟨sampleCall 3, .createEnvironment 101 102 "prod" "Prod" .production "" ""⟩]

def sampleWorkspace : List FleetRequest :=
  sampleHierarchy ++
    [⟨sampleCall 4, .beginConnection 101 102 103 .publicEndpoint "https://realm.example" none⟩,
      ⟨sampleCall 5, .completeConnection 104 sampleConnection⟩]

end RustyAuth
