/-
  The Fleet store: the durable resource hierarchy and its central audit records.

  Every mutation reads, checks and then commits one atomic pipeline while it holds
  the store's mutation lock, so it is modelled as a function of the database it
  finds: it returns an error and writes nothing, or the record it answers together
  with the pipeline it commits (empty for the replay of a completed request).
  `Call` gathers what a mutation is called with and what it draws from outside: the
  clock reading and the fresh identifiers.
-/
import RustyAuth.Store.Keys
import RustyAuth.Library.Outcome

namespace RustyAuth

open RustyAuth.Library

/-- The context of one mutation: the caller's request, the clock and two
    identifiers from `Uuid::new_v4` (the new record's and the audit record's). -/
structure Call where
  requestId : Uuid
  operatorId : Uuid
  reason : String
  now : Nat
  newId : Uuid
  auditId : Uuid

/-- What a mutation gives back: the record it answers and the pipeline it commits. -/
abbrev Committed (α : Type) := α × List Write

abbrev StoreResult := Except StorePolicyError

/-! ## Reads -/

namespace Db

def fleetOrganization (db : Db) (now : Nat) (id : Uuid) : Option FleetOrganizationRecord :=
  db.get now (.fleetOrganization id)

def fleetProject (db : Db) (now : Nat) (id : Uuid) : Option FleetProjectRecord :=
  db.get now (.fleetProject id)

def fleetEnvironment (db : Db) (now : Nat) (id : Uuid) : Option FleetEnvironmentRecord :=
  db.get now (.fleetEnvironment id)

def fleetConnectionAttempt (db : Db) (now : Nat) (id : Uuid) :
    Option FleetConnectionAttemptRecord :=
  db.get now (.fleetConnectionAttempt id)

def fleetConnection (db : Db) (now : Nat) (id : Uuid) : Option FleetConnectionRecord :=
  db.get now (.fleetConnection id)

def fleetRoleBinding (db : Db) (now : Nat) (id : Uuid) : Option FleetRoleBindingRecord :=
  db.get now (.fleetRoleBinding id)

/-- The projects of an organization; archived ones only on request. -/
def fleetProjects (db : Db) (now : Nat) (organizationId : Uuid) (includeArchived : Bool) :
    List FleetProjectRecord :=
  (db.scan now).filterMap fun
    | ⟨.fleetProject _, record⟩ =>
        if record.organizationId = organizationId ∧ (includeArchived ∨ record.state = .active)
        then some record else none
    | _ => none

def fleetEnvironments (db : Db) (now : Nat) (organizationId projectId : Uuid)
    (includeArchived : Bool) : List FleetEnvironmentRecord :=
  (db.scan now).filterMap fun
    | ⟨.fleetEnvironment _, record⟩ =>
        if record.organizationId = organizationId ∧ record.projectId = projectId ∧
          (includeArchived ∨ record.state = .active)
        then some record else none
    | _ => none

/-- Connections, narrowed by the parts of the hierarchy that are given. -/
def fleetConnections (db : Db) (now : Nat) (organizationId projectId environmentId : Option Uuid)
    (includeRevoked : Bool) : List FleetConnectionRecord :=
  (db.scan now).filterMap fun
    | ⟨.fleetConnection _, record⟩ =>
        if (∀ value ∈ organizationId, record.organizationId = value) ∧
          (∀ value ∈ projectId, record.projectId = value) ∧
          (∀ value ∈ environmentId, record.environmentId = value) ∧
          (includeRevoked ∨ record.state ≠ .revoked)
        then some record else none
    | _ => none

/-- The resource a request already produced, if the request id was used for `action`. -/
def fleetIdempotentResource (db : Db) (now : Nat) (action : String) (requestId : Uuid) :
    Except StorePolicyError (Option Uuid) :=
  match db.get now (.fleetIdempotency requestId) with
  | none => .ok none
  | some record =>
      if record.action ≠ action then .error .fleetIdempotencyConflict
      else .ok (some record.resourceId)

end Db

/-! ## Committing a mutation with its audit -/

/-- The part of an audit record that depends on the mutation. -/
structure MutationAudit where
  action : String
  resourceKind : String
  resourceId : Uuid
  organizationId : Option Uuid
  projectId : Option Uuid
  environmentId : Option Uuid

def MutationAudit.record (audit : MutationAudit) (c : Call) : FleetAuditRecord where
  id := c.auditId
  requestId := c.requestId
  operatorId := c.operatorId
  action := audit.action
  resourceKind := audit.resourceKind
  resourceId := audit.resourceId
  organizationId := audit.organizationId
  projectId := audit.projectId
  environmentId := audit.environmentId
  reason := c.reason
  occurredAt := c.now

def MutationAudit.idempotency (audit : MutationAudit) : FleetIdempotencyRecord where
  action := audit.action
  resourceId := audit.resourceId

/-- The audits name the resource and its place in the hierarchy. -/
def organizationAudit (action : String) (id : Uuid) : MutationAudit :=
  { action, resourceKind := "organization", resourceId := id, organizationId := some id,
    projectId := none, environmentId := none }

def projectAudit (action : String) (organizationId id : Uuid) : MutationAudit :=
  { action, resourceKind := "project", resourceId := id, organizationId := some organizationId,
    projectId := some id, environmentId := none }

def environmentAudit (action : String) (organizationId projectId id : Uuid) : MutationAudit :=
  { action, resourceKind := "environment", resourceId := id, organizationId := some organizationId,
    projectId := some projectId, environmentId := some id }

def connectionAudit (action : String) (organizationId projectId environmentId id : Uuid) :
    MutationAudit :=
  { action, resourceKind := "connection", resourceId := id, organizationId := some organizationId,
    projectId := some projectId, environmentId := some environmentId }

/-- The resource, its index entry if it has one, the idempotency record and the audit. -/
def persistFleetMutation (c : Call) (resource : Write) (slugIndex : Option Write)
    (audit : MutationAudit) : List Write :=
  resource :: slugIndex.toList ++
    [.set (.fleetIdempotency c.requestId) audit.idempotency,
      .set (.fleetAudit c.auditId) (audit.record c)]

variable {slugIndex : Option Write} {audit : MutationAudit} {k : Key}

theorem forall_mem_persistFleetMutation {P : Write → Prop} {c : Call} {resource : Write} :
    (∀ w ∈ persistFleetMutation c resource slugIndex audit, P w) ↔
      (P resource ∧ ∀ w ∈ slugIndex, P w) ∧
        P (.set (.fleetIdempotency c.requestId) audit.idempotency) ∧
        P (.set (.fleetAudit c.auditId) (audit.record c)) := by
  unfold persistFleetMutation
  rw [List.forall_mem_append, List.forall_mem_cons, List.forall_mem_cons,
    List.forall_mem_singleton]
  simp only [Option.mem_toList, Option.mem_def]

/-- The keys of the two records every audited pipeline ends with. -/
def auditKey : Key → Prop
  | .fleetIdempotency _ | .fleetAudit _ => True
  | _ => False

theorem ne_of_not_auditKey (hk : ¬ auditKey k) (c : Call) :
    k ≠ .fleetIdempotency c.requestId ∧ k ≠ .fleetAudit c.auditId := by
  constructor
  · rintro rfl; exact hk trivial
  · rintro rfl; exact hk trivial

/-- An audited pipeline is seen under the keys of its resource and its index only. -/
theorem get_commit_persist_of_ne (db : Db) (c : Call) {resource : Write} (t : Nat)
    (hk : ¬ auditKey k) (hresource : k ≠ resource.key)
    (hindex : ∀ w ∈ slugIndex, k ≠ Command.key w) :
    (commit c.now db (persistFleetMutation c resource slugIndex audit)).get t k = db.get t k :=
  get_commit_of_forall_ne c.now t _ k db
    (forall_mem_persistFleetMutation.mpr ⟨⟨hresource, hindex⟩, ne_of_not_auditKey hk c⟩)

theorem get_commit_persist_self (db : Db) (c : Call) (t : Nat) (v : Value k) (hk : ¬ auditKey k)
    (hindex : ∀ w ∈ slugIndex, k ≠ Command.key w) :
    (commit c.now db (persistFleetMutation c (.set k v) slugIndex audit)).get t k = some v := by
  obtain ⟨hidem, haudit⟩ := ne_of_not_auditKey hk c
  unfold persistFleetMutation
  rw [List.cons_append, commit_cons, get_commit_of_forall_ne, Command.get_set_self]
  rw [List.forall_mem_append, List.forall_mem_cons, List.forall_mem_singleton]
  exact ⟨fun w hw => hindex w (Option.mem_toList.mp hw), hidem, haudit⟩

/-- As `persistFleetMutation`, consuming `deleteKey` in the same transaction. -/
def persistFleetMutationWithDelete (c : Call) (resource : Write) (deleteKey : Key)
    (audit : MutationAudit) : List Write :=
  [.del deleteKey, resource, .set (.fleetIdempotency c.requestId) audit.idempotency,
    .set (.fleetAudit c.auditId) (audit.record c)]

/-- The opening of every audited mutation: a request id that already completed
    `action` answers the stored resource, one used for another action is refused. -/
def replayOr {α : Type} (db : Db) (c : Call) (action : String) (load : Uuid → Option α)
    (missing : StorePolicyError) (fresh : StoreResult (Committed α)) :
    StoreResult (Committed α) := do
  match ← db.fleetIdempotentResource c.now action c.requestId with
  | some resourceId =>
      let record ← okOr (load resourceId) missing
      return (record, [])
  | none => fresh

theorem fleetIdempotentResource_eq_ok (db : Db) (now : Nat) (action : String) (requestId : Uuid)
    (o : Option Uuid) :
    db.fleetIdempotentResource now action requestId = .ok o ↔
      db.get now (.fleetIdempotency requestId) = o.map fun id => ⟨action, id⟩ := by
  unfold Db.fleetIdempotentResource
  cases db.get now (.fleetIdempotency requestId) with
  | none => cases o <;> simp
  | some record =>
    obtain ⟨action', resourceId⟩ := record
    by_cases ha : action' = action
    · subst ha
      cases o <;> simp
    · cases o <;> simp [ha]

/-- A mutation returns by answering a completed request, writing nothing, or on the
    first use of its request id by what follows the replay check. -/
theorem replayOr_eq_ok {α : Type} (db : Db) (c : Call) (action : String) (load : Uuid → Option α)
    (missing : StorePolicyError) (fresh : StoreResult (Committed α)) (r : α) (ws : List Write) :
    replayOr db c action load missing fresh = .ok (r, ws) ↔
      (∃ id, db.get c.now (.fleetIdempotency c.requestId) = some ⟨action, id⟩ ∧
        load id = some r ∧ ws = []) ∨
      (db.get c.now (.fleetIdempotency c.requestId) = none ∧ fresh = .ok (r, ws)) := by
  unfold replayOr
  rw [bind_eq_ok]
  constructor
  · rintro ⟨o, ho, h⟩
    rw [fleetIdempotentResource_eq_ok] at ho
    cases o with
    | none => exact .inr ⟨ho, h⟩
    | some id =>
      simp only [bind_eq_ok, okOr_eq_ok, pure_eq_ok, Prod.mk.injEq] at h
      obtain ⟨a, hload, rfl, rfl⟩ := h
      exact .inl ⟨id, ho, hload, rfl⟩
  · rintro (⟨id, hget, hload, rfl⟩ | ⟨hget, h⟩)
    · refine ⟨some id, (fleetIdempotentResource_eq_ok ..).mpr hget, ?_⟩
      simp only [bind_eq_ok, okOr_eq_ok, pure_eq_ok]
      exact ⟨r, hload, rfl⟩
    · exact ⟨none, (fleetIdempotentResource_eq_ok ..).mpr hget, h⟩

/-! ## Organizations -/

def createFleetOrganization (db : Db) (c : Call) (slug name : String) :
    StoreResult (Committed FleetOrganizationRecord) :=
  replayOr db c "organization.create" (db.fleetOrganization c.now) .fleetResourceMissing do
    ensure ((db.get c.now (.fleetOrganizationSlug slug)).isNone) .fleetSlugConflict
    let record : FleetOrganizationRecord :=
      { id := c.newId, slug, name, state := .active, createdAt := c.now, updatedAt := c.now,
        archivedAt := none }
    return (record, persistFleetMutation c (.set (.fleetOrganization record.id) record)
      (some (.set (.fleetOrganizationSlug record.slug) record.id))
      (organizationAudit "organization.create" record.id))

def updateFleetOrganization (db : Db) (c : Call) (id : Uuid) (name : String) :
    StoreResult (Committed FleetOrganizationRecord) :=
  replayOr db c "organization.update" (db.fleetOrganization c.now) .fleetResourceMissing do
    let record ← okOr (db.fleetOrganization c.now id) .fleetResourceMissing
    ensure (record.state ≠ .archived) .fleetParentArchived
    let record := { record with name, updatedAt := c.now }
    return (record, persistFleetMutation c (.set (.fleetOrganization id) record) none
      (organizationAudit "organization.update" id))

def archiveFleetOrganization (db : Db) (c : Call) (id : Uuid) :
    StoreResult (Committed FleetOrganizationRecord) :=
  replayOr db c "organization.archive" (db.fleetOrganization c.now) .fleetResourceMissing do
    ensure (∀ project ∈ db.fleetProjects c.now id false, project.state ≠ .active)
      .fleetHasActiveChildren
    let record ← okOr (db.fleetOrganization c.now id) .fleetResourceMissing
    let record :=
      if record.state = .active then
        { record with state := .archived, updatedAt := c.now, archivedAt := some c.now }
      else record
    return (record, persistFleetMutation c (.set (.fleetOrganization id) record) none
      (organizationAudit "organization.archive" id))

/-! ## Projects -/

def createFleetProject (db : Db) (c : Call) (organizationId : Uuid)
    (slug name description : String) : StoreResult (Committed FleetProjectRecord) :=
  replayOr db c "project.create" (db.fleetProject c.now) .fleetResourceMissing do
    let organization ← okOr (db.fleetOrganization c.now organizationId) .fleetResourceMissing
    ensure (organization.state ≠ .archived) .fleetParentArchived
    ensure ((db.get c.now (.fleetProjectSlug organizationId slug)).isNone) .fleetSlugConflict
    let record : FleetProjectRecord :=
      { id := c.newId, organizationId, slug, name, description, state := .active,
        createdAt := c.now, updatedAt := c.now, archivedAt := none }
    return (record, persistFleetMutation c (.set (.fleetProject record.id) record)
      (some (.set (.fleetProjectSlug organizationId record.slug) record.id))
      (projectAudit "project.create" organizationId record.id))

def updateFleetProject (db : Db) (c : Call) (organizationId id : Uuid)
    (name description : String) : StoreResult (Committed FleetProjectRecord) :=
  replayOr db c "project.update" (db.fleetProject c.now) .fleetResourceMissing do
    let record ← okOr ((db.fleetProject c.now id).filter (·.organizationId = organizationId))
      .fleetResourceMissing
    ensure (record.state ≠ .archived) .fleetParentArchived
    let record := { record with name, description, updatedAt := c.now }
    return (record, persistFleetMutation c (.set (.fleetProject id) record) none
      (projectAudit "project.update" organizationId id))

def archiveFleetProject (db : Db) (c : Call) (organizationId id : Uuid) :
    StoreResult (Committed FleetProjectRecord) :=
  replayOr db c "project.archive" (db.fleetProject c.now) .fleetResourceMissing do
    ensure (∀ environment ∈ db.fleetEnvironments c.now organizationId id false,
      environment.state ≠ .active) .fleetHasActiveChildren
    let record ← okOr ((db.fleetProject c.now id).filter (·.organizationId = organizationId))
      .fleetResourceMissing
    let record :=
      if record.state = .active then
        { record with state := .archived, updatedAt := c.now, archivedAt := some c.now }
      else record
    return (record, persistFleetMutation c (.set (.fleetProject id) record) none
      (projectAudit "project.archive" organizationId id))

/-! ## Environments -/

def createFleetEnvironment (db : Db) (c : Call) (organizationId projectId : Uuid)
    (slug name : String) (kind : FleetEnvironmentKindRecord) (provider region : String) :
    StoreResult (Committed FleetEnvironmentRecord) :=
  replayOr db c "environment.create" (db.fleetEnvironment c.now) .fleetResourceMissing do
    let project ← okOr ((db.fleetProject c.now projectId).filter
      (·.organizationId = organizationId)) .fleetResourceMissing
    ensure (project.state ≠ .archived) .fleetParentArchived
    ensure ((db.get c.now (.fleetEnvironmentSlug projectId slug)).isNone) .fleetSlugConflict
    let record : FleetEnvironmentRecord :=
      { id := c.newId, organizationId, projectId, slug, name, kind, provider, region,
        state := .active, createdAt := c.now, updatedAt := c.now, archivedAt := none }
    return (record, persistFleetMutation c (.set (.fleetEnvironment record.id) record)
      (some (.set (.fleetEnvironmentSlug projectId record.slug) record.id))
      (environmentAudit "environment.create" organizationId projectId record.id))

def updateFleetEnvironment (db : Db) (c : Call) (organizationId projectId id : Uuid)
    (name : String) (kind : FleetEnvironmentKindRecord) (provider region : String) :
    StoreResult (Committed FleetEnvironmentRecord) :=
  replayOr db c "environment.update" (db.fleetEnvironment c.now) .fleetResourceMissing do
    let record ← okOr ((db.fleetEnvironment c.now id).filter fun record =>
      record.organizationId = organizationId ∧ record.projectId = projectId) .fleetResourceMissing
    ensure (record.state ≠ .archived) .fleetParentArchived
    let record := { record with name, kind, provider, region, updatedAt := c.now }
    return (record, persistFleetMutation c (.set (.fleetEnvironment id) record) none
      (environmentAudit "environment.update" organizationId projectId id))

def archiveFleetEnvironment (db : Db) (c : Call) (organizationId projectId id : Uuid) :
    StoreResult (Committed FleetEnvironmentRecord) :=
  replayOr db c "environment.archive" (db.fleetEnvironment c.now) .fleetResourceMissing do
    let record ← okOr ((db.fleetEnvironment c.now id).filter fun record =>
      record.organizationId = organizationId ∧ record.projectId = projectId) .fleetResourceMissing
    let record :=
      if record.state = .active then
        { record with state := .archived, updatedAt := c.now, archivedAt := some c.now }
      else record
    return (record, persistFleetMutation c (.set (.fleetEnvironment id) record) none
      (environmentAudit "environment.archive" organizationId projectId id))

end RustyAuth
