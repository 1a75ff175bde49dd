/-
  The Fleet store: role bindings and the role an operator effectively holds.

  A binding gives one operator one role on one resource.  It is found through its
  subject index, so there is at most one binding for an operator and a resource;
  revoking marks it and a later upsert takes the same record into use again.
-/
import RustyAuth.Store.Fleet
import Mathlib.Data.List.MinMax

namespace RustyAuth

open RustyAuth.Library

/-- Lower is more privileged. -/
def fleetRoleRank : FleetRoleRecord → Nat
  | .owner => 0
  | .administrator => 1
  | .operator => 2
  | .support => 3
  | .auditor => 4

namespace Db

/-- The live binding of an operator on exactly this resource.  An index entry whose
    binding is gone reads as no binding. -/
def fleetRoleBindingForOperator (db : Db) (now : Nat) (operatorId : Uuid)
    (kind : FleetResourceKindRecord) (resourceId : Uuid) : Option FleetRoleBindingRecord := do
  let id ← db.get now (.fleetRoleBindingSubject operatorId kind resourceId)
  (db.fleetRoleBinding now id).filter (·.revokedAt.isNone)

/-- The resource and its ancestors, nearest first. -/
def fleetResourceChain (db : Db) (now : Nat) (kind : FleetResourceKindRecord) (resourceId : Uuid) :
    StoreResult (List (FleetResourceKindRecord × Uuid)) :=
  match kind with
  | .organization => return [(.organization, resourceId)]
  | .project => do
      let project ← okOr (db.fleetProject now resourceId) .fleetResourceMissing
      return [(.project, resourceId), (.organization, project.organizationId)]
  | .environment => do
      let environment ← okOr (db.fleetEnvironment now resourceId) .fleetResourceMissing
      return [(.environment, resourceId), (.project, environment.projectId),
        (.organization, environment.organizationId)]

/-- The most privileged role among the operator's live bindings on the resource and
    its ancestors. -/
def fleetEffectiveRole (db : Db) (now : Nat) (operatorId : Uuid) (kind : FleetResourceKindRecord)
    (resourceId : Uuid) : StoreResult (Option FleetRoleRecord) := do
  let chain ← db.fleetResourceChain now kind resourceId
  let candidates := chain.filterMap fun (kind, id) =>
    (db.fleetRoleBindingForOperator now operatorId kind id).map (·.role)
  return candidates.argmin fleetRoleRank

def fleetResourceExists (db : Db) (now : Nat) (kind : FleetResourceKindRecord) (id : Uuid) : Bool :=
  match kind with
  | .organization => (db.fleetOrganization now id).isSome
  | .project => (db.fleetProject now id).isSome
  | .environment => (db.fleetEnvironment now id).isSome

def resourceOrganizationId (db : Db) (now : Nat) (kind : FleetResourceKindRecord) (id : Uuid) :
    StoreResult (Option Uuid) :=
  match kind with
  | .organization => return some id
  | .project => do
      let project ← okOr (db.fleetProject now id) .fleetResourceMissing
      return some project.organizationId
  | .environment => do
      let environment ← okOr (db.fleetEnvironment now id) .fleetResourceMissing
      return some environment.organizationId

def resourceProjectId (db : Db) (now : Nat) (kind : FleetResourceKindRecord) (id : Uuid) :
    StoreResult (Option Uuid) :=
  match kind with
  | .organization => return none
  | .project => return some id
  | .environment => do
      let environment ← okOr (db.fleetEnvironment now id) .fleetResourceMissing
      return some environment.projectId

end Db

/-- The audit of a role-binding mutation names the binding and the resource's place
    in the hierarchy. -/
def roleBindingAudit (db : Db) (now : Nat) (action : String) (id : Uuid)
    (kind : FleetResourceKindRecord) (resourceId : Uuid) : StoreResult MutationAudit := do
  let organizationId ← db.resourceOrganizationId now kind resourceId
  let projectId ← db.resourceProjectId now kind resourceId
  return { action, resourceKind := "role-binding", resourceId := id, organizationId, projectId,
           environmentId := if kind = .environment then some resourceId else none }

/-- The record an upsert stores: the subject's binding with the new role, or a new one. -/
def upsertedBinding (db : Db) (c : Call) (operatorId : Uuid) (kind : FleetResourceKindRecord)
    (resourceId : Uuid) (role : FleetRoleRecord) : StoreResult FleetRoleBindingRecord :=
  match db.get c.now (.fleetRoleBindingSubject operatorId kind resourceId) with
  | some id => do
      let record ← okOr (db.fleetRoleBinding c.now id) .fleetResourceMissing
      return { record with role, createdBy := c.operatorId, createdAt := c.now,
                           revokedBy := none, revokedAt := none }
  | none =>
      return { id := c.newId, operatorId, resourceKind := kind, resourceId, role,
               createdBy := c.operatorId, createdAt := c.now, revokedBy := none,
               revokedAt := none }

/-- Here `c.operatorId` is the acting operator and `operatorId` the subject of the binding. -/
def upsertFleetRoleBinding (db : Db) (c : Call) (operatorId : Uuid)
    (kind : FleetResourceKindRecord) (resourceId : Uuid) (role : FleetRoleRecord) :
    StoreResult (Committed FleetRoleBindingRecord) :=
  replayOr db c "role-binding.upsert" (db.fleetRoleBinding c.now) .fleetResourceMissing do
    ensure (db.fleetResourceExists c.now kind resourceId) .fleetResourceMissing
    let record ← upsertedBinding db c operatorId kind resourceId role
    let audit ← roleBindingAudit db c.now "role-binding.upsert" record.id kind resourceId
    return (record, persistFleetMutation c (.set (.fleetRoleBinding record.id) record)
      (some (.set (.fleetRoleBindingSubject operatorId kind resourceId) record.id)) audit)

def revokeFleetRoleBinding (db : Db) (c : Call) (id : Uuid) :
    StoreResult (Committed FleetRoleBindingRecord) :=
  replayOr db c "role-binding.revoke" (db.fleetRoleBinding c.now) .fleetResourceMissing do
    let record ← okOr (db.fleetRoleBinding c.now id) .fleetResourceMissing
    let record :=
      if record.revokedAt.isNone then
        { record with revokedBy := some c.operatorId, revokedAt := some c.now }
      else record
    let audit ← roleBindingAudit db c.now "role-binding.revoke" id record.resourceKind
      record.resourceId
    return (record, persistFleetMutation c (.set (.fleetRoleBinding id) record) none audit)

end RustyAuth
