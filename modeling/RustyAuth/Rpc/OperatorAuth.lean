/-
  Operator authorization for the control plane.

  The model starts from an authenticated operator: session lookup and bootstrap are
  the business of other modules.  `authorizeFleet` grants a capability on a resource
  through the operator's global role or through a delegated Fleet role, and
  `requireFleetRoleDominance` is the check that an operator may not hand out or take
  away a role above their own.
-/
import RustyAuth.Rpc.Errors
import RustyAuth.Store.FleetRoles

namespace RustyAuth

open RustyAuth.Library

inductive OperatorCapability
  | read
  | support
  | administer
deriving DecidableEq

/-- An authenticated operator: the account, its global role and the session's last
    passkey step-up. -/
structure OperatorActor where
  userId : Uuid
  role : OperatorRoleRecord
  stepUpAt : Option Nat
deriving DecidableEq

def stepUpSeconds : Nat := 300

def operatorDenied : ConnectError := ⟨.permissionDenied, "operator access denied"⟩

def authorizationFailed : ConnectError := ⟨.internal, "operator authorization failed"⟩

def allows (role : OperatorRoleRecord) : OperatorCapability → Bool
  | .read => true
  | .support => role = .owner ∨ role = .administrator ∨ role = .support
  | .administer => role = .owner ∨ role = .administrator

def fleetAllows (role : FleetRoleRecord) : OperatorCapability → Bool
  | .read => true
  | .support => role ≠ .auditor
  | .administer => role = .owner ∨ role = .administrator

/-- Administering needs a step-up in the last five minutes. -/
def requireStepUpFor (now : Nat) (capability : OperatorCapability) (actor : OperatorActor) :
    RpcResult Unit :=
  ensure (capability ≠ .administer ∨
    ∃ stepUpAt ∈ actor.stepUpAt, stepUpAt ≤ now ∧ now - stepUpAt ≤ stepUpSeconds)
    ⟨.unauthenticated, "recent passkey step-up required"⟩

/-- `map_err(internal)`: a store error during authorization is not shown. -/
def fromStoreInternal {α : Type} : Except StorePolicyError α → RpcResult α
  | .ok a => .ok a
  | .error _ => .error authorizationFailed

def authorize (now : Nat) (actor : OperatorActor) (capability : OperatorCapability) :
    RpcResult Unit :=
  if allows actor.role capability then requireStepUpFor now capability actor
  else throw operatorDenied

def authorizeFleet (db : Db) (now : Nat) (actor : OperatorActor) (capability : OperatorCapability)
    (kind : FleetResourceKindRecord) (resourceId : Uuid) : RpcResult Unit :=
  if allows actor.role capability then
    requireStepUpFor now capability actor
  else do
    let delegated ← fromStoreInternal (db.fleetEffectiveRole now actor.userId kind resourceId)
    if ∃ role ∈ delegated, fleetAllows role capability then
      requireStepUpFor now capability actor
    else throw operatorDenied

/-- The role an operator acts with on a resource: the global one when it administers,
    otherwise the effective Fleet role. -/
def actingRole (db : Db) (now : Nat) (actor : OperatorActor) (kind : FleetResourceKindRecord)
    (resourceId : Uuid) : RpcResult FleetRoleRecord :=
  match actor.role with
  | .owner => return .owner
  | .administrator => return .administrator
  | .support | .auditor => do
      let delegated ← fromStoreInternal (db.fleetEffectiveRole now actor.userId kind resourceId)
      okOr delegated operatorDenied

def requireFleetRoleDominance (db : Db) (now : Nat) (actor : OperatorActor)
    (kind : FleetResourceKindRecord) (resourceId : Uuid) (targetRole : FleetRoleRecord) :
    RpcResult Unit := do
  let actorRole ← actingRole db now actor kind resourceId
  ensure (fleetRoleRank actorRole ≤ fleetRoleRank targetRole)
    ⟨.permissionDenied, "operator role does not dominate the requested Fleet role"⟩

end RustyAuth
