/-
  Errors and text checks shared by the RPC handlers.
-/
import RustyAuth.Store.Records
import RustyAuth.Library.Outcome
import RustyAuth.Library.Texts

namespace RustyAuth

open RustyAuth.Library

inductive ErrorCode
  | invalidArgument
  | unauthenticated
  | permissionDenied
  | notFound
  | alreadyExists
  | failedPrecondition
  | resourceExhausted
  | outOfRange
  | unavailable
  | dataLoss
  | internal
deriving DecidableEq

structure ConnectError where
  code : ErrorCode
  message : String
deriving DecidableEq

abbrev RpcResult := Except ConnectError

/-- `source_error`: how a store error is shown to the caller of a Fleet RPC. -/
def sourceError : StorePolicyError → ConnectError
  | .fleetResourceMissing => ⟨.notFound, "Fleet resource is missing"⟩
  | .fleetSlugConflict => ⟨.alreadyExists, "Fleet resource slug is already in use"⟩
  | .fleetParentArchived => ⟨.failedPrecondition, "Fleet resource is archived"⟩
  | .fleetHasActiveChildren => ⟨.failedPrecondition, "Fleet resource has active children"⟩
  | .fleetIdempotencyConflict => ⟨.alreadyExists, "mutation request id was already used"⟩
  | .fleetConnectionAttemptExpired =>
      ⟨.failedPrecondition, "connection attempt expired or was already consumed"⟩
  | .fleetConnectionConflict =>
      ⟨.alreadyExists, "realm is already connected to this environment"⟩
  | _ => ⟨.internal, "Fleet operation failed"⟩

/-- `map_err(source_error)`. -/
def fromStore {α : Type} : Except StorePolicyError α → RpcResult α
  | .ok a => .ok a
  | .error e => .error (sourceError e)

@[simp] theorem fromStore_eq_ok {α : Type} (x : Except StorePolicyError α) (a : α) :
    fromStore x = .ok a ↔ x = .ok a := by
  cases x with
  | ok b => simp [fromStore]
  | error e => simp [fromStore]

def notFound : ConnectError := ⟨.notFound, "Fleet resource is missing"⟩

def invalid (message : String) : ConnectError := ⟨.invalidArgument, message⟩

/-! ## Text -/

/-- `str::trim`. -/
def trimmed (value : String) : String := String.ofList (trim value.toList)

/-- `safe_text`; a `mutation.reason` is never allowed to be empty. -/
def safeText (value field : String) (maximum : Nat) (allowEmpty : Bool) : RpcResult String :=
  let value := trimmed value
  let allowEmpty := allowEmpty && field ≠ "mutation.reason"
  if (!allowEmpty && value == "") || maximum < value.utf8ByteSize || value.toList.any isControl then
    .error (invalid (match field with
      | "name" => "name is invalid"
      | "description" => "description is invalid"
      | "provider" => "provider is invalid"
      | "region" => "region is invalid"
      | "mutation.reason" => "mutation reason is invalid"
      | _ => "text field is invalid"))
  else .ok value

/-- `safe_secret`. -/
def safeSecret (value : String) (minimum maximum : Nat) : RpcResult String :=
  let value := trimmed value
  if value.utf8ByteSize < minimum || maximum < value.utf8ByteSize ||
      value.toList.any isWhitespace || value.toList.any isControl then
    .error (invalid "secret is invalid")
  else .ok value

/-- `safe_remote_reason`. -/
def safeRemoteReason (value : String) : RpcResult String :=
  let value := trimmed value
  if value.utf8ByteSize < 10 || 500 < value.utf8ByteSize || value.toList.any isControl then
    .error (invalid "remote mutation reason must contain 10-500 safe characters")
  else .ok value

end RustyAuth
