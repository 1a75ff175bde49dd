/-
  The logical snapshot: which keys a backup takes, and the records it takes of them.

  `snapshotKeyPolicy` is a table over the texts of keys that is kept by hand.  A key it does
  not list makes the export fail, whatever the key is.
-/
import RustyAuth.Store.Keys
import RustyAuth.Library.Outcome
import RustyAuth.Library.Texts
import Mathlib.Data.List.Sort

namespace RustyAuth

open RustyAuth.Library

inductive SnapshotKeyPolicy
  | «include»
  | exclude
deriving DecidableEq

inductive SnapshotError
  -- "unknown RustyAuth key family in snapshot: {key}"
  | unknownFamily (key : String)
  -- "RustyAuth namespace exceeds the one-million-key safety limit"
  | tooManyKeys
  -- "snapshot record {key} exceeds the 8 MiB safety limit"
  | valueTooLarge (key : String)
  -- "backup contains unsupported key {key}"
  | unsupportedKey (key : String)
  -- "durable backup record {key} unexpectedly has an expiry"
  | unexpectedExpiry (key : String)
  -- "backup session {key} has no expiry", "backup remote mutation receipt has no expiry"
  | missingExpiry (key : String)
deriving DecidableEq

def maxSnapshotKeys : Nat := 1000000
def maxSnapshotValueBytes : Nat := 8 * 1024 * 1024

/-! ## The policy -/

def includedAnalyticsKeys : List String := ["analytics:projector-cursor", "analytics:closure-cursor"]

def includedAnalyticsFamilies : List String := ["analytics:bucket:", "analytics:outbox:"]

def includedFleetFamilies : List String :=
  ["fleet:organization:", "fleet:organization-slug:", "fleet:project:", "fleet:project-slug:",
    "fleet:environment:", "fleet:environment-slug:", "fleet:connection:", "fleet:role-binding:",
    "fleet:role-binding-subject:", "fleet:idempotency:", "fleet:assignment-epoch:", "fleet:audit:",
    "fleet:analytics-bucket:", "fleet:analytics-policy:", "fleet:analytics-policy-idempotency:",
    "fleet:analytics-quarantine:", "fleet:analytics-ingestion-audit:",
    "fleet:analytics-operator-audit:", "fleet:analytics-maintenance-audit:",
    "fleet:analytics-manifest:"]

def includedAuthKeys : List String :=
  ["auth:event-sequence", "auth:event-min-sequence", "auth:jwt:keyset:v1", "auth:organization"]

def includedAuthFamilies : List String :=
  ["auth:user:", "auth:email:", "auth:identifier:", "auth:credential:", "auth:session:",
    "auth:event:", "auth:invitation:", "auth:invitation-code:", "auth:webhook:",
    "auth:webhook-cursor:", "auth:webhook-delivery:", "auth:webhook-delivery-event:",
    "auth:operator:", "auth:service-account:", "auth:service-credential:", "auth:fleet-grant:",
    "auth:fleet-grant-secret:", "auth:remote-mutation:"]

def excludedKeys : List String :=
  ["auth:jwt:active", "auth:jwt:maintenance-lock", "auth:writer-lease", "auth:restore:in-progress"]

def excludedFamilies : List String :=
  ["auth:registration:", "auth:authentication:", "auth:identifier-verification:",
    "auth:agent-handoff:", "auth:rate-limit:", "auth:session-activity:", "auth:fleet-pairing:",
    "auth:backup:", "auth:operator-seen:", "fleet:connection-attempt:", "fleet:operations-cache:",
    "fleet:analytics-quota:", "fleet:analytics-quota-batch:"]

def snapshotKeyPolicy (key : String) : Except SnapshotError SnapshotKeyPolicy :=
  if includedAnalyticsKeys.contains key || includedAnalyticsFamilies.any (startsFamily key) then
    return .include
  else if includedFleetFamilies.any (startsFamily key) then return .include
  -- unlike the families above, these do not ask for a name after the prefix
  else if includedAuthKeys.contains key || includedAuthFamilies.any (startsWith key) then
    return .include
  else if excludedKeys.contains key || excludedFamilies.any (startsWith key) then return .exclude
  else throw (.unknownFamily key)

/-! ## Export -/

structure StoreRecord where
  key : String
  value : String
  expiresAt : Option Nat
deriving DecidableEq

/-- The three scans of `managed_keys`. -/
def managedPatterns : List String := ["auth:", "fleet:", "analytics:"]

def Db.managedKeys (db : Db) (now : Nat) : List Key :=
  (db.keys now).filter fun key => managedPatterns.any (startsWith key.text)

/-- The keys the policy includes; the first one it does not know fails the export. -/
def includedKeys : List Key → Except SnapshotError (List Key)
  | [] => return []
  | key :: keys => do
      let policy ← snapshotKeyPolicy key.text
      let rest ← includedKeys keys
      return if policy = .include then key :: rest else rest

section

variable (encode : ∀ k, Value k → String)

/-- The record of a key: its text, and its expiry as the clock of the export has it. -/
def storeRecord (db : Db) (now : Nat) (key : Key) : Except SnapshotError (Option StoreRecord) :=
  match db.get now key with
  | none => return none
  | some value => do
      ensure ((encode key value).utf8ByteSize ≤ maxSnapshotValueBytes) (.valueTooLarge key.text)
      return some { key := key.text, value := encode key value, expiresAt := db.deadline now key }

def exportRecords (db : Db) (now : Nat) : Except SnapshotError (Nat × List StoreRecord) := do
  let keys := db.managedKeys now
  ensure (keys.length ≤ maxSnapshotKeys) .tooManyKeys
  let included ← includedKeys keys
  let records ← included.mapM (storeRecord encode db now)
  return (now, (records.filterMap id).insertionSort (·.key ≤ ·.key))

end

end RustyAuth
