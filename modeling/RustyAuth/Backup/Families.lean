/-
  The families of backup records.

  `recordFamily` is the second table over key texts, kept beside the snapshot policy and by
  hand as well.  The index of a snapshot asks of every record that its family is known and
  that it has an expiry exactly where its family may, or must, have one.
-/
import RustyAuth.Store.Snapshot

namespace RustyAuth

open RustyAuth.Library

/-- The families that are one key. -/
def singleFamilies : List (String × String) :=
  [("auth:event-sequence", "event-sequence"), ("auth:event-min-sequence", "event-min-sequence"),
    ("auth:jwt:keyset:v1", "keyset"), ("auth:organization", "organization")]

def prefixFamilies : List (String × String) :=
  [("auth:user:", "user"), ("auth:email:", "email-index"), ("auth:identifier:", "identifier-index"),
    ("auth:credential:", "credential-index"), ("auth:session:", "session"), ("auth:event:", "event"),
    ("auth:invitation:", "invitation"), ("auth:invitation-code:", "invitation-code"),
    ("auth:webhook:", "webhook"), ("auth:webhook-cursor:", "webhook-cursor"),
    ("auth:webhook-delivery:", "webhook-delivery"),
    ("auth:webhook-delivery-event:", "webhook-delivery-event"), ("auth:operator:", "operator"),
    ("auth:service-account:", "service-account"),
    ("auth:service-credential:", "service-credential"), ("auth:fleet-grant:", "realm-fleet-grant"),
    ("auth:fleet-grant-secret:", "realm-fleet-grant-secret"),
    ("auth:remote-mutation:", "remote-mutation"), ("fleet:organization:", "fleet-organization"),
    ("fleet:organization-slug:", "fleet-organization-slug"), ("fleet:project:", "fleet-project"),
    ("fleet:project-slug:", "fleet-project-slug"), ("fleet:environment:", "fleet-environment"),
    ("fleet:environment-slug:", "fleet-environment-slug"),
    ("fleet:connection:", "fleet-connection"), ("fleet:role-binding:", "fleet-role-binding"),
    ("fleet:role-binding-subject:", "fleet-role-binding-subject"),
    ("fleet:idempotency:", "fleet-idempotency"),
    ("fleet:assignment-epoch:", "fleet-assignment-epoch"), ("fleet:audit:", "fleet-audit"),
    ("fleet:analytics-bucket:", "fleet-analytics-bucket"),
    ("fleet:analytics-policy:", "fleet-analytics-policy"),
    ("fleet:analytics-policy-idempotency:", "fleet-analytics-policy-idempotency"),
    ("fleet:analytics-quarantine:", "fleet-analytics-quarantine"),
    ("fleet:analytics-ingestion-audit:", "fleet-analytics-ingestion-audit"),
    ("fleet:analytics-operator-audit:", "fleet-analytics-operator-audit"),
    ("fleet:analytics-maintenance-audit:", "fleet-analytics-maintenance-audit"),
    ("fleet:analytics-manifest:", "fleet-analytics-manifest"),
    ("analytics:bucket:", "analytics-bucket"), ("analytics:outbox:", "analytics-outbox")]

def cursorFamilies : List (String × String) :=
  [("analytics:projector-cursor", "analytics-projector-cursor"),
    ("analytics:closure-cursor", "analytics-closure-cursor")]

/-- The family of the first entry of a table that `hits`. -/
def familyIn (table : List (String × String)) (hits : String → Bool) : Option String :=
  (table.find? fun entry => hits entry.1).map Prod.snd

def recordFamily (key : String) : Except SnapshotError String :=
  okOr ((familyIn singleFamilies (· == key)).or <|
    (familyIn prefixFamilies (startsFamily key)).or <| familyIn cursorFamilies (· == key))
    (.unsupportedKey key)

def recordFamilyAllowsExpiry (family : String) : Bool :=
  ["session", "remote-mutation", "fleet-analytics-quarantine", "fleet-analytics-ingestion-audit",
    "fleet-analytics-maintenance-audit"].contains family

/-- The families whose records are refused without an expiry. -/
def recordFamilyNeedsExpiry (family : String) : Bool :=
  ["session", "remote-mutation"].contains family

/-- What `index_records` asks of the key and the expiry of a record. -/
def checkFamily (record : StoreRecord) : Except SnapshotError Unit := do
  let family ← recordFamily record.key
  ensure (recordFamilyAllowsExpiry family ∨ record.expiresAt = none) (.unexpectedExpiry record.key)
  ensure (recordFamilyNeedsExpiry family → record.expiresAt.isSome) (.missingExpiry record.key)

/-- The family and expiry part of the validation of a snapshot. -/
def checkFamilies (records : List StoreRecord) : Except SnapshotError Unit :=
  forEach records checkFamily

end RustyAuth
