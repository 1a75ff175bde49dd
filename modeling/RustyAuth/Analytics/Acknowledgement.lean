/-
  Acknowledgements of telemetry batches.

  Fleet answers a batch with one result per bucket.  `validateAcknowledgement` is what both
  ends ask of such an answer; the answers that Fleet makes for the buckets of a valid batch pass
  it, one by one (`validateBucketAcknowledgements_map`).
-/
import RustyAuth.Analytics.Contract

namespace RustyAuth

open RustyAuth.Library

inductive BucketAcknowledgementStatus
  | unspecified
  | accepted
  | alreadyAccepted
  | rejected
  | quarantined
deriving DecidableEq

inductive BucketRejectionReason
  | unspecified
  | invalidContract
  | unsupportedSchema
  | realmMismatch
  | assignmentMismatch
  | staleRevision
  | sequenceRegression
  | clockSkew
  | policyDisabled
  | resourceLimit
deriving DecidableEq

structure TelemetryBucketKey where
  realmId : String
  assignmentEpoch : Nat
  bucketStartUnixMilliseconds : Int
  bucketWidthSeconds : Nat
  metricSchemaVersion : EnumValue MetricSchemaVersion
deriving DecidableEq

structure TelemetryBucketAcknowledgement where
  key : Option TelemetryBucketKey
  revision : Nat
  status : EnumValue BucketAcknowledgementStatus
  rejectionReason : EnumValue BucketRejectionReason
deriving DecidableEq

structure TelemetryBatchAcknowledgement where
  batchId : String
  buckets : List TelemetryBucketAcknowledgement
deriving DecidableEq

def TelemetryBucket.key (bucket : TelemetryBucket) : TelemetryBucketKey where
  realmId := bucket.realmId
  assignmentEpoch := bucket.assignmentEpoch
  bucketStartUnixMilliseconds := bucket.bucketStartUnixMilliseconds
  bucketWidthSeconds := bucket.bucketWidthSeconds
  metricSchemaVersion := bucket.metricSchemaVersion

/-! ## The checks -/

def validateBucketKey (key : TelemetryBucketKey) : ContractResult Unit := do
  validateRealmId key.realmId "telemetry_bucket_key.realm_id"
  require (0 < key.assignmentEpoch) "telemetry_bucket_key.assignment_epoch"
    "assignment epoch must be positive"
  validateBucketStart key.bucketStartUnixMilliseconds
    "telemetry_bucket_key.bucket_start_unix_milliseconds"
  require (key.bucketWidthSeconds = bucketWidthSecondsV1) "telemetry_bucket_key.bucket_width_seconds"
    "V1 buckets are exactly five minutes"
  require (key.metricSchemaVersion.asKnown = some .v1) "telemetry_bucket_key.metric_schema_version"
    "unsupported metric schema"

/-- An accepted bucket carries no reason, any other one does. -/
def validateRejection (rejection : BucketRejectionReason) :
    BucketAcknowledgementStatus → ContractResult Unit
  | .accepted | .alreadyAccepted =>
      require (rejection = .unspecified) "telemetry_bucket_acknowledgement.rejection_reason"
        "accepted buckets cannot carry a rejection reason"
  | .rejected | .quarantined =>
      require (rejection ≠ .unspecified) "telemetry_bucket_acknowledgement.rejection_reason"
        "rejected buckets require a bounded rejection reason"
  -- refused before
  | .unspecified => return ()

/-- What identifies a bucket inside an acknowledgement. -/
def TelemetryBucketKey.tuple (key : TelemetryBucketKey) : String × Nat × Int × Int :=
  (key.realmId, key.assignmentEpoch, key.bucketStartUnixMilliseconds,
    key.metricSchemaVersion.toI32 MetricSchemaVersion.number)

def validateBucketAcknowledgement (acknowledgement : TelemetryBucketAcknowledgement) :
    ContractResult TelemetryBucketKey := do
  let key ← okOr acknowledgement.key
    (.invalid "telemetry_bucket_acknowledgement.key" "bucket key is required")
  validateBucketKey key
  require (0 < acknowledgement.revision) "telemetry_bucket_acknowledgement.revision"
    "revision must be positive"
  let status ← okOr acknowledgement.status.asKnown
    (.invalid "telemetry_bucket_acknowledgement.status" "acknowledgement status must be known")
  require (status ≠ .unspecified) "telemetry_bucket_acknowledgement.status"
    "acknowledgement status must be specified"
  let rejection ← okOr acknowledgement.rejectionReason.asKnown
    (.invalid "telemetry_bucket_acknowledgement.rejection_reason" "rejection reason must be known")
  validateRejection rejection status
  return key

def validateBucketAcknowledgements : List TelemetryBucketAcknowledgement →
    List (String × Nat × Int × Int) → ContractResult Unit
  | [], _ => return ()
  | acknowledgement :: acknowledgements, keys => do
      let key ← validateBucketAcknowledgement acknowledgement
      require (key.tuple ∉ keys) "telemetry_batch_acknowledgement.buckets"
        "acknowledgement contains more than one result for the same bucket key"
      validateBucketAcknowledgements acknowledgements (key.tuple :: keys)

def validateAcknowledgement (acknowledgement : TelemetryBatchAcknowledgement) :
    ContractResult Unit := do
  validateUuid acknowledgement.batchId "telemetry_batch_acknowledgement.batch_id"
  require (acknowledgement.buckets ≠ [] ∧ acknowledgement.buckets.length ≤ maxBucketsPerBatch)
    "telemetry_batch_acknowledgement.buckets" "acknowledgement bucket count is outside V1 bounds"
  validateBucketAcknowledgements acknowledgement.buckets []

/-! ## What they accept -/

/-- A status with a reason that may go with it. -/
def validOutcome (status : BucketAcknowledgementStatus) (reason : BucketRejectionReason) : Bool :=
  match status with
  | .accepted | .alreadyAccepted => reason = .unspecified
  | .rejected | .quarantined => reason ≠ .unspecified
  | .unspecified => false

/-- The result of one bucket. -/
def acknowledge (bucket : TelemetryBucket)
    (outcome : BucketAcknowledgementStatus × BucketRejectionReason) :
    TelemetryBucketAcknowledgement where
  key := some bucket.key
  revision := bucket.revision
  status := .known outcome.1
  rejectionReason := .known outcome.2

/-- What the results rest on: a valid bucket has a valid key and a revision. -/
theorem validateBucketKey_of_validateBucket {bucket : TelemetryBucket}
    (h : validateBucket bucket = .ok ()) :
    validateBucketKey bucket.key = .ok () ∧ 0 < bucket.revision := by
  unfold validateBucket validateRealmId validateBucketStart require at h
  simp only [bind_unit_eq_ok, ensure_eq_ok] at h
  obtain ⟨hrealm, hepoch, hstart, hwidth, hrevision, _, hschema, _⟩ := h
  refine ⟨?_, hrevision⟩
  unfold validateBucketKey validateRealmId validateBucketStart require
  simp only [bind_unit_eq_ok, ensure_eq_ok]
  exact ⟨hrealm, hepoch, hstart, hwidth, hschema⟩

theorem validateBucketAcknowledgement_acknowledge {bucket : TelemetryBucket}
    (hbucket : validateBucket bucket = .ok ())
    {outcome : BucketAcknowledgementStatus × BucketRejectionReason}
    (houtcome : validOutcome outcome.1 outcome.2 = true) :
    validateBucketAcknowledgement (acknowledge bucket outcome) = .ok bucket.key := by
  obtain ⟨hkey, hrevision⟩ := validateBucketKey_of_validateBucket hbucket
  obtain ⟨status, reason⟩ := outcome
  unfold validateBucketAcknowledgement acknowledge require
  simp only [bind_eq_ok, okOr_eq_ok, ensure_eq_ok, pure_eq_ok, exists_const, Option.some.injEq,
    EnumValue.asKnown, exists_eq_left', hkey, hrevision, true_and, and_true]
  cases status <;> simp_all [validOutcome, validateRejection, require]

theorem validateBucketAcknowledgements_map
    (outcome : TelemetryBucket → BucketAcknowledgementStatus × BucketRejectionReason)
    (buckets : List TelemetryBucket)
    (hbuckets : ∀ bucket ∈ buckets, validateBucket bucket = .ok ())
    (houtcome : ∀ bucket ∈ buckets, validOutcome (outcome bucket).1 (outcome bucket).2 = true) :
    ∀ keys, (∀ bucket ∈ buckets, bucket.key.tuple ∉ keys) →
      (buckets.map fun bucket => bucket.key.tuple).Nodup →
      validateBucketAcknowledgements
        (buckets.map fun bucket => acknowledge bucket (outcome bucket)) keys = .ok () := by
  induction buckets with
  | nil =>
    intro keys _ _
    rfl
  | cons bucket buckets ih =>
    intro keys hfresh hnodup
    rw [List.forall_mem_cons] at hbuckets houtcome hfresh
    rw [List.map_cons, List.nodup_cons] at hnodup
    rw [List.map_cons, validateBucketAcknowledgements,
      validateBucketAcknowledgement_acknowledge hbuckets.1 houtcome.1]
    unfold require
    simp only [bind_eq_ok, ensure_eq_ok, exists_const, Except.ok.injEq, exists_eq_left']
    refine ⟨hfresh.1, ih hbuckets.2 houtcome.2 _ ?_ hnodup.2⟩
    intro other hother hmem
    rcases List.mem_cons.mp hmem with heq | hmem
    · exact hnodup.1 (List.mem_map.mpr ⟨other, hother, heq⟩)
    · exact hfresh.2 other hother hmem

end RustyAuth
