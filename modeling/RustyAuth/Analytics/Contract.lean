/-
  The analytics wire contract.

  `validateBatch` is what both ends ask of a batch of telemetry buckets: bounded
  counters, totals that equal the sum of their outcomes, cumulative histograms that agree
  with their counts, and a registration funnel in which no stage exceeds the one before.
-/
import RustyAuth.Analytics.Bucket
import RustyAuth.Library.Outcome

namespace RustyAuth

open RustyAuth.Library

inductive AnalyticsContractError
  | invalid (field reason : String)
  | aggregateOverflow
deriving DecidableEq

abbrev ContractResult := Except AnalyticsContractError

def transportSchemaVersionV1 : Nat := 1
def bucketWidthMillisecondsV1 : Int := 300000
def maxBucketsPerBatch : Nat := 288
def maxBatchWireBytes : Nat := 256 * 1024
def maxCounterPerBucket : Nat := 1000000000

/-- `24 * 60 * 60 * 1_000` milliseconds, the most one observation may add to a sum. -/
def maxLatencyMilliseconds : Nat := 86400000

/-! ## Small checks -/

def require (condition : Prop) [Decidable condition] (field reason : String) : ContractResult Unit :=
  ensure condition (.invalid field reason)

def checkedAdd (left right : Nat) : ContractResult Nat :=
  if left + right ≤ u64Max then .ok (left + right) else .error .aggregateOverflow

def validateCounter (field : String) (value : Nat) : ContractResult Unit :=
  require (value ≤ maxCounterPerBucket) field "value exceeds the V1 per-bucket bound"

def validateCounters (values : List (String × Nat)) : ContractResult Unit :=
  forEach values fun (field, value) => validateCounter field value

def sumParts : List Nat → Nat → ContractResult Nat
  | [], sum => return sum
  | part :: parts, sum => do
      let sum ← checkedAdd sum part
      sumParts parts sum

def requireSum (total : Nat) (parts : List Nat) (field : String) : ContractResult Unit := do
  let sum ← sumParts parts 0
  require (total = sum) field "total does not equal its bounded outcomes"

def hyphenatedUuid (digits : String) (text : List Char) : Bool :=
  text.length == 36 && text.zipIdx.all fun (c, i) =>
    if i ∈ [8, 13, 18, 23] then c == '-' else digits.toList.contains c

def hexDigits : String := "0123456789abcdefABCDEF"

/-- The texts `Uuid::parse_str` reads: hyphenated, in braces, as a URN, or without hyphens. -/
def parsesUuid (text : List Char) : Bool :=
  hyphenatedUuid hexDigits text ||
    text.head? == some '\x7b' && text.getLast? == some '\x7d' &&
      hyphenatedUuid hexDigits text.tail.dropLast ||
    text.take 9 == "urn:uuid:".toList && hyphenatedUuid hexDigits (text.drop 9) ||
    text.length == 32 && text.all hexDigits.toList.contains

/-- Those it writes back unchanged. -/
def canonicalUuid (value : String) : Bool := hyphenatedUuid "0123456789abcdef" value.toList

def validateUuid (value field : String) : ContractResult Unit := do
  require (parsesUuid value.toList) field "must be a canonical UUID"
  require (canonicalUuid value) field "must be a lowercase canonical UUID"

def realmIdChar (c : Char) : Bool := c.isAlphanum || c == '-' || c == '_'

def validateRealmId (value field : String) : ContractResult Unit :=
  require (value ≠ "" ∧ value.utf8ByteSize ≤ 64 ∧ value.toList.all realmIdChar) field
    "must be a 1-64 character stable realm identifier"

def validateBucketStart (value : Int) (field : String) : ContractResult Unit :=
  require (0 ≤ value ∧ value % bucketWidthMillisecondsV1 = 0) field
    "must be a non-negative UTC-aligned five-minute instant"

def validateSequenceRange (first last : Nat) (field : String) : ContractResult Unit :=
  require (first = 0 ∧ last = 0 ∨ 0 < first ∧ first ≤ last) field
    "sequences must both be zero or form an ordered positive range"

/-! ## Histograms -/

def histogramUpperBoundsMilliseconds : HistogramProfile → Option (List Nat)
  | .interactiveMillisecondsV1 => some interactiveLatencyBoundsMillisecondsV1
  | .deliveryMillisecondsV1 => some deliveryLatencyBoundsMillisecondsV1
  | .unspecified => none

/-- Each cumulative count is bounded and at least the one before; answers the last. -/
def checkCumulative (field : String) (count : Nat) : List Nat → Nat → ContractResult Nat
  | [], previous => return previous
  | c :: counts, previous => do
      validateCounter field c
      require (previous ≤ c ∧ c ≤ count) field
        "cumulative histogram counts must be monotonic and bounded by count"
      checkCumulative field count counts c

def validateHistogram (histogram : Option LatencyHistogram) (expectedProfile : HistogramProfile)
    (expectedCount : Nat) (field : String) : ContractResult Unit := do
  let histogram ← okOr histogram (.invalid field "histogram is required")
  require (histogram.profile.asKnown = some expectedProfile) field
    "histogram profile is unknown or invalid for this metric family"
  validateCounter field histogram.count
  require (histogram.count = expectedCount) field
    "histogram count must equal the metric event count"
  let boundaries := (histogramUpperBoundsMilliseconds expectedProfile).getD []
  require (histogram.cumulativeCounts.length = boundaries.length + 1) field
    "histogram must contain every fixed boundary and the +Inf count"
  let last ← checkCumulative field histogram.count histogram.cumulativeCounts 0
  require (last = histogram.count) field "the +Inf cumulative count must equal count"
  require (histogram.sumMilliseconds ≤ histogram.count * maxLatencyMilliseconds) field
    "histogram sum exceeds the V1 per-event bound"

/-! ## Authentication -/

/-- The totals of the flow breakdown. -/
structure FlowTotals where
  attempts : Nat
  successes : Nat
  failures : Nat
  denials : Nat
deriving DecidableEq

def FlowTotals.add (t : FlowTotals) (flow : AuthenticationFlowCount) : ContractResult FlowTotals := do
  let attempts ← checkedAdd t.attempts flow.attempts
  let successes ← checkedAdd t.successes flow.successes
  let failures ← checkedAdd t.failures flow.failures
  let denials ← checkedAdd t.denials flow.denials
  return { attempts, successes, failures, denials }

def checkFlows : List AuthenticationFlowCount → List AuthenticationFlow → FlowTotals →
    ContractResult FlowTotals
  | [], _, totals => return totals
  | flow :: flows, kinds, totals => do
      let kind ← okOr flow.flow.asKnown
        (.invalid "authentication_flow_count.flow" "authentication flow must be known")
      require (kind ≠ .unspecified) "authentication_flow_count.flow"
        "authentication flow must be specified"
      require (kind ∉ kinds) "authentication_metrics.flows"
        "authentication flow appears more than once"
      validateCounters [
        ("authentication_flow_count.attempts", flow.attempts),
        ("authentication_flow_count.successes", flow.successes),
        ("authentication_flow_count.failures", flow.failures),
        ("authentication_flow_count.denials", flow.denials)]
      requireSum flow.attempts [flow.successes, flow.failures, flow.denials]
        "authentication_flow_count.attempts"
      let totals ← totals.add flow
      checkFlows flows (kind :: kinds) totals

def checkFailures : List AuthenticationFailureCount → List FailureClass → Nat → ContractResult Nat
  | [], _, total => return total
  | failure :: failures, classes, total => do
      let failureClass ← okOr failure.failureClass.asKnown
        (.invalid "authentication_failure_count.failure_class" "failure class must be known")
      require (failureClass ≠ .unspecified) "authentication_failure_count.failure_class"
        "failure class must be specified"
      require (failureClass ∉ classes) "authentication_metrics.failure_classes"
        "failure class appears more than once"
      validateCounter "authentication_failure_count.count" failure.count
      let total ← checkedAdd total failure.count
      checkFailures failures (failureClass :: classes) total

def validateAuthentication (metrics : AuthenticationMetrics) : ContractResult Unit := do
  validateCounters [
    ("authentication_metrics.attempts", metrics.attempts),
    ("authentication_metrics.successes", metrics.successes),
    ("authentication_metrics.failures", metrics.failures),
    ("authentication_metrics.denials", metrics.denials),
    ("authentication_metrics.active_account_observations", metrics.activeAccountObservations)]
  requireSum metrics.attempts [metrics.successes, metrics.failures, metrics.denials]
    "authentication_metrics.attempts"
  validateHistogram metrics.latency .interactiveMillisecondsV1 metrics.attempts
    "authentication_metrics.latency"
  let totals ← checkFlows metrics.flows [] ⟨0, 0, 0, 0⟩
  require (totals = ⟨metrics.attempts, metrics.successes, metrics.failures, metrics.denials⟩)
    "authentication_metrics.flows" "flow breakdown must exactly match authentication totals"
  let failureTotal ← checkFailures metrics.failureClasses [] 0
  let rejected ← checkedAdd metrics.failures metrics.denials
  require (failureTotal = rejected) "authentication_metrics.failure_classes"
    "failure breakdown must exactly match failures plus denials"

/-! ## The other families -/

def validateRegistration (metrics : RegistrationMetrics) : ContractResult Unit := do
  validateCounters [
    ("registration_metrics.options_started", metrics.optionsStarted),
    ("registration_metrics.ceremonies_opened", metrics.ceremoniesOpened),
    ("registration_metrics.responses_returned", metrics.responsesReturned),
    ("registration_metrics.registrations_completed", metrics.registrationsCompleted),
    ("registration_metrics.challenges_expired", metrics.challengesExpired)]
  require (metrics.ceremoniesOpened ≤ metrics.optionsStarted ∧
      metrics.responsesReturned ≤ metrics.ceremoniesOpened ∧
      metrics.registrationsCompleted ≤ metrics.responsesReturned)
    "registration_metrics" "funnel stages must be monotonically non-increasing"

def validateSessions (metrics : SessionTokenMetrics) : ContractResult Unit :=
  validateCounters [
    ("session_token_metrics.sessions_created", metrics.sessionsCreated),
    ("session_token_metrics.sessions_revoked", metrics.sessionsRevoked),
    ("session_token_metrics.user_tokens_issued", metrics.userTokensIssued),
    ("session_token_metrics.service_tokens_issued", metrics.serviceTokensIssued)]

def validateServiceAccounts (metrics : ServiceAccountMetrics) : ContractResult Unit := do
  validateCounters [
    ("service_account_metrics.calls", metrics.calls),
    ("service_account_metrics.successes", metrics.successes),
    ("service_account_metrics.failures", metrics.failures),
    ("service_account_metrics.denials", metrics.denials),
    ("service_account_metrics.credential_rotations", metrics.credentialRotations)]
  requireSum metrics.calls [metrics.successes, metrics.failures, metrics.denials]
    "service_account_metrics.calls"

def validateWebhooks (metrics : WebhookMetrics) : ContractResult Unit := do
  validateCounters [
    ("webhook_metrics.deliveries", metrics.deliveries),
    ("webhook_metrics.successes", metrics.successes),
    ("webhook_metrics.failures", metrics.failures),
    ("webhook_metrics.backlog", metrics.backlog)]
  requireSum metrics.deliveries [metrics.successes, metrics.failures] "webhook_metrics.deliveries"
  validateHistogram metrics.latency .deliveryMillisecondsV1 metrics.deliveries
    "webhook_metrics.latency"

def validatePlatform (metrics : PlatformMetrics) : ContractResult Unit := do
  validateCounters [
    ("platform_metrics.api_requests", metrics.apiRequests),
    ("platform_metrics.api_errors", metrics.apiErrors),
    ("platform_metrics.sabledb_operations", metrics.sabledbOperations),
    ("platform_metrics.sabledb_errors", metrics.sabledbErrors)]
  require (metrics.apiErrors ≤ metrics.apiRequests) "platform_metrics.api_errors"
    "errors cannot exceed requests"
  require (metrics.sabledbErrors ≤ metrics.sabledbOperations) "platform_metrics.sabledb_errors"
    "errors cannot exceed operations"
  validateHistogram metrics.apiLatency .interactiveMillisecondsV1 metrics.apiRequests
    "platform_metrics.api_latency"
  validateHistogram metrics.sabledbLatency .interactiveMillisecondsV1 metrics.sabledbOperations
    "platform_metrics.sabledb_latency"

def validateRealmHealth (metrics : RealmHealthMetrics) : ContractResult Unit := do
  require (metrics.servingState.asKnown ∈ [some .healthy, some .degraded, some .unavailable])
    "realm_health_metrics.serving_state" "serving state must be known and specified"
  validateCounters [
    ("realm_health_metrics.backup_age_seconds", metrics.backupAgeSeconds),
    ("realm_health_metrics.signing_key_age_seconds", metrics.signingKeyAgeSeconds),
    ("realm_health_metrics.connector_lag_seconds", metrics.connectorLagSeconds)]

/-! ## Buckets and batches -/

/-- Check a family that is set. -/
def validateFamily {M : Type} (validate : M → ContractResult Unit) : Option M → ContractResult Unit
  | some metrics => validate metrics
  | none => return ()

def familyCount (bucket : TelemetryBucket) : Nat :=
  [bucket.authentication.isSome, bucket.registration.isSome, bucket.sessionsAndTokens.isSome,
    bucket.serviceAccounts.isSome, bucket.webhooks.isSome, bucket.platform.isSome,
    bucket.realmHealth.isSome].count true

def validateBucket (bucket : TelemetryBucket) : ContractResult Unit := do
  validateRealmId bucket.realmId "telemetry_bucket.realm_id"
  require (0 < bucket.assignmentEpoch) "telemetry_bucket.assignment_epoch"
    "assignment epoch must be positive"
  validateBucketStart bucket.bucketStartUnixMilliseconds
    "telemetry_bucket.bucket_start_unix_milliseconds"
  require (bucket.bucketWidthSeconds = bucketWidthSecondsV1) "telemetry_bucket.bucket_width_seconds"
    "V1 buckets are exactly five minutes"
  require (0 < bucket.revision) "telemetry_bucket.revision" "revision must be positive"
  validateSequenceRange bucket.firstEventSequence bucket.lastEventSequence
    "telemetry_bucket.event_sequence"
  require (bucket.metricSchemaVersion.asKnown = some .v1) "telemetry_bucket.metric_schema_version"
    "unsupported metric schema"
  require (bucket.closed = true) "telemetry_bucket.closed" "V1 transports finalized buckets only"
  require (0 < familyCount bucket) "telemetry_bucket"
    "bucket must contain at least one metric family"
  validateFamily validateAuthentication bucket.authentication
  validateFamily validateRegistration bucket.registration
  validateFamily validateSessions bucket.sessionsAndTokens
  validateFamily validateServiceAccounts bucket.serviceAccounts
  validateFamily validateWebhooks bucket.webhooks
  validateFamily validatePlatform bucket.platform
  validateFamily validateRealmHealth bucket.realmHealth

/-- What identifies a bucket inside a batch. -/
def bucketKey (bucket : TelemetryBucket) : Nat × Int × Nat × Int :=
  (bucket.assignmentEpoch, bucket.bucketStartUnixMilliseconds, bucket.bucketWidthSeconds,
    bucket.metricSchemaVersion.toI32 MetricSchemaVersion.number)

def validateBuckets (realmId : String) : List TelemetryBucket → List (Nat × Int × Nat × Int) →
    ContractResult Unit
  | [], _ => return ()
  | bucket :: buckets, keys => do
      require (bucket.realmId = realmId) "telemetry_bucket.realm_id"
        "bucket realm does not match authenticated batch realm"
      validateBucket bucket
      require (bucketKey bucket ∉ keys) "telemetry_bucket_batch.buckets"
        "batch contains more than one snapshot for the same bucket key"
      validateBuckets realmId buckets (bucketKey bucket :: keys)

def validateBatch (batch : TelemetryBucketBatch) : ContractResult Unit := do
  require (batch.transportSchemaVersion = transportSchemaVersionV1)
    "telemetry_bucket_batch.transport_schema_version" "unsupported transport schema"
  validateUuid batch.batchId "telemetry_bucket_batch.batch_id"
  validateRealmId batch.realmId "telemetry_bucket_batch.realm_id"
  require (batch.buckets ≠ []) "telemetry_bucket_batch.buckets"
    "batch must contain at least one bucket"
  require (batch.buckets.length ≤ maxBucketsPerBatch) "telemetry_bucket_batch.buckets"
    "batch exceeds the V1 bucket limit"
  require (batch.encodedLen ≤ maxBatchWireBytes) "telemetry_bucket_batch"
    "encoded batch exceeds the V1 wire limit"
  validateBuckets batch.realmId batch.buckets []

/-! ### What a valid batch is -/

theorem validateBuckets_eq_ok {realmId : String} (buckets : List TelemetryBucket) :
    ∀ keys, validateBuckets realmId buckets keys = .ok () ↔
      (∀ bucket ∈ buckets, bucket.realmId = realmId ∧ validateBucket bucket = .ok () ∧
        bucketKey bucket ∉ keys) ∧ (buckets.map bucketKey).Nodup := by
  induction buckets with
  | nil =>
    intro keys
    simp [validateBuckets]
  | cons bucket buckets ih =>
    intro keys
    unfold validateBuckets require
    simp only [bind_unit_eq_ok, ensure_eq_ok, ih, List.forall_mem_cons, List.map_cons,
      List.nodup_cons]
    constructor
    · rintro ⟨hrealm, hvalid, hfresh, hrest, hnodup⟩
      refine ⟨⟨⟨hrealm, hvalid, hfresh⟩, fun other hother => ?_⟩, fun hmem => ?_, hnodup⟩
      · obtain ⟨hother, hothervalid, hnot⟩ := hrest other hother
        exact ⟨hother, hothervalid, fun hmem => hnot (List.mem_cons_of_mem _ hmem)⟩
      · obtain ⟨other, hother, hkey⟩ := List.mem_map.mp hmem
        exact (hrest other hother).2.2 (hkey ▸ List.mem_cons_self)
    · rintro ⟨⟨⟨hrealm, hvalid, hfresh⟩, hrest⟩, hnot, hnodup⟩
      refine ⟨hrealm, hvalid, hfresh, fun other hother => ?_, hnodup⟩
      obtain ⟨hother', hothervalid, hkeys⟩ := hrest other hother
      refine ⟨hother', hothervalid, fun hmem => ?_⟩
      rcases List.mem_cons.mp hmem with hkey | hmem
      · exact hnot (List.mem_map.mpr ⟨other, hother, hkey⟩)
      · exact hkeys hmem

@[simp] theorem require_eq_ok (p : Prop) [Decidable p] (field reason : String) (u : Unit) :
    require p field reason = .ok u ↔ p :=
  ensure_eq_ok p _ u

theorem parsesUuid_of_canonicalUuid {value : String} (h : canonicalUuid value = true) :
    parsesUuid value.toList = true := by
  have hdigits : "0123456789abcdef".toList ⊆ hexDigits.toList := by decide
  simp only [parsesUuid, canonicalUuid, hyphenatedUuid, Bool.or_eq_true, Bool.and_eq_true,
    List.all_eq_true] at h ⊢
  refine Or.inl (Or.inl (Or.inl ⟨h.1, fun entry hentry => ?_⟩))
  have hplace := h.2 entry hentry
  split at hplace <;> rename_i hi
  · rw [if_pos hi]
    exact hplace
  · rw [if_neg hi]
    exact List.contains_iff_mem.mpr (hdigits (List.contains_iff_mem.mp hplace))

theorem validateUuid_eq_ok (value field : String) (u : Unit) :
    validateUuid value field = .ok u ↔ canonicalUuid value = true := by
  unfold validateUuid
  simp only [bind_unit_eq_ok, require_eq_ok]
  exact ⟨And.right, fun h => ⟨parsesUuid_of_canonicalUuid h, h⟩⟩

structure ValidBatch (batch : TelemetryBucketBatch) : Prop where
  batchId : canonicalUuid batch.batchId = true
  nonempty : batch.buckets ≠ []
  bounded : batch.buckets.length ≤ maxBucketsPerBatch
  realms : ∀ bucket ∈ batch.buckets, bucket.realmId = batch.realmId
  buckets : ∀ bucket ∈ batch.buckets, validateBucket bucket = .ok ()
  distinct : (batch.buckets.map bucketKey).Nodup

theorem validBatch_of_validateBatch {batch : TelemetryBucketBatch}
    (h : validateBatch batch = .ok ()) : ValidBatch batch := by
  unfold validateBatch require at h
  simp only [bind_unit_eq_ok, ensure_eq_ok, validateBuckets_eq_ok, validateUuid_eq_ok] at h
  obtain ⟨_, hid, _, hnonempty, hbounded, _, heach, hdistinct⟩ := h
  exact ⟨hid, hnonempty, hbounded, fun bucket hb => (heach bucket hb).1,
    fun bucket hb => (heach bucket hb).2.1, hdistinct⟩

@[simp] theorem validateCounter_eq_ok (field : String) (value : Nat) (u : Unit) :
    validateCounter field value = .ok u ↔ value ≤ maxCounterPerBucket :=
  require_eq_ok _ _ _ u

end RustyAuth
