/-
  Fleet's ledger of accepted telemetry.

  A batch is refused as a whole by the policy of its organization or by the quota of its
  connection; otherwise each bucket is decided by itself against the clock, the retention and
  the revision that the ledger holds (`bucketOutcome`), and the accepted ones are committed in
  one pipeline.  The caller has checked the batch against the contract.
-/
import RustyAuth.Analytics.Acknowledgement
import RustyAuth.Store.Keys
import Mathlib.Data.List.Sort

namespace RustyAuth

open RustyAuth.Library

/-- The encoding of buckets, as base64url text, and its SHA-256 in hexadecimal. -/
structure LedgerContext where
  encodeBucket : TelemetryBucket → String
  payloadSha256 : TelemetryBucket → String

def i64Max : Int := 2 ^ 63 - 1
def i64Min : Int := -2 ^ 63

/-- The result of a saturating operation on `i64`. -/
def saturateI64 (value : Int) : Int := max i64Min (min value i64Max)

/-- `Uuid::parse_str` on the canonical texts, which are all that a valid batch has. -/
def parseUuid (text : String) : Option Uuid :=
  if canonicalUuid text then
    some ⟨BitVec.ofNat 128 ((text.toList.filter (· ≠ '-')).foldl
      (fun n c => n * 16 + "0123456789abcdef".toList.idxOf c) 0)⟩
  else none

/-! ## Policy and quota -/

namespace FleetAnalyticsPolicyRecord

def defaultDisabled (organizationId : Uuid) : FleetAnalyticsPolicyRecord where
  organizationId
  enabled := false
  canonicalRetentionDays := 35
  residency := .rollupsOnly
  maxBucketsPerMinutePerRealm := 288
  updatedAt := 0
  updatedBy := none

end FleetAnalyticsPolicyRecord

def Db.fleetAnalyticsPolicy (db : Db) (now : Nat) (organizationId : Uuid) :
    FleetAnalyticsPolicyRecord :=
  (db.get now (.fleetAnalyticsPolicy organizationId)).getD (.defaultDisabled organizationId)

def quotaWindowSeconds : Nat := 120

/-- Whether the batch is within the quota of its minute.  A batch that was counted before gets
    the answer it got then, and none while it is pending. -/
def consumeFleetAnalyticsQuota (db : Db) (now : Nat) (connectionId batchId : Uuid)
    (bucketCount limit : Nat) : Bool × List Write :=
  match db.get now (.fleetAnalyticsQuotaBatch connectionId batchId) with
  | some prior => (prior = "allowed", [])
  | none =>
      let counter : Key := .fleetAnalyticsQuota connectionId (now / 60)
      let marker : Key := .fleetAnalyticsQuotaBatch connectionId batchId
      let used := (db.get now (.fleetAnalyticsQuota connectionId (now / 60))).getD 0 + bucketCount
      let allowed : Bool := used ≤ limit
      -- `INCR`, and `EXPIRE` for the first batch of the minute
      let count : Write :=
        if used = bucketCount then .setEx counter used quotaWindowSeconds else .setKeep counter used
      (allowed,
        [.setEx marker "pending" quotaWindowSeconds, count,
          .setEx marker (if allowed then "allowed" else "rejected") quotaWindowSeconds])

/-! ## Decisions -/

def FleetTelemetryBucketRecord.fromBucket (ctx : LedgerContext) (now : Nat)
    (connection : FleetConnectionRecord) (batchId : Uuid) (bucket : TelemetryBucket) :
    FleetTelemetryBucketRecord where
  organizationId := connection.organizationId
  projectId := connection.projectId
  environmentId := connection.environmentId
  connectionId := connection.id
  realmId := bucket.realmId
  assignmentEpoch := bucket.assignmentEpoch
  bucketStartUnixMilliseconds := bucket.bucketStartUnixMilliseconds
  bucketWidthSeconds := bucket.bucketWidthSeconds
  metricSchemaVersion := bucket.metricSchemaVersion.toI32 MetricSchemaVersion.number
  revision := bucket.revision
  firstEventSequence := bucket.firstEventSequence
  lastEventSequence := bucket.lastEventSequence
  batchId
  payloadBase64url := ctx.encodeBucket bucket
  acceptedAt := now

/-- The key of a bucket whose start is not negative. -/
def fleetTelemetryKey (bucket : TelemetryBucket) : Key :=
  .fleetAnalyticsBucket bucket.realmId bucket.assignmentEpoch
    bucket.bucketStartUnixMilliseconds.toNat

def Db.fleetTelemetryBucket (db : Db) (now : Nat) (bucket : TelemetryBucket) :
    Option FleetTelemetryBucketRecord :=
  db.get now (.fleetAnalyticsBucket bucket.realmId bucket.assignmentEpoch
    bucket.bucketStartUnixMilliseconds.toNat)

def acceptanceDecision (existing : Option FleetTelemetryBucketRecord)
    (incoming : FleetTelemetryBucketRecord) : BucketAcknowledgementStatus × BucketRejectionReason :=
  match existing with
  | none => (.accepted, .unspecified)
  | some existing =>
      if incoming.revision < existing.revision then (.rejected, .staleRevision)
      else if incoming.revision = existing.revision then
        if incoming.payloadBase64url = existing.payloadBase64url then (.alreadyAccepted, .unspecified)
        else (.quarantined, .invalidContract)
      else if incoming.lastEventSequence < existing.lastEventSequence then
        (.rejected, .sequenceRegression)
      else (.accepted, .unspecified)

def currentMilliseconds (now : Nat) : Int :=
  saturateI64 ((if (now : Int) ≤ i64Max then (now : Int) else i64Max / 1000) * 1000)

def oldestMilliseconds (now : Nat) (policy : FleetAnalyticsPolicyRecord) : Int :=
  saturateI64 (currentMilliseconds now -
    saturateI64 (saturateI64 (policy.canonicalRetentionDays * 86400) * 1000))

/-- The bucket starts more than ten minutes ahead of the clock. -/
def clockSkewed (now : Nat) (bucket : TelemetryBucket) : Bool :=
  saturateI64 (currentMilliseconds now + 10 * 60 * 1000) < bucket.bucketStartUnixMilliseconds

def outsideRetention (now : Nat) (policy : FleetAnalyticsPolicyRecord) (bucket : TelemetryBucket) :
    Bool :=
  saturateI64 (bucket.bucketStartUnixMilliseconds + bucket.bucketWidthSeconds * 1000) <
    oldestMilliseconds now policy

/-- One call: the clock, the authenticated connection, and identifiers from `Uuid::new_v4`. -/
structure TelemetryCall where
  now : Nat
  connection : FleetConnectionRecord
  newId : Nat → Uuid

section

variable (ctx : LedgerContext) (db : Db) (c : TelemetryCall) (policy : FleetAnalyticsPolicyRecord)
  (batchId : Uuid)

def bucketOutcome (bucket : TelemetryBucket) : BucketAcknowledgementStatus × BucketRejectionReason :=
  if clockSkewed c.now bucket then (.quarantined, .clockSkew)
  else if outsideRetention c.now policy bucket then (.rejected, .resourceLimit)
  else acceptanceDecision (db.fleetTelemetryBucket c.now bucket)
    (.fromBucket ctx c.now c.connection batchId bucket)

/-- The accepted revisions, and the stored records of those accepted before. -/
def mirroredRecord (bucket : TelemetryBucket) : Option FleetTelemetryBucketRecord :=
  match (bucketOutcome ctx db c policy batchId bucket).1 with
  | .accepted => some (.fromBucket ctx c.now c.connection batchId bucket)
  | .alreadyAccepted => db.fleetTelemetryBucket c.now bucket
  | _ => none

def acceptedWrite (bucket : TelemetryBucket) : Option Write :=
  if (bucketOutcome ctx db c policy batchId bucket).1 = .accepted then
    some (.set (fleetTelemetryKey bucket)
      (FleetTelemetryBucketRecord.fromBucket ctx c.now c.connection batchId bucket))
  else none

def quarantineWrite (bucket : TelemetryBucket) (i : Nat) : Option Write :=
  if clockSkewed c.now bucket then
    some (.setEx (.fleetAnalyticsQuarantine (c.newId i))
      { id := c.newId i
        organizationId := c.connection.organizationId
        connectionId := c.connection.id
        realmId := bucket.realmId
        assignmentEpoch := bucket.assignmentEpoch
        bucketStartUnixMilliseconds := bucket.bucketStartUnixMilliseconds
        revision := bucket.revision
        payloadSha256 := ctx.payloadSha256 bucket
        reason := "clock-skew"
        quarantinedAt := c.now } (90 * 86400))
  else none

end

def ingestionAudit (c : TelemetryCall) (batchId : Uuid) (batch : TelemetryBucketBatch)
    (outcome reason : String) : Write :=
  let id := c.newId batch.buckets.length
  .setEx (.fleetAnalyticsIngestionAudit c.now id)
    { id
      organizationId := c.connection.organizationId
      connectionId := c.connection.id
      batchId
      outcome
      reason
      bucketCount := min batch.buckets.length (2 ^ 32 - 1)
      occurredAt := c.now } (90 * 86400)

/-! ## Batches -/

structure AcceptedFleetTelemetryBatch where
  acknowledgement : TelemetryBatchAcknowledgement
  records : List FleetTelemetryBucketRecord

def rejectionAcknowledgement (batch : TelemetryBucketBatch) (status : BucketAcknowledgementStatus)
    (reason : BucketRejectionReason) : TelemetryBatchAcknowledgement where
  batchId := batch.batchId
  buckets := batch.buckets.map fun bucket => acknowledge bucket (status, reason)

/-- A batch that is refused as a whole is audited and changes nothing else. -/
def refuseBatch (c : TelemetryCall) (batchId : Uuid) (batch : TelemetryBucketBatch)
    (rejection : BucketRejectionReason) (reason : String) :
    AcceptedFleetTelemetryBatch × List Write :=
  (⟨rejectionAcknowledgement batch .rejected rejection, []⟩,
    [ingestionAudit c batchId batch "rejected" reason])

/-- The part under the mutation lock. -/
def acceptBuckets (ctx : LedgerContext) (db : Db) (c : TelemetryCall)
    (policy : FleetAnalyticsPolicyRecord) (batchId : Uuid) (batch : TelemetryBucketBatch) :
    AcceptedFleetTelemetryBatch × List Write :=
  let outcome := bucketOutcome ctx db c policy batchId
  let mirrored := batch.buckets.filterMap (mirroredRecord ctx db c policy batchId)
  let quarantines := batch.buckets.zipIdx.filterMap fun (bucket, i) => quarantineWrite ctx c bucket i
  let accepted := batch.buckets.filterMap (acceptedWrite ctx db c policy batchId)
  let (result, reason) :=
    if batch.buckets.any (clockSkewed c.now) then ("quarantined", "clock-skew")
    else if batch.buckets.any (outsideRetention c.now policy) then ("rejected", "outside-retention")
    else if mirrored.isEmpty then ("rejected", "revision-or-sequence")
    else ("accepted", "contract-valid")
  (⟨⟨batch.batchId, batch.buckets.map fun bucket => acknowledge bucket (outcome bucket)⟩, mirrored⟩,
    quarantines ++ accepted ++ [ingestionAudit c batchId batch result reason])

/-- The quota is that of the live connection; an archive has limits of its own. -/
def meterBatch (db : Db) (c : TelemetryCall) (policy : FleetAnalyticsPolicyRecord) (batchId : Uuid)
    (batch : TelemetryBucketBatch) (enforceLiveQuota : Bool) : Bool × List Write :=
  if enforceLiveQuota then
    consumeFleetAnalyticsQuota db c.now c.connection.id batchId batch.buckets.length
      policy.maxBucketsPerMinutePerRealm
  else (true, [])

def acceptFleetTelemetryBatchInternal (ctx : LedgerContext) (db : Db) (c : TelemetryCall)
    (batch : TelemetryBucketBatch) (enforceLiveQuota : Bool) :
    Option (AcceptedFleetTelemetryBatch × List Write) := do
  let batchId ← parseUuid batch.batchId
  let policy := db.fleetAnalyticsPolicy c.now c.connection.organizationId
  if policy.enabled = false then
    return refuseBatch c batchId batch .policyDisabled "policy-disabled"
  else
    let (allowed, metering) := meterBatch db c policy batchId batch enforceLiveQuota
    if allowed = false then
      let (refused, audit) := refuseBatch c batchId batch .resourceLimit "realm-minute-quota"
      return (refused, metering ++ audit)
    else
      let (accepted, writes) := acceptBuckets ctx (commit c.now db metering) c policy batchId batch
      return (accepted, metering ++ writes)

/-! ## Queries

A query selects by tenant, connection and time, and answers in the order of the records; the
ledger as a whole is bounded, not the selection. -/

structure TelemetryQuery where
  organizationId : Option Uuid
  projectId : Option Uuid
  environmentId : Option Uuid
  connectionId : Option Uuid
  realmId : Option String
  startsAtUnixMilliseconds : Int
  endsAtUnixMilliseconds : Int

def TelemetryQuery.selects (q : TelemetryQuery) (record : FleetTelemetryBucketRecord) : Bool :=
  q.organizationId.all (record.organizationId = ·) && q.projectId.all (record.projectId = ·) &&
    q.environmentId.all (record.environmentId = ·) && q.connectionId.all (record.connectionId = ·) &&
    q.realmId.all (record.realmId = ·) &&
    q.startsAtUnixMilliseconds ≤ record.bucketStartUnixMilliseconds &&
    record.bucketStartUnixMilliseconds < q.endsAtUnixMilliseconds

def maxFleetAnalyticsQueryRecords : Nat := 100000

def ledgerRecord : Sigma Value → Option FleetTelemetryBucketRecord
  | ⟨.fleetAnalyticsBucket _ _ _, record⟩ => some record
  | _ => none

/-- The records of the ledger, of all tenants. -/
def Db.fleetTelemetryLedger (db : Db) (now : Nat) : List FleetTelemetryBucketRecord :=
  (db.scan now).filterMap ledgerRecord

/-- The order of the answer: by start, then connection, then epoch. -/
def SortsBefore (a b : FleetTelemetryBucketRecord) : Prop :=
  a.bucketStartUnixMilliseconds < b.bucketStartUnixMilliseconds ∨
    a.bucketStartUnixMilliseconds = b.bucketStartUnixMilliseconds ∧
      (a.connectionId.bits < b.connectionId.bits ∨
        a.connectionId.bits = b.connectionId.bits ∧ a.assignmentEpoch ≤ b.assignmentEpoch)

instance (a b : FleetTelemetryBucketRecord) : Decidable (SortsBefore a b) :=
  inferInstanceAs (Decidable (_ ∨ _ ∧ (_ ∨ _ ∧ _)))

/-- The limit is on the whole ledger, not on what is selected. -/
def Db.fleetTelemetryBuckets (db : Db) (now : Nat) (q : TelemetryQuery) :
    Except String (List FleetTelemetryBucketRecord) :=
  if maxFleetAnalyticsQueryRecords < (db.fleetTelemetryLedger now).length then
    .error "Fleet analytics ledger exceeds the bounded V1 query limit"
  else .ok (((db.fleetTelemetryLedger now).filter q.selects).insertionSort SortsBefore)

end RustyAuth
