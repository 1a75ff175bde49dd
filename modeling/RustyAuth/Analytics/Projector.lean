/-
  The analytics projector.

  `projectAnalyticsEvents` reads the next events of the log, counts each in its
  five-minute bucket, closes the buckets whose time has passed, and queues a validated
  batch for every closed one.  Everything it changes (buckets, outbox, both cursors) is
  one atomic batch of writes, returned beside the result; a call that fails returns no
  writes at all.
-/
import RustyAuth.Analytics.Contract
import RustyAuth.Store.Events
import Mathlib.Data.List.Sort

namespace RustyAuth

open RustyAuth.Library
open Std (TreeMap TreeSet)

def maxProjectionBatch : Nat := 10000
def closeGraceSeconds : Nat := 120
def maxOutboxRecords : Nat := maxBucketsPerBatch

structure ProjectionResult where
  eventsScanned : Nat
  eventsContributed : Nat
  bucketsWritten : Nat
  outboxRecordsWritten : Nat
deriving DecidableEq

inductive ProjectionError
  | log (error : EventLogError)
  -- "validate projected telemetry batch"
  | contract (error : AnalyticsContractError)
  -- "commit analytics projection"
  | commitFailed
deriving DecidableEq

/-- A call: its arguments, the clock, and the identifiers drawn for the batches it queues,
    by bucket start. -/
structure ProjectorCall where
  realmId : String
  limit : Nat
  now : Nat
  batchId : Nat → Uuid

abbrev OutboxKey := Nat × Nat

/-- Outbox keys are zero-padded, so their texts are ordered by start, then revision. -/
def outboxCompare : OutboxKey → OutboxKey → Ordering :=
  compareLex (compareOn Prod.fst) (compareOn Prod.snd)

abbrev OutboxKeys := TreeSet OutboxKey outboxCompare

abbrev Buckets := TreeMap Nat LocalMetricBucket

/-- The buckets in the order of their starts. -/
def valuesOf (buckets : Buckets) : List LocalMetricBucket := buckets.toList.map Prod.snd

namespace Db

/-- Live grants that may export telemetry, newest first. -/
def realmTelemetryExportGrants (db : Db) (now : Nat) : List RealmFleetGrantRecord :=
  let grants := (db.scan now).filterMap fun
    | ⟨.fleetGrant _, grant⟩ => some grant
    | _ => none
  (grants.filter fun grant =>
      grant.revokedAt.isNone && decide (now < grant.expiresAt) &&
        grant.grantedScopes.contains "telemetry.export").insertionSort
    fun a b => b.createdAt ≤ a.createdAt

def telemetryOutboxKeys (db : Db) (now : Nat) : OutboxKeys :=
  (db.keys now).foldl (fun keys key =>
    match key with
    | .analyticsOutbox start revision => keys.insert (start, revision)
    | _ => keys) ∅

/-- Where a call starts: the stored cursor, or just before the oldest retained event. -/
def projectorStart (db : Db) (now : Nat) : Nat :=
  (db.get now .analyticsProjectorCursor).getD (db.minimumEventSequence now - 1)

end Db

/-! ## Counting a batch of events -/

/-- The bucket an event falls into: touched already, stored, or new. -/
def loadBucket (db : Db) (now : Nat) (touched : Buckets) (start : Nat) : LocalMetricBucket :=
  (touched[start]?.or (db.get now (.analyticsBucket start))).getD (.new start)

/-- A contribution to a closed bucket makes a new revision of it. -/
def countInto (bucket : LocalMetricBucket) (event : AuthEvent) : LocalMetricBucket × Bool :=
  let applied := bucket.apply event
  if applied.2 ∧ bucket.closed then
    ({ applied.1 with revision := max (satAdd applied.1.revision 1) 2 }, applied.2)
  else applied

def touchEvent (db : Db) (now : Nat) (acc : Buckets × Nat) (event : AuthEvent) : Buckets × Nat :=
  let start := alignedBucketStart event.occurredAt
  let counted := countInto (loadBucket db now acc.1 start) event
  (acc.1.insert start counted.1, acc.2 + counted.2.toNat)

def touchEvents (db : Db) (now : Nat) (events : List AuthEvent) : Buckets × Nat :=
  events.foldl (touchEvent db now) (∅, 0)

/-! ## Closing buckets -/

def closureBefore (now : Nat) : Nat := now - closeGraceSeconds

def latestClosable (now : Nat) : Nat := alignedBucketStart (closureBefore now - bucketWidthSecondsV1)

/-- Visit the bucket starts after the closure cursor, loading those that are stored. -/
def walkClosures (db : Db) (now : Nat) : Nat → Nat → Buckets → Nat × Buckets
  | 0, cursor, touched => (cursor, touched)
  | fuel + 1, cursor, touched =>
      let candidate := satAdd cursor bucketWidthSecondsV1
      if latestClosable now < candidate then (cursor, touched)
      else
        let touched :=
          match touched[candidate]?, db.get now (.analyticsBucket candidate) with
          | none, some record => touched.insert candidate record
          | _, _ => touched
        walkClosures db now fuel candidate touched

def closeDue (now : Nat) (bucket : LocalMetricBucket) : LocalMetricBucket :=
  if satAdd bucket.bucketStart bucketWidthSecondsV1 ≤ closureBefore now then
    { bucket with closed := true }
  else bucket

/-! ## Queueing closed buckets -/

/-- The pipeline under construction. -/
structure Export where
  writes : List Write
  retained : OutboxKeys
  bucketsWritten : Nat
  outboxRecordsWritten : Nat

def batchOf (call : ProjectorCall) (assignmentEpoch : Nat) (bucket : LocalMetricBucket) :
    TelemetryBucketBatch where
  transportSchemaVersion := transportSchemaVersionV1
  batchId := (call.batchId bucket.bucketStart).text
  realmId := call.realmId
  buckets := [bucket.toTelemetryBucket call.realmId assignmentEpoch]

/-- The outbox part of a closed bucket whose revision is not queued yet: it supersedes
    the queued older ones. -/
def queueBucket (call : ProjectorCall) (assignmentEpoch : Nat) (existing : OutboxKeys)
    (acc : Export) (bucket : LocalMetricBucket) : ContractResult Export := do
  let batch := batchOf call assignmentEpoch bucket
  validateBatch batch
  let record : TelemetryOutboxRecord :=
    { bucketStart := bucket.bucketStart, revision := bucket.revision,
      batchId := call.batchId bucket.bucketStart, payload := batch,
      firstQueuedAt := call.now, attempts := 0, nextAttemptAt := 0 }
  let prior := existing.toList.filter fun key =>
    key.1 = bucket.bucketStart ∧ key ≠ (bucket.bucketStart, bucket.revision)
  return { acc with
    writes := acc.writes ++ prior.map (fun key => .del (.analyticsOutbox key.1 key.2)) ++
      [.set (.analyticsOutbox bucket.bucketStart bucket.revision) record]
    retained := (prior.foldl (fun keys key => keys.erase key) acc.retained).insert
      (bucket.bucketStart, bucket.revision)
    outboxRecordsWritten := acc.outboxRecordsWritten + 1 }

def exportBucket (db : Db) (call : ProjectorCall) (assignmentEpoch : Nat) (existing : OutboxKeys)
    (acc : Export) (bucket : LocalMetricBucket) : ContractResult Export :=
  let acc :=
    { acc with
      writes := acc.writes ++ [.set (.analyticsBucket bucket.bucketStart) bucket]
      bucketsWritten := acc.bucketsWritten + 1 }
  if bucket.closed ∧
      (db.get call.now (.analyticsOutbox bucket.bucketStart bucket.revision)).isNone then
    queueBucket call assignmentEpoch existing acc bucket
  else return acc

def outboxKeysToTrim (keys : OutboxKeys) : List OutboxKey :=
  keys.toList.take (keys.size - maxOutboxRecords)

/-! ## One call -/

/-- The buckets a call writes, and the closure cursor it leaves. -/
def touchedBuckets (db : Db) (now : Nat) (events : List AuthEvent) : Nat × Buckets :=
  let walked := walkClosures db now maxProjectionBatch
    ((db.get now .analyticsClosureCursor).getD (latestClosable now - bucketWidthSecondsV1))
    (touchEvents db now events).1
  (walked.1, walked.2.map fun _ => closeDue now)

/-- The cursors move with the buckets; one that does not change is not written. -/
def cursorWrites (db : Db) (now : Nat) (events : List AuthEvent) (closureCursor : Nat) :
    List Write :=
  (match events.getLast?, db.get now .analyticsProjectorCursor with
    | some last, _ => [.set .analyticsProjectorCursor last.sequence]
    | none, none => [.set .analyticsProjectorCursor (db.projectorStart now)]
    | none, some _ => []) ++
  (if db.get now .analyticsClosureCursor = some closureCursor then []
    else [.set .analyticsClosureCursor closureCursor])

def exportBuckets (db : Db) (call : ProjectorCall) (touched : Buckets) : ContractResult Export :=
  -- open buckets need neither the assignment nor the outbox
  let buckets := valuesOf touched
  let anyClosed := buckets.any (·.closed)
  let assignmentEpoch :=
    if anyClosed then
      ((db.realmTelemetryExportGrants call.now).head?.map (·.assignmentEpoch)).getD 1
    else 1
  let existing := if anyClosed then db.telemetryOutboxKeys call.now else ∅
  buckets.foldlM (exportBucket db call assignmentEpoch existing) ⟨[], existing, 0, 0⟩

/-- `limit.clamp(1, MAX_PROJECTION_BATCH)`. -/
def ProjectorCall.batch (call : ProjectorCall) : Nat := max 1 (min call.limit maxProjectionBatch)

/-- The range of events a call reads. -/
def projectedEvents (db : Db) (call : ProjectorCall) : Except EventLogError (List AuthEvent) :=
  db.events call.now (db.projectorStart call.now) call.batch

def projectAnalyticsEvents (db : Db) (call : ProjectorCall) :
    Except ProjectionError (ProjectionResult × List Write) := do
  let events ← (projectedEvents db call).mapError .log
  if events = [] ∧ (db.get call.now .analyticsProjectorCursor).isSome ∧
      db.get call.now .analyticsClosureCursor = some (latestClosable call.now) then
    return (⟨0, 0, 0, 0⟩, [])
  else
    let touched := touchedBuckets db call.now events
    let exported ← (exportBuckets db call touched.2).mapError .contract
    return (⟨events.length, (touchEvents db call.now events).2, exported.bucketsWritten,
        exported.outboxRecordsWritten⟩,
      exported.writes ++
        (outboxKeysToTrim exported.retained).map (fun key => .del (.analyticsOutbox key.1 key.2)) ++
        cursorWrites db call.now events touched.1)

/-- A call as its caller sees it: the answer and the database it leaves.  `accepted` is
    whether the store takes the batch; an empty one is not sent. -/
def runProjection (db : Db) (call : ProjectorCall) (accepted : Bool) :
    Except ProjectionError ProjectionResult × Db :=
  match projectAnalyticsEvents db call with
  | .error e => (.error e, db)
  | .ok (result, writes) =>
      if accepted ∨ writes = [] then (.ok result, commit call.now db writes)
      else (.error .commitFailed, db)

end RustyAuth
