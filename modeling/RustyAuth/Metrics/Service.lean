/-
  The metrics service of a realm: overview and series over its own five-minute buckets.

  A query reads the buckets of its range with one `MGET` and adds them up, counter by counter:
  `overview` over all of them, `querySeries` over the buckets of each point.  Latencies are
  merged as histograms, and a percentile is the bound of the first slot that reaches the rank.

  The text of a timestamp is left to `Rfc3339`.  A value of a series is an `f64` made from an
  integer, so it is an integer itself: the nearest one with 53 significant bits (`asF64`).
-/
import RustyAuth.Analytics.Rollup
import RustyAuth.Library.Groups
import RustyAuth.Store.Keys
import RustyAuth.Rpc.Errors
import Mathlib.Data.List.Sort

namespace RustyAuth

open RustyAuth.Library

/-! ## The buckets of a range -/

def maxQueryBuckets : Nat := 8064

/-- The starts `first..=last` in steps of a bucket. -/
def bucketStarts (startsAt endsAt : Nat) : List Nat :=
  let first := alignedBucketStart startsAt
  let last := alignedBucketStart (endsAt - 1)
  List.range' first ((last - first) / bucketWidthSecondsV1 + 1) bucketWidthSecondsV1

def Db.analyticsBuckets (db : Db) (now startsAt endsAt : Nat) :
    Except String (List LocalMetricBucket) := do
  if endsAt ≤ startsAt then
    return []
  let starts := bucketStarts startsAt endsAt
  ensure (¬maxQueryBuckets < starts.length)
    "analytics query exceeds the 28-day five-minute bucket limit"
  let buckets := starts.filterMap fun start => db.get now (.analyticsBucket start)
  return (buckets.map LocalMetricBucket.normalize).insertionSort (·.bucketStart ≤ ·.bucketStart)

/-- Deliveries by creation, then by identifier. -/
def Db.webhookDeliveries (db : Db) (now : Nat) : List WebhookDeliveryRecord :=
  ((db.scan now).filterMap fun
    | ⟨.webhookDelivery _, record⟩ => some record
    | _ => none).insertionSort fun a b =>
      a.createdAt < b.createdAt ∨ a.createdAt = b.createdAt ∧ a.id.bits ≤ b.id.bits

/-! ## Percentiles -/

/-- The bound of the first slot that holds 95 of 100. -/
def p95UpperBound (count : Nat) (cumulative : List Nat) : Option Nat :=
  if count = 0 then none
  else
    -- `div_ceil` does not overflow
    let rank := (satMul count 95 + 99) / 100
    (interactiveLatencyBoundsMillisecondsV1.zip cumulative).findSome? fun e =>
      if rank ≤ e.2 then some e.1 else none

def LocalMetricBucket.authenticationLatencyP95UpperBound (b : LocalMetricBucket) : Option Nat :=
  p95UpperBound b.authenticationLatency.count b.authenticationLatency.cumulativeCounts

namespace MetricsRpc

structure HistogramAggregate where
  count : Nat
  cumulative : List Nat
deriving DecidableEq

/-- `iter_mut().zip(..)`: what has no partner stays. -/
def addSlots : List Nat → List Nat → List Nat
  | total :: totals, count :: counts => satAdd total count :: addSlots totals counts
  | totals, _ => totals

namespace HistogramAggregate

def default : HistogramAggregate := ⟨0, []⟩

def addBucket (h : HistogramAggregate) (bucket : LocalMetricBucket) : HistogramAggregate where
  count := satAdd h.count bucket.authenticationLatency.count
  cumulative := addSlots
    (resize (interactiveLatencyBoundsMillisecondsV1.length + 1) h.cumulative)
    bucket.authenticationLatency.cumulativeCounts

def p95 (h : HistogramAggregate) : Option Nat := p95UpperBound h.count h.cumulative

end HistogramAggregate

/-! ## Requests -/

inductive Metric
  | unspecified
  | authenticationAttempts
  | authenticationSuccesses
  | authenticationFailures
  | authenticationLatencyMilliseconds
  | registrations
  | activeUsers
  | sessionsCreated
  | tokensIssued
  | serviceAccountRpcCalls
  | serviceAccountDenials
  | webhookDeliveries
  | webhookFailures
  | webhookLatencyMilliseconds
  | sabledbLatencyMilliseconds
  | apiErrors
deriving DecidableEq

inductive Granularity
  | unspecified
  | fiveMinutes
  | hour
  | day
deriving DecidableEq

structure TimeRange where
  startsAt : String
  endsAt : String

structure QuerySeriesRequest where
  metric : EnumValue Metric
  range : Option TimeRange
  granularity : EnumValue Granularity
  filters : List (String × String)

structure QueryRange where
  startsAt : Nat
  endsAt : Nat
deriving DecidableEq

/-- The last second of the year 9999. -/
def maxUnixTimestamp : Nat := 253402300799

/-- RFC 3339 texts, read as Unix seconds. -/
structure Rfc3339 where
  parse : String → Option Int
  format : Nat → String

def maxQuerySeconds : Nat := 28 * 24 * 60 * 60
def maxFutureSkewSeconds : Nat := 5 * 60

variable (clock : Rfc3339)

def parseTimestamp (value field : String) : RpcResult Nat := do
  let timestamp ← okOr (clock.parse value) (invalid s!"{field} must be an RFC 3339 timestamp")
  ensure (0 ≤ timestamp) (invalid s!"{field} must be after 1970")
  return timestamp.toNat

def formatTimestamp (value : Nat) : RpcResult String := do
  ensure (value ≤ maxUnixTimestamp) ⟨.dataLoss, "metric timestamp is invalid"⟩
  return clock.format value

def validatedRange (now : Nat) (startsAt endsAt : String) : RpcResult QueryRange := do
  let startsAt ← parseTimestamp clock startsAt "range.starts_at"
  let endsAt ← parseTimestamp clock endsAt "range.ends_at"
  ensure (¬endsAt ≤ startsAt) (invalid "range.ends_at must be after range.starts_at")
  ensure (¬maxQuerySeconds < endsAt - startsAt) (invalid "range must not exceed 28 days")
  ensure (¬satAdd now maxFutureSkewSeconds < endsAt)
    (invalid "range.ends_at is too far in the future")
  return ⟨startsAt, endsAt⟩

def parsedMetric (value : EnumValue Metric) : RpcResult Metric :=
  okOr (value.asKnown.filter (decide <| · ≠ .unspecified))
    (invalid "metric is required and must be recognized")

def granularitySeconds : EnumValue Granularity → RpcResult Nat
  | .known .fiveMinutes => .ok bucketWidthSecondsV1
  | .known .hour => .ok 3600
  | .known .day => .ok 86400
  | _ => .error (invalid "granularity must be FIVE_MINUTES, HOUR, or DAY")

def align (timestamp width : Nat) : Nat := timestamp - timestamp % width

/-- `source_error`: the cause is logged, not shown. -/
def sourceError (_ : String) : ConnectError :=
  ⟨.unavailable, "metrics are temporarily unavailable"⟩

/-- `n as f64`, the nearest integer with 53 significant bits, ties to even. -/
def asF64 (n : Nat) : Nat :=
  let unit := 2 ^ (n.log2 + 1 - 53)
  let lower := n / unit
  if 2 * (n % unit) < unit ∨ 2 * (n % unit) = unit ∧ lower % 2 = 0 then lower * unit
  else (lower + 1) * unit

/-! ## The overview -/

structure BackupStatus where
  lastSuccessAt : Option Nat
  alerting : Bool
  overdue : Bool

/-- What an overview reads beside the buckets and the deliveries. -/
structure OverviewSources where
  users : Except String Nat
  activeServiceAccounts : Except String Nat
  backup : Option (Except String BackupStatus)

/-- The sums over the buckets. -/
structure OverviewTotals where
  activeUsers : Finset Uuid
  registrations : Nat
  attempts : Nat
  successes : Nat
  latency : HistogramAggregate

def OverviewTotals.add (totals : OverviewTotals) (bucket : LocalMetricBucket) :
    OverviewTotals where
  activeUsers := totals.activeUsers ∪ bucket.activeSubjects
  registrations := satAdd totals.registrations bucket.registrationsCompleted
  attempts := satAdd totals.attempts bucket.authenticationAttempts
  successes := satAdd totals.successes bucket.authenticationSuccesses
  latency := totals.latency.addBucket bucket

def overviewTotals (buckets : List LocalMetricBucket) : OverviewTotals :=
  buckets.foldl OverviewTotals.add ⟨∅, 0, 0, 0, .default⟩

structure DeliveryTotals where
  completed : Nat
  succeeded : Nat
  backlog : Nat

def DeliveryTotals.add (range : QueryRange) (totals : DeliveryTotals)
    (delivery : WebhookDeliveryRecord) : DeliveryTotals :=
  let inRange := range.startsAt ≤ delivery.createdAt ∧ delivery.createdAt < range.endsAt
  match delivery.status with
  | .pending | .retrying => { totals with backlog := satAdd totals.backlog 1 }
  | .succeeded =>
      if inRange then
        { totals with
          completed := satAdd totals.completed 1
          succeeded := satAdd totals.succeeded 1 }
      else totals
  | .failed => if inRange then { totals with completed := satAdd totals.completed 1 } else totals

/-- A rate is given by what it is the ratio of. -/
structure MetricsOverview where
  totalUsers : Nat
  activeUsers : Nat
  registrations : Nat
  authenticationAttempts : Nat
  authenticationSuccessRate : Nat × Nat
  authenticationLatencyP95Milliseconds : Nat
  activeServiceAccounts : Nat
  webhookDeliverySuccessRate : Nat × Nat
  webhookDeliveryBacklog : Nat
  lastBackupAt : String
  backupHealthy : Bool

def backupHealth : Option (Except String BackupStatus) → RpcResult (String × Bool)
  | none => .ok ("", false)
  | some read => do
      let status ← read.mapError sourceError
      let lastBackupAt ← match status.lastSuccessAt with
        | some at' => formatTimestamp clock at'
        | none => .ok ""
      return (lastBackupAt, status.lastSuccessAt.isSome && !status.alerting && !status.overdue)

def overview (db : Db) (now : Nat) (sources : OverviewSources) (startsAt endsAt : String) :
    RpcResult MetricsOverview := do
  let range ← validatedRange clock now startsAt endsAt
  let buckets ← (db.analyticsBuckets now range.startsAt range.endsAt).mapError sourceError
  let users ← sources.users.mapError sourceError
  let activeServiceAccounts ← sources.activeServiceAccounts.mapError sourceError
  let totals := overviewTotals buckets
  let deliveries := (db.webhookDeliveries now).foldl (DeliveryTotals.add range) ⟨0, 0, 0⟩
  let (lastBackupAt, backupHealthy) ← backupHealth clock sources.backup
  return {
    totalUsers := users
    activeUsers := totals.activeUsers.card
    registrations := totals.registrations
    authenticationAttempts := totals.attempts
    authenticationSuccessRate := (totals.successes, totals.attempts)
    authenticationLatencyP95Milliseconds := asF64 (totals.latency.p95.getD 0)
    activeServiceAccounts
    webhookDeliverySuccessRate := (deliveries.succeeded, deliveries.completed)
    webhookDeliveryBacklog := deliveries.backlog
    lastBackupAt
    backupHealthy }

/-! ## Series -/

structure SeriesAggregate where
  authenticationAttempts : Nat
  authenticationSuccesses : Nat
  authenticationFailures : Nat
  registrations : Nat
  sessionsCreated : Nat
  tokensIssued : Nat
  serviceAccountCalls : Nat
  serviceAccountDenials : Nat
  webhookDeliveries : Nat
  webhookFailures : Nat
  webhookLatencies : List Nat
  activeUsers : Finset Uuid
  latency : HistogramAggregate

namespace SeriesAggregate

def default : SeriesAggregate := ⟨0, 0, 0, 0, 0, 0, 0, 0, 0, 0, [], ∅, .default⟩

/-- The calls and denials of service accounts are not added. -/
def addBucket (a : SeriesAggregate) (bucket : LocalMetricBucket) : SeriesAggregate :=
  { a with
    authenticationAttempts := satAdd a.authenticationAttempts bucket.authenticationAttempts
    authenticationSuccesses := satAdd a.authenticationSuccesses bucket.authenticationSuccesses
    authenticationFailures := satAdd a.authenticationFailures bucket.authenticationFailures
    registrations := satAdd a.registrations bucket.registrationsCompleted
    sessionsCreated := satAdd a.sessionsCreated bucket.sessionsCreated
    tokensIssued := satAdd (satAdd a.tokensIssued bucket.userTokensIssued)
      bucket.serviceTokensIssued
    activeUsers := a.activeUsers ∪ bucket.activeSubjects
    latency := a.latency.addBucket bucket }

def addWebhookDelivery (a : SeriesAggregate) (delivery : WebhookDeliveryRecord) :
    SeriesAggregate :=
  { a with
    webhookDeliveries := satAdd a.webhookDeliveries 1
    webhookFailures :=
      if delivery.status = .failed then satAdd a.webhookFailures 1 else a.webhookFailures
    webhookLatencies :=
      if delivery.status = .succeeded ∨ delivery.status = .failed then
        a.webhookLatencies ++ [delivery.latencyMilliseconds]
      else a.webhookLatencies }

/-- The exact percentile, here of latencies that were all kept. -/
def webhookLatency (latencies : List Nat) : Nat :=
  if latencies = [] then 0
  else
    let rank := (satMul latencies.length 95 + 99) / 100
    (latencies.insertionSort (· ≤ ·)).getD (rank - 1) 0

def value (a : SeriesAggregate) : Metric → Nat
  | .authenticationAttempts => asF64 a.authenticationAttempts
  | .authenticationSuccesses => asF64 a.authenticationSuccesses
  | .authenticationFailures => asF64 a.authenticationFailures
  | .authenticationLatencyMilliseconds => asF64 (a.latency.p95.getD 0)
  | .registrations => asF64 a.registrations
  | .activeUsers => asF64 a.activeUsers.card
  | .sessionsCreated => asF64 a.sessionsCreated
  | .tokensIssued => asF64 a.tokensIssued
  | .serviceAccountRpcCalls => asF64 a.serviceAccountCalls
  | .serviceAccountDenials => asF64 a.serviceAccountDenials
  | .webhookDeliveries => asF64 a.webhookDeliveries
  | .webhookFailures => asF64 a.webhookFailures
  | .webhookLatencyMilliseconds => asF64 (webhookLatency a.webhookLatencies)
  | .sabledbLatencyMilliseconds | .apiErrors | .unspecified => 0

end SeriesAggregate

structure MetricPoint where
  startsAt : String
  value : Nat
deriving DecidableEq

/-- The `while` loop over the starts; every turn moves on, so `endsAt` turns are enough. -/
def pointStarts (width endsAt : Nat) : (turns pointStart : Nat) → List Nat
  | 0, _ => []
  | turns + 1, pointStart =>
      if pointStart < endsAt then
        pointStart :: pointStarts width endsAt turns (satAdd pointStart width)
      else []

def emptyGroups (starts : List Nat) : List (Nat × SeriesAggregate) :=
  starts.foldl (fun groups start => alter start (fun _ => .default) groups) []

def addToGroups {α : Type} (width : Nat) (time : α → Nat)
    (add : SeriesAggregate → α → SeriesAggregate) (groups : List (Nat × SeriesAggregate))
    (items : List α) : List (Nat × SeriesAggregate) :=
  items.foldl (fun groups item =>
    alter (align (time item) width) (fun made => add (made.getD .default) item) groups) groups

def Metric.readsDeliveries : Metric → Bool
  | .webhookDeliveries | .webhookFailures | .webhookLatencyMilliseconds => true
  | _ => false

def querySeries (db : Db) (now : Nat) (request : QuerySeriesRequest) :
    RpcResult (List MetricPoint) := do
  ensure (request.filters = [])
    (invalid "filters are not defined for the local V1 metrics service")
  let metric ← parsedMetric request.metric
  let range ← okOr request.range (invalid "range is required")
  let range ← validatedRange clock now range.startsAt range.endsAt
  let width ← granularitySeconds request.granularity
  let buckets ← (db.analyticsBuckets now range.startsAt range.endsAt).mapError sourceError
  let starts := pointStarts width range.endsAt range.endsAt (align range.startsAt width)
  let groups := addToGroups width (·.bucketStart) SeriesAggregate.addBucket (emptyGroups starts)
    buckets
  let groups :=
    if metric.readsDeliveries then
      addToGroups width (·.createdAt) SeriesAggregate.addWebhookDelivery groups
        ((db.webhookDeliveries now).filter fun delivery =>
          range.startsAt ≤ delivery.createdAt ∧ delivery.createdAt < range.endsAt)
    else groups
  (groups.filter (·.1 < range.endsAt)).mapM fun group => do
    let startsAt ← formatTimestamp clock group.1
    return ⟨startsAt, group.2.value metric⟩

end MetricsRpc

end RustyAuth
