/-
  The granularity of a query and the coverage that comes with its answer.

  The end of a range is rounded up to the granularity, and the rounded end is what freshness is
  measured from.  So with coarse steps a realm that has just reported may lie before the last
  fifteen minutes of the range.  The coverage is the same for all granularities exactly if the
  end, rounded up to five minutes, is the end of a day (`coverage_granularity_iff`).
-/
import RustyAuth.Telemetry.ReportingCoverage
import RustyAuth.Library.Integrity
import Mathlib.Tactic.DeriveCountable
import Mathlib.Logic.Equiv.List
import Mathlib.Data.Countable.Basic

namespace RustyAuth.AnalyticsRpc

open RustyAuth.Library

inductive AnalyticsGranularity
  | unspecified
  | fiveMinutes
  | oneHour
  | oneDay
deriving DecidableEq

structure AnalyticsRange where
  startsAtUnixMilliseconds : Int
  endsAtUnixMilliseconds : Int
  granularity : EnumValue AnalyticsGranularity

structure EffectiveRange where
  startsAt : Int
  endsAt : Int
  step : Int
  granularity : AnalyticsGranularity

def maxRangeMilliseconds : Int := 28 * 86400 * 1000
def maxFutureSkewMilliseconds : Int := 5 * 60 * 1000

/-- `rem_euclid` for a positive step. -/
def align (value step : Int) : Int := value - value % step

def AnalyticsGranularity.step : AnalyticsGranularity → Int
  | .fiveMinutes => 5 * 60 * 1000
  | .oneHour => 60 * 60 * 1000
  | .oneDay => 86400 * 1000
  -- unreachable
  | .unspecified => 0

/-- The granularity that is used; an unspecified one is chosen by the length of the range. -/
def chosenGranularity (duration : Int) : EnumValue AnalyticsGranularity →
    RpcResult AnalyticsGranularity
  | .known .unspecified =>
      .ok (if duration ≤ 7 * 86400 * 1000 then .fiveMinutes else .oneHour)
  | .known value => .ok value
  | .unknown _ => .error ⟨.invalidArgument, "analytics granularity must be known"⟩

def effectiveRangeOwned (now : Nat) (range : AnalyticsRange) : RpcResult EffectiveRange := do
  let duration := range.endsAtUnixMilliseconds - range.startsAtUnixMilliseconds
  ensure (0 < duration ∧ duration ≤ maxRangeMilliseconds)
    ⟨.invalidArgument, "analytics range must be positive and no longer than 28 days"⟩
  ensure (¬(range.startsAtUnixMilliseconds < 0 ∨
      saturateI64 (currentMilliseconds now + maxFutureSkewMilliseconds) <
        range.endsAtUnixMilliseconds))
    ⟨.invalidArgument, "analytics range is outside the supported clock bounds"⟩
  let granularity ← chosenGranularity duration range.granularity
  return {
    startsAt := align range.startsAtUnixMilliseconds granularity.step
    endsAt := align (saturateI64 (range.endsAtUnixMilliseconds + (granularity.step - 1)))
      granularity.step
    step := granularity.step
    granularity }

/-! ## The coverage of an answer -/

structure ResolvedScope where
  organizationId : Option Uuid
  projectId : Option Uuid
  environmentId : Option Uuid
  connectionId : Option Uuid
  realmId : Option String

/-- Every failure is shown alike. -/
def sourceFailed : ConnectError := ⟨.internal, "Fleet analytics operation failed"⟩

/-- The records of the last fifteen minutes of a range. -/
def ResolvedScope.freshness (scope : ResolvedScope) (endsAt : Int) : TelemetryQuery where
  organizationId := scope.organizationId
  projectId := scope.projectId
  environmentId := scope.environmentId
  connectionId := scope.connectionId
  realmId := scope.realmId
  startsAtUnixMilliseconds := staleBefore endsAt
  endsAtUnixMilliseconds := endsAt

def ResolvedScope.connections (scope : ResolvedScope) (db : Db) (now : Nat) :
    List FleetConnectionRecord :=
  (db.fleetConnections now scope.organizationId scope.projectId scope.environmentId false).filter
    fun connection => scope.connectionId.all (connection.id = ·)

/-- The policies of the organizations that have a connection in the scope. -/
def policiesOf (db : Db) (now : Nat) (connections : List FleetConnectionRecord) : Policies :=
  fun organizationId =>
    if organizationId ∈ connections.map (·.organizationId) then
      some (db.fleetAnalyticsPolicy now organizationId)
    else none

section Data

-- the payload of a record, from base64url and Protobuf
variable (decodeBucket : String → Option TelemetryBucket)

def decodeRow (record : FleetTelemetryBucketRecord) : RpcResult LedgerRow := do
  let bucket ← okOr (decodeBucket record.payloadBase64url) sourceFailed
  return (record, bucket)

/-- The rows that coverage is computed from. -/
def freshRows (db : Db) (now : Nat) (scope : ResolvedScope) (endsAt : Int) :
    RpcResult (List LedgerRow) := do
  let records ← (db.fleetTelemetryBuckets now (scope.freshness endsAt)).mapError fun _ => sourceFailed
  records.mapM (decodeRow decodeBucket)

/-- The coverage part of `AnalyticsRpc::data`. -/
def dataCoverage (db : Db) (now : Nat) (scope : ResolvedScope) (range : EffectiveRange) :
    RpcResult (List ReportingCoverage) := do
  let connections := scope.connections db now
  let rows ← freshRows decodeBucket db now scope range.endsAt
  coverage connections (policiesOf db now connections) rows range.endsAt

def queryCoverage (db : Db) (now : Nat) (scope : ResolvedScope) (range : AnalyticsRange) :
    RpcResult (List ReportingCoverage) := do
  let effective ← effectiveRangeOwned now range
  dataCoverage decodeBucket db now scope effective

end Data

/-! ## The rounded end -/

/-- The range is accepted, whatever its granularity. -/
structure Admissible (now : Nat) (startsAt endsAt : Int) : Prop where
  start : 0 ≤ startsAt
  positive : startsAt < endsAt
  bounded : endsAt - startsAt ≤ maxRangeMilliseconds
  clock : endsAt ≤ saturateI64 (currentMilliseconds now + maxFutureSkewMilliseconds)

/-- The end that freshness is measured from. -/
def roundedEnd (granularity : AnalyticsGranularity) (endsAt : Int) : Int :=
  align (saturateI64 (endsAt + (granularity.step - 1))) granularity.step

variable {now : Nat} {startsAt endsAt : Int} {granularity : AnalyticsGranularity}
  {record : FleetTelemetryBucketRecord} {decodeBucket : String → Option TelemetryBucket}

theorem queryCoverage_eq (decodeBucket : String → Option TelemetryBucket) (db : Db)
    (scope : ResolvedScope) (h : Admissible now startsAt endsAt)
    (hgranularity : granularity ≠ .unspecified) :
    queryCoverage decodeBucket db now scope ⟨startsAt, endsAt, .known granularity⟩ =
      (do
        let rows ← freshRows decodeBucket db now scope (roundedEnd granularity endsAt)
        coverage (scope.connections db now) (policiesOf db now (scope.connections db now)) rows
          (roundedEnd granularity endsAt)) := by
  have hpositive := h.positive
  have hbounded := h.bounded
  have hduration : 0 < endsAt - startsAt ∧ endsAt - startsAt ≤ maxRangeMilliseconds :=
    ⟨by omega, hbounded⟩
  have hclock : ¬(startsAt < 0 ∨
      saturateI64 (currentMilliseconds now + maxFutureSkewMilliseconds) < endsAt) :=
    not_or.mpr ⟨not_lt.mpr h.start, not_lt.mpr h.clock⟩
  unfold queryCoverage effectiveRangeOwned
  dsimp only
  unfold ensure
  rw [if_pos hduration, if_pos hclock]
  cases granularity with
  | unspecified => exact absurd rfl hgranularity
  | _ => rfl

/-- The end of a day, seen with every step. -/
def EndsDay (endsAt : Int) : Prop := roundedEnd .fiveMinutes endsAt % (86400 * 1000) = 0

theorem Admissible.endsAt_le (h : Admissible now startsAt endsAt) :
    0 < endsAt ∧ endsAt ≤ i64Max := by
  have hstart := h.start
  have hpositive := h.positive
  have hclock := h.clock
  simp only [saturateI64, i64Max, i64Min] at hclock ⊢
  omega

theorem roundedEnd_eq_iff (h : 0 < endsAt ∧ endsAt ≤ i64Max) :
    roundedEnd .oneHour endsAt = roundedEnd .fiveMinutes endsAt ∧
      roundedEnd .oneDay endsAt = roundedEnd .fiveMinutes endsAt ↔ EndsDay endsAt := by
  simp only [EndsDay, roundedEnd, align, saturateI64, AnalyticsGranularity.step, i64Max, i64Min] at h ⊢
  omega

theorem roundedEnd_of_endsDay (h : 0 < endsAt ∧ endsAt ≤ i64Max) (hday : EndsDay endsAt)
    (hgranularity : granularity ≠ .unspecified) :
    roundedEnd granularity endsAt = roundedEnd .fiveMinutes endsAt := by
  obtain ⟨hhour, hday⟩ := (roundedEnd_eq_iff h).mpr hday
  cases granularity with
  | unspecified => exact absurd rfl hgranularity
  | fiveMinutes => rfl
  | oneHour => exact hhour
  | oneDay => exact hday

/-- A five-minute instant of the quarter of an hour before the end of a range that ends a day is
    in the window. -/
theorem window_of_endsDay {start : Int} (h : 0 < endsAt ∧ endsAt ≤ i64Max) (hday : EndsDay endsAt)
    (haligned : start % bucketWidthMillisecondsV1 = 0)
    (hnew : endsAt - freshnessMilliseconds ≤ start) (hold : start < endsAt) :
    staleBefore (roundedEnd .fiveMinutes endsAt) ≤ start ∧
      start < roundedEnd .fiveMinutes endsAt := by
  simp only [EndsDay, staleBefore, freshnessMilliseconds, bucketWidthMillisecondsV1, roundedEnd, align,
    saturateI64, AnalyticsGranularity.step, i64Max, i64Min] at h hday haligned hnew ⊢
  omega

/-- Where the rounded ends differ, a five-minute instant is in one window and not in the other. -/
theorem exists_between (h : 0 < endsAt ∧ endsAt ≤ i64Max)
    (hgranularity : granularity ≠ .unspecified)
    (hne : roundedEnd granularity endsAt ≠ roundedEnd .fiveMinutes endsAt) :
    ∃ start, 0 ≤ start ∧ start % bucketWidthMillisecondsV1 = 0 ∧
      (staleBefore (roundedEnd .fiveMinutes endsAt) ≤ start ∧
        start < roundedEnd .fiveMinutes endsAt) ∧
      ¬(staleBefore (roundedEnd granularity endsAt) ≤ start ∧
        start < roundedEnd granularity endsAt) := by
  -- before the fine window's end if the coarse one ends earlier, else at its beginning
  refine ⟨if roundedEnd granularity endsAt < roundedEnd .fiveMinutes endsAt then
    roundedEnd .fiveMinutes endsAt - 300000 else max 0 (roundedEnd .fiveMinutes endsAt - 900000), ?_⟩
  cases granularity with
  | unspecified => exact absurd rfl hgranularity
  | fiveMinutes => exact absurd rfl hne
  | oneHour =>
    simp only [staleBefore, freshnessMilliseconds, bucketWidthMillisecondsV1, roundedEnd, align,
      saturateI64, AnalyticsGranularity.step, i64Max, i64Min] at h hne ⊢
    omega
  | oneDay =>
    simp only [staleBefore, freshnessMilliseconds, bucketWidthMillisecondsV1, roundedEnd, align,
      saturateI64, AnalyticsGranularity.step, i64Max, i64Min] at h hne ⊢
    omega

/-! ## Independence of the granularity -/

/-- Reporting, stale, disabled and unsupported realms. -/
def realmCounts (c : ReportingCoverage) : Nat × Nat × Nat × Nat :=
  (c.reportingRealms, c.staleRealms, c.disabledRealms, c.unsupportedRealms)

/-- The scope covers the record. -/
def ResolvedScope.covers (scope : ResolvedScope) (record : FleetTelemetryBucketRecord) : Prop :=
  (∀ id ∈ scope.organizationId, record.organizationId = id) ∧
    (∀ id ∈ scope.projectId, record.projectId = id) ∧
    (∀ id ∈ scope.environmentId, record.environmentId = id) ∧
    (∀ id ∈ scope.connectionId, record.connectionId = id) ∧
    ∀ id ∈ scope.realmId, record.realmId = id

theorem selects_freshness {scope : ResolvedScope} :
    (scope.freshness endsAt).selects record = true ↔ scope.covers record ∧
      staleBefore endsAt ≤ record.bucketStartUnixMilliseconds ∧
      record.bucketStartUnixMilliseconds < endsAt := by
  unfold TelemetryQuery.selects ResolvedScope.freshness ResolvedScope.covers
  simp only [Bool.and_eq_true, decide_eq_true_eq, Option.all_eq_true, Option.mem_def, and_assoc]

/-- The coverage of ranges with these ends does not depend on the granularity; and a realm that
    is expected, is not offline and has a bucket of a family that starts within fifteen minutes
    before the end counts as reporting with every granularity. -/
structure GranularityFree (decodeBucket : String → Option TelemetryBucket) (now : Nat)
    (startsAt endsAt : Int) : Prop where
  same : ∀ db scope g g', g ≠ .unspecified → g' ≠ .unspecified →
    (queryCoverage decodeBucket db now scope ⟨startsAt, endsAt, .known g⟩).map (·.map realmCounts) =
      (queryCoverage decodeBucket db now scope ⟨startsAt, endsAt, .known g'⟩).map (·.map realmCounts)
  reporting : ∀ db scope g rows connection record bucket family, g ≠ .unspecified →
    freshRows decodeBucket db now scope (roundedEnd g endsAt) = .ok rows →
    ¬SetAside (policiesOf db now (scope.connections db now)) connection →
    connection.state ≠ .offline →
    record ∈ db.fleetTelemetryLedger now → scope.covers record →
    record.connectionId = connection.id →
    decodeBucket record.payloadBase64url = some bucket → bucketHasFamily bucket family = true →
    record.bucketStartUnixMilliseconds % bucketWidthMillisecondsV1 = 0 →
    endsAt - freshnessMilliseconds ≤ record.bucketStartUnixMilliseconds →
    record.bucketStartUnixMilliseconds < endsAt →
    ∃ last, realmStatus (policiesOf db now (scope.connections db now)) (latestStarts rows family)
      (roundedEnd g endsAt) connection = .reporting last

theorem reporting_of_fresh {policies : Policies} {rows : List LedgerRow} {family : MetricFamily}
    {connection : FleetConnectionRecord} (haside : ¬SetAside policies connection)
    (hfresh : Fresh rows endsAt family connection) :
    ∃ last, realmStatus policies (latestStarts rows family) endsAt connection = .reporting last := by
  have hexpected := (not_congr (setAside_iff (latestStarts rows family) endsAt)).mp haside
  cases hstatus : realmStatus policies (latestStarts rows family) endsAt connection with
  | disabled => exact absurd (Or.inl hstatus) hexpected
  | unsupported => exact absurd (Or.inr hstatus) hexpected
  | reporting last => exact ⟨last, rfl⟩
  | stale => exact absurd hfresh (stale_iff.mp hstatus).2

theorem mem_freshRows {db : Db} {scope : ResolvedScope} {rows : List LedgerRow}
    (hrows : freshRows decodeBucket db now scope endsAt = .ok rows) {bucket : TelemetryBucket}
    (hrecord : record ∈ db.fleetTelemetryLedger now)
    (hselected : (scope.freshness endsAt).selects record = true)
    (hdecode : decodeBucket record.payloadBase64url = some bucket) : (record, bucket) ∈ rows := by
  unfold freshRows Db.fleetTelemetryBuckets at hrows
  split at hrows
  · cases hrows
  · obtain ⟨row, hrow, heq⟩ := exists_mem_of_mapM_ok (l := ((db.fleetTelemetryLedger now).filter
        (scope.freshness endsAt).selects).insertionSort SortsBefore) hrows record
      ((List.mem_insertionSort _).mpr (List.mem_filter.mpr ⟨hrecord, hselected⟩))
    unfold decodeRow at heq
    rw [hdecode] at heq
    cases heq
    exact hrow

theorem granularityFree_of_endsDay (h : Admissible now startsAt endsAt) (hday : EndsDay endsAt) :
    GranularityFree decodeBucket now startsAt endsAt where
  same db scope g g' hg hg' := by
    rw [queryCoverage_eq decodeBucket db scope h hg, queryCoverage_eq decodeBucket db scope h hg',
      roundedEnd_of_endsDay h.endsAt_le hday hg, roundedEnd_of_endsDay h.endsAt_le hday hg']
  reporting db scope g rows connection record bucket family hg hrows haside hstate hrecord hcovers hid
      hdecode hfamily haligned hnew hold := by
    rw [roundedEnd_of_endsDay h.endsAt_le hday hg] at hrows ⊢
    have hwindow := window_of_endsDay h.endsAt_le hday haligned hnew hold
    have hmem := mem_freshRows hrows hrecord (selects_freshness.mpr ⟨hcovers, hwindow⟩) hdecode
    exact reporting_of_fresh haside ⟨hstate, _, hmem, hid, hfamily, hwindow.1⟩

/-! ## A realm with one bucket -/

section OneBucket

variable (ctx : LedgerContext) (start : Int)

def oneBucket : TelemetryBucket := { sampleSnapshot 1 with bucketStartUnixMilliseconds := start }

def oneRecord : FleetTelemetryBucketRecord :=
  .fromBucket ctx 0 sampleReporter 1 (oneBucket start)

def oneReporter : Db :=
  commit 0 Keyspace.empty [.set (.fleetAnalyticsPolicy 101) samplePolicy,
    .set (.fleetConnection 500) sampleReporter,
    .set (.fleetAnalyticsBucket "realm" 1 start.toNat) (oneRecord ctx start)]

def everywhere : ResolvedScope := ⟨none, none, none, none, none⟩

theorem oneBucket_valid {start : Int} (hstart : 0 ≤ start)
    (haligned : start % bucketWidthMillisecondsV1 = 0) : validateBucket (oneBucket start) = .ok () := by
  have hsample : validateBucket (sampleSnapshot 1) = .ok () := by decide +kernel
  unfold validateBucket at hsample ⊢
  rw [bind_unit_eq_ok, bind_unit_eq_ok, bind_unit_eq_ok] at hsample ⊢
  exact ⟨hsample.1, hsample.2.1, (ensure_eq_ok _ _ _).mpr ⟨hstart, haligned⟩, hsample.2.2.2⟩

theorem mem_keys_oneReporter {k : Key} (hk : k ∈ (oneReporter ctx start).keys now) :
    k ∈ [.fleetAnalyticsPolicy 101, .fleetConnection 500,
      .fleetAnalyticsBucket "realm" 1 start.toNat] := by
  obtain ⟨v, hv⟩ := (Keyspace.mem_keys _ _ _).mp hk
  by_contra hnot
  unfold oneReporter at hv
  rw [get_commit_of_forall_ne _ _ _ _ _ ?_] at hv
  · cases hv
  · intro w hw hkey
    apply hnot
    rw [hkey]
    simp only [List.mem_cons, List.not_mem_nil, or_false] at hw
    rcases hw with rfl | rfl | rfl <;> simp [Command.key]

theorem length_scan_oneReporter (now : Nat) : ((oneReporter ctx start).scan now).length ≤ 3 := by
  have hsub : ((oneReporter ctx start).keys now).Subperm _ :=
    (Keyspace.nodup_keys _ now).subperm fun k hk => mem_keys_oneReporter ctx start hk
  have hle := hsub.length_le
  unfold Keyspace.keys at hle
  rw [List.length_map] at hle
  exact hle

theorem get_policy_oneReporter (now : Nat) :
    (oneReporter ctx start).get now (.fleetAnalyticsPolicy 101) = some samplePolicy := by
  unfold oneReporter
  simp only [commit_cons, commit_nil]
  rw [Command.get_run_of_ne _ _ _ _ (by exact Key.noConfusion),
    Command.get_run_of_ne _ _ _ _ (by exact Key.noConfusion), Command.get_set_self]

theorem get_connection_oneReporter (now : Nat) :
    (oneReporter ctx start).get now (.fleetConnection 500) = some sampleReporter := by
  unfold oneReporter
  simp only [commit_cons, commit_nil]
  rw [Command.get_run_of_ne _ _ _ _ (by exact Key.noConfusion), Command.get_set_self]

theorem mem_ledger_oneReporter :
    record ∈ (oneReporter ctx start).fleetTelemetryLedger now ↔ record = oneRecord ctx start := by
  have hself : (oneReporter ctx start).get now (.fleetAnalyticsBucket "realm" 1 start.toNat) =
      some (oneRecord ctx start) := by
    unfold oneReporter
    simp only [commit_cons, commit_nil, Command.get_set_self]
  unfold Db.fleetTelemetryLedger
  rw [List.mem_filterMap]
  constructor
  · rintro ⟨⟨k, v⟩, hscan, hledger⟩
    have hget := (Keyspace.mem_scan _ _ _ _).mp hscan
    have hk := mem_keys_oneReporter ctx start ((Keyspace.mem_keys _ now k).mpr ⟨v, hget⟩)
    simp only [List.mem_cons, List.not_mem_nil, or_false] at hk
    rcases hk with rfl | rfl | rfl
    · cases hledger
    · cases hledger
    · rw [hself] at hget
      cases hget
      exact (Option.some.inj hledger).symm
  · rintro rfl
    exact ⟨⟨.fleetAnalyticsBucket "realm" 1 start.toNat, oneRecord ctx start⟩,
      (Keyspace.mem_scan _ _ _ _).mpr hself, rfl⟩

theorem mem_connections_oneReporter (now : Nat) :
    sampleReporter ∈ everywhere.connections (oneReporter ctx start) now := by
  unfold ResolvedScope.connections
  refine List.mem_filter.mpr ⟨List.mem_filterMap.mpr ⟨⟨.fleetConnection 500, sampleReporter⟩,
    (Keyspace.mem_scan _ _ _ _).mpr (get_connection_oneReporter ctx start now), rfl⟩, rfl⟩

theorem length_connections_oneReporter (now : Nat) :
    (everywhere.connections (oneReporter ctx start) now).length ≤ u64Max := by
  have hfilter : (everywhere.connections (oneReporter ctx start) now).length ≤ 3 :=
    ((List.length_filter_le _ _).trans (List.length_filterMap_le _ _)).trans
      (length_scan_oneReporter ctx start now)
  exact hfilter.trans (by decide)

/-- The rows of a window are those of its bucket, if that lies in the window. -/
theorem freshRows_oneReporter
    (hdecode : decodeBucket (ctx.encodeBucket (oneBucket start)) = some (oneBucket start))
    (now : Nat) (endsAt : Int) :
    ∃ rows, freshRows decodeBucket (oneReporter ctx start) now everywhere endsAt = .ok rows ∧
      ∀ row, row ∈ rows ↔ row = (oneRecord ctx start, oneBucket start) ∧
        staleBefore endsAt ≤ start ∧ start < endsAt := by
  have hlimit : ¬maxFleetAnalyticsQueryRecords <
      ((oneReporter ctx start).fleetTelemetryLedger now).length := by
    have hle := (List.length_filterMap_le ledgerRecord _).trans
      (length_scan_oneReporter ctx start now)
    unfold Db.fleetTelemetryLedger maxFleetAnalyticsQueryRecords
    omega
  have hrecords : (oneReporter ctx start).fleetTelemetryBuckets now (everywhere.freshness endsAt) =
      .ok ((((oneReporter ctx start).fleetTelemetryLedger now).filter
        (everywhere.freshness endsAt).selects).insertionSort SortsBefore) := if_neg hlimit
  have hselected : ∀ record ∈ (((oneReporter ctx start).fleetTelemetryLedger now).filter
      (everywhere.freshness endsAt).selects).insertionSort SortsBefore,
      record = oneRecord ctx start ∧ staleBefore endsAt ≤ start ∧ start < endsAt := by
    intro record hmem
    obtain ⟨hledger, hselects⟩ := List.mem_filter.mp ((List.mem_insertionSort _).mp hmem)
    obtain rfl := (mem_ledger_oneReporter ctx start).mp hledger
    exact ⟨rfl, (selects_freshness.mp hselects).2⟩
  have hrow : ∀ record, record = oneRecord ctx start →
      decodeRow decodeBucket record = .ok (oneRecord ctx start, oneBucket start) := by
    rintro record rfl
    have hpayload : decodeBucket (oneRecord ctx start).payloadBase64url = some (oneBucket start) :=
      hdecode
    unfold decodeRow
    rw [hpayload]
    rfl
  have hmap : freshRows decodeBucket (oneReporter ctx start) now everywhere endsAt =
      .ok (((((oneReporter ctx start).fleetTelemetryLedger now).filter
        (everywhere.freshness endsAt).selects).insertionSort SortsBefore).map
          fun _ => (oneRecord ctx start, oneBucket start)) := by
    unfold freshRows
    rw [hrecords]
    refine (mapM_eq_ok _ _ _).mpr (List.forall₂_map_right_iff.mpr (List.forall₂_same.mpr ?_))
    exact fun record hmem => hrow record (hselected record hmem).1
  refine ⟨_, hmap, fun row => ?_⟩
  rw [List.mem_map]
  constructor
  · rintro ⟨record, hmem, rfl⟩
    exact ⟨rfl, (hselected record hmem).2⟩
  · rintro ⟨rfl, hwindow⟩
    refine ⟨oneRecord ctx start, (List.mem_insertionSort _).mpr (List.mem_filter.mpr
      ⟨(mem_ledger_oneReporter ctx start).mpr rfl, selects_freshness.mpr ⟨?_, hwindow⟩⟩), rfl⟩
    simp [ResolvedScope.covers, everywhere]

/-- Its realm reports sessions exactly if the bucket lies in the window. -/
theorem reporting_oneReporter
    (hdecode : decodeBucket (ctx.encodeBucket (oneBucket start)) = some (oneBucket start))
    (h : Admissible now startsAt endsAt) (hgranularity : granularity ≠ .unspecified) :
    ∃ cs, queryCoverage decodeBucket (oneReporter ctx start) now everywhere
        ⟨startsAt, endsAt, .known granularity⟩ = .ok cs ∧
      ∃ c, cs[2]? = some c ∧ (0 < c.reportingRealms ↔
        staleBefore (roundedEnd granularity endsAt) ≤ start ∧
          start < roundedEnd granularity endsAt) := by
  obtain ⟨rows, hrows, hmem⟩ := freshRows_oneReporter ctx start hdecode now
    (roundedEnd granularity endsAt)
  choose produced hproduced using coverageFamily_eq
    (everywhere.connections (oneReporter ctx start) now)
    (policiesOf (oneReporter ctx start) now (everywhere.connections (oneReporter ctx start) now)) rows
    (roundedEnd granularity endsAt) (length_connections_oneReporter ctx start now)
  have hcoverage : coverage (everywhere.connections (oneReporter ctx start) now)
      (policiesOf (oneReporter ctx start) now (everywhere.connections (oneReporter ctx start) now))
      rows (roundedEnd granularity endsAt) = .ok (metricFamilies.map produced) := by
    refine (mapM_eq_ok _ _ _).mpr (List.forall₂_map_right_iff.mpr (List.forall₂_same.mpr ?_))
    exact fun family _ => (hproduced family).1
  refine ⟨metricFamilies.map produced, ?_, produced .sessionsAndTokens, rfl, ?_⟩
  · rw [queryCoverage_eq decodeBucket _ _ h hgranularity, hrows]
    exact hcoverage
  · rw [(hproduced .sessionsAndTokens).2.2.1]
    unfold statusCount
    rw [List.countP_pos_iff]
    constructor
    · rintro ⟨connection, -, hstatus⟩
      obtain ⟨last, hlast⟩ : ∃ last, latestStarts rows .sessionsAndTokens connection.id = some last := by
        unfold realmStatus at hstatus
        split at hstatus
        · cases hstatus
        · split at hstatus
          · cases hstatus
          · split at hstatus
            · next last hlast => exact ⟨last, hlast⟩
            · cases hstatus
      obtain ⟨row, hrow, -⟩ := exists_of_latestStarts hlast
      exact ((hmem row).mp hrow).2
    · intro hwindow
      have hself := mem_connections_oneReporter ctx start now
      have haside : ¬SetAside (policiesOf (oneReporter ctx start) now
          (everywhere.connections (oneReporter ctx start) now)) sampleReporter := by
        have hpolicy : policiesOf (oneReporter ctx start) now
            (everywhere.connections (oneReporter ctx start) now) sampleReporter.organizationId =
              some samplePolicy := by
          unfold policiesOf
          rw [if_pos (List.mem_map_of_mem hself)]
          unfold Db.fleetAnalyticsPolicy
          have hget := get_policy_oneReporter ctx start now
          exact congrArg some (congrArg (Option.getD · _) hget)
        unfold SetAside
        rw [hpolicy]
        decide
      have hfresh : Fresh rows (roundedEnd granularity endsAt) .sessionsAndTokens sampleReporter :=
        ⟨by decide, _, (hmem _).mpr ⟨rfl, hwindow⟩, rfl, rfl, hwindow.1⟩
      obtain ⟨last, hreporting⟩ := reporting_of_fresh haside hfresh
      exact ⟨sampleReporter, hself, by rw [hreporting]; rfl⟩

end OneBucket

/-- For every admissible pair of ends: the coverage is independent of the granularity, for all
    connections, policies and ledger records, exactly if the end rounded up to five minutes is
    the end of a day. -/
theorem coverage_granularity_iff (ctx : LedgerContext) (decodeBucket : String → Option TelemetryBucket)
    (hcodec : ∀ bucket, validateBucket bucket = .ok () →
      decodeBucket (ctx.encodeBucket bucket) = some bucket)
    (now : Nat) (startsAt endsAt : Int) (h : Admissible now startsAt endsAt) :
    GranularityFree decodeBucket now startsAt endsAt ↔ EndsDay endsAt := by
  refine ⟨fun hfree => ?_, granularityFree_of_endsDay h⟩
  by_contra hday
  -- one of the coarser granularities rounds elsewhere
  obtain ⟨granularity, hgranularity, hne⟩ : ∃ granularity : AnalyticsGranularity,
      granularity ≠ .unspecified ∧
        roundedEnd granularity endsAt ≠ roundedEnd .fiveMinutes endsAt := by
    by_contra hnone
    push Not at hnone
    exact hday ((roundedEnd_eq_iff h.endsAt_le).mp
      ⟨hnone .oneHour AnalyticsGranularity.noConfusion,
        hnone .oneDay AnalyticsGranularity.noConfusion⟩)
  obtain ⟨start, hstart, haligned, hin, hout⟩ := exists_between h.endsAt_le hgranularity hne
  have hdecode := hcodec _ (oneBucket_valid hstart haligned)
  have hspecified : AnalyticsGranularity.fiveMinutes ≠ .unspecified := AnalyticsGranularity.noConfusion
  obtain ⟨fine, hfine, c, hc, hreports⟩ := reporting_oneReporter ctx start hdecode h hspecified
  obtain ⟨coarse, hcoarse, c', hc', hreports'⟩ := reporting_oneReporter ctx start hdecode h hgranularity
  have hsame := hfree.same (oneReporter ctx start) everywhere .fiveMinutes granularity
    hspecified hgranularity
  rw [hfine, hcoarse] at hsame
  have hcounts : fine.map realmCounts = coarse.map realmCounts := Except.ok.inj hsame
  have hthird := congrArg (fun counts : List (Nat × Nat × Nat × Nat) => counts[2]?) hcounts
  simp only [List.getElem?_map, hc, hc', Option.map_some, Option.some.injEq] at hthird
  have hequal : c.reportingRealms = c'.reportingRealms := congrArg Prod.fst hthird
  rw [← hequal] at hreports'
  exact hout (hreports'.mp (hreports.mpr hin))

/-- At five past the hour a realm whose bucket starts at the hour reports with steps of five
    minutes, and is stale with steps of an hour. -/
theorem coverage_depends_on_granularity :
    Admissible 10000 0 3900000 ∧
    (queryCoverage (fun _ => some (oneBucket 3600000)) (oneReporter sampleEncoding 3600000) 10000
        everywhere ⟨0, 3900000, .known .fiveMinutes⟩).map (fun cs => (cs.map realmCounts)[2]?) =
      .ok (some (1, 0, 0, 0)) ∧
    (queryCoverage (fun _ => some (oneBucket 3600000)) (oneReporter sampleEncoding 3600000) 10000
        everywhere ⟨0, 3900000, .known .oneHour⟩).map (fun cs => (cs.map realmCounts)[2]?) =
      .ok (some (0, 1, 0, 0)) :=
  ⟨⟨by decide, by decide, by decide, by decide⟩, by decide +kernel, by decide +kernel⟩

end RustyAuth.AnalyticsRpc

namespace RustyAuth

/-! ### There are fewer buckets than texts -/

deriving instance Countable for EnumValue, MetricSchemaVersion, HistogramProfile,
  AuthenticationFlow, FailureClass, AnalyticsServingState, LatencyHistogram,
  AuthenticationFlowCount, AuthenticationFailureCount, AuthenticationMetrics,
  RegistrationMetrics, SessionTokenMetrics, ServiceAccountMetrics, WebhookMetrics,
  PlatformMetrics, RealmHealthMetrics

instance countableChar : Countable Char :=
  Function.Injective.countable (f := Char.toNat) fun _ _ h => Char.toNat_inj.mp h

instance countableString : Countable String :=
  Function.Injective.countable (f := String.toList) fun _ _ h => String.toList_inj.mp h

instance : Countable TelemetryBucket := by
  refine Function.Injective.countable (f := fun b : TelemetryBucket => (b.realmId, b.assignmentEpoch,
    b.bucketStartUnixMilliseconds, b.bucketWidthSeconds, b.revision, b.firstEventSequence,
    b.lastEventSequence, b.metricSchemaVersion, b.closed, b.authentication, b.registration,
    b.sessionsAndTokens, b.serviceAccounts, b.webhooks, b.platform, b.realmHealth)) ?_
  intro a b h
  cases a
  cases b
  simpa using h

/-- Buckets can be written so that they are read back. -/
theorem exists_bucketCodec : ∃ (ctx : LedgerContext) (decode : String → Option TelemetryBucket),
    ∀ bucket, decode (ctx.encodeBucket bucket) = some bucket := by
  obtain ⟨number, hnumber⟩ := exists_injective_nat TelemetryBucket
  let encode : TelemetryBucket → String := fun b => String.ofList (List.replicate (number b) '0')
  have hencode : Function.Injective encode := by
    intro a b h
    have hlength := congrArg String.length h
    simp only [encode, String.length_ofList, List.length_replicate] at hlength
    exact hnumber hlength
  refine ⟨⟨encode, encode⟩, Function.partialInv encode, fun bucket => ?_⟩
  exact Function.partialInv_left hencode bucket

namespace AnalyticsRpc

/-- A range that ends a day. -/
theorem coverage_granularity_sample : ∃ decodeBucket,
    GranularityFree decodeBucket 100000 0 86400000 ∧ ¬GranularityFree decodeBucket 100000 0 3900000 := by
  obtain ⟨ctx, decodeBucket, hcodec⟩ := exists_bucketCodec
  refine ⟨decodeBucket, ?_, ?_⟩
  · refine (coverage_granularity_iff ctx decodeBucket (fun bucket _ => hcodec bucket) 100000 0 86400000
      ⟨by decide, by decide, by decide, by decide⟩).mpr ?_
    unfold EndsDay
    decide
  · refine mt (coverage_granularity_iff ctx decodeBucket (fun bucket _ => hcodec bucket) 100000 0
      3900000 ⟨by decide, by decide, by decide, by decide⟩).mp ?_
    unfold EndsDay
    decide

end AnalyticsRpc

end RustyAuth
