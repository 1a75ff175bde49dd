/-
  Which realms an answer of the analytics covers.

  For each metric family every connection of the scope is counted once: as disabled by the
  policy of its organization, as too old to report, as reporting, or as stale.  The contract
  calls a coverage partial when fewer realms report than are expected, where the expected ones
  are those that report and those that are stale; the producer also when a realm is disabled or
  unsupported.  So what it produces passes exactly if no realm is set aside, or one is stale as
  well (`coverage_passes_iff`).
-/
import RustyAuth.Telemetry.Connector

namespace RustyAuth

open RustyAuth.Library

inductive MetricFamily
  | unspecified
  | authentication
  | registration
  | sessionsAndTokens
  | serviceAccounts
  | webhooks
  | platform
  | realmHealth
deriving DecidableEq

structure ReportingCoverage where
  metricFamily : EnumValue MetricFamily
  totalRealms : Nat
  expectedRealms : Nat
  reportingRealms : Nat
  staleRealms : Nat
  disabledRealms : Nat
  unsupportedRealms : Nat
  lastCompleteWindowStartUnixMilliseconds : Int
  isPartial : Bool
deriving DecidableEq

/-! ## The contract -/

def validateCoverage (coverage : ReportingCoverage) : ContractResult Unit := do
  require (∃ family, coverage.metricFamily.asKnown = some family ∧ family ≠ .unspecified)
    "reporting_coverage.metric_family" "metric family must be known and specified"
  let expected ← checkedAdd coverage.reportingRealms coverage.staleRealms
  require (coverage.expectedRealms = expected) "reporting_coverage.expected_realms"
    "expected realms must equal reporting plus stale realms"
  let total ← checkedAdd expected coverage.disabledRealms
  let total ← checkedAdd total coverage.unsupportedRealms
  require (coverage.totalRealms = total) "reporting_coverage.total_realms"
    "total realms must include expected, disabled, and unsupported realms"
  require (coverage.isPartial = decide (coverage.reportingRealms < coverage.expectedRealms))
    "reporting_coverage.partial" "partial must reflect reporting coverage"
  if coverage.lastCompleteWindowStartUnixMilliseconds ≠ 0 then
    validateBucketStart coverage.lastCompleteWindowStartUnixMilliseconds
      "reporting_coverage.last_complete_window_start_unix_milliseconds"

/-! ## The producer -/

namespace AnalyticsRpc

def telemetryCapability : String := "telemetry.rollups.v1"

def checked (left right : Nat) : RpcResult Nat :=
  if left + right ≤ u64Max then .ok (left + right)
  else .error ⟨.outOfRange, "analytics aggregate overflow"⟩

def bucketHasFamily (bucket : TelemetryBucket) : MetricFamily → Bool
  | .authentication => bucket.authentication.isSome
  | .registration => bucket.registration.isSome
  | .sessionsAndTokens => bucket.sessionsAndTokens.isSome
  | .serviceAccounts => bucket.serviceAccounts.isSome
  | .webhooks => bucket.webhooks.isSome
  | .platform => bucket.platform.isSome
  | .realmHealth => bucket.realmHealth.isSome
  | .unspecified => false

/-- A record of the ledger and the bucket that its payload decodes to. -/
abbrev LedgerRow := FleetTelemetryBucketRecord × TelemetryBucket

abbrev Policies := Uuid → Option FleetAnalyticsPolicyRecord

/-- The newest start of the family that a record adds to what was read before. -/
def noteLatest (family : MetricFamily) (latest : Uuid → Option Int) (row : LedgerRow) :
    Uuid → Option Int :=
  if bucketHasFamily row.2 family then
    Function.update latest row.1.connectionId
      (some (match latest row.1.connectionId with
        | some value => max value row.1.bucketStartUnixMilliseconds
        | none => row.1.bucketStartUnixMilliseconds))
  else latest

def latestStarts (records : List LedgerRow) (family : MetricFamily) : Uuid → Option Int :=
  records.foldl (noteLatest family) fun _ => none

inductive RealmStatus
  | disabled
  | unsupported
  | reporting (last : Int)
  | stale
deriving DecidableEq

def freshnessMilliseconds : Int := 15 * 60 * 1000

def staleBefore (endsAt : Int) : Int := saturateI64 (endsAt - freshnessMilliseconds)

def realmStatus (policies : Policies) (latest : Uuid → Option Int) (endsAt : Int)
    (connection : FleetConnectionRecord) : RealmStatus :=
  if (policies connection.organizationId).any (·.enabled) = false then .disabled
  else if (telemetryCapability, 1) ∉ connection.capabilities then .unsupported
  else
    match latest connection.id with
    | some last =>
        if staleBefore endsAt ≤ last ∧ connection.state ≠ .offline then .reporting last else .stale
    | none => .stale

structure CoverageCounts where
  reporting : Nat := 0
  stale : Nat := 0
  disabled : Nat := 0
  unsupported : Nat := 0
  completeWindows : List Int := []

def CoverageCounts.add (counts : CoverageCounts) : RealmStatus → RpcResult CoverageCounts
  | .disabled => do return { counts with disabled := ← checked counts.disabled 1 }
  | .unsupported => do return { counts with unsupported := ← checked counts.unsupported 1 }
  | .reporting last => do
      return { counts with
        reporting := ← checked counts.reporting 1
        completeWindows := counts.completeWindows ++ [last] }
  | .stale => do return { counts with stale := ← checked counts.stale 1 }

def countRealms (status : FleetConnectionRecord → RealmStatus) :
    List FleetConnectionRecord → CoverageCounts → RpcResult CoverageCounts
  | [], counts => return counts
  | connection :: connections, counts => do
      let counts ← counts.add (status connection)
      countRealms status connections counts

def coverageFamily (connections : List FleetConnectionRecord) (policies : Policies)
    (records : List LedgerRow) (endsAt : Int) (family : MetricFamily) :
    RpcResult ReportingCoverage := do
  let latest := latestStarts records family
  let counts ← countRealms (realmStatus policies latest endsAt) connections {}
  let expected ← checked counts.reporting counts.stale
  let total ← checked expected counts.disabled
  let total ← checked total counts.unsupported
  return {
    metricFamily := .known family
    totalRealms := total
    expectedRealms := expected
    reportingRealms := counts.reporting
    staleRealms := counts.stale
    disabledRealms := counts.disabled
    unsupportedRealms := counts.unsupported
    lastCompleteWindowStartUnixMilliseconds := counts.completeWindows.min?.getD 0
    isPartial := 0 < counts.stale ∨ 0 < counts.disabled ∨ 0 < counts.unsupported }

def metricFamilies : List MetricFamily :=
  [.authentication, .registration, .sessionsAndTokens, .serviceAccounts, .webhooks, .platform,
    .realmHealth]

def coverage (connections : List FleetConnectionRecord) (policies : Policies)
    (records : List LedgerRow) (endsAt : Int) : RpcResult (List ReportingCoverage) :=
  metricFamilies.mapM (coverageFamily connections policies records endsAt)

/-! ## The newest start -/

theorem latestStarts_fold_le (family : MetricFamily) (bound : Int) (id : Uuid)
    (records : List LedgerRow) : ∀ latest : Uuid → Option Int,
    (∃ last, records.foldl (noteLatest family) latest id = some last ∧ bound ≤ last) ↔
      (∃ last, latest id = some last ∧ bound ≤ last) ∨
      ∃ row ∈ records, row.1.connectionId = id ∧ bucketHasFamily row.2 family = true ∧
        bound ≤ row.1.bucketStartUnixMilliseconds := by
  induction records with
  | nil => simp
  | cons row records ih =>
    intro latest
    rw [List.foldl_cons, ih]
    have hnote : (∃ last, noteLatest family latest row id = some last ∧ bound ≤ last) ↔
        (∃ last, latest id = some last ∧ bound ≤ last) ∨
        row.1.connectionId = id ∧ bucketHasFamily row.2 family = true ∧
          bound ≤ row.1.bucketStartUnixMilliseconds := by
      unfold noteLatest
      by_cases hfamily : bucketHasFamily row.2 family = true
      · rw [if_pos hfamily]
        by_cases hid : row.1.connectionId = id
        · subst hid
          rw [Function.update_self]
          cases latest row.1.connectionId with
          | none => simp [hfamily]
          | some value => simp [hfamily]
        · rw [Function.update_of_ne (Ne.symm hid)]
          simp [hid]
      · rw [if_neg hfamily]
        simp [hfamily]
    rw [hnote, or_assoc]
    simp only [List.mem_cons, exists_eq_or_imp]

theorem latestStarts_ge {records : List LedgerRow} {family : MetricFamily} {bound : Int} {id : Uuid} :
    (∃ last, latestStarts records family id = some last ∧ bound ≤ last) ↔
      ∃ row ∈ records, row.1.connectionId = id ∧ bucketHasFamily row.2 family = true ∧
        bound ≤ row.1.bucketStartUnixMilliseconds := by
  unfold latestStarts
  rw [latestStarts_fold_le]
  simp

/-- The newest start is that of a record. -/
theorem exists_of_latestStarts_fold (family : MetricFamily) {id : Uuid} {last : Int}
    (records : List LedgerRow) : ∀ latest : Uuid → Option Int,
    records.foldl (noteLatest family) latest id = some last →
      latest id = some last ∨ ∃ row ∈ records, row.1.bucketStartUnixMilliseconds = last := by
  induction records with
  | nil => exact fun latest h => Or.inl h
  | cons row records ih =>
    intro latest h
    rw [List.foldl_cons] at h
    rcases ih _ h with hlatest | ⟨other, hmem, heq⟩
    · unfold noteLatest at hlatest
      split at hlatest
      · by_cases hid : id = row.1.connectionId
        · subst hid
          rw [Function.update_self] at hlatest
          cases hold : latest row.1.connectionId with
          | none =>
            rw [hold] at hlatest
            exact Or.inr ⟨row, List.mem_cons_self, Option.some.inj hlatest⟩
          | some value =>
            rw [hold] at hlatest
            have hmax : max value row.1.bucketStartUnixMilliseconds = last := Option.some.inj hlatest
            rcases max_choice value row.1.bucketStartUnixMilliseconds with hold | hnew
            · exact Or.inl (congrArg some (hold.symm.trans hmax))
            · exact Or.inr ⟨row, List.mem_cons_self, hnew.symm.trans hmax⟩
        · rw [Function.update_of_ne hid] at hlatest
          exact Or.inl hlatest
      · exact Or.inl hlatest
    · exact Or.inr ⟨other, List.mem_cons_of_mem _ hmem, heq⟩

theorem exists_of_latestStarts {records : List LedgerRow} {family : MetricFamily} {id : Uuid}
    {last : Int} (h : latestStarts records family id = some last) :
    ∃ row ∈ records, row.1.bucketStartUnixMilliseconds = last := by
  rcases exists_of_latestStarts_fold family records _ h with hnone | hrow
  · cases hnone
  · exact hrow

/-! ## Counting -/

def RealmStatus.window : RealmStatus → Option Int
  | .reporting last => some last
  | _ => none

def CoverageCounts.total (counts : CoverageCounts) : Nat :=
  counts.reporting + counts.stale + counts.disabled + counts.unsupported

/-- `add` without the overflow. -/
def CoverageCounts.plus (counts : CoverageCounts) : RealmStatus → CoverageCounts
  | .disabled => { counts with disabled := counts.disabled + 1 }
  | .unsupported => { counts with unsupported := counts.unsupported + 1 }
  | .reporting last =>
      { counts with
        reporting := counts.reporting + 1
        completeWindows := counts.completeWindows ++ [last] }
  | .stale => { counts with stale := counts.stale + 1 }

theorem CoverageCounts.total_plus (counts : CoverageCounts) (status : RealmStatus) :
    (counts.plus status).total = counts.total + 1 := by
  unfold total plus
  split <;> dsimp only <;> omega

theorem checked_eq {left right : Nat} (h : left + right ≤ u64Max) :
    checked left right = .ok (left + right) :=
  if_pos h

theorem CoverageCounts.add_eq (counts : CoverageCounts) (status : RealmStatus)
    (h : counts.total + 1 ≤ u64Max) : counts.add status = .ok (counts.plus status) := by
  unfold total at h
  cases status with
  | disabled =>
    have hone : checked counts.disabled 1 = .ok _ := checked_eq (by omega)
    simp only [add, hone]
    rfl
  | unsupported =>
    have hone : checked counts.unsupported 1 = .ok _ := checked_eq (by omega)
    simp only [add, hone]
    rfl
  | reporting last =>
    have hone : checked counts.reporting 1 = .ok _ := checked_eq (by omega)
    simp only [add, hone]
    rfl
  | stale =>
    have hone : checked counts.stale 1 = .ok _ := checked_eq (by omega)
    simp only [add, hone]
    rfl

/-- The counts after all connections, when none of them overflows. -/
theorem countRealms_eq (status : FleetConnectionRecord → RealmStatus)
    (connections : List FleetConnectionRecord) : ∀ counts : CoverageCounts,
    counts.total + connections.length ≤ u64Max →
    countRealms status connections counts = .ok {
      reporting := counts.reporting + connections.countP fun c => (status c).window.isSome
      stale := counts.stale + connections.countP fun c => status c = .stale
      disabled := counts.disabled + connections.countP fun c => status c = .disabled
      unsupported := counts.unsupported + connections.countP fun c => status c = .unsupported
      completeWindows := counts.completeWindows ++
        connections.filterMap fun c => (status c).window } := by
  induction connections with
  | nil =>
    intro counts _
    simp [countRealms, pure, Except.pure]
  | cons connection connections ih =>
    intro counts hbound
    rw [List.length_cons] at hbound
    have htotal := counts.total_plus (status connection)
    unfold countRealms
    rw [counts.add_eq (status connection) (by omega)]
    refine (ih _ (by omega)).trans ?_
    cases hstatus : status connection <;>
      simp [hstatus, CoverageCounts.plus, RealmStatus.window, Nat.add_assoc, Nat.add_comm]

/-- Every connection is counted once. -/
theorem countP_status (status : FleetConnectionRecord → RealmStatus)
    (connections : List FleetConnectionRecord) :
    (connections.countP fun c => (status c).window.isSome) +
        (connections.countP fun c => status c = .stale) +
        (connections.countP fun c => status c = .disabled) +
        (connections.countP fun c => status c = .unsupported) = connections.length := by
  induction connections with
  | nil => rfl
  | cons connection connections ih =>
    simp only [List.countP_cons, List.length_cons]
    cases status connection <;> simp [RealmStatus.window] at ih ⊢ <;> omega

/-! ## What is produced -/

section Produced

variable (connections : List FleetConnectionRecord) (policies : Policies) (records : List LedgerRow)
  (endsAt : Int)

/-- The connections whose status fits `p`. -/
def statusCount (family : MetricFamily) (p : RealmStatus → Bool) : Nat :=
  connections.countP fun c => p (realmStatus policies (latestStarts records family) endsAt c)

theorem coverageFamily_eq (hlength : connections.length ≤ u64Max) (family : MetricFamily) :
    ∃ c, coverageFamily connections policies records endsAt family = .ok c ∧
      c.metricFamily = .known family ∧
      c.reportingRealms =
        statusCount connections policies records endsAt family (·.window.isSome) ∧
      c.staleRealms = statusCount connections policies records endsAt family (· = .stale) ∧
      c.disabledRealms = statusCount connections policies records endsAt family (· = .disabled) ∧
      c.unsupportedRealms =
        statusCount connections policies records endsAt family (· = .unsupported) ∧
      c.expectedRealms = c.reportingRealms + c.staleRealms ∧
      c.totalRealms = c.expectedRealms + c.disabledRealms + c.unsupportedRealms ∧
      c.isPartial = decide (0 < c.staleRealms ∨ 0 < c.disabledRealms ∨ 0 < c.unsupportedRealms) ∧
      c.lastCompleteWindowStartUnixMilliseconds = (connections.filterMap fun connection =>
        (realmStatus policies (latestStarts records family) endsAt connection).window).min?.getD 0 := by
  have hcount := countRealms_eq (realmStatus policies (latestStarts records family) endsAt)
    connections {} (by simp only [CoverageCounts.total]; omega)
  have hsum := countP_status (realmStatus policies (latestStarts records family) endsAt) connections
  simp only [Nat.zero_add, List.nil_append] at hcount
  unfold coverageFamily
  dsimp only
  rw [hcount]
  simp only [bind, Except.bind]
  rw [checked_eq (by omega)]
  dsimp only
  rw [checked_eq (by omega)]
  dsimp only
  rw [checked_eq (by omega)]
  exact ⟨_, rfl, rfl, rfl, rfl, rfl, rfl, rfl, rfl, rfl, rfl⟩

end Produced

/-! ## When it passes -/

/-- The organization has not enabled the analytics, or the realm is too old for them. -/
def SetAside (policies : Policies) (connection : FleetConnectionRecord) : Prop :=
  (policies connection.organizationId).any (·.enabled) = false ∨
    (telemetryCapability, 1) ∉ connection.capabilities

/-- The realm is not offline and has a bucket of the family from the last fifteen minutes on. -/
def Fresh (records : List LedgerRow) (endsAt : Int) (family : MetricFamily)
    (connection : FleetConnectionRecord) : Prop :=
  connection.state ≠ .offline ∧ ∃ row ∈ records, row.1.connectionId = connection.id ∧
    bucketHasFamily row.2 family = true ∧ staleBefore endsAt ≤ row.1.bucketStartUnixMilliseconds

section Status

variable {policies : Policies} {records : List LedgerRow} {endsAt : Int} {family : MetricFamily}
  {connection : FleetConnectionRecord}

theorem setAside_iff (latest : Uuid → Option Int) (endsAt : Int) :
    SetAside policies connection ↔
      realmStatus policies latest endsAt connection = .disabled ∨
        realmStatus policies latest endsAt connection = .unsupported := by
  unfold SetAside realmStatus
  by_cases hdisabled : (policies connection.organizationId).any (·.enabled) = false
  · rw [if_pos hdisabled]
    exact ⟨fun _ => Or.inl rfl, fun _ => Or.inl hdisabled⟩
  · rw [if_neg hdisabled]
    by_cases hold : (telemetryCapability, 1) ∉ connection.capabilities
    · rw [if_pos hold]
      exact ⟨fun _ => Or.inr rfl, fun _ => Or.inr hold⟩
    · rw [if_neg hold]
      refine ⟨fun h => absurd h (not_or.mpr ⟨hdisabled, hold⟩), fun h => ?_⟩
      split at h
      · split at h <;> simp at h
      · simp at h

/-- The status of a realm that is not set aside. -/
theorem realmStatus_eq {latest : Uuid → Option Int} (h : ¬SetAside policies connection) :
    realmStatus policies latest endsAt connection =
      match latest connection.id with
      | some last =>
          if staleBefore endsAt ≤ last ∧ connection.state ≠ .offline then .reporting last else .stale
      | none => .stale := by
  obtain ⟨henabled, hnew⟩ := not_or.mp h
  unfold realmStatus
  rw [if_neg henabled, if_neg hnew]

theorem stale_iff :
    realmStatus policies (latestStarts records family) endsAt connection = .stale ↔
      ¬SetAside policies connection ∧ ¬Fresh records endsAt family connection := by
  by_cases haside : SetAside policies connection
  · have hstatus := (setAside_iff (latestStarts records family) endsAt).mp haside
    refine ⟨fun hstale => ?_, fun h => absurd haside h.1⟩
    rw [hstale] at hstatus
    simp at hstatus
  · rw [realmStatus_eq haside]
    unfold Fresh
    rw [← latestStarts_ge]
    cases latestStarts records family connection.id with
    | none => simp [haside]
    | some last =>
      dsimp only
      by_cases hlast : staleBefore endsAt ≤ last ∧ connection.state ≠ .offline
      · rw [if_pos hlast]
        simp [hlast]
      · rw [if_neg hlast]
        refine ⟨fun _ => ⟨haside, ?_⟩, fun _ => rfl⟩
        rintro ⟨hstate, newest, heq, hle⟩
        rw [← Option.some.inj heq] at hle
        exact hlast ⟨hle, hstate⟩

end Status

/-- Where a realm is set aside, another is stale. -/
def Honest (connections : List FleetConnectionRecord) (policies : Policies)
    (records : List LedgerRow) (endsAt : Int) (family : MetricFamily) : Prop :=
  (∃ connection ∈ connections, SetAside policies connection) →
    ∃ connection ∈ connections, ¬SetAside policies connection ∧
      ¬Fresh records endsAt family connection

section Passes

variable {connections : List FleetConnectionRecord} {policies : Policies} {records : List LedgerRow}
  {endsAt : Int}

theorem honest_iff {family : MetricFamily} :
    Honest connections policies records endsAt family ↔
      (0 < statusCount connections policies records endsAt family (· = .disabled) ∨
        0 < statusCount connections policies records endsAt family (· = .unsupported) →
      0 < statusCount connections policies records endsAt family (· = .stale)) := by
  unfold Honest statusCount
  simp only [List.countP_pos_iff, decide_eq_true_eq, stale_iff]
  refine imp_congr ?_ Iff.rfl
  rw [← exists_or]
  refine exists_congr fun connection => ?_
  rw [setAside_iff (latestStarts records family) endsAt, and_or_left]

/-- The last complete window is that of a bucket, or unset. -/
theorem lastWindow_valid (hvalid : ∀ row ∈ records, validateBucket row.2 = .ok () ∧
      row.1.bucketStartUnixMilliseconds = row.2.bucketStartUnixMilliseconds)
    (family : MetricFamily) {window : Int}
    (hwindow : window = (connections.filterMap fun connection =>
      (realmStatus policies (latestStarts records family) endsAt connection).window).min?.getD 0) :
    0 ≤ window ∧ window % bucketWidthMillisecondsV1 = 0 := by
  cases hmin : (connections.filterMap fun connection =>
      (realmStatus policies (latestStarts records family) endsAt connection).window).min? with
  | none =>
    rw [hmin] at hwindow
    rw [hwindow]
    decide
  | some least =>
    rw [hmin] at hwindow
    obtain rfl : window = least := hwindow
    obtain ⟨connection, -, hreporting⟩ := List.mem_filterMap.mp (List.min?_mem hmin)
    have hlatest : latestStarts records family connection.id = some window := by
      unfold realmStatus at hreporting
      split at hreporting
      · cases hreporting
      · split at hreporting
        · cases hreporting
        · split at hreporting
          · next last hlast =>
            split at hreporting
            · rw [hlast]
              exact hreporting
            · cases hreporting
          · cases hreporting
    obtain ⟨row, hrow, rfl⟩ := exists_of_latestStarts hlatest
    obtain ⟨hbucket, hstart⟩ := hvalid row hrow
    rw [hstart]
    unfold validateBucket validateBucketStart require at hbucket
    simp only [bind_unit_eq_ok, ensure_eq_ok] at hbucket
    exact hbucket.2.2.1

theorem coverageFamily_passes_iff (policies : Policies) (endsAt : Int)
    (hlength : connections.length ≤ u64Max) (hvalid : ∀ row ∈ records, validateBucket row.2 = .ok () ∧
      row.1.bucketStartUnixMilliseconds = row.2.bucketStartUnixMilliseconds)
    {family : MetricFamily} (hfamily : family ≠ .unspecified) :
    ∃ c, coverageFamily connections policies records endsAt family = .ok c ∧
      (validateCoverage c = .ok () ↔ Honest connections policies records endsAt family) ∧
      c.reportingRealms + c.staleRealms + c.disabledRealms + c.unsupportedRealms =
        connections.length := by
  obtain ⟨c, hc, hknown, hreporting, hstale, hdisabled, hunsupported, hexpected, htotal, hpartial,
    hlast⟩ := coverageFamily_eq connections policies records endsAt hlength family
  have hsum := countP_status (realmStatus policies (latestStarts records family) endsAt) connections
  have hall : c.reportingRealms + c.staleRealms + c.disabledRealms + c.unsupportedRealms =
      connections.length := by
    rw [hreporting, hstale, hdisabled, hunsupported]
    exact hsum
  refine ⟨c, hc, ?_, hall⟩
  have hadd : checkedAdd c.reportingRealms c.staleRealms = .ok c.expectedRealms := by
    rw [hexpected]
    exact if_pos (by omega)
  have hadd' : checkedAdd c.expectedRealms c.disabledRealms =
      .ok (c.expectedRealms + c.disabledRealms) := if_pos (by omega)
  have hadd'' : checkedAdd (c.expectedRealms + c.disabledRealms) c.unsupportedRealms =
      .ok c.totalRealms := by
    rw [htotal]
    exact if_pos (by omega)
  have hstart : (if c.lastCompleteWindowStartUnixMilliseconds ≠ 0 then
      validateBucketStart c.lastCompleteWindowStartUnixMilliseconds
        "reporting_coverage.last_complete_window_start_unix_milliseconds"
      else pure ()) = .ok () := by
    split
    · exact (ensure_eq_ok _ _ _).mpr (lastWindow_valid hvalid family hlast)
    · rfl
  have hpasses : validateCoverage c = .ok () ↔
      c.isPartial = decide (c.reportingRealms < c.expectedRealms) := by
    unfold validateCoverage require
    simp only [bind_eq_ok, ensure_eq_ok, hadd, Except.ok.injEq, exists_eq_left', hadd', hadd'',
      exists_const, hstart, and_true, true_and]
    refine ⟨fun h => h.2, fun h => ⟨⟨family, ?_, hfamily⟩, h⟩⟩
    rw [hknown]
    rfl
  rw [hpasses, honest_iff, ← hstale, ← hdisabled, ← hunsupported, hpartial, decide_eq_decide]
  omega

end Passes

/-- For every list of connections, every policy map and every list of ledger records with valid
    buckets: each coverage counts every connection once, and all of them pass exactly if, where a
    realm is disabled or unsupported, some other one is stale in each family. -/
theorem coverage_passes_iff (connections : List FleetConnectionRecord) (policies : Policies)
    (records : List LedgerRow) (endsAt : Int) (hlength : connections.length ≤ u64Max)
    (hvalid : ∀ row ∈ records, validateBucket row.2 = .ok () ∧
      row.1.bucketStartUnixMilliseconds = row.2.bucketStartUnixMilliseconds) :
    ∃ cs, coverage connections policies records endsAt = .ok cs ∧
      ((∀ c ∈ cs, validateCoverage c = .ok ()) ↔
        ∀ family ∈ metricFamilies, Honest connections policies records endsAt family) ∧
      ∀ c ∈ cs, c.reportingRealms + c.staleRealms + c.disabledRealms + c.unsupportedRealms =
        connections.length := by
  have hspecified : ∀ family ∈ metricFamilies, family ≠ .unspecified := by decide
  unfold coverage
  generalize metricFamilies = families at hspecified ⊢
  induction families with
  | nil => exact ⟨[], rfl, by simp, by simp⟩
  | cons family families ih =>
    obtain ⟨c, hc, hpasses, hsum⟩ := coverageFamily_passes_iff policies endsAt hlength hvalid
      (hspecified family List.mem_cons_self)
    obtain ⟨cs, hcs, hall, hsums⟩ := ih fun f hf => hspecified f (List.mem_cons_of_mem _ hf)
    refine ⟨c :: cs, ?_, ?_, ?_⟩
    · rw [List.mapM_cons, hc, hcs]
      rfl
    · simp only [List.mem_cons, forall_eq_or_imp, hpasses, hall]
    · simp only [List.mem_cons, forall_eq_or_imp]
      exact ⟨hsum, hsums⟩

/-! ### A realm that reports beside one that cannot -/

def sampleRow : LedgerRow :=
  (.fromBucket sampleEncoding 1200 sampleReporter 1 (sampleSnapshot 1), sampleSnapshot 1)

def samplePolicies : Policies := fun id => if id = 101 then some samplePolicy else none

def sampleRealms : List FleetConnectionRecord := [sampleReporter, { sampleConnection with id := 501 }]

theorem sampleRow_valid : ∀ row ∈ [sampleRow], validateBucket row.2 = .ok () ∧
    row.1.bucketStartUnixMilliseconds = row.2.bucketStartUnixMilliseconds := by
  intro row hrow
  rw [List.mem_singleton.mp hrow]
  exact ⟨by decide +kernel, rfl⟩

/-- The one realm that is expected reports, and yet the coverage of the family is called
    partial. -/
theorem coverage_rejected :
    (∀ row ∈ [sampleRow], validateBucket row.2 = .ok () ∧
      row.1.bucketStartUnixMilliseconds = row.2.bucketStartUnixMilliseconds) ∧
    (coverageFamily sampleRealms samplePolicies [sampleRow] 1200000 .sessionsAndTokens).map
        (fun c => (c.reportingRealms, c.expectedRealms, c.unsupportedRealms, c.isPartial)) =
      .ok (1, 1, 1, true) ∧
    ∃ cs, coverage sampleRealms samplePolicies [sampleRow] 1200000 = .ok cs ∧
      cs.map validateCoverage = [.ok (), .ok (),
        .error (.invalid "reporting_coverage.partial" "partial must reflect reporting coverage"),
        .ok (), .ok (), .ok (), .ok ()] := by
  refine ⟨sampleRow_valid, by decide +kernel, ?_⟩
  have hpasses : (coverage sampleRealms samplePolicies [sampleRow] 1200000).toOption.map
      (·.map validateCoverage) = some [.ok (), .ok (),
        .error (.invalid "reporting_coverage.partial" "partial must reflect reporting coverage"),
        .ok (), .ok (), .ok (), .ok ()] := by decide +kernel
  obtain ⟨cs, hcs, heq⟩ := Option.map_eq_some_iff.mp hpasses
  exact ⟨cs, (toOption_eq_some _ _).mp hcs, heq⟩

/-- A quarter of an hour later the realm is stale, and everything passes. -/
theorem coverage_passes_sample : ∃ cs,
    coverage sampleRealms samplePolicies [sampleRow] 2100000 = .ok cs ∧
      ∀ c ∈ cs, validateCoverage c = .ok () := by
  obtain ⟨cs, hcs, hiff, -⟩ := coverage_passes_iff sampleRealms samplePolicies [sampleRow] 2100000
    (by decide) sampleRow_valid
  refine ⟨cs, hcs, hiff.mpr fun family _ _ => ⟨sampleReporter, List.mem_cons_self, ?_, ?_⟩⟩
  · unfold SetAside
    decide
  · rintro ⟨-, row, hrow, -, -, hstart⟩
    rw [List.mem_singleton.mp hrow] at hstart
    revert hstart
    decide

end AnalyticsRpc

end RustyAuth
