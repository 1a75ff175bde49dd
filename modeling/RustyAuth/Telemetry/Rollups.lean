/-
  The overview and the series of the fleet's analytics.

  Both are computed from the rows of one query: the overview adds up all of them, and a series
  gathers them by the start of its step and makes a point of each group.  Every counter is a
  sum (`metricPoint_counter`, `overview_counter`), so the points of a series add up to what the
  overview says, whatever the step.
-/
import RustyAuth.Analytics.Rollup
import RustyAuth.Telemetry.Granularity
import RustyAuth.Library.Groups

namespace RustyAuth.AnalyticsRpc

open RustyAuth.Library

/-! ## Model -/

/-- What a query has read. -/
structure AnalyticsData where
  range : EffectiveRange
  records : List LedgerRow
  coverage : List ReportingCoverage

def AnalyticsData.buckets (data : AnalyticsData) : List TelemetryBucket := data.records.map Prod.snd

structure AuthenticationAggregate where
  attempts : Nat
  successes : Nat
  failures : Nat
  denials : Nat
  successRateNumerator : Nat
  successRateDenominator : Nat
  latencyCount : Nat
  latencySumMilliseconds : Nat
  latencyP95UpperBoundMilliseconds : Nat
  latencyP95Available : Bool
  activeAccountObservations : Nat
deriving DecidableEq

def authenticationAggregate (rollup : AuthenticationRollup) : AuthenticationAggregate where
  attempts := rollup.attempts
  successes := rollup.successes
  failures := rollup.failures
  denials := rollup.denials
  successRateNumerator := rollup.successRateNumerator
  successRateDenominator := rollup.successRateDenominator
  latencyCount := rollup.latencyCount
  latencySumMilliseconds := rollup.latencySumMilliseconds
  latencyP95UpperBoundMilliseconds := rollup.latencyP95UpperBoundMilliseconds.getD 0
  latencyP95Available := rollup.latencyP95UpperBoundMilliseconds.isSome
  activeAccountObservations := rollup.activeAccountObservations

/-- `aggregate_authentication(..).map_err(source)`. -/
def rollupOf (buckets : List TelemetryBucket) : RpcResult AuthenticationRollup :=
  (aggregateAuthentication buckets).mapError fun _ => sourceFailed

def authentication (data : AnalyticsData) : RpcResult AuthenticationAggregate := do
  let rollup ← rollupOf data.buckets
  return authenticationAggregate rollup

/-- Add the counter of a family, if the bucket has the family. -/
def addFamily (total : Nat) : Option Nat → RpcResult Nat
  | some value => checked total value
  | none => return total

/-- What the loop of the overview adds up. -/
structure OverviewCounts where
  registrationsCompleted : Nat
  sessionsCreated : Nat
  serviceAccountCalls : Nat
  webhookDeliveries : Nat
  webhookFailures : Nat
deriving DecidableEq

def OverviewCounts.add (counts : OverviewCounts) (bucket : TelemetryBucket) :
    RpcResult OverviewCounts := do
  let registrationsCompleted ← addFamily counts.registrationsCompleted
    (bucket.registration.map (·.registrationsCompleted))
  let sessionsCreated ← addFamily counts.sessionsCreated
    (bucket.sessionsAndTokens.map (·.sessionsCreated))
  let serviceAccountCalls ← addFamily counts.serviceAccountCalls
    (bucket.serviceAccounts.map (·.calls))
  let webhookDeliveries ← addFamily counts.webhookDeliveries (bucket.webhooks.map (·.deliveries))
  let webhookFailures ← addFamily counts.webhookFailures (bucket.webhooks.map (·.failures))
  return ⟨registrationsCompleted, sessionsCreated, serviceAccountCalls, webhookDeliveries,
    webhookFailures⟩

structure AnalyticsOverview where
  effectiveRange : EffectiveRange
  lastCompleteWindowStartUnixMilliseconds : Int
  authentication : AuthenticationAggregate
  counts : OverviewCounts
  coverage : List ReportingCoverage

def overview (data : AnalyticsData) : RpcResult AnalyticsOverview := do
  let authentication ← authentication data
  let counts ← data.buckets.foldlM OverviewCounts.add ⟨0, 0, 0, 0, 0⟩
  return {
    effectiveRange := data.range
    lastCompleteWindowStartUnixMilliseconds :=
      ((data.coverage.find? (·.metricFamily.asKnown = some .authentication)).map
        (·.lastCompleteWindowStartUnixMilliseconds)).getD 0
    authentication
    counts
    coverage := data.coverage }

inductive AnalyticsMetric
  | unspecified
  | authenticationAttempts
  | authenticationSuccesses
  | authenticationFailures
  | authenticationDenials
  | authenticationSuccessRate
  | authenticationP95Milliseconds
  | registrationsCompleted
  | sessionsCreated
  | serviceAccountCalls
  | webhookFailures
deriving DecidableEq

/-- An `f64`, by what it is computed from. -/
inductive PointValue
  | count (n : Nat)
  | ratio (numerator denominator : Nat)
deriving DecidableEq

structure MetricPoint where
  startsAtUnixMilliseconds : Int
  value : PointValue
  numerator : Nat
  denominator : Nat
  available : Bool
deriving DecidableEq

def familySum (buckets : List TelemetryBucket) (value : TelemetryBucket → Option Nat) :
    RpcResult Nat :=
  buckets.foldlM (fun total bucket => checked total ((value bucket).getD 0)) 0

/-- The point of a counter. -/
def countPoint (startsAt : Int) (n : Nat) : MetricPoint := ⟨startsAt, .count n, n, 0, true⟩

def metricPoint (startsAt : Int) (metric : AnalyticsMetric) (buckets : List TelemetryBucket) :
    RpcResult MetricPoint := do
  let authentication ← rollupOf buckets
  match metric with
  | .authenticationAttempts => return countPoint startsAt authentication.attempts
  | .authenticationSuccesses => return countPoint startsAt authentication.successes
  | .authenticationFailures => return countPoint startsAt authentication.failures
  | .authenticationDenials => return countPoint startsAt authentication.denials
  | .authenticationSuccessRate =>
      return ⟨startsAt, .ratio authentication.successes authentication.attempts,
        authentication.successes, authentication.attempts, 0 < authentication.attempts⟩
  | .authenticationP95Milliseconds =>
      let value := authentication.latencyP95UpperBoundMilliseconds
      return ⟨startsAt, .count (value.getD 0), 0, 0, value.isSome⟩
  | .registrationsCompleted => do
      let value ← familySum buckets fun bucket =>
        bucket.registration.map (·.registrationsCompleted)
      return countPoint startsAt value
  | .sessionsCreated => do
      let value ← familySum buckets fun bucket => bucket.sessionsAndTokens.map (·.sessionsCreated)
      return countPoint startsAt value
  | .serviceAccountCalls => do
      let value ← familySum buckets fun bucket => bucket.serviceAccounts.map (·.calls)
      return countPoint startsAt value
  | .webhookFailures => do
      let value ← familySum buckets fun bucket => bucket.webhooks.map (·.failures)
      return countPoint startsAt value
  | .unspecified => .error (invalid "analytics metric is unspecified")

/-- The buckets of each step of the range. -/
def seriesGroups (data : AnalyticsData) : List (Int × List TelemetryBucket) :=
  gather (fun bucket => align bucket.bucketStartUnixMilliseconds data.range.step) [] data.buckets

def queryMetricSeries (data : AnalyticsData) (metric : EnumValue AnalyticsMetric) :
    RpcResult (List MetricPoint) := do
  let metric ← okOr (metric.asKnown.filter (decide <| · ≠ .unspecified))
    (invalid "analytics metric is required and must be known")
  (seriesGroups data).mapM fun group => metricPoint group.1 metric group.2

/-! ## Counters -/

/-- The counter metrics, by the total that the overview has of them. -/
def AnalyticsMetric.counter : AnalyticsMetric → Option (AnalyticsOverview → Nat)
  | .authenticationAttempts => some (·.authentication.attempts)
  | .authenticationSuccesses => some (·.authentication.successes)
  | .authenticationFailures => some (·.authentication.failures)
  | .authenticationDenials => some (·.authentication.denials)
  | .registrationsCompleted => some (·.counts.registrationsCompleted)
  | .sessionsCreated => some (·.counts.sessionsCreated)
  | .serviceAccountCalls => some (·.counts.serviceAccountCalls)
  | .webhookFailures => some (·.counts.webhookFailures)
  | _ => none

/-- What a bucket adds to a counter metric. -/
def AnalyticsMetric.measure : AnalyticsMetric → TelemetryBucket → Nat
  | .authenticationAttempts => amount (·.attempts)
  | .authenticationSuccesses => amount (·.successes)
  | .authenticationFailures => amount (·.failures)
  | .authenticationDenials => amount (·.denials)
  | .registrationsCompleted =>
      fun bucket => (bucket.registration.map (·.registrationsCompleted)).getD 0
  | .sessionsCreated => fun bucket => (bucket.sessionsAndTokens.map (·.sessionsCreated)).getD 0
  | .serviceAccountCalls => fun bucket => (bucket.serviceAccounts.map (·.calls)).getD 0
  | .webhookFailures => fun bucket => (bucket.webhooks.map (·.failures)).getD 0
  | _ => fun _ => 0

theorem checked_eq_ok {left right sum : Nat} :
    checked left right = .ok sum ↔ left + right ≤ u64Max ∧ sum = left + right := by
  unfold checked
  split
  · next h => simp [h, eq_comm]
  · next h => simp [h]

/-- A family that is not there adds zero. -/
theorem addFamily_eq_ok {total sum : Nat} {value : Option Nat} (h : addFamily total value = .ok sum)
    (htotal : total ≤ u64Max) : sum = total + value.getD 0 ∧ sum ≤ u64Max := by
  cases value with
  | none =>
    cases h
    exact ⟨rfl, htotal⟩
  | some value =>
    obtain ⟨hle, rfl⟩ := checked_eq_ok.mp h
    exact ⟨rfl, hle⟩

/-- Every counter of the loop, and what it counts. -/
def overviewCounters : List ((OverviewCounts → Nat) × (TelemetryBucket → Nat)) :=
  [((·.registrationsCompleted), AnalyticsMetric.measure .registrationsCompleted),
    ((·.sessionsCreated), AnalyticsMetric.measure .sessionsCreated),
    ((·.serviceAccountCalls), AnalyticsMetric.measure .serviceAccountCalls),
    ((·.webhookFailures), AnalyticsMetric.measure .webhookFailures)]

variable {bucket : TelemetryBucket}

theorem add_eq_ok {counts counts' : OverviewCounts} (h : counts.add bucket = .ok counts')
    (hdeliveries : counts.webhookDeliveries ≤ u64Max) :
    counts'.webhookDeliveries ≤ u64Max ∧
    ∀ c ∈ overviewCounters, c.1 counts ≤ u64Max →
      c.1 counts' = c.1 counts + c.2 bucket ∧ c.1 counts' ≤ u64Max := by
  unfold OverviewCounts.add at h
  simp only [bind_eq_ok, pure_eq_ok] at h
  obtain ⟨_, h1, _, h2, _, h3, _, h4, _, h5, rfl⟩ := h
  refine ⟨(addFamily_eq_ok h4 hdeliveries).2, ?_⟩
  simp only [overviewCounters, List.forall_mem_cons]
  exact ⟨addFamily_eq_ok h1, addFamily_eq_ok h2, addFamily_eq_ok h3, addFamily_eq_ok h5,
    List.forall_mem_nil _⟩

theorem foldlM_add_eq_ok {buckets : List TelemetryBucket} {counts counts' : OverviewCounts}
    (h : buckets.foldlM OverviewCounts.add counts = .ok counts')
    (hdeliveries : counts.webhookDeliveries ≤ u64Max) :
    ∀ c ∈ overviewCounters, c.1 counts ≤ u64Max →
      c.1 counts' = c.1 counts + total c.2 buckets ∧ c.1 counts' ≤ u64Max := by
  induction buckets generalizing counts with
  | nil =>
    cases h
    exact fun c _ hc => ⟨rfl, hc⟩
  | cons bucket buckets ih =>
    rw [List.foldlM_cons, bind_eq_ok] at h
    obtain ⟨next, hnext, h⟩ := h
    obtain ⟨hdeliveries', hcounters⟩ := add_eq_ok hnext hdeliveries
    intro c hc hle
    obtain ⟨hone, hone'⟩ := hcounters c hc hle
    obtain ⟨hrest, hrest'⟩ := ih h hdeliveries' c hc hone'
    rw [hone] at hrest
    exact ⟨by rw [hrest, total_cons, Nat.add_assoc], hrest'⟩

theorem familySum_eq {buckets : List TelemetryBucket} {value : TelemetryBucket → Option Nat}
    (h : total (fun bucket => (value bucket).getD 0) buckets ≤ u64Max) :
    familySum buckets value = .ok (total (fun bucket => (value bucket).getD 0) buckets) := by
  suffices hfold : ∀ sum, sum + total (fun bucket => (value bucket).getD 0) buckets ≤ u64Max →
      buckets.foldlM (fun total bucket => checked total ((value bucket).getD 0)) sum =
        .ok (sum + total (fun bucket => (value bucket).getD 0) buckets) by
    have hsum := hfold 0 (by omega)
    rwa [Nat.zero_add] at hsum
  clear h
  induction buckets with
  | nil =>
    intro sum _
    rfl
  | cons bucket buckets ih =>
    intro sum hle
    rw [total_cons] at hle ⊢
    rw [List.foldlM_cons, checked_eq (by omega)]
    show List.foldlM _ (sum + (value bucket).getD 0) buckets = _
    rw [ih _ (by omega), Nat.add_assoc]

/-- A point of a counter metric has the total of its group. -/
theorem metricPoint_counter {metric : AnalyticsMetric} (hmetric : metric.counter ≠ none)
    {buckets : List TelemetryBucket}
    (hvalid : ∀ bucket ∈ buckets, validateBucket bucket = .ok ())
    (hfits : ∀ f ∈ additive, total (amount f) buckets ≤ u64Max)
    (hmeasure : total metric.measure buckets ≤ u64Max) (startsAt : Int) :
    metricPoint startsAt metric buckets =
      .ok (countPoint startsAt (total metric.measure buckets)) := by
  have hrollup : rollupOf buckets = .ok (totalsOf buckets).rollup := by
    unfold rollupOf
    rw [(aggregateAuthentication_eq_ok hvalid _).mpr ⟨hfits, rfl⟩]
    rfl
  unfold metricPoint
  rw [hrollup]
  cases metric with
  | unspecified => exact absurd rfl hmetric
  | authenticationSuccessRate => exact absurd rfl hmetric
  | authenticationP95Milliseconds => exact absurd rfl hmetric
  | authenticationAttempts => rfl
  | authenticationSuccesses => rfl
  | authenticationFailures => rfl
  | authenticationDenials => rfl
  | registrationsCompleted =>
    show (familySum buckets _ >>= _) = _
    rw [familySum_eq hmeasure]
    rfl
  | sessionsCreated =>
    show (familySum buckets _ >>= _) = _
    rw [familySum_eq hmeasure]
    rfl
  | serviceAccountCalls =>
    show (familySum buckets _ >>= _) = _
    rw [familySum_eq hmeasure]
    rfl
  | webhookFailures =>
    show (familySum buckets _ >>= _) = _
    rw [familySum_eq hmeasure]
    rfl

/-- What an overview that is answered says of its rows. -/
structure OverviewSums (data : AnalyticsData) (answer : AnalyticsOverview) : Prop where
  valid : ∀ bucket ∈ data.buckets, validateBucket bucket = .ok ()
  fits : ∀ f ∈ additive, total (amount f) data.buckets ≤ u64Max
  counter : ∀ metric counter, AnalyticsMetric.counter metric = some counter →
    counter answer = total metric.measure data.buckets ∧
      total metric.measure data.buckets ≤ u64Max

theorem overview_counter {data : AnalyticsData} {answer : AnalyticsOverview}
    (h : overview data = .ok answer) : OverviewSums data answer := by
  unfold overview authentication rollupOf at h
  simp only [bind_eq_ok, mapError_eq_ok, pure_eq_ok] at h
  obtain ⟨_, ⟨rollup, hrollup, rfl⟩, counts, hcounts, rfl⟩ := h
  have hvalid := valid_of_aggregate hrollup
  obtain ⟨hfits, rfl⟩ := (aggregateAuthentication_eq_ok hvalid rollup).mp hrollup
  have hcounters : ∀ c ∈ overviewCounters, c.1 counts = total c.2 data.buckets ∧
      total c.2 data.buckets ≤ u64Max := by
    intro c hc
    have hzero : c.1 ⟨0, 0, 0, 0, 0⟩ = 0 := by
      revert c
      simp [overviewCounters]
    obtain ⟨hsum, hle⟩ := foldlM_add_eq_ok hcounts (Nat.zero_le _) c hc (by omega)
    rw [hzero, Nat.zero_add] at hsum
    exact ⟨hsum, hsum ▸ hle⟩
  have hadditive := forall_additive.mp hfits
  simp only [overviewCounters, List.forall_mem_cons] at hcounters
  refine ⟨hvalid, hfits, fun metric counter hcounter => ?_⟩
  cases metric with
  | unspecified => cases hcounter
  | authenticationSuccessRate => cases hcounter
  | authenticationP95Milliseconds => cases hcounter
  | authenticationAttempts =>
    cases hcounter
    exact ⟨rfl, hadditive.1⟩
  | authenticationSuccesses =>
    cases hcounter
    exact ⟨rfl, hadditive.2.1⟩
  | authenticationFailures =>
    cases hcounter
    exact ⟨rfl, hadditive.2.2.1⟩
  | authenticationDenials =>
    cases hcounter
    exact ⟨rfl, hadditive.2.2.2.1⟩
  | registrationsCompleted =>
    cases hcounter
    exact hcounters.1
  | sessionsCreated =>
    cases hcounter
    exact hcounters.2.1
  | serviceAccountCalls =>
    cases hcounter
    exact hcounters.2.2.1
  | webhookFailures =>
    cases hcounter
    exact hcounters.2.2.2.1

/-! ## Groups -/

theorem mapM_eq {ε α β : Type} {f : α → Except ε β} {g : α → β} {l : List α}
    (h : ∀ a ∈ l, f a = .ok (g a)) : l.mapM f = .ok (l.map g) := by
  induction l with
  | nil => rfl
  | cons a l ih =>
    obtain ⟨ha, hl⟩ := List.forall_mem_cons.mp h
    rw [List.mapM_cons, ha, ih hl]
    rfl

/-- The points of a counter add up to the overview, whatever the step. -/
theorem series_sums {data : AnalyticsData} {answer : AnalyticsOverview} {metric : AnalyticsMetric}
    {counter : AnalyticsOverview → Nat} (hcounter : metric.counter = some counter)
    (hanswer : overview data = .ok answer) :
    ∃ points, queryMetricSeries data (.known metric) = .ok points ∧
      (points.map (·.numerator)).sum = counter answer := by
  have h := overview_counter hanswer
  obtain ⟨htotal, hle⟩ := h.counter metric counter hcounter
  have hgathered : ∀ weight : TelemetryBucket → Nat,
      (((seriesGroups data).map Prod.snd).map (total weight)).sum = total weight data.buckets := by
    intro weight
    have hsum := sum_gather (fun bucket : TelemetryBucket =>
      align bucket.bucketStartUnixMilliseconds data.range.step) weight [] data.buckets
    rw [List.map_nil, List.sum_nil, Nat.zero_add] at hsum
    rw [List.map_map]
    exact hsum
  have hgroup : ∀ weight : TelemetryBucket → Nat, ∀ group ∈ seriesGroups data,
      total weight group.2 ≤ total weight data.buckets := by
    intro weight group hmem
    rw [← hgathered weight]
    exact total_le_of_mem weight (List.mem_map_of_mem hmem)
  have hpoints : ∀ group ∈ seriesGroups data, metricPoint group.1 metric group.2 =
      .ok (countPoint group.1 (total metric.measure group.2)) := by
    intro group hmem
    refine metricPoint_counter (by rw [hcounter]; exact Option.some_ne_none _) ?_ ?_ ?_ group.1
    · intro bucket hbucket
      rcases mem_gather hmem hbucket with hbucket | ⟨_, hnil, _⟩
      · exact h.valid bucket hbucket
      · cases hnil
    · exact fun f hf => Nat.le_trans (hgroup (amount f) group hmem) (h.fits f hf)
    · exact Nat.le_trans (hgroup metric.measure group hmem) hle
  have hspecified : metric ≠ .unspecified := by
    rintro rfl
    cases hcounter
  refine ⟨(seriesGroups data).map fun group =>
    countPoint group.1 (total metric.measure group.2), ?_, ?_⟩
  · unfold queryMetricSeries
    rw [show okOr ((EnumValue.known metric).asKnown.filter (decide <| · ≠ .unspecified))
      (invalid "analytics metric is required and must be known") = .ok metric by
        rw [okOr_eq_ok]
        simp [EnumValue.asKnown, hspecified]]
    exact mapM_eq hpoints
  · rw [htotal, ← hgathered metric.measure, List.map_map, List.map_map]
    rfl

/-! ## Rollups as sums -/

/-- The fields of a rollup that add up, and what they add; an empty histogram is all zeros. -/
def rollupFields : List ((AuthenticationRollup → Nat) × (AuthenticationMetrics → Nat)) :=
  [((·.attempts), (·.attempts)), ((·.successes), (·.successes)), ((·.failures), (·.failures)),
    ((·.denials), (·.denials)), ((·.activeAccountObservations), (·.activeAccountObservations)),
    ((·.latencyCount), latencyCountOf), ((·.latencySumMilliseconds), latencySumOf)] ++
  (List.range latencySlots).map fun i => ((·.latencyCumulativeCounts.getD i 0), latencySlotOf i)

theorem slot_totalsOf {i : Nat} (hi : i < latencySlots) (buckets : List TelemetryBucket) :
    (totalsOf buckets).rollup.latencyCumulativeCounts.getD i 0 =
      total (amount (latencySlotOf i)) buckets := by
  show (totalsOf buckets).latencyCumulativeCounts.getD i 0 = _
  unfold totalsOf
  dsimp only
  cases hany : buckets.any (·.authentication.isSome) with
  | true =>
    rw [if_pos rfl, List.getD_eq_getElem?_getD, List.getElem?_map, List.getElem?_range hi]
    rfl
  | false =>
    rw [total_eq_zero hany]
    rfl

theorem field_totalsOf {field : (AuthenticationRollup → Nat) × (AuthenticationMetrics → Nat)}
    (h : field ∈ rollupFields) (buckets : List TelemetryBucket) :
    field.1 (totalsOf buckets).rollup = total (amount field.2) buckets := by
  rcases List.mem_append.mp h with h | h
  · simp only [List.mem_cons, List.not_mem_nil, or_false] at h
    rcases h with rfl | rfl | rfl | rfl | rfl | rfl | rfl <;> rfl
  · obtain ⟨i, hi, rfl⟩ := List.mem_map.mp h
    exact slot_totalsOf (List.mem_range.mp hi) buckets

theorem totalsOf_perm {buckets other : List TelemetryBucket} (h : other.Perm buckets) :
    totalsOf other = totalsOf buckets := by
  have hany : other.any (·.authentication.isSome) = buckets.any (·.authentication.isSome) := by
    rw [Bool.eq_iff_iff, List.any_eq_true, List.any_eq_true]
    simp only [h.mem_iff]
  unfold totalsOf
  simp only [total_perm _ h, hany]

/-- The order of the buckets does not matter, also for a failure. -/
theorem aggregateAuthentication_perm {buckets other : List TelemetryBucket}
    (hvalid : ∀ bucket ∈ buckets, validateBucket bucket = .ok ()) (h : other.Perm buckets) :
    aggregateAuthentication other = aggregateAuthentication buckets := by
  have hvalid' : ∀ bucket ∈ other, validateBucket bucket = .ok () :=
    fun bucket hbucket => hvalid bucket (h.mem_iff.mp hbucket)
  have hok : ∀ rollup, aggregateAuthentication other = .ok rollup ↔
      aggregateAuthentication buckets = .ok rollup := by
    intro rollup
    rw [aggregateAuthentication_eq_ok hvalid, aggregateAuthentication_eq_ok hvalid',
      totalsOf_perm h]
    simp only [total_perm _ h]
  cases hresult : aggregateAuthentication buckets with
  | ok rollup => exact (hok rollup).mpr hresult
  | error e =>
    cases hother : aggregateAuthentication other with
    | ok rollup =>
      rw [(hok rollup).mp hother] at hresult
      cases hresult
    | error e' =>
      rw [aggregateAuthentication_failsWith hvalid e hresult,
        aggregateAuthentication_failsWith hvalid' e' hother]

theorem amount_slot_le (hvalid : validateBucket bucket = .ok ()) {i : Nat}
    (hi : i + 1 < latencySlots) :
    amount (latencySlotOf i) bucket ≤ amount (latencySlotOf (i + 1)) bucket := by
  unfold amount
  cases hsome : bucket.authentication with
  | none => exact Nat.le_refl 0
  | some authentication =>
    obtain ⟨histogram, hsound⟩ := soundAuthentication_of_mem hvalid hsome
    have hlength := hsound.length
    show latencySlotOf i authentication ≤ latencySlotOf (i + 1) authentication
    unfold latencySlotOf
    rw [hsound.latency]
    have hstep := List.isChain_iff_getElem.mp hsound.ordered i (by omega)
    rwa [Option.map_some, Option.map_some, Option.getD_some, Option.getD_some,
      List.getD_eq_getElem?_getD, List.getD_eq_getElem?_getD,
      List.getElem?_eq_getElem (by omega), List.getElem?_eq_getElem (by omega)]

/-- What the parts of a bucket have to do with each other. -/
theorem amount_parts (hvalid : validateBucket bucket = .ok ()) :
    amount (·.attempts) bucket = amount (·.successes) bucket + amount (·.failures) bucket +
        amount (·.denials) bucket ∧
      amount latencyCountOf bucket = amount (·.attempts) bucket ∧
      amount (latencySlotOf (latencySlots - 1)) bucket = amount latencyCountOf bucket := by
  unfold amount
  cases hsome : bucket.authentication with
  | none => exact ⟨rfl, rfl, rfl⟩
  | some authentication =>
    obtain ⟨histogram, hsound⟩ := soundAuthentication_of_mem hvalid hsome
    refine ⟨hsound.outcomes, ?_, ?_⟩
    · show latencyCountOf authentication = _
      unfold latencyCountOf
      rw [hsound.latency]
      exact hsound.count
    · show latencySlotOf (latencySlots - 1) authentication = latencyCountOf authentication
      unfold latencySlotOf latencyCountOf
      rw [hsound.latency]
      exact hsound.last

/-- The counts of a rollup are consistent: outcomes with attempts, and the histogram with both. -/
structure ConsistentRollup (rollup : AuthenticationRollup) : Prop where
  outcomes : rollup.attempts = rollup.successes + rollup.failures + rollup.denials
  slots : rollup.latencyCumulativeCounts = [] ∨
    rollup.latencyCumulativeCounts.length = latencySlots
  ordered : ∀ i, i + 1 < latencySlots →
    rollup.latencyCumulativeCounts.getD i 0 ≤ rollup.latencyCumulativeCounts.getD (i + 1) 0
  last : rollup.latencyCumulativeCounts.getD (latencySlots - 1) 0 = rollup.latencyCount
  latencies : rollup.latencyCount = rollup.attempts

theorem consistent_totalsOf {buckets : List TelemetryBucket}
    (hvalid : ∀ bucket ∈ buckets, validateBucket bucket = .ok ()) :
    ConsistentRollup (totalsOf buckets).rollup := by
  constructor
  · show total (amount (·.attempts)) buckets = total (amount (·.successes)) buckets +
      total (amount (·.failures)) buckets + total (amount (·.denials)) buckets
    rw [← total_add, ← total_add]
    exact total_congr fun bucket hbucket => (amount_parts (hvalid bucket hbucket)).1
  · show (if buckets.any (·.authentication.isSome) then _ else []) = [] ∨
      (if buckets.any (·.authentication.isSome) then _ else []).length = latencySlots
    split
    · exact Or.inr ((List.length_map _).trans List.length_range)
    · exact Or.inl rfl
  · intro i hi
    rw [slot_totalsOf (by omega), slot_totalsOf hi]
    exact total_le_total fun bucket hbucket => amount_slot_le (hvalid bucket hbucket) hi
  · rw [slot_totalsOf (by decide)]
    exact total_congr fun bucket hbucket => (amount_parts (hvalid bucket hbucket)).2.2
  · exact total_congr fun bucket hbucket => (amount_parts (hvalid bucket hbucket)).2.1

/-- The rollups of the groups that the buckets are cut into add up to the rollup of all. -/
theorem groups_sum {buckets : List TelemetryBucket}
    (hvalid : ∀ bucket ∈ buckets, validateBucket bucket = .ok ())
    (hfits : ∀ f ∈ additive, total (amount f) buckets ≤ u64Max)
    {groups : List (List TelemetryBucket)} (hgroups : groups.flatten.Perm buckets) :
    ∃ rollups, groups.mapM aggregateAuthentication = .ok rollups ∧
      ∀ field ∈ rollupFields,
        field.1 (totalsOf buckets).rollup = (rollups.map field.1).sum := by
  have hsum : ∀ weight : TelemetryBucket → Nat,
      total weight buckets = (groups.map (total weight)).sum := by
    intro weight
    rw [← total_perm weight hgroups, total_flatten]
  refine ⟨groups.map fun group => (totalsOf group).rollup, mapM_eq fun group hgroup => ?_, ?_⟩
  · rw [aggregateAuthentication_eq_ok]
    · refine ⟨fun f hf => Nat.le_trans ?_ (hfits f hf), rfl⟩
      rw [hsum]
      exact total_le_of_mem (amount f) hgroup
    · intro bucket hbucket
      exact hvalid bucket (hgroups.mem_iff.mp (List.mem_flatten.mpr ⟨group, hgroup, hbucket⟩))
  · intro field hfield
    rw [field_totalsOf hfield, hsum, List.map_map]
    congr 1
    refine List.map_congr_left fun group _ => ?_
    exact (field_totalsOf hfield group).symm

/-- A rollup of validated buckets fails exactly if a total exceeds `u64`, and otherwise is their
    sum, in any order and cut into groups in any way; its counts are consistent.  So the points of
    a series add up to the counters of the overview. -/
theorem rollups_are_sums {buckets : List TelemetryBucket}
    (hvalid : ∀ bucket ∈ buckets, validateBucket bucket = .ok ()) :
    (aggregateAuthentication buckets = .error (.contract .aggregateOverflow) ↔
      Overflows buckets) ∧
    ((∃ rollup, aggregateAuthentication buckets = .ok rollup) ↔ ¬Overflows buckets) ∧
    (∀ other, other.Perm buckets →
      aggregateAuthentication other = aggregateAuthentication buckets) ∧
    (∀ rollup, aggregateAuthentication buckets = .ok rollup →
      ConsistentRollup rollup ∧
      ∀ groups : List (List TelemetryBucket), groups.flatten.Perm buckets → ∃ rollups,
        groups.mapM aggregateAuthentication = .ok rollups ∧
        ∀ field ∈ rollupFields, field.1 rollup = (rollups.map field.1).sum) ∧
    ∀ data metric counter answer, AnalyticsMetric.counter metric = some counter →
      overview data = .ok answer → ∃ points,
        queryMetricSeries data (.known metric) = .ok points ∧
        (points.map (·.numerator)).sum = counter answer := by
  have hfits : ¬Overflows buckets ↔ ∀ f ∈ additive, total (amount f) buckets ≤ u64Max := by
    unfold Overflows
    push Not
    rfl
  have hok : (∃ rollup, aggregateAuthentication buckets = .ok rollup) ↔ ¬Overflows buckets := by
    rw [hfits]
    constructor
    · rintro ⟨rollup, h⟩
      exact ((aggregateAuthentication_eq_ok hvalid rollup).mp h).1
    · intro h
      exact ⟨_, (aggregateAuthentication_eq_ok hvalid _).mpr ⟨h, rfl⟩⟩
  refine ⟨?_, hok, fun other => aggregateAuthentication_perm hvalid, ?_, ?_⟩
  · cases hresult : aggregateAuthentication buckets with
    | ok rollup =>
      exact iff_of_false (fun h => by cases h) (hok.mp ⟨rollup, hresult⟩)
    | error e =>
      rw [aggregateAuthentication_failsWith hvalid e hresult]
      refine iff_of_true rfl ?_
      by_contra hnot
      obtain ⟨rollup, h⟩ := hok.mpr hnot
      rw [h] at hresult
      cases hresult
  · intro rollup h
    obtain ⟨hfits, rfl⟩ := (aggregateAuthentication_eq_ok hvalid rollup).mp h
    exact ⟨consistent_totalsOf hvalid, fun groups => groups_sum hvalid hfits⟩
  · intro data metric counter answer
    exact series_sums

/-- A bucket of three logins, one of them denied, all answered within ten milliseconds. -/
def rolledBucket (start : Int) : TelemetryBucket :=
  { sampleSnapshot 3 with
    bucketStartUnixMilliseconds := start
    authentication := some {
      attempts := 3, successes := 2, failures := 0, denials := 1
      latency := some
        ⟨.known .interactiveMillisecondsV1, 3, 21, [1, 3, 3, 3, 3, 3, 3, 3, 3, 3, 3, 3]⟩
      flows := [⟨.known .passkey, 3, 2, 0, 1⟩]
      failureClasses := [⟨.known .policyDenied, 1⟩]
      activeAccountObservations := 2 } }

theorem rollups_are_sums_twice :
    let buckets := [rolledBucket 900000, rolledBucket 1200000]
    (∀ bucket ∈ buckets, validateBucket bucket = .ok ()) ∧
      ∃ whole part, aggregateAuthentication buckets = .ok whole ∧
        aggregateAuthentication [rolledBucket 900000] = .ok part ∧
        part.attempts = 3 ∧ ConsistentRollup whole := by
  have hvalid : ∀ bucket ∈ [rolledBucket 900000, rolledBucket 1200000],
      validateBucket bucket = .ok () := by decide +kernel
  obtain ⟨_, _, _, hsums, _⟩ := rollups_are_sums hvalid
  have hwhole : ∃ whole,
      aggregateAuthentication [rolledBucket 900000, rolledBucket 1200000] = .ok whole :=
    ⟨_, by rfl⟩
  obtain ⟨whole, hwhole⟩ := hwhole
  exact ⟨hvalid, whole, _, hwhole, by rfl, by rfl, (hsums whole hwhole).1⟩

end RustyAuth.AnalyticsRpc
