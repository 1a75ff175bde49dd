/-
  A series conserves the buckets of its range.

  The points start at the multiples of the width that meet the range (`covers_startsOf`), and
  every bucket of the range falls on one of them, so that the points together hold each bucket
  once (`sum_gather`).  What a point says of a counter is the sum over its buckets
  (`value_foldl`), except for the calls and denials of service accounts, which `addBucket` never
  adds.

  A range of 28 days that does not begin with a bucket meets one bucket more than the store reads
  in one query.
-/
import RustyAuth.Metrics.Percentiles

namespace RustyAuth.MetricsRpc

open RustyAuth.Library

/-! ## Counters -/

/-- The counters that a series can be asked for. -/
def Metric.counter : Metric → Option (LocalMetricBucket → Nat)
  | .authenticationAttempts => some (·.authenticationAttempts)
  | .authenticationSuccesses => some (·.authenticationSuccesses)
  | .authenticationFailures => some (·.authenticationFailures)
  | .registrations => some (·.registrationsCompleted)
  | .sessionsCreated => some (·.sessionsCreated)
  | .tokensIssued => some fun b => b.userTokensIssued + b.serviceTokensIssued
  | .serviceAccountRpcCalls => some (·.serviceAccountCalls)
  | .serviceAccountDenials => some (·.serviceAccountDenials)
  | _ => none

/-- The counters that the accumulator of a point leaves at zero. -/
def Metric.dropped : Metric → Bool
  | .serviceAccountRpcCalls | .serviceAccountDenials => true
  | _ => false

variable {buckets : List LocalMetricBucket} {width now start : Nat} {range : QueryRange}
  {starts : List Nat}

section

variable {metric : Metric} {counter : LocalMetricBucket → Nat}

theorem counter_normalize (h : metric.counter = some counter) (b : LocalMetricBucket) :
    counter b.normalize = counter b := by
  cases metric <;> cases h <;> rfl

theorem foldl_addBucket_field {field : SeriesAggregate → Nat}
    (hcounts : Counts SeriesAggregate.addBucket u64Max field counter)
    (hzero : field .default = 0) (buckets : List LocalMetricBucket) :
    field (buckets.foldl SeriesAggregate.addBucket .default) =
      min (total counter buckets) u64Max := by
  rw [hcounts.foldl buckets .default (by rw [hzero]; exact Nat.zero_le _), hzero, Nat.zero_add]

theorem value_foldl_dropped (hdropped : metric.dropped = true) (buckets : List LocalMetricBucket) :
    (buckets.foldl SeriesAggregate.addBucket .default).value metric = 0 := by
  have hcalls : ∀ a : SeriesAggregate, a.serviceAccountCalls = 0 ∧ a.serviceAccountDenials = 0 →
      (buckets.foldl SeriesAggregate.addBucket a).serviceAccountCalls = 0 ∧
        (buckets.foldl SeriesAggregate.addBucket a).serviceAccountDenials = 0 := by
    induction buckets with
    | nil => exact fun _ h => h
    | cons b buckets ih => exact fun a h => ih (a.addBucket b) h
  obtain ⟨hcalls, hdenials⟩ := hcalls .default ⟨rfl, rfl⟩
  unfold SeriesAggregate.value
  cases metric with
  | serviceAccountRpcCalls =>
    dsimp only
    rw [hcalls]
    rfl
  | serviceAccountDenials =>
    dsimp only
    rw [hdenials]
    rfl
  | _ => cases hdropped

/-- A point shows the sum over its buckets, below the integers that `f64` has all of. -/
theorem value_foldl (h : metric.counter = some counter) (hkept : metric.dropped = false)
    (hbelow : total counter buckets < 2 ^ 53) :
    (buckets.foldl SeriesAggregate.addBucket .default).value metric = total counter buckets := by
  have hmin : min (total counter buckets) u64Max = total counter buckets := by
    unfold u64Max
    omega
  have hvalue : ∀ field : SeriesAggregate → Nat,
      Counts SeriesAggregate.addBucket u64Max field counter → field .default = 0 →
      asF64 (field (buckets.foldl SeriesAggregate.addBucket .default)) = total counter buckets := by
    intro field hcounts hzero
    rw [foldl_addBucket_field hcounts hzero, hmin, asF64_of_lt hbelow]
  unfold SeriesAggregate.value
  cases metric with
  | authenticationAttempts =>
    cases h
    exact hvalue (·.authenticationAttempts) (fun _ _ _ => rfl) rfl
  | authenticationSuccesses =>
    cases h
    exact hvalue (·.authenticationSuccesses) (fun _ _ _ => rfl) rfl
  | authenticationFailures =>
    cases h
    exact hvalue (·.authenticationFailures) (fun _ _ _ => rfl) rfl
  | registrations =>
    cases h
    exact hvalue (·.registrations) (fun _ _ _ => rfl) rfl
  | sessionsCreated =>
    cases h
    exact hvalue (·.sessionsCreated) (fun _ _ _ => rfl) rfl
  | tokensIssued =>
    cases h
    -- two saturating additions are one
    refine hvalue (·.tokensIssued) (fun a b _ => ?_) rfl
    show satAdd (satAdd a.tokensIssued b.userTokensIssued) b.serviceTokensIssued =
      min (a.tokensIssued + (b.userTokensIssued + b.serviceTokensIssued)) u64Max
    unfold satAdd
    omega
  | serviceAccountRpcCalls => cases hkept
  | serviceAccountDenials => cases hkept
  | _ => cases h

end

/-! ## The range -/

theorem granularitySeconds_spec {granularity : EnumValue Granularity}
    (h : granularitySeconds granularity = .ok width) :
    0 < width ∧ bucketWidthSecondsV1 ∣ width ∧ width ≤ 86400 := by
  unfold granularitySeconds at h
  split at h <;> cases h <;> decide

/-- What a valid range is. -/
theorem validatedRange_spec {clock : Rfc3339} {startsAt endsAt : String}
    (h : validatedRange clock now startsAt endsAt = .ok range) :
    range.startsAt < range.endsAt ∧ range.endsAt ≤ now + maxFutureSkewSeconds ∧
      range.endsAt - range.startsAt ≤ maxQuerySeconds := by
  unfold validatedRange at h
  simp only [bind_eq_ok, ensure_eq_ok, pure_eq_ok] at h
  obtain ⟨starts, _, ends, _, _, horder, _, hlong, _, hsoon, rfl⟩ := h
  exact ⟨Nat.not_le.mp horder, (Nat.not_lt.mp hsoon).trans (Nat.min_le_left _ _),
    Nat.not_lt.mp hlong⟩

/-- The buckets that the range meets are as many as one query reads. -/
def QueryRange.Fits (range : QueryRange) : Prop :=
  alignedBucketStart (range.endsAt - 1) - alignedBucketStart range.startsAt < maxQuerySeconds

instance (range : QueryRange) : Decidable range.Fits := Nat.decLt _ _

theorem length_bucketStarts_le_iff (range : QueryRange) :
    ¬maxQueryBuckets < (bucketStarts range.startsAt range.endsAt).length ↔ range.Fits := by
  unfold bucketStarts QueryRange.Fits maxQueryBuckets maxQuerySeconds bucketWidthSecondsV1
  rw [List.length_range']
  unfold alignedBucketStart bucketWidthSecondsV1
  omega

theorem mem_bucketStarts (h : range.startsAt < range.endsAt)
    (hstart : start ∈ bucketStarts range.startsAt range.endsAt) :
    start % bucketWidthSecondsV1 = 0 ∧ alignedBucketStart range.startsAt ≤ start ∧
      start < range.endsAt := by
  obtain ⟨i, hi, rfl⟩ := List.mem_range'.mp hstart
  unfold alignedBucketStart bucketWidthSecondsV1 at *
  omega

/-- The stored buckets that the range meets. -/
def storedBuckets (db : Db) (now : Nat) (range : QueryRange) : List LocalMetricBucket :=
  (bucketStarts range.startsAt range.endsAt).filterMap fun start =>
    db.get now (.analyticsBucket start)

def readBuckets (db : Db) (now : Nat) (range : QueryRange) : List LocalMetricBucket :=
  ((storedBuckets db now range).map LocalMetricBucket.normalize).insertionSort
    (·.bucketStart ≤ ·.bucketStart)

theorem analyticsBuckets_of_fits (db : Db) (now : Nat) (h : range.startsAt < range.endsAt)
    (hfits : range.Fits) :
    db.analyticsBuckets now range.startsAt range.endsAt = .ok (readBuckets db now range) := by
  unfold Db.analyticsBuckets
  rw [if_neg (Nat.not_le.mpr h)]
  simp only [bind_unit_eq_ok, ensure_eq_ok, length_bucketStarts_le_iff]
  exact ⟨hfits, rfl⟩

theorem fits_of_analyticsBuckets {db : Db} (h : range.startsAt < range.endsAt)
    (hbuckets : db.analyticsBuckets now range.startsAt range.endsAt = .ok buckets) :
    range.Fits ∧ buckets = readBuckets db now range := by
  unfold Db.analyticsBuckets at hbuckets
  rw [if_neg (Nat.not_le.mpr h)] at hbuckets
  simp only [bind_unit_eq_ok, ensure_eq_ok, length_bucketStarts_le_iff] at hbuckets
  obtain ⟨hfits, hread⟩ := hbuckets
  exact ⟨hfits, (Except.ok.inj hread).symm⟩

theorem total_readBuckets {metric : Metric} {counter : LocalMetricBucket → Nat}
    (h : metric.counter = some counter) (db : Db) (now : Nat) (range : QueryRange) :
    total counter (readBuckets db now range) = total counter (storedBuckets db now range) := by
  unfold readBuckets
  rw [total_perm counter (List.perm_insertionSort _ _)]
  unfold total
  rw [List.map_map]
  congr 1
  exact List.map_congr_left fun b _ => counter_normalize h b

/-- Buckets are kept under their starts. -/
def StoredByStart (db : Db) (now : Nat) : Prop :=
  ∀ start bucket, db.get now (.analyticsBucket start) = some bucket → bucket.bucketStart = start

theorem mem_readBuckets {db : Db} (hstored : StoredByStart db now) {bucket : LocalMetricBucket}
    (h : bucket ∈ readBuckets db now range) :
    bucket.bucketStart ∈ bucketStarts range.startsAt range.endsAt := by
  obtain ⟨raw, hraw, rfl⟩ := List.mem_map.mp ((List.mem_insertionSort _).mp h)
  obtain ⟨start, hstart, hget⟩ := List.mem_filterMap.mp hraw
  show raw.bucketStart ∈ _
  rw [hstored start raw hget]
  exact hstart

/-! ## The points -/

/-- Aligned starts in order that cover the range. -/
structure Covers (range : QueryRange) (width : Nat) (starts : List Nat) : Prop where
  increasing : starts.Pairwise (· < ·)
  aligned : ∀ start ∈ starts, start % width = 0
  meets : ∀ start ∈ starts, start < range.endsAt ∧ range.startsAt < start + width
  covered : ∀ t, range.startsAt ≤ t → t < range.endsAt →
    ∃ start ∈ starts, start ≤ t ∧ t < start + width

section

variable {width endsAt : Nat}

theorem mem_pointStarts (hwidth : 0 < width) (hle : endsAt + width ≤ u64Max) {turns first : Nat}
    (hturns : endsAt ≤ first + turns) :
    start ∈ pointStarts width endsAt turns first ↔
      ∃ i, start = first + i * width ∧ start < endsAt := by
  induction turns generalizing first with
  | zero =>
    refine iff_of_false List.not_mem_nil ?_
    rintro ⟨i, rfl, hlt⟩
    omega
  | succ turns ih =>
    unfold pointStarts
    split
    · next hlt =>
      have hnext : satAdd first width = first + width := Nat.min_eq_left (by omega)
      rw [hnext, List.mem_cons, ih (by omega)]
      constructor
      · rintro (rfl | ⟨i, rfl, hi⟩)
        · exact ⟨0, by omega, hlt⟩
        · exact ⟨i + 1, by rw [Nat.add_mul]; omega, hi⟩
      · rintro ⟨i, rfl, hi⟩
        cases i with
        | zero => exact Or.inl (by omega)
        | succ i => exact Or.inr ⟨i, by rw [Nat.add_mul]; omega, hi⟩
    · next hge =>
      refine iff_of_false List.not_mem_nil ?_
      rintro ⟨i, rfl, hlt⟩
      omega

theorem pairwise_pointStarts (hwidth : 0 < width) (hle : endsAt + width ≤ u64Max)
    {turns first : Nat} (hturns : endsAt ≤ first + turns) :
    (pointStarts width endsAt turns first).Pairwise (· < ·) := by
  induction turns generalizing first with
  | zero => exact List.Pairwise.nil
  | succ turns ih =>
    unfold pointStarts
    split
    · next hlt =>
      have hnext : satAdd first width = first + width := Nat.min_eq_left (by omega)
      rw [hnext]
      refine List.pairwise_cons.mpr ⟨fun start hstart => ?_, ih (by omega)⟩
      obtain ⟨i, rfl, _⟩ := (mem_pointStarts hwidth hle (by omega)).mp hstart
      omega
    · exact List.Pairwise.nil

end

theorem align_eq (t width : Nat) : align t width = t / width * width := by
  unfold align
  have := Nat.div_add_mod' t width
  omega

section

variable {range : QueryRange} {width : Nat}

/-- The starts of the points. -/
def startsOf (range : QueryRange) (width : Nat) : List Nat :=
  pointStarts width range.endsAt range.endsAt (align range.startsAt width)

theorem mem_startsOf (hwidth : 0 < width) (hle : range.endsAt + width ≤ u64Max) :
    start ∈ startsOf range width ↔
      start % width = 0 ∧ align range.startsAt width ≤ start ∧ start < range.endsAt := by
  unfold startsOf
  rw [mem_pointStarts hwidth hle (Nat.le_add_left _ _), align_eq]
  constructor
  · rintro ⟨i, rfl, hlt⟩
    rw [← Nat.add_mul]
    exact ⟨Nat.mul_mod_left _ _, Nat.mul_le_mul_right _ (Nat.le_add_right _ _), by
      rw [Nat.add_mul]
      exact hlt⟩
  · rintro ⟨hmod, hfirst, hlt⟩
    obtain ⟨k, rfl⟩ := Nat.dvd_of_mod_eq_zero hmod
    rw [Nat.mul_comm width k] at *
    have hk := Nat.le_of_mul_le_mul_right hfirst hwidth
    refine ⟨k - range.startsAt / width, ?_, hlt⟩
    rw [← Nat.add_mul]
    congr 1
    omega

theorem lt_align_add (hwidth : 0 < width) (t : Nat) : t < align t width + width := by
  have := Nat.mod_lt t hwidth
  unfold align
  omega

theorem align_le (t width : Nat) : align t width ≤ t := Nat.sub_le _ _

theorem align_mono {t t' : Nat} (h : t ≤ t') (width : Nat) : align t width ≤ align t' width := by
  rw [align_eq, align_eq]
  exact Nat.mul_le_mul_right _ (Nat.div_le_div_right h)

theorem align_mem_startsOf (hwidth : 0 < width) (hle : range.endsAt + width ≤ u64Max) {t : Nat}
    (hfirst : align range.startsAt width ≤ align t width) (hlast : t < range.endsAt) :
    align t width ∈ startsOf range width := by
  refine (mem_startsOf hwidth hle).mpr ⟨?_, hfirst, (align_le t width).trans_lt hlast⟩
  rw [align_eq]
  exact Nat.mul_mod_left _ _

theorem covers_startsOf (hwidth : 0 < width) (hle : range.endsAt + width ≤ u64Max) :
    Covers range width (startsOf range width) where
  increasing := pairwise_pointStarts hwidth hle (Nat.le_add_left _ _)
  aligned := fun start hstart => ((mem_startsOf hwidth hle).mp hstart).1
  meets := by
    intro start hstart
    obtain ⟨_, hfirst, hlast⟩ := (mem_startsOf hwidth hle).mp hstart
    have := lt_align_add hwidth range.startsAt
    exact ⟨hlast, by omega⟩
  covered := fun t hfirst hlast =>
    ⟨align t width, align_mem_startsOf hwidth hle (align_mono hfirst width) hlast,
      align_le t width, lt_align_add hwidth t⟩

/-- A bucket of the range falls on a point. -/
theorem align_bucketStart_mem (hwidth : 0 < width) (hdvd : bucketWidthSecondsV1 ∣ width)
    (hle : range.endsAt + width ≤ u64Max) (horder : range.startsAt < range.endsAt)
    (h : start ∈ bucketStarts range.startsAt range.endsAt) :
    align start width ∈ startsOf range width := by
  obtain ⟨_, hfirst, hlast⟩ := mem_bucketStarts horder h
  refine align_mem_startsOf hwidth hle ?_ hlast
  -- the start of the range and the start of its first bucket are of one point
  have hsame : align (alignedBucketStart range.startsAt) width = align range.startsAt width := by
    obtain ⟨k, rfl⟩ := hdvd
    have hdiv : alignedBucketStart range.startsAt / bucketWidthSecondsV1 =
        range.startsAt / bucketWidthSecondsV1 := by
      unfold alignedBucketStart bucketWidthSecondsV1
      omega
    rw [align_eq, align_eq, ← Nat.div_div_eq_div_mul, ← Nat.div_div_eq_div_mul, hdiv]
  rw [← hsame]
  exact align_mono hfirst width

end

/-! ## The groups -/

theorem emptyGroups_eq (h : starts.Pairwise (· < ·)) :
    emptyGroups starts = starts.map fun start => (start, SeriesAggregate.default) := by
  unfold emptyGroups
  induction starts using List.reverseRecOn with
  | nil => rfl
  | append_singleton starts start ih =>
    obtain ⟨hstarts, _, hlast⟩ := List.pairwise_append.mp h
    rw [List.foldl_append, ih hstarts, List.map_append]
    refine alter_append fun e he => ?_
    obtain ⟨start', hstart', rfl⟩ := List.mem_map.mp he
    exact hlast start' hstart' start List.mem_cons_self

/-- The buckets of each point. -/
def pointBuckets (width : Nat) (starts : List Nat) (buckets : List LocalMetricBucket) :
    List (Nat × List LocalMetricBucket) :=
  gather (fun bucket : LocalMetricBucket => align bucket.bucketStart width)
    (starts.map fun start => (start, [])) buckets

theorem addToGroups_eq (h : starts.Pairwise (· < ·)) (buckets : List LocalMetricBucket) :
    addToGroups width (·.bucketStart) SeriesAggregate.addBucket (emptyGroups starts) buckets =
      (pointBuckets width starts buckets).map
        (Prod.map id (List.foldl SeriesAggregate.addBucket .default)) := by
  unfold pointBuckets
  rw [map_gather, emptyGroups_eq h, List.map_map]
  rfl

theorem keys_pointBuckets (h : starts.Pairwise (· < ·))
    (hmem : ∀ bucket ∈ buckets, align bucket.bucketStart width ∈ starts) :
    (pointBuckets width starts buckets).map Prod.fst = starts := by
  have hkeys : (starts.map fun start => (start, ([] : List LocalMetricBucket))).map Prod.fst =
      starts := by
    rw [List.map_map]
    exact List.map_id starts
  unfold pointBuckets
  rw [keys_gather (List.pairwise_map.mpr h), hkeys]
  rw [hkeys]
  exact hmem

theorem sum_pointBuckets (counter : LocalMetricBucket → Nat) (width : Nat) (starts : List Nat)
    (buckets : List LocalMetricBucket) :
    ((pointBuckets width starts buckets).map fun e => total counter e.2).sum =
      total counter buckets := by
  have hsum := sum_gather (fun bucket : LocalMetricBucket => align bucket.bucketStart width)
    counter (starts.map fun start => (start, [])) buckets
  rw [List.map_map] at hsum
  have hzero : (starts.map ((fun e : Nat × List LocalMetricBucket => (e.2.map counter).sum) ∘
      fun start => (start, []))).sum = 0 := by
    refine List.sum_eq_zero fun n hn => ?_
    obtain ⟨_, _, rfl⟩ := List.mem_map.mp hn
    rfl
  rw [hzero, Nat.zero_add] at hsum
  exact hsum

/-! ## Conservation -/

/-- A query for a counter that passes every check, before the last five minutes of the year 9999. -/
structure CounterQuery (clock : Rfc3339) (now : Nat) (request : QuerySeriesRequest)
    (times : TimeRange) (range : QueryRange) (width : Nat) (metric : Metric)
    (counter : LocalMetricBucket → Nat) : Prop where
  unfiltered : request.filters = []
  asked : request.metric = .known metric
  counts : metric.counter = some counter
  given : request.range = some times
  valid : validatedRange clock now times.startsAt times.endsAt = .ok range
  step : granularitySeconds request.granularity = .ok width
  present : now + maxFutureSkewSeconds ≤ maxUnixTimestamp

section

variable {clock : Rfc3339} {db : Db} {now : Nat} {request : QuerySeriesRequest}
  {times : TimeRange} {range : QueryRange} {width : Nat} {metric : Metric}
  {counter : LocalMetricBucket → Nat}

theorem CounterQuery.parsed (h : CounterQuery clock now request times range width metric counter) :
    parsedMetric request.metric = .ok metric := by
  have hspecified : metric ≠ .unspecified := by
    rintro rfl
    cases h.counts
  rw [h.asked]
  unfold parsedMetric
  rw [okOr_eq_ok]
  simp [EnumValue.asKnown, hspecified]

theorem CounterQuery.readsDeliveries
    (h : CounterQuery clock now request times range width metric counter) :
    metric.readsDeliveries = false := by
  have hcounter := h.counts
  cases metric <;> first | rfl | cases hcounter

theorem CounterQuery.endsAt_le
    (h : CounterQuery clock now request times range width metric counter) :
    range.endsAt + width ≤ u64Max := by
  have hends := (validatedRange_spec h.valid).2.1.trans h.present
  have hwidth := (granularitySeconds_spec h.step).2.2
  unfold maxUnixTimestamp at hends
  unfold u64Max
  omega

/-- The points of a query that is answered. -/
def pointsOf (clock : Rfc3339) (db : Db) (now : Nat) (range : QueryRange) (width : Nat)
    (metric : Metric) : List MetricPoint :=
  (pointBuckets width (startsOf range width) (readBuckets db now range)).map fun e =>
    ⟨clock.format e.1, (e.2.foldl SeriesAggregate.addBucket .default).value metric⟩

theorem keys_points (h : CounterQuery clock now request times range width metric counter)
    (hstored : StoredByStart db now) :
    (pointBuckets width (startsOf range width) (readBuckets db now range)).map Prod.fst =
      startsOf range width := by
  obtain ⟨hwidth, hdvd, _⟩ := granularitySeconds_spec h.step
  have horder := (validatedRange_spec h.valid).1
  refine keys_pointBuckets (covers_startsOf hwidth h.endsAt_le).increasing fun bucket hbucket => ?_
  exact align_bucketStart_mem hwidth hdvd h.endsAt_le horder (mem_readBuckets hstored hbucket)

theorem querySeries_of_fits (h : CounterQuery clock now request times range width metric counter)
    (hstored : StoredByStart db now) (hfits : range.Fits) :
    querySeries clock db now request = .ok (pointsOf clock db now range width metric) := by
  obtain ⟨horder, hends, _⟩ := validatedRange_spec h.valid
  have hwidth := (granularitySeconds_spec h.step).1
  have hcovers := covers_startsOf hwidth h.endsAt_le
  -- every key is a start, so before the end of the range
  have hkey : ∀ e ∈ pointBuckets width (startsOf range width) (readBuckets db now range),
      e.1 < range.endsAt := by
    intro e he
    have hmem := List.mem_map_of_mem (f := Prod.fst) he
    rw [keys_points h hstored] at hmem
    exact (hcovers.meets e.1 hmem).1
  unfold querySeries
  simp only [bind_eq_ok, ensure_eq_ok, okOr_eq_ok, mapError_eq_ok]
  refine ⟨(), h.unfiltered, metric, h.parsed, times, h.given, range, h.valid, width, h.step, _,
    analyticsBuckets_of_fits db now horder hfits, ?_⟩
  rw [if_neg (by rw [h.readsDeliveries]; exact Bool.false_ne_true)]
  show ((addToGroups width _ _ (emptyGroups (startsOf range width)) _).filter _).mapM _ = _
  rw [addToGroups_eq hcovers.increasing, List.filter_eq_self.mpr, mapM_eq_ok]
  · unfold pointsOf
    rw [List.forall₂_map_left_iff, List.forall₂_map_right_iff, List.forall₂_same]
    intro e he
    have hformat : formatTimestamp clock e.1 = .ok (clock.format e.1) := by
      unfold formatTimestamp
      rw [bind_unit_eq_ok, ensure_eq_ok]
      exact ⟨(hkey e he).le.trans (hends.trans h.present), rfl⟩
    show (formatTimestamp clock e.1 >>= _) = _
    rw [hformat]
    rfl
  · intro e he
    obtain ⟨e', he', rfl⟩ := List.mem_map.mp he
    exact decide_eq_true (hkey e' he')

theorem sum_pointsOf (h : CounterQuery clock now request times range width metric counter)
    (hkept : metric.dropped = false)
    (hbelow : total counter (storedBuckets db now range) < 2 ^ 53) :
    ((pointsOf clock db now range width metric).map (·.value)).sum =
      total counter (readBuckets db now range) := by
  rw [← total_readBuckets h.counts] at hbelow
  have hsum := sum_pointBuckets counter width (startsOf range width) (readBuckets db now range)
  rw [← hsum] at hbelow ⊢
  unfold pointsOf
  rw [List.map_map]
  congr 1
  refine List.map_congr_left fun e he => ?_
  have hle : total counter e.2 ≤ _ := List.le_sum_of_mem (List.mem_map_of_mem
    (f := fun e : Nat × List LocalMetricBucket => total counter e.2) he)
  exact value_foldl h.counts hkept (hle.trans_lt hbelow)

theorem sum_pointsOf_dropped (hdropped : metric.dropped = true) :
    ((pointsOf clock db now range width metric).map (·.value)).sum = 0 := by
  refine List.sum_eq_zero fun n hn => ?_
  obtain ⟨point, hpoint, rfl⟩ := List.mem_map.mp hn
  obtain ⟨e, _, rfl⟩ := List.mem_map.mp hpoint
  exact value_foldl_dropped hdropped e.2

/-- The counters that the overview reports too. -/
def Metric.overviewCounter : Metric → Option (MetricsOverview → Nat)
  | .authenticationAttempts => some (·.authenticationAttempts)
  | .registrations => some (·.registrations)
  | _ => none

theorem overview_total (h : metric.counter = some counter) {reported : MetricsOverview → Nat}
    (hreported : metric.overviewCounter = some reported) {sources : OverviewSources}
    {answer : MetricsOverview} (horder : range.startsAt < range.endsAt)
    (hrange : validatedRange clock now times.startsAt times.endsAt = .ok range)
    (hbelow : total counter (readBuckets db now range) < 2 ^ 53)
    (hanswer : overview clock db now sources times.startsAt times.endsAt = .ok answer) :
    reported answer = total counter (readBuckets db now range) := by
  have hmin : min (0 + total counter (readBuckets db now range)) u64Max =
      total counter (readBuckets db now range) := by
    unfold u64Max
    omega
  unfold overview at hanswer
  rw [hrange] at hanswer
  simp only [bind_eq_ok, mapError_eq_ok, pure_eq_ok] at hanswer
  obtain ⟨range', hrange', buckets, hbuckets, _, _, _, _, _, _, rfl⟩ := hanswer
  cases hrange'
  obtain ⟨_, rfl⟩ := fits_of_analyticsBuckets horder hbuckets
  unfold Metric.overviewCounter at hreported
  split at hreported
  · cases h
    cases hreported
    have hcounts : Counts OverviewTotals.add u64Max (·.attempts) (·.authenticationAttempts) :=
      fun _ _ _ => rfl
    exact (hcounts.foldl _ _ (Nat.zero_le _)).trans hmin
  · cases h
    cases hreported
    have hcounts : Counts OverviewTotals.add u64Max (·.registrations) (·.registrationsCompleted) :=
      fun _ _ _ => rfl
    exact (hcounts.foldl _ _ (Nat.zero_le _)).trans hmin
  · cases hreported

end

/-- The query is answered by points that cover the range and together show what the buckets read
    for the range have counted, and what the overview says of it. -/
def Conserved (clock : Rfc3339) (db : Db) (now : Nat) (request : QuerySeriesRequest)
    (times : TimeRange) (range : QueryRange) (width : Nat) (metric : Metric)
    (counter : LocalMetricBucket → Nat) : Prop :=
  ∃ points starts buckets, querySeries clock db now request = .ok points ∧
    points.map (·.startsAt) = starts.map clock.format ∧ Covers range width starts ∧
    db.analyticsBuckets now range.startsAt range.endsAt = .ok buckets ∧
    (points.map (·.value)).sum = total counter buckets ∧
    ∀ sources answer reported,
      overview clock db now sources times.startsAt times.endsAt = .ok answer →
      metric.overviewCounter = some reported → reported answer = (points.map (·.value)).sum

/-- Below `2 ^ 53`, a series conserves a counter exactly if the store reads all buckets that the
    range meets, and the counter is not one of those that the points never add, or is zero. -/
theorem series_conserve_iff {clock : Rfc3339} {db : Db} {now : Nat} {request : QuerySeriesRequest}
    {times : TimeRange} {range : QueryRange} {width : Nat} {metric : Metric}
    {counter : LocalMetricBucket → Nat}
    (hquery : CounterQuery clock now request times range width metric counter)
    (hstored : StoredByStart db now)
    (hbelow : total counter (storedBuckets db now range) < 2 ^ 53) :
    Conserved clock db now request times range width metric counter ↔
      range.Fits ∧ (metric.dropped = true → total counter (storedBuckets db now range) = 0) := by
  have horder := (validatedRange_spec hquery.valid).1
  have hread := total_readBuckets hquery.counts db now range
  constructor
  · rintro ⟨points, starts, buckets, hpoints, _, _, hbuckets, hsum, _⟩
    obtain ⟨hfits, rfl⟩ := fits_of_analyticsBuckets horder hbuckets
    refine ⟨hfits, fun hdropped => ?_⟩
    rw [querySeries_of_fits hquery hstored hfits] at hpoints
    cases hpoints
    rw [sum_pointsOf_dropped hdropped] at hsum
    rw [← hread, ← hsum]
  · rintro ⟨hfits, hdropped⟩
    have hsum : ((pointsOf clock db now range width metric).map (·.value)).sum =
        total counter (readBuckets db now range) := by
      cases hmetric : metric.dropped with
      | true => rw [sum_pointsOf_dropped hmetric, hread, hdropped hmetric]
      | false => exact sum_pointsOf hquery hmetric hbelow
    refine ⟨_, startsOf range width, _, querySeries_of_fits hquery hstored hfits, ?_,
      covers_startsOf (granularitySeconds_spec hquery.step).1 hquery.endsAt_le,
      analyticsBuckets_of_fits db now horder hfits, hsum, ?_⟩
    · rw [← keys_points hquery hstored]
      unfold pointsOf
      rw [List.map_map, List.map_map]
      rfl
    · intro sources answer reported hanswer hreported
      rw [hsum]
      exact overview_total hquery.counts hreported horder hquery.valid (hread ▸ hbelow) hanswer

/-! ## A realm with two buckets -/

def quarterPast : String := "1970-01-01T00:15:00Z"
def halfPast : String := "1970-01-01T00:30:00Z"

/-- The clock of the first hour. -/
def sampleClock : Rfc3339 where
  parse text := if text = quarterPast then some 900 else if text = halfPast then some 1800 else none
  format t := "1970-01-01T00:" ++ String.ofList (digits 10 2 (t / 60)) ++ ":" ++
    String.ofList (digits 10 2 (t % 60)) ++ "Z"

def sampleBuckets : Db :=
  commit 0 Keyspace.empty [
    .set (.analyticsBucket 900)
      { LocalMetricBucket.new 900 with authenticationAttempts := 3, serviceAccountCalls := 2 },
    .set (.analyticsBucket 1200)
      { LocalMetricBucket.new 1200 with authenticationAttempts := 4 }]

theorem storedByStart_sampleBuckets (now : Nat) : StoredByStart sampleBuckets now := by
  intro start bucket h
  unfold sampleBuckets at h
  rw [commit_cons, commit_cons, commit_nil] at h
  by_cases hlast : start = 1200
  · subst hlast
    rw [Command.get_set_self] at h
    cases h
    rfl
  · rw [Command.get_run_of_ne _ _ _ _ (fun heq => hlast (Key.analyticsBucket.inj heq))] at h
    by_cases hfirst : start = 900
    · subst hfirst
      rw [Command.get_set_self] at h
      cases h
      rfl
    · rw [Command.get_run_of_ne _ _ _ _ (fun heq => hfirst (Key.analyticsBucket.inj heq))] at h
      cases h

def sampleSeries (metric : Metric) : QuerySeriesRequest :=
  ⟨.known metric, some ⟨quarterPast, halfPast⟩, .known .fiveMinutes, []⟩

theorem counterQuery_sampleSeries {metric : Metric} {counter : LocalMetricBucket → Nat}
    (h : metric.counter = some counter) :
    CounterQuery sampleClock 2000 (sampleSeries metric) ⟨quarterPast, halfPast⟩ ⟨900, 1800⟩ 300
      metric counter :=
  ⟨rfl, rfl, h, rfl, by decide +kernel, rfl, by decide⟩

theorem series_conserve_iff_attempts :
    CounterQuery sampleClock 2000 (sampleSeries .authenticationAttempts) ⟨quarterPast, halfPast⟩
        ⟨900, 1800⟩ 300 .authenticationAttempts (·.authenticationAttempts) ∧
      StoredByStart sampleBuckets 2000 ∧
      Conserved sampleClock sampleBuckets 2000 (sampleSeries .authenticationAttempts)
        ⟨quarterPast, halfPast⟩ ⟨900, 1800⟩ 300 .authenticationAttempts
        (·.authenticationAttempts) := by
  have hquery : CounterQuery _ _ _ _ _ _ .authenticationAttempts _ := counterQuery_sampleSeries rfl
  refine ⟨hquery, storedByStart_sampleBuckets 2000, ?_⟩
  exact (series_conserve_iff hquery (storedByStart_sampleBuckets 2000) (by decide +kernel)).mpr
    ⟨by decide, fun h => by cases h⟩

/-- Two calls of service accounts are shown as none.  And 28 days from second one on are a valid
    range that meets more buckets than the store reads. -/
theorem service_account_calls_lost :
    CounterQuery sampleClock 2000 (sampleSeries .serviceAccountRpcCalls) ⟨quarterPast, halfPast⟩
        ⟨900, 1800⟩ 300 .serviceAccountRpcCalls (·.serviceAccountCalls) ∧
      StoredByStart sampleBuckets 2000 ∧
      total (·.serviceAccountCalls) (storedBuckets sampleBuckets 2000 ⟨900, 1800⟩) = 2 ∧
      querySeries sampleClock sampleBuckets 2000 (sampleSeries .serviceAccountRpcCalls) =
        .ok [⟨quarterPast, 0⟩, ⟨"1970-01-01T00:20:00Z", 0⟩, ⟨"1970-01-01T00:25:00Z", 0⟩] ∧
      ¬Conserved sampleClock sampleBuckets 2000 (sampleSeries .serviceAccountRpcCalls)
        ⟨quarterPast, halfPast⟩ ⟨900, 1800⟩ 300 .serviceAccountRpcCalls
        (·.serviceAccountCalls) ∧
      ¬(⟨1, 1 + maxQuerySeconds⟩ : QueryRange).Fits := by
  have hseries : querySeries sampleClock sampleBuckets 2000 (sampleSeries .serviceAccountRpcCalls) =
      .ok [⟨quarterPast, 0⟩, ⟨"1970-01-01T00:20:00Z", 0⟩, ⟨"1970-01-01T00:25:00Z", 0⟩] := by decide +kernel
  have hstored : total (·.serviceAccountCalls)
      (storedBuckets sampleBuckets 2000 ⟨900, 1800⟩) = 2 := by decide +kernel
  refine ⟨counterQuery_sampleSeries rfl, storedByStart_sampleBuckets 2000, hstored, hseries, ?_,
    by decide⟩
  rintro ⟨points, starts, buckets, hpoints, _, _, hbuckets, hsum, _⟩
  have horder : (⟨900, 1800⟩ : QueryRange).startsAt < (⟨900, 1800⟩ : QueryRange).endsAt := by decide
  obtain ⟨_, rfl⟩ := fits_of_analyticsBuckets horder hbuckets
  have hcounter : Metric.counter .serviceAccountRpcCalls = some (·.serviceAccountCalls) := rfl
  rw [hseries] at hpoints
  cases hpoints
  rw [total_readBuckets hcounter, hstored] at hsum
  cases hsum

end RustyAuth.MetricsRpc
