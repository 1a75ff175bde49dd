/-
  What the reported latency percentile says about the latencies.

  A bucket counts a latency under every bound it does not exceed, so a bucket's slots are
  counts of its latencies up to `u64::MAX` (`Observed.cumulative`), and merging buckets gives the
  slots of all latencies (`foldl_addBucket`).  All three percentiles then look for the first bound
  whose count reaches a rank; they differ in how the rank saturates.

  The exact percentile has rank `⌈0.95 n⌉`.  Its least bound is what is shown if there is one, and
  if no count lies between the saturated rank and the exact one.  If there is none, the
  overview and the series show `0`.
-/
import RustyAuth.Metrics.Service
import RustyAuth.Analytics.Projection
import RustyAuth.Library.Counters
import RustyAuth.Library.Histograms

namespace RustyAuth.MetricsRpc

open RustyAuth.Library

/-! ## Observed latencies -/

/-- The bucket's histogram is of these latencies, observed one by one. -/
def Observed (bucket : LocalMetricBucket) (latencies : List Nat) : Prop :=
  bucket.authenticationLatency = latencies.foldl
    (fun l latency => l.observe interactiveLatencyBoundsMillisecondsV1 (some latency))
    (.empty interactiveLatencyBoundsMillisecondsV1)

/-- The latency that an event adds. -/
def observedLatency (event : AuthEvent) : Option Nat :=
  if ∃ kind ∈ event.counted, kind ∈
      [.authenticationCompleted, .authenticationFailed, .authenticationDenied] then
    event.data.latencyMilliseconds
  else none

theorem LatencyCounts.normalize_of_length {bounds : List Nat} {l : LatencyCounts}
    (h : l.cumulativeCounts.length = bounds.length + 1) : l.normalize bounds = l := by
  unfold LatencyCounts.normalize resize
  rw [h, Nat.sub_self, List.replicate_zero, List.append_nil, ← h, List.take_length]

@[simp] theorem length_resize (n : Nat) (l : List Nat) : (resize n l).length = n := by
  unfold resize
  rw [List.length_take, List.length_append, List.length_replicate]
  omega

theorem length_observeCumulative (bounds : List Nat) (value : Nat) {counts : List Nat}
    (h : counts.length = bounds.length + 1) :
    (observeCumulative bounds value counts).length = bounds.length + 1 := by
  unfold observeCumulative
  rw [List.length_append, List.length_zipWith, List.length_map, List.length_drop]
  omega

/-- One histogram of a bucket: which of its parts it is, its bounds, and the events it
    observes. -/
structure Observes (latency : LocalMetricBucket → LatencyCounts) (bounds : List Nat)
    (kinds : List CountedEvent) : Prop where
  new : ∀ start, latency (.new start) = .empty bounds
  normal : ∀ b, latency b.normalize = (latency b).normalize bounds
  contribute : ∀ b event, latency (b.contribute event) = latency b
  count : ∀ (b : LocalMetricBucket) event kind, latency (b.count event kind) =
    if kind ∈ kinds then (latency b).observe bounds event.data.latencyMilliseconds else latency b

theorem observes_authentication :
    Observes LocalMetricBucket.authenticationLatency interactiveLatencyBoundsMillisecondsV1
      [.authenticationCompleted, .authenticationFailed, .authenticationDenied] := by
  refine ⟨fun _ => rfl, fun _ => rfl, fun _ _ => rfl, ?_⟩
  intro b event kind
  unfold LocalMetricBucket.count LocalMetricBucket.observeWebhookBacklog
  cases kind <;> cases event.data.backlog <;> rfl

/-- Every event leaves the histogram at its full length. -/
theorem length_cumulative_fold {latency : LocalMetricBucket → LatencyCounts} {bounds : List Nat}
    {kinds : List CountedEvent} (h : Observes latency bounds kinds) (start : Nat)
    (es : List AuthEvent) :
    (latency (es.foldl LocalMetricBucket.applied (.new start))).cumulativeCounts.length = bounds.length + 1 := by
  refine List.foldlRecOn (motive := fun b => (latency b).cumulativeCounts.length = _) es
    LocalMetricBucket.applied ?_ ?_
  · rw [h.new]
    exact List.length_replicate
  intro b _ event _
  have hlen : (latency b.normalize).cumulativeCounts.length = bounds.length + 1 := by
    rw [h.normal]
    exact length_resize _ _
  unfold LocalMetricBucket.applied LocalMetricBucket.apply
  cases event.counted with
  | none => exact hlen
  | some kind =>
    show (latency ((b.normalize.count event kind).contribute event)).cumulativeCounts.length = _
    rw [h.contribute, h.count]
    unfold LatencyCounts.observe
    split
    · split
      · exact hlen
      · exact length_observeCumulative bounds _ hlen
    · exact hlen

/-- A bucket that counts events observes their latencies. -/
theorem observed_foldl (start : Nat) (events : List AuthEvent) :
    Observed (events.foldl LocalMetricBucket.applied (.new start))
      (events.filterMap observedLatency) := by
  induction events using List.reverseRecOn with
  | nil => rfl
  | append_singleton events event ih =>
    have hnormal := LatencyCounts.normalize_of_length
      (length_cumulative_fold observes_authentication start events)
    rw [List.foldl_append, List.filterMap_append]
    generalize events.foldl LocalMetricBucket.applied (.new start) = bucket at ih hnormal
    unfold Observed at ih ⊢
    rw [List.foldl_append, ← ih]
    show (bucket.apply event).1.authenticationLatency = _
    unfold LocalMetricBucket.apply observedLatency
    cases hcounted : event.counted with
    | none =>
      show bucket.authenticationLatency.normalize _ = _
      rw [hnormal, List.filterMap_cons_none (by rw [hcounted]; simp)]
      rfl
    | some kind =>
      dsimp only
      rw [observes_authentication.contribute, observes_authentication.count,
        observes_authentication.normal, hnormal]
      by_cases hkind : kind ∈
          [.authenticationCompleted, .authenticationFailed, .authenticationDenied]
      · rw [if_pos hkind]
        cases hlatency : event.data.latencyMilliseconds with
        | none =>
          rw [List.filterMap_cons_none (by rw [hcounted, hlatency]; simp)]
          rfl
        | some latency =>
          rw [List.filterMap_cons_some (b := latency) (by
            rw [hcounted, hlatency, if_pos ⟨kind, rfl, hkind⟩])]
          rfl
      · rw [if_neg hkind, List.filterMap_cons_none (by
          rw [hcounted, if_neg (by simpa using hkind)])]
        rfl

/-! ## Slots -/

/-- The slots of a histogram of these latencies. -/
def slotsOf (latencies : List Nat) : List Nat :=
  (interactiveLatencyBoundsMillisecondsV1.map fun bound => min (atMost latencies bound) u64Max) ++
    [min latencies.length u64Max]

theorem length_slotsOf (latencies : List Nat) : (slotsOf latencies).length = latencySlots := rfl

theorem min_add_min (m n : Nat) :
    min (min m u64Max + min n u64Max) u64Max = min (m + n) u64Max := by
  omega

theorem zipWith_map_append {α β γ : Type} (g : α → β → γ) (f : α → β) (l : List α) (r : List β) :
    List.zipWith g l (l.map f ++ r) = l.map fun a => g a (f a) := by
  induction l with
  | nil => rfl
  | cons a l ih => rw [List.map_cons, List.cons_append, List.zipWith_cons_cons, ih, List.map_cons]

theorem atMost_append (latencies more : List Nat) (bound : Nat) :
    atMost (latencies ++ more) bound = atMost latencies bound + atMost more bound :=
  List.countP_append

theorem observeCumulative_slotsOf (latencies : List Nat) (latency : Nat) :
    observeCumulative interactiveLatencyBoundsMillisecondsV1 latency (slotsOf latencies) =
      slotsOf (latencies ++ [latency]) := by
  unfold observeCumulative slotsOf
  rw [zipWith_map_append, List.drop_left' (List.length_map _)]
  congr 1
  · refine List.map_congr_left fun bound _ => ?_
    rw [atMost_append, atMost_cons]
    show (if latency ≤ bound then _ else _) = min (_ + (0 + _)) _
    unfold increment satAdd
    split <;> omega
  · rw [List.length_append, List.map_singleton]
    unfold increment satAdd
    congr 1
    exact min_add_min latencies.length 1

variable {latencies : List Nat} {observed : List (LocalMetricBucket × List Nat)}

theorem Observed.slots {bucket : LocalMetricBucket} (h : Observed bucket latencies) :
    bucket.authenticationLatency.count = min latencies.length u64Max ∧
      bucket.authenticationLatency.cumulativeCounts = slotsOf latencies := by
  unfold Observed at h
  rw [h]
  clear h
  induction latencies using List.reverseRecOn with
  | nil => exact ⟨rfl, rfl⟩
  | append_singleton latencies latency ih =>
    rw [List.foldl_append]
    obtain ⟨hcount, hslots⟩ := ih
    constructor
    · show increment _ = _
      rw [hcount, List.length_append]
      exact min_add_min latencies.length 1
    · show observeCumulative _ latency _ = _
      rw [hslots, observeCumulative_slotsOf]

/-- A bucket holds, for every bound, how many latencies of its events are at most the bound. -/
theorem bucket_counts_latencies (start : Nat) (events : List AuthEvent) :
    let bucket := events.foldl LocalMetricBucket.applied (.new start)
    let latencies := events.filterMap observedLatency
    bucket.authenticationLatency.count = min latencies.length u64Max ∧
      bucket.authenticationLatency.cumulativeCounts = slotsOf latencies :=
  (observed_foldl start events).slots

/-! ## Merging -/

/-- The merged histogram of these latencies. -/
def mergedOf (latencies : List Nat) : HistogramAggregate :=
  ⟨min latencies.length u64Max, slotsOf latencies⟩

theorem addSlots_map {α : Type} (l : List α) (f g : α → Nat) :
    addSlots (l.map f) (l.map g) = l.map fun a => satAdd (f a) (g a) := by
  induction l with
  | nil => rfl
  | cons a l ih => rw [List.map_cons, List.map_cons, addSlots, ih, List.map_cons]

theorem addSlots_append {totals counts : List Nat} (h : totals.length = counts.length)
    (totals' counts' : List Nat) :
    addSlots (totals ++ totals') (counts ++ counts') =
      addSlots totals counts ++ addSlots totals' counts' := by
  induction totals generalizing counts with
  | nil =>
    rw [List.length_eq_zero_iff.mp h.symm]
    rfl
  | cons total totals ih =>
    cases counts with
    | nil => cases h
    | cons count counts =>
      rw [List.cons_append, List.cons_append, addSlots, ih (Nat.succ.inj h)]
      rfl

theorem addSlots_slotsOf (latencies more : List Nat) :
    addSlots (slotsOf latencies) (slotsOf more) = slotsOf (latencies ++ more) := by
  unfold slotsOf
  rw [addSlots_append (by rw [List.length_map, List.length_map]), addSlots_map]
  congr 1
  · refine List.map_congr_left fun bound _ => ?_
    rw [atMost_append]
    exact min_add_min _ _
  · show [satAdd _ _] = _
    rw [List.length_append]
    congr 1
    exact min_add_min _ _

theorem addBucket_observed {h : HistogramAggregate} {past : List Nat} {bucket : LocalMetricBucket}
    (hobserved : Observed bucket latencies) (hcount : h.count = min past.length u64Max)
    (hslots : resize latencySlots h.cumulative = slotsOf past) :
    h.addBucket bucket = mergedOf (past ++ latencies) := by
  obtain ⟨hc, hs⟩ := hobserved.slots
  unfold HistogramAggregate.addBucket mergedOf
  rw [hcount, hc, hs, List.length_append]
  congr 1
  · exact min_add_min _ _
  · rw [← addSlots_slotsOf, ← hslots]
    rfl

theorem resize_slotsOf (latencies : List Nat) :
    resize latencySlots (slotsOf latencies) = slotsOf latencies := by
  unfold resize
  rw [length_slotsOf, Nat.sub_self, List.replicate_zero, List.append_nil,
    ← length_slotsOf latencies, List.take_length]

/-- A list of buckets with the latencies observed into each. -/
def AllObserved (observed : List (LocalMetricBucket × List Nat)) : Prop :=
  ∀ o ∈ observed, Observed o.1 o.2

def bucketsOf (observed : List (LocalMetricBucket × List Nat)) : List LocalMetricBucket :=
  observed.map Prod.fst

def latenciesOf (observed : List (LocalMetricBucket × List Nat)) : List Nat :=
  observed.flatMap Prod.snd

/-- Merging the buckets gives the histogram of all latencies. -/
theorem foldl_addBucket (h : AllObserved observed) (hne : observed ≠ []) :
    (bucketsOf observed).foldl HistogramAggregate.addBucket .default =
      mergedOf (latenciesOf observed) := by
  induction observed using List.reverseRecOn with
  | nil => exact absurd rfl hne
  | append_singleton observed o ih =>
    unfold bucketsOf latenciesOf at ih ⊢
    have ho := h o (by simp)
    rw [List.map_append, List.foldl_append, List.flatMap_append, List.flatMap_singleton]
    show HistogramAggregate.addBucket _ o.1 = _
    by_cases hnil : observed = []
    · subst hnil
      exact addBucket_observed ho rfl rfl
    · rw [ih (fun o' ho' => h o' (List.mem_append_left _ ho')) hnil]
      exact addBucket_observed ho rfl (resize_slotsOf _)

/-! ## Ranks -/

/-- `⌈0.95 n⌉`. -/
def exactRank (n : Nat) : Nat := (95 * n + 99) / 100

def localRank (n : Nat) : Nat := (satMul (min n u64Max) 95 + 99) / 100

def fleetRank (n : Nat) : Nat := satAdd (satMul (min n u64Max) 95) 99 / 100

theorem localRank_le_exactRank (n : Nat) : localRank n ≤ exactRank n := by
  unfold localRank exactRank satMul
  apply Nat.div_le_div_right
  omega

theorem fleetRank_le_localRank (n : Nat) : fleetRank n ≤ localRank n := by
  unfold fleetRank localRank satAdd
  apply Nat.div_le_div_right
  omega

theorem localRank_le_max (n : Nat) : localRank n ≤ u64Max := by
  unfold localRank satMul u64Max
  omega

def exactP95 (latencies : List Nat) : Nat := ranked latencies (exactRank latencies.length)

theorem exactP95_le_iff (h : latencies ≠ []) (bound : Nat) :
    exactP95 latencies ≤ bound ↔ exactRank latencies.length ≤ atMost latencies bound := by
  have hlength := List.length_pos_of_ne_nil h
  apply ranked_le_iff <;> unfold exactRank <;> omega

/-- The first bound whose count reaches the rank. -/
def firstBound (latencies : List Nat) (rank : Nat) : Option Nat :=
  interactiveLatencyBoundsMillisecondsV1.find? (decide <| rank ≤ atMost latencies ·)

theorem min_length_ne_zero (h : latencies ≠ []) :
    min latencies.length u64Max ≠ 0 := by
  have hlength := List.length_pos_of_ne_nil h
  unfold u64Max
  omega

theorem find?_min {rank : Nat} (h : rank ≤ u64Max) (latencies : List Nat) :
    interactiveLatencyBoundsMillisecondsV1.find?
        (fun bound => decide (rank ≤ min (atMost latencies bound) u64Max)) =
      firstBound latencies rank := by
  unfold firstBound
  congr 1
  funext bound
  rw [decide_eq_decide]
  omega

theorem p95_mergedOf (h : latencies ≠ []) :
    (mergedOf latencies).p95 = firstBound latencies (localRank latencies.length) := by
  unfold HistogramAggregate.p95 p95UpperBound mergedOf slotsOf
  dsimp only
  rw [if_neg (min_length_ne_zero h), findSome?_zip_map]
  exact find?_min (localRank_le_max _) latencies

theorem quantile_slotsOf (h : latencies ≠ []) :
    histogramQuantileUpperBound .interactiveMillisecondsV1 (slotsOf latencies) 95 100 =
      firstBound latencies (fleetRank latencies.length) := by
  have hrank := (fleetRank_le_localRank latencies.length).trans (localRank_le_max _)
  have hlast : (slotsOf latencies).getLast? = some (min latencies.length u64Max) :=
    List.getLast?_concat
  unfold histogramQuantileUpperBound
  rw [hlast]
  show (if _ then none else _) = _
  rw [if_neg (by have := min_length_ne_zero h; omega)]
  refine Eq.trans ?_ (find?_min hrank latencies)
  rw [← getElem?_findIdx?_map]
  rfl

/-! ## The least bound -/

/-- The least bound that is not below the exact percentile. -/
def LeastBound (latencies : List Nat) (shown : Nat) : Prop :=
  IsLeast {bound | bound ∈ interactiveLatencyBoundsMillisecondsV1 ∧ exactP95 latencies ≤ bound}
    shown

theorem firstBound_eq_some_iff (latencies : List Nat) (rank bound : Nat) :
    firstBound latencies rank = some bound ↔ IsLeast
      {b | b ∈ interactiveLatencyBoundsMillisecondsV1 ∧ rank ≤ atMost latencies b} bound := by
  unfold firstBound
  rw [find?_eq_some_iff_isLeast (by decide)]
  simp only [decide_eq_true_eq]

theorem leastBound_iff (h : latencies ≠ []) (shown : Nat) :
    LeastBound latencies shown ↔
      firstBound latencies (exactRank latencies.length) = some shown := by
  unfold LeastBound
  rw [firstBound_eq_some_iff]
  simp only [exactP95_le_iff h]

/-- A bound reaches the exact percentile, and no count lies between the ranks. -/
structure Resolved (latencies : List Nat) : Prop where
  within : ∃ bound ∈ interactiveLatencyBoundsMillisecondsV1, exactP95 latencies ≤ bound
  apart : ∀ bound ∈ interactiveLatencyBoundsMillisecondsV1,
    fleetRank latencies.length ≤ atMost latencies bound →
      exactRank latencies.length ≤ atMost latencies bound

theorem firstBound_congr {rank rank' : Nat} (h : ∀ bound ∈ interactiveLatencyBoundsMillisecondsV1,
      rank ≤ atMost latencies bound ↔ rank' ≤ atMost latencies bound) :
    firstBound latencies rank = firstBound latencies rank' := by
  unfold firstBound
  generalize interactiveLatencyBoundsMillisecondsV1 = bounds at h
  induction bounds with
  | nil => rfl
  | cons bound bounds ih =>
    obtain ⟨hbound, hrest⟩ := List.forall_mem_cons.mp h
    rw [List.find?_cons, List.find?_cons, ih hrest, decide_eq_decide.mpr hbound]

theorem exists_leastBound (h : latencies ≠ []) (hresolved : Resolved latencies) :
    ∃ shown, LeastBound latencies shown := by
  obtain ⟨bound, hbound, hle⟩ := hresolved.within
  cases hfirst : firstBound latencies (exactRank latencies.length) with
  | some shown => exact ⟨shown, (leastBound_iff h shown).mpr hfirst⟩
  | none =>
    have hnot := List.find?_eq_none.mp hfirst bound hbound
    rw [decide_eq_true_eq] at hnot
    exact absurd ((exactP95_le_iff h bound).mp hle) hnot

/-- If resolved, all three ranks find the same bound. -/
theorem Resolved.firstBound_eq (hresolved : Resolved latencies) :
    firstBound latencies (localRank latencies.length) =
        firstBound latencies (exactRank latencies.length) ∧
      firstBound latencies (fleetRank latencies.length) =
        firstBound latencies (exactRank latencies.length) := by
  have hlocal := localRank_le_exactRank latencies.length
  have hfleet := fleetRank_le_localRank latencies.length
  constructor
  · refine firstBound_congr fun bound hbound => ⟨fun hle => ?_, fun hle => hlocal.trans hle⟩
    exact hresolved.apart bound hbound (hfleet.trans hle)
  · refine firstBound_congr fun bound hbound => ⟨hresolved.apart bound hbound, fun hle => ?_⟩
    exact (hfleet.trans hlocal).trans hle

theorem resolved_of_firstBound (h : latencies ≠ []) {shown : Nat}
    (hleast : LeastBound latencies shown)
    (hfleet : firstBound latencies (fleetRank latencies.length) = some shown) :
    Resolved latencies := by
  refine ⟨⟨shown, hleast.1⟩, fun bound hbound hle => ?_⟩
  have hshown := ((firstBound_eq_some_iff _ _ _).mp hfleet).2 ⟨hbound, hle⟩
  exact ((exactP95_le_iff h shown).mp hleast.1.2).trans (atMost_mono latencies hshown)

/-! ## What is shown -/

theorem asF64_of_lt {n : Nat} (h : n < 2 ^ 53) : asF64 n = n := by
  have hlog : n.log2 + 1 - 53 = 0 := by
    rcases Nat.eq_zero_or_pos n with rfl | hpos
    · rfl
    · have := (Nat.log2_lt hpos.ne').mpr h
      omega
  unfold asF64
  rw [hlog]
  simp [Nat.mod_one]

theorem latency_overviewTotals (buckets : List LocalMetricBucket) :
    (overviewTotals buckets).latency = buckets.foldl HistogramAggregate.addBucket .default := by
  unfold overviewTotals
  exact (List.foldl_hom OverviewTotals.latency (fun _ _ => rfl)).symm

theorem latency_foldl (buckets : List LocalMetricBucket) :
    (buckets.foldl SeriesAggregate.addBucket .default).latency =
      buckets.foldl HistogramAggregate.addBucket .default :=
  (List.foldl_hom SeriesAggregate.latency (fun _ _ => rfl)).symm

/-! ## The fleet's rollup -/

/-- What a realm sends of a bucket. -/
def Reports (bucket : LocalMetricBucket) (reported : TelemetryBucket) : Prop :=
  ∃ realmId epoch, reported = bucket.toTelemetryBucket realmId epoch

/-- What slot `i` counts. -/
def slotCount (i : Nat) (latencies : List Nat) : Nat :=
  (interactiveLatencyBoundsMillisecondsV1[i]?).elim latencies.length (atMost latencies)

theorem slotsOf_eq (latencies : List Nat) :
    slotsOf latencies = (List.range latencySlots).map fun i => min (slotCount i latencies) u64Max :=
  rfl

theorem slotCount_append (i : Nat) (latencies more : List Nat) :
    slotCount i (latencies ++ more) = slotCount i latencies + slotCount i more := by
  unfold slotCount
  cases interactiveLatencyBoundsMillisecondsV1[i]? with
  | none => exact List.length_append
  | some bound => exact atMost_append latencies more bound

theorem slotCount_nil (i : Nat) : slotCount i [] = 0 := by
  unfold slotCount
  cases interactiveLatencyBoundsMillisecondsV1[i]? <;> rfl

theorem getD_slotsOf {i : Nat} (hi : i < latencySlots) (latencies : List Nat) :
    (slotsOf latencies).getD i 0 = min (slotCount i latencies) u64Max := by
  rw [slotsOf_eq, List.getD_eq_getElem?_getD, List.getElem?_map, List.getElem?_range hi]
  rfl

/-- Sums that fit were made of counts that did not saturate, up to the last one. -/
theorem total_reported {reported : List TelemetryBucket} (h : AllObserved observed)
    (hreports : List.Forall₂ (fun o t => Reports o.1 t) observed reported) {i : Nat}
    (hi : i < latencySlots) :
    min (total (amount (latencySlotOf i)) reported) u64Max =
      min (slotCount i (latenciesOf observed)) u64Max := by
  induction hreports with
  | nil =>
    show min 0 _ = min (slotCount i []) _
    rw [slotCount_nil]
  | @cons o t observed reported hreport _ ih =>
    obtain ⟨ho, hrest⟩ := List.forall_mem_cons.mp h
    obtain ⟨realmId, epoch, rfl⟩ := hreport
    have hamount : amount (latencySlotOf i) (o.1.toTelemetryBucket realmId epoch) =
        min (slotCount i o.2) u64Max := by
      rw [← getD_slotsOf hi, ← ho.slots.2]
      rfl
    have hih := ih hrest
    unfold latenciesOf at hih ⊢
    rw [List.flatMap_cons, slotCount_append, total_cons, hamount]
    omega

/-- An answered rollup takes its percentile from the slots of all latencies. -/
theorem rollup_p95 {reported : List TelemetryBucket} {rollup : AuthenticationRollup}
    (h : AllObserved observed) (hne : observed ≠ [])
    (hreports : List.Forall₂ Reports (bucketsOf observed) reported)
    (hrollup : aggregateAuthentication reported = .ok rollup) :
    rollup.latencyP95UpperBoundMilliseconds =
      histogramQuantileUpperBound .interactiveMillisecondsV1 (slotsOf (latenciesOf observed))
        95 100 := by
  have hreports' : List.Forall₂ (fun o t => Reports o.1 t) observed reported :=
    List.forall₂_map_left_iff.mp hreports
  obtain ⟨hfits, rfl⟩ :=
    (aggregateAuthentication_eq_ok (valid_of_aggregate hrollup) rollup).mp hrollup
  have hany : reported.any (·.authentication.isSome) = true := by
    cases hreports' with
    | nil => exact absurd rfl hne
    | cons hreport _ =>
      obtain ⟨realmId, epoch, rfl⟩ := hreport
      rfl
  have hslots : (totalsOf reported).latencyCumulativeCounts = slotsOf (latenciesOf observed) := by
    unfold totalsOf
    dsimp only
    rw [if_pos hany, slotsOf_eq]
    refine List.map_congr_left fun i hi => ?_
    have hfit := (forall_additive.mp hfits).2.2.2.2.2.2.2 i (List.mem_range.mp hi)
    rw [← total_reported h hreports' (List.mem_range.mp hi), Nat.min_eq_left hfit]
  have hprofile : (totalsOf reported).latencyProfile = some .interactiveMillisecondsV1 := by
    unfold totalsOf
    exact if_pos hany
  show histogramQuantileUpperBound ((totalsOf reported).latencyProfile.getD _) _ 95 100 = _
  rw [hslots, hprofile]
  rfl

/-! ## The percentiles that are reported -/

/-- Every reported percentile of these buckets is the least bound of the exact one, and the three
    computations agree on the merged histogram. -/
structure SoundPercentiles (observed : List (LocalMetricBucket × List Nat)) : Prop where
  overview : ∀ clock db now sources startsAt endsAt range answer,
    validatedRange clock now startsAt endsAt = .ok range →
    Db.analyticsBuckets db now range.startsAt range.endsAt = .ok (bucketsOf observed) →
    overview clock db now sources startsAt endsAt = .ok answer →
    LeastBound (latenciesOf observed) answer.authenticationLatencyP95Milliseconds
  series : LeastBound (latenciesOf observed)
    (((bucketsOf observed).foldl SeriesAggregate.addBucket .default).value
      .authenticationLatencyMilliseconds)
  fleet : ∀ reported rollup shown, List.Forall₂ Reports (bucketsOf observed) reported →
    aggregateAuthentication reported = .ok rollup →
    rollup.latencyP95UpperBoundMilliseconds = some shown →
    LeastBound (latenciesOf observed) shown
  agree : ∀ merged, (bucketsOf observed).foldl HistogramAggregate.addBucket .default = merged →
    histogramQuantileUpperBound .interactiveMillisecondsV1 merged.cumulative 95 100 = merged.p95 ∧
    ∀ bucket : LocalMetricBucket, bucket.authenticationLatency.count = merged.count →
      bucket.authenticationLatency.cumulativeCounts = merged.cumulative →
      bucket.authenticationLatencyP95UpperBound = merged.p95

theorem asF64_bound {shown : Nat} (h : shown ∈ interactiveLatencyBoundsMillisecondsV1) :
    asF64 shown = shown := by
  have hle : ∀ bound ∈ interactiveLatencyBoundsMillisecondsV1, bound < 2 ^ 53 := by decide
  exact asF64_of_lt (hle shown h)

/-- The percentiles are sound exactly if some bound reaches the exact one and no count of a bound
    lies between the saturated rank and the exact rank. -/
theorem percentiles_sound_iff {observed : List (LocalMetricBucket × List Nat)}
    (hobserved : AllObserved observed) (hsome : latenciesOf observed ≠ []) :
    SoundPercentiles observed ↔ Resolved (latenciesOf observed) := by
  have hne : observed ≠ [] := by
    rintro rfl
    exact hsome rfl
  have hmerged := foldl_addBucket hobserved hne
  have hp95 := p95_mergedOf hsome
  have hquantile := quantile_slotsOf hsome
  have hseries : ((bucketsOf observed).foldl SeriesAggregate.addBucket .default).value
      .authenticationLatencyMilliseconds =
        asF64 ((firstBound (latenciesOf observed)
          (localRank (latenciesOf observed).length)).getD 0) := by
    unfold SeriesAggregate.value
    dsimp only
    rw [latency_foldl, hmerged, hp95]
  constructor
  · intro hsound
    -- what the series shows is a bound, so the local rank has found it
    have hleast := hsound.series
    rw [hseries] at hleast
    cases hlocal : firstBound (latenciesOf observed) (localRank (latenciesOf observed).length) with
    | none =>
      rw [hlocal] at hleast
      exact absurd hleast.1.1 (by decide)
    | some shown =>
      have hmem := ((firstBound_eq_some_iff _ _ _).mp hlocal).1.1
      rw [hlocal, Option.getD_some, asF64_bound hmem] at hleast
      have hagree := (hsound.agree _ hmerged).1
      refine resolved_of_firstBound hsome hleast ?_
      rw [← hquantile, ← hlocal, ← hp95]
      exact hagree
  · intro hresolved
    obtain ⟨hlocal, hfleet⟩ := hresolved.firstBound_eq
    obtain ⟨shown, hleast⟩ := exists_leastBound hsome hresolved
    have hexact := (leastBound_iff hsome shown).mp hleast
    have hshown : asF64 ((firstBound (latenciesOf observed)
        (localRank (latenciesOf observed).length)).getD 0) = shown := by
      rw [hlocal, hexact, Option.getD_some, asF64_bound hleast.1.1]
    constructor
    · intro clock db now sources startsAt endsAt range answer hrange hbuckets hanswer
      unfold overview at hanswer
      rw [hrange] at hanswer
      simp only [bind_eq_ok, mapError_eq_ok, pure_eq_ok] at hanswer
      obtain ⟨range', hrange', buckets, hbuckets', _, _, _, _, _, _, rfl⟩ := hanswer
      cases hrange'
      rw [hbuckets] at hbuckets'
      cases hbuckets'
      show LeastBound _ (asF64 ((overviewTotals (bucketsOf observed)).latency.p95.getD 0))
      rw [latency_overviewTotals, hmerged, hp95, hshown]
      exact hleast
    · rw [hseries, hshown]
      exact hleast
    · intro reported rollup p hreports hrollup hp
      rw [rollup_p95 hobserved hne hreports hrollup, hquantile, hfleet, hexact] at hp
      cases hp
      exact hleast
    · rintro _ rfl
      rw [hmerged]
      refine ⟨?_, fun bucket hcount hslots => ?_⟩
      · show histogramQuantileUpperBound _ (slotsOf _) 95 100 = _
        rw [hquantile, hp95, hfleet, hlocal]
      · unfold LocalMetricBucket.authenticationLatencyP95UpperBound
        rw [hcount, hslots]
        rfl

/-- A bucket with these latencies and nothing else. -/
def bucketWith (latencies : List Nat) : LocalMetricBucket :=
  { LocalMetricBucket.new 900 with
    authenticationLatency := latencies.foldl
      (fun l latency => l.observe interactiveLatencyBoundsMillisecondsV1 (some latency))
      (.empty interactiveLatencyBoundsMillisecondsV1) }

theorem percentiles_sound_iff_quick :
    let observed := [(bucketWith [3, 40], [3, 40]), (bucketWith [7], [7])]
    AllObserved observed ∧ latenciesOf observed ≠ [] ∧ SoundPercentiles observed ∧
      LeastBound (latenciesOf observed) 50 := by
  have hobserved : AllObserved [(bucketWith [3, 40], [3, 40]), (bucketWith [7], [7])] :=
    List.forall_mem_cons.mpr ⟨rfl, List.forall_mem_cons.mpr ⟨rfl, List.forall_mem_nil _⟩⟩
  have hsound := (percentiles_sound_iff hobserved (by decide)).mpr
    ⟨⟨50, by decide, by decide +kernel⟩, by decide +kernel⟩
  refine ⟨hobserved, by decide, hsound, ?_⟩
  have hseries := hsound.series
  exact hseries

/-- One login of twenty seconds is shown as taking no time; the fleet says that it does not know. -/
theorem slow_login_shown_as_fast :
    let observed := [(bucketWith [20000], [20000])]
    AllObserved observed ∧ exactP95 (latenciesOf observed) = 20000 ∧
      asF64 ((overviewTotals (bucketsOf observed)).latency.p95.getD 0) = 0 ∧
      ((bucketsOf observed).foldl SeriesAggregate.addBucket .default).value
        .authenticationLatencyMilliseconds = 0 ∧
      histogramQuantileUpperBound .interactiveMillisecondsV1
        (bucketWith [20000]).authenticationLatency.cumulativeCounts 95 100 = none ∧
      ¬SoundPercentiles observed := by
  refine ⟨List.forall_mem_cons.mpr ⟨rfl, List.forall_mem_nil _⟩, by decide +kernel,
    by decide +kernel, by decide +kernel, by decide +kernel, fun hsound => ?_⟩
  have hbound := hsound.series.1.1
  revert hbound
  decide +kernel

end RustyAuth.MetricsRpc
