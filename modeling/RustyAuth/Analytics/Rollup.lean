/-
  The rollup of authentication facts over realm buckets.

  `aggregate_authentication` validates and adds bucket by bucket, with checked additions; the
  histogram is set up with the first bucket that has one.  On buckets that pass the contract it
  is a sum (`aggregateAuthentication_eq_ok`): it answers the totals if all of them fit `u64`,
  and otherwise fails with an overflow.
-/
import RustyAuth.Analytics.Projection
import RustyAuth.Analytics.Contract
import RustyAuth.Library.Counters

namespace RustyAuth

open RustyAuth.Library

/-! ## Model -/

structure AuthenticationRollup where
  attempts : Nat
  successes : Nat
  failures : Nat
  denials : Nat
  successRateNumerator : Nat
  successRateDenominator : Nat
  activeAccountObservations : Nat
  latencyProfile : HistogramProfile
  latencyCount : Nat
  latencySumMilliseconds : Nat
  latencyCumulativeCounts : List Nat
  latencyP95UpperBoundMilliseconds : Option Nat
deriving DecidableEq

inductive RollupError
  | contract (error : AnalyticsContractError)
  -- an `expect` on a message that was validated
  | panicked
deriving DecidableEq

/-- `u64::saturating_mul`. -/
def satMul (a b : Nat) : Nat := min (a * b) u64Max

def histogramQuantileUpperBound (profile : HistogramProfile) (cumulativeCounts : List Nat)
    (numerator denominator : Nat) : Option Nat := do
  let count ← cumulativeCounts.getLast?
  if count = 0 ∨ denominator = 0 ∨ numerator = 0 ∨ denominator < numerator then none
  else
    let rank := satAdd (satMul count numerator) (denominator - 1) / denominator
    let index ← cumulativeCounts.findIdx? (decide <| rank ≤ ·)
    let bounds ← histogramUpperBoundsMilliseconds profile
    bounds[index]?

/-- What the loop has added so far. -/
structure AuthenticationTotals where
  attempts : Nat
  successes : Nat
  failures : Nat
  denials : Nat
  activeAccountObservations : Nat
  latencyProfile : Option HistogramProfile
  latencyCount : Nat
  latencySumMilliseconds : Nat
  latencyCumulativeCounts : List Nat

/-- Add the counts of a histogram to the aggregate, pair by pair. -/
def addCounts : List Nat → List Nat → ContractResult (List Nat)
  | aggregate :: aggregates, value :: values => do
      let aggregate ← checkedAdd aggregate value
      let aggregates ← addCounts aggregates values
      return aggregate :: aggregates
  | aggregates, _ => return aggregates

namespace AuthenticationTotals

def zero : AuthenticationTotals := ⟨0, 0, 0, 0, 0, none, 0, 0, []⟩

def addOutcomes (totals : AuthenticationTotals) (authentication : AuthenticationMetrics) :
    ContractResult AuthenticationTotals := do
  let attempts ← checkedAdd totals.attempts authentication.attempts
  let successes ← checkedAdd totals.successes authentication.successes
  let failures ← checkedAdd totals.failures authentication.failures
  let denials ← checkedAdd totals.denials authentication.denials
  let activeAccountObservations ←
    checkedAdd totals.activeAccountObservations authentication.activeAccountObservations
  return { totals with attempts, successes, failures, denials, activeAccountObservations }

/-- The profile and the counts to add to: those of the first histogram, and zeros. -/
def mergeProfile (totals : AuthenticationTotals) (profile : HistogramProfile)
    (histogram : LatencyHistogram) : ContractResult (List Nat) :=
  match totals.latencyProfile with
  | some existing => do
      require (existing = profile) "authentication_rollup.latency_profile"
        "cannot merge different histogram profiles"
      return totals.latencyCumulativeCounts
  | none => return resize histogram.cumulativeCounts.length totals.latencyCumulativeCounts

def addLatency (totals : AuthenticationTotals) (profile : HistogramProfile)
    (histogram : LatencyHistogram) : ContractResult AuthenticationTotals := do
  let counts ← totals.mergeProfile profile histogram
  let latencyCount ← checkedAdd totals.latencyCount histogram.count
  let latencySumMilliseconds ←
    checkedAdd totals.latencySumMilliseconds histogram.sumMilliseconds
  let latencyCumulativeCounts ← addCounts counts histogram.cumulativeCounts
  return { totals with
    latencyProfile := some (totals.latencyProfile.getD profile)
    latencyCount
    latencySumMilliseconds
    latencyCumulativeCounts }

def addAuthentication (totals : AuthenticationTotals) (authentication : AuthenticationMetrics) :
    Except RollupError AuthenticationTotals := do
  let totals ← (totals.addOutcomes authentication).mapError .contract
  let histogram ← okOr authentication.latency .panicked
  let profile ← okOr histogram.profile.asKnown .panicked
  (totals.addLatency profile histogram).mapError .contract

def addBucket (totals : AuthenticationTotals) (bucket : TelemetryBucket) :
    Except RollupError AuthenticationTotals := do
  (validateBucket bucket).mapError .contract
  match bucket.authentication with
  | none => return totals
  | some authentication => totals.addAuthentication authentication

def rollup (totals : AuthenticationTotals) : AuthenticationRollup :=
  let latencyProfile := totals.latencyProfile.getD .interactiveMillisecondsV1
  { attempts := totals.attempts
    successes := totals.successes
    failures := totals.failures
    denials := totals.denials
    successRateNumerator := totals.successes
    successRateDenominator := totals.attempts
    activeAccountObservations := totals.activeAccountObservations
    latencyProfile
    latencyCount := totals.latencyCount
    latencySumMilliseconds := totals.latencySumMilliseconds
    latencyCumulativeCounts := totals.latencyCumulativeCounts
    latencyP95UpperBoundMilliseconds :=
      histogramQuantileUpperBound latencyProfile totals.latencyCumulativeCounts 95 100 }

end AuthenticationTotals

def aggregateAuthentication (buckets : List TelemetryBucket) :
    Except RollupError AuthenticationRollup := do
  let totals ← buckets.foldlM AuthenticationTotals.addBucket .zero
  return totals.rollup

/-! ## What a validated bucket contributes -/

/-- The slots of the interactive histogram, the unbounded one included. -/
def latencySlots : Nat := interactiveLatencyBoundsMillisecondsV1.length + 1

def latencyCountOf (authentication : AuthenticationMetrics) : Nat :=
  (authentication.latency.map (·.count)).getD 0

def latencySumOf (authentication : AuthenticationMetrics) : Nat :=
  (authentication.latency.map (·.sumMilliseconds)).getD 0

def latencySlotOf (i : Nat) (authentication : AuthenticationMetrics) : Nat :=
  (authentication.latency.map (·.cumulativeCounts.getD i 0)).getD 0

/-- Everything that is added up. -/
def additive : List (AuthenticationMetrics → Nat) :=
  [(·.attempts), (·.successes), (·.failures), (·.denials), (·.activeAccountObservations),
    latencyCountOf, latencySumOf] ++ (List.range latencySlots).map latencySlotOf

/-- What a bucket adds; one without the family adds nothing. -/
def amount (f : AuthenticationMetrics → Nat) (bucket : TelemetryBucket) : Nat :=
  (bucket.authentication.map f).getD 0

def Overflows (buckets : List TelemetryBucket) : Prop :=
  ∃ f ∈ additive, u64Max < total (amount f) buckets

/-- The contract of a histogram, and of the outcomes it goes with. -/
structure SoundAuthentication (authentication : AuthenticationMetrics)
    (histogram : LatencyHistogram) : Prop where
  outcomes : authentication.attempts =
    authentication.successes + authentication.failures + authentication.denials
  latency : authentication.latency = some histogram
  profile : histogram.profile.asKnown = some .interactiveMillisecondsV1
  count : histogram.count = authentication.attempts
  length : histogram.cumulativeCounts.length = latencySlots
  ordered : histogram.cumulativeCounts.IsChain (· ≤ ·)
  last : histogram.cumulativeCounts.getD (latencySlots - 1) 0 = histogram.count

theorem checkedAdd_eq_ok {left right sum : Nat} :
    checkedAdd left right = .ok sum ↔ left + right ≤ u64Max ∧ sum = left + right := by
  unfold checkedAdd
  split
  · next h => simp [h, eq_comm]
  · next h => simp [h]

theorem sumParts_eq_ok {parts : List Nat} {sum result : Nat}
    (h : sumParts parts sum = .ok result) : result = sum + parts.sum := by
  induction parts generalizing sum with
  | nil =>
    cases h
    rfl
  | cons part parts ih =>
    unfold sumParts at h
    obtain ⟨next, hnext, h⟩ := (bind_eq_ok _ _ _).mp h
    rw [ih h, (checkedAdd_eq_ok.mp hnext).2, List.sum_cons, Nat.add_assoc]

theorem checkCumulative_eq_ok {field : String} {count : Nat} {counts : List Nat}
    {previous last : Nat}
    (h : checkCumulative field count counts previous = .ok last) :
    (previous :: counts).IsChain (· ≤ ·) ∧
      (previous :: counts).getLast (List.cons_ne_nil _ _) = last := by
  induction counts generalizing previous with
  | nil =>
    cases h
    exact ⟨List.isChain_singleton _, rfl⟩
  | cons c counts ih =>
    unfold checkCumulative at h
    simp only [bind_eq_ok, validateCounter_eq_ok, require_eq_ok, exists_const] at h
    obtain ⟨_, ⟨hle, _⟩, h⟩ := h
    obtain ⟨hchain, hlast⟩ := ih h
    exact ⟨List.isChain_cons_cons.mpr ⟨hle, hchain⟩, by
      rw [List.getLast_cons (List.cons_ne_nil _ _), hlast]⟩

theorem soundAuthentication_of_validate {authentication : AuthenticationMetrics}
    (h : validateAuthentication authentication = .ok ()) :
    ∃ histogram, SoundAuthentication authentication histogram := by
  unfold validateAuthentication at h
  simp only [bind_unit_eq_ok] at h
  obtain ⟨_, hsum, hhistogram, _⟩ := h
  unfold requireSum at hsum
  simp only [bind_eq_ok, require_eq_ok] at hsum
  obtain ⟨sum, hparts, hattempts⟩ := hsum
  have hsum := sumParts_eq_ok hparts
  unfold validateHistogram at hhistogram
  simp only [bind_eq_ok, okOr_eq_ok, require_eq_ok, validateCounter_eq_ok,
    exists_const] at hhistogram
  obtain ⟨histogram, hlatency, hprofile, _, hcount, hlength, last, hcumulative, hlast, _⟩ :=
    hhistogram
  have hlength : histogram.cumulativeCounts.length = latencySlots := hlength
  obtain ⟨hchain, hend⟩ := checkCumulative_eq_ok hcumulative
  refine ⟨histogram, ?_, hlatency, hprofile, hcount, hlength, hchain.tail, ?_⟩
  · rw [hattempts, hsum]
    simp [Nat.add_assoc]
  · have hne : histogram.cumulativeCounts ≠ [] := by
      intro hnil
      rw [hnil] at hlength
      cases hlength
    rw [← hlast, ← hend, List.getLast_cons hne, List.getLast_eq_getElem,
      List.getD_eq_getElem?_getD, List.getElem?_eq_getElem (by rw [hlength]; decide),
      Option.getD_some]
    simp only [hlength]

theorem soundAuthentication_of_mem {bucket : TelemetryBucket} (h : validateBucket bucket = .ok ())
    {authentication : AuthenticationMetrics} (hsome : bucket.authentication = some authentication) :
    ∃ histogram, SoundAuthentication authentication histogram := by
  unfold validateBucket at h
  simp only [bind_unit_eq_ok] at h
  obtain ⟨_, _, _, _, _, _, _, _, _, hfamily, _⟩ := h
  rw [hsome] at hfamily
  exact soundAuthentication_of_validate hfamily

/-! ## The loop is a sum -/

/-- The accumulators after these buckets, as totals. -/
def totalsOf (buckets : List TelemetryBucket) : AuthenticationTotals where
  attempts := total (amount (·.attempts)) buckets
  successes := total (amount (·.successes)) buckets
  failures := total (amount (·.failures)) buckets
  denials := total (amount (·.denials)) buckets
  activeAccountObservations := total (amount (·.activeAccountObservations)) buckets
  latencyProfile :=
    if buckets.any (·.authentication.isSome) then some .interactiveMillisecondsV1 else none
  latencyCount := total (amount latencyCountOf) buckets
  latencySumMilliseconds := total (amount latencySumOf) buckets
  latencyCumulativeCounts :=
    if buckets.any (·.authentication.isSome) then
      (List.range latencySlots).map fun i => total (amount (latencySlotOf i)) buckets
    else []

theorem addCounts_map_eq_ok {ι : Type} (l : List ι) (f g : ι → Nat) (result : List Nat) :
    addCounts (l.map f) (l.map g) = .ok result ↔
      (∀ i ∈ l, f i + g i ≤ u64Max) ∧ result = l.map fun i => f i + g i := by
  induction l generalizing result with
  | nil =>
    simp only [List.map_nil, addCounts, pure_eq_ok]
    exact ⟨fun h => ⟨List.forall_mem_nil _, h.symm⟩, fun h => h.2.symm⟩
  | cons i l ih =>
    simp only [List.map_cons, addCounts, bind_eq_ok, checkedAdd_eq_ok, ih, pure_eq_ok,
      List.forall_mem_cons]
    constructor
    · rintro ⟨_, ⟨hi, rfl⟩, _, ⟨hl, rfl⟩, rfl⟩
      exact ⟨⟨hi, hl⟩, rfl⟩
    · rintro ⟨⟨hi, hl⟩, rfl⟩
      exact ⟨_, ⟨hi, rfl⟩, _, ⟨hl, rfl⟩, rfl⟩

theorem eq_map_getD {l : List Nat} {n : Nat} (h : l.length = n) :
    l = (List.range n).map (l.getD · 0) := by
  subst h
  apply List.ext_getElem
  · simp
  · intro i hi _
    simp [List.getElem?_eq_getElem hi]

theorem forall_additive {P : (AuthenticationMetrics → Nat) → Prop} :
    (∀ f ∈ additive, P f) ↔ P (·.attempts) ∧ P (·.successes) ∧ P (·.failures) ∧ P (·.denials) ∧
      P (·.activeAccountObservations) ∧ P latencyCountOf ∧ P latencySumOf ∧
      ∀ i < latencySlots, P (latencySlotOf i) := by
  simp [additive, or_imp, forall_and]

section

variable {past : List TelemetryBucket} {bucket : TelemetryBucket}
  {authentication : AuthenticationMetrics} {histogram : LatencyHistogram}
  {totals : AuthenticationTotals}

theorem total_concat (f : AuthenticationMetrics → Nat) (past : List TelemetryBucket)
    (bucket : TelemetryBucket) :
    total (amount f) (past ++ [bucket]) = total (amount f) past + amount f bucket := by
  unfold total
  rw [List.map_append, List.sum_append, List.map_singleton, List.sum_singleton]

theorem total_eq_zero (h : past.any (·.authentication.isSome) = false)
    (f : AuthenticationMetrics → Nat) : total (amount f) past = 0 := by
  unfold total
  rw [List.sum_eq_zero_iff]
  intro n hn
  obtain ⟨bucket, hbucket, rfl⟩ := List.mem_map.mp hn
  have hnone := List.any_eq_false.mp h bucket hbucket
  unfold amount
  rw [Option.not_isSome_iff_eq_none.mp hnone]
  rfl

/-- The counts that a histogram is added to, whether or not it is the first. -/
theorem mergeProfile_totalsOf (hlength : histogram.cumulativeCounts.length = latencySlots)
    (totals : AuthenticationTotals)
    (hprofile : totals.latencyProfile = (totalsOf past).latencyProfile)
    (hcounts : totals.latencyCumulativeCounts = (totalsOf past).latencyCumulativeCounts) :
    totals.mergeProfile .interactiveMillisecondsV1 histogram =
      .ok ((List.range latencySlots).map fun i => total (amount (latencySlotOf i)) past) := by
  unfold AuthenticationTotals.mergeProfile
  rw [hprofile, hcounts]
  unfold totalsOf
  dsimp only
  cases hany : past.any (·.authentication.isSome) with
  | true => rfl
  | false =>
    simp only [Bool.false_eq_true, if_false, hlength, total_eq_zero hany]
    rfl

theorem addAuthentication_totalsOf (hsound : SoundAuthentication authentication histogram)
    (hsome : bucket.authentication = some authentication) :
    (totalsOf past).addAuthentication authentication = .ok totals ↔
      (∀ f ∈ additive, total (amount f) (past ++ [bucket]) ≤ u64Max) ∧
        totals = totalsOf (past ++ [bucket]) := by
  have hamount : ∀ f, total (amount f) (past ++ [bucket]) =
      total (amount f) past + f authentication := by
    intro f
    rw [total_concat]
    unfold amount
    rw [hsome]
    rfl
  have hcount : latencyCountOf authentication = histogram.count := by
    unfold latencyCountOf
    rw [hsound.latency]
    rfl
  have hsum : latencySumOf authentication = histogram.sumMilliseconds := by
    unfold latencySumOf
    rw [hsound.latency]
    rfl
  have hslot : ∀ i, latencySlotOf i authentication = histogram.cumulativeCounts.getD i 0 := by
    intro i
    unfold latencySlotOf
    rw [hsound.latency]
    rfl
  have hany : (past ++ [bucket]).any (·.authentication.isSome) = true := by
    simp [hsome]
  have hcounts : histogram.cumulativeCounts =
      (List.range latencySlots).map (fun i => latencySlotOf i authentication) := by
    simp only [hslot]
    exact eq_map_getD hsound.length
  have hafter : totalsOf (past ++ [bucket]) =
      { attempts := total (amount (·.attempts)) past + authentication.attempts
        successes := total (amount (·.successes)) past + authentication.successes
        failures := total (amount (·.failures)) past + authentication.failures
        denials := total (amount (·.denials)) past + authentication.denials
        activeAccountObservations := total (amount (·.activeAccountObservations)) past +
          authentication.activeAccountObservations
        latencyProfile := some .interactiveMillisecondsV1
        latencyCount := total (amount latencyCountOf) past + histogram.count
        latencySumMilliseconds := total (amount latencySumOf) past + histogram.sumMilliseconds
        latencyCumulativeCounts := (List.range latencySlots).map fun i =>
          total (amount (latencySlotOf i)) past + latencySlotOf i authentication } := by
    unfold totalsOf
    simp only [hamount, hany, if_true, hcount, hsum]
  have hprofile : ∀ profile, (totalsOf past).latencyProfile.getD .interactiveMillisecondsV1 =
      profile ↔ profile = .interactiveMillisecondsV1 := by
    intro profile
    unfold totalsOf
    dsimp only
    split <;> exact eq_comm
  rw [forall_additive, hafter]
  simp only [hamount, hcount, hsum]
  unfold AuthenticationTotals.addAuthentication AuthenticationTotals.addOutcomes
    AuthenticationTotals.addLatency
  simp only [bind_eq_ok, mapError_eq_ok, okOr_eq_ok, checkedAdd_eq_ok, pure_eq_ok, hsound.latency,
    Option.some.injEq, exists_eq_left', hsound.profile]
  constructor
  · rintro ⟨_, ⟨_, ⟨h1, rfl⟩, _, ⟨h2, rfl⟩, _, ⟨h3, rfl⟩, _, ⟨h4, rfl⟩, _, ⟨h5, rfl⟩, rfl⟩, counts,
      hmerge, _, ⟨h6, rfl⟩, _, ⟨h7, rfl⟩, result, hadd, rfl⟩
    rw [mergeProfile_totalsOf hsound.length _ (by rfl) (by rfl)] at hmerge
    cases hmerge
    rw [hcounts, addCounts_map_eq_ok] at hadd
    obtain ⟨h8, rfl⟩ := hadd
    refine ⟨⟨h1, h2, h3, h4, h5, h6, h7, fun i hi => h8 i (List.mem_range.mpr hi)⟩, ?_⟩
    rw [(hprofile _).mpr rfl]
    rfl
  · rintro ⟨⟨h1, h2, h3, h4, h5, h6, h7, h8⟩, rfl⟩
    have hadd : addCounts
        ((List.range latencySlots).map fun i => total (amount (latencySlotOf i)) past)
        histogram.cumulativeCounts = .ok ((List.range latencySlots).map fun i =>
          total (amount (latencySlotOf i)) past + latencySlotOf i authentication) := by
      rw [hcounts, addCounts_map_eq_ok]
      exact ⟨fun i hi => h8 i (List.mem_range.mp hi), rfl⟩
    refine ⟨_, ⟨_, ⟨h1, rfl⟩, _, ⟨h2, rfl⟩, _, ⟨h3, rfl⟩, _, ⟨h4, rfl⟩, _, ⟨h5, rfl⟩, rfl⟩, _,
      mergeProfile_totalsOf hsound.length _ (by rfl) (by rfl), _, ⟨h6, rfl⟩, _, ⟨h7, rfl⟩, _, hadd,
      ?_⟩
    rw [(hprofile _).mpr rfl]
    rfl

theorem addBucket_totalsOf (hvalid : validateBucket bucket = .ok ())
    (hpast : ∀ f ∈ additive, total (amount f) past ≤ u64Max) :
    (totalsOf past).addBucket bucket = .ok totals ↔
      (∀ f ∈ additive, total (amount f) (past ++ [bucket]) ≤ u64Max) ∧
        totals = totalsOf (past ++ [bucket]) := by
  unfold AuthenticationTotals.addBucket
  rw [hvalid]
  show (match bucket.authentication with
    | none => pure (totalsOf past)
    | some authentication => (totalsOf past).addAuthentication authentication) = _ ↔ _
  cases hsome : bucket.authentication with
  | some authentication =>
    obtain ⟨histogram, hsound⟩ := soundAuthentication_of_mem hvalid hsome
    exact addAuthentication_totalsOf hsound hsome
  | none =>
    have hsame : ∀ f, total (amount f) (past ++ [bucket]) = total (amount f) past := by
      intro f
      rw [total_concat]
      unfold amount
      rw [hsome]
      rfl
    have hany : (past ++ [bucket]).any (·.authentication.isSome) =
        past.any (·.authentication.isSome) := by
      simp [hsome]
    have htotals : totalsOf (past ++ [bucket]) = totalsOf past := by
      unfold totalsOf
      simp only [hsame, hany]
    simp only [hsame, htotals, pure_eq_ok]
    exact ⟨fun h => ⟨hpast, h.symm⟩, fun h => h.2.symm⟩

end

variable {buckets : List TelemetryBucket}

theorem foldlM_totalsOf (hvalid : ∀ bucket ∈ buckets, validateBucket bucket = .ok ())
    (past : List TelemetryBucket) (hpast : ∀ f ∈ additive, total (amount f) past ≤ u64Max)
    (totals : AuthenticationTotals) :
    buckets.foldlM AuthenticationTotals.addBucket (totalsOf past) = .ok totals ↔
      (∀ f ∈ additive, total (amount f) (past ++ buckets) ≤ u64Max) ∧
        totals = totalsOf (past ++ buckets) := by
  induction buckets generalizing past with
  | nil =>
    rw [List.append_nil, List.foldlM_nil, pure_eq_ok]
    exact ⟨fun h => ⟨hpast, h.symm⟩, fun h => h.2.symm⟩
  | cons bucket buckets ih =>
    obtain ⟨hfirst, hrest⟩ := List.forall_mem_cons.mp hvalid
    have hsplit : past ++ bucket :: buckets = past ++ [bucket] ++ buckets := by simp
    rw [List.foldlM_cons, bind_eq_ok, hsplit]
    constructor
    · rintro ⟨_, hstep, hfold⟩
      obtain ⟨hfits, rfl⟩ := (addBucket_totalsOf hfirst hpast).mp hstep
      exact (ih hrest _ hfits).mp hfold
    · intro h
      have hfits : ∀ f ∈ additive, total (amount f) (past ++ [bucket]) ≤ u64Max := by
        intro f hf
        have hle := h.1 f hf
        unfold total at hle ⊢
        rw [List.map_append, List.sum_append] at hle
        omega
      exact ⟨_, (addBucket_totalsOf hfirst hpast).mpr ⟨hfits, rfl⟩, (ih hrest _ hfits).mpr h⟩

/-- On validated buckets the rollup is the totals, if all of them fit. -/
theorem aggregateAuthentication_eq_ok (hvalid : ∀ bucket ∈ buckets, validateBucket bucket = .ok ())
    (rollup : AuthenticationRollup) :
    aggregateAuthentication buckets = .ok rollup ↔
      (∀ f ∈ additive, total (amount f) buckets ≤ u64Max) ∧
        rollup = (totalsOf buckets).rollup := by
  have hzero : AuthenticationTotals.zero = totalsOf [] := rfl
  unfold aggregateAuthentication
  rw [hzero]
  simp only [bind_eq_ok, pure_eq_ok, foldlM_totalsOf hvalid [] (fun _ _ => Nat.zero_le _),
    List.nil_append]
  constructor
  · rintro ⟨_, ⟨hfits, rfl⟩, rfl⟩
    exact ⟨hfits, rfl⟩
  · rintro ⟨hfits, rfl⟩
    exact ⟨_, ⟨hfits, rfl⟩, rfl⟩

theorem valid_of_foldlM {totals totals' : AuthenticationTotals}
    (h : buckets.foldlM AuthenticationTotals.addBucket totals = .ok totals') :
    ∀ bucket ∈ buckets, validateBucket bucket = .ok () := by
  induction buckets generalizing totals with
  | nil => exact List.forall_mem_nil _
  | cons bucket buckets ih =>
    rw [List.foldlM_cons, bind_eq_ok] at h
    obtain ⟨next, hnext, h⟩ := h
    unfold AuthenticationTotals.addBucket at hnext
    rw [bind_unit_eq_ok, mapError_eq_ok] at hnext
    exact List.forall_mem_cons.mpr ⟨hnext.1, ih h⟩

theorem valid_of_aggregate {rollup : AuthenticationRollup}
    (h : aggregateAuthentication buckets = .ok rollup) :
    ∀ bucket ∈ buckets, validateBucket bucket = .ok () := by
  unfold aggregateAuthentication at h
  obtain ⟨_, hfold, _⟩ := (bind_eq_ok _ _ _).mp h
  exact valid_of_foldlM hfold

/-! ## The only failure -/

/-- If the computation fails, then with this error. -/
def FailsWith {ε α : Type} (error : ε) (x : Except ε α) : Prop := ∀ e, x = .error e → e = error

theorem FailsWith.bind {ε α β : Type} {error : ε} {x : Except ε α} {f : α → Except ε β}
    (hx : FailsWith error x) (hf : ∀ a, x = .ok a → FailsWith error (f a)) :
    FailsWith error (x >>= f) := by
  cases x with
  | error e =>
    intro e' h
    cases h
    exact hx e rfl
  | ok a => exact hf a rfl

theorem FailsWith.ok {ε α : Type} (error : ε) (a : α) : FailsWith error (.ok a) := by
  intro e h
  cases h

theorem FailsWith.mapError {ε ε' α : Type} {error : ε} {x : Except ε α} (h : FailsWith error x)
    (f : ε → ε') : FailsWith (f error) (x.mapError f) := by
  cases x with
  | error e =>
    intro e' he
    cases he
    rw [h e rfl]
  | ok a => exact FailsWith.ok _ a

theorem checkedAdd_failsWith (left right : Nat) :
    FailsWith .aggregateOverflow (checkedAdd left right) := by
  intro e h
  unfold checkedAdd at h
  split at h
  · cases h
  · cases h
    rfl

theorem addCounts_failsWith (aggregates values : List Nat) :
    FailsWith .aggregateOverflow (addCounts aggregates values) := by
  induction aggregates generalizing values with
  | nil => exact FailsWith.ok _ _
  | cons aggregate aggregates ih =>
    cases values with
    | nil => exact FailsWith.ok _ _
    | cons value values =>
      refine (checkedAdd_failsWith _ _).bind fun _ _ => ?_
      exact (ih values).bind fun _ _ => FailsWith.ok _ _

theorem addOutcomes_failsWith (totals : AuthenticationTotals)
    (authentication : AuthenticationMetrics) :
    FailsWith .aggregateOverflow (totals.addOutcomes authentication) := by
  unfold AuthenticationTotals.addOutcomes
  refine (checkedAdd_failsWith _ _).bind fun _ _ => ?_
  refine (checkedAdd_failsWith _ _).bind fun _ _ => ?_
  refine (checkedAdd_failsWith _ _).bind fun _ _ => ?_
  refine (checkedAdd_failsWith _ _).bind fun _ _ => ?_
  exact (checkedAdd_failsWith _ _).bind fun _ _ => FailsWith.ok _ _

theorem addBucket_failsWith {past : List TelemetryBucket} {bucket : TelemetryBucket}
    (hvalid : validateBucket bucket = .ok ()) :
    FailsWith (.contract .aggregateOverflow) ((totalsOf past).addBucket bucket) := by
  unfold AuthenticationTotals.addBucket
  rw [hvalid]
  show FailsWith _ (match bucket.authentication with
    | none => pure (totalsOf past)
    | some authentication => (totalsOf past).addAuthentication authentication)
  cases hsome : bucket.authentication with
  | none => exact FailsWith.ok _ _
  | some authentication =>
    obtain ⟨histogram, hsound⟩ := soundAuthentication_of_mem hvalid hsome
    have hlatency : okOr authentication.latency RollupError.panicked = .ok histogram :=
      (okOr_eq_ok _ _ _).mpr hsound.latency
    have hprofile : okOr histogram.profile.asKnown RollupError.panicked =
        .ok .interactiveMillisecondsV1 := (okOr_eq_ok _ _ _).mpr hsound.profile
    refine ((addOutcomes_failsWith _ _).mapError _).bind fun totals htotals => ?_
    rw [hlatency]
    show FailsWith _ (okOr histogram.profile.asKnown RollupError.panicked >>= fun profile =>
      (totals.addLatency profile histogram).mapError .contract)
    rw [hprofile]
    refine FailsWith.mapError ?_ _
    unfold AuthenticationTotals.addLatency
    obtain ⟨hattempts, hkept⟩ : totals.latencyProfile = (totalsOf past).latencyProfile ∧
        totals.latencyCumulativeCounts = (totalsOf past).latencyCumulativeCounts := by
      rw [mapError_eq_ok] at htotals
      simp only [AuthenticationTotals.addOutcomes, bind_eq_ok, pure_eq_ok] at htotals
      obtain ⟨_, _, _, _, _, _, _, _, _, _, rfl⟩ := htotals
      exact ⟨rfl, rfl⟩
    rw [mergeProfile_totalsOf hsound.length totals hattempts hkept]
    refine (FailsWith.ok _ _).bind fun _ _ => ?_
    refine (checkedAdd_failsWith _ _).bind fun _ _ => ?_
    refine (checkedAdd_failsWith _ _).bind fun _ _ => ?_
    exact (addCounts_failsWith _ _).bind fun _ _ => FailsWith.ok _ _

theorem foldlM_failsWith (hvalid : ∀ bucket ∈ buckets, validateBucket bucket = .ok ())
    (past : List TelemetryBucket) (hpast : ∀ f ∈ additive, total (amount f) past ≤ u64Max) :
    FailsWith (.contract .aggregateOverflow)
      (buckets.foldlM AuthenticationTotals.addBucket (totalsOf past)) := by
  induction buckets generalizing past with
  | nil => exact FailsWith.ok _ _
  | cons bucket buckets ih =>
    obtain ⟨hfirst, hrest⟩ := List.forall_mem_cons.mp hvalid
    rw [List.foldlM_cons]
    refine (addBucket_failsWith hfirst).bind fun totals hstep => ?_
    obtain ⟨hfits, rfl⟩ := (addBucket_totalsOf hfirst hpast).mp hstep
    exact ih hrest _ hfits

/-- A rollup of validated buckets does not panic, and fails for an overflow only. -/
theorem aggregateAuthentication_failsWith
    (hvalid : ∀ bucket ∈ buckets, validateBucket bucket = .ok ()) :
    FailsWith (.contract .aggregateOverflow) (aggregateAuthentication buckets) :=
  (foldlM_failsWith hvalid [] fun _ _ => Nat.zero_le _).bind fun _ _ => FailsWith.ok _ _

end RustyAuth
