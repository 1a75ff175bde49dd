/-
  Fixed-window counters over a bounded map.

  A limiter counts the requests of a class for a subject in windows of one minute; the subject
  is kept as a digest.  The map has room for a fixed number of windows: a request for one it
  does not have makes it drop those that have run out, and is refused if that makes no room.
  Instants and durations are in nanoseconds.

  Over any sequence of requests with non-decreasing instants the map stays within its bounds,
  a running window stays what it is, and every interval of a minute allows at most twice the
  budget (`LimiterHistory`).
-/
import RustyAuth.Library.Bytes
import RustyAuth.Library.FixedWindows
import RustyAuth.Library.Runs
import Mathlib.Data.List.AList
import Mathlib.Data.List.MinMax

namespace RustyAuth

open RustyAuth.Library

inductive RateLimitClass
  | ceremony
  | identifierProbe
  | credentialExchange
  | pairingExchange
  | recovery
  | verification
deriving DecidableEq

def nanoseconds : Nat := 1000000000

namespace RateLimitClass

def budget : RateLimitClass → Nat
  | .ceremony => 30
  | .identifierProbe => 10
  | .credentialExchange => 60
  | .pairingExchange => 60
  | .recovery => 10
  | .verification => 10

/-- In seconds, for every class. -/
def window (_ : RateLimitClass) : Nat := 60

def key : RateLimitClass → String
  | .ceremony => "ceremony"
  | .identifierProbe => "identifier"
  | .credentialExchange => "credential"
  | .pairingExchange => "pairing"
  | .recovery => "recovery"
  | .verification => "verification"

/-- The name the class is printed with. -/
def debug : RateLimitClass → String
  | .ceremony => "Ceremony"
  | .identifierProbe => "IdentifierProbe"
  | .credentialExchange => "CredentialExchange"
  | .pairingExchange => "PairingExchange"
  | .recovery => "Recovery"
  | .verification => "Verification"

theorem budget_pos (kind : RateLimitClass) : 0 < kind.budget := by
  cases kind <;> decide

end RateLimitClass

structure RateLimitDecision where
  allowed : Bool
  retryAfterSeconds : Nat
deriving DecidableEq

structure Window where
  count : Nat
  startedAt : Nat
deriving DecidableEq

structure WindowKey where
  kind : RateLimitClass
  digest : Bytes
deriving DecidableEq

abbrev Windows := AList fun _ : WindowKey => Window

/-- A panic under the lock would poison it. -/
structure RateLimiter where
  windows : Windows
  capacity : Nat
  poisoned : Bool

def RateLimiter.new (capacity : Nat) : RateLimiter := ⟨∅, capacity, false⟩

def subjectKey (sha256 : Bytes → Bytes) (kind : RateLimitClass) (subject : String) : Bytes :=
  (sha256 (utf8 kind.debug ++ [0] ++ utf8 subject)).take 16

/-! ## Checks -/

def u32Max : Nat := 2 ^ 32 - 1

def windowNanoseconds (kind : RateLimitClass) : Nat := kind.window * nanoseconds

theorem windowNanoseconds_pos (kind : RateLimitClass) : 0 < windowNanoseconds kind := by
  show 0 < 60 * 1000000000
  decide

namespace Windows

def size (windows : Windows) : Nat := windows.keys.length

/-- `HashMap::retain`. -/
def retain (windows : Windows) (keep : Window → Bool) : Windows :=
  ⟨windows.entries.filter fun entry => keep entry.2,
    windows.nodupKeys.sublist List.filter_sublist⟩

/-- The window a request is counted in: the tracked one, or a new one. -/
def current (windows : Windows) (key : WindowKey) (now : Nat) : Window :=
  let entry := (windows.lookup key).getD ⟨0, now⟩
  if windowNanoseconds key.kind ≤ now - entry.startedAt then ⟨0, now⟩ else entry

def record (windows : Windows) (key : WindowKey) (now : Nat) : Window :=
  let entry := windows.current key now
  { entry with count := min (entry.count + 1) u32Max }

end Windows

def overCapacity (kind : RateLimitClass) : RateLimitDecision := ⟨false, kind.window⟩

/-- The answer once the request is counted. -/
def Window.decision (entry : Window) (kind : RateLimitClass) (now : Nat) : RateLimitDecision where
  allowed := entry.count ≤ kind.budget
  retryAfterSeconds := (windowNanoseconds kind - (now - entry.startedAt)) / nanoseconds + 1

def RateLimiter.count (limiter : RateLimiter) (windows : Windows) (key : WindowKey) (now : Nat) :
    RateLimitDecision × RateLimiter :=
  let entry := windows.record key now
  (entry.decision key.kind now, { limiter with windows := windows.insert key entry })

/-- The key a request is counted under is its class with the digest of its subject. -/
def RateLimiter.checkKey (limiter : RateLimiter) (key : WindowKey) (now : Nat) :
    RateLimitDecision × RateLimiter :=
  if limiter.poisoned then (overCapacity key.kind, limiter)
  else if limiter.capacity ≤ limiter.windows.size ∧ key ∉ limiter.windows then
    let windows := limiter.windows.retain fun entry =>
      now - entry.startedAt < windowNanoseconds key.kind
    if limiter.capacity ≤ windows.size then (overCapacity key.kind, { limiter with windows })
    else limiter.count windows key now
  else limiter.count limiter.windows key now

def RateLimiter.checkAt (sha256 : Bytes → Bytes) (limiter : RateLimiter) (kind : RateLimitClass)
    (subject : String) (now : Nat) : RateLimitDecision × RateLimiter :=
  limiter.checkKey ⟨kind, subjectKey sha256 kind subject⟩ now

/-! ## What a check does -/

namespace Windows

variable {windows : Windows} {keep : Window → Bool}

theorem lookup_retain (key : WindowKey) :
    (windows.retain keep).lookup key = (windows.lookup key).filter keep := by
  apply Option.ext
  intro entry
  show entry ∈ (windows.retain keep).lookup key ↔ _
  rw [AList.mem_lookup_iff, Option.filter_eq_some_iff, ← Option.mem_def, AList.mem_lookup_iff]
  exact List.mem_filter

theorem size_retain_le : (windows.retain keep).size ≤ windows.size :=
  (List.filter_sublist.map _).length_le

theorem size_insert_of_mem {key : WindowKey} (h : key ∈ windows) (entry : Window) :
    size (windows.insert key entry) = windows.size := by
  unfold size
  have hpos : 0 < windows.keys.length := List.length_pos_of_mem h
  rw [AList.keys_insert, List.length_cons, List.length_erase_of_mem h]
  omega

theorem size_insert_of_not_mem {key : WindowKey} (h : key ∉ windows) (entry : Window) :
    size (windows.insert key entry) = windows.size + 1 := by
  unfold size
  rw [AList.keys_insert, List.length_cons, List.erase_of_not_mem h]

end Windows

/-- What a check leaves of the windows it does not count in: all, or those that run. -/
inductive KeptWindows (windows : Windows) (now : Nat) : Windows → Prop
  | all : KeptWindows windows now windows
  | running (kind : RateLimitClass) : KeptWindows windows now
      (windows.retain fun entry => now - entry.startedAt < windowNanoseconds kind)

variable {entry : Window}

section

variable {windows base : Windows} {now : Nat} (h : KeptWindows windows now base)

include h

theorem KeptWindows.size_le : base.size ≤ windows.size := by
  cases h with
  | all => exact Nat.le_refl _
  | running => exact Windows.size_retain_le

/-- A window that runs is kept. -/
theorem KeptWindows.lookup_running {key : WindowKey} (hentry : windows.lookup key = some entry)
    (hruns : now < entry.startedAt + windowNanoseconds key.kind) :
    base.lookup key = some entry := by
  cases h with
  | all => exact hentry
  | running kind =>
    rw [Windows.lookup_retain, hentry, Option.filter_some, if_pos]
    rw [decide_eq_true_eq]
    change now < entry.startedAt + windowNanoseconds kind at hruns
    have hpos := windowNanoseconds_pos kind
    omega

/-- What is kept was there. -/
theorem KeptWindows.lookup_some {key : WindowKey} (hentry : base.lookup key = some entry) :
    windows.lookup key = some entry := by
  cases h with
  | all => exact hentry
  | running kind =>
    rw [Windows.lookup_retain] at hentry
    exact (Option.filter_eq_some_iff.mp hentry).1

end

/-- The two ways a check can go. -/
inductive CheckOutcome (limiter : RateLimiter) (key : WindowKey) (now : Nat) :
    RateLimitDecision × RateLimiter → Prop
  -- not counted: the lock is poisoned, or there is no room for a window of its own
  | refused {base : Windows} (hbase : KeptWindows limiter.windows now base)
      (hnot : limiter.poisoned = true ∨ key ∉ limiter.windows) :
      CheckOutcome limiter key now
        (overCapacity key.kind, { limiter with windows := base })
  | counted {base : Windows} (hbase : KeptWindows limiter.windows now base)
      (hroom : key ∈ base ∨ base.size < limiter.capacity) :
      CheckOutcome limiter key now (limiter.count base key now)

theorem RateLimiter.checkKey_outcome (limiter : RateLimiter) (key : WindowKey) (now : Nat) :
    CheckOutcome limiter key now (limiter.checkKey key now) := by
  unfold RateLimiter.checkKey
  split
  · next hpoisoned => exact .refused .all (Or.inl hpoisoned)
  · split
    · next hfull =>
      dsimp only
      split
      · exact .refused (.running key.kind) (Or.inr hfull.2)
      · next hroom => exact .counted (.running key.kind) (Or.inr (Nat.not_le.mp hroom))
    · next hroom =>
      refine .counted .all ?_
      rw [not_and_or, not_not, Nat.not_le] at hroom
      exact hroom.symm

theorem Windows.mem_iff {windows : Windows} {key : WindowKey} :
    key ∈ windows ↔ ∃ entry, windows.lookup key = some entry := by
  rw [← AList.lookup_isSome, Option.isSome_iff_exists]

section

variable {limiter : RateLimiter} {key : WindowKey} {now : Nat}
  {outcome : RateLimitDecision × RateLimiter} (h : CheckOutcome limiter key now outcome)

include h

theorem CheckOutcome.capacity_eq : outcome.2.capacity = limiter.capacity := by
  cases h <;> rfl

theorem CheckOutcome.size_le (hsize : limiter.windows.size ≤ limiter.capacity) :
    outcome.2.windows.size ≤ limiter.capacity := by
  cases h with
  | refused hbase => exact Nat.le_trans hbase.size_le hsize
  | @counted base hbase hroom =>
    show Windows.size (base.insert key _) ≤ _
    by_cases hmem : key ∈ base
    · rw [Windows.size_insert_of_mem hmem]
      exact Nat.le_trans hbase.size_le hsize
    · rw [Windows.size_insert_of_not_mem hmem]
      exact hroom.resolve_left hmem

theorem CheckOutcome.poisoned_eq : outcome.2.poisoned = limiter.poisoned := by
  cases h <;> rfl

/-- A window that runs is neither dropped nor reset, and a request for another leaves it. -/
theorem CheckOutcome.running {other : WindowKey}
    (hentry : limiter.windows.lookup other = some entry) (hcount : entry.count ≤ u32Max)
    (hruns : now < entry.startedAt + windowNanoseconds other.kind) :
    ∃ entry', outcome.2.windows.lookup other = some entry' ∧
      entry'.startedAt = entry.startedAt ∧ entry.count ≤ entry'.count ∧
      (other ≠ key → entry' = entry) := by
  cases h with
  | refused hbase =>
    exact ⟨entry, hbase.lookup_running hentry hruns, rfl, Nat.le_refl _, fun _ => rfl⟩
  | @counted base hbase hroom =>
    have hkept := hbase.lookup_running hentry hruns
    by_cases hother : other = key
    · subst hother
      have hcurrent : base.current other now = entry := by
        have hpos := windowNanoseconds_pos other.kind
        unfold Windows.current
        rw [hkept, Option.getD_some]
        exact if_neg (by omega)
      refine ⟨base.record other now, AList.lookup_insert _, ?_, ?_, fun hne => absurd rfl hne⟩
      · unfold Windows.record
        rw [hcurrent]
      · unfold Windows.record
        rw [hcurrent]
        exact Nat.le_min.mpr ⟨Nat.le_succ _, hcount⟩
    · refine ⟨entry, ?_, rfl, Nat.le_refl _, fun _ => rfl⟩
      show (base.insert key _).lookup other = some entry
      rw [AList.lookup_insert_ne hother]
      exact hkept

theorem CheckOutcome.counts
    (hcounts : ∀ other entry, limiter.windows.lookup other = some entry → entry.count ≤ u32Max)
    {other : WindowKey} (hentry : outcome.2.windows.lookup other = some entry) :
    entry.count ≤ u32Max := by
  cases h with
  | refused hbase => exact hcounts other entry (hbase.lookup_some hentry)
  | @counted base hbase =>
    change (base.insert key _).lookup other = some entry at hentry
    by_cases hother : other = key
    · subst hother
      rw [AList.lookup_insert] at hentry
      cases hentry
      exact Nat.min_le_right _ _
    · rw [AList.lookup_insert_ne hother] at hentry
      exact hcounts other entry (hbase.lookup_some hentry)

/-- Of another key a check tracks nothing new. -/
theorem CheckOutcome.other {other : WindowKey} (hother : other ≠ key)
    (hentry : outcome.2.windows.lookup other = some entry) :
    limiter.windows.lookup other = some entry := by
  cases h with
  | refused hbase => exact hbase.lookup_some hentry
  | @counted base hbase =>
    change (base.insert key _).lookup other = some entry at hentry
    rw [AList.lookup_insert_ne hother] at hentry
    exact hbase.lookup_some hentry

end

/-! ## What has been allowed -/

section

variable {key : WindowKey} {allowed : List Nat} {entry : Window} {now now' : Nat}

/-- The requests allowed under a key, whose window is `entry`. -/
def MeteredIn (key : WindowKey) (allowed : List Nat) (entry : Window) (now : Nat) : Prop :=
  ∃ recent earlier, allowed = recent ++ earlier ∧
    WindowMeter (windowNanoseconds key.kind) key.kind.budget entry.startedAt recent earlier ∧
    recent.length ≤ entry.count ∧ entry.startedAt ≤ now

/-- The requests allowed under a key that has no window, or whose window has run out. -/
def Lapsed (key : WindowKey) (allowed : List Nat) (now : Nat) : Prop :=
  allowed = [] ∨ ∃ entry, MeteredIn key allowed entry now ∧
    entry.startedAt + windowNanoseconds key.kind ≤ now

theorem MeteredIn.later (h : MeteredIn key allowed entry now) (hnow : now ≤ now') :
    MeteredIn key allowed entry now' := by
  obtain ⟨recent, earlier, hallowed, hmeter, hcount, hstarted⟩ := h
  exact ⟨recent, earlier, hallowed, hmeter, hcount, Nat.le_trans hstarted hnow⟩

theorem Lapsed.later (h : Lapsed key allowed now) (hnow : now ≤ now') :
    Lapsed key allowed now' := by
  rcases h with hnone | ⟨entry, hentry, hout⟩
  · exact Or.inl hnone
  · exact Or.inr ⟨entry, hentry.later hnow, Nat.le_trans hout hnow⟩

/-- A window of its own is opened. -/
theorem Lapsed.opened (h : Lapsed key allowed now) : MeteredIn key allowed ⟨0, now⟩ now := by
  rcases h with rfl | ⟨entry, ⟨recent, earlier, rfl, hmeter, _, _⟩, hout⟩
  · exact ⟨[], [], rfl, .start _ _ _, Nat.le_refl _, Nat.le_refl _⟩
  · exact ⟨[], recent ++ earlier, rfl, hmeter.next hout, Nat.le_refl _, Nat.le_refl _⟩

theorem MeteredIn.within_le (h : MeteredIn key allowed entry now) (start : Nat) :
    within start (start + windowNanoseconds key.kind) allowed ≤ 2 * key.kind.budget := by
  obtain ⟨recent, earlier, rfl, hmeter, _, _⟩ := h
  exact hmeter.within_le start

theorem Lapsed.within_le (h : Lapsed key allowed now) (start : Nat) :
    within start (start + windowNanoseconds key.kind) allowed ≤ 2 * key.kind.budget := by
  rcases h with rfl | ⟨entry, hentry, _⟩
  · exact Nat.zero_le _
  · exact hentry.within_le start

theorem budget_lt_u32Max (kind : RateLimitClass) : kind.budget < u32Max := by
  cases kind <;> decide

/-- A request is counted in a window that runs. -/
theorem MeteredIn.record (h : MeteredIn key allowed entry now)
    (hruns : now < entry.startedAt + windowNanoseconds key.kind) :
    MeteredIn key
      (if decide (min (entry.count + 1) u32Max ≤ key.kind.budget) then now :: allowed else allowed)
      { entry with count := min (entry.count + 1) u32Max } now := by
  obtain ⟨recent, earlier, rfl, hmeter, hcount, hstarted⟩ := h
  have hbudget := budget_lt_u32Max key.kind
  split
  · next hallowed =>
    rw [decide_eq_true_eq] at hallowed
    have hroom : recent.length < key.kind.budget := by omega
    refine ⟨now :: recent, earlier, rfl, hmeter.admitted hstarted hruns hroom, ?_, hstarted⟩
    show recent.length + 1 ≤ min (entry.count + 1) u32Max
    omega
  · refine ⟨recent, earlier, rfl, hmeter, ?_, hstarted⟩
    have hfew := hmeter.few
    show recent.length ≤ min (entry.count + 1) u32Max
    omega

/-- What the map has under a key agrees with what was allowed. -/
def TracksKey (windows : Windows) (key : WindowKey) (allowed : List Nat) (now : Nat) : Prop :=
  match windows.lookup key with
  | some entry => MeteredIn key allowed entry now
  | none => Lapsed key allowed now

variable {windows base : Windows}

theorem TracksKey.within_le (h : TracksKey windows key allowed now) (start : Nat) :
    within start (start + windowNanoseconds key.kind) allowed ≤ 2 * key.kind.budget := by
  unfold TracksKey at h
  split at h
  · exact h.within_le start
  · exact h.within_le start

theorem TracksKey.kept (h : TracksKey windows key allowed now) (hnow : now ≤ now')
    (hkept : KeptWindows windows now' base) : TracksKey base key allowed now' := by
  unfold TracksKey at h ⊢
  cases hentry : windows.lookup key with
  | none =>
    rw [hentry] at h
    have hnone : base.lookup key = none := by
      cases hbase : base.lookup key with
      | none => rfl
      | some entry =>
        rw [hkept.lookup_some hbase] at hentry
        cases hentry
    rw [hnone]
    exact h.later hnow
  | some entry =>
    rw [hentry] at h
    cases hbase : base.lookup key with
    | some entry' =>
      rw [hkept.lookup_some hbase] at hentry
      cases hentry
      exact h.later hnow
    | none =>
      -- what was dropped had run out
      refine Or.inr ⟨entry, h.later hnow, Nat.not_lt.mp fun hruns => ?_⟩
      rw [hkept.lookup_running hentry hruns] at hbase
      cases hbase

/-- The window a request is counted in runs. -/
theorem TracksKey.current (h : TracksKey windows key allowed now) :
    MeteredIn key allowed (windows.current key now) now ∧
      now < (windows.current key now).startedAt + windowNanoseconds key.kind := by
  have hpos := windowNanoseconds_pos key.kind
  unfold TracksKey at h
  unfold Windows.current
  split at h
  · next entry hentry =>
    rw [hentry, Option.getD_some]
    dsimp only
    split
    · next hout =>
      have hlapsed : Lapsed key allowed now := Or.inr ⟨entry, h, by omega⟩
      exact ⟨hlapsed.opened, Nat.lt_add_of_pos_right hpos⟩
    · next hruns => exact ⟨h, by omega⟩
  · next hentry =>
    rw [hentry, Option.getD_none]
    dsimp only
    rw [if_neg (by omega)]
    exact ⟨h.opened, Nat.lt_add_of_pos_right hpos⟩

theorem TracksKey.record (h : TracksKey windows key allowed now) :
    TracksKey (windows.insert key (windows.record key now)) key
      (if ((windows.record key now).decision key.kind now).allowed then now :: allowed else allowed)
      now := by
  obtain ⟨hin, hruns⟩ := h.current
  unfold TracksKey
  rw [AList.lookup_insert]
  exact hin.record hruns

end

/-! ## Sequences of checks -/

structure RateLimitRequest where
  kind : RateLimitClass
  subject : String
  now : Nat
deriving DecidableEq

/-- The limiter, the latest instant, and what was answered, latest first. -/
structure LimiterState where
  limiter : RateLimiter
  now : Nat
  history : List (RateLimitRequest × RateLimitDecision)

def LimiterState.start (capacity : Nat) : LimiterState := ⟨.new capacity, 0, []⟩

section

variable (sha256 : Bytes → Bytes)

def RateLimitRequest.key (request : RateLimitRequest) : WindowKey :=
  ⟨request.kind, subjectKey sha256 request.kind request.subject⟩

def LimiterState.check (s : LimiterState) (request : RateLimitRequest) : LimiterState :=
  let (decision, limiter) := s.limiter.checkAt sha256 request.kind request.subject request.now
  ⟨limiter, request.now, (request, decision) :: s.history⟩

def Checks (s : LimiterState) (request : RateLimitRequest) (s' : LimiterState) : Prop :=
  s.now ≤ request.now ∧ s' = s.check sha256 request

/-- The instants of the requests allowed under a key. -/
def allowedUnder (key : WindowKey) (history : List (RateLimitRequest × RateLimitDecision)) :
    List Nat :=
  (history.filter fun (request, decision) =>
    decision.allowed && request.key sha256 = key).map fun record => record.1.now

/-- The instants of the requests allowed for a class and a subject. -/
def allowedFor (kind : RateLimitClass) (subject : String)
    (history : List (RateLimitRequest × RateLimitDecision)) : List Nat :=
  (history.filter fun (request, decision) =>
    decision.allowed && request.kind = kind && request.subject = subject).map fun record =>
      record.1.now

/-- The map keeps its bounds, and agrees with what was allowed. -/
structure LimiterHistory (s : LimiterState) : Prop where
  sound : s.limiter.poisoned = false
  size : s.limiter.windows.size ≤ s.limiter.capacity
  counts : ∀ key entry, s.limiter.windows.lookup key = some entry → entry.count ≤ u32Max
  tracks : ∀ key, TracksKey s.limiter.windows key (allowedUnder sha256 key s.history) s.now

end

variable {sha256 : Bytes → Bytes}

theorem allowedUnder_cons (key : WindowKey) (request : RateLimitRequest)
    (decision : RateLimitDecision) (history : List (RateLimitRequest × RateLimitDecision)) :
    allowedUnder sha256 key ((request, decision) :: history) =
      if decision.allowed ∧ request.key sha256 = key then
        request.now :: allowedUnder sha256 key history
      else allowedUnder sha256 key history := by
  unfold allowedUnder
  by_cases hkey : decision.allowed = true ∧ request.key sha256 = key
  · rw [if_pos hkey, List.filter_cons_of_pos, List.map_cons]
    rw [Bool.and_eq_true, decide_eq_true_eq]
    exact hkey
  · rw [if_neg hkey, List.filter_cons_of_neg]
    rw [Bool.and_eq_true, decide_eq_true_eq]
    exact hkey

/-- What is allowed for a subject is allowed under its key. -/
theorem allowedFor_sublist (kind : RateLimitClass) (subject : String)
    (history : List (RateLimitRequest × RateLimitDecision)) :
    (allowedFor kind subject history).Sublist
      (allowedUnder sha256 ⟨kind, subjectKey sha256 kind subject⟩ history) := by
  refine (List.monotone_filter_right history ?_).map _
  rintro ⟨request, decision⟩ h
  simp only [Bool.and_eq_true, decide_eq_true_eq] at h ⊢
  obtain ⟨⟨hallowed, rfl⟩, rfl⟩ := h
  exact ⟨hallowed, rfl⟩

theorem limiterHistory_start (sha256 : Bytes → Bytes) (capacity : Nat) :
    LimiterHistory sha256 (.start capacity) where
  sound := rfl
  size := Nat.zero_le _
  counts := by
    intro key entry hentry
    cases hentry
  tracks _ := Or.inl rfl

variable {s s' : LimiterState} {request : RateLimitRequest}

theorem LimiterHistory.check (h : LimiterHistory sha256 s) (hcheck : Checks sha256 s request s') :
    LimiterHistory sha256 s' := by
  obtain ⟨hnow, rfl⟩ := hcheck
  have houtcome := s.limiter.checkKey_outcome (request.key sha256) request.now
  refine ⟨houtcome.poisoned_eq.trans h.sound, ?_, ?_, ?_⟩
  · exact Nat.le_trans (houtcome.size_le h.size) (Nat.le_of_eq houtcome.capacity_eq.symm)
  · intro key entry hentry
    exact houtcome.counts h.counts hentry
  · intro key
    show TracksKey (s.limiter.checkKey (request.key sha256) request.now).2.windows key
      (allowedUnder sha256 key
        ((request, (s.limiter.checkKey (request.key sha256) request.now).1) :: s.history))
      request.now
    rw [allowedUnder_cons]
    generalize s.limiter.checkKey (request.key sha256) request.now = outcome at houtcome
    cases houtcome with
    | refused hbase =>
      rw [if_neg fun hand => Bool.false_ne_true hand.1]
      exact (h.tracks key).kept hnow hbase
    | @counted base hbase =>
      have htracks := (h.tracks key).kept hnow hbase
      by_cases hkey : request.key sha256 = key
      · subst hkey
        simp only [and_true]
        exact htracks.record
      · rw [if_neg fun hand => hkey hand.2]
        unfold TracksKey at htracks ⊢
        show match (base.insert (request.key sha256) _).lookup key with
          | some entry => MeteredIn key _ entry request.now
          | none => Lapsed key _ request.now
        rw [AList.lookup_insert_ne (Ne.symm hkey)]
        exact htracks

/-! ## The guarantees of a limiter -/

section

variable {s s' : LimiterState} {request : RateLimitRequest} (h : LimiterHistory sha256 s)

include h

theorem LimiterHistory.allowedFor_le (kind : RateLimitClass) (subject : String) (start : Nat) :
    within start (start + windowNanoseconds kind) (allowedFor kind subject s.history) ≤
      2 * kind.budget :=
  Nat.le_trans ((allowedFor_sublist kind subject s.history).countP_le)
    ((h.tracks ⟨kind, subjectKey sha256 kind subject⟩).within_le start)

theorem LimiterHistory.running (hcheck : Checks sha256 s request s') {key : WindowKey}
    (hentry : s.limiter.windows.lookup key = some entry)
    (hruns : request.now < entry.startedAt + windowNanoseconds key.kind) :
    ∃ entry', s'.limiter.windows.lookup key = some entry' ∧
      entry'.startedAt = entry.startedAt ∧ entry.count ≤ entry'.count ∧
      (key ≠ request.key sha256 → entry' = entry) := by
  obtain ⟨_, rfl⟩ := hcheck
  exact (s.limiter.checkKey_outcome (request.key sha256) request.now).running hentry
    (h.counts key entry hentry) hruns

end

/-- The request was counted and its window has no budget left. -/
def Spent (s : LimiterState) (key : WindowKey) : Prop :=
  ∃ entry, s.limiter.windows.lookup key = some entry ∧ key.kind.budget < entry.count

/-- While requests come for other keys, what is tracked of a key is what was. -/
theorem lookup_of_others {key : WindowKey} {requests : List RateLimitRequest}
    (hrun : Run (Checks sha256) s requests s')
    (hothers : ∀ request ∈ requests, request.key sha256 ≠ key)
    (hentry : s'.limiter.windows.lookup key = some entry) :
    s.limiter.windows.lookup key = some entry := by
  induction hrun with
  | nil s => exact hentry
  | @cons s _ _ request _ hcheck _ ih =>
    obtain ⟨hne, hothers⟩ := List.forall_mem_cons.mp hothers
    have hnext := ih hothers hentry
    obtain ⟨_, rfl⟩ := hcheck
    exact (s.limiter.checkKey_outcome (request.key sha256) request.now).other (Ne.symm hne) hnext

/-- A request of a key whose window has run out is allowed, if it is still tracked. -/
theorem allowed_of_lapsed {limiter : RateLimiter} {key : WindowKey} {now : Nat}
    (hsound : limiter.poisoned = false) (hentry : limiter.windows.lookup key = some entry)
    (hout : entry.startedAt + windowNanoseconds key.kind ≤ now) :
    (limiter.checkKey key now).1.allowed = true := by
  have hmem : key ∈ limiter.windows := Windows.mem_iff.mpr ⟨entry, hentry⟩
  have hcounted : limiter.checkKey key now = limiter.count limiter.windows key now := by
    unfold RateLimiter.checkKey
    rw [if_neg (by rw [hsound]; exact Bool.false_ne_true), if_neg fun hand => hand.2 hmem]
  have hcurrent : limiter.windows.current key now = ⟨0, now⟩ := by
    unfold Windows.current
    rw [hentry, Option.getD_some]
    exact if_pos (by omega)
  rw [hcounted]
  show decide ((limiter.windows.record key now).count ≤ key.kind.budget) = true
  unfold Windows.record
  rw [hcurrent, decide_eq_true_eq]
  exact Nat.le_trans (Nat.min_le_left _ _) key.kind.budget_pos

/-- The window a refused request was counted in has run out when it may be tried again. -/
theorem Spent.retry (h : LimiterHistory sha256 s) (hcheck : Checks sha256 s request s')
    (hspent : Spent s' (request.key sha256)) :
    ∃ entry decision, s'.limiter.windows.lookup (request.key sha256) = some entry ∧
      s'.history = (request, decision) :: s.history ∧ decision.allowed = false ∧
      entry.startedAt + windowNanoseconds request.kind ≤
        request.now + decision.retryAfterSeconds * nanoseconds := by
  obtain ⟨hnow, rfl⟩ := hcheck
  obtain ⟨entry, hentry, hbudget⟩ := hspent
  have houtcome := s.limiter.checkKey_outcome (request.key sha256) request.now
  change (s.limiter.checkKey (request.key sha256) request.now).2.windows.lookup
    (request.key sha256) = some entry at hentry
  refine ⟨entry, (s.limiter.checkKey (request.key sha256) request.now).1, hentry, rfl, ?_⟩
  generalize s.limiter.checkKey (request.key sha256) request.now = outcome at houtcome hentry
  cases houtcome with
  | refused hbase hnot =>
    -- not counted: then the key is not tracked
    rw [h.sound] at hnot
    have hnot := hnot.resolve_left Bool.false_ne_true
    exact absurd (Windows.mem_iff.mpr ⟨entry, hbase.lookup_some hentry⟩) hnot
  | @counted base hbase =>
    change (base.insert (request.key sha256) _).lookup (request.key sha256) = some entry at hentry
    rw [AList.lookup_insert] at hentry
    cases hentry
    obtain ⟨⟨_, _, _, _, _, hstarted⟩, _⟩ :=
      ((h.tracks (request.key sha256)).kept hnow hbase).current
    have hrest := Nat.lt_mul_of_div_lt (Nat.lt_succ_self
      ((windowNanoseconds request.kind -
        (request.now - (base.record (request.key sha256) request.now).startedAt)) / nanoseconds))
      (show 0 < nanoseconds by decide)
    refine ⟨decide_eq_false (Nat.not_le.mpr hbudget), ?_⟩
    change (base.record (request.key sha256) request.now).startedAt ≤ request.now at hstarted
    show _ ≤ request.now + ((windowNanoseconds request.kind - (request.now -
      (base.record (request.key sha256) request.now).startedAt)) / nanoseconds + 1) * nanoseconds
    rw [Nat.succ_eq_add_one] at hrest
    omega

/-- After a refusal for want of budget, the next request of the key that comes when it was told
    to come is allowed, if its window is still tracked. -/
theorem Spent.next_allowed {s₁ s₂ : LimiterState} {requests : List RateLimitRequest} {now : Nat}
    (h : LimiterHistory sha256 s) (hcheck : Checks sha256 s request s₁)
    (hspent : Spent s₁ (request.key sha256)) (hrun : Run (Checks sha256) s₁ requests s₂)
    (hothers : ∀ other ∈ requests, other.key sha256 ≠ request.key sha256)
    (htracked : request.key sha256 ∈ s₂.limiter.windows)
    (hnow : ∀ decision, s₁.history = (request, decision) :: s.history →
      request.now + decision.retryAfterSeconds * nanoseconds ≤ now) :
    (s₂.limiter.checkAt sha256 request.kind request.subject now).1.allowed = true := by
  obtain ⟨entry, decision, hentry, hhistory, _, hout⟩ := hspent.retry h hcheck
  obtain ⟨entry', hentry'⟩ := Windows.mem_iff.mp htracked
  have hsame := lookup_of_others hrun hothers hentry'
  rw [hentry] at hsame
  cases hsame
  have hlater : LimiterHistory sha256 s₂ :=
    Run.invariant (I := LimiterHistory sha256) (fun _ _ _ h hcheck => h.check hcheck) hrun
      (h.check hcheck)
  exact allowed_of_lapsed hlater.sound hentry' (Nat.le_trans hout (hnow decision hhistory))

end RustyAuth
