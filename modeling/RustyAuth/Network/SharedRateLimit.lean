/-
  The counter that the limiters of many processes share.

  A request that its process allows is counted once more in the datastore, under a key that
  names the window of the clock's minute; the counter expires two windows after it was last
  counted up.  Calls of any number of processes interleave, a process may restart with an empty
  map, and a call may fail before or after the datastore has counted.

  The clocks agree if the datastore counts a request within half a window of the reading of the
  clock it is counted for; `main` gives up on an answer after three seconds.  Then no counter
  expires while requests are still counted in it, and every window allows at most its budget.
-/
import RustyAuth.Library.Keyspace
import RustyAuth.Library.Tasks
import RustyAuth.Network.RateLimit

namespace RustyAuth

open RustyAuth.Library

abbrev RateCounters := Keyspace fun _ : String => Nat

/-- SHA-256, and the name the processes share. -/
structure SharedLimits where
  sha256 : Bytes → Bytes
  realm : String
  capacity : Nat

/-- What an answer was for: the reading of the clock, once there was one. -/
structure SharedAnswer where
  kind : RateLimitClass
  subject : String
  clock : Option Nat
  decision : RateLimitDecision
deriving DecidableEq

structure SharedState where
  limiters : Nat → RateLimiter
  counters : RateCounters
  -- the datastore's clock, in seconds
  time : Nat

inductive SharedTask
  | idle
  -- allowed by the process at a second of the system clock
  | counting (kind : RateLimitClass) (subject : String) (clock : Nat)

inductive SharedInput
  | tick (time : Nat)
  -- at an instant of the process; the system clock may stand before its epoch
  | check (process : Nat) (kind : RateLimitClass) (subject : String) (now : Nat)
      (clock : Option Nat)
  | count
  -- counted, but the answer is lost
  | lose
  | fail
  | restart (process : Nat)
  | abandon

abbrev SharedTurn := Turn SharedState SharedTask SharedAnswer

def counterMax : Nat := 2 ^ 63 - 1

/-- `INCR` and `EXPIRE` in one transaction; a counter at its limit makes it fail. -/
def incr (counters : RateCounters) (time : Nat) (key : String) (seconds : Nat) :
    Option Nat × RateCounters :=
  let count := (counters.get time key).getD 0
  if count < counterMax then
    (some (count + 1), commit time counters [.setEx key (count + 1) seconds])
  else (none, commit time counters [.setEx key count seconds])

section

variable (limits : SharedLimits)

/-- The name as `distributed` keeps it. -/
def SharedLimits.digest : String := hexEncode ((limits.sha256 (utf8 limits.realm)).take 12)

def rateLimitKey (kind : RateLimitClass) (subject : String) (epoch : Nat) : String :=
  "auth:rate-limit:" ++ limits.digest ++ ":" ++ kind.key ++ ":" ++
    hexEncode (subjectKey limits.sha256 kind subject) ++ ":" ++ toString epoch

/-- The transaction for a request that read the clock. -/
def countRequest (s : SharedState) (kind : RateLimitClass) (subject : String) (clock : Nat) :
    Option Nat × RateCounters :=
  incr s.counters s.time (rateLimitKey limits kind subject (clock / kind.window)) (kind.window * 2)

/-- `RateLimiter::check`, up to the datastore. -/
def checkLocal (s : SharedState) (process : Nat) (kind : RateLimitClass) (subject : String)
    (now : Nat) (clock : Option Nat) : SharedTurn :=
  let (decision, limiter) := (s.limiters process).checkAt limits.sha256 kind subject now
  let s := { s with limiters := Function.update s.limiters process limiter }
  if decision.allowed then
    match clock with
    | some clock => ⟨s, .counting kind subject clock, []⟩
    | none => ⟨s, .idle, [⟨kind, subject, none, ⟨false, kind.window⟩⟩]⟩
  else ⟨s, .idle, [⟨kind, subject, none, decision⟩]⟩

/-- A failure of the datastore refuses. -/
def failClosed (s : SharedState) (kind : RateLimitClass) (subject : String) (clock : Nat) :
    SharedTurn :=
  ⟨s, .idle, [⟨kind, subject, some clock, ⟨false, kind.window⟩⟩]⟩

def checkShared (s : SharedState) (kind : RateLimitClass) (subject : String) (clock : Nat) :
    SharedTurn :=
  match countRequest limits s kind subject clock with
  | (some count, counters) =>
      ⟨{ s with counters }, .idle, [⟨kind, subject, some clock,
        ⟨count ≤ kind.budget, max (kind.window - clock % kind.window) 1⟩⟩]⟩
  | (none, counters) => failClosed { s with counters } kind subject clock

def sharedTurn (s : SharedState) (task : SharedTask) (input : SharedInput) : Option SharedTurn :=
  match task, input with
  | task, .tick time => if s.time ≤ time then some ⟨{ s with time }, task, []⟩ else none
  | .idle, .check process kind subject now clock =>
      some (checkLocal limits s process kind subject now clock)
  | .counting kind subject clock, .count => some (checkShared limits s kind subject clock)
  | .counting kind subject clock, .lose =>
      some (failClosed { s with counters := (countRequest limits s kind subject clock).2 } kind
        subject clock)
  | .counting kind subject clock, .fail => some (failClosed s kind subject clock)
  | .idle, .restart process =>
      some ⟨{ s with limiters := Function.update s.limiters process (.new limits.capacity) },
        .idle, []⟩
  | _, .abandon => some ⟨s, .idle, []⟩
  | _, _ => none

end

abbrev SharedWorld := World SharedState SharedTask SharedAnswer

def sharedStart (limiters : Nat → RateLimiter) (counters : RateCounters) (time : Nat) :
    SharedWorld where
  shared := ⟨limiters, counters, time⟩
  task _ := .idle
  history := []

/-- The datastore counts within half a window of the reading it counts for. -/
def ClocksAgree (s : SharedState) : SharedTask → SharedInput → Prop
  | .counting kind _ clock, .count =>
      s.time ≤ clock + kind.window / 2 ∧ clock ≤ s.time + kind.window / 2
  | _, _ => True

instance (s : SharedState) (task : SharedTask) (input : SharedInput) :
    Decidable (ClocksAgree s task input) := by
  unfold ClocksAgree
  split <;> infer_instance

def AgreeingTurns (limits : SharedLimits) :
    SharedWorld → Nat × SharedInput → SharedWorld → Prop :=
  Restrict (Turns (sharedTurn limits)) fun world l => ClocksAgree world.shared (world.task l.1) l.2

/-- The requests allowed for a class and a subject that read the clock in a window. -/
def allowedInWindow (kind : RateLimitClass) (subject : String) (epoch : Nat)
    (history : List SharedAnswer) : Nat :=
  history.countP fun answer => answer.decision.allowed && answer.kind = kind &&
    answer.subject = subject && answer.clock.any (· / kind.window = epoch)

/-! ## Counters that do not expire too soon -/

/-- The counter of a window has counted `allowed` requests, as long as any can be counted in it. -/
def Retains (counters : RateCounters) (time : Nat) (key : String) (epoch allowed : Nat) : Prop :=
  allowed = 0 ∨ 60 * epoch ≤ time + 30 ∧
    (60 * epoch + 90 ≤ time ∨
      ∃ count, allowed ≤ count ∧ ∀ t, t < 60 * epoch + 90 → counters.get t key = some count)

variable {epoch : Nat} {kind : RateLimitClass} {subject : String} {limits : SharedLimits}
  {s : SharedState} {history : List SharedAnswer}

theorem Retains.tick {counters : RateCounters} {time time' : Nat} {key : String} {allowed : Nat}
    (h : Retains counters time key epoch allowed) (htime : time ≤ time') :
    Retains counters time' key epoch allowed := by
  rcases h with hnone | ⟨hstarted, hover | hcounted⟩
  · exact Or.inl hnone
  · exact Or.inr ⟨by omega, Or.inl (by omega)⟩
  · exact Or.inr ⟨by omega, Or.inr hcounted⟩

section

variable {counters : RateCounters} {time : Nat} {key other : String} {epoch allowed : Nat}

theorem get_incr_of_ne (hother : key ≠ other) (t seconds : Nat) :
    (incr counters time other seconds).2.get t key = counters.get t key := by
  unfold incr
  dsimp only
  split
  · exact Command.get_run_of_ne _ _ _ (.setEx other _ _) hother
  · exact Command.get_run_of_ne _ _ _ (.setEx other _ _) hother

/-- What is under the key of a transaction until it expires. -/
theorem get_incr_self (counters : RateCounters) (time : Nat) (key : String) (seconds : Nat) :
    ∃ count, (∀ t, t < time + seconds → (incr counters time key seconds).2.get t key = some count) ∧
      (counters.get time key).getD 0 ≤ count ∧
      ∀ n, (incr counters time key seconds).1 = some n →
        n = count ∧ (counters.get time key).getD 0 < n := by
  unfold incr
  dsimp only
  split
  · refine ⟨(counters.get time key).getD 0 + 1, ?_, Nat.le_succ _, ?_⟩
    · intro t ht
      exact (Command.get_setEx_self _ _ _ _ _ _).trans (if_pos ht)
    · intro n hn
      cases hn
      exact ⟨rfl, Nat.lt_succ_self _⟩
  · refine ⟨(counters.get time key).getD 0, ?_, Nat.le_refl _, ?_⟩
    · intro t ht
      exact (Command.get_setEx_self _ _ _ _ _ _).trans (if_pos ht)
    · intro n hn
      cases hn

/-- A transaction under any key leaves what the counter of the window retains. -/
theorem Retains.incr (h : Retains counters time key epoch allowed) :
    Retains (incr counters time other 120).2 time key epoch allowed := by
  rcases h with hnone | ⟨hstarted, hover | ⟨count, hcount, hget⟩⟩
  · exact Or.inl hnone
  · exact Or.inr ⟨hstarted, Or.inl hover⟩
  · by_cases hdone : 60 * epoch + 90 ≤ time
    · exact Or.inr ⟨hstarted, Or.inl hdone⟩
    · refine Or.inr ⟨hstarted, Or.inr ?_⟩
      by_cases hother : key = other
      · -- counted up while the counter was there, to stay for two windows from now
        subst hother
        have hnow := hget time (by omega)
        obtain ⟨count', hself, hle, _⟩ := get_incr_self counters time key 120
        rw [hnow, Option.getD_some] at hle
        exact ⟨count', Nat.le_trans hcount hle, fun t ht => hself t (by omega)⟩
      · refine ⟨count, hcount, ?_⟩
        intro t ht
        rw [get_incr_of_ne hother]
        exact hget t ht

/-- A request of the window is counted: it has a number of its own. -/
theorem Retains.counted (h : Retains counters time key epoch allowed) {clock n : Nat}
    (hepoch : clock / 60 = epoch) (hlate : time ≤ clock + 30) (hearly : clock ≤ time + 30)
    (hn : (RustyAuth.incr counters time key 120).1 = some n) :
    allowed < n ∧
      Retains (RustyAuth.incr counters time key 120).2 time key epoch (allowed + 1) := by
  obtain ⟨count, hself, _, hnumber⟩ := get_incr_self counters time key 120
  obtain ⟨rfl, hlt⟩ := hnumber n hn
  have hfew : allowed ≤ (counters.get time key).getD 0 := by
    rcases h with rfl | ⟨_, hover | ⟨count, hcount, hget⟩⟩
    · exact Nat.zero_le _
    · omega
    · rw [hget time (by omega), Option.getD_some]
      exact hcount
  refine ⟨Nat.lt_of_le_of_lt hfew hlt, Or.inr ⟨by omega, Or.inr ⟨n, by omega, ?_⟩⟩⟩
  exact fun t ht => hself t (by omega)

end

/-! ## Runs -/

/-- A window of a class and a subject: what was allowed in it is within its budget, and counted. -/
structure WindowCounted (limits : SharedLimits) (kind : RateLimitClass) (subject : String)
    (epoch : Nat) (s : SharedState) (history : List SharedAnswer) : Prop where
  few : allowedInWindow kind subject epoch history ≤ kind.budget
  retained : Retains s.counters s.time (rateLimitKey limits kind subject epoch) epoch
    (allowedInWindow kind subject epoch history)

/-- The turns of `sharedTurn`, as far as the datastore and the answers go. -/
inductive SharedStep (limits : SharedLimits) (s : SharedState) :
    SharedTask → SharedInput → SharedTurn → Prop
  -- nothing is counted, and nothing allowed
  | uncounted {task : SharedTask} {input : SharedInput} {turn : SharedTurn}
      (hcounters : turn.shared.counters = s.counters) (htime : s.time ≤ turn.shared.time)
      (hrefused : ∀ answer ∈ turn.observed, answer.decision.allowed = false) :
      SharedStep limits s task input turn
  | refused {kind : RateLimitClass} {subject : String} {clock : Nat} {input : SharedInput}
      {turn : SharedTurn}
      (hcounters : turn.shared.counters = (countRequest limits s kind subject clock).2)
      (htime : turn.shared.time = s.time)
      (hrefused : ∀ answer ∈ turn.observed, answer.decision.allowed = false) :
      SharedStep limits s (.counting kind subject clock) input turn
  | counted {kind : RateLimitClass} {subject : String} {clock count : Nat}
      {turn : SharedTurn} {retryAfterSeconds : Nat}
      (hcount : (countRequest limits s kind subject clock).1 = some count)
      (hcounters : turn.shared.counters = (countRequest limits s kind subject clock).2)
      (htime : turn.shared.time = s.time)
      (hobserved : turn.observed = [⟨kind, subject, some clock,
        ⟨count ≤ kind.budget, retryAfterSeconds⟩⟩]) :
      SharedStep limits s (.counting kind subject clock) .count turn

theorem forall_mem_singleton_refused {clock : Option Nat} {decision : RateLimitDecision}
    (h : decision.allowed = false) :
    ∀ answer ∈ [SharedAnswer.mk kind subject clock decision],
      answer.decision.allowed = false := by
  intro answer hmem
  rw [List.mem_singleton.mp hmem]
  exact h

theorem sharedTurn_step {task : SharedTask} {input : SharedInput} {turn : SharedTurn}
    (h : sharedTurn limits s task input = some turn) :
    SharedStep limits s task input turn := by
  unfold sharedTurn at h
  split at h
  case h_1 =>
    split at h
    · next htime =>
      cases h
      exact .uncounted rfl htime (List.forall_mem_nil _)
    · cases h
  case h_2 process kind subject now clock =>
    cases h
    unfold checkLocal
    dsimp only
    split
    · cases clock with
      | some clock => exact .uncounted rfl (Nat.le_refl _) (List.forall_mem_nil _)
      | none => exact .uncounted rfl (Nat.le_refl _) (forall_mem_singleton_refused rfl)
    · next hrefused =>
      exact .uncounted rfl (Nat.le_refl _)
        (forall_mem_singleton_refused (Bool.eq_false_iff.mpr hrefused))
  case h_3 kind subject clock =>
    cases h
    unfold checkShared
    split
    · next count counters hcount =>
      exact .counted (congrArg Prod.fst hcount) (congrArg Prod.snd hcount).symm rfl rfl
    · next counters hcount =>
      exact .refused (congrArg Prod.snd hcount).symm rfl (forall_mem_singleton_refused rfl)
  case h_4 =>
    cases h
    exact .refused rfl rfl (forall_mem_singleton_refused rfl)
  case h_5 =>
    cases h
    exact .uncounted rfl (Nat.le_refl _) (forall_mem_singleton_refused rfl)
  case h_6 =>
    cases h
    exact .uncounted rfl (Nat.le_refl _) (List.forall_mem_nil _)
  case h_7 =>
    cases h
    exact .uncounted rfl (Nat.le_refl _) (List.forall_mem_nil _)
  case h_8 => cases h

theorem allowedInWindow_refused {observed : List SharedAnswer}
    (h : ∀ answer ∈ observed, answer.decision.allowed = false) :
    allowedInWindow kind subject epoch (observed ++ history) =
      allowedInWindow kind subject epoch history := by
  unfold allowedInWindow
  rw [List.countP_append, List.countP_eq_zero.mpr, Nat.zero_add]
  intro answer hmem
  rw [h answer hmem]
  exact Bool.false_ne_true

theorem allowedInWindow_singleton {answer : SharedAnswer} :
    allowedInWindow kind subject epoch ([answer] ++ history) =
      allowedInWindow kind subject epoch history +
        if answer.decision.allowed ∧ answer.kind = kind ∧ answer.subject = subject ∧
          answer.clock.any (· / kind.window = epoch) then 1 else 0 := by
  unfold allowedInWindow
  rw [List.singleton_append, List.countP_cons]
  simp only [Bool.and_eq_true, decide_eq_true_eq, and_assoc]

theorem ClocksAgree.count {clock : Nat} (h : ClocksAgree s (.counting kind subject clock) .count) :
    s.time ≤ clock + 30 ∧ clock ≤ s.time + 30 := by
  have hhalf : kind.window / 2 = 30 := by
    unfold RateLimitClass.window
    rfl
  change s.time ≤ clock + kind.window / 2 ∧ clock ≤ s.time + kind.window / 2 at h
  rwa [hhalf] at h

theorem WindowCounted.step {task : SharedTask} {input : SharedInput} {turn : SharedTurn}
    (h : WindowCounted limits kind subject epoch s history) (hagrees : ClocksAgree s task input)
    (hstep : SharedStep limits s task input turn) :
    WindowCounted limits kind subject epoch turn.shared (turn.observed ++ history) := by
  cases hstep with
  | uncounted hcounters htime hrefused =>
    constructor
    · rw [allowedInWindow_refused hrefused]
      exact h.few
    · rw [allowedInWindow_refused hrefused, hcounters]
      exact h.retained.tick htime
  | refused hcounters htime hrefused =>
    constructor
    · rw [allowedInWindow_refused hrefused]
      exact h.few
    · rw [allowedInWindow_refused hrefused, hcounters, htime]
      exact h.retained.incr
  | @counted kind' subject' clock count _ _ hcount hcounters htime hobserved =>
    rw [hobserved]
    by_cases hthis : decide (count ≤ kind'.budget) = true ∧ kind' = kind ∧ subject' = subject ∧
        (some clock).any (· / kind.window = epoch) = true
    · constructor
      · rw [allowedInWindow_singleton, if_pos hthis]
        obtain ⟨hbudget, rfl, rfl, hepoch⟩ := hthis
        rw [Option.any_some, decide_eq_true_eq] at hepoch
        rw [decide_eq_true_eq] at hbudget
        subst hepoch
        exact Nat.le_trans (h.retained.counted rfl hagrees.count.1 hagrees.count.2 hcount).1 hbudget
      · rw [allowedInWindow_singleton, if_pos hthis, hcounters, htime]
        obtain ⟨hbudget, rfl, rfl, hepoch⟩ := hthis
        rw [Option.any_some, decide_eq_true_eq] at hepoch
        subst hepoch
        exact (h.retained.counted rfl hagrees.count.1 hagrees.count.2 hcount).2
    · constructor
      · rw [allowedInWindow_singleton, if_neg hthis]
        exact h.few
      · rw [allowedInWindow_singleton, if_neg hthis, hcounters, htime]
        exact h.retained.incr

theorem windowCounted_run {limiters : Nat → RateLimiter} {counters : RateCounters} {time : Nat}
    {ls : List (Nat × SharedInput)} {world : SharedWorld}
    (hrun : Run (AgreeingTurns limits) (sharedStart limiters counters time) ls world)
    (kind : RateLimitClass) (subject : String) (epoch : Nat) :
    WindowCounted limits kind subject epoch world.shared world.history := by
  refine Run.invariant
    (I := fun world => WindowCounted limits kind subject epoch world.shared world.history)
    ?_ hrun ⟨Nat.zero_le _, Or.inl rfl⟩
  rintro world l _ h ⟨hagrees, turn, hact, rfl⟩
  exact h.step hagrees (sharedTurn_step hact)

theorem limiter_run {sha256 : Bytes → Bytes} {capacity : Nat} {requests : List RateLimitRequest}
    {s : LimiterState} (hrun : Run (Checks sha256) (.start capacity) requests s) :
    LimiterHistory sha256 s ∧ s.limiter.capacity = capacity := by
  refine Run.invariant (I := fun s => LimiterHistory sha256 s ∧ s.limiter.capacity = capacity)
    ?_ hrun ⟨limiterHistory_start sha256 capacity, rfl⟩
  rintro s request s' ⟨h, hcapacity⟩ hcheck
  refine ⟨h.check hcheck, ?_⟩
  obtain ⟨_, rfl⟩ := hcheck
  exact (s.limiter.checkKey_outcome (request.key sha256) request.now).capacity_eq.trans hcapacity

/-- The datastore does not answer, or cannot count further. -/
def DatastoreFails (limits : SharedLimits) (world : SharedWorld) (l : Nat × SharedInput) : Prop :=
  l.2 = .fail ∨ l.2 = .lose ∨ l.2 = .count ∧ ∀ kind subject clock,
    world.task l.1 = .counting kind subject clock →
      (countRequest limits world.shared kind subject clock).1 = none

/-- A call that the datastore fails is refused until the next window. -/
theorem failed_refused {world world' : SharedWorld} {l : Nat × SharedInput}
    (hturn : Turns (sharedTurn limits) world l world') (hfailed : DatastoreFails limits world l) :
    ∃ answer, world'.history = answer :: world.history ∧
      answer.decision = ⟨false, answer.kind.window⟩ := by
  obtain ⟨i, input⟩ := l
  obtain ⟨turn, hact, rfl⟩ := hturn
  dsimp only at hact
  cases htask : world.task i with
  | idle =>
    rw [htask] at hact
    obtain rfl | rfl | ⟨rfl, _⟩ := hfailed <;> cases hact
  | counting kind subject clock =>
    rw [htask] at hact
    obtain rfl | rfl | ⟨rfl, hfull⟩ := hfailed
    · cases hact
      exact ⟨_, rfl, rfl⟩
    · cases hact
      exact ⟨_, rfl, rfl⟩
    · obtain rfl := Option.some.inj hact
      have hcount := hfull kind subject clock htask
      unfold checkShared
      split
      · next hsome => cases hcount.symm.trans (congrArg Prod.fst hsome)
      · exact ⟨_, rfl, rfl⟩

/-- The limits of a process, over every sequence of checks, and of the processes that share a
    datastore, over every interleaving. -/
theorem rate_limits_hold (sha256 : Bytes → Bytes) :
    (∀ capacity requests s, Run (Checks sha256) (.start capacity) requests s →
      s.limiter.windows.size ≤ capacity ∧
      (∀ kind subject start, within start (start + windowNanoseconds kind)
        (allowedFor kind subject s.history) ≤ 2 * kind.budget) ∧
      (∀ request s', Checks sha256 s request s' → ∀ key entry,
        s.limiter.windows.lookup key = some entry →
        request.now < entry.startedAt + windowNanoseconds key.kind →
        ∃ entry', s'.limiter.windows.lookup key = some entry' ∧
          entry'.startedAt = entry.startedAt ∧ entry.count ≤ entry'.count ∧
          (key ≠ request.key sha256 → entry' = entry)) ∧
      ∀ request decision s₁ others s₂ now, Checks sha256 s request s₁ →
        s₁.history = (request, decision) :: s.history → Spent s₁ (request.key sha256) →
        Run (Checks sha256) s₁ others s₂ →
        (∀ other ∈ others, other.key sha256 ≠ request.key sha256) →
        request.key sha256 ∈ s₂.limiter.windows →
        request.now + decision.retryAfterSeconds * nanoseconds ≤ now →
        decision.allowed = false ∧
          (s₂.limiter.checkAt sha256 request.kind request.subject now).1.allowed = true) ∧
    ∀ realm capacity limiters counters time ls world,
      Run (AgreeingTurns ⟨sha256, realm, capacity⟩) (sharedStart limiters counters time) ls world →
      (∀ kind subject epoch, allowedInWindow kind subject epoch world.history ≤ kind.budget) ∧
      ∀ l world', Turns (sharedTurn ⟨sha256, realm, capacity⟩) world l world' →
        DatastoreFails ⟨sha256, realm, capacity⟩ world l →
        ∃ answer, world'.history = answer :: world.history ∧
          answer.decision = ⟨false, answer.kind.window⟩ := by
  constructor
  · intro capacity requests s hrun
    obtain ⟨h, hcapacity⟩ := limiter_run hrun
    refine ⟨hcapacity ▸ h.size, h.allowedFor_le, ?_, ?_⟩
    · intro request s' hcheck key entry hentry hruns
      exact h.running hcheck hentry hruns
    · intro request decision s₁ others s₂ now hcheck hhistory hspent hothers hne htracked hnow
      constructor
      · obtain ⟨_, decision', _, hhistory', hrefused, _⟩ := hspent.retry h hcheck
        rw [hhistory] at hhistory'
        cases hhistory'
        exact hrefused
      · refine hspent.next_allowed h hcheck hothers hne htracked ?_
        intro decision' hhistory'
        rw [hhistory] at hhistory'
        cases hhistory'
        exact hnow
  · intro realm capacity limiters counters time ls world hrun
    exact ⟨fun kind subject epoch => (windowCounted_run hrun kind subject epoch).few,
      fun l world' hturn hfailed => failed_refused hturn hfailed⟩

/-! ### Sample sequences -/

/-- Texts stand for their digests. -/
def sampleLimits : SharedLimits := ⟨id, "realm", 8⟩

/-- Eleven probes of one subject, one of another a minute later. -/
def sampleProbes : List RateLimitRequest :=
  List.replicate 11 ⟨.identifierProbe, "a", 5⟩ ++ [⟨.identifierProbe, "b", 61 * nanoseconds⟩]

/-- Two processes; the second restarts between its requests. -/
def sampleShared : List (Nat × SharedInput) :=
  [(0, .check 0 .recovery "a" 5 (some 3600)), (1, .check 1 .recovery "a" 9 (some 3601)),
    (0, .count), (1, .tick 3602), (1, .count), (1, .restart 1),
    (1, .check 1 .recovery "a" 11 (some 3602)), (1, .fail)]

def checkedRequest (s : LimiterState) (request : RateLimitRequest) : Option LimiterState :=
  if s.now ≤ request.now then some (s.check id request) else none

theorem checkedRequest_some (s : LimiterState) (request : RateLimitRequest) (s' : LimiterState)
    (h : checkedRequest s request = some s') : Checks id s request s' := by
  unfold checkedRequest at h
  split at h
  · next hnow =>
    cases h
    exact ⟨hnow, rfl⟩
  · cases h

theorem rate_limits_hold_sample :
    (∃ s, Run (Checks id) (.start 8) sampleProbes s ∧
      (allowedFor .identifierProbe "a" s.history).length = 10 ∧ s.limiter.windows.size ≤ 8) ∧
    ∃ world, Run (AgreeingTurns sampleLimits)
        (sharedStart (fun _ => .new 8) Keyspace.empty 3600) sampleShared world ∧
      allowedInWindow .recovery "a" 60 world.history = 2 ∧
      allowedInWindow .recovery "a" 60 world.history ≤ RateLimitClass.recovery.budget := by
  have hprobes : (execAll checkedRequest (.start 8) sampleProbes).map
      (fun s => (allowedFor .identifierProbe "a" s.history).length) = some 10 := by decide +kernel
  have hshared : (execAll (execWhen (fun world l => ClocksAgree world.shared (world.task l.1) l.2)
      (takeTurn (sharedTurn sampleLimits))) (sharedStart (fun _ => .new 8) Keyspace.empty 3600)
      sampleShared).map (fun world => allowedInWindow .recovery "a" 60 world.history) = some 2 := by
    decide +kernel
  obtain ⟨s, hlocal, hallowed⟩ := exists_run checkedRequest_some hprobes
  obtain ⟨world, hrun, hcounted⟩ := exists_run (restrict_of_execWhen (turns_of_takeTurn _)) hshared
  exact ⟨⟨s, hlocal, hallowed, ((rate_limits_hold id).1 8 _ s hlocal).1⟩, world, hrun, hcounted,
    ((rate_limits_hold id).2 _ _ _ _ _ _ world hrun).1 .recovery "a" 60⟩

end RustyAuth
