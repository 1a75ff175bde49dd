/-
  The telemetry quota of a connection, command by command.

  A call reads the minute, claims the marker of its batch (`SET NX EX`), adds its buckets to the
  counter of the minute (`INCR`, and `EXPIRE` for the first), and leaves its decision in the
  marker.  Calls interleave, stop anywhere, and the clock moves on; what else is written is
  outside the quota keys of the connection.  A call that finds the marker of its batch repeats the
  decision, whatever its own buckets are.  So the buckets admitted in a minute stay within the
  quota as long as no admitted batch id is used again for other buckets while its marker lives,
  and every call stores its decision in the minute it has read (`QuotaCareful`).
-/
import RustyAuth.Telemetry.Register
import RustyAuth.Library.Tasks
import Mathlib.Algebra.Order.BigOperators.Group.List
import Mathlib.Data.List.Perm.Subperm

namespace RustyAuth

open RustyAuth.Library

/-! ## Calls -/

/-- What a realm submits under a batch id. -/
structure QuotaBatch where
  id : Uuid
  buckets : List TelemetryBucket
deriving DecidableEq

structure QuotaState where
  db : Db
  clock : Nat

/-- One command. -/
def QuotaState.exec (s : QuotaState) (w : Write) : QuotaState :=
  { s with db := commit s.clock s.db [w] }

theorem QuotaState.get_exec_of_ne (s : QuotaState) (t : Nat) {w : Write} {k : Key} (h : k ≠ w.key) :
    (s.exec w).db.get t k = s.db.get t k :=
  Command.get_run_of_ne s.clock t s.db w h

theorem QuotaState.get_exec_setEx (s : QuotaState) (t : Nat) (k : Key) (v : Value k)
    (seconds : Nat) :
    (s.exec (.setEx k v seconds)).db.get t k = if t < s.clock + seconds then some v else none :=
  Command.get_setEx_self s.clock t s.db k v seconds

inductive QuotaTask
  | idle
  -- the minute was read
  | entered (batch : QuotaBatch) (minute : Nat)
  -- the marker was there
  | found (batch : QuotaBatch)
  -- the marker was set
  | claimed (batch : QuotaBatch) (minute : Nat)
  -- the counter was started, and is to expire
  | started (batch : QuotaBatch) (minute used : Nat)
  | counted (batch : QuotaBatch) (minute used : Nat)

inductive QuotaInput
  | tick (now : Nat)
  | submit (batch : QuotaBatch)
  | proceed
  -- what else is written
  | write (ws : List Write)
  -- the call stops here, as in a crash
  | abandon

inductive QuotaEvent
  | counted (batch : QuotaBatch) (minute second : Nat) (allowed : Bool)
  -- the decision that the batch is allowed was stored
  | admitted (batch : QuotaBatch) (second : Nat)
  -- a call repeated such a decision
  | readmitted (batch : QuotaBatch) (second : Nat)

abbrev QuotaTurn := Turn QuotaState QuotaTask QuotaEvent

abbrev QuotaWorld := World QuotaState QuotaTask QuotaEvent

/-- The quota keys of a connection. -/
def Key.isQuota (connectionId : Uuid) : Key → Bool
  | .fleetAnalyticsQuota id _ => id = connectionId
  | .fleetAnalyticsQuotaBatch id _ => id = connectionId
  | _ => false

section Turns

variable (connectionId : Uuid) (limit : Nat) (s : QuotaState)

def claimMarker (batch : QuotaBatch) (minute : Nat) : QuotaTurn :=
  match s.db.get s.clock (.fleetAnalyticsQuotaBatch connectionId batch.id) with
  | none =>
      ⟨s.exec (.setEx (.fleetAnalyticsQuotaBatch connectionId batch.id) "pending"
        quotaWindowSeconds), .claimed batch minute, []⟩
  | some _ => ⟨s, .found batch, []⟩

def readMarker (batch : QuotaBatch) : QuotaTurn :=
  if s.db.get s.clock (.fleetAnalyticsQuotaBatch connectionId batch.id) = some "allowed" then
    ⟨s, .idle, [.readmitted batch s.clock]⟩
  else ⟨s, .idle, []⟩

/-- What `INCR` returns. -/
def usedAfter (batch : QuotaBatch) (minute : Nat) : Nat :=
  (s.db.get s.clock (.fleetAnalyticsQuota connectionId minute)).getD 0 + batch.buckets.length

/-- `INCR`. -/
def countBuckets (batch : QuotaBatch) (minute : Nat) : QuotaTurn :=
  let used := usedAfter connectionId s batch minute
  ⟨s.exec (.setKeep (.fleetAnalyticsQuota connectionId minute) used),
    if used = batch.buckets.length then .started batch minute used else .counted batch minute used,
    [.counted batch minute s.clock (used ≤ limit)]⟩

/-- `EXPIRE`. -/
def expireCounter (batch : QuotaBatch) (minute used : Nat) : QuotaTurn :=
  match s.db.get s.clock (.fleetAnalyticsQuota connectionId minute) with
  | none => ⟨s, .counted batch minute used, []⟩
  | some value =>
      ⟨s.exec (.setEx (.fleetAnalyticsQuota connectionId minute) value quotaWindowSeconds),
        .counted batch minute used, []⟩

def storeDecision (batch : QuotaBatch) (used : Nat) : QuotaTurn :=
  ⟨s.exec (.setEx (.fleetAnalyticsQuotaBatch connectionId batch.id)
    (if used ≤ limit then "allowed" else "rejected") quotaWindowSeconds), .idle,
    if used ≤ limit then [.admitted batch s.clock] else []⟩

def quotaTurn : QuotaTask → QuotaInput → Option QuotaTurn
  | phase, .tick now => if s.clock ≤ now then some ⟨{ s with clock := now }, phase, []⟩ else none
  | phase, .write ws =>
      if ws.all fun w => !w.key.isQuota connectionId then
        some ⟨{ s with db := commit s.clock s.db ws }, phase, []⟩
      else none
  | _, .abandon => some ⟨s, .idle, []⟩
  | .idle, .submit batch => some ⟨s, .entered batch (s.clock / 60), []⟩
  | .entered batch minute, .proceed => some (claimMarker connectionId s batch minute)
  | .found batch, .proceed => some (readMarker connectionId s batch)
  | .claimed batch minute, .proceed => some (countBuckets connectionId limit s batch minute)
  | .started batch minute used, .proceed => some (expireCounter connectionId s batch minute used)
  | .counted batch _ used, .proceed => some (storeDecision connectionId limit s batch used)
  | _, _ => none

end Turns

/-! ## What is admitted -/

/-- The batch that an event admits, and when. -/
def QuotaEvent.admits : QuotaEvent → Option (QuotaBatch × Nat)
  | .admitted batch second => some (batch, second)
  | .readmitted batch second => some (batch, second)
  | .counted _ _ _ _ => none

/-- The batch was decided to be allowed less than two minutes before. -/
def recentlyAdmitted (batch : QuotaBatch) (second : Nat) (history : List QuotaEvent) : Bool :=
  history.any fun
    | .admitted other decided => other = batch && decide (second < decided + quotaWindowSeconds)
    | _ => false

/-- The distinct batches admitted in a clock minute, the retransmissions of one admitted in the
    two minutes before apart; the history has the latest event first. -/
def newIn (minute : Nat) : List QuotaEvent → List QuotaBatch
  | [] => []
  | e :: history =>
      match e.admits with
      | some (batch, second) =>
          if second / 60 = minute ∧ recentlyAdmitted batch second history = false ∧
              batch ∉ newIn minute history then
            batch :: newIn minute history
          else newIn minute history
      | none => newIn minute history

def totalBuckets (batches : List QuotaBatch) : Nat := (batches.map (·.buckets.length)).sum

/-- A turn that may be taken: an admitted batch id is submitted again only with the buckets it had
    while its marker lives, and a call stores its decision in the minute it has read. -/
def QuotaCareful (w : QuotaWorld) (l : Nat × QuotaInput) : Bool :=
  match l.2, w.task l.1 with
  | .proceed, .found batch =>
      w.history.all fun
        | .admitted other decided =>
            other.id ≠ batch.id || decide (decided + quotaWindowSeconds ≤ w.shared.clock) ||
              other = batch
        | _ => true
  | .proceed, .counted _ minute _ => w.shared.clock / 60 = minute
  | _, _ => true

/-! ## What a turn can do -/

/-- The batch whose marker a call has set, and the minute it has read, until it stores its
    decision. -/
def QuotaTask.claim : QuotaTask → Option (QuotaBatch × Nat)
  | .claimed batch minute | .started batch minute _ | .counted batch minute _ =>
      some (batch, minute)
  | .idle | .entered _ _ | .found _ => none

/-- What a call has read from the counter. -/
def QuotaTask.count : QuotaTask → Option (QuotaBatch × Nat × Nat)
  | .started batch minute used | .counted batch minute used => some (batch, minute, used)
  | .idle | .entered _ _ | .found _ | .claimed _ _ => none

def QuotaTask.minute : QuotaTask → Option Nat
  | .entered _ minute | .claimed _ minute | .started _ minute _ | .counted _ minute _ => some minute
  | .idle | .found _ => none

/-- A turn passes time, moves its call on or writes elsewhere, or it does one of the commands. -/
inductive QuotaMove (connectionId : Uuid) (limit : Nat) (s : QuotaState) (phase : QuotaTask)
    (input : QuotaInput) : QuotaTurn → Prop
  | quiet (s' : QuotaState) (phase' : QuotaTask) (later : s.clock ≤ s'.clock)
      (outside : ∀ k t, k.isQuota connectionId = true → s'.db.get t k = s.db.get t k)
      (claim : phase'.claim = none ∨ phase'.claim = phase.claim)
      (count : phase'.count = none ∨ phase'.count = phase.count)
      (minute : ∀ m, phase'.minute = some m → phase.minute = some m ∨ 60 * m ≤ s.clock) :
      QuotaMove connectionId limit s phase input ⟨s', phase', []⟩
  | claim (batch : QuotaBatch) (minute : Nat) (reached : phase = .entered batch minute)
      (free : s.db.get s.clock (.fleetAnalyticsQuotaBatch connectionId batch.id) = none) :
      QuotaMove connectionId limit s phase input
        ⟨s.exec (.setEx (.fleetAnalyticsQuotaBatch connectionId batch.id) "pending"
          quotaWindowSeconds), .claimed batch minute, []⟩
  | again (batch : QuotaBatch) (reached : phase = .found batch) (proceeds : input = .proceed)
      (marked : s.db.get s.clock (.fleetAnalyticsQuotaBatch connectionId batch.id) =
        some "allowed") :
      QuotaMove connectionId limit s phase input ⟨s, .idle, [.readmitted batch s.clock]⟩
  | count (batch : QuotaBatch) (minute : Nat) (reached : phase = .claimed batch minute) :
      QuotaMove connectionId limit s phase input (countBuckets connectionId limit s batch minute)
  | expire (batch : QuotaBatch) (minute used value : Nat)
      (reached : phase = .started batch minute used)
      (there : s.db.get s.clock (.fleetAnalyticsQuota connectionId minute) = some value) :
      QuotaMove connectionId limit s phase input
        ⟨s.exec (.setEx (.fleetAnalyticsQuota connectionId minute) value quotaWindowSeconds),
          .counted batch minute used, []⟩
  | store (batch : QuotaBatch) (minute used : Nat) (reached : phase = .counted batch minute used)
      (proceeds : input = .proceed) :
      QuotaMove connectionId limit s phase input (storeDecision connectionId limit s batch used)

variable {turn : QuotaTurn} {batch : QuotaBatch} {second used : Nat}

section Moves

variable {connectionId : Uuid} {limit : Nat} {s : QuotaState} {phase : QuotaTask}
  {input : QuotaInput}

theorem quotaMove_on {phase' : QuotaTask} (claim : phase'.claim = none ∨ phase'.claim = phase.claim)
    (count : phase'.count = none ∨ phase'.count = phase.count)
    (minute : ∀ m, phase'.minute = some m → phase.minute = some m) :
    QuotaMove connectionId limit s phase input ⟨s, phase', []⟩ :=
  .quiet s phase' le_rfl (fun _ _ _ => rfl) claim count fun m hm => .inl (minute m hm)

theorem quotaMove_idle : QuotaMove connectionId limit s phase input ⟨s, .idle, []⟩ :=
  quotaMove_on (.inl rfl) (.inl rfl) fun m hm => by cases hm

theorem quotaMove_tick {now : Nat}
    (h : quotaTurn connectionId limit s phase (.tick now) = some turn) :
    QuotaMove connectionId limit s phase input turn := by
  have h : (if s.clock ≤ now then some ⟨{ s with clock := now }, phase, []⟩ else none) =
      some turn := by cases phase <;> exact h
  obtain ⟨hlater, h⟩ := Option.ite_none_right_eq_some.mp h
  obtain rfl := Option.some.inj h
  exact .quiet _ phase hlater (fun _ _ _ => rfl) (.inr rfl) (.inr rfl) fun m hm => .inl hm

theorem quotaMove_write {ws : List Write}
    (h : quotaTurn connectionId limit s phase (.write ws) = some turn) :
    QuotaMove connectionId limit s phase input turn := by
  have h : (if ws.all fun w => !w.key.isQuota connectionId then
      some ⟨{ s with db := commit s.clock s.db ws }, phase, []⟩ else none) = some turn := by
    cases phase <;> exact h
  obtain ⟨houtside, h⟩ := Option.ite_none_right_eq_some.mp h
  obtain rfl := Option.some.inj h
  simp only [List.all_eq_true, Bool.not_eq_true'] at houtside
  refine .quiet _ phase le_rfl (fun k t hk => ?_) (.inr rfl) (.inr rfl) fun m hm => .inl hm
  refine get_commit_of_forall_ne s.clock t ws k s.db fun w hw heq => ?_
  rw [heq, houtside w hw] at hk
  cases hk

theorem quotaMove_proceed (h : quotaTurn connectionId limit s phase .proceed = some turn) :
    QuotaMove connectionId limit s phase .proceed turn := by
  cases phase with
  | idle => cases h
  | entered batch minute =>
    obtain rfl := Option.some.inj h
    unfold claimMarker
    cases hget : s.db.get s.clock (.fleetAnalyticsQuotaBatch connectionId batch.id) with
    | none => exact .claim batch minute rfl hget
    | some prior => exact quotaMove_on (.inl rfl) (.inl rfl) fun m hm => by cases hm
  | found batch =>
    obtain rfl := Option.some.inj h
    unfold readMarker
    split
    · next hallowed => exact .again batch rfl rfl hallowed
    · exact quotaMove_idle
  | claimed batch minute =>
    obtain rfl := Option.some.inj h
    exact .count batch minute rfl
  | started batch minute used =>
    obtain rfl := Option.some.inj h
    unfold expireCounter
    cases hget : s.db.get s.clock (.fleetAnalyticsQuota connectionId minute) with
    | none => exact quotaMove_on (.inr rfl) (.inr rfl) fun m hm => hm
    | some value => exact .expire batch minute used value rfl hget
  | counted batch minute used =>
    obtain rfl := Option.some.inj h
    exact .store batch minute used rfl rfl

theorem quotaMove_of_turn (h : quotaTurn connectionId limit s phase input = some turn) :
    QuotaMove connectionId limit s phase input turn := by
  cases input with
  | tick now => exact quotaMove_tick h
  | write ws => exact quotaMove_write h
  | proceed => exact quotaMove_proceed h
  | abandon =>
    have h : some (⟨s, .idle, []⟩ : QuotaTurn) = some turn := by cases phase <;> exact h
    obtain rfl := Option.some.inj h
    exact quotaMove_idle
  | submit batch =>
    cases phase with
    | idle =>
      obtain rfl := Option.some.inj h
      refine .quiet s _ le_rfl (fun _ _ _ => rfl) (.inl rfl) (.inl rfl) fun m hm => .inr ?_
      obtain rfl := Option.some.inj hm
      exact Nat.mul_div_le s.clock 60
    | _ => cases h

end Moves

/-! ## The counter -/

/-- The batches that were counted before their minute was over, with the decisions that `p`
    selects. -/
def countedIn (p : Bool → Bool) (minute : Nat) (history : List QuotaEvent) : List QuotaBatch :=
  history.filterMap fun
    | .counted batch m second allowed =>
        if m = minute ∧ second < 60 * minute + 60 ∧ p allowed then some batch else none
    | _ => none

/-- What was counted in a minute. -/
def chargedIn (minute : Nat) (history : List QuotaEvent) : List QuotaBatch :=
  countedIn (fun _ => true) minute history

/-- What was decided to be allowed in a minute. -/
def allowedIn (minute : Nat) (history : List QuotaEvent) : List QuotaBatch :=
  countedIn id minute history

section Sums

variable {p : Bool → Bool} {minute : Nat} {history : List QuotaEvent}

theorem mem_countedIn_append (observed : List QuotaEvent) (h : batch ∈ countedIn p minute history) :
    batch ∈ countedIn p minute (observed ++ history) := by
  unfold countedIn at h ⊢
  rw [List.filterMap_append]
  exact List.mem_append_right _ h

theorem countedIn_counted {m : Nat} {allowed : Bool} :
    countedIn p minute (.counted batch m second allowed :: history) =
      if m = minute ∧ second < 60 * minute + 60 ∧ p allowed then batch :: countedIn p minute history
      else countedIn p minute history := by
  unfold countedIn
  split
  · next hin => exact List.filterMap_cons_some (if_pos hin)
  · next hout => exact List.filterMap_cons_none (if_neg hout)

theorem mem_countedIn {allowed : Bool} (h : .counted batch minute second allowed ∈ history)
    (hin : second < 60 * minute + 60) (hp : p allowed = true) :
    batch ∈ countedIn p minute history :=
  List.mem_filterMap.mpr ⟨_, h, if_pos ⟨rfl, hin, hp⟩⟩

theorem totalBuckets_cons (batch : QuotaBatch) (batches : List QuotaBatch) :
    totalBuckets (batch :: batches) = batch.buckets.length + totalBuckets batches :=
  List.sum_cons

theorem totalBuckets_le_of_nodup {xs ys : List QuotaBatch} (hnodup : xs.Nodup) (hsub : xs ⊆ ys) :
    totalBuckets xs ≤ totalBuckets ys := by
  obtain ⟨zs, hperm, hzs⟩ := hnodup.subperm hsub
  calc totalBuckets xs = totalBuckets zs := (hperm.map _).sum_eq.symm
    _ ≤ totalBuckets ys := (hzs.map _).sum_le_sum fun n _ => Nat.zero_le n

/-- What is allowed was counted. -/
theorem totalBuckets_allowedIn_le :
    totalBuckets (allowedIn minute history) ≤ totalBuckets (chargedIn minute history) := by
  induction history with
  | nil => exact le_rfl
  | cons e history ih =>
    cases e with
    | counted batch m second allowed =>
      unfold allowedIn chargedIn at ih ⊢
      rw [countedIn_counted, countedIn_counted]
      by_cases hin : m = minute ∧ second < 60 * minute + 60
      · rw [if_pos (⟨hin.1, hin.2, rfl⟩ : m = minute ∧ second < 60 * minute + 60 ∧ true = true),
          totalBuckets_cons]
        split
        · rw [totalBuckets_cons]
          omega
        · omega
      · rw [if_neg fun h => hin ⟨h.1, h.2.1⟩, if_neg fun h => hin ⟨h.1, h.2.1⟩]
        exact ih
    | admitted batch second => exact ih
    | readmitted batch second => exact ih

end Sums

/-- Until its minute is over, a counter has the number of the buckets counted, and it is there
    if any batch was. -/
structure Counter (connectionId : Uuid) (limit : Nat) (s : QuotaState) (history : List QuotaEvent)
    (m : Nat) : Prop where
  value : ∀ t v, s.clock ≤ t → t < 60 * m + 60 →
    s.db.get t (.fleetAnalyticsQuota connectionId m) = some v →
    v = totalBuckets (chargedIn m history) ∧ chargedIn m history ≠ []
  lasting : ∀ t, s.clock ≤ t → t < 60 * m + 60 → chargedIn m history ≠ [] →
    (s.db.get t (.fleetAnalyticsQuota connectionId m)).isSome
  within : totalBuckets (allowedIn m history) ≤ limit

section CounterSteps

variable {connectionId : Uuid} {limit : Nat} {s : QuotaState} {history : List QuotaEvent} {m : Nat}

/-- A turn that leaves the counter and counts nothing in its minute. -/
theorem Counter.frame (h : Counter connectionId limit s history m) {s' : QuotaState}
    {history' : List QuotaEvent} (hclock : s.clock ≤ s'.clock)
    (hdb : ∀ t, s'.db.get t (.fleetAnalyticsQuota connectionId m) =
      s.db.get t (.fleetAnalyticsQuota connectionId m))
    (hcounted : ∀ p, countedIn p m history' = countedIn p m history) :
    Counter connectionId limit s' history' m := by
  have hcharged : chargedIn m history' = chargedIn m history := hcounted _
  have hallowed : allowedIn m history' = allowedIn m history := hcounted _
  refine ⟨?_, ?_, ?_⟩
  · intro t v hlater hin hget
    rw [hdb] at hget
    rw [hcharged]
    exact h.value t v (hclock.trans hlater) hin hget
  · intro t hlater hin hne
    rw [hcharged] at hne
    rw [hdb]
    exact h.lasting t (hclock.trans hlater) hin hne
  · rw [hallowed]
    exact h.within

theorem Counter.usedAfter_eq (h : Counter connectionId limit s history m)
    (hin : s.clock < 60 * m + 60) :
    usedAfter connectionId s batch m =
      batch.buckets.length + totalBuckets (chargedIn m history) := by
  unfold usedAfter
  cases hget : s.db.get s.clock (.fleetAnalyticsQuota connectionId m) with
  | none =>
    have hnil : chargedIn m history = [] := by
      by_contra hne
      have hthere := h.lasting s.clock le_rfl hin hne
      rw [hget] at hthere
      cases hthere
    rw [hnil]
    exact Nat.add_comm _ _
  | some v =>
    rw [(h.value s.clock v le_rfl hin hget).1]
    exact Nat.add_comm _ _

theorem get_other_counter (t : Nat) {minute : Nat} (h : m ≠ minute) {w : Write}
    (hkey : w.key = .fleetAnalyticsQuota connectionId minute) :
    (s.exec w).db.get t (.fleetAnalyticsQuota connectionId m) =
      s.db.get t (.fleetAnalyticsQuota connectionId m) := by
  refine s.get_exec_of_ne t fun heq => h ?_
  rw [hkey] at heq
  injection heq

theorem Counter.count (h : Counter connectionId limit s history m) (batch : QuotaBatch)
    (minute : Nat) :
    Counter connectionId limit (countBuckets connectionId limit s batch minute).shared
      ((countBuckets connectionId limit s batch minute).observed ++ history) m := by
  by_cases hm : m = minute
  swap
  · exact h.frame le_rfl (fun t => get_other_counter t hm rfl) fun p =>
      countedIn_counted.trans (if_neg fun hin => hm hin.1.symm)
  subst hm
  refine ⟨?_, ?_, ?_⟩
  · intro t v hlater hin hget
    have hnow : s.clock < 60 * m + 60 := lt_of_le_of_lt hlater hin
    have hv : v = usedAfter connectionId s batch m := Command.eq_of_get_setKeep hget
    have hnew : chargedIn m ((countBuckets connectionId limit s batch m).observed ++ history) =
        batch :: chargedIn m history := countedIn_counted.trans (if_pos ⟨rfl, hnow, rfl⟩)
    rw [hnew, hv, totalBuckets_cons]
    exact ⟨h.usedAfter_eq hnow, List.cons_ne_nil _ _⟩
  · intro t hlater hin hne
    refine Option.isSome_iff_exists.mpr ⟨_, Command.get_setKeep_self ?_⟩
    cases hget : s.db.get s.clock (.fleetAnalyticsQuota connectionId m) with
    | none => exact .inl rfl
    | some v =>
      have hbefore := (h.value s.clock v le_rfl (lt_of_le_of_lt hlater hin) hget).2
      exact .inr (h.lasting t hlater hin hbefore)
  · have hnew : allowedIn m ((countBuckets connectionId limit s batch m).observed ++ history) =
        if m = m ∧ s.clock < 60 * m + 60 ∧
          id (decide (usedAfter connectionId s batch m ≤ limit)) = true then
          batch :: allowedIn m history else allowedIn m history := countedIn_counted
    rw [hnew]
    split
    · next hin =>
      obtain ⟨_, hnow, hallowed⟩ := hin
      have hused := of_decide_eq_true hallowed
      rw [h.usedAfter_eq hnow] at hused
      have hle := @totalBuckets_allowedIn_le m history
      rw [totalBuckets_cons]
      omega
    · exact h.within

/-- A counter is made to expire in or after its minute, so it lasts until the minute is over. -/
theorem Counter.expire (h : Counter connectionId limit s history m) {minute value : Nat}
    (hbegan : 60 * minute ≤ s.clock)
    (hthere : s.db.get s.clock (.fleetAnalyticsQuota connectionId minute) = some value) :
    Counter connectionId limit
      (s.exec (.setEx (.fleetAnalyticsQuota connectionId minute) value quotaWindowSeconds))
      history m := by
  by_cases hm : m = minute
  swap
  · exact h.frame le_rfl (fun t => get_other_counter t hm rfl) fun _ => rfl
  subst hm
  have hself : ∀ t, t < 60 * m + 60 →
      (s.exec (.setEx (.fleetAnalyticsQuota connectionId m) value quotaWindowSeconds)).db.get t
        (.fleetAnalyticsQuota connectionId m) = some value := by
    intro t ht
    refine (s.get_exec_setEx t (.fleetAnalyticsQuota connectionId m) value _).trans (if_pos ?_)
    unfold quotaWindowSeconds
    omega
  refine ⟨?_, ?_, h.within⟩
  · intro t v hlater hin hget
    rw [hself t hin] at hget
    rw [← Option.some.inj hget]
    exact h.value s.clock value le_rfl (lt_of_le_of_lt hlater hin) hthere
  · intro t hlater hin hne
    rw [hself t hin]
    rfl

end CounterSteps

/-! ## The markers -/

/-- A marker that allows was left by a batch that was admitted, and stays for two minutes.  A call
    that has claimed a marker finds it pending as long as it lasts, and no other call has claimed
    it meanwhile. -/
structure Marker (connectionId : Uuid) (w : QuotaWorld) (id : Uuid) : Prop where
  marked : ∀ t, w.shared.clock ≤ t →
    w.shared.db.get t (.fleetAnalyticsQuotaBatch connectionId id) = some "allowed" →
    ∃ batch second, batch.id = id ∧ .admitted batch second ∈ w.history ∧
      t < second + quotaWindowSeconds
  standing : ∀ batch second t, batch.id = id → .admitted batch second ∈ w.history →
    w.shared.clock ≤ t → t < second + quotaWindowSeconds →
    w.shared.db.get t (.fleetAnalyticsQuotaBatch connectionId id) = some "allowed"
  pending : ∀ i batch m t, batch.id = id → (w.task i).claim = some (batch, m) →
    w.shared.clock ≤ t → t < 60 * m + quotaWindowSeconds →
    w.shared.db.get t (.fleetAnalyticsQuotaBatch connectionId id) = some "pending"
  held : ∀ i j batch m batch' m', batch.id = id → batch'.id = id →
    (w.task i).claim = some (batch, m) → (w.task j).claim = some (batch', m') →
    w.shared.clock < 60 * m + quotaWindowSeconds →
    w.shared.clock < 60 * m' + quotaWindowSeconds → i = j

section MarkerSteps

variable {connectionId : Uuid} {limit : Nat} {w : QuotaWorld} {i : Nat} {id : Uuid}

/-- A turn that leaves the marker, decides nothing about its batch and does not claim it. -/
theorem Marker.frame (h : Marker connectionId w id) (hclock : w.shared.clock ≤ turn.shared.clock)
    (hdb : ∀ t, turn.shared.db.get t (.fleetAnalyticsQuotaBatch connectionId id) =
      w.shared.db.get t (.fleetAnalyticsQuotaBatch connectionId id))
    (hobserved : ∀ batch second, batch.id = id → .admitted batch second ∉ turn.observed)
    (hclaim : ∀ batch m, batch.id = id → turn.phase.claim = some (batch, m) →
      (w.task i).claim = some (batch, m)) :
    Marker connectionId (w.take i turn) id := by
  have hclaims : ∀ j batch m, batch.id = id → ((w.take i turn).task j).claim = some (batch, m) →
      (w.task j).claim = some (batch, m) := by
    intro j batch m hid hj
    by_cases hji : j = i
    · subst hji
      rw [take_task_self] at hj
      exact hclaim batch m hid hj
    · rwa [take_task_of_ne hji] at hj
  refine ⟨?_, ?_, ?_, ?_⟩
  · intro t hlater hget
    obtain ⟨batch, second, hid, hmem, ht⟩ :=
      h.marked t (hclock.trans hlater) ((hdb t).symm.trans hget)
    exact ⟨batch, second, hid, List.mem_append_right _ hmem, ht⟩
  · intro batch second t hid hmem hlater ht
    have hbefore := (List.mem_append.mp hmem).resolve_left (hobserved batch second hid)
    exact (hdb t).trans (h.standing batch second t hid hbefore (hclock.trans hlater) ht)
  · intro j batch m t hid hj hlater ht
    exact (hdb t).trans
      (h.pending j batch m t hid (hclaims j batch m hid hj) (hclock.trans hlater) ht)
  · intro j k batch m batch' m' hid hid' hj hk hlive hlive'
    exact h.held j k batch m batch' m' hid hid' (hclaims j batch m hid hj)
      (hclaims k batch' m' hid' hk) (lt_of_le_of_lt hclock hlive) (lt_of_le_of_lt hclock hlive')

theorem get_other_marker (s : QuotaState) (t : Nat) {id' : Uuid} (h : id ≠ id') {w : Write}
    (hkey : w.key = .fleetAnalyticsQuotaBatch connectionId id') :
    (s.exec w).db.get t (.fleetAnalyticsQuotaBatch connectionId id) =
      s.db.get t (.fleetAnalyticsQuotaBatch connectionId id) := by
  refine s.get_exec_of_ne t fun heq => h ?_
  rw [hkey] at heq
  injection heq

/-- A marker that is free is none that a decision has left or a call has claimed. -/
theorem Marker.claim (h : Marker connectionId w id) {minute : Nat}
    (hbegan : 60 * minute ≤ w.shared.clock)
    (hfree : w.shared.db.get w.shared.clock (.fleetAnalyticsQuotaBatch connectionId batch.id) =
      none) :
    Marker connectionId (w.take i ⟨w.shared.exec (.setEx (.fleetAnalyticsQuotaBatch connectionId
      batch.id) "pending" quotaWindowSeconds), .claimed batch minute, []⟩) id := by
  by_cases hid : id = batch.id
  swap
  · refine h.frame le_rfl (fun t => get_other_marker w.shared t hid rfl)
      (fun _ _ _ => List.not_mem_nil) ?_
    rintro _ _ hsame ⟨⟩
    exact absurd hsame.symm hid
  subst hid
  have hself := fun t => w.shared.get_exec_setEx t (.fleetAnalyticsQuotaBatch connectionId batch.id)
    "pending" quotaWindowSeconds
  -- no other call has claimed it
  have hmine : ∀ {turn : QuotaTurn} j b m, b.id = batch.id →
      ((w.take i turn).task j).claim = some (b, m) →
      w.shared.clock < 60 * m + quotaWindowSeconds → j = i := by
    intro turn j b m hb hj hlive
    by_contra hji
    rw [take_task_of_ne hji] at hj
    have hpending := h.pending j b m w.shared.clock hb hj le_rfl hlive
    rw [hfree] at hpending
    cases hpending
  refine ⟨?_, ?_, ?_, ?_⟩
  · intro t hlater hget
    have hpending := (hself t).symm.trans hget
    split at hpending
    · exact absurd (Option.some.inj hpending) (show "pending" ≠ "allowed" by decide)
    · cases hpending
  · intro batch' second t hid hmem hlater ht
    have hnow := h.standing batch' second w.shared.clock hid hmem le_rfl (lt_of_le_of_lt hlater ht)
    rw [hfree] at hnow
    cases hnow
  · intro j b m t hb hj hlater ht
    obtain rfl := hmine j b m hb hj (lt_of_le_of_lt hlater ht)
    rw [take_task_self] at hj
    obtain ⟨rfl, rfl⟩ := Prod.mk.inj (Option.some.inj hj)
    refine (hself t).trans (if_pos ?_)
    omega
  · intro j k b m b' m' hb hb' hj hk hlive hlive'
    exact (hmine j b m hb hj hlive).trans (hmine k b' m' hb' hk hlive').symm

theorem mem_storeDecision {s : QuotaState} {e : QuotaEvent} :
    e ∈ (storeDecision connectionId limit s batch used).observed ↔
      used ≤ limit ∧ e = .admitted batch s.clock := by
  show e ∈ (if used ≤ limit then [QuotaEvent.admitted batch s.clock] else []) ↔ _
  split <;> simp [*]

/-- A call stores its decision over its own pending marker. -/
theorem Marker.store (h : Marker connectionId w id) {minute : Nat}
    (hphase : w.task i = .counted batch minute used)
    (hlive : w.shared.clock < 60 * minute + quotaWindowSeconds) :
    Marker connectionId (w.take i (storeDecision connectionId limit w.shared batch used)) id := by
  by_cases hid : id = batch.id
  swap
  · refine h.frame le_rfl (fun t => get_other_marker w.shared t hid rfl) ?_ fun _ _ _ => nofun
    intro b second hsame hmem
    cases (mem_storeDecision.mp hmem).2
    exact hid hsame.symm
  subst hid
  have hmine : (w.task i).claim = some (batch, minute) := by rw [hphase]; rfl
  have hpending := h.pending i batch minute w.shared.clock rfl hmine le_rfl hlive
  have hself : ∀ t, (storeDecision connectionId limit w.shared batch used).shared.db.get t
      (.fleetAnalyticsQuotaBatch connectionId batch.id) =
        if t < w.shared.clock + quotaWindowSeconds then
          some (if used ≤ limit then "allowed" else "rejected") else none :=
    fun t => w.shared.get_exec_setEx t (.fleetAnalyticsQuotaBatch connectionId batch.id) _ _
  have hclaims : ∀ {j : Nat} {x : QuotaBatch × Nat},
      ((w.take i (storeDecision connectionId limit w.shared batch used)).task j).claim = some x →
        (w.task j).claim = some x := fun hj => owner_of_take (.inl rfl) hj
  refine ⟨?_, ?_, ?_, ?_⟩
  · intro t hlater hget
    have hdecision := (hself t).symm.trans hget
    obtain ⟨ht, hdecision⟩ := Option.ite_none_right_eq_some.mp hdecision
    refine ⟨batch, w.shared.clock, rfl, List.mem_append_left _ ?_, ht⟩
    by_cases hallowed : used ≤ limit
    · exact mem_storeDecision.mpr ⟨hallowed, rfl⟩
    · rw [if_neg hallowed] at hdecision
      exact absurd (Option.some.inj hdecision) (show "rejected" ≠ "allowed" by decide)
  · intro b second t hb hmem hlater ht
    rcases List.mem_append.mp hmem with hnew | hold
    · obtain ⟨hallowed, heq⟩ := mem_storeDecision.mp hnew
      injection heq with hb hsecond
      subst hb hsecond
      refine (hself t).trans ?_
      rw [if_pos ht, if_pos hallowed]
    · have hnow := h.standing b second w.shared.clock hb hold le_rfl (lt_of_le_of_lt hlater ht)
      rw [hpending] at hnow
      exact absurd (Option.some.inj hnow) (show "pending" ≠ "allowed" by decide)
  · intro j b m t hb hj hlater ht
    obtain rfl : j = i :=
      h.held j i b m batch minute hb rfl (hclaims hj) hmine (lt_of_le_of_lt hlater ht) hlive
    rw [take_task_self] at hj
    cases hj
  · intro j k b m b' m' hb hb' hj hk
    exact h.held j k b m b' m' hb hb' (hclaims hj) (hclaims hk)

end MarkerSteps

/-! ## Runs -/

section New

variable {minute : Nat} {history : List QuotaEvent}

theorem newIn_of_admits_none {e : QuotaEvent} (h : e.admits = none) :
    newIn minute (e :: history) = newIn minute history := by
  rw [newIn, h]

theorem newIn_readmitted (h : recentlyAdmitted batch second history = true) :
    newIn minute (.readmitted batch second :: history) = newIn minute history := by
  rw [newIn]
  exact if_neg fun hnew => Bool.false_ne_true (hnew.2.1.symm.trans h)

theorem mem_newIn_admitted {other : QuotaBatch}
    (h : other ∈ newIn minute (.admitted batch second :: history)) :
    (other = batch ∧ second / 60 = minute) ∨ other ∈ newIn minute history := by
  rw [newIn] at h
  simp only [QuotaEvent.admits] at h
  split at h
  · next hnew => exact (List.mem_cons.mp h).imp (fun heq => ⟨heq, hnew.1⟩) id
  · exact .inr h

theorem newIn_nodup (minute : Nat) (history : List QuotaEvent) : (newIn minute history).Nodup := by
  induction history with
  | nil => exact List.nodup_nil
  | cons e history ih =>
    rw [newIn]
    split
    · split
      · next hnew => exact List.nodup_cons.mpr ⟨hnew.2.2, ih⟩
      · exact ih
    · exact ih

theorem recentlyAdmitted_of_mem {decided : Nat} (h : .admitted batch decided ∈ history)
    (hsecond : second < decided + quotaWindowSeconds) :
    recentlyAdmitted batch second history = true :=
  List.any_eq_true.mpr ⟨_, h, by simp [hsecond]⟩

end New

/-- Nothing was submitted yet. -/
structure QuotaStart (connectionId : Uuid) (w : QuotaWorld) : Prop where
  idle : ∀ i, w.task i = .idle
  history : w.history = []
  unused : ∀ k t, k.isQuota connectionId = true → w.shared.clock ≤ t → w.shared.db.get t k = none

structure Metered (connectionId : Uuid) (limit : Nat) (w : QuotaWorld) : Prop where
  began : ∀ i m, (w.task i).minute = some m → 60 * m ≤ w.shared.clock
  decided : ∀ i batch m used, (w.task i).count = some (batch, m, used) →
    ∃ second, second ≤ w.shared.clock ∧ .counted batch m second (used ≤ limit) ∈ w.history
  counters : ∀ m, Counter connectionId limit w.shared w.history m
  markers : ∀ id, Marker connectionId w id
  backed : ∀ m batch, batch ∈ newIn m w.history → batch ∈ allowedIn m w.history

theorem QuotaStart.metered {connectionId : Uuid} {w : QuotaWorld} (h : QuotaStart connectionId w)
    (limit : Nat) : Metered connectionId limit w := by
  have hcounter : ∀ m t, w.shared.clock ≤ t →
      w.shared.db.get t (.fleetAnalyticsQuota connectionId m) = none :=
    fun m t => h.unused (.fleetAnalyticsQuota connectionId m) t (decide_eq_true rfl)
  have hmarker : ∀ id t, w.shared.clock ≤ t →
      w.shared.db.get t (.fleetAnalyticsQuotaBatch connectionId id) = none :=
    fun id t => h.unused (.fleetAnalyticsQuotaBatch connectionId id) t (decide_eq_true rfl)
  have hclaim : ∀ i, (w.task i).claim = none := fun i => by rw [h.idle]; rfl
  refine ⟨?_, ?_, fun m => ⟨?_, ?_, ?_⟩, fun id => ⟨?_, ?_, ?_, ?_⟩, ?_⟩
  · intro i m hm
    rw [h.idle] at hm
    cases hm
  · intro i batch m used hcount
    rw [h.idle] at hcount
    cases hcount
  · intro t v hlater _ hget
    rw [hcounter m t hlater] at hget
    cases hget
  · intro t _ _ hne
    rw [h.history] at hne
    exact absurd rfl hne
  · rw [h.history]
    exact Nat.zero_le limit
  · intro t hlater hget
    rw [hmarker id t hlater] at hget
    cases hget
  · intro batch second t _ hmem
    rw [h.history] at hmem
    cases hmem
  · intro i batch m t _ hi
    rw [hclaim] at hi
    cases hi
  · intro i j batch m batch' m' _ _ hi
    rw [hclaim] at hi
    cases hi
  · intro m batch hbatch
    rw [h.history] at hbatch
    cases hbatch

section Steps

variable {connectionId : Uuid} {limit : Nat} {w : QuotaWorld} {i : Nat}

/-- The phases after a turn have read a minute that has begun. -/
theorem Metered.began_take (h : Metered connectionId limit w)
    (hclock : w.shared.clock ≤ turn.shared.clock) (hminute : ∀ m, turn.phase.minute = some m →
      (w.task i).minute = some m ∨ 60 * m ≤ w.shared.clock) :
    ∀ j m, ((w.take i turn).task j).minute = some m → 60 * m ≤ turn.shared.clock := by
  refine forall_take
    (P := fun phase : QuotaTask => ∀ m, phase.minute = some m → 60 * m ≤ turn.shared.clock)
    ?_ fun j m hm => (h.began j m hm).trans hclock
  intro m hm
  refine le_trans ?_ hclock
  exact (hminute m hm).elim (h.began i m) id

theorem Metered.decided_take (h : Metered connectionId limit w)
    (hclock : w.shared.clock ≤ turn.shared.clock)
    (hcount : turn.phase.count = none ∨ turn.phase.count = (w.task i).count) :
    ∀ j batch m used, ((w.take i turn).task j).count = some (batch, m, used) →
      ∃ second, second ≤ turn.shared.clock ∧
        .counted batch m second (used ≤ limit) ∈ (w.take i turn).history := by
  intro j batch m used hj
  obtain ⟨second, hsecond, hmem⟩ := h.decided j batch m used (owner_of_take hcount hj)
  exact ⟨second, hsecond.trans hclock, List.mem_append_right _ hmem⟩

theorem Metered.quiet (h : Metered connectionId limit w) {s : QuotaState} {phase : QuotaTask}
    (hclock : w.shared.clock ≤ s.clock)
    (hdb : ∀ k t, k.isQuota connectionId = true → s.db.get t k = w.shared.db.get t k)
    (hclaim : phase.claim = none ∨ phase.claim = (w.task i).claim)
    (hcount : phase.count = none ∨ phase.count = (w.task i).count)
    (hminute : ∀ m, phase.minute = some m → (w.task i).minute = some m ∨ 60 * m ≤ w.shared.clock) :
    Metered connectionId limit (w.take i ⟨s, phase, []⟩) := by
  refine ⟨h.began_take hclock hminute, h.decided_take hclock hcount, fun m => ?_, fun id => ?_,
    h.backed⟩
  · exact (h.counters m).frame hclock
      (fun t => hdb (.fleetAnalyticsQuota connectionId m) t (decide_eq_true rfl)) fun _ => rfl
  · refine (h.markers id).frame hclock
      (fun t => hdb (.fleetAnalyticsQuotaBatch connectionId id) t (decide_eq_true rfl))
      (fun _ _ _ => List.not_mem_nil) fun batch m _ hphase => ?_
    rcases hclaim with hnone | hsame
    · cases hnone.symm.trans hphase
    · exact hsame.symm.trans hphase

theorem Metered.claim (h : Metered connectionId limit w) {minute : Nat}
    (hphase : w.task i = .entered batch minute)
    (hfree : w.shared.db.get w.shared.clock (.fleetAnalyticsQuotaBatch connectionId batch.id) =
      none) :
    Metered connectionId limit (w.take i ⟨w.shared.exec (.setEx (.fleetAnalyticsQuotaBatch
      connectionId batch.id) "pending" quotaWindowSeconds), .claimed batch minute, []⟩) where
  began := h.began_take le_rfl fun m hm => .inl (by rw [hphase]; exact hm)
  decided := h.decided_take le_rfl (.inl rfl)
  counters m := (h.counters m).frame le_rfl
    (fun t => w.shared.get_exec_of_ne t Key.noConfusion) fun _ => rfl
  markers id := (h.markers id).claim (h.began i minute (by rw [hphase]; rfl)) hfree
  backed := h.backed

/-- A repeated decision is that of the same batch, by the condition on the run. -/
theorem Metered.again (h : Metered connectionId limit w) (hphase : w.task i = .found batch)
    (hcareful : QuotaCareful w (i, .proceed) = true)
    (hmarked : w.shared.db.get w.shared.clock (.fleetAnalyticsQuotaBatch connectionId batch.id) =
      some "allowed") :
    Metered connectionId limit
      (w.take i ⟨w.shared, .idle, [.readmitted batch w.shared.clock]⟩) := by
  have hrecent : recentlyAdmitted batch w.shared.clock w.history = true := by
    obtain ⟨other, decided, hid, hmem, hlive⟩ := (h.markers batch.id).marked _ le_rfl hmarked
    simp only [QuotaCareful, hphase, List.all_eq_true] at hcareful
    have hother := hcareful _ hmem
    simp only [Bool.or_eq_true, decide_eq_true_eq] at hother
    obtain rfl : other = batch := by
      rcases hother with (hne | hlapsed) | heq
      · exact absurd hid hne
      · omega
      · exact heq
    exact recentlyAdmitted_of_mem hmem hlive
  refine ⟨h.began_take le_rfl fun m hm => (by cases hm), h.decided_take le_rfl (.inl rfl),
    fun m => (h.counters m).frame le_rfl (fun _ => rfl) fun _ => rfl,
    fun id => (h.markers id).frame le_rfl (fun _ => rfl)
      (fun _ _ _ hmem => by cases List.mem_singleton.mp hmem) fun _ _ _ => nofun, ?_⟩
  intro m other hother
  refine h.backed m other ?_
  rw [← newIn_readmitted hrecent]
  exact hother

theorem Metered.count (h : Metered connectionId limit w) {minute : Nat}
    (hphase : w.task i = .claimed batch minute) :
    Metered connectionId limit
      (w.take i (countBuckets connectionId limit w.shared batch minute)) := by
  have hcase : (countBuckets connectionId limit w.shared batch minute).phase.minute = some minute ∧
      (countBuckets connectionId limit w.shared batch minute).phase.claim = some (batch, minute) ∧
      (countBuckets connectionId limit w.shared batch minute).phase.count =
        some (batch, minute, usedAfter connectionId w.shared batch minute) := by
    dsimp only [countBuckets]
    split <;> exact ⟨rfl, rfl, rfl⟩
  obtain ⟨hminute, hclaim, hcount⟩ := hcase
  refine ⟨h.began_take le_rfl fun m hm => .inl ?_, ?_,
    fun m => (h.counters m).count batch minute,
    fun id => (h.markers id).frame le_rfl (fun t => w.shared.get_exec_of_ne t Key.noConfusion)
      (fun _ _ _ hmem => by cases List.mem_singleton.mp hmem) fun other m _ hm => ?_, ?_⟩
  · rw [hphase]
    exact hminute.symm.trans hm
  · intro j other m used hj
    by_cases hji : j = i
    · subst hji
      rw [take_task_self, hcount] at hj
      obtain ⟨rfl, rfl, rfl⟩ : batch = other ∧ minute = m ∧ _ = used := by simpa using hj
      exact ⟨w.shared.clock, le_rfl, List.mem_cons_self⟩
    · rw [take_task_of_ne hji] at hj
      obtain ⟨second, hsecond, hmem⟩ := h.decided j other m used hj
      exact ⟨second, hsecond, List.mem_append_right _ hmem⟩
  · rw [hphase]
    exact hclaim.symm.trans hm
  · intro m other hother
    refine mem_countedIn_append _ (h.backed m other ?_)
    rw [← newIn_of_admits_none (e := .counted batch minute w.shared.clock
      (usedAfter connectionId w.shared batch minute ≤ limit)) rfl]
    exact hother

theorem Metered.expire (h : Metered connectionId limit w) {minute value : Nat}
    (hphase : w.task i = .started batch minute used)
    (hthere : w.shared.db.get w.shared.clock (.fleetAnalyticsQuota connectionId minute) =
      some value) :
    Metered connectionId limit (w.take i ⟨w.shared.exec (.setEx (.fleetAnalyticsQuota connectionId
      minute) value quotaWindowSeconds), .counted batch minute used, []⟩) where
  began := h.began_take le_rfl fun m hm => .inl (by rw [hphase]; exact hm)
  decided := h.decided_take le_rfl (.inr (by rw [hphase]; rfl))
  counters m := (h.counters m).expire (h.began i minute (by rw [hphase]; rfl)) hthere
  markers id := (h.markers id).frame le_rfl (fun t => w.shared.get_exec_of_ne t Key.noConfusion)
    (fun _ _ _ => List.not_mem_nil) fun _ _ _ hm => by rw [hphase]; exact hm
  backed := h.backed

/-- What is admitted was counted in the minute, since the minute is not over. -/
theorem Metered.store (h : Metered connectionId limit w) {minute : Nat}
    (hphase : w.task i = .counted batch minute used)
    (hcareful : QuotaCareful w (i, .proceed) = true) :
    Metered connectionId limit
      (w.take i (storeDecision connectionId limit w.shared batch used)) := by
  have hminute : w.shared.clock / 60 = minute := by
    simp only [QuotaCareful, hphase] at hcareful
    exact of_decide_eq_true hcareful
  have hnow : w.shared.clock < 60 * minute + 60 := by omega
  have hlive : w.shared.clock < 60 * minute + quotaWindowSeconds := by
    unfold quotaWindowSeconds
    omega
  refine ⟨h.began_take le_rfl fun m hm => (by cases hm), h.decided_take le_rfl (.inl rfl),
    fun m => (h.counters m).frame le_rfl (fun t => w.shared.get_exec_of_ne t Key.noConfusion) ?_,
    fun id => (h.markers id).store hphase hlive, ?_⟩
  · intro p
    dsimp only [storeDecision]
    split <;> rfl
  · intro m other hother
    refine mem_countedIn_append _ ?_
    by_cases hallowed : used ≤ limit
    · have hnew : other ∈ newIn m (.admitted batch w.shared.clock :: w.history) := by
        simpa only [World.take, storeDecision, if_pos hallowed, List.singleton_append] using hother
      rcases mem_newIn_admitted hnew with ⟨rfl, hm⟩ | hold
      · obtain rfl : minute = m := hminute.symm.trans hm
        obtain ⟨second, hsecond, hmem⟩ := h.decided i other minute used (by rw [hphase]; rfl)
        exact mem_countedIn hmem (lt_of_le_of_lt hsecond hnow) (decide_eq_true hallowed)
      · exact h.backed m other hold
    · refine h.backed m other ?_
      simpa only [World.take, storeDecision, if_neg hallowed, List.nil_append] using hother

theorem Metered.step {w' : QuotaWorld} {l : Nat × QuotaInput} (h : Metered connectionId limit w)
    (hcareful : QuotaCareful w l = true) (hturn : Turns (quotaTurn connectionId limit) w l w') :
    Metered connectionId limit w' := by
  obtain ⟨i, input⟩ := l
  obtain ⟨turn, hact, rfl⟩ := hturn
  cases quotaMove_of_turn hact with
  | quiet s' phase' hlater houtside hclaim hcount hminute =>
    exact h.quiet hlater houtside hclaim hcount hminute
  | claim batch minute hphase hfree => exact h.claim hphase hfree
  | again batch hphase hproceeds hmarked =>
    subst hproceeds
    exact h.again hphase hcareful hmarked
  | count batch minute hphase => exact h.count hphase
  | expire batch minute used value hphase hthere => exact h.expire hphase hthere
  | store batch minute used hphase hproceeds =>
    subst hproceeds
    exact h.store hphase hcareful

theorem Metered.bounded (h : Metered connectionId limit w) (minute : Nat) :
    totalBuckets (newIn minute w.history) ≤ limit :=
  (totalBuckets_le_of_nodup (newIn_nodup minute w.history) (h.backed minute)).trans
    (h.counters minute).within

end Steps

/-- The quota bounds what is admitted in every minute, and an admitted batch that is submitted
    again within two minutes is admitted by reading its marker, with nothing written. -/
structure QuotaKept (connectionId : Uuid) (limit : Nat) (w : QuotaWorld) : Prop where
  bounded : ∀ minute, totalBuckets (newIn minute w.history) ≤ limit
  again : ∀ batch second minute, .admitted batch second ∈ w.history →
    w.shared.clock < second + quotaWindowSeconds →
    quotaTurn connectionId limit w.shared (.entered batch minute) .proceed =
        some ⟨w.shared, .found batch, []⟩ ∧
      quotaTurn connectionId limit w.shared (.found batch) .proceed =
        some ⟨w.shared, .idle, [.readmitted batch w.shared.clock]⟩

theorem Metered.kept {connectionId : Uuid} {limit : Nat} {w : QuotaWorld}
    (h : Metered connectionId limit w) : QuotaKept connectionId limit w := by
  refine ⟨h.bounded, fun batch second minute hmem hlive => ?_⟩
  have hallowed := (h.markers batch.id).standing batch second _ rfl hmem le_rfl hlive
  constructor
  · simp only [quotaTurn, claimMarker, hallowed]
  · simp only [quotaTurn, readMarker, hallowed, if_true]

/-- In every interleaving of careful calls the buckets newly admitted in a minute stay within the
    quota, and an admitted batch is admitted again within two minutes with nothing written. -/
theorem quota_bounds_careful_runs (connectionId : Uuid) (limit : Nat) {w w' : QuotaWorld}
    {ls : List (Nat × QuotaInput)} (hstart : QuotaStart connectionId w)
    (hrun : Run (Restrict (Turns (quotaTurn connectionId limit)) fun w l => QuotaCareful w l = true)
      w ls w') : QuotaKept connectionId limit w' :=
  (hrun.invariant (fun _ _ _ hmetered hstep => hmetered.step hstep.1 hstep.2)
    (hstart.metered limit)).kept

/-! ## One call alone -/

section Alone

variable {connectionId : Uuid} {limit : Nat} {w : QuotaWorld} {i : Nat}

theorem turns_take {input : QuotaInput}
    (h : quotaTurn connectionId limit w.shared (w.task i) input = some turn) :
    Turns (quotaTurn connectionId limit) w (i, input) (w.take i turn) :=
  ⟨turn, h, rfl⟩

theorem turns_proceed {v : QuotaWorld} {phase : QuotaTask} (hphase : w.task i = phase)
    (h : quotaTurn connectionId limit w.shared phase .proceed = some turn)
    (hv : v = w.take i turn) :
    Turns (quotaTurn connectionId limit) w (i, .proceed) v := by
  subst hphase hv
  exact turns_take h

/-- What a call that ran alone has left: what the model of the ledger says. -/
structure RanAlone (connectionId : Uuid) (limit : Nat) (batch : QuotaBatch) (i : Nat)
    (w w' : QuotaWorld) : Prop where
  ended : w'.task i = .idle
  clock : w'.shared.clock = w.shared.clock
  db : w'.shared.db = commit w.shared.clock w.shared.db
    (consumeFleetAnalyticsQuota w.shared.db w.shared.clock connectionId batch.id
      batch.buckets.length limit).2
  answer : ∃ observed, w'.history = observed ++ w.history ∧
    (observed.any fun e => e.admits = some (batch, w.shared.clock)) =
      (consumeFleetAnalyticsQuota w.shared.db w.shared.clock connectionId batch.id
        batch.buckets.length limit).1

theorem alone_found {prior : String} (hphase : w.task i = .entered batch (w.shared.clock / 60))
    (hmarker : w.shared.db.get w.shared.clock (.fleetAnalyticsQuotaBatch connectionId batch.id) =
      some prior) :
    ∃ w', Run (Turns (quotaTurn connectionId limit)) w [(i, .proceed), (i, .proceed)] w' ∧
      RanAlone connectionId limit batch i w w' := by
  have hfound : quotaTurn connectionId limit w.shared (.entered batch (w.shared.clock / 60))
      .proceed = some ⟨w.shared, .found batch, []⟩ := by
    simp only [quotaTurn, claimMarker, hmarker]
  refine ⟨_, .cons (turns_proceed hphase hfound rfl)
    (.cons (turns_proceed take_task_self rfl rfl) (.nil _)), ?_⟩
  have hread : readMarker connectionId w.shared batch =
      ⟨w.shared, .idle, if prior = "allowed" then [.readmitted batch w.shared.clock] else []⟩ := by
    simp only [readMarker, hmarker, Option.some.injEq]
    split <;> rfl
  have hcoarse : consumeFleetAnalyticsQuota w.shared.db w.shared.clock connectionId batch.id
      batch.buckets.length limit = (decide (prior = "allowed"), []) := by
    simp only [consumeFleetAnalyticsQuota, hmarker]
  refine ⟨?_, ?_, ?_, _, rfl, ?_⟩
  · rw [take_task_self]
    exact congrArg Turn.phase hread
  · exact congrArg (fun turn => turn.shared.clock) hread
  · rw [hcoarse]
    exact congrArg (fun turn => turn.shared.db) hread
  · rw [hcoarse]
    show ((readMarker connectionId w.shared batch).observed.any
      fun e => decide (e.admits = some (batch, w.shared.clock))) = _
    rw [hread]
    by_cases hallowed : prior = "allowed" <;> simp [hallowed, QuotaEvent.admits]

/-- The counter as the call reads it after its claim. -/
theorem usedAfter_claimed (s : QuotaState) (batch : QuotaBatch) (minute : Nat) (value : String) :
    usedAfter connectionId (s.exec (.setEx (.fleetAnalyticsQuotaBatch connectionId batch.id) value
      quotaWindowSeconds)) batch minute = usedAfter connectionId s batch minute := by
  unfold usedAfter
  rw [show (s.exec _).clock = s.clock from rfl, s.get_exec_of_ne s.clock Key.noConfusion]

/-- `INCR` on a counter that was not there, and `EXPIRE`, are one `SETEX`. -/
theorem expireCounter_counted (connectionId : Uuid) (s : QuotaState) (batch : QuotaBatch)
    (minute used : Nat) :
    expireCounter connectionId (s.exec (.setKeep (.fleetAnalyticsQuota connectionId minute) used))
      batch minute used =
    ⟨s.exec (.setEx (.fleetAnalyticsQuota connectionId minute) used quotaWindowSeconds),
      .counted batch minute used, []⟩ := by
  have hget : (s.exec (.setKeep (.fleetAnalyticsQuota connectionId minute) used)).db.get s.clock
      (.fleetAnalyticsQuota connectionId minute) = some used := by
    refine Command.get_setKeep_self ?_
    cases s.db.get s.clock (.fleetAnalyticsQuota connectionId minute) with
    | none => exact .inl rfl
    | some v => exact .inr rfl
  have htwice : (s.exec (.setKeep (.fleetAnalyticsQuota connectionId minute) used)).exec
      (.setEx (.fleetAnalyticsQuota connectionId minute) used quotaWindowSeconds) =
      s.exec (.setEx (.fleetAnalyticsQuota connectionId minute) used quotaWindowSeconds) :=
    congrArg (fun table => QuotaState.mk ⟨table⟩ s.clock) (AList.insert_insert s.db.table)
  unfold expireCounter
  rw [show (s.exec _).clock = s.clock from rfl, hget, ← htwice]

/-- How the call writes the counter. -/
def countWrite (connectionId : Uuid) (s : QuotaState) (batch : QuotaBatch) (minute : Nat) : Write :=
  if usedAfter connectionId s batch minute = batch.buckets.length then
    .setEx (.fleetAnalyticsQuota connectionId minute) (usedAfter connectionId s batch minute)
      quotaWindowSeconds
  else .setKeep (.fleetAnalyticsQuota connectionId minute) (usedAfter connectionId s batch minute)

theorem alone_counted {minute : Nat} (hphase : w.task i = .claimed batch minute) :
    ∃ ls w', (∀ l ∈ ls, l = (i, .proceed)) ∧ Run (Turns (quotaTurn connectionId limit)) w ls w' ∧
      w'.shared = w.shared.exec (countWrite connectionId w.shared batch minute) ∧
      w'.task i = .counted batch minute (usedAfter connectionId w.shared batch minute) ∧
      w'.history = .counted batch minute w.shared.clock
        (usedAfter connectionId w.shared batch minute ≤ limit) :: w.history := by
  by_cases hfirst : usedAfter connectionId w.shared batch minute = batch.buckets.length
  · have hstarted : (countBuckets connectionId limit w.shared batch minute).phase =
        .started batch minute (usedAfter connectionId w.shared batch minute) := if_pos hfirst
    have hcount : Turns (quotaTurn connectionId limit) w (i, .proceed)
        (w.take i (countBuckets connectionId limit w.shared batch minute)) :=
      turns_proceed hphase rfl rfl
    have hcounted := expireCounter_counted connectionId w.shared batch minute
      (usedAfter connectionId w.shared batch minute)
    refine ⟨[(i, .proceed), (i, .proceed)], _, ?_, .cons hcount (.cons (turns_proceed
      (take_task_self.trans hstarted) (congrArg some hcounted) rfl) (.nil _)), ?_, take_task_self,
      rfl⟩
    · simp
    · rw [countWrite, if_pos hfirst]
      rfl
  · have hcounted : (countBuckets connectionId limit w.shared batch minute).phase =
        .counted batch minute (usedAfter connectionId w.shared batch minute) := if_neg hfirst
    refine ⟨[(i, .proceed)], _, ?_, .cons (turns_proceed hphase rfl rfl) (.nil _), ?_,
      take_task_self.trans hcounted, rfl⟩
    · simp
    · rw [countWrite, if_neg hfirst]
      rfl

theorem alone_claimed (hphase : w.task i = .entered batch (w.shared.clock / 60))
    (hmarker : w.shared.db.get w.shared.clock (.fleetAnalyticsQuotaBatch connectionId batch.id) =
      none) :
    ∃ ls w', (∀ l ∈ ls, l = (i, .proceed)) ∧ Run (Turns (quotaTurn connectionId limit)) w ls w' ∧
      RanAlone connectionId limit batch i w w' := by
  have hclaim : quotaTurn connectionId limit w.shared (.entered batch (w.shared.clock / 60))
      .proceed = some ⟨w.shared.exec (.setEx (.fleetAnalyticsQuotaBatch connectionId batch.id)
        "pending" quotaWindowSeconds), .claimed batch (w.shared.clock / 60), []⟩ := by
    simp only [quotaTurn, claimMarker, hmarker]
  have hcoarse : consumeFleetAnalyticsQuota w.shared.db w.shared.clock connectionId batch.id
      batch.buckets.length limit =
      (decide (usedAfter connectionId w.shared batch (w.shared.clock / 60) ≤ limit),
        [.setEx (.fleetAnalyticsQuotaBatch connectionId batch.id) "pending" quotaWindowSeconds,
          countWrite connectionId w.shared batch (w.shared.clock / 60),
          .setEx (.fleetAnalyticsQuotaBatch connectionId batch.id)
            (if usedAfter connectionId w.shared batch (w.shared.clock / 60) ≤ limit then "allowed"
              else "rejected") quotaWindowSeconds]) := by
    simp only [consumeFleetAnalyticsQuota, hmarker, usedAfter, countWrite, decide_eq_true_eq]
    rfl
  obtain ⟨v, hv⟩ : ∃ v, v = w.take i ⟨w.shared.exec (.setEx (.fleetAnalyticsQuotaBatch connectionId
    batch.id) "pending" quotaWindowSeconds), .claimed batch (w.shared.clock / 60), []⟩ := ⟨_, rfl⟩
  have hclaimed : v.task i = .claimed batch (w.shared.clock / 60) := by rw [hv, take_task_self]
  have hused : usedAfter connectionId v.shared batch (w.shared.clock / 60) =
      usedAfter connectionId w.shared batch (w.shared.clock / 60) := by
    rw [hv]
    exact usedAfter_claimed w.shared batch _ _
  have hwrite : countWrite connectionId v.shared batch (w.shared.clock / 60) =
      countWrite connectionId w.shared batch (w.shared.clock / 60) := by
    unfold countWrite
    rw [hused]
  obtain ⟨ls, u, hall, hrun, hshared, htask, hhistory⟩ :=
    @alone_counted batch connectionId limit v i _ hclaimed
  rw [hused] at htask hhistory
  rw [hwrite] at hshared
  have hclock : u.shared.clock = w.shared.clock := by
    rw [hshared, hv]
    rfl
  refine ⟨(i, .proceed) :: (ls ++ [(i, .proceed)]), _, ?_, .cons (turns_proceed hphase hclaim hv)
    (hrun.append (.cons (turns_proceed htask rfl rfl) (.nil _))), ?_⟩
  · intro l hl
    simp only [List.mem_cons, List.mem_append, List.not_mem_nil, or_false] at hl
    rcases hl with hl | hl | hl
    · exact hl
    · exact hall l hl
    · exact hl
  · refine ⟨take_task_self, hclock, ?_,
      (if usedAfter connectionId w.shared batch (w.shared.clock / 60) ≤ limit then
        [.admitted batch w.shared.clock] else []) ++
      [.counted batch (w.shared.clock / 60) w.shared.clock
        (usedAfter connectionId w.shared batch (w.shared.clock / 60) ≤ limit)], ?_, ?_⟩
    · rw [hcoarse]
      show (u.shared.exec _).db = _
      rw [hshared, hv]
      rfl
    · show (storeDecision connectionId limit u.shared batch _).observed ++ u.history = _
      rw [hhistory, List.append_assoc, hv]
      dsimp only [storeDecision]
      rw [hclock]
      rfl
    · rw [hcoarse]
      by_cases hallowed : usedAfter connectionId w.shared batch (w.shared.clock / 60) ≤ limit <;>
        simp [hallowed, QuotaEvent.admits]

/-- A call that runs alone, at one reading of the clock, is the call of the ledger's model. -/
theorem quota_call_alone (batch : QuotaBatch) (hidle : w.task i = .idle) :
    ∃ ls w', (∀ l ∈ ls, l = (i, .proceed)) ∧
      Run (Turns (quotaTurn connectionId limit)) w ((i, .submit batch) :: ls) w' ∧
      RanAlone connectionId limit batch i w w' := by
  obtain ⟨v, hv⟩ : ∃ v, v = w.take i ⟨w.shared, .entered batch (w.shared.clock / 60), []⟩ :=
    ⟨_, rfl⟩
  have hsubmit : Turns (quotaTurn connectionId limit) w (i, .submit batch) v := by
    rw [hv]
    exact turns_take (by rw [hidle]; rfl)
  have hshared : v.shared = w.shared := by rw [hv]; rfl
  have hhistory : v.history = w.history := by rw [hv]; rfl
  have hphase : v.task i = .entered batch (v.shared.clock / 60) := by
    rw [hshared, hv, take_task_self]
  obtain ⟨ls, w', hall, hrun, hended, hclock, hdb, hanswer⟩ : ∃ ls w',
      (∀ l ∈ ls, l = (i, .proceed)) ∧ Run (Turns (quotaTurn connectionId limit)) v ls w' ∧
        RanAlone connectionId limit batch i v w' := by
    cases hmarker : v.shared.db.get v.shared.clock
      (.fleetAnalyticsQuotaBatch connectionId batch.id) with
    | none => exact alone_claimed hphase hmarker
    | some prior =>
      obtain ⟨w', hrun, hran⟩ := alone_found hphase hmarker
      exact ⟨_, w', by simp, hrun, hran⟩
  rw [hshared] at hclock hdb hanswer
  rw [hhistory] at hanswer
  exact ⟨ls, w', hall, .cons hsubmit hrun, hended, hclock, hdb, hanswer⟩

end Alone

/-! ## A batch id used again -/

def quotaSubmission (revision : Nat) : QuotaBatch := ⟨7, [sampleSnapshot revision]⟩

def quotaWorld : QuotaWorld := ⟨⟨Keyspace.empty, 600⟩, fun _ => .idle, []⟩

theorem quota_call_alone_sample : ∃ ls w', (∀ l ∈ ls, l = (0, .proceed)) ∧
    Run (Turns (quotaTurn 500 1)) quotaWorld ((0, .submit (quotaSubmission 1)) :: ls) w' ∧
    RanAlone 500 1 (quotaSubmission 1) 0 quotaWorld w' :=
  quota_call_alone (quotaSubmission 1) rfl

/-- Call `i` submits a batch and takes `n` more turns. -/
def quotaCall (i revision n : Nat) : List (Nat × QuotaInput) :=
  (i, .submit (quotaSubmission revision)) :: List.replicate n (i, .proceed)

/-- A second bucket passes under the marker of the first. -/
theorem quota_exceeded : ∃ ls w, Run (Turns (quotaTurn 500 1)) quotaWorld ls w ∧
    QuotaStart 500 quotaWorld ∧ totalBuckets (newIn 10 w.history) = 2 := by
  have hexec : (execAll (takeTurn (quotaTurn 500 1)) quotaWorld
      (quotaCall 0 1 4 ++ quotaCall 1 2 2)).map (fun w => totalBuckets (newIn 10 w.history)) =
        some 2 := by decide +kernel
  obtain ⟨w, run, htotal⟩ := exists_run (turns_of_takeTurn _) hexec
  exact ⟨_, w, run,
    ⟨fun _ => rfl, rfl, fun _ _ _ _ => rfl⟩, htotal⟩

/-- A batch is admitted and, a minute later, admitted again from its marker. -/
theorem quota_bounds_sample : ∃ ls w,
    Run (Restrict (Turns (quotaTurn 500 1)) fun w l => QuotaCareful w l = true) quotaWorld ls w ∧
    newIn 10 w.history = [quotaSubmission 1] ∧ newIn 11 w.history = [] ∧
    QuotaStart 500 quotaWorld ∧ QuotaKept 500 1 w := by
  have hexec : (execAll (execWhen (fun w l => QuotaCareful w l = true)
      (takeTurn (quotaTurn 500 1))) quotaWorld
      (quotaCall 0 1 4 ++ [(1, .tick 660)] ++ quotaCall 1 1 2)).map
        (fun w => (newIn 10 w.history, newIn 11 w.history)) = some ([quotaSubmission 1], []) := by
    decide +kernel
  obtain ⟨w, hrun, hnew⟩ := exists_run (restrict_of_execWhen (turns_of_takeTurn _)) hexec
  obtain ⟨hfirst, hsecond⟩ := Prod.mk.inj hnew
  have hstart : QuotaStart 500 quotaWorld := ⟨fun _ => rfl, rfl, fun _ _ _ _ => rfl⟩
  exact ⟨_, w, hrun, hfirst, hsecond, hstart, quota_bounds_careful_runs 500 1 hstart hrun⟩

end RustyAuth
