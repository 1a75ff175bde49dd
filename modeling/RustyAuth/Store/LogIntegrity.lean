/-
  Integrity of the event log.

  The log is intact when its events are numbered without a gap from the first one it retains
  to the latest, and nothing lies outside that range.  Methods append freshly numbered
  events, retention removes a prefix, and the database takes the log part of a batch as a
  whole or not at all.  So an intact log stays intact, except that retention has no number
  to continue with once it has removed the event numbered `u64::MAX`.
-/
import RustyAuth.Store.EventLog

namespace RustyAuth

open RustyAuth.Library

/-- The log retains exactly the events `m` to `L`, each under its number, for good. -/
structure Intact (db : Db) (m L : Nat) : Prop where
  one_le : 1 ≤ m
  le_succ : m ≤ L + 1
  fits : L ≤ u64Max
  latest : ∀ t, db.latestEventSequence t = L
  minimum : ∀ t, db.minimumEventSequence t = m
  present : ∀ t s, m ≤ s → s ≤ L → ∃ e, db.get t (.event s) = some e ∧ e.sequence = s
  absent : ∀ t s, ¬(m ≤ s ∧ s ≤ L) → db.get t (.event s) = none

theorem intact_empty : Intact Keyspace.empty 1 0 where
  one_le := Nat.le_refl 1
  le_succ := Nat.le_refl 1
  fits := Nat.zero_le _
  latest _ := rfl
  minimum _ := rfl
  present t s hm hL := by omega
  absent t s _ := rfl

variable {now cutoff first last next s maximum r : Nat} {ws : List Write}

section

variable {db db' : Db} {m L : Nat}

/-- Only the records of the log matter. -/
theorem Intact.congr (h : Intact db m L)
    (hget : ∀ t k, k.isLog = true → db'.get t k = db.get t k) : Intact db' m L where
  one_le := h.one_le
  le_succ := h.le_succ
  fits := h.fits
  latest t := by
    unfold Db.latestEventSequence
    rw [hget t _ rfl]
    exact h.latest t
  minimum t := by
    unfold Db.minimumEventSequence
    rw [hget t _ rfl]
    exact h.minimum t
  present t s hm hL := by
    rw [hget t _ rfl]
    exact h.present t s hm hL
  absent t s hs := by
    rw [hget t _ rfl]
    exact h.absent t s hs

/-- A batch does to the log what its log part does. -/
theorem get_commit_logPart (now t : Nat) (ws : List Write) {k : Key} (hk : k.isLog = true) :
    (commit now db ws).get t k = (commit now db (logPart ws)).get t k :=
  get_commit_filter Key.isLog now t hk ws db

theorem Intact.of_logPart (h : Intact (commit now db (logPart ws)) m L) :
    Intact (commit now db ws) m L :=
  h.congr fun t _ hk => get_commit_logPart now t ws hk

/-! ## Appending -/

/-- Pending events are numbered from the latest one on, within `u64`. -/
theorem pendingEvents_sequences {tenantId : String} {inputs : List EventInput}
    {events : List AuthEvent} (h : db.pendingEvents tenantId now inputs = .ok events) :
    events.map AuthEvent.sequence =
        List.range' (db.latestEventSequence now + 1) events.length ∧
      db.latestEventSequence now + events.length ≤ u64Max := by
  have happend : db.appendEvents tenantId now inputs = .ok (events, Db.queueEvents events) := by
    unfold Db.appendEvents
    rw [h]; rfl
  exact Db.appendEvents_sequences happend

/-- Freshly numbered events extend an intact log. -/
theorem Intact.append (h : Intact db m L) {events : List AuthEvent}
    (hseq : events.map AuthEvent.sequence = List.range' (L + 1) events.length)
    (hfits : L + events.length ≤ u64Max) :
    Intact (commit now db (Db.queueEvents events)) m (L + events.length) := by
  have hle := h.le_succ
  cases hlast : events.getLast? with
  | none =>
    obtain rfl := List.getLast?_eq_none_iff.mp hlast
    exact h
  | some last =>
    have hlastSequence := getLast?_sequence hseq hlast
    have hnumber : ∀ e ∈ events, L + 1 ≤ e.sequence ∧ e.sequence ≤ L + events.length := by
      intro e he
      have hrange := List.mem_map_of_mem (f := AuthEvent.sequence) he
      rw [hseq, List.mem_range'_1] at hrange
      omega
    refine ⟨h.one_le, by omega, hfits, ?_, ?_, ?_, ?_⟩
    · intro t
      rw [latest_queueEvents db now t hlast]
      omega
    · intro t
      rw [minimum_queueEvents, h.minimum]
    · intro t s hs hsL
      by_cases hnew : L + 1 ≤ s
      · have hrange : s ∈ events.map AuthEvent.sequence := by
          rw [hseq, List.mem_range'_1]
          omega
        obtain ⟨e, he, rfl⟩ := List.mem_map.mp hrange
        exact ⟨e, get_queueEvents_new db now t hseq he, rfl⟩
      · have hold : ∀ e ∈ events, e.sequence ≠ s := fun e he => by
          have := hnumber e he
          omega
        rw [get_queueEvents_old db now t hold]
        exact h.present t s hs (by omega)
    · intro t s hs
      have hold : ∀ e ∈ events, e.sequence ≠ s := fun e he => by
        have := hnumber e he
        omega
      rw [get_queueEvents_old db now t hold]
      exact h.absent t s fun hin => hs ⟨hin.1, by omega⟩

/-! ## Retention -/

/-- The walk over a range ends at a number up to which all events are older than the cutoff. -/
theorem lastExpired_older {n : Nat} (k : Nat) :
    ∀ {a : Nat} {last : Option Nat},
      db.lastExpired now cutoff (List.range' a k) last = .ok (some n) →
      last = some n ∨ a ≤ n ∧ ∀ s, a ≤ s → s ≤ n →
        ∃ e, db.get now (.event s) = some e ∧ e.occurredAt < cutoff := by
  induction k with
  | zero =>
    intro a last hwalk
    rw [List.range'_zero, Db.lastExpired, pure_eq_ok] at hwalk
    exact Or.inl hwalk
  | succ k ih =>
    intro a last hwalk
    rw [List.range'_succ, Db.lastExpired, bind_eq_ok] at hwalk
    obtain ⟨event, hevent, hwalk⟩ := hwalk
    split at hwalk
    · rw [pure_eq_ok] at hwalk
      exact Or.inl hwalk
    · next hold =>
      have hfirst : ∃ e, db.get now (.event a) = some e ∧ e.occurredAt < cutoff :=
        ⟨event, (Db.eventAt_eq_ok.mp hevent).1, by omega⟩
      right
      rcases ih hwalk with heq | ⟨hle, hrest⟩
      · obtain rfl := Option.some.inj heq
        refine ⟨Nat.le_refl a, fun s hs hsa => ?_⟩
        obtain rfl : s = a := by omega
        exact hfirst
      · refine ⟨by omega, fun s hs hsn => ?_⟩
        by_cases hsa : s = a
        · exact hsa ▸ hfirst
        · exact hrest s (by omega) hsn

/-- A range of readable, old events is walked to its end. -/
theorem lastExpired_all (k : Nat) :
    ∀ {a : Nat} {last : Option Nat},
      (∀ s, a ≤ s → s ≤ a + k → ∃ e, db.eventAt now s = .ok e ∧ e.occurredAt < cutoff) →
      db.lastExpired now cutoff (List.range' a (k + 1)) last = .ok (some (a + k)) := by
  induction k with
  | zero =>
    intro a last hold
    obtain ⟨e, he, hlt⟩ := hold a (Nat.le_refl a) (by omega)
    rw [List.range'_succ, List.range'_zero, Db.lastExpired, bind_eq_ok]
    refine ⟨e, he, ?_⟩
    rw [if_neg (by omega)]; rfl
  | succ k ih =>
    intro a last hold
    obtain ⟨e, he, hlt⟩ := hold a (Nat.le_refl a) (by omega)
    rw [List.range'_succ, Db.lastExpired, bind_eq_ok]
    refine ⟨e, he, ?_⟩
    rw [if_neg (by omega), show a + (k + 1) = a + 1 + k by omega]
    exact ih fun s hs hle => hold s (by omega) (by omega)

/-- The removal of the events `first` to `last`; the log then starts at `next`. -/
def pruneWrites (first last next : Nat) : List Write :=
  (List.range' first (last + 1 - first)).map (fun n => .del (.event n)) ++
    [.set .eventMinSequence next]

theorem mem_pruneWrites {w : Write} :
    w ∈ pruneWrites first last next ↔
      (∃ n, first ≤ n ∧ n ≤ last ∧ w = .del (.event n)) ∨ w = .set .eventMinSequence next := by
  unfold pruneWrites
  rw [List.mem_append, List.mem_map, List.mem_singleton]
  refine or_congr ⟨?_, ?_⟩ Iff.rfl
  · rintro ⟨n, hn, rfl⟩
    rw [List.mem_range'_1] at hn
    exact ⟨n, hn.1, by omega, rfl⟩
  · rintro ⟨n, hn, hle, rfl⟩
    exact ⟨n, by rw [List.mem_range'_1]; omega, rfl⟩

theorem get_pruneWrites_removed (db : Db) (now t : Nat) (hs : first ≤ s) (hle : s ≤ last) :
    (commit now db (pruneWrites first last next)).get t (.event s) = none := by
  apply get_commit_del
  · intro w hw hkey
    rcases mem_pruneWrites.mp hw with ⟨n, _, _, rfl⟩ | rfl
    · cases hkey
      rfl
    · cases hkey
  · exact Or.inl (mem_pruneWrites.mpr (Or.inl ⟨s, hs, hle, rfl⟩))

theorem get_pruneWrites_kept (db : Db) (now t : Nat) (hs : ¬(first ≤ s ∧ s ≤ last)) :
    (commit now db (pruneWrites first last next)).get t (.event s) = db.get t (.event s) := by
  apply get_commit_of_forall_ne
  intro w hw hkey
  rcases mem_pruneWrites.mp hw with ⟨n, hn, hle, rfl⟩ | rfl
  · cases hkey
    exact hs ⟨hn, hle⟩
  · cases hkey

theorem latest_pruneWrites (db : Db) (now t first last next : Nat) :
    Db.latestEventSequence (commit now db (pruneWrites first last next)) t =
      db.latestEventSequence t := by
  unfold Db.latestEventSequence
  rw [get_commit_of_forall_ne now t _ _ db]
  intro w hw
  rcases mem_pruneWrites.mp hw with ⟨n, _, _, rfl⟩ | rfl <;> exact Key.noConfusion

theorem minimum_pruneWrites (db : Db) (now t first last next : Nat) :
    Db.minimumEventSequence (commit now db (pruneWrites first last next)) t = next := by
  unfold Db.minimumEventSequence
  rw [get_commit_set now t _ db]
  · rfl
  · intro w hw hkey
    rcases mem_pruneWrites.mp hw with ⟨n, _, _, rfl⟩ | rfl
    · cases hkey
    · rfl
  · exact Or.inl (mem_pruneWrites.mpr (Or.inr rfl))

/-- Every retained event is behind every consumer, older than the cutoff, and within the
    bound of one call, and the last of them is numbered `u64::MAX`. -/
def Exhausts (db : Db) (now cutoff maximum : Nat) : Prop :=
  maximum ≠ 0 ∧ db.safeSequence now = u64Max ∧ db.minimumEventSequence now ≤ u64Max ∧
    u64Max ≤ satAdd (db.minimumEventSequence now) (maximum - 1) ∧
    ∀ s, db.minimumEventSequence now ≤ s → s ≤ u64Max →
      ∃ e, db.get now (.event s) = some e ∧ e.occurredAt < cutoff

/-- What retention writes: nothing, or the removal of a prefix.  It reaches the event
    numbered `u64::MAX` only when the log is exhausted. -/
theorem pruneEvents_spec (h : db.pruneEventsOlderThan now cutoff maximum = .ok (r, ws)) :
    ws = [] ∨ ∃ last, db.minimumEventSequence now ≤ last ∧ last ≤ db.safeSequence now ∧
      (u64Max ≤ last → db.safeSequence now ≤ u64Max → Exhausts db now cutoff maximum) ∧
      ws = pruneWrites (db.minimumEventSequence now) last (satAdd last 1) := by
  unfold Db.pruneEventsOlderThan at h
  dsimp only at h
  split at h
  · rw [pure_eq_ok, Prod.mk.injEq] at h
    exact Or.inl h.2.symm
  · next hrange =>
    rw [bind_eq_ok] at h
    obtain ⟨lastDeleted, hlast, h⟩ := h
    cases lastDeleted with
    | none =>
      rw [pure_eq_ok, Prod.mk.injEq] at h
      exact Or.inl h.2.symm
    | some last =>
      rw [pure_eq_ok, Prod.mk.injEq] at h
      rcases Db.lastExpired_mem hlast with hnone | ⟨n, hn, hsome⟩
      · cases hnone
      obtain rfl := Option.some.inj hsome
      rw [List.mem_range'_1] at hn
      refine Or.inr ⟨last, hn.1, by omega, fun hmax hsafe => ?_, h.2.symm⟩
      rcases lastExpired_older _ hlast with hnone | ⟨_, hold⟩
      · cases hnone
      · exact ⟨by omega, by omega, by omega, by omega, fun s hs hle => hold s hs (by omega)⟩

theorem safeSequence_le_latest (db : Db) (now : Nat) :
    db.safeSequence now ≤ db.latestEventSequence now := by
  unfold Db.safeSequence
  refine Nat.le_trans (Db.foldl_min_le _ _ _) ?_
  cases db.get now .analyticsProjectorCursor with
  | none => exact Nat.le_refl _
  | some cursor => exact Nat.min_le_left _ _

/-- Removing a prefix keeps the log intact while there is a next number. -/
theorem Intact.dropPrefix (h : Intact db m L) (hm : m ≤ last) (hL : last ≤ L)
    (hmax : last < u64Max) :
    Intact (commit now db (pruneWrites m last (satAdd last 1))) (last + 1) L where
  one_le := by omega
  le_succ := by omega
  fits := h.fits
  latest t := by rw [latest_pruneWrites, h.latest]
  minimum t := by
    rw [minimum_pruneWrites]
    unfold satAdd
    omega
  present t s hs hle := by
    rw [get_pruneWrites_kept db now t (by omega)]
    exact h.present t s (by omega) hle
  absent t s hs := by
    by_cases hin : m ≤ s ∧ s ≤ last
    · exact get_pruneWrites_removed db now t hin.1 hin.2
    · rw [get_pruneWrites_kept db now t hin]
      exact h.absent t s fun hs' => hs ⟨by omega, hs'.2⟩

/-- Without a next number the log names as its first an event that is gone. -/
theorem not_intact_dropPrefix (h : Intact db m L) (hm : m ≤ u64Max) (hL : L = u64Max)
    (m' L' : Nat) :
    ¬ Intact (commit now db (pruneWrites m u64Max (satAdd u64Max 1))) m' L' := by
  intro h'
  have hmin := h'.minimum now
  have hlatest := h'.latest now
  rw [minimum_pruneWrites] at hmin
  rw [latest_pruneWrites, h.latest] at hlatest
  have hsat : satAdd u64Max 1 = u64Max := by
    unfold satAdd
    omega
  obtain ⟨e, he, _⟩ := h'.present now u64Max (by omega) (by omega)
  rw [get_pruneWrites_removed db now now hm (Nat.le_refl _)] at he
  cases he

theorem Intact.prune (h : Intact db m L)
    (hprune : db.pruneEventsOlderThan now cutoff maximum = .ok (r, ws))
    (hno : ¬ Exhausts db now cutoff maximum) : ∃ m', Intact (commit now db ws) m' L := by
  have hsafe : db.safeSequence now ≤ L := h.latest now ▸ safeSequence_le_latest db now
  have hfits := h.fits
  rcases pruneEvents_spec hprune with rfl | ⟨last, hm, hle, hexhausts, rfl⟩
  · exact ⟨m, h⟩
  · have hlt : last < u64Max := by
      by_contra hge
      exact hno (hexhausts (by omega) (by omega))
    rw [h.minimum now] at hm ⊢
    exact ⟨last + 1, h.dropPrefix hm (by omega) hlt⟩

/-- One call of retention leaves an intact log intact exactly if it does not exhaust it. -/
theorem Intact.prune_iff (h : Intact db m L)
    (hprune : db.pruneEventsOlderThan now cutoff maximum = .ok (r, ws)) :
    (∃ m' L', Intact (commit now db ws) m' L') ↔ ¬ Exhausts db now cutoff maximum := by
  have hsafe : db.safeSequence now ≤ L := h.latest now ▸ safeSequence_le_latest db now
  have hfits := h.fits
  constructor
  · rintro ⟨m', L', h'⟩ ⟨hmax, hsafe', hmin, hbound, hold⟩
    -- the walk reaches the last number, and the log is left without a first event
    have hwalk : db.lastExpired now cutoff (List.range' (db.minimumEventSequence now)
        (u64Max - db.minimumEventSequence now + 1)) none = .ok (some u64Max) := by
      have hlast : db.minimumEventSequence now + (u64Max - db.minimumEventSequence now) = u64Max := by
        omega
      rw [show some u64Max = some (db.minimumEventSequence now +
        (u64Max - db.minimumEventSequence now)) by rw [hlast]]
      apply lastExpired_all
      intro s hs hle
      obtain ⟨e, he, hlt⟩ := hold s hs (by omega)
      obtain ⟨e', he', hnumber⟩ := h.present now s (h.minimum now ▸ hs) (by omega)
      rw [he, Option.some.injEq] at he'
      exact ⟨e, Db.eventAt_eq_ok.mpr ⟨he, he' ▸ hnumber⟩, hlt⟩
    have hws : ws = pruneWrites m u64Max (satAdd u64Max 1) := by
      unfold Db.pruneEventsOlderThan at hprune
      dsimp only at hprune
      have hend : min (db.safeSequence now) (satAdd (db.minimumEventSequence now) (maximum - 1)) + 1 -
          db.minimumEventSequence now = u64Max - db.minimumEventSequence now + 1 := by
        omega
      rw [if_neg (by omega), hend, hwalk, bind_eq_ok] at hprune
      obtain ⟨o, ho, hprune⟩ := hprune
      cases ho
      rw [pure_eq_ok, Prod.mk.injEq, h.minimum now] at hprune
      exact hprune.2.symm
    rw [hws] at h'
    exact not_intact_dropPrefix h (h.minimum now ▸ hmin) (by omega) m' L' h'
  · intro hno
    obtain ⟨m', h'⟩ := h.prune hprune hno
    exact ⟨m', L, h'⟩

end

/-! ## The store as the log sees it -/

/-- A call of a method, and the commands the database took of it. -/
structure SentCall where
  call : StoreCall
  sent : List Write

/-- The numbers a call has given to events. -/
def SentCall.numbers (c : SentCall) : List Nat := (loggedEvents c.sent).map AuthEvent.sequence

/-- The database takes a prefix of the commands, and the log part as a whole or not at all:
    it is one `MSET`, or lies in one transaction. -/
def LogStep (ctx : StoreContext) (db : Db) (c : SentCall) (db' : Db) : Prop :=
  c.sent <+: c.call.op.commands ctx db c.call.now ∧
    (logPart c.sent = [] ∨ logPart c.sent = logPart (c.call.op.commands ctx db c.call.now)) ∧
    db' = commit c.call.now db c.sent

/-- The events of the method are those that `pending_events` numbered for it. -/
def Numbered (ctx : StoreContext) (db : Db) (call : StoreCall) : Prop :=
  loggedEvents (call.op.commands ctx db call.now) = [] ∨
    ∃ inputs, db.pendingEvents ctx.tenantId call.now inputs =
      .ok (loggedEvents (call.op.commands ctx db call.now))

/-- A method of the running service: it appends numbered events, or is a retention that
    does not exhaust the log. -/
def LogReady (ctx : StoreContext) (db : Db) (c : SentCall) : Prop :=
  match c.call.op with
  | .pruneEventsOlderThan cutoff maximum => ¬ Exhausts db c.call.now cutoff maximum
  | op => op.Appends ∧ Numbered ctx db c.call

theorem loggedEvents_logPart (ws : List Write) : loggedEvents (logPart ws) = loggedEvents ws := by
  induction ws with
  | nil => rfl
  | cons w ws ih =>
    rw [logPart_cons, loggedEvents_cons]
    split
    · rw [loggedEvents_cons, ih]
    · next hw => rw [ih, loggedEvent_of_not w (Bool.eq_false_iff.mpr hw)]; rfl

theorem loggedEvents_pruneWrites (first last next : Nat) :
    loggedEvents (pruneWrites first last next) = [] := by
  unfold loggedEvents
  rw [List.filterMap_eq_nil_iff]
  intro w hw
  rcases mem_pruneWrites.mp hw with ⟨n, _, _, rfl⟩ | rfl <;> rfl

section

variable {ctx : StoreContext} {db db' : Db} {c : SentCall} {m L : Nat}

/-- What the log has of a step: nothing, or the whole log part of the method. -/
theorem LogStep.cases (hstep : LogStep ctx db c db') :
    (logPart c.sent = [] ∧ c.numbers = [] ∧ ∀ t k, k.isLog = true → db'.get t k = db.get t k) ∨
    (loggedEvents c.sent = loggedEvents (c.call.op.commands ctx db c.call.now) ∧
      ∀ t k, k.isLog = true → db'.get t k =
        (commit c.call.now db (c.call.op.commands ctx db c.call.now)).get t k) := by
  obtain ⟨_, hnone | hall, rfl⟩ := hstep
  · left
    refine ⟨hnone, ?_, fun t k hk => ?_⟩
    · unfold SentCall.numbers
      rw [loggedEvents_of_logPart_nil hnone]; rfl
    · rw [get_commit_logPart c.call.now t c.sent hk, hnone]; rfl
  · right
    refine ⟨?_, fun t k hk => ?_⟩
    · rw [← loggedEvents_logPart, hall, loggedEvents_logPart]
    · rw [get_commit_logPart _ t c.sent hk, hall, ← get_commit_logPart _ t _ hk]

/-- The commands of a retention that does not exhaust the log. -/
theorem Intact.prune_commands (h : Intact db m L) (hno : ¬ Exhausts db now cutoff maximum) :
    loggedEvents (StoreOp.commands ctx db now (.pruneEventsOlderThan cutoff maximum)) = [] ∧
      ∃ m', Intact (commit now db
        (StoreOp.commands ctx db now (.pruneEventsOlderThan cutoff maximum))) m' L := by
  show loggedEvents (sentBy (db.pruneEventsOlderThan now cutoff maximum)) = [] ∧
    ∃ m', Intact (commit now db (sentBy (db.pruneEventsOlderThan now cutoff maximum))) m' L
  cases hcall : db.pruneEventsOlderThan now cutoff maximum with
  | error e => exact ⟨rfl, m, h⟩
  | ok r =>
    refine ⟨?_, h.prune hcall hno⟩
    rcases pruneEvents_spec hcall with hnil | ⟨last, _, _, _, hws⟩
    · show loggedEvents r.2 = []
      rw [hnil]; rfl
    · show loggedEvents r.2 = []
      rw [hws]
      exact loggedEvents_pruneWrites _ _ _

/-- The commands of a method that appends. -/
theorem Intact.append_commands (h : Intact db m L) {op : StoreOp} (happends : op.Appends)
    (hnumbered : Numbered ctx db ⟨now, op⟩) :
    (loggedEvents (op.commands ctx db now)).map AuthEvent.sequence =
        List.range' (L + 1) (loggedEvents (op.commands ctx db now)).length ∧
      Intact (commit now db (op.commands ctx db now)) m
        (L + (loggedEvents (op.commands ctx db now)).length) := by
  have hseq : (loggedEvents (op.commands ctx db now)).map AuthEvent.sequence =
      List.range' (L + 1) (loggedEvents (op.commands ctx db now)).length ∧
      L + (loggedEvents (op.commands ctx db now)).length ≤ u64Max := by
    rcases hnumbered with hnil | ⟨inputs, hpending⟩
    · dsimp only at hnil
      rw [hnil]
      exact ⟨rfl, h.fits⟩
    · have hpend := pendingEvents_sequences hpending
      rw [h.latest now] at hpend
      exact hpend
  refine ⟨hseq.1, Intact.of_logPart ?_⟩
  have hwell : logPart (op.commands ctx db now) = _ := StoreOp.wellLogged ctx db now happends
  rw [hwell]
  exact h.append hseq.1 hseq.2

/-- One step: the log stays intact, and the numbers it has given out are the next ones. -/
theorem step_intact (h : Intact db m L) (hready : LogReady ctx db c)
    (hstep : LogStep ctx db c db') :
    ∃ m', Intact db' m' (L + c.numbers.length) ∧ c.numbers = List.range' (L + 1) c.numbers.length := by
  rcases hstep.cases with ⟨_, hnumbers, hget⟩ | ⟨hlogged, hget⟩
  · rw [hnumbers]
    exact ⟨m, h.congr hget, rfl⟩
  · obtain ⟨⟨now, op⟩, sent⟩ := c
    unfold SentCall.numbers
    dsimp only at hlogged hget ⊢
    rw [hlogged]
    unfold LogReady at hready
    dsimp only at hready
    split at hready
    · next cutoff maximum =>
      obtain ⟨hnil, m', h'⟩ := h.prune_commands hready
      rw [hnil]
      exact ⟨m', h'.congr hget, rfl⟩
    · obtain ⟨hseq, h'⟩ := h.append_commands hready.1 hready.2
      rw [List.length_map]
      exact ⟨m, h'.congr hget, hseq⟩

/-- A whole run: the log stays intact, and the numbers given out are the next ones in order,
    so that none is given out twice. -/
theorem run_intact {db₀ db : Db} {calls : List SentCall}
    (hrun : Run (Restrict (LogStep ctx) (LogReady ctx)) db₀ calls db) :
    ∀ {m₀ L₀ : Nat}, Intact db₀ m₀ L₀ → ∃ m L, Intact db m L ∧ L₀ ≤ L ∧
      calls.flatMap SentCall.numbers = List.range' (L₀ + 1) (L - L₀) := by
  induction hrun with
  | nil db =>
    intro m₀ L₀ h₀
    exact ⟨m₀, L₀, h₀, Nat.le_refl _, by rw [Nat.sub_self]; rfl⟩
  | cons hstep _ ih =>
    intro m₀ L₀ h₀
    obtain ⟨m₁, h₁, hnumbers⟩ := step_intact h₀ hstep.1 hstep.2
    obtain ⟨m, L, h, hle, hrest⟩ := ih h₁
    refine ⟨m, L, h, by omega, ?_⟩
    rw [List.flatMap_cons, hrest, hnumbers, List.length_range', Nat.add_right_comm,
      List.range'_append_1]
    congr 1
    omega

/-! ## Consumers -/

theorem foldl_min_le_of_mem (f : String → Nat) {ids : List String} {id : String} :
    ∀ {safe : Nat}, id ∈ ids → ids.foldl (fun safe id => min safe (f id)) safe ≤ f id := by
  induction ids with
  | nil => intro safe hid; cases hid
  | cons id' ids ih =>
    intro safe hid
    rw [List.foldl_cons]
    rcases List.mem_cons.mp hid with rfl | hid
    · exact Nat.le_trans (Db.foldl_min_le _ _ _) (Nat.min_le_right _ _)
    · exact ih hid

theorem mem_webhookIds {db : Db} {id : String} {record : Value (.webhook id)}
    (h : db.get now (.webhook id) = some record) : id ∈ db.webhookIds now := by
  unfold Db.webhookIds
  rw [List.mem_filterMap]
  exact ⟨.webhook id, (Keyspace.mem_keys db now _).mpr ⟨record, h⟩, rfl⟩

/-- Retention removes no event that a webhook or the projector has not passed. -/
theorem removed_passed (hstep : LogStep ctx db c db')
    (hop : c.call.op = .pruneEventsOlderThan cutoff maximum)
    (hbefore : db.get c.call.now (.event s) ≠ none)
    (hafter : db'.get c.call.now (.event s) = none) :
    s ≤ db.safeSequence c.call.now := by
  obtain ⟨hsent, _, rfl⟩ := hstep
  by_contra hgt
  apply hbefore
  rw [← hafter]
  refine (get_commit_of_forall_ne _ _ _ _ db fun w hw hkey => ?_).symm
  have hmem := hsent.subset hw
  rw [hop] at hmem
  replace hmem : w ∈ sentBy (db.pruneEventsOlderThan c.call.now cutoff maximum) := hmem
  cases hcall : db.pruneEventsOlderThan c.call.now cutoff maximum with
  | error e =>
    rw [hcall] at hmem
    cases hmem
  | ok r =>
    rw [hcall] at hmem
    rcases Db.mem_pruneEvents hcall hmem with ⟨n, hn, rfl⟩ | ⟨n, rfl⟩
    · cases hkey
      exact hgt hn
    · cases hkey

end

/-- For every run of the store from an intact log (the empty database has one) in which no
    retention exhausts it, the log stays intact, the numbers given out are consecutive, so
    that none is given out twice, and retention removes no event that a webhook or the
    projector has not passed.  One more retention keeps the log intact if and only if it
    does not exhaust it. -/
theorem event_log_integrity {ctx : StoreContext} {db₀ db : Db} {m₀ L₀ : Nat}
    {calls : List SentCall} (h₀ : Intact db₀ m₀ L₀)
    (hrun : Run (Restrict (LogStep ctx) (LogReady ctx)) db₀ calls db) :
    (∃ m L, Intact db m L ∧ L₀ ≤ L ∧
      calls.flatMap SentCall.numbers = List.range' (L₀ + 1) (L - L₀)) ∧
    (∀ c db' cutoff maximum s, LogStep ctx db c db' →
      c.call.op = .pruneEventsOlderThan cutoff maximum →
      db.get c.call.now (.event s) ≠ none → db'.get c.call.now (.event s) = none →
      (∀ id record, db.get c.call.now (.webhook id) = some record →
        s ≤ db.webhookCursor c.call.now id) ∧
      ∀ cursor, db.get c.call.now .analyticsProjectorCursor = some cursor → s ≤ cursor) ∧
    ∀ now cutoff maximum r ws, db.pruneEventsOlderThan now cutoff maximum = .ok (r, ws) →
      ((∃ m L, Intact (commit now db ws) m L) ↔ ¬ Exhausts db now cutoff maximum) := by
  obtain ⟨m, L, h, hle, hnumbers⟩ := run_intact hrun h₀
  refine ⟨⟨m, L, h, hle, hnumbers⟩, ?_, fun now cutoff maximum r ws => h.prune_iff⟩
  intro c db' cutoff maximum s hstep hop hbefore hafter
  have hsafe := removed_passed hstep hop hbefore hafter
  refine ⟨fun id record hid => ?_, fun cursor hcursor => ?_⟩
  · exact Nat.le_trans hsafe (foldl_min_le_of_mem _ (mem_webhookIds hid))
  · exact Nat.le_trans hsafe (Db.safeSequence_le hcursor)

/-! ### Sample logs -/

def sampleLogInputs : List EventInput :=
  [⟨1, "user.created", some 9, emptyEventData⟩, ⟨2, "session.created", some 9, emptyEventData⟩]

/-- Two events are appended, and the first is removed once it is old. -/
def sampleAppend : StoreCall := ⟨100, .appendEvents sampleLogInputs⟩
def samplePrune : StoreCall := ⟨500, .pruneEventsOlderThan 200 1⟩

/-- A call that the database takes as a whole. -/
def wholeCall (ctx : StoreContext) (db : Db) (call : StoreCall) : SentCall :=
  ⟨call, call.op.commands ctx db call.now⟩

theorem logStep_wholeCall (ctx : StoreContext) (db : Db) (call : StoreCall) :
    LogStep ctx db (wholeCall ctx db call) (storeApply ctx db call) :=
  ⟨List.prefix_refl _, Or.inr rfl, rfl⟩

theorem event_log_integrity_sample :
    ∃ m L, Intact (storeRun sampleStore [sampleAppend, samplePrune]) m L ∧ 0 ≤ L ∧
      [wholeCall sampleStore Keyspace.empty sampleAppend,
        wholeCall sampleStore (storeRun sampleStore [sampleAppend]) samplePrune].flatMap
          SentCall.numbers = List.range' (0 + 1) (L - 0) := by
  refine (event_log_integrity intact_empty (.cons ⟨?_, logStep_wholeCall _ _ _⟩
    (.cons ⟨?_, logStep_wholeCall _ _ _⟩ (.nil _)))).1
  · exact ⟨trivial, Or.inr ⟨sampleLogInputs, rfl⟩⟩
  · intro hexhausts
    exact absurd hexhausts.2.1 (by decide +kernel)

def lastEvent : AuthEvent := ⟨u64Max, 1, "acme", "user.created", some 9, 10, emptyEventData⟩

/-- A log that has reached the last number, as a restored snapshot may bring it. -/
def fullLog : Db :=
  commit 10 Keyspace.empty [.set .eventMinSequence u64Max, .set (.event u64Max) lastEvent,
    .set .eventSequence u64Max]

theorem intact_fullLog : Intact fullLog u64Max u64Max where
  one_le := by decide
  le_succ := by decide
  fits := Nat.le_refl _
  latest _ := rfl
  minimum _ := rfl
  present t s hs hle := by
    obtain rfl : s = u64Max := Nat.le_antisymm hle hs
    exact ⟨lastEvent, rfl, rfl⟩
  absent t s hs := by
    have hne : s ≠ u64Max := fun heq => hs ⟨heq.ge, heq.le⟩
    unfold fullLog
    rw [get_commit_of_forall_ne 10 t _ _ _]
    · rfl
    · simpa [Command.key] using hne

/-- Retention of the last event leaves a log whose first event is missing. -/
theorem retention_exhausts_log :
    Intact fullLog u64Max u64Max ∧
      ∃ ws, fullLog.pruneEventsOlderThan 100 50 10 = .ok (1, ws) ∧
        ∀ m L, ¬ Intact (commit 100 fullLog ws) m L := by
  refine ⟨intact_fullLog, pruneWrites u64Max u64Max (satAdd u64Max 1), by rfl, ?_⟩
  exact not_intact_dropPrefix intact_fullLog (Nat.le_refl _) rfl

end RustyAuth
