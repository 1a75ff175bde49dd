/-
  The event log: append, read, prune.

  Events are numbered without gaps from one.  The log keeps the number of its last event
  and the number of the first one it still retains; retention removes a prefix, and never
  an event that a webhook or the analytics projector has not read.
-/
import RustyAuth.Store.Keys
import RustyAuth.Library.Outcome

namespace RustyAuth

open RustyAuth.Library

/-- `EventLogIntegrityError`, and the refusal to number an event beyond `u64::MAX`. -/
inductive EventLogError
  | cursorExpired (minimumAvailable : Nat)
  | missingSequence (sequence : Nat)
  | unexpectedSequence (expected actual : Nat)
  | sequenceExhausted
deriving DecidableEq

/-- What the caller of an append supplies, with the identifier drawn for the event. -/
structure EventInput where
  id : Uuid
  eventType : String
  subject : Option Uuid
  data : EventData
deriving DecidableEq

namespace Db

def latestEventSequence (db : Db) (now : Nat) : Nat := (db.get now .eventSequence).getD 0

def minimumEventSequence (db : Db) (now : Nat) : Nat := (db.get now .eventMinSequence).getD 1

def webhookIds (db : Db) (now : Nat) : List String :=
  (db.keys now).filterMap fun
    | .webhook id => some id
    | _ => none

def webhookCursor (db : Db) (now : Nat) (id : String) : Nat :=
  (db.get now (.webhookCursor id)).getD 0

/-! ## Append -/

def pendingFrom (tenantId : String) (now sequence : Nat) :
    List EventInput → Except EventLogError (List AuthEvent)
  | [] => return []
  | input :: inputs => do
      ensure (sequence ≤ u64Max) .sequenceExhausted
      let event : AuthEvent :=
        { sequence, id := input.id, tenantId, eventType := input.eventType,
          subject := input.subject, occurredAt := now, data := input.data }
      let events ← pendingFrom tenantId now (sequence + 1) inputs
      return event :: events

def pendingEvents (db : Db) (tenantId : String) (now : Nat) (inputs : List EventInput) :
    Except EventLogError (List AuthEvent) := do
  ensure (db.latestEventSequence now + 1 ≤ u64Max) .sequenceExhausted
  pendingFrom tenantId now (db.latestEventSequence now + 1) inputs

/-- One `MSET` of the events and the number of the last. -/
def queueEvents (events : List AuthEvent) : List Write :=
  match events.getLast? with
  | none => []
  | some last =>
      events.map (fun event => .set (.event event.sequence) event) ++
        [.set .eventSequence last.sequence]

/-- `append_event`, `append_event_with_data` and `append_telemetry_events`. -/
def appendEvents (db : Db) (tenantId : String) (now : Nat) (inputs : List EventInput) :
    Except EventLogError (List AuthEvent × List Write) := do
  let events ← db.pendingEvents tenantId now inputs
  return (events, queueEvents events)

/-! ## Read -/

/-- One record of a range read. -/
def eventAt (db : Db) (now sequence : Nat) : Except EventLogError AuthEvent := do
  let event ← okOr (db.get now (.event sequence)) (.missingSequence sequence)
  ensure (event.sequence = sequence) (.unexpectedSequence sequence event.sequence)
  return event

/-- The events numbered from `after + 1`, at most `limit` of them. -/
def events (db : Db) (now after limit : Nat) : Except EventLogError (List AuthEvent) :=
  if limit = 0 then return []
  else do
    let minimum := db.minimumEventSequence now
    ensure (minimum ≤ satAdd after 1) (.cursorExpired minimum)
    -- the range is empty when it would end at or before `after`
    let last := min (db.latestEventSequence now) (satAdd after limit)
    (List.range' (after + 1) (last - after)).mapM (db.eventAt now)

/-! ## Retention -/

/-- The last event that every consumer has read. -/
def safeSequence (db : Db) (now : Nat) : Nat :=
  let latest := db.latestEventSequence now
  let read := match db.get now .analyticsProjectorCursor with
    | some cursor => min latest cursor
    | none => latest
  (db.webhookIds now).foldl (fun safe id => min safe (db.webhookCursor now id)) read

/-- Walk the range up to the first event that is not older than `cutoff`. -/
def lastExpired (db : Db) (now cutoff : Nat) :
    List Nat → Option Nat → Except EventLogError (Option Nat)
  | [], last => return last
  | sequence :: rest, last => do
      let event ← db.eventAt now sequence
      if cutoff ≤ event.occurredAt then return last
      else lastExpired db now cutoff rest (some sequence)

def pruneEventsOlderThan (db : Db) (now cutoff maximum : Nat) :
    Except EventLogError (Nat × List Write) :=
  let minimum := db.minimumEventSequence now
  let safe := db.safeSequence now
  if maximum = 0 ∨ safe < minimum then return (0, [])
  else do
    let last := min safe (satAdd minimum (maximum - 1))
    match ← db.lastExpired now cutoff (List.range' minimum (last + 1 - minimum)) none with
    | none => return (0, [])
    | some lastDeleted =>
        return (lastDeleted - minimum + 1,
          (List.range' minimum (lastDeleted + 1 - minimum)).map (fun n => .del (.event n)) ++
            [.set .eventMinSequence (satAdd lastDeleted 1)])

end Db

/-! ## A log and the database that holds it -/

/-- Under the key of an event lies the event the log has at that number. -/
def AgreesAt (log : Nat → AuthEvent) : ∀ k, Value k → Prop
  | .event n, event => event = log n
  | _, _ => True

/-- Every stored event is the log's. -/
def Agrees (log : Nat → AuthEvent) (db : Db) : Prop :=
  ∀ k t v, db.get t k = some v → AgreesAt log k v

/-- The events of the log numbered in `(a, b]`. -/
def logSlice (log : Nat → AuthEvent) (a b : Nat) : List AuthEvent :=
  (List.range' (a + 1) (b - a)).map log

theorem logSlice_self (log : Nat → AuthEvent) (a : Nat) : logSlice log a a = [] := by
  unfold logSlice
  rw [Nat.sub_self]; rfl

variable {a b now cutoff : Nat} {db : Db} {tenantId : String} {inputs : List EventInput}
  {ws : List Write}

theorem logSlice_append (log : Nat → AuthEvent) {c : Nat} (hab : a ≤ b) (hbc : b ≤ c) :
    logSlice log a b ++ logSlice log b c = logSlice log a c := by
  unfold logSlice
  have hstart : b + 1 = a + 1 + (b - a) := by omega
  have hlen : c - a = b - a + (c - b) := by omega
  rw [hstart, hlen, ← List.map_append, List.range'_append_1]

theorem logSlice_eq_nil (log : Nat → AuthEvent) (hab : a ≤ b) (h : logSlice log a b = []) :
    a = b := by
  unfold logSlice at h
  rw [List.map_eq_nil_iff, List.range'_eq_nil_iff] at h
  omega

theorem getLast?_logSlice (log : Nat → AuthEvent) (hab : a < b) :
    (logSlice log a b).getLast? = some (log b) := by
  obtain ⟨c, rfl⟩ : ∃ c, b = c + 1 := ⟨b - 1, by omega⟩
  have hsplit := logSlice_append log (by omega : a ≤ c) (Nat.le_succ c)
  have hlast : logSlice log c (c + 1) = [log (c + 1)] := by
    unfold logSlice
    rw [Nat.add_sub_cancel_left]; rfl
  rw [← hsplit, hlast, List.getLast?_concat]

namespace Db

theorem eventAt_eq_ok {n : Nat} {event : AuthEvent} :
    db.eventAt now n = .ok event ↔ db.get now (.event n) = some event ∧ event.sequence = n := by
  unfold eventAt
  simp only [bind_eq_ok, okOr_eq_ok, ensure_eq_ok, pure_eq_ok, exists_const]
  constructor
  · rintro ⟨_, hget, hseq, rfl⟩
    exact ⟨hget, hseq⟩
  · rintro ⟨hget, hseq⟩
    exact ⟨event, hget, hseq, rfl⟩

/-- Reading a range of numbers one by one yields that slice of the log. -/
theorem mapM_eventAt_eq_ok {log : Nat → AuthEvent} (hlog : Agrees log db) {es : List AuthEvent}
    (h : (List.range' (a + 1) (b - a)).mapM (db.eventAt now) = .ok es) :
    es = logSlice log a b ∧ ∀ n, a < n → n ≤ b → (log n).sequence = n := by
  have hread := (mapM_eq_ok _ _ _).mp h
  have hes : logSlice log a b = es := by
    unfold logSlice
    rw [← List.forall₂_eq_eq_eq, List.forall₂_map_left_iff]
    exact hread.imp fun n e he => (hlog (.event n) now e (eventAt_eq_ok.mp he).1).symm
  refine ⟨hes.symm, ?_⟩
  intro n hn hnb
  rw [← hes, logSlice, List.forall₂_map_right_iff, List.forall₂_same] at hread
  exact (eventAt_eq_ok.mp (hread n (by rw [List.mem_range'_1]; omega))).2

/-- The number of the last event a range read returns, or `after` if it returns none. -/
def lastRead (db : Db) (now after limit : Nat) : Nat :=
  max after (min (db.latestEventSequence now) (satAdd after limit))

theorem le_lastRead (db : Db) (now after limit : Nat) : after ≤ db.lastRead now after limit :=
  Nat.le_max_left _ _

theorem logSlice_lastRead (log : Nat → AuthEvent) (db : Db) (now after limit : Nat) :
    logSlice log after (db.lastRead now after limit) =
      logSlice log after (min (db.latestEventSequence now) (satAdd after limit)) := by
  unfold lastRead logSlice
  congr 2
  omega

/-- A range read returns a slice of the log, correctly numbered. -/
theorem events_eq_ok {log : Nat → AuthEvent} (hlog : Agrees log db) {after limit : Nat}
    {es : List AuthEvent} (h : db.events now after limit = .ok es) :
    es = logSlice log after (db.lastRead now after limit) ∧
      ∀ n, after < n → n ≤ db.lastRead now after limit → (log n).sequence = n := by
  unfold events at h
  split at h
  · next hlimit =>
    have hlast : db.lastRead now after limit = after := by
      unfold lastRead satAdd
      omega
    rw [pure_eq_ok] at h
    rw [hlast, logSlice_self]
    exact ⟨h.symm, fun n _ _ => by omega⟩
  · simp only [bind_eq_ok, ensure_eq_ok, exists_const] at h
    have hread := mapM_eventAt_eq_ok hlog h.2
    rw [logSlice_lastRead]
    refine ⟨hread.1, fun n hn hle => hread.2 n hn ?_⟩
    unfold lastRead at hle
    omega

theorem mem_queueEvents {events : List AuthEvent} {w : Write} (h : w ∈ queueEvents events) :
    (∃ event ∈ events, w = .set (.event event.sequence) event) ∨ ∃ n, w = .set .eventSequence n := by
  unfold queueEvents at h
  split at h
  · cases h
  · next last hlast =>
    rcases List.mem_append.mp h with h | h
    · obtain ⟨event, hevent, rfl⟩ := List.mem_map.mp h
      exact Or.inl ⟨event, hevent, rfl⟩
    · exact Or.inr ⟨last.sequence, List.mem_singleton.mp h⟩

theorem appendEvents_writes {events : List AuthEvent}
    (h : db.appendEvents tenantId now inputs = .ok (events, ws)) : ws = queueEvents events := by
  simp only [appendEvents, bind_eq_ok, pure_eq_ok, Prod.mk.injEq] at h
  obtain ⟨_, _, rfl, rfl⟩ := h
  rfl

/-- The pending events are numbered from `sequence` on. -/
theorem pendingFrom_sequences :
    ∀ {sequence : Nat} {events : List AuthEvent},
      pendingFrom tenantId now sequence inputs = .ok events →
      events.map AuthEvent.sequence = List.range' sequence inputs.length ∧
        (sequence ≤ u64Max + 1 → sequence + inputs.length ≤ u64Max + 1) := by
  induction inputs with
  | nil =>
    intro sequence events h
    simp only [pendingFrom, pure_eq_ok] at h
    rw [← h]
    exact ⟨rfl, fun hle => hle⟩
  | cons input inputs ih =>
    intro sequence events h
    simp only [pendingFrom, bind_eq_ok, ensure_eq_ok, pure_eq_ok, exists_const] at h
    obtain ⟨hle, rest, hrest, rfl⟩ := h
    obtain ⟨hseq, hbound⟩ := ih hrest
    rw [List.map_cons, List.length_cons, List.range'_succ, hseq]
    have hnext := hbound (by omega)
    exact ⟨rfl, fun _ => by omega⟩

/-- An append numbers its events from the latest one on, within `u64`. -/
theorem appendEvents_sequences {events : List AuthEvent}
    (h : db.appendEvents tenantId now inputs = .ok (events, ws)) :
    events.map AuthEvent.sequence =
        List.range' (db.latestEventSequence now + 1) events.length ∧
      db.latestEventSequence now + events.length ≤ u64Max := by
  simp only [appendEvents, pendingEvents, bind_eq_ok, ensure_eq_ok, pure_eq_ok, exists_const,
    Prod.mk.injEq] at h
  obtain ⟨es, ⟨hfirst, hpending⟩, hes, _⟩ := h
  obtain ⟨hseq, hbound⟩ := pendingFrom_sequences hpending
  rw [hes] at hseq
  have hlen : events.length = inputs.length := by
    have hmap := congrArg List.length hseq
    rwa [List.length_map, List.length_range'] at hmap
  have hle := hbound (by omega)
  rw [hlen]
  exact ⟨hseq, by omega⟩

theorem lastExpired_mem {sequences : List Nat} :
    ∀ {last : Option Nat} {r : Option Nat}, db.lastExpired now cutoff sequences last = .ok r →
      r = last ∨ ∃ n ∈ sequences, r = some n := by
  induction sequences with
  | nil =>
    intro last r h
    simp only [lastExpired, pure_eq_ok] at h
    exact Or.inl h.symm
  | cons n rest ih =>
    intro last r h
    simp only [lastExpired, bind_eq_ok] at h
    obtain ⟨event, _, h⟩ := h
    split at h
    · rw [pure_eq_ok] at h
      exact Or.inl h.symm
    · rcases ih h with heq | ⟨m, hm, heq⟩
      · exact Or.inr ⟨n, List.mem_cons_self, heq⟩
      · exact Or.inr ⟨m, List.mem_cons_of_mem _ hm, heq⟩

theorem foldl_min_le (f : String → Nat) (ids : List String) :
    ∀ safe, ids.foldl (fun safe id => min safe (f id)) safe ≤ safe := by
  induction ids with
  | nil => intro safe; exact Nat.le_refl safe
  | cons id ids ih =>
    intro safe
    exact Nat.le_trans (ih _) (Nat.min_le_left _ _)

/-- Retention never passes the projector's cursor. -/
theorem safeSequence_le {c : Nat} (h : db.get now .analyticsProjectorCursor = some c) :
    db.safeSequence now ≤ c := by
  unfold safeSequence
  rw [h]
  exact Nat.le_trans (foldl_min_le _ _ _) (Nat.min_le_right _ _)

/-- What retention writes: nothing, or the removal of a prefix that is safe to lose. -/
theorem pruneEvents_ok {maximum r : Nat}
    (h : db.pruneEventsOlderThan now cutoff maximum = .ok (r, ws)) :
    ws = [] ∨ ∃ last, db.minimumEventSequence now ≤ last ∧ last ≤ db.safeSequence now ∧
      ws = (List.range' (db.minimumEventSequence now)
          (last + 1 - db.minimumEventSequence now)).map (fun n => .del (.event n)) ++
        [.set .eventMinSequence (satAdd last 1)] := by
  unfold pruneEventsOlderThan at h
  dsimp only at h
  split at h
  · rw [pure_eq_ok, Prod.mk.injEq] at h
    exact Or.inl h.2.symm
  · rw [bind_eq_ok] at h
    obtain ⟨lastDeleted, hlast, h⟩ := h
    cases lastDeleted with
    | none =>
      rw [pure_eq_ok, Prod.mk.injEq] at h
      exact Or.inl h.2.symm
    | some lastDeleted =>
      rw [pure_eq_ok, Prod.mk.injEq] at h
      rcases lastExpired_mem hlast with hnone | ⟨n, hn, hsome⟩
      · cases hnone
      · obtain rfl := Option.some.inj hsome
        rw [List.mem_range'_1] at hn
        exact Or.inr ⟨lastDeleted, hn.1, by omega, h.2.symm⟩

theorem mem_pruneEvents {maximum r : Nat}
    (h : db.pruneEventsOlderThan now cutoff maximum = .ok (r, ws)) {w : Write} (hw : w ∈ ws) :
    (∃ n ≤ db.safeSequence now, w = .del (.event n)) ∨ ∃ n, w = .set .eventMinSequence n := by
  rcases pruneEvents_ok h with rfl | ⟨last, _, hsafe, rfl⟩
  · cases hw
  · rcases List.mem_append.mp hw with hw | hw
    · obtain ⟨n, hn, rfl⟩ := List.mem_map.mp hw
      rw [List.mem_range'_1] at hn
      exact Or.inl ⟨n, by omega, rfl⟩
    · exact Or.inr ⟨_, List.mem_singleton.mp hw⟩

end Db

/-! ## What an append leaves -/

/-- An event of a batch that is numbered without a gap is the only one with its number. -/
theorem eq_of_sequence_eq {first : Nat} {events : List AuthEvent}
    (hseq : events.map AuthEvent.sequence = List.range' first events.length) {e e' : AuthEvent}
    (he : e ∈ events) (he' : e' ∈ events) (h : e.sequence = e'.sequence) : e = e' := by
  have hnodup : (events.map AuthEvent.sequence).Nodup := by
    rw [hseq]
    exact List.nodup_range'
  exact List.inj_on_of_nodup_map hnodup he he' h

theorem getLast?_sequence {n : Nat} {events : List AuthEvent} {last : AuthEvent}
    (hseq : events.map AuthEvent.sequence = List.range' (n + 1) events.length)
    (hlast : events.getLast? = some last) : last.sequence = n + events.length := by
  have hpos : 0 < events.length := List.length_pos_of_mem (List.mem_of_getLast? hlast)
  have hmap := congrArg List.getLast? hseq
  rw [List.getLast?_map, hlast, List.getLast?_range', if_neg (by omega)] at hmap
  have heq := Option.some.inj hmap
  omega

theorem get_queueEvents_old (db : Db) (now t : Nat) {events : List AuthEvent} {s : Nat}
    (hs : ∀ e ∈ events, e.sequence ≠ s) :
    (commit now db (Db.queueEvents events)).get t (.event s) = db.get t (.event s) := by
  apply get_commit_of_forall_ne
  intro w hw hkey
  rcases Db.mem_queueEvents hw with ⟨e, he, rfl⟩ | ⟨n, rfl⟩
  · cases hkey
    exact hs e he rfl
  · cases hkey

theorem get_queueEvents_new (db : Db) (now t : Nat) {first : Nat} {events : List AuthEvent}
    (hseq : events.map AuthEvent.sequence = List.range' first events.length) {e : AuthEvent}
    (he : e ∈ events) :
    (commit now db (Db.queueEvents events)).get t (.event e.sequence) = some e := by
  apply get_commit_set
  · intro w hw hkey
    rcases Db.mem_queueEvents hw with ⟨e', he', rfl⟩ | ⟨n, rfl⟩
    · cases eq_of_sequence_eq hseq he' he (Key.event.inj hkey)
      rfl
    · cases hkey
  · left
    unfold Db.queueEvents
    split
    · next hnone =>
      rw [List.getLast?_eq_none_iff.mp hnone] at he
      cases he
    · exact List.mem_append_left _ (List.mem_map_of_mem he)

theorem latest_queueEvents (db : Db) (now t : Nat) {events : List AuthEvent} {last : AuthEvent}
    (hlast : events.getLast? = some last) :
    Db.latestEventSequence (commit now db (Db.queueEvents events)) t = last.sequence := by
  unfold Db.latestEventSequence Db.queueEvents
  rw [hlast]
  dsimp only
  rw [get_commit_set now t _ db]
  · rfl
  · intro w hw hkey
    rcases List.mem_append.mp hw with hw | hw
    · obtain ⟨e, _, rfl⟩ := List.mem_map.mp hw
      cases hkey
    · exact List.mem_singleton.mp hw
  · exact Or.inl (List.mem_append_right _ List.mem_cons_self)

theorem minimum_queueEvents (db : Db) (now t : Nat) (events : List AuthEvent) :
    Db.minimumEventSequence (commit now db (Db.queueEvents events)) t =
      db.minimumEventSequence t := by
  unfold Db.minimumEventSequence
  rw [get_commit_of_forall_ne now t _ _ db]
  intro w hw
  rcases Db.mem_queueEvents hw with ⟨e, _, rfl⟩ | ⟨n, rfl⟩ <;> exact Key.noConfusion

end RustyAuth
