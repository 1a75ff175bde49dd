/-
  Subscriptions to the event log.

  A subscription polls the log from its cursor in batches, yields the events that its filters
  select and, between batches, a checkpoint.  What it yields is gapless and in order.  A
  checkpoint however carries the latest number at the time it is made, and the batch was read
  before: an event that was appended in between is passed over by a consumer who resumes from
  the checkpoint (`subscription_gapless`).
-/
import RustyAuth.Store.EventReads
import RustyAuth.Rpc.Errors

namespace RustyAuth

open RustyAuth.Library

/-! ## The request -/

structure SubscribeRequest where
  afterSequence : Nat
  eventTypes : List String
  tenantIds : List String
  checkpointIntervalSeconds : Nat

structure Subscription where
  afterSequence : Nat
  eventTypes : List String
  tenantIds : List String
  checkpointInterval : Nat

def eventBatchSize : Nat := 100
def defaultCheckpointSeconds : Nat := 15
def maxFilterValues : Nat := 50

def asciiLowercaseOrDigit (ch : Char) : Bool :=
  (decide ('a' ≤ ch) && decide (ch ≤ 'z')) || (decide ('0' ≤ ch) && decide (ch ≤ '9'))

def validEventType (value : String) : Bool :=
  value.utf8ByteSize ≤ 128 && value.toList.head?.any asciiLowercaseOrDigit &&
    value.toList.getLast?.any asciiLowercaseOrDigit &&
    value.toList.all fun ch => asciiLowercaseOrDigit ch || ch == '.' || ch == '_' || ch == '-'

def validTenantId (value : String) : Bool :=
  value.utf8ByteSize ≤ 64 && value.toList.head?.any asciiLowercaseOrDigit &&
    value.toList.all fun ch => asciiLowercaseOrDigit ch || ch == '-' || ch == '_'

def validateFilters (values : List String) (name : String) (valid : String → Bool) :
    RpcResult (List String) := do
  ensure (values.length ≤ maxFilterValues)
    (invalid ("at most " ++ toString maxFilterValues ++ " " ++ name ++ " may be subscribed"))
  ensure (∀ value ∈ values, valid value = true) (invalid ("invalid " ++ name ++ " value"))
  return values.dedup

def checkpointInterval (value : Nat) : RpcResult Nat := do
  if value = 0 then return defaultCheckpointSeconds
  ensure (5 ≤ value ∧ value ≤ 60)
    (invalid "checkpoint_interval_seconds must be between 5 and 60")
  return value

/-- `permitted`: one of the concurrent streams is free. -/
def subscribe (db : Db) (now : Nat) (permitted : Bool) (request : SubscribeRequest) :
    RpcResult Subscription := do
  let eventTypes ← validateFilters request.eventTypes "event_types" validEventType
  let tenantIds ← validateFilters request.tenantIds "tenant_ids" validTenantId
  let interval ← checkpointInterval request.checkpointIntervalSeconds
  ensure (permitted = true) ⟨.resourceExhausted, "too many event streams"⟩
  ensure (request.afterSequence ≤ db.latestEventSequence now)
    (invalid "after_sequence is ahead of the latest recorded event")
  return ⟨request.afterSequence, eventTypes, tenantIds, interval⟩

def Subscription.selects (sub : Subscription) (event : AuthEvent) : Bool :=
  (sub.eventTypes.isEmpty || sub.eventTypes.contains event.eventType) &&
    (sub.tenantIds.isEmpty || sub.tenantIds.contains event.tenantId)

/-! ## Responses -/

structure ProtoAuthEvent where
  sequence : Nat
  id : String
  type : String
  subject : String
  occurredAt : String
  dataJson : String
  tenantId : String
deriving DecidableEq

inductive SubscribeResponse
  | event (event : ProtoAuthEvent)
  | checkpoint (latestSequence : Nat)
deriving DecidableEq

/-- The formats of other crates. -/
structure EventCrates where
  /-- `i64` seconds as RFC 3339, if there is such a date. -/
  formatTimestamp : Nat → Option String
  dataJson : EventData → String

def eventToProto (crates : EventCrates) (event : AuthEvent) : RpcResult ProtoAuthEvent := do
  let occurredAt ← okOr (crates.formatTimestamp event.occurredAt)
    ⟨.dataLoss, "auth event timestamp is invalid"⟩
  return { sequence := event.sequence, id := event.id.text, type := event.eventType,
           subject := (event.subject.map Uuid.text).getD "", occurredAt,
           dataJson := crates.dataJson event.data, tenantId := event.tenantId }

def eventSourceError : EventLogError → ConnectError
  | .cursorExpired _ => ⟨.outOfRange, "event cursor is older than the retained window"⟩
  | .missingSequence _ | .unexpectedSequence _ _ =>
      ⟨.dataLoss, "auth event log integrity failure"⟩
  | .sequenceExhausted => ⟨.unavailable, "auth event source unavailable"⟩

/-! ## The stream -/

inductive StreamPhase
  /-- Before `events` reads the first retained number. -/
  | polling (cursor : Nat)
  /-- Before it reads the latest number. -/
  | checked (cursor : Nat)
  /-- Before it reads the range. -/
  | ranged (cursor last : Nat)
  /-- The rest of a batch, and whether the batch was full. -/
  | batch (cursor : Nat) (rest : List AuthEvent) (full : Bool)
  /-- The batch was not full: a checkpoint may be due. -/
  | drained (cursor : Nat)
  | ended (error : ConnectError)

section

variable (crates : EventCrates) (sub : Subscription)

def yieldEvent (cursor : Nat) (event : AuthEvent) (rest : List AuthEvent) (full : Bool) :
    StreamPhase × List SubscribeResponse :=
  if u64Max < cursor + 1 then (.ended ⟨.dataLoss, "auth event sequence is exhausted"⟩, [])
  else if event.sequence ≠ cursor + 1 then
    (.ended ⟨.dataLoss, "auth event log is missing sequence " ++ toString (cursor + 1)⟩, [])
  else if sub.selects event then
    match eventToProto crates event with
    | .ok proto => (.batch event.sequence rest full, [.event proto])
    | .error e => (.ended e, [])
  else (.batch event.sequence rest full, [])

def yieldCheckpoint (db : Db) (now cursor : Nat) : StreamPhase × List SubscribeResponse :=
  if db.latestEventSequence now < cursor then
    (.ended ⟨.dataLoss, "auth event sequence moved backwards"⟩, [])
  else (.polling cursor, [.checkpoint (db.latestEventSequence now)])

/-- One turn of `event_stream`; `due`: the checkpoint interval has passed. -/
def streamTurn (db : Db) (now : Nat) (due : Bool) :
    StreamPhase → Option (StreamPhase × List SubscribeResponse)
  | .polling cursor =>
      match db.checkCursor now cursor with
      | .ok _ => some (.checked cursor, [])
      | .error e => some (.ended (eventSourceError e), [])
  | .checked cursor => some (.ranged cursor (db.rangeEnd now cursor eventBatchSize), [])
  | .ranged cursor last =>
      match db.readRange now cursor last with
      | .ok events => some (.batch cursor events (events.length = eventBatchSize), [])
      | .error e => some (.ended (eventSourceError e), [])
  | .batch cursor [] full => some (if full then .polling cursor else .drained cursor, [])
  | .batch cursor (event :: rest) full => some (yieldEvent crates sub cursor event rest full)
  | .drained cursor =>
      if due then some (yieldCheckpoint db now cursor) else some (.polling cursor, [])
  | .ended _ => none

end

/-- What has been yielded, latest first. -/
structure StreamWorld where
  db : Db
  phase : StreamPhase
  yielded : List SubscribeResponse

inductive StreamLabel
  | store (call : SentCall)
  | turn (now : Nat) (due : Bool)

/-- A method of the store, after which the database still holds events of the log only, or a
    turn of the stream. -/
def StreamStep (ctx : StoreContext) (crates : EventCrates) (sub : Subscription)
    (log : Nat → AuthEvent) (world : StreamWorld) : StreamLabel → StreamWorld → Prop
  | .store call, world' => ∃ db', LogReady ctx world.db call ∧ LogStep ctx world.db call db' ∧
      Agrees log db' ∧ world' = { world with db := db' }
  | .turn now due, world' => ∃ next, streamTurn crates sub world.db now due world.phase = some next ∧
      world' = ⟨world.db, next.1, next.2 ++ world.yielded⟩

def streamStart (db : Db) (sub : Subscription) : StreamWorld := ⟨db, .polling sub.afterSequence, []⟩

/-! ## What a consumer sees -/

def SubscribeRequest.selects (request : SubscribeRequest) (event : AuthEvent) : Bool :=
  (request.eventTypes.isEmpty || request.eventTypes.contains event.eventType) &&
    (request.tenantIds.isEmpty || request.tenantIds.contains event.tenantId)

/-- Where a consumer resumes after a response. -/
def SubscribeResponse.position : SubscribeResponse → Nat
  | .event proto => proto.sequence
  | .checkpoint latestSequence => latestSequence

def SubscribeResponse.event? : SubscribeResponse → Option ProtoAuthEvent
  | .event proto => some proto
  | .checkpoint _ => none

/-- The events yielded, in order. -/
def delivered (yielded : List SubscribeResponse) : List ProtoAuthEvent :=
  yielded.reverse.filterMap SubscribeResponse.event?

section

variable (crates : EventCrates) (log : Nat → AuthEvent) (after : Nat) (selects : AuthEvent → Bool)

/-- Exactly the selected events of the numbers from `after + 1` to `cursor` were yielded. -/
structure Delivered (yielded : List SubscribeResponse) (cursor : Nat) : Prop where
  after_le : after ≤ cursor
  events : ((logSlice log after cursor).filter selects).mapM (eventToProto crates) =
    .ok (delivered yielded)

/-- The selected events of a contiguous range from `after + 1` on, in increasing order. -/
structure Gapless (yielded : List SubscribeResponse) : Prop where
  range : ∃ cursor, Delivered crates log after selects yielded cursor
  increasing : ((delivered yielded).map ProtoAuthEvent.sequence).Pairwise (· < ·)

/-- Every selected event after `after` up to the position was yielded. -/
def Covers (yielded : List SubscribeResponse) (position : Nat) : Prop :=
  ∀ n, after < n → n ≤ position → selects (log n) = true →
    ∃ proto, eventToProto crates (log n) = .ok proto ∧ .event proto ∈ yielded

/-- A consumer who resumes from any response it saw misses nothing. -/
def SafePositions : List SubscribeResponse → Prop
  | [] => True
  | response :: earlier =>
      Covers crates log after selects (response :: earlier) response.position ∧
        SafePositions earlier

end

/-- A checkpoint is made when no selected event has been appended since the batch was read. -/
def QuietCheckpoint (log : Nat → AuthEvent) (selects : AuthEvent → Bool) (world : StreamWorld)
    (l : StreamLabel) : Prop :=
  ∀ now cursor, l = .turn now true → world.phase = .drained cursor →
    ∀ n, cursor < n → n ≤ world.db.latestEventSequence now → selects (log n) = false

/-! ## Proofs -/

theorem validateFilters_eq_ok {values : List String} {name : String} {valid : String → Bool}
    {unique : List String} (h : validateFilters values name valid = .ok unique) :
    unique.isEmpty = values.isEmpty ∧ ∀ value, unique.contains value = values.contains value := by
  simp only [validateFilters, bind_eq_ok, ensure_eq_ok, pure_eq_ok, exists_const] at h
  obtain ⟨_, _, rfl⟩ := h
  constructor
  · cases values with
    | nil => rfl
    | cons value values =>
      have hne : (value :: values).dedup ≠ [] :=
        List.ne_nil_of_mem (List.mem_dedup.mpr List.mem_cons_self)
      rw [List.isEmpty_cons, List.isEmpty_eq_false_iff]
      exact hne
  · intro value
    rw [Bool.eq_iff_iff, List.contains_iff_mem, List.contains_iff_mem, List.mem_dedup]

variable {db : Db} {now : Nat} {sub : Subscription} {proto : ProtoAuthEvent} {due : Bool}
  {phase : StreamPhase} {next : StreamPhase × List SubscribeResponse}

theorem subscribe_eq_ok {permitted : Bool} {request : SubscribeRequest}
    (h : subscribe db now permitted request = .ok sub) :
    sub.afterSequence = request.afterSequence ∧ sub.selects = request.selects := by
  simp only [subscribe, bind_eq_ok, ensure_eq_ok, pure_eq_ok, exists_const] at h
  obtain ⟨eventTypes, htypes, tenantIds, htenants, _, _, _, _, rfl⟩ := h
  obtain ⟨htypesEmpty, htypesMem⟩ := validateFilters_eq_ok htypes
  obtain ⟨htenantsEmpty, htenantsMem⟩ := validateFilters_eq_ok htenants
  refine ⟨rfl, ?_⟩
  funext event
  unfold Subscription.selects SubscribeRequest.selects
  rw [htypesEmpty, htypesMem, htenantsEmpty, htenantsMem]

theorem sequence_eventToProto {crates : EventCrates} {event : AuthEvent}
    (h : eventToProto crates event = .ok proto) : proto.sequence = event.sequence := by
  simp only [eventToProto, bind_eq_ok, pure_eq_ok] at h
  obtain ⟨_, _, rfl⟩ := h
  rfl

section

variable {crates : EventCrates} {log : Nat → AuthEvent} {after : Nat} {selects : AuthEvent → Bool}
  {yielded : List SubscribeResponse} {cursor : Nat}

theorem delivered_event (proto : ProtoAuthEvent) :
    delivered (.event proto :: yielded) = delivered yielded ++ [proto] := by
  unfold delivered
  rw [List.reverse_cons, List.filterMap_append]
  rfl

theorem delivered_checkpoint (latest : Nat) :
    delivered (.checkpoint latest :: yielded) = delivered yielded := by
  unfold delivered
  rw [List.reverse_cons, List.filterMap_append]
  exact List.append_nil _

theorem mem_delivered :
    proto ∈ delivered yielded ↔ .event proto ∈ yielded := by
  unfold delivered
  rw [List.mem_filterMap]
  constructor
  · rintro ⟨response, hmem, hresponse⟩
    cases response with
    | event proto' =>
      cases hresponse
      exact List.mem_reverse.mp hmem
    | checkpoint latest => cases hresponse
  · intro hmem
    exact ⟨_, List.mem_reverse.mpr hmem, rfl⟩

theorem logSlice_succ (log : Nat → AuthEvent) {a b : Nat} (hab : a ≤ b) :
    logSlice log a (b + 1) = logSlice log a b ++ [log (b + 1)] := by
  have hone : b + 1 - b = 1 := by omega
  rw [← logSlice_append log hab (Nat.le_succ b)]
  congr 1
  show (List.range' (b + 1) (b + 1 - b)).map log = _
  rw [hone]
  rfl

theorem delivered_start : Delivered crates log after selects [] after := by
  refine ⟨Nat.le_refl _, ?_⟩
  rw [logSlice_self]
  rfl

/-- The next event is not selected. -/
theorem Delivered.skip (h : Delivered crates log after selects yielded cursor)
    (hnot : selects (log (cursor + 1)) = false) :
    Delivered crates log after selects yielded (cursor + 1) := by
  refine ⟨Nat.le_succ_of_le h.after_le, ?_⟩
  rw [logSlice_succ log h.after_le, List.filter_append]
  simp only [List.filter_cons, hnot, List.filter_nil, Bool.false_eq_true, if_false, List.append_nil]
  exact h.events

/-- The next event is selected and yielded. -/
theorem Delivered.yield (h : Delivered crates log after selects yielded cursor)
    (hselects : selects (log (cursor + 1)) = true)
    (hproto : eventToProto crates (log (cursor + 1)) = .ok proto) :
    Delivered crates log after selects (.event proto :: yielded) (cursor + 1) := by
  refine ⟨Nat.le_succ_of_le h.after_le, ?_⟩
  rw [logSlice_succ log h.after_le, List.filter_append, delivered_event]
  simp only [List.filter_cons, hselects, List.filter_nil, if_true]
  refine (mapM_eq_ok _ _ _).mpr (List.rel_append ((mapM_eq_ok _ _ _).mp h.events) ?_)
  exact .cons hproto .nil

theorem Delivered.checkpoint (h : Delivered crates log after selects yielded cursor) (latest : Nat) :
    Delivered crates log after selects (.checkpoint latest :: yielded) cursor := by
  refine ⟨h.after_le, ?_⟩
  rw [delivered_checkpoint]
  exact h.events

theorem Delivered.covers (h : Delivered crates log after selects yielded cursor) :
    Covers crates log after selects yielded cursor := by
  intro n hafter hle hselects
  have hmem : log n ∈ (logSlice log after cursor).filter selects := by
    refine List.mem_filter.mpr ⟨List.mem_map_of_mem ?_, hselects⟩
    rw [List.mem_range'_1]
    omega
  obtain ⟨proto, hproto, hok⟩ := exists_mem_of_mapM_ok h.events _ hmem
  exact ⟨proto, hok, mem_delivered.mp hproto⟩

/-- Before the position nothing else is yielded. -/
theorem Delivered.sequence_le (h : Delivered crates log after selects yielded cursor)
    (hlog : ∀ n, (log n).sequence = n) (hmem : .event proto ∈ yielded) :
    proto.sequence ≤ cursor := by
  have hmap := map_eq_of_mapM_ok h.events (p := AuthEvent.sequence) (q := ProtoAuthEvent.sequence)
    fun _ _ => sequence_eventToProto
  have hsequence : proto.sequence ∈ ((logSlice log after cursor).filter selects).map
      AuthEvent.sequence := hmap ▸ List.mem_map_of_mem (mem_delivered.mpr hmem)
  obtain ⟨event, hevent, heq⟩ := List.mem_map.mp hsequence
  obtain ⟨n, hn, rfl⟩ := List.mem_map.mp (List.mem_filter.mp hevent).1
  rw [List.mem_range'_1] at hn
  rw [hlog] at heq
  omega

theorem Delivered.gapless (h : Delivered crates log after selects yielded cursor)
    (hlog : ∀ n, (log n).sequence = n) : Gapless crates log after selects yielded := by
  refine ⟨⟨cursor, h⟩, ?_⟩
  rw [map_eq_of_mapM_ok h.events (p := AuthEvent.sequence) fun _ _ => sequence_eventToProto]
  have hslice : (logSlice log after cursor).map AuthEvent.sequence =
      List.range' (after + 1) (cursor - after) := by
    unfold logSlice
    rw [List.map_map]
    exact (List.map_congr_left fun n _ => hlog n).trans (List.map_id _)
  have hsorted : ((logSlice log after cursor).map AuthEvent.sequence).Pairwise (· < ·) := by
    rw [hslice]
    exact List.pairwise_lt_range'
  exact hsorted.sublist (List.filter_sublist.map _)

/-! ### Turns -/

/-- Where the stream is in the log. -/
def StreamPhase.Fits (log : Nat → AuthEvent) (P : Nat → Prop) : StreamPhase → Prop
  | .polling cursor | .checked cursor | .ranged cursor _ | .drained cursor => P cursor
  | .batch cursor rest _ => P cursor ∧ ∃ last, cursor ≤ last ∧ rest = logSlice log cursor last
  | .ended _ => ∃ cursor, P cursor

/-- A batch is the slice of the log that follows the cursor. -/
theorem readRange_slice (hagrees : Agrees log db) {last : Nat} {events : List AuthEvent}
    (h : db.readRange now cursor last = .ok events) :
    ∃ d, cursor ≤ d ∧ events = logSlice log cursor d := by
  refine ⟨max cursor last, Nat.le_max_left _ _, ?_⟩
  rw [(Db.mapM_eventAt_eq_ok hagrees h).1]
  unfold logSlice
  congr 2
  omega

theorem logSlice_cons {event : AuthEvent} {rest : List AuthEvent} {last : Nat}
    (h : event :: rest = logSlice log cursor last) :
    event = log (cursor + 1) ∧ rest = logSlice log (cursor + 1) last ∧ cursor + 1 ≤ last := by
  unfold logSlice at h
  cases hcount : last - cursor with
  | zero =>
    rw [hcount] at h
    cases h
  | succ count =>
    rw [hcount, List.range'_succ, List.map_cons] at h
    obtain ⟨rfl, hrest⟩ := List.cons.inj h
    have hless : last - (cursor + 1) = count := by omega
    refine ⟨rfl, ?_, by omega⟩
    unfold logSlice
    rw [hrest, hless]

/-- A turn of the stream moves it on in the log, and only a checkpoint is not an event. -/
theorem streamTurn_fits (hlog : ∀ n, (log n).sequence = n) (hagrees : Agrees log db)
    (hturn : streamTurn crates sub db now due phase = some next)
    (h : phase.Fits log (Delivered crates log after sub.selects yielded)) :
    next.1.Fits log (Delivered crates log after sub.selects (next.2 ++ yielded)) := by
  unfold streamTurn at hturn
  split at hturn
  · split at hturn <;> cases hturn
    · exact h
    · exact ⟨_, h⟩
  · cases hturn
    exact h
  · split at hturn <;> cases hturn
    · next hread => exact ⟨h, readRange_slice hagrees hread⟩
    · exact ⟨_, h⟩
  · cases hturn
    split
    · exact h.1
    · exact h.1
  · next event rest full =>
    obtain ⟨hdelivered, last, _, hrest⟩ := h
    obtain ⟨rfl, hrest, hlast⟩ := logSlice_cons hrest
    cases hturn
    unfold yieldEvent
    split
    · exact ⟨_, hdelivered⟩
    split
    · exact ⟨_, hdelivered⟩
    split
    · next hselects =>
      split
      · next proto hproto =>
        rw [hlog]
        exact ⟨hdelivered.yield hselects hproto, last, hlast, hrest⟩
      · exact ⟨_, hdelivered⟩
    · next hselects =>
      rw [hlog]
      exact ⟨hdelivered.skip (Bool.eq_false_iff.mpr hselects), last, hlast, hrest⟩
  · split at hturn <;> cases hturn
    · unfold yieldCheckpoint
      split
      · exact ⟨_, h⟩
      · exact h.checkpoint _
    · exact h
  · cases hturn

/-- What a turn yields: nothing, the next event, or a checkpoint. -/
theorem streamTurn_yields (hturn : streamTurn crates sub db now due phase = some next) :
    (next.2 = [] ∧ ∀ cursor, due = true → phase = .drained cursor →
      db.latestEventSequence now < cursor) ∨
    (∃ sequence rest full proto, next = (.batch sequence rest full, [.event proto]) ∧
      proto.sequence = sequence ∧ ∀ cursor, phase ≠ .drained cursor) ∨
    ∃ cursor, due = true ∧ phase = .drained cursor ∧
      next = (.polling cursor, [.checkpoint (db.latestEventSequence now)]) := by
  unfold streamTurn at hturn
  split at hturn
  · split at hturn <;> cases hturn <;> exact Or.inl ⟨rfl, nofun⟩
  · cases hturn
    exact Or.inl ⟨rfl, nofun⟩
  · split at hturn <;> cases hturn <;> exact Or.inl ⟨rfl, nofun⟩
  · cases hturn
    exact Or.inl ⟨rfl, nofun⟩
  · cases hturn
    unfold yieldEvent
    split
    · exact Or.inl ⟨rfl, nofun⟩
    split
    · exact Or.inl ⟨rfl, nofun⟩
    split
    · split
      · next proto hproto =>
        exact Or.inr (Or.inl ⟨_, _, _, proto, rfl, sequence_eventToProto hproto, nofun⟩)
      · exact Or.inl ⟨rfl, nofun⟩
    · exact Or.inl ⟨rfl, nofun⟩
  · next cursor =>
    split at hturn
    · next hdue =>
      cases hturn
      unfold yieldCheckpoint
      split
      · next hless =>
        refine Or.inl ⟨rfl, fun cursor' _ heq => ?_⟩
        cases heq
        exact hless
      · exact Or.inr (Or.inr ⟨cursor, hdue, rfl, rfl⟩)
    · next hdue =>
      cases hturn
      exact Or.inl ⟨rfl, fun _ heq => absurd heq hdue⟩
  · cases hturn

/-- A checkpoint is safe if and only if nothing selected lies between the cursor and it. -/
theorem covers_checkpoint_iff (hlog : ∀ n, (log n).sequence = n)
    (h : Delivered crates log after selects yielded cursor) (latest : Nat) :
    Covers crates log after selects (.checkpoint latest :: yielded) latest ↔
      ∀ n, cursor < n → n ≤ latest → selects (log n) = false := by
  constructor
  · intro hcovers n hcursor hle
    rw [Bool.eq_false_iff]
    intro hselects
    obtain ⟨proto, hproto, hmem⟩ := hcovers n (Nat.lt_of_le_of_lt h.after_le hcursor) hle hselects
    have hbefore := h.sequence_le hlog ((List.mem_cons.mp hmem).resolve_left nofun)
    rw [sequence_eventToProto hproto, hlog] at hbefore
    omega
  · intro hquiet n hafter hle hselects
    by_cases hn : n ≤ cursor
    · obtain ⟨proto, hproto, hmem⟩ := h.covers n hafter hn hselects
      exact ⟨proto, hproto, List.mem_cons_of_mem _ hmem⟩
    · exact absurd (hquiet n (by omega) hle) (by rw [hselects]; exact nofun)

theorem streamTurn_safe_iff (hlog : ∀ n, (log n).sequence = n) (hagrees : Agrees log db)
    (hturn : streamTurn crates sub db now due phase = some next)
    (h : phase.Fits log (Delivered crates log after sub.selects yielded))
    (hsafe : SafePositions crates log after sub.selects yielded) :
    SafePositions crates log after sub.selects (next.2 ++ yielded) ↔
      ∀ cursor, due = true → phase = .drained cursor →
        ∀ n, cursor < n → n ≤ db.latestEventSequence now → sub.selects (log n) = false := by
  have hfits := streamTurn_fits hlog hagrees hturn h
  rcases streamTurn_yields hturn with ⟨hnone, hless⟩ | ⟨sequence, rest, full, proto, rfl, hproto, hnot⟩ |
    ⟨cursor, hdue, rfl, rfl⟩
  · rw [hnone]
    refine iff_of_true hsafe fun cursor hdue hphase n hn hle => ?_
    have := hless cursor hdue hphase
    omega
  · refine iff_of_true ⟨?_, hsafe⟩ fun cursor _ hphase => absurd hphase (hnot cursor)
    show Covers _ _ _ _ _ proto.sequence
    rw [hproto]
    exact hfits.1.covers
  · have hiff := covers_checkpoint_iff hlog h (db.latestEventSequence now)
    constructor
    · rintro hcovers cursor' _ heq
      cases heq
      exact hiff.mp hcovers.1
    · intro hquiet
      exact ⟨hiff.mpr (hquiet cursor hdue rfl), hsafe⟩

end

/-! ## Runs -/

section

variable {ctx : StoreContext} {crates : EventCrates} {sub : Subscription} {log : Nat → AuthEvent}
  {db : Db} {world world' : StreamWorld} {l : StreamLabel}

structure StreamFits (crates : EventCrates) (sub : Subscription) (log : Nat → AuthEvent)
    (world : StreamWorld) : Prop where
  agrees : Agrees log world.db
  phase : world.phase.Fits log
    (Delivered crates log sub.afterSequence sub.selects world.yielded)

theorem StreamFits.step (hlog : ∀ n, (log n).sequence = n) (h : StreamFits crates sub log world)
    (hstep : StreamStep ctx crates sub log world l world') : StreamFits crates sub log world' := by
  cases l with
  | store call =>
    obtain ⟨db', _, _, hagrees, rfl⟩ := hstep
    exact ⟨hagrees, h.phase⟩
  | turn now due =>
    obtain ⟨next, hturn, rfl⟩ := hstep
    exact ⟨h.agrees, streamTurn_fits hlog h.agrees hturn h.phase⟩

theorem StreamFits.gapless (hlog : ∀ n, (log n).sequence = n) (h : StreamFits crates sub log world) :
    Gapless crates log sub.afterSequence sub.selects world.yielded := by
  have hphase := h.phase
  cases hcase : world.phase with
  | batch cursor rest full =>
    rw [hcase] at hphase
    exact hphase.1.gapless hlog
  | ended error =>
    rw [hcase] at hphase
    obtain ⟨cursor, hdelivered⟩ := hphase
    exact hdelivered.gapless hlog
  | _ =>
    rw [hcase] at hphase
    exact Delivered.gapless hphase hlog

theorem StreamFits.safe_iff (hlog : ∀ n, (log n).sequence = n) (h : StreamFits crates sub log world)
    (hsafe : SafePositions crates log sub.afterSequence sub.selects world.yielded)
    (hstep : StreamStep ctx crates sub log world l world') :
    SafePositions crates log sub.afterSequence sub.selects world'.yielded ↔
      QuietCheckpoint log sub.selects world l := by
  cases l with
  | store call =>
    obtain ⟨db', _, _, _, rfl⟩ := hstep
    exact iff_of_true hsafe nofun
  | turn now due =>
    obtain ⟨next, hturn, rfl⟩ := hstep
    refine (streamTurn_safe_iff hlog h.agrees hturn h.phase hsafe).trans ⟨?_, ?_⟩
    · intro hquiet now' cursor heq hphase
      cases heq
      exact hquiet cursor rfl hphase
    · intro hquiet cursor hdue hphase
      subst hdue
      exact hquiet now cursor rfl hphase

theorem streamFits_start (hagrees : Agrees log db) : StreamFits crates sub log (streamStart db sub) :=
  ⟨hagrees, delivered_start⟩

end

/-- Every subscription is gapless and in order, and each of its positions is safe to resume from
    as long as its checkpoints are quiet; one more turn is safe if and only if it is quiet. -/
theorem subscription_gapless (ctx : StoreContext) (crates : EventCrates) (log : Nat → AuthEvent)
    (hlog : ∀ n, (log n).sequence = n) {db : Db} (hagrees : Agrees log db) {now : Nat}
    {permitted : Bool} {request : SubscribeRequest} {sub : Subscription}
    (hsub : subscribe db now permitted request = .ok sub) :
    (∀ ls world, Run (StreamStep ctx crates sub log) (streamStart db sub) ls world →
      Gapless crates log request.afterSequence request.selects world.yielded) ∧
    ∀ ls world, Run (Restrict (StreamStep ctx crates sub log) (QuietCheckpoint log request.selects))
        (streamStart db sub) ls world →
      SafePositions crates log request.afterSequence request.selects world.yielded ∧
      ∀ l world', StreamStep ctx crates sub log world l world' →
        (SafePositions crates log request.afterSequence request.selects world'.yielded ↔
          QuietCheckpoint log request.selects world l) := by
  obtain ⟨hafter, hselects⟩ := subscribe_eq_ok hsub
  rw [← hafter, ← hselects]
  constructor
  · intro ls world run
    have hfits := run.invariant (I := StreamFits crates sub log)
      (fun _ _ _ h hstep => h.step hlog hstep) (streamFits_start hagrees)
    exact hfits.gapless hlog
  · intro ls world run
    obtain ⟨hfits, hsafe⟩ := run.invariant (I := fun world => StreamFits crates sub log world ∧
      SafePositions crates log sub.afterSequence sub.selects world.yielded)
      (fun _ _ _ h hstep => ⟨h.1.step hlog hstep.2, (h.1.safe_iff hlog h.2 hstep.2).mpr hstep.1⟩)
      ⟨streamFits_start hagrees, trivial⟩
    exact ⟨hsafe, fun l world' hstep => hfits.safe_iff hlog hsafe hstep⟩

/-! ### A sample subscription -/

/-- The events of the sample log; it has no others. -/
def sampleEvent (n : Nat) : AuthEvent :=
  (appendedLog.get 0 (.event n)).getD ⟨n, 0, "", "", none, 0, emptyEventData⟩

def sampleFormats : EventCrates := ⟨fun seconds => some (toString seconds), fun _ => ""⟩

/-- Everything, from the beginning. -/
def sampleRequest : SubscribeRequest := ⟨0, [], [], 0⟩
def sampleSubscription : Subscription := ⟨0, [], [], 15⟩

theorem sequence_sampleEvent (n : Nat) : (sampleEvent n).sequence = n := by
  obtain ⟨m, L, h, _⟩ := run_intact run_append intact_empty
  unfold sampleEvent
  by_cases hn : m ≤ n ∧ n ≤ L
  · obtain ⟨e, he, hsequence⟩ := h.present 0 n hn.1 hn.2
    rw [he]
    exact hsequence
  · rw [h.absent 0 n hn]
    rfl

theorem agrees_appendedLog : Agrees sampleEvent appendedLog := by
  intro k t v hget
  cases k with
  | event n =>
    show v = sampleEvent n
    unfold sampleEvent
    rw [Keyspace.get_mono (Nat.zero_le t) hget]
    rfl
  | _ => trivial

theorem agrees_empty : Agrees sampleEvent Keyspace.empty := fun k t v hget => by
  rw [Keyspace.get_empty] at hget
  cases hget

def appendLabel : StreamLabel := .store (wholeCall sampleStore Keyspace.empty sampleAppend)

theorem step_append (phase : StreamPhase) (yielded : List SubscribeResponse) :
    StreamStep sampleStore sampleFormats sampleSubscription sampleEvent
      ⟨Keyspace.empty, phase, yielded⟩ appendLabel ⟨appendedLog, phase, yielded⟩ :=
  ⟨appendedLog, ⟨trivial, Or.inr ⟨sampleLogInputs, rfl⟩⟩, logStep_wholeCall _ _ _,
    agrees_appendedLog, rfl⟩

theorem subscribe_sample : subscribe Keyspace.empty 99 true sampleRequest = .ok sampleSubscription :=
  rfl

/-- Two events are appended between the last batch and the checkpoint, which passes them over. -/
theorem checkpoint_passes_events : ∃ ls world,
    Run (StreamStep sampleStore sampleFormats sampleSubscription sampleEvent)
      (streamStart Keyspace.empty sampleSubscription) ls world ∧
    world.yielded = [.checkpoint 2] ∧
    ¬SafePositions sampleFormats sampleEvent 0 sampleRequest.selects world.yielded := by
  have run : Run (StreamStep sampleStore sampleFormats sampleSubscription sampleEvent)
      (streamStart Keyspace.empty sampleSubscription)
      [.turn 99 false, .turn 99 false, .turn 99 false, .turn 99 false, appendLabel, .turn 100 true]
      ⟨appendedLog, .polling 0, [.checkpoint 2]⟩ :=
    .cons ⟨_, rfl, rfl⟩ (.cons ⟨_, rfl, rfl⟩ (.cons ⟨_, rfl, rfl⟩ (.cons ⟨_, rfl, rfl⟩
      (.cons (step_append _ _) (.cons ⟨_, rfl, rfl⟩ (.nil _))))))
  refine ⟨_, _, run, rfl, fun hsafe => ?_⟩
  obtain ⟨_, _, hmem⟩ := hsafe.1 1 (by decide) (by decide) rfl
  cases List.mem_singleton.mp hmem

/-- A subscription that yields both events and then a checkpoint. -/
theorem subscription_gapless_sample : ∃ ls world,
    Run (Restrict (StreamStep sampleStore sampleFormats sampleSubscription sampleEvent)
      (QuietCheckpoint sampleEvent sampleRequest.selects))
      (streamStart Keyspace.empty sampleSubscription) ls world ∧
    world.yielded.map SubscribeResponse.position = [2, 2, 1] ∧
    Gapless sampleFormats sampleEvent 0 sampleRequest.selects world.yielded ∧
    SafePositions sampleFormats sampleEvent 0 sampleRequest.selects world.yielded := by
  have hnotDue : ∀ world now, QuietCheckpoint sampleEvent sampleRequest.selects world (.turn now false) :=
    fun _ _ _ _ heq => by cases heq
  have run : ∃ yielded, Run (Restrict (StreamStep sampleStore sampleFormats sampleSubscription
      sampleEvent) (QuietCheckpoint sampleEvent sampleRequest.selects))
      (streamStart Keyspace.empty sampleSubscription)
      (appendLabel :: List.replicate 6 (.turn 101 false) ++ [.turn 102 true])
      ⟨appendedLog, .polling 2, yielded⟩ ∧ yielded.map SubscribeResponse.position = [2, 2, 1] := by
    refine ⟨_, .cons ⟨nofun, step_append _ _⟩ (.cons ⟨hnotDue _ _, _, rfl, rfl⟩
      (.cons ⟨hnotDue _ _, _, rfl, rfl⟩ (.cons ⟨hnotDue _ _, _, rfl, rfl⟩ (.cons ⟨hnotDue _ _, _, rfl, rfl⟩
      (.cons ⟨hnotDue _ _, _, rfl, rfl⟩ (.cons ⟨hnotDue _ _, _, rfl, rfl⟩
      (.cons ⟨?_, _, rfl, rfl⟩ (.nil _)))))))), ?_⟩
    · intro now cursor heq hphase n hcursor hle
      cases heq
      cases hphase
      exact absurd (Nat.lt_of_lt_of_le hcursor hle) (Nat.lt_irrefl _)
    · rfl
  obtain ⟨yielded, run, hpositions⟩ := run
  have hresult := subscription_gapless sampleStore sampleFormats sampleEvent sequence_sampleEvent
    agrees_empty subscribe_sample
  exact ⟨_, _, run, hpositions, hresult.1 _ _ run.of_restrict, (hresult.2 _ _ run).1⟩

end RustyAuth
