/-
  Exactly-once projection.

  The projector advances its cursor, the buckets and the closures together, over batches
  of any size and from any stored state.  Seen from the event log there is one sentence to
  say: with the cursor at `c`, the bucket of `start` holds the fold of `apply` over the
  events numbered in `(c₀, c]` that fall into it, where `c₀` is where the first call
  started (`projected`).  `closed` and `revision` are the bookkeeping of the export and
  are forgotten by `counters`.

  * `counters_touched`: what the buckets a call writes are, in terms of what was stored.
  * `get_bucket_commit`: what its one batch leaves under every bucket key.
  * `project_projected`, `step_exact`: a call, and every step of the system, moves the
    state from one cursor of the log to another.
-/
import RustyAuth.Analytics.Projector
import RustyAuth.Library.Runs

namespace RustyAuth

open RustyAuth.Library
open Std (TreeMap)

/-! ## Counting, up to closing and revision -/

namespace LocalMetricBucket

/-- The bucket without the bookkeeping of its export. -/
def counters (b : LocalMetricBucket) : LocalMetricBucket := { b with closed := false, revision := 1 }

/-- The bucket after one event. -/
def applied (b : LocalMetricBucket) (event : AuthEvent) : LocalMetricBucket := (b.apply event).1

@[simp] theorem bucketStart_counters (b : LocalMetricBucket) :
    b.counters.bucketStart = b.bucketStart := rfl

/-- Counting does not look at what `counters` forgets. -/
theorem counters_applied (b : LocalMetricBucket) (event : AuthEvent) :
    (b.counters.applied event).counters = (b.applied event).counters := by
  unfold applied apply
  cases event.counted with
  | none => rfl
  | some kind =>
    unfold count observeWebhookBacklog
    cases kind <;> cases event.data.backlog <;> rfl

theorem bucketStart_applied (b : LocalMetricBucket) (event : AuthEvent) :
    (b.applied event).bucketStart = b.bucketStart := by
  unfold applied apply
  cases event.counted with
  | none => rfl
  | some kind =>
    unfold count observeWebhookBacklog
    cases kind <;> cases event.data.backlog <;> rfl

end LocalMetricBucket

open LocalMetricBucket (counters applied counters_applied bucketStart_applied bucketStart_counters)

theorem counters_countInto (b : LocalMetricBucket) (event : AuthEvent) :
    (countInto b event).1.counters = (b.applied event).counters := by
  unfold countInto applied
  dsimp only
  split <;> rfl

/-- Count more events into the bucket of `start`; it comes to be with its first event. -/
def extend (start : Nat) (stored : Option LocalMetricBucket) (events : List AuthEvent) :
    Option LocalMetricBucket :=
  events.foldl (fun b event => some ((b.getD (.new start)).applied event).counters) stored

theorem extend_append (start : Nat) (b : Option LocalMetricBucket) (es fs : List AuthEvent) :
    extend start b (es ++ fs) = extend start (extend start b es) fs := by
  unfold extend
  rw [List.foldl_append]

/-- The counters of a fold are the fold over the counters. -/
theorem extend_some (start : Nat) (events : List AuthEvent) :
    ∀ b : LocalMetricBucket,
      extend start (some b.counters) events = some (events.foldl applied b).counters := by
  induction events with
  | nil => intro b; rfl
  | cons event events ih =>
    intro b
    rw [List.foldl_cons, ← ih]
    unfold extend
    rw [List.foldl_cons, Option.getD_some, counters_applied]

variable {events : List AuthEvent} {call : ProjectorCall} {epoch c₀ c : Nat} {existing : OutboxKeys}
  {b : LocalMetricBucket} {db db' : Db} {r : ProjectionResult} {ws : List Write}
  {log : Nat → AuthEvent}

theorem extend_none (start : Nat) (h : events ≠ []) :
    extend start none events = some (events.foldl applied (.new start)).counters := by
  obtain ⟨event, events, rfl⟩ := List.exists_cons_of_ne_nil h
  rw [← extend_some start (event :: events) (.new start)]
  rfl

theorem bucketStart_extend (start : Nat) (events : List AuthEvent) :
    ∀ b : Option LocalMetricBucket, (∀ x ∈ b, x.bucketStart = start) →
      ∀ x ∈ extend start b events, x.bucketStart = start := by
  induction events with
  | nil => intro b hb; exact hb
  | cons event events ih =>
    intro b hb
    apply ih
    intro x hx
    rw [← Option.mem_some_iff.mp hx, bucketStart_counters, bucketStart_applied]
    cases b with
    | none => rfl
    | some y => exact hb y rfl

/-! ## The buckets a call writes -/

/-- What the bucket of `start` is in the middle of a call: touched, or as stored. -/
def view (db : Db) (now : Nat) (touched : Buckets) (start : Nat) : Option LocalMetricBucket :=
  touched[start]?.or (db.get now (.analyticsBucket start))

theorem view_insert_self (db : Db) (now : Nat) (touched : Buckets) (start : Nat)
    (b : LocalMetricBucket) : view db now (touched.insert start b) start = some b := by
  unfold view
  rw [TreeMap.getElem?_insert_self, Option.some_or]

theorem view_insert_of_ne (db : Db) (now : Nat) (touched : Buckets) {start other : Nat}
    (b : LocalMetricBucket) (h : other ≠ start) :
    view db now (touched.insert start b) other = view db now touched other := by
  unfold view
  rw [TreeMap.getElem?_insert, if_neg (by rw [Nat.compare_eq_eq]; exact Ne.symm h)]

/-- The events of a list that fall into the bucket of `start`. -/
def inBucket (start : Nat) (events : List AuthEvent) : List AuthEvent :=
  events.filter fun event => alignedBucketStart event.occurredAt = start

theorem inBucket_append (start : Nat) (es fs : List AuthEvent) :
    inBucket start (es ++ fs) = inBucket start es ++ inBucket start fs := by
  unfold inBucket
  rw [List.filter_append]

theorem counters_touchEvent (db : Db) (now : Nat) (acc : Buckets × Nat) (event : AuthEvent)
    (start : Nat) :
    (view db now (touchEvent db now acc event).1 start).map counters =
      extend start ((view db now acc.1 start).map counters) (inBucket start [event]) := by
  unfold touchEvent inBucket
  by_cases h : start = alignedBucketStart event.occurredAt
  · subst h
    rw [view_insert_self, List.filter_cons_of_pos (by simp), Option.map_some, counters_countInto]
    unfold extend loadBucket view
    rw [List.filter_nil, List.foldl_cons, List.foldl_nil]
    cases acc.1[alignedBucketStart event.occurredAt]?.or
        (db.get now (.analyticsBucket (alignedBucketStart event.occurredAt))) with
    | none => rfl
    | some b =>
      rw [Option.getD_some, Option.map_some, Option.getD_some, counters_applied]
  · rw [view_insert_of_ne db now acc.1 _ h, List.filter_cons_of_neg (by simpa using Ne.symm h)]
    rfl

theorem counters_touchEvents_from (db : Db) (now start : Nat) (events : List AuthEvent) :
    ∀ acc : Buckets × Nat,
      (view db now (events.foldl (touchEvent db now) acc).1 start).map counters =
        extend start ((view db now acc.1 start).map counters) (inBucket start events) := by
  induction events with
  | nil => intro acc; rfl
  | cons event events ih =>
    intro acc
    have hsplit : inBucket start (event :: events) =
        inBucket start [event] ++ inBucket start events := inBucket_append start [event] events
    rw [List.foldl_cons, ih, counters_touchEvent, hsplit, extend_append]

theorem counters_touchEvents (db : Db) (now start : Nat) (events : List AuthEvent) :
    (view db now (touchEvents db now events).1 start).map counters =
      extend start ((db.get now (.analyticsBucket start)).map counters) (inBucket start events) := by
  unfold touchEvents
  rw [counters_touchEvents_from]
  unfold view
  rw [TreeMap.getElem?_emptyc, Option.none_or]

/-- Walking the closures only loads what is stored. -/
theorem view_walkClosures (db : Db) (now start fuel : Nat) :
    ∀ (cursor : Nat) (touched : Buckets),
      view db now (walkClosures db now fuel cursor touched).2 start = view db now touched start := by
  induction fuel with
  | zero => intro cursor touched; rfl
  | succ fuel ih =>
    intro cursor touched
    unfold walkClosures
    dsimp only
    split
    · rfl
    · rw [ih]
      split
      · next record htouched hstored =>
        by_cases h : start = satAdd cursor bucketWidthSecondsV1
        · subst h
          rw [view_insert_self]
          unfold view
          rw [htouched, hstored, Option.none_or]
        · rw [view_insert_of_ne db now touched _ h]
      · rfl

theorem counters_closeDue (now : Nat) (b : LocalMetricBucket) :
    (closeDue now b).counters = b.counters := by
  unfold closeDue
  split <;> rfl

/-- Closing keeps the counters of every bucket. -/
theorem counters_map_closeDue (db : Db) (now start : Nat) (touched : Buckets) :
    (view db now (touched.map fun _ => closeDue now) start).map counters =
      (view db now touched start).map counters := by
  unfold view
  rw [TreeMap.getElem?_map]
  cases touched[start]? with
  | none => rfl
  | some b =>
    rw [Option.map_some, Option.some_or, Option.some_or, Option.map_some, Option.map_some,
      counters_closeDue]

/-- What the buckets a call writes are, in terms of what was stored. -/
theorem counters_touched (db : Db) (now start : Nat) (events : List AuthEvent) :
    (view db now (touchedBuckets db now events).2 start).map counters =
      extend start ((db.get now (.analyticsBucket start)).map counters) (inBucket start events) := by
  unfold touchedBuckets
  dsimp only
  rw [counters_map_closeDue, view_walkClosures, counters_touchEvents]

/-! ## The batch of a call -/

def IsOutbox : Key → Prop
  | .analyticsOutbox _ _ => True
  | _ => False

/-- The write of a bucket. -/
def bucketWrite (b : LocalMetricBucket) : Write := .set (.analyticsBucket b.bucketStart) b

theorem queueBucket_writes {acc acc' : Export}
    (h : queueBucket call epoch existing acc b = .ok acc') :
    ∃ ws, acc'.writes = acc.writes ++ ws ∧ ∀ w ∈ ws, IsOutbox w.key := by
  simp only [queueBucket, bind_eq_ok, pure_eq_ok] at h
  obtain ⟨_, _, rfl⟩ := h
  refine ⟨_, List.append_assoc _ _ _, ?_⟩
  intro w hw
  rcases List.mem_append.mp hw with hdel | hset
  · obtain ⟨key, _, rfl⟩ := List.mem_map.mp hdel
    trivial
  · rw [List.mem_singleton.mp hset]
    trivial

theorem exportBucket_writes {acc acc' : Export}
    (h : exportBucket db call epoch existing acc b = .ok acc') :
    ∃ ws, acc'.writes = acc.writes ++ bucketWrite b :: ws ∧ ∀ w ∈ ws, IsOutbox w.key := by
  unfold exportBucket at h
  dsimp only at h
  split at h
  · obtain ⟨ws, hws, hout⟩ := queueBucket_writes h
    exact ⟨ws, by rw [hws, List.append_assoc]; rfl, hout⟩
  · rw [pure_eq_ok] at h
    exact ⟨[], by rw [← h]; rfl, by simp⟩

/-- The writes of an export: each bucket once, and otherwise outbox keys. -/
theorem export_writes (bs : List LocalMetricBucket) :
    ∀ {acc acc' : Export}, bs.foldlM (exportBucket db call epoch existing) acc = .ok acc' →
      ∃ ws, acc'.writes = acc.writes ++ ws ∧ (∀ b ∈ bs, bucketWrite b ∈ ws) ∧
        ∀ w ∈ ws, (∃ b ∈ bs, w = bucketWrite b) ∨ IsOutbox w.key := by
  induction bs with
  | nil =>
    intro acc acc' h
    rw [List.foldlM_nil, pure_eq_ok] at h
    exact ⟨[], by rw [h, List.append_nil], by simp, by simp⟩
  | cons b bs ih =>
    intro acc acc' h
    rw [List.foldlM_cons, bind_eq_ok] at h
    obtain ⟨mid, hmid, hrest⟩ := h
    obtain ⟨us, hus, hout⟩ := exportBucket_writes hmid
    obtain ⟨ws, hws, hall, honly⟩ := ih hrest
    refine ⟨bucketWrite b :: us ++ ws, by rw [hws, hus, List.append_assoc], ?_, ?_⟩
    · intro b' hb'
      rcases List.mem_cons.mp hb' with rfl | hb'
      · exact List.mem_append_left _ List.mem_cons_self
      · exact List.mem_append_right _ (hall b' hb')
    · intro w hw
      rcases List.mem_append.mp hw with hw | hw
      · rcases List.mem_cons.mp hw with rfl | hw
        · exact Or.inl ⟨b, List.mem_cons_self, rfl⟩
        · exact Or.inr (hout w hw)
      · exact (honly w hw).imp (fun ⟨b', hb', e⟩ => ⟨b', List.mem_cons_of_mem _ hb', e⟩) id

/-- What the batch of a call that read `events` consists of. -/
structure CallWrites (db : Db) (call : ProjectorCall) (events : List AuthEvent) (ws : List Write) :
    Prop where
  buckets : ∀ b ∈ valuesOf (touchedBuckets db call.now events).2, bucketWrite b ∈ ws
  cursors : ∀ w ∈ cursorWrites db call.now events (touchedBuckets db call.now events).1, w ∈ ws
  only : ∀ w ∈ ws, (∃ b ∈ valuesOf (touchedBuckets db call.now events).2, w = bucketWrite b) ∨
    IsOutbox w.key ∨ w ∈ cursorWrites db call.now events (touchedBuckets db call.now events).1

/-- What a call that returns has done: nothing was due, or it has its writes. -/
theorem projectAnalyticsEvents_ok (h : projectAnalyticsEvents db call = .ok (r, ws)) :
    ∃ events, projectedEvents db call = .ok events ∧
      (events = [] ∧ (db.get call.now .analyticsProjectorCursor).isSome ∧ ws = [] ∨
        CallWrites db call events ws) := by
  simp only [projectAnalyticsEvents, bind_eq_ok, mapError_eq_ok] at h
  obtain ⟨events, hevents, h⟩ := h
  refine ⟨events, hevents, ?_⟩
  split at h
  · next hidle =>
    rw [pure_eq_ok, Prod.mk.injEq] at h
    exact Or.inl ⟨hidle.1, hidle.2.1, h.2.symm⟩
  · simp only [bind_eq_ok, mapError_eq_ok, pure_eq_ok, Prod.mk.injEq] at h
    obtain ⟨exported, hexport, -, rfl⟩ := h
    obtain ⟨us, hus, hall, honly⟩ := export_writes _ hexport
    rw [List.nil_append] at hus
    refine Or.inr ⟨?_, ?_, ?_⟩
    · intro b hb
      exact List.mem_append_left _ (List.mem_append_left _ (hus ▸ hall b hb))
    · intro w hw
      exact List.mem_append_right _ hw
    · intro w hw
      rcases List.mem_append.mp hw with hw | hw
      · rcases List.mem_append.mp hw with hw | hw
        · exact (honly w (hus ▸ hw)).imp id Or.inl
        · obtain ⟨key, _, rfl⟩ := List.mem_map.mp hw
          exact Or.inr (Or.inl trivial)
      · exact Or.inr (Or.inr hw)

theorem mem_valuesOf {touched : Buckets} :
    b ∈ valuesOf touched ↔ ∃ start : Nat, touched[start]? = some b := by
  unfold valuesOf
  rw [List.mem_map]
  constructor
  · rintro ⟨⟨start, b⟩, hmem, rfl⟩
    exact ⟨start, TreeMap.mem_toList_iff_getElem?_eq_some.mp hmem⟩
  · rintro ⟨start, h⟩
    exact ⟨(start, b), TreeMap.mem_toList_iff_getElem?_eq_some.mpr h, rfl⟩

theorem mem_cursorWrites {now closure : Nat} {w : Write}
    (h : w ∈ cursorWrites db now events closure) :
    w.key = .analyticsProjectorCursor ∨ w.key = .analyticsClosureCursor := by
  unfold cursorWrites at h
  rcases List.mem_append.mp h with h | h
  · left
    split at h
    · rw [List.mem_singleton.mp h]; rfl
    · rw [List.mem_singleton.mp h]; rfl
    · cases h
  · right
    split at h
    · cases h
    · rw [List.mem_singleton.mp h]; rfl

/-- Each bucket lies under its own start. -/
def Keyed (touched : Buckets) : Prop :=
  ∀ (start : Nat) (b : LocalMetricBucket), touched[start]? = some b → b.bucketStart = start

/-- What the batch of a call leaves under every bucket key. -/
theorem get_bucket_commit (hws : CallWrites db call events ws)
    (hkeyed : Keyed (touchedBuckets db call.now events).2) (now t start : Nat) :
    (commit now db ws).get t (.analyticsBucket start) =
      (touchedBuckets db call.now events).2[start]?.or (db.get t (.analyticsBucket start)) := by
  -- a write to this key is the write of the bucket touched under `start`
  have honly : ∀ w ∈ ws, w.key = .analyticsBucket start →
      ∃ b, (touchedBuckets db call.now events).2[start]? = some b ∧ w = bucketWrite b := by
    intro w hw hkey
    rcases hws.only w hw with ⟨b, hb, rfl⟩ | hout | hcur
    · obtain ⟨s, hs⟩ := mem_valuesOf.mp hb
      have hstart : b.bucketStart = start := Key.analyticsBucket.inj hkey
      obtain rfl : s = start := by rw [← hkeyed s b hs, hstart]
      exact ⟨b, hs, rfl⟩
    · rw [hkey] at hout
      exact hout.elim
    · rcases mem_cursorWrites hcur with h | h
      · rw [hkey] at h; cases h
      · rw [hkey] at h; cases h
  cases htouched : (touchedBuckets db call.now events).2[start]? with
  | none =>
    rw [Option.none_or]
    apply get_commit_of_forall_ne
    intro w hw hkey
    obtain ⟨b, hb, _⟩ := honly w hw hkey.symm
    rw [htouched] at hb
    cases hb
  | some b =>
    rw [Option.some_or]
    obtain rfl := hkeyed start b htouched
    apply get_commit_set
    · intro w hw hkey
      obtain ⟨b', hb', rfl⟩ := honly w hw hkey
      rw [htouched, Option.some.injEq] at hb'
      rw [hb']; rfl
    · exact Or.inl (hws.buckets b (mem_valuesOf.mpr ⟨_, htouched⟩))

/-- The cursor a call leaves: the number of the last event it read, if it read one. -/
theorem get_cursor_commit (hws : CallWrites db call events ws)
    (hstored : ∀ t, db.get t .analyticsProjectorCursor = db.get call.now .analyticsProjectorCursor)
    (now t : Nat) :
    (commit now db ws).get t .analyticsProjectorCursor =
      some ((events.getLast?.map AuthEvent.sequence).getD (db.projectorStart call.now)) := by
  have hkey : ∀ w ∈ ws, w.key = .analyticsProjectorCursor →
      w ∈ cursorWrites db call.now events (touchedBuckets db call.now events).1 := by
    intro w hw hkey
    rcases hws.only w hw with ⟨b, _, rfl⟩ | hout | hcur
    · cases hkey
    · rw [hkey] at hout
      exact hout.elim
    · exact hcur
  apply get_commit_set
  · intro w hw hw'
    have h := hkey w hw hw'
    unfold cursorWrites at h
    rcases List.mem_append.mp h with h | h
    · split at h
      · next last hlast => rw [hlast]; exact List.mem_singleton.mp h
      · next hlast _ => rw [hlast]; exact List.mem_singleton.mp h
      · cases h
    · split at h
      · cases h
      · rw [List.mem_singleton.mp h] at hw'
        cases hw'
  · cases hlast : events.getLast? with
    | some last =>
      left
      apply hws.cursors
      unfold cursorWrites
      rw [hlast]
      exact List.mem_append_left _ (List.mem_singleton.mpr rfl)
    | none =>
      cases hcur : db.get call.now .analyticsProjectorCursor with
      | some c =>
        right
        rw [hstored, hcur, Option.map_none, Option.getD_none]
        unfold Db.projectorStart
        rw [hcur]; rfl
      | none =>
        left
        apply hws.cursors
        unfold cursorWrites
        rw [hlast, hcur]
        exact List.mem_append_left _ (List.mem_singleton.mpr rfl)

/-! ## The state of the projection -/

/-- The bucket of `start` as the log determines it: nothing if no event numbered in
    `(c₀, c]` falls into it, and otherwise the left fold of `apply` over those that do. -/
def projected (log : Nat → AuthEvent) (c₀ c start : Nat) : Option LocalMetricBucket :=
  let events := inBucket start (logSlice log c₀ c)
  if events = [] then none else some (events.foldl applied (.new start)).counters

theorem projected_eq_extend (log : Nat → AuthEvent) (c₀ c start : Nat) :
    projected log c₀ c start = extend start none (inBucket start (logSlice log c₀ c)) := by
  unfold projected
  dsimp only
  split
  · next h => rw [h]; rfl
  · next h => rw [extend_none start h]

theorem projected_self (log : Nat → AuthEvent) (c start : Nat) :
    projected log c c start = none := by
  rw [projected_eq_extend, logSlice_self]; rfl

/-- Moving the cursor counts exactly the events it passes. -/
theorem projected_advance (log : Nat → AuthEvent) {c' : Nat} (start : Nat) (h₀ : c₀ ≤ c)
    (h : c ≤ c') :
    projected log c₀ c' start =
      extend start (projected log c₀ c start) (inBucket start (logSlice log c c')) := by
  rw [projected_eq_extend, projected_eq_extend, ← logSlice_append log h₀ h, inBucket_append,
    extend_append]

theorem bucketStart_projected {start : Nat} (h : b ∈ projected log c₀ c start) :
    b.bucketStart = start := by
  rw [projected_eq_extend] at h
  exact bucketStart_extend start _ none (by simp) b h

/-- Every stored bucket is the one the log determines, up to closing and revision. -/
def ProjectedAt (log : Nat → AuthEvent) (c₀ c : Nat) (db : Db) : Prop :=
  ∀ t start, (db.get t (.analyticsBucket start)).map counters = projected log c₀ c start

theorem keyed_touched (h : ProjectedAt log c₀ c db) (now : Nat) (events : List AuthEvent) :
    Keyed (touchedBuckets db now events).2 := by
  intro start b hb
  have hview : view db now (touchedBuckets db now events).2 start = some b := by
    unfold view
    rw [hb, Option.some_or]
  have hcount := counters_touched db now start events
  rw [hview, h now start] at hcount
  rw [← bucketStart_counters]
  exact bucketStart_extend start _ _ (fun x hx => bucketStart_projected hx) _ hcount.symm

/-- The cursor a call leaves. -/
def projectorEnd (db : Db) (call : ProjectorCall) : Nat :=
  db.lastRead call.now (db.projectorStart call.now) call.batch

/-- One call moves the state from the cursor it starts at to the one it leaves. -/
theorem project_projected (hlog : Agrees log db)
    (hstored : ∀ t, db.get t .analyticsProjectorCursor = db.get call.now .analyticsProjectorCursor)
    (h₀ : c₀ ≤ db.projectorStart call.now)
    (hat : ProjectedAt log c₀ (db.projectorStart call.now) db)
    (h : projectAnalyticsEvents db call = .ok (r, ws)) :
    (∀ t, (commit call.now db ws).get t .analyticsProjectorCursor = some (projectorEnd db call)) ∧
      ProjectedAt log c₀ (projectorEnd db call) (commit call.now db ws) := by
  obtain ⟨events, hevents, hcase⟩ := projectAnalyticsEvents_ok h
  obtain ⟨hes, hseq⟩ := Db.events_eq_ok hlog hevents
  have hle : db.projectorStart call.now ≤ projectorEnd db call := Db.le_lastRead db _ _ _
  rcases hcase with hidle | hws
  · -- nothing was due: the cursor is stored and stays
    obtain ⟨hnil, hsome, rfl⟩ := hidle
    obtain ⟨c, hc⟩ := Option.isSome_iff_exists.mp hsome
    have hstart : db.projectorStart call.now = c := by
      unfold Db.projectorStart
      rw [hc]; rfl
    have hend : db.projectorStart call.now = projectorEnd db call :=
      logSlice_eq_nil log hle (hes.symm.trans hnil)
    rw [← hend]
    exact ⟨fun t => by rw [commit_nil, hstored t, hc, hstart], hat⟩
  · constructor
    · intro t
      rw [get_cursor_commit hws hstored]
      congr 1
      by_cases hlast : db.projectorStart call.now < projectorEnd db call
      · rw [hes]
        show ((logSlice log _ (projectorEnd db call)).getLast?.map AuthEvent.sequence).getD _ = _
        rw [getLast?_logSlice log hlast, Option.map_some, Option.getD_some]
        exact hseq _ hlast (Nat.le_refl _)
      · have hend : projectorEnd db call = db.projectorStart call.now := by omega
        rw [hes]
        show ((logSlice log _ (projectorEnd db call)).getLast?.map AuthEvent.sequence).getD _ = _
        rw [hend, logSlice_self]; rfl
    · intro t start
      -- what is stored under the key at `t` has the counters of what the call read
      have hread : (db.get t (.analyticsBucket start)).map counters =
          (db.get call.now (.analyticsBucket start)).map counters := by
        rw [hat t start, hat call.now start]
      have hview : ((touchedBuckets db call.now events).2[start]?.or
            (db.get t (.analyticsBucket start))).map counters =
          (view db call.now (touchedBuckets db call.now events).2 start).map counters := by
        unfold view
        rw [Option.map_or, Option.map_or, hread]
      rw [get_bucket_commit hws (keyed_touched hat call.now events), hview, counters_touched,
        hat call.now start, projected_advance log start h₀ hle, hes]
      rfl

/-! ## The system -/

/-- The keys the projection rests on. -/
def OfProjection : Key → Bool
  | .event _ => true
  | .eventSequence => true
  | .eventMinSequence => true
  | .analyticsProjectorCursor => true
  | .analyticsBucket _ => true
  | _ => false

/-- What happens to the database: appends, retention, calls of the projector (whose batch
    the store may refuse), and writes of other parts of the service. -/
inductive ProjectionOp
  | append (tenantId : String) (now : Nat) (inputs : List EventInput)
  | prune (now cutoff maximum : Nat)
  | project (call : ProjectorCall) (accepted : Bool)
  | other (now : Nat) (writes : List Write)

/-- The log is the whole history, so an append adds the events it has at the next numbers.
    An operation that fails leaves the database as it was. -/
def projectionStep (log : Nat → AuthEvent) (db : Db) : ProjectionOp → Option Db
  | .append tenantId now inputs =>
      match db.appendEvents tenantId now inputs with
      | .ok (events, writes) =>
          if ∀ event ∈ events, log event.sequence = event then some (commit now db writes) else none
      | .error _ => some db
  | .prune now cutoff maximum =>
      match db.pruneEventsOlderThan now cutoff maximum with
      | .ok (_, writes) => some (commit now db writes)
      | .error _ => some db
  | .project call accepted => some (runProjection db call accepted).2
  | .other now writes =>
      if ∀ w ∈ writes, ¬ OfProjection w.key then some (commit now db writes) else none

def ProjectionStep (log : Nat → AuthEvent) (db : Db) (op : ProjectionOp) (db' : Db) : Prop :=
  projectionStep log db op = some db'

theorem agreesAt_of_ne (log : Nat → AuthEvent) {k : Key} (h : ∀ n, k ≠ .event n) (v : Value k) :
    AgreesAt log k v := by
  unfold AgreesAt
  split
  · exact absurd rfl (h _)
  · trivial

/-- A command for another key than an event's cannot disagree with the log. -/
theorem stores_of_key_ne (log : Nat → AuthEvent) {w : Write} (h : ∀ n, w.key ≠ .event n) :
    w.Stores (AgreesAt log) := by
  cases w with
  | set k v => exact agreesAt_of_ne log h v
  | setEx k v s => exact agreesAt_of_ne log h v
  | setKeep k v => exact agreesAt_of_ne log h v
  | del k => trivial

/-- The projection is exact: the database agrees with the log, and every bucket is the one
    the log determines at the stored cursor. -/
structure Exact (log : Nat → AuthEvent) (c₀ : Nat) (db : Db) : Prop where
  agrees : Agrees log db
  cursor : ∃ c, c₀ ≤ c ∧ (∀ t, db.get t .analyticsProjectorCursor = some c) ∧
    ProjectedAt log c₀ c db

/-- Writes that touch neither the cursor nor a bucket keep the projection exact, as long
    as the events they store are the log's. -/
theorem Exact.commit_other (h : Exact log c₀ db) (now : Nat)
    (hstores : ∀ w ∈ ws, w.Stores (AgreesAt log))
    (hcursor : ∀ w ∈ ws, w.key ≠ .analyticsProjectorCursor)
    (hbucket : ∀ w ∈ ws, ∀ start, w.key ≠ .analyticsBucket start) :
    Exact log c₀ (commit now db ws) where
  agrees := forall_get_commit now ws db hstores h.agrees
  cursor := by
    obtain ⟨c, h₀, hc, hat⟩ := h.cursor
    refine ⟨c, h₀, ?_, ?_⟩
    · intro t
      rw [get_commit_of_forall_ne now t ws _ db fun w hw => (hcursor w hw).symm]
      exact hc t
    · intro t start
      rw [get_commit_of_forall_ne now t ws _ db fun w hw => (hbucket w hw start).symm]
      exact hat t start

theorem agrees_project (hlog : Agrees log db) (h : projectAnalyticsEvents db call = .ok (r, ws)) :
    Agrees log (commit call.now db ws) := by
  apply forall_get_commit _ _ _ _ hlog
  intro w hw
  apply stores_of_key_ne
  intro n hkey
  obtain ⟨events, _, ⟨_, _, rfl⟩ | hws⟩ := projectAnalyticsEvents_ok h
  · cases hw
  · rcases hws.only w hw with ⟨b, _, rfl⟩ | hout | hcur
    · cases hkey
    · rw [hkey] at hout
      exact hout.elim
    · rcases mem_cursorWrites hcur with hk | hk
      · rw [hkey] at hk; cases hk
      · rw [hkey] at hk; cases hk

theorem runProjection_eq (db : Db) (call : ProjectorCall) (accepted : Bool) :
    (runProjection db call accepted).2 = db ∨
      ∃ r ws, projectAnalyticsEvents db call = .ok (r, ws) ∧
        (runProjection db call accepted).2 = commit call.now db ws := by
  unfold runProjection
  split
  · exact Or.inl rfl
  · next r ws h =>
    split
    · exact Or.inr ⟨r, ws, h, rfl⟩
    · exact Or.inl rfl

theorem Exact.project (h : Exact log c₀ db) (hcall : projectAnalyticsEvents db call = .ok (r, ws)) :
    Exact log c₀ (commit call.now db ws) where
  agrees := agrees_project h.agrees hcall
  cursor := by
    obtain ⟨c, h₀, hc, hat⟩ := h.cursor
    have hstart : db.projectorStart call.now = c := by
      unfold Db.projectorStart
      rw [hc]; rfl
    have hstored : ∀ t, db.get t .analyticsProjectorCursor =
        db.get call.now .analyticsProjectorCursor := fun t => (hc t).trans (hc call.now).symm
    rw [← hstart] at h₀ hat
    obtain ⟨hcursor, hat'⟩ := project_projected h.agrees hstored h₀ hat hcall
    have hle : db.projectorStart call.now ≤ projectorEnd db call := Db.le_lastRead db _ _ _
    exact ⟨projectorEnd db call, by omega, hcursor, hat'⟩

/-- Every step of the system keeps the projection exact. -/
theorem step_exact (db : Db) (op : ProjectionOp) (db' : Db) (h : Exact log c₀ db)
    (hstep : ProjectionStep log db op db') : Exact log c₀ db' := by
  unfold ProjectionStep at hstep
  cases op with
  | append tenantId now inputs =>
    unfold projectionStep at hstep
    dsimp only at hstep
    split at hstep
    · next events ws happend =>
      split at hstep
      · next hevents =>
        rw [← Option.some.inj hstep, Db.appendEvents_writes happend]
        refine h.commit_other now ?_ ?_ ?_
        · intro w hw
          rcases Db.mem_queueEvents hw with ⟨event, hevent, rfl⟩ | ⟨n, rfl⟩
          · exact (hevents event hevent).symm
          · trivial
        · intro w hw
          rcases Db.mem_queueEvents hw with ⟨event, _, rfl⟩ | ⟨n, rfl⟩ <;> exact Key.noConfusion
        · intro w hw start
          rcases Db.mem_queueEvents hw with ⟨event, _, rfl⟩ | ⟨n, rfl⟩ <;> exact Key.noConfusion
      · cases hstep
    · rw [← Option.some.inj hstep]
      exact h
  | prune now cutoff maximum =>
    unfold projectionStep at hstep
    dsimp only at hstep
    split at hstep
    · next r ws hprune =>
      rw [← Option.some.inj hstep]
      refine h.commit_other now ?_ ?_ ?_
      · intro w hw
        rcases Db.mem_pruneEvents hprune hw with ⟨n, _, rfl⟩ | ⟨n, rfl⟩ <;> trivial
      · intro w hw
        rcases Db.mem_pruneEvents hprune hw with ⟨n, _, rfl⟩ | ⟨n, rfl⟩ <;> exact Key.noConfusion
      · intro w hw start
        rcases Db.mem_pruneEvents hprune hw with ⟨n, _, rfl⟩ | ⟨n, rfl⟩ <;> exact Key.noConfusion
    · rw [← Option.some.inj hstep]
      exact h
  | project call accepted =>
    rw [← Option.some.inj hstep]
    rcases runProjection_eq db call accepted with heq | ⟨r, ws, hcall, heq⟩
    · rw [heq]
      exact h
    · rw [heq]
      exact h.project hcall
  | other now ws =>
    unfold projectionStep at hstep
    dsimp only at hstep
    split at hstep
    · next hother =>
      rw [← Option.some.inj hstep]
      refine h.commit_other now ?_ ?_ ?_
      · intro w hw
        exact stores_of_key_ne log fun n hkey => hother w hw (by rw [hkey]; rfl)
      · intro w hw hkey
        exact hother w hw (by rw [hkey]; rfl)
      · intro w hw start hkey
        exact hother w hw (by rw [hkey]; rfl)
    · cases hstep

theorem runProjection_ok (h : runProjection db call true = (.ok r, db')) :
    ∃ ws, projectAnalyticsEvents db call = .ok (r, ws) ∧ db' = commit call.now db ws := by
  unfold runProjection at h
  split at h
  · cases h
  · next r' ws hcall =>
    rw [if_pos (Or.inl rfl), Prod.mk.injEq, Except.ok.injEq] at h
    obtain ⟨rfl, rfl⟩ := h
    exact ⟨ws, hcall, rfl⟩

/-- A call that returns an error has changed nothing. -/
theorem runProjection_error {accepted : Bool} {e : ProjectionError}
    (h : (runProjection db call accepted).1 = .error e) :
    (runProjection db call accepted).2 = db := by
  unfold runProjection at h ⊢
  split
  · rfl
  · next r ws hcall =>
    simp only [hcall] at h
    split at h
    · cases h
    · next hrefused => rw [if_neg hrefused]

/-- The first call makes the projection exact, starting from where it started reading. -/
theorem exact_first (hlog : Agrees log db)
    (hstored : ∀ t, db.get t .analyticsProjectorCursor = db.get call.now .analyticsProjectorCursor)
    (hfresh : ∀ t start, db.get t (.analyticsBucket start) = none)
    (h : runProjection db call true = (.ok r, db')) :
    Exact log (db.projectorStart call.now) db' := by
  obtain ⟨ws, hcall, rfl⟩ := runProjection_ok h
  have hat : ProjectedAt log (db.projectorStart call.now) (db.projectorStart call.now) db := by
    intro t start
    rw [hfresh, projected_self]; rfl
  obtain ⟨hcursor, hat'⟩ := project_projected hlog hstored (Nat.le_refl _) hat hcall
  exact ⟨agrees_project hlog hcall, projectorEnd db call, Db.le_lastRead db _ _ _, hcursor, hat'⟩

theorem run_exact {ops : List ProjectionOp} (h : Exact log c₀ db)
    (hrun : Run (ProjectionStep log) db ops db') : Exact log c₀ db' :=
  hrun.invariant (fun db op db' hdb hstep => step_exact db op db' hdb hstep) h

/-- Two exact databases at one cursor have the same counters. -/
theorem Exact.counters_eq (h : Exact log c₀ db) (h' : Exact log c₀ db')
    (hcursor : ∃ t, db.get t .analyticsProjectorCursor = db'.get t .analyticsProjectorCursor)
    (t start : Nat) :
    (db.get t (.analyticsBucket start)).map counters =
      (db'.get t (.analyticsBucket start)).map counters := by
  obtain ⟨c, _, hc, hat⟩ := h.cursor
  obtain ⟨c', _, hc', hat'⟩ := h'.cursor
  obtain ⟨s, hs⟩ := hcursor
  rw [hc, hc', Option.some.injEq] at hs
  rw [hat, hat', hs]

/-- Exactly-once projection.  Take any event log, any database that agrees with it and has
    no buckets yet, the first call of the projector, and any run after it: calls with any
    limits and clock, whose batches the store may refuse, appends, retention and writes of
    other parts.  Then
    * at the stored cursor `c` every stored bucket is, up to `closed` and `revision`, the
      left fold of `apply` over exactly the events numbered in `(c₀, c]` that fall into it;
    * another way to cut the log into calls that reaches the same cursor from the same
      `c₀` has the same counters;
    * a call that fails, be it at its commit, changes nothing. -/
theorem projection_exactly_once (log : Nat → AuthEvent) {db₁ db₂ db : Db} {call : ProjectorCall}
    {r : ProjectionResult} {ops : List ProjectionOp} (hlog : Agrees log db₁)
    (hstored : ∀ t,
      db₁.get t .analyticsProjectorCursor = db₁.get call.now .analyticsProjectorCursor)
    (hfresh : ∀ t start, db₁.get t (.analyticsBucket start) = none)
    (hfirst : runProjection db₁ call true = (.ok r, db₂))
    (hrun : Run (ProjectionStep log) db₂ ops db) :
    (∃ c, db₁.projectorStart call.now ≤ c ∧
      (∀ t, db.get t .analyticsProjectorCursor = some c) ∧
      ∀ t start, (db.get t (.analyticsBucket start)).map counters =
        projected log (db₁.projectorStart call.now) c start) ∧
    (∀ (call' : ProjectorCall) (r' : ProjectionResult) (db₂' db' : Db) (ops' : List ProjectionOp),
      db₁.projectorStart call'.now = db₁.projectorStart call.now →
      runProjection db₁ call' true = (.ok r', db₂') →
      Run (ProjectionStep log) db₂' ops' db' →
      (∃ t, db.get t .analyticsProjectorCursor = db'.get t .analyticsProjectorCursor) →
      ∀ t start, (db.get t (.analyticsBucket start)).map counters =
        (db'.get t (.analyticsBucket start)).map counters) ∧
    ∀ (call' : ProjectorCall) (accepted : Bool) (e : ProjectionError),
      (runProjection db call' accepted).1 = .error e → (runProjection db call' accepted).2 = db := by
  have hexact := run_exact (exact_first hlog hstored hfresh hfirst) hrun
  refine ⟨hexact.cursor, ?_, fun _ _ _ herr => runProjection_error herr⟩
  intro call' r' db₂' db' ops' hstart hfirst' hrun' hcursor t start
  have hstored' : ∀ t, db₁.get t .analyticsProjectorCursor =
      db₁.get call'.now .analyticsProjectorCursor :=
    fun t => (hstored t).trans (hstored call'.now).symm
  have hexact' := run_exact (exact_first hlog hstored' hfresh hfirst') hrun'
  rw [hstart] at hexact'
  exact hexact.counters_eq hexact' hcursor t start

/-! ## A run -/

/-- Two events of one bucket and one of the next. -/
def sampleInput (n : Nat) : EventInput :=
  match n with
  | 1 => ⟨1, "registration.options.started", none, emptyEventData⟩
  | 2 => ⟨2, "authentication.completed", some 9, ⟨none, [], some 12, none, none⟩⟩
  | _ => ⟨3, "session.created", some 9, emptyEventData⟩

def sampleLog (n : Nat) : AuthEvent where
  sequence := n
  id := (sampleInput n).id
  tenantId := "realm"
  eventType := (sampleInput n).eventType
  subject := (sampleInput n).subject
  occurredAt := if n ≤ 2 then 1000 else 1300
  data := (sampleInput n).data

def sampleProjectorCall (limit now : Nat) : ProjectorCall := ⟨"realm", limit, now, fun _ => 7⟩

/-- The second bucket closes after the first events were pruned. -/
def sampleProjectionOps : List ProjectionOp :=
  [.append "realm" 1000 [sampleInput 1, sampleInput 2], .project (sampleProjectorCall 1 1001) true,
    .append "realm" 1300 [sampleInput 3], .project (sampleProjectorCall 10 1301) false,
    .project (sampleProjectorCall 10 1500) true, .prune 1600 1200 10,
    .project (sampleProjectorCall 10 2000) true]

theorem projection_exactly_once_sample :
    ∃ db, Run (ProjectionStep sampleLog) (runProjection Keyspace.empty (sampleProjectorCall 1 999)
        true).2 sampleProjectionOps db ∧
      ∃ c, (∀ t, db.get t .analyticsProjectorCursor = some c) ∧
        ∀ t start, (db.get t (.analyticsBucket start)).map counters =
          projected sampleLog 0 c start := by
  have hfirst : runProjection Keyspace.empty (sampleProjectorCall 1 999) true =
      (.ok ⟨0, 0, 0, 0⟩, (runProjection Keyspace.empty (sampleProjectorCall 1 999) true).2) :=
    Prod.ext (by decide +kernel) rfl
  have hsome : (execAll (projectionStep sampleLog) (runProjection Keyspace.empty
      (sampleProjectorCall 1 999) true).2 sampleProjectionOps).isSome := by decide +kernel
  obtain ⟨db, hdb⟩ := Option.isSome_iff_exists.mp hsome
  have hrun : Run (ProjectionStep sampleLog) _ _ db := run_of_execAll (fun _ _ _ h => h) hdb
  have hlog : Agrees sampleLog Keyspace.empty := by
    intro k t v h
    rw [Keyspace.get_empty] at h
    cases h
  obtain ⟨c, _, hc, hat⟩ := (projection_exactly_once sampleLog hlog (fun _ => rfl)
    (fun _ _ => rfl) hfirst hrun).1
  exact ⟨db, hrun, c, hc, hat⟩

end RustyAuth
