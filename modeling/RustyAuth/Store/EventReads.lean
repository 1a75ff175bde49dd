/-
  A read of the event log among appends and retention.

  `events` accesses the store three times: for the first retained number, for the latest
  number, and for the records of the range.  Appends in between leave the range alone.  A
  retention can remove its beginning after the first access has let the cursor pass; the
  call then reports a missing event (`events_no_false_loss_iff`).
-/
import RustyAuth.Store.LogIntegrity

namespace RustyAuth

open RustyAuth.Library

/-! ## The three accesses -/

namespace Db

def checkCursor (db : Db) (now after : Nat) : Except EventLogError Unit :=
  ensure (db.minimumEventSequence now ≤ satAdd after 1) (.cursorExpired (db.minimumEventSequence now))

def rangeEnd (db : Db) (now after limit : Nat) : Nat :=
  min (db.latestEventSequence now) (satAdd after limit)

/-- One `MGET`. -/
def readRange (db : Db) (now after last : Nat) : Except EventLogError (List AuthEvent) :=
  (List.range' (after + 1) (last - after)).mapM (db.eventAt now)

end Db

/-- The states that the three accesses of a call meet. -/
structure EventReads where
  minimum : Meeting
  latest : Meeting
  range : Meeting

def EventReads.events (reads : EventReads) (after limit : Nat) :
    Except EventLogError (List AuthEvent) :=
  if limit = 0 then return []
  else do
    reads.minimum.db.checkCursor reads.minimum.now after
    reads.range.db.readRange reads.range.now after
      (reads.latest.db.rangeEnd reads.latest.now after limit)

/-- A caller that holds the mutation lock meets one state. -/
theorem EventReads.events_locked (met : Meeting) (after limit : Nat) :
    EventReads.events ⟨met, met, met⟩ after limit = met.db.events met.now after limit := rfl

/-- Methods of the running service lead from each access to the next. -/
structure EventReads.Interleaved (ctx : StoreContext) (reads : EventReads) : Prop where
  toLatest : ∃ calls, Run (Restrict (LogStep ctx) (LogReady ctx)) reads.minimum.db calls reads.latest.db
  toRange : ∃ calls, Run (Restrict (LogStep ctx) (LogReady ctx)) reads.latest.db calls reads.range.db

/-- The events after `after` up to the latest one, at most `limit`, or that the cursor is too
    old; never a loss. -/
def EventReads.Answers (reads : EventReads) (after limit : Nat) :
    Except EventLogError (List AuthEvent) → Prop
  | .ok events =>
      events.map AuthEvent.sequence = List.range' (after + 1)
        (min (after + limit) (reads.latest.db.latestEventSequence reads.latest.now) - after) ∧
      ∀ event ∈ events, reads.range.db.get reads.range.now (.event event.sequence) = some event
  | .error (.cursorExpired _) => True
  | .error _ => False

/-- If the call gets to read a range, its first event is still retained by then. -/
def EventReads.KeepsStart (reads : EventReads) (after limit : Nat) : Prop :=
  limit ≠ 0 → reads.minimum.db.minimumEventSequence reads.minimum.now ≤ satAdd after 1 →
    after < reads.latest.db.rangeEnd reads.latest.now after limit →
    reads.range.db.minimumEventSequence reads.range.now ≤ after + 1

section

variable {ctx : StoreContext} {db : Db} {m L now after last : Nat}

theorem Intact.eventAt (h : Intact db m L) (now : Nat) {n : Nat} (hm : m ≤ n) (hL : n ≤ L) :
    ∃ e, db.eventAt now n = .ok e ∧ e.sequence = n ∧ db.get now (.event n) = some e := by
  obtain ⟨e, he, hsequence⟩ := h.present now n hm hL
  exact ⟨e, Db.eventAt_eq_ok.mpr ⟨he, hsequence⟩, hsequence, he⟩

/-- The records of a range that is retained. -/
theorem Intact.readRange (h : Intact db m L) (now : Nat) (hm : m ≤ after + 1) (hL : last ≤ L) :
    ∃ events, db.readRange now after last = .ok events ∧
      events.map AuthEvent.sequence = List.range' (after + 1) (last - after) ∧
      ∀ event ∈ events, db.get now (.event event.sequence) = some event := by
  unfold Db.readRange
  generalize hcount : last - after = count
  have hend : after + count ≤ L ∨ count = 0 := by omega
  clear hcount hL
  induction count generalizing after with
  | zero => exact ⟨[], rfl, rfl, List.forall_mem_nil _⟩
  | succ count ih =>
    obtain ⟨e, heventAt, hsequence, hget⟩ := h.eventAt now hm (by omega)
    obtain ⟨events, hevents, hmap, hread⟩ := @ih (after + 1) (by omega) (by omega)
    refine ⟨e :: events, ?_, ?_, List.forall_mem_cons.mpr ⟨?_, hread⟩⟩
    · rw [List.range'_succ]
      exact (mapM_eq_ok _ _ _).mpr (.cons heventAt ((mapM_eq_ok _ _ _).mp hevents))
    · rw [List.map_cons, hmap, hsequence, List.range'_succ]
    · rw [hsequence]
      exact hget

/-- A range whose first event is gone. -/
theorem Intact.readRange_lost (h : Intact db m L) (hm : after + 1 < m) (hrange : after < last) :
    db.readRange now after last = .error (.missingSequence (after + 1)) := by
  obtain ⟨count, hcount⟩ : ∃ count, last - after = count + 1 := ⟨last - after - 1, by omega⟩
  have hgone : db.eventAt now (after + 1) = .error (.missingSequence (after + 1)) := by
    unfold Db.eventAt
    rw [h.absent now (after + 1) (by omega)]
    rfl
  unfold Db.readRange
  rw [hcount, List.range'_succ, List.mapM_cons, hgone]
  rfl

end

/-! ## Loss -/

section

variable {ctx : StoreContext} {reads : EventReads} {m L after limit : Nat}

theorem EventReads.Interleaved.intact (hreads : reads.Interleaved ctx)
    (h : Intact reads.minimum.db m L) :
    ∃ m' L', Intact reads.range.db m' L' ∧ reads.latest.db.latestEventSequence reads.latest.now ≤ L' := by
  obtain ⟨_, hrun⟩ := hreads.toLatest
  obtain ⟨m₁, L₁, h₁, _, _⟩ := run_intact hrun h
  obtain ⟨_, hrun'⟩ := hreads.toRange
  obtain ⟨m₂, L₂, h₂, hle, _⟩ := run_intact hrun' h₁
  refine ⟨m₂, L₂, h₂, ?_⟩
  rw [h₁.latest]
  exact hle

theorem EventReads.events_of_checked (hlimit : limit ≠ 0)
    (hcursor : reads.minimum.db.minimumEventSequence reads.minimum.now ≤ satAdd after 1) :
    reads.events after limit = reads.range.db.readRange reads.range.now after
      (reads.latest.db.rangeEnd reads.latest.now after limit) := by
  unfold EventReads.events Db.checkCursor ensure
  rw [if_neg hlimit, if_pos hcursor]
  rfl

theorem EventReads.events_of_expired (hlimit : limit ≠ 0)
    (hcursor : ¬reads.minimum.db.minimumEventSequence reads.minimum.now ≤ satAdd after 1) :
    reads.events after limit =
      .error (.cursorExpired (reads.minimum.db.minimumEventSequence reads.minimum.now)) := by
  unfold EventReads.events Db.checkCursor ensure
  rw [if_neg hlimit, if_neg hcursor]
  rfl

/-- Within `u64` the end of the range saturates nowhere that matters. -/
theorem rangeEnd_sub {db : Db} {now : Nat} (after limit : Nat) (hfits : db.latestEventSequence now ≤ u64Max) :
    db.rangeEnd now after limit - after =
      min (after + limit) (db.latestEventSequence now) - after := by
  unfold Db.rangeEnd satAdd
  omega

theorem EventReads.answers_iff (hreads : reads.Interleaved ctx) (h : Intact reads.minimum.db m L) :
    reads.Answers after limit (reads.events after limit) ↔ reads.KeepsStart after limit := by
  obtain ⟨m', L', hrange, hlatest⟩ := hreads.intact h
  have hfits := Nat.le_trans hlatest hrange.fits
  have hend : reads.latest.db.rangeEnd reads.latest.now after limit ≤ L' :=
    Nat.le_trans (Nat.min_le_left _ _) hlatest
  have hcount := rangeEnd_sub after limit hfits
  by_cases hlimit : limit = 0
  · subst hlimit
    have hnone : min (after + 0) (reads.latest.db.latestEventSequence reads.latest.now) - after = 0 := by
      omega
    refine iff_of_true ⟨?_, List.forall_mem_nil _⟩ fun hne => absurd rfl hne
    rw [hnone]
    rfl
  by_cases hcursor : reads.minimum.db.minimumEventSequence reads.minimum.now ≤ satAdd after 1
  · rw [EventReads.events_of_checked hlimit hcursor]
    by_cases hstart : m' ≤ after + 1
    · obtain ⟨events, hevents, hmap, hread⟩ := hrange.readRange reads.range.now hstart hend
      rw [hevents]
      refine iff_of_true ⟨by rw [← hcount]; exact hmap, hread⟩ fun _ _ _ => ?_
      rw [hrange.minimum]
      exact hstart
    · by_cases hempty : after < reads.latest.db.rangeEnd reads.latest.now after limit
      · rw [hrange.readRange_lost (by omega) hempty]
        refine iff_of_false id fun hkeeps => hstart ?_
        rw [← hrange.minimum reads.range.now]
        exact hkeeps hlimit hcursor hempty
      · have hnone : reads.latest.db.rangeEnd reads.latest.now after limit - after = 0 := by omega
        refine iff_of_true ?_ fun _ _ hne => absurd hne hempty
        unfold Db.readRange
        rw [hnone]
        refine ⟨?_, List.forall_mem_nil _⟩
        rw [← hcount, hnone]
        rfl
  · rw [EventReads.events_of_expired hlimit hcursor]
    exact iff_of_true trivial fun _ hok => absurd hok hcursor

end

/-- A call loses nothing exactly if the beginning of what it reads is not removed meanwhile;
    a caller that holds the mutation lock, as the projector does, never loses anything. -/
theorem events_no_false_loss_iff (ctx : StoreContext) (after limit : Nat) :
    (∀ (reads : EventReads) m L, Intact reads.minimum.db m L → reads.Interleaved ctx →
      (reads.Answers after limit (reads.events after limit) ↔ reads.KeepsStart after limit)) ∧
    ∀ (met : Meeting) m L, Intact met.db m L →
      EventReads.Answers ⟨met, met, met⟩ after limit (met.db.events met.now after limit) := by
  refine ⟨fun reads m L h hreads => EventReads.answers_iff hreads h, fun met m L h => ?_⟩
  have hreads : EventReads.Interleaved ctx ⟨met, met, met⟩ := ⟨⟨[], .nil _⟩, [], .nil _⟩
  rw [← EventReads.events_locked]
  refine (EventReads.answers_iff hreads h).mpr fun _ hcursor _ => ?_
  exact Nat.le_trans hcursor (Nat.min_le_left _ _)

/-! ### Sample reads -/

def appendedLog : Db := storeRun sampleStore [sampleAppend]
def prunedLog : Db := storeRun sampleStore [sampleAppend, samplePrune]

theorem run_append : Run (Restrict (LogStep sampleStore) (LogReady sampleStore)) Keyspace.empty
    [wholeCall sampleStore Keyspace.empty sampleAppend] appendedLog :=
  .cons ⟨⟨trivial, Or.inr ⟨sampleLogInputs, rfl⟩⟩, logStep_wholeCall _ _ _⟩ (.nil _)

theorem run_prune : Run (Restrict (LogStep sampleStore) (LogReady sampleStore)) appendedLog
    [wholeCall sampleStore appendedLog samplePrune] prunedLog := by
  refine .cons ⟨fun hexhausts => ?_, logStep_wholeCall _ _ _⟩ (.nil _)
  exact absurd hexhausts.2.1 (by decide +kernel)

/-- A call that reads the log from its start while retention removes the first event. -/
def overtakenReads : EventReads := ⟨⟨appendedLog, 500⟩, ⟨appendedLog, 500⟩, ⟨prunedLog, 500⟩⟩

/-- A call during which the two events are appended. -/
def appendedReads : EventReads := ⟨⟨Keyspace.empty, 99⟩, ⟨appendedLog, 100⟩, ⟨appendedLog, 100⟩⟩

theorem retention_reported_as_loss : (∃ m L, Intact overtakenReads.minimum.db m L) ∧
    overtakenReads.Interleaved sampleStore ∧
    overtakenReads.events 0 100 = .error (.missingSequence 1) ∧
    ¬overtakenReads.Answers 0 100 (overtakenReads.events 0 100) := by
  have hlost : overtakenReads.events 0 100 = .error (.missingSequence 1) := by decide +kernel
  obtain ⟨m, L, h, _⟩ := run_intact run_append intact_empty
  refine ⟨⟨m, L, h⟩, ⟨⟨[], .nil _⟩, _, run_prune⟩, hlost, ?_⟩
  rw [hlost]
  exact id

theorem events_no_false_loss_sample : appendedReads.Interleaved sampleStore ∧
    appendedReads.KeepsStart 0 100 ∧
    appendedReads.Answers 0 100 (appendedReads.events 0 100) := by
  have hreads : appendedReads.Interleaved sampleStore := ⟨⟨_, run_append⟩, [], .nil _⟩
  have hkeeps : appendedReads.KeepsStart 0 100 := fun _ _ _ => by decide +kernel
  exact ⟨hreads, hkeeps,
    ((events_no_false_loss_iff sampleStore 0 100).1 appendedReads 1 0 intact_empty hreads).mpr hkeeps⟩

end RustyAuth
