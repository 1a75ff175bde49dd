/-
  Every export is a consistent cut.

  While the export holds the gate the part of the database that it includes stands still, unless an
  operation that does not take the gate writes to it (`ungatedDurable` has all of those) or one of
  its records lapses.  Where it stands still, what is exported is that part as it was when the gate
  was taken, and then no operation that takes the gate was under way.  An operation that has failed
  between two of its commands is half done all the same, and so is a remote mutation whose receipt
  is pending; `Orderly` says that there are none.
-/
import RustyAuth.Backup.Export
import RustyAuth.Backup.KeyTables

namespace RustyAuth

open RustyAuth.Library

/-- A backup takes the key. -/
def Key.Included (key : Key) : Prop := snapshotKeyPolicy key.text = .ok .include

instance (key : Key) : Decidable key.Included :=
  match h : snapshotKeyPolicy key.text with
  | .ok .include => .isTrue h
  | .ok .exclude => .isFalse fun heq => nomatch h.symm.trans heq
  | .error _ => .isFalse fun heq => nomatch h.symm.trans heq

/-- The methods that write what a backup takes, and do not take the gate. -/
def StoreOp.ungatedDurable : StoreOp → Bool
  | .realm (.updateWebhookRuntime _ _) => true
  | .realm (.setWebhookCursor _ _) => true
  | .telemetry (.quarantineFleetAnalyticsBucket _ _) => true
  | .telemetry (.recordFleetAnalyticsIngestion _ _ _) => true
  | .telemetry (.recordFleetAnalyticsMaintenance _ _ _) => true
  | .telemetry (.registerFleetAnalyticsManifest _ _) => true
  | .telemetry (.acknowledgeTelemetryBucket _ _) => true
  | .claimRemoteMutation _ _ => true
  | .completeRemoteMutation _ _ _ _ => true
  | _ => false

/-- Every command of the operation was sent, or none. -/
def Running.Whole (task : Running) : Prop :=
  task.sent = 0 ∨ ∃ planned ∈ task.planned, planned.length ≤ task.sent

/-- The key is not the receipt of a remote mutation that is under way. -/
def settledReceipt (db : Db) (now : Nat) : Key → Bool
  | .remoteMutation id => (db.get now (.remoteMutation id)).all (·.state = .completed)
  | _ => true

/-- While the gate is held, none of those methods sends a command, and no record that a backup takes
    lapses.  It is taken when no remote mutation is under way, and operations give it up with all of
    their commands sent, or none. -/
def Orderly (s : ExportState) : ExportInput → Prop
  | .tick now => s.phase.holdsGate = true →
      ∀ key ∈ s.db.keys s.clock, key.Included → (s.db.get now key).isSome = true
  | .send i _ => s.phase.holdsGate = true → ∀ task ∈ s.running[i]?, task.op.ungatedDurable = false
  | .finish i => ∀ task ∈ s.running[i]?, task.op.takesGate = true → task.Whole
  | .acquire => ∀ key ∈ s.db.keys s.clock, settledReceipt s.db s.clock key = true
  | _ => True

instance (s : ExportState) (input : ExportInput) : Decidable (Orderly s input) := by
  cases input <;> unfold Orderly <;> try unfold Running.Whole
  all_goals infer_instance

/-- What is exported is the part of the database that a backup takes; no operation that takes the
    gate is under way, those that have ended have sent all their commands or none, and no receipt
    is without its outcome. -/
structure ConsistentCut (ctx : ExportContext) (cut : ExportState) (records : List StoreRecord) :
    Prop where
  settled : ∀ task ∈ cut.running, task.op.takesGate = false
  whole : ∀ task ∈ cut.ended, task.op.takesGate = true → task.sent = 0 ∨
    ∃ db now, task.planned = some (task.op.commands ctx.store db now) ∧
      (task.op.commands ctx.store db now).length ≤ task.sent
  receipts : ∀ id receipt, cut.db.get cut.clock (.remoteMutation id) = some receipt →
    receipt.state = .completed
  exact : ∀ text value, (∃ expiresAt, ⟨text, value, expiresAt⟩ ∈ records) ↔
    ∃ key v, key.Included ∧ cut.db.get cut.clock key = some v ∧ key.text = text ∧
      ctx.encode key v = value

/-! ## What the gate leaves out -/

/-- Every key has one of the three prefixes. -/
theorem managed_key (key : Key) :
    ∃ pattern ∈ managedPatterns, startsWith key.text pattern = true := by
  have hheads : ∀ entry ∈ keyHeads, managedPatterns.any (startsWith entry.1) = true := by
    decide +kernel
  obtain ⟨pattern, hpattern, hstarts⟩ := List.any_eq_true.mp (hheads _ (mem_keyHeads key))
  refine ⟨pattern, hpattern, ?_⟩
  obtain ⟨rest, hrest⟩ := (startsWith_iff _ _).mp hstarts
  rw [startsWith_iff, Key.text]
  refine ⟨rest ++ key.form.2.getD "", ?_⟩
  rw [← String.append_assoc]
  exact congrArg (· ++ key.form.2.getD "") hrest

variable {key : Key} {keys : List Key} {read : List (Key × Option String)}
  {records : List StoreRecord} {phase : ExportPhase} {capturedAt i : Nat} {task : Running}
  {input : ExportInput} {s' : ExportState}

theorem not_included_of_excluded (h : key.lifetime = .excluded) : ¬ key.Included := by
  intro hincluded
  unfold Key.Included at hincluded
  by_cases hnamed : key.Named
  · rw [Key.policy_text hnamed, h] at hincluded
    cases hincluded
  · -- the text is the head alone
    have hheads : ∀ entry ∈ keyHeads, entry.2.1 = .excluded →
        snapshotKeyPolicy entry.1 ≠ .ok .include := by decide +kernel
    rw [Key.text, not_not.mp hnamed, Option.getD_some, String.append_empty] at hincluded
    exact hheads _ (mem_keyHeads key) h hincluded

/-- An operation that does not take the gate writes keys that no backup takes, those of
    `ungatedDurable` apart. -/
theorem excluded_of_ungated (ctx : StoreContext) (db : Db) (now : Nat) {op : StoreOp}
    (hgate : op.takesGate = false) (hdurable : op.ungatedDurable = false) :
    ∀ w ∈ op.commands ctx db now, w.key.lifetime = .excluded := by
  cases op with
  | account op =>
    cases op <;> first | exact Bool.noConfusion hgate | exact List.forall_mem_singleton.mpr rfl
  | session op =>
    cases op with
    | touchSessions touches =>
      intro w hw
      obtain ⟨touch, _, rfl⟩ := List.mem_map.mp hw
      rfl
    | _ => exact Bool.noConfusion hgate
  | realm op => cases op <;> first | exact Bool.noConfusion hgate | exact Bool.noConfusion hdurable
  | telemetry op =>
    cases op with
    | consumeFleetAnalyticsQuota connectionId batchId minute used outcome =>
      simp [StoreOp.commands, TelemetryOp.commands, Command.key, Key.lifetime]
    | cacheFleetOperationalSnapshot connectionId record => exact List.forall_mem_singleton.mpr rfl
    | _ => first | exact Bool.noConfusion hgate | exact Bool.noConfusion hdurable
  | maintenance op =>
    cases op <;> first | exact Bool.noConfusion hgate | exact List.forall_mem_singleton.mpr rfl
  | claimRemoteMutation requestId digest => exact Bool.noConfusion hdurable
  | completeRemoteMutation requestId digest succeeded summary => exact Bool.noConfusion hdurable
  | _ => exact Bool.noConfusion hgate

/-! ## What the export has read -/

section Reading

variable (ctx : ExportContext) (cut : ExportState)

/-- What a backup takes is as it was at the cut. -/
def SameIncluded (s : ExportState) : Prop :=
  ∀ key : Key, key.Included → s.db.entry s.clock key = cut.db.entry cut.clock key

/-- The keys that the scans have not returned are still to come. -/
def Scanned (patterns : List String) (owed found : List Key) : Prop :=
  ∀ key entry, key.Included → cut.db.entry cut.clock key = some entry →
    key ∈ found ∨ key ∈ owed ∨ ∃ next ∈ patterns.tail, startsWith key.text next = true

/-- The record of a key, with the time that remained to it when `TTL` was asked. -/
def recordAt (capturedAt readAt : Nat) (key : Key) (entry : Entry (Value key)) : StoreRecord :=
  ⟨key.text, ctx.encode key entry.value,
    entry.deadline.map fun deadline => satAdd capturedAt (deadline - readAt)⟩

def ReadFromCut (capturedAt clock : Nat) (record : StoreRecord) : Prop :=
  ∃ key entry readAt, key.Included ∧ cut.db.entry cut.clock key = some entry ∧
    capturedAt ≤ readAt ∧ readAt ≤ clock ∧ record = recordAt ctx capturedAt readAt key entry

structure Captured (capturedAt clock : Nat) (keys : List Key) (read : List (Key × Option String))
    (records : List StoreRecord) : Prop where
  included : ∀ key ∈ keys, key.Included
  values : ∀ entry ∈ read, entry.1.Included ∧
    entry.2 = (cut.db.get cut.clock entry.1).map (ctx.encode entry.1)
  recorded : ∀ record ∈ records, ReadFromCut ctx cut capturedAt clock record
  complete : ∀ key entry, key.Included → cut.db.entry cut.clock key = some entry →
    key ∈ keys ∨ key ∈ read.map Prod.fst ∨
      ∃ record ∈ records, record.key = key.text ∧ record.value = ctx.encode key entry.value

def PhaseCaptured (clock : Nat) : ExportPhase → Prop
  | .waiting => False
  | .scanning capturedAt patterns owed found => capturedAt ≤ clock ∧ Scanned cut patterns owed found
  | .reading capturedAt unread read later records =>
      capturedAt ≤ clock ∧ Captured ctx cut capturedAt clock (unread ++ later) read records
  | .exported capturedAt records => Captured ctx cut capturedAt clock [] [] records
  | .failed _ => True

end Reading

variable {ctx : ExportContext} {cut s : ExportState}

theorem mem_includedKeys {included : List Key} (h : includedKeys keys = .ok included) (key : Key) :
    key ∈ included ↔ key ∈ keys ∧ key.Included := by
  induction keys generalizing included with
  | nil =>
    cases h
    simp
  | cons head keys ih =>
    simp only [includedKeys, bind_eq_ok, pure_eq_ok] at h
    obtain ⟨policy, hpolicy, rest, hrest, rfl⟩ := h
    have hhead : head.Included ↔ policy = .include := by simp [Key.Included, hpolicy]
    have hih := ih hrest
    by_cases hinclude : policy = .include
    · rw [if_pos hinclude, List.mem_cons, List.mem_cons, hih, or_and_right]
      exact or_congr_left ⟨fun heq => ⟨heq, heq ▸ hhead.mpr hinclude⟩, And.left⟩
    · rw [if_neg hinclude, hih, List.mem_cons, or_and_right]
      exact ⟨Or.inr, fun hor => hor.resolve_left fun h => hinclude (hhead.mp (h.1 ▸ h.2))⟩

section Later

variable {capturedAt clock clock' : Nat} (hclock : clock ≤ clock')

include hclock

theorem Captured.later (h : Captured ctx cut capturedAt clock keys read records) :
    Captured ctx cut capturedAt clock' keys read records := by
  refine ⟨h.included, h.values, ?_, h.complete⟩
  intro record hrecord
  obtain ⟨key, entry, readAt, hincluded, hentry, hafter, hbefore, heq⟩ := h.recorded record hrecord
  exact ⟨key, entry, readAt, hincluded, hentry, hafter, Nat.le_trans hbefore hclock, heq⟩

theorem PhaseCaptured.later (h : PhaseCaptured ctx cut clock phase) :
    PhaseCaptured ctx cut clock' phase := by
  cases phase with
  | waiting => exact h
  | scanning capturedAt patterns owed found => exact ⟨Nat.le_trans h.1 hclock, h.2⟩
  | reading capturedAt unread read later records =>
    exact ⟨Nat.le_trans h.1 hclock, h.2.later hclock⟩
  | exported capturedAt records => exact Captured.later hclock h
  | failed error => trivial

end Later

/-! ### One command of the export -/

theorem captured_nextBatch {clock : Nat} (hclock : capturedAt ≤ clock)
    (h : Captured ctx cut capturedAt clock keys [] records) :
    PhaseCaptured ctx cut clock (nextBatch capturedAt keys records) := by
  unfold nextBatch
  split
  · next hnil =>
    subst hnil
    refine ⟨h.included, h.values, ?_, ?_⟩
    · exact fun record hrecord => h.recorded record ((List.mem_insertionSort _).mp hrecord)
    · intro key entry hincluded hentry
      refine (h.complete key entry hincluded hentry).imp_right (Or.imp_right ?_)
      intro ⟨record, hrecord, heq⟩
      exact ⟨record, (List.mem_insertionSort _).mpr hrecord, heq⟩
  · refine ⟨hclock, ?_⟩
    rw [List.take_append_drop]
    exact h

theorem captured_nextPattern (hsame : SameIncluded cut s) (hclock : capturedAt ≤ s.clock)
    {patterns : List String} {found : List Key}
    (h : ∀ key entry, key.Included → cut.db.entry cut.clock key = some entry → key ∈ found ∨
      ∃ pattern ∈ patterns, startsWith key.text pattern = true) :
    PhaseCaptured ctx cut s.clock (s.nextPattern capturedAt patterns found) := by
  cases patterns with
  | cons pattern rest =>
    refine ⟨hclock, ?_⟩
    intro key entry hincluded hentry
    refine (h key entry hincluded hentry).imp_right ?_
    intro ⟨next, hnext, hstarts⟩
    rcases List.mem_cons.mp hnext with rfl | hrest
    · refine Or.inl (List.mem_filter.mpr ⟨?_, hstarts⟩)
      have hlive : s.db.get s.clock key = some entry.value := by
        unfold Keyspace.get
        rw [hsame key hincluded, hentry]
        rfl
      exact (Keyspace.mem_keys s.db s.clock key).mpr ⟨entry.value, hlive⟩
    · exact Or.inr ⟨next, hrest, hstarts⟩
  | nil =>
    unfold ExportState.nextPattern
    dsimp only
    split
    · trivial
    · next keys hkeys =>
      refine captured_nextBatch hclock ⟨?_, List.forall_mem_nil _, List.forall_mem_nil _, ?_⟩
      · exact fun key hkey => ((mem_includedKeys hkeys key).mp hkey).2
      · intro key entry hincluded hentry
        rcases h key entry hincluded hentry with hfound | ⟨pattern, hpattern, _⟩
        · exact Or.inl ((mem_includedKeys hkeys key).mpr
            ⟨(List.mem_insertionSort _).mpr hfound, hincluded⟩)
        · cases hpattern

theorem captured_scanReply (hsame : SameIncluded cut s) (hclock : capturedAt ≤ s.clock)
    {patterns : List String} {owed found batch : List Key} {last : Bool}
    (hscanned : Scanned cut patterns owed found)
    (h : s.scanReply capturedAt patterns owed found batch last = some phase) :
    PhaseCaptured ctx cut s.clock phase := by
  unfold ExportState.scanReply at h
  cases patterns with
  | nil => cases h
  | cons pattern rest =>
    obtain ⟨_, h⟩ := Option.ite_none_right_eq_some.mp h
    have hfound : ∀ key ∈ found, key ∈ (found ++ batch).dedup := fun key hkey =>
      List.mem_dedup.mpr (List.mem_append_left _ hkey)
    dsimp only at h
    split at h
    · cases h
      trivial
    · split at h
      · obtain ⟨howed, h⟩ := Option.ite_none_right_eq_some.mp h
        cases h
        refine captured_nextPattern hsame hclock ?_
        intro key entry hincluded hentry
        rcases hscanned key entry hincluded hentry with hmem | hmem | hnext
        · exact Or.inl (hfound key hmem)
        · exact Or.inl (of_decide_eq_true (List.all_eq_true.mp howed key hmem))
        · exact Or.inr hnext
      · cases h
        refine ⟨hclock, ?_⟩
        intro key entry hincluded hentry
        exact (hscanned key entry hincluded hentry).imp_left (hfound key)

theorem captured_get (hsame : SameIncluded cut s)
    (h : Captured ctx cut capturedAt s.clock (key :: keys) read records) :
    Captured ctx cut capturedAt s.clock keys
      (read ++ [(key, (s.db.get s.clock key).map (ctx.encode key))]) records := by
  have hincluded := h.included key List.mem_cons_self
  have hget : s.db.get s.clock key = cut.db.get cut.clock key := by
    unfold Keyspace.get
    rw [hsame key hincluded]
  refine ⟨fun other hother => h.included other (List.mem_cons_of_mem _ hother), ?_, h.recorded, ?_⟩
  · refine List.forall_mem_append.mpr ⟨h.values, List.forall_mem_singleton.mpr ⟨hincluded, ?_⟩⟩
    rw [hget]
  · intro other entry hother hentry
    rw [List.map_append]
    rcases h.complete other entry hother hentry with hmem | hmem | hrecord
    · rcases List.mem_cons.mp hmem with rfl | hmem
      · exact Or.inr (Or.inl (List.mem_append_right _ (List.mem_singleton_self _)))
      · exact Or.inl hmem
    · exact Or.inr (Or.inl (List.mem_append_left _ hmem))
    · exact Or.inr (Or.inr hrecord)

/-- What `TTL` makes of a key whose value was read. -/
theorem captured_ttl (hsame : SameIncluded cut s) (hclock : capturedAt ≤ s.clock)
    {value : Option String}
    (h : Captured ctx cut capturedAt s.clock keys ((key, value) :: read) records) :
    PhaseCaptured ctx cut s.clock (s.ttlReply capturedAt key value read keys records) := by
  obtain ⟨hincluded, hvalue⟩ := h.values (key, value) List.mem_cons_self
  have hrecord : (value.bind fun value => (s.db.entry s.clock key).map fun entry =>
      (⟨key.text, value, entry.deadline.map fun deadline => satAdd capturedAt (deadline - s.clock)⟩ :
        StoreRecord)) = (cut.db.entry cut.clock key).map (recordAt ctx capturedAt s.clock key) := by
    dsimp only at hvalue
    rw [hvalue, hsame key hincluded]
    unfold Keyspace.get
    cases cut.db.entry cut.clock key <;> rfl
  unfold ExportState.ttlReply
  rw [hrecord]
  split
  · trivial
  · have hcaptured : Captured ctx cut capturedAt s.clock keys read (records ++
        ((cut.db.entry cut.clock key).map (recordAt ctx capturedAt s.clock key)).toList) := by
      refine ⟨h.included, fun other hother => h.values other (List.mem_cons_of_mem _ hother), ?_, ?_⟩
      · refine List.forall_mem_append.mpr ⟨h.recorded, fun record hmem => ?_⟩
        obtain ⟨entry, hentry, rfl⟩ := Option.map_eq_some_iff.mp (Option.mem_toList.mp hmem)
        exact ⟨key, entry, s.clock, hincluded, hentry, hclock, Nat.le_refl _, rfl⟩
      · intro other entry hother hentry
        rcases h.complete other entry hother hentry with hmem | hmem | ⟨record, hmem, heq⟩
        · exact Or.inl hmem
        · rcases List.mem_cons.mp hmem with rfl | hmem
          · refine Or.inr (Or.inr ⟨recordAt ctx capturedAt s.clock other entry,
              List.mem_append_right _ (Option.mem_toList.mpr ?_), rfl, rfl⟩)
            rw [hentry]
            rfl
          · exact Or.inr (Or.inl hmem)
        · exact Or.inr (Or.inr ⟨record, List.mem_append_left _ hmem, heq⟩)
    dsimp only
    split
    · next hnil =>
      subst hnil
      exact captured_nextBatch hclock hcaptured
    · exact ⟨hclock, hcaptured⟩

/-! ## Every turn -/

/-- The state that moves on keeps its phase, a scan owing fewer keys. -/
theorem move_phase (s : ExportState) (clock : Nat) (db : Db) :
    (s.move clock db).phase.holdsGate = s.phase.holdsGate ∧ (s.move clock db).clock = clock ∧
      (s.move clock db).db = db ∧ (s.move clock db).running = s.running ∧
      (s.move clock db).ended = s.ended := by
  unfold ExportState.move
  cases s.phase <;> exact ⟨rfl, rfl, rfl, rfl, rfl⟩

theorem forall_mem_set {P : Running → Prop} {tasks : List Running} (h : ∀ task ∈ tasks, P task)
    (hnew : P task) : ∀ other ∈ tasks.set i task, P other := by
  intro other hother
  rcases List.mem_or_eq_of_mem_set hother with hmem | rfl
  · exact h other hmem
  · exact hnew

/-- The commands are those of the operation in a state that it has found. -/
def Running.Own (ctx : ExportContext) (task : Running) : Prop :=
  ∀ planned ∈ task.planned, ∃ db now, planned = task.op.commands ctx.store db now

structure Operated (ctx : ExportContext) (s : ExportState) : Prop where
  running : ∀ task ∈ s.running, task.Own ctx
  ended : ∀ task ∈ s.ended, task.Own ctx ∧ (task.op.takesGate = true → task.Whole)

theorem Operated.step (h : Operated ctx s) (horderly : Orderly s input)
    (hstep : ExportStep ctx s input s') : Operated ctx s' := by
  cases hstep with
  | tick =>
    obtain ⟨_, _, _, hrunning, hended⟩ := move_phase s _ s.db
    exact ⟨hrunning ▸ h.running, hended ▸ h.ended⟩
  | begin =>
    exact ⟨List.forall_mem_append.mpr ⟨h.running, List.forall_mem_singleton.mpr nofun⟩, h.ended⟩
  | plan =>
    refine ⟨forall_mem_set h.running ?_, h.ended⟩
    rintro planned ⟨⟩
    exact ⟨s.db, s.clock, rfl⟩
  | @send _ _ task _ found =>
    obtain ⟨_, _, _, hrunning, hended⟩ := move_phase s s.clock (commit s.clock s.db _)
    have hown := h.running task (List.mem_of_getElem? found)
    exact ⟨forall_mem_set (hrunning ▸ h.running) hown, hended ▸ h.ended⟩
  | finish found =>
    refine ⟨fun task htask => h.running task (List.mem_of_mem_eraseIdx htask), ?_⟩
    exact List.forall_mem_cons.mpr
      ⟨⟨h.running _ (List.mem_of_getElem? found), horderly _ found⟩, h.ended⟩
  | access => exact ⟨h.running, h.ended⟩

structure CutInv (ctx : ExportContext) (cut s : ExportState) : Prop where
  settled : s.phase.holdsGate = true → ∀ task ∈ s.running, task.op.takesGate = false
  same : s.phase.holdsGate = true → SameIncluded cut s
  captured : PhaseCaptured ctx cut s.clock s.phase

theorem captured_move {clock : Nat} {db : Db} (hclock : s.clock ≤ clock)
    (hsame : s.phase.holdsGate = true → SameIncluded cut (s.move clock db))
    (h : PhaseCaptured ctx cut s.clock s.phase) :
    PhaseCaptured ctx cut clock (s.move clock db).phase := by
  have hlater := h.later hclock
  unfold ExportState.move at hsame ⊢
  cases hphase : s.phase with
  | scanning capturedAt patterns owed found =>
    rw [hphase] at hlater hsame
    refine ⟨hlater.1, ?_⟩
    intro key entry hincluded hentry
    refine (hlater.2 key entry hincluded hentry).imp_right (Or.imp_left fun howed => ?_)
    refine List.mem_filter.mpr ⟨howed, ?_⟩
    have hsameKey := hsame rfl key hincluded
    dsimp only at hsameKey
    unfold ExportState.isLive Keyspace.get
    dsimp only
    rw [hsameKey, hentry]
    rfl
  | _ =>
    rw [hphase] at hlater
    exact hlater

/-- Where what a backup takes stays as it is, so does what is known of the export. -/
theorem CutInv.move (h : CutInv ctx cut s) {clock : Nat} {db : Db} (hclock : s.clock ≤ clock)
    (hsame : s.phase.holdsGate = true →
      ∀ key : Key, key.Included → db.entry clock key = s.db.entry s.clock key) :
    CutInv ctx cut (s.move clock db) := by
  obtain ⟨hgate, hclock', hdb, hrunning, _⟩ := move_phase s clock db
  have hcut : s.phase.holdsGate = true → SameIncluded cut (s.move clock db) := by
    intro hholds key hincluded
    rw [hclock', hdb, hsame hholds key hincluded]
    exact h.same hholds key hincluded
  refine ⟨?_, hgate ▸ hcut, ?_⟩
  · rw [hgate, hrunning]
    exact h.settled
  · rw [hclock']
    exact captured_move hclock hcut h.captured

/-- What does not lapse is there later as it was. -/
theorem entry_later {db : Db} {now now' : Nat} (hnow : now ≤ now')
    (h : (db.get now key).isSome = true → (db.get now' key).isSome = true) :
    db.entry now' key = db.entry now key := by
  unfold Keyspace.get Keyspace.entry at *
  cases hlookup : db.table.lookup key with
  | none => rfl
  | some entry =>
    have hmono := entry.live_mono hnow
    simp only [hlookup, Option.filter_some, Option.isSome_map] at h ⊢
    by_cases hlive : entry.live now = true <;> by_cases hlive' : entry.live now' = true <;>
      simp_all

/-- The commands of an operation that may send them leave what a backup takes. -/
theorem entry_sent (h : CutInv ctx cut s) (hown : task.Own ctx) {n : Nat} {planned : List Write}
    (found : s.running[i]? = some task) (known : task.planned = some planned)
    (horderly : Orderly s (.send i n)) (hholds : s.phase.holdsGate = true) (hkey : key.Included) :
    (commit s.clock s.db ((planned.drop task.sent).take n)).entry s.clock key =
      s.db.entry s.clock key := by
  refine entry_commit_of_forall_ne _ _ _ _ _ ?_
  rintro w hw rfl
  obtain ⟨db, now, rfl⟩ := hown planned known
  have hexcluded := excluded_of_ungated ctx.store db now
    (h.settled hholds task (List.mem_of_getElem? found)) (horderly hholds task found) w
    (List.mem_of_mem_drop (List.mem_of_mem_take hw))
  exact not_included_of_excluded hexcluded hkey

/-- A command of the export reads what was there at the cut. -/
theorem CutInv.access (h : CutInv ctx cut s) (haccess : exportAccess ctx s input = some phase) :
    CutInv ctx cut { s with phase } := by
  have hcaptured := h.captured
  have hsame := h.same
  have hsettled := h.settled
  -- the phase it comes from holds the gate
  have hnext : s.phase.holdsGate = true → PhaseCaptured ctx cut s.clock phase →
      CutInv ctx cut { s with phase } := fun hholds hphase =>
    ⟨fun _ => hsettled hholds, fun _ => hsame hholds, hphase⟩
  unfold exportAccess at haccess
  split at haccess
  · next hphase =>
    rw [hphase] at hcaptured
    exact hcaptured.elim
  · next hphase =>
    rw [hphase] at hcaptured hnext hsame
    exact hnext rfl (captured_scanReply (hsame rfl) hcaptured.1 hcaptured.2 haccess)
  · next hphase =>
    rw [hphase] at hcaptured hnext hsame
    cases haccess
    exact hnext rfl ⟨hcaptured.1, captured_get (hsame rfl) hcaptured.2⟩
  · next hphase =>
    rw [hphase] at hcaptured hnext hsame
    cases haccess
    exact hnext rfl (captured_ttl (hsame rfl) hcaptured.1 hcaptured.2)
  · cases haccess

theorem CutInv.step (h : CutInv ctx cut s) (hops : Operated ctx s) (horderly : Orderly s input)
    (hstep : ExportStep ctx s input s') : CutInv ctx cut s' := by
  cases hstep with
  | tick later =>
    refine h.move later fun hholds key hincluded => entry_later later fun hlive => ?_
    refine horderly hholds key ((Keyspace.mem_keys _ _ _).mpr ?_) hincluded
    exact Option.isSome_iff_exists.mp hlive
  | begin free =>
    refine ⟨fun hholds => ?_, h.same, h.captured⟩
    exact List.forall_mem_append.mpr
      ⟨h.settled hholds, List.forall_mem_singleton.mpr (free hholds)⟩
  | @plan _ task found =>
    refine ⟨fun hholds => forall_mem_set (h.settled hholds) ?_, h.same, h.captured⟩
    exact h.settled hholds task (List.mem_of_getElem? found)
  | @send _ _ task _ found known =>
    have hmem := List.mem_of_getElem? found
    have hmoved := h.move (Nat.le_refl _) fun hholds key hincluded =>
      entry_sent h (hops.running _ hmem) found known horderly hholds hincluded
    refine ⟨fun hholds => forall_mem_set (hmoved.settled hholds) ?_, hmoved.same, hmoved.captured⟩
    exact h.settled ((move_phase s s.clock _).1 ▸ hholds) task hmem
  | finish =>
    exact ⟨fun hholds task htask => h.settled hholds task (List.mem_of_mem_eraseIdx htask), h.same,
      h.captured⟩
  | access next => exact h.access next

/-! ## Runs -/

/-- No operation is under way, and the export has not begun. -/
def exportStart (clock : Nat) (db : Db) : ExportState := ⟨clock, db, [], [], .waiting⟩

/-- The gate was just taken. -/
structure Acquired (ctx : ExportContext) (cut : ExportState) : Prop where
  settled : ∀ task ∈ cut.running, task.op.takesGate = false
  receipts : ∀ key ∈ cut.db.keys cut.clock, settledReceipt cut.db cut.clock key = true
  phase : cut.phase = cut.nextPattern cut.clock managedPatterns []

theorem cutInv_acquired (h : Acquired ctx cut) : CutInv ctx cut cut := by
  have hsame : SameIncluded cut cut := fun _ _ => rfl
  refine ⟨fun _ => h.settled, fun _ => hsame, ?_⟩
  rw [h.phase]
  exact captured_nextPattern hsame (Nat.le_refl _) fun key _ _ _ => Or.inr (managed_key key)

/-- An export that waits goes on waiting, or takes the gate. -/
theorem acquired_of_step (hwaiting : s.phase = .waiting) (horderly : Orderly s input)
    (hstep : ExportStep ctx s input s') : s'.phase = .waiting ∨ Acquired ctx s' := by
  have hmove : ∀ clock db, (s.move clock db).phase = .waiting := by
    intro clock db
    unfold ExportState.move
    rw [hwaiting]
  cases hstep with
  | tick => exact Or.inl (hmove _ _)
  | send => exact Or.inl (hmove _ _)
  | access next =>
    unfold exportAccess at next
    rw [hwaiting] at next
    cases input with
    | acquire =>
      obtain ⟨hreaders, next⟩ := Option.ite_none_left_eq_some.mp next
      cases next
      refine Or.inr ⟨?_, horderly, rfl⟩
      rw [Bool.not_eq_true, List.any_eq_false] at hreaders
      exact fun task htask => eq_false_of_ne_true (hreaders task htask)
    | _ => cases next
  | _ => exact Or.inl hwaiting

/-- The run up to the moment in which the gate was taken, and from then on. -/
theorem acquired_of_run {ls : List ExportInput}
    (run : Run (Restrict (ExportTurns ctx) Orderly) s ls s') (hops : Operated ctx s)
    (hwaiting : s.phase = .waiting) (hbegun : s'.phase ≠ .waiting) :
    ∃ before after cut, ls = before ++ after ∧ Run (ExportTurns ctx) s before cut ∧
      Run (Restrict (ExportTurns ctx) Orderly) cut after s' ∧ Operated ctx cut ∧
      Acquired ctx cut := by
  induction run with
  | nil s => exact absurd hwaiting hbegun
  | @cons s t w input ls hstep run ih =>
    have hops' := hops.step hstep.1 (exportTurn_step hstep.2)
    rcases acquired_of_step hwaiting hstep.1 (exportTurn_step hstep.2) with hwaits | hacquired
    · obtain ⟨before, after, cut, rfl, hbefore, hcut⟩ := ih hops' hwaits hbegun
      exact ⟨input :: before, after, cut, rfl, .cons hstep.2 hbefore, hcut⟩
    · exact ⟨[input], ls, t, rfl, .cons hstep.2 (.nil t), run, hops', hacquired⟩

theorem consistentCut {clock : Nat} (hops : Operated ctx cut) (hcut : Acquired ctx cut)
    (h : Captured ctx cut capturedAt clock [] [] records) : ConsistentCut ctx cut records := by
  refine ⟨hcut.settled, ?_, ?_, ?_⟩
  · intro task htask hgate
    obtain ⟨hown, hwhole⟩ := hops.ended task htask
    rcases hwhole hgate with hnone | ⟨planned, hplanned, hlength⟩
    · exact Or.inl hnone
    · obtain ⟨db, now, rfl⟩ := hown planned hplanned
      exact Or.inr ⟨db, now, hplanned, hlength⟩
  · intro id receipt hreceipt
    have hsettled := hcut.receipts _ ((Keyspace.mem_keys _ _ _).mpr ⟨receipt, hreceipt⟩)
    simp only [settledReceipt, hreceipt] at hsettled
    exact of_decide_eq_true hsettled
  · intro text value
    constructor
    · rintro ⟨expiresAt, hmem⟩
      obtain ⟨key, entry, _, hincluded, hentry, _, _, heq⟩ := h.recorded _ hmem
      cases heq
      exact ⟨key, entry.value, hincluded, congrArg (Option.map Entry.value) hentry, rfl, rfl⟩
    · rintro ⟨key, v, hincluded, hget, rfl, rfl⟩
      obtain ⟨entry, hentry, rfl⟩ := Option.map_eq_some_iff.mp hget
      rcases h.complete key entry hincluded hentry with hmem | hmem | ⟨record, hmem, hkey, hv⟩
      · cases hmem
      · cases hmem
      · refine ⟨record.expiresAt, ?_⟩
        rw [← hkey, ← hv]
        exact hmem

/-- In every orderly run the exported records are what a backup takes of the database at the moment
    in which the gate was taken, when no operation that takes it was half done, each with an expiry
    that is as far from the capture as it was from the moment in which it was read. -/
theorem export_is_consistent_cut (ctx : ExportContext) (clock : Nat) (db : Db)
    {ls : List ExportInput} {s : ExportState}
    (run : Run (Restrict (ExportTurns ctx) Orderly) (exportStart clock db) ls s)
    {capturedAt : Nat} {records : List StoreRecord}
    (hexported : s.phase = .exported capturedAt records) :
    ∃ before after cut, ls = before ++ after ∧
      Run (ExportTurns ctx) (exportStart clock db) before cut ∧ Run (ExportTurns ctx) cut after s ∧
      cut.phase.holdsGate = true ∧ ConsistentCut ctx cut records ∧
      ∀ record ∈ records, ReadFromCut ctx cut capturedAt s.clock record := by
  have hbegun : s.phase ≠ .waiting := by
    rw [hexported]
    exact nofun
  obtain ⟨before, after, cut, hls, hbefore, hafter, hops, hcut⟩ :=
    acquired_of_run run ⟨List.forall_mem_nil _, List.forall_mem_nil _⟩ rfl hbegun
  have hinv : Operated ctx s ∧ CutInv ctx cut s := by
    refine hafter.invariant (I := fun s => Operated ctx s ∧ CutInv ctx cut s) ?_
      ⟨hops, cutInv_acquired hcut⟩
    intro _ _ _ h hstep
    have hstep' := exportTurn_step hstep.2
    exact ⟨h.1.step hstep.1 hstep', h.2.step h.1 hstep.1 hstep'⟩
  have hcaptured := hinv.2.captured
  rw [hexported] at hcaptured
  refine ⟨before, after, cut, hls, hbefore, hafter.of_restrict, ?_,
    consistentCut hops hcut hcaptured, hcaptured.recorded⟩
  rw [hcut.phase]
  rfl

/-! ### Sample runs -/

/-- The cursor of a webhook is its number; of the other records only the keys matter here. -/
def sampleEncode : ∀ k, Value k → String
  | .webhookCursor _, sequence => toString (show Nat from sequence)
  | _, _ => "record"

def sampleExport : ExportContext := ⟨sampleStore, sampleEncode⟩

/-- A webhook has been sent four events. -/
def sampleCursorDb : Db := commit 0 Keyspace.empty [.set (.webhookCursor "hook-1") (4 : Nat)]

/-- The three scans, and the reading of one key. -/
def sampleScans : List ExportInput :=
  [.acquire, .scan [.webhookCursor "hook-1"] true, .scan [] true, .scan [] true]

/-- After the scans a remote mutation is claimed, and then the cursor moves on. -/
def sampleTornExport : List ExportInput :=
  [.begin (.claimRemoteMutation 7 "digest"), .begin (.realm (.setWebhookCursor "hook-1" 5))] ++
  sampleScans ++ [.plan 0, .send 0 1, .plan 1, .send 1 1, .get, .ttl]

/-- The records that the export should have, but has not. -/
def sampleMissing (records : List StoreRecord) (cut : ExportState) : Bool :=
  [Key.webhookCursor "hook-1", Key.remoteMutation 7].any fun key =>
    (cut.db.get cut.clock key).any fun v =>
      records.all fun record => record.key ≠ key.text ∨ record.value ≠ sampleEncode key v

/-- The export has the cursor as it was after the claim, but not the claim: at no moment was that
    what a backup takes. -/
theorem ungated_writes_tear_export : ∃ s records,
    Run (ExportTurns sampleExport) (exportStart 10 sampleCursorDb) sampleTornExport s ∧
    s.phase = .exported 10 records ∧
    ∀ before after cut, sampleTornExport = before ++ after →
      Run (ExportTurns sampleExport) (exportStart 10 sampleCursorDb) before cut →
      ¬ ConsistentCut sampleExport cut records := by
  let records : List StoreRecord := [⟨"auth:webhook-cursor:hook-1", "5", none⟩]
  have hexec : (execAll (exportTurn sampleExport) (exportStart 10 sampleCursorDb)
      sampleTornExport).any (fun s => match s.phase with
        | .exported capturedAt exported => capturedAt = 10 ∧ exported = records
        | _ => false) = true := by
    decide +kernel
  have hmissing : ∀ n ∈ List.range 13, (execAll (exportTurn sampleExport)
      (exportStart 10 sampleCursorDb) (sampleTornExport.take n)).all (sampleMissing records) =
        true := by
    decide +kernel
  have hincluded : (Key.webhookCursor "hook-1").Included ∧ (Key.remoteMutation 7).Included := by
    decide +kernel
  obtain ⟨s, hs, hphase⟩ := (Option.any_eq_true _ _).mp hexec
  split at hphase
  · next capturedAt exported hexported =>
    obtain ⟨rfl, rfl⟩ := of_decide_eq_true hphase
    refine ⟨s, records, run_of_execAll (fun _ _ _ h => h) hs, hexported, ?_⟩
    intro before after cut hls hrun hcut
    have hlength : before.length ∈ List.range 13 := by
      have := congrArg List.length hls
      rw [List.length_append] at this
      rw [List.mem_range]
      change 12 = _ at this
      omega
    have htake : sampleTornExport.take before.length = before := by
      rw [hls, List.take_left]
    have hmiss := hmissing _ hlength
    rw [htake, execAll_of_run hrun] at hmiss
    obtain ⟨key, hkey, hlive⟩ := List.any_eq_true.mp hmiss
    obtain ⟨v, hv, hall⟩ := (Option.any_eq_true _ _).mp hlive
    have hkeyIncluded : key.Included := by
      rcases List.mem_cons.mp hkey with rfl | hkey
      · exact hincluded.1
      · rw [List.mem_singleton.mp hkey]
        exact hincluded.2
    obtain ⟨expiresAt, hrecord⟩ := (hcut.exact key.text (sampleEncode key v)).mpr
      ⟨key, v, hkeyIncluded, hv, rfl, rfl⟩
    have hapart := of_decide_eq_true (List.all_eq_true.mp hall _ hrecord)
    exact hapart.elim (fun h => h rfl) (fun h => h rfl)
  · cases hphase

/-- An operation that sends its commands one by one. -/
def sampleOperation (op : StoreOp) (commands : Nat) : List ExportInput :=
  [.begin op, .plan 0] ++ List.replicate commands (.send 0 1) ++ [.finish 0]

/-- A webhook is removed, a remote mutation is claimed and completed, and then the export begins.
    The session activity that is written meanwhile is no part of a backup. -/
def sampleOrderlyExport : List ExportInput :=
  sampleOperation (.realm (.setWebhookCursor "hook-2" 2)) 1 ++
  sampleOperation (.realm (.removeWebhook "hook-2" [])) 2 ++
  sampleOperation (.claimRemoteMutation 7 "digest") 1 ++
  sampleOperation (.completeRemoteMutation 7 "digest" true "done") 1 ++
  [.begin (.session (.touchSessions [("digest", 10, 60)])), .acquire,
    .scan [.webhookCursor "hook-1", .remoteMutation 7] true, .scan [] true, .scan [] true,
    .plan 0, .send 0 1, .tick 12, .get, .get, .finish 0, .ttl, .ttl]

theorem export_is_consistent_cut_sample : ∃ s records,
    Run (Restrict (ExportTurns sampleExport) Orderly) (exportStart 10 sampleCursorDb)
      sampleOrderlyExport s ∧ s.phase = .exported 10 records ∧
    ∃ before after cut, sampleOrderlyExport = before ++ after ∧
      Run (ExportTurns sampleExport) (exportStart 10 sampleCursorDb) before cut ∧
      Run (ExportTurns sampleExport) cut after s ∧ cut.phase.holdsGate = true ∧
      ConsistentCut sampleExport cut records ∧
      ∀ record ∈ records, ReadFromCut sampleExport cut 10 s.clock record := by
  have hexec : (execAll (execWhen Orderly (exportTurn sampleExport))
      (exportStart 10 sampleCursorDb) sampleOrderlyExport).any (fun s => match s.phase with
        | .exported capturedAt exported => capturedAt = 10 ∧ exported =
            [⟨"auth:remote-mutation:00000000-0000-0000-0000-000000000007", "record", some 86408⟩,
              ⟨"auth:webhook-cursor:hook-1", "4", none⟩]
        | _ => false) = true := by
    decide +kernel
  obtain ⟨s, hs, hphase⟩ := (Option.any_eq_true _ _).mp hexec
  split at hphase
  · next capturedAt exported hexported =>
    obtain ⟨rfl, rfl⟩ := of_decide_eq_true hphase
    have run := run_of_execAll (restrict_of_execWhen (fun _ _ _ h => h)) hs
    exact ⟨s, _, run, hexported,
      export_is_consistent_cut sampleExport 10 sampleCursorDb run hexported⟩
  · cases hphase

end RustyAuth
