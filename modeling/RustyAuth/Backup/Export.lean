/-
  An export beside the other operations of its process.

  `export_records` holds the snapshot gate for writing while it scans the keyspace and reads the
  values and the expiries of the keys that it includes, one command after another.  Most
  methods of the store hold the gate for reading, so none of them is under way meanwhile; the others
  (`takesGate` is false) may send their commands at any time.

  A running operation computes its commands from the state that it finds, and sends them in as many
  pieces as it likes.  `SCAN` is the datastore's: it returns keys that are there, and all those that
  were there from its first call to its last (`owed`).
-/
import RustyAuth.Store.Writers

namespace RustyAuth

open RustyAuth.Library

/-! ## Who takes the gate -/

def AccountOp.takesGate : AccountOp → Bool
  | .deleteIdentifierVerification _ => false
  | _ => true

def SessionOp.takesGate : SessionOp → Bool
  | .touchSessions _ => false
  | _ => true

def RealmOp.takesGate : RealmOp → Bool
  | .updateWebhookRuntime _ _ => false
  | .setWebhookCursor _ _ => false
  | _ => true

def TelemetryOp.takesGate : TelemetryOp → Bool
  | .acceptFleetTelemetryBatch _ => true
  | .completeFleetAnalyticsManifest _ _ => true
  | .updateFleetAnalyticsPolicy _ _ _ _ _ _ _ => true
  | .deferTelemetryBucket _ _ _ => true
  | _ => false

/-- Signing keys are maintained under the gate. -/
def MaintenanceOp.takesGate : MaintenanceOp → Bool
  | .restoreRecords _ _ => true
  | .storeKeyset _ => true
  | .acquireMaintenanceLock _ => true
  | .releaseMaintenanceLock => true
  | _ => false

def StoreOp.takesGate : StoreOp → Bool
  | .account op => op.takesGate
  | .session op => op.takesGate
  | .realm op => op.takesGate
  | .telemetry op => op.takesGate
  | .maintenance op => op.takesGate
  | .claimRemoteMutation _ _ => false
  | .completeRemoteMutation _ _ _ _ => false
  | _ => true

/-! ## The export -/

def snapshotReadBatchSize : Nat := 250

/-- Where `export_records` stands. -/
inductive ExportPhase
  | waiting
  -- the patterns that are left, the first of them under way
  | scanning (capturedAt : Nat) (patterns : List String) (owed found : List Key)
  -- the values of a batch of keys are read, and then their expiries; `later` are the next batches
  | reading (capturedAt : Nat) (unread : List Key) (read : List (Key × Option String))
      (later : List Key) (records : List StoreRecord)
  | exported (capturedAt : Nat) (records : List StoreRecord)
  | failed (error : SnapshotError)

def ExportPhase.holdsGate : ExportPhase → Bool
  | .scanning _ _ _ _ => true
  | .reading _ _ _ _ _ => true
  | _ => false

/-- An operation; its commands are `none` until it has read what it needs, and `sent` of them have
    been sent. -/
structure Running where
  op : StoreOp
  planned : Option (List Write)
  sent : Nat

/-- `ended` are the operations that have returned or failed. -/
structure ExportState where
  clock : Nat
  db : Db
  running : List Running
  ended : List Running
  phase : ExportPhase

structure ExportContext where
  store : StoreContext
  encode : ∀ k, Value k → String

inductive ExportInput
  | tick (now : Nat)
  | begin (op : StoreOp)
  | plan (i : Nat)
  | send (i n : Nat)
  -- the operation returns, or fails, and gives up the gate
  | finish (i : Nat)
  | acquire
  | scan (batch : List Key) (last : Bool)
  | get
  | ttl

def ExportState.isLive (s : ExportState) (key : Key) : Bool := (s.db.get s.clock key).isSome

/-- The state moves on; a scan owes no key that has gone. -/
def ExportState.move (s : ExportState) (clock : Nat) (db : Db) : ExportState :=
  let next := { s with clock, db }
  match s.phase with
  | .scanning capturedAt patterns owed found =>
      { next with phase := .scanning capturedAt patterns (owed.filter next.isLive) found }
  | _ => next

def ExportState.setTask (s : ExportState) (i : Nat) (task : Running) : ExportState :=
  { s with running := s.running.set i task }

def ExportState.matching (s : ExportState) (pattern : String) : List Key :=
  (s.db.keys s.clock).filter fun key => startsWith key.text pattern

/-- The values of the next batch, if a key is left. -/
def nextBatch (capturedAt : Nat) (keys : List Key) (records : List StoreRecord) : ExportPhase :=
  if keys = [] then .exported capturedAt (records.insertionSort (·.key ≤ ·.key))
  else .reading capturedAt (keys.take snapshotReadBatchSize) [] (keys.drop snapshotReadBatchSize)
    records

/-- The scan of the next pattern; after the last one the keys are filtered by their policy. -/
def ExportState.nextPattern (s : ExportState) (capturedAt : Nat) (patterns : List String)
    (found : List Key) : ExportPhase :=
  match patterns with
  | pattern :: _ => .scanning capturedAt patterns (s.matching pattern) found
  | [] =>
      match includedKeys (found.insertionSort (·.text ≤ ·.text)) with
      | .error error => .failed error
      | .ok keys => nextBatch capturedAt keys []

/-- A reply of `SCAN`. -/
def ExportState.scanReply (s : ExportState) (capturedAt : Nat) (patterns : List String)
    (owed found batch : List Key) (last : Bool) : Option ExportPhase :=
  match patterns with
  | [] => none
  | pattern :: rest =>
      if batch.all fun key => s.isLive key && startsWith key.text pattern then
        let found := (found ++ batch).dedup
        if maxSnapshotKeys < found.length then some (.failed .tooManyKeys)
        else if last then
          if owed.all (· ∈ found) then some (s.nextPattern capturedAt rest found) else none
        else some (.scanning capturedAt patterns owed found)
      else none

/-- The reply of `TTL` for a key of the batch; the remaining time is counted from the capture. -/
def ExportState.ttlReply (s : ExportState) (capturedAt : Nat) (key : Key) (value : Option String)
    (read : List (Key × Option String)) (later : List Key) (records : List StoreRecord) :
    ExportPhase :=
  if value.any (maxSnapshotValueBytes < ·.utf8ByteSize) then .failed (.valueTooLarge key.text)
  else
    let record : Option StoreRecord := value.bind fun value =>
      (s.db.entry s.clock key).map fun entry => ⟨key.text, value,
        entry.deadline.map fun deadline => satAdd capturedAt (deadline - s.clock)⟩
    let records := records ++ record.toList
    if read = [] then nextBatch capturedAt later records
    else .reading capturedAt [] read later records

section

variable (ctx : ExportContext) (s : ExportState)

/-- A command of the export. -/
def exportAccess (input : ExportInput) : Option ExportPhase :=
  match s.phase, input with
  -- no reader holds the gate
  | .waiting, .acquire =>
      if s.running.any (·.op.takesGate) then none
      else some (s.nextPattern s.clock managedPatterns [])
  | .scanning capturedAt patterns owed found, .scan batch last =>
      s.scanReply capturedAt patterns owed found batch last
  | .reading capturedAt (key :: unread) read later records, .get =>
      let value := (s.db.get s.clock key).map (ctx.encode key)
      some (.reading capturedAt unread (read ++ [(key, value)]) later records)
  | .reading capturedAt [] ((key, value) :: read) later records, .ttl =>
      some (s.ttlReply capturedAt key value read later records)
  | _, _ => none

def exportTurn (input : ExportInput) : Option ExportState :=
  match input with
  | .tick now => if s.clock ≤ now then some (s.move now s.db) else none
  | .begin op =>
      if op.takesGate ∧ s.phase.holdsGate then none
      else some { s with running := s.running ++ [⟨op, none, 0⟩] }
  | .plan i =>
      (s.running[i]?).bind fun task =>
        if task.planned.isSome then none
        else
          some (s.setTask i
            { task with planned := some (task.op.commands ctx.store s.db s.clock) })
  | .send i n =>
      (s.running[i]?).bind fun task => task.planned.map fun planned =>
        (s.move s.clock (commit s.clock s.db ((planned.drop task.sent).take n))).setTask i
          { task with sent := task.sent + n }
  | .finish i =>
      (s.running[i]?).map fun task =>
        { s with running := s.running.eraseIdx i, ended := task :: s.ended }
  | input => (exportAccess ctx s input).map fun phase => { s with phase }

end

def ExportTurns (ctx : ExportContext) (s : ExportState) (input : ExportInput) (s' : ExportState) :
    Prop :=
  exportTurn ctx s input = some s'

/-- What a turn does. -/
inductive ExportStep (ctx : ExportContext) (s : ExportState) : ExportInput → ExportState → Prop
  | tick {now : Nat} (later : s.clock ≤ now) : ExportStep ctx s (.tick now) (s.move now s.db)
  | begin {op : StoreOp} (free : s.phase.holdsGate = true → op.takesGate = false) :
      ExportStep ctx s (.begin op) { s with running := s.running ++ [⟨op, none, 0⟩] }
  | plan {i : Nat} {task : Running} (found : s.running[i]? = some task) :
      ExportStep ctx s (.plan i)
        (s.setTask i { task with planned := some (task.op.commands ctx.store s.db s.clock) })
  | send {i n : Nat} {task : Running} {planned : List Write} (found : s.running[i]? = some task)
      (known : task.planned = some planned) :
      ExportStep ctx s (.send i n)
        ((s.move s.clock (commit s.clock s.db ((planned.drop task.sent).take n))).setTask i
          { task with sent := task.sent + n })
  | finish {i : Nat} {task : Running} (found : s.running[i]? = some task) :
      ExportStep ctx s (.finish i)
        { s with running := s.running.eraseIdx i, ended := task :: s.ended }
  | access {input : ExportInput} {phase : ExportPhase}
      (next : exportAccess ctx s input = some phase) : ExportStep ctx s input { s with phase }

theorem exportTurn_step {ctx : ExportContext} {s s' : ExportState} {input : ExportInput}
    (h : exportTurn ctx s input = some s') : ExportStep ctx s input s' := by
  cases input with
  | tick now =>
    obtain ⟨later, h⟩ := Option.ite_none_right_eq_some.mp h
    cases h
    exact .tick later
  | begin op =>
    obtain ⟨free, h⟩ := Option.ite_none_left_eq_some.mp h
    cases h
    exact .begin fun hholds => eq_false_of_ne_true fun htakes => free ⟨htakes, hholds⟩
  | plan i =>
    obtain ⟨task, found, h⟩ := Option.bind_eq_some_iff.mp h
    obtain ⟨_, h⟩ := Option.ite_none_left_eq_some.mp h
    cases h
    exact .plan found
  | send i n =>
    obtain ⟨task, found, h⟩ := Option.bind_eq_some_iff.mp h
    obtain ⟨planned, known, rfl⟩ := Option.map_eq_some_iff.mp h
    exact .send found known
  | finish i =>
    obtain ⟨task, found, rfl⟩ := Option.map_eq_some_iff.mp h
    exact .finish found
  | _ =>
    obtain ⟨phase, next, rfl⟩ := Option.map_eq_some_iff.mp h
    exact .access next

end RustyAuth
