/-
  Operators: who is one, and calls that race about it.

  `ensureOperator`, `promoteOperator` and `demoteOperator` read the grant and write it in
  separate accesses, so calls interleave between them; what `ensureOperator` answers is decided
  when it reads.  The mutation lock is not shared
  between processes (promotion and demotion run in a process of their own), so no order is
  assumed between the accesses of two calls.  A call that fails between two accesses stops
  there (`abandon`).
-/
import RustyAuth.Store.Keys
import RustyAuth.Library.Tasks

namespace RustyAuth

open RustyAuth.Library

inductive GrantDecision
  | honour
  | deny
  | bootstrap
deriving DecidableEq

def grantDecision (stored : Option OperatorRecord) (bootstrapAllowed : Bool) : GrantDecision :=
  match stored with
  | some record => if record.revokedAt.isNone then .honour else .deny
  | none => if bootstrapAllowed then .bootstrap else .deny

/-! ## The calls -/

/-- Where a call stands between two accesses. -/
inductive OperatorTask
  | idle
  -- `ensure_operator` has read a live grant, which it answers
  | honouring (userId : Uuid)
  -- `ensure_operator` has found no record
  | bootstrapping (userId : Uuid)
  -- and has lost the conditional write
  | lost (userId : Uuid)
  -- `promote_operator` has found the user
  | promotingUser (userId : Uuid) (role : OperatorRoleRecord)
  -- and has read the grant there is
  | promoting (userId : Uuid) (role : OperatorRoleRecord) (existing : Option OperatorRecord)
  -- `demote_operator` has read a live grant
  | demoting (userId : Uuid) (record : OperatorRecord)

inductive OperatorInput
  | ensureOperator (userId : Uuid) (bootstrapAllowed : Bool)
  | promoteOperator (userId : Uuid) (role : OperatorRoleRecord)
  | demoteOperator (userId : Uuid)
  -- the next access; `appended` is whether the event after a write could be appended
  | proceed (appended : Bool)
  | abandon

/-- What is seen of the calls: the answers of `ensure_operator`, and the commits of the others. -/
inductive OperatorEvent
  | ensured (userId : Uuid) (answer : Option OperatorRecord)
  | promoted (userId : Uuid)
  | demoted (userId : Uuid)
deriving DecidableEq

abbrev OperatorTurn := Turn Db OperatorTask OperatorEvent

/-- A last-seen time that cannot be written is only logged; it is no part of the grant. -/
def recordOperatorSeen (db : Db) (now : Nat) (userId : Uuid) : Db :=
  commit now db [.set (.operatorSeen userId) (toString now)]

def ensureOperator (db : Db) (now : Nat) (userId : Uuid) (bootstrapAllowed : Bool) : OperatorTurn :=
  let stored := db.get now (.operator userId)
  match grantDecision stored bootstrapAllowed with
  | .honour => ⟨db, .honouring userId, [.ensured userId stored]⟩
  | .deny => ⟨db, .idle, [.ensured userId none]⟩
  | .bootstrap => ⟨db, .bootstrapping userId, []⟩

/-- `SET NX`.  An error of the append that follows is the answer of the call. -/
def insertOperator (db : Db) (now : Nat) (userId : Uuid) (appended : Bool) : OperatorTurn :=
  match db.get now (.operator userId) with
  | none =>
      let operator : OperatorRecord :=
        { userId, role := .owner, createdAt := now, revokedAt := none }
      ⟨commit now db [.set (.operator userId) operator], .idle,
        if appended then [.ensured userId (some operator)] else []⟩
  | some _ => ⟨db, .lost userId, []⟩

/-- The grant is read again, and answered as it is. -/
def rereadOperator (db : Db) (now : Nat) (userId : Uuid) : OperatorTurn :=
  ⟨db, .idle, [.ensured userId (db.get now (.operator userId))]⟩

def promoteOperator (db : Db) (now : Nat) (userId : Uuid) (role : OperatorRoleRecord) :
    OperatorTurn :=
  match db.get now (.user userId) with
  | none => ⟨db, .idle, []⟩
  | some _ => ⟨db, .promotingUser userId role, []⟩

def persistPromoted (db : Db) (now : Nat) (userId : Uuid) (role : OperatorRoleRecord)
    (existing : Option OperatorRecord) : OperatorTurn :=
  let operator : OperatorRecord :=
    { userId, role, createdAt := (existing.map (·.createdAt)).getD now, revokedAt := none }
  ⟨commit now db [.set (.operator userId) operator], .idle, [.promoted userId]⟩

def demoteOperator (db : Db) (now : Nat) (userId : Uuid) : OperatorTurn :=
  match db.get now (.operator userId) with
  | none => ⟨db, .idle, []⟩
  | some record =>
      if record.revokedAt.isSome then ⟨db, .idle, []⟩ else ⟨db, .demoting userId record, []⟩

def persistDemoted (db : Db) (now : Nat) (userId : Uuid) (record : OperatorRecord) : OperatorTurn :=
  ⟨commit now db [.set (.operator userId) { record with revokedAt := some now }], .idle,
    [.demoted userId]⟩

/-- One access of a call at a reading of the clock. -/
def operatorTurn (db : Db) (task : OperatorTask) (input : Nat × OperatorInput) :
    Option OperatorTurn :=
  match task, input with
  | .idle, (now, .ensureOperator userId allowed) => some (ensureOperator db now userId allowed)
  | .idle, (now, .promoteOperator userId role) => some (promoteOperator db now userId role)
  | .idle, (now, .demoteOperator userId) => some (demoteOperator db now userId)
  | .honouring userId, (now, .proceed _) => some ⟨recordOperatorSeen db now userId, .idle, []⟩
  | .bootstrapping userId, (now, .proceed appended) => some (insertOperator db now userId appended)
  | .lost userId, (now, .proceed _) => some (rereadOperator db now userId)
  | .promotingUser userId role, (now, .proceed _) =>
      some ⟨db, .promoting userId role (db.get now (.operator userId)), []⟩
  | .promoting userId role existing, (now, .proceed _) =>
      some (persistPromoted db now userId role existing)
  | .demoting userId record, (now, .proceed _) => some (persistDemoted db now userId record)
  | _, (_, .abandon) => some ⟨db, .idle, []⟩
  | _, _ => none

/-! ## A demotion holds -/

/-- The latest promotion or demotion of the user is a demotion. -/
def demotedIn (userId : Uuid) : List OperatorEvent → Bool
  | [] => false
  | .demoted id :: history => if id = userId then true else demotedIn userId history
  | .promoted id :: history => if id = userId then false else demotedIn userId history
  | .ensured _ _ :: history => demotedIn userId history

/-- No answer is a revoked grant, and none makes an operator of a user who was demoted and
    not promoted since. -/
def Honest : List OperatorEvent → Prop
  | [] => True
  | .ensured userId (some record) :: history =>
      record.revokedAt = none ∧ demotedIn userId history = false ∧ Honest history
  | _ :: history => Honest history

/-- Grants have no expiry. -/
def GrantsDurable (db : Db) : Prop :=
  ∀ userId t t', db.get t (.operator userId) = db.get t' (.operator userId)

/-- The history is honest, and a user it has demoted has a tombstone. -/
structure Demotions (db : Db) (history : List OperatorEvent) : Prop where
  durable : GrantsDurable db
  tombstone : ∀ userId, demotedIn userId history = true →
    ∃ record, record.revokedAt.isSome ∧ ∀ t, db.get t (.operator userId) = some record
  honest : Honest history

section

variable {db : Db} {history : List OperatorEvent}

theorem get_set_operator (db : Db) (now t : Nat) (userId : Uuid) (record : OperatorRecord)
    (other : Uuid) :
    (commit now db [.set (.operator userId) record]).get t (.operator other) =
      if other = userId then some record else db.get t (.operator other) := by
  rw [commit_cons, commit_nil]
  split
  · next h => rw [h, Command.get_set_self]
  · next h =>
    apply Command.get_run_of_ne
    exact fun heq => h (Key.operator.inj heq)

theorem GrantsDurable.set (h : GrantsDurable db) (now : Nat) (userId : Uuid)
    (record : OperatorRecord) :
    GrantsDurable (commit now db [.set (.operator userId) record]) := by
  intro other t t'
  rw [get_set_operator, get_set_operator, h other t t']

/-- The last-seen time is no part of a grant. -/
theorem get_recordOperatorSeen (db : Db) (now t : Nat) (userId other : Uuid) :
    (recordOperatorSeen db now userId).get t (.operator other) = db.get t (.operator other) := by
  unfold recordOperatorSeen
  rw [commit_cons, commit_nil]
  exact Command.get_run_of_ne now t db _ Key.noConfusion

theorem Demotions.congr {db' : Db} (h : Demotions db history)
    (hget : ∀ t userId, db'.get t (.operator userId) = db.get t (.operator userId)) :
    Demotions db' history where
  durable userId t t' := by rw [hget, hget, h.durable userId t t']
  tombstone userId hdemoted := by
    obtain ⟨record, hrevoked, hrecord⟩ := h.tombstone userId hdemoted
    exact ⟨record, hrevoked, fun t => (hget t userId).trans (hrecord t)⟩
  honest := h.honest

/-- An answer that is none, or a live grant that is stored, keeps the history honest. -/
theorem Demotions.answer (h : Demotions db history) (now : Nat) {userId : Uuid}
    {answer : Option OperatorRecord}
    (hanswer : ∀ record, answer = some record →
      record.revokedAt = none ∧ db.get now (.operator userId) = some record) :
    Demotions db (.ensured userId answer :: history) where
  durable := h.durable
  tombstone := h.tombstone
  honest := by
    cases answer with
    | none => exact h.honest
    | some record =>
      obtain ⟨hlive, hstored⟩ := hanswer record rfl
      refine ⟨hlive, Bool.eq_false_iff.mpr fun hdemoted => ?_, h.honest⟩
      obtain ⟨record', hrevoked, hrecord⟩ := h.tombstone userId hdemoted
      rw [hrecord now, Option.some.injEq] at hstored
      rw [hstored, hlive] at hrevoked
      cases hrevoked

theorem Demotions.ensureOperator (h : Demotions db history) (now : Nat) (userId : Uuid)
    (allowed : Bool) :
    Demotions (ensureOperator db now userId allowed).shared
      ((ensureOperator db now userId allowed).observed ++ history) := by
  unfold RustyAuth.ensureOperator
  dsimp only
  split
  · next hdecision =>
    apply h.answer now
    intro record hstored
    refine ⟨?_, hstored⟩
    rw [hstored] at hdecision
    unfold grantDecision at hdecision
    dsimp only at hdecision
    split at hdecision
    · next hlive => exact Option.isNone_iff_eq_none.mp hlive
    · cases hdecision
  · exact h.answer now fun record hnone => nomatch hnone
  · exact h

/-- `SET NX` writes only where there is no grant, and a demoted user has one. -/
theorem Demotions.insertOperator (h : Demotions db history) (now : Nat) (userId : Uuid)
    (appended : Bool) :
    Demotions (insertOperator db now userId appended).shared
      ((insertOperator db now userId appended).observed ++ history) := by
  unfold RustyAuth.insertOperator
  split
  · next hnone =>
    have hstored : Demotions (commit now db [.set (.operator userId)
        { userId, role := .owner, createdAt := now, revokedAt := none }]) history := by
      refine ⟨h.durable.set now userId _, ?_, h.honest⟩
      intro other hdemoted
      obtain ⟨record, hrevoked, hrecord⟩ := h.tombstone other hdemoted
      refine ⟨record, hrevoked, fun t => ?_⟩
      rw [get_set_operator, if_neg, hrecord t]
      rintro rfl
      rw [hrecord now] at hnone
      cases hnone
    dsimp only
    split
    · apply hstored.answer now
      intro record hrecord
      rw [Option.some.injEq] at hrecord
      rw [← hrecord]
      exact ⟨rfl, by rw [get_set_operator, if_pos rfl]⟩
    · exact hstored
  · exact h

theorem Demotions.persistPromoted (h : Demotions db history) (now : Nat) (userId : Uuid)
    (role : OperatorRoleRecord) (existing : Option OperatorRecord) :
    Demotions (persistPromoted db now userId role existing).shared
      ((persistPromoted db now userId role existing).observed ++ history) where
  durable := h.durable.set now userId _
  tombstone other hdemoted := by
    change (if userId = other then false else demotedIn other history) = true at hdemoted
    split at hdemoted
    · cases hdemoted
    · next hne =>
      obtain ⟨record, hrevoked, hrecord⟩ := h.tombstone other hdemoted
      refine ⟨record, hrevoked, fun t => ?_⟩
      show (commit now db _).get t _ = _
      rw [get_set_operator, if_neg (Ne.symm hne), hrecord t]
  honest := h.honest

theorem Demotions.persistDemoted (h : Demotions db history) (now : Nat) (userId : Uuid)
    (record : OperatorRecord) :
    Demotions (persistDemoted db now userId record).shared
      ((persistDemoted db now userId record).observed ++ history) where
  durable := h.durable.set now userId _
  tombstone other hdemoted := by
    change (if userId = other then true else demotedIn other history) = true at hdemoted
    by_cases heq : userId = other
    · subst heq
      refine ⟨{ record with revokedAt := some now }, rfl, fun t => ?_⟩
      show (commit now db _).get t _ = _
      rw [get_set_operator, if_pos rfl]
    · rw [if_neg heq] at hdemoted
      obtain ⟨record', hrevoked, hrecord⟩ := h.tombstone other hdemoted
      refine ⟨record', hrevoked, fun t => ?_⟩
      show (commit now db _).get t _ = _
      rw [get_set_operator, if_neg (Ne.symm heq), hrecord t]
  honest := h.honest

theorem Demotions.promoteOperator (h : Demotions db history) (now : Nat) (userId : Uuid)
    (role : OperatorRoleRecord) :
    Demotions (promoteOperator db now userId role).shared
      ((promoteOperator db now userId role).observed ++ history) := by
  unfold RustyAuth.promoteOperator
  split <;> exact h

theorem Demotions.demoteOperator (h : Demotions db history) (now : Nat) (userId : Uuid) :
    Demotions (demoteOperator db now userId).shared
      ((demoteOperator db now userId).observed ++ history) := by
  unfold RustyAuth.demoteOperator
  split
  · exact h
  · split <;> exact h

end

/-! ## Runs -/

abbrev OperatorWorld := World Db OperatorTask OperatorEvent

/-- A call that lost the conditional write does not find a tombstone when it reads again. -/
def rereadsLive (world : OperatorWorld) (l : Nat × Nat × OperatorInput) : Bool :=
  match world.task l.1, l.2 with
  | .lost userId, (now, .proceed _) =>
      (world.shared.get now (.operator userId)).all (·.revokedAt.isNone)
  | _, _ => true

theorem turn_demotions {world world' : OperatorWorld} {l : Nat × Nat × OperatorInput}
    (h : Demotions world.shared world.history) (hlive : rereadsLive world l = true)
    (hturn : Turns operatorTurn world l world') : Demotions world'.shared world'.history := by
  obtain ⟨turn, hact, rfl⟩ := hturn
  obtain ⟨i, now, input⟩ := l
  show Demotions turn.shared (turn.observed ++ world.history)
  unfold rereadsLive at hlive
  dsimp only at hact hlive
  unfold operatorTurn at hact
  split at hact <;> try cases hact
  · exact h.ensureOperator _ _ _
  · exact h.promoteOperator _ _ _
  · exact h.demoteOperator _ _
  · exact h.congr fun t other => get_recordOperatorSeen _ _ t _ other
  · exact h.insertOperator _ _ _
  · next hphase hinput =>
    -- the one answer that is not checked
    cases hinput
    rw [hphase] at hlive
    apply h.answer now
    intro record hrecord
    dsimp only at hlive
    rw [hrecord] at hlive
    exact ⟨Option.isNone_iff_eq_none.mp hlive, hrecord⟩
  · exact h
  · exact h.persistPromoted _ _ _ _
  · exact h.persistDemoted _ _ _
  · exact h

/-- In every interleaving in which no call that lost the conditional write reads a tombstone,
    no call answers a revoked grant, and a demoted user is no operator until promoted again.
    A call that does read one breaks this. -/
theorem demoted_operator_stays_demoted {db₀ : Db} (hdurable : GrantsDurable db₀)
    {labels : List (Nat × Nat × OperatorInput)} {world : OperatorWorld}
    (hrun : Run (Restrict (Turns operatorTurn) fun world l => rereadsLive world l = true)
      ⟨db₀, fun _ => .idle, []⟩ labels world) :
    Honest world.history ∧ ∀ l world', Turns operatorTurn world l world' →
      (Honest world'.history ↔ rereadsLive world l = true) := by
  have hinv : Demotions world.shared world.history := by
    refine hrun.invariant (I := fun world => Demotions world.shared world.history) ?_ ?_
    · intro world l world' h hstep
      exact turn_demotions h hstep.1 hstep.2
    · exact ⟨hdurable, fun userId h => Bool.noConfusion h, trivial⟩
  refine ⟨hinv.honest, fun l world' hturn => ⟨fun hhonest => ?_, fun hlive => ?_⟩⟩
  · obtain ⟨turn, hact, rfl⟩ := hturn
    obtain ⟨i, now, input⟩ := l
    unfold rereadsLive
    dsimp only at hact ⊢
    split
    · next userId now' appended hphase hinput =>
      cases hinput
      rw [hphase] at hact
      cases hact
      cases hstored : world.shared.get now (.operator userId) with
      | none => rfl
      | some record =>
        change Honest (.ensured userId (world.shared.get now (.operator userId)) :: _) at hhonest
        rw [hstored] at hhonest
        exact Option.isNone_iff_eq_none.mpr hhonest.1
    · rfl
  · exact (turn_demotions hinv hlive hturn).honest

/-! ### Sample interleavings -/

def sampleOperators : OperatorWorld := ⟨Keyspace.empty, fun _ => .idle, []⟩

/-- Two first requests race for the bootstrap; the grant is withdrawn only afterwards. -/
def bootstrapRace : List (Nat × Nat × OperatorInput) :=
  [(0, 100, .ensureOperator 9 true), (1, 100, .ensureOperator 9 true), (0, 101, .proceed true),
    (1, 101, .proceed true), (1, 102, .proceed true), (2, 103, .demoteOperator 9),
    (2, 104, .proceed true), (0, 105, .ensureOperator 9 true)]

def sampleGrant : OperatorRecord := ⟨9, .owner, 101, none⟩

theorem demoted_operator_stays_demoted_race :
    ∃ world, Run (Turns operatorTurn) sampleOperators bootstrapRace world ∧
      world.history = [.ensured 9 none, .demoted 9, .ensured 9 (some sampleGrant),
        .ensured 9 (some sampleGrant)] ∧ Honest world.history := by
  have hhistory : (execAll (execWhen (fun world l => rereadsLive world l = true)
      (takeTurn operatorTurn)) sampleOperators bootstrapRace).map (·.history) =
      some [.ensured 9 none, .demoted 9, .ensured 9 (some sampleGrant),
        .ensured 9 (some sampleGrant)] := by decide +kernel
  obtain ⟨world, hrun, hworld⟩ := exists_run (restrict_of_execWhen (turns_of_takeTurn _)) hhistory
  exact ⟨world, hrun.of_restrict, hworld,
    (demoted_operator_stays_demoted (fun _ _ _ => rfl) hrun).1⟩

/-- The same race, with the demotion before the second request writes. -/
def revokedRace : List (Nat × Nat × OperatorInput) :=
  [(0, 100, .ensureOperator 9 true), (1, 100, .ensureOperator 9 true), (0, 101, .proceed true),
    (2, 102, .demoteOperator 9), (2, 103, .proceed true), (1, 104, .proceed true),
    (1, 105, .proceed true)]

/-- The second request is answered the revoked grant. -/
theorem revoked_grant_answered :
    ∃ world, Run (Turns operatorTurn) sampleOperators revokedRace world ∧
      world.history = [.ensured 9 (some { sampleGrant with revokedAt := some 103 }), .demoted 9,
        .ensured 9 (some sampleGrant)] ∧ ¬ Honest world.history := by
  have hhistory : (execAll (takeTurn operatorTurn) sampleOperators revokedRace).map (·.history) =
      some [.ensured 9 (some { sampleGrant with revokedAt := some 103 }), .demoted 9,
        .ensured 9 (some sampleGrant)] := by decide +kernel
  obtain ⟨world, run, hworld⟩ := exists_run (turns_of_takeTurn operatorTurn) hhistory
  refine ⟨world, run, hworld, fun hhonest => ?_⟩
  rw [hworld] at hhonest
  cases hhonest.1

end RustyAuth
