/-
  The writer lease, and the processes that write under it.

  A process takes the lease before it writes.  A server renews it in a task of its own, which gives
  it up as soon as the shutdown is signalled or a renewal fails; requests and workers of the server
  are still under way then, for as long as they like.  A command that runs once never renews.  So a
  process may write beside the next owner.  Where every write comes before the process has given up
  the lease, and less than `writerLeaseSeconds` after it last took or renewed it, each write finds
  the lease its own, and no two processes are in a position to write (`single_writer`).
-/
import RustyAuth.Store.Writers
import RustyAuth.Library.Tasks

namespace RustyAuth

open RustyAuth.Library

/-! ## Processes -/

/-- `drawn` has the tokens that were drawn; no process reads it. -/
structure LeaseState where
  db : Db
  clock : Nat
  drawn : List String

/-- The task of a server that looks after the lease. -/
inductive LeaseTask
  | renewing
  -- the loop was left, and the lease is to be released
  | leaving
  | ended

/-- A process and its token; `since` is when it last took or renewed the lease, which it does not
    read. -/
inductive WriterProcess
  | down
  | server (token : String) (since : Nat) (task : LeaseTask)
  | command (token : String) (since : Nat)

inductive WriterInput
  | tick (now : Nat)
  | serve (token : String)
  | command (token : String)
  | renew
  -- the answer is an error; the datastore may have done what was asked
  | renewFails (done : Bool)
  | shutdown
  | release (done : Bool)
  | mutate (ws : List Write)
  -- also a crash
  | exit

/-- A write of the process with `token`, and who owned the lease at that time. -/
structure LeasedWrite where
  token : String
  owner : Option String
deriving DecidableEq

abbrev WriterTurn := Turn LeaseState WriterProcess LeasedWrite

abbrev WriterWorld := World LeaseState WriterProcess LeasedWrite

namespace LeaseState

variable (s : LeaseState)

def owner : Option String := s.db.get s.clock .writerLease

def exec (ws : List Write) : LeaseState := { s with db := commit s.clock s.db ws }

/-- `SET NX EX`. -/
def acquireWriterLease (token : String) : Option LeaseState :=
  match s.owner with
  | none =>
      some { s.exec [.setEx .writerLease token writerLeaseSeconds] with drawn := token :: s.drawn }
  | some _ => none

/-- `GETEX`: the lease is extended, whoever owns it. -/
def renew : LeaseState :=
  match s.owner with
  | none => s
  | some owner => s.exec [.setEx .writerLease owner writerLeaseSeconds]

/-- `DELIFEQ`. -/
def release (token : String) : LeaseState :=
  if s.owner = some token then s.exec [.del .writerLease] else s

end LeaseState

def WriterProcess.token : WriterProcess → Option String
  | .down => none
  | .server token _ _ => some token
  | .command token _ => some token

/-- A process that starts; tokens are random, so none is drawn twice. -/
def startProcess (s : LeaseState) (token : String) (process : WriterProcess) : Option WriterTurn :=
  if token ∈ s.drawn then none
  else match s.acquireWriterLease token with
    | some s' => some ⟨s', process, []⟩
    | none => some ⟨s, .down, []⟩

def mutateTurn (s : LeaseState) (process : WriterProcess) (ws : List Write) : Option WriterTurn :=
  match process.token with
  | none => none
  | some token =>
      if ws.all fun w => w.key ≠ .writerLease then
        some ⟨s.exec ws, process, [⟨token, s.owner⟩]⟩
      else none

def writerTurn (s : LeaseState) : WriterProcess → WriterInput → Option WriterTurn
  | process, .tick now =>
      if s.clock ≤ now then some ⟨{ s with clock := now }, process, []⟩ else none
  | _, .exit => some ⟨s, .down, []⟩
  | process, .mutate ws => mutateTurn s process ws
  | .down, .serve token => startProcess s token (.server token s.clock .renewing)
  | .down, .command token => startProcess s token (.command token s.clock)
  | .server token since .renewing, .renew =>
      -- a server that has lost the lease does not release it
      some ⟨s.renew, if s.owner = some token then .server token s.clock .renewing
        else .server token since .ended, []⟩
  | .server token since .renewing, .renewFails done =>
      some ⟨if done then s.renew else s, .server token since .leaving, []⟩
  | .server token since .renewing, .shutdown => some ⟨s, .server token since .leaving, []⟩
  | .server token since .leaving, .release done =>
      some ⟨if done then s.release token else s, .server token since .ended, []⟩
  | .command token _, .release done => some ⟨if done then s.release token else s, .down, []⟩
  | _, _ => none

/-! ## Writes in time -/

/-- The token of a process that has not given up the lease, and since when it has it. -/
def WriterProcess.lease : WriterProcess → Option (String × Nat)
  | .server token since .renewing | .server token since .leaving | .command token since =>
      some (token, since)
  | .server _ _ .ended | .down => none

/-- The process has not given up the lease, which lasts.  A server that renews every ten seconds
    is in time until it leaves the loop. -/
def InTime (w : WriterWorld) (i : Nat) : Prop :=
  ∃ lease ∈ (w.task i).lease, w.shared.clock < lease.2 + writerLeaseSeconds

/-- Only such a process writes. -/
def WritesInTime (w : WriterWorld) : Nat × WriterInput → Prop
  | (i, .mutate _) => InTime w i
  | _ => True

instance (w : WriterWorld) (l : Nat × WriterInput) : Decidable (WritesInTime w l) := by
  unfold WritesInTime InTime
  split <;> infer_instance

/-! ## What a turn can do -/

inductive LeaseMove (s : LeaseState) (process : WriterProcess) (input : WriterInput) :
    WriterTurn → Prop
  | quiet (s' : LeaseState) (process' : WriterProcess) (later : s.clock ≤ s'.clock)
      (drawn : s'.drawn = s.drawn)
      (same : ∀ t, s'.db.get t .writerLease = s.db.get t .writerLease)
      (lease : process'.lease = none ∨ process'.lease = process.lease) :
      LeaseMove s process input ⟨s', process', []⟩
  | acquire (token : String) (process' : WriterProcess) (fresh : token ∉ s.drawn)
      (free : s.owner = none) (lease : process'.lease = some (token, s.clock)) :
      LeaseMove s process input ⟨{ s.exec [.setEx .writerLease token writerLeaseSeconds] with
        drawn := token :: s.drawn }, process', []⟩
  | renew (owner : String) (process' : WriterProcess) (owned : s.owner = some owner)
      (lease : process'.lease = none ∨ process'.lease = process.lease ∨
        process.lease.map (·.1) = some owner ∧ process'.lease = some (owner, s.clock)) :
      LeaseMove s process input
        ⟨s.exec [.setEx .writerLease owner writerLeaseSeconds], process', []⟩
  | release (token : String) (process' : WriterProcess) (owned : s.owner = some token)
      (held : process.lease.map (·.1) = some token) (lease : process'.lease = none) :
      LeaseMove s process input ⟨s.exec [.del .writerLease], process', []⟩
  | mutate (ws : List Write) (token : String) (asked : input = .mutate ws)
      (named : process.token = some token) (outside : ∀ w ∈ ws, w.key ≠ .writerLease) :
      LeaseMove s process input ⟨s.exec ws, process, [⟨token, s.owner⟩]⟩

variable {process' : WriterProcess} {turn : WriterTurn} {since : Nat}

section Moves

variable {s : LeaseState} {process : WriterProcess} {input : WriterInput}

theorem leaseMove_on (h : process'.lease = none ∨ process'.lease = process.lease) :
    LeaseMove s process input ⟨s, process', []⟩ :=
  .quiet s process' le_rfl rfl (fun _ => rfl) h

theorem leaseMove_start {token : String} (hlease : process'.lease = some (token, s.clock))
    (h : startProcess s token process' = some turn) : LeaseMove s process input turn := by
  unfold startProcess LeaseState.acquireWriterLease at h
  split at h
  · cases h
  next hfresh =>
    cases howner : s.owner with
    | none =>
      rw [howner] at h
      cases h
      exact .acquire token process' hfresh howner hlease
    | some owner =>
      rw [howner] at h
      cases h
      exact leaseMove_on (.inl rfl)

/-- A renewal that the datastore does, whatever the process makes of the answer. -/
theorem leaseMove_renew (h : process'.lease = none ∨ process'.lease = process.lease ∨
      process.lease.map (·.1) = s.owner ∧ ∃ token, s.owner = some token ∧
        process'.lease = some (token, s.clock)) :
    LeaseMove s process input ⟨s.renew, process', []⟩ := by
  unfold LeaseState.renew
  cases howner : s.owner with
  | none =>
    refine leaseMove_on (h.imp_right fun h => h.resolve_right ?_)
    rintro ⟨_, token, hsome, _⟩
    rw [howner] at hsome
    cases hsome
  | some owner =>
    refine .renew owner process' howner (h.imp_right fun h => h.imp_right ?_)
    rintro ⟨hheld, token, hsome, hlease⟩
    rw [howner] at hheld hsome
    cases hsome
    exact ⟨hheld, hlease⟩

theorem leaseMove_release {token : String} (done : Bool)
    (hheld : process.lease = some (token, since)) (hlease : process'.lease = none) :
    LeaseMove s process input ⟨if done then s.release token else s, process', []⟩ := by
  cases done with
  | false => exact leaseMove_on (.inl hlease)
  | true =>
    show LeaseMove s process input ⟨s.release token, process', []⟩
    unfold LeaseState.release
    split
    · next howned => exact .release token process' howned (by rw [hheld]; rfl) hlease
    · exact leaseMove_on (.inl hlease)

theorem leaseMove_mutate {ws : List Write} (h : mutateTurn s process ws = some turn) :
    LeaseMove s process (.mutate ws) turn := by
  unfold mutateTurn at h
  cases htoken : process.token with
  | none =>
    rw [htoken] at h
    cases h
  | some token =>
    rw [htoken] at h
    obtain ⟨houtside, h⟩ := Option.ite_none_right_eq_some.mp h
    cases h
    simp only [List.all_eq_true, decide_eq_true_eq] at houtside
    exact .mutate ws token rfl htoken houtside

theorem leaseMove_of_turn (h : writerTurn s process input = some turn) :
    LeaseMove s process input turn := by
  cases input with
  | tick now =>
    obtain ⟨hlater, h⟩ := Option.ite_none_right_eq_some.mp h
    cases h
    exact .quiet _ process hlater rfl (fun _ => rfl) (.inr rfl)
  | exit =>
    cases h
    exact leaseMove_on (.inl rfl)
  | mutate ws => exact leaseMove_mutate h
  | serve token =>
    cases process with
    | down => exact leaseMove_start rfl h
    | _ => cases h
  | command token =>
    cases process with
    | down => exact leaseMove_start rfl h
    | _ => cases h
  | renew =>
    obtain _ | ⟨token, since, _ | _ | _⟩ | ⟨token, since⟩ := process <;> cases h
    refine leaseMove_renew ?_
    split
    · next howned => exact .inr (.inr ⟨howned.symm, token, howned, rfl⟩)
    · exact .inl rfl
  | renewFails done =>
    obtain _ | ⟨token, since, _ | _ | _⟩ | ⟨token, since⟩ := process <;> cases h
    cases done with
    | false => exact leaseMove_on (.inr rfl)
    | true => exact leaseMove_renew (.inr (.inl rfl))
  | shutdown =>
    obtain _ | ⟨token, since, _ | _ | _⟩ | ⟨token, since⟩ := process <;> cases h
    exact leaseMove_on (.inr rfl)
  | release done =>
    obtain _ | ⟨token, since, _ | _ | _⟩ | ⟨token, since⟩ := process <;> cases h
    · exact leaseMove_release done rfl rfl
    · exact leaseMove_release done rfl rfl

end Moves

/-! ## The invariant -/

/-- Whoever has not given up the lease has it until it lapses. -/
structure Leased (w : WriterWorld) : Prop where
  known : ∀ i token since, (w.task i).lease = some (token, since) →
    token ∈ w.shared.drawn ∧ since ≤ w.shared.clock
  apart : ∀ i j token since since', (w.task i).lease = some (token, since) →
    (w.task j).lease = some (token, since') → i = j
  held : ∀ i token since, (w.task i).lease = some (token, since) →
    ∀ t, w.shared.clock ≤ t → t < since + writerLeaseSeconds →
      w.shared.db.get t .writerLease = some token
  fenced : ∀ write ∈ w.history, write.owner = some write.token

theorem WriterProcess.token_of_lease {process : WriterProcess} {token : String}
    (h : process.lease = some (token, since)) : process.token = some token := by
  obtain _ | ⟨_, _, _ | _ | _⟩ | _ := process <;> cases h <;> rfl

section Steps

variable {w : WriterWorld} {i : Nat}

theorem LeaseState.get_setEx (s : LeaseState) (t : Nat) (token : String) :
    (s.exec [.setEx .writerLease token writerLeaseSeconds]).db.get t .writerLease =
      if t < s.clock + writerLeaseSeconds then some token else none := by
  show (commit _ _ _).get t _ = _
  rw [commit_cons, commit_nil, Command.get_setEx_self]

theorem Leased.owner (h : Leased w) {token : String}
    (hlease : (w.task i).lease = some (token, since))
    (hlasts : w.shared.clock < since + writerLeaseSeconds) : w.shared.owner = some token :=
  h.held i token since hlease _ le_rfl hlasts

/-- A turn that takes no lease. -/
theorem Leased.pass (h : Leased w)
    (hlease : turn.phase.lease = none ∨ turn.phase.lease = (w.task i).lease)
    (hclock : w.shared.clock ≤ turn.shared.clock) (hdrawn : turn.shared.drawn = w.shared.drawn)
    (hheld : ∀ j token since, (w.task j).lease = some (token, since) →
      (j = i → turn.phase.lease ≠ none) → ∀ t, turn.shared.clock ≤ t →
        t < since + writerLeaseSeconds → turn.shared.db.get t .writerLease = some token)
    (hfenced : ∀ write ∈ turn.observed, write.owner = some write.token) :
    Leased (w.take i turn) where
  known j token since hj := by
    obtain ⟨hmem, hpast⟩ := h.known j token since (owner_of_take hlease hj)
    exact ⟨hdrawn ▸ hmem, hpast.trans hclock⟩
  apart j k token since since' hj hk :=
    h.apart j k token since since' (owner_of_take hlease hj) (owner_of_take hlease hk)
  held j token since hj := by
    refine hheld j token since (owner_of_take hlease hj) fun hji hnone => ?_
    rw [hji, take_task_self, hnone] at hj
    cases hj
  fenced write hwrite := (List.mem_append.mp hwrite).elim (hfenced write) (h.fenced write)

/-- A turn that takes or renews the lease for its process, which nobody else has. -/
theorem Leased.take (h : Leased w) {token : String}
    (hlease : turn.phase.lease = some (token, w.shared.clock))
    (hclock : turn.shared.clock = w.shared.clock) (hmem : token ∈ turn.shared.drawn)
    (hdrawn : w.shared.drawn ⊆ turn.shared.drawn) (hquiet : turn.observed = [])
    (hget : ∀ t < w.shared.clock + writerLeaseSeconds,
      turn.shared.db.get t .writerLease = some token)
    (hothers : ∀ j other since, j ≠ i → (w.task j).lease = some (other, since) →
      other ≠ token ∧ since + writerLeaseSeconds ≤ w.shared.clock) : Leased (w.take i turn) := by
  have hcases : ∀ j other since, ((w.take i turn).task j).lease = some (other, since) →
      j = i ∧ other = token ∧ since = w.shared.clock ∨
        j ≠ i ∧ (w.task j).lease = some (other, since) := by
    intro j other since hj
    by_cases hji : j = i
    · rw [hji, take_task_self, hlease] at hj
      cases hj
      exact .inl ⟨hji, rfl, rfl⟩
    · rw [take_task_of_ne hji] at hj
      exact .inr ⟨hji, hj⟩
  refine ⟨?_, ?_, ?_, ?_⟩
  · intro j other since hj
    obtain ⟨_, rfl, rfl⟩ | ⟨_, hold⟩ := hcases j other since hj
    · exact ⟨hmem, hclock.ge⟩
    · obtain ⟨hknown, hpast⟩ := h.known j other since hold
      exact ⟨hdrawn hknown, hpast.trans hclock.ge⟩
  · intro j k other since since' hj hk
    obtain ⟨rfl, rfl, _⟩ | ⟨hji, hold⟩ := hcases j other since hj
    · obtain ⟨rfl, _⟩ | ⟨hki, hold⟩ := hcases k _ since' hk
      · rfl
      · exact absurd rfl (hothers k _ since' hki hold).1
    · obtain ⟨rfl, rfl, _⟩ | ⟨_, hold'⟩ := hcases k other since' hk
      · exact absurd rfl (hothers j _ since hji hold).1
      · exact h.apart j k other since since' hold hold'
  · intro j other since hj t hlater hlasts
    obtain ⟨_, rfl, rfl⟩ | ⟨hji, hold⟩ := hcases j other since hj
    · exact hget t hlasts
    · have hlapsed := (hothers j other since hji hold).2
      have hlater : w.shared.clock ≤ t := hclock.symm.trans_le hlater
      omega
  · intro write hwrite
    refine h.fenced write ?_
    simpa only [World.take, hquiet, List.nil_append] using hwrite

theorem Leased.step {w' : WriterWorld} {l : Nat × WriterInput} (h : Leased w)
    (hintime : WritesInTime w l) (hturn : Turns writerTurn w l w') : Leased w' := by
  obtain ⟨i, input⟩ := l
  obtain ⟨turn, hact, rfl⟩ := hturn
  cases leaseMove_of_turn hact with
  | quiet s' process' later drawn same lease =>
    refine h.pass lease later drawn (fun j token since hj _ t hlater hlasts => ?_) nofun
    rw [same]
    exact h.held j token since hj t (later.trans hlater) hlasts
  | acquire token process' fresh free lease =>
    refine h.take lease rfl List.mem_cons_self (fun _ => List.mem_cons_of_mem _) rfl
      (fun t ht => (w.shared.get_setEx t token).trans (if_pos ht)) fun j other since _ hj => ?_
    refine ⟨fun heq => fresh (heq ▸ (h.known j other since hj).1), ?_⟩
    by_contra hlt
    rw [h.owner hj (not_le.mp hlt)] at free
    cases free
  | renew owner process' owned lease =>
    have hextended : ∀ j token since, (w.task j).lease = some (token, since) →
        ∀ t, w.shared.clock ≤ t → t < since + writerLeaseSeconds →
          (w.shared.exec [.setEx .writerLease owner writerLeaseSeconds]).db.get t .writerLease =
            some token := by
      intro j token since hj t hlater hlasts
      have hpast := (h.known j token since hj).2
      rw [LeaseState.get_setEx, if_pos (by omega), ← owned]
      exact h.owner hj (by omega)
    obtain hnone | hsame | ⟨hheld, hnew⟩ := lease
    · exact h.pass (.inl hnone) le_rfl rfl
        (fun j token since hj _ => hextended j token since hj) nofun
    · exact h.pass (.inr hsame) le_rfl rfl
        (fun j token since hj _ => hextended j token since hj) nofun
    · obtain ⟨⟨own, since⟩, hi, hown⟩ := Option.map_eq_some_iff.mp hheld
      obtain rfl : own = owner := hown
      refine h.take hnew rfl (h.known i own since hi).1 (List.Subset.refl _) rfl
        (fun t ht => (w.shared.get_setEx t own).trans (if_pos ht)) fun j other since' hji hj => ?_
      have hne : other ≠ own := fun heq => hji (h.apart j i own since' since (heq ▸ hj) hi)
      refine ⟨hne, not_lt.mp fun hlt => hne ?_⟩
      exact Option.some.inj ((h.owner hj hlt).symm.trans owned)
  | release token process' owned held lease =>
    obtain ⟨⟨own, since⟩, hi, hown⟩ := Option.map_eq_some_iff.mp held
    obtain rfl : own = token := hown
    refine h.pass (.inl lease) le_rfl rfl (fun j other since' hj hnone t hlater hlasts => ?_) nofun
    -- whoever has the lease for longer is the one that gives it up
    have hsame := Option.some.inj ((h.owner hj (hlater.trans_lt hlasts)).symm.trans owned)
    exact absurd lease (hnone (h.apart j i own since' since (hsame ▸ hj) hi))
  | mutate ws token asked named outside =>
    subst asked
    obtain ⟨⟨own, since⟩, hi, hlasts⟩ := hintime
    refine h.pass (.inr rfl) le_rfl rfl (fun j other since' hj _ t hlater hlasts' => ?_) ?_
    · show (commit _ _ ws).get t _ = _
      rw [get_commit_of_forall_ne _ t ws _ _ fun w hw => (outside w hw).symm]
      exact h.held j other since' hj t hlater hlasts'
    · rw [List.forall_mem_singleton]
      rw [WriterProcess.token_of_lease hi] at named
      rw [← Option.some.inj named]
      exact h.owner hi hlasts

end Steps

/-! ## The theorem -/

/-- Every write found the lease its own, and no two processes are in a position to write. -/
structure SingleWriter (w : WriterWorld) : Prop where
  fenced : ∀ write ∈ w.history, write.owner = some write.token
  alone : ∀ i j, InTime w i → InTime w j → i = j

theorem Leased.singleWriter {w : WriterWorld} (h : Leased w) : SingleWriter w := by
  refine ⟨h.fenced, ?_⟩
  rintro i j ⟨⟨token, since⟩, hi, hlasts⟩ ⟨⟨other, since'⟩, hj, hlasts'⟩
  cases (h.owner hi hlasts).symm.trans (h.owner hj hlasts')
  exact h.apart i j token since since' hi hj

def writersFrom (s : LeaseState) : WriterWorld := ⟨s, fun _ => .down, []⟩

/-- However processes start, renew, stop and stall: as long as each writes only while its last
    renewal is younger than the lease, every write finds the lease its own, and never are two
    processes in a position to write. -/
theorem single_writer (s : LeaseState) {ls : List (Nat × WriterInput)} {w : WriterWorld}
    (run : Run (Restrict (Turns writerTurn) WritesInTime) (writersFrom s) ls w) :
    SingleWriter w := by
  have hstart : Leased (writersFrom s) := ⟨nofun, nofun, nofun, nofun⟩
  exact (run.invariant (fun _ _ _ h hstep => h.step hstep.1 hstep.2) hstart).singleWriter

/-! ## Two overlaps -/

def leaseStart : LeaseState := ⟨Keyspace.empty, 0, []⟩

/-- A server that was told to stop writes for a request that is under way, beside the server that
    has taken its place; a command writes when its lease has lapsed. -/
theorem writers_overlap :
    (∃ ls w, Run (Turns writerTurn) (writersFrom leaseStart) ls w ∧ w.shared.clock = 0 ∧
      w.history = [⟨"old", some "new"⟩, ⟨"new", some "new"⟩, ⟨"old", some "old"⟩]) ∧
    ∃ ls w, Run (Turns writerTurn) (writersFrom leaseStart) ls w ∧
      w.history = [⟨"command", some "server"⟩] := by
  have hserver : (execAll (takeTurn writerTurn) (writersFrom leaseStart)
      [(0, .serve "old"), (0, .renew), (0, .mutate [.set .eventSequence 1]), (0, .shutdown),
        (0, .release true), (1, .serve "new"), (1, .mutate [.set .eventSequence 2]),
        (0, .mutate [.set .eventSequence 2])]).map (fun w => (w.shared.clock, w.history)) =
      some (0, [⟨"old", some "new"⟩, ⟨"new", some "new"⟩, ⟨"old", some "old"⟩]) := by
    decide +kernel
  have hcommand : (execAll (takeTurn writerTurn) (writersFrom leaseStart)
      [(0, .command "command"), (0, .tick 60), (1, .serve "server"), (1, .renew),
        (0, .mutate [.set .eventSequence 1])]).map (·.history) =
      some [⟨"command", some "server"⟩] := by
    decide +kernel
  obtain ⟨w, run, hseen⟩ := exists_run (turns_of_takeTurn _) hserver
  obtain ⟨w', run', hhistory⟩ := exists_run (turns_of_takeTurn _) hcommand
  obtain ⟨hclock, hseen⟩ := Prod.mk.inj hseen
  exact ⟨⟨_, w, run, hclock, hseen⟩,
    _, w', run', hhistory⟩

/-- A server that stops writing before it releases the lease, and a command after it. -/
theorem single_writer_handover : ∃ ls w,
    Run (Restrict (Turns writerTurn) WritesInTime) (writersFrom leaseStart) ls w ∧
    w.history = [⟨"next", some "next"⟩, ⟨"first", some "first"⟩] ∧ SingleWriter w := by
  have hexec : (execAll (execWhen WritesInTime (takeTurn writerTurn)) (writersFrom leaseStart)
      [(0, .serve "first"), (0, .tick 10), (0, .renew), (0, .shutdown),
        (0, .mutate [.set .eventSequence 1]), (0, .release true), (0, .exit),
        (1, .command "next"), (1, .tick 69), (1, .mutate [.set .eventSequence 2])]).map
      (·.history) = some [⟨"next", some "next"⟩, ⟨"first", some "first"⟩] := by
    decide +kernel
  obtain ⟨w, hrun, hhistory⟩ := exists_run (restrict_of_execWhen (turns_of_takeTurn _)) hexec
  exact ⟨_, w, hrun, hhistory, single_writer leaseStart hrun⟩

end RustyAuth
