/-
  What `session` accepts.

  Every accepted request comes before the session's absolute expiry and within the idle timeout
  of a creation, a step-up or an accepted request of the same session (`AcceptedInTime`),
  whatever becomes of the observed times on their way to the store.  The invariant: a stored
  record, a stored activity, a touch on its way and a call under way each carry a time at which
  the session was active (`Backed`, `TaskBacked`).
-/
import RustyAuth.Session.System

namespace RustyAuth

open RustyAuth.Library

/-- The event says that the session under the digest was active at `u`. -/
def SessionEvent.ActiveAt (digest : String) (u : Nat) : SessionEvent → Prop
  | .created d session => d = digest ∧ session.createdAt = u
  | .steppedUp d session => d = digest ∧ session.stepUpAt = some u
  | .accepted _ d _ current => d = digest ∧ current = u
  | _ => False

def Active (log : List SessionEvent) (digest : String) (u : Nat) : Prop :=
  ∃ event ∈ log, event.ActiveAt digest u

/-- What a step-up or a request leaves of a session as it is. -/
structure SameSession (a b : Session) : Prop where
  id : a.id = b.id
  userId : a.userId = b.userId
  sessionVersion : a.sessionVersion = b.sessionVersion
  absoluteExpiresAt : a.absoluteExpiresAt = b.absoluteExpiresAt

def Created (log : List SessionEvent) (digest : String) (session : Session) : Prop :=
  ∃ created, .created digest created ∈ log ∧ SameSession created session

/-- Each accepted request is in time. -/
def AcceptedInTime (idleSeconds : Nat) : List SessionEvent → Prop
  | [] => True
  | .accepted _ digest session t :: earlier =>
      (t < session.absoluteExpiresAt ∧ Created earlier digest session ∧
        ∃ u, Active earlier digest u ∧ u ≤ t ∧ t < u + idleSeconds) ∧
      AcceptedInTime idleSeconds earlier
  | _ :: earlier => AcceptedInTime idleSeconds earlier

/-! ## The invariant -/

structure Known (log : List SessionEvent) (clock : Nat) (digest : String) (session : Session) :
    Prop where
  created : Created log digest session
  active : Active log digest session.lastSeenAt
  seen : session.lastSeenAt ≤ clock

def Backed (log : List SessionEvent) (clock : Nat) : ∀ k : Key, Value k → Prop
  | .session digest, session => Known log clock digest session
  | .sessionActivity digest, observedAt => Active log digest observedAt
  | _, _ => True

structure StateBacked (idleSeconds : Nat) (s : SessionState) : Prop where
  stored : ∀ k t v, s.db.get t k = some v → Backed s.log s.clock k v
  touches : ∀ touch ∈ s.touches, Active s.log touch.digest touch.observedAt
  accepted : AcceptedInTime idleSeconds s.log

def TaskBacked (s : SessionState) : SessionTask → Prop
  | .creating _ session _ =>
      session.lastSeenAt = session.createdAt ∧ session.createdAt ≤ s.clock
  | .fetched since digest session activity =>
      Known s.log s.clock digest session ∧ (∀ u, activity = some u → Active s.log digest u) ∧
        since < s.log.length
  | .live since digest session current =>
      Created s.log digest session ∧ Active s.log digest session.lastSeenAt ∧
        session.lastSeenAt ≤ current ∧ since < s.log.length
  | .steppingUp digest session _ => Created s.log digest session
  | .storing digest _ stepped _ =>
      Created s.log digest stepped ∧ stepped.stepUpAt = some stepped.lastSeenAt ∧
        stepped.lastSeenAt ≤ s.clock
  | _ => True

/-- More has happened, and it is not earlier. -/
structure Later (s s' : SessionState) : Prop where
  log : ∃ events, s'.log = events ++ s.log
  clock : s.clock ≤ s'.clock

theorem Later.refl (s : SessionState) : Later s s := ⟨⟨[], rfl⟩, Nat.le_refl _⟩

theorem Later.write (s : SessionState) (ws : List Write) (events : List SessionEvent) :
    Later s (s.write ws events) :=
  ⟨⟨events, rfl⟩, Nat.le_refl _⟩

variable {digest : String} {session : Session} {task : SessionTask}

section Mono

variable {s s' : SessionState} (h : Later s s')

include h

theorem Later.mem {event : SessionEvent} (hmem : event ∈ s.log) : event ∈ s'.log := by
  obtain ⟨events, hlog⟩ := h.log
  rw [hlog]
  exact List.mem_append_right _ hmem

theorem Later.length : s.log.length ≤ s'.log.length := by
  obtain ⟨events, hlog⟩ := h.log
  rw [hlog, List.length_append]
  omega

theorem Later.active {u : Nat} (hactive : Active s.log digest u) :
    Active s'.log digest u := by
  obtain ⟨event, hmem, hat⟩ := hactive
  exact ⟨event, h.mem hmem, hat⟩

theorem Later.created (hcreated : Created s.log digest session) :
    Created s'.log digest session := by
  obtain ⟨created, hmem, hsame⟩ := hcreated
  exact ⟨created, h.mem hmem, hsame⟩

theorem Later.known (hknown : Known s.log s.clock digest session) :
    Known s'.log s'.clock digest session :=
  ⟨h.created hknown.created, h.active hknown.active, Nat.le_trans hknown.seen h.clock⟩

theorem Later.backed {k : Key} {v : Value k} (hbacked : Backed s.log s.clock k v) :
    Backed s'.log s'.clock k v := by
  cases k with
  | session digest => exact h.known hbacked
  | sessionActivity digest => exact h.active hbacked
  | _ => trivial

theorem TaskBacked.later (htask : TaskBacked s task) : TaskBacked s' task := by
  have hclock := h.clock
  cases task with
  | creating digest session absoluteSeconds => exact ⟨htask.1, Nat.le_trans htask.2 hclock⟩
  | fetched since digest session activity =>
    obtain ⟨hknown, hactivity, hsince⟩ := htask
    exact ⟨h.known hknown, fun u hu => h.active (hactivity u hu), Nat.lt_of_lt_of_le hsince h.length⟩
  | live since digest session current =>
    obtain ⟨hcreated, hactive, hseen, hsince⟩ := htask
    exact ⟨h.created hcreated, h.active hactive, hseen, Nat.lt_of_lt_of_le hsince h.length⟩
  | steppingUp digest session credentialId => exact h.created htask
  | storing digest session stepped seconds =>
    obtain ⟨hcreated, hstep, hseen⟩ := htask
    exact ⟨h.created hcreated, hstep, Nat.le_trans hseen hclock⟩
  | _ => trivial

end Mono

/-- Writing what is backed, with events that accept nothing, keeps the state backed. -/
theorem StateBacked.write {idleSeconds : Nat} {s : SessionState} (h : StateBacked idleSeconds s)
    {ws : List Write} {events : List SessionEvent}
    (hws : ∀ w ∈ ws, w.Stores (Backed (events ++ s.log) s.clock))
    (hevents : AcceptedInTime idleSeconds (events ++ s.log)) :
    StateBacked idleSeconds (s.write ws events) := by
  have later := Later.write s ws events
  refine ⟨?_, fun touch htouch => later.active (h.touches touch htouch), hevents⟩
  exact forall_get_commit s.clock ws s.db hws fun k t v hv => later.backed (h.stored k t v hv)

/-- The lock is no part of it. -/
theorem StateBacked.lock {idleSeconds : Nat} {s : SessionState} (h : StateBacked idleSeconds s)
    (locked : Bool) : StateBacked idleSeconds { s with locked } :=
  ⟨h.stored, h.touches, h.accepted⟩

theorem stores_of_not_session {log : List SessionEvent} {clock : Nat} {w : Write}
    (h : w.key.isSession = false) : w.Stores (Backed log clock) := by
  cases w with
  | del k => trivial
  | set k v => cases k <;> trivial
  | setEx k v seconds => cases k <;> trivial
  | setKeep k v => cases k <;> trivial

/-! ## Each call keeps it -/

/-- What a turn leaves is backed, and nothing that has happened is lost. -/
structure TurnBacked (idleSeconds : Nat) (s : SessionState) (turn : SessionTurn) : Prop where
  state : StateBacked idleSeconds turn.shared
  later : Later s turn.shared
  task : TaskBacked turn.shared turn.phase

section Calls

variable {ctx : SessionContext} {s : SessionState} (h : StateBacked ctx.idleSeconds s)

include h

/-- A turn that changes nothing but the phase. -/
theorem TurnBacked.stay (htask : TaskBacked s task) :
    TurnBacked ctx.idleSeconds s ⟨s, task, []⟩ :=
  ⟨h, Later.refl s, htask⟩

/-- A session is created with the time it was prepared at. -/
theorem created_backed {seconds : Nat} {others : List Write}
    (hseen : session.lastSeenAt = session.createdAt) (hclock : session.createdAt ≤ s.clock)
    (hothers : ∀ w ∈ others, w.key.isSession = false) :
    StateBacked ctx.idleSeconds
      (s.write (.setEx (.session digest) session seconds :: others) [.created digest session]) := by
  apply h.write
  · rw [List.forall_mem_cons]
    refine ⟨⟨⟨session, List.mem_cons_self, ⟨rfl, rfl, rfl, rfl⟩⟩, ?_, hseen ▸ hclock⟩, ?_⟩
    · exact ⟨_, List.mem_cons_self, rfl, hseen.symm⟩
    · exact fun w hw => stores_of_not_session (hothers w hw)
  · exact h.accepted

theorem read_backed (hrecord : s.db.get s.clock (.session digest) = some session) :
    TurnBacked ctx.idleSeconds s ⟨{ s with log := .read digest :: s.log },
      .fetched s.log.length digest session (s.db.get s.clock (.sessionActivity digest)), []⟩ := by
  have later : Later s { s with log := .read digest :: s.log } := ⟨⟨[_], rfl⟩, Nat.le_refl _⟩
  refine ⟨⟨?_, ?_, h.accepted⟩, later, ?_, ?_, Nat.lt_succ_self _⟩
  · intro k t v hv
    exact later.backed (h.stored k t v hv)
  · intro touch htouch
    exact later.active (h.touches touch htouch)
  · exact later.known (h.stored (.session digest) s.clock session hrecord)
  · intro u hactivity
    exact later.active (h.stored (.sessionActivity digest) s.clock u hactivity)

omit h in
theorem inTime_backed {since : Nat} {activity : Option Nat}
    (htask : TaskBacked s (.fetched since digest session activity)) :
    TaskBacked s (.live since digest (applySessionActivity session activity s.clock) s.clock) := by
  obtain ⟨hknown, hactivity, hsince⟩ := htask
  obtain ⟨created, hmem, hsame⟩ := hknown.created
  obtain ⟨lastSeenAt, heq⟩ := applySessionActivity_eq session activity s.clock
  have hcreated : Created s.log digest (applySessionActivity session activity s.clock) := by
    rw [heq]
    exact ⟨created, hmem, hsame.id, hsame.userId, hsame.sessionVersion, hsame.absoluteExpiresAt⟩
  rcases applySessionActivity_lastSeenAt session activity s.clock with hsame | ⟨u, hu, hle, hseen⟩
  · exact ⟨hcreated, hsame ▸ hknown.active, hsame ▸ hknown.seen, hsince⟩
  · exact ⟨hcreated, hseen ▸ hactivity u hu, hseen ▸ hle, hsince⟩

theorem accept_backed {since : Nat} {current : Nat}
    (htask : TaskBacked s (.live since digest session current))
    (hlive : sessionExpired session ctx.idleSeconds current = false) :
    TurnBacked ctx.idleSeconds s (acceptSession ctx s since digest session current) := by
  obtain ⟨hcreated, hactive, hseen, _⟩ := htask
  rw [sessionExpired_eq_false] at hlive
  have later : Later s (acceptSession ctx s since digest session current).shared :=
    ⟨⟨[_], rfl⟩, Nat.le_refl _⟩
  refine ⟨⟨?_, ?_, ?_⟩, later, trivial⟩
  · intro k t v hv
    exact later.backed (h.stored k t v hv)
  · intro touch htouch
    have hcases : touch.digest = digest ∧ touch.observedAt = current ∨ touch ∈ s.touches := by
      unfold acceptSession at htouch
      dsimp only at htouch
      split at htouch
      · rcases List.mem_cons.mp htouch with rfl | hold
        · exact Or.inl ⟨rfl, rfl⟩
        · exact Or.inr hold
      · exact Or.inr htouch
    rcases hcases with ⟨rfl, rfl⟩ | hold
    · exact ⟨_, List.mem_cons_self, rfl, rfl⟩
    · exact later.active (h.touches touch hold)
  · refine ⟨⟨hlive.1, ?_, session.lastSeenAt, hactive, hseen, ?_⟩, h.accepted⟩
    · obtain ⟨created, hmem, hsame⟩ := hcreated
      exact ⟨created, hmem, hsame.id, hsame.userId, hsame.sessionVersion, hsame.absoluteExpiresAt⟩
    · exact Nat.lt_of_lt_of_le hlive.2 (satAdd_le _ _)

theorem del_backed (k : Key) (events : List SessionEvent)
    (hevents : AcceptedInTime ctx.idleSeconds (events ++ s.log)) :
    StateBacked ctx.idleSeconds (s.write [.del k] events) := by
  refine h.write ?_ hevents
  intro w hw
  rw [List.mem_singleton.mp hw]
  trivial

theorem store_backed {stepped : Session} {seconds : Nat}
    (htask : TaskBacked s (.storing digest session stepped seconds)) :
    TurnBacked ctx.idleSeconds s (storeStepUp s digest stepped seconds) := by
  obtain ⟨⟨created, hmem, hsame⟩, hstep, hseen⟩ := htask
  refine ⟨h.write ?_ h.accepted, Later.write s _ _, trivial⟩
  simp only [List.forall_mem_cons]
  refine ⟨⟨?_, ⟨_, List.mem_cons_self, rfl, hstep⟩, hseen⟩, trivial, List.forall_mem_nil _⟩
  exact ⟨created, List.mem_cons_of_mem _ hmem, hsame⟩

/-- Every turn of a call keeps what is backed backed. -/
theorem sessionStep_backed {input : SessionInput} {turn : SessionTurn} (htask : TaskBacked s task)
    (hstep : SessionStep ctx s task input turn) :
    TurnBacked ctx.idleSeconds s turn := by
  cases hstep with
  | @tick _ now hclock =>
    have later : Later s { s with clock := now } := ⟨⟨[], rfl⟩, hclock⟩
    exact ⟨⟨fun k t v hv => later.backed (h.stored k t v hv), h.touches, h.accepted⟩, later,
      htask.later later⟩
  | stop _ _ locked => exact ⟨h.lock locked, ⟨⟨[], rfl⟩, Nat.le_refl _⟩, trivial⟩
  | hold => exact TurnBacked.stay h trivial
  | prepare hprepare =>
    cases hprepare
    exact TurnBacked.stay h ⟨rfl, Nat.le_refl _⟩
  | create =>
    exact ⟨created_backed h htask.1 htask.2 (List.forall_mem_nil _), Later.write s _ _, trivial⟩
  | append events =>
    refine ⟨h.write ?_ h.accepted, Later.write s _ _, trivial⟩
    exact fun w hw => stores_of_not_session (isSession_of_mem_queueEvents hw)
  | login events c hnow hprepared hread hresult hprepare =>
    cases hprepare
    refine ⟨h.write ?_ h.accepted, Later.write s _ _, trivial⟩
    simp only [SessionOp.commands, List.forall_mem_append, List.forall_mem_cons]
    refine ⟨⟨trivial, ⟨⟨_, List.mem_cons_self, ⟨rfl, rfl, rfl, rfl⟩⟩,
      ⟨_, List.mem_cons_self, rfl, rfl⟩, hprepared⟩, List.forall_mem_nil _⟩, ?_⟩
    exact fun w hw => stores_of_not_session (isSession_of_mem_queueEvents hw)
  | read hrecord => exact read_backed h hrecord
  | expired => exact TurnBacked.stay h trivial
  | inTime hlive => exact TurnBacked.stay h (inTime_backed htask)
  | reject => exact TurnBacked.stay h trivial
  | accept hread hvalid => exact accept_backed h htask (sessionVerdict_eq_valid.mp hvalid).1
  | delete _ _ digest => exact ⟨del_backed h _ _ h.accepted, Later.write s _ _, trivial⟩
  | forget => exact ⟨del_backed h _ _ h.accepted, Later.write s _ _, trivial⟩
  | stepUp hrecord =>
    refine ⟨h.lock true, ⟨⟨[], rfl⟩, Nat.le_refl _⟩, ?_⟩
    exact (h.stored (.session _) s.clock _ hrecord).created
  | lapsed => exact TurnBacked.stay h trivial
  | decide =>
    obtain ⟨created, hmem, hsame⟩ := htask
    refine TurnBacked.stay h ⟨⟨created, hmem, ?_⟩, rfl, Nat.le_refl _⟩
    exact ⟨hsame.id, hsame.userId, hsame.sessionVersion, hsame.absoluteExpiresAt⟩
  | expire =>
    exact ⟨(del_backed h _ [] h.accepted).lock false, ⟨⟨[], rfl⟩, Nat.le_refl _⟩, trivial⟩
  | store => exact store_backed h htask
  | @account _ request _ op hrun =>
    refine ⟨h.write ?_ ?_, Later.write s _ _, trivial⟩
    · exact fun w hw => stores_of_not_session (op.isSession_of_mem_commands w hw)
    · cases request <;> exact h.accepted
  | touch hreceived =>
    refine ⟨h.write ?_ h.accepted, Later.write s _ _, trivial⟩
    intro w hw
    obtain ⟨touch, htouch, rfl⟩ := mem_sessionTouchPipeline hw
    exact h.touches touch (hreceived touch htouch)

end Calls

/-! ## Runs -/

/-- A database without sessions. -/
def NoSessions (db : Db) : Prop := ∀ (k : Key) t, k.isSession = true → db.get t k = none

abbrev WorldBacked (ctx : SessionContext) (world : SessionWorld) : Prop :=
  Inv (fun s _ => StateBacked ctx.idleSeconds s) TaskBacked world

theorem worldBacked_start (ctx : SessionContext) {db : Db} (hdb : NoSessions db) (clock : Nat) :
    WorldBacked ctx (sessionStart db clock) := by
  refine ⟨⟨?_, ?_, trivial⟩, fun _ => trivial⟩
  · intro k t v hv
    cases k with
    | session digest => exact absurd ((hdb (.session digest) t rfl).symm.trans hv) (by simp)
    | sessionActivity digest =>
      exact absurd ((hdb (.sessionActivity digest) t rfl).symm.trans hv) (by simp)
    | _ => trivial
  · intro touch htouch
    cases htouch

theorem worldBacked_turns {ctx : SessionContext} {world world' : SessionWorld}
    {l : Nat × SessionInput} (h : WorldBacked ctx world) (hturn : SessionTurns ctx world l world') :
    WorldBacked ctx world' := by
  refine turns_inv h hturn fun turn hact => ?_
  have hbacked := sessionStep_backed h.shared (h.tasks l.1) (sessionTurn_step hact)
  exact ⟨hbacked.state, hbacked.task, fun _ htask => htask.later hbacked.later⟩

theorem worldBacked_run {ctx : SessionContext} {world world' : SessionWorld}
    {ls : List (Nat × SessionInput)} (run : Run (SessionTurns ctx) world ls world')
    (h : WorldBacked ctx world) : WorldBacked ctx world' :=
  run.invariant (fun _ _ _ h hturn => worldBacked_turns h hturn) h

end RustyAuth
