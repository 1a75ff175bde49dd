/-
  How early an idle session may end.

  A request that is accepted sends its time to the writer of touches once in a touch interval, so
  an accepted time is at most one interval (`touchSlack`) ahead of a time that was sent.  Where
  each request finds the latest time that was sent (`FindsLatest`), a session therefore lives on
  for the idle window less the slack.  The writer collects touches for a while and may lose them,
  and `session` compares the clock with what is stored: a request just before the end of the
  window does not keep the next one alive until its touch has been written.
-/
import RustyAuth.Session.Touches

namespace RustyAuth

open RustyAuth.Library

/-- The smaller of five minutes and a sixth of the idle window. -/
def touchSlack (idleSeconds : Nat) : Nat := min (5 * 60) (idleSeconds / 6)

variable {session : Session} {log events : List SessionEvent} {s s' : SessionState}
  {ws : List Write} {seconds since current : Nat} {d : String}

theorem le_of_not_sessionTouchDue {idleSeconds now : Nat}
    (h : sessionTouchDue session idleSeconds now = false) :
    now ≤ session.lastSeenAt + touchSlack idleSeconds := by
  unfold sessionTouchDue sessionTouchInterval maxSessionTouchIntervalSeconds
    sessionTouchesPerIdleWindow at h
  rw [decide_eq_false_iff_not] at h
  unfold touchSlack
  omega

/-! ## What was sent to the store -/

/-- The time a creation or a step-up writes into the record. -/
def SessionEvent.seenAt (digest : String) : SessionEvent → Option Nat
  | .created d session => if d = digest then some session.lastSeenAt else none
  | .steppedUp d session => if d = digest then some session.lastSeenAt else none
  | _ => none

/-- The times that were written into the record, or sent to the writer. -/
def SessionState.sentTimes (s : SessionState) (digest : String) : List Nat :=
  s.log.filterMap (·.seenAt digest) ++
    (s.touches.filter fun touch => touch.digest = digest).map (·.observedAt)

def SessionEvent.creation (digest : String) : SessionEvent → Option Session
  | .created d session => if d = digest then some session else none
  | _ => none

/-- The sessions that were created under the digest. -/
def creations (log : List SessionEvent) (digest : String) : List Session :=
  log.filterMap (·.creation digest)

theorem mem_creations {digest : String} :
    session ∈ creations log digest ↔ .created digest session ∈ log := by
  unfold creations
  rw [List.mem_filterMap]
  constructor
  · intro ⟨event, hmem, hcreation⟩
    cases event with
    | created d created =>
      obtain ⟨hd, heq⟩ := Option.ite_none_right_eq_some.mp hcreation
      cases heq
      exact hd ▸ hmem
    | _ => cases hcreation
  · intro hmem
    exact ⟨_, hmem, if_pos rfl⟩

/-! ## Turns that disturb nothing and find the latest time -/

/-- The account has the version of the session, and the passkey that it is bound to. -/
def AccountHolds (s : SessionState) (session : Session) : Prop :=
  match s.db.user s.clock session.userId with
  | .ok (some user) => session.sessionVersion = user.sessionVersion ∧
      ∀ credentialId ∈ session.currentCredentialId, credentialId ∈ user.passkeys.map (·.id)
  | _ => False

/-- The session under the digest is not at its absolute expiry, is not signed out, and its
    account holds it. -/
def Untroubled (ctx : SessionContext) (digest : String) (s : SessionState) (task : SessionTask)
    (input : SessionInput) : Prop :=
  (∀ session ∈ creations s.log digest, s.clock < session.absoluteExpiresAt) ∧
    match task, input with
    | .live _ d session _, .proceed _ => d = digest → AccountHolds s session
    | .idle, .deleteSession token => ctx.tokenDigest token ≠ digest
    | _, _ => True

/-- The record or the activity that was read is at least as late as the time. -/
def Carries (session : Session) (activity : Option Nat) (now sent : Nat) : Prop :=
  sent ≤ session.lastSeenAt ∨ ∃ observedAt ∈ activity, observedAt ≤ now ∧ sent ≤ observedAt

theorem Carries.le_lastSeenAt {activity : Option Nat} {now sent : Nat}
    (h : Carries session activity now sent) :
    sent ≤ (applySessionActivity session activity now).lastSeenAt := by
  unfold applySessionActivity
  rcases h with hrecord | ⟨observedAt, hactivity, hnow, hle⟩
  · split
    · exact hrecord
    · exact Nat.le_trans hrecord (Nat.le_max_left _ _)
  · rw [Option.mem_def.mp hactivity, Option.filter_some, if_pos (decide_eq_true hnow)]
    exact Nat.le_trans hle (Nat.le_max_right _ _)

/-- A request decides over the latest time that was sent; a call that answers finds the record
    still there; a call that was refused deletes no record for which a later time was sent
    meanwhile; and a digest is used once. -/
def FindsLatest (ctx : SessionContext) (digest : String) (s : SessionState) (task : SessionTask)
    (input : SessionInput) : Prop :=
  match task, input with
  | .fetched _ d session activity, .proceed _ =>
      d = digest → ∀ sent ∈ s.sentTimes digest, Carries session activity s.clock sent
  | .live _ d _ _, .proceed _ => d = digest → s.db.get s.clock (.session digest) ≠ none
  | .rejecting d, .proceed _ =>
      d = digest → ∀ sent ∈ s.sentTimes digest, sent + ctx.idleSeconds ≤ s.clock
  | .creating d _ _, .proceed _ => d = digest → creations s.log digest = []
  | .idle, .login _ result _ random _ _ _ =>
      ctx.tokenDigest ((SessionOrigin.passkey result.credentialId).tokenPrefix ++ random) = digest →
        creations s.log digest = []
  | _, _ => True

instance (s : SessionState) (session : Session) : Decidable (AccountHolds s session) := by
  unfold AccountHolds
  split <;> infer_instance

instance (ctx : SessionContext) (digest : String) (s : SessionState) (task : SessionTask)
    (input : SessionInput) : Decidable (Untroubled ctx digest s task input) := by
  unfold Untroubled
  refine @instDecidableAnd _ _ inferInstance ?_
  cases_type SessionTask <;> cases_type SessionInput <;> infer_instance

instance (session : Session) (activity : Option Nat) (now sent : Nat) :
    Decidable (Carries session activity now sent) :=
  inferInstanceAs (Decidable (_ ∨ ∃ _ ∈ _, _ ∧ _))

instance (ctx : SessionContext) (digest : String) (s : SessionState) (task : SessionTask)
    (input : SessionInput) : Decidable (FindsLatest ctx digest s task input) := by
  unfold FindsLatest
  cases_type SessionTask <;> cases_type SessionInput <;> infer_instance

variable {task : SessionTask} {input : SessionInput}

/-- A request at `t` comes soon enough after an accepted one. -/
def InWindow (idleSeconds : Nat) (digest : String) (log : List SessionEvent) (t : Nat) : Prop :=
  ∃ since session u, .accepted since digest session u ∈ log ∧
    t - u < idleSeconds - touchSlack idleSeconds

/-- A request that comes soon enough finds the record and finds it in time, and is answered. -/
def GoesOn (ctx : SessionContext) (digest : String) (s : SessionState) (task : SessionTask)
    (input : SessionInput) : Prop :=
  match task, input with
  | .idle, .session token =>
      ctx.tokenDigest token = digest → 32 ≤ token.utf8ByteSize → token.utf8ByteSize ≤ 256 →
        InWindow ctx.idleSeconds digest s.log s.clock →
        ∃ turn since session activity, sessionTurn ctx s task input = some turn ∧
          turn.phase = .fetched since digest session activity
  | .fetched since d _ _, .proceed _ =>
      d = digest → InWindow ctx.idleSeconds digest s.log s.clock →
        ∃ turn session, sessionTurn ctx s task input = some turn ∧
          turn.phase = .live since digest session s.clock
  | .live since d _ current, .proceed _ =>
      d = digest → ∃ turn session, sessionTurn ctx s task input = some turn ∧
        turn.shared.log = .accepted since digest session current :: s.log
  | _, _ => True

/-! ## The invariant -/

/-- What is stored of the session was sent. -/
def SentUnder (digest : String) (sent : List Nat) : ∀ k : Key, Value k → Prop
  | .session d, session => d = digest → session.lastSeenAt ∈ sent
  | .sessionActivity d, observedAt => d = digest → observedAt ∈ sent
  | _, _ => True

/-- Every accepted request is so long ago that the next one may be refused. -/
def MayEnd (idleSeconds : Nat) (digest : String) (s : SessionState) : Prop :=
  ∀ since session u, .accepted since digest session u ∈ s.log →
    u + idleSeconds ≤ s.clock + touchSlack idleSeconds

/-- A record of the session stays until the absolute expiry, unless it is deleted. -/
def StaysUntil (db : Db) (digest : String) (expiresAt : Nat) : Prop :=
  ∀ t session, db.get t (.session digest) = some session →
    ∀ t', t' < expiresAt → db.get t' (.session digest) = some session

section

variable (idleSeconds : Nat) (digest : String)

structure SlackState (s : SessionState) : Prop where
  once : ∀ a ∈ creations s.log digest, ∀ b ∈ creations s.log digest, a = b
  fits : ∀ created ∈ creations s.log digest, created.absoluteExpiresAt ≤ u64Max
  sent : ∀ k t v, s.db.get t k = some v → SentUnder digest (s.sentTimes digest) k v
  lag : ∀ since session u, .accepted since digest session u ∈ s.log →
    ∃ sent ∈ s.sentTimes digest, u ≤ sent + touchSlack idleSeconds
  stays : ∀ created ∈ creations s.log digest, StaysUntil s.db digest created.absoluteExpiresAt
  kept : ∀ created ∈ creations s.log digest,
    (∀ t, t < created.absoluteExpiresAt → s.db.get t (.session digest) ≠ none) ∨
      MayEnd idleSeconds digest s

def SlackTask (s : SessionState) : SessionTask → Prop
  | .creating d session seconds => d = digest →
      session.absoluteExpiresAt ≤ u64Max ∧ session.absoluteExpiresAt ≤ s.clock + seconds
  | .fetched _ d session activity => d = digest →
      session.lastSeenAt ∈ s.sentTimes digest ∧ ∀ u ∈ activity, u ∈ s.sentTimes digest
  | .live _ d session current => d = digest →
      session.lastSeenAt ∈ s.sentTimes digest ∧ sessionExpired session idleSeconds current = false
  | .expiring d => d ≠ digest
  | .storing d _ stepped seconds => d = digest → stepped.absoluteExpiresAt ≤ s.clock + seconds
  | _ => True

end

variable {ctx : SessionContext} {idleSeconds : Nat} {digest : String}

/-- What has been sent stays sent. -/
structure SentStays (digest : String) (s s' : SessionState) : Prop where
  sent : ∀ u ∈ s.sentTimes digest, u ∈ s'.sentTimes digest
  clock : s.clock ≤ s'.clock

theorem SentStays.of_log (hclock : s.clock ≤ s'.clock) (hlog : ∀ event ∈ s.log, event ∈ s'.log)
    (htouches : ∀ touch ∈ s.touches, touch ∈ s'.touches) :
    SentStays digest s s' := by
  refine ⟨fun u hu => ?_, hclock⟩
  unfold SessionState.sentTimes at hu ⊢
  rcases List.mem_append.mp hu with hu | hu
  · obtain ⟨event, hmem, hat⟩ := List.mem_filterMap.mp hu
    exact List.mem_append_left _ (List.mem_filterMap.mpr ⟨event, hlog event hmem, hat⟩)
  · obtain ⟨touch, hmem, hat⟩ := List.mem_map.mp hu
    rw [List.mem_filter] at hmem
    refine List.mem_append_right _ (List.mem_map.mpr ⟨touch, ?_, hat⟩)
    exact List.mem_filter.mpr ⟨htouches touch hmem.1, hmem.2⟩

theorem SentStays.write (s : SessionState) (ws : List Write) (events : List SessionEvent) :
    SentStays digest s (s.write ws events) :=
  .of_log (Nat.le_refl _) (fun _ hmem => List.mem_append_right _ hmem) fun _ hmem => hmem

theorem SentStays.under (h : SentStays digest s s') {k : Key} {v : Value k}
    (hsent : SentUnder digest (s.sentTimes digest) k v) :
    SentUnder digest (s'.sentTimes digest) k v := by
  cases k with
  | session d => exact fun hd => h.sent _ (hsent hd)
  | sessionActivity d => exact fun hd => h.sent _ (hsent hd)
  | _ => trivial

theorem SlackTask.stays (h : SentStays digest s s') (htask : SlackTask idleSeconds digest s task) :
    SlackTask idleSeconds digest s' task := by
  have hclock := h.clock
  cases task with
  | creating d session seconds =>
    intro hd
    obtain ⟨hfits, hexpiry⟩ := htask hd
    exact ⟨hfits, by omega⟩
  | fetched since d session activity =>
    intro hd
    obtain ⟨hseen, hactivity⟩ := htask hd
    exact ⟨h.sent _ hseen, fun u hu => h.sent u (hactivity u hu)⟩
  | live since d session current =>
    intro hd
    obtain ⟨hseen, hlive⟩ := htask hd
    exact ⟨h.sent _ hseen, hlive⟩
  | expiring d => exact htask
  | storing d session stepped seconds =>
    intro hd
    have hexpiry := htask hd
    omega
  | _ => trivial

theorem seenAt_mem_sentTimes (event : SessionEvent) {u : Nat} (hmem : event ∈ s.log)
    (hseen : event.seenAt digest = some u) : u ∈ s.sentTimes digest :=
  List.mem_append_left _ (List.mem_filterMap.mpr ⟨event, hmem, hseen⟩)

theorem touch_mem_sentTimes {touch : SessionTouch} (hmem : touch ∈ s.touches)
    (hdigest : touch.digest = digest) : touch.observedAt ∈ s.sentTimes digest :=
  List.mem_append_right _
    (List.mem_map.mpr ⟨touch, List.mem_filter.mpr ⟨hmem, decide_eq_true hdigest⟩, rfl⟩)

theorem MayEnd.later (h : MayEnd idleSeconds digest s) (hclock : s.clock ≤ s'.clock)
    (hlog : ∀ since session u, .accepted since digest session u ∈ s'.log →
      .accepted since digest session u ∈ s.log) : MayEnd idleSeconds digest s' := by
  intro since session u hmem
  have hend := h since session u (hlog since session u hmem)
  omega

/-- Nothing was sent that the session does not outlive, so no accepted request needs it. -/
theorem SlackState.mayEnd (h : SlackState idleSeconds digest s)
    (hsent : ∀ sent ∈ s.sentTimes digest, sent + idleSeconds ≤ s.clock) :
    MayEnd idleSeconds digest s := by
  intro since session u hmem
  obtain ⟨sent, hmem, hlag⟩ := h.lag since session u hmem
  have hidle := hsent sent hmem
  omega

/-! ## What a turn leaves as it is -/

/-- The turn neither creates the session nor answers a request of it. -/
structure Passes (digest : String) (s s' : SessionState) : Prop where
  stays : SentStays digest s s'
  creations : creations s'.log digest = creations s.log digest
  accepted : ∀ since session u, .accepted since digest session u ∈ s'.log →
    .accepted since digest session u ∈ s.log
  sent : (∀ k t v, s.db.get t k = some v → SentUnder digest (s.sentTimes digest) k v) →
    ∀ k t v, s'.db.get t k = some v → SentUnder digest (s'.sentTimes digest) k v

/-- What is left to say after such a turn is what has become of the record. -/
theorem SlackState.of_passes (h : SlackState idleSeconds digest s) (hpasses : Passes digest s s')
    (hrecord : ∀ created ∈ creations s.log digest,
      StaysUntil s'.db digest created.absoluteExpiresAt ∧
        ((∀ t, t < created.absoluteExpiresAt → s'.db.get t (.session digest) ≠ none) ∨
          MayEnd idleSeconds digest s')) : SlackState idleSeconds digest s' := by
  refine ⟨?_, ?_, hpasses.sent h.sent, ?_, ?_, ?_⟩
  · rw [hpasses.creations]
    exact h.once
  · rw [hpasses.creations]
    exact h.fits
  · intro since session u hmem
    obtain ⟨sent, hsent, hlag⟩ := h.lag since session u (hpasses.accepted since session u hmem)
    exact ⟨sent, hpasses.stays.sent sent hsent, hlag⟩
  · rw [hpasses.creations]
    exact fun created hmem => (hrecord created hmem).1
  · rw [hpasses.creations]
    exact fun created hmem => (hrecord created hmem).2

/-- A turn that leaves the record of the session as it is. -/
theorem SlackState.pass (h : SlackState idleSeconds digest s) (hpasses : Passes digest s s')
    (hrecord : ∀ t, s'.db.get t (.session digest) = s.db.get t (.session digest)) :
    SlackState idleSeconds digest s' := by
  refine h.of_passes hpasses fun created hcreated => ⟨?_, ?_⟩
  · intro t session hget t' ht'
    rw [hrecord] at hget ⊢
    exact h.stays created hcreated t session hget t' ht'
  · refine (h.kept created hcreated).imp (fun hget t ht => ?_) fun hend =>
      hend.later hpasses.stays.clock hpasses.accepted
    rw [hrecord]
    exact hget t ht

/-- An event that says nothing new of the session. -/
def SessionEvent.Silent (digest : String) : SessionEvent → Prop
  | .created d _ => d ≠ digest
  | .accepted _ d _ _ => d ≠ digest
  | _ => True

theorem creations_append (h : ∀ event ∈ events, event.Silent digest) :
    creations (events ++ log) digest = creations log digest := by
  unfold creations
  rw [List.filterMap_append, List.filterMap_eq_nil_iff.mpr, List.nil_append]
  intro event hmem
  cases event with
  | created d session => exact if_neg (h _ hmem)
  | _ => rfl

theorem Passes.write (hevents : ∀ event ∈ events, event.Silent digest)
    (hws : ∀ w ∈ ws, w.Stores (SentUnder digest ((s.write ws events).sentTimes digest))) :
    Passes digest s (s.write ws events) := by
  have hstays : SentStays digest s (s.write ws events) := .write s ws events
  refine ⟨hstays, creations_append hevents, ?_, ?_⟩
  · intro since session u hmem
    rcases List.mem_append.mp hmem with hnew | hold
    · exact absurd rfl (hevents _ hnew)
    · exact hold
  · intro hsent
    exact forall_get_commit s.clock ws s.db hws fun k t v hv => hstays.under (hsent k t v hv)

/-- The lock, a phase and the passing of time change nothing. -/
theorem Passes.of_db (hdb : s'.db = s.db) (hclock : s.clock ≤ s'.clock)
    (htouches : s'.touches = s.touches) (hlog : s'.log = s.log) : Passes digest s s' := by
  have hstays : SentStays digest s s' :=
    .of_log hclock (fun _ hmem => hlog ▸ hmem) fun _ hmem => htouches ▸ hmem
  refine ⟨hstays, by rw [hlog], fun since session u hmem => hlog ▸ hmem, ?_⟩
  intro hsent k t v hv
  rw [hdb] at hv
  exact hstays.under (hsent k t v hv)

theorem sentUnder_of_not_session {sent : List Nat} {w : Write} (h : w.key.isSession = false) :
    w.Stores (SentUnder digest sent) := by
  cases w with
  | del k => trivial
  | set k v => cases k <;> trivial
  | setEx k v seconds => cases k <;> trivial
  | setKeep k v => cases k <;> trivial

/-- Commands on other keys than the record. -/
theorem SlackState.writeOthers (h : SlackState idleSeconds digest s)
    (hpasses : Passes digest s (s.write ws events)) (hws : ∀ w ∈ ws, w.key ≠ .session digest) :
    SlackState idleSeconds digest (s.write ws events) :=
  h.pass hpasses fun t =>
    get_commit_of_forall_ne s.clock t ws _ s.db fun w hw hkey => hws w hw hkey.symm

theorem SlackState.lock (h : SlackState idleSeconds digest s) (locked : Bool) :
    SlackState idleSeconds digest { s with locked } :=
  ⟨h.once, h.fits, h.sent, h.lag, h.stays, h.kept⟩

/-! ## Turns on the record -/

/-- Commands that write the record once, until the absolute expiry. -/
theorem get_stored (s : SessionState) (session : Session) (seconds : Nat) (before after : List Write)
    (hafter : ∀ w ∈ after, w.key ≠ .session digest) (t : Nat) :
    (commit s.clock s.db (before ++ .setEx (.session digest) session seconds :: after)).get t
      (.session digest) = if t < s.clock + seconds then some session else none := by
  rw [commit_append, commit_cons, get_commit_of_forall_ne, Command.get_setEx_self]
  exact fun w hw hkey => hafter w hw hkey.symm

theorem staysUntil_of_get {db : Db} {deadline expiresAt : Nat}
    (hget : ∀ t, db.get t (.session digest) = if t < deadline then some session else none)
    (hle : expiresAt ≤ deadline) : StaysUntil db digest expiresAt := by
  intro t stored hstored t' ht'
  rw [hget] at hstored
  rw [hget, if_pos (by omega)]
  split at hstored
  · exact hstored
  · cases hstored

/-- A session is created under a digest that was not used. -/
theorem SlackState.create (h : SlackState idleSeconds digest s) {before after : List Write}
    (hfresh : creations s.log digest = []) (hfits : session.absoluteExpiresAt ≤ u64Max)
    (hexpiry : session.absoluteExpiresAt ≤ s.clock + seconds)
    (hbefore : ∀ w ∈ before, w.key.isSession = false)
    (hafter : ∀ w ∈ after, w.key.isSession = false) :
    SlackState idleSeconds digest
      (s.write (before ++ .setEx (.session digest) session seconds :: after)
        [.created digest session]) := by
  have hother : ∀ w ∈ after, w.key ≠ .session digest := by
    intro w hw hkey
    have hnot := hafter w hw
    rw [hkey] at hnot
    cases hnot
  have honly : ∀ created, created ∈ creations (.created digest session :: s.log) digest →
      created = session := by
    intro created hmem
    have hcons : creations (.created digest session :: s.log) digest = [session] := by
      have hself : (SessionEvent.created digest session).creation digest = some session := if_pos rfl
      unfold creations at hfresh ⊢
      rw [List.filterMap_cons_some hself, hfresh]
    rw [hcons] at hmem
    exact List.mem_singleton.mp hmem
  have hstays : SentStays digest s
      (s.write (before ++ .setEx (.session digest) session seconds :: after)
        [.created digest session]) := .write s _ _
  have hget := get_stored s session seconds before after hother
  refine ⟨?_, ?_, ?_, ?_, ?_, ?_⟩
  · intro a ha b hb
    exact (honly a ha).trans (honly b hb).symm
  · intro created hmem
    rw [honly created hmem]
    exact hfits
  · refine forall_get_commit s.clock _ s.db ?_ fun k t v hv => hstays.under (h.sent k t v hv)
    simp only [List.forall_mem_append, List.forall_mem_cons]
    refine ⟨fun w hw => sentUnder_of_not_session (hbefore w hw), ?_,
      fun w hw => sentUnder_of_not_session (hafter w hw)⟩
    exact fun _ => seenAt_mem_sentTimes (.created digest session) List.mem_cons_self
      (if_pos rfl)
  · intro since accepted u hmem
    have hold : .accepted since digest accepted u ∈ s.log := by
      rcases List.mem_append.mp hmem with hnew | hold
      · cases List.mem_singleton.mp hnew
      · exact hold
    obtain ⟨sent, hsent, hlag⟩ := h.lag since accepted u hold
    exact ⟨sent, hstays.sent sent hsent, hlag⟩
  · intro created hmem
    rw [honly created hmem]
    exact staysUntil_of_get hget hexpiry
  · intro created hmem
    rw [honly created hmem]
    refine Or.inl fun t ht => ?_
    show (commit s.clock s.db _).get t (Key.session digest) ≠ none
    rw [hget, if_pos (by omega)]
    exact nofun

/-- A step-up writes the record anew. -/
theorem SlackState.store (h : SlackState idleSeconds digest s) {stepped : Session}
    (hexpiry : stepped.absoluteExpiresAt ≤ s.clock + seconds)
    (hcreated : ∀ created ∈ creations s.log digest,
      created.absoluteExpiresAt = stepped.absoluteExpiresAt) :
    SlackState idleSeconds digest
      (s.write [.setEx (.session digest) stepped seconds, .del (.sessionActivity digest)]
        [.steppedUp digest stepped]) := by
  have hpasses : Passes digest s
      (s.write [.setEx (.session digest) stepped seconds, .del (.sessionActivity digest)]
        [.steppedUp digest stepped]) := by
    apply Passes.write
    · intro event hmem
      rw [List.mem_singleton.mp hmem]
      trivial
    · simp only [List.forall_mem_cons]
      refine ⟨fun _ => ?_, trivial, List.forall_mem_nil _⟩
      exact seenAt_mem_sentTimes (.steppedUp digest stepped) List.mem_cons_self (if_pos rfl)
  have hget := get_stored s stepped seconds [] [.del (.sessionActivity digest)]
    (List.forall_mem_singleton.mpr (nofun : Key.sessionActivity digest ≠ .session digest))
  refine h.of_passes hpasses fun created hmem => ?_
  rw [hcreated created hmem]
  refine ⟨staysUntil_of_get hget hexpiry, Or.inl fun t ht => ?_⟩
  have hstored := hget t
  rw [if_pos (by omega)] at hstored
  exact fun hnone => nomatch hstored.symm.trans hnone

/-- A session that may end is deleted. -/
theorem SlackState.delete (h : SlackState idleSeconds digest s)
    (hend : MayEnd idleSeconds digest s) :
    SlackState idleSeconds digest (s.write [.del (.session digest)] [.deleted digest]) := by
  have hpasses : Passes digest s (s.write [.del (.session digest)] [.deleted digest]) := by
    apply Passes.write
    · intro event hmem
      rw [List.mem_singleton.mp hmem]
      trivial
    · intro w hw
      rw [List.mem_singleton.mp hw]
      trivial
  refine h.of_passes hpasses fun created _ =>
    ⟨fun t session hget => ?_, Or.inr (hend.later hpasses.stays.clock hpasses.accepted)⟩
  have hnone := Command.get_del_self s.clock t s.db (Key.session digest)
  exact nomatch hnone.symm.trans hget

theorem acceptSession_stays (s : SessionState) (since : Nat) (d : String) (session : Session)
    (current : Nat) : SentStays digest s (acceptSession ctx s since d session current).shared := by
  refine .of_log (Nat.le_refl _) (fun _ hmem => List.mem_cons_of_mem _ hmem) ?_
  intro touch hmem
  unfold acceptSession
  dsimp only
  split
  · exact List.mem_cons_of_mem _ hmem
  · exact hmem

/-- The time of an answer is sent, or at most the slack after one that was. -/
theorem acceptSession_lag (hseen : session.lastSeenAt ∈ s.sentTimes digest) :
    ∃ sent ∈ (acceptSession ctx s since digest session current).shared.sentTimes digest,
      current ≤ sent + touchSlack ctx.idleSeconds := by
  cases hdue : sessionTouchDue session ctx.idleSeconds current with
  | true =>
    refine ⟨current, ?_, Nat.le_add_right _ _⟩
    have htouch : ⟨digest, current, session.absoluteExpiresAt - current⟩ ∈
        (acceptSession ctx s since digest session current).shared.touches := by
      unfold acceptSession
      rw [if_pos hdue]
      exact List.mem_cons_self
    exact touch_mem_sentTimes htouch rfl
  | false =>
    exact ⟨session.lastSeenAt, (acceptSession_stays s since digest session current).sent _ hseen,
      le_of_not_sessionTouchDue hdue⟩

theorem SlackState.accept (h : SlackState ctx.idleSeconds digest s)
    (htask : SlackTask ctx.idleSeconds digest s (.live since d session current))
    (hrecord : d = digest → s.db.get s.clock (.session digest) ≠ none) :
    SlackState ctx.idleSeconds digest (acceptSession ctx s since d session current).shared := by
  have hstays : SentStays digest s (acceptSession ctx s since d session current).shared :=
    acceptSession_stays s since d session current
  by_cases hd : d = digest
  · subst hd
    refine ⟨h.once, h.fits, fun k t v hv => hstays.under (h.sent k t v hv), ?_, h.stays, ?_⟩
    · intro since' accepted u hmem
      rcases List.mem_cons.mp hmem with heq | hold
      · cases heq
        exact acceptSession_lag (htask rfl).1
      · obtain ⟨sent, hsent, hlag⟩ := h.lag since' accepted u hold
        exact ⟨sent, hstays.sent sent hsent, hlag⟩
    · -- the record is there now, so it stays until the absolute expiry
      intro created hcreated
      refine Or.inl fun t ht => ?_
      obtain ⟨stored, hstored⟩ := Option.ne_none_iff_exists'.mp (hrecord rfl)
      have hlater := h.stays created hcreated s.clock stored hstored t ht
      exact fun hnone => nomatch hlater.symm.trans hnone
  · refine h.pass ⟨hstays, rfl, ?_, ?_⟩ fun t => rfl
    · intro since' accepted u hmem
      rcases List.mem_cons.mp hmem with heq | hold
      · cases heq
        exact absurd rfl hd
      · exact hold
    · intro hsent k t v hv
      exact hstays.under (hsent k t v hv)

/-! ## Every turn -/

/-- Who deletes a record: a call that was refused, or a sign-out. -/
theorem deleteRecord_by (h : sessionTurn ctx s task input = some (deleteRecord s d)) :
    (task = .rejecting d ∧ ∃ eventId, input = .proceed eventId) ∨
      ∃ token, task = .idle ∧ input = .deleteSession token ∧ ctx.tokenDigest token = d := by
  have hphase : ∀ turn : SessionTurn, some turn = some (deleteRecord s d) →
      turn.phase = .forgetting d := fun turn heq => congrArg Turn.phase (Option.some.inj heq)
  unfold sessionTurn at h
  split at h
  case h_1 =>
    split at h
    · -- the log of a tick is as it was
      have hlog := congrArg (fun turn : SessionTurn => turn.shared.log) (Option.some.inj h)
      exact absurd hlog.symm (List.cons_ne_self _ _)
    · cases h
  case h_10 =>
    have hd := hphase _ h
    cases hd
    exact Or.inl ⟨rfl, _, rfl⟩
  case h_12 =>
    have hd := hphase _ h
    exact Or.inr ⟨_, rfl, rfl, SessionTask.forgetting.inj hd⟩
  case h_20 => cases h
  -- no other turn is about to forget
  all_goals
    try (split at h; swap; cases h)
    have hother := hphase _ h
    simp only [readUser, createSession, storeCreated, appendSessionEvent, login, readSession,
      decideExpiry, decideSession, acceptSession, deleteActivity, markSessionStepUp, decideStepUp,
      deleteExpired, storeStepUp, accountOperation, writeTouches] at hother
    repeat' split at hother
    all_goals cases hother

section Step

variable {s : SessionState} (h : SlackState ctx.idleSeconds digest s)

/-- What a turn leaves, and that nothing that was sent is lost. -/
structure TurnSlack (idleSeconds : Nat) (digest : String) (s : SessionState) (turn : SessionTurn) :
    Prop where
  state : SlackState idleSeconds digest turn.shared
  stays : SentStays digest s turn.shared
  task : SlackTask idleSeconds digest turn.shared turn.phase

include h

theorem TurnSlack.pass {turn : SessionTurn} (hpasses : Passes digest s turn.shared)
    (hrecord : ∀ t, turn.shared.db.get t (.session digest) = s.db.get t (.session digest))
    (htask : SlackTask ctx.idleSeconds digest turn.shared turn.phase) :
    TurnSlack ctx.idleSeconds digest s turn :=
  ⟨h.pass hpasses hrecord, hpasses.stays, htask⟩

/-- A turn that changes nothing but the phase and the lock. -/
theorem TurnSlack.stay {locked : Bool} (htask : SlackTask ctx.idleSeconds digest s task) :
    TurnSlack ctx.idleSeconds digest s ⟨{ s with locked }, task, []⟩ := by
  have hpasses : Passes digest s { s with locked } := .of_db rfl (Nat.le_refl _) rfl rfl
  exact .pass h hpasses (fun _ => rfl) (htask.stays hpasses.stays)

/-- A turn that writes to other keys than those of sessions. -/
theorem TurnSlack.write (hevents : ∀ event ∈ events, event.Silent digest)
    (hws : ∀ w ∈ ws, w.key.isSession = false)
    (htask : SlackTask ctx.idleSeconds digest (s.write ws events) task) :
    TurnSlack ctx.idleSeconds digest s ⟨s.write ws events, task, []⟩ := by
  have hpasses : Passes digest s (s.write ws events) :=
    .write hevents fun w hw => sentUnder_of_not_session (hws w hw)
  refine ⟨h.writeOthers hpasses ?_, hpasses.stays, htask⟩
  intro w hw hkey
  have hnot := hws w hw
  rw [hkey] at hnot
  cases hnot

/-- A turn that deletes a key other than the record. -/
theorem TurnSlack.del {k : Key} (hevents : ∀ event ∈ events, event.Silent digest)
    (hk : k ≠ .session digest)
    (htask : SlackTask ctx.idleSeconds digest (s.write [.del k] events) task) :
    TurnSlack ctx.idleSeconds digest s ⟨s.write [.del k] events, task, []⟩ := by
  have hpasses : Passes digest s (s.write [.del k] events) := by
    refine .write hevents ?_
    intro w hw
    rw [List.mem_singleton.mp hw]
    trivial
  refine ⟨h.writeOthers hpasses ?_, hpasses.stays, htask⟩
  intro w hw
  rw [List.mem_singleton.mp hw]
  exact hk

/-- A creation, under this digest or another. -/
theorem created_slack (before : List Write) {after : List Write}
    (hfresh : d = digest → creations s.log digest = [])
    (hexpiry : d = digest → session.absoluteExpiresAt ≤ u64Max ∧
      session.absoluteExpiresAt ≤ s.clock + seconds)
    (hbefore : ∀ w ∈ before, w.key.isSession = false)
    (hafter : ∀ w ∈ after, w.key.isSession = false) :
    SlackState ctx.idleSeconds digest
      (s.write (before ++ .setEx (.session d) session seconds :: after) [.created d session]) := by
  by_cases hd : d = digest
  · obtain ⟨hfits, hle⟩ := hexpiry hd
    subst hd
    exact h.create (hfresh rfl) hfits hle hbefore hafter
  · have hother : ∀ w : Write, w.key.isSession = false → w.key ≠ .session digest := by
      intro w hw hkey
      rw [hkey] at hw
      cases hw
    apply h.writeOthers
    · apply Passes.write
      · intro event hmem
        rw [List.mem_singleton.mp hmem]
        exact hd
      · simp only [List.forall_mem_append, List.forall_mem_cons]
        exact ⟨fun w hw => sentUnder_of_not_session (hbefore w hw), fun heq => absurd heq hd,
          fun w hw => sentUnder_of_not_session (hafter w hw)⟩
    · simp only [List.forall_mem_append, List.forall_mem_cons]
      exact ⟨fun w hw => hother w (hbefore w hw), fun hkey => hd (Key.session.inj hkey),
        fun w hw => hother w (hafter w hw)⟩

theorem touch_slack {received : List SessionTouch} (hreceived : ∀ touch ∈ received, touch ∈ s.touches) :
    TurnSlack ctx.idleSeconds digest s (writeTouches s received) := by
  have hpasses : Passes digest s (s.write (sessionTouchPipeline received) []) := by
    apply Passes.write (List.forall_mem_nil _)
    intro w hw
    obtain ⟨touch, htouch, rfl⟩ := mem_sessionTouchPipeline hw
    exact fun hd => touch_mem_sentTimes (hreceived touch htouch) hd
  refine ⟨h.writeOthers hpasses ?_, hpasses.stays, trivial⟩
  intro w hw
  obtain ⟨touch, _, rfl⟩ := mem_sessionTouchPipeline hw
  exact nofun

/-- A record is deleted by a call that was refused; the session may end then. -/
theorem delete_slack (huntroubled : Untroubled ctx digest s task input)
    (hfinds : FindsLatest ctx digest s task input)
    (hact : sessionTurn ctx s task input = some (deleteRecord s d)) :
    TurnSlack ctx.idleSeconds digest s (deleteRecord s d) := by
  by_cases hd : d = digest
  · subst hd
    refine ⟨h.delete ?_, .write s _ _, trivial⟩
    rcases deleteRecord_by hact with ⟨rfl, eventId, rfl⟩ | ⟨token, rfl, rfl, htoken⟩
    · exact h.mayEnd (hfinds rfl)
    · exact absurd htoken huntroubled.2
  · refine .del h ?_ (fun hkey => hd (Key.session.inj hkey)) trivial
    intro event hmem
    rw [List.mem_singleton.mp hmem]
    trivial

omit h in
/-- The absolute expiry of a session that was created under the digest is that of its creation. -/
theorem SlackState.expiry (h : SlackState ctx.idleSeconds digest s)
    (hcreated : Created s.log digest session) :
    ∀ created ∈ creations s.log digest,
      created.absoluteExpiresAt = session.absoluteExpiresAt := by
  obtain ⟨first, hmem, hsame⟩ := hcreated
  intro created hcreated
  rw [h.once created hcreated first (mem_creations.mpr hmem)]
  exact hsame.absoluteExpiresAt

theorem store_slack {stepped : Session} (hbtask : TaskBacked s (.storing d session stepped seconds))
    (htask : SlackTask ctx.idleSeconds digest s (.storing d session stepped seconds)) :
    TurnSlack ctx.idleSeconds digest s (storeStepUp s d stepped seconds) := by
  by_cases hd : d = digest
  · subst hd
    exact ⟨h.store (htask rfl) (h.expiry hbtask.1), .write s _ _, trivial⟩
  · have hpasses : Passes digest s
        (s.write [.setEx (.session d) stepped seconds, .del (.sessionActivity d)]
          [.steppedUp d stepped]) := by
      apply Passes.write
      · intro event hmem
        rw [List.mem_singleton.mp hmem]
        trivial
      · simp only [List.forall_mem_cons]
        exact ⟨fun heq => absurd heq hd, trivial, List.forall_mem_nil _⟩
    refine ⟨h.writeOthers hpasses ?_, hpasses.stays, trivial⟩
    simp only [List.forall_mem_cons]
    exact ⟨fun hkey => hd (Key.session.inj hkey), nofun, List.forall_mem_nil _⟩

/-- Every turn keeps the invariant. -/
theorem sessionStep_slack {turn : SessionTurn} (hbtask : TaskBacked s task)
    (htask : SlackTask ctx.idleSeconds digest s task)
    (huntroubled : Untroubled ctx digest s task input)
    (hfinds : FindsLatest ctx digest s task input)
    (hact : sessionTurn ctx s task input = some turn) :
    TurnSlack ctx.idleSeconds digest s turn := by
  have hstep := sessionTurn_step hact
  cases hstep with
  | @tick _ now hclock =>
    have hpasses : Passes digest s { s with clock := now } := .of_db rfl hclock rfl rfl
    exact .pass h hpasses (fun _ => rfl) (htask.stays hpasses.stays)
  | stop _ _ locked => exact .stay h trivial
  | hold => exact .stay h trivial
  | prepare hprepare =>
    cases hprepare
    exact .stay h fun _ => ⟨Nat.min_le_right _ _, satAdd_le _ _⟩
  | create =>
    exact ⟨created_slack h [] hfinds htask (List.forall_mem_nil _)
      (List.forall_mem_nil _), .write s _ _, trivial⟩
  | append events =>
    exact .write h (List.forall_mem_nil _) (fun w hw => isSession_of_mem_queueEvents hw) trivial
  | @login userId result absoluteSeconds random id preparedAt eventId user user' token session events
      c hnow hprepared hread hresult hprepare =>
    cases hprepare
    have hexpiry : satAdd preparedAt absoluteSeconds ≤ s.clock + absoluteSeconds :=
      Nat.le_trans (satAdd_le _ _) (Nat.add_le_add_right hprepared _)
    refine ⟨?_, .write s _ _, trivial⟩
    exact created_slack h [.set (.user userId) user'] hfinds
      (fun _ => ⟨Nat.min_le_right _ _, hexpiry⟩) (List.forall_mem_singleton.mpr rfl) (fun w hw => isSession_of_mem_queueEvents hw)
  | @read token session hrecord =>
    have hpasses : Passes digest s { s with log := .read (ctx.tokenDigest token) :: s.log } := by
      refine ⟨.of_log (Nat.le_refl _) (fun _ hmem => List.mem_cons_of_mem _ hmem) fun _ hmem => hmem,
        rfl, ?_, fun hsent => hsent⟩
      intro since accepted u hmem
      rcases List.mem_cons.mp hmem with heq | hold
      · cases heq
      · exact hold
    refine .pass h hpasses (fun _ => rfl) fun hd => ⟨?_, fun u hu => ?_⟩
    · exact hpasses.stays.sent _ (h.sent (.session _) s.clock session hrecord hd)
    · exact hpasses.stays.sent _ (h.sent (.sessionActivity _) s.clock u hu hd)
  | expired => exact .stay h trivial
  | @inTime since d session activity eventId hlive =>
    refine .stay h fun hd => ⟨?_, hlive⟩
    obtain ⟨hseen, hactivity⟩ := htask hd
    rcases applySessionActivity_lastSeenAt session activity s.clock with hsame | ⟨u, hu, _, hat⟩
    · exact hsame ▸ hseen
    · exact hat ▸ hactivity u hu
  | reject => exact .stay h trivial
  | accept hread hvalid => exact ⟨h.accept htask hfinds, acceptSession_stays s _ _ _ _, trivial⟩
  | delete _ _ d => exact delete_slack h huntroubled hfinds hact
  | forget => exact .del h (List.forall_mem_nil _) nofun trivial
  | stepUp hrecord => exact .stay h trivial
  | @lapsed d session credentialId eventId =>
    refine .stay h fun hd => ?_
    subst hd
    -- the code found the absolute expiry reached, which it is not
    have hreached : session.absoluteExpiresAt ≤ s.clock := by
      by_contra hnot
      have hturn : some (decideStepUp s d session credentialId) = some ⟨s, .expiring d, []⟩ := hact
      unfold decideStepUp at hturn
      rw [if_neg hnot] at hturn
      cases hturn
    obtain ⟨created, hmem, hsame⟩ := hbtask
    have hlife := huntroubled.1 created (mem_creations.mpr hmem)
    rw [hsame.absoluteExpiresAt] at hlife
    omega
  | @decide d session credentialId eventId =>
    refine .stay h fun _ => ?_
    show session.absoluteExpiresAt ≤ s.clock + (session.absoluteExpiresAt - s.clock)
    omega
  | @expire d eventId =>
    have hdel : TurnSlack ctx.idleSeconds digest s ⟨s.write [.del (.session d)] [], .idle, []⟩ :=
      .del h (List.forall_mem_nil _) (fun hkey => htask (Key.session.inj hkey)) trivial
    exact ⟨hdel.state.lock false, ⟨hdel.stays.sent, hdel.stays.clock⟩, trivial⟩
  | store => exact store_slack h hbtask htask
  | @account _ request _ op hrun =>
    refine .write h ?_ op.isSession_of_mem_commands trivial
    cases request <;> simp [AccountRequest.revocations, SessionEvent.Silent]
  | touch hreceived => exact touch_slack h hreceived

end Step

/-! ## Requests that come soon enough -/

theorem created_of_accepted {idleSeconds : Nat} {u : Nat} (h : AcceptedInTime idleSeconds log)
    (hmem : .accepted since digest session u ∈ log) : Created log digest session := by
  induction log with
  | nil => cases hmem
  | cons event log ih =>
    have hlog : AcceptedInTime idleSeconds log := by
      cases event with
      | accepted => exact h.2
      | _ => exact h
    have hcreated : Created log digest session := by
      rcases List.mem_cons.mp hmem with heq | hmem
      · subst heq
        exact h.1.2.1
      · exact ih hlog hmem
    obtain ⟨created, hcreated, hsame⟩ := hcreated
    exact ⟨created, List.mem_cons_of_mem _ hcreated, hsame⟩

section Window

variable {s : SessionState} (hbacked : StateBacked ctx.idleSeconds s)
  (h : SlackState ctx.idleSeconds digest s)
  (hlife : ∀ session ∈ creations s.log digest, s.clock < session.absoluteExpiresAt)

include h hlife

include hbacked in
/-- The record of a session that is in use is there. -/
theorem record_of_inWindow (hwindow : InWindow ctx.idleSeconds digest s.log s.clock) :
    ∃ session, s.db.get s.clock (.session digest) = some session := by
  obtain ⟨since, session, u, hmem, hsoon⟩ := hwindow
  obtain ⟨created, hcreated, _⟩ := created_of_accepted hbacked.accepted hmem
  have hmemc := mem_creations.mpr hcreated
  rcases h.kept created hmemc with hget | hend
  · exact Option.ne_none_iff_exists'.mp (hget s.clock (hlife created hmemc))
  · have hlate := hend since session u hmem
    omega

/-- A request that finds the latest time that was sent finds the session in time. -/
theorem inTime_of_inWindow {activity : Option Nat}
    (hbtask : TaskBacked s (.fetched since digest session activity))
    (hlatest : ∀ sent ∈ s.sentTimes digest, Carries session activity s.clock sent)
    (hwindow : InWindow ctx.idleSeconds digest s.log s.clock) :
    sessionExpired (applySessionActivity session activity s.clock) ctx.idleSeconds s.clock =
      false := by
  obtain ⟨hknown, _, _⟩ := hbtask
  obtain ⟨created, hcreated, hsame⟩ := hknown.created
  have hmemc := mem_creations.mpr hcreated
  have hfits := h.fits created hmemc
  have habsolute := hlife created hmemc
  obtain ⟨lastSeenAt, heq⟩ := applySessionActivity_eq session activity s.clock
  obtain ⟨accepted, since', u, hmem, hsoon⟩ := hwindow
  obtain ⟨sent, hsent, hlag⟩ := h.lag _ _ u hmem
  have hseen : sent ≤ (applySessionActivity session activity s.clock).lastSeenAt :=
    (hlatest sent hsent).le_lastSeenAt
  rw [sessionExpired_eq_false]
  rw [heq] at hseen ⊢
  dsimp only at hseen ⊢
  rw [← hsame.absoluteExpiresAt]
  refine ⟨habsolute, ?_⟩
  unfold satAdd
  omega

end Window

/-- A session found in time is valid for an account that holds it. -/
theorem answered_of_accountHolds (hlive : sessionExpired session ctx.idleSeconds current = false)
    (haccount : AccountHolds s session) :
    decideSession ctx s since digest session current =
      acceptSession ctx s since digest session current := by
  unfold AccountHolds at haccount
  unfold decideSession
  split at haccount
  · next user hread =>
    obtain ⟨hversion, hcredential⟩ := haccount
    have hvalid := sessionVerdict_eq_valid.mpr ⟨hlive, hversion, hcredential⟩
    rw [hread]
    exact if_pos hvalid
  · exact haccount.elim

theorem goesOn_of_slack (hbacked : StateBacked ctx.idleSeconds s)
    (h : SlackState ctx.idleSeconds digest s) (hbtask : TaskBacked s task)
    (htask : SlackTask ctx.idleSeconds digest s task)
    (huntroubled : Untroubled ctx digest s task input)
    (hfinds : FindsLatest ctx digest s task input) : GoesOn ctx digest s task input := by
  unfold GoesOn
  split
  · next token =>
    intro hd hshort hlong hwindow
    obtain ⟨session, hrecord⟩ := record_of_inWindow hbacked h huntroubled.1 hwindow
    refine ⟨_, s.log.length, session, s.db.get s.clock (.sessionActivity digest), rfl, ?_⟩
    unfold readSession
    rw [hd, if_neg (by omega), hrecord]
  · next since d session activity eventId =>
    intro hd hwindow
    subst hd
    refine ⟨_, applySessionActivity session activity s.clock, rfl, ?_⟩
    have hlive := inTime_of_inWindow h huntroubled.1 hbtask (hfinds rfl) hwindow
    unfold decideExpiry
    rw [if_neg (Bool.eq_false_iff.mp hlive)]
  · next since d session current eventId =>
    intro hd
    subst hd
    refine ⟨_, { session with lastSeenAt := current }, rfl, ?_⟩
    rw [answered_of_accountHolds (htask rfl).2 (huntroubled.2 rfl)]
    rfl
  · trivial

/-! ## Runs -/

abbrev WorldSlack (ctx : SessionContext) (digest : String) (world : SessionWorld) : Prop :=
  Inv (fun s _ => StateBacked ctx.idleSeconds s ∧ SlackState ctx.idleSeconds digest s)
    (fun s task => TaskBacked s task ∧ SlackTask ctx.idleSeconds digest s task) world

theorem worldSlack_start (ctx : SessionContext) (digest : String) {db : Db} (hdb : NoSessions db)
    (clock : Nat) : WorldSlack ctx digest (sessionStart db clock) := by
  have hbacked := worldBacked_start ctx hdb clock
  refine ⟨⟨hbacked.shared, nofun, nofun, ?_, nofun, nofun, nofun⟩, fun i => ⟨hbacked.tasks i, trivial⟩⟩
  intro k t v hv
  cases k with
  | session d => exact nomatch (hdb (.session d) t rfl).symm.trans hv
  | sessionActivity d => exact nomatch (hdb (.sessionActivity d) t rfl).symm.trans hv
  | _ => trivial

/-- The turn leaves the session untroubled. -/
abbrev UntroubledTurn (ctx : SessionContext) (digest : String) (world : SessionWorld)
    (l : Nat × SessionInput) : Prop :=
  Untroubled ctx digest world.shared (world.task l.1) l.2

/-- Also, it finds the latest time that was sent. -/
abbrev LatestTurn (ctx : SessionContext) (digest : String) (world : SessionWorld)
    (l : Nat × SessionInput) : Prop :=
  UntroubledTurn ctx digest world l ∧ FindsLatest ctx digest world.shared (world.task l.1) l.2

theorem worldSlack_turns {world world' : SessionWorld} {l : Nat × SessionInput}
    (h : WorldSlack ctx digest world)
    (hturn : Restrict (SessionTurns ctx) (LatestTurn ctx digest) world l world') :
    WorldSlack ctx digest world' := by
  obtain ⟨⟨huntroubled, hfinds⟩, hturn⟩ := hturn
  refine turns_inv h hturn fun turn hact => ?_
  obtain ⟨hbacked, hslack⟩ := h.shared
  obtain ⟨hbtask, htask⟩ := h.tasks l.1
  have hnext := sessionStep_backed hbacked hbtask (sessionTurn_step hact)
  have hturn := sessionStep_slack hslack hbtask htask huntroubled hfinds hact
  refine ⟨⟨hnext.state, hturn.state⟩, ⟨hnext.task, hturn.task⟩, fun task hother => ?_⟩
  exact ⟨hother.1.later hnext.later, hother.2.stays hturn.stays⟩

/-- In every run in which the session is not disturbed and requests find the latest time that was
    sent, a request that comes within the idle window less the slack after an accepted one is
    accepted. -/
theorem sessions_not_ended_early (ctx : SessionContext) (digest : String) {db : Db}
    (hdb : NoSessions db) {clock : Nat} {ls : List (Nat × SessionInput)} {world : SessionWorld}
    (run : Run (Restrict (SessionTurns ctx) (LatestTurn ctx digest)) (sessionStart db clock) ls
      world) (l : Nat × SessionInput) (hnext : LatestTurn ctx digest world l) :
    GoesOn ctx digest world.shared (world.task l.1) l.2 := by
  have hslack : WorldSlack ctx digest world :=
    run.invariant (fun _ _ _ h hturn => worldSlack_turns h hturn) (worldSlack_start ctx digest hdb clock)
  exact goesOn_of_slack hslack.shared.1 hslack.shared.2 (hslack.tasks l.1).1 (hslack.tasks l.1).2
    hnext.1 hnext.2

/-- A request at 305, five seconds before the end of the window, and one at 310; the touch of the
    first is still with the writer, which writes every ten seconds. -/
def samplePendingTouch : List (Nat × SessionInput) :=
  [(0, .tick 10), (0, .login 1 ⟨"cred-1", 0⟩ 600 sampleToken 50 10 900),
    (0, .tick 305), (0, .session sampleToken), (0, .proceed 0), (0, .proceed 0),
    (0, .tick 310), (0, .session sampleToken), (0, .proceed 0), (0, .proceed 0)]

/-- The second request is refused, and the record is deleted. -/
theorem pending_touch_ends_session : NoSessions holderRealm ∧
    310 - 305 < sampleSessions.idleSeconds - touchSlack sampleSessions.idleSeconds ∧
    ∃ world, Run (Restrict (SessionTurns sampleSessions) (UntroubledTurn sampleSessions sampleToken))
      (sessionStart holderRealm 3) samplePendingTouch world ∧
      world.shared.log.take 3 = [.deleted sampleToken, .read sampleToken,
        .accepted 1 sampleToken
          { (prepareSession 10 sampleHolder (.passkey "cred-1") 600 sampleToken 50).2 with
            lastSeenAt := 305 } 305] := by
  have hexec : (execAll (execWhen (UntroubledTurn sampleSessions sampleToken)
      (takeTurn (sessionTurn sampleSessions))) (sessionStart holderRealm 3) samplePendingTouch).map
      (fun world => world.shared.log.take 3) = some [.deleted sampleToken, .read sampleToken,
        .accepted 1 sampleToken
          { (prepareSession 10 sampleHolder (.passkey "cred-1") 600 sampleToken 50).2 with
            lastSeenAt := 305 } 305] := by
    decide +kernel
  obtain ⟨world, run, hlog⟩ := exists_run (restrict_of_execWhen (turns_of_takeTurn _)) hexec
  exact ⟨noSessions_holderRealm, by decide, world,
    run, hlog⟩

/-- A request at 100 whose touch is written at 120, and one at 345. -/
def sampleWrittenTouch : List (Nat × SessionInput) :=
  [(0, .tick 10), (0, .login 1 ⟨"cred-1", 0⟩ 600 sampleToken 50 10 900),
    (0, .tick 100), (0, .session sampleToken), (0, .proceed 0), (0, .proceed 0),
    (1, .tick 120), (1, .touch [⟨sampleToken, 100, 510⟩]),
    (0, .tick 345), (0, .session sampleToken), (0, .proceed 0)]

theorem sessions_not_ended_early_sample : NoSessions holderRealm ∧ ∃ world,
    Run (Restrict (SessionTurns sampleSessions) (LatestTurn sampleSessions sampleToken))
      (sessionStart holderRealm 3) sampleWrittenTouch world ∧
      world.shared.clock = 345 ∧ acceptedTimes world.shared.log = [100] ∧
      GoesOn sampleSessions sampleToken world.shared (world.task 0) (.proceed 0) := by
  have hexec : (execAll (execWhen (LatestTurn sampleSessions sampleToken)
      (takeTurn (sessionTurn sampleSessions))) (sessionStart holderRealm 3) sampleWrittenTouch).map
      (fun world => (world.shared.clock, acceptedTimes world.shared.log,
        decide (LatestTurn sampleSessions sampleToken world (0, .proceed 0)))) =
      some (345, [100], true) := by
    decide +kernel
  obtain ⟨world, run, hend⟩ := exists_run (restrict_of_execWhen (turns_of_takeTurn _)) hexec
  simp only [Prod.mk.injEq, decide_eq_true_eq] at hend
  obtain ⟨hclock, htimes, hnext⟩ := hend
  exact ⟨noSessions_holderRealm, world, run, hclock, htimes,
    sessions_not_ended_early sampleSessions sampleToken noSessions_holderRealm run _ hnext⟩

end RustyAuth
