/-
  Touches revive nothing.

  Once a session is deleted, past its absolute expiry or revoked (`Over`), no request that reads
  it later is accepted, whatever touches are written, whoever else signs in and whatever is done
  to accounts, as long as no turn stores the session anew or enrols its account again (`Quiet`).
  The same holds once it has been idle for too long and no request under way has been found in
  time (`IdleOver`).
-/
import RustyAuth.Session.Acceptance
import RustyAuth.Session.Aging

namespace RustyAuth

open RustyAuth.Library

/-- A session under the digest was created for the account. -/
def SessionEvent.createdFor (digest : String) (userId : Uuid) : SessionEvent → Bool
  | .created d session => d = digest && session.userId = userId
  | _ => false

/-- The session that a turn of the task stores. -/
def SessionTask.stores : SessionTask → Option String
  | .creating digest _ _ => some digest
  | .storing digest _ _ _ => some digest
  | _ => none

/-- The turn neither creates nor steps up the session under the digest, and does not register
    its account or a passkey of it; the version of an account can still move. -/
def Quiet (ctx : SessionContext) (digest : String) (s : SessionState) (task : SessionTask) :
    SessionInput → Prop
  | .proceed _ => task.stores ≠ some digest
  | .account _ request => Headroom s.db s.clock request ∧
      ∀ userId ∈ request.enrols, ∀ event ∈ s.log, event.createdFor digest userId = false
  | .login _ result _ random _ _ _ =>
      ctx.tokenDigest ((SessionOrigin.passkey result.credentialId).tokenPrefix ++ random) ≠ digest
  | _ => True

instance (ctx : SessionContext) (digest : String) (s : SessionState) (task : SessionTask) :
    DecidablePred (Quiet ctx digest s task)
  | .proceed _ | .login .. => instDecidableNot
  | .account .. => instDecidableAnd
  | .tick _ | .readUser _ | .createSession .. | .session _ | .deleteSession _ | .markSessionStepUp ..
  | .touch _ | .abandon => .isTrue trivial

abbrev QuietTurns (ctx : SessionContext) (digest : String) :
    SessionWorld → Nat × SessionInput → SessionWorld → Prop :=
  Restrict (SessionTurns ctx) fun world l => Quiet ctx digest world.shared (world.task l.1) l.2

variable {ctx : SessionContext} {digest : String} {s s' : SessionState} {task : SessionTask}
  {input : SessionInput} {turn : SessionTurn} {session : Session}

/-! ## What a quiet turn leaves -/

/-- The input leaves the passkeys of the account, or moves its version. -/
def KeepsAccount (s : SessionState) (id : Uuid) : SessionInput → Prop
  | .account _ request => Headroom s.db s.clock request ∧ request.enrols ≠ some id
  | _ => True

/-- Accounts stay under their ids, and only get older. -/
theorem accounts_of_step (hids : UnderIds s.db) (hstep : SessionStep ctx s task input turn) :
    UnderIds turn.shared.db ∧
      ∀ id, KeepsAccount s id input → AgedAt s.db turn.shared.db id := by
  have same : UnderIds s.db ∧ ∀ id, KeepsAccount s id input → AgedAt s.db s.db id :=
    ⟨hids, fun _ _ new hnew => ⟨new, hnew, .refl new⟩⟩
  have others : ∀ ws : List Write, (∀ w ∈ ws, ∀ id, w.key ≠ .user id) →
      UnderIds (commit s.clock s.db ws) ∧
        ∀ id, KeepsAccount s id input → AgedAt s.db (commit s.clock s.db ws) id := by
    intro ws hws
    have hget : ∀ id, (commit s.clock s.db ws).get 0 (.user id) = s.db.get 0 (.user id) :=
      fun id => get_commit_of_forall_ne _ _ _ _ _ fun w hw hkey => hws w hw id hkey.symm
    exact ⟨fun id stored hstored => hids id stored ((hget id).symm.trans hstored),
      fun id _ new hnew => ⟨new, (hget id).symm.trans hnew, .refl new⟩⟩
  cases hstep with
  | create => exact others _ (by simp [Command.key])
  | append events => exact others _ fun w hw => isUser_of_mem_queueEvents hw
  | login events c hnow hprepared hread hresult hprepare =>
    obtain ⟨stored, hstored, haged⟩ := ages_of_login hread hresult
    refine ⟨storesUser_signIn.underIds (haged.id.trans (hids _ _ hstored)) hids _, fun id _ => ?_⟩
    exact storesUser_signIn.agedAt _ fun _ => ⟨stored, hstored, haged⟩
  | delete _ _ d => exact others [.del (.session d)] (by simp [Command.key])
  | @forget d => exact others [.del (.sessionActivity d)] (by simp [Command.key])
  | @expire d => exact others [.del (.session d)] (by simp [Command.key])
  | store => exact others _ (by simp [Command.key])
  | account hrun =>
    exact ⟨underIds_account hids hrun, fun id hkeeps => agedAt_account hids hkeeps.1 hrun hkeeps.2⟩
  | touch =>
    refine others _ fun w hw id => ?_
    obtain ⟨touch, _, rfl⟩ := mem_sessionTouchPipeline hw
    exact Key.noConfusion
  | _ => exact same

/-- What is stored of the session in `s'` was stored in `s`, and the accounts it was created for
    are older. -/
structure Calmer (digest : String) (s s' : SessionState) : Prop where
  clock : s.clock ≤ s'.clock
  record : ∀ session, s'.db.get s'.clock (.session digest) = some session →
    s.db.get s.clock (.session digest) = some session
  users : ∀ session, .created digest session ∈ s.log → AgedAt s.db s'.db session.userId

theorem quiet_record (hquiet : Quiet ctx digest s task input)
    (hstep : SessionStep ctx s task input turn) : s.clock ≤ turn.shared.clock ∧
      ∀ session, turn.shared.db.get turn.shared.clock (.session digest) = some session →
        s.db.get s.clock (.session digest) = some session := by
  have others : ∀ ws : List Write,
      (∀ w ∈ ws, w.key = .session digest → w = .del (.session digest)) → s.clock ≤ s.clock ∧
      ∀ session, (commit s.clock s.db ws).get s.clock (.session digest) = some session →
        s.db.get s.clock (.session digest) = some session :=
    fun ws hws => ⟨le_rfl, fun session h => get_of_get_commit_del _ _ ws s.db hws h⟩
  cases hstep with
  | tick _ hclock => exact ⟨hclock, fun session h => Keyspace.get_mono hclock h⟩
  | create =>
    refine others _ (List.forall_mem_singleton.mpr fun hkey => ?_)
    exact absurd (congrArg some (Key.session.inj hkey)) hquiet
  | append events =>
    refine others _ fun w hw hkey => ?_
    have hnot := isSession_of_mem_queueEvents hw
    rw [hkey] at hnot
    cases hnot
  | login events c hnow hprepared hread hresult hprepare =>
    cases hprepare
    refine others _ ?_
    simp only [SessionOp.commands, List.forall_mem_append, List.forall_mem_cons]
    refine ⟨⟨Key.noConfusion, fun hkey => absurd (Key.session.inj hkey) hquiet,
      List.forall_mem_nil _⟩, ?_⟩
    intro w hw hkey
    have hnot := isSession_of_mem_queueEvents hw
    rw [hkey] at hnot
    cases hnot
  | delete _ _ d =>
    exact others [.del (.session d)] (List.forall_mem_singleton.mpr (congrArg Command.del ·))
  | @forget d =>
    exact others [.del (.sessionActivity d)] (List.forall_mem_singleton.mpr Key.noConfusion)
  | @expire d =>
    exact others [.del (.session d)] (List.forall_mem_singleton.mpr (congrArg Command.del ·))
  | store =>
    refine others _ ?_
    simp only [List.forall_mem_cons]
    refine ⟨fun hkey => ?_, Key.noConfusion, List.forall_mem_nil _⟩
    exact absurd (congrArg some (Key.session.inj hkey)) hquiet
  | @account _ _ _ op hrun =>
    exact ⟨le_rfl, fun session h => (op.get_session s.db _ _ _).symm.trans h⟩
  | touch =>
    refine others _ fun w hw hkey => ?_
    obtain ⟨touch, _, rfl⟩ := mem_sessionTouchPipeline hw
    cases hkey
  | _ => exact ⟨le_rfl, fun session h => h⟩

theorem quiet_calmer (hids : UnderIds s.db) (hquiet : Quiet ctx digest s task input)
    (hstep : SessionStep ctx s task input turn) : Calmer digest s turn.shared := by
  obtain ⟨hclock, hrecord⟩ := quiet_record hquiet hstep
  refine ⟨hclock, hrecord, fun session hcreated => (accounts_of_step hids hstep).2 _ ?_⟩
  cases input with
  | account =>
    refine ⟨hquiet.1, fun henrols => ?_⟩
    have hnot := hquiet.2 _ henrols _ hcreated
    simp [SessionEvent.createdFor] at hnot
  | _ => trivial

/-! ## Sessions that are over -/

/-- The account is gone, has a later version, or does not have the passkey that the session is
    bound to. -/
def Revoked (db : Db) (session : Session) : Prop :=
  AtMost db session.userId session.sessionVersion ∧ Void db session

/-- Deleted, past the absolute expiry, or revoked. -/
def Over (s : SessionState) (digest : String) : Prop :=
  ∀ session, s.db.get s.clock (.session digest) = some session →
    session.absoluteExpiresAt ≤ s.clock ∨ Revoked s.db session

theorem Calmer.revoked (h : Calmer digest s s') (hcreated : Created s.log digest session)
    (hrevoked : Revoked s.db session) : Revoked s'.db session := by
  obtain ⟨created, hmem, hsame⟩ := hcreated
  have haged := hsame.userId ▸ h.users created hmem
  exact ⟨haged.atMost hrevoked.1, haged.void hrevoked.1 hrevoked.2⟩

section Over

variable (ctx digest) (before : List SessionEvent)

/-- No request that read the record since `before` is accepted. -/
structure OverState (s : SessionState) : Prop where
  backed : StateBacked ctx.idleSeconds s
  under : UnderIds s.db
  ended : Over s digest
  log : ∃ events, s.log = events ++ before ∧ ∀ since session t,
    .accepted since digest session t ∈ events → since < before.length

/-- A call that read the record since then holds a session that is over. -/
def HoldsOver (s : SessionState) : SessionTask → Prop
  | .fetched since d session _ => d = digest → before.length ≤ since →
      session.absoluteExpiresAt ≤ s.clock ∨ Revoked s.db session
  | .live since d session _ => d = digest → before.length ≤ since → Revoked s.db session
  | _ => True

variable {ctx digest before}

theorem HoldsOver.calmer (h : Calmer digest s s') (hbacked : TaskBacked s task)
    (htask : HoldsOver digest before s task) : HoldsOver digest before s' task := by
  cases task with
  | fetched since d session activity =>
    rintro rfl hsince
    exact (htask rfl hsince).imp (Nat.le_trans · h.clock) (h.revoked hbacked.1.created)
  | live since d session current =>
    rintro rfl hsince
    exact h.revoked hbacked.1 (htask rfl hsince)
  | _ => trivial

theorem OverState.calmer (h : OverState ctx digest before s) (calmer : Calmer digest s s') :
    Over s' digest := by
  intro session hrecord
  have hbefore := calmer.record session hrecord
  have hcreated := (h.backed.stored (.session digest) _ _ hbefore).created
  exact (h.ended session hbefore).imp (Nat.le_trans · calmer.clock) (calmer.revoked hcreated)

theorem over_step (h : OverState ctx digest before s) (hbacked : TaskBacked s task)
    (htask : HoldsOver digest before s task) (hquiet : Quiet ctx digest s task input)
    (hstep : SessionStep ctx s task input turn) :
    OverState ctx digest before turn.shared ∧ HoldsOver digest before turn.shared turn.phase := by
  have calmer := quiet_calmer h.under hquiet hstep
  refine ⟨⟨(sessionStep_backed h.backed hbacked hstep).state, (accounts_of_step h.under hstep).1,
    h.calmer calmer, ?_⟩, ?_⟩
  · obtain ⟨events, hlog, hevents⟩ := log_of_step hstep
    obtain ⟨earlier, hearlier, hbefore⟩ := h.log
    refine ⟨events ++ earlier, by rw [hlog, hearlier, List.append_assoc], ?_⟩
    intro since session t hmem
    rcases List.mem_append.mp hmem with hmem | hmem
    · obtain ⟨found, user, rfl, _, hread, hvalid⟩ := hevents _ hmem
      by_contra hsince
      exact not_void_of_valid hread hvalid (htask rfl (Nat.not_lt.mp hsince)).2
    · exact hbefore since session t hmem
  · cases hstep with
    | tick _ hclock => exact htask.calmer calmer hbacked
    | read hrecord =>
      intro hd _
      rw [hd] at hrecord
      exact h.ended _ hrecord
    | inTime hlive =>
      intro hd hsince
      obtain ⟨lastSeenAt, heq⟩ := applySessionActivity_eq _ _ _
      rw [heq] at hlive ⊢
      rcases htask hd hsince with habsolute | hrevoked
      · rw [sessionExpired_eq_false] at hlive
        exact absurd habsolute (Nat.not_le.mpr hlive.1)
      · exact hrevoked
    | _ => trivial

/-- A session that is over stays so: no request that reads it later is accepted. -/
theorem over_run {world world' : SessionWorld} {ls : List (Nat × SessionInput)}
    (hbacked : WorldBacked ctx world) (hids : UnderIds world.shared.db)
    (hover : Over world.shared digest) (run : Run (QuietTurns ctx digest) world ls world') :
    OverState ctx digest world.shared.log world'.shared := by
  have hstart : Inv (fun s _ => OverState ctx digest world.shared.log s)
      (fun s task => TaskBacked s task ∧ HoldsOver digest world.shared.log s task) world := by
    refine ⟨⟨hbacked.shared, hids, hover, [], rfl, nofun⟩, fun i => ⟨hbacked.tasks i, ?_⟩⟩
    have hbacked := hbacked.tasks i
    cases htask : world.task i with
    | fetched since d session activity =>
      rw [htask] at hbacked
      exact fun _ hsince => absurd hbacked.2.2 (Nat.not_lt.mpr hsince)
    | live since d session current =>
      rw [htask] at hbacked
      exact fun _ hsince => absurd hbacked.2.2.2 (Nat.not_lt.mpr hsince)
    | _ => trivial
  refine (run.invariant (I := Inv (fun s _ => OverState ctx digest world.shared.log s)
    (fun s task => TaskBacked s task ∧ HoldsOver digest world.shared.log s task)) ?_ hstart).shared
  rintro world l world' hinv ⟨hquiet, hturn⟩
  refine turns_inv hinv hturn fun turn hact => ?_
  have hstep := sessionTurn_step hact
  obtain ⟨htask, hholds⟩ := hinv.tasks l.1
  have hnext := sessionStep_backed hinv.shared.backed htask hstep
  obtain ⟨hstate, hphase⟩ := over_step hinv.shared htask hholds hquiet hstep
  refine ⟨hstate, ⟨hnext.task, hphase⟩, fun _ hother => ⟨hother.1.later hnext.later, ?_⟩⟩
  exact hother.2.calmer (quiet_calmer hinv.shared.under hquiet hstep) hother.1

end Over

/-! ## Idle sessions -/

/-- The session has been idle for too long, and no request under way has been found in time. -/
structure IdleOver (ctx : SessionContext) (world : SessionWorld) (digest : String) : Prop where
  idle : ∀ u, Active world.shared.log digest u → u + ctx.idleSeconds ≤ world.shared.clock
  noneFound : ∀ i since session t, world.task i ≠ .live since digest session t

section Idle

variable {before : List SessionEvent}

/-- A quiet turn shows the session active only by accepting a request found in time. -/
theorem quiet_log (hquiet : Quiet ctx digest s task input)
    (hstep : SessionStep ctx s task input turn) :
    ∃ events, turn.shared.log = events ++ s.log ∧ ∀ event ∈ events, ∀ u, event.ActiveAt digest u →
      ∃ since session t, task = .live since digest session t := by
  cases hstep with
  | create =>
    refine ⟨[_], rfl, ?_⟩
    intro event hmem u hactive
    rw [List.mem_singleton.mp hmem] at hactive
    exact absurd (congrArg some hactive.1) hquiet
  | login events c hnow hprepared hread hresult hprepare =>
    cases hprepare
    refine ⟨[_], rfl, ?_⟩
    intro event hmem u hactive
    rw [List.mem_singleton.mp hmem] at hactive
    exact absurd hactive.1 hquiet
  | read => exact ⟨[_], rfl, by simp [SessionEvent.ActiveAt]⟩
  | accept =>
    refine ⟨[_], rfl, ?_⟩
    intro event hmem u hactive
    rw [List.mem_singleton.mp hmem] at hactive
    exact ⟨_, _, _, by rw [hactive.1]⟩
  | delete => exact ⟨[_], rfl, by simp [SessionEvent.ActiveAt]⟩
  | store =>
    refine ⟨[_], rfl, ?_⟩
    intro event hmem u hactive
    rw [List.mem_singleton.mp hmem] at hactive
    exact absurd (congrArg some hactive.1) hquiet
  | @account _ request =>
    refine ⟨_, rfl, ?_⟩
    cases request <;> simp [AccountRequest.revocations, SessionEvent.ActiveAt]
  | _ => exact ⟨[], rfl, List.forall_mem_nil _⟩

variable (ctx digest before) in
structure IdleState (s : SessionState) : Prop where
  backed : StateBacked ctx.idleSeconds s
  idle : ∀ u, Active s.log digest u → u + ctx.idleSeconds ≤ s.clock
  log : ∃ events, s.log = events ++ before ∧ ∀ since session t,
    .accepted since digest session t ∉ events

variable (digest) in
structure IdleTask (s : SessionState) (task : SessionTask) : Prop where
  backed : TaskBacked s task
  noneFound : ∀ since session t, task ≠ .live since digest session t

theorem idle_step (h : IdleState ctx digest before s) (htask : IdleTask digest s task)
    (hquiet : Quiet ctx digest s task input) (hstep : SessionStep ctx s task input turn) :
    IdleState ctx digest before turn.shared ∧ IdleTask digest turn.shared turn.phase := by
  have hbacked := sessionStep_backed h.backed htask.backed hstep
  obtain ⟨events, hlog, hevents⟩ := quiet_log hquiet hstep
  have hnone : ∀ event ∈ events, ∀ u, ¬event.ActiveAt digest u := by
    intro event hmem u hactive
    obtain ⟨since, session, t, heq⟩ := hevents event hmem u hactive
    exact htask.noneFound since session t heq
  refine ⟨⟨hbacked.state, ?_, ?_⟩, hbacked.task, ?_⟩
  · intro u hactive
    rw [hlog] at hactive
    obtain ⟨event, hmem, hat⟩ := hactive
    rcases List.mem_append.mp hmem with hmem | hmem
    · exact absurd hat (hnone event hmem u)
    · exact Nat.le_trans (h.idle u ⟨event, hmem, hat⟩) hbacked.later.clock
  · obtain ⟨earlier, hearlier, hbefore⟩ := h.log
    refine ⟨events ++ earlier, by rw [hlog, hearlier, List.append_assoc], ?_⟩
    intro since session t hmem
    rcases List.mem_append.mp hmem with hmem | hmem
    · exact hnone _ hmem t ⟨rfl, rfl⟩
    · exact hbefore since session t hmem
  · intro since session t hphase
    cases hstep with
    | tick _ hclock => exact htask.noneFound since session t hphase
    | @inTime _ _ read activity _ hlive =>
      cases hphase
      obtain ⟨_, hactive, _, _⟩ := inTime_backed htask.backed
      rw [sessionExpired_eq_false] at hlive
      have hidle := h.idle _ hactive
      have hsat := satAdd_le (applySessionActivity read activity s.clock).lastSeenAt
        ctx.idleSeconds
      omega
    | _ => cases hphase

theorem idle_run {world world' : SessionWorld} {ls : List (Nat × SessionInput)}
    (hbacked : WorldBacked ctx world) (hidle : IdleOver ctx world digest)
    (run : Run (QuietTurns ctx digest) world ls world') :
    IdleState ctx digest world.shared.log world'.shared := by
  have hstart : Inv (fun s _ => IdleState ctx digest world.shared.log s) (IdleTask digest) world :=
    ⟨⟨hbacked.shared, hidle.idle, [], rfl, nofun⟩,
      fun i => ⟨hbacked.tasks i, hidle.noneFound i⟩⟩
  have hend := run.invariant (I := Inv (fun s _ => IdleState ctx digest world.shared.log s)
    (IdleTask digest)) (fun world l world' hinv hturn => by
      obtain ⟨hquiet, hturn⟩ := hturn
      refine turns_inv hinv hturn fun turn hact => ?_
      have hstep := sessionTurn_step hact
      obtain ⟨hstate, htask⟩ := idle_step hinv.shared (hinv.tasks l.1) hquiet hstep
      have hlater := (sessionStep_backed hinv.shared.backed (hinv.tasks l.1).backed hstep).later
      exact ⟨hstate, htask, fun _ hother => ⟨hother.backed.later hlater, hother.noneFound⟩⟩) hstart
  exact hend.shared

end Idle

/-! ## Every history of sessions -/

theorem underIds_run {world world' : SessionWorld} {ls : List (Nat × SessionInput)}
    (run : Run (SessionTurns ctx) world ls world') (hids : UnderIds world.shared.db) :
    UnderIds world'.shared.db := by
  refine run.invariant (I := fun world => UnderIds world.shared.db) ?_ hids
  rintro world l world' hids ⟨turn, hact, rfl⟩
  exact (accounts_of_step hids (sessionTurn_step hact)).1

/-- Every accepted request is in time; and once a session is over or has been idle for too long,
    no later request is accepted for it, whatever touches are written and whatever else is done,
    until it is stored anew or a revoked passkey is registered again. -/
theorem session_acceptance (ctx : SessionContext) {db : Db} (hdb : NoSessions db) {clock : Nat}
    {ls : List (Nat × SessionInput)} {world : SessionWorld}
    (run : Run (SessionTurns ctx) (sessionStart db clock) ls world) :
    AcceptedInTime ctx.idleSeconds world.shared.log ∧
      ∀ digest ls' world', Run (QuietTurns ctx digest) world ls' world' →
        (UnderIds db → Over world.shared digest →
          ∃ events, world'.shared.log = events ++ world.shared.log ∧
            ∀ since session t, .accepted since digest session t ∈ events →
              since < world.shared.log.length) ∧
        (IdleOver ctx world digest → ∃ events, world'.shared.log = events ++ world.shared.log ∧
          ∀ since session t, .accepted since digest session t ∉ events) := by
  have hbacked : WorldBacked ctx world := worldBacked_run run (worldBacked_start ctx hdb clock)
  refine ⟨hbacked.shared.accepted, fun digest ls' world' quiet => ⟨?_, fun hidle => ?_⟩⟩
  · intro hids hover
    exact (over_run hbacked (underIds_run run hids) hover quiet).log
  · exact (idle_run hbacked hidle quiet).log

theorem noSessions_holderRealm : NoSessions holderRealm := by
  intro k t hk
  unfold holderRealm
  rw [get_commit_of_forall_ne, Keyspace.get_empty]
  intro w hw hkey
  rw [List.mem_singleton.mp hw] at hkey
  rw [hkey] at hk
  cases hk

/-- A login, a request, its touch, a request that is in time because of the touch, and a
    sign-out. -/
def sampleRequestsInTime : List (Nat × SessionInput) :=
  [(0, .tick 10), (0, .login 1 ⟨"cred-1", 0⟩ 3600 sampleToken 50 10 900),
    (0, .tick 100), (0, .session sampleToken), (0, .proceed 0), (0, .proceed 0),
    (1, .tick 120), (1, .touch [⟨sampleToken, 100, 3510⟩]),
    (0, .tick 390), (0, .session sampleToken), (0, .proceed 0), (0, .proceed 0),
    (0, .deleteSession sampleToken), (0, .proceed 0)]

def otherToken : String := "bbbbbbbbbbbbbbbbbbbbbbbbbbbbbbbbbbbbbbbbbbb"

/-- The touch of the second request is written after the sign-out; a session of another login is
    accepted, another account is registered, and the token that was signed out is tried. -/
def sampleAfterSignOut : List (Nat × SessionInput) :=
  [(1, .touch [⟨sampleToken, 390, 3220⟩]),
    (0, .login 1 ⟨"cred-2", 0⟩ 3600 otherToken 51 390 901),
    (0, .account (fun _ => 902) (.renamePasskey 1 "cred-1" "Tablet")),
    (0, .account (fun n => ⟨903 + n⟩) (.createUserWithPasskey 2 ⟨.email, "sam@example.com"⟩
      ⟨none, none, none⟩ ⟨"cred-3", 0, "key-3"⟩ true (.ok none))),
    (0, .tick 400), (0, .session otherToken), (0, .proceed 0), (0, .proceed 0),
    (0, .session sampleToken)]

/-- The times of the accepted requests, latest first. -/
def acceptedTimes (log : List SessionEvent) : List Nat :=
  log.filterMap fun
    | .accepted _ _ _ current => some current
    | _ => none

theorem session_acceptance_sample : NoSessions holderRealm ∧ ∃ world world',
    Run (SessionTurns sampleSessions) (sessionStart holderRealm 3) sampleRequestsInTime world ∧
    Run (QuietTurns sampleSessions sampleToken) world sampleAfterSignOut world' ∧
    AcceptedInTime 300 world.shared.log ∧ acceptedTimes world'.shared.log = [400, 390, 100] ∧
    world'.shared.db.get 400 (.sessionActivity sampleToken) = some 390 ∧
    world'.shared.db.get 400 (.user 2) ≠ none ∧
    ∃ events, world'.shared.log = events ++ world.shared.log ∧
      ∀ since session t, .accepted since sampleToken session t ∈ events →
        since < world.shared.log.length := by
  have hexec : ((execAll (takeTurn (sessionTurn sampleSessions)) (sessionStart holderRealm 3)
      sampleRequestsInTime).bind fun world => (execAll (execWhen (fun world l =>
        Quiet sampleSessions sampleToken world.shared (world.task l.1) l.2)
        (takeTurn (sessionTurn sampleSessions))) world sampleAfterSignOut).map fun world' =>
      (world.shared.db.get world.shared.clock (.session sampleToken),
        acceptedTimes world'.shared.log,
        world'.shared.db.get 400 (.sessionActivity sampleToken),
        (world'.shared.db.get 400 (.user 2)).isSome)) =
      some (none, [400, 390, 100], some 390, true) := by
    decide +kernel
  obtain ⟨world, hworld, hafter⟩ := Option.bind_eq_some_iff.mp hexec
  obtain ⟨world', quiet, hseen⟩ := exists_run (restrict_of_execWhen (turns_of_takeTurn _)) hafter
  simp only [Prod.mk.injEq] at hseen
  obtain ⟨hdeleted, htimes, hactivity, huser⟩ := hseen
  have run := run_of_execAll (turns_of_takeTurn _) hworld
  obtain ⟨haccepted, hlater⟩ := session_acceptance sampleSessions noSessions_holderRealm run
  refine ⟨noSessions_holderRealm, world, world', run, quiet, haccepted, htimes, hactivity,
    Option.isSome_iff_ne_none.mp huser, (hlater _ _ _ quiet).1 underIds_holderRealm ?_⟩
  intro session hrecord
  rw [hdeleted] at hrecord
  cases hrecord

end RustyAuth
