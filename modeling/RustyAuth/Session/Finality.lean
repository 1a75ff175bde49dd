/-
  Sign-outs and revocations are final, where step-ups are careful.

  `acceptedFinal` says that no accepted request comes after what ended its session: a sign-out,
  a revocation of the passkey it was bound to, or a revocation of all sessions of the account.
  A step-up writes back the record it has read.  It does not see that the record was deleted in
  the meantime, nor that the passkey it was bound to was revoked, and then revives a session
  that had ended.  `Careful` leaves out these two writes; the invariant is that a stored record
  of a session that has ended is void for its account (`Final`).
-/
import RustyAuth.Session.Touches

namespace RustyAuth

open RustyAuth.Library

/-! ## What ends a session -/

def SessionEvent.creates (digest : String) : SessionEvent → Bool
  | .created d _ => d = digest
  | _ => false

/-- Signed out, rejected, or bound to a passkey that is revoked. -/
def SessionEvent.ends (digest : String) : SessionEvent → Bool
  | .deleted d => d = digest
  | .revokedPasskey _ _ bound => digest ∈ bound
  | _ => false

/-- All sessions of the account were revoked after the session was created. -/
def revokedSince (digest : String) (userId : Uuid) : List SessionEvent → Bool
  | [] => false
  | .revokedAll id :: earlier =>
      (id = userId && earlier.any (·.creates digest)) || revokedSince digest userId earlier
  | _ :: earlier => revokedSince digest userId earlier

/-- No request is accepted for a session that had ended when its record was read, or had been
    revoked with all others. -/
def acceptedFinal : List SessionEvent → Bool
  | [] => true
  | .accepted since digest session _ :: earlier =>
      (!(logAt earlier since).any (·.ends digest) && !revokedSince digest session.userId earlier) &&
        acceptedFinal earlier
  | _ :: earlier => acceptedFinal earlier

variable {digest : String} {userId : Uuid} {log read : List SessionEvent} {db : Db}
  {session : Session} {now current : Nat} {user : User} {s : SessionState} {task : SessionTask}
  {turn : SessionTurn} {ctx : SessionContext}

theorem revokedSince_cons {event : SessionEvent}
    (h : revokedSince digest userId (event :: log) = true) :
    revokedSince digest userId log = true ∨
      event = .revokedAll userId ∧ log.any (·.creates digest) = true := by
  cases event with
  | revokedAll id =>
    simp only [revokedSince, Bool.or_eq_true, Bool.and_eq_true, decide_eq_true_eq] at h
    rcases h with ⟨rfl, hcreated⟩ | h
    · exact Or.inr ⟨rfl, hcreated⟩
    · exact Or.inl h
  | _ => exact Or.inl h

theorem creates_of_revokedSince (h : revokedSince digest userId log = true) :
    log.any (·.creates digest) = true := by
  induction log with
  | nil => cases h
  | cons event log ih =>
    rw [List.any_cons, Bool.or_eq_true]
    rcases revokedSince_cons h with h | ⟨_, hcreated⟩
    · exact Or.inr (ih h)
    · exact Or.inr hcreated

theorem logAt_append {events : List SessionEvent} {since : Nat} (h : since ≤ log.length) :
    logAt (events ++ log) since = logAt log since := by
  unfold logAt
  rw [List.length_append, Nat.add_sub_assoc h, ← List.drop_drop, List.drop_left]

/-! ## Outdated sessions -/

/-- The account has an older version no more. -/
def Stale (db : Db) (userId : Uuid) (version : Nat) : Prop :=
  ∀ stored, db.get 0 (.user userId) = some stored → version < stored.sessionVersion

/-- The account has the passkey that the session is bound to. -/
def Linked (db : Db) (session : Session) : Prop :=
  ∀ stored ∈ db.get 0 (.user session.userId),
    ∀ id ∈ session.currentCredentialId, id ∈ stored.passkeyIds

instance (db : Db) (session : Session) : Decidable (Linked db session) :=
  inferInstanceAs (Decidable (∀ _ ∈ _, ∀ _ ∈ _, _))

theorem Stale.void (h : Stale db session.userId session.sessionVersion) : Void db session :=
  fun stored hget => Or.inl (h stored hget)

/-- A session that is void for another reason than its version is not linked. -/
theorem Void.stale (h : Void db session) (hlinked : Linked db session) :
    Stale db session.userId session.sessionVersion := by
  intro stored hget
  rcases h stored hget with hversion | ⟨id, hbound, hnot⟩
  · exact hversion
  · exact absurd (hlinked stored hget id hbound) hnot

section

variable {db db' : Db} (aged : Aged db db') {userId : Uuid} {version : Nat}

include aged

theorem Aged.underIds (h : UnderIds db) : UnderIds db' := by
  intro id new hnew
  obtain ⟨old, hold, huser⟩ := aged id new hnew
  rw [huser.id]
  exact h id old hold

theorem Aged.stale (h : Stale db userId version) : Stale db' userId version := by
  intro new hnew
  obtain ⟨old, hold, huser⟩ := aged userId new hnew
  exact Nat.lt_of_lt_of_le (h old hold) huser.version

end

/-! ## The invariant -/

/-- A session that had ended by `read`, or was revoked with all others by `log`, is void. -/
structure Final (db : Db) (read log : List SessionEvent) (digest : String) (session : Session) :
    Prop where
  ended : read.any (·.ends digest) = true → Void db session
  outdated : revokedSince digest session.userId log = true →
    Stale db session.userId session.sessionVersion

/-- A careful step-up of a session that has ended leaves it void. -/
theorem Final.steppedUp {old : Session} (h : Final db read log digest old) (hlinked : Linked db old)
    (id : String) (current : Nat) :
    Final db read log digest (old.steppedUp id current) :=
  ⟨fun hended => Stale.void ((h.ended hended).stale hlinked), h.outdated⟩

structure FinalState (s : SessionState) : Prop where
  under : UnderIds s.db
  atMost : ∀ digest session, .created digest session ∈ s.log →
    AtMost s.db session.userId session.sessionVersion
  record : ∀ digest session, s.db.get 0 (.session digest) = some session →
    Final s.db s.log s.log digest session
  accepted : acceptedFinal s.log = true

def FinalTask (s : SessionState) : SessionTask → Prop
  | .holding user => AtMost s.db user.id user.sessionVersion
  | .creating _ session _ => AtMost s.db session.userId session.sessionVersion
  | .fetched since digest session _ => Final s.db (logAt s.log since) s.log digest session
  | .live since digest session _ => Final s.db (logAt s.log since) s.log digest session
  | .storing _ session stepped _ => ∃ id current, stepped = session.steppedUp id current
  | _ => True

theorem FinalState.atMost_of_created (h : FinalState s) (hcreated : Created s.log digest session) :
    AtMost s.db session.userId session.sessionVersion := by
  obtain ⟨created, hmem, hsame⟩ := hcreated
  rw [← hsame.userId, ← hsame.sessionVersion]
  exact h.atMost digest created hmem

/-! ## What a careful turn does -/

/-- No session lay under the digest, and no sign-out named it. -/
def Fresh (log : List SessionEvent) (digest : String) : Prop :=
  ∀ event ∈ log, event.creates digest = false ∧ event.ends digest = false

instance (log : List SessionEvent) (digest : String) : Decidable (Fresh log digest) :=
  inferInstanceAs (Decidable (∀ _ ∈ _, _))

/-- Where the accounts and records after a turn come from. -/
def Derived (s s' : SessionState) : ∀ k : Key, Value k → Prop
  | .user id, new => ∃ old, s.db.get 0 (.user id) = some old ∧ UserAged old new
  | .session digest, session =>
      s.db.get 0 (.session digest) = some session ∨
      (.created digest session ∈ s'.log ∧ Fresh s.log digest) ∨
      ∃ old id current, s.db.get 0 (.session digest) = some old ∧ Linked s.db old ∧
        session = old.steppedUp id current
  | _, _ => True

/-- What holds after a turn that adds the event. -/
def Brings (s s' : SessionState) : SessionEvent → Prop
  | .created _ session => AtMost s'.db session.userId session.sessionVersion
  | .accepted since digest session _ =>
      (logAt s.log since).any (·.ends digest) = false ∧
        revokedSince digest session.userId s.log = false
  | .revokedAll userId => ∀ new, s'.db.get 0 (.user userId) = some new →
      ∃ old, s.db.get 0 (.user userId) = some old ∧ old.sessionVersion < new.sessionVersion
  | event => ∀ digest session, event.ends digest = true →
      s'.db.get 0 (.session digest) = some session → Void s'.db session

structure Advance (s s' : SessionState) : Prop where
  stored : ∀ k t v, s'.db.get t k = some v → Derived s s' k v
  log : s'.log = s.log ∨ ∃ event, s'.log = event :: s.log ∧ Brings s s' event

section

variable {s s' : SessionState} (adv : Advance s s')

include adv

theorem Advance.aged : Aged s.db s'.db := fun id new hnew => adv.stored (.user id) 0 new hnew

/-- An event that ends a session leaves no record of it, or a void one. -/
theorem Advance.ended (hrecord : s'.db.get 0 (.session digest) = some session)
    (h : s.log.any (·.ends digest) = true → Void s'.db session) (hread : s'.log = read) :
    read.any (·.ends digest) = true → Void s'.db session := by
  subst hread
  rcases adv.log with hlog | ⟨event, hlog, hbrings⟩
  · rw [hlog]
    exact h
  · rw [hlog, List.any_cons, Bool.or_eq_true]
    rintro (hends | hearlier)
    · cases event with
      | deleted d => exact hbrings digest session hends hrecord
      | revokedPasskey userId id bound => exact hbrings digest session hends hrecord
      | _ => cases hends
    · exact h hearlier

/-- What has ended stays so, and a revocation of all sessions makes the session stale. -/
theorem Final.advance (hle : AtMost s.db session.userId session.sessionVersion)
    (h : Final s.db read s.log digest session) : Final s'.db read s'.log digest session := by
  refine ⟨fun hended => (adv.aged _).void hle (h.ended hended), fun hrevoked => ?_⟩
  rcases adv.log with hlog | ⟨event, hlog, hbrings⟩
  · rw [hlog] at hrevoked
    exact adv.aged.stale (h.outdated hrevoked)
  · rw [hlog] at hrevoked
    rcases revokedSince_cons hrevoked with hearlier | ⟨rfl, _⟩
    · exact adv.aged.stale (h.outdated hearlier)
    · intro new hnew
      obtain ⟨old, hold, hlt⟩ := hbrings new hnew
      exact Nat.lt_of_le_of_lt (hle old hold) hlt

theorem final_of_fresh (hfresh : Fresh s.log digest)
    (hrecord : s'.db.get 0 (.session digest) = some session) :
    Final s'.db s'.log s'.log digest session := by
  have hends : s.log.any (·.ends digest) = false := by
    rw [List.any_eq_false]
    intro event hmem
    rw [(hfresh event hmem).2]
    exact Bool.false_ne_true
  have hcreates : s.log.any (·.creates digest) = false := by
    rw [List.any_eq_false]
    intro event hmem
    rw [(hfresh event hmem).1]
    exact Bool.false_ne_true
  have hearlier : revokedSince digest session.userId s.log ≠ true := by
    intro h
    rw [creates_of_revokedSince h] at hcreates
    cases hcreates
  refine ⟨adv.ended hrecord (fun h => absurd h (by rw [hends]; exact Bool.false_ne_true)) rfl, ?_⟩
  intro hrevoked
  rcases adv.log with hlog | ⟨event, hlog, _⟩
  · rw [hlog] at hrevoked
    exact absurd hrevoked hearlier
  · rw [hlog] at hrevoked
    rcases revokedSince_cons hrevoked with h | ⟨_, h⟩
    · exact absurd h hearlier
    · rw [h] at hcreates
      cases hcreates

theorem FinalState.advance {idleSeconds : Nat} (hbacked : StateBacked idleSeconds s)
    (h : FinalState s) : FinalState s' := by
  have hle : ∀ digest session, s.db.get 0 (.session digest) = some session →
      AtMost s.db session.userId session.sessionVersion := fun digest session hrecord =>
    h.atMost_of_created (hbacked.stored (.session digest) 0 session hrecord).created
  -- a record that the turn has not created
  have hkept : ∀ digest session, s'.db.get 0 (.session digest) = some session →
      AtMost s.db session.userId session.sessionVersion →
      Final s.db s.log s.log digest session → Final s'.db s'.log s'.log digest session := by
    intro digest session hrecord hsession hfinal
    have hnext := hfinal.advance adv hsession
    exact ⟨adv.ended hrecord hnext.ended rfl, hnext.outdated⟩
  refine ⟨adv.aged.underIds h.under, ?_, ?_, ?_⟩
  · intro digest session hmem
    rcases adv.log with hlog | ⟨event, hlog, hbrings⟩
    · rw [hlog] at hmem
      exact (adv.aged _).atMost (h.atMost digest session hmem)
    · rw [hlog] at hmem
      rcases List.mem_cons.mp hmem with rfl | hmem
      · exact hbrings
      · exact (adv.aged _).atMost (h.atMost digest session hmem)
  · intro digest session hrecord
    rcases adv.stored (.session digest) 0 session hrecord with
      hold | ⟨_, hfresh⟩ | ⟨old, id, current, hold, hlinked, rfl⟩
    · exact hkept digest session hrecord (hle digest session hold) (h.record digest session hold)
    · exact final_of_fresh adv hfresh hrecord
    · exact hkept digest _ hrecord (hle digest old hold)
        ((h.record digest old hold).steppedUp hlinked id current)
  · rcases adv.log with hlog | ⟨event, hlog, hbrings⟩
    · rw [hlog]
      exact h.accepted
    · rw [hlog]
      cases event with
      | accepted since digest session current =>
        unfold acceptedFinal
        rw [hbrings.1, hbrings.2, h.accepted]
        rfl
      | _ => exact h.accepted

theorem FinalTask.advance (hstate : FinalState s) (hbacked : TaskBacked s task)
    (h : FinalTask s task) : FinalTask s' task := by
  have hread : ∀ since, since < s.log.length → logAt s'.log since = logAt s.log since := by
    intro since hsince
    rcases adv.log with hlog | ⟨event, hlog, _⟩
    · rw [hlog]
    · rw [hlog, ← List.singleton_append, logAt_append (Nat.le_of_lt hsince)]
  cases task with
  | holding user => exact (adv.aged _).atMost h
  | creating digest session seconds => exact (adv.aged _).atMost h
  | fetched since digest session activity =>
    obtain ⟨hknown, _, hsince⟩ := hbacked
    show Final s'.db (logAt s'.log since) s'.log digest session
    rw [hread since hsince]
    exact Final.advance adv (hstate.atMost_of_created hknown.created) h
  | live since digest session current =>
    obtain ⟨hcreated, _, _, hsince⟩ := hbacked
    show Final s'.db (logAt s'.log since) s'.log digest session
    rw [hread since hsince]
    exact Final.advance adv (hstate.atMost_of_created hcreated) h
  | storing digest session stepped seconds => exact h
  | _ => trivial

end

/-! ## Careful turns -/

/-- A session is created under a new digest; a step-up finds the record it has read and its
    passkey still there. -/
def CarefulWrite (s : SessionState) : SessionTask → Prop
  | .creating digest _ _ => Fresh s.log digest
  | .storing digest session _ _ =>
      s.db.get 0 (.session digest) = some session ∧ Linked s.db session
  | _ => True

/-- Also, tokens of logins are new, and the operations on accounts register no passkeys. -/
def Careful (ctx : SessionContext) (s : SessionState) (task : SessionTask) : SessionInput → Prop
  | .proceed _ => CarefulWrite s task
  | .login _ result _ random _ _ _ =>
      Fresh s.log
        (ctx.tokenDigest ((SessionOrigin.passkey result.credentialId).tokenPrefix ++ random))
  | .account _ request => Listed request ∧ Headroom s.db s.clock request
  | _ => True

instance (s : SessionState) : DecidablePred (CarefulWrite s) := fun task => by
  cases task <;> unfold CarefulWrite <;> infer_instance

instance (ctx : SessionContext) (s : SessionState) (task : SessionTask) :
    DecidablePred (Careful ctx s task) := fun input => by
  cases input <;> unfold Careful <;> infer_instance

section

variable {s s' : SessionState}

theorem derived_of_get {k : Key} {t : Nat} {v : Value k} (h : s.db.get t k = some v) :
    Derived s s' k v := by
  have hget := Keyspace.get_mono (Nat.zero_le t) h
  cases k with
  | user id => exact ⟨v, hget, .refl v⟩
  | session digest => exact Or.inl hget
  | _ => trivial

theorem stores_derived {w : Write} (huser : ∀ id, w.key ≠ .user id)
    (hsession : w.key.isSession = false) : w.Stores (Derived s s') := by
  cases w with
  | del k => trivial
  | set k v =>
    cases k with
    | user id => exact absurd rfl (huser id)
    | session digest => cases hsession
    | _ => trivial
  | setEx k v seconds =>
    cases k with
    | user id => exact absurd rfl (huser id)
    | session digest => cases hsession
    | _ => trivial
  | setKeep k v =>
    cases k with
    | user id => exact absurd rfl (huser id)
    | session digest => cases hsession
    | _ => trivial

theorem Advance.of_write (ws : List Write) (hdb : s'.db = commit s.clock s.db ws)
    (hws : ∀ w ∈ ws, w.Stores (Derived s s'))
    (hlog : s'.log = s.log ∨ ∃ event, s'.log = event :: s.log ∧ Brings s s' event) :
    Advance s s' := by
  refine ⟨?_, hlog⟩
  rw [hdb]
  exact forall_get_commit s.clock ws s.db hws fun k t v h => derived_of_get h

theorem Advance.of_db (hdb : s'.db = s.db)
    (hlog : s'.log = s.log ∨ ∃ event, s'.log = event :: s.log ∧ Brings s s' event) :
    Advance s s' :=
  .of_write [] hdb (List.forall_mem_nil _) hlog

theorem advance_del (hdb : s'.db = commit s.clock s.db [.del (.session digest)])
    (hlog : s'.log = s.log ∨ s'.log = .deleted digest :: s.log) : Advance s s' := by
  refine .of_write _ hdb ?_ (hlog.imp id fun hlog => ⟨_, hlog, ?_⟩)
  · intro w hw
    rw [List.mem_singleton.mp hw]
    trivial
  · intro d session hends hrecord
    simp only [SessionEvent.ends, decide_eq_true_eq] at hends
    subst hends
    rw [hdb, commit_cons, commit_nil, Command.get_del_self] at hrecord
    cases hrecord

/-- A session is created with a version that its account has had. -/
theorem advance_created (ws : List Write) (hdb : s'.db = commit s.clock s.db ws)
    (hws : ∀ w ∈ ws, w.Stores (Derived s s')) (hlog : s'.log = .created digest session :: s.log)
    (hle : AtMost s.db session.userId session.sessionVersion) : Advance s s' := by
  have hstored : ∀ k t v, s'.db.get t k = some v → Derived s s' k v := by
    rw [hdb]
    exact forall_get_commit s.clock ws s.db hws fun k t v h => derived_of_get h
  have haged : Aged s.db s'.db := fun id new hnew => hstored (.user id) 0 new hnew
  exact ⟨hstored, Or.inr ⟨_, hlog, (haged _).atMost hle⟩⟩

theorem advance_store {id : String} {seconds : Nat}
    (hrecord : s.db.get 0 (.session digest) = some session) (hlinked : Linked s.db session) :
    Advance s (storeStepUp s digest (session.steppedUp id current) seconds).shared := by
  refine .of_write _ rfl ?_ (Or.inr ⟨_, rfl, nofun⟩)
  simp only [List.forall_mem_cons]
  exact ⟨Or.inr (Or.inr ⟨session, id, current, hrecord, hlinked, rfl⟩), trivial,
    List.forall_mem_nil _⟩

end

theorem mem_boundTo {credentialId : String} :
    digest ∈ db.boundTo now userId credentialId ↔
      ∃ session, db.get now (.session digest) = some session ∧ session.userId = userId ∧
        session.currentCredentialId = some credentialId := by
  unfold Db.boundTo
  rw [List.mem_filterMap]
  constructor
  · rintro ⟨⟨k, v⟩, hmem, hsome⟩
    rw [Keyspace.mem_scan] at hmem
    split at hsome
    · next d session heq =>
      cases heq
      split at hsome
      · next hbound =>
        cases hsome
        exact ⟨session, hmem, hbound⟩
      · cases hsome
    · cases hsome
  · rintro ⟨session, hget, hbound⟩
    refine ⟨⟨.session digest, session⟩, (Keyspace.mem_scan db now _ _).mpr hget, ?_⟩
    exact if_pos hbound

section Steps

variable {ctx : SessionContext} {s : SessionState} (h : FinalState s)

include h

/-- The operations on accounts age the accounts, and a revocation does what its event says. -/
theorem advance_account {c : AccountCall} (hnow : c.now = s.clock) {request : AccountRequest}
    {op : AccountOp} (hlisted : Listed request) (hroom : Headroom s.db s.clock request)
    (hrun : request.run ctx.accounts s.db c = .ok (user, op)) :
    Advance s (s.write op.commands (request.revocations s.db s.clock)) := by
  rw [← hnow] at hroom
  have hsession := op.get_session s.db s.clock
  have haged : Aged s.db (commit c.now s.db op.commands) := fun id =>
    agedAt_account h.under hroom hrun (hlisted.trans_ne nofun)
  have hmoved : ∀ userId, .revokedAll userId ∈ request.revocations s.db c.now → ∀ new,
      (commit c.now s.db op.commands).get 0 (.user userId) = some new →
      ∃ old, s.db.get 0 (.user userId) = some old ∧ old.sessionVersion < new.sessionVersion :=
    fun userId hrequest new hnew => moved_account h.under hroom hrun hrequest hnew
  rw [hnow] at haged hmoved
  constructor
  · intro k t v hv
    cases k with
    | user id => exact haged id v (Keyspace.get_mono (Nat.zero_le t) hv)
    | session digest =>
      refine Or.inl (Keyspace.get_mono (Nat.zero_le t) ?_)
      rw [← hsession]
      exact hv
    | _ => trivial
  · cases request with
    | addRecoveryPasskey userId label passkey =>
      exact Or.inr ⟨_, rfl, fun new hnew => hmoved userId (List.mem_singleton_self _) new hnew⟩
    | revokeAllSessions userId =>
      exact Or.inr ⟨_, rfl, fun new hnew => hmoved userId (List.mem_singleton_self _) new hnew⟩
    | revokePasskey userId credentialId =>
      refine Or.inr ⟨_, rfl, ?_⟩
      intro digest session hends hrecord stored hstored
      simp only [SessionEvent.ends, decide_eq_true_eq] at hends
      obtain ⟨bound, hbound, rfl, hcredential⟩ := mem_boundTo.mp hends
      have hsame : some bound = some session := by
        rw [← Keyspace.get_mono (Nat.zero_le _) hbound, ← hsession]
        exact hrecord
      cases hsame
      refine Or.inr ⟨credentialId, hcredential, ?_⟩
      apply not_mem_of_revokePasskey hrun
      rw [hnow]
      exact hstored
    | _ => exact Or.inl rfl

theorem atMost_of_read (hread : s.db.user now userId = .ok (some user)) :
    AtMost s.db user.id user.sessionVersion := by
  obtain ⟨stored, hget, hnormal⟩ := user_eq_some.mp hread
  obtain ⟨hid, hversion, _⟩ := normalizeAndValidate_keeps hnormal
  have hget0 := Keyspace.get_mono (Nat.zero_le _) hget
  intro found hfound
  rw [hid, h.under userId stored hget0, hget0] at hfound
  cases hfound
  exact Nat.le_of_eq hversion

theorem advance_login {c : AccountCall} {new : User} {result : AuthenticationResult}
    {token : String} {preparedAt seconds : Nat} {random : String} {id : Uuid}
    {events : List AuthEvent} (hread : requireUser s.db c userId = .ok user)
    (hresult : applyAuthenticationResult c ctx.accounts.updateCredential user result = .ok new)
    (hprepare : prepareSession preparedAt new (.passkey result.credentialId) seconds random id =
      (token, session)) (hfresh : Fresh s.log (ctx.tokenDigest token)) :
    Advance s (s.write (SessionOp.applyAuthenticationAndCreateSession userId new
      (ctx.tokenDigest token) session seconds events).commands
      [.created (ctx.tokenDigest token) session]) := by
  cases hprepare
  obtain ⟨stored, hstored, haged⟩ := ages_of_login hread hresult
  obtain ⟨hid, hversion, _⟩ := applyAuthenticationResult_keeps hresult
  refine advance_created _ rfl ?_ rfl ?_
  · simp only [SessionOp.commands, List.forall_mem_append, List.forall_mem_cons]
    refine ⟨⟨⟨stored, hstored, haged⟩, Or.inr (Or.inl ⟨List.mem_cons_self, hfresh⟩),
      List.forall_mem_nil _⟩, fun w hw => ?_⟩
    exact stores_derived (isUser_of_mem_queueEvents hw) (isSession_of_mem_queueEvents hw)
  · show AtMost s.db new.id new.sessionVersion
    rw [hid, hversion]
    exact atMost_of_read h (user_eq_some.mpr (requireUser_eq_ok.mp hread))

omit h in
/-- What is accepted had not ended. -/
theorem advance_accept {since : Nat} (htask : FinalTask s (.live since digest session current))
    (hread : s.db.user s.clock session.userId = .ok (some user))
    (hvalid : sessionVerdict session user.sessionVersion (user.passkeys.map (·.id))
      ctx.idleSeconds current = .valid) :
    Advance s (acceptSession ctx s since digest session current).shared := by
  have hnot := not_void_of_valid hread hvalid
  refine .of_db rfl (Or.inr ⟨_, rfl, ?_, ?_⟩)
  · exact Bool.eq_false_iff.mpr fun hended => hnot (htask.ended hended)
  · exact Bool.eq_false_iff.mpr fun hrevoked => hnot (htask.outdated hrevoked).void

/-- Every careful turn advances, and leaves its task with what the invariant says. -/
theorem sessionStep_advance {input : SessionInput} (htask : FinalTask s task)
    (hcareful : Careful ctx s task input) (hstep : SessionStep ctx s task input turn) :
    Advance s turn.shared := by
  cases hstep with
  | create =>
    refine advance_created _ rfl ?_ rfl htask
    intro w hw
    rw [List.mem_singleton.mp hw]
    exact Or.inr (Or.inl ⟨List.mem_cons_self, hcareful⟩)
  | append events =>
    refine .of_write _ rfl (fun w hw => ?_) (Or.inl rfl)
    exact stores_derived (isUser_of_mem_queueEvents hw) (isSession_of_mem_queueEvents hw)
  | login events c hnow hprepared hread hresult hprepare =>
    refine advance_login h hread hresult hprepare ?_
    cases hprepare
    exact hcareful
  | read => exact .of_db rfl (Or.inr ⟨_, rfl, nofun⟩)
  | accept hread hvalid => exact advance_accept htask hread hvalid
  | delete _ _ digest => exact advance_del rfl (Or.inr rfl)
  | forget =>
    refine .of_write _ rfl (fun w hw => ?_) (Or.inl rfl)
    rw [List.mem_singleton.mp hw]
    trivial
  | expire => exact advance_del rfl (Or.inl rfl)
  | store =>
    obtain ⟨id, current, rfl⟩ := htask
    exact advance_store hcareful.1 hcareful.2
  | account hrun => exact advance_account h rfl hcareful.1 hcareful.2 hrun
  | touch =>
    refine .of_write _ rfl (fun w hw => ?_) (Or.inl rfl)
    obtain ⟨touch, _, rfl⟩ := mem_sessionTouchPipeline hw
    trivial
  | _ => exact .of_db rfl (Or.inl rfl)

theorem sessionStep_final {input : SessionInput} (htask : FinalTask s task)
    (hstep : SessionStep ctx s task input turn) : FinalTask turn.shared turn.phase := by
  cases hstep with
  | tick _ hclock =>
    cases task <;> exact htask
  | hold hread => exact atMost_of_read h hread
  | prepare hprepare =>
    cases hprepare
    exact htask
  | @read token session hrecord =>
    have hfinal := h.record _ session (Keyspace.get_mono (Nat.zero_le _) hrecord)
    show Final s.db (logAt (.read (ctx.tokenDigest token) :: s.log) s.log.length)
      (.read (ctx.tokenDigest token) :: s.log) _ session
    rw [← List.singleton_append, logAt_append (Nat.le_refl _)]
    unfold logAt
    rw [Nat.sub_self, List.drop_zero]
    exact ⟨hfinal.ended, hfinal.outdated⟩
  | inTime =>
    obtain ⟨lastSeenAt, heq⟩ := applySessionActivity_eq _ _ _
    show Final _ _ _ _ _
    rw [heq]
    exact ⟨htask.ended, htask.outdated⟩
  | decide => exact ⟨_, _, rfl⟩
  | _ => trivial

end Steps

theorem sessionTurn_account {eventId : Nat → Uuid} {request : AccountRequest}
    (h : sessionTurn ctx s task (.account eventId request) = some turn) :
    turn = accountOperation ctx s eventId request := by
  unfold sessionTurn at h
  cases task with
  | idle =>
    dsimp only at h
    split at h
    · cases h
      rfl
    · cases h
  | _ => cases h

/-- A revoked passkey leaves the sessions that are not bound to it as they are. -/
theorem revokePasskey_unaffected {eventId : Nat → Uuid} {credentialId : String}
    (hrecord : s.db.get s.clock (.session digest) = some session)
    (hother : ¬(session.userId = userId ∧ session.currentCredentialId = some credentialId)) :
    let s' := (accountOperation ctx s eventId (.revokePasskey userId credentialId)).shared
    s'.db.get s.clock (.session digest) = some session ∧
      ∀ current, s'.db.accepts s.clock ctx.idleSeconds current session =
        s.db.accepts s.clock ctx.idleSeconds current session := by
  intro s'
  show (accountOperation ctx s eventId (.revokePasskey userId credentialId)).shared.db.get s.clock
    (.session digest) = some session ∧ ∀ current, Db.accepts (accountOperation ctx s eventId
      (.revokePasskey userId credentialId)).shared.db s.clock ctx.idleSeconds current session = _
  unfold accountOperation
  split
  · next user op hrun =>
    refine ⟨?_, fun current => accepts_revokePasskey hrun hother ctx.idleSeconds current⟩
    rw [← hrecord]
    exact op.get_session s.db s.clock s.clock digest
  · exact ⟨hrecord, fun _ => rfl⟩

/-! ## Every careful history -/

abbrev WorldFinal (ctx : SessionContext) (world : SessionWorld) : Prop :=
  Inv (fun s _ => StateBacked ctx.idleSeconds s ∧ FinalState s)
    (fun s task => TaskBacked s task ∧ FinalTask s task) world

abbrev CarefulTurns (ctx : SessionContext) :
    SessionWorld → Nat × SessionInput → SessionWorld → Prop :=
  Restrict (SessionTurns ctx) fun world l => Careful ctx world.shared (world.task l.1) l.2

theorem worldFinal_start (ctx : SessionContext) (hdb : NoSessions db) (hids : UnderIds db)
    (clock : Nat) : WorldFinal ctx (sessionStart db clock) := by
  have hbacked := worldBacked_start ctx hdb clock
  refine ⟨⟨hbacked.shared, hids, nofun, ?_, rfl⟩, fun i => ⟨hbacked.tasks i, trivial⟩⟩
  intro digest session hrecord
  cases (hdb (.session digest) 0 rfl).symm.trans hrecord

theorem worldFinal_turns {world world' : SessionWorld} {l : Nat × SessionInput}
    (h : WorldFinal ctx world) (hturn : CarefulTurns ctx world l world') :
    WorldFinal ctx world' := by
  obtain ⟨hcareful, hturn⟩ := hturn
  refine turns_inv h hturn fun turn hact => ?_
  obtain ⟨hbacked, hfinal⟩ := h.shared
  obtain ⟨htask, hfinalTask⟩ := h.tasks l.1
  have hstep := sessionTurn_step hact
  have hnext := sessionStep_backed hbacked htask hstep
  have adv := sessionStep_advance hfinal hfinalTask hcareful hstep
  refine ⟨⟨hnext.state, hfinal.advance adv hbacked⟩,
    ⟨hnext.task, sessionStep_final hfinal hfinalTask hstep⟩, ?_⟩
  rintro task ⟨hother, hotherFinal⟩
  exact ⟨hother.later hnext.later, hotherFinal.advance adv hfinal hother⟩

/-- In every interleaving whose turns are careful no request is accepted for a session that has
    ended, and a revoked passkey leaves the sessions that are not bound to it as they are. -/
theorem revocation_is_final (ctx : SessionContext) {db : Db} (hdb : NoSessions db)
    (hids : UnderIds db) {clock : Nat} {ls : List (Nat × SessionInput)} {world : SessionWorld}
    (run : Run (CarefulTurns ctx) (sessionStart db clock) ls world) :
    acceptedFinal world.shared.log = true ∧
      ∀ i eventId userId credentialId world',
        SessionTurns ctx world (i, .account eventId (.revokePasskey userId credentialId)) world' →
        ∀ digest session, world.shared.db.get world.shared.clock (.session digest) = some session →
          ¬(session.userId = userId ∧ session.currentCredentialId = some credentialId) →
          world'.shared.db.get world.shared.clock (.session digest) = some session ∧
            ∀ current, world'.shared.db.accepts world.shared.clock ctx.idleSeconds current session =
              world.shared.db.accepts world.shared.clock ctx.idleSeconds current session := by
  have hfinal : WorldFinal ctx world :=
    run.invariant (fun _ _ _ h hturn => worldFinal_turns h hturn)
      (worldFinal_start ctx hdb hids clock)
  refine ⟨hfinal.shared.2.accepted, ?_⟩
  intro i eventId userId credentialId world' hturn digest session hrecord hother
  obtain ⟨turn, hact, rfl⟩ := hturn
  rw [sessionTurn_account hact]
  exact revokePasskey_unaffected hrecord hother

/-! ### Sample histories -/

/-- Signed out while a step-up is under way. -/
def sampleRevived : List (Nat × SessionInput) :=
  [(0, .tick 10), (0, .login 1 ⟨"cred-1", 0⟩ 600 sampleToken 50 10 900),
    (1, .markSessionStepUp sampleToken 50 "cred-1"), (1, .proceed 0),
    (0, .deleteSession sampleToken), (0, .proceed 0), (1, .proceed 0), (1, .abandon),
    (0, .session sampleToken), (0, .proceed 0), (0, .proceed 0)]

/-- `step_up_verify` with the second passkey; the first, which the session is bound to, is
    revoked after `apply_authentication`. -/
def sampleRebound : List (Nat × SessionInput) :=
  [(0, .tick 10), (0, .login 1 ⟨"cred-1", 0⟩ 600 sampleToken 50 10 900),
    (1, .session sampleToken), (1, .proceed 0), (1, .proceed 0),
    (1, .account (fun _ => 901) (.applyAuthentication 1 ⟨"cred-2", 0⟩)),
    (0, .account (fun _ => 902) (.revokePasskey 1 "cred-1")),
    (1, .markSessionStepUp sampleToken 50 "cred-2"), (1, .proceed 0), (1, .proceed 0),
    (1, .abandon),
    (0, .session sampleToken), (0, .proceed 0), (0, .proceed 0)]

/-- In both a request is accepted for a session that had ended. -/
theorem step_up_revives_session :
    (∃ world, Run (SessionTurns sampleSessions) (sessionStart holderRealm 3) sampleRevived world ∧
      acceptedFinal world.shared.log = false) ∧
    ∃ world, Run (SessionTurns sampleSessions) (sessionStart holderRealm 3) sampleRebound world ∧
      acceptedFinal world.shared.log = false := by
  have hrun : ∀ ls, (execAll (takeTurn (sessionTurn sampleSessions)) (sessionStart holderRealm 3)
      ls).map (fun world => acceptedFinal world.shared.log) = some false →
      ∃ world, Run (SessionTurns sampleSessions) (sessionStart holderRealm 3) ls world ∧
        acceptedFinal world.shared.log = false := by
    intro ls hexec
    obtain ⟨world, run, hlog⟩ := exists_run (turns_of_takeTurn _) hexec
    exact ⟨world, run, hlog⟩
  exact ⟨hrun _ (by decide +kernel), hrun _ (by decide +kernel)⟩

/-- A step-up, a request, and one after all sessions are revoked. -/
def sampleCareful : List (Nat × SessionInput) :=
  [(0, .tick 10), (0, .login 1 ⟨"cred-1", 0⟩ 600 sampleToken 50 10 900),
    (1, .markSessionStepUp sampleToken 50 "cred-2"), (1, .proceed 0), (1, .proceed 0),
    (1, .abandon),
    (0, .tick 20), (0, .session sampleToken), (0, .proceed 0), (0, .proceed 0),
    (1, .account (fun _ => 902) (.revokeAllSessions 1)),
    (0, .tick 30), (0, .session sampleToken), (0, .proceed 0), (0, .proceed 0), (0, .proceed 0)]

theorem revocation_is_final_sample : NoSessions holderRealm ∧ UnderIds holderRealm ∧ ∃ world,
    Run (CarefulTurns sampleSessions) (sessionStart holderRealm 3) sampleCareful world ∧
      acceptedTimes world.shared.log = [20] ∧ acceptedFinal world.shared.log = true := by
  have hexec : (execAll (execWhen
      (fun world l => Careful sampleSessions world.shared (world.task l.1) l.2)
      (takeTurn (sessionTurn sampleSessions))) (sessionStart holderRealm 3) sampleCareful).map
      (fun world => acceptedTimes world.shared.log) = some [20] := by decide +kernel
  obtain ⟨world, run, htimes⟩ := exists_run (restrict_of_execWhen (turns_of_takeTurn _)) hexec
  exact ⟨noSessions_holderRealm, underIds_holderRealm, world, run, htimes,
    (revocation_is_final sampleSessions noSessions_holderRealm underIds_holderRealm run).1⟩

end RustyAuth
