/-
  The calls on sessions, interleaved.

  A call is cut at its accesses to the store and to the clock: `session` reads the record with
  its activity, reads the clock, reads the account, and answers or deletes; a step-up reads the
  record and writes it back under the mutation lock, and then waits for the lock it holds to
  append its event, until the call is given up; a sign-out deletes without the lock.  The
  operations on accounts read and write under the lock, so each is one turn.  Observed times are
  written by a writer of its own, in any order, at any time, any number of times or never.

  The log is what has happened; no call reads it.  `accepted` carries how long the log was when
  its call read the record, so what had happened by then is `logAt`.
-/
import RustyAuth.Session.Policy
import RustyAuth.Library.Tasks

namespace RustyAuth

open RustyAuth.Library

/-- The digest of tokens (SHA-256), what accounts rest on, and the configuration. -/
structure SessionContext where
  tokenDigest : String → String
  accounts : AccountContext
  tenantId : String
  idleSeconds : Nat

inductive SessionEvent
  | created (digest : String) (session : Session)
  | steppedUp (digest : String) (session : Session)
  -- `session` has read the record
  | read (digest : String)
  -- and has returned it for a request at `current`
  | accepted (since : Nat) (digest : String) (session : Session) (current : Nat)
  -- signed out, or rejected by `session`
  | deleted (digest : String)
  | revokedAll (userId : Uuid)
  -- with the digests of the sessions bound to the passkey at this moment
  | revokedPasskey (userId : Uuid) (credentialId : String) (bound : List String)
deriving DecidableEq

/-- What had happened when the log had `since` events. -/
def logAt (log : List SessionEvent) (since : Nat) : List SessionEvent :=
  log.drop (log.length - since)

structure SessionState where
  db : Db
  clock : Nat
  -- observed and sent to the writer
  touches : List SessionTouch
  -- the mutation lock
  locked : Bool
  log : List SessionEvent

inductive SessionTask
  | idle
  | holding (user : User)
  -- `create_session` has prepared the session
  | creating (digest : String) (session : Session) (absoluteSeconds : Nat)
  -- `session` has read the record and the activity
  | fetched (since : Nat) (digest : String) (session : Session) (activity : Option Nat)
  -- has read the clock and found it not expired
  | live (since : Nat) (digest : String) (session : Session) (current : Nat)
  | rejecting (digest : String)
  -- the record is deleted, its activity is not yet
  | forgetting (digest : String)
  -- `mark_session_step_up` has read the record
  | steppingUp (digest : String) (session : Session) (credentialId : String)
  | expiring (digest : String)
  | storing (digest : String) (session stepped : Session) (seconds : Nat)
  -- the event of a creation or a step-up; a step-up still holds the lock
  | appending (eventType : String) (userId : Uuid) (underLock : Bool)

def SessionTask.holdsLock : SessionTask → Bool
  | .steppingUp _ _ _ => true
  | .expiring _ => true
  | .storing _ _ _ _ => true
  | .appending _ _ underLock => underLock
  | _ => false

inductive SessionInput
  | tick (now : Nat)
  -- the account a session is created for was read from the store before
  | readUser (userId : Uuid)
  | createSession (origin : SessionOrigin) (absoluteSeconds : Nat) (random : String) (id : Uuid)
  -- `apply_authentication_and_create_session`; it read the clock at `preparedAt`
  | login (userId : Uuid) (result : AuthenticationResult) (absoluteSeconds : Nat) (random : String)
      (id : Uuid) (preparedAt : Nat) (eventId : Uuid)
  | session (token : String)
  | deleteSession (token : String)
  | markSessionStepUp (token : String) (expectedSessionId : Uuid) (credentialId : String)
  | account (eventId : Nat → Uuid) (request : AccountRequest)
  | touch (received : List SessionTouch)
  | proceed (eventId : Uuid)
  | abandon

abbrev SessionTurn := Turn SessionState SessionTask Empty

def SessionState.write (s : SessionState) (ws : List Write) (events : List SessionEvent) :
    SessionState :=
  { s with db := commit s.clock s.db ws, log := events ++ s.log }

/-! ## The calls -/

section

variable (ctx : SessionContext) (s : SessionState)

def readUser (userId : Uuid) : SessionTurn :=
  match s.db.user s.clock userId with
  | .ok (some user) => ⟨s, .holding user, []⟩
  | _ => ⟨s, .idle, []⟩

def createSession (user : User) (origin : SessionOrigin) (absoluteSeconds : Nat) (random : String)
    (id : Uuid) : SessionTurn :=
  let (token, session) := prepareSession s.clock user origin absoluteSeconds random id
  ⟨s, .creating (ctx.tokenDigest token) session absoluteSeconds, []⟩

def storeCreated (digest : String) (session : Session) (absoluteSeconds : Nat) : SessionTurn :=
  ⟨s.write [.setEx (.session digest) session absoluteSeconds] [.created digest session],
    .appending "session.created" session.userId false, []⟩

/-- An error of the append is the error of the call; what was written stays. -/
def appendSessionEvent (eventType : String) (userId : Uuid) (eventId : Uuid) : SessionTurn :=
  match s.db.appendEvents ctx.tenantId s.clock
      [⟨eventId, eventType, some userId, emptyEventData⟩] with
  | .ok (_, ws) => ⟨s.write ws [], .idle, []⟩
  | .error _ => ⟨s, .idle, []⟩

def applyAuthenticationAndCreateSession (c : AccountCall) (userId : Uuid)
    (result : AuthenticationResult) (absoluteSeconds : Nat) (random : String) (id : Uuid)
    (preparedAt : Nat) : Except AccountError (String × Session × SessionOp) := do
  let user ← requireUser s.db c userId
  let user ← applyAuthenticationResult c ctx.accounts.updateCredential user result
  let (token, session) :=
    prepareSession preparedAt user (.passkey result.credentialId) absoluteSeconds random id
  let events ← accountEvents s.db c user.id ["session.created"]
  let digest := ctx.tokenDigest token
  return (digest, session,
    .applyAuthenticationAndCreateSession userId user digest session absoluteSeconds events)

def login (userId : Uuid) (result : AuthenticationResult) (absoluteSeconds : Nat) (random : String)
    (id : Uuid) (preparedAt : Nat) (eventId : Uuid) : SessionTurn :=
  match applyAuthenticationAndCreateSession ctx s ⟨s.clock, ctx.tenantId, fun _ => eventId⟩ userId
      result absoluteSeconds random id preparedAt with
  | .ok (digest, session, op) => ⟨s.write op.commands [.created digest session], .idle, []⟩
  | .error _ => ⟨s, .idle, []⟩

/-- The record and the activity come in one answer. -/
def readSession (token : String) : SessionTurn :=
  let digest := ctx.tokenDigest token
  if token.utf8ByteSize < 32 ∨ 256 < token.utf8ByteSize then ⟨s, .idle, []⟩
  else
    match s.db.get s.clock (.session digest) with
    | none => ⟨s, .idle, []⟩
    | some session =>
        ⟨{ s with log := .read digest :: s.log },
          .fetched s.log.length digest session (s.db.get s.clock (.sessionActivity digest)), []⟩

def decideExpiry (since : Nat) (digest : String) (session : Session) (activity : Option Nat) :
    SessionTurn :=
  let session := applySessionActivity session activity s.clock
  if sessionExpired session ctx.idleSeconds s.clock then ⟨s, .rejecting digest, []⟩
  else ⟨s, .live since digest session s.clock, []⟩

/-- The answer of `session`, and the touch it may send. -/
def acceptSession (since : Nat) (digest : String) (session : Session) (current : Nat) : SessionTurn :=
  let touches :=
    if sessionTouchDue session ctx.idleSeconds current then
      ⟨digest, current, session.absoluteExpiresAt - current⟩ :: s.touches
    else s.touches
  let returned := { session with lastSeenAt := current }
  ⟨{ s with touches, log := .accepted since digest returned current :: s.log }, .idle, []⟩

def decideSession (since : Nat) (digest : String) (session : Session) (current : Nat) :
    SessionTurn :=
  match s.db.user s.clock session.userId with
  | .error _ => ⟨s, .idle, []⟩
  | .ok none => ⟨s, .rejecting digest, []⟩
  | .ok (some user) =>
      if sessionVerdict session user.sessionVersion (user.passkeys.map (·.id)) ctx.idleSeconds
          current = .valid then
        acceptSession ctx s since digest session current
      else ⟨s, .rejecting digest, []⟩

/-- The first command of `delete_session_records`. -/
def deleteRecord (digest : String) : SessionTurn :=
  ⟨s.write [.del (.session digest)] [.deleted digest], .forgetting digest, []⟩

def deleteActivity (digest : String) : SessionTurn :=
  ⟨s.write [.del (.sessionActivity digest)] [], .idle, []⟩

def markSessionStepUp (token : String) (expectedSessionId : Uuid) (credentialId : String) :
    SessionTurn :=
  let digest := ctx.tokenDigest token
  match (s.db.get s.clock (.session digest)).filter (·.id = expectedSessionId) with
  | none => ⟨s, .idle, []⟩
  | some session => ⟨{ s with locked := true }, .steppingUp digest session credentialId, []⟩

def decideStepUp (digest : String) (session : Session) (credentialId : String) : SessionTurn :=
  if session.absoluteExpiresAt ≤ s.clock then ⟨s, .expiring digest, []⟩
  else
    ⟨s, .storing digest session (session.steppedUp credentialId s.clock)
      (session.absoluteExpiresAt - s.clock), []⟩

def deleteExpired (digest : String) : SessionTurn :=
  ⟨{ s.write [.del (.session digest)] [] with locked := false }, .idle, []⟩

def storeStepUp (digest : String) (stepped : Session) (seconds : Nat) : SessionTurn :=
  ⟨s.write [.setEx (.session digest) stepped seconds, .del (.sessionActivity digest)]
      [.steppedUp digest stepped],
    .appending "session.step_up.completed" stepped.userId true, []⟩

/-- The digests of the sessions bound to a passkey. -/
def Db.boundTo (db : Db) (now : Nat) (userId : Uuid) (credentialId : String) : List String :=
  (db.scan now).filterMap fun
    | ⟨.session digest, session⟩ =>
        if session.userId = userId ∧ session.currentCredentialId = some credentialId then some digest
        else none
    | _ => none

/-- The revocations among the operations on accounts. -/
def AccountRequest.revocations (db : Db) (now : Nat) : AccountRequest → List SessionEvent
  | .revokeAllSessions userId => [.revokedAll userId]
  | .addRecoveryPasskey userId _ _ => [.revokedAll userId]
  | .revokePasskey userId credentialId =>
      [.revokedPasskey userId credentialId (db.boundTo now userId credentialId)]
  | _ => []

def accountOperation (eventId : Nat → Uuid) (request : AccountRequest) : SessionTurn :=
  match request.run ctx.accounts s.db ⟨s.clock, ctx.tenantId, eventId⟩ with
  | .ok (_, op) => ⟨s.write op.commands (request.revocations s.db s.clock), .idle, []⟩
  | .error _ => ⟨s, .idle, []⟩

def writeTouches (received : List SessionTouch) : SessionTurn :=
  ⟨s.write (sessionTouchPipeline received) [], .idle, []⟩

end

/-- One access of a call.  What needs the lock waits until it is free. -/
def sessionTurn (ctx : SessionContext) (s : SessionState) (task : SessionTask)
    (input : SessionInput) : Option SessionTurn :=
  match task, input with
  | task, .tick now => if s.clock ≤ now then some ⟨{ s with clock := now }, task, []⟩ else none
  | .idle, .readUser userId => some (readUser s userId)
  | .holding user, .createSession origin absoluteSeconds random id =>
      some (createSession ctx s user origin absoluteSeconds random id)
  | .creating digest session absoluteSeconds, .proceed _ =>
      some (storeCreated s digest session absoluteSeconds)
  | .appending eventType userId _, .proceed eventId =>
      if s.locked = false then some (appendSessionEvent ctx s eventType userId eventId) else none
  | .idle, .login userId result absoluteSeconds random id preparedAt eventId =>
      if s.locked = false ∧ preparedAt ≤ s.clock then
        some (login ctx s userId result absoluteSeconds random id preparedAt eventId)
      else none
  | .idle, .session token => some (readSession ctx s token)
  | .fetched since digest session activity, .proceed _ =>
      some (decideExpiry ctx s since digest session activity)
  | .live since digest session current, .proceed _ =>
      some (decideSession ctx s since digest session current)
  | .rejecting digest, .proceed _ => some (deleteRecord s digest)
  | .forgetting digest, .proceed _ => some (deleteActivity s digest)
  | .idle, .deleteSession token => some (deleteRecord s (ctx.tokenDigest token))
  | .idle, .markSessionStepUp token expectedSessionId credentialId =>
      if s.locked = false then some (markSessionStepUp ctx s token expectedSessionId credentialId)
      else none
  | .steppingUp digest session credentialId, .proceed _ =>
      some (decideStepUp s digest session credentialId)
  | .expiring digest, .proceed _ => some (deleteExpired s digest)
  | .storing digest _ stepped seconds, .proceed _ => some (storeStepUp s digest stepped seconds)
  | .idle, .account eventId request =>
      if s.locked = false then some (accountOperation ctx s eventId request) else none
  | .idle, .touch received =>
      if ∀ touch ∈ received, touch ∈ s.touches then some (writeTouches s received) else none
  | task, .abandon => some ⟨{ s with locked := s.locked && !task.holdsLock }, .idle, []⟩
  | _, _ => none

/-! ## What a turn does -/

/-- The turns of `sessionTurn`, one constructor for each way a turn can go. -/
inductive SessionStep (ctx : SessionContext) (s : SessionState) :
    SessionTask → SessionInput → SessionTurn → Prop
  | tick (task : SessionTask) {now : Nat} (hclock : s.clock ≤ now) :
      SessionStep ctx s task (.tick now) ⟨{ s with clock := now }, task, []⟩
  -- a refusal, an error, or a call given up
  | stop (task : SessionTask) (input : SessionInput) (locked : Bool) :
      SessionStep ctx s task input ⟨{ s with locked }, .idle, []⟩
  | hold {userId : Uuid} {user : User} (hread : s.db.user s.clock userId = .ok (some user)) :
      SessionStep ctx s .idle (.readUser userId) ⟨s, .holding user, []⟩
  | prepare {user : User} {origin : SessionOrigin} {absoluteSeconds : Nat} {random : String}
      {id : Uuid} {token : String} {session : Session}
      (hprepare : prepareSession s.clock user origin absoluteSeconds random id = (token, session)) :
      SessionStep ctx s (.holding user) (.createSession origin absoluteSeconds random id)
        ⟨s, .creating (ctx.tokenDigest token) session absoluteSeconds, []⟩
  | create {digest : String} {session : Session} {absoluteSeconds : Nat} {eventId : Uuid} :
      SessionStep ctx s (.creating digest session absoluteSeconds) (.proceed eventId)
        (storeCreated s digest session absoluteSeconds)
  | append {eventType : String} {userId : Uuid} {underLock : Bool} {eventId : Uuid}
      (events : List AuthEvent) :
      SessionStep ctx s (.appending eventType userId underLock) (.proceed eventId)
        ⟨s.write (Db.queueEvents events) [], .idle, []⟩
  | login {userId : Uuid} {result : AuthenticationResult} {absoluteSeconds : Nat} {random : String}
      {id : Uuid} {preparedAt : Nat} {eventId : Uuid} {user user' : User} {token : String}
      {session : Session} (events : List AuthEvent) (c : AccountCall) (hnow : c.now = s.clock)
      (hprepared : preparedAt ≤ s.clock) (hread : requireUser s.db c userId = .ok user)
      (hresult : applyAuthenticationResult c ctx.accounts.updateCredential user result = .ok user')
      (hprepare : prepareSession preparedAt user' (.passkey result.credentialId) absoluteSeconds
        random id = (token, session)) :
      SessionStep ctx s .idle
        (.login userId result absoluteSeconds random id preparedAt eventId)
        ⟨s.write (SessionOp.applyAuthenticationAndCreateSession userId user'
            (ctx.tokenDigest token) session absoluteSeconds events).commands
            [.created (ctx.tokenDigest token) session], .idle, []⟩
  | read {token : String} {session : Session}
      (hrecord : s.db.get s.clock (.session (ctx.tokenDigest token)) = some session) :
      SessionStep ctx s .idle (.session token)
        ⟨{ s with log := .read (ctx.tokenDigest token) :: s.log },
          .fetched s.log.length (ctx.tokenDigest token) session
            (s.db.get s.clock (.sessionActivity (ctx.tokenDigest token))), []⟩
  | expired {since : Nat} {digest : String} {session : Session} {activity : Option Nat}
      {eventId : Uuid} :
      SessionStep ctx s (.fetched since digest session activity) (.proceed eventId)
        ⟨s, .rejecting digest, []⟩
  | inTime {since : Nat} {digest : String} {session : Session} {activity : Option Nat}
      {eventId : Uuid} (hlive : sessionExpired (applySessionActivity session activity s.clock)
        ctx.idleSeconds s.clock = false) :
      SessionStep ctx s (.fetched since digest session activity) (.proceed eventId)
        ⟨s, .live since digest (applySessionActivity session activity s.clock) s.clock, []⟩
  | reject {since : Nat} {digest : String} {session : Session} {current : Nat} {eventId : Uuid} :
      SessionStep ctx s (.live since digest session current) (.proceed eventId)
        ⟨s, .rejecting digest, []⟩
  | accept {since : Nat} {digest : String} {session : Session} {current : Nat} {eventId : Uuid}
      {user : User} (hread : s.db.user s.clock session.userId = .ok (some user))
      (hvalid : sessionVerdict session user.sessionVersion (user.passkeys.map (·.id))
        ctx.idleSeconds current = .valid) :
      SessionStep ctx s (.live since digest session current) (.proceed eventId)
        (acceptSession ctx s since digest session current)
  | delete (task : SessionTask) (input : SessionInput) (digest : String) :
      SessionStep ctx s task input (deleteRecord s digest)
  | forget {digest : String} {eventId : Uuid} :
      SessionStep ctx s (.forgetting digest) (.proceed eventId) (deleteActivity s digest)
  | stepUp {token : String} {expectedSessionId : Uuid} {credentialId : String} {session : Session}
      (hrecord : s.db.get s.clock (.session (ctx.tokenDigest token)) = some session) :
      SessionStep ctx s .idle (.markSessionStepUp token expectedSessionId credentialId)
        ⟨{ s with locked := true }, .steppingUp (ctx.tokenDigest token) session credentialId, []⟩
  | lapsed {digest : String} {session : Session} {credentialId : String} {eventId : Uuid} :
      SessionStep ctx s (.steppingUp digest session credentialId) (.proceed eventId)
        ⟨s, .expiring digest, []⟩
  | decide {digest : String} {session : Session} {credentialId : String} {eventId : Uuid} :
      SessionStep ctx s (.steppingUp digest session credentialId) (.proceed eventId)
        ⟨s, .storing digest session (session.steppedUp credentialId s.clock)
          (session.absoluteExpiresAt - s.clock), []⟩
  | expire {digest : String} {eventId : Uuid} :
      SessionStep ctx s (.expiring digest) (.proceed eventId) (deleteExpired s digest)
  | store {digest : String} {session stepped : Session} {seconds : Nat} {eventId : Uuid} :
      SessionStep ctx s (.storing digest session stepped seconds) (.proceed eventId)
        (storeStepUp s digest stepped seconds)
  | account {eventId : Nat → Uuid} {request : AccountRequest} {user : User} {op : AccountOp}
      (hrun : request.run ctx.accounts s.db ⟨s.clock, ctx.tenantId, eventId⟩ = .ok (user, op)) :
      SessionStep ctx s .idle (.account eventId request)
        ⟨s.write op.commands (request.revocations s.db s.clock), .idle, []⟩
  | touch {received : List SessionTouch} (hreceived : ∀ touch ∈ received, touch ∈ s.touches) :
      SessionStep ctx s .idle (.touch received) (writeTouches s received)

theorem sessionTurn_step {ctx : SessionContext} {s : SessionState} {task : SessionTask}
    {input : SessionInput} {turn : SessionTurn} (h : sessionTurn ctx s task input = some turn) :
    SessionStep ctx s task input turn := by
  have stop : ∀ task input, SessionStep ctx s task input ⟨s, .idle, []⟩ :=
    fun task input => .stop task input s.locked
  unfold sessionTurn at h
  split at h
  case h_1 =>
    split at h
    · next hclock => cases h; exact .tick _ hclock
    · cases h
  case h_2 =>
    cases h
    unfold readUser
    split
    · next user hread => exact .hold hread
    · exact stop _ _
  case h_3 => cases h; exact .prepare rfl
  case h_4 => cases h; exact .create
  case h_5 =>
    split at h
    · cases h
      unfold appendSessionEvent
      split
      · next events ws happend =>
        rw [Db.appendEvents_writes happend]
        exact .append events
      · exact stop _ _
    · cases h
  case h_6 userId result absoluteSeconds random id preparedAt eventId =>
    split at h
    · next hready =>
      cases h
      unfold login
      split
      · next digest session op hlogin =>
        simp only [applyAuthenticationAndCreateSession, bind_eq_ok, pure_eq_ok,
          Prod.mk.injEq] at hlogin
        obtain ⟨user, hread, user', hresult, events, _, rfl, rfl, rfl⟩ := hlogin
        exact .login events _ rfl hready.2 hread hresult rfl
      · exact stop _ _
    · cases h
  case h_7 =>
    cases h
    unfold readSession
    dsimp only
    split
    · exact stop _ _
    · split
      · exact stop _ _
      · next session hrecord => exact .read hrecord
  case h_8 =>
    cases h
    unfold decideExpiry
    dsimp only
    split
    · exact .expired
    · next hlive => exact .inTime (Bool.eq_false_iff.mpr hlive)
  case h_9 =>
    cases h
    unfold decideSession
    split
    · exact stop _ _
    · exact .reject
    · next user hread =>
      split
      · next hvalid => exact .accept hread hvalid
      · exact .reject
  case h_10 => cases h; exact .delete _ _ _
  case h_11 => cases h; exact .forget
  case h_12 => cases h; exact .delete _ _ _
  case h_13 =>
    split at h
    · cases h
      unfold markSessionStepUp
      dsimp only
      split
      · exact stop _ _
      · next session hrecord => exact .stepUp (Option.filter_eq_some_iff.mp hrecord).1
    · cases h
  case h_14 =>
    cases h
    unfold decideStepUp
    split
    · exact .lapsed
    · exact .decide
  case h_15 => cases h; exact .expire
  case h_16 => cases h; exact .store
  case h_17 =>
    split at h
    · cases h
      unfold accountOperation
      split
      · next user op hrun => exact .account hrun
      · exact stop _ _
    · cases h
  case h_18 =>
    split at h
    · next hreceived => cases h; exact .touch hreceived
    · cases h
  case h_19 => cases h; exact .stop _ _ _
  case h_20 => cases h

/-- An accepted request was found in time, and is valid for the account as it is. -/
def AcceptedFrom (ctx : SessionContext) (s : SessionState) (task : SessionTask) :
    SessionEvent → Prop
  | .accepted since digest session t => ∃ found user, task = .live since digest found t ∧
      session = { found with lastSeenAt := t } ∧
      s.db.user s.clock found.userId = .ok (some user) ∧
      sessionVerdict found user.sessionVersion (user.passkeys.map (·.id)) ctx.idleSeconds t = .valid
  | _ => True

theorem log_of_step {ctx : SessionContext} {s : SessionState} {task : SessionTask}
    {input : SessionInput} {turn : SessionTurn} (h : SessionStep ctx s task input turn) :
    ∃ events, turn.shared.log = events ++ s.log ∧ ∀ event ∈ events, AcceptedFrom ctx s task event := by
  cases h with
  | create => exact ⟨[_], rfl, by simp [AcceptedFrom]⟩
  | login => exact ⟨[_], rfl, by simp [AcceptedFrom]⟩
  | read => exact ⟨[_], rfl, by simp [AcceptedFrom]⟩
  | accept hread hvalid =>
    refine ⟨[_], rfl, ?_⟩
    intro event hmem
    rw [List.mem_singleton.mp hmem]
    exact ⟨_, _, rfl, rfl, hread, hvalid⟩
  | delete => exact ⟨[_], rfl, by simp [AcceptedFrom]⟩
  | store => exact ⟨[_], rfl, by simp [AcceptedFrom]⟩
  | @account _ request =>
    refine ⟨_, rfl, ?_⟩
    cases request <;> simp [AccountRequest.revocations, AcceptedFrom]
  | _ => exact ⟨[], rfl, List.forall_mem_nil _⟩

abbrev SessionWorld := World SessionState SessionTask Empty

abbrev SessionTurns (ctx : SessionContext) : SessionWorld → Nat × SessionInput → SessionWorld → Prop :=
  Turns (sessionTurn ctx)

/-! ## What the operations on accounts leave alone -/

def Key.isSession : Key → Bool
  | .session _ => true
  | .sessionActivity _ => true
  | _ => false

theorem isSession_of_mem_queueEvents {events : List AuthEvent} {w : Write}
    (h : w ∈ Db.queueEvents events) : w.key.isSession = false := by
  rcases Db.mem_queueEvents h with ⟨e, _, rfl⟩ | ⟨n, rfl⟩ <;> rfl

theorem isUser_of_mem_queueEvents {events : List AuthEvent} {w : Write}
    (h : w ∈ Db.queueEvents events) (id : Uuid) : w.key ≠ .user id := by
  rcases Db.mem_queueEvents h with ⟨e, _, rfl⟩ | ⟨n, rfl⟩ <;> exact nofun

theorem AccountOp.isSession_of_mem_commands (op : AccountOp) :
    ∀ w ∈ op.commands, w.key.isSession = false := by
  have hevents : ∀ events, ∀ w ∈ Db.queueEvents events, w.key.isSession = false :=
    fun _ _ => isSession_of_mem_queueEvents
  have hset : ∀ kind value (id : Uuid), ∀ w ∈ emailIndex kind (.set (.email value) id),
      w.key.isSession = false := by
    intro kind value id w hmem
    unfold emailIndex at hmem
    split at hmem <;> simp_all [Command.key, Key.isSession]
  have hdel : ∀ kind value, ∀ w ∈ emailIndex kind (.del (.email value)),
      w.key.isSession = false := by
    intro kind value w hmem
    unfold emailIndex at hmem
    split at hmem <;> simp_all [Command.key, Key.isSession]
  cases op with
  | createUserWithPasskey userId user kind identifier credentialId invitation events =>
    simp only [AccountOp.commands, List.forall_mem_append, List.forall_mem_cons]
    refine ⟨⟨⟨⟨rfl, rfl, rfl, List.forall_mem_nil _⟩, hset _ _ _⟩, hevents _⟩, ?_⟩
    intro w hmem
    obtain ⟨⟨id, record, digest⟩, _, hclose⟩ := List.mem_flatMap.mp hmem
    simp only [closeInvitation, List.mem_cons, List.not_mem_nil, or_false] at hclose
    rcases hclose with rfl | rfl <;> rfl
  | _ =>
    simp only [AccountOp.commands, persistUserWithEvent, storePasskey, closeInvitation,
      List.forall_mem_append, List.forall_mem_cons]
    and_intros <;>
    first
    | rfl
    | exact List.forall_mem_nil _
    | exact hevents _
    | exact hset _ _ _
    | exact hdel _ _

theorem AccountOp.get_session (op : AccountOp) (db : Db) (now t : Nat) (digest : String) :
    (commit now db op.commands).get t (.session digest) = db.get t (.session digest) := by
  refine get_commit_of_forall_ne _ _ _ _ _ fun w hw hkey => ?_
  have hnot := op.isSession_of_mem_commands w hw
  rw [← hkey] at hnot
  cases hnot

/-- A database without sessions, at some time. -/
def sessionStart (db : Db) (clock : Nat) : SessionWorld where
  shared := ⟨db, clock, [], false, []⟩
  task _ := .idle
  history := []

/-! ### A sample account -/

def sampleHolder : User where
  id := 1
  email := "ada@example.com"
  emailVerified := true
  profile := ⟨none, none, none⟩
  identifiers := [⟨.email, "ada@example.com", true, none, true, 3⟩]
  sessionVersion := 1
  recoveryCodes := []
  createdAt := 3
  passkeys := [⟨"cred-1", "Phone", 0, 3, none, "key-1"⟩, ⟨"cred-2", "Laptop", 0, 3, none, "key-2"⟩]

def holderRealm : Db := commit 3 Keyspace.empty [.set (.user 1) sampleHolder]

/-- Tokens stand for themselves; requests may be five minutes apart. -/
def sampleSessions : SessionContext where
  tokenDigest := id
  accounts := ⟨id, fun stored _ => some stored⟩
  tenantId := "default"
  idleSeconds := 300

def sampleToken : String := "aaaaaaaaaaaaaaaaaaaaaaaaaaaaaaaaaaaaaaaaaaa"

end RustyAuth
