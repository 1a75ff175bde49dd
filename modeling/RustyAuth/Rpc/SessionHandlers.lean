/-
  The handlers that make and use sessions.

  Sign-in, registration, recovery and step-up each verify a passkey ceremony before they call the
  store; `device_token` calls it for a browser session that was confirmed lately; an operator call
  looks a session up and authorizes it.  A handler goes from one access to the next, and a call of
  the store takes the turns of `sessionTurn`, so handlers interleave at every access.

  The answers of the WebAuthn library and of `ensure_operator` are inputs, and so is whether an
  enrolment is authorized by an invitation.  No handler reads `completed` and `minted`: they say
  which ceremonies of which sessions have been completed, and which browser session a device
  session was minted from.
-/
import RustyAuth.Rpc.OperatorAuth
import RustyAuth.Session.Acceptance

namespace RustyAuth

open RustyAuth.Library

/-! ## Ceremonies -/

inductive AuthenticationPurpose
  | signIn
  | stepUp
deriving DecidableEq

structure AuthenticationCeremony where
  id : Uuid
  userId : Uuid
  purpose : AuthenticationPurpose
  initiatingSessionId : Option Uuid
  expiresAt : Nat

inductive RegistrationPurpose
  | initial
  | addCredential
  | recoverAccount
deriving DecidableEq

structure RegistrationCeremony where
  id : Uuid
  userId : Uuid
  email : String
  identifier : Option IdentifierValue
  profile : AccountProfile
  purpose : RegistrationPurpose
  initiatingSessionId : Option Uuid
  label : Option String
  expiresAt : Nat

def RegistrationCeremony.accountIdentifier (ceremony : RegistrationCeremony) :
    Option IdentifierValue :=
  ceremony.identifier.or
    (if ceremony.email = "" then none else some ⟨.email, ceremony.email⟩)

def ceremonySeconds : Nat := 300

def deviceSessionSeconds : Nat := 15 * 60

def agentSessionSeconds : Nat := 3600

/-- What `finish_passkey_authentication` answers, and whether it verified the user. -/
abbrev PasskeyAnswer := Option (AuthenticationResult × Bool)

/-! ## Handlers under way -/

structure ConsoleContext where
  sessions : SessionContext
  sessionAbsoluteSeconds : Nat
  identityVerificationRequired : Bool

structure ConsoleState where
  store : SessionState
  authentications : List AuthenticationCeremony
  registrations : List RegistrationCeremony
  -- a session and the time at which a ceremony of it was completed
  completed : List (Uuid × Nat)
  -- a device session and the browser session it was minted from
  minted : List (Uuid × Uuid)

/-- What a handler does with the session that `session` returns. -/
inductive Handler
  | stepUpOptions (ceremonyId : Uuid)
  | stepUpVerify (token : String) (ceremonyId : Uuid) (answer : PasskeyAnswer)
  | deviceToken
  -- `authorize`, or `authorize_fleet` on a resource
  | operator (expectedMethod : String) (capability : OperatorCapability)
      (resource : Option (FleetResourceKindRecord × Uuid))

/-- Who calls the store. -/
inductive Caller
  | authenticate (handler : Handler)
  | signIn (userId : Uuid) (result : AuthenticationResult)
  | enrol (credentialId : String)
  | mint (browser : Session) (credentialId : String)
  | handOff
  | stepUp (token : String) (sessionId : Uuid) (credentialId : String)
  | other

inductive ConsoleTask
  | idle
  | calling (caller : Caller) (call : SessionTask)
  | authenticated (handler : Handler) (session : Session) (user : User)
  -- a registration or a recovery is verified, its account is not yet written
  | enrolling (request : AccountRequest) (credentialId : String)
  -- a step-up is verified, its counter is not yet written
  | confirmed (token : String) (sessionId userId : Uuid) (result : AuthenticationResult)

inductive ConsoleInput
  | tick (now : Nat)
  | request (handler : Handler) (token : String)
  | authenticationOptions (ceremonyId userId : Uuid)
  | authenticationVerify (ceremonyId : Uuid) (answer : PasskeyAnswer)
  | registrationOptions (ceremony : RegistrationCeremony)
  | registrationVerify (ceremonyId : Uuid) (passkey : Option NewPasskey)
      (invitation : Option (Except AccountError (Option (Uuid × String × String))))
  | recoveryVerify (ceremonyId : Uuid) (passkey : Option NewPasskey)
  | localAgentHandoff (userId : Uuid)
  -- the calls of other handlers
  | store (input : SessionInput)
  -- the next access of a handler
  | login (random : String) (id : Uuid) (preparedAt : Nat) (eventId : Uuid)
  | createSession (random : String) (id : Uuid)
  | account (eventId : Nat → Uuid)
  | ensured (operator : Option OperatorRecord)
  | proceed (eventId : Uuid)
  | abandon

/-- An operator call that was authorized. -/
structure Authorization where
  sessionId : Uuid
  capability : OperatorCapability
  time : Nat
deriving DecidableEq

abbrev ConsoleTurn := Turn ConsoleState ConsoleTask Authorization

/-! ## Calls of the store -/

/-- How a caller creates a session: its origin and its lifetime. -/
def Caller.origin (ctx : ConsoleContext) : Caller → Option (SessionOrigin × Nat)
  | .enrol credentialId => some (.passkey credentialId, ctx.sessionAbsoluteSeconds)
  | .mint _ credentialId =>
      some (.device credentialId, min deviceSessionSeconds ctx.sessions.idleSeconds)
  | .handOff => some (.agent, agentSessionSeconds)
  | _ => none

/-- The ceremony that an event completes: a session is signed in, enrolled or stepped up. -/
def Caller.completes (clock : Nat) : Caller → SessionEvent → Option (Uuid × Nat)
  | .signIn _ _, .created _ session => some (session.id, clock)
  | .enrol _, .created _ session => some (session.id, clock)
  | _, .steppedUp _ session => some (session.id, clock)
  | _, _ => none

def Caller.mints : Caller → SessionEvent → Option (Uuid × Uuid)
  | .mint browser _, .created _ session => some (session.id, browser.id)
  | _, _ => none

/-- What a turn of a call has logged. -/
def loggedBy (s : SessionState) (turn : SessionTurn) : List SessionEvent :=
  turn.shared.log.take (turn.shared.log.length - s.log.length)

/-- Where the caller stands after a turn of its call.  `session` answers with the account that it
    has read. -/
def Caller.next (s : SessionState) (caller : Caller) (logged : List SessionEvent)
    (phase : SessionTask) : ConsoleTask :=
  match caller, logged, phase with
  | .authenticate handler, [.accepted _ _ session _], _ =>
      match s.db.user s.clock session.userId with
      | .ok (some user) => .authenticated handler session user
      | _ => .idle
  | _, _, .idle => .idle
  | caller, _, phase => .calling caller phase

def ConsoleState.follow (s : ConsoleState) (caller : Caller) (turn : SessionTurn) : ConsoleTurn :=
  let logged := loggedBy s.store turn
  ⟨{ s with
      store := turn.shared
      completed := logged.filterMap (caller.completes s.store.clock) ++ s.completed
      minted := logged.filterMap caller.mints ++ s.minted },
    caller.next s.store logged turn.phase, []⟩

/-- One access of a call. -/
def ConsoleState.call (ctx : ConsoleContext) (s : ConsoleState) (caller : Caller)
    (task : SessionTask) (input : SessionInput) : Option ConsoleTurn :=
  (sessionTurn ctx.sessions s.store task input).map (s.follow caller)

/-- The calls of the other handlers create no session and step none up. -/
def SessionInput.isPlain : SessionInput → Bool
  | .session _ => true
  | .deleteSession _ => true
  | .account _ _ => true
  | .touch _ => true
  | _ => false

/-! ## The handlers -/

section

variable (ctx : ConsoleContext) (s : ConsoleState)

def requirePasskeySession (session : Session) : Bool := session.authMethod = "passkey"

def requireRecentPasskey (session : Session) (now : Nat) : Bool :=
  requirePasskeySession session &&
    session.stepUpAt.any fun stepUpAt => stepUpAt ≤ now && now - stepUpAt ≤ ceremonySeconds

def ConsoleState.saveAuthentication (ceremony : AuthenticationCeremony) : ConsoleState :=
  { s with authentications := ceremony :: s.authentications }

/-- A ceremony is taken once, and not when it has expired. -/
def takeAuthentication (id : Uuid) : ConsoleState × Option AuthenticationCeremony :=
  ({ s with authentications := s.authentications.filter (·.id ≠ id) },
    (s.authentications.find? (·.id = id)).filter (s.store.clock < ·.expiresAt))

def takeRegistration (id : Uuid) : ConsoleState × Option RegistrationCeremony :=
  ({ s with registrations := s.registrations.filter (·.id ≠ id) },
    (s.registrations.find? (·.id = id)).filter (s.store.clock < ·.expiresAt))

def authenticationVerify (id : Uuid) (answer : PasskeyAnswer) : ConsoleTurn :=
  match takeAuthentication s id, answer with
  | (s, some ceremony), some (result, true) =>
      if ceremony.purpose = .signIn ∧ ceremony.initiatingSessionId = none then
        ⟨s, .calling (.signIn ceremony.userId result) .idle, []⟩
      else ⟨s, .idle, []⟩
  | (s, _), _ => ⟨s, .idle, []⟩

/-- `invitation` is `none` where the enrolment is not authorized. -/
def registrationVerify (id : Uuid) (passkey : Option NewPasskey)
    (invitation : Option (Except AccountError (Option (Uuid × String × String)))) : ConsoleTurn :=
  match takeRegistration s id, passkey, invitation with
  | (s, some ceremony), some passkey, some invitation =>
      match ceremony.accountIdentifier with
      | some identifier =>
          if ceremony.purpose = .initial ∧ ceremony.initiatingSessionId = none then
            ⟨s, .enrolling (.createUserWithPasskey ceremony.userId identifier ceremony.profile passkey
              (!ctx.identityVerificationRequired) invitation) passkey.id, []⟩
          else ⟨s, .idle, []⟩
      | none => ⟨s, .idle, []⟩
  | (s, _), _, _ => ⟨s, .idle, []⟩

def recoveryVerify (id : Uuid) (passkey : Option NewPasskey) : ConsoleTurn :=
  match takeRegistration s id, passkey with
  | (s, some ceremony), some passkey =>
      if ceremony.purpose = .recoverAccount ∧ ceremony.initiatingSessionId = none then
        ⟨s, .enrolling (.addRecoveryPasskey ceremony.userId
          (ceremony.label.getD "Recovery passkey") passkey) passkey.id, []⟩
      else ⟨s, .idle, []⟩
  | (s, _), _ => ⟨s, .idle, []⟩

/-- The account of a registration or a recovery is written; then its session is created. -/
def enrol (request : AccountRequest) (credentialId : String) (eventId : Nat → Uuid) :
    Option ConsoleTurn :=
  (s.call ctx .other .idle (.account eventId request)).map fun turn =>
    match request.run ctx.sessions.accounts s.store.db
        ⟨s.store.clock, ctx.sessions.tenantId, eventId⟩ with
    | .ok (user, _) => { turn with phase := .calling (.enrol credentialId) (.holding user) }
    | .error _ => turn

/-- The counter of a step-up is written; then the session is marked. -/
def confirm (token : String) (sessionId userId : Uuid) (result : AuthenticationResult)
    (eventId : Nat → Uuid) : Option ConsoleTurn :=
  (s.call ctx .other .idle (.account eventId (.applyAuthentication userId result))).map fun turn =>
    match (AccountRequest.applyAuthentication userId result).run ctx.sessions.accounts s.store.db
        ⟨s.store.clock, ctx.sessions.tenantId, eventId⟩ with
    | .ok _ =>
        { turn with phase := .calling (.stepUp token sessionId result.credentialId) .idle }
    | .error _ => turn

def stepUpOptions (ceremonyId : Uuid) (session : Session) (user : User) : ConsoleTurn :=
  if requirePasskeySession session then
    ⟨s.saveAuthentication ⟨ceremonyId, user.id, .stepUp, some session.id,
      satAdd s.store.clock ceremonySeconds⟩, .idle, []⟩
  else ⟨s, .idle, []⟩

def stepUpVerify (token : String) (ceremonyId : Uuid) (answer : PasskeyAnswer) (session : Session)
    (user : User) : ConsoleTurn :=
  if requirePasskeySession session then
    match takeAuthentication s ceremonyId, answer with
    | (s, some ceremony), some (result, true) =>
        if ceremony.purpose = .stepUp ∧ ceremony.userId = user.id ∧
            ceremony.initiatingSessionId = some session.id then
          ⟨s, .confirmed token session.id user.id result, []⟩
        else ⟨s, .idle, []⟩
    | (s, _), _ => ⟨s, .idle, []⟩
  else ⟨s, .idle, []⟩

def deviceToken (session : Session) (user : User) : ConsoleTurn :=
  match session.currentCredentialId with
  | some credentialId =>
      if requireRecentPasskey session s.store.clock then
        ⟨s, .calling (.mint session credentialId) (.holding user), []⟩
      else ⟨s, .idle, []⟩
  | none => ⟨s, .idle, []⟩

/-- The end of `authenticate`, and `authorize` or `authorize_fleet`. -/
def authorizeOperator (expectedMethod : String) (capability : OperatorCapability)
    (resource : Option (FleetResourceKindRecord × Uuid)) (session : Session) (user : User)
    (operator : Option OperatorRecord) : RpcResult Unit := do
  ensure (session.authMethod = expectedMethod)
    ⟨.unauthenticated, "passkey operator session required"⟩
  let operator ← okOr operator operatorDenied
  let actor : OperatorActor := ⟨user.id, operator.role, session.stepUpAt⟩
  match resource with
  | none => authorize s.store.clock actor capability
  | some (kind, resourceId) =>
      authorizeFleet s.store.db s.store.clock actor capability kind resourceId

def operatorCall (expectedMethod : String) (capability : OperatorCapability)
    (resource : Option (FleetResourceKindRecord × Uuid)) (session : Session) (user : User)
    (operator : Option OperatorRecord) : ConsoleTurn :=
  match authorizeOperator s expectedMethod capability resource session user operator with
  | .ok _ => ⟨s, .idle, [⟨session.id, capability, s.store.clock⟩]⟩
  | .error _ => ⟨s, .idle, []⟩

end

/-- One access of a handler. -/
def consoleTurn (ctx : ConsoleContext) (s : ConsoleState) (task : ConsoleTask)
    (input : ConsoleInput) : Option ConsoleTurn :=
  match task, input with
  | task, .tick now =>
      if s.store.clock ≤ now then some ⟨{ s with store := { s.store with clock := now } }, task, []⟩
      else none
  | .idle, .request handler token => s.call ctx (.authenticate handler) .idle (.session token)
  | .idle, .store input => if input.isPlain then s.call ctx .other .idle input else none
  | .idle, .authenticationOptions ceremonyId userId =>
      some ⟨s.saveAuthentication ⟨ceremonyId, userId, .signIn, none,
        satAdd s.store.clock ceremonySeconds⟩, .idle, []⟩
  | .idle, .authenticationVerify ceremonyId answer => some (authenticationVerify s ceremonyId answer)
  | .idle, .registrationOptions ceremony =>
      some ⟨{ s with registrations := ceremony :: s.registrations }, .idle, []⟩
  | .idle, .registrationVerify ceremonyId passkey invitation =>
      some (registrationVerify ctx s ceremonyId passkey invitation)
  | .idle, .recoveryVerify ceremonyId passkey => some (recoveryVerify s ceremonyId passkey)
  | .idle, .localAgentHandoff userId => s.call ctx .handOff .idle (.readUser userId)
  | .enrolling request credentialId, .account eventId => enrol ctx s request credentialId eventId
  | .confirmed token sessionId userId result, .account eventId =>
      confirm ctx s token sessionId userId result eventId
  | .authenticated (.stepUpOptions ceremonyId) session user, .proceed _ =>
      some (stepUpOptions s ceremonyId session user)
  | .authenticated (.stepUpVerify token ceremonyId answer) session user, .proceed _ =>
      some (stepUpVerify s token ceremonyId answer session user)
  | .authenticated .deviceToken session user, .proceed _ => some (deviceToken s session user)
  | .authenticated (.operator expectedMethod capability resource) session user, .ensured operator =>
      some (operatorCall s expectedMethod capability resource session user operator)
  | .calling (.signIn userId result) .idle, .login random id preparedAt eventId =>
      s.call ctx (.signIn userId result) .idle
        (.login userId result ctx.sessionAbsoluteSeconds random id preparedAt eventId)
  | .calling caller (.holding user), .createSession random id =>
      match caller.origin ctx with
      | some (origin, absoluteSeconds) =>
          s.call ctx caller (.holding user) (.createSession origin absoluteSeconds random id)
      | none => none
  | .calling (.stepUp token sessionId credentialId) .idle, .proceed _ =>
      s.call ctx (.stepUp token sessionId credentialId) .idle
        (.markSessionStepUp token sessionId credentialId)
  | .calling caller call, .proceed eventId => s.call ctx caller call (.proceed eventId)
  | .calling caller call, .abandon => s.call ctx caller call .abandon
  | _, .abandon => some ⟨s, .idle, []⟩
  | _, _ => none

abbrev ConsoleWorld := World ConsoleState ConsoleTask Authorization

abbrev ConsoleTurns (ctx : ConsoleContext) : ConsoleWorld → Nat × ConsoleInput → ConsoleWorld → Prop :=
  Turns (consoleTurn ctx)

/-- A database without sessions, at some time, and no handler under way. -/
def consoleStart (db : Db) (clock : Nat) : ConsoleWorld where
  shared := ⟨(sessionStart db clock).shared, [], [], [], []⟩
  task _ := .idle
  history := []

end RustyAuth
