/-
  The operations on accounts.

  Each reads what it needs under the mutation lock, refuses or computes the new account, and
  commits it with its lookup keys and events in one pipeline: the commands of an `AccountOp`.
  `AccountRequest` is any of them with its arguments, and `AccountRequest.run` what it commits;
  a refused one commits nothing.
-/
import RustyAuth.Account.Users

namespace RustyAuth

open RustyAuth.Library

/-! ## Reads -/

namespace Db

def user (db : Db) (now : Nat) (id : Uuid) : Except AccountError (Option User) :=
  match db.get now (.user id) with
  | none => return none
  | some user => some <$> user.normalizeAndValidate

/-- The legacy index is asked for an email that the index of identifiers does not know. -/
def userByIdentifier (db : Db) (now : Nat) (identifier : IdentifierValue) :
    Except AccountError (Option User) :=
  let id := (db.get now (.identifier identifier.kind identifier.value)).or
    (if identifier.kind = .email then db.get now (.email identifier.value) else none)
  match id with
  | none => return none
  | some id => db.user now id

end Db

/-! ## Parts of the operations -/

/-- When an operation runs, in which tenant, and the identifiers its events get. -/
structure AccountCall where
  now : Nat
  tenantId : String
  eventId : Nat → Uuid

/-- A credential of the WebAuthn library, with its credential id and its counter. -/
structure NewPasskey where
  id : String
  counter : Nat
  passkey : String

/-- What a verified assertion says. -/
structure AuthenticationResult where
  credentialId : String
  counter : Nat

def accountEvents (db : Db) (c : AccountCall) (subject : Uuid) (eventTypes : List String) :
    Except AccountError (List AuthEvent) :=
  (db.pendingEvents c.tenantId c.now (eventTypes.mapIdx fun i eventType =>
    { id := c.eventId i, eventType, subject := some subject, data := emptyEventData })).mapError .log

def requireUser (db : Db) (c : AccountCall) (userId : Uuid) : Except AccountError User := do
  okOr (← db.user c.now userId) (.policy .userMissing)

def AccountIdentifier.is (stored : AccountIdentifier) (identifier : IdentifierValue) : Bool :=
  stored.kind = identifier.kind && stored.value = identifier.value

/-- Change the first element that meets `p`. -/
def modifyFirst {α : Type} (p : α → Bool) (f : α → α) : List α → List α
  | [] => []
  | a :: as => if p a then f a :: as else a :: modifyFirst p f as

/-- Replacing the identifiers mirrors the email anew. -/
def User.withIdentifiers (user : User) (identifiers : List AccountIdentifier) : User :=
  User.syncLegacyEmail { user with identifiers }

def setHeadPrimary : List AccountIdentifier → List AccountIdentifier
  | [] => []
  | identifier :: identifiers => { identifier with primary := true } :: identifiers

def StoredPasskey.new (c : AccountCall) (label : String) (passkey : NewPasskey) : StoredPasskey where
  id := passkey.id
  label
  counter := passkey.counter
  createdAt := c.now
  lastUsedAt := none
  passkey := passkey.passkey

/-- A sign counter that failed to advance; zero on either side says nothing. -/
def counterRegressed (stored next : Nat) : Bool := 0 < next && 0 < stored && next ≤ stored

/-- The event that asks for the verification of a new identifier. -/
def verificationRequested (verified : Bool) (kind : IdentifierKind) : List String :=
  if verified then [] else [kind.asStr ++ ".verification.requested"]

/-! ## The operations -/

section

variable (db : Db) (c : AccountCall)

/-- `invitation` is what checking the claimed invitation came to: its identifier, its consumed
    record and the digest of its code. -/
def createUserWithPasskey (userId : Uuid) (identifier : IdentifierValue) (profile : AccountProfile)
    (passkey : NewPasskey) (identifierVerified : Bool)
    (invitation : Except AccountError (Option (Uuid × String × String))) :
    Except AccountError (User × AccountOp) := do
  requireCanonicalIdentifier identifier
  validateAccountProfile profile
  let existing ← db.userByIdentifier c.now identifier
  ensure existing.isNone (.policy .identifierAlreadyExists)
  ensure (db.get c.now (.credential passkey.id)).isNone (.policy .credentialAlreadyExists)
  let invitation ← invitation
  let user : User :=
    { id := userId
      email := if identifier.kind = .email then identifier.value else ""
      emailVerified := identifier.kind = .email && identifierVerified
      profile
      identifiers :=
        [{ kind := identifier.kind, value := identifier.value, verified := identifierVerified,
           verifiedAt := if identifierVerified then some c.now else none, primary := true,
           createdAt := c.now }]
      sessionVersion := 1
      recoveryCodes := []
      createdAt := c.now
      passkeys := [StoredPasskey.new c "Primary passkey" passkey] }
  let events ← accountEvents db c userId
    (["identity.created"] ++ verificationRequested identifierVerified identifier.kind ++
      if invitation.isSome then ["account.invitation.consumed"] else [])
  return (user, .createUserWithPasskey userId user identifier.kind identifier.value passkey.id
    invitation events)

def addIdentifier (userId : Uuid) (identifier : IdentifierValue) (verified : Bool) :
    Except AccountError (User × AccountOp) := do
  requireCanonicalIdentifier identifier
  let existing ← db.userByIdentifier c.now identifier
  ensure existing.isNone (.policy .identifierAlreadyExists)
  let user ← requireUser db c userId
  ensure (user.identifiers.length < maxIdentifiers) (.policy .identifierLimit)
  let user := user.withIdentifiers (user.identifiers ++
    [{ kind := identifier.kind, value := identifier.value, verified,
       verifiedAt := if verified then some c.now else none, primary := false,
       createdAt := c.now }])
  let events ← accountEvents db c userId
    (["identifier.added"] ++ verificationRequested verified identifier.kind)
  return (user, .addIdentifier userId user identifier.kind identifier.value events)

def removeIdentifier (userId : Uuid) (identifier : IdentifierValue) :
    Except AccountError (User × AccountOp) := do
  requireCanonicalIdentifier identifier
  let user ← requireUser db c userId
  ensure (1 < user.identifiers.length) (.policy .finalIdentifier)
  let removed ← okOr (user.identifiers.find? (·.is identifier)) (.policy .identifierNotLinked)
  let rest := user.identifiers.filter (! ·.is identifier)
  let user := user.withIdentifiers (if removed.primary then setHeadPrimary rest else rest)
  let events ← accountEvents db c userId ["identifier.removed"]
  return (user, .removeIdentifier userId user identifier.kind identifier.value events)

def setPrimaryIdentifier (userId : Uuid) (identifier : IdentifierValue) :
    Except AccountError (User × AccountOp) := do
  requireCanonicalIdentifier identifier
  let user ← requireUser db c userId
  ensure (user.identifiers.any (·.is identifier)) (.policy .identifierNotLinked)
  let user := user.withIdentifiers (user.identifiers.map fun stored =>
    { stored with primary := stored.is identifier })
  let events ← accountEvents db c user.id ["identifier.primary_changed"]
  return (user, .setPrimaryIdentifier user.id user events)

def setIdentifierVerification (userId : Uuid) (identifier : IdentifierValue) (verified : Bool) :
    Except AccountError (User × AccountOp) := do
  requireCanonicalIdentifier identifier
  let user ← requireUser db c userId
  ensure (user.identifiers.any (·.is identifier)) (.policy .identifierNotLinked)
  let user := user.withIdentifiers (modifyFirst (·.is identifier) (fun stored =>
    { stored with verified, verifiedAt := if verified then some c.now else none })
    user.identifiers)
  let events ← accountEvents db c user.id
    [if verified then "identifier.verified" else "identifier.unverified"]
  return (user, .setIdentifierVerification user.id user events)

def updateProfile (userId : Uuid) (profile : AccountProfile) :
    Except AccountError (User × AccountOp) := do
  validateAccountProfile profile
  let user ← requireUser db c userId
  let user := { user with profile }
  let events ← accountEvents db c user.id ["profile.updated"]
  return (user, .updateProfile user.id user events)

def addPasskey (userId : Uuid) (label : String) (passkey : NewPasskey) :
    Except AccountError (User × AccountOp) := do
  let user ← requireUser db c userId
  ensure (db.get c.now (.credential passkey.id)).isNone (.policy .credentialAlreadyExists)
  let user := { user with passkeys := user.passkeys ++ [StoredPasskey.new c label passkey] }
  let events ← accountEvents db c userId ["credential.created"]
  return (user, .addPasskey userId user passkey.id events)

def renamePasskey (userId : Uuid) (credentialId label : String) :
    Except AccountError (User × AccountOp) := do
  let user ← requireUser db c userId
  ensure (user.passkeys.any (·.id = credentialId)) (.policy .credentialNotLinked)
  let passkeys :=
    modifyFirst (·.id = credentialId) (fun passkey => { passkey with label }) user.passkeys
  let user := { user with passkeys }
  let events ← accountEvents db c user.id ["credential.renamed"]
  return (user, .renamePasskey user.id user events)

def revokePasskey (userId : Uuid) (credentialId : String) :
    Except AccountError (User × AccountOp) := do
  let user ← requireUser db c userId
  ensure (1 < user.passkeys.length) (.policy .finalCredential)
  ensure (user.passkeys.any (·.id = credentialId)) (.policy .credentialNotLinked)
  let user := { user with passkeys := user.passkeys.filter (·.id ≠ credentialId) }
  let events ← accountEvents db c userId ["credential.revoked"]
  return (user, .revokePasskey userId user credentialId events)

/-- `apply_authentication_result`. -/
def applyAuthenticationResult (updateCredential : String → AuthenticationResult → Option String)
    (user : User) (result : AuthenticationResult) : Except AccountError User := do
  let stored ← okOr (user.passkeys.find? (·.id = result.credentialId)) (.policy .credentialNotLinked)
  ensure (¬counterRegressed stored.counter result.counter)
    (.bail "passkey counter did not advance; possible cloned credential")
  let passkey ← okOr (updateCredential stored.passkey result)
    (.bail "passkey result does not match stored credential")
  let passkeys := modifyFirst (·.id = result.credentialId) (fun stored =>
    { stored with passkey, counter := max result.counter stored.counter, lastUsedAt := some c.now })
    user.passkeys
  return { user with passkeys }

def applyAuthentication (updateCredential : String → AuthenticationResult → Option String)
    (userId : Uuid) (result : AuthenticationResult) : Except AccountError (User × AccountOp) := do
  let user ← requireUser db c userId
  let user ← applyAuthenticationResult c updateCredential user result
  return (user, .applyAuthentication user.id user)

/-- `raw_codes` are the ten codes drawn. -/
def rotateRecoveryCodes (recoveryDigest : String → String) (userId : Uuid)
    (rawCodes : Fin 10 → String) : Except AccountError (User × AccountOp) := do
  let user ← requireUser db c userId
  let recoveryCodes := (List.ofFn rawCodes).map fun code => ⟨recoveryDigest code, c.now⟩
  let user := { user with recoveryCodes }
  let events ← accountEvents db c user.id ["account.recovery_codes.rotated"]
  return (user, .rotateRecoveryCodes user.id user events)

def validateRecoveryCode (rawCode : String) : Except AccountError Unit :=
  ensure (rawCode.utf8ByteSize = 31 ∧ startsWith rawCode "rrc_" ∧
      (rawCode.toList.drop 4).all fun ch => ch.isAlphanum || ch == '-' || ch == '_')
    (.bail "recovery code is invalid or already used")

def consumeRecoveryCode (recoveryDigest : String → String) (identifier : IdentifierValue)
    (rawCode : String) : Except AccountError (User × AccountOp) := do
  validateRecoveryCode rawCode
  let user ← okOr (← db.userByIdentifier c.now identifier) (.policy .userMissing)
  ensure (user.recoveryCodes.any (·.digest = recoveryDigest rawCode))
    (.bail "recovery code is invalid or already used")
  let recoveryCodes := user.recoveryCodes.eraseP (·.digest = recoveryDigest rawCode)
  let user := { user with recoveryCodes }
  let events ← accountEvents db c user.id ["account.recovery.started"]
  return (user, .consumeRecoveryCode user.id user events)

def addRecoveryPasskey (userId : Uuid) (label : String) (passkey : NewPasskey) :
    Except AccountError (User × AccountOp) := do
  let user ← requireUser db c userId
  ensure (db.get c.now (.credential passkey.id)).isNone (.policy .credentialAlreadyExists)
  let user := { user with
    passkeys := user.passkeys ++ [StoredPasskey.new c label passkey]
    sessionVersion := satAdd user.sessionVersion 1
    recoveryCodes := [] }
  let events ← accountEvents db c userId
    ["account.recovery.completed", "credential.created", "session.revoked_all"]
  return (user, .addRecoveryPasskey userId user passkey.id events)

def revokeAllSessions (userId : Uuid) : Except AccountError (User × AccountOp) := do
  let user ← okOr (← db.user c.now userId) (.bail "account is missing")
  let user := { user with sessionVersion := satAdd user.sessionVersion 1 }
  let events ← accountEvents db c user.id ["session.revoked_all"]
  return (user, .revokeAllSessions user.id user events)

end

/-! ## Requests -/

/-- The functions of other libraries that accounts rest on. -/
structure AccountContext where
  recoveryDigest : String → String
  updateCredential : String → AuthenticationResult → Option String

inductive AccountRequest
  | createUserWithPasskey (userId : Uuid) (identifier : IdentifierValue) (profile : AccountProfile)
      (passkey : NewPasskey) (identifierVerified : Bool)
      (invitation : Except AccountError (Option (Uuid × String × String)))
  | addIdentifier (userId : Uuid) (identifier : IdentifierValue) (verified : Bool)
  | removeIdentifier (userId : Uuid) (identifier : IdentifierValue)
  | setPrimaryIdentifier (userId : Uuid) (identifier : IdentifierValue)
  | setIdentifierVerification (userId : Uuid) (identifier : IdentifierValue) (verified : Bool)
  | updateProfile (userId : Uuid) (profile : AccountProfile)
  | addPasskey (userId : Uuid) (label : String) (passkey : NewPasskey)
  | renamePasskey (userId : Uuid) (credentialId label : String)
  | revokePasskey (userId : Uuid) (credentialId : String)
  | applyAuthentication (userId : Uuid) (result : AuthenticationResult)
  | rotateRecoveryCodes (userId : Uuid) (rawCodes : Fin 10 → String)
  | consumeRecoveryCode (identifier : IdentifierValue) (rawCode : String)
  | addRecoveryPasskey (userId : Uuid) (label : String) (passkey : NewPasskey)
  | revokeAllSessions (userId : Uuid)

def AccountRequest.run (ctx : AccountContext) (db : Db) (c : AccountCall) :
    AccountRequest → Except AccountError (User × AccountOp)
  | .createUserWithPasskey userId identifier profile passkey identifierVerified invitation =>
      RustyAuth.createUserWithPasskey db c userId identifier profile passkey identifierVerified
        invitation
  | .addIdentifier userId identifier verified =>
      RustyAuth.addIdentifier db c userId identifier verified
  | .removeIdentifier userId identifier => RustyAuth.removeIdentifier db c userId identifier
  | .setPrimaryIdentifier userId identifier => RustyAuth.setPrimaryIdentifier db c userId identifier
  | .setIdentifierVerification userId identifier verified =>
      RustyAuth.setIdentifierVerification db c userId identifier verified
  | .updateProfile userId profile => RustyAuth.updateProfile db c userId profile
  | .addPasskey userId label passkey => RustyAuth.addPasskey db c userId label passkey
  | .renamePasskey userId credentialId label =>
      RustyAuth.renamePasskey db c userId credentialId label
  | .revokePasskey userId credentialId => RustyAuth.revokePasskey db c userId credentialId
  | .applyAuthentication userId result =>
      RustyAuth.applyAuthentication db c ctx.updateCredential userId result
  | .rotateRecoveryCodes userId rawCodes =>
      RustyAuth.rotateRecoveryCodes db c ctx.recoveryDigest userId rawCodes
  | .consumeRecoveryCode identifier rawCode =>
      RustyAuth.consumeRecoveryCode db c ctx.recoveryDigest identifier rawCode
  | .addRecoveryPasskey userId label passkey =>
      RustyAuth.addRecoveryPasskey db c userId label passkey
  | .revokeAllSessions userId => RustyAuth.revokeAllSessions db c userId

end RustyAuth
