/-
  What an operation makes of the account it read.

  Every operation but the registration reads one stored account, normalises it and stores it
  back under its id with one part changed.  `AccountChange` lists the changes, one constructor
  for each operation, and `change_of_run` says that an accepted operation makes one of them;
  what operations keep of an account is read off this list.
-/
import RustyAuth.Account.Lookups

namespace RustyAuth

open RustyAuth.Library

/-! ## Reading an account -/

variable {user : User} {db : Db} {now : Nat} {id : Uuid} {c : AccountCall}

theorem hydrated_of_identifiers (h : user.identifiers ≠ []) :
    user.hydrated = user := by
  unfold User.hydrated
  rw [if_neg fun hand => h hand.1]

theorem withIdentifiers_id (user : User) (identifiers : List AccountIdentifier) :
    (user.withIdentifiers identifiers).id = user.id := by
  unfold User.withIdentifiers User.syncLegacyEmail
  split <;> rfl

theorem modifyFirst_map {α β : Type} {p : α → Bool} {f : α → α} {g : α → β}
    (hg : ∀ a, g (f a) = g a) (l : List α) : (modifyFirst p f l).map g = l.map g := by
  induction l with
  | nil => rfl
  | cons a l ih =>
    unfold modifyFirst
    split
    · rw [List.map_cons, List.map_cons, hg]
    · rw [List.map_cons, List.map_cons, ih]

/-- Normalising leaves what sessions and passkeys depend on. -/
theorem normalizeAndValidate_keeps {stored : User} (h : stored.normalizeAndValidate = .ok user) :
    user.id = stored.id ∧ user.sessionVersion = stored.sessionVersion ∧
      user.passkeys = stored.passkeys := by
  obtain ⟨_, rfl⟩ := normalizeAndValidate_eq_ok.mp h
  unfold User.syncLegacyEmail User.hydrated
  constructor
  · split <;> split <;> rfl
  · constructor
    · split <;> split <;> rfl
    · split <;> split <;> rfl

theorem user_eq_some :
    db.user now id = .ok (some user) ↔
      ∃ stored, db.get now (.user id) = some stored ∧ stored.normalizeAndValidate = .ok user := by
  unfold Db.user
  cases hget : db.get now (.user id) with
  | none => simp
  | some stored => simp

theorem requireUser_eq_ok :
    requireUser db c id = .ok user ↔
      ∃ stored, db.get c.now (.user id) = some stored ∧ stored.normalizeAndValidate = .ok user := by
  unfold requireUser
  simp only [bind_eq_ok, okOr_eq_ok, exists_eq_right, user_eq_some]

theorem user_of_userByIdentifier {identifier : IdentifierValue}
    (h : db.userByIdentifier now identifier = .ok (some user)) :
    ∃ id, db.user now id = .ok (some user) := by
  unfold Db.userByIdentifier at h
  dsimp only at h
  split at h
  · cases h
  · next id _ => exact ⟨id, h⟩

/-- The accounts lie under their ids. -/
def UnderIds (db : Db) : Prop := ∀ id stored, db.get 0 (.user id) = some stored → stored.id = id

/-! ## The changes -/

/-- The account `read` under `userId`, and what the operation stores there. -/
inductive AccountChange (ctx : AccountContext) (c : AccountCall) (userId : Uuid) (read : User) :
    AccountRequest → User → Prop
  | addIdentifier {identifier : IdentifierValue} {verified : Bool}
      (identifiers : List AccountIdentifier) :
      AccountChange ctx c userId read (.addIdentifier userId identifier verified)
        (read.withIdentifiers identifiers)
  | removeIdentifier {identifier : IdentifierValue} (identifiers : List AccountIdentifier) :
      AccountChange ctx c userId read (.removeIdentifier userId identifier)
        (read.withIdentifiers identifiers)
  | setPrimaryIdentifier {identifier : IdentifierValue} (identifiers : List AccountIdentifier) :
      AccountChange ctx c userId read (.setPrimaryIdentifier userId identifier)
        (read.withIdentifiers identifiers)
  | setIdentifierVerification {identifier : IdentifierValue} {verified : Bool}
      (identifiers : List AccountIdentifier) :
      AccountChange ctx c userId read (.setIdentifierVerification userId identifier verified)
        (read.withIdentifiers identifiers)
  | updateProfile {profile : AccountProfile} :
      AccountChange ctx c userId read (.updateProfile userId profile) { read with profile }
  | addPasskey {label : String} {passkey : NewPasskey} :
      AccountChange ctx c userId read (.addPasskey userId label passkey)
        { read with passkeys := read.passkeys ++ [StoredPasskey.new c label passkey] }
  | renamePasskey {credentialId label : String} :
      AccountChange ctx c userId read (.renamePasskey userId credentialId label)
        { read with
          passkeys := modifyFirst (·.id = credentialId) (fun passkey => { passkey with label })
            read.passkeys }
  | revokePasskey {credentialId : String} :
      AccountChange ctx c userId read (.revokePasskey userId credentialId)
        { read with passkeys := read.passkeys.filter (·.id ≠ credentialId) }
  | applyAuthentication {result : AuthenticationResult} {new : User}
      (hresult : applyAuthenticationResult c ctx.updateCredential read result = .ok new) :
      AccountChange ctx c userId read (.applyAuthentication userId result) new
  | rotateRecoveryCodes {rawCodes : Fin 10 → String} (recoveryCodes : List RecoveryCodeRecord) :
      AccountChange ctx c userId read (.rotateRecoveryCodes userId rawCodes)
        { read with recoveryCodes }
  | consumeRecoveryCode {identifier : IdentifierValue} {rawCode : String}
      (recoveryCodes : List RecoveryCodeRecord) :
      AccountChange ctx c userId read (.consumeRecoveryCode identifier rawCode)
        { read with recoveryCodes }
  | addRecoveryPasskey {label : String} {passkey : NewPasskey} :
      AccountChange ctx c userId read (.addRecoveryPasskey userId label passkey)
        { read with
          passkeys := read.passkeys ++ [StoredPasskey.new c label passkey]
          sessionVersion := satAdd read.sessionVersion 1
          recoveryCodes := [] }
  | revokeAllSessions :
      AccountChange ctx c userId read (.revokeAllSessions userId)
        { read with sessionVersion := satAdd read.sessionVersion 1 }

theorem applyAuthenticationResult_id
    {updateCredential : String → AuthenticationResult → Option String} {new : User}
    {result : AuthenticationResult}
    (h : applyAuthenticationResult c updateCredential user result = .ok new) :
    new.id = user.id := by
  simp only [applyAuthenticationResult, bind_eq_ok, ensure_eq_ok, okOr_eq_ok, pure_eq_ok,
    exists_const] at h
  obtain ⟨_, _, _, _, _, rfl⟩ := h
  rfl

theorem AccountChange.id_eq {ctx : AccountContext} {userId : Uuid} {read new : User}
    {request : AccountRequest} (h : AccountChange ctx c userId read request new) :
    new.id = read.id := by
  cases h with
  | addIdentifier identifiers => exact withIdentifiers_id _ _
  | removeIdentifier identifiers => exact withIdentifiers_id _ _
  | setPrimaryIdentifier identifiers => exact withIdentifiers_id _ _
  | setIdentifierVerification identifiers => exact withIdentifiers_id _ _
  | applyAuthentication hresult => exact applyAuthenticationResult_id hresult
  | _ => rfl

/-- Registrations: the only operation that reads no account. -/
def AccountRequest.registers : AccountRequest → Option Uuid
  | .createUserWithPasskey userId _ _ _ _ _ => some userId
  | _ => none

theorem register_of_run {ctx : AccountContext} {request : AccountRequest} {op : AccountOp}
    {userId : Uuid} (hregisters : request.registers = some userId)
    (hrun : request.run ctx db c = .ok (user, op)) :
    ∃ effect, op.effect = some effect ∧ effect.userId = userId ∧ effect.user.id = userId := by
  cases request with
  | createUserWithPasskey =>
    cases hregisters
    simp only [AccountRequest.run, createUserWithPasskey, bind_eq_ok, ensure_eq_ok, pure_eq_ok,
      exists_const, Prod.mk.injEq] at hrun
    obtain ⟨_, _, _, _, _, _, _, _, _, _, _, _, rfl, rfl⟩ := hrun
    exact ⟨_, rfl, rfl, rfl⟩
  | _ => cases hregisters

section

variable {ctx : AccountContext} {db : Db} {c : AccountCall} (hids : UnderIds db) {user : User}

include hids

/-- What was read under an id carries it. -/
theorem read_id {stored : User} (hget : db.get now (.user id) = some stored)
    (hread : stored.normalizeAndValidate = .ok user) : user.id = id := by
  rw [(normalizeAndValidate_keeps hread).1]
  exact hids id stored (Keyspace.get_mono (Nat.zero_le _) hget)

theorem change_of_run {request : AccountRequest} {op : AccountOp}
    (hregisters : request.registers = none) (hrun : request.run ctx db c = .ok (user, op)) :
    ∃ effect stored read, op.effect = some effect ∧
      db.get c.now (.user effect.userId) = some stored ∧
      stored.normalizeAndValidate = .ok read ∧
      AccountChange ctx c effect.userId read request effect.user := by
  cases request with
  | createUserWithPasskey => cases hregisters
  | addIdentifier userId identifier verified =>
    simp only [AccountRequest.run, addIdentifier, bind_eq_ok, ensure_eq_ok, pure_eq_ok,
      exists_const, Prod.mk.injEq, requireUser_eq_ok] at hrun
    obtain ⟨_, _, _, _, _, read, ⟨stored, hget, hread⟩, _, _, _, rfl, rfl⟩ := hrun
    exact ⟨_, stored, read, rfl, hget, hread, .addIdentifier _⟩
  | removeIdentifier userId identifier =>
    simp only [AccountRequest.run, removeIdentifier, bind_eq_ok, ensure_eq_ok, okOr_eq_ok,
      pure_eq_ok, exists_const, Prod.mk.injEq, requireUser_eq_ok] at hrun
    obtain ⟨_, _, read, ⟨stored, hget, hread⟩, _, _, _, _, _, rfl, rfl⟩ := hrun
    exact ⟨_, stored, read, rfl, hget, hread, .removeIdentifier _⟩
  | setPrimaryIdentifier userId identifier =>
    simp only [AccountRequest.run, setPrimaryIdentifier, bind_eq_ok, ensure_eq_ok, pure_eq_ok,
      exists_const, Prod.mk.injEq, requireUser_eq_ok, withIdentifiers_id] at hrun
    obtain ⟨_, _, read, ⟨stored, hget, hread⟩, _, _, _, rfl, rfl⟩ := hrun
    obtain rfl := read_id hids hget hread
    exact ⟨_, stored, read, rfl, hget, hread, .setPrimaryIdentifier _⟩
  | setIdentifierVerification userId identifier verified =>
    simp only [AccountRequest.run, setIdentifierVerification, bind_eq_ok, ensure_eq_ok, pure_eq_ok,
      exists_const, Prod.mk.injEq, requireUser_eq_ok, withIdentifiers_id] at hrun
    obtain ⟨_, _, read, ⟨stored, hget, hread⟩, _, _, _, rfl, rfl⟩ := hrun
    obtain rfl := read_id hids hget hread
    exact ⟨_, stored, read, rfl, hget, hread, .setIdentifierVerification _⟩
  | updateProfile userId profile =>
    simp only [AccountRequest.run, updateProfile, bind_eq_ok, pure_eq_ok, Prod.mk.injEq,
      requireUser_eq_ok] at hrun
    obtain ⟨_, _, read, ⟨stored, hget, hread⟩, _, _, rfl, rfl⟩ := hrun
    obtain rfl := read_id hids hget hread
    exact ⟨_, stored, read, rfl, hget, hread, .updateProfile⟩
  | addPasskey userId label passkey =>
    simp only [AccountRequest.run, addPasskey, bind_eq_ok, ensure_eq_ok, pure_eq_ok,
      exists_const, Prod.mk.injEq, requireUser_eq_ok] at hrun
    obtain ⟨read, ⟨stored, hget, hread⟩, _, _, _, rfl, rfl⟩ := hrun
    exact ⟨_, stored, read, rfl, hget, hread, .addPasskey⟩
  | renamePasskey userId credentialId label =>
    simp only [AccountRequest.run, renamePasskey, bind_eq_ok, ensure_eq_ok, pure_eq_ok,
      exists_const, Prod.mk.injEq, requireUser_eq_ok] at hrun
    obtain ⟨read, ⟨stored, hget, hread⟩, _, _, _, rfl, rfl⟩ := hrun
    obtain rfl := read_id hids hget hread
    exact ⟨_, stored, read, rfl, hget, hread, .renamePasskey⟩
  | revokePasskey userId credentialId =>
    simp only [AccountRequest.run, revokePasskey, bind_eq_ok, ensure_eq_ok, pure_eq_ok,
      exists_const, Prod.mk.injEq, requireUser_eq_ok] at hrun
    obtain ⟨read, ⟨stored, hget, hread⟩, _, _, _, _, rfl, rfl⟩ := hrun
    exact ⟨_, stored, read, rfl, hget, hread, .revokePasskey⟩
  | applyAuthentication userId result =>
    simp only [AccountRequest.run, applyAuthentication, bind_eq_ok, pure_eq_ok, Prod.mk.injEq,
      requireUser_eq_ok] at hrun
    obtain ⟨read, ⟨stored, hget, hread⟩, new, hresult, rfl, rfl⟩ := hrun
    obtain rfl := (applyAuthenticationResult_id hresult).trans (read_id hids hget hread)
    exact ⟨_, stored, read, rfl, hget, hread, .applyAuthentication hresult⟩
  | rotateRecoveryCodes userId rawCodes =>
    simp only [AccountRequest.run, rotateRecoveryCodes, bind_eq_ok, pure_eq_ok, Prod.mk.injEq,
      requireUser_eq_ok] at hrun
    obtain ⟨read, ⟨stored, hget, hread⟩, _, _, rfl, rfl⟩ := hrun
    obtain rfl := read_id hids hget hread
    exact ⟨_, stored, read, rfl, hget, hread, .rotateRecoveryCodes _⟩
  | consumeRecoveryCode identifier rawCode =>
    simp only [AccountRequest.run, consumeRecoveryCode, bind_eq_ok, ensure_eq_ok, okOr_eq_ok,
      pure_eq_ok, exists_const, Prod.mk.injEq] at hrun
    obtain ⟨_, _, _, hread, read, rfl, _, _, _, rfl, rfl⟩ := hrun
    obtain ⟨id, hread⟩ := user_of_userByIdentifier hread
    obtain ⟨stored, hget, hread⟩ := user_eq_some.mp hread
    obtain rfl := read_id hids hget hread
    exact ⟨_, stored, read, rfl, hget, hread, .consumeRecoveryCode _⟩
  | addRecoveryPasskey userId label passkey =>
    simp only [AccountRequest.run, addRecoveryPasskey, bind_eq_ok, ensure_eq_ok, pure_eq_ok,
      exists_const, Prod.mk.injEq, requireUser_eq_ok] at hrun
    obtain ⟨read, ⟨stored, hget, hread⟩, _, _, _, rfl, rfl⟩ := hrun
    exact ⟨_, stored, read, rfl, hget, hread, .addRecoveryPasskey⟩
  | revokeAllSessions userId =>
    simp only [AccountRequest.run, revokeAllSessions, bind_eq_ok, okOr_eq_ok, pure_eq_ok,
      Prod.mk.injEq] at hrun
    obtain ⟨_, hread, read, rfl, _, _, rfl, rfl⟩ := hrun
    obtain ⟨stored, hget, hread⟩ := user_eq_some.mp hread
    obtain rfl := read_id hids hget hread
    exact ⟨_, stored, read, rfl, hget, hread, .revokeAllSessions⟩

/-- An accepted operation stores one account, under its id. -/
theorem effect_of_run {request : AccountRequest} {op : AccountOp}
    (hrun : request.run ctx db c = .ok (user, op)) :
    ∃ effect, op.effect = some effect ∧ effect.user.id = effect.userId ∧
      (request.registers = some effect.userId ∨ ∃ stored read,
        db.get c.now (.user effect.userId) = some stored ∧
        stored.normalizeAndValidate = .ok read ∧
        AccountChange ctx c effect.userId read request effect.user) := by
  cases hregisters : request.registers with
  | some id =>
    obtain ⟨effect, heffect, rfl, huser⟩ := register_of_run hregisters hrun
    exact ⟨effect, heffect, huser, Or.inl rfl⟩
  | none =>
    obtain ⟨effect, stored, read, heffect, hget, hread, hchange⟩ :=
      change_of_run hids hregisters hrun
    exact ⟨effect, heffect, hchange.id_eq.trans (read_id hids hget hread),
      Or.inr ⟨stored, read, hget, hread, hchange⟩⟩

end

end RustyAuth
