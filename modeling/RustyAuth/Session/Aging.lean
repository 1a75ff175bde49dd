/-
  How operations change what sessions depend on.

  A session depends on two things of its account: the session version and the passkeys.  The
  version never goes down, and while it stays the same no passkey is added (`Aged`); a passkey
  is added by a recovery only, which moves the version.  Only the operations that register an
  account or a passkey change the account they enrol otherwise (`AccountRequest.enrols`).
-/
import RustyAuth.Account.Changes
import RustyAuth.Session.System

namespace RustyAuth

open RustyAuth.Library

def User.passkeyIds (user : User) : List String := user.passkeys.map (·.id)

structure UserAged (old new : User) : Prop where
  id : new.id = old.id
  version : old.sessionVersion ≤ new.sessionVersion
  passkeys : old.sessionVersion = new.sessionVersion → ∀ id ∈ new.passkeyIds, id ∈ old.passkeyIds

theorem UserAged.refl (user : User) : UserAged user user :=
  ⟨rfl, Nat.le_refl _, fun _ _ h => h⟩

variable {new stored user : User} {request : AccountRequest} {op : AccountOp} {userId : Uuid}
  {session : Session}

/-- Same id, same version, and no passkey more. -/
theorem UserAged.of_subset {old : User} (hid : new.id = old.id)
    (hversion : new.sessionVersion = old.sessionVersion)
    (hpasskeys : ∀ id ∈ new.passkeyIds, id ∈ old.passkeyIds) : UserAged old new :=
  ⟨hid, Nat.le_of_eq hversion.symm, fun _ => hpasskeys⟩

/-- The version has moved. -/
theorem UserAged.of_lt {old : User} (hid : new.id = old.id)
    (hversion : old.sessionVersion < new.sessionVersion) : UserAged old new :=
  ⟨hid, Nat.le_of_lt hversion, fun h => absurd h (Nat.ne_of_lt hversion)⟩

/-- The account `id` of `db'` is the one of `db`, aged. -/
def AgedAt (db db' : Db) (id : Uuid) : Prop :=
  ∀ new, db'.get 0 (.user id) = some new →
    ∃ old, db.get 0 (.user id) = some old ∧ UserAged old new

def Aged (db db' : Db) : Prop := ∀ id, AgedAt db db' id

/-! ## Sessions and the version of their account -/

def AtMost (db : Db) (userId : Uuid) (version : Nat) : Prop :=
  ∀ stored, db.get 0 (.user userId) = some stored → version ≤ stored.sessionVersion

/-- The account has moved on, or does not have the passkey that the session is bound to. -/
def Void (db : Db) (session : Session) : Prop :=
  ∀ stored, db.get 0 (.user session.userId) = some stored →
    session.sessionVersion < stored.sessionVersion ∨
      ∃ id, session.currentCredentialId = some id ∧ id ∉ stored.passkeyIds

theorem AgedAt.atMost {db db' : Db} {version : Nat} (aged : AgedAt db db' userId)
    (h : AtMost db userId version) : AtMost db' userId version := by
  intro new hnew
  obtain ⟨old, hold, huser⟩ := aged new hnew
  exact Nat.le_trans (h old hold) huser.version

/-- An account that gets a passkey back gets another version, too. -/
theorem AgedAt.void {db db' : Db} (aged : AgedAt db db' session.userId)
    (hle : AtMost db session.userId session.sessionVersion) (h : Void db session) :
    Void db' session := by
  intro new hnew
  obtain ⟨old, hold, huser⟩ := aged new hnew
  have hversion := hle old hold
  have haged := huser.version
  by_cases hsame : old.sessionVersion = new.sessionVersion
  · rcases h old hold with hlt | ⟨id, hbound, hnot⟩
    · exact Or.inl (hsame ▸ hlt)
    · exact Or.inr ⟨id, hbound, fun hmem => hnot (huser.passkeys hsame id hmem)⟩
  · exact Or.inl (by omega)

/-- What is accepted is not void. -/
theorem not_void_of_valid {db : Db} {now current idleSeconds : Nat}
    (hread : db.user now session.userId = .ok (some user))
    (hvalid : sessionVerdict session user.sessionVersion (user.passkeys.map (·.id)) idleSeconds
      current = .valid) : ¬Void db session := by
  intro hvoid
  obtain ⟨stored, hget, hnormal⟩ := user_eq_some.mp hread
  obtain ⟨_, hversion, hpasskeys⟩ := normalizeAndValidate_keeps hnormal
  obtain ⟨_, hsame, hlinked⟩ := sessionVerdict_eq_valid.mp hvalid
  rcases hvoid stored (Keyspace.get_mono (Nat.zero_le _) hget) with hlt | ⟨id, hbound, hnot⟩
  · rw [hsame, hversion] at hlt
    exact Nat.lt_irrefl _ hlt
  · apply hnot
    unfold User.passkeyIds
    rw [← hpasskeys]
    exact hlinked id hbound

/-! ## The operations -/

/-- The account that gets a passkey, other than by a recovery. -/
def AccountRequest.enrols : AccountRequest → Option Uuid
  | .createUserWithPasskey userId _ _ _ _ _ => some userId
  | .addPasskey userId _ _ => some userId
  | _ => none

theorem enrols_of_registers (h : request.registers = some userId) :
    request.enrols = some userId := by
  cases request with
  | createUserWithPasskey => exact h
  | _ => cases h

/-- Logins, step-ups and revocations, and what changes neither passkeys nor accounts. -/
def Listed (request : AccountRequest) : Prop := request.enrols = none

/-- The version can still move where it has to. -/
def Headroom (db : Db) (now : Nat) : AccountRequest → Prop
  | .revokeAllSessions userId => ∀ stored ∈ db.get now (.user userId), stored.sessionVersion < u64Max
  | .addRecoveryPasskey userId _ _ =>
      ∀ stored ∈ db.get now (.user userId), stored.sessionVersion < u64Max
  | _ => True

instance : DecidablePred Listed := fun request =>
  inferInstanceAs (Decidable (request.enrols = none))

instance (db : Db) (now : Nat) : DecidablePred (Headroom db now) := fun request => by
  cases request <;> unfold Headroom <;> infer_instance

theorem lt_satAdd_one {n : Nat} (h : n < u64Max) : n < satAdd n 1 := by
  unfold satAdd
  rw [Nat.min_eq_left h]
  exact Nat.lt_succ_self n

theorem moved_of_read {read : User} (hversion : read.sessionVersion = stored.sessionVersion)
    (hroom : stored.sessionVersion < u64Max) :
    stored.sessionVersion < satAdd read.sessionVersion 1 := by
  rw [hversion]
  exact lt_satAdd_one hroom

/-- An operation that leaves the version and adds no passkey to what it read. -/
theorem aged_of_read (hread : stored.normalizeAndValidate = .ok user) (hid : new.id = user.id)
    (hversion : new.sessionVersion = user.sessionVersion)
    (hpasskeys : ∀ id ∈ new.passkeyIds, id ∈ user.passkeyIds) : UserAged stored new := by
  obtain ⟨hid', hversion', hpasskeys'⟩ := normalizeAndValidate_keeps hread
  refine .of_subset (hid.trans hid') (hversion.trans hversion') ?_
  unfold User.passkeyIds at hpasskeys ⊢
  rw [← hpasskeys']
  exact hpasskeys

theorem withIdentifiers_keeps (user : User) (identifiers : List AccountIdentifier) :
    (user.withIdentifiers identifiers).id = user.id ∧
      (user.withIdentifiers identifiers).sessionVersion = user.sessionVersion ∧
      (user.withIdentifiers identifiers).passkeyIds = user.passkeyIds := by
  unfold User.withIdentifiers User.syncLegacyEmail
  split <;> exact ⟨rfl, rfl, rfl⟩

theorem aged_withIdentifiers (hread : stored.normalizeAndValidate = .ok user)
    (identifiers : List AccountIdentifier) :
    UserAged stored (user.withIdentifiers identifiers) := by
  obtain ⟨hid, hversion, hpasskeys⟩ := withIdentifiers_keeps user identifiers
  exact aged_of_read hread hid hversion fun id hmem => hpasskeys ▸ hmem

/-- A confirmed passkey changes nothing that sessions depend on. -/
theorem applyAuthenticationResult_keeps {c : AccountCall}
    {updateCredential : String → AuthenticationResult → Option String}
    {result : AuthenticationResult}
    (h : applyAuthenticationResult c updateCredential user result = .ok new) :
    new.id = user.id ∧ new.sessionVersion = user.sessionVersion ∧
      new.passkeyIds = user.passkeyIds := by
  simp only [applyAuthenticationResult, bind_eq_ok, ensure_eq_ok, okOr_eq_ok, pure_eq_ok,
    exists_const] at h
  obtain ⟨stored, _, _, passkey, _, rfl⟩ := h
  refine ⟨rfl, rfl, ?_⟩
  unfold User.passkeyIds
  rw [modifyFirst_map]
  intro passkey
  rfl

/-- The commands store one account and touch no other. -/
def StoresUser (ws : List Write) (id : Uuid) (new : User) : Prop :=
  ∀ (db : Db) now t other, (commit now db ws).get t (.user other) =
    if other = id then some new else db.get t (.user other)

theorem storesUser_signIn {user : User} {digest : String} {session : Session}
    {absoluteSeconds : Nat} {events : List AuthEvent} :
    StoresUser (SessionOp.applyAuthenticationAndCreateSession userId user digest session
      absoluteSeconds events).commands userId user := by
  intro db now t other
  have hevents : ∀ w ∈ Command.setEx (.session digest) session absoluteSeconds ::
      Db.queueEvents events, w.key ≠ .user other := by
    intro w hw
    rcases List.mem_cons.mp hw with rfl | hw
    · exact Key.noConfusion
    · exact isUser_of_mem_queueEvents hw other
  show (commit now db (.set (.user userId) user ::
    .setEx (.session digest) session absoluteSeconds :: Db.queueEvents events)).get t
      (.user other) = _
  rw [commit_cons, get_commit_of_forall_ne _ _ _ _ _ fun w hw hkey => hevents w hw hkey.symm]
  split
  · next hother =>
    rw [hother]
    exact Command.get_set_self _ _ _ _ _
  · next hother => exact Command.get_run_of_ne _ _ _ _ fun hkey => hother (Key.user.inj hkey)

section

variable {ws : List Write} {id : Uuid} (h : StoresUser ws id new)

include h

theorem StoresUser.underIds {db : Db} (hnew : new.id = id) (hids : UnderIds db) (now : Nat) :
    UnderIds (commit now db ws) := by
  intro other stored hget
  rw [h] at hget
  split at hget
  · next hother =>
    cases hget
    exact hnew.trans hother.symm
  · exact hids other stored hget

theorem StoresUser.agedAt {db : Db} {other : Uuid} (now : Nat)
    (haged : other = id → ∃ stored, db.get 0 (.user id) = some stored ∧ UserAged stored new) :
    AgedAt db (commit now db ws) other := by
  intro found hfound
  rw [h] at hfound
  split at hfound
  · next hother =>
    cases hfound
    rw [hother]
    exact haged hother
  · exact ⟨found, hfound, .refl found⟩

end

theorem storesUser_operation {effect : IdentityEffect} (h : op.effect = some effect) :
    StoresUser op.commands effect.userId effect.user :=
  fun db now t id => AccountOp.get_user h db now t id

section

variable {ctx : AccountContext} {db : Db} {c : AccountCall} {id : Uuid} {stored user : User}

/-- What an operation makes of the account it read is the account, aged, unless it enrols it. -/
theorem AccountChange.aged (hchange : AccountChange ctx c userId user request new)
    (hget : db.get c.now (.user userId) = some stored)
    (hread : stored.normalizeAndValidate = .ok user) (hroom : Headroom db c.now request)
    (henrols : request.enrols ≠ some userId) : UserAged stored new := by
  obtain ⟨hid, hversion, _⟩ := normalizeAndValidate_keeps hread
  cases hchange with
  | addIdentifier identifiers => exact aged_withIdentifiers hread _
  | removeIdentifier identifiers => exact aged_withIdentifiers hread _
  | setPrimaryIdentifier identifiers => exact aged_withIdentifiers hread _
  | setIdentifierVerification identifiers => exact aged_withIdentifiers hread _
  | updateProfile => exact aged_of_read hread rfl rfl fun _ hmem => hmem
  | addPasskey => exact absurd rfl henrols
  | renamePasskey =>
    refine aged_of_read hread rfl rfl ?_
    intro id hmem
    dsimp only [User.passkeyIds] at hmem
    rw [modifyFirst_map] at hmem
    · exact hmem
    · intro passkey
      rfl
  | revokePasskey =>
    exact aged_of_read hread rfl rfl fun id hmem => (List.filter_sublist.map _).subset hmem
  | applyAuthentication hresult =>
    obtain ⟨hid, hversion, hpasskeys⟩ := applyAuthenticationResult_keeps hresult
    exact aged_of_read hread hid hversion fun _ hmem => hpasskeys ▸ hmem
  | rotateRecoveryCodes => exact aged_of_read hread rfl rfl fun _ hmem => hmem
  | consumeRecoveryCode => exact aged_of_read hread rfl rfl fun _ hmem => hmem
  | addRecoveryPasskey =>
    exact .of_lt hid (moved_of_read hversion (hroom stored hget))
  | revokeAllSessions =>
    exact .of_lt hid (moved_of_read hversion (hroom stored hget))

variable (hids : UnderIds db)

include hids

theorem underIds_account (hrun : request.run ctx db c = .ok (user, op)) :
    UnderIds (commit c.now db op.commands) := by
  obtain ⟨effect, heffect, hid, _⟩ := effect_of_run hids hrun
  exact (storesUser_operation heffect).underIds hid hids _

theorem agedAt_account (hroom : Headroom db c.now request)
    (hrun : request.run ctx db c = .ok (user, op)) (henrols : request.enrols ≠ some id) :
    AgedAt db (commit c.now db op.commands) id := by
  obtain ⟨effect, heffect, _, hchange⟩ := effect_of_run hids hrun
  refine (storesUser_operation heffect).agedAt _ ?_
  rintro rfl
  rcases hchange with hregisters | ⟨stored, read, hget, hread, hchange⟩
  · exact absurd (enrols_of_registers hregisters) henrols
  · exact ⟨stored, Keyspace.get_mono (Nat.zero_le _) hget,
      hchange.aged hget hread hroom henrols⟩

/-- After a revocation of all sessions, or a recovery, the version has moved. -/
theorem moved_account (hroom : Headroom db c.now request)
    (hrun : request.run ctx db c = .ok (user, op))
    (hrequest : .revokedAll userId ∈ request.revocations db c.now)
    (hnew : (commit c.now db op.commands).get 0 (.user userId) = some new) :
    ∃ old, db.get 0 (.user userId) = some old ∧ old.sessionVersion < new.sessionVersion := by
  obtain ⟨effect, heffect, _, hchange⟩ := effect_of_run hids hrun
  rw [AccountOp.get_user heffect] at hnew
  rcases hchange with hregisters | ⟨stored, read, hget, hread, hchange⟩
  · cases request with
    | createUserWithPasskey => cases hrequest
    | _ => cases hregisters
  · have hold := Keyspace.get_mono (Nat.zero_le _) hget
    have hversion := (normalizeAndValidate_keeps hread).2.1
    generalize effect.user = changed at hchange hnew
    cases hchange with
    | addRecoveryPasskey =>
      cases List.mem_singleton.mp hrequest
      rw [if_pos rfl] at hnew
      cases hnew
      exact ⟨stored, hold, moved_of_read hversion (hroom stored hget)⟩
    | revokeAllSessions =>
      cases List.mem_singleton.mp hrequest
      rw [if_pos rfl] at hnew
      cases hnew
      exact ⟨stored, hold, moved_of_read hversion (hroom stored hget)⟩
    | revokePasskey => cases List.mem_singleton.mp hrequest
    | _ => cases hrequest

omit hids in
/-- After a passkey is revoked its account does not have it. -/
theorem not_mem_of_revokePasskey {credentialId : String}
    (hrun : AccountRequest.run ctx db c (.revokePasskey userId credentialId) = .ok (user, op))
    (hnew : (commit c.now db op.commands).get 0 (.user userId) = some new) :
    credentialId ∉ new.passkeyIds := by
  simp only [AccountRequest.run, revokePasskey, bind_eq_ok, ensure_eq_ok, pure_eq_ok, exists_const,
    Prod.mk.injEq] at hrun
  obtain ⟨read, _, _, _, events, _, rfl, rfl⟩ := hrun
  rw [AccountOp.get_user rfl, if_pos rfl] at hnew
  cases hnew
  intro hmem
  obtain ⟨passkey, hpasskey, hid⟩ := List.mem_map.mp hmem
  have hother := (List.mem_filter.mp hpasskey).2
  simp only [decide_eq_true_eq] at hother
  exact hother hid

omit hids in
/-- A login confirms a passkey of the account. -/
theorem ages_of_login {updateCredential : String → AuthenticationResult → Option String}
    {result : AuthenticationResult} (hread : requireUser db c id = .ok user)
    (hresult : applyAuthenticationResult c updateCredential user result = .ok new) :
    ∃ stored, db.get 0 (.user id) = some stored ∧ UserAged stored new := by
  obtain ⟨stored, hget, hread⟩ := requireUser_eq_ok.mp hread
  obtain ⟨hid, hversion, hpasskeys⟩ := applyAuthenticationResult_keeps hresult
  refine ⟨stored, Keyspace.get_mono (Nat.zero_le _) hget, aged_of_read hread hid hversion ?_⟩
  exact fun _ hmem => hpasskeys ▸ hmem

end

/-! ## A revoked passkey and the other sessions -/

/-- Whether a session that is in time is accepted for its account as it is. -/
def Db.accepts (db : Db) (now idleSeconds current : Nat) (session : Session) : Bool :=
  match db.user now session.userId with
  | .ok (some user) =>
      sessionVerdict session user.sessionVersion (user.passkeys.map (·.id)) idleSeconds current =
        .valid
  | _ => false

theorem validUser_of_read (h : stored.normalizeAndValidate = .ok user) :
    ValidUser user := by
  obtain ⟨hvalid, rfl⟩ := normalizeAndValidate_eq_ok.mp h
  unfold User.syncLegacyEmail
  split
  · exact ⟨hvalid.identifiers, hvalid.profile, hvalid.codes⟩
  · exact ⟨hvalid.identifiers, hvalid.profile, hvalid.codes⟩

/-- The verdict depends on the passkeys only through the one the session is bound to. -/
theorem sessionVerdict_congr {ids ids' : List String}
    (h : ∀ id, session.currentCredentialId = some id → (id ∈ ids ↔ id ∈ ids'))
    (version idleSeconds current : Nat) :
    sessionVerdict session version ids idleSeconds current =
      sessionVerdict session version ids' idleSeconds current := by
  have hany : session.currentCredentialId.any (fun id => decide (id ∉ ids)) =
      session.currentCredentialId.any (fun id => decide (id ∉ ids')) := by
    cases hbound : session.currentCredentialId with
    | none => rfl
    | some id => simp only [Option.any_some, h id hbound]
  unfold sessionVerdict
  rw [hany]

theorem accepts_of_read {db : Db} {now : Nat} {read : User}
    (hget : db.get now (.user session.userId) = some stored)
    (hread : stored.normalizeAndValidate = .ok read) (idleSeconds current : Nat) :
    db.accepts now idleSeconds current session =
      decide (sessionVerdict session read.sessionVersion read.passkeyIds idleSeconds current =
        .valid) := by
  unfold Db.accepts
  rw [user_eq_some.mpr ⟨stored, hget, hread⟩]
  rfl

/-- Revoking a passkey leaves what is decided about sessions that are not bound to it. -/
theorem accepts_revokePasskey {ctx : AccountContext} {db : Db} {c : AccountCall}
    {credentialId : String}
    (hrun : AccountRequest.run ctx db c (.revokePasskey userId credentialId) = .ok (user, op))
    (hother : ¬(session.userId = userId ∧ session.currentCredentialId = some credentialId))
    (idleSeconds current : Nat) :
    Db.accepts (commit c.now db op.commands) c.now idleSeconds current session =
      db.accepts c.now idleSeconds current session := by
  simp only [AccountRequest.run, revokePasskey, bind_eq_ok, ensure_eq_ok, pure_eq_ok, exists_const,
    Prod.mk.injEq, requireUser_eq_ok] at hrun
  obtain ⟨read, ⟨stored, hget, hread⟩, _, _, events, _, rfl, rfl⟩ := hrun
  by_cases hid : session.userId = userId
  · subst hid
    have hvalid := validUser_of_read hread
    let left : User := { read with passkeys := read.passkeys.filter (·.id ≠ credentialId) }
    have hhydrated : left.hydrated = left := hydrated_of_identifiers hvalid.identifiers.nonempty
    have hleft : left.normalizeAndValidate = .ok left.syncLegacyEmail := by
      rw [normalizeAndValidate_eq_ok, hhydrated]
      exact ⟨⟨hvalid.identifiers, hvalid.profile, hvalid.codes⟩, rfl⟩
    obtain ⟨_, hversion, hpasskeys⟩ := normalizeAndValidate_keeps hleft
    have hstored : (commit c.now db (AccountOp.revokePasskey session.userId left credentialId
        events).commands).get c.now (.user session.userId) = some left := by
      rw [AccountOp.get_user rfl, if_pos rfl]
    rw [accepts_of_read hstored hleft, accepts_of_read hget hread, hversion,
      sessionVerdict_congr]
    intro id hbound
    have hne : id ≠ credentialId := by
      rintro rfl
      exact hother ⟨rfl, hbound⟩
    unfold User.passkeyIds
    rw [hpasskeys]
    simp only [left, List.mem_map, List.mem_filter, decide_eq_true_eq]
    grind
  · unfold Db.accepts Db.user
    rw [AccountOp.get_user rfl, if_neg hid]

theorem underIds_holderRealm : UnderIds holderRealm := by
  intro id stored hstored
  by_cases hid : id = 1
  · subst hid
    cases hstored
    rfl
  · unfold holderRealm at hstored
    rw [get_commit_of_forall_ne, Keyspace.get_empty] at hstored
    · cases hstored
    · intro w hw hkey
      rw [List.mem_singleton.mp hw] at hkey
      exact hid (Key.user.inj hkey)

end RustyAuth
