/-
  The names of accounts, and the lookup keys from names to accounts.

  A name is an identifier or a credential id; an email has a second lookup key, which older
  accounts lack.  The commands of an operation change one account and the keys of the names it
  gives and takes (`IdentityEffect`).
-/
import RustyAuth.Account.Operations
import RustyAuth.Library.Ownership

namespace RustyAuth

open RustyAuth.Library

inductive AccountName
  | identifier (kind : IdentifierKind) (value : String)
  | credential (id : String)
deriving DecidableEq

def Key.isIdentity : Key → Bool
  | .user _ => true
  | .email _ => true
  | .identifier _ _ => true
  | .credential _ => true
  | _ => false

/-! ## What the commands of an operation leave -/

/-- The account an operation stores, and the names whose lookup keys it sets and removes. -/
structure IdentityEffect where
  userId : Uuid
  user : User
  given : List AccountName
  taken : List AccountName

def AccountName.setKeys (userId : Uuid) : AccountName → List Write
  | .identifier kind value =>
      .set (.identifier kind value) userId :: emailIndex kind (.set (.email value) userId)
  | .credential id => [.set (.credential id) userId]

def AccountName.delKeys : AccountName → List Write
  | .identifier kind value => .del (.identifier kind value) :: emailIndex kind (.del (.email value))
  | .credential id => [.del (.credential id)]

def IdentityEffect.commands (effect : IdentityEffect) : List Write :=
  [.set (.user effect.userId) effect.user] ++ effect.given.flatMap (·.setKeys effect.userId) ++
    effect.taken.flatMap AccountName.delKeys

/-- An operation on a stored account, by what it does to the identity keys. -/
def AccountOp.effect : AccountOp → Option IdentityEffect
  | .createUserWithPasskey userId user kind identifier credentialId _ _ =>
      some ⟨userId, user, [.identifier kind identifier, .credential credentialId], []⟩
  | .addIdentifier userId user kind identifier _ =>
      some ⟨userId, user, [.identifier kind identifier], []⟩
  | .removeIdentifier userId user kind identifier _ =>
      some ⟨userId, user, [], [.identifier kind identifier]⟩
  | .setPrimaryIdentifier userId user _ => some ⟨userId, user, [], []⟩
  | .setIdentifierVerification userId user _ => some ⟨userId, user, [], []⟩
  | .updateProfile userId user _ => some ⟨userId, user, [], []⟩
  | .applyAuthentication userId user => some ⟨userId, user, [], []⟩
  | .addPasskey userId user credentialId _ => some ⟨userId, user, [.credential credentialId], []⟩
  | .renamePasskey userId user _ => some ⟨userId, user, [], []⟩
  | .revokePasskey userId user credentialId _ =>
      some ⟨userId, user, [], [.credential credentialId]⟩
  | .rotateRecoveryCodes userId user _ => some ⟨userId, user, [], []⟩
  | .consumeRecoveryCode userId user _ => some ⟨userId, user, [], []⟩
  | .addRecoveryPasskey userId user credentialId _ =>
      some ⟨userId, user, [.credential credentialId], []⟩
  | .revokeAllSessions userId user _ => some ⟨userId, user, [], []⟩
  | _ => none

theorem isIdentity_of_mem_queueEvents {events : List AuthEvent} {w : Write}
    (h : w ∈ Db.queueEvents events) : w.key.isIdentity = false := by
  rcases Db.mem_queueEvents h with ⟨e, _, rfl⟩ | ⟨n, rfl⟩ <;> rfl

theorem mem_emailIndex {kind : IdentifierKind} {write w : Write} :
    w ∈ emailIndex kind write ↔ kind = .email ∧ w = write := by
  unfold emailIndex
  split
  · next h => simp [h]
  · next h => simp [h]

theorem AccountOp.mem_commands {op : AccountOp} {effect : IdentityEffect}
    (heffect : op.effect = some effect) {w : Write} (hw : w.key.isIdentity = true) :
    w ∈ op.commands ↔ w ∈ effect.commands := by
  have hevents : ∀ events, w ∉ Db.queueEvents events := by
    intro events hmem
    rw [isIdentity_of_mem_queueEvents hmem] at hw
    cases hw
  cases op with
  | createUserWithPasskey userId user kind identifier credentialId invitation events =>
    cases heffect
    have hclose : ∀ id record digest, w ∉ closeInvitation id record digest := by
      intro id record digest hmem
      simp only [closeInvitation, List.mem_cons, List.not_mem_nil, or_false] at hmem
      rcases hmem with rfl | rfl <;> cases hw
    simp only [AccountOp.commands, IdentityEffect.commands, AccountName.setKeys, List.mem_append,
      List.mem_flatMap, List.flatMap_cons, List.flatMap_nil, List.mem_cons, List.not_mem_nil,
      hevents, hclose, and_false, exists_false, or_false]
    tauto
  | _ =>
    cases heffect <;>
    simp only [AccountOp.commands, persistUserWithEvent, storePasskey, IdentityEffect.commands,
      AccountName.setKeys, AccountName.delKeys, List.mem_append, List.flatMap_cons,
      List.flatMap_nil, List.mem_cons, List.not_mem_nil, hevents, or_false] <;>
    tauto

section

variable {op : AccountOp} {effect : IdentityEffect} (heffect : op.effect = some effect) (db : Db)
  (now t : Nat)

include heffect

theorem AccountOp.get_user (id : Uuid) :
    (commit now db op.commands).get t (.user id) =
      if id = effect.userId then some effect.user else db.get t (.user id) := by
  have honly : ∀ w ∈ op.commands, w.key = .user id →
      id = effect.userId ∧ w = .set (.user effect.userId) effect.user := by
    intro w hw hkey
    rw [AccountOp.mem_commands heffect (by rw [hkey]; rfl)] at hw
    simp only [IdentityEffect.commands, List.mem_append, List.mem_singleton,
      List.mem_flatMap] at hw
    rcases hw with (rfl | ⟨name, _, hname⟩) | ⟨name, _, hname⟩
    · exact ⟨(Key.user.inj hkey).symm, rfl⟩
    · cases name <;> simp only [AccountName.setKeys, List.mem_cons, mem_emailIndex,
        List.not_mem_nil, or_false] at hname <;> grind [Command.key]
    · cases name <;> simp only [AccountName.delKeys, List.mem_cons, mem_emailIndex,
        List.not_mem_nil, or_false] at hname <;> grind [Command.key]
  split
  · next hid =>
    subst hid
    apply get_commit_set now t _ db (fun w hw hkey => (honly w hw hkey).2)
    refine Or.inl ((AccountOp.mem_commands heffect rfl).mpr ?_)
    simp [IdentityEffect.commands]
  · next hid =>
    exact get_commit_of_forall_ne now t _ _ _ fun w hw hkey => hid (honly w hw hkey.symm).1

end

end RustyAuth
