/-
  The account aggregate: hydration, validation, and the operations on it.

  Every operation reads the account through `normalizeAndValidate`, so it starts from an account
  that passes the checks (`ValidUser`), and writes one back in a single pipeline together with
  the lookup keys it changes.  Credentials, codes and identifiers of new records are drawn by the
  caller; `recoveryDigest` (SHA-256) and `updateCredential` (the WebAuthn library) are parameters.
-/
import RustyAuth.Account.Identifiers
import RustyAuth.Store.Writers

namespace RustyAuth

open RustyAuth.Library

/-! ## Validation -/

/-- The text under which an identifier counts as seen. -/
def AccountIdentifier.name (identifier : AccountIdentifier) : String :=
  identifier.kind.asStr ++ ":" ++ identifier.value

def checkIdentifier (seen : List String) (identifier : AccountIdentifier) :
    Except AccountError Unit := do
  ensure (identifier.value ≠ "" ∧ identifier.value.utf8ByteSize ≤ 320 ∧
      ¬identifier.value.toList.any forbiddenDisplayCharacter ∧ identifier.name ∉ seen)
    (.bail "stored user has an invalid or duplicate account identifier")
  ensure (identifier.verifiedAt.isSome → identifier.verified)
    (.bail "stored user has inconsistent identifier verification state")
  match identifier.kind with
  | .email => return ()
  | .phone =>
      let canonical ← (IdentifierValue.canonical .phone identifier.value).mapError fun _ =>
        .bail "stored user has an invalid phone identifier"
      ensure (canonical.value = identifier.value)
        (.bail "stored user has a non-canonical phone identifier")

def checkIdentifiers (seen : List String) : List AccountIdentifier → Except AccountError Unit
  | [] => return ()
  | identifier :: identifiers => do
      checkIdentifier seen identifier
      checkIdentifiers (identifier.name :: seen) identifiers

def validProfileValue (maximum : Nat) (value : String) : Bool :=
  value ≠ "" && trim value.toList = value.toList && value.length ≤ maximum &&
    !value.toList.any forbiddenDisplayCharacter

def validateAccountProfile (profile : AccountProfile) : Except AccountError Unit := do
  ensure (profile.givenName.all (validProfileValue 100)) (.bail "stored user has invalid profile data")
  ensure (profile.familyName.all (validProfileValue 100))
    (.bail "stored user has invalid profile data")
  ensure (profile.displayName.all (validProfileValue 200))
    (.bail "stored user has invalid profile data")

/-- `u8::is_ascii_hexdigit`. -/
def isHexDigit (c : Char) : Bool :=
  c.isDigit || ('a' ≤ c && c ≤ 'f') || ('A' ≤ c && c ≤ 'F')

def checkRecoveryCodes (seen : List String) : List RecoveryCodeRecord → Except AccountError Unit
  | [] => return ()
  | code :: codes => do
      ensure (code.digest.utf8ByteSize = 64 ∧ code.digest.toList.all isHexDigit ∧ code.digest ∉ seen)
        (.bail "stored user has invalid or duplicate recovery-code state")
      checkRecoveryCodes (code.digest :: seen) codes

namespace User

/-- The order of `min_by_key` on `(!primary, created_at)`. -/
def comesBefore (a b : AccountIdentifier) : Bool :=
  (a.primary && !b.primary) || (a.primary == b.primary && decide (a.createdAt < b.createdAt))

def primaryEmail (user : User) : Option AccountIdentifier :=
  (user.identifiers.filter (·.kind = .email)).foldl
    (fun best identifier =>
      match best with
      | none => some identifier
      | some best => if comesBefore identifier best then some identifier else some best) none

def syncLegacyEmail (user : User) : User :=
  match user.primaryEmail with
  | some identifier => { user with email := identifier.value, emailVerified := identifier.verified }
  | none => { user with email := "", emailVerified := false }

/-- An account of the time before identifiers has its email only. -/
def hydrated (user : User) : User :=
  if user.identifiers = [] ∧ user.email ≠ "" then
    { user with identifiers :=
      [{ kind := .email, value := user.email, verified := user.emailVerified, verifiedAt := none,
         primary := true, createdAt := user.createdAt }] }
  else user

def normalizeAndValidate (user : User) : Except AccountError User := do
  let user := user.hydrated
  ensure (user.identifiers ≠ []) (.bail "stored user has no account identifiers")
  ensure (user.identifiers.length ≤ maxIdentifiers)
    (.bail "stored user exceeds the account identifier limit")
  checkIdentifiers [] user.identifiers
  ensure (user.identifiers.countP (·.primary) = 1)
    (.bail "stored user must have exactly one primary account identifier")
  validateAccountProfile user.profile
  checkRecoveryCodes [] user.recoveryCodes
  return user.syncLegacyEmail

end User

/-! ### What a valid account is -/

structure ValidIdentifier (identifier : AccountIdentifier) : Prop where
  nonempty : identifier.value ≠ ""
  short : identifier.value.utf8ByteSize ≤ 320
  displayable : ¬identifier.value.toList.any forbiddenDisplayCharacter
  verification : identifier.verifiedAt.isSome → identifier.verified
  phone : identifier.kind = .phone →
    IdentifierValue.canonical .phone identifier.value = .ok ⟨.phone, identifier.value⟩

structure ValidIdentifiers (identifiers : List AccountIdentifier) : Prop where
  nonempty : identifiers ≠ []
  bounded : identifiers.length ≤ maxIdentifiers
  each : ∀ identifier ∈ identifiers, ValidIdentifier identifier
  distinct : (identifiers.map AccountIdentifier.name).Nodup
  primary : identifiers.countP (·.primary) = 1

structure ValidUser (user : User) : Prop where
  identifiers : ValidIdentifiers user.identifiers
  profile : validateAccountProfile user.profile = .ok ()
  codes : checkRecoveryCodes [] user.recoveryCodes = .ok ()

theorem canonical_phone_ok {value : String} {canonical : IdentifierValue}
    (h : IdentifierValue.canonical .phone value = .ok canonical) : canonical.kind = .phone := by
  obtain ⟨phone, _, rfl⟩ := (map_eq_ok _ _ _).mp h
  rfl

theorem checkIdentifier_eq_ok {seen : List String} {identifier : AccountIdentifier} :
    checkIdentifier seen identifier = .ok () ↔
      ValidIdentifier identifier ∧ identifier.name ∉ seen := by
  unfold checkIdentifier
  simp only [bind_eq_ok, ensure_eq_ok, exists_const]
  constructor
  · rintro ⟨⟨hnonempty, hshort, hdisplay, hseen⟩, hverified, hkind⟩
    refine ⟨⟨hnonempty, hshort, hdisplay, hverified, fun hphone => ?_⟩, hseen⟩
    rw [hphone] at hkind
    simp only [bind_eq_ok, mapError_eq_ok, ensure_eq_ok] at hkind
    obtain ⟨canonical, hcanonical, hvalue⟩ := hkind
    rw [hcanonical, ← hvalue, ← canonical_phone_ok hcanonical]
  · rintro ⟨hvalid, hseen⟩
    refine ⟨⟨hvalid.nonempty, hvalid.short, hvalid.displayable, hseen⟩, hvalid.verification, ?_⟩
    split
    · rfl
    · next hphone =>
      simp only [bind_eq_ok, mapError_eq_ok, ensure_eq_ok]
      exact ⟨_, hvalid.phone hphone, rfl⟩

theorem checkIdentifiers_eq_ok (identifiers : List AccountIdentifier) :
    ∀ seen, checkIdentifiers seen identifiers = .ok () ↔
      (∀ identifier ∈ identifiers, ValidIdentifier identifier ∧ identifier.name ∉ seen) ∧
        (identifiers.map AccountIdentifier.name).Nodup := by
  induction identifiers with
  | nil =>
    intro seen
    simp [checkIdentifiers]
  | cons identifier identifiers ih =>
    intro seen
    unfold checkIdentifiers
    rw [bind_unit_eq_ok, checkIdentifier_eq_ok, ih, List.map_cons, List.nodup_cons,
      List.forall_mem_cons]
    constructor
    · intro ⟨hhead, hrest, hnodup⟩
      refine ⟨⟨hhead, fun other hother => ⟨(hrest other hother).1, fun hseen =>
        (hrest other hother).2 (List.mem_cons_of_mem _ hseen)⟩⟩, ?_, hnodup⟩
      intro hmem
      obtain ⟨other, hother, hname⟩ := List.mem_map.mp hmem
      exact (hrest other hother).2 (hname ▸ List.mem_cons_self)
    · intro ⟨⟨hhead, hrest⟩, hfresh, hnodup⟩
      refine ⟨hhead, fun other hother => ⟨(hrest other hother).1, fun hseen => ?_⟩, hnodup⟩
      rcases List.mem_cons.mp hseen with hname | hseen
      · exact hfresh (List.mem_map.mpr ⟨other, hother, hname⟩)
      · exact (hrest other hother).2 hseen

/-- An account passes exactly if it is valid once hydrated; what is read is that account with
    its email mirrored. -/
theorem normalizeAndValidate_eq_ok {user result : User} :
    user.normalizeAndValidate = .ok result ↔
      ValidUser user.hydrated ∧ result = user.hydrated.syncLegacyEmail := by
  unfold User.normalizeAndValidate
  simp only [bind_unit_eq_ok, ensure_eq_ok, pure_eq_ok, checkIdentifiers_eq_ok]
  constructor
  · rintro ⟨hnonempty, hbounded, ⟨heach, hdistinct⟩, hprimary, hprofile, hcodes, heq⟩
    exact ⟨⟨⟨hnonempty, hbounded, fun i hi => (heach i hi).1, hdistinct, hprimary⟩, hprofile,
      hcodes⟩, heq.symm⟩
  · rintro ⟨⟨hids, hprofile, hcodes⟩, heq⟩
    exact ⟨hids.nonempty, hids.bounded, ⟨fun i hi => ⟨hids.each i hi, List.not_mem_nil⟩,
      hids.distinct⟩, hids.primary, hprofile, hcodes, heq.symm⟩

end RustyAuth
