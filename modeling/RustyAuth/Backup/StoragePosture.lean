/-
  The storage posture of backup objects.

  A backup is verified under a key of its tenant's prefix, of format 3 or of the older format 2,
  and objects of format 2 are exempt from the configured posture.  The exemption looks for
  `/v2/` anywhere in the key, so it also covers format 3 keys that contain it further on:
  the posture is enforced exactly for the others (`posture_enforced_iff`).
-/
import RustyAuth.Store.Records
import RustyAuth.Library.Texts
import RustyAuth.Library.Outcome

namespace RustyAuth

open RustyAuth.Library

/-! ## Configuration and observation -/

inductive BackupStorageProfile
  | immutable
  | portable
deriving DecidableEq

inductive BackupServerSideEncryption
  | provider
  | aes256
  | awsKms
deriving DecidableEq

def BackupServerSideEncryption.asStr : BackupServerSideEncryption → String
  | .provider => "provider"
  | .aes256 => "AES256"
  | .awsKms => "aws:kms"

def retentionClockSkewSeconds : Nat := 300

/-- What `BackupStore` is configured with. -/
structure PosturePolicy where
  storageProfile : BackupStorageProfile
  serverSideEncryption : BackupServerSideEncryption
  sseKmsKeyId : Option String
  retentionDays : Nat

/-- What the provider reports of an object it returns; dates in seconds. -/
structure GetObjectOutput where
  versionId : Option String
  serverSideEncryption : Option String
  ssekmsKeyId : Option String
  objectLockMode : Option String
  objectLockRetainUntilDate : Option Int64

structure ObjectPosture where
  versionId : Option String
  serverSideEncryption : Option String
  sseKmsKeyId : Option String
  objectLockMode : Option String
  retainedUntil : Option Nat

/-- The posture `download_object` observes; `u64::try_from` drops a date before the epoch. -/
def GetObjectOutput.posture (output : GetObjectOutput) : ObjectPosture where
  versionId := output.versionId
  serverSideEncryption := output.serverSideEncryption
  sseKmsKeyId := output.ssekmsKeyId
  objectLockMode := output.objectLockMode
  retainedUntil := output.objectLockRetainUntilDate.bind fun date =>
    if 0 ≤ date.toInt then some date.toInt.toNat else none

/-! ## The checks -/

def v3Prefix (tenantId : String) : String := "rustyauth-backups/v3/" ++ tenantId ++ "/"

def v2Prefix (tenantId : String) : String := "rustyauth-backups/v2/" ++ tenantId ++ "/"

def validateBackupObjectKey (objectKey tenantId : String) : Except String Unit :=
  ensure (¬(¬(startsWith objectKey (v3Prefix tenantId) = true ∨
        startsWith objectKey (v2Prefix tenantId) = true) ∨
      includes objectKey ".." = true ∨ objectKey.toList.any isControl = true ∨
      ¬endsWith objectKey ".rauth" = true))
    "backup object key is outside the configured tenant prefix"

/-- The first second at which an object may lapse, computed as the code does. -/
def expectedUntil (capturedAt retentionDays : Nat) : Nat :=
  satAdd capturedAt (min (retentionDays * 86400) u64Max) - retentionClockSkewSeconds

/-- What the immutable profile asks for. -/
def checkImmutable (retentionDays : Nat) (posture : ObjectPosture) (capturedAt : Nat) :
    Except String Unit := do
  ensure (posture.versionId.any (decide <| · ≠ ""))
    "backup object has no version id; bucket versioning is required"
  ensure (posture.objectLockMode = some "COMPLIANCE")
    "backup object is not protected by Object Lock compliance mode"
  ensure (posture.retainedUntil.any (decide <| expectedUntil capturedAt retentionDays ≤ ·))
    ("backup object retention is shorter than configured " ++ toString retentionDays ++ " days")

def checkProfile (policy : PosturePolicy) (posture : ObjectPosture) (capturedAt : Nat) :
    Except String Unit :=
  match policy.storageProfile with
  | .immutable => checkImmutable policy.retentionDays posture capturedAt
  | .portable => .ok ()

def checkKmsKey (posture : ObjectPosture) : Option String → Except String Unit
  | some expectedKey =>
      ensure (posture.sseKmsKeyId = some expectedKey)
        "backup object did not use the configured SSE-KMS key"
  | none => .ok ()

def validateStoragePosture (policy : PosturePolicy) (objectKey : String)
    (posture : ObjectPosture) (capturedAt : Nat) : Except String Unit :=
  if includes objectKey "/v2/" then .ok ()
  else do
    checkProfile policy posture capturedAt
    ensure (policy.serverSideEncryption = .provider ∨
        posture.serverSideEncryption = some policy.serverSideEncryption.asStr)
      ("backup object did not use required server-side encryption " ++
        policy.serverSideEncryption.asStr)
    checkKmsKey posture policy.sseKmsKeyId

/-- The part of `verify` and of every download that concerns the key and the posture. -/
def verifyPosture (policy : PosturePolicy) (tenantId objectKey : String)
    (output : GetObjectOutput) (capturedAt : Nat) : Except String Unit := do
  validateBackupObjectKey objectKey tenantId
  validateStoragePosture policy objectKey output.posture capturedAt

/-! ## What the configuration requires -/

structure MeetsPolicy (policy : PosturePolicy) (posture : ObjectPosture) (capturedAt : Nat) :
    Prop where
  versioned : policy.storageProfile = .immutable → ∃ id, posture.versionId = some id ∧ id ≠ ""
  locked : policy.storageProfile = .immutable → posture.objectLockMode = some "COMPLIANCE"
  retained : policy.storageProfile = .immutable →
    ∃ retained, posture.retainedUntil = some retained ∧
      capturedAt + policy.retentionDays * 86400 ≤ retained + retentionClockSkewSeconds
  encrypted : policy.serverSideEncryption ≠ .provider →
    posture.serverSideEncryption = some policy.serverSideEncryption.asStr
  key : ∀ expectedKey, policy.sseKmsKeyId = some expectedKey →
    posture.sseKmsKeyId = some expectedKey

/-- A configuration that every posture meets. -/
def PosturePolicy.requiresNothing (policy : PosturePolicy) : Prop :=
  policy.storageProfile = .portable ∧ policy.serverSideEncryption = .provider ∧
    policy.sseKmsKeyId = none

section

variable {policy : PosturePolicy} {tenantId objectKey : String} {output : GetObjectOutput}
  {capturedAt : Nat}

/-- No observed date reaches the end of `u64`, so saturation never lets one pass. -/
theorem retained_of_expectedUntil {date : Int64} {retentionDays : Nat}
    (h : expectedUntil capturedAt retentionDays ≤ date.toInt.toNat) :
    capturedAt + retentionDays * 86400 ≤ date.toInt.toNat + retentionClockSkewSeconds := by
  have hdate := date.toInt_lt
  unfold expectedUntil satAdd retentionClockSkewSeconds u64Max at h
  unfold retentionClockSkewSeconds
  omega

theorem checkImmutable_eq_ok {posture : ObjectPosture} {retentionDays : Nat}
    (h : checkImmutable retentionDays posture capturedAt = .ok ()) :
    (∃ id, posture.versionId = some id ∧ id ≠ "") ∧
      posture.objectLockMode = some "COMPLIANCE" ∧
      ∃ retained, posture.retainedUntil = some retained ∧
        expectedUntil capturedAt retentionDays ≤ retained := by
  simp only [checkImmutable, bind_unit_eq_ok, ensure_eq_ok] at h
  obtain ⟨hversion, hlock, hretained⟩ := h
  refine ⟨?_, hlock, ?_⟩
  · cases hid : posture.versionId with
    | none =>
      rw [hid] at hversion
      cases hversion
    | some id =>
      rw [hid, Option.any_some] at hversion
      exact ⟨id, rfl, of_decide_eq_true hversion⟩
  · cases huntil : posture.retainedUntil with
    | none =>
      rw [huntil] at hretained
      cases hretained
    | some retained =>
      rw [huntil, Option.any_some] at hretained
      exact ⟨retained, rfl, of_decide_eq_true hretained⟩

theorem retainedUntil_eq_some {retained : Nat} (h : output.posture.retainedUntil = some retained) :
    ∃ date : Int64, retained = date.toInt.toNat := by
  obtain ⟨date, _, hdate⟩ := Option.bind_eq_some_iff.mp h
  split at hdate
  · cases hdate
    exact ⟨date, rfl⟩
  · cases hdate

/-- A key that is not exempt is held to the policy. -/
theorem meetsPolicy_of_ok (hkey : includes objectKey "/v2/" = false)
    (h : validateStoragePosture policy objectKey output.posture capturedAt = .ok ()) :
    MeetsPolicy policy output.posture capturedAt := by
  unfold validateStoragePosture at h
  rw [hkey, if_neg Bool.false_ne_true, bind_unit_eq_ok, bind_unit_eq_ok, ensure_eq_ok] at h
  obtain ⟨himmutable, hencrypted, hkms⟩ := h
  have hchecked : policy.storageProfile = .immutable →
      checkImmutable policy.retentionDays output.posture capturedAt = .ok () := by
    intro hprofile
    unfold checkProfile at himmutable
    rw [hprofile] at himmutable
    exact himmutable
  constructor
  · intro hprofile
    exact (checkImmutable_eq_ok (hchecked hprofile)).1
  · intro hprofile
    exact (checkImmutable_eq_ok (hchecked hprofile)).2.1
  · intro hprofile
    obtain ⟨retained, hretained, hexpected⟩ := (checkImmutable_eq_ok (hchecked hprofile)).2.2
    obtain ⟨date, rfl⟩ := retainedUntil_eq_some hretained
    exact ⟨_, hretained, retained_of_expectedUntil hexpected⟩
  · intro hprovider
    exact hencrypted.resolve_left hprovider
  · intro expectedKey hexpected
    rw [hexpected] at hkms
    exact (ensure_eq_ok _ _ _).mp hkms

/-- An object of which the provider reports nothing. -/
def bareOutput : GetObjectOutput := ⟨none, none, none, none, none⟩

theorem requiresNothing_of_bare (h : MeetsPolicy policy bareOutput.posture capturedAt) :
    policy.requiresNothing := by
  refine ⟨?_, ?_, ?_⟩
  · cases hprofile : policy.storageProfile with
    | portable => rfl
    | immutable => cases h.locked hprofile
  · by_contra hprovider
    cases h.encrypted hprovider
  · cases hkms : policy.sseKmsKeyId with
    | none => rfl
    | some expectedKey => cases h.key expectedKey hkms

theorem PosturePolicy.requiresNothing.meets (h : policy.requiresNothing)
    (posture : ObjectPosture) : MeetsPolicy policy posture capturedAt := by
  obtain ⟨hprofile, hprovider, hkms⟩ := h
  have hportable : policy.storageProfile ≠ .immutable := by
    rw [hprofile]
    decide
  constructor
  · exact fun himmutable => absurd himmutable hportable
  · exact fun himmutable => absurd himmutable hportable
  · exact fun himmutable => absurd himmutable hportable
  · exact fun hencrypted => absurd hprovider hencrypted
  · intro expectedKey hexpected
    rw [hkms] at hexpected
    cases hexpected

theorem validateStoragePosture_exempt (hkey : includes objectKey "/v2/" = true)
    (posture : ObjectPosture) (capturedAt : Nat) :
    validateStoragePosture policy objectKey posture capturedAt = .ok () :=
  if_pos hkey

theorem verifyPosture_eq_ok :
    verifyPosture policy tenantId objectKey output capturedAt = .ok () ↔
      validateBackupObjectKey objectKey tenantId = .ok () ∧
        validateStoragePosture policy objectKey output.posture capturedAt = .ok () :=
  bind_unit_eq_ok _ _ _

theorem includes_of_v2Prefix (h : startsWith objectKey (v2Prefix tenantId) = true) :
    includes objectKey "/v2/" = true := by
  refine includes_of_startsWith h (includes_of_startsWith ((startsWith_iff _ _).mpr
    ⟨tenantId ++ "/", ?_⟩) (show includes "rustyauth-backups/v2/" "/v2/" = true by decide +kernel))
  unfold v2Prefix
  rw [String.append_assoc]

/-- Verification under an accepted format 3 key enforces the policy, whatever is observed,
    exactly if the key does not contain `/v2/` (or nothing is required).  Keys of format 2 are
    exempt. -/
theorem posture_enforced_iff (policy : PosturePolicy) (tenantId objectKey : String)
    (capturedAt : Nat) (haccepted : validateBackupObjectKey objectKey tenantId = .ok ()) :
    (startsWith objectKey (v3Prefix tenantId) = true →
      ((∀ output, verifyPosture policy tenantId objectKey output capturedAt = .ok () →
          MeetsPolicy policy output.posture capturedAt) ↔
        includes objectKey "/v2/" = false ∨ policy.requiresNothing)) ∧
    (startsWith objectKey (v2Prefix tenantId) = true →
      ∀ output, verifyPosture policy tenantId objectKey output capturedAt = .ok ()) := by
  constructor
  · intro _
    constructor
    · intro henforced
      by_cases hkey : includes objectKey "/v2/" = true
      · refine Or.inr (requiresNothing_of_bare (henforced bareOutput ?_))
        exact verifyPosture_eq_ok.mpr ⟨haccepted, validateStoragePosture_exempt hkey _ _⟩
      · exact Or.inl (Bool.eq_false_iff.mpr hkey)
    · intro hcondition output hok
      rcases hcondition with hkey | hnothing
      · exact meetsPolicy_of_ok hkey (verifyPosture_eq_ok.mp hok).2
      · exact hnothing.meets _
  · intro hv2 output
    exact verifyPosture_eq_ok.mpr
      ⟨haccepted, validateStoragePosture_exempt (includes_of_v2Prefix hv2) _ _⟩

end

/-! ### Sample keys -/

def samplePosturePolicy : PosturePolicy := ⟨.immutable, .aes256, none, 90⟩

theorem posture_enforced_sample :
    validateBackupObjectKey "rustyauth-backups/v3/acme/2026.rauth" "acme" = .ok () ∧
      ∀ output, verifyPosture samplePosturePolicy "acme" "rustyauth-backups/v3/acme/2026.rauth"
        output 1000000 = .ok () → MeetsPolicy samplePosturePolicy output.posture 1000000 := by
  have haccepted :
      validateBackupObjectKey "rustyauth-backups/v3/acme/2026.rauth" "acme" = .ok () := by
    decide +kernel
  exact ⟨haccepted, ((posture_enforced_iff samplePosturePolicy "acme" _ 1000000 haccepted).1
    (by decide +kernel)).mpr (Or.inl (by decide +kernel))⟩

/-- A format 3 key below a directory `v2`: an object that is neither versioned, locked, retained
    nor encrypted passes. -/
theorem v3_key_escapes_posture :
    startsWith "rustyauth-backups/v3/acme/v2/2026.rauth" (v3Prefix "acme") = true ∧
      verifyPosture samplePosturePolicy "acme" "rustyauth-backups/v3/acme/v2/2026.rauth" bareOutput
        1000000 = .ok () ∧ ¬MeetsPolicy samplePosturePolicy bareOutput.posture 1000000 := by
  refine ⟨by decide +kernel, by decide +kernel, fun hmeets => ?_⟩
  cases hmeets.locked rfl

end RustyAuth
