/-
  The signing key set and its staged rotation.

  One key signs, the next one is published before it does (`staged`), and keys that have signed
  stay published for a while (`retired`).  `maintainKeyset` is the one transition; what it does to
  a set is `Maintained`, where no immediate activation is asked for.

  A private key is kept encrypted under a key of the ring; here it is only the id of that key, so
  it can be opened where the ring has the id.
-/
import RustyAuth.Store.Records
import RustyAuth.Library.Outcome

namespace RustyAuth

open RustyAuth.Library

structure PublicJwk where
  kid : String
  x : String
  y : String
deriving DecidableEq

structure StoredSigningKey where
  kid : String
  publicJwk : PublicJwk
  createdAt : Nat
  wrappingKeyId : String
deriving DecidableEq

structure StagedSigningKey where
  key : StoredSigningKey
  activateAt : Nat
deriving DecidableEq

structure RetiredPublicKey where
  kid : String
  publicJwk : PublicJwk
  publishUntil : Nat
deriving DecidableEq

structure StoredKeySet where
  version : Nat
  active : StoredSigningKey
  staged : Option StagedSigningKey
  retired : List RetiredPublicKey
deriving DecidableEq

structure KeyRing where
  active : String
  previous : List String

structure SigningRotationConfig where
  rotationSeconds : Nat
  prepublishSeconds : Nat
  overlapSeconds : Nat
  maintenanceSeconds : Nat

/-- What `generate` draws. -/
structure GeneratedKey where
  kid : String
  x : String
  y : String

inductive KeySetError
  | unsupportedVersion (version : Nat)
  | masterKeyUnavailable (wrappingKeyId kid : String)
  | invalidJwk (kid : String)
  | duplicateKid (kid : String)
  | stagedMissing
deriving DecidableEq

def keysetVersion : Nat := 1

/-! ## Keys -/

def generate (ring : KeyRing) (new : GeneratedKey) (createdAt : Nat) : StoredSigningKey where
  kid := new.kid
  publicJwk := ⟨new.kid, new.x, new.y⟩
  createdAt
  wrappingKeyId := ring.active

def openPrivateKey (ring : KeyRing) (record : StoredSigningKey) : Except KeySetError Unit :=
  ensure (record.wrappingKeyId = ring.active ∨ record.wrappingKeyId ∈ ring.previous)
    (.masterKeyUnavailable record.wrappingKeyId record.kid)

def rewrapIfNeeded (ring : KeyRing) (record : StoredSigningKey) :
    Except KeySetError StoredSigningKey :=
  if record.wrappingKeyId = ring.active then .ok record
  else do
    openPrivateKey ring record
    return { record with wrappingKeyId := ring.active }

/-- The coordinates are taken as valid. -/
def validatePublicJwk (kid : String) (jwk : PublicJwk) : Except KeySetError Unit :=
  ensure (jwk.kid = kid) (.invalidJwk kid)

def validateSigningKey (ring : KeyRing) (record : StoredSigningKey) : Except KeySetError Unit := do
  validatePublicJwk record.kid record.publicJwk
  openPrivateKey ring record

/-! ## Sets -/

/-- The signing key, the staged key and the retired ones. -/
def StoredKeySet.kids (keyset : StoredKeySet) : List String :=
  keyset.active.kid :: (keyset.staged.toList.map (·.key.kid) ++ keyset.retired.map (·.kid))

def validateRetired : List String → List RetiredPublicKey → Except KeySetError Unit
  | _, [] => .ok ()
  | kids, retired :: rest => do
      validatePublicJwk retired.kid retired.publicJwk
      ensure (retired.kid ∉ kids) (.duplicateKid retired.kid)
      validateRetired (retired.kid :: kids) rest

def validateKeyset (ring : KeyRing) (keyset : StoredKeySet) : Except KeySetError Unit := do
  ensure (keyset.version = keysetVersion) (.unsupportedVersion keyset.version)
  validateSigningKey ring keyset.active
  match keyset.staged with
  | none => validateRetired [keyset.active.kid] keyset.retired
  | some staged => do
      validateSigningKey ring staged.key
      ensure (staged.key.kid ≠ keyset.active.kid) (.duplicateKid staged.key.kid)
      validateRetired [staged.key.kid, keyset.active.kid] keyset.retired

def activateStaged (rotation : SigningRotationConfig) (current : Nat) (keyset : StoredKeySet) :
    Except KeySetError StoredKeySet := do
  let staged ← okOr keyset.staged .stagedMissing
  let previous := keyset.active
  return { keyset with
    active := staged.key
    staged := none
    retired := keyset.retired.filter (·.kid ≠ previous.kid) ++
      [⟨previous.kid, previous.publicJwk, satAdd current rotation.overlapSeconds⟩] }

def rewrapStaged (ring : KeyRing) : Option StagedSigningKey →
    Except KeySetError (Option StagedSigningKey)
  | none => return none
  | some staged => return some { staged with key := ← rewrapIfNeeded ring staged.key }

/-- A staged key takes over when its time has come. -/
def activateIfDue (rotation : SigningRotationConfig) (current : Nat) (keyset : StoredKeySet) :
    Except KeySetError StoredKeySet :=
  if ∃ staged ∈ keyset.staged, staged.activateAt ≤ current then activateStaged rotation current keyset
  else return keyset

/-- A key is staged when the signing key is old enough, or on request. -/
def stageIfDue (ring : KeyRing) (rotation : SigningRotationConfig) (current : Nat)
    (forceStage : Bool) (new : GeneratedKey) (keyset : StoredKeySet) : StoredKeySet :=
  if keyset.staged.isNone ∧
      (forceStage ∨ satAdd keyset.active.createdAt rotation.rotationSeconds ≤ current) then
    { keyset with
      staged := some ⟨generate ring new current, satAdd current rotation.prepublishSeconds⟩ }
  else keyset

def maintainKeyset (ring : KeyRing) (rotation : SigningRotationConfig) (current : Nat)
    (forceStage activateImmediately : Bool) (new : GeneratedKey) (keyset : StoredKeySet) :
    Except KeySetError StoredKeySet := do
  let retired := keyset.retired.filter (current < ·.publishUntil)
  let active ← rewrapIfNeeded ring keyset.active
  let staged ← rewrapStaged ring keyset.staged
  let keyset := { keyset with active, staged, retired }
  if activateImmediately then
    activateStaged rotation current
      { keyset with staged := some ⟨generate ring new current, current⟩ }
  else do
    let keyset ← activateIfDue rotation current keyset
    return stageIfDue ring rotation current forceStage new keyset

/-! ## What is served -/

structure RuntimeKeySet where
  activeKid : String
  jwks : List PublicJwk
deriving DecidableEq

def RuntimeKeySet.kids (runtime : RuntimeKeySet) : List String := runtime.jwks.map (·.kid)

def runtimeKeyset (ring : KeyRing) (keyset : StoredKeySet) (current : Nat) :
    Except KeySetError RuntimeKeySet := do
  validateKeyset ring keyset
  openPrivateKey ring keyset.active
  return {
    activeKid := keyset.active.kid
    jwks := keyset.active.publicJwk :: (keyset.staged.toList.map (·.key.publicJwk) ++
      (keyset.retired.filter (current < ·.publishUntil)).map (·.publicJwk)) }

/-! ## What validation and maintenance say -/

/-- The kids of a set differ, and are those of its JWKs. -/
structure ValidKeySet (keyset : StoredKeySet) : Prop where
  nodup : keyset.kids.Nodup
  active : keyset.active.publicJwk.kid = keyset.active.kid
  staged : ∀ staged, keyset.staged = some staged → staged.key.publicJwk.kid = staged.key.kid
  retired : ∀ retired ∈ keyset.retired, retired.publicJwk.kid = retired.kid

theorem validateRetired_ok {retired : List RetiredPublicKey} :
    ∀ {kids : List String}, validateRetired kids retired = .ok () →
      (∀ key ∈ retired, key.publicJwk.kid = key.kid) ∧ (retired.map (·.kid)).Nodup ∧
        ∀ key ∈ retired, key.kid ∉ kids := by
  induction retired with
  | nil =>
    intro kids _
    exact ⟨List.forall_mem_nil _, List.nodup_nil, List.forall_mem_nil _⟩
  | cons key rest ih =>
    intro kids h
    simp only [validateRetired, validatePublicJwk, bind_eq_ok, ensure_eq_ok, exists_const] at h
    obtain ⟨hjwk, hnew, hrest⟩ := h
    obtain ⟨hjwks, hnodup, hothers⟩ := ih hrest
    refine ⟨List.forall_mem_cons.mpr ⟨hjwk, hjwks⟩, ?_, ?_⟩
    · rw [List.map_cons, List.nodup_cons]
      refine ⟨fun hmem => ?_, hnodup⟩
      obtain ⟨other, hother, heq⟩ := List.mem_map.mp hmem
      exact hothers other hother (heq ▸ List.mem_cons_self)
    · refine List.forall_mem_cons.mpr ⟨hnew, fun other hother hmem => ?_⟩
      exact hothers other hother (List.mem_cons_of_mem _ hmem)

variable {ring : KeyRing} {keyset : StoredKeySet} {current : Nat}

theorem validKeySet_of_validateKeyset (h : validateKeyset ring keyset = .ok ()) :
    ValidKeySet keyset := by
  unfold validateKeyset validateSigningKey validatePublicJwk at h
  simp only [bind_unit_eq_ok, ensure_eq_ok] at h
  obtain ⟨_, ⟨hactive, _⟩, h⟩ := h
  split at h
  · next hstaged =>
    obtain ⟨hjwks, hnodup, hothers⟩ := validateRetired_ok h
    refine ⟨?_, hactive, ?_, hjwks⟩
    · unfold StoredKeySet.kids
      rw [hstaged, List.nodup_cons]
      refine ⟨fun hmem => ?_, hnodup⟩
      obtain ⟨key, hkey, heq⟩ := List.mem_map.mp hmem
      exact hothers key hkey (heq ▸ List.mem_singleton_self _)
    · intro staged hsome
      rw [hstaged] at hsome
      cases hsome
  · next staged hstaged =>
    simp only [bind_unit_eq_ok, ensure_eq_ok] at h
    obtain ⟨⟨hjwk, _⟩, hne, h⟩ := h
    obtain ⟨hjwks, hnodup, hothers⟩ := validateRetired_ok h
    refine ⟨?_, hactive, ?_, hjwks⟩
    · unfold StoredKeySet.kids
      rw [hstaged]
      simp only [Option.toList_some, List.map_cons, List.map_nil, List.singleton_append,
        List.nodup_cons, List.mem_cons, List.mem_map, not_or, not_exists, not_and]
      refine ⟨⟨hne.symm, fun key hkey heq => ?_⟩, fun key hkey heq => ?_, hnodup⟩
      · exact hothers key hkey (heq ▸ List.mem_cons_of_mem _ (List.mem_singleton_self _))
      · exact hothers key hkey (heq ▸ List.mem_cons_self)
    · intro other hsome
      rw [hstaged] at hsome
      cases hsome
      exact hjwk

/-- What `runtimeKeyset` serves: the signing key, the staged one and those not yet withdrawn. -/
theorem mem_kids_runtimeKeyset {runtime : RuntimeKeySet}
    (h : runtimeKeyset ring keyset current = .ok runtime) (kid : String) :
    kid ∈ runtime.kids ↔ kid = keyset.active.kid ∨
      (∃ staged, keyset.staged = some staged ∧ staged.key.kid = kid) ∨
      ∃ retired ∈ keyset.retired, retired.kid = kid ∧ current < retired.publishUntil := by
  simp only [runtimeKeyset, bind_unit_eq_ok, pure_eq_ok] at h
  obtain ⟨hvalidate, _, rfl⟩ := h
  have hvalid := validKeySet_of_validateKeyset hvalidate
  unfold RuntimeKeySet.kids
  rw [List.map_cons, List.mem_cons, List.map_append, List.mem_append, hvalid.active]
  refine or_congr Iff.rfl (or_congr ?_ ?_)
  · cases hstaged : keyset.staged with
    | none => simp
    | some staged => simp [hvalid.staged staged hstaged, eq_comm]
  · simp only [List.mem_map, List.mem_filter, decide_eq_true_eq]
    constructor
    · rintro ⟨_, ⟨key, ⟨hkey, hcurrent⟩, rfl⟩, heq⟩
      exact ⟨key, hkey, (hvalid.retired key hkey).symm.trans heq, hcurrent⟩
    · rintro ⟨key, hkey, heq, hcurrent⟩
      exact ⟨_, ⟨key, ⟨hkey, hcurrent⟩, rfl⟩, (hvalid.retired key hkey).trans heq⟩

theorem activeKid_runtimeKeyset {runtime : RuntimeKeySet}
    (h : runtimeKeyset ring keyset current = .ok runtime) :
    runtime.activeKid = keyset.active.kid := by
  simp only [runtimeKeyset, bind_unit_eq_ok, pure_eq_ok] at h
  obtain ⟨_, _, rfl⟩ := h
  rfl

theorem kid_of_rewrapIfNeeded {record record' : StoredSigningKey}
    (h : rewrapIfNeeded ring record = .ok record') : record'.kid = record.kid := by
  unfold rewrapIfNeeded at h
  split at h
  · cases h
    rfl
  · simp only [bind_unit_eq_ok, pure_eq_ok] at h
    obtain ⟨_, rfl⟩ := h
    rfl

/-- The staged key of a set, as it stands: its kid and when it takes over. -/
def StoredKeySet.stagedKid (keyset : StoredKeySet) : Option (String × Nat) :=
  keyset.staged.map fun staged => (staged.key.kid, staged.activateAt)

theorem stagedKid_of_rewrapStaged {staged staged' : Option StagedSigningKey}
    (h : rewrapStaged ring staged = .ok staged') :
    staged'.map (fun staged => (staged.key.kid, staged.activateAt)) =
      staged.map fun staged => (staged.key.kid, staged.activateAt) := by
  cases staged with
  | none =>
    cases h
    rfl
  | some staged =>
    simp only [rewrapStaged, bind_eq_ok, pure_eq_ok] at h
    obtain ⟨key, hkey, rfl⟩ := h
    simp [kid_of_rewrapIfNeeded hkey]

/-- What `activateIfDue` leaves of the signing key and the staged one: they stay, or the staged one
    takes over. -/
inductive Activated (rotation : SigningRotationConfig) (current : Nat) (keyset keyset' : StoredKeySet) :
    Prop
  | kept (hactive : keyset'.active.kid = keyset.active.kid)
      (hstaged : keyset'.stagedKid = keyset.stagedKid)
      (hretired : keyset'.retired = keyset.retired.filter (current < ·.publishUntil))
  | activated (kid : String) (activateAt : Nat) (hstaged : keyset.stagedKid = some (kid, activateAt))
      (hdue : activateAt ≤ current) (hactive : keyset'.active.kid = kid)
      (hnone : keyset'.stagedKid = none)
      (hretired : ∃ jwk, keyset'.retired =
        (keyset.retired.filter (current < ·.publishUntil)).filter (·.kid ≠ keyset.active.kid) ++
          [⟨keyset.active.kid, jwk, satAdd current rotation.overlapSeconds⟩])

/-- Maintenance without an immediate activation: then a new key may be staged. -/
structure Maintained (rotation : SigningRotationConfig) (current : Nat) (new : GeneratedKey)
    (keyset keyset' : StoredKeySet) : Prop where
  activated : ∃ between, Activated rotation current keyset between ∧
    keyset'.active = between.active ∧ keyset'.retired = between.retired ∧
    (keyset'.stagedKid = between.stagedKid ∨ between.stagedKid = none ∧
      keyset'.stagedKid = some (new.kid, satAdd current rotation.prepublishSeconds))

theorem maintained_of_maintainKeyset {rotation : SigningRotationConfig} {forceStage : Bool}
    {new : GeneratedKey} {keyset' : StoredKeySet}
    (h : maintainKeyset ring rotation current forceStage false new keyset = .ok keyset') :
    Maintained rotation current new keyset keyset' := by
  simp only [maintainKeyset, bind_eq_ok, pure_eq_ok, Bool.false_eq_true, if_false] at h
  obtain ⟨active, hactive, staged, hstaged, between, hbetween, rfl⟩ := h
  have hkid := kid_of_rewrapIfNeeded hactive
  have hkids := stagedKid_of_rewrapStaged hstaged
  refine ⟨between, ?_, ?_⟩
  · unfold activateIfDue at hbetween
    split at hbetween
    · next hdue =>
      obtain ⟨due, hmem, hle⟩ := hdue
      simp only [activateStaged, bind_eq_ok, okOr_eq_ok, pure_eq_ok] at hbetween
      obtain ⟨taken, htaken, rfl⟩ := hbetween
      cases (Option.mem_def.mp hmem).symm.trans htaken
      refine .activated due.key.kid due.activateAt ?_ hle rfl rfl ⟨active.publicJwk, ?_⟩
      · unfold StoredKeySet.stagedKid
        rw [← hkids, htaken]
        rfl
      · rw [hkid]
    · cases hbetween
      exact .kept hkid hkids rfl
  · unfold stageIfDue
    split
    · next hstage =>
      refine ⟨rfl, rfl, Or.inr ⟨?_, rfl⟩⟩
      unfold StoredKeySet.stagedKid
      rw [Option.isNone_iff_eq_none.mp hstage.1]
      rfl
    · exact ⟨rfl, rfl, Or.inl rfl⟩

end RustyAuth
