/-
  Grants of Fleet and their locators.

  Pairings, rotations and revocations store a grant and its locator under names that are partly
  chosen by Fleet: the connection id and the credential of an outbound pairing, the credential
  of a rotation.  None of the operations looks whether a name is in use, so that a grant may be
  overwritten and its locator left behind, or a locator be taken from another grant.

  As long as a credential is never given to a second grant nor given again once it was
  replaced or revoked, and a live grant is only paired anew under its own credential
  (`GrantCall.careful`), the locators are exactly those of the live grants (`GrantsAgree`), and
  a backup validates.
-/
import RustyAuth.Store.FleetSystem
import RustyAuth.Library.Integrity
import RustyAuth.Store.Writers
import RustyAuth.Library.Ownership

namespace RustyAuth

open RustyAuth.Library

variable {db : Db} {now : Nat} {grant : RealmFleetGrantRecord} {digest : String} {id : Uuid}

theorem forEach_scan_eq_ok {check : Sigma Value → Except String Unit}
    (hcheck : ∀ k (v : Value k), db.get now k = some v → check ⟨k, v⟩ = .ok ()) :
    forEach (db.scan now) check = .ok () := by
  rw [forEach_eq_ok]
  rintro ⟨k, v⟩ hmem
  exact hcheck k v ((Keyspace.mem_scan db now k v).mp hmem)

/-! ## What a backup validates of grants -/

section Checks

variable (index : Db) (now : Nat)

/-- Made while the snapshot is indexed. -/
def checkGrantKey : Sigma Value → Except String Unit
  | ⟨.fleetGrant connectionId, grant⟩ =>
      ensure (grant.connectionId = connectionId)
        "backup realm Fleet grant key does not match its connection id"
  | _ => .ok ()

def checkGrant : Sigma Value → Except String Unit
  | ⟨.fleetGrant _, grant⟩ => do
      ensure (¬(grant.revokedAt = none ∧
          index.get now (.fleetGrantSecret grant.credentialDigest) ≠ some grant.connectionId))
        "backup realm Fleet grant locator is missing or inconsistent"
      ensure (¬(grant.revokedAt ≠ none ∧
          (index.get now (.fleetGrantSecret grant.credentialDigest)).isSome))
        "backup revoked realm Fleet grant still has a live credential locator"
  | _ => .ok ()

def checkGrantLocator : Sigma Value → Except String Unit
  | ⟨.fleetGrantSecret digest, id⟩ => do
      let grant ← okOr (index.get now (.fleetGrant id))
        "backup realm Fleet grant locator points to an unknown grant"
      ensure (¬(grant.credentialDigest ≠ digest ∨ grant.revokedAt ≠ none))
        "backup realm Fleet grant locator does not belong to a live grant"
  | _ => .ok ()

/-- The part of `validate_record_ownership` about grants. -/
def validateGrants : Except String Unit := do
  let records := index.scan now
  forEach records checkGrantKey
  forEach records (checkGrant index now)
  forEach records (checkGrantLocator index now)

end Checks

/-! ## The system -/

/-- The keys of grants and of their locators. -/
def Key.isGrant : Key → Bool
  | .fleetGrant _ => true
  | .fleetGrantSecret _ => true
  | _ => false

inductive GrantRequest
  | createRealmPairing (id : Uuid) (code realmId controlPlaneOrigin : String)
      (requestedScopes : List String) (createdBy : Uuid)
  | exchangeRealmPairing (code controlPlaneOrigin controlPlaneInstanceId : String)
      (assignmentEpoch : Nat) (connectionId : Uuid) (credential : String)
  | consumeOutboundRealmPairing (code controlPlaneOrigin controlPlaneInstanceId : String)
      (assignmentEpoch : Nat) (connectionId : Uuid) (credential : String)
      (grantedScopes : List String)
  | revokeRealmFleetGrant (connectionId : Uuid)
  | rotateRealmFleetGrant (connectionId requestId : Uuid) (credential hint : String)
  -- the rest of the store, which writes neither grants nor locators
  | other (writes : List Write)

structure GrantCall where
  now : Nat
  request : GrantRequest

/-- `retired` holds the digests of the credentials that were replaced by a rotation or belong to
    a revoked grant; no operation reads it. -/
structure GrantState where
  db : Db
  retired : List String

def GrantState.initial : GrantState := ⟨Keyspace.empty, []⟩

/-- The digest under which a grant is found, unless it is revoked. -/
def RealmFleetGrantRecord.liveDigest (grant : RealmFleetGrantRecord) : Option String :=
  if grant.revokedAt = none then some grant.credentialDigest else none

/-- What is retired when one grant takes the place of another. -/
def retiredBy (old new : Option RealmFleetGrantRecord) : List String :=
  match old, new with
  | some old, some new =>
      if new.liveDigest = some old.credentialDigest then [] else [old.credentialDigest]
  | _, _ => []

/-- A request about the grant of a connection leads to `db`. -/
def GrantState.retire (s : GrantState) (now : Nat) (connectionId : Uuid) (db : Db) : GrantState where
  db
  retired :=
    retiredBy (s.db.get now (.fleetGrant connectionId)) (db.get now (.fleetGrant connectionId)) ++
      s.retired

section System

variable (credentialDigest : String → String)

def GrantRequest.writes (db : Db) (now : Nat) : GrantRequest → List Write
  | .createRealmPairing id code realmId controlPlaneOrigin requestedScopes createdBy =>
      (RustyAuth.createRealmPairing credentialDigest now id code realmId controlPlaneOrigin
        requestedScopes createdBy).2
  | .exchangeRealmPairing code controlPlaneOrigin instanceId assignmentEpoch connectionId
      credential =>
      (RustyAuth.exchangeRealmPairing credentialDigest db now code controlPlaneOrigin instanceId
        assignmentEpoch connectionId credential).2
  | .consumeOutboundRealmPairing code controlPlaneOrigin instanceId assignmentEpoch connectionId
      credential grantedScopes =>
      (RustyAuth.consumeOutboundRealmPairing credentialDigest db now code controlPlaneOrigin
        instanceId assignmentEpoch connectionId credential grantedScopes).2
  | .revokeRealmFleetGrant connectionId =>
      sentBy (RustyAuth.revokeRealmFleetGrant db now connectionId)
  | .rotateRealmFleetGrant connectionId requestId credential hint =>
      sentBy (RustyAuth.rotateRealmFleetGrant credentialDigest db now connectionId requestId
        credential hint)
  | .other writes => writes.filter fun w => !w.key.isGrant

/-- The grant whose credential a request may retire. -/
def GrantRequest.retiring : GrantRequest → Option Uuid
  | .revokeRealmFleetGrant connectionId => some connectionId
  | .rotateRealmFleetGrant connectionId _ _ _ => some connectionId
  | _ => none

def GrantState.after (s : GrantState) (call : GrantCall) : GrantState :=
  let db := commit call.now s.db (call.request.writes credentialDigest s.db call.now)
  match call.request.retiring with
  | some id => s.retire call.now id db
  | none => ⟨db, s.retired⟩

def GrantStep (s : GrantState) (call : GrantCall) (t : GrantState) : Prop :=
  t = s.after credentialDigest call

/-! ### The condition -/

/-- The digest is not retired, and no other grant is found under it. -/
def GrantState.free (s : GrantState) (now : Nat) (connectionId : Uuid) (digest : String) : Bool :=
  decide (digest ∉ s.retired) &&
    (s.db.get now (.fleetGrantSecret digest)).all fun id => decide (id = connectionId)

/-- The connection has no live grant under another digest. -/
def GrantState.unpaired (s : GrantState) (now : Nat) (connectionId : Uuid) (digest : String) :
    Bool :=
  (s.db.get now (.fleetGrant connectionId)).all fun grant =>
    decide (grant.revokedAt ≠ none ∨ grant.credentialDigest = digest)

/-- A pairing code that would be accepted names a free credential and a connection that is not
    paired under another; a rotation that is not a replay names a free credential. -/
def GrantCall.careful (s : GrantState) (call : GrantCall) : Bool :=
  match call.request with
  | .exchangeRealmPairing code _ _ _ connectionId credential =>
      (s.db.get call.now (.fleetPairing (credentialDigest code))).isNone ||
        (s.free call.now connectionId (credentialDigest credential) &&
          s.unpaired call.now connectionId (credentialDigest credential))
  | .consumeOutboundRealmPairing code _ _ _ connectionId credential _ =>
      (s.db.get call.now (.fleetPairing (credentialDigest code))).isNone ||
        (s.free call.now connectionId (credentialDigest credential) &&
          s.unpaired call.now connectionId (credentialDigest credential))
  | .rotateRealmFleetGrant connectionId requestId credential _ =>
      (s.db.get call.now (.fleetGrantRotation requestId)).isSome ||
        s.free call.now connectionId (credentialDigest credential)
  | _ => true

end System

/-! ## One grant takes the place of another -/

/-- The grant is stored, its locator set if it is live, and the locator of `dropped` removed. -/
structure Regranted (db db' : Db) (grant : RealmFleetGrantRecord) (dropped : Option String) :
    Prop where
  self : ∀ t, db'.get t (.fleetGrant grant.connectionId) = some grant
  other : ∀ t id, id ≠ grant.connectionId →
    db'.get t (.fleetGrant id) = db.get t (.fleetGrant id)
  locator : ∀ t digest, db'.get t (.fleetGrantSecret digest) =
    if grant.liveDigest = some digest then some grant.connectionId
    else if dropped = some digest then none else db.get t (.fleetGrantSecret digest)

/-- Neither grants nor locators are touched. -/
def SameGrants (db db' : Db) : Prop :=
  ∀ t (k : Key), k.isGrant = true → db'.get t k = db.get t k

theorem sameGrants_commit (now : Nat) (db : Db) {ws : List Write}
    (h : ∀ w ∈ ws, w.key.isGrant = false) : SameGrants db (commit now db ws) := by
  intro t k hk
  refine get_commit_of_forall_ne now t ws k db fun w hw hkey => ?_
  rw [hkey, h w hw] at hk
  cases hk

section Writes

variable (now : Nat) (db : Db)

theorem get_run_locator (t : Nat) (digest d : String) (id : Uuid) :
    ((Command.set (.fleetGrantSecret digest) id : Write).run now db).get t (.fleetGrantSecret d) =
      if digest = d then some id else db.get t (.fleetGrantSecret d) := by
  by_cases h : digest = d
  · subst h
    simp
  · rw [if_neg h]
    exact Command.get_run_of_ne now t db _ fun hkey => h (Key.fleetGrantSecret.inj hkey).symm

theorem get_run_del_locator (t : Nat) (digest d : String) :
    ((Command.del (.fleetGrantSecret digest) : Write).run now db).get t (.fleetGrantSecret d) =
      if digest = d then none else db.get t (.fleetGrantSecret d) := by
  by_cases h : digest = d
  · subst h
    simp
  · rw [if_neg h]
    exact Command.get_run_of_ne now t db _ fun hkey => h (Key.fleetGrantSecret.inj hkey).symm

/-- A command for a key of another family. -/
theorem get_run_of_isGrant {w : Write} (hw : w.key.isGrant = false) (t : Nat) {k : Key}
    (hk : k.isGrant = true) : (w.run now db).get t k = db.get t k := by
  refine Command.get_run_of_ne now t db w fun hkey => ?_
  rw [hkey, hw] at hk
  cases hk

end Writes

/-! ### The pipelines -/

/-- A pairing that is accepted takes its code and stores the grant. -/
theorem regranted_pairing (now : Nat) (db : Db) (code : String) (hlive : grant.revokedAt = none) :
    Regranted db (commit now db (.del (.fleetPairing code) :: grantWrites grant)) grant none where
  self t := get_commit_set now t _ db (by simp [grantWrites, Command.key])
    (.inl (by simp [grantWrites]))
  other t id hid := get_commit_of_forall_ne now t _ _ db (by simp [grantWrites, Command.key, hid])
  locator t digest := by
    simp only [grantWrites, commit_cons, commit_nil, RealmFleetGrantRecord.liveDigest, hlive,
      if_true, reduceCtorEq, if_false, Option.some.injEq]
    rw [get_run_locator, Command.get_run_of_ne _ _ _ _ (by exact Key.noConfusion),
      get_run_of_isGrant now db rfl t rfl]

theorem regranted_revocation (now : Nat) (db : Db) (hrevoked : grant.revokedAt ≠ none) :
    Regranted db (commit now db [.set (.fleetGrant grant.connectionId) grant,
      .del (.fleetGrantSecret grant.credentialDigest)]) grant (some grant.credentialDigest) where
  self t := get_commit_set now t _ db (by simp [Command.key]) (.inl (by simp))
  other t id hid := get_commit_of_forall_ne now t _ _ db (by simp [Command.key, hid])
  locator t digest := by
    simp only [commit_cons, commit_nil, RealmFleetGrantRecord.liveDigest, hrevoked,
      reduceCtorEq, if_false, Option.some.injEq]
    rw [get_run_del_locator, Command.get_run_of_ne _ _ _ _ (by exact Key.noConfusion)]

theorem regranted_rotation (now : Nat) (db : Db) (old : String) (requestId : Uuid)
    (completed : RealmFleetGrantRotationRecord) (hlive : grant.revokedAt = none) :
    Regranted db (commit now db [.set (.fleetGrant grant.connectionId) grant,
      .del (.fleetGrantSecret old), .set (.fleetGrantSecret grant.credentialDigest) grant.connectionId,
      .setEx (.fleetGrantRotation requestId) completed grantRotationSeconds]) grant (some old) where
  self t := get_commit_set now t _ db (by simp [Command.key]) (.inl (by simp))
  other t id hid := get_commit_of_forall_ne now t _ _ db (by simp [Command.key, hid])
  locator t digest := by
    simp only [commit_cons, commit_nil, RealmFleetGrantRecord.liveDigest, hlive, if_true,
      Option.some.injEq]
    rw [get_run_of_isGrant now _ rfl t rfl, get_run_locator, get_run_del_locator,
      Command.get_run_of_ne _ _ _ _ (by exact Key.noConfusion)]

/-! ## The invariant -/

/-- The locator of a digest. -/
def Db.grantLocator (db : Db) (digest : String) : Option Uuid := db.get 0 (.fleetGrantSecret digest)

/-- The digest of the live grant of a connection. -/
def Db.liveDigest (db : Db) (connectionId : Uuid) : Option String :=
  (db.get 0 (.fleetGrant connectionId)).bind RealmFleetGrantRecord.liveDigest

structure GrantsAgree (s : GrantState) : Prop where
  timeless : ∀ t (k : Key), k.isGrant = true → s.db.get t k = s.db.get 0 k
  keyed : ∀ id grant, s.db.get 0 (.fleetGrant id) = some grant → grant.connectionId = id
  revoked : ∀ id grant, s.db.get 0 (.fleetGrant id) = some grant → grant.revokedAt ≠ none →
    grant.credentialDigest ∈ s.retired
  exact : ExactIndex s.db.grantLocator fun id digest => s.db.liveDigest id = some digest
  retired : ∀ digest ∈ s.retired, s.db.grantLocator digest = none

theorem GrantsAgree.initial : GrantsAgree GrantState.initial where
  timeless _ _ _ := rfl
  keyed id grant h := by cases h
  revoked id grant h := by cases h
  exact digest id := by
    constructor
    · intro h
      cases h
    · intro h
      cases h
  retired digest h := by cases h

variable {s : GrantState}

theorem GrantsAgree.same (h : GrantsAgree s) (hsame : SameGrants s.db db) :
    GrantsAgree ⟨db, s.retired⟩ := by
  have hgrant : ∀ id, db.get 0 (.fleetGrant id) = s.db.get 0 (.fleetGrant id) :=
    fun id => hsame 0 _ rfl
  have hlocator : db.grantLocator = s.db.grantLocator := funext fun digest => hsame 0 _ rfl
  have hlive : db.liveDigest = s.db.liveDigest := by
    funext id
    unfold Db.liveDigest
    rw [hgrant id]
  exact {
    timeless := fun t k hk => by
      dsimp only
      rw [hsame t k hk, hsame 0 k hk]
      exact h.timeless t k hk
    keyed := fun id grant hget => h.keyed id grant ((hgrant id).symm.trans hget)
    revoked := fun id grant hget => h.revoked id grant ((hgrant id).symm.trans hget)
    exact := by
      dsimp only
      rw [hlocator, hlive]
      exact h.exact
    retired := by
      dsimp only
      rw [hlocator]
      exact h.retired }

/-- A grant takes the place of the one its connection had: a live one takes a free digest or
    keeps its own, and the locator of the digest that is given up, and no other, is removed. -/
theorem GrantsAgree.regrant (h : GrantsAgree s) {dropped : Option String} {retired : List String}
    (hre : Regranted s.db db grant dropped) (hfree : ∀ digest, grant.liveDigest = some digest →
      s.db.grantLocator digest = none ∨ s.db.grantLocator digest = some grant.connectionId)
    (hkept : ∀ digest, s.db.liveDigest grant.connectionId = some digest →
      grant.liveDigest = some digest ∨ dropped = some digest)
    (hdropped : ∀ digest, dropped = some digest →
      s.db.liveDigest grant.connectionId = some digest ∨ s.db.grantLocator digest = none)
    (hsub : ∀ digest ∈ s.retired, digest ∈ retired)
    (hretired : ∀ digest ∈ retired, grant.liveDigest ≠ some digest ∧
      (digest ∈ s.retired ∨ dropped = some digest))
    (hrevoked : grant.revokedAt ≠ none → grant.credentialDigest ∈ retired) :
    GrantsAgree ⟨db, retired⟩ where
  timeless t k hk := by
    dsimp only
    cases k with
    | fleetGrant id =>
      by_cases hid : id = grant.connectionId
      · rw [hid, hre.self t, hre.self 0]
      · rw [hre.other t id hid, hre.other 0 id hid]
        exact h.timeless t _ rfl
    | fleetGrantSecret digest =>
      rw [hre.locator t digest, hre.locator 0 digest, h.timeless t _ rfl]
    | _ => cases hk
  keyed id stored hget := by
    dsimp only at hget
    by_cases hid : id = grant.connectionId
    · rw [hid, hre.self 0] at hget
      rw [hid, ← Option.some.inj hget]
    · rw [hre.other 0 id hid] at hget
      exact h.keyed id stored hget
  revoked id stored hget hne := by
    dsimp only at hget
    by_cases hid : id = grant.connectionId
    · rw [hid, hre.self 0] at hget
      rw [← Option.some.inj hget] at hne ⊢
      exact hrevoked hne
    · rw [hre.other 0 id hid] at hget
      exact hsub _ (h.revoked id stored hget hne)
  exact := by
    have hself : db.liveDigest grant.connectionId = grant.liveDigest := by
      unfold Db.liveDigest
      rw [hre.self 0]
      rfl
    refine h.exact.rename (i := grant.connectionId) ?_ ?_ ?_
    · intro digest hlive
      exact hfree digest (hself.symm.trans hlive)
    · intro digest
      have hlocator : db.grantLocator digest = _ := hre.locator 0 digest
      rw [hlocator, hself]
      by_cases hlive : grant.liveDigest = some digest
      · rw [if_pos hlive, if_pos hlive]
      · rw [if_neg hlive, if_neg hlive]
        by_cases hheld : s.db.liveDigest grant.connectionId = some digest
        · rw [if_pos ((hkept digest hheld).resolve_left hlive), if_pos hheld]
        · rw [if_neg hheld]
          by_cases hdrop : dropped = some digest
          · rw [if_pos hdrop]
            exact ((hdropped digest hdrop).resolve_left hheld).symm
          · rw [if_neg hdrop]
            rfl
    · intro id hid
      unfold Db.liveDigest
      rw [hre.other 0 id hid]
  retired digest hmem := by
    obtain ⟨hlive, hgone⟩ := hretired digest hmem
    unfold Db.grantLocator
    dsimp only
    rw [hre.locator 0 digest, if_neg hlive]
    by_cases hdrop : dropped = some digest
    · rw [if_pos hdrop]
    · rw [if_neg hdrop]
      exact h.retired digest (hgone.resolve_right hdrop)

theorem GrantsAgree.get_grant (h : GrantsAgree s) (t : Nat) (id : Uuid) :
    s.db.get t (.fleetGrant id) = s.db.get 0 (.fleetGrant id) :=
  h.timeless t _ rfl

theorem GrantsAgree.get_locator (h : GrantsAgree s) (t : Nat) (digest : String) :
    s.db.get t (.fleetGrantSecret digest) = s.db.grantLocator digest :=
  h.timeless t _ rfl

theorem liveDigest_eq_some :
    grant.liveDigest = some digest ↔ grant.revokedAt = none ∧ grant.credentialDigest = digest := by
  unfold RealmFleetGrantRecord.liveDigest
  by_cases hlive : grant.revokedAt = none
  · simp [hlive]
  · simp [hlive]

theorem Db.liveDigest_eq_some :
    db.liveDigest id = some digest ↔ ∃ grant, db.get 0 (.fleetGrant id) = some grant ∧
      grant.revokedAt = none ∧ grant.credentialDigest = digest := by
  unfold Db.liveDigest
  simp only [Option.bind_eq_some_iff, RustyAuth.liveDigest_eq_some]

/-! ## Every step keeps it -/

section Steps

variable {credentialDigest : String → String} {s : GrantState} (h : GrantsAgree s)

include h

theorem GrantsAgree.free (hfree : s.free now id digest = true) :
    digest ∉ s.retired ∧ (s.db.grantLocator digest = none ∨ s.db.grantLocator digest = some id) := by
  unfold GrantState.free at hfree
  rw [Bool.and_eq_true, decide_eq_true_eq, h.get_locator] at hfree
  refine ⟨hfree.1, ?_⟩
  cases hlocator : s.db.grantLocator digest with
  | none => exact Or.inl rfl
  | some j =>
    have hj : j = id := by simpa [hlocator] using hfree.2
    exact Or.inr (by rw [hj])

theorem GrantsAgree.unpaired {d : String} (hunpaired : s.unpaired now id digest = true)
    (hlive : s.db.liveDigest id = some d) :
    digest = d := by
  obtain ⟨grant, hget, hnone, hdigest⟩ := Db.liveDigest_eq_some.mp hlive
  unfold GrantState.unpaired at hunpaired
  rw [h.get_grant, hget] at hunpaired
  have hor : grant.revokedAt ≠ none ∨ grant.credentialDigest = digest := by
    simpa using hunpaired
  rw [← hor.resolve_left (fun hne => hne hnone), hdigest]

/-- A pairing that is refused, or that names a free credential and a connection which is not
    paired under another. -/
theorem GrantsAgree.pairing {code : String} {ws : List Write}
    (hws : PairingWrites s.db now code id digest ws)
    (hcareful : ((s.db.get now (.fleetPairing code)).isNone ||
      (s.free now id digest && s.unpaired now id digest)) = true) :
    GrantsAgree ⟨commit now s.db ws, s.retired⟩ := by
  cases hws with
  | invalid => exact h.same (sameGrants_commit now s.db (by simp))
  | refused => exact h.same (sameGrants_commit now s.db (by simp [Command.key, Key.isGrant]))
  | @accepted _ grant hcode hid hdigest hlive =>
    subst hid hdigest
    rw [hcode, Option.isNone_some, Bool.false_or, Bool.and_eq_true] at hcareful
    obtain ⟨hfree, hunpaired⟩ := hcareful
    obtain ⟨hnew, hlocator⟩ := h.free hfree
    have hself : grant.liveDigest = some grant.credentialDigest :=
      liveDigest_eq_some.mpr ⟨hlive, rfl⟩
    refine h.regrant (regranted_pairing now s.db code hlive) ?_ ?_ ?_ ?_ ?_ ?_
    · intro digest hd
      rw [hself] at hd
      rw [← Option.some.inj hd]
      exact hlocator
    · intro digest hheld
      rw [← h.unpaired hunpaired hheld]
      exact Or.inl hself
    · intro digest hd
      cases hd
    · exact fun digest hd => hd
    · intro digest hd
      refine ⟨fun heq => ?_, Or.inl hd⟩
      rw [hself] at heq
      rw [← Option.some.inj heq] at hd
      exact hnew hd
    · exact fun hne => absurd hlive hne

theorem GrantsAgree.revokeStored (now : Nat) {old : RealmFleetGrantRecord}
    (hget : s.db.get 0 (.fleetGrant id) = some old) :
    GrantsAgree (s.retire now id (commit now s.db (sentBy (revokeRealmFleetGrant s.db now id)))) := by
  obtain rfl : old.connectionId = id := h.keyed id old hget
  have hsent : sentBy (revokeRealmFleetGrant s.db now old.connectionId) =
      [.set (.fleetGrant old.connectionId)
          { old with revokedAt := some (old.revokedAt.getD now) },
        .del (.fleetGrantSecret old.credentialDigest)] := by
    unfold revokeRealmFleetGrant
    rw [h.get_grant, hget]
    rfl
  have hrevoked : ({ old with revokedAt := some (old.revokedAt.getD now) } :
      RealmFleetGrantRecord).revokedAt ≠ none := by simp
  have hdead : ∀ digest, ({ old with revokedAt := some (old.revokedAt.getD now) } :
      RealmFleetGrantRecord).liveDigest ≠ some digest :=
    fun digest hlive => hrevoked (liveDigest_eq_some.mp hlive).1
  have hre := regranted_revocation now s.db hrevoked
  have hafter := hre.self now
  rw [hsent]
  unfold GrantState.retire retiredBy
  rw [h.get_grant, hget, hafter]
  dsimp only
  rw [if_neg (hdead _)]
  refine h.regrant hre ?_ ?_ ?_ ?_ ?_ ?_
  · exact fun digest hlive => absurd hlive (hdead digest)
  · intro digest hheld
    obtain ⟨grant, hgrant, -, hdigest⟩ := Db.liveDigest_eq_some.mp hheld
    rw [hget] at hgrant
    cases hgrant
    exact Or.inr (by rw [hdigest])
  · intro digest hd
    cases hd
    -- the locator of a grant that was revoked before is gone
    by_cases hlive : old.revokedAt = none
    · exact Or.inl (Db.liveDigest_eq_some.mpr ⟨old, hget, hlive, rfl⟩)
    · exact Or.inr (h.retired _ (h.revoked _ old hget hlive))
  · exact fun digest hd => List.mem_append_right _ hd
  · intro digest hd
    refine ⟨hdead digest, ?_⟩
    rcases List.mem_append.mp hd with hnew | hold
    · rw [List.mem_singleton.mp hnew]
      exact Or.inr rfl
    · exact Or.inl hold
  · exact fun _ => List.mem_append_left _ (List.mem_singleton.mpr rfl)

theorem GrantsAgree.rotateStored (now : Nat) {old : RealmFleetGrantRecord} {hint : String} {db' : Db}
    (hget : s.db.get 0 (.fleetGrant id) = some old) (hlive : old.revokedAt = none)
    (hfree : s.free now id digest = true)
    (hre : Regranted s.db db' (old.rotated now digest hint) (some old.credentialDigest)) :
    GrantsAgree (s.retire now id db') := by
  obtain rfl : old.connectionId = id := h.keyed id old hget
  obtain ⟨hnew, hlocator⟩ := h.free hfree
  have hself : (old.rotated now digest hint).liveDigest = some digest :=
    liveDigest_eq_some.mpr ⟨hlive, rfl⟩
  have hheld : s.db.liveDigest old.connectionId = some old.credentialDigest :=
    Db.liveDigest_eq_some.mpr ⟨old, hget, hlive, rfl⟩
  have hafter : db'.get now (.fleetGrant old.connectionId) = some (old.rotated now digest hint) :=
    hre.self now
  unfold GrantState.retire retiredBy
  rw [h.get_grant, hget, hafter]
  dsimp only
  rw [hself]
  refine h.regrant hre ?_ ?_ ?_ ?_ ?_ ?_
  · intro d hd
    rw [hself] at hd
    rw [← Option.some.inj hd]
    exact hlocator
  · intro d hd
    exact Or.inr (hheld.symm.trans hd)
  · intro d hd
    exact Or.inl (hheld.trans hd)
  · exact fun d hd => List.mem_append_right _ hd
  · intro d hd
    rw [hself]
    rcases List.mem_append.mp hd with hreplaced | hold
    · by_cases hsame : some digest = some old.credentialDigest
      · rw [if_pos hsame] at hreplaced
        cases hreplaced
      · rw [if_neg hsame] at hreplaced
        rw [List.mem_singleton.mp hreplaced]
        exact ⟨hsame, Or.inr rfl⟩
    · refine ⟨fun heq => ?_, Or.inl hold⟩
      rw [← Option.some.inj heq] at hold
      exact hnew hold
  · exact fun hne => absurd hlive hne

/-- A request that writes nothing retires at most what is retired already. -/
theorem GrantsAgree.retireNothing (now : Nat) (id : Uuid) : GrantsAgree (s.retire now id s.db) := by
  have hold : ∀ digest, digest ∈ (s.retire now id s.db).retired ↔ digest ∈ s.retired := by
    intro digest
    unfold GrantState.retire retiredBy
    rw [h.get_grant]
    cases hget : s.db.get 0 (.fleetGrant id) with
    | none => exact Iff.rfl
    | some grant =>
      dsimp only
      by_cases hlive : grant.revokedAt = none
      · rw [if_pos (liveDigest_eq_some.mpr ⟨hlive, rfl⟩)]
        exact Iff.rfl
      · have hmem := h.revoked id grant hget hlive
        split
        · exact Iff.rfl
        · simp only [List.mem_append, List.mem_singleton]
          exact ⟨fun hor => hor.elim (fun heq => heq ▸ hmem) fun hin => hin, Or.inr⟩
  exact {
    timeless := h.timeless
    keyed := h.keyed
    revoked := fun id grant hget hne => (hold _).mpr (h.revoked id grant hget hne)
    exact := h.exact
    retired := fun digest hd => h.retired digest ((hold digest).mp hd) }

theorem GrantsAgree.after {call : GrantCall} (hcareful : call.careful credentialDigest s = true) :
    GrantsAgree (s.after credentialDigest call) := by
  obtain ⟨now, request⟩ := call
  cases request with
  | createRealmPairing id code realmId origin scopes createdBy =>
    refine h.same (sameGrants_commit now s.db ?_)
    intro w hw
    rw [List.mem_singleton.mp hw]
    rfl
  | exchangeRealmPairing code origin instanceId epoch id credential =>
    exact h.pairing (exchangeRealmPairing_writes s.db now code origin instanceId epoch id credential)
      hcareful
  | consumeOutboundRealmPairing code origin instanceId epoch id credential scopes =>
    exact h.pairing
      (consumeOutboundRealmPairing_writes s.db now code origin instanceId epoch id credential scopes)
      hcareful
  | revokeRealmFleetGrant id =>
    show GrantsAgree (s.retire now id (commit now s.db (sentBy (revokeRealmFleetGrant s.db now id))))
    cases hget : s.db.get 0 (.fleetGrant id) with
    | none =>
      have hnone : revokeRealmFleetGrant s.db now id = .error (.policy .realmFleetGrantInvalid) := by
        unfold revokeRealmFleetGrant
        rw [h.get_grant, hget]
        rfl
      rw [hnone]
      exact h.retireNothing now id
    | some old => exact h.revokeStored now hget
  | rotateRealmFleetGrant id requestId credential hint =>
    show GrantsAgree (s.retire now id (commit now s.db
      (sentBy (rotateRealmFleetGrant credentialDigest s.db now id requestId credential hint))))
    cases hresult : rotateRealmFleetGrant credentialDigest s.db now id requestId credential hint with
    | error e => exact h.retireNothing now id
    | ok committed =>
      obtain ⟨r, ws⟩ := committed
      cases rotateRealmFleetGrant_writes hresult with
      | nothing => exact h.retireNothing now id
      | rotated old hfirst hget hactive =>
        have hfree : s.free now id (credentialDigest credential) = true := by
          unfold GrantCall.careful at hcareful
          dsimp only at hcareful
          rw [hfirst] at hcareful
          exact hcareful
        have hlive : (old.rotated now (credentialDigest credential) hint).revokedAt = none := hactive.1
        exact h.rotateStored now ((h.get_grant now id).symm.trans hget) hactive.1 hfree
          (regranted_rotation now s.db old.credentialDigest requestId _ hlive)
  | other writes =>
    refine h.same (sameGrants_commit now s.db ?_)
    intro w hw
    have houtside := (List.mem_filter.mp hw).2
    simpa using houtside

end Steps

/-! ## What follows -/

section Agree

variable {s : GrantState} (h : GrantsAgree s)
include h

theorem GrantsAgree.locator_iff (t : Nat) (digest : String) (id : Uuid) :
    s.db.get t (.fleetGrantSecret digest) = some id ↔
      ∃ grant, s.db.get t (.fleetGrant id) = some grant ∧ grant.connectionId = id ∧
        grant.revokedAt = none ∧ grant.credentialDigest = digest := by
  rw [h.get_locator, h.get_grant, h.exact digest id]
  refine Db.liveDigest_eq_some.trans ?_
  constructor
  · rintro ⟨grant, hget, hlive⟩
    exact ⟨grant, hget, h.keyed id grant hget, hlive⟩
  · rintro ⟨grant, hget, -, hlive⟩
    exact ⟨grant, hget, hlive⟩

theorem GrantsAgree.validateGrants (t : Nat) : validateGrants s.db t = .ok () := by
  have hkey : ∀ k (v : Value k), s.db.get t k = some v → checkGrantKey ⟨k, v⟩ = .ok () := by
    intro k v hget
    cases k with
    | fleetGrant id =>
      rw [h.get_grant] at hget
      exact (ensure_eq_ok _ _ _).mpr (h.keyed id v hget)
    | _ => rfl
  have hgrant : ∀ k (v : Value k), s.db.get t k = some v → checkGrant s.db t ⟨k, v⟩ = .ok () := by
    intro k v hget
    cases k with
    | fleetGrant id =>
      simp only [checkGrant, bind_eq_ok, ensure_eq_ok, exists_const]
      have hget0 := (h.get_grant t id).symm.trans hget
      have hid := h.keyed id v hget0
      constructor
      · rintro ⟨hlive, hne⟩
        exact hne ((h.locator_iff t _ _).mpr ⟨v, by rw [hid]; exact hget, rfl, hlive, rfl⟩)
      · rintro ⟨hrevoked, hsome⟩
        have hmem := h.revoked id v hget0 hrevoked
        rw [h.get_locator, h.retired _ hmem] at hsome
        cases hsome
    | _ => rfl
  have hlocator : ∀ k (v : Value k), s.db.get t k = some v →
      checkGrantLocator s.db t ⟨k, v⟩ = .ok () := by
    intro k v hget
    cases k with
    | fleetGrantSecret digest =>
      simp only [checkGrantLocator, bind_eq_ok, okOr_eq_ok, ensure_eq_ok]
      obtain ⟨grant, hgrant, -, hlive, hdigest⟩ := (h.locator_iff t digest v).mp hget
      exact ⟨grant, hgrant, by simp [hlive, hdigest]⟩
    | _ => rfl
  unfold RustyAuth.validateGrants
  simp only [forEach_scan_eq_ok hkey, forEach_scan_eq_ok hgrant, forEach_scan_eq_ok hlocator,
    bind_eq_ok, exists_const, and_self]

/-- A credential whose digest is retired resolves to no grant. -/
theorem GrantsAgree.resolves_none {credentialDigest : String → String} {credential : String}
    (hretired : credentialDigest credential ∈ s.retired) (t : Nat) :
    s.db.realmFleetGrantByCredential credentialDigest t credential = none := by
  unfold Db.realmFleetGrantByCredential
  rw [h.get_locator, h.retired _ hretired]
  rfl

end Agree

theorem grantsAgree_run {credentialDigest : String → String} {calls : List GrantCall}
    (hrun : Run (Restrict (GrantStep credentialDigest)
      fun s call => call.careful credentialDigest s = true) GrantState.initial calls s) :
    GrantsAgree s := by
  refine Run.invariant (I := GrantsAgree) ?_ hrun GrantsAgree.initial
  rintro s call t h ⟨hcareful, rfl⟩
  exact h.after hcareful

/-- In every run of careful calls, at every time: the locators are those of the live grants, a
    backup validates them, no two live grants share a digest, and neither a credential that was
    replaced nor one of a revoked grant resolves. -/
theorem grant_locators_agree (credentialDigest : String → String) {calls : List GrantCall}
    {s : GrantState} (hrun : Run (Restrict (GrantStep credentialDigest)
      fun s call => call.careful credentialDigest s = true) GrantState.initial calls s) (t : Nat) :
    (∀ digest id, s.db.get t (.fleetGrantSecret digest) = some id ↔
      ∃ grant, s.db.get t (.fleetGrant id) = some grant ∧ grant.connectionId = id ∧
        grant.revokedAt = none ∧ grant.credentialDigest = digest) ∧
    validateGrants s.db t = .ok () ∧
    (∀ id id' grant grant', s.db.get t (.fleetGrant id) = some grant →
      s.db.get t (.fleetGrant id') = some grant' → grant.revokedAt = none →
      grant'.revokedAt = none → grant.credentialDigest = grant'.credentialDigest → id = id') ∧
    (∀ credential, credentialDigest credential ∈ s.retired →
      s.db.realmFleetGrantByCredential credentialDigest t credential = none) ∧
    ∀ id grant credential, s.db.get t (.fleetGrant id) = some grant → grant.revokedAt ≠ none →
      grant.credentialDigest = credentialDigest credential →
      s.db.realmFleetGrantByCredential credentialDigest t credential = none := by
  have h := grantsAgree_run hrun
  refine ⟨h.locator_iff t, h.validateGrants t, ?_, fun _ hretired => h.resolves_none hretired t, ?_⟩
  · intro id id' grant grant' hget hget' hlive hlive' hdigest
    rw [h.get_grant] at hget hget'
    exact h.exact.unique (Db.liveDigest_eq_some.mpr ⟨grant, hget, hlive, hdigest⟩)
      (Db.liveDigest_eq_some.mpr ⟨grant', hget', hlive', rfl⟩)
  · intro id grant credential hget hrevoked hdigest
    rw [h.get_grant] at hget
    have hmem := h.revoked id grant hget hrevoked
    rw [hdigest] at hmem
    exact h.resolves_none hmem t

/-! ## Runs -/

/-- A code is created and an outbound pairing consumes it. -/
def sampleOutbound (now : Nat) (code : String) (connectionId : Uuid) (credential : String) :
    List GrantCall :=
  [⟨now, .createRealmPairing 7 code "realm" "https://fleet.example" ["realm.read"] 8⟩,
    ⟨now, .consumeOutboundRealmPairing code "https://fleet.example" "fleet" 1 connectionId credential
      ["realm.read"]⟩]

def firstCredential : String := "rfg_first-credential-of-a-connection"
def secondCredential : String := "rfg_second-credential-of-a-connection"
def thirdCredential : String := "rfg_third-credential-of-a-connection"

def grantRun (calls : List GrantCall) : GrantState :=
  calls.foldl (GrantState.after sampleStore.credentialDigest) GrantState.initial

theorem run_grantRun (calls : List GrantCall) :
    Run (GrantStep sampleStore.credentialDigest) GrantState.initial calls (grantRun calls) := by
  have hrun : ∀ s, Run (GrantStep sampleStore.credentialDigest) s calls
      (calls.foldl (GrantState.after sampleStore.credentialDigest) s) := by
    induction calls with
    | nil => exact fun s => .nil s
    | cons call calls ih => exact fun s => .cons rfl (ih _)
  exact hrun _

/-- Paired anew under another credential, a connection leaves the locator of its first behind; two
    connections may be given one credential; and a rotation that is sent again after its record
    lapsed brings back the credential it set. -/
theorem grant_locators_disagree :
    (∃ calls s, Run (GrantStep sampleStore.credentialDigest) GrantState.initial calls s ∧
      s.db.get 20 (.fleetGrantSecret (sampleStore.credentialDigest firstCredential)) = some 1 ∧
      (s.db.get 20 (.fleetGrant 1)).map RealmFleetGrantRecord.credentialDigest =
        some (sampleStore.credentialDigest secondCredential) ∧
      validateGrants s.db 20 =
        .error "backup realm Fleet grant locator does not belong to a live grant") ∧
    (∃ calls s, Run (GrantStep sampleStore.credentialDigest) GrantState.initial calls s ∧
      s.db.liveDigest 1 = some (sampleStore.credentialDigest firstCredential) ∧
      s.db.liveDigest 2 = some (sampleStore.credentialDigest firstCredential)) ∧
    ∃ calls s, Run (GrantStep sampleStore.credentialDigest) GrantState.initial calls s ∧
      sampleStore.credentialDigest secondCredential ∈ s.retired ∧
      (s.db.realmFleetGrantByCredential sampleStore.credentialDigest 100000
        secondCredential).isSome = true := by
  refine ⟨⟨sampleOutbound 0 "a" 1 firstCredential ++ sampleOutbound 10 "b" 1 secondCredential, _,
      run_grantRun _, ?_⟩,
    ⟨sampleOutbound 0 "a" 1 firstCredential ++ sampleOutbound 10 "b" 2 firstCredential, _,
      run_grantRun _, ?_⟩,
    ⟨sampleOutbound 0 "a" 1 firstCredential ++
      [⟨10, .rotateRealmFleetGrant 1 31 secondCredential "second"⟩,
        ⟨20, .rotateRealmFleetGrant 1 32 thirdCredential "third"⟩,
        ⟨100000, .rotateRealmFleetGrant 1 31 secondCredential "second"⟩], _,
      run_grantRun _, ?_⟩⟩
  · decide +kernel
  · decide +kernel
  · decide +kernel

/-- A pairing, a rotation with its replay, and a revocation. -/
theorem grant_locators_agree_sample : ∃ calls s,
    Run (Restrict (GrantStep sampleStore.credentialDigest)
      fun s call => call.careful sampleStore.credentialDigest s = true) GrantState.initial calls s ∧
    s.retired.length = 2 ∧ validateGrants s.db 40 = .ok () := by
  have hexec : (execAll (execWhen (fun s call => GrantCall.careful sampleStore.credentialDigest s call
        = true) fun s call => some (s.after sampleStore.credentialDigest call)) GrantState.initial
      (sampleOutbound 0 "a" 1 firstCredential ++
        [⟨10, .rotateRealmFleetGrant 1 31 secondCredential "second"⟩,
          ⟨20, .rotateRealmFleetGrant 1 31 secondCredential "second"⟩,
          ⟨30, .revokeRealmFleetGrant 1⟩])).map (fun s => s.retired.length) = some 2 := by
    decide +kernel
  have hstep : ∀ s call t, some (GrantState.after sampleStore.credentialDigest s call) = some t →
      GrantStep sampleStore.credentialDigest s call t := fun s call t h => (Option.some.inj h).symm
  obtain ⟨s, hrun, hretired⟩ := exists_run (restrict_of_execWhen hstep) hexec
  exact ⟨_, s, hrun, hretired, (grant_locators_agree _ hrun 40).2.1⟩

end RustyAuth
