/-
  Sessions: how one is made, and the policy that ends it.

  A session lies under the digest of its token, beside a timestamp of its last activity that is
  written later and may be lost.  `sessionVerdict` decides whether a session is still valid;
  whether it has run out of time is decided without the account (`sessionExpired`).
-/
import RustyAuth.Account.Operations

namespace RustyAuth

open RustyAuth.Library

/-- How a session came to exist. -/
inductive SessionOrigin
  | passkey (credentialId : String)
  -- the handoff to a native console, bound to the passkey that was confirmed for it
  | device (credentialId : String)
  | agent
deriving DecidableEq

namespace SessionOrigin

def authMethod : SessionOrigin → String
  | .passkey _ => "passkey"
  | .device _ => "device"
  | .agent => "agent"

def tokenPrefix : SessionOrigin → String
  | .device _ => "rdt_"
  | _ => ""

def credentialId : SessionOrigin → Option String
  | .passkey credentialId => some credentialId
  | .device credentialId => some credentialId
  | .agent => none

end SessionOrigin

/-- The token and the session; `random` is the text of 32 random bytes, `id` a new identifier. -/
def prepareSession (current : Nat) (user : User) (origin : SessionOrigin) (absoluteSeconds : Nat)
    (random : String) (id : Uuid) : String × Session :=
  (origin.tokenPrefix ++ random,
    { id
      userId := user.id
      authMethod := origin.authMethod
      currentCredentialId := origin.credentialId
      sessionVersion := user.sessionVersion
      createdAt := current
      stepUpAt := if origin.authMethod = "passkey" ∨ origin.authMethod = "device" then some current
        else none
      lastSeenAt := current
      absoluteExpiresAt := satAdd current absoluteSeconds })

/-! ## Expiry and verdict -/

inductive SessionVerdict
  | valid
  | absoluteExpiry
  | idleExpiry
  | versionRevoked
  | credentialRevoked
deriving DecidableEq

def sessionExpired (session : Session) (idleSeconds now : Nat) : Bool :=
  session.absoluteExpiresAt ≤ now || satAdd session.lastSeenAt idleSeconds ≤ now

def sessionVerdict (session : Session) (accountSessionVersion : Nat) (credentialIds : List String)
    (idleSeconds now : Nat) : SessionVerdict :=
  if session.absoluteExpiresAt ≤ now then .absoluteExpiry
  else if satAdd session.lastSeenAt idleSeconds ≤ now then .idleExpiry
  else if session.sessionVersion ≠ accountSessionVersion then .versionRevoked
  else if session.currentCredentialId.any (· ∉ credentialIds) then .credentialRevoked
  else .valid

/-- Activity that claims to come from the future is ignored. -/
def applySessionActivity (session : Session) (activity : Option Nat) (now : Nat) : Session :=
  match activity.filter (· ≤ now) with
  | none => session
  | some activity => { session with lastSeenAt := max session.lastSeenAt activity }

def maxSessionTouchIntervalSeconds : Nat := 5 * 60

def sessionTouchesPerIdleWindow : Nat := 6

def sessionTouchInterval (idleSeconds : Nat) : Nat :=
  min (max (idleSeconds / sessionTouchesPerIdleWindow) 1) maxSessionTouchIntervalSeconds

def sessionTouchDue (session : Session) (idleSeconds now : Nat) : Bool :=
  sessionTouchInterval idleSeconds ≤ now - session.lastSeenAt

/-- The session after a step-up with a passkey. -/
def Session.steppedUp (session : Session) (credentialId : String) (current : Nat) : Session :=
  { session with
    authMethod := "passkey"
    currentCredentialId := some credentialId
    stepUpAt := some current
    lastSeenAt := current }

/-! ### What the policy says -/

theorem satAdd_le (a b : Nat) : satAdd a b ≤ a + b := Nat.min_le_left _ _

theorem sessionExpired_eq_false {session : Session} {idleSeconds now : Nat} :
    sessionExpired session idleSeconds now = false ↔
      now < session.absoluteExpiresAt ∧ now < satAdd session.lastSeenAt idleSeconds := by
  unfold sessionExpired
  simp only [Bool.or_eq_false_iff, decide_eq_false_iff_not, Nat.not_le]

/-- A session is valid if it has not expired, has the account's version, and is bound to no
    passkey that the account has not. -/
theorem sessionVerdict_eq_valid {session : Session} {version : Nat} {credentialIds : List String}
    {idleSeconds now : Nat} :
    sessionVerdict session version credentialIds idleSeconds now = .valid ↔
      sessionExpired session idleSeconds now = false ∧ session.sessionVersion = version ∧
        ∀ credentialId, session.currentCredentialId = some credentialId →
          credentialId ∈ credentialIds := by
  have hbound : session.currentCredentialId.any (fun id => decide (id ∉ credentialIds)) = true ↔
      ¬∀ id, session.currentCredentialId = some id → id ∈ credentialIds := by
    cases session.currentCredentialId with
    | none => simp
    | some id => simp
  rw [sessionExpired_eq_false]
  unfold sessionVerdict
  split
  · next habsolute => simp [Nat.not_lt.mpr habsolute]
  · next habsolute =>
    split
    · next hidle => simp [Nat.not_lt.mpr hidle]
    · next hidle =>
      split
      · next hversion => simp [hversion]
      · next hversion =>
        rw [not_not] at hversion
        split
        · next hcredential => simp [hbound.mp hcredential]
        · next hcredential =>
          rw [hbound, not_not] at hcredential
          exact ⟨fun _ => ⟨⟨Nat.not_le.mp habsolute, Nat.not_le.mp hidle⟩, hversion, hcredential⟩,
            fun _ => rfl⟩

/-- Activity only moves the time a session was last seen, to a time that was observed. -/
theorem applySessionActivity_lastSeenAt (session : Session) (activity : Option Nat) (now : Nat) :
    (applySessionActivity session activity now).lastSeenAt = session.lastSeenAt ∨
      ∃ observedAt, activity = some observedAt ∧ observedAt ≤ now ∧
        (applySessionActivity session activity now).lastSeenAt = observedAt := by
  unfold applySessionActivity
  cases activity with
  | none => exact Or.inl rfl
  | some observedAt =>
    by_cases hle : observedAt ≤ now
    · simp only [Option.filter_some, hle, decide_true, if_true]
      rcases Nat.le_total observedAt session.lastSeenAt with h | h
      · exact Or.inl (Nat.max_eq_left h)
      · exact Or.inr ⟨observedAt, rfl, hle, Nat.max_eq_right h⟩
    · simp [Option.filter_some, hle]

/-- The rest of the session is as it was. -/
theorem applySessionActivity_eq (session : Session) (activity : Option Nat) (now : Nat) :
    ∃ lastSeenAt, applySessionActivity session activity now = { session with lastSeenAt } := by
  unfold applySessionActivity
  split
  · exact ⟨session.lastSeenAt, rfl⟩
  · exact ⟨_, rfl⟩

/-! ## Deferred activity -/

/-- An observed time, to be written later; its key is that of the digest. -/
structure SessionTouch where
  digest : String
  observedAt : Nat
  ttlSeconds : Nat
deriving DecidableEq

/-- The touches of a batch, one for each key. -/
abbrev SessionTouches := List (String × Nat × Nat)

/-- A touch replaces an older one of its key. -/
def insertLatestSessionTouch : SessionTouches → SessionTouch → SessionTouches
  | [], touch => [(touch.digest, touch.observedAt, touch.ttlSeconds)]
  | (digest, observedAt, ttlSeconds) :: touches, touch =>
      if digest = touch.digest then
        (if observedAt < touch.observedAt then (digest, touch.observedAt, touch.ttlSeconds)
        else (digest, observedAt, ttlSeconds)) :: touches
      else (digest, observedAt, ttlSeconds) :: insertLatestSessionTouch touches touch

/-- What the writer sends for the touches it has received. -/
def sessionTouchPipeline (received : List SessionTouch) : List Write :=
  (SessionOp.touchSessions (received.foldl insertLatestSessionTouch [])).commands

theorem mem_insertLatestSessionTouch {touches : SessionTouches} {touch : SessionTouch}
    {entry : String × Nat × Nat} (h : entry ∈ insertLatestSessionTouch touches touch) :
    entry ∈ touches ∨ entry = (touch.digest, touch.observedAt, touch.ttlSeconds) := by
  induction touches with
  | nil => exact Or.inr (List.mem_singleton.mp h)
  | cons head tail ih =>
    obtain ⟨digest, observedAt, ttlSeconds⟩ := head
    unfold insertLatestSessionTouch at h
    split at h
    · next hdigest =>
      rcases List.mem_cons.mp h with hhead | htail
      · split at hhead
        · exact Or.inr (hhead.trans (by rw [hdigest]))
        · exact Or.inl (hhead ▸ List.mem_cons_self)
      · exact Or.inl (List.mem_cons_of_mem _ htail)
    · rcases List.mem_cons.mp h with hhead | htail
      · exact Or.inl (hhead ▸ List.mem_cons_self)
      · exact (ih htail).imp_left (List.mem_cons_of_mem _)

/-- Each command writes one of the touches received. -/
theorem mem_sessionTouchPipeline {received : List SessionTouch} {w : Write}
    (h : w ∈ sessionTouchPipeline received) : ∃ touch ∈ received,
      w = .setEx (.sessionActivity touch.digest) touch.observedAt touch.ttlSeconds := by
  have hfold : ∀ (received : List SessionTouch) (touches : SessionTouches) (entry : String × Nat × Nat),
      entry ∈ received.foldl insertLatestSessionTouch touches → entry ∈ touches ∨
        ∃ touch ∈ received, entry = (touch.digest, touch.observedAt, touch.ttlSeconds) := by
    intro received
    induction received with
    | nil =>
      intro touches entry hentry
      exact Or.inl hentry
    | cons touch received ih =>
      intro touches entry hentry
      rcases ih _ entry hentry with hold | ⟨other, hother, heq⟩
      · rcases mem_insertLatestSessionTouch hold with hold | hnew
        · exact Or.inl hold
        · exact Or.inr ⟨touch, List.mem_cons_self, hnew⟩
      · exact Or.inr ⟨other, List.mem_cons_of_mem _ hother, heq⟩
  obtain ⟨entry, hentry, rfl⟩ := List.mem_map.mp h
  rcases hfold received [] entry hentry with hnil | ⟨touch, htouch, rfl⟩
  · cases hnil
  · exact ⟨touch, htouch, rfl⟩

end RustyAuth
