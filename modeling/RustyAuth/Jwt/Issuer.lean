/-
  The serving process, its tokens, and the other processes that maintain the key set.

  `maintain_at` reads the clock, takes the maintenance lock, reads the set, writes it back and
  replaces the set that the process serves.  Where the lock is held by another process it only
  reads the set and serves that.  The server does this at every tick of its own, one call at a
  time; the processes beside it (`keys status`, `doctor`) do it once, when they open the issuer.
  Between any two accesses the others may act and time may pass.

  A token is signed with the key of the set that the server holds, which may not be the stored one.
  `drawn` has every kid there has been, `planned` when each key that was staged is to take over, and
  `published` since when the server has served each kid without a break; no process reads them.
-/
import RustyAuth.Jwt.KeySet
import RustyAuth.Library.Tasks

namespace RustyAuth

open RustyAuth.Library

structure IssuerContext where
  ring : KeyRing
  rotation : SigningRotationConfig
  accessTokenSeconds : Nat

/-- The ranges that the configuration allows. -/
structure SigningConfigAccepted (ctx : IssuerContext) : Prop where
  access : 60 ≤ ctx.accessTokenSeconds ∧ ctx.accessTokenSeconds ≤ 900
  rotation : 3600 ≤ ctx.rotation.rotationSeconds ∧ ctx.rotation.rotationSeconds ≤ 31536000
  prepublish : 300 ≤ ctx.rotation.prepublishSeconds ∧ ctx.rotation.prepublishSeconds ≤ 86400
  overlap : ctx.accessTokenSeconds + 300 ≤ ctx.rotation.overlapSeconds ∧
    ctx.rotation.overlapSeconds ≤ 86400
  maintenance : 5 ≤ ctx.rotation.maintenanceSeconds ∧ ctx.rotation.maintenanceSeconds ≤ 3600
  shorter : ctx.rotation.prepublishSeconds < ctx.rotation.rotationSeconds

/-! ## Maintenance -/

structure KeyStore where
  clock : Nat
  keyset : StoredKeySet
  -- the token of the holder and when it lapses
  lock : Option (String × Nat)
  drawn : List String
  planned : List (String × Nat)

/-- Where `maintain_at` stands; `current` is the time it has read. -/
inductive MaintenancePhase
  | idle
  | started (current : Nat)
  -- the lock is held by another process
  | refused (current : Nat)
  | refreshing (current : Nat) (keyset : StoredKeySet)
  | locked (current : Nat) (token : String)
  | loaded (current : Nat) (token : String) (keyset : StoredKeySet)
  | maintained (current : Nat) (token : String) (keyset : StoredKeySet)
  | releasing (token : String)

inductive MaintenanceInput
  | start
  | acquire (token : String)
  | read
  | store (new : GeneratedKey)
  | install
  | release
  -- an error of the datastore or a crash; a lock that is held lapses by itself
  | abandon

/-- What an access leaves: the store, where the call stands, and the set it has made to serve. -/
structure MaintenanceStep where
  store : KeyStore
  phase : MaintenancePhase
  installed : Option RuntimeKeySet

def KeyStore.lockHeld (s : KeyStore) : Bool := s.lock.any fun (_, lapses) => s.clock < lapses

section

variable (ctx : IssuerContext) (s : KeyStore)

/-- `SET NX EX 60`. -/
def acquireMaintenanceLock (current : Nat) (token : String) : MaintenanceStep :=
  if s.lockHeld then ⟨s, .refused current, none⟩
  else
    ⟨{ s with lock := some (token, s.clock + 60) }, .locked current token, none⟩

/-- The store after a set was written. -/
def KeyStore.written (rotation : SigningRotationConfig) (current : Nat) (keyset : StoredKeySet)
    (new : GeneratedKey) : KeyStore :=
  { s with
    keyset
    drawn := new.kid :: s.drawn
    planned := (new.kid, satAdd current rotation.prepublishSeconds) :: s.planned }

/-- The set is written only if it has changed. -/
def maintainWhileLocked (current : Nat) (token : String) (keyset : StoredKeySet)
    (new : GeneratedKey) : MaintenanceStep :=
  let maintained := do
    let keyset ← maintainKeyset ctx.ring ctx.rotation current false false new keyset
    validateKeyset ctx.ring keyset
    return keyset
  match maintained with
  | .error _ => ⟨s, .releasing token, none⟩
  | .ok maintained =>
      if maintained ≠ keyset then
        ⟨s.written ctx.rotation current maintained new, .maintained current token maintained, none⟩
      else ⟨s, .maintained current token maintained, none⟩

def installRuntime (current : Nat) (keyset : StoredKeySet) (next : MaintenancePhase) :
    MaintenanceStep :=
  ⟨s, next, (runtimeKeyset ctx.ring keyset current).toOption⟩

/-- Only the holder's own lock is deleted. -/
def releaseMaintenanceLock (token : String) : MaintenanceStep :=
  ⟨{ s with lock := s.lock.filter fun (holder, _) => holder ≠ token }, .idle, none⟩

/-- One access of `maintain_at`. -/
def maintainAt (phase : MaintenancePhase) (input : MaintenanceInput) : Option MaintenanceStep :=
  match phase, input with
  | .idle, .start => some ⟨s, .started s.clock, none⟩
  | .started current, .acquire token => some (acquireMaintenanceLock s current token)
  | .refused current, .read => some ⟨s, .refreshing current s.keyset, none⟩
  | .refreshing current keyset, .install => some (installRuntime ctx s current keyset .idle)
  | .locked current token, .read => some ⟨s, .loaded current token s.keyset, none⟩
  | .loaded current token keyset, .store new =>
      some (maintainWhileLocked ctx s current token keyset new)
  | .maintained current token keyset, .install =>
      some (installRuntime ctx s current keyset (.releasing token))
  | .releasing token, .release => some (releaseMaintenanceLock s token)
  | _, .abandon => some ⟨s, .idle, none⟩
  | _, _ => none

end

/-! ## The server -/

structure IssuedToken where
  kid : String
  iat : Nat
  exp : Nat
deriving DecidableEq

structure IssuerState where
  store : KeyStore
  server : MaintenancePhase
  runtime : RuntimeKeySet
  issued : List IssuedToken
  published : List (String × Nat)

inductive IssuerTask
  | idle
  -- `issue` has read the clock
  | issuing (iat : Nat)
  -- another process
  | process (phase : MaintenancePhase)

inductive IssuerInput
  | tick (now : Nat)
  | issue
  | sign
  | server (input : MaintenanceInput)
  | process (input : MaintenanceInput)

/-- The server starts to sign with a key, which it has served since `since`. -/
structure SigningStart where
  kid : String
  time : Nat
  since : Option Nat
deriving DecidableEq

abbrev IssuerTurn := Turn IssuerState IssuerTask SigningStart

/-- Since when a kid has been served without a break. -/
def IssuerState.since (s : IssuerState) (kid : String) : Option Nat :=
  (s.published.find? (·.1 = kid)).map (·.2)

/-- The server serves another set, and signs with its key. -/
def IssuerState.serve (s : IssuerState) (runtime : RuntimeKeySet) : IssuerState :=
  { s with
    runtime
    published := runtime.kids.map fun kid => (kid, (s.since kid).getD s.store.clock) }

def serverTurn (ctx : IssuerContext) (s : IssuerState) (task : IssuerTask)
    (input : MaintenanceInput) : Option IssuerTurn :=
  (maintainAt ctx s.store s.server input).map fun step =>
    let next := { s with store := step.store, server := step.phase }
    match step.installed with
    | none => ⟨next, task, []⟩
    | some runtime =>
        ⟨next.serve runtime, task,
          if runtime.activeKid = s.runtime.activeKid then []
          else [⟨runtime.activeKid, s.store.clock, s.since runtime.activeKid⟩]⟩

def processTurn (ctx : IssuerContext) (s : IssuerState) (phase : MaintenancePhase)
    (input : MaintenanceInput) : Option IssuerTurn :=
  (maintainAt ctx s.store phase input).map fun step =>
    ⟨{ s with store := step.store }, .process step.phase, []⟩

def signToken (ctx : IssuerContext) (s : IssuerState) (iat : Nat) : IssuedToken where
  kid := s.runtime.activeKid
  iat
  exp := iat + ctx.accessTokenSeconds

def issuerTurn (ctx : IssuerContext) (s : IssuerState) (task : IssuerTask) (input : IssuerInput) :
    Option IssuerTurn :=
  match task, input with
  | task, .tick now =>
      if s.store.clock ≤ now then some ⟨{ s with store := { s.store with clock := now } }, task, []⟩
      else none
  | .idle, .issue => some ⟨s, .issuing s.store.clock, []⟩
  | .issuing iat, .sign => some ⟨{ s with issued := signToken ctx s iat :: s.issued }, .idle, []⟩
  | task, .server input => serverTurn ctx s task input
  | .idle, .process input => processTurn ctx s .idle input
  | .process phase, .process input => processTurn ctx s phase input
  | _, _ => none

abbrev IssuerWorld := World IssuerState IssuerTask SigningStart

abbrev IssuerTurns (ctx : IssuerContext) : IssuerWorld → Nat × IssuerInput → IssuerWorld → Prop :=
  Turns (issuerTurn ctx)

/-- The server has opened the issuer and begins to serve. -/
def issuerStart (clock : Nat) (keyset : StoredKeySet) (runtime : RuntimeKeySet) : IssuerWorld where
  shared := {
    store := ⟨clock, keyset, none, keyset.kids, keyset.stagedKid.toList⟩
    server := .idle
    runtime
    issued := []
    published := runtime.kids.map (·, clock) }
  task _ := .idle
  history := []

/-! ## What an access of maintenance does -/

/-- The ways `maintainAt` can go, with the set that is served afterwards. -/
inductive Maintains (ctx : IssuerContext) (s : KeyStore) :
    MaintenancePhase → MaintenanceInput → MaintenanceStep → Prop
  | start : Maintains ctx s .idle .start ⟨s, .started s.clock, none⟩
  | refuse {current : Nat} {token : String} :
      Maintains ctx s (.started current) (.acquire token) ⟨s, .refused current, none⟩
  | lock {current : Nat} {token : String} (lock : Option (String × Nat)) :
      Maintains ctx s (.started current) (.acquire token)
        ⟨{ s with lock }, .locked current token, none⟩
  | refresh {current : Nat} :
      Maintains ctx s (.refused current) .read ⟨s, .refreshing current s.keyset, none⟩
  | load {current : Nat} {token : String} :
      Maintains ctx s (.locked current token) .read ⟨s, .loaded current token s.keyset, none⟩
  | fail {current : Nat} {token : String} {keyset : StoredKeySet} {new : GeneratedKey} :
      Maintains ctx s (.loaded current token keyset) (.store new) ⟨s, .releasing token, none⟩
  | write {current : Nat} {token : String} {keyset keyset' : StoredKeySet} {new : GeneratedKey}
      (hmaintained : Maintained ctx.rotation current new keyset keyset')
      (hvalid : ValidKeySet keyset') :
      Maintains ctx s (.loaded current token keyset) (.store new)
        ⟨s.written ctx.rotation current keyset' new, .maintained current token keyset', none⟩
  | unchanged {current : Nat} {token : String} {keyset : StoredKeySet} {new : GeneratedKey}
      (hmaintained : Maintained ctx.rotation current new keyset keyset)
      (hvalid : ValidKeySet keyset) :
      Maintains ctx s (.loaded current token keyset) (.store new)
        ⟨s, .maintained current token keyset, none⟩
  | serveRead {current : Nat} {keyset : StoredKeySet} :
      Maintains ctx s (.refreshing current keyset) .install
        ⟨s, .idle, (runtimeKeyset ctx.ring keyset current).toOption⟩
  | serve {current : Nat} {token : String} {keyset : StoredKeySet} :
      Maintains ctx s (.maintained current token keyset) .install
        ⟨s, .releasing token, (runtimeKeyset ctx.ring keyset current).toOption⟩
  | release {token : String} (lock : Option (String × Nat)) :
      Maintains ctx s (.releasing token) .release ⟨{ s with lock }, .idle, none⟩
  | abandon (phase : MaintenancePhase) : Maintains ctx s phase .abandon ⟨s, .idle, none⟩

theorem maintains_of_maintainAt {ctx : IssuerContext} {s : KeyStore} {phase : MaintenancePhase}
    {input : MaintenanceInput} {step : MaintenanceStep} (h : maintainAt ctx s phase input = some step) :
    Maintains ctx s phase input step := by
  unfold maintainAt at h
  split at h
  · cases h
    exact .start
  · cases h
    unfold acquireMaintenanceLock
    split
    · exact .refuse
    · exact .lock _
  · cases h
    exact .refresh
  · cases h
    exact .serveRead
  · cases h
    exact .load
  · cases h
    unfold maintainWhileLocked
    dsimp only
    split
    · exact .fail
    · next hok =>
      simp only [bind_eq_ok, pure_eq_ok] at hok
      obtain ⟨keyset', hmaintain, _, hvalidate, rfl⟩ := hok
      have hmaintained := maintained_of_maintainKeyset hmaintain
      have hvalid := validKeySet_of_validateKeyset hvalidate
      split
      · exact .write hmaintained hvalid
      · next hsame =>
        rw [not_not] at hsame
        subst hsame
        exact .unchanged hmaintained hvalid
  · cases h
    exact .serve
  · cases h
    exact .release _
  · cases h
    exact .abandon _
  · cases h

end RustyAuth
