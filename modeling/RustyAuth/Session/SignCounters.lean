/-
  The sign counters of passkeys, over interleaved sign-ins, step-ups and other changes.

  A call that changes accounts waits for the mutation lock, reads under it, and either is
  refused or commits what it computed and releases the lock; other calls of the service write
  other keys in between.  An assertion is a sign-in, which creates a session in the same commit,
  or a step-up, `apply_authentication`.  A commit whose answer is lost counts as accepted: the
  store has it.

  While a passkey stays enrolled its counter never goes down, and an accepted counter that says
  anything is above all that were accepted before (`clones_detected`).
-/
import RustyAuth.Session.Aging

namespace RustyAuth

open RustyAuth.Library

/-! ## Calls under the mutation lock -/

inductive MutationCall
  -- `apply_authentication_and_create_session`
  | signIn (userId : Uuid) (result : AuthenticationResult) (absoluteSeconds : Nat) (random : String)
      (id : Uuid)
  -- a step-up is the operation `apply_authentication`
  | operation (request : AccountRequest)

/-- What became of an assertion. -/
structure Verdict where
  userId : Uuid
  credentialId : String
  counter : Nat
  accepted : Bool
deriving DecidableEq

namespace MutationCall

def assertion : MutationCall → Option (Uuid × AuthenticationResult)
  | .signIn userId result _ _ _ => some (userId, result)
  | .operation (.applyAuthentication userId result) => some (userId, result)
  | .operation _ => none

def verdict (call : MutationCall) (accepted : Bool) : List Verdict :=
  call.assertion.toList.map fun (userId, result) =>
    ⟨userId, result.credentialId, result.counter, accepted⟩

/-- The id a registration draws. -/
def registers : MutationCall → Option Uuid
  | .signIn _ _ _ _ _ => none
  | .operation request => request.registers

/-- The commands a call comes to; `prepare_session` read the clock at `preparedAt`. -/
def run (ctx : SessionContext) (s : SessionState) (preparedAt : Nat) (eventId : Nat → Uuid) :
    MutationCall → Except AccountError (List Write)
  | .signIn userId result absoluteSeconds random id => do
      let (_, _, op) ← applyAuthenticationAndCreateSession ctx s ⟨s.clock, ctx.tenantId, eventId⟩
        userId result absoluteSeconds random id preparedAt
      return op.commands
  | .operation request => do
      let (_, op) ← request.run ctx.accounts s.db ⟨s.clock, ctx.tenantId, eventId⟩
      return op.commands

end MutationCall

inductive MutationTask
  | idle
  | waiting (call : MutationCall)
  | reading (call : MutationCall)
  | writing (call : MutationCall) (ws : List Write)

def MutationTask.holdsLock : MutationTask → Bool
  | .reading _ => true
  | .writing _ _ => true
  | _ => false

inductive MutationInput
  | tick (now : Nat)
  | call (call : MutationCall)
  | lock
  | read (preparedAt : Nat) (eventId : Nat → Uuid)
  | write
  -- the store refuses the commit
  | fail
  -- what other calls write, which is never an account
  | other (ws : List Write)
  | abandon

def Key.isUser : Key → Bool
  | .user _ => true
  | _ => false

abbrev MutationTurn := Turn SessionState MutationTask Verdict

def mutationTurn (ctx : SessionContext) (s : SessionState) (task : MutationTask)
    (input : MutationInput) : Option MutationTurn :=
  match task, input with
  | task, .tick now => if s.clock ≤ now then some ⟨{ s with clock := now }, task, []⟩ else none
  | .idle, .call call => some ⟨s, .waiting call, []⟩
  | .waiting call, .lock =>
      if s.locked = false then some ⟨{ s with locked := true }, .reading call, []⟩ else none
  | .reading call, .read preparedAt eventId =>
      match call.run ctx s preparedAt eventId with
      | .ok ws => some ⟨s, .writing call ws, []⟩
      | .error _ => some ⟨{ s with locked := false }, .idle, call.verdict false⟩
  | .writing call ws, .write =>
      some ⟨{ s.write ws [] with locked := false }, .idle, call.verdict true⟩
  | .writing call _, .fail => some ⟨{ s with locked := false }, .idle, call.verdict false⟩
  | .idle, .other ws =>
      if ∀ w ∈ ws, w.key.isUser = false then some ⟨s.write ws [], .idle, []⟩ else none
  | task, .abandon => some ⟨{ s with locked := s.locked && !task.holdsLock }, .idle, []⟩
  | _, _ => none

abbrev MutationWorld := World SessionState MutationTask Verdict

def mutationStart (db : Db) (clock : Nat) : MutationWorld where
  shared := ⟨db, clock, [], false, []⟩
  task _ := .idle
  history := []

/-- The turns of `mutationTurn`, one constructor for each way a turn can go. -/
inductive MutationStep (ctx : SessionContext) (s : SessionState) :
    MutationTask → MutationInput → MutationTurn → Prop
  | tick (task : MutationTask) {now : Nat} (hclock : s.clock ≤ now) :
      MutationStep ctx s task (.tick now) ⟨{ s with clock := now }, task, []⟩
  | call (call : MutationCall) :
      MutationStep ctx s .idle (.call call) ⟨s, .waiting call, []⟩
  | lock {call : MutationCall} (hfree : s.locked = false) :
      MutationStep ctx s (.waiting call) .lock ⟨{ s with locked := true }, .reading call, []⟩
  | read {call : MutationCall} {preparedAt : Nat} {eventId : Nat → Uuid} {ws : List Write}
      (hrun : call.run ctx s preparedAt eventId = .ok ws) :
      MutationStep ctx s (.reading call) (.read preparedAt eventId) ⟨s, .writing call ws, []⟩
  | write {call : MutationCall} {ws : List Write} :
      MutationStep ctx s (.writing call ws) .write
        ⟨{ s.write ws [] with locked := false }, .idle, call.verdict true⟩
  -- a refusal, by the checks or by the store
  | refuse {task : MutationTask} {input : MutationInput} (call : MutationCall)
      (hholds : task.holdsLock = true) :
      MutationStep ctx s task input ⟨{ s with locked := false }, .idle, call.verdict false⟩
  | other {ws : List Write} (hws : ∀ w ∈ ws, w.key.isUser = false) :
      MutationStep ctx s .idle (.other ws) ⟨s.write ws [], .idle, []⟩
  | abandon (task : MutationTask) :
      MutationStep ctx s task .abandon
        ⟨{ s with locked := s.locked && !task.holdsLock }, .idle, []⟩

variable {ctx : SessionContext} {s : SessionState} {task : MutationTask} {input : MutationInput}
  {f : StoredPasskey → StoredPasskey} {credentialId : String} {c : AccountCall} {new : User}
  {userId : Uuid}

theorem mutationTurn_step {turn : MutationTurn} (h : mutationTurn ctx s task input = some turn) :
    MutationStep ctx s task input turn := by
  unfold mutationTurn at h
  split at h
  case h_1 =>
    split at h
    · next hclock => cases h; exact .tick _ hclock
    · cases h
  case h_2 => cases h; exact .call _
  case h_3 =>
    split at h
    · next hfree => cases h; exact .lock hfree
    · cases h
  case h_4 =>
    split at h
    · next hrun => cases h; exact .read hrun
    · cases h; exact .refuse _ rfl
  case h_5 => cases h; exact .write
  case h_6 => cases h; exact .refuse _ rfl
  case h_7 =>
    split at h
    · next hws => cases h; exact .other hws
    · cases h
  case h_8 => cases h; exact .abandon _
  case h_9 => cases h

/-! ## What a call stores -/

def Db.passkey (db : Db) (now : Nat) (userId : Uuid) (credentialId : String) :
    Option StoredPasskey :=
  (db.get now (.user userId)).bind fun user => user.passkeys.find? (·.id = credentialId)

/-- The counter a call reports for a passkey. -/
def MutationCall.reports (call : MutationCall) (userId : Uuid) (credentialId : String) :
    Option Nat :=
  call.assertion.bind fun (id, result) =>
    if id = userId ∧ result.credentialId = credentialId then some result.counter else none

/-- The stored counter before and after a call that reports a counter or none. -/
def Advances (reported : Option Nat) (old new : Nat) : Prop :=
  match reported with
  | some next => counterRegressed old next = false ∧ new = max next old
  | none => new = old

theorem Advances.le {reported : Option Nat} {old new : Nat} (h : Advances reported old new) :
    old ≤ new := by
  cases reported with
  | none => exact Nat.le_of_eq h.symm
  | some next =>
    rw [h.2]
    exact Nat.le_max_right _ _

/-- What a call does to the counter of a passkey that stays enrolled. -/
def CounterMoves (reported : Option Nat) (credentialId : String)
    (old new : List StoredPasskey) : Prop :=
  ∀ passkey passkey', old.find? (·.id = credentialId) = some passkey →
    new.find? (·.id = credentialId) = some passkey' →
    Advances reported passkey.counter passkey'.counter

theorem CounterMoves.refl (credentialId : String) (passkeys : List StoredPasskey) :
    CounterMoves none credentialId passkeys passkeys := by
  intro passkey passkey' hold hnew
  rw [hold] at hnew
  cases hnew
  rfl

theorem CounterMoves.append (credentialId : String) (passkeys added : List StoredPasskey) :
    CounterMoves none credentialId passkeys (passkeys ++ added) := by
  intro passkey passkey' hold hnew
  rw [List.find?_append, hold, Option.some_or] at hnew
  cases hnew
  rfl

/-- The first passkey with an id is not touched by a change of the first with another. -/
theorem find?_modifyFirst_of_ne {id other : String} (hne : id ≠ other)
    (hf : ∀ passkey, (f passkey).id = passkey.id) (passkeys : List StoredPasskey) :
    (modifyFirst (·.id = other) f passkeys).find? (·.id = id) =
      passkeys.find? (·.id = id) := by
  induction passkeys with
  | nil => rfl
  | cons head tail ih =>
    unfold modifyFirst
    split
    · next hhead =>
      rw [decide_eq_true_eq] at hhead
      have hnot : decide (head.id = id) = false := by
        rw [hhead, decide_eq_false_iff_not]
        exact hne.symm
      rw [List.find?_cons, hf, hnot, List.find?_cons, hnot]
    · rw [List.find?_cons, List.find?_cons, ih]

theorem find?_modifyFirst_self {id : String} (hf : ∀ passkey, (f passkey).id = passkey.id)
    (passkeys : List StoredPasskey) :
    (modifyFirst (·.id = id) f passkeys).find? (·.id = id) =
      (passkeys.find? (·.id = id)).map f := by
  induction passkeys with
  | nil => rfl
  | cons head tail ih =>
    unfold modifyFirst
    split
    · next hhead => rw [List.find?_cons, hf, hhead, List.find?_cons, hhead, Option.map_some]
    · next hhead =>
      rw [Bool.not_eq_true] at hhead
      rw [List.find?_cons, hhead, List.find?_cons, hhead, ih]

theorem CounterMoves.modify {other : String} (hid : ∀ passkey, (f passkey).id = passkey.id)
    (hcounter : ∀ passkey, (f passkey).counter = passkey.counter) (passkeys : List StoredPasskey) :
    CounterMoves none credentialId passkeys (modifyFirst (·.id = other) f passkeys) := by
  intro passkey passkey' hold hnew
  by_cases hne : credentialId = other
  · subst hne
    rw [find?_modifyFirst_self hid, hold, Option.map_some] at hnew
    cases hnew
    exact hcounter passkey
  · rw [find?_modifyFirst_of_ne hne hid, hold] at hnew
    cases hnew
    rfl

/-- A passkey that another revocation leaves is the same. -/
theorem CounterMoves.revoke (credentialId other : String) (passkeys : List StoredPasskey) :
    CounterMoves none credentialId passkeys (passkeys.filter (·.id ≠ other)) := by
  intro passkey passkey' hold hnew
  have hkept : decide (passkey'.id ≠ other) = true :=
    (List.mem_filter.mp (List.mem_of_find?_eq_some hnew)).2
  have hid := List.find?_some hnew
  rw [decide_eq_true_eq] at hkept hid
  have hsame : (fun stored : StoredPasskey =>
      decide (decide (stored.id ≠ other) = true ∧ decide (stored.id = credentialId) = true)) =
      fun stored => decide (stored.id = credentialId) := by
    funext stored
    simp only [decide_eq_true_eq]
    refine decide_eq_decide.mpr ⟨And.right, fun hstored => ⟨?_, hstored⟩⟩
    rw [hstored, ← hid]
    exact hkept
  rw [List.find?_filter, hsame, hold] at hnew
  cases hnew
  rfl

theorem CounterMoves.assert {updateCredential : String → AuthenticationResult → Option String}
    {user : User} {result : AuthenticationResult} {call : MutationCall}
    (hcall : call.assertion = some (userId, result))
    (hresult : applyAuthenticationResult c updateCredential user result = .ok new)
    (credentialId : String) :
    CounterMoves (call.reports userId credentialId) credentialId user.passkeys new.passkeys := by
  simp only [applyAuthenticationResult, bind_eq_ok, ensure_eq_ok, okOr_eq_ok, pure_eq_ok,
    exists_const] at hresult
  obtain ⟨stored, hfound, hcounter, text, _, rfl⟩ := hresult
  unfold MutationCall.reports
  rw [hcall, Option.bind_some]
  dsimp only
  have hid : ∀ passkey : StoredPasskey, StoredPasskey.id
      { passkey with
        passkey := text, counter := max result.counter passkey.counter,
        lastUsedAt := some c.now } = passkey.id := fun _ => rfl
  intro passkey passkey' hold hnew
  by_cases hne : credentialId = result.credentialId
  · subst hne
    rw [hfound] at hold
    cases hold
    rw [find?_modifyFirst_self hid, hfound, Option.map_some] at hnew
    cases hnew
    rw [if_pos ⟨rfl, rfl⟩]
    exact ⟨Bool.eq_false_iff.mpr hcounter, rfl⟩
  · rw [find?_modifyFirst_of_ne hne hid, hold] at hnew
    cases hnew
    rw [if_neg fun hand => hne hand.2.symm]
    rfl

theorem withIdentifiers_passkeys (user : User) (identifiers : List AccountIdentifier) :
    (user.withIdentifiers identifiers).passkeys = user.passkeys := by
  unfold User.withIdentifiers User.syncLegacyEmail
  split <;> rfl

theorem AccountChange.counter {ctx : AccountContext} {read : User} {request : AccountRequest}
    (h : AccountChange ctx c userId read request new) (credentialId : String) :
    CounterMoves ((MutationCall.operation request).reports userId credentialId) credentialId
      read.passkeys new.passkeys := by
  cases h with
  | addIdentifier identifiers =>
    rw [withIdentifiers_passkeys]
    exact .refl _ _
  | removeIdentifier identifiers =>
    rw [withIdentifiers_passkeys]
    exact .refl _ _
  | setPrimaryIdentifier identifiers =>
    rw [withIdentifiers_passkeys]
    exact .refl _ _
  | setIdentifierVerification identifiers =>
    rw [withIdentifiers_passkeys]
    exact .refl _ _
  | updateProfile => exact .refl _ _
  | addPasskey => exact .append _ _ _
  | @renamePasskey _ label =>
    exact .modify (f := fun passkey => { passkey with label }) (fun _ => rfl) (fun _ => rfl) _
  | revokePasskey => exact .revoke _ _ _
  | applyAuthentication hresult => exact .assert rfl hresult _
  | rotateRecoveryCodes => exact .refl _ _
  | consumeRecoveryCode => exact .refl _ _
  | addRecoveryPasskey => exact .append _ _ _
  | revokeAllSessions => exact .refl _ _

/-- What an accepted call has read, and what its commands store. -/
theorem MutationCall.stores_of_run {preparedAt : Nat} {eventId : Nat → Uuid} {call : MutationCall}
    {ws : List Write} (hids : UnderIds s.db) (hrun : call.run ctx s preparedAt eventId = .ok ws) :
    ∃ id new, StoresUser ws id new ∧ new.id = id ∧
      (∀ other credentialId, other ≠ id → call.reports other credentialId = none) ∧
      (call.registers = some id ∨ ∃ stored, s.db.get s.clock (.user id) = some stored ∧
        ∀ credentialId, CounterMoves (call.reports id credentialId) credentialId
          stored.passkeys new.passkeys) := by
  cases call with
  | signIn userId result absoluteSeconds random id =>
    simp only [MutationCall.run, applyAuthenticationAndCreateSession, bind_eq_ok, pure_eq_ok,
      requireUser_eq_ok] at hrun
    obtain ⟨_, ⟨read, ⟨stored, hget, hread⟩, new, hresult, events, _, rfl⟩, rfl⟩ := hrun
    obtain ⟨_, _, hpasskeys⟩ := normalizeAndValidate_keeps hread
    refine ⟨userId, new, storesUser_signIn, ?_, ?_, Or.inr ⟨stored, hget, ?_⟩⟩
    · rw [applyAuthenticationResult_id hresult]
      exact read_id hids hget hread
    · intro other credentialId hother
      exact if_neg fun hand => hother hand.1.symm
    · intro credentialId
      rw [← hpasskeys]
      exact .assert rfl hresult credentialId
  | operation request =>
    simp only [MutationCall.run, bind_eq_ok, pure_eq_ok] at hrun
    obtain ⟨⟨user, op⟩, hrun, rfl⟩ := hrun
    obtain ⟨effect, heffect, hid, hchange⟩ := effect_of_run hids hrun
    refine ⟨effect.userId, effect.user, storesUser_operation heffect, hid, ?_, hchange.imp_right ?_⟩
    · intro other credentialId hother
      rcases hchange with hregisters | ⟨_, _, _, _, hchange⟩
      · cases request with
        | createUserWithPasskey => rfl
        | _ => cases hregisters
      · generalize effect.user = new at hchange
        cases hchange with
        | applyAuthentication hresult => exact if_neg fun hand => hother hand.1.symm
        | _ => rfl
    · rintro ⟨stored, read, hget, hread, hchange⟩
      obtain ⟨_, _, hpasskeys⟩ := normalizeAndValidate_keeps hread
      refine ⟨stored, hget, fun credentialId => ?_⟩
      rw [← hpasskeys]
      exact hchange.counter credentialId

/-! ## The accounts while a call holds the lock -/

/-- A registration draws an id that is not in use. -/
def DrawsNewId (s : SessionState) (call : MutationCall) : Prop :=
  ∀ id ∈ call.registers, s.db.get s.clock (.user id) = none

/-- What is about to be committed was computed from the accounts as they are. -/
def CommitReady (ctx : SessionContext) (s : SessionState) : MutationTask → Prop
  | .writing call ws => ∃ read : SessionState, read.clock ≤ s.clock ∧ DrawsNewId read call ∧
      (∃ preparedAt eventId, call.run ctx read preparedAt eventId = .ok ws) ∧
      ∀ t id, read.db.get t (.user id) = s.db.get t (.user id)
  | _ => True

theorem CommitReady.of_accounts {s' : SessionState} (h : CommitReady ctx s task)
    (hclock : s.clock ≤ s'.clock) (hsame : ∀ t id, s'.db.get t (.user id) = s.db.get t (.user id)) :
    CommitReady ctx s' task := by
  cases task with
  | writing call ws =>
    obtain ⟨read, hread, hnew, hrun, haccounts⟩ := h
    refine ⟨read, hread.trans hclock, hnew, hrun, ?_⟩
    intro t id
    rw [haccounts, hsame]
  | _ => trivial

section

variable {ctx : SessionContext} {s : SessionState} {call : MutationCall} {ws : List Write}
  (hids : UnderIds s.db) (hprepared : CommitReady ctx s (.writing call ws))

include hids hprepared

theorem underIds_commit (now : Nat) : UnderIds (commit now s.db ws) := by
  obtain ⟨read, _, _, ⟨preparedAt, eventId, hrun⟩, haccounts⟩ := hprepared
  have hread : UnderIds read.db := by
    intro id stored hget
    rw [haccounts] at hget
    exact hids id stored hget
  obtain ⟨id, new, hstores, hid, _⟩ := MutationCall.stores_of_run hread hrun
  exact hstores.underIds hid hids now

theorem advances_commit {now : Nat} {passkey passkey' : StoredPasskey}
    (hold : s.db.passkey s.clock userId credentialId = some passkey)
    (hnew : Db.passkey (commit now s.db ws) s.clock userId credentialId = some passkey') :
    Advances (call.reports userId credentialId) passkey.counter passkey'.counter := by
  obtain ⟨read, hclock, hdraws, ⟨preparedAt, eventId, hrun⟩, haccounts⟩ := hprepared
  have hread : UnderIds read.db := by
    intro id stored hget
    rw [haccounts] at hget
    exact hids id stored hget
  obtain ⟨id, new, hstores, _, hothers, hchange⟩ := MutationCall.stores_of_run hread hrun
  unfold Db.passkey at hold hnew
  obtain ⟨user, huser, hold⟩ := Option.bind_eq_some_iff.mp hold
  rw [hstores] at hnew
  by_cases hid : userId = id
  · subst hid
    rw [if_pos rfl, Option.bind_some] at hnew
    have hseen : read.db.get read.clock (.user userId) = some user := by
      rw [haccounts]
      exact Keyspace.get_mono hclock huser
    rcases hchange with hregisters | ⟨stored, hget, hmoves⟩
    · have hunused := hdraws userId hregisters
      rw [hseen] at hunused
      cases hunused
    · rw [hseen] at hget
      cases hget
      exact hmoves credentialId passkey passkey' hold hnew
  · rw [if_neg hid, huser, Option.bind_some, hold] at hnew
    cases hnew
    rw [hothers userId credentialId hid]
    rfl

end

/-! ## Accepted counters -/

/-- The counters accepted for a passkey that say anything, latest first. -/
def acceptedCounters (userId : Uuid) (credentialId : String) (history : List Verdict) : List Nat :=
  (history.filter fun verdict => verdict.accepted && verdict.userId = userId &&
    verdict.credentialId = credentialId && 0 < verdict.counter).map (·.counter)

theorem acceptedCounters_append (userId : Uuid) (credentialId : String)
    (history history' : List Verdict) :
    acceptedCounters userId credentialId (history' ++ history) =
      acceptedCounters userId credentialId history' ++
        acceptedCounters userId credentialId history := by
  unfold acceptedCounters
  rw [List.filter_append, List.map_append]

theorem acceptedCounters_refused (userId : Uuid) (credentialId : String) (call : MutationCall) :
    acceptedCounters userId credentialId (call.verdict false) = [] := by
  unfold acceptedCounters MutationCall.verdict
  cases call.assertion <;> rfl

theorem acceptedCounters_accepted (userId : Uuid) (credentialId : String) (call : MutationCall) :
    acceptedCounters userId credentialId (call.verdict true) =
      (call.reports userId credentialId).toList.filter (0 < ·) := by
  unfold acceptedCounters MutationCall.verdict MutationCall.reports
  cases call.assertion with
  | none => rfl
  | some assertion =>
    obtain ⟨id, result⟩ := assertion
    simp only [Option.toList_some, List.map_cons, List.map_nil, Option.bind_some]
    by_cases hpasskey : id = userId ∧ result.credentialId = credentialId
    · simp only [List.filter_cons, List.filter_nil, hpasskey.1, hpasskey.2, and_self, if_true,
        Option.toList_some, Bool.true_and, decide_true]
      split <;> rfl
    · rw [if_neg hpasskey]
      rw [not_and_or] at hpasskey
      rcases hpasskey with hne | hne
      · simp [hne]
      · simp [hne]

theorem pos_of_mem_acceptedCounters {history : List Verdict} {n : Nat}
    (h : n ∈ acceptedCounters userId credentialId history) :
    0 < n := by
  unfold acceptedCounters at h
  obtain ⟨verdict, hmem, rfl⟩ := List.mem_map.mp h
  have htest := (List.mem_filter.mp hmem).2
  rw [Bool.and_eq_true, decide_eq_true_eq] at htest
  exact htest.2

/-- The accepted counters and the stored one, with `enrolled` the counter at the start. -/
structure Increasing (enrolled stored : Nat) (accepted : List Nat) : Prop where
  descending : accepted.Pairwise (· > ·)
  above : 0 < enrolled → ∀ n ∈ accepted, enrolled < n
  enrolled : enrolled ≤ stored
  bounded : ∀ n ∈ accepted, n ≤ stored

/-- One call more: what it reports is new, or says nothing. -/
theorem Increasing.advance {enrolled old new : Nat} {accepted : List Nat} {reported : Option Nat}
    (h : Increasing enrolled old accepted) (hpos : ∀ n ∈ accepted, 0 < n)
    (hadvances : Advances reported old new) :
    Increasing enrolled new (reported.toList.filter (0 < ·) ++ accepted) := by
  cases reported with
  | none =>
    cases hadvances
    exact h
  | some next =>
    obtain ⟨hregressed, rfl⟩ := hadvances
    have hmore : ∀ n ∈ accepted, n ≤ max next old := fun n hn =>
      (h.bounded n hn).trans (Nat.le_max_right _ _)
    have henrolled : enrolled ≤ max next old := h.enrolled.trans (Nat.le_max_right _ _)
    by_cases hzero : 0 < next
    · have hsays : old = 0 ∨ old < next := by
        simp only [counterRegressed, Bool.and_eq_false_iff, decide_eq_false_iff_not] at hregressed
        omega
      rw [Option.toList_some, List.filter_singleton, decide_eq_true hzero]
      refine ⟨List.pairwise_cons.mpr ⟨?_, h.descending⟩, ?_, henrolled, ?_⟩
      · -- an earlier counter is stored, so the stored one is not zero
        intro n hn
        have hle := h.bounded n hn
        have hn := hpos n hn
        omega
      · intro hstarted
        have hstored := h.enrolled
        refine List.forall_mem_cons.mpr ⟨?_, h.above hstarted⟩
        omega
      · exact List.forall_mem_cons.mpr ⟨Nat.le_max_left _ _, hmore⟩
    · rw [Option.toList_some, List.filter_singleton, decide_eq_false hzero]
      exact ⟨h.descending, h.above, henrolled, hmore⟩

/-! ## Runs -/

/-- A turn after which the passkey is still enrolled. -/
def EnrolledTurn (ctx : SessionContext) (userId : Uuid) (credentialId : String)
    (world : MutationWorld) (l : Nat × MutationInput) (world' : MutationWorld) : Prop :=
  Turns (mutationTurn ctx) world l world' ∧
    (∀ call, world.task l.1 = .reading call → DrawsNewId world.shared call) ∧
    (world'.shared.db.passkey world'.shared.clock userId credentialId).isSome = true

/-- At most one task holds the lock, and then it is taken. -/
structure LockOwned (world : MutationWorld) : Prop where
  locked : ∀ i, (world.task i).holdsLock = true → world.shared.locked = true
  alone : ∀ i j, (world.task i).holdsLock = true → (world.task j).holdsLock = true → i = j

section

variable {ctx : SessionContext} {s : SessionState} {task : MutationTask} {input : MutationInput}
  {turn : MutationTurn}

/-- A task comes to hold the lock only when it is free, and releases none but its own. -/
theorem MutationStep.lock_spec (h : MutationStep ctx s task input turn) :
    (turn.phase.holdsLock = true →
      turn.shared.locked = true ∧ s.locked = false ∨
        turn.shared.locked = s.locked ∧ task.holdsLock = true) ∧
      (task.holdsLock = false → s.locked = true → turn.shared.locked = true) := by
  cases h with
  | tick => exact ⟨fun hholds => Or.inr ⟨rfl, hholds⟩, fun _ hlocked => hlocked⟩
  | call => exact ⟨Bool.noConfusion, fun _ hlocked => hlocked⟩
  | lock hfree => exact ⟨fun _ => Or.inl ⟨rfl, hfree⟩, fun _ _ => rfl⟩
  | read => exact ⟨fun _ => Or.inr ⟨rfl, rfl⟩, fun _ hlocked => hlocked⟩
  | write => exact ⟨Bool.noConfusion, Bool.noConfusion⟩
  | refuse call hholds =>
    refine ⟨Bool.noConfusion, fun hnot => ?_⟩
    rw [hholds] at hnot
    cases hnot
  | other => exact ⟨Bool.noConfusion, fun _ hlocked => hlocked⟩
  | abandon =>
    refine ⟨Bool.noConfusion, fun hnot hlocked => ?_⟩
    show (s.locked && !task.holdsLock) = true
    rw [hnot, hlocked]
    rfl

/-- A call writes nothing before its commit, and a commit accepts. -/
theorem MutationStep.writes (h : MutationStep ctx s task input turn) :
    turn.shared.db = s.db ∨ (∃ ws, input = .other ws) ∨
      ∃ call ws, task = .writing call ws ∧ input = .write ∧ turn.observed = call.verdict true := by
  cases h with
  | write => exact Or.inr (Or.inr ⟨_, _, rfl, rfl, rfl⟩)
  | other => exact Or.inr (Or.inl ⟨_, rfl⟩)
  | _ => exact Or.inl rfl

/-- Only a commit changes accounts. -/
theorem MutationStep.accounts (h : MutationStep ctx s task input turn) :
    s.clock ≤ turn.shared.clock ∧
      ((∃ call ws, task = .writing call ws ∧ turn.shared.clock = s.clock ∧
          turn.shared.db = commit s.clock s.db ws ∧ turn.phase = .idle ∧
          turn.observed = call.verdict true) ∨
        (∀ t id, turn.shared.db.get t (.user id) = s.db.get t (.user id)) ∧
          ∀ userId credentialId, acceptedCounters userId credentialId turn.observed = []) := by
  cases h with
  | tick _ hclock => exact ⟨hclock, Or.inr ⟨fun _ _ => rfl, fun _ _ => rfl⟩⟩
  | write => exact ⟨Nat.le_refl _, Or.inl ⟨_, _, rfl, rfl, rfl, rfl, rfl⟩⟩
  | refuse call =>
    exact ⟨Nat.le_refl _, Or.inr ⟨fun _ _ => rfl,
      fun userId credentialId => acceptedCounters_refused userId credentialId call⟩⟩
  | other hws =>
    refine ⟨Nat.le_refl _, Or.inr ⟨fun t id => ?_, fun _ _ => rfl⟩⟩
    refine get_commit_of_forall_ne _ _ _ _ _ fun w hw hkey => ?_
    have hnot := hws w hw
    rw [← hkey] at hnot
    cases hnot
  | _ => exact ⟨Nat.le_refl _, Or.inr ⟨fun _ _ => rfl, fun _ _ => rfl⟩⟩

end

theorem CommitReady.of_not_holds (h : task.holdsLock = false) : CommitReady ctx s task := by
  cases task with
  | writing => cases h
  | _ => trivial

theorem MutationStep.prepared {turn : MutationTurn} (h : MutationStep ctx s task input turn)
    (hprepared : CommitReady ctx s task)
    (hdraws : ∀ call, task = .reading call → DrawsNewId s call) :
    CommitReady ctx turn.shared turn.phase := by
  cases h with
  | tick _ hclock => exact hprepared.of_accounts hclock fun _ _ => rfl
  | read hrun => exact ⟨s, Nat.le_refl _, hdraws _ rfl, ⟨_, _, hrun⟩, fun _ _ => rfl⟩
  | _ => trivial

theorem LockOwned.take {world : MutationWorld} {i : Nat} {turn : MutationTurn} (h : LockOwned world)
    (hstep : MutationStep ctx world.shared (world.task i) input turn) :
    LockOwned (world.take i turn) := by
  obtain ⟨hacquire, hothers⟩ := hstep.lock_spec
  -- while another task holds the lock this one neither has it nor gets it
  have hexcluded : ∀ j, j ≠ i → (world.task j).holdsLock = true →
      turn.phase.holdsLock = false ∧ turn.shared.locked = true := by
    intro j hj hholds
    have hlocked := h.locked j hholds
    have hself : (world.task i).holdsLock = false :=
      Bool.eq_false_iff.mpr fun hself => hj (h.alone j i hholds hself)
    refine ⟨Bool.eq_false_iff.mpr fun hphase => ?_, hothers hself hlocked⟩
    rcases hacquire hphase with ⟨_, hfree⟩ | ⟨_, hown⟩
    · rw [hlocked] at hfree
      cases hfree
    · rw [hself] at hown
      cases hown
  have hheld : ∀ j, ((world.take i turn).task j).holdsLock = true →
      turn.shared.locked = true ∧ (j ≠ i → turn.phase.holdsLock = false) := by
    intro j hholds
    by_cases hj : j = i
    · subst hj
      rw [take_task_self] at hholds
      refine ⟨?_, fun hne => absurd rfl hne⟩
      rcases hacquire hholds with ⟨hlocked, _⟩ | ⟨hlocked, hown⟩
      · exact hlocked
      · rw [hlocked]
        exact h.locked j hown
    · rw [take_task_of_ne hj] at hholds
      obtain ⟨hphase, hlocked⟩ := hexcluded j hj hholds
      exact ⟨hlocked, fun _ => hphase⟩
  refine ⟨fun j hholds => (hheld j hholds).1, ?_⟩
  intro j k hj hk
  by_cases hji : j = i
  · by_cases hki : k = i
    · rw [hji, hki]
    · have hphase := (hheld k hk).2 hki
      rw [hji, take_task_self, hphase] at hj
      cases hj
  · by_cases hki : k = i
    · have hphase := (hheld j hj).2 hji
      rw [hki, take_task_self, hphase] at hk
      cases hk
    · rw [take_task_of_ne hji] at hj
      rw [take_task_of_ne hki] at hk
      exact h.alone j k hj hk

/-- What a run keeps while the passkey stays enrolled. -/
structure CounterTracked (ctx : SessionContext) (userId : Uuid) (credentialId : String)
    (enrolled : Nat) (world : MutationWorld) : Prop where
  ids : UnderIds world.shared.db
  lock : LockOwned world
  prepared : ∀ i, CommitReady ctx world.shared (world.task i)
  counter : ∃ passkey, world.shared.db.passkey world.shared.clock userId credentialId =
    some passkey ∧ Increasing enrolled passkey.counter
      (acceptedCounters userId credentialId world.history)

theorem Db.passkey_mono {db db' : Db} {now now' : Nat} {passkey : StoredPasskey}
    (hclock : now ≤ now') (hsame : ∀ t id, db'.get t (.user id) = db.get t (.user id))
    (h : db'.passkey now' userId credentialId = some passkey) :
    db.passkey now userId credentialId = some passkey := by
  unfold Db.passkey at h ⊢
  obtain ⟨user, huser, hfound⟩ := Option.bind_eq_some_iff.mp h
  rw [hsame] at huser
  rw [Keyspace.get_mono hclock huser, Option.bind_some]
  exact hfound

section

variable {ctx : SessionContext} {userId : Uuid} {credentialId : String} {enrolled : Nat}
  {world world' : MutationWorld} {l : Nat × MutationInput}

/-- One turn: the invariant, and the counter before and after. -/
theorem CounterTracked.turn (h : CounterTracked ctx userId credentialId enrolled world)
    (hturn : EnrolledTurn ctx userId credentialId world l world') :
    CounterTracked ctx userId credentialId enrolled world' ∧
      ∃ passkey passkey',
        world.shared.db.passkey world.shared.clock userId credentialId = some passkey ∧
        world'.shared.db.passkey world'.shared.clock userId credentialId = some passkey' ∧
        passkey.counter ≤ passkey'.counter := by
  obtain ⟨⟨turn, hact, rfl⟩, hdraws, henrolled⟩ := hturn
  have hstep := mutationTurn_step hact
  obtain ⟨passkey, hpasskey, hincreasing⟩ := h.counter
  obtain ⟨passkey', hpasskey'⟩ := Option.isSome_iff_exists.mp henrolled
  have hlock := h.lock.take hstep
  have hown := hstep.prepared (h.prepared l.1) hdraws
  have hhistory : acceptedCounters userId credentialId (world.take l.1 turn).history =
      acceptedCounters userId credentialId turn.observed ++
        acceptedCounters userId credentialId world.history := acceptedCounters_append _ _ _ _
  change turn.shared.db.passkey turn.shared.clock userId credentialId = some passkey' at hpasskey'
  obtain ⟨hclock, hcommit | ⟨hsame, hquiet⟩⟩ := hstep.accounts
  · obtain ⟨call, ws, htask, hnow, hdb, hphase, hobserved⟩ := hcommit
    have hprepared := h.prepared l.1
    rw [htask] at hprepared
    have hcommitted := hpasskey'
    rw [hdb, hnow] at hcommitted
    have hadvances := advances_commit h.ids hprepared hpasskey hcommitted
    have hincreasing' := hincreasing.advance (fun n => pos_of_mem_acceptedCounters) hadvances
    rw [← acceptedCounters_accepted, ← hobserved, ← hhistory] at hincreasing'
    refine ⟨⟨?_, hlock, ?_, passkey', hpasskey', hincreasing'⟩, passkey, passkey', hpasskey,
      hpasskey', hadvances.le⟩
    · show UnderIds turn.shared.db
      rw [hdb]
      exact underIds_commit h.ids hprepared _
    · intro j
      by_cases hj : j = l.1
      · rw [hj, take_task_self]
        exact hown
      · -- no other task is about to commit: this one held the lock
        rw [take_task_of_ne hj]
        refine .of_not_holds (Bool.eq_false_iff.mpr fun hholds => hj (h.lock.alone j l.1 hholds ?_))
        rw [htask]
        rfl
  · have hkept := Db.passkey_mono hclock hsame hpasskey'
    rw [hpasskey] at hkept
    cases hkept
    rw [hquiet, List.nil_append] at hhistory
    refine ⟨⟨?_, hlock, ?_, passkey, hpasskey', ?_⟩, passkey, passkey, hpasskey, hpasskey',
      Nat.le_refl _⟩
    · intro id stored hget
      exact h.ids id stored ((hsame 0 id).symm.trans hget)
    · exact forall_take hown fun j => (h.prepared j).of_accounts hclock hsame
    · rw [hhistory]
      exact hincreasing

end

theorem counterTracked_start (ctx : SessionContext) {db : Db} (hids : UnderIds db) {clock : Nat}
    {passkey : StoredPasskey} (henrolled : db.passkey clock userId credentialId = some passkey) :
    CounterTracked ctx userId credentialId passkey.counter (mutationStart db clock) where
  ids := hids
  lock := ⟨fun _ hholds => Bool.noConfusion hholds, fun _ _ hholds => Bool.noConfusion hholds⟩
  prepared _ := trivial
  counter := ⟨passkey, henrolled,
    ⟨.nil, fun _ _ hmem => absurd hmem List.not_mem_nil, Nat.le_refl _,
      fun _ hmem => absurd hmem List.not_mem_nil⟩⟩

/-- Whatever is done to the account while the passkey stays enrolled: its counter never goes
    down; the accepted counters that say anything increase, from above the one it was enrolled
    with; and nothing but the commit of an accepted call, or another call, writes. -/
theorem clones_detected (ctx : SessionContext) {db : Db} (hids : UnderIds db) {clock : Nat}
    {userId : Uuid} {credentialId : String} {enrolled : StoredPasskey}
    (henrolled : db.passkey clock userId credentialId = some enrolled)
    {ls : List (Nat × MutationInput)} {world : MutationWorld}
    (hrun : Run (EnrolledTurn ctx userId credentialId) (mutationStart db clock) ls world) :
    (∃ passkey, world.shared.db.passkey world.shared.clock userId credentialId = some passkey ∧
        enrolled.counter ≤ passkey.counter ∧
        ∀ l world', EnrolledTurn ctx userId credentialId world l world' → ∃ passkey',
          world'.shared.db.passkey world'.shared.clock userId credentialId = some passkey' ∧
          passkey.counter ≤ passkey'.counter) ∧
      (acceptedCounters userId credentialId world.history).reverse.Pairwise (· < ·) ∧
      (0 < enrolled.counter →
        ∀ n ∈ acceptedCounters userId credentialId world.history, enrolled.counter < n) ∧
      (∀ n, (acceptedCounters userId credentialId world.history).count n ≤ 1) ∧
      ∀ l world', Turns (mutationTurn ctx) world l world' →
        world'.shared.db = world.shared.db ∨ (∃ ws, l.2 = .other ws) ∨
          ∃ call ws, world.task l.1 = .writing call ws ∧ l.2 = .write ∧
            world'.history = call.verdict true ++ world.history := by
  have htracked : CounterTracked ctx userId credentialId enrolled.counter world :=
    Run.invariant (I := CounterTracked ctx userId credentialId enrolled.counter)
      (fun _ _ _ h hturn => (h.turn hturn).1) hrun (counterTracked_start ctx hids henrolled)
  obtain ⟨passkey, hpasskey, hincreasing⟩ := htracked.counter
  refine ⟨⟨passkey, hpasskey, hincreasing.enrolled, ?_⟩, ?_, hincreasing.above, ?_, ?_⟩
  · intro l world' hturn
    obtain ⟨_, passkey₀, passkey', hpasskey₀, hpasskey', hle⟩ := htracked.turn hturn
    rw [hpasskey] at hpasskey₀
    cases hpasskey₀
    exact ⟨passkey', hpasskey', hle⟩
  · rw [List.pairwise_reverse]
    exact hincreasing.descending
  · have hnodup : (acceptedCounters userId credentialId world.history).Nodup :=
      hincreasing.descending.imp fun hlt => Nat.ne_of_gt hlt
    exact fun n => List.nodup_iff_count_le_one.mp hnodup n
  · rintro l world' ⟨turn, hact, rfl⟩
    rcases (mutationTurn_step hact).writes with hdb | hother | ⟨call, ws, htask, hinput, hverdict⟩
    · exact Or.inl hdb
    · exact Or.inr (Or.inl hother)
    · exact Or.inr (Or.inr ⟨call, ws, htask, hinput, congrArg (· ++ world.history) hverdict⟩)

/-! ### A sample history -/

/-- Two assertions that report the same counter at the same time, one that reports none, and one
    that reports a later one. -/
def sampleAssertions : List (Nat × MutationInput) :=
  [(0, .call (.signIn 1 ⟨"cred-1", 5⟩ 600 sampleToken 50)),
    (1, .call (.operation (.applyAuthentication 1 ⟨"cred-1", 5⟩))),
    (0, .lock), (0, .read 3 fun _ => 900), (0, .write),
    (1, .lock), (1, .read 3 fun _ => 901),
    (1, .call (.operation (.applyAuthentication 1 ⟨"cred-1", 0⟩))),
    (1, .lock), (1, .read 3 fun _ => 902), (1, .write),
    (1, .call (.operation (.applyAuthentication 1 ⟨"cred-1", 7⟩))),
    (1, .lock), (1, .read 3 fun _ => 903), (1, .write)]

/-- A turn that leaves the passkey enrolled and registers nobody, computed. -/
def enrolledTurn (world : MutationWorld) (l : Nat × MutationInput) : Option MutationWorld :=
  (takeTurn (mutationTurn sampleSessions) world l).filter fun world' =>
    (match world.task l.1 with
      | .reading call => call.registers.isNone
      | _ => true) &&
    (world'.shared.db.passkey world'.shared.clock 1 "cred-1").isSome

theorem enrolledTurn_some (world : MutationWorld) (l : Nat × MutationInput) (world' : MutationWorld)
    (h : enrolledTurn world l = some world') :
    EnrolledTurn sampleSessions 1 "cred-1" world l world' := by
  obtain ⟨hturn, htest⟩ := Option.filter_eq_some_iff.mp h
  obtain ⟨hregisters, henrolled⟩ := Bool.and_eq_true_iff.mp htest
  refine ⟨turns_of_takeTurn _ _ _ _ hturn, ?_, henrolled⟩
  intro call htask id hid
  rw [htask] at hregisters
  rw [Option.isNone_iff_eq_none.mp hregisters] at hid
  cases hid

theorem clones_detected_sample : UnderIds holderRealm ∧
    (∃ enrolled, Db.passkey holderRealm 3 1 "cred-1" = some enrolled) ∧ ∃ world,
      Run (EnrolledTurn sampleSessions 1 "cred-1") (mutationStart holderRealm 3) sampleAssertions
        world ∧
      acceptedCounters 1 "cred-1" world.history = [7, 5] ∧
      (acceptedCounters 1 "cred-1" world.history).reverse.Pairwise (· < ·) := by
  have hexec : (execAll enrolledTurn (mutationStart holderRealm 3) sampleAssertions).map
      (fun world => acceptedCounters 1 "cred-1" world.history) = some [7, 5] := by decide +kernel
  obtain ⟨world, run, haccepted⟩ := exists_run enrolledTurn_some hexec
  have henrolled : Db.passkey holderRealm 3 1 "cred-1" =
      some ⟨"cred-1", "Phone", 0, 3, none, "key-1"⟩ := by decide +kernel
  exact ⟨underIds_holderRealm, ⟨_, henrolled⟩, world, run, haccepted,
    (clones_detected sampleSessions underIds_holderRealm henrolled run).2.1⟩

end RustyAuth
