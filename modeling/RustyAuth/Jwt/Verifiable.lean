/-
  Issued tokens and the keys that are served.

  A token stays verifiable if the stored set publishes its key until the token expires, and goes on
  doing so: then every set that the server reads later serves the key.  Maintenance keeps that
  where it is based on the stored set and, when it retires a key, on a recent time; but a server
  that signs with a key which another process has retired goes on until its own next tick, and the
  key is withdrawn by what the other process has written (`OrderlyTurn`).
-/
import RustyAuth.Jwt.Issuer

namespace RustyAuth

open RustyAuth.Library

/-- The set publishes the key until the time has passed. -/
def PublishesUntil (keyset : StoredKeySet) (kid : String) (exp : Nat) : Prop :=
  keyset.active.kid = kid ∨ ∃ retired ∈ keyset.retired, retired.kid = kid ∧ exp < retired.publishUntil

instance (keyset : StoredKeySet) (kid : String) (exp : Nat) :
    Decidable (PublishesUntil keyset kid exp) :=
  inferInstanceAs (Decidable (_ ∨ _))

/-- A set is maintained as it is stored, with a new kid; and when a key is retired, the time that
    was read is recent enough for the tokens that are signed with it. -/
def OrderlyWrite (ctx : IssuerContext) (s : KeyStore) :
    MaintenancePhase → MaintenanceInput → Prop
  | .loaded current _ keyset, .store new =>
      s.keyset = keyset ∧ new.kid ∉ s.drawn ∧ ∀ staged ∈ keyset.stagedKid, staged.2 ≤ current →
        s.clock + ctx.accessTokenSeconds < satAdd current ctx.rotation.overlapSeconds
  | _, _ => True

/-- Also, a token is signed with a key that the stored set publishes until the token expires. -/
def OrderlyTurn (ctx : IssuerContext) (world : IssuerWorld) (l : Nat × IssuerInput) : Prop :=
  match world.task l.1, l.2 with
  | .issuing iat, .sign =>
      PublishesUntil world.shared.store.keyset world.shared.runtime.activeKid
        (iat + ctx.accessTokenSeconds)
  | .process phase, .process input => OrderlyWrite ctx world.shared.store phase input
  | _, .server input => OrderlyWrite ctx world.shared.store world.shared.server input
  | _, _ => True

instance (ctx : IssuerContext) (s : KeyStore) (phase : MaintenancePhase)
    (input : MaintenanceInput) : Decidable (OrderlyWrite ctx s phase input) := by
  unfold OrderlyWrite
  split <;> infer_instance

instance (ctx : IssuerContext) (world : IssuerWorld) (l : Nat × IssuerInput) :
    Decidable (OrderlyTurn ctx world l) := by
  unfold OrderlyTurn
  split <;> infer_instance

/-! ## What maintenance does to a set -/

variable {kid : String} {phase : MaintenancePhase} {s : IssuerState} {ctx : IssuerContext}
  {input : MaintenanceInput} {runtime : RuntimeKeySet} {turn : IssuerTurn}

section Maintained

variable {rotation : SigningRotationConfig} {current : Nat} {new : GeneratedKey}
  {keyset keyset' : StoredKeySet}

theorem stagedKid_mem_kids {activateAt : Nat} (h : keyset.stagedKid = some (kid, activateAt)) :
    kid ∈ keyset.kids := by
  unfold StoredKeySet.stagedKid at h
  obtain ⟨staged, hstaged, heq⟩ := Option.map_eq_some_iff.mp h
  cases heq
  unfold StoredKeySet.kids
  rw [hstaged]
  exact List.mem_cons_of_mem _ (List.mem_append_left _ (List.mem_singleton_self _))

theorem active_mem_kids (keyset : StoredKeySet) : keyset.active.kid ∈ keyset.kids :=
  List.mem_cons_self

theorem retired_mem_kids {retired : RetiredPublicKey} (h : retired ∈ keyset.retired) :
    retired.kid ∈ keyset.kids :=
  List.mem_cons_of_mem _ (List.mem_append_right _ (List.mem_map_of_mem h))

/-- The staged key of a valid set does not sign. -/
theorem ValidKeySet.active_not_staged (h : ValidKeySet keyset) (activateAt : Nat) :
    keyset.stagedKid ≠ some (keyset.active.kid, activateAt) := by
  intro hstaged
  obtain ⟨staged, hsome, heq⟩ := Option.map_eq_some_iff.mp hstaged
  have hnot := (List.nodup_cons.mp h.nodup).1
  rw [hsome] at hnot
  refine hnot (List.mem_append_left _ ?_)
  rw [← (Prod.mk.inj heq).1]
  exact List.mem_singleton_self _

theorem ValidKeySet.active_not_retired (h : ValidKeySet keyset) {retired : RetiredPublicKey}
    (hmem : retired ∈ keyset.retired) : retired.kid ≠ keyset.active.kid := by
  intro heq
  have hnot := (List.nodup_cons.mp h.nodup).1
  exact hnot (List.mem_append_right _ (heq ▸ List.mem_map_of_mem hmem))

variable (h : Maintained rotation current new keyset keyset')

include h

/-- What is published until later than the time that was read stays so. -/
theorem Maintained.publishes (hvalid : ValidKeySet keyset) {exp : Nat} (hexp : current ≤ exp)
    (hrecent : ∀ staged ∈ keyset.stagedKid, staged.2 ≤ current →
      exp < satAdd current rotation.overlapSeconds) (hpublishes : PublishesUntil keyset kid exp) :
    PublishesUntil keyset' kid exp := by
  obtain ⟨between, hactivated, hactive', hretired', _⟩ := h.activated
  unfold PublishesUntil
  rw [hactive', hretired']
  cases hactivated with
  | kept hactive _ hretired =>
    rw [hactive, hretired]
    refine hpublishes.imp_right ?_
    intro ⟨retired, hmem, hkid, hlt⟩
    refine ⟨retired, List.mem_filter.mpr ⟨hmem, decide_eq_true ?_⟩, hkid, hlt⟩
    omega
  | activated staged activateAt hstaged hdue _ _ hretired =>
    obtain ⟨jwk, hretired⟩ := hretired
    refine Or.inr ?_
    rw [hretired]
    rcases hpublishes with hactive | ⟨retired, hmem, hkid, hlt⟩
    · refine ⟨_, List.mem_append_right _ (List.mem_singleton_self _), hactive, ?_⟩
      exact hrecent (staged, activateAt) hstaged hdue
    · refine ⟨retired, List.mem_append_left _ (List.mem_filter.mpr ⟨?_, ?_⟩), hkid, hlt⟩
      · exact List.mem_filter.mpr ⟨hmem, decide_eq_true (by omega)⟩
      · exact decide_eq_true (hvalid.active_not_retired hmem)

/-- What is published afterwards was published before, unless it was staged. -/
theorem Maintained.published_before {exp : Nat}
    (hunstaged : ∀ activateAt, keyset.stagedKid ≠ some (kid, activateAt))
    (hpublishes : PublishesUntil keyset' kid exp) : PublishesUntil keyset kid exp := by
  obtain ⟨between, hactivated, hactive', hretired', _⟩ := h.activated
  unfold PublishesUntil at hpublishes
  rw [hactive', hretired'] at hpublishes
  cases hactivated with
  | kept hactive _ hretired =>
    rw [hactive, hretired] at hpublishes
    refine hpublishes.imp_right ?_
    intro ⟨retired, hmem, hkid, hlt⟩
    exact ⟨retired, (List.mem_filter.mp hmem).1, hkid, hlt⟩
  | activated staged activateAt hstaged _ hactive _ hretired =>
    obtain ⟨jwk, hretired⟩ := hretired
    rcases hpublishes with hkid | ⟨retired, hmem, hkid, hlt⟩
    · rw [hactive] at hkid
      exact absurd (hkid ▸ hstaged) (hunstaged activateAt)
    · rw [hretired] at hmem
      rcases List.mem_append.mp hmem with hmem | hmem
      · exact Or.inr ⟨retired, (List.mem_filter.mp (List.mem_filter.mp hmem).1).1, hkid, hlt⟩
      · rw [List.mem_singleton.mp hmem] at hkid
        exact Or.inl hkid

/-- A key is staged with a new kid, and keeps its time. -/
theorem Maintained.staged_before {activateAt : Nat}
    (hstaged : keyset'.stagedKid = some (kid, activateAt)) :
    keyset.stagedKid = some (kid, activateAt) ∨
      kid = new.kid ∧ activateAt = satAdd current rotation.prepublishSeconds := by
  obtain ⟨between, hactivated, _, _, hstaged'⟩ := h.activated
  rcases hstaged' with hsame | ⟨_, hnew⟩
  · rw [hsame] at hstaged
    cases hactivated with
    | kept _ hkept _ => exact Or.inl (hkept ▸ hstaged)
    | activated _ _ _ _ _ hnone _ =>
      rw [hnone] at hstaged
      cases hstaged
  · cases hnew.symm.trans hstaged
    exact Or.inr ⟨rfl, rfl⟩

/-- The key that signs did so before, or was staged and due. -/
theorem Maintained.active_before : keyset'.active.kid = keyset.active.kid ∨
    ∃ activateAt, keyset.stagedKid = some (keyset'.active.kid, activateAt) ∧ activateAt ≤ current := by
  obtain ⟨between, hactivated, hactive', _, _⟩ := h.activated
  rw [hactive']
  cases hactivated with
  | kept hactive _ _ => exact Or.inl hactive
  | activated staged activateAt hstaged hdue hactive _ _ =>
    exact Or.inr ⟨activateAt, hactive ▸ hstaged, hdue⟩

theorem Maintained.kids_before (hkid : kid ∈ keyset'.kids) :
    kid ∈ keyset.kids ∨ kid = new.kid := by
  rcases List.mem_cons.mp hkid with rfl | hmem
  · rcases h.active_before with hsame | ⟨activateAt, hstaged, _⟩
    · exact Or.inl (hsame ▸ active_mem_kids keyset)
    · exact Or.inl (stagedKid_mem_kids hstaged)
  · rcases List.mem_append.mp hmem with hmem | hmem
    · obtain ⟨staged, hstaged, rfl⟩ := List.mem_map.mp hmem
      have hstagedKid : keyset'.stagedKid = some (staged.key.kid, staged.activateAt) := by
        unfold StoredKeySet.stagedKid
        rw [Option.mem_toList.mp hstaged]
        rfl
      exact (h.staged_before hstagedKid).imp stagedKid_mem_kids And.left
    · obtain ⟨retired, hretired, rfl⟩ := List.mem_map.mp hmem
      refine Or.inl ?_
      obtain ⟨between, hactivated, _, hretired', _⟩ := h.activated
      rw [hretired'] at hretired
      cases hactivated with
      | kept _ _ hkept =>
        rw [hkept] at hretired
        exact retired_mem_kids (List.mem_filter.mp hretired).1
      | activated _ _ _ _ _ _ hadded =>
        obtain ⟨jwk, hadded⟩ := hadded
        rw [hadded] at hretired
        rcases List.mem_append.mp hretired with hretired | hretired
        · exact retired_mem_kids (List.mem_filter.mp (List.mem_filter.mp hretired).1).1
        · rw [List.mem_singleton.mp hretired]
          exact active_mem_kids keyset

end Maintained

/-! ## The invariant -/

/-- The time that a call of `maintain_at` has read has passed. -/
def ClockRead (clock : Nat) : MaintenancePhase → Prop
  | .started current => current ≤ clock
  | .refused current => current ≤ clock
  | .refreshing current _ => current ≤ clock
  | .locked current _ => current ≤ clock
  | .loaded current _ _ => current ≤ clock
  | .maintained current _ _ => current ≤ clock
  | _ => True

structure Verifiable (ctx : IssuerContext) (s : IssuerState) : Prop where
  valid : ValidKeySet s.store.keyset
  drawn : ∀ kid ∈ s.store.keyset.kids, kid ∈ s.store.drawn
  signing : s.runtime.activeKid ∈ s.runtime.kids
  known : s.runtime.activeKid ∈ s.store.drawn
  unstaged : ∀ activateAt, s.store.keyset.stagedKid ≠ some (s.runtime.activeKid, activateAt)
  lifetime : ∀ token ∈ s.issued, token.exp ≤ s.store.clock + ctx.accessTokenSeconds
  stored : ∀ token ∈ s.issued, s.store.clock ≤ token.exp →
    PublishesUntil s.store.keyset token.kid token.exp
  served : ∀ token ∈ s.issued, s.store.clock ≤ token.exp → token.kid ∈ s.runtime.kids

/-- A set that the server has read and is about to serve. -/
structure Pending (s : IssuerState) (keyset : StoredKeySet) : Prop where
  known : keyset.active.kid ∈ s.store.drawn
  unstaged : ∀ activateAt, s.store.keyset.stagedKid ≠ some (keyset.active.kid, activateAt)
  tokens : ∀ token ∈ s.issued, s.store.clock ≤ token.exp →
    PublishesUntil keyset token.kid token.exp
  -- the key that signs until then
  signing : ∀ exp, PublishesUntil s.store.keyset s.runtime.activeKid exp →
    PublishesUntil keyset s.runtime.activeKid exp

def ServerReads (s : IssuerState) : MaintenancePhase → Prop
  | .refreshing _ keyset => Pending s keyset
  | .maintained _ _ keyset => Pending s keyset
  | _ => True

def TaskReads (s : IssuerState) : IssuerTask → Prop
  | .idle => True
  | .issuing iat => iat ≤ s.store.clock
  | .process phase => ClockRead s.store.clock phase

structure IssuerInv (ctx : IssuerContext) (s : IssuerState) : Prop where
  verifiable : Verifiable ctx s
  clock : ClockRead s.store.clock s.server
  reads : ServerReads s s.server

theorem ClockRead.later {clock clock' : Nat} (h : clock ≤ clock') (hread : ClockRead clock phase) :
    ClockRead clock' phase := by
  cases phase <;> first | trivial | exact Nat.le_trans hread h

theorem TaskReads.later {s' : IssuerState} (h : s.store.clock ≤ s'.store.clock) {task : IssuerTask}
    (hreads : TaskReads s task) : TaskReads s' task := by
  cases task with
  | idle => trivial
  | issuing iat => exact Nat.le_trans hreads h
  | process phase => exact ClockRead.later h hreads

theorem ServerReads.imp {s' : IssuerState} (h : ∀ keyset, Pending s keyset → Pending s' keyset)
    (hreads : ServerReads s phase) : ServerReads s' phase := by
  cases phase with
  | refreshing current keyset => exact h keyset hreads
  | maintained current token keyset => exact h keyset hreads
  | _ => trivial

/-- Maintenance reads the clock first. -/
theorem ClockRead.step {store : KeyStore} {step : MaintenanceStep}
    (hread : ClockRead store.clock phase) (h : Maintains ctx store phase input step) :
    ClockRead step.store.clock step.phase := by
  cases h with
  | start => exact Nat.le_refl _
  | _ => trivial

theorem Maintains.clock {store : KeyStore} {step : MaintenanceStep}
    (h : Maintains ctx store phase input step) :
    step.store.clock = store.clock := by
  cases h <;> rfl

/-- The set that is stored is as good as pending. -/
theorem Verifiable.pending (h : Verifiable ctx s) :
    Pending s s.store.keyset :=
  ⟨h.drawn _ (active_mem_kids _), h.valid.active_not_staged, h.stored, fun _ hexp => hexp⟩

/-! ## Every turn -/

section Turns

variable {ctx : IssuerContext} {s : IssuerState}

section Write

variable {current : Nat} {new : GeneratedKey} {keyset : StoredKeySet}
  (hcurrent : current ≤ s.store.clock) (hnew : new.kid ∉ s.store.drawn)
  (hrecent : ∀ staged ∈ s.store.keyset.stagedKid, staged.2 ≤ current →
    s.store.clock + ctx.accessTokenSeconds < satAdd current ctx.rotation.overlapSeconds)
  (hmaintained : Maintained ctx.rotation current new s.store.keyset keyset)
  (hvalid : ValidKeySet keyset)

include hnew hmaintained

/-- A key that there has been is staged only if it was. -/
theorem unstaged_of_write (hknown : kid ∈ s.store.drawn)
    (hunstaged : ∀ activateAt, s.store.keyset.stagedKid ≠ some (kid, activateAt))
    (activateAt : Nat) :
    keyset.stagedKid ≠ some (kid, activateAt) := by
  intro hstaged
  rcases hmaintained.staged_before hstaged with hbefore | ⟨heq, _⟩
  · exact hunstaged activateAt hbefore
  · exact hnew (heq ▸ hknown)

include hcurrent hrecent hvalid in
theorem Verifiable.write (h : Verifiable ctx s) :
    Verifiable ctx { s with store := s.store.written ctx.rotation current keyset new } := by
  refine ⟨hvalid, ?_, h.signing, List.mem_cons_of_mem _ h.known,
    unstaged_of_write hnew hmaintained h.known h.unstaged, h.lifetime, ?_, h.served⟩
  · intro kid hkid
    rcases hmaintained.kids_before hkid with hbefore | rfl
    · exact List.mem_cons_of_mem _ (h.drawn kid hbefore)
    · exact List.mem_cons_self
  · intro token hmem hexp
    have hexp : s.store.clock ≤ token.exp := hexp
    have hlifetime := h.lifetime token hmem
    refine hmaintained.publishes h.valid (Nat.le_trans hcurrent hexp) ?_ (h.stored token hmem hexp)
    intro staged hstaged hdue
    have hlater := hrecent staged hstaged hdue
    omega

theorem Pending.write {read : StoredKeySet} (hpending : Pending s read) (h : Verifiable ctx s) :
    Pending { s with store := s.store.written ctx.rotation current keyset new } read := by
  refine ⟨List.mem_cons_of_mem _ hpending.known,
    unstaged_of_write hnew hmaintained hpending.known hpending.unstaged, hpending.tokens, ?_⟩
  intro exp hpublishes
  exact hpending.signing exp (hmaintained.published_before h.unstaged hpublishes)

end Write

/-- The lock is no part of it. -/
theorem IssuerInv.lock (h : IssuerInv ctx s) (lock : Option (String × Nat)) :
    IssuerInv ctx { s with store := { s.store with lock } } := by
  obtain ⟨⟨hvalid, hdrawn, hsigning, hknown, hunstaged, hlifetime, hstored, hserved⟩, hclock, hreads⟩ :=
    h
  refine ⟨⟨hvalid, hdrawn, hsigning, hknown, hunstaged, hlifetime, hstored, hserved⟩, hclock,
    hreads.imp fun _ hpending => ?_⟩
  exact ⟨hpending.known, hpending.unstaged, hpending.tokens, hpending.signing⟩

/-- The store after an access of another process. -/
theorem IssuerInv.process (h : IssuerInv ctx s) {step : MaintenanceStep}
    (hread : ClockRead s.store.clock phase) (horderly : OrderlyWrite ctx s.store phase input)
    (hstep : Maintains ctx s.store phase input step) :
    IssuerInv ctx { s with store := step.store } := by
  cases hstep with
  | lock lock => exact h.lock lock
  | release lock => exact h.lock lock
  | write hmaintained hvalid =>
    obtain ⟨rfl, hnew, hrecent⟩ := horderly
    exact ⟨h.verifiable.write hread hnew hrecent hmaintained hvalid, h.clock,
      h.reads.imp fun _ hpending => hpending.write hnew hmaintained h.verifiable⟩
  | _ => exact h

/-- The server serves a set that it has read. -/
theorem Verifiable.serve (h : Verifiable ctx s) {keyset : StoredKeySet} {current : Nat}
    (hcurrent : current ≤ s.store.clock) (hpending : Pending s keyset)
    (hruntime : runtimeKeyset ctx.ring keyset current = .ok runtime) :
    Verifiable ctx (s.serve runtime) := by
  have hactive := activeKid_runtimeKeyset hruntime
  have hkids := mem_kids_runtimeKeyset hruntime
  refine ⟨h.valid, h.drawn, ?_, ?_, ?_, h.lifetime, h.stored, ?_⟩
  · exact (hkids _).mpr (Or.inl hactive)
  · show runtime.activeKid ∈ s.store.drawn
    rw [hactive]
    exact hpending.known
  · show ∀ activateAt, s.store.keyset.stagedKid ≠ some (runtime.activeKid, activateAt)
    rw [hactive]
    exact hpending.unstaged
  · intro token hmem hexp
    have hexp : s.store.clock ≤ token.exp := hexp
    refine (hkids token.kid).mpr ?_
    rcases hpending.tokens token hmem hexp with hsigns | ⟨retired, hretired, hkid, hlt⟩
    · exact Or.inl hsigns.symm
    · exact Or.inr (Or.inr ⟨retired, hretired, hkid, by omega⟩)

/-- The server after an access of its own call; `phase` is where the call stood. -/
theorem IssuerInv.server {step : MaintenanceStep} (h : IssuerInv ctx s)
    (horderly : OrderlyWrite ctx s.store s.server input)
    (hstep : Maintains ctx s.store s.server input step) (hnone : step.installed = none) :
    IssuerInv ctx { s with store := step.store, server := step.phase } := by
  have hclock := h.clock.step hstep
  obtain ⟨hverifiable, hclocks, hreads⟩ := h.process h.clock horderly hstep
  refine ⟨⟨hverifiable.valid, hverifiable.drawn, hverifiable.signing, hverifiable.known,
    hverifiable.unstaged, hverifiable.lifetime, hverifiable.stored, hverifiable.served⟩, hclock, ?_⟩
  have hpending := hverifiable.pending
  generalize s.server = phase at horderly hstep
  cases hstep with
  | refresh => exact ⟨hpending.known, hpending.unstaged, hpending.tokens, hpending.signing⟩
  | write hmaintained hvalid =>
    exact ⟨hpending.known, hpending.unstaged, hpending.tokens, hpending.signing⟩
  | unchanged hmaintained hvalid =>
    obtain ⟨rfl, _⟩ := horderly
    exact ⟨hpending.known, hpending.unstaged, hpending.tokens, hpending.signing⟩
  | _ => trivial

/-- The server after it has served another set. -/
theorem IssuerInv.install {step : MaintenanceStep} (h : IssuerInv ctx s)
    (hstep : Maintains ctx s.store s.server input step)
    (hinstalled : step.installed = some runtime) :
    IssuerInv ctx (({ s with store := step.store, server := step.phase } : IssuerState).serve runtime) := by
  obtain ⟨hverifiable, hclock, hreads⟩ := h
  have hserve : ∀ {current keyset}, current ≤ s.store.clock → Pending s keyset →
      (runtimeKeyset ctx.ring keyset current).toOption = some runtime →
      Verifiable ctx (s.serve runtime) := by
    intro current keyset hcurrent hpending hruntime
    exact hverifiable.serve hcurrent hpending ((toOption_eq_some _ _).mp hruntime)
  have hnext : ∀ phase, Verifiable ctx (s.serve runtime) →
      Verifiable ctx (({ s with server := phase } : IssuerState).serve runtime) := fun phase hnext =>
    ⟨hnext.valid, hnext.drawn, hnext.signing, hnext.known, hnext.unstaged, hnext.lifetime,
      hnext.stored, hnext.served⟩
  generalize s.server = phase at hclock hreads hstep
  cases hstep with
  | serveRead => exact ⟨hnext _ (hserve hclock hreads hinstalled), trivial, trivial⟩
  | serve => exact ⟨hnext _ (hserve hclock hreads hinstalled), trivial, trivial⟩
  | _ => cases hinstalled

/-- A token is signed with a key that the stored set publishes until it expires. -/
theorem IssuerInv.sign (h : IssuerInv ctx s) {iat : Nat} (hiat : iat ≤ s.store.clock)
    (hpublishes : PublishesUntil s.store.keyset s.runtime.activeKid (iat + ctx.accessTokenSeconds)) :
    IssuerInv ctx { s with issued := signToken ctx s iat :: s.issued } := by
  obtain ⟨hverifiable, hclock, hreads⟩ := h
  refine ⟨⟨hverifiable.valid, hverifiable.drawn, hverifiable.signing, hverifiable.known,
    hverifiable.unstaged, ?_, ?_, ?_⟩, hclock, hreads.imp fun keyset hpending => ?_⟩
  · refine List.forall_mem_cons.mpr ⟨?_, hverifiable.lifetime⟩
    exact Nat.add_le_add_right hiat _
  · exact List.forall_mem_cons.mpr ⟨fun _ => hpublishes, hverifiable.stored⟩
  · exact List.forall_mem_cons.mpr ⟨fun _ => hverifiable.signing, hverifiable.served⟩
  · refine ⟨hpending.known, hpending.unstaged, ?_, hpending.signing⟩
    exact List.forall_mem_cons.mpr ⟨fun _ => hpending.signing _ hpublishes, hpending.tokens⟩

theorem IssuerInv.tick (h : IssuerInv ctx s) {now : Nat} (hnow : s.store.clock ≤ now) :
    IssuerInv ctx { s with store := { s.store with clock := now } } := by
  obtain ⟨hverifiable, hclock, hreads⟩ := h
  refine ⟨⟨hverifiable.valid, hverifiable.drawn, hverifiable.signing, hverifiable.known,
    hverifiable.unstaged, ?_, ?_, ?_⟩, hclock.later hnow, hreads.imp fun keyset hpending => ?_⟩
  · intro token hmem
    exact Nat.le_trans (hverifiable.lifetime token hmem) (Nat.add_le_add_right hnow _)
  · exact fun token hmem hexp => hverifiable.stored token hmem (Nat.le_trans hnow hexp)
  · exact fun token hmem hexp => hverifiable.served token hmem (Nat.le_trans hnow hexp)
  · exact ⟨hpending.known, hpending.unstaged,
      fun token hmem hexp => hpending.tokens token hmem (Nat.le_trans hnow hexp), hpending.signing⟩

/-- An access of the server's own maintenance. -/
theorem serverTurn_inv {task : IssuerTask} (h : IssuerInv ctx s) (htask : TaskReads s task)
    (horderly : OrderlyWrite ctx s.store s.server input)
    (hact : serverTurn ctx s task input = some turn) :
    IssuerInv ctx turn.shared ∧ TaskReads turn.shared turn.phase ∧
      s.store.clock ≤ turn.shared.store.clock := by
  obtain ⟨step, hmaintain, rfl⟩ := Option.map_eq_some_iff.mp hact
  have hstep := maintains_of_maintainAt hmaintain
  have hclock : s.store.clock ≤ step.store.clock := Nat.le_of_eq hstep.clock.symm
  dsimp only
  cases hinstalled : step.installed with
  | none => exact ⟨h.server horderly hstep hinstalled, htask.later hclock, hclock⟩
  | some runtime => exact ⟨h.install hstep hinstalled, htask.later hclock, hclock⟩

theorem processTurn_inv (h : IssuerInv ctx s) (hread : ClockRead s.store.clock phase)
    (horderly : OrderlyWrite ctx s.store phase input)
    (hact : processTurn ctx s phase input = some turn) :
    IssuerInv ctx turn.shared ∧ TaskReads turn.shared turn.phase ∧
      s.store.clock ≤ turn.shared.store.clock := by
  obtain ⟨step, hmaintain, rfl⟩ := Option.map_eq_some_iff.mp hact
  have hstep := maintains_of_maintainAt hmaintain
  exact ⟨h.process hread horderly hstep, hread.step hstep, Nat.le_of_eq hstep.clock.symm⟩

theorem issuerTurn_inv {world : IssuerWorld} {l : Nat × IssuerInput}
    (h : IssuerInv ctx world.shared) (htask : TaskReads world.shared (world.task l.1))
    (horderly : OrderlyTurn ctx world l)
    (hact : issuerTurn ctx world.shared (world.task l.1) l.2 = some turn) :
    IssuerInv ctx turn.shared ∧ TaskReads turn.shared turn.phase ∧
      world.shared.store.clock ≤ turn.shared.store.clock := by
  obtain ⟨i, input⟩ := l
  unfold OrderlyTurn at horderly
  dsimp only at htask horderly hact
  cases input with
  | tick now =>
    obtain ⟨hnow, hturn⟩ := Option.ite_none_right_eq_some.mp hact
    cases hturn
    exact ⟨h.tick hnow, htask.later hnow, hnow⟩
  | server input =>
    cases htaskEq : world.task i <;> rw [htaskEq] at htask horderly hact <;>
      exact serverTurn_inv h htask horderly hact
  | issue =>
    cases htaskEq : world.task i with
    | idle =>
      rw [htaskEq] at hact
      cases hact
      exact ⟨h, Nat.le_refl _, Nat.le_refl _⟩
    | _ =>
      rw [htaskEq] at hact
      cases hact
  | sign =>
    cases htaskEq : world.task i with
    | issuing iat =>
      rw [htaskEq] at htask horderly hact
      cases hact
      exact ⟨h.sign htask horderly, trivial, Nat.le_refl _⟩
    | _ =>
      rw [htaskEq] at hact
      cases hact
  | process input =>
    cases htaskEq : world.task i with
    | idle =>
      rw [htaskEq] at hact
      have hidle : ClockRead world.shared.store.clock .idle := trivial
      exact processTurn_inv h hidle trivial hact
    | process phase =>
      rw [htaskEq] at htask horderly hact
      exact processTurn_inv h htask horderly hact
    | issuing iat =>
      rw [htaskEq] at hact
      cases hact

end Turns

/-! ## Runs -/

abbrev IssuerWorldInv (ctx : IssuerContext) (world : IssuerWorld) : Prop :=
  Inv (fun s _ => IssuerInv ctx s) TaskReads world

theorem issuerWorldInv_start {clock : Nat} {keyset : StoredKeySet}
    (hruntime : runtimeKeyset ctx.ring keyset clock = .ok runtime) :
    IssuerWorldInv ctx (issuerStart clock keyset runtime) := by
  have hactive := activeKid_runtimeKeyset hruntime
  have hvalid : ValidKeySet keyset := by
    simp only [runtimeKeyset, bind_unit_eq_ok] at hruntime
    exact validKeySet_of_validateKeyset hruntime.1
  refine ⟨⟨⟨hvalid, fun _ hkid => hkid, ?_, ?_, ?_, List.forall_mem_nil _, List.forall_mem_nil _,
    List.forall_mem_nil _⟩, trivial, trivial⟩, fun _ => trivial⟩
  · exact (mem_kids_runtimeKeyset hruntime _).mpr (Or.inl hactive)
  · show runtime.activeKid ∈ keyset.kids
    rw [hactive]
    exact active_mem_kids keyset
  · show ∀ activateAt, keyset.stagedKid ≠ some (runtime.activeKid, activateAt)
    rw [hactive]
    exact hvalid.active_not_staged

theorem issuerWorldInv_turns {world world' : IssuerWorld} {l : Nat × IssuerInput}
    (h : IssuerWorldInv ctx world)
    (hturn : Restrict (IssuerTurns ctx) (OrderlyTurn ctx) world l world') :
    IssuerWorldInv ctx world' := by
  obtain ⟨horderly, hturn⟩ := hturn
  refine turns_inv h hturn fun turn hact => ?_
  obtain ⟨hinv, htask, hclock⟩ := issuerTurn_inv h.shared (h.tasks l.1) horderly hact
  exact ⟨hinv, htask, fun _ hother => hother.later hclock⟩

/-- In every orderly run the server serves the key of each token that it has issued until the
    token expires. -/
theorem tokens_stay_verifiable (ctx : IssuerContext) {clock : Nat} {keyset : StoredKeySet}
    {runtime : RuntimeKeySet} (hruntime : runtimeKeyset ctx.ring keyset clock = .ok runtime)
    {ls : List (Nat × IssuerInput)} {world : IssuerWorld}
    (run : Run (Restrict (IssuerTurns ctx) (OrderlyTurn ctx)) (issuerStart clock keyset runtime) ls
      world) :
    ∀ token ∈ world.shared.issued, world.shared.store.clock ≤ token.exp →
      token.kid ∈ world.shared.runtime.kids := by
  have hinv : IssuerWorldInv ctx world :=
    run.invariant (fun _ _ _ h hturn => issuerWorldInv_turns h hturn) (issuerWorldInv_start hruntime)
  exact hinv.shared.verifiable.served

/-- In every orderly run, whoever starts from the stored set serves the key of each token that
    has not expired, and the server signs with a key that it serves and that is not only staged. -/
theorem stored_keys_verify_tokens (ctx : IssuerContext) {clock : Nat} {keyset : StoredKeySet}
    {runtime : RuntimeKeySet} (hruntime : runtimeKeyset ctx.ring keyset clock = .ok runtime)
    {ls : List (Nat × IssuerInput)} {world : IssuerWorld}
    (run : Run (Restrict (IssuerTurns ctx) (OrderlyTurn ctx)) (issuerStart clock keyset runtime) ls
      world) :
    (∀ ring current started, runtimeKeyset ring world.shared.store.keyset current = .ok started →
      ∀ token ∈ world.shared.issued, world.shared.store.clock ≤ token.exp → current ≤ token.exp →
        token.kid ∈ started.kids) ∧
    world.shared.runtime.activeKid ∈ world.shared.runtime.kids ∧
    ∀ activateAt,
      world.shared.store.keyset.stagedKid ≠ some (world.shared.runtime.activeKid, activateAt) := by
  have hinv : IssuerWorldInv ctx world :=
    run.invariant (fun _ _ _ h hturn => issuerWorldInv_turns h hturn) (issuerWorldInv_start hruntime)
  have hverifiable := hinv.shared.verifiable
  refine ⟨?_, hverifiable.signing, hverifiable.unstaged⟩
  intro ring current started hstarted token htoken hlive hcurrent
  rw [mem_kids_runtimeKeyset hstarted]
  rcases hverifiable.stored token htoken hlive with hactive | ⟨retired, hretired, hkid, huntil⟩
  · exact Or.inl hactive.symm
  · exact Or.inr (Or.inr ⟨retired, hretired, hkid, Nat.lt_of_le_of_lt hcurrent huntil⟩)

/-! ### Sample runs -/

/-- The server looks once an hour, and keys overlap for ten minutes. -/
def sampleIssuer : IssuerContext where
  ring := ⟨"master-1", []⟩
  rotation := ⟨3600, 300, 600, 3600⟩
  accessTokenSeconds := 300

theorem sampleIssuer_accepted : SigningConfigAccepted sampleIssuer :=
  ⟨by decide, by decide, by decide, by decide, by decide, by decide⟩

/-- Created at 0. -/
def sampleKeySet : StoredKeySet where
  version := 1
  active := ⟨"key-0", ⟨"key-0", "x0", "y0"⟩, 0, "master-1"⟩
  staged := none
  retired := []

def sampleRuntime : RuntimeKeySet := ⟨"key-0", [⟨"key-0", "x0", "y0"⟩]⟩

/-- A call of `maintain_at` that takes the lock. -/
def sampleMaintenance (token kid : String) : List MaintenanceInput :=
  [.start, .acquire token, .read, .store ⟨kid, "x", "y"⟩, .install, .release]

/-- The server ticks at 3600 and stages a key, `keys status` activates it at 3900, the server signs
    with the first key at 7199 and ticks at 7200. -/
def sampleLateTick : List (Nat × IssuerInput) :=
  [(0, .tick 3600)] ++ (sampleMaintenance "lock-1" "key-1").map (fun input => (0, .server input)) ++
  [(1, .tick 3900)] ++ (sampleMaintenance "lock-2" "key-2").map (fun input => (1, .process input)) ++
  [(2, .tick 7199), (2, .issue), (2, .sign), (0, .tick 7200)] ++
  (sampleMaintenance "lock-3" "key-3").map (fun input => (0, .server input))

/-- The token expires at 7499, but at 7200 its key is not served any more. -/
theorem retired_key_signs_on : SigningConfigAccepted sampleIssuer ∧
    runtimeKeyset sampleIssuer.ring sampleKeySet 3599 = .ok sampleRuntime ∧ ∃ world,
    Run (IssuerTurns sampleIssuer) (issuerStart 3599 sampleKeySet sampleRuntime) sampleLateTick world ∧
    world.shared.store.clock = 7200 ∧ world.shared.issued = [⟨"key-0", 7199, 7499⟩] ∧
    world.shared.runtime.kids = ["key-1", "key-3"] := by
  have hexec : (execAll (takeTurn (issuerTurn sampleIssuer))
      (issuerStart 3599 sampleKeySet sampleRuntime) sampleLateTick).map (fun world =>
        (world.shared.store.clock, world.shared.issued, world.shared.runtime.kids)) =
      some (7200, [⟨"key-0", 7199, 7499⟩], ["key-1", "key-3"]) := by
    decide +kernel
  obtain ⟨world, run, hend⟩ := exists_run (turns_of_takeTurn _) hexec
  simp only [Prod.mk.injEq] at hend
  exact ⟨sampleIssuer_accepted, rfl, world, run, hend⟩

/-- The same, with a token at 4199 and a tick at 4200. -/
def sampleEarlyTick : List (Nat × IssuerInput) :=
  [(0, .tick 3600)] ++ (sampleMaintenance "lock-1" "key-1").map (fun input => (0, .server input)) ++
  [(1, .tick 3900)] ++ (sampleMaintenance "lock-2" "key-2").map (fun input => (1, .process input)) ++
  [(2, .tick 4199), (2, .issue), (2, .sign), (0, .tick 4200)] ++
  (sampleMaintenance "lock-3" "key-3").map (fun input => (0, .server input))

theorem tokens_stay_verifiable_sample :
    runtimeKeyset sampleIssuer.ring sampleKeySet 3599 = .ok sampleRuntime ∧ ∃ world,
    Run (Restrict (IssuerTurns sampleIssuer) (OrderlyTurn sampleIssuer))
      (issuerStart 3599 sampleKeySet sampleRuntime) sampleEarlyTick world ∧
    world.shared.issued = [⟨"key-0", 4199, 4499⟩] ∧ world.shared.runtime.activeKid = "key-1" ∧
    ∀ token ∈ world.shared.issued, world.shared.store.clock ≤ token.exp →
      token.kid ∈ world.shared.runtime.kids := by
  have hexec : (execAll (execWhen (OrderlyTurn sampleIssuer) (takeTurn (issuerTurn sampleIssuer)))
      (issuerStart 3599 sampleKeySet sampleRuntime) sampleEarlyTick).map (fun world =>
        (world.shared.issued, world.shared.runtime.activeKid)) =
      some ([⟨"key-0", 4199, 4499⟩], "key-1") := by
    decide +kernel
  obtain ⟨world, run, hend⟩ := exists_run (restrict_of_execWhen (turns_of_takeTurn _)) hexec
  simp only [Prod.mk.injEq] at hend
  have hruntime : runtimeKeyset sampleIssuer.ring sampleKeySet 3599 = .ok sampleRuntime := rfl
  exact ⟨hruntime, world, run, hend.1, hend.2, tokens_stay_verifiable sampleIssuer hruntime run⟩

/-- The same run; a process that starts at 4200 serves the key of the token. -/
theorem stored_keys_verify_tokens_sample : ∃ world started,
    Run (Restrict (IssuerTurns sampleIssuer) (OrderlyTurn sampleIssuer))
      (issuerStart 3599 sampleKeySet sampleRuntime) sampleEarlyTick world ∧
    runtimeKeyset sampleIssuer.ring world.shared.store.keyset 4200 = .ok started ∧
    ∀ token ∈ world.shared.issued, world.shared.store.clock ≤ token.exp → 4200 ≤ token.exp →
      token.kid ∈ started.kids := by
  have hexec : ((execAll (execWhen (OrderlyTurn sampleIssuer) (takeTurn (issuerTurn sampleIssuer)))
      (issuerStart 3599 sampleKeySet sampleRuntime) sampleEarlyTick).bind fun world =>
        (runtimeKeyset sampleIssuer.ring world.shared.store.keyset 4200).toOption).isSome := by
    decide +kernel
  obtain ⟨started, hexec⟩ := Option.isSome_iff_exists.mp hexec
  obtain ⟨world, hworld, hstarted⟩ := Option.bind_eq_some_iff.mp hexec
  have run := run_of_execAll (restrict_of_execWhen (turns_of_takeTurn _)) hworld
  rw [toOption_eq_some] at hstarted
  exact ⟨world, started, run, hstarted,
    (stored_keys_verify_tokens sampleIssuer rfl run).1 _ _ _ hstarted⟩

end RustyAuth
