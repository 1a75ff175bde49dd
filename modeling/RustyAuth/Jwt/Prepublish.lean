/-
  Signing keys are published before they sign.

  A key takes over `prepublishSeconds` after it was staged.  The server has served it for that long
  if it began to in the second in which the key was staged (`LearnsInTime`); a key that another
  process has staged it learns only at its next tick, and then it may be due already.

  Each key that is staged has one time to take over (`planned`), in whatever set it appears, so it
  does not matter here in which order the processes write their sets.
-/
import RustyAuth.Jwt.Verifiable

namespace RustyAuth

open RustyAuth.Library

/-- The kids that are served of a set. -/
def StoredKeySet.servedKids (keyset : StoredKeySet) (current : Nat) : List String :=
  keyset.active.kid :: (keyset.stagedKid.toList.map (·.1) ++
    (keyset.retired.filter (current < ·.publishUntil)).map (·.kid))

/-- The server begins to serve a key only while it is staged, `prepublishSeconds` before it takes
    over. -/
def LearnsInTime (ctx : IssuerContext) (s : IssuerState) (current : Nat) (keyset : StoredKeySet) :
    Prop :=
  ∀ kid ∈ keyset.servedKids current, kid ∈ s.runtime.kids ∨
    ∃ staged ∈ keyset.stagedKid, staged.1 = kid ∧
      s.store.clock + ctx.rotation.prepublishSeconds ≤ staged.2

/-- A key is generated with a new kid. -/
def DrawsNew (s : KeyStore) : MaintenancePhase → MaintenanceInput → Prop
  | .loaded _ _ _, .store new => new.kid ∉ s.drawn
  | _, _ => True

def ServerInTime (ctx : IssuerContext) (s : IssuerState) : MaintenancePhase → MaintenanceInput → Prop
  | .refreshing current keyset, .install => LearnsInTime ctx s current keyset
  | .maintained current _ keyset, .install => LearnsInTime ctx s current keyset
  | phase, input => DrawsNew s.store phase input

def TimelyTurn (ctx : IssuerContext) (world : IssuerWorld) (l : Nat × IssuerInput) : Prop :=
  match world.task l.1, l.2 with
  | .process phase, .process input => DrawsNew world.shared.store phase input
  | _, .server input => ServerInTime ctx world.shared world.shared.server input
  | _, _ => True

instance (ctx : IssuerContext) (s : IssuerState) (current : Nat) (keyset : StoredKeySet) :
    Decidable (LearnsInTime ctx s current keyset) :=
  inferInstanceAs (Decidable (∀ _ ∈ _, _ ∨ _))

instance (s : KeyStore) (phase : MaintenancePhase) (input : MaintenanceInput) :
    Decidable (DrawsNew s phase input) := by
  unfold DrawsNew
  cases_type MaintenancePhase <;> cases_type MaintenanceInput <;> infer_instance

instance (ctx : IssuerContext) (s : IssuerState) (phase : MaintenancePhase)
    (input : MaintenanceInput) : Decidable (ServerInTime ctx s phase input) := by
  unfold ServerInTime
  cases_type MaintenancePhase <;> cases_type MaintenanceInput <;> infer_instance

instance (ctx : IssuerContext) (world : IssuerWorld) (l : Nat × IssuerInput) :
    Decidable (TimelyTurn ctx world l) := by
  unfold TimelyTurn
  generalize world.task l.1 = task
  generalize l.2 = input
  cases_type IssuerTask <;> cases_type IssuerInput <;> infer_instance

/-- The key was served for `prepublishSeconds` before the server signs with it. -/
def Prepublished (ctx : IssuerContext) (start : SigningStart) : Prop :=
  ∃ since, start.since = some since ∧ since + ctx.rotation.prepublishSeconds ≤ start.time

/-! ## The invariant -/

section Invariant

-- the key that the server began with, and when
variable (first : String) (began : Nat)

/-- The key may sign: it is the first one, or its time has come. -/
def TakenOver (store : KeyStore) (kid : String) : Prop :=
  kid = first ∨ ∃ activateAt, (kid, activateAt) ∈ store.planned ∧ activateAt ≤ store.clock

/-- A set that is stored, or that a process has read. -/
structure Planned (store : KeyStore) (keyset : StoredKeySet) : Prop where
  staged : ∀ kid activateAt, keyset.stagedKid = some (kid, activateAt) →
    (kid, activateAt) ∈ store.planned
  active : TakenOver first store keyset.active.kid
  drawn : ∀ kid ∈ keyset.kids, kid ∈ store.drawn

structure StorePlanned (store : KeyStore) : Prop where
  keyset : Planned first store store.keyset
  drawn : ∀ kid activateAt, (kid, activateAt) ∈ store.planned → kid ∈ store.drawn
  once : ∀ kid a b, (kid, a) ∈ store.planned → (kid, b) ∈ store.planned → a = b
  unplanned : ∀ activateAt, (first, activateAt) ∉ store.planned
  firstDrawn : first ∈ store.drawn

/-- What the server serves, and since when. -/
structure ServedPlanned (ctx : IssuerContext) (s : IssuerState) : Prop where
  kids : s.published.map (·.1) = s.runtime.kids
  drawn : ∀ kid ∈ s.runtime.kids, kid ∈ s.store.drawn
  inTime : ∀ kid since activateAt, (kid, since) ∈ s.published →
    (kid, activateAt) ∈ s.store.planned → since + ctx.rotation.prepublishSeconds ≤ activateAt
  firstSince : ∀ since, (first, since) ∈ s.published → since ≤ began
  notBefore : ∀ kid since, (kid, since) ∈ s.published → began ≤ since
  past : began ≤ s.store.clock
  moved : s.runtime.activeKid = first ∨ began + ctx.rotation.prepublishSeconds ≤ s.store.clock

/-- The set that a call has read is planned, and the time it has read has passed. -/
def PhasePlanned (store : KeyStore) : MaintenancePhase → Prop
  | .refreshing _ keyset => Planned first store keyset
  | .loaded _ _ keyset => Planned first store keyset
  | .maintained _ _ keyset => Planned first store keyset
  | _ => True

def CallPlanned (store : KeyStore) (phase : MaintenancePhase) : Prop :=
  ClockRead store.clock phase ∧ PhasePlanned first store phase

def TaskPlanned (s : IssuerState) : IssuerTask → Prop
  | .process phase => CallPlanned first s.store phase
  | _ => True

structure PrepublishInv (ctx : IssuerContext) (s : IssuerState) : Prop where
  store : StorePlanned first s.store
  served : ServedPlanned first began ctx s
  server : CallPlanned first s.store s.server

end Invariant

variable {ctx : IssuerContext} {first : String} {began : Nat}

/-! ### More is planned -/

structure PlansMore (store store' : KeyStore) : Prop where
  planned : ∀ entry ∈ store.planned, entry ∈ store'.planned
  drawn : ∀ kid ∈ store.drawn, kid ∈ store'.drawn
  clock : store.clock ≤ store'.clock

variable {kid : String} {phase : MaintenancePhase} {input : MaintenanceInput} {turn : IssuerTurn}

section More

variable {store store' : KeyStore} (h : PlansMore store store')

include h

theorem TakenOver.more (hkid : TakenOver first store kid) :
    TakenOver first store' kid := by
  refine hkid.imp_right ?_
  intro ⟨activateAt, hplanned, hclock⟩
  exact ⟨activateAt, h.planned _ hplanned, Nat.le_trans hclock h.clock⟩

theorem Planned.more {keyset : StoredKeySet} (hkeyset : Planned first store keyset) :
    Planned first store' keyset :=
  ⟨fun kid activateAt hstaged => h.planned _ (hkeyset.staged kid activateAt hstaged),
    TakenOver.more h hkeyset.active, fun kid hkid => h.drawn _ (hkeyset.drawn kid hkid)⟩

theorem CallPlanned.more (hcall : CallPlanned first store phase) :
    CallPlanned first store' phase := by
  obtain ⟨hclock, hphase⟩ := hcall
  refine ⟨hclock.later h.clock, ?_⟩
  cases phase with
  | refreshing current keyset => exact Planned.more h hphase
  | loaded current token keyset => exact Planned.more h hphase
  | maintained current token keyset => exact Planned.more h hphase
  | _ => trivial

end More

/-! ## Accesses of maintenance -/

section Write

variable {store : KeyStore} {current : Nat} {keyset keyset' : StoredKeySet} {new : GeneratedKey}

theorem plansMore_written : PlansMore store (store.written ctx.rotation current keyset' new) :=
  ⟨fun _ hmem => List.mem_cons_of_mem _ hmem, fun _ hmem => List.mem_cons_of_mem _ hmem,
    Nat.le_refl _⟩

/-- Maintenance of a planned set leaves one; the key it may stage is planned with it. -/
theorem Planned.written (h : Planned first store keyset) (hcurrent : current ≤ store.clock)
    (hmaintained : Maintained ctx.rotation current new keyset keyset') :
    Planned first (store.written ctx.rotation current keyset' new) keyset' := by
  refine ⟨?_, ?_, ?_⟩
  · intro kid activateAt hstaged
    rcases hmaintained.staged_before hstaged with hbefore | ⟨rfl, rfl⟩
    · exact List.mem_cons_of_mem _ (h.staged kid activateAt hbefore)
    · exact List.mem_cons_self
  · rcases hmaintained.active_before with hsame | ⟨activateAt, hstaged, hdue⟩
    · rw [hsame]
      exact TakenOver.more plansMore_written h.active
    · refine Or.inr ⟨activateAt, ?_, Nat.le_trans hdue hcurrent⟩
      exact List.mem_cons_of_mem _ (h.staged _ activateAt hstaged)
  · intro kid hkid
    rcases hmaintained.kids_before hkid with hbefore | rfl
    · exact List.mem_cons_of_mem _ (h.drawn kid hbefore)
    · exact List.mem_cons_self

theorem StorePlanned.written (h : StorePlanned first store) (hkeyset : Planned first store keyset)
    (hcurrent : current ≤ store.clock) (hnew : new.kid ∉ store.drawn)
    (hmaintained : Maintained ctx.rotation current new keyset keyset') :
    StorePlanned first (store.written ctx.rotation current keyset' new) := by
  refine ⟨hkeyset.written hcurrent hmaintained, ?_, ?_, ?_, List.mem_cons_of_mem _ h.firstDrawn⟩
  · intro kid activateAt hmem
    rcases List.mem_cons.mp hmem with heq | hold
    · cases heq
      exact List.mem_cons_self
    · exact List.mem_cons_of_mem _ (h.drawn kid activateAt hold)
  · intro kid a b ha hb
    rcases List.mem_cons.mp ha with heqa | holda
    · rcases List.mem_cons.mp hb with heqb | holdb
      · cases heqa
        cases heqb
        rfl
      · cases heqa
        exact absurd (h.drawn _ b holdb) hnew
    · rcases List.mem_cons.mp hb with heqb | holdb
      · cases heqb
        exact absurd (h.drawn _ a holda) hnew
      · exact h.once kid a b holda holdb
  · intro activateAt hmem
    rcases List.mem_cons.mp hmem with heq | hold
    · cases heq
      exact hnew h.firstDrawn
    · exact h.unplanned activateAt hold

theorem ServedPlanned.written {s : IssuerState} (h : ServedPlanned first began ctx s)
    (hnew : new.kid ∉ s.store.drawn) :
    ServedPlanned first began ctx
      { s with store := s.store.written ctx.rotation current keyset' new } := by
  refine ⟨h.kids, fun kid hkid => List.mem_cons_of_mem _ (h.drawn kid hkid), ?_, h.firstSince,
    h.notBefore, h.past, h.moved⟩
  intro kid since activateAt hpublished hplanned
  rcases List.mem_cons.mp hplanned with heq | hold
  · cases heq
    refine absurd (h.drawn _ ?_) hnew
    rw [← h.kids]
    exact List.mem_map_of_mem hpublished
  · exact h.inTime kid since activateAt hpublished hold

end Write

/-- What an access of maintenance leaves of the store, and of what the server serves meanwhile. -/
theorem store_planned {s : IssuerState} {step : MaintenanceStep}
    (hstore : StorePlanned first s.store) (hserved : ServedPlanned first began ctx s)
    (hcall : CallPlanned first s.store phase) (hnew : DrawsNew s.store phase input)
    (hstep : Maintains ctx s.store phase input step) :
    StorePlanned first step.store ∧ ServedPlanned first began ctx { s with store := step.store } ∧
      CallPlanned first step.store step.phase ∧ PlansMore s.store step.store := by
  have hsame : PlansMore s.store s.store := ⟨fun _ h => h, fun _ h => h, Nat.le_refl _⟩
  have hclock := hcall.1.step hstep
  have hphase := hcall.2
  -- the lock is no part of it
  have hlock : ∀ lock, StorePlanned first { s.store with lock } ∧
      ServedPlanned first began ctx { s with store := { s.store with lock } } ∧
      PlansMore s.store { s.store with lock } := fun lock =>
    ⟨⟨⟨hstore.keyset.staged, hstore.keyset.active, hstore.keyset.drawn⟩, hstore.drawn, hstore.once,
      hstore.unplanned, hstore.firstDrawn⟩, ⟨hserved.kids, hserved.drawn, hserved.inTime,
      hserved.firstSince, hserved.notBefore, hserved.past, hserved.moved⟩, hsame.planned, hsame.drawn, hsame.clock⟩
  cases hstep with
  | lock lock => exact ⟨(hlock lock).1, (hlock lock).2.1, ⟨hclock, trivial⟩, (hlock lock).2.2⟩
  | release lock => exact ⟨(hlock lock).1, (hlock lock).2.1, ⟨hclock, trivial⟩, (hlock lock).2.2⟩
  | refresh => exact ⟨hstore, hserved, ⟨hclock, hstore.keyset⟩, hsame⟩
  | load => exact ⟨hstore, hserved, ⟨hclock, hstore.keyset⟩, hsame⟩
  | write hmaintained hvalid =>
    exact ⟨hstore.written hphase hcall.1 hnew hmaintained, hserved.written hnew,
      ⟨hclock, hphase.written hcall.1 hmaintained⟩, plansMore_written⟩
  | unchanged hmaintained hvalid => exact ⟨hstore, hserved, ⟨hclock, hphase⟩, hsame⟩
  | _ => exact ⟨hstore, hserved, ⟨hclock, trivial⟩, hsame⟩

/-! ## The server begins to serve a set -/

section Serve

variable {s : IssuerState} {current : Nat} {keyset : StoredKeySet} {runtime : RuntimeKeySet}

theorem servedKids_runtimeKeyset (hruntime : runtimeKeyset ctx.ring keyset current = .ok runtime)
    (hkid : kid ∈ runtime.kids) : kid ∈ keyset.servedKids current := by
  rcases (mem_kids_runtimeKeyset hruntime kid).mp hkid with
    rfl | ⟨staged, hstaged, rfl⟩ | ⟨retired, hretired, rfl, hlt⟩
  · exact List.mem_cons_self
  · refine List.mem_cons_of_mem _ (List.mem_append_left _ ?_)
    unfold StoredKeySet.stagedKid
    rw [hstaged]
    exact List.mem_singleton_self _
  · refine List.mem_cons_of_mem _ (List.mem_append_right _ ?_)
    exact List.mem_map_of_mem (List.mem_filter.mpr ⟨hretired, decide_eq_true hlt⟩)

theorem servedKids_subset_kids (hkid : kid ∈ keyset.servedKids current) :
    kid ∈ keyset.kids := by
  rcases List.mem_cons.mp hkid with rfl | hmem
  · exact active_mem_kids keyset
  · rcases List.mem_append.mp hmem with hmem | hmem
    · obtain ⟨staged, hstaged, rfl⟩ := List.mem_map.mp hmem
      exact stagedKid_mem_kids (Option.mem_toList.mp hstaged)
    · obtain ⟨retired, hretired, rfl⟩ := List.mem_map.mp hmem
      exact retired_mem_kids (List.mem_filter.mp hretired).1

/-- What is served has been served since a time. -/
theorem ServedPlanned.since (h : ServedPlanned first began ctx s) (hkid : kid ∈ s.runtime.kids) :
    ∃ since, s.since kid = some since ∧ (kid, since) ∈ s.published := by
  rw [← h.kids] at hkid
  obtain ⟨entry, hentry, rfl⟩ := List.mem_map.mp hkid
  cases hfind : s.published.find? (·.1 = entry.1) with
  | none => exact absurd (List.find?_eq_none.mp hfind entry hentry) (by simp)
  | some found =>
    have hfound : found.1 = entry.1 := by
      have := List.find?_some hfind
      exact of_decide_eq_true this
    refine ⟨found.2, ?_, hfound ▸ List.mem_of_find?_eq_some hfind⟩
    unfold IssuerState.since
    rw [hfind]
    rfl

variable (hstore : StorePlanned first s.store) (hserved : ServedPlanned first began ctx s)
  (hkeyset : Planned first s.store keyset) (hlearns : LearnsInTime ctx s current keyset)
  (hruntime : runtimeKeyset ctx.ring keyset current = .ok runtime)

include hserved hkeyset hlearns hruntime

/-- A kid that is served now was so before, or it is staged and served in time. -/
theorem served_cases {since : Nat} (hmem : (kid, since) ∈ (s.serve runtime).published) :
    (kid, since) ∈ s.published ∨ since = s.store.clock ∧
      ∃ activateAt, (kid, activateAt) ∈ s.store.planned ∧
        s.store.clock + ctx.rotation.prepublishSeconds ≤ activateAt := by
  obtain ⟨_, hkid, heq⟩ := List.mem_map.mp hmem
  cases heq
  by_cases hbefore : kid ∈ s.runtime.kids
  · obtain ⟨since, hsince, hpublished⟩ := hserved.since hbefore
    rw [hsince]
    exact Or.inl hpublished
  · rcases hlearns kid (servedKids_runtimeKeyset hruntime hkid) with hkids | ⟨staged, hstaged, rfl, hin⟩
    · exact absurd hkids hbefore
    · have hnone : s.since staged.1 = none := by
        unfold IssuerState.since
        rw [Option.map_eq_none_iff, List.find?_eq_none]
        intro entry hentry heq
        rw [← hserved.kids] at hbefore
        exact hbefore (List.mem_map.mpr ⟨entry, hentry, of_decide_eq_true heq⟩)
      rw [hnone]
      exact Or.inr ⟨rfl, staged.2, hkeyset.staged _ _ hstaged, hin⟩

omit hkeyset in
/-- The key that signs in the new set was served before. -/
theorem active_served : ∃ since, s.since runtime.activeKid = some since ∧
    (runtime.activeKid, since) ∈ s.published := by
  have hvalid : ValidKeySet keyset := by
    simp only [runtimeKeyset, bind_unit_eq_ok] at hruntime
    exact validKeySet_of_validateKeyset hruntime.1
  have hactive := activeKid_runtimeKeyset hruntime
  rw [hactive]
  rcases hlearns keyset.active.kid List.mem_cons_self with hkids | ⟨staged, hstaged, hkid, _⟩
  · exact hserved.since hkids
  · exact absurd (hkid ▸ hstaged) (hvalid.active_not_staged staged.2)

theorem moved_serve : runtime.activeKid = first ∨
    began + ctx.rotation.prepublishSeconds ≤ s.store.clock := by
  obtain ⟨since, _, hpublished⟩ := active_served hserved hlearns hruntime
  have htaken := hkeyset.active
  rw [← activeKid_runtimeKeyset hruntime] at htaken
  refine htaken.imp_right ?_
  intro ⟨activateAt, hplanned, hclock⟩
  have hinTime := hserved.inTime _ since activateAt hpublished hplanned
  have hafter := hserved.notBefore _ since hpublished
  omega

/-- A key that begins to sign has been served long enough. -/
theorem prepublished_serve (hother : runtime.activeKid ≠ s.runtime.activeKid) :
    Prepublished ctx ⟨runtime.activeKid, s.store.clock, s.since runtime.activeKid⟩ := by
  obtain ⟨since, hsince, hpublished⟩ := active_served hserved hlearns hruntime
  refine ⟨since, hsince, ?_⟩
  show since + ctx.rotation.prepublishSeconds ≤ s.store.clock
  have htaken := hkeyset.active
  rw [← activeKid_runtimeKeyset hruntime] at htaken
  rcases htaken with hfirst | ⟨activateAt, hplanned, hclock⟩
  · -- it is back at the first key, so another has taken over meanwhile
    have hsince := hserved.firstSince since (hfirst ▸ hpublished)
    rcases hserved.moved with hsame | hlater
    · exact absurd (hfirst.trans hsame.symm) hother
    · omega
  · have hinTime := hserved.inTime _ since activateAt hpublished hplanned
    omega

include hstore

theorem ServedPlanned.serve : ServedPlanned first began ctx (s.serve runtime) := by
  have hcases {kid : String} {since : Nat} (hmem : (kid, since) ∈ (s.serve runtime).published) :=
    served_cases hserved hkeyset hlearns hruntime hmem
  have hmoved := moved_serve hserved hkeyset hlearns hruntime
  refine ⟨?_, ?_, ?_, ?_, ?_, hserved.past, hmoved⟩
  · unfold IssuerState.serve
    rw [List.map_map]
    exact List.map_id _
  · intro kid hkid
    exact hkeyset.drawn kid (servedKids_subset_kids (servedKids_runtimeKeyset hruntime hkid))
  · intro kid since activateAt hpublished hplanned
    rcases hcases hpublished with hbefore | ⟨rfl, activateAt', hplanned', hin⟩
    · exact hserved.inTime kid since activateAt hbefore hplanned
    · rw [hstore.once kid activateAt activateAt' hplanned hplanned']
      exact hin
  · intro since hpublished
    rcases hcases hpublished with hbefore | ⟨_, activateAt, hplanned, _⟩
    · exact hserved.firstSince since hbefore
    · exact absurd hplanned (hstore.unplanned activateAt)
  · intro kid since hpublished
    rcases hcases hpublished with hbefore | ⟨rfl, _⟩
    · exact hserved.notBefore kid since hbefore
    · exact hserved.past

end Serve

/-! ## Every turn -/

section Turns

variable {s : IssuerState}

theorem PrepublishInv.tick (h : PrepublishInv first began ctx s) {now : Nat}
    (hnow : s.store.clock ≤ now) :
    PrepublishInv first began ctx { s with store := { s.store with clock := now } } := by
  have hmore : PlansMore s.store { s.store with clock := now } := ⟨fun _ h => h, fun _ h => h, hnow⟩
  refine ⟨⟨h.store.keyset.more hmore, h.store.drawn, h.store.once, h.store.unplanned,
    h.store.firstDrawn⟩, ⟨h.served.kids, h.served.drawn, h.served.inTime, h.served.firstSince,
    h.served.notBefore, Nat.le_trans h.served.past hnow, ?_⟩, h.server.more hmore⟩
  exact h.served.moved.imp_right fun hlater => Nat.le_trans hlater hnow

theorem TaskPlanned.more {s' : IssuerState} (hmore : PlansMore s.store s'.store) {task : IssuerTask}
    (htask : TaskPlanned first s task) : TaskPlanned first s' task := by
  cases task with
  | process phase => exact CallPlanned.more hmore htask
  | _ => trivial

/-- The server after an access of its own call. -/
theorem PrepublishInv.serverStep {step : MaintenanceStep} (h : PrepublishInv first began ctx s)
    (htimely : ServerInTime ctx s s.server input)
    (hstep : Maintains ctx s.store s.server input step) :
    DrawsNew s.store s.server input ∧ ∀ runtime, step.installed = some runtime →
      step.store = s.store ∧ ServedPlanned first began ctx (s.serve runtime) ∧
      (runtime.activeKid ≠ s.runtime.activeKid →
        Prepublished ctx ⟨runtime.activeKid, s.store.clock, s.since runtime.activeKid⟩) := by
  obtain ⟨hstore, hserved, _, hphase⟩ := h
  have hserve : ∀ {current keyset runtime}, Planned first s.store keyset →
      LearnsInTime ctx s current keyset →
      (runtimeKeyset ctx.ring keyset current).toOption = some runtime →
      ServedPlanned first began ctx (s.serve runtime) ∧
      (runtime.activeKid ≠ s.runtime.activeKid →
        Prepublished ctx ⟨runtime.activeKid, s.store.clock, s.since runtime.activeKid⟩) := by
    intro current keyset runtime hkeyset hlearns hinstalled
    have hruntime := (toOption_eq_some _ _).mp hinstalled
    exact ⟨hserved.serve hstore hkeyset hlearns hruntime,
      prepublished_serve hserved hkeyset hlearns hruntime⟩
  generalize s.server = phase at htimely hstep hphase
  cases hstep with
  | serveRead => exact ⟨trivial, fun runtime hinstalled => ⟨rfl, hserve hphase htimely hinstalled⟩⟩
  | serve => exact ⟨trivial, fun runtime hinstalled => ⟨rfl, hserve hphase htimely hinstalled⟩⟩
  | fail => exact ⟨htimely, nofun⟩
  | write => exact ⟨htimely, nofun⟩
  | unchanged => exact ⟨htimely, nofun⟩
  | abandon =>
    refine ⟨?_, nofun⟩
    cases phase <;> trivial
  | _ => exact ⟨trivial, nofun⟩

theorem serverTurn_planned {task : IssuerTask} (h : PrepublishInv first began ctx s)
    (htimely : ServerInTime ctx s s.server input) (hact : serverTurn ctx s task input = some turn) :
    PrepublishInv first began ctx turn.shared ∧ turn.phase = task ∧
      (∀ start ∈ turn.observed, Prepublished ctx start) ∧ PlansMore s.store turn.shared.store := by
  obtain ⟨step, hmaintain, rfl⟩ := Option.map_eq_some_iff.mp hact
  have hstep := maintains_of_maintainAt hmaintain
  obtain ⟨hnew, hinstalls⟩ := h.serverStep htimely hstep
  obtain ⟨hstore, hserved, hcall, hmore⟩ := store_planned h.store h.served h.server hnew hstep
  dsimp only
  cases hinstalled : step.installed with
  | none =>
    refine ⟨⟨hstore, ⟨hserved.kids, hserved.drawn, hserved.inTime, hserved.firstSince,
      hserved.notBefore, hserved.past, hserved.moved⟩, hcall⟩, rfl, List.forall_mem_nil _, hmore⟩
  | some runtime =>
    obtain ⟨hsame, hserve, hprepublished⟩ := hinstalls runtime hinstalled
    refine ⟨⟨hstore, ?_, hcall⟩, rfl, ?_, hmore⟩
    · dsimp only
      rw [hsame]
      exact ⟨hserve.kids, hserve.drawn, hserve.inTime, hserve.firstSince, hserve.notBefore,
        hserve.past, hserve.moved⟩
    · dsimp only
      by_cases hother : runtime.activeKid = s.runtime.activeKid
      · rw [if_pos hother]
        exact List.forall_mem_nil _
      · rw [if_neg hother]
        exact List.forall_mem_singleton.mpr (hprepublished hother)

theorem processTurn_planned (h : PrepublishInv first began ctx s)
    (hcall : CallPlanned first s.store phase) (hnew : DrawsNew s.store phase input)
    (hact : processTurn ctx s phase input = some turn) :
    PrepublishInv first began ctx turn.shared ∧ TaskPlanned first turn.shared turn.phase ∧
      (∀ start ∈ turn.observed, Prepublished ctx start) ∧ PlansMore s.store turn.shared.store := by
  obtain ⟨step, hmaintain, rfl⟩ := Option.map_eq_some_iff.mp hact
  have hstep := maintains_of_maintainAt hmaintain
  obtain ⟨hstore, hserved, hcall, hmore⟩ := store_planned h.store h.served hcall hnew hstep
  exact ⟨⟨hstore, hserved, h.server.more hmore⟩, hcall, List.forall_mem_nil _, hmore⟩

theorem issuerTurn_planned {world : IssuerWorld} {l : Nat × IssuerInput}
    (h : PrepublishInv first began ctx world.shared)
    (htask : TaskPlanned first world.shared (world.task l.1)) (htimely : TimelyTurn ctx world l)
    (hact : issuerTurn ctx world.shared (world.task l.1) l.2 = some turn) :
    PrepublishInv first began ctx turn.shared ∧ TaskPlanned first turn.shared turn.phase ∧
      (∀ start ∈ turn.observed, Prepublished ctx start) ∧
      PlansMore world.shared.store turn.shared.store := by
  obtain ⟨i, input⟩ := l
  unfold TimelyTurn at htimely
  dsimp only at htask htimely hact
  have hsame : PlansMore world.shared.store world.shared.store :=
    ⟨fun _ h => h, fun _ h => h, Nat.le_refl _⟩
  cases input with
  | tick now =>
    obtain ⟨hnow, hturn⟩ := Option.ite_none_right_eq_some.mp hact
    cases hturn
    have hmore : PlansMore world.shared.store { world.shared.store with clock := now } :=
      ⟨fun _ h => h, fun _ h => h, hnow⟩
    exact ⟨h.tick hnow, htask.more hmore, List.forall_mem_nil _, hmore⟩
  | server input =>
    have hserver : ServerInTime ctx world.shared world.shared.server input ∧
        serverTurn ctx world.shared (world.task i) input = some turn := by
      cases htaskEq : world.task i <;> rw [htaskEq] at htimely hact <;> exact ⟨htimely, hact⟩
    obtain ⟨hinv, hphase, hstarts, hmore⟩ := serverTurn_planned h hserver.1 hserver.2
    exact ⟨hinv, hphase ▸ htask.more hmore, hstarts, hmore⟩
  | issue =>
    cases htaskEq : world.task i with
    | idle =>
      rw [htaskEq] at hact
      cases hact
      exact ⟨h, trivial, List.forall_mem_nil _, hsame⟩
    | _ =>
      rw [htaskEq] at hact
      cases hact
  | sign =>
    cases htaskEq : world.task i with
    | issuing iat =>
      rw [htaskEq] at hact
      cases hact
      obtain ⟨hstore, ⟨hkids, hdrawn, hinTime, hfirst, hafter, hpast, hmoved⟩, hserver⟩ := h
      exact ⟨⟨hstore, ⟨hkids, hdrawn, hinTime, hfirst, hafter, hpast, hmoved⟩, hserver⟩, trivial,
        List.forall_mem_nil _, hsame⟩
    | _ =>
      rw [htaskEq] at hact
      cases hact
  | process input =>
    cases htaskEq : world.task i with
    | idle =>
      rw [htaskEq] at hact
      have hidle : CallPlanned first world.shared.store .idle := ⟨trivial, trivial⟩
      exact processTurn_planned h hidle trivial hact
    | process phase =>
      rw [htaskEq] at htask htimely hact
      exact processTurn_planned h htask htimely hact
    | issuing iat =>
      rw [htaskEq] at hact
      cases hact

end Turns

/-! ## Runs -/

abbrev PrepublishWorldInv (first : String) (began : Nat) (ctx : IssuerContext) (world : IssuerWorld) :
    Prop :=
  Inv (fun s starts => PrepublishInv first began ctx s ∧ ∀ start ∈ starts, Prepublished ctx start)
    (TaskPlanned first) world

theorem prepublishWorldInv_start {clock : Nat} {keyset : StoredKeySet} {runtime : RuntimeKeySet}
    (hruntime : runtimeKeyset ctx.ring keyset clock = .ok runtime)
    (hstart : ∀ staged ∈ keyset.stagedKid, clock + ctx.rotation.prepublishSeconds ≤ staged.2) :
    PrepublishWorldInv keyset.active.kid clock ctx (issuerStart clock keyset runtime) := by
  have hvalid : ValidKeySet keyset := by
    simp only [runtimeKeyset, bind_unit_eq_ok] at hruntime
    exact validKeySet_of_validateKeyset hruntime.1
  have hplanned {kid : String} {activateAt : Nat}
      (hmem : (kid, activateAt) ∈ keyset.stagedKid.toList) :
      keyset.stagedKid = some (kid, activateAt) := Option.mem_toList.mp hmem
  have hpublished {kid : String} {since : Nat} (hmem : (kid, since) ∈ runtime.kids.map (·, clock)) :
      since = clock := by
    obtain ⟨_, _, heq⟩ := List.mem_map.mp hmem
    exact (Prod.mk.inj heq).2.symm
  refine ⟨⟨⟨⟨⟨?_, Or.inl rfl, fun _ hkid => hkid⟩, ?_, ?_, ?_, active_mem_kids keyset⟩,
    ⟨?_, ?_, ?_, ?_, ?_, Nat.le_refl _, Or.inl (activeKid_runtimeKeyset hruntime)⟩, trivial, trivial⟩,
    List.forall_mem_nil _⟩, fun _ => trivial⟩
  · exact fun kid activateAt hstaged => Option.mem_toList.mpr hstaged
  · exact fun kid activateAt hmem => stagedKid_mem_kids (hplanned hmem)
  · intro kid a b ha hb
    have heq := (hplanned ha).symm.trans (hplanned hb)
    exact (Prod.mk.inj (Option.some.inj heq)).2
  · exact fun activateAt hmem => hvalid.active_not_staged activateAt (hplanned hmem)
  · unfold issuerStart
    rw [List.map_map]
    exact List.map_id _
  · exact fun kid hkid => servedKids_subset_kids (servedKids_runtimeKeyset hruntime hkid)
  · intro kid since activateAt hmem hstaged
    rw [hpublished hmem]
    exact hstart (kid, activateAt) (hplanned hstaged)
  · exact fun since hmem => Nat.le_of_eq (hpublished hmem)
  · exact fun kid since hmem => Nat.le_of_eq (hpublished hmem).symm

theorem prepublishWorldInv_turns {world world' : IssuerWorld} {l : Nat × IssuerInput}
    (h : PrepublishWorldInv first began ctx world)
    (hturn : Restrict (IssuerTurns ctx) (TimelyTurn ctx) world l world') :
    PrepublishWorldInv first began ctx world' := by
  obtain ⟨htimely, hturn⟩ := hturn
  refine turns_inv h hturn fun turn hact => ?_
  obtain ⟨hinv, htask, hstarts, hmore⟩ := issuerTurn_planned h.shared.1 (h.tasks l.1) htimely hact
  refine ⟨⟨hinv, ?_⟩, htask, fun _ hother => hother.more hmore⟩
  exact fun start hmem => (List.mem_append.mp hmem).elim (hstarts start) (h.shared.2 start)

/-- In every timely run the server has served each key that it comes to sign with for
    `prepublishSeconds` without a break. -/
theorem signing_keys_prepublished (ctx : IssuerContext) {clock : Nat} {keyset : StoredKeySet}
    {runtime : RuntimeKeySet} (hruntime : runtimeKeyset ctx.ring keyset clock = .ok runtime)
    (hstart : ∀ staged ∈ keyset.stagedKid, clock + ctx.rotation.prepublishSeconds ≤ staged.2)
    {ls : List (Nat × IssuerInput)} {world : IssuerWorld}
    (run : Run (Restrict (IssuerTurns ctx) (TimelyTurn ctx)) (issuerStart clock keyset runtime) ls
      world) :
    ∀ start ∈ world.history, Prepublished ctx start := by
  have hinv : PrepublishWorldInv keyset.active.kid clock ctx world :=
    run.invariant (fun _ _ _ h hturn => prepublishWorldInv_turns h hturn)
      (prepublishWorldInv_start hruntime hstart)
  exact hinv.shared.2

/-! ### Sample runs -/

/-- `keys status` stages a key at 3600, and the server ticks at 7190. -/
def sampleUnseenKey : List (Nat × IssuerInput) :=
  [(1, .tick 3600)] ++ (sampleMaintenance "lock-1" "key-1").map (fun input => (1, .process input)) ++
  [(0, .tick 7190)] ++ (sampleMaintenance "lock-2" "key-2").map (fun input => (0, .server input))

/-- The server signs with a key that it has never served. -/
theorem unseen_key_signs : SigningConfigAccepted sampleIssuer ∧
    runtimeKeyset sampleIssuer.ring sampleKeySet 3590 = .ok sampleRuntime ∧ ∃ world,
    Run (IssuerTurns sampleIssuer) (issuerStart 3590 sampleKeySet sampleRuntime) sampleUnseenKey
      world ∧
    world.history = [⟨"key-1", 7190, none⟩] ∧ ∃ start ∈ world.history,
      ¬ Prepublished sampleIssuer start := by
  have hexec : (execAll (takeTurn (issuerTurn sampleIssuer))
      (issuerStart 3590 sampleKeySet sampleRuntime) sampleUnseenKey).map (·.history) =
      some [⟨"key-1", 7190, none⟩] := by
    decide +kernel
  obtain ⟨world, run, hhistory⟩ := exists_run (turns_of_takeTurn _) hexec
  refine ⟨sampleIssuer_accepted, rfl, world, run, hhistory, ?_⟩
  rw [hhistory]
  refine ⟨_, List.mem_singleton_self _, ?_⟩
  intro ⟨since, hsince, _⟩
  cases hsince

/-- The server stages a key at 3600 and serves it at once, `keys status` activates it at 3900, and
    the server ticks at 7200. -/
def sampleServedKey : List (Nat × IssuerInput) :=
  [(0, .tick 3600)] ++ (sampleMaintenance "lock-1" "key-1").map (fun input => (0, .server input)) ++
  [(1, .tick 3900)] ++ (sampleMaintenance "lock-2" "key-2").map (fun input => (1, .process input)) ++
  [(0, .tick 7200)] ++ (sampleMaintenance "lock-3" "key-3").map (fun input => (0, .server input))

theorem signing_keys_prepublished_sample :
    runtimeKeyset sampleIssuer.ring sampleKeySet 3590 = .ok sampleRuntime ∧ ∃ world,
    Run (Restrict (IssuerTurns sampleIssuer) (TimelyTurn sampleIssuer))
      (issuerStart 3590 sampleKeySet sampleRuntime) sampleServedKey world ∧
    world.history = [⟨"key-1", 7200, some 3600⟩] ∧
    ∀ start ∈ world.history, Prepublished sampleIssuer start := by
  have hexec : (execAll (execWhen (TimelyTurn sampleIssuer) (takeTurn (issuerTurn sampleIssuer)))
      (issuerStart 3590 sampleKeySet sampleRuntime) sampleServedKey).map (·.history) =
      some [⟨"key-1", 7200, some 3600⟩] := by
    decide +kernel
  obtain ⟨world, run, hhistory⟩ := exists_run (restrict_of_execWhen (turns_of_takeTurn _)) hexec
  have hruntime : runtimeKeyset sampleIssuer.ring sampleKeySet 3590 = .ok sampleRuntime := rfl
  exact ⟨hruntime, world, run, hhistory,
    signing_keys_prepublished sampleIssuer hruntime nofun run⟩

end RustyAuth
