/-
  Remote mutations start at most once.

  A claim keeps the request id occupied for the whole retention, because a receipt is only
  replaced by one that lasts longer.  So the claims of one request id are a retention apart, and
  every claim starts the mutation at most once (`Fenced`).  Where no delivery reaches its claim of
  a request id a retention after the first one, that request id has one claim for ever, its
  receipt is the only one, and what is recorded is what every later delivery is told
  (`OneClaim`).
-/
import RustyAuth.Rpc.RemoteMutations

namespace RustyAuth

open RustyAuth.Library

abbrev RemoteWorld := World RealmState RemoteTask RemoteEvent

/-! ## What a turn can do -/

/-- The claim a delivery holds, from the moment it is stored until its outcome is. -/
def RemoteTask.owner : RemoteTask → Option (RemoteMutation × Nat)
  | .claimed m _ c | .applying m c | .appending m c _ | .completing m c _ _ | .found m c _ _ _
  | .storing m c _ => some (m, c)
  | .idle | .checked _ _ | .claiming _ _ _ | .occupied _ => none

/-- The claim of a delivery that has not called the mutation yet. -/
def RemoteTask.unstarted : RemoteTask → Option (RemoteMutation × Nat)
  | .claimed m _ c => some (m, c)
  | _ => none

/-- The request of a delivery that found a receipt. -/
def RemoteTask.blocked : RemoteTask → Option RemoteMutation
  | .occupied m => some m
  | _ => none

/-- The receipt says how a mutation with the body `body` ended. -/
def RemoteMutationReceipt.Final (cfg : ExecutorConfig) (body : RemoteMutationBody)
    (receipt : RemoteMutationReceipt) : Prop :=
  receipt.digest = cfg.digest body ∧ receipt.state = .completed ∧ receipt.completedAt.isSome ∧
    receipt.succeeded.isSome

/-- What a delivery knows of its own request. -/
def RemoteTask.Sound (cfg : ExecutorConfig) (clock : Nat) : RemoteTask → Prop
  | .checked m receivedAt | .claiming m receivedAt _ => m.InWindow receivedAt ∧ receivedAt ≤ clock
  | .claimed m receivedAt claimedAt => m.InWindow receivedAt ∧ receivedAt ≤ claimedAt
  | .found m _ _ _ receipt => receipt.digest = cfg.digest m.body
  | .storing m _ receipt => receipt.Final cfg m.body
  | _ => True

theorem RemoteTask.Sound.mono {cfg : ExecutorConfig} {clock clock' : Nat} {phase : RemoteTask}
    (h : phase.Sound cfg clock) (hlater : clock ≤ clock') : phase.Sound cfg clock' := by
  cases phase with
  | checked | claiming => exact ⟨h.1, h.2.trans hlater⟩
  | _ => exact h

/-- A turn passes time or moves its delivery on, writes outside the receipts, stores a claim or
    finds one, calls the mutation, answers, or stores an outcome. -/
inductive RemoteMove (cfg : ExecutorConfig) (s : RealmState) (phase : RemoteTask)
    (input : RemoteInput) : RemoteTurn → Prop
  | quiet (clock : Nat) (phase' : RemoteTask) (later : s.clock ≤ clock)
      (owner : phase'.owner = none ∨ phase'.owner = phase.owner)
      (unstarted : phase'.unstarted = none ∨ phase'.unstarted = phase.unstarted)
      (blocked : phase'.blocked = none ∨ phase'.blocked = phase.blocked)
      (sound : phase.Sound cfg s.clock → phase'.Sound cfg clock) :
      RemoteMove cfg s phase input ⟨{ s with clock }, phase', []⟩
  | write (ws : List Write) (outside : ∀ w ∈ ws, w.key.isReceipt = false) :
      RemoteMove cfg s phase input ⟨{ s with db := commit s.clock s.db ws }, phase, []⟩
  | claim (m : RemoteMutation) (receivedAt stamp : Nat)
      (reached : phase = .claiming m receivedAt stamp) (proceeds : input = .proceed)
      (free : s.db.get s.clock (.remoteMutation m.requestId) = none) :
      RemoteMove cfg s phase input
        ⟨s.putReceipt m.requestId (pendingReceipt (cfg.digest m.body) stamp),
          .claimed m receivedAt s.clock, [.claimed m s.clock]⟩
  | block (m : RemoteMutation) (receipt : RemoteMutationReceipt)
      (there : s.db.get s.clock (.remoteMutation m.requestId) = some receipt) :
      RemoteMove cfg s phase input ⟨s, .occupied m, []⟩
  | start (m : RemoteMutation) (receivedAt claimedAt : Nat)
      (reached : phase = .claimed m receivedAt claimedAt) :
      RemoteMove cfg s phase input ⟨s, .applying m claimedAt, [.started m receivedAt claimedAt]⟩
  | answer (m : RemoteMutation) (reached : phase = .occupied m) :
      RemoteMove cfg s phase input (answerTurn cfg s m)
  | record (m : RemoteMutation) (claimedAt : Nat) (receipt : RemoteMutationReceipt)
      (reached : phase = .storing m claimedAt receipt) :
      RemoteMove cfg s phase input
        ⟨s.putReceipt m.requestId receipt, .idle, [.recorded m receipt s.clock]⟩

variable {turn : RemoteTurn} {m : RemoteMutation} {receivedAt stamp : Nat} {l : Nat × RemoteInput}
  {receipt : RemoteMutationReceipt}

section Moves

variable {cfg : ExecutorConfig} {s : RealmState} {phase : RemoteTask} {input : RemoteInput}

theorem remoteMove_idle : RemoteMove cfg s phase input ⟨s, .idle, []⟩ :=
  .quiet s.clock .idle le_rfl (.inl rfl) (.inl rfl) (.inl rfl) fun _ => trivial

/-- A turn of one delivery that keeps its claim. -/
theorem remoteMove_on {phase' : RemoteTask} (owner : phase'.owner = phase.owner)
    (unstarted : phase'.unstarted = none) (blocked : phase'.blocked = none)
    (sound : phase.Sound cfg s.clock → phase'.Sound cfg s.clock) :
    RemoteMove cfg s phase input ⟨s, phase', []⟩ :=
  .quiet s.clock phase' le_rfl (.inr owner) (.inl unstarted) (.inl blocked) sound

theorem remoteMove_of_turn (h : remoteTurn cfg s phase input = some turn) :
    RemoteMove cfg s phase input turn := by
  cases input with
  | tick now =>
    obtain ⟨hlater, h⟩ := Option.ite_none_right_eq_some.mp h
    cases h
    exact .quiet now phase hlater (.inr rfl) (.inr rfl) (.inr rfl) (·.mono hlater)
  | write ws =>
    obtain ⟨houtside, h⟩ := Option.ite_none_right_eq_some.mp h
    cases h
    simp only [List.all_eq_true, Bool.not_eq_true'] at houtside
    exact .write ws houtside
  | abandon =>
    cases h
    exact remoteMove_idle
  | deliver expected request =>
    cases phase with
    | idle =>
      obtain rfl := Option.some.inj h
      unfold deliverTurn
      split
      · next m hchecked =>
        exact .quiet s.clock _ le_rfl (.inl rfl) (.inl rfl) (.inl rfl) fun _ =>
          ⟨inWindow_of_checked hchecked, le_rfl⟩
      · exact remoteMove_idle
    | _ => cases h
  | ended summary =>
    cases phase with
    | applying m claimedAt =>
      cases h
      cases summary <;> exact remoteMove_on rfl rfl rfl fun _ => trivial
    | _ => cases h
  | appended succeeded =>
    cases phase with
    | appending m claimedAt summary =>
      cases h
      cases succeeded <;> exact remoteMove_on rfl rfl rfl fun _ => trivial
    | _ => cases h
  | proceed =>
    cases phase with
    | idle | applying | appending => cases h
    | checked m receivedAt =>
      cases h
      exact remoteMove_on rfl rfl rfl id
    | claiming m receivedAt stamp =>
      obtain rfl := Option.some.inj h
      unfold claimTurn
      cases hget : s.db.get s.clock (.remoteMutation m.requestId) with
      | none => exact .claim m receivedAt stamp rfl rfl hget
      | some receipt => exact .block m receipt hget
    | occupied m =>
      cases h
      exact .answer m rfl
    | claimed m receivedAt claimedAt =>
      cases h
      exact .start m receivedAt claimedAt rfl
    | completing m claimedAt succeeded summary =>
      obtain rfl := Option.some.inj h
      unfold findTurn
      cases hget : s.db.get s.clock (.remoteMutation m.requestId) with
      | none => exact remoteMove_idle
      | some receipt =>
        dsimp only
        split
        · next hsame => exact remoteMove_on rfl rfl rfl fun _ => hsame.1
        · exact remoteMove_idle
    | found m claimedAt succeeded summary receipt =>
      cases h
      exact remoteMove_on rfl rfl rfl fun hdigest => ⟨hdigest, rfl, rfl, rfl⟩
    | storing m claimedAt receipt =>
      obtain rfl := Option.some.inj h
      unfold storeTurn
      split
      · exact .record m claimedAt receipt rfl
      · exact remoteMove_idle

end Moves

/-! ## Receipts -/

section Receipts

variable {s : RealmState} {t : Nat} {id id' : Uuid}

theorem get_putReceipt_self : (s.putReceipt id receipt).db.get t (.remoteMutation id) =
    if t < s.clock + remoteMutationRetentionSeconds then some receipt else none := by
  rw [RealmState.putReceipt, commit_cons, commit_nil, Command.get_setEx_self]

theorem get_putReceipt_of_ne (h : id' ≠ id) :
    (s.putReceipt id receipt).db.get t (.remoteMutation id') =
      s.db.get t (.remoteMutation id') := by
  refine get_commit_of_forall_ne s.clock t _ _ s.db (List.forall_mem_singleton.mpr ?_)
  exact fun he => h (Key.remoteMutation.inj he)

theorem get_outside {ws : List Write} (h : ∀ w ∈ ws, w.key.isReceipt = false) :
    (commit s.clock s.db ws).get t (.remoteMutation id) = s.db.get t (.remoteMutation id) := by
  refine get_commit_of_forall_ne s.clock t ws _ s.db fun w hw hkey => ?_
  have hout := h w hw
  rw [← hkey] at hout
  cases hout

/-- A receipt that is stored outlasts every claim of before. -/
theorem isSome_get_putReceipt {c : Nat} (hpast : c ≤ s.clock)
    (hcovered : ∀ t < c + remoteMutationRetentionSeconds,
      (s.db.get t (.remoteMutation id')).isSome) :
    ∀ t < c + remoteMutationRetentionSeconds,
      ((s.putReceipt id receipt).db.get t (.remoteMutation id')).isSome := by
  intro t ht
  by_cases hid : id' = id
  · rw [hid, get_putReceipt_self, if_pos (by omega)]
    rfl
  · rw [get_putReceipt_of_ne hid]
    exact hcovered t ht

end Receipts

/-! ## Every run -/

/-- Claims of one request id are a retention apart. -/
def ClaimsApart (later earlier : RemoteEvent) : Prop :=
  ∀ m c m' c', later = .claimed m c → earlier = .claimed m' c' → m.requestId = m'.requestId →
    c' + remoteMutationRetentionSeconds ≤ c

/-- No claim starts its mutation twice. -/
def StartsDistinct (later earlier : RemoteEvent) : Prop :=
  ∀ m r c m' r' c', later = .started m r c → earlier = .started m' r' c' →
    m.requestId = m'.requestId → c ≠ c'

/-- Of two starts of one mutation, a delivery reached its claim more than 86,100 s, the retention
    less the five minutes of a request, after its receipt. -/
def RepeatedLate (later earlier : RemoteEvent) : Prop :=
  ∀ m r c r' c', later = .started m r c → earlier = .started m r' c' →
    r + 86100 < c ∨ r' + 86100 < c'

structure Fenced (cfg : ExecutorConfig) (w : RemoteWorld) : Prop where
  past : ∀ m c, .claimed m c ∈ w.history → c ≤ w.shared.clock
  covered : ∀ m c, .claimed m c ∈ w.history → ∀ t < c + remoteMutationRetentionSeconds,
    (w.shared.db.get t (.remoteMutation m.requestId)).isSome
  apart : w.history.Pairwise ClaimsApart
  started : ∀ m r c, .started m r c ∈ w.history → .claimed m c ∈ w.history ∧
    m.InWindow r ∧ r ≤ c
  once : w.history.Pairwise StartsDistinct
  owned : ∀ i m c, (w.task i).owner = some (m, c) → .claimed m c ∈ w.history
  held : ∀ i j m c m' c', (w.task i).owner = some (m, c) → (w.task j).owner = some (m', c') →
    m.requestId = m'.requestId → c = c' → i = j
  waiting : ∀ i m c, (w.task i).unstarted = some (m, c) → ∀ m' r, .started m' r c ∈ w.history →
    m'.requestId ≠ m.requestId
  sound : ∀ i, (w.task i).Sound cfg w.shared.clock

theorem owner_of_unstarted {phase : RemoteTask} {x : RemoteMutation × Nat}
    (h : phase.unstarted = some x) : phase.owner = some x := by
  cases phase <;> first | exact h | cases h

section Fences

variable {cfg : ExecutorConfig} {w : RemoteWorld} {i : Nat}

/-- Events that cannot be the later one of a forbidden pair keep a history without such pairs. -/
theorem pairwise_observe {R : RemoteEvent → RemoteEvent → Prop}
    {observed history : List RemoteEvent} (h : history.Pairwise R)
    (hnew : ∀ e ∈ observed, ∀ e', R e e') :
    (observed ++ history).Pairwise R := by
  refine List.pairwise_append.mpr ⟨?_, h, fun e he e' _ => hnew e he e'⟩
  exact List.pairwise_of_forall_mem_list fun e he e' _ => hnew e he e'

/-- A turn that neither claims nor starts. -/
theorem Fenced.pass (h : Fenced cfg w) (hclock : w.shared.clock ≤ turn.shared.clock)
    (hdb : ∀ m c, .claimed m c ∈ w.history → ∀ t < c + remoteMutationRetentionSeconds,
      (turn.shared.db.get t (.remoteMutation m.requestId)).isSome)
    (hclaims : ∀ m c, .claimed m c ∉ turn.observed)
    (hstarts : ∀ m r c, .started m r c ∉ turn.observed)
    (howner : turn.phase.owner = none ∨ turn.phase.owner = (w.task i).owner)
    (hunstarted : turn.phase.unstarted = none ∨ turn.phase.unstarted = (w.task i).unstarted)
    (hsound : turn.phase.Sound cfg turn.shared.clock) : Fenced cfg (w.take i turn) := by
  have hclaimed : ∀ m c, .claimed m c ∈ (w.take i turn).history → .claimed m c ∈ w.history :=
    fun m c hm => (List.mem_append.mp hm).resolve_left (hclaims m c)
  have hstarted : ∀ m r c, .started m r c ∈ (w.take i turn).history → .started m r c ∈ w.history :=
    fun m r c hm => (List.mem_append.mp hm).resolve_left (hstarts m r c)
  have hkept : ∀ e ∈ w.history, e ∈ (w.take i turn).history := fun e he =>
    List.mem_append_right _ he
  refine ⟨?_, ?_, ?_, ?_, ?_, ?_, ?_, ?_, ?_⟩
  · intro m c hm
    exact (h.past m c (hclaimed m c hm)).trans hclock
  · intro m c hm
    exact hdb m c (hclaimed m c hm)
  · refine pairwise_observe h.apart ?_
    rintro e he e' m c m' c' rfl
    exact absurd he (hclaims m c)
  · intro m r c hm
    obtain ⟨hclaim, hwindow⟩ := h.started m r c (hstarted m r c hm)
    exact ⟨hkept _ hclaim, hwindow⟩
  · refine pairwise_observe h.once ?_
    rintro e he e' m r c m' r' c' rfl
    exact absurd he (hstarts m r c)
  · intro j m c hj
    exact hkept _ (h.owned j m c (owner_of_take howner hj))
  · intro j k m c m' c' hj hk
    exact h.held j k m c m' c' (owner_of_take howner hj) (owner_of_take howner hk)
  · intro j m c hj m' r hm
    exact h.waiting j m c (owner_of_take hunstarted hj) m' r (hstarted m' r c hm)
  · exact forall_take hsound fun j => (h.sound j).mono hclock

section Free

variable (h : Fenced cfg w)
  (hfree : w.shared.db.get w.shared.clock (.remoteMutation m.requestId) = none)

include h hfree

/-- Where the request id is free, every earlier claim of it has lapsed. -/
theorem Fenced.lapsed {m' : RemoteMutation} {c : Nat} (hclaim : .claimed m' c ∈ w.history)
    (hid : m'.requestId = m.requestId) : c + remoteMutationRetentionSeconds ≤ w.shared.clock := by
  by_contra hlt
  have hsome := h.covered m' c hclaim w.shared.clock (by omega)
  rw [hid, hfree] at hsome
  cases hsome

theorem Fenced.claimed_before {m' : RemoteMutation} {c : Nat} (hclaim : .claimed m' c ∈ w.history)
    (hid : m'.requestId = m.requestId) : c ≠ w.shared.clock := by
  have hle := h.lapsed hfree hclaim hid
  unfold remoteMutationRetentionSeconds at hle
  omega

/-- A claim finds the request id free. -/
theorem Fenced.claim (hphase : w.task i = .claiming m receivedAt stamp) :
    Fenced cfg (w.take i
      ⟨w.shared.putReceipt m.requestId (pendingReceipt (cfg.digest m.body) stamp),
        .claimed m receivedAt w.shared.clock, [.claimed m w.shared.clock]⟩) := by
  have hwindow : m.InWindow receivedAt ∧ receivedAt ≤ w.shared.clock := by
    have hi := h.sound i
    rwa [hphase] at hi
  refine ⟨?_, ?_, ?_, ?_, ?_, ?_, ?_, ?_, ?_⟩
  · intro m' c' hm'
    rcases List.mem_cons.mp hm' with hnew | hold
    · cases hnew
      exact le_rfl
    · exact h.past m' c' hold
  · intro m' c' hm'
    rcases List.mem_cons.mp hm' with hnew | hold
    · cases hnew
      intro t ht
      show ((w.shared.putReceipt _ _).db.get t _).isSome
      rw [get_putReceipt_self, if_pos ht]
      rfl
    · exact isSome_get_putReceipt (h.past m' c' hold) (h.covered m' c' hold)
  · refine List.pairwise_cons.mpr ⟨?_, h.apart⟩
    rintro e he m₁ c₁ m₂ c₂ hlater rfl hid
    cases hlater
    exact h.lapsed hfree he hid.symm
  · intro m' r' c' hm'
    obtain ⟨hclaim, hin⟩ := h.started m' r' c' (List.mem_of_ne_of_mem RemoteEvent.noConfusion hm')
    exact ⟨List.mem_cons_of_mem _ hclaim, hin⟩
  · refine List.pairwise_cons.mpr ⟨?_, h.once⟩
    rintro e _ m₁ r₁ c₁ m₂ r₂ c₂ hlater
    cases hlater
  · intro j m' c' hj
    by_cases hji : j = i
    · subst hji
      rw [take_task_self] at hj
      cases hj
      exact List.mem_cons_self
    · rw [take_task_of_ne hji] at hj
      exact List.mem_cons_of_mem _ (h.owned j m' c' hj)
  · -- an owner of before has a claim of before, which has lapsed
    have hother : ∀ j m' c', (w.task j).owner = some (m', c') → m'.requestId = m.requestId →
        c' ≠ w.shared.clock := fun j m' c' hj hid => h.claimed_before hfree (h.owned j m' c' hj) hid
    intro j k m₁ c₁ m₂ c₂ hj hk hid hc
    by_cases hji : j = i
    · by_cases hki : k = i
      · rw [hji, hki]
      · subst hji
        rw [take_task_self] at hj
        rw [take_task_of_ne hki] at hk
        cases hj
        exact absurd hc.symm (hother k m₂ c₂ hk hid.symm)
    · rw [take_task_of_ne hji] at hj
      by_cases hki : k = i
      · subst hki
        rw [take_task_self] at hk
        cases hk
        exact absurd hc (hother j m₁ c₁ hj hid)
      · rw [take_task_of_ne hki] at hk
        exact h.held j k m₁ c₁ m₂ c₂ hj hk hid hc
  · intro j m' c' hj m₁ r₁ hm₁
    have hold := List.mem_of_ne_of_mem RemoteEvent.noConfusion hm₁
    by_cases hji : j = i
    · subst hji
      rw [take_task_self] at hj
      cases hj
      exact fun hid => h.claimed_before hfree (h.started m₁ r₁ _ hold).1 hid rfl
    · rw [take_task_of_ne hji] at hj
      exact h.waiting j m' c' hj m₁ r₁ hold
  · exact forall_take hwindow h.sound

end Free

/-- A start uses up the claim of its delivery. -/
theorem Fenced.start {claimedAt : Nat} (h : Fenced cfg w)
    (hphase : w.task i = .claimed m receivedAt claimedAt) :
    Fenced cfg (w.take i
      ⟨w.shared, .applying m claimedAt, [.started m receivedAt claimedAt]⟩) := by
  have howner : (w.task i).owner = some (m, claimedAt) := by rw [hphase]; rfl
  have hunstarted : (w.task i).unstarted = some (m, claimedAt) := by rw [hphase]; rfl
  have hwindow : m.InWindow receivedAt ∧ receivedAt ≤ claimedAt := by
    have hi := h.sound i
    rwa [hphase] at hi
  have hclaimed : ∀ m' c',
      .claimed m' c' ∈ RemoteEvent.started m receivedAt claimedAt :: w.history →
      .claimed m' c' ∈ w.history :=
    fun m' c' hm' => List.mem_of_ne_of_mem RemoteEvent.noConfusion hm'
  refine ⟨?_, ?_, ?_, ?_, ?_, ?_, ?_, ?_, ?_⟩
  · exact fun m' c' hm' => h.past m' c' (hclaimed m' c' hm')
  · exact fun m' c' hm' => h.covered m' c' (hclaimed m' c' hm')
  · refine List.pairwise_cons.mpr ⟨?_, h.apart⟩
    rintro e _ m₁ c₁ m₂ c₂ hlater
    cases hlater
  · intro m' r' c' hm'
    rcases List.mem_cons.mp hm' with hnew | hold
    · cases hnew
      exact ⟨List.mem_cons_of_mem _ (h.owned i m claimedAt howner), hwindow⟩
    · obtain ⟨hclaim, hin⟩ := h.started m' r' c' hold
      exact ⟨List.mem_cons_of_mem _ hclaim, hin⟩
  · refine List.pairwise_cons.mpr ⟨?_, h.once⟩
    rintro e he m₁ r₁ c₁ m₂ r₂ c₂ hlater rfl hid rfl
    cases hlater
    exact h.waiting i m claimedAt hunstarted m₂ r₂ he hid.symm
  · intro j m' c' hj
    refine List.mem_cons_of_mem _ (h.owned j m' c' (owner_of_take (.inr ?_) hj))
    exact howner.symm
  · intro j k m₁ c₁ m₂ c₂ hj hk
    exact h.held j k m₁ c₁ m₂ c₂ (owner_of_take (.inr howner.symm) hj)
      (owner_of_take (.inr howner.symm) hk)
  · intro j m' c' hj m₁ r₁ hm₁ hid
    have hj' := owner_of_take (.inl rfl) hj
    rcases List.mem_cons.mp hm₁ with hnew | hold
    · cases hnew
      -- the delivery that waits holds the same claim, so it is the one that starts
      have hji := h.held j i m' claimedAt m claimedAt (owner_of_unstarted hj') howner hid.symm rfl
      subst hji
      rw [take_task_self] at hj
      cases hj
    · exact h.waiting j m' c' hj' m₁ r₁ hold hid
  · exact forall_take trivial h.sound

theorem fenced_step {w' : RemoteWorld} (h : Fenced cfg w) (hturn : Turns (remoteTurn cfg) w l w') :
    Fenced cfg w' := by
  obtain ⟨turn, hact, rfl⟩ := hturn
  have hsound := h.sound l.1
  cases remoteMove_of_turn hact with
  | quiet clock phase' later owner unstarted blocked sound =>
    exact h.pass later h.covered (fun _ _ => List.not_mem_nil) (fun _ _ _ => List.not_mem_nil) owner
      unstarted (sound hsound)
  | write ws outside =>
    refine h.pass le_rfl ?_ (fun _ _ => List.not_mem_nil) (fun _ _ _ => List.not_mem_nil) (.inr rfl)
      (.inr rfl) hsound
    intro m c hm t ht
    show ((commit _ _ ws).get t _).isSome
    rw [get_outside outside]
    exact h.covered m c hm t ht
  | claim m receivedAt stamp reached proceeds free => exact h.claim free reached
  | block m receipt there =>
    exact h.pass le_rfl h.covered (fun _ _ => List.not_mem_nil) (fun _ _ _ => List.not_mem_nil)
      (.inl rfl) (.inl rfl) trivial
  | start m receivedAt claimedAt reached => exact h.start reached
  | answer m reached =>
    exact h.pass le_rfl h.covered (fun _ _ hm => by cases List.mem_singleton.mp hm)
      (fun _ _ _ hm => by cases List.mem_singleton.mp hm) (.inl rfl) (.inl rfl) trivial
  | record m claimedAt receipt reached =>
    refine h.pass le_rfl ?_ (fun _ _ hm => by cases List.mem_singleton.mp hm)
      (fun _ _ _ hm => by cases List.mem_singleton.mp hm) (.inl rfl) (.inl rfl) trivial
    intro m' c' hm'
    exact isSome_get_putReceipt (h.past m' c' hm') (h.covered m' c' hm')

theorem fenced_initial : Fenced cfg RealmState.initial where
  past _ _ hm := absurd hm List.not_mem_nil
  covered _ _ hm := absurd hm List.not_mem_nil
  apart := List.Pairwise.nil
  started _ _ _ hm := absurd hm List.not_mem_nil
  once := List.Pairwise.nil
  owned _ _ _ hi := by cases hi
  held _ _ _ _ _ _ hi := by cases hi
  waiting _ _ _ hi := by cases hi
  sound _ := trivial

theorem fenced_run {labels : List (Nat × RemoteInput)}
    (run : Run (Turns (remoteTurn cfg)) RealmState.initial labels w) : Fenced cfg w :=
  run.invariant (fun _ _ _ h hturn => fenced_step h hturn) fenced_initial

end Fences

/-- Two claims of one request id are a retention apart, two receipts of one body less than five
    minutes. -/
theorem Fenced.repeatedLate {cfg : ExecutorConfig} {w : RemoteWorld} (h : Fenced cfg w) :
    w.history.Pairwise RepeatedLate := by
  refine (List.Pairwise.and_mem.mp h.once).imp ?_
  rintro e e' ⟨he, he', hdistinct⟩ m r c r' c' rfl rfl
  obtain ⟨hclaim, hwindow, hreached⟩ := h.started m r c he
  obtain ⟨hclaim', hwindow', hreached'⟩ := h.started m r' c' he'
  have hne : c ≠ c' := hdistinct m r c m r' c' rfl rfl rfl
  have hapart : c' + remoteMutationRetentionSeconds ≤ c ∨
      c + remoteMutationRetentionSeconds ≤ c' := by
    have heither : w.history.Pairwise fun e e' => ClaimsApart e e' ∨ ClaimsApart e' e :=
      h.apart.imp .inl
    have : Std.Symm fun e e' => ClaimsApart e e' ∨ ClaimsApart e' e := ⟨fun _ _ => Or.symm⟩
    refine (heither.forall hclaim hclaim' ?_).imp ?_ ?_
    · exact fun heq => hne (RemoteEvent.claimed.inj heq).2
    · exact fun horder => horder m c m c' rfl rfl rfl
    · exact fun horder => horder m c' m c rfl rfl rfl
  have hsoon := hwindow.2.trans (Nat.min_le_left _ _)
  have hsoon' := hwindow'.2.trans (Nat.min_le_left _ _)
  have hearly := hwindow.1
  have hearly' := hwindow'.1
  rw [remoteMutationRetentionSeconds] at hapart
  omega

/-! ## Runs within the retention of one request id -/

theorem answerFound_of_ne {digest : String} (h : receipt.digest ≠ digest) :
    ∃ e, answerFound digest (some receipt) = .error e := by
  refine ⟨storeError (.policy .remoteMutationIdempotencyConflict), ?_⟩
  simp only [answerFound, decideFound, ensure, if_neg h]
  rfl

theorem answerFound_of_final {cfg : ExecutorConfig} {body : RemoteMutationBody}
    (h : receipt.Final cfg body) :
    ∃ completedAt succeeded, receipt.completedAt = some completedAt ∧
      receipt.succeeded = some succeeded ∧ answerFound (cfg.digest body) (some receipt) =
        report completedAt succeeded receipt.summary := by
  obtain ⟨hdigest, hstate, hcompleted, hsucceeded⟩ := h
  obtain ⟨completedAt, hcompleted⟩ := Option.isSome_iff_exists.mp hcompleted
  obtain ⟨succeeded, hsucceeded⟩ := Option.isSome_iff_exists.mp hsucceeded
  refine ⟨completedAt, succeeded, hcompleted, hsucceeded, ?_⟩
  simp only [answerFound, decideFound, ensure, if_pos hdigest, hstate, hcompleted, hsucceeded]
  rfl

/-- A delivery reaches its claim of `id` while the first one is not a retention old. -/
def withinRetention (id : Uuid) (w : RemoteWorld) (l : Nat × RemoteInput) : Bool :=
  match w.task l.1, l.2 with
  | .claiming m _ _, .proceed => m.requestId ≠ id || w.history.all fun
      | .claimed m' c => m'.requestId ≠ id || w.shared.clock < c + remoteMutationRetentionSeconds
      | _ => true
  | _, _ => true

/-- Whoever reads a recorded outcome of `id` while it is kept is told it. -/
def Reports (cfg : ExecutorConfig) (id : Uuid) (later earlier : RemoteEvent) : Prop :=
  ∀ m answer second m' receipt second', later = .answered m answer second →
    earlier = .recorded m' receipt second' → m.requestId = id → m'.requestId = id →
    cfg.digest m.body = cfg.digest m'.body → second < second' + remoteMutationRetentionSeconds →
    ∃ completedAt succeeded, receipt.completedAt = some completedAt ∧
      receipt.succeeded = some succeeded ∧ answer = report completedAt succeeded receipt.summary

/-- The request id whose receipt the event is about. -/
def RemoteEvent.receiptId : RemoteEvent → Option Uuid
  | .claimed m _ | .recorded m _ _ | .answered m _ _ => some m.requestId
  | .started _ _ _ => none

/-- What an event about the receipt of `m` is once `m` was claimed at `c`. -/
def RemoteEvent.Fits (cfg : ExecutorConfig) (m : RemoteMutation) (c : Nat) (db : Db) :
    RemoteEvent → Prop
  | .claimed m' c' => m' = m ∧ c' = c
  | .recorded m' receipt second => m' = m ∧ receipt.Final cfg m.body ∧
      ∀ t < second + remoteMutationRetentionSeconds,
        db.get t (.remoteMutation m.requestId) = some receipt
  | .answered m' answer _ => cfg.digest m.body ≠ cfg.digest m'.body → ∃ e, answer = .error e
  | .started _ _ _ => True

/-- Nothing is known of the request id. -/
structure Unclaimed (id : Uuid) (w : RemoteWorld) : Prop where
  receipts : ∀ t, w.shared.db.get t (.remoteMutation id) = none
  events : ∀ e ∈ w.history, e.receiptId ≠ some id
  blocked : ∀ i m, (w.task i).blocked = some m → m.requestId ≠ id

/-- The claim of `m` at `c` is the only one of its request id. -/
structure OneClaim (cfg : ExecutorConfig) (m : RemoteMutation) (c : Nat) (w : RemoteWorld) :
    Prop where
  claimed : .claimed m c ∈ w.history
  receipts : ∀ t receipt, w.shared.db.get t (.remoteMutation m.requestId) = some receipt →
    receipt.digest = cfg.digest m.body
  fits : ∀ e ∈ w.history, e.receiptId = some m.requestId → e.Fits cfg m c w.shared.db
  unrecorded : ∀ i c', (w.task i).owner = some (m, c') → ∀ receipt second,
    .recorded m receipt second ∉ w.history
  reported : w.history.Pairwise (Reports cfg m.requestId)

/-- The turn is about the receipts of other request ids. -/
structure Elsewhere (id : Uuid) (w : RemoteWorld) (i : Nat) (turn : RemoteTurn) : Prop where
  receipts : ∀ t, turn.shared.db.get t (.remoteMutation id) = w.shared.db.get t (.remoteMutation id)
  events : ∀ e ∈ turn.observed, e.receiptId ≠ some id
  owner : ∀ m c, turn.phase.owner = some (m, c) → m.requestId = id →
    (w.task i).owner = some (m, c)
  blocked : ∀ m, turn.phase.blocked = some m → m.requestId = id →
    (w.task i).blocked = some m ∨ ∃ t, (w.shared.db.get t (.remoteMutation id)).isSome

section OneClaims

variable {cfg : ExecutorConfig} {w : RemoteWorld} {i c : Nat} {id : Uuid}

theorem Unclaimed.pass (h : Unclaimed id w) (hturn : Elsewhere id w i turn) :
    Unclaimed id (w.take i turn) where
  receipts t := (hturn.receipts t).trans (h.receipts t)
  events := List.forall_mem_append.mpr ⟨hturn.events, h.events⟩
  blocked := by
    refine forall_take (P := fun phase : RemoteTask => ∀ m, phase.blocked = some m →
      m.requestId ≠ id) (fun m hm hid => ?_) h.blocked
    rcases hturn.blocked m hm hid with hbefore | ⟨t, hsome⟩
    · exact h.blocked i m hbefore hid
    · rw [h.receipts t] at hsome
      cases hsome

theorem OneClaim.pass (h : OneClaim cfg m c w) (hturn : Elsewhere m.requestId w i turn) :
    OneClaim cfg m c (w.take i turn) where
  claimed := List.mem_append_right _ h.claimed
  receipts t receipt hreceipt := h.receipts t receipt ((hturn.receipts t).symm.trans hreceipt)
  fits := by
    refine List.forall_mem_append.mpr
      ⟨fun e he hid => absurd hid (hturn.events e he), fun e he hid => ?_⟩
    cases e with
    | recorded m' receipt second =>
      obtain ⟨hm, hfinal, hstored⟩ := h.fits _ he hid
      exact ⟨hm, hfinal, fun t ht => (hturn.receipts t).trans (hstored t ht)⟩
    | _ => exact h.fits _ he hid
  unrecorded := by
    intro j c' hj receipt second hm
    rcases List.mem_append.mp hm with hnew | hold
    · exact hturn.events _ hnew rfl
    · exact forall_take (P := fun phase : RemoteTask => ∀ c', phase.owner = some (m, c') →
        .recorded m receipt second ∉ w.history)
        (fun c' hc' => h.unrecorded i c' (hturn.owner m c' hc' rfl) receipt second)
        (fun j c' hj => h.unrecorded j c' hj receipt second) j c' hj hold
  reported := by
    refine pairwise_observe h.reported ?_
    rintro e he e' m₁ answer second m₂ receipt second' rfl _ hid
    exact absurd (congrArg some hid) (hturn.events _ he)

/-- What a delivery that found the receipt is told. -/
theorem OneClaim.answer {m' : RemoteMutation} (h : OneClaim cfg m c w)
    (hid : m'.requestId = m.requestId) :
    OneClaim cfg m c (w.take i (answerTurn cfg w.shared m')) where
  claimed := List.mem_cons_of_mem _ h.claimed
  receipts := h.receipts
  fits := by
    refine List.forall_mem_cons.mpr ⟨fun _ hdigest => ?_, h.fits⟩
    rw [hid]
    cases hreceipt : w.shared.db.get w.shared.clock (.remoteMutation m.requestId) with
    | none => exact ⟨_, rfl⟩
    | some receipt => exact answerFound_of_ne (h.receipts _ _ hreceipt ▸ hdigest)
  unrecorded j c' hj receipt second hm :=
    h.unrecorded j c' (owner_of_take (.inl rfl) hj) receipt second
      (List.mem_of_ne_of_mem RemoteEvent.noConfusion hm)
  reported := by
    refine List.pairwise_cons.mpr ⟨?_, h.reported⟩
    rintro e he m₁ answer second m₂ receipt second' hlater rfl _ hid' hdigest hkept
    cases hlater
    obtain ⟨rfl, hfinal, hstored⟩ := h.fits _ he (congrArg some hid')
    rw [hid, hstored _ hkept, hdigest]
    exact answerFound_of_final hfinal

/-- The first claim of a request id. -/
theorem Unclaimed.claim (h : Unclaimed m.requestId w) :
    OneClaim cfg m w.shared.clock (w.take i
      ⟨w.shared.putReceipt m.requestId (pendingReceipt (cfg.digest m.body) stamp),
        .claimed m receivedAt w.shared.clock, [.claimed m w.shared.clock]⟩) where
  claimed := List.mem_cons_self
  receipts t receipt hreceipt := by
    obtain ⟨_, hsome⟩ := Option.ite_none_right_eq_some.mp (get_putReceipt_self.symm.trans hreceipt)
    rw [← Option.some.inj hsome]
    rfl
  fits := List.forall_mem_cons.mpr
    ⟨fun _ => ⟨rfl, rfl⟩, fun e he hid => absurd hid (h.events e he)⟩
  unrecorded _ _ _ _ _ hm := h.events _ (List.mem_of_ne_of_mem RemoteEvent.noConfusion hm) rfl
  reported := by
    refine List.pairwise_of_forall_mem_list ?_
    rintro e _ e' he' m₁ answer second m₂ receipt second' _ rfl _ hid
    exact absurd (congrArg some hid)
      (h.events _ (List.mem_of_ne_of_mem RemoteEvent.noConfusion he'))

/-- The delivery that holds the claim records its outcome. -/
theorem OneClaim.record {claimedAt : Nat} (h : OneClaim cfg m c w) (hfenced : Fenced cfg w)
    (hphase : w.task i = .storing m claimedAt receipt) :
    OneClaim cfg m c (w.take i
      ⟨w.shared.putReceipt m.requestId receipt, .idle, [.recorded m receipt w.shared.clock]⟩) := by
  have howner : (w.task i).owner = some (m, claimedAt) := by rw [hphase]; rfl
  have hfinal : receipt.Final cfg m.body := by
    have hi := hfenced.sound i
    rwa [hphase] at hi
  have hclaimedAt : ∀ j c', (w.task j).owner = some (m, c') → c' = c := fun j c' hj =>
    (h.fits _ (hfenced.owned j m c' hj) rfl).2
  refine ⟨List.mem_cons_of_mem _ h.claimed, ?_, List.forall_mem_cons.mpr ⟨?_, ?_⟩, ?_, ?_⟩
  · intro t receipt' hreceipt
    obtain ⟨_, hsome⟩ := Option.ite_none_right_eq_some.mp (get_putReceipt_self.symm.trans hreceipt)
    rw [← Option.some.inj hsome]
    exact hfinal.1
  · exact fun _ => ⟨rfl, hfinal, fun t ht => get_putReceipt_self.trans (if_pos ht)⟩
  · intro e he hid
    cases e with
    | recorded m' receipt' second =>
      obtain ⟨rfl, _⟩ := h.fits _ he hid
      exact absurd he (h.unrecorded i claimedAt howner receipt' second)
    | _ => exact h.fits _ he hid
  · -- whoever holds a claim of this request id is the delivery that records
    intro j c' hj
    have hj' := owner_of_take (.inl rfl) hj
    have hji := hfenced.held j i m c' m claimedAt hj' howner rfl
      ((hclaimedAt j c' hj').trans (hclaimedAt i claimedAt howner).symm)
    subst hji
    rw [take_task_self] at hj
    cases hj
  · refine List.pairwise_cons.mpr ⟨?_, h.reported⟩
    rintro e _ m₁ answer second m₂ receipt₂ second' hlater
    cases hlater

/-- What is known of a request id in the runs that stay within its retention. -/
def Followed (cfg : ExecutorConfig) (id : Uuid) (w : RemoteWorld) : Prop :=
  Unclaimed id w ∨ ∃ m c, m.requestId = id ∧ OneClaim cfg m c w

theorem Followed.pass (h : Followed cfg id w) (hturn : Elsewhere id w i turn) :
    Followed cfg id (w.take i turn) := by
  obtain hfree | ⟨m, c, rfl, hone⟩ := h
  · exact .inl (hfree.pass hturn)
  · exact .inr ⟨m, c, rfl, hone.pass hturn⟩

/-- All claims of the request id are one. -/
theorem Followed.single (h : Followed cfg id w) {m' : RemoteMutation} {c' : Nat}
    (hm : .claimed m c ∈ w.history) (hm' : .claimed m' c' ∈ w.history) (hid : m.requestId = id)
    (hid' : m'.requestId = id) : m = m' ∧ c = c' := by
  obtain hfree | ⟨m₀, c₀, rfl, hone⟩ := h
  · exact absurd (congrArg some hid) (hfree.events _ hm)
  · obtain ⟨rfl, rfl⟩ := hone.fits _ hm (congrArg some hid)
    obtain ⟨rfl, rfl⟩ := hone.fits _ hm' (congrArg some hid')
    exact ⟨rfl, rfl⟩

theorem Followed.reported (h : Followed cfg id w) : w.history.Pairwise (Reports cfg id) := by
  obtain hfree | ⟨m, c, rfl, hone⟩ := h
  · refine List.pairwise_of_forall_mem_list ?_
    rintro e _ e' he' m₁ answer second m₂ receipt second' _ rfl _ hid
    exact absurd (congrArg some hid) (hfree.events _ he')
  · exact hone.reported

theorem not_claimed_of_withinRetention (hfenced : Fenced cfg w)
    (hwithin : withinRetention m.requestId w l = true)
    (hphase : w.task l.1 = .claiming m receivedAt stamp) (hinput : l.2 = .proceed)
    (hfree : w.shared.db.get w.shared.clock (.remoteMutation m.requestId) = none) :
    ∀ m' c, .claimed m' c ∈ w.history → m'.requestId ≠ m.requestId := by
  intro m' c hm' hid
  unfold withinRetention at hwithin
  rw [hphase, hinput] at hwithin
  simp only [ne_eq, not_true_eq_false, decide_false, Bool.false_or] at hwithin
  have hopen := List.all_eq_true.mp hwithin _ hm'
  simp only [hid, not_true_eq_false, decide_false, Bool.false_or, decide_eq_true_eq] at hopen
  have hsome := hfenced.covered m' c hm' w.shared.clock hopen
  rw [hid, hfree] at hsome
  cases hsome

theorem followed_step {w' : RemoteWorld} (h : Fenced cfg w ∧ Followed cfg id w)
    (hturn : Restrict (Turns (remoteTurn cfg)) (fun w l => withinRetention id w l = true) w l w') :
    Fenced cfg w' ∧ Followed cfg id w' := by
  obtain ⟨hfenced, hfollowed⟩ := h
  obtain ⟨hwithin, hturn⟩ := hturn
  refine ⟨fenced_step hfenced hturn, ?_⟩
  obtain ⟨turn, hact, rfl⟩ := hturn
  have howned : ∀ m c, (w.task l.1).owner = some (m, c) → m.requestId = id → ¬ Unclaimed id w :=
    fun m c hm hid hfree => hfree.events _ (hfenced.owned l.1 m c hm) (congrArg some hid)
  cases remoteMove_of_turn hact with
  | quiet clock phase' later owner unstarted blocked sound =>
    refine hfollowed.pass
      ⟨fun _ => rfl, List.forall_mem_nil _, fun m c hm _ => ?_, fun m hm _ => ?_⟩
    · exact hm ▸ (owner.resolve_left (by rw [hm]; nofun)).symm
    · exact .inl (hm ▸ (blocked.resolve_left (by rw [hm]; nofun)).symm)
  | write ws outside =>
    exact hfollowed.pass ⟨fun t => get_outside outside, List.forall_mem_nil _, fun _ _ hm _ => hm,
      fun _ hm _ => .inl hm⟩
  | claim m receivedAt stamp reached proceeds free =>
    by_cases hid : m.requestId = id
    · subst hid
      obtain hfree | ⟨m₀, c₀, hid₀, hone⟩ := hfollowed
      · exact .inr ⟨m, _, rfl, hfree.claim⟩
      · exact absurd hid₀ (not_claimed_of_withinRetention hfenced hwithin reached proceeds free
          m₀ c₀ hone.claimed)
    · refine hfollowed.pass ⟨fun t => get_putReceipt_of_ne (Ne.symm hid), ?_, ?_, ?_⟩
      · exact List.forall_mem_singleton.mpr fun he => hid (Option.some.inj he)
      · rintro _ _ ⟨⟩ hid'
        exact absurd hid' hid
      · rintro _ ⟨⟩
  | block m receipt there =>
    refine hfollowed.pass ⟨fun _ => rfl, List.forall_mem_nil _, nofun, ?_⟩
    rintro _ ⟨⟩ rfl
    exact .inr ⟨_, Option.isSome_of_eq_some there⟩
  | start m receivedAt claimedAt reached =>
    refine hfollowed.pass ⟨fun _ => rfl, List.forall_mem_singleton.mpr nofun, ?_, nofun⟩
    rintro _ _ ⟨⟩ _
    rw [reached]
    rfl
  | answer m reached =>
    by_cases hid : m.requestId = id
    · obtain hfree | ⟨m₀, c₀, hid₀, hone⟩ := hfollowed
      · refine absurd hid (hfree.blocked l.1 m ?_)
        rw [reached]
        rfl
      · exact .inr ⟨m₀, c₀, hid₀, hone.answer (hid.trans hid₀.symm)⟩
    · refine hfollowed.pass ⟨fun _ => rfl, ?_, nofun, nofun⟩
      exact List.forall_mem_singleton.mpr fun he => hid (Option.some.inj he)
  | record m claimedAt receipt reached =>
    by_cases hid : m.requestId = id
    · have howner : (w.task l.1).owner = some (m, claimedAt) := by rw [reached]; rfl
      obtain hfree | ⟨m₀, c₀, rfl, hone⟩ := hfollowed
      · exact absurd hfree (howned m claimedAt howner hid)
      · obtain ⟨rfl, rfl⟩ := hone.fits _ (hfenced.owned l.1 m claimedAt howner) (congrArg some hid)
        exact .inr ⟨m, _, rfl, hone.record hfenced reached⟩
    · refine hfollowed.pass ⟨fun t => get_putReceipt_of_ne (Ne.symm hid), ?_, nofun, nofun⟩
      exact List.forall_mem_singleton.mpr fun he => hid (Option.some.inj he)

theorem followed_run {labels : List (Nat × RemoteInput)}
    (run : Run (Restrict (Turns (remoteTurn cfg)) fun w l => withinRetention id w l = true)
      RealmState.initial labels w) : Fenced cfg w ∧ Followed cfg id w :=
  run.invariant (I := fun w => Fenced cfg w ∧ Followed cfg id w)
    (fun _ _ _ h hturn => followed_step h hturn)
    ⟨fenced_initial, .inl ⟨fun _ => rfl, List.forall_mem_nil _, nofun⟩⟩

end OneClaims

/-! ## At most once -/

/-- The request id for which the mutation is called. -/
def RemoteEvent.startedId : RemoteEvent → Option Uuid
  | .started m _ _ => some m.requestId
  | _ => none

theorem startedId_eq_some {e : RemoteEvent} {id : Uuid} (h : e.startedId = some id) :
    ∃ m r c, e = .started m r c ∧ m.requestId = id := by
  cases e with
  | started m r c => exact ⟨m, r, c, rfl, Option.some.inj h⟩
  | _ => cases h

/-- Not both events call the mutation for `id`. -/
def NotBothStart (id : Uuid) (later earlier : RemoteEvent) : Prop :=
  later.startedId = some id → earlier.startedId ≠ some id

/-- Where there is one claim for the request id, there is at most one start. -/
theorem Followed.startsOnce {cfg : ExecutorConfig} {id : Uuid} {w : RemoteWorld}
    (h : Followed cfg id w) (hfenced : Fenced cfg w) : w.history.Pairwise (NotBothStart id) := by
  refine (List.Pairwise.and_mem.mp hfenced.once).imp ?_
  rintro e e' ⟨he, he', hdistinct⟩ hid hid'
  obtain ⟨m, r, c, rfl, hm⟩ := startedId_eq_some hid
  obtain ⟨m', r', c', rfl, hm'⟩ := startedId_eq_some hid'
  have hclaim := (hfenced.started m r c he).1
  have hclaim' := (hfenced.started m' r' c' he').1
  exact hdistinct m r c m' r' c' rfl rfl (hm.trans hm'.symm) (h.single hclaim hclaim' hm hm').2

/-- In every run the mutation is called only by the delivery that claimed the request id, once
    for each claim, and only for a body that expires in the next five minutes on receipt; the
    claims of one request id are a retention apart, so that one body is started twice only where
    a delivery of it reaches its claim more than 86,100 s after its receipt.  In every run in
    which no delivery reaches its claim of a request id a retention after the first one, the
    mutation is called at most once for that request id and only for the body that claimed it, a
    delivery with another digest is refused, and one with the same digest that reads a recorded
    outcome while it is kept is told that outcome. -/
theorem remote_mutations_at_most_once (cfg : ExecutorConfig) :
    (∀ labels w, Run (Turns (remoteTurn cfg)) RealmState.initial labels w →
      (∀ m r c, .started m r c ∈ w.history → .claimed m c ∈ w.history ∧ m.InWindow r ∧ r ≤ c) ∧
      w.history.Pairwise StartsDistinct ∧ w.history.Pairwise ClaimsApart ∧
      w.history.Pairwise RepeatedLate) ∧
    ∀ id labels w, Run (Restrict (Turns (remoteTurn cfg)) fun w l => withinRetention id w l = true)
        RealmState.initial labels w →
      w.history.Pairwise (NotBothStart id) ∧
      (∀ m r c, .started m r c ∈ w.history → m.requestId = id →
        ∀ m' c', .claimed m' c' ∈ w.history → m'.requestId = id → m' = m) ∧
      (∀ m answer second, .answered m answer second ∈ w.history → m.requestId = id →
        ∀ m' c, .claimed m' c ∈ w.history → m'.requestId = id →
        cfg.digest m'.body ≠ cfg.digest m.body → ∃ e, answer = .error e) ∧
      w.history.Pairwise (Reports cfg id) := by
  constructor
  · intro labels w run
    have h := fenced_run run
    exact ⟨h.started, h.once, h.apart, h.repeatedLate⟩
  · intro id labels w run
    obtain ⟨hfenced, hfollowed⟩ := followed_run run
    refine ⟨hfollowed.startsOnce hfenced, ?_, ?_, hfollowed.reported⟩
    · intro m r c hstart hid m' c' hclaim hid'
      exact (hfollowed.single hclaim (hfenced.started m r c hstart).1 hid' hid).1
    · intro m answer second hanswer hid m' c hclaim hid'
      obtain hfree | ⟨m₀, c₀, rfl, hone⟩ := hfollowed
      · exact absurd (congrArg some hid) (hfree.events _ hanswer)
      · obtain ⟨rfl, rfl⟩ := hone.fits _ hclaim (congrArg some hid')
        exact hone.fits _ hanswer (congrArg some hid)

/-! ### A request id used again after a day -/

def sampleExecutor : ExecutorConfig where
  parseUuid text :=
    if text = "connection" then some 500 else if text = "request" then some 7
    else if text = "other" then some 8 else none
  parseTime text :=
    if text = "today" then some 100 else if text = "tomorrow" then some 86500
    else if text = "later" then some 86600 else none
  digest body :=
    if body.expiresAt = 100 then "first" else if body.expiresAt = 86500 then "second" else "third"

def samplePause (requestId expiresAt : String) : RemoteMutationRequest where
  connectionId := "connection"
  requestId := requestId
  operation := some .pauseWebhook
  targetId := "hook-1"
  secondaryId := ""
  enabled := false
  reason := "paused by the operator"
  expiresAt := expiresAt

/-- Delivery `i` arrives, and takes three more turns. -/
def remoteDelivery (i : Nat) (requestId expiresAt : String) : List (Nat × RemoteInput) :=
  [(i, .deliver 500 (samplePause requestId expiresAt)), (i, .proceed), (i, .proceed), (i, .proceed)]

/-- The receipt has lapsed after a day, and the request id starts another mutation. -/
def sampleReused (requestId : String) : List (Nat × RemoteInput) :=
  remoteDelivery 0 requestId "today" ++ [(0, .tick 86400)] ++ remoteDelivery 1 requestId "tomorrow"

theorem request_id_started_twice : ∃ labels w,
    Run (Turns (remoteTurn sampleExecutor)) RealmState.initial labels w ∧
      ¬ w.history.Pairwise (NotBothStart 7) := by
  have hexec : (execAll (takeTurn (remoteTurn sampleExecutor)) RealmState.initial
      (sampleReused "request")).map (fun w => w.history.filterMap RemoteEvent.startedId) =
        some [7, 7] := by decide +kernel
  obtain ⟨w, run, hstarts⟩ := exists_run (turns_of_takeTurn _) hexec
  refine ⟨_, w, run, fun hpairs => ?_⟩
  have hnodup : (w.history.filterMap RemoteEvent.startedId).Pairwise fun a b => a = 7 → b ≠ 7 :=
    List.pairwise_filterMap.mpr (hpairs.imp fun h a ha b hb => by
      rintro rfl rfl
      exact h ha hb)
  rw [hstarts] at hnodup
  revert hnodup
  decide

/-- Another request id is used again after a day.  Of the deliveries for this one, the one that
    claims records its outcome, one with the same body and one with another find the receipt. -/
def sampleRun : List (Nat × RemoteInput) :=
  sampleReused "other" ++ remoteDelivery 2 "request" "tomorrow" ++
    [(2, .ended (some "webhook paused")), (2, .appended true), (2, .proceed), (2, .proceed),
      (2, .proceed), (2, .tick 86450)] ++
    remoteDelivery 3 "request" "tomorrow" ++ remoteDelivery 4 "request" "later"

/-- What deliveries were told, latest first. -/
def RemoteEvent.told : RemoteEvent → Option (Option Replay)
  | .answered _ answer _ => some answer.toOption
  | _ => none

theorem remote_mutations_at_most_once_sample : ∃ labels w,
    Run (Restrict (Turns (remoteTurn sampleExecutor)) fun w l => withinRetention 7 w l = true)
      RealmState.initial labels w ∧
    w.history.filterMap RemoteEvent.startedId = [7, 8, 8] ∧
    w.history.filterMap RemoteEvent.told = [none, some ⟨86400, "webhook paused"⟩] ∧
    w.history.Pairwise RepeatedLate ∧ w.history.Pairwise (NotBothStart 7) ∧
    w.history.Pairwise (Reports sampleExecutor 7) := by
  have hexec : (execAll (execWhen (fun w l => withinRetention 7 w l = true)
      (takeTurn (remoteTurn sampleExecutor))) RealmState.initial sampleRun).map
        (fun w => (w.history.filterMap RemoteEvent.startedId,
          w.history.filterMap RemoteEvent.told)) =
      some ([7, 8, 8], [none, some ⟨86400, "webhook paused"⟩]) := by decide +kernel
  obtain ⟨w, run, hobserved⟩ := exists_run (restrict_of_execWhen (turns_of_takeTurn _)) hexec
  obtain ⟨hstarts, htold⟩ := Prod.mk.inj hobserved
  obtain ⟨hevery, hwithin⟩ := remote_mutations_at_most_once sampleExecutor
  exact ⟨sampleRun, w, run, hstarts, htold, (hevery sampleRun w run.of_restrict).2.2.2,
    (hwithin 7 sampleRun w run).1, (hwithin 7 sampleRun w run).2.2.2⟩

end RustyAuth
