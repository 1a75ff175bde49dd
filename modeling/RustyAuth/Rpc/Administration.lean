/-
  Administrative authority and the ceremonies it rests on.

  An operator may administer within five minutes of the step-up time of the session.  A sign-in,
  a registration and a step-up set it no later than they complete a ceremony of the session, so
  there it stands for that ceremony (`Assured`).  A device session is given the time at which it
  is minted, which may be five minutes after the ceremony of the browser session: where it is
  minted in the second of that ceremony (`MintsFresh`) the window is that of the ceremony, and
  otherwise it reaches beyond.
-/
import RustyAuth.Rpc.SessionHandlers
import RustyAuth.Session.Touches

namespace RustyAuth

open RustyAuth.Library

/-- A ceremony of the session, or of the browser session it was minted from, was completed then. -/
def CeremonyOf (s : ConsoleState) (sessionId : Uuid) (time : Nat) : Prop :=
  (sessionId, time) ∈ s.completed ∨
    ∃ browserId, (sessionId, browserId) ∈ s.minted ∧ (browserId, time) ∈ s.completed

/-- A device session is minted in the second of the ceremony it stems from. -/
def MintsFresh (world : ConsoleWorld) (l : Nat × ConsoleInput) : Prop :=
  match world.task l.1, l.2 with
  | .calling (.mint browser _) (.holding _), .createSession _ _ =>
      browser.stepUpAt = some world.shared.store.clock
  | _, _ => True

instance (world : ConsoleWorld) (l : Nat × ConsoleInput) : Decidable (MintsFresh world l) := by
  unfold MintsFresh
  split <;> infer_instance

/-! ## The invariant -/

/-- A ceremony of the session itself was completed at the step-up time or later. -/
def Confirmed (s : ConsoleState) (session : Session) : Prop :=
  ∀ stepUpAt, session.stepUpAt = some stepUpAt →
    ∃ time, (session.id, time) ∈ s.completed ∧ stepUpAt ≤ time ∧ time ≤ s.store.clock

/-- Likewise of the browser session of a device session. -/
def Assured (s : ConsoleState) (session : Session) : Prop :=
  Confirmed s session ∨ session.authMethod = "device" ∧
    ∃ browserId, (session.id, browserId) ∈ s.minted ∧ ∀ stepUpAt, session.stepUpAt = some stepUpAt →
      ∃ time, (browserId, time) ∈ s.completed ∧ stepUpAt ≤ time ∧ time ≤ s.store.clock

/-- A session that is about to be created. -/
def Prepared (s : ConsoleState) (session : Session) : Caller → Prop
  | .signIn _ _ => False
  | .enrol _ => ∀ stepUpAt, session.stepUpAt = some stepUpAt → stepUpAt ≤ s.store.clock
  | .mint browser _ => session.authMethod = "device" ∧
      ∀ stepUpAt, session.stepUpAt = some stepUpAt →
        ∃ time, (browser.id, time) ∈ s.completed ∧ stepUpAt ≤ time ∧ time ≤ s.store.clock
  | .handOff => session.stepUpAt = none
  | _ => False

def CallAssured (s : ConsoleState) (caller : Caller) : SessionTask → Prop
  | .holding _ => ∀ browser credentialId, caller = .mint browser credentialId → Confirmed s browser
  | .creating _ session _ => Prepared s session caller
  | .fetched _ _ session _ => Assured s session
  | .live _ _ session _ => Assured s session
  | .storing _ _ stepped _ => ∀ stepUpAt, stepped.stepUpAt = some stepUpAt → stepUpAt ≤ s.store.clock
  | _ => True

def TaskAssured (s : ConsoleState) : ConsoleTask → Prop
  | .calling caller call => CallAssured s caller call
  | .authenticated _ session _ => Assured s session
  | _ => True

def AssuredUnder (s : ConsoleState) : ∀ k : Key, Value k → Prop
  | .session _, session => Assured s session
  | _, _ => True

/-- What is stored is assured. -/
def StoreAssured (s : ConsoleState) : Prop :=
  ∀ k t v, s.store.db.get t k = some v → AssuredUnder s k v

/-- An operator who administers does so within five minutes of a ceremony. -/
def AdministersFresh (s : ConsoleState) (authorization : Authorization) : Prop :=
  authorization.capability = .administer → ∃ time, CeremonyOf s authorization.sessionId time ∧
    time ≤ authorization.time ∧ authorization.time - time ≤ stepUpSeconds

/-! ### More ceremonies -/

structure More (s s' : ConsoleState) : Prop where
  completed : ∀ entry ∈ s.completed, entry ∈ s'.completed
  minted : ∀ entry ∈ s.minted, entry ∈ s'.minted
  clock : s.store.clock ≤ s'.store.clock

variable {session : Session}

section More

variable {s s' : ConsoleState} (h : More s s')

include h

theorem Confirmed.more (hsession : Confirmed s session) :
    Confirmed s' session := by
  intro stepUpAt hstep
  obtain ⟨time, hmem, hle, hclock⟩ := hsession stepUpAt hstep
  exact ⟨time, h.completed _ hmem, hle, Nat.le_trans hclock h.clock⟩

theorem Assured.more (hsession : Assured s session) : Assured s' session := by
  rcases hsession with hconfirmed | ⟨hdevice, browserId, hminted, hbrowser⟩
  · exact Or.inl (hconfirmed.more h)
  · refine Or.inr ⟨hdevice, browserId, h.minted _ hminted, fun stepUpAt hstep => ?_⟩
    obtain ⟨time, hmem, hle, hclock⟩ := hbrowser stepUpAt hstep
    exact ⟨time, h.completed _ hmem, hle, Nat.le_trans hclock h.clock⟩

theorem Prepared.more {caller : Caller} (hsession : Prepared s session caller) :
    Prepared s' session caller := by
  cases caller with
  | enrol credentialId => exact fun stepUpAt hstep => Nat.le_trans (hsession stepUpAt hstep) h.clock
  | mint browser credentialId =>
    obtain ⟨hdevice, hbrowser⟩ := hsession
    refine ⟨hdevice, fun stepUpAt hstep => ?_⟩
    obtain ⟨time, hmem, hle, hclock⟩ := hbrowser stepUpAt hstep
    exact ⟨time, h.completed _ hmem, hle, Nat.le_trans hclock h.clock⟩
  | handOff => exact hsession
  | _ => exact hsession.elim

theorem CallAssured.more {caller : Caller} {call : SessionTask} (hcall : CallAssured s caller call) :
    CallAssured s' caller call := by
  cases call with
  | holding user => exact fun browser credentialId hmint => (hcall browser credentialId hmint).more h
  | creating digest session seconds => exact Prepared.more h hcall
  | fetched since digest session activity => exact Assured.more h hcall
  | live since digest session current => exact Assured.more h hcall
  | storing digest session stepped seconds =>
    exact fun stepUpAt hstep => Nat.le_trans (hcall stepUpAt hstep) h.clock
  | _ => trivial

theorem TaskAssured.more {task : ConsoleTask} (htask : TaskAssured s task) : TaskAssured s' task := by
  cases task with
  | calling caller call => exact CallAssured.more h htask
  | authenticated handler session user => exact Assured.more h htask
  | _ => trivial

theorem AssuredUnder.more {k : Key} {v : Value k} (hstored : AssuredUnder s k v) :
    AssuredUnder s' k v := by
  cases k with
  | session digest => exact Assured.more h hstored
  | _ => trivial

theorem AdministersFresh.more {authorization : Authorization}
    (hfresh : AdministersFresh s authorization) : AdministersFresh s' authorization := by
  intro hcapability
  obtain ⟨time, hceremony, htimes⟩ := hfresh hcapability
  refine ⟨time, ?_, htimes⟩
  rcases hceremony with hmem | ⟨browserId, hminted, hmem⟩
  · exact Or.inl (h.completed _ hmem)
  · exact Or.inr ⟨browserId, h.minted _ hminted, h.completed _ hmem⟩

end More

/-! ## A turn of a call -/

theorem loggedBy_eq {s : SessionState} {turn : SessionTurn} (events : List SessionEvent)
    (h : turn.shared.log = events ++ s.log) : loggedBy s turn = events := by
  unfold loggedBy
  rw [h, List.length_append, Nat.add_sub_cancel, List.take_left]

/-- What the callers of the store ask for. -/
def Asks (ctx : ConsoleContext) (s : ConsoleState) (caller : Caller) : SessionInput → Prop
  | .createSession origin absoluteSeconds _ _ =>
      caller.origin ctx = some (origin, absoluteSeconds) ∧
        ∀ browser credentialId, caller = .mint browser credentialId →
          browser.stepUpAt = some s.store.clock
  | .readUser _ => caller = .handOff
  | .login _ _ _ _ _ _ _ => ∃ userId result, caller = .signIn userId result
  | _ => True

section Call

variable {ctx : ConsoleContext} {s : ConsoleState} {caller : Caller} {call : SessionTask}
  {input : SessionInput} {turn : SessionTurn}

theorem clock_of_step {store : SessionState} (h : SessionStep ctx.sessions store call input turn) :
    store.clock ≤ turn.shared.clock := by
  cases h with
  | tick _ hclock => exact hclock
  | _ => exact Nat.le_refl _

/-- What a turn of a call leaves: more ceremonies, and what is stored, the call itself and an
    answer of `session` are assured. -/
structure CallTurn (s : ConsoleState) (caller : Caller) (turn : SessionTurn) : Prop where
  store : StoreAssured (s.follow caller turn).shared
  call : CallAssured (s.follow caller turn).shared caller turn.phase
  accepted : ∀ since digest session current,
    .accepted since digest session current ∈ loggedBy s.store turn →
      Assured (s.follow caller turn).shared session

theorem more_follow (h : s.store.clock ≤ turn.shared.clock) :
    More s (s.follow caller turn).shared :=
  ⟨fun _ hmem => List.mem_append_right _ hmem, fun _ hmem => List.mem_append_right _ hmem, h⟩

/-- A ceremony that the turn completes is recorded. -/
theorem completed_follow {event : SessionEvent} (events : List SessionEvent) {entry : Uuid × Nat}
    (hlog : turn.shared.log = event :: events ++ s.store.log)
    (hcompletes : caller.completes s.store.clock event = some entry) :
    entry ∈ (s.follow caller turn).shared.completed := by
  refine List.mem_append_left _ (List.mem_filterMap.mpr ⟨event, ?_, hcompletes⟩)
  rw [loggedBy_eq _ hlog]
  exact List.mem_cons_self

theorem minted_follow {event : SessionEvent} {events : List SessionEvent} {entry : Uuid × Uuid}
    (hlog : turn.shared.log = event :: events ++ s.store.log)
    (hmints : caller.mints event = some entry) :
    entry ∈ (s.follow caller turn).shared.minted := by
  refine List.mem_append_left _ (List.mem_filterMap.mpr ⟨event, ?_, hmints⟩)
  rw [loggedBy_eq _ hlog]
  exact List.mem_cons_self

/-- A turn that logs no answer, with what it writes. -/
theorem CallTurn.of_write {ws : List Write} (events : List SessionEvent) (hstore : StoreAssured s)
    (hdb : turn.shared.db = commit s.store.clock s.store.db ws)
    (hclock : turn.shared.clock = s.store.clock) (hlog : turn.shared.log = events ++ s.store.log)
    (hws : ∀ w ∈ ws, w.Stores (AssuredUnder (s.follow caller turn).shared))
    (hcall : CallAssured (s.follow caller turn).shared caller turn.phase)
    (hevents : ∀ since digest session current, .accepted since digest session current ∉ events) :
    CallTurn s caller turn := by
  have more : More s (s.follow caller turn).shared := more_follow (Nat.le_of_eq hclock.symm)
  refine ⟨?_, hcall, ?_⟩
  · intro k t v hv
    have hget : (commit s.store.clock s.store.db ws).get t k = some v := hdb ▸ hv
    exact forall_get_commit s.store.clock ws s.store.db hws
      (fun k t v hv => (hstore k t v hv).more more) k t v hget
  · intro since digest session current hmem
    rw [loggedBy_eq _ hlog] at hmem
    exact absurd hmem (hevents since digest session current)

/-- A turn that writes nothing and logs no answer. -/
theorem CallTurn.stay (events : List SessionEvent) (hstore : StoreAssured s)
    (hdb : turn.shared.db = s.store.db) (hclock : s.store.clock ≤ turn.shared.clock)
    (hlog : turn.shared.log = events ++ s.store.log)
    (hcall : CallAssured (s.follow caller turn).shared caller turn.phase)
    (hevents : ∀ since digest session current, .accepted since digest session current ∉ events) :
    CallTurn s caller turn := by
  refine ⟨?_, hcall, ?_⟩
  · intro k t v hv
    have hget : s.store.db.get t k = some v := hdb ▸ hv
    exact (hstore k t v hget).more (more_follow hclock)
  · intro since digest session current hmem
    rw [loggedBy_eq _ hlog] at hmem
    exact absurd hmem (hevents since digest session current)

theorem stores_of_plain {w : Write} (h : w.key.isSession = false) : w.Stores (AssuredUnder s) := by
  cases w with
  | del k => trivial
  | set k v => cases k <;> trivial
  | setEx k v seconds => cases k <;> trivial
  | setKeep k v => cases k <;> trivial

theorem stores_del {k : Key} : ∀ w ∈ [(Command.del k : Write)], w.Stores (AssuredUnder s) := by
  intro w hw
  rw [List.mem_singleton.mp hw]
  trivial

/-- A session is prepared for the caller that asks for it. -/
theorem prepared_of_asks {user : User} {origin : SessionOrigin} {absoluteSeconds : Nat}
    {random : String} {id : Uuid} {token : String}
    (hasks : Asks ctx s caller (.createSession origin absoluteSeconds random id))
    (hbrowser : ∀ browser credentialId, caller = .mint browser credentialId → Confirmed s browser)
    (hprepare : prepareSession s.store.clock user origin absoluteSeconds random id =
      (token, session)) : Prepared s session caller := by
  cases hprepare
  obtain ⟨horigin, hfresh⟩ := hasks
  cases caller with
  | enrol credentialId =>
    cases horigin
    intro stepUpAt hstep
    cases hstep
    exact Nat.le_refl _
  | mint browser credentialId =>
    cases horigin
    refine ⟨rfl, fun stepUpAt hstep => ?_⟩
    cases hstep
    exact hbrowser browser credentialId rfl _ (hfresh browser credentialId rfl)
  | handOff =>
    cases horigin
    rfl
  | _ => cases horigin

/-- A prepared session is assured once it is created. -/
theorem created_assured {digest : String} (events : List SessionEvent)
    (hprepared : Prepared s session caller) (hclock : turn.shared.clock = s.store.clock)
    (hlog : turn.shared.log = .created digest session :: events ++ s.store.log) :
    Assured (s.follow caller turn).shared session := by
  have more : More s (s.follow caller turn).shared := more_follow (Nat.le_of_eq hclock.symm)
  cases caller with
  | enrol credentialId =>
    refine Or.inl fun stepUpAt hstep => ?_
    exact ⟨s.store.clock, completed_follow _ hlog rfl, hprepared stepUpAt hstep,
      Nat.le_of_eq hclock.symm⟩
  | mint browser credentialId =>
    obtain ⟨hdevice, hbrowser⟩ := Prepared.more more hprepared
    exact Or.inr ⟨hdevice, browser.id, minted_follow hlog rfl, hbrowser⟩
  | handOff =>
    refine Or.inl fun stepUpAt hstep => ?_
    cases hprepared.symm.trans hstep
  | _ => exact hprepared.elim

theorem callTurn_of_step (hstore : StoreAssured s) (hcall : CallAssured s caller call)
    (hasks : Asks ctx s caller input) (hstep : SessionStep ctx.sessions s.store call input turn) :
    CallTurn s caller turn := by
  have more : More s (s.follow caller turn).shared := more_follow (clock_of_step hstep)
  have none : ∀ since digest session current,
      SessionEvent.accepted since digest session current ∉ ([] : List SessionEvent) :=
    fun _ _ _ _ => List.not_mem_nil
  cases hstep with
  | tick _ hclock => exact .stay [] hstore rfl hclock rfl (CallAssured.more more hcall) none
  | stop _ _ locked => exact .stay [] hstore rfl (Nat.le_refl _) rfl trivial none
  | hold hread =>
    refine .stay [] hstore rfl (Nat.le_refl _) rfl ?_ none
    intro browser credentialId hmint
    cases hasks.symm.trans hmint
  | prepare hprepare =>
    refine .stay [] hstore rfl (Nat.le_refl _) rfl ?_ none
    exact Prepared.more more (prepared_of_asks hasks hcall hprepare)
  | @create digest session seconds eventId =>
    refine .of_write [_] hstore rfl rfl rfl ?_ trivial (by simp)
    intro w hw
    rw [List.mem_singleton.mp hw]
    exact created_assured [] hcall rfl rfl
  | append events =>
    exact .of_write [] hstore rfl rfl rfl
      (fun w hw => stores_of_plain (isSession_of_mem_queueEvents hw)) trivial none
  | @login userId result absoluteSeconds random id preparedAt eventId user user' token session events
      c hnow hprepared hread hresult hprepare =>
    obtain ⟨userId', result', rfl⟩ := hasks
    refine .of_write [_] hstore rfl rfl rfl ?_ trivial (by simp)
    simp only [SessionOp.commands, List.forall_mem_append, List.forall_mem_cons]
    refine ⟨⟨trivial, ?_, List.forall_mem_nil _⟩,
      fun w hw => stores_of_plain (isSession_of_mem_queueEvents hw)⟩
    refine Or.inl fun stepUpAt hstep => ?_
    refine ⟨s.store.clock, completed_follow [] rfl rfl, ?_, Nat.le_refl _⟩
    cases hprepare
    cases hstep
    exact hprepared
  | read hrecord =>
    refine .stay [_] hstore rfl (Nat.le_refl _) rfl ?_ (by simp)
    exact Assured.more more (hstore (.session _) s.store.clock _ hrecord)
  | expired => exact .stay [] hstore rfl (Nat.le_refl _) rfl trivial none
  | @inTime since digest session activity eventId hlive =>
    refine .stay [] hstore rfl (Nat.le_refl _) rfl ?_ none
    obtain ⟨lastSeenAt, heq⟩ := applySessionActivity_eq session activity s.store.clock
    have hassured : Assured s session := hcall
    show Assured _ (applySessionActivity session activity s.store.clock)
    rw [heq]
    exact hassured.more more
  | reject => exact .stay [] hstore rfl (Nat.le_refl _) rfl trivial none
  | @accept since digest session current eventId user hread hvalid =>
    have hassured : Assured s session := hcall
    refine ⟨fun k t v hv => (hstore k t v hv).more more, trivial, ?_⟩
    intro since' digest' session' current' hmem
    rw [loggedBy_eq [_] rfl] at hmem
    cases List.mem_singleton.mp hmem
    exact hassured.more more
  | delete _ _ digest =>
    exact .of_write [_] hstore rfl rfl rfl stores_del trivial (by simp)
  | forget => exact .of_write [] hstore rfl rfl rfl stores_del trivial none
  | stepUp hrecord => exact .stay [] hstore rfl (Nat.le_refl _) rfl trivial none
  | lapsed => exact .stay [] hstore rfl (Nat.le_refl _) rfl trivial none
  | decide =>
    refine .stay [] hstore rfl (Nat.le_refl _) rfl ?_ none
    intro stepUpAt hstep
    cases hstep
    exact Nat.le_refl _
  | expire => exact .of_write [] hstore rfl rfl rfl stores_del trivial none
  | @store digest session stepped seconds eventId =>
    refine .of_write [_] hstore rfl rfl rfl ?_ trivial (by simp)
    simp only [List.forall_mem_cons]
    refine ⟨Or.inl fun stepUpAt hstep => ?_, trivial, List.forall_mem_nil _⟩
    refine ⟨s.store.clock, completed_follow [] rfl ?_, hcall stepUpAt hstep, Nat.le_refl _⟩
    cases caller <;> rfl
  | @account _ request _ op hrun =>
    refine .of_write _ hstore rfl rfl rfl
      (fun w hw => stores_of_plain (op.isSession_of_mem_commands w hw)) trivial ?_
    cases request <;> simp [AccountRequest.revocations]
  | touch hreceived =>
    refine .of_write [] hstore rfl rfl rfl ?_ trivial none
    intro w hw
    obtain ⟨touch, _, rfl⟩ := mem_sessionTouchPipeline hw
    trivial

/-! ## Every turn of a handler -/

structure HandlerTurn (s : ConsoleState) (turn : ConsoleTurn) : Prop where
  more : More s turn.shared
  store : StoreAssured turn.shared
  task : TaskAssured turn.shared turn.phase
  observed : ∀ authorization ∈ turn.observed, AdministersFresh turn.shared authorization

theorem CallTurn.next (h : CallTurn s caller turn) :
    TaskAssured (s.follow caller turn).shared (s.follow caller turn).phase := by
  show TaskAssured _ (caller.next s.store (loggedBy s.store turn) turn.phase)
  unfold Caller.next
  split
  · next session _ hlogged =>
    split
    · exact h.accepted _ _ session _ (hlogged ▸ List.mem_singleton_self _)
    · trivial
  · trivial
  · exact h.call

theorem call_assured {next : ConsoleTurn} (hstore : StoreAssured s)
    (hact : s.call ctx caller call input = some next) (hcall : CallAssured s caller call)
    (hasks : Asks ctx s caller input) : HandlerTurn s next := by
  obtain ⟨turn, hturn, rfl⟩ := Option.map_eq_some_iff.mp hact
  have hstep := sessionTurn_step hturn
  have hcallTurn := callTurn_of_step hstore hcall hasks hstep
  exact ⟨more_follow (clock_of_step hstep), hcallTurn.store, hcallTurn.next, List.forall_mem_nil _⟩

/-- A handler that leaves the store and the ceremonies of sessions as they are. -/
theorem HandlerTurn.stay {next : ConsoleTurn} (hstore : StoreAssured s)
    (hsame : next.shared.store = s.store) (hcompleted : next.shared.completed = s.completed)
    (hminted : next.shared.minted = s.minted) (htask : TaskAssured next.shared next.phase)
    (hobserved : ∀ authorization ∈ next.observed, AdministersFresh next.shared authorization) :
    HandlerTurn s next := by
  have more : More s next.shared :=
    ⟨fun _ hmem => hcompleted ▸ hmem, fun _ hmem => hminted ▸ hmem, by rw [hsame]⟩
  refine ⟨more, fun k t v hv => ?_, htask, hobserved⟩
  rw [hsame] at hv
  exact (hstore k t v hv).more more

/-- The same, where the handler has ended. -/
theorem HandlerTurn.done {s' : ConsoleState} (hstore : StoreAssured s)
    (hsame : s'.store = s.store) (hcompleted : s'.completed = s.completed)
    (hminted : s'.minted = s.minted) : HandlerTurn s ⟨s', .idle, []⟩ :=
  .stay hstore hsame hcompleted hminted trivial (List.forall_mem_nil _)

theorem authenticationVerify_assured (hstore : StoreAssured s) (id : Uuid) (answer : PasskeyAnswer) :
    HandlerTurn s (authenticationVerify s id answer) := by
  unfold authenticationVerify takeAuthentication
  split
  · next heq =>
    obtain rfl := (Prod.mk.inj heq).1
    split
    · exact .stay hstore rfl rfl rfl trivial (List.forall_mem_nil _)
    · exact .done hstore rfl rfl rfl
  · next heq _ =>
    obtain rfl := (Prod.mk.inj heq).1
    exact .done hstore rfl rfl rfl

theorem registrationVerify_assured (hstore : StoreAssured s) (id : Uuid)
    (passkey : Option NewPasskey)
    (invitation : Option (Except AccountError (Option (Uuid × String × String)))) :
    HandlerTurn s (registrationVerify ctx s id passkey invitation) := by
  unfold registrationVerify takeRegistration
  split
  · next heq =>
    obtain rfl := (Prod.mk.inj heq).1
    split
    · split
      · exact .stay hstore rfl rfl rfl trivial (List.forall_mem_nil _)
      · exact .done hstore rfl rfl rfl
    · exact .done hstore rfl rfl rfl
  · next heq _ =>
    obtain rfl := (Prod.mk.inj heq).1
    exact .done hstore rfl rfl rfl

theorem recoveryVerify_assured (hstore : StoreAssured s) (id : Uuid) (passkey : Option NewPasskey) :
    HandlerTurn s (recoveryVerify s id passkey) := by
  unfold recoveryVerify takeRegistration
  split
  · next heq =>
    obtain rfl := (Prod.mk.inj heq).1
    split
    · exact .stay hstore rfl rfl rfl trivial (List.forall_mem_nil _)
    · exact .done hstore rfl rfl rfl
  · next heq _ =>
    obtain rfl := (Prod.mk.inj heq).1
    exact .done hstore rfl rfl rfl

theorem stepUpOptions_assured (hstore : StoreAssured s) (ceremonyId : Uuid) (session : Session)
    (user : User) : HandlerTurn s (stepUpOptions s ceremonyId session user) := by
  unfold stepUpOptions
  split <;> exact .done hstore rfl rfl rfl

theorem stepUpVerify_assured (hstore : StoreAssured s) (token : String) (ceremonyId : Uuid)
    (answer : PasskeyAnswer) (session : Session) (user : User) :
    HandlerTurn s (stepUpVerify s token ceremonyId answer session user) := by
  unfold stepUpVerify takeAuthentication
  split
  · split
    · next heq =>
      obtain rfl := (Prod.mk.inj heq).1
      split
      · exact .stay hstore rfl rfl rfl trivial (List.forall_mem_nil _)
      · exact .done hstore rfl rfl rfl
    · next heq _ =>
      obtain rfl := (Prod.mk.inj heq).1
      exact .done hstore rfl rfl rfl
  · exact .done hstore rfl rfl rfl

/-- The browser session of a device session has a ceremony of its own. -/
theorem deviceToken_assured (hstore : StoreAssured s) (hsession : Assured s session) (user : User) :
    HandlerTurn s (deviceToken s session user) := by
  unfold deviceToken
  split
  · split
    · next hrecent =>
      refine .stay hstore rfl rfl rfl ?_ (List.forall_mem_nil _)
      intro browser credentialId hmint
      cases hmint
      have hpasskey : session.authMethod = "passkey" := by
        unfold requireRecentPasskey requirePasskeySession at hrecent
        simp only [Bool.and_eq_true, decide_eq_true_eq] at hrecent
        exact hrecent.1
      rcases hsession with hconfirmed | ⟨hdevice, _⟩
      · exact hconfirmed
      · rw [hpasskey] at hdevice
        exact absurd hdevice (by decide)
    · exact .done hstore rfl rfl rfl
  · exact .done hstore rfl rfl rfl

theorem enrol_assured {next : ConsoleTurn} (hstore : StoreAssured s) {request : AccountRequest}
    {credentialId : String} {eventId : Nat → Uuid}
    (hact : enrol ctx s request credentialId eventId = some next) : HandlerTurn s next := by
  obtain ⟨turn, hcall, rfl⟩ := Option.map_eq_some_iff.mp hact
  have hturn := call_assured hstore hcall trivial trivial
  split
  · refine ⟨hturn.more, hturn.store, ?_, hturn.observed⟩
    intro browser credentialId hmint
    cases hmint
  · exact hturn

theorem confirm_assured {next : ConsoleTurn} (hstore : StoreAssured s) {token : String}
    {sessionId userId : Uuid} {result : AuthenticationResult} {eventId : Nat → Uuid}
    (hact : confirm ctx s token sessionId userId result eventId = some next) :
    HandlerTurn s next := by
  obtain ⟨turn, hcall, rfl⟩ := Option.map_eq_some_iff.mp hact
  have hturn := call_assured hstore hcall trivial trivial
  split
  · exact ⟨hturn.more, hturn.store, trivial, hturn.observed⟩
  · exact hturn

/-! ## Operator calls -/

/-- Both ways of authorizing end in the step-up check. -/
theorem requireStepUpFor_of_authorizeOperator {expectedMethod : String}
    {capability : OperatorCapability} {resource : Option (FleetResourceKindRecord × Uuid)}
    {user : User} {operator : Option OperatorRecord}
    (h : authorizeOperator s expectedMethod capability resource session user operator = .ok ()) :
    ∃ actor, actor.stepUpAt = session.stepUpAt ∧
      requireStepUpFor s.store.clock capability actor = .ok () := by
  simp only [authorizeOperator, bind_eq_ok, okOr_eq_ok] at h
  obtain ⟨_, _, record, _, h⟩ := h
  refine ⟨⟨user.id, record.role, session.stepUpAt⟩, rfl, ?_⟩
  split at h
  · unfold authorize at h
    split at h
    · exact h
    · cases h
  · unfold authorizeFleet at h
    split at h
    · exact h
    · simp only [bind_eq_ok] at h
      obtain ⟨delegated, _, h⟩ := h
      split at h
      · exact h
      · cases h

theorem administersFresh_of_assured (hsession : Assured s session) {capability : OperatorCapability}
    {actor : OperatorActor} (hactor : actor.stepUpAt = session.stepUpAt)
    (hstep : requireStepUpFor s.store.clock capability actor = .ok ()) :
    AdministersFresh s ⟨session.id, capability, s.store.clock⟩ := by
  intro hcapability
  dsimp only
  unfold requireStepUpFor at hstep
  rw [ensure_eq_ok] at hstep
  rcases hstep with hother | ⟨stepUpAt, hmem, hle, hwithin⟩
  · exact absurd hcapability hother
  · rw [hactor] at hmem
    rcases hsession with hconfirmed | ⟨_, browserId, hminted, hbrowser⟩
    · obtain ⟨time, hcompleted, hlater, hclock⟩ := hconfirmed stepUpAt hmem
      exact ⟨time, Or.inl hcompleted, hclock, by omega⟩
    · obtain ⟨time, hcompleted, hlater, hclock⟩ := hbrowser stepUpAt hmem
      exact ⟨time, Or.inr ⟨browserId, hminted, hcompleted⟩, hclock, by omega⟩

theorem operatorCall_assured (hstore : StoreAssured s) (hsession : Assured s session)
    (expectedMethod : String) (capability : OperatorCapability)
    (resource : Option (FleetResourceKindRecord × Uuid)) (user : User)
    (operator : Option OperatorRecord) :
    HandlerTurn s (operatorCall s expectedMethod capability resource session user operator) := by
  unfold operatorCall
  split
  · next hauthorized =>
    obtain ⟨actor, hactor, hstep⟩ := requireStepUpFor_of_authorizeOperator hauthorized
    refine .stay hstore rfl rfl rfl trivial ?_
    intro authorization hmem
    rw [List.mem_singleton.mp hmem]
    exact administersFresh_of_assured hsession hactor hstep
  · exact .done hstore rfl rfl rfl

end Call

theorem consoleTurn_assured {ctx : ConsoleContext} {world : ConsoleWorld} {l : Nat × ConsoleInput}
    {turn : ConsoleTurn} (hstore : StoreAssured world.shared)
    (htask : TaskAssured world.shared (world.task l.1)) (hfresh : MintsFresh world l)
    (hact : consoleTurn ctx world.shared (world.task l.1) l.2 = some turn) :
    HandlerTurn world.shared turn := by
  unfold consoleTurn at hact
  unfold MintsFresh at hfresh
  generalize world.task l.1 = task at htask hfresh hact
  generalize l.2 = input at hfresh hact
  split at hact
  · -- the passing of time
    next now =>
    split at hact
    · next hclock =>
      cases hact
      have more : More world.shared
          { world.shared with store := { world.shared.store with clock := now } } :=
        ⟨fun _ hmem => hmem, fun _ hmem => hmem, hclock⟩
      exact ⟨more, fun k t v hv => (hstore k t v hv).more more, TaskAssured.more more htask,
        List.forall_mem_nil _⟩
    · cases hact
  · exact call_assured hstore hact trivial trivial
  · split at hact
    · next hplain =>
      refine call_assured hstore hact trivial ?_
      revert hplain
      unfold SessionInput.isPlain Asks
      split <;> simp
    · cases hact
  · cases hact
    exact .done hstore rfl rfl rfl
  · cases hact
    exact authenticationVerify_assured hstore _ _
  · cases hact
    exact .done hstore rfl rfl rfl
  · cases hact
    exact registrationVerify_assured hstore _ _ _
  · cases hact
    exact recoveryVerify_assured hstore _ _
  · exact call_assured hstore hact trivial rfl
  · exact enrol_assured hstore hact
  · exact confirm_assured hstore hact
  · cases hact
    exact stepUpOptions_assured hstore _ _ _
  · cases hact
    exact stepUpVerify_assured hstore _ _ _ _ _
  · cases hact
    exact deviceToken_assured hstore htask _
  · cases hact
    exact operatorCall_assured hstore htask _ _ _ _ _
  · exact call_assured hstore hact htask ⟨_, _, rfl⟩
  · next caller user random id =>
    split at hact
    · next origin absoluteSeconds horigin =>
      refine call_assured hstore hact htask ⟨horigin, ?_⟩
      intro browser credentialId hmint
      subst hmint
      exact hfresh
    · cases hact
  · exact call_assured hstore hact trivial trivial
  · exact call_assured hstore hact htask trivial
  · exact call_assured hstore hact htask trivial
  · cases hact
    exact .done hstore rfl rfl rfl
  · cases hact

/-! ## Runs -/

abbrev WorldAssured (world : ConsoleWorld) : Prop :=
  Inv (fun s history => StoreAssured s ∧ ∀ authorization ∈ history, AdministersFresh s authorization)
    TaskAssured world

theorem worldAssured_start {db : Db} (hdb : NoSessions db) (clock : Nat) :
    WorldAssured (consoleStart db clock) := by
  refine ⟨⟨?_, List.forall_mem_nil _⟩, fun _ => trivial⟩
  intro k t v hv
  cases k with
  | session digest => exact nomatch (hdb (.session digest) t rfl).symm.trans hv
  | _ => trivial

theorem worldAssured_turns {ctx : ConsoleContext} {world world' : ConsoleWorld}
    {l : Nat × ConsoleInput} (h : WorldAssured world)
    (hturn : Restrict (ConsoleTurns ctx) MintsFresh world l world') : WorldAssured world' := by
  obtain ⟨hfresh, hturn⟩ := hturn
  refine turns_inv h hturn fun turn hact => ?_
  obtain ⟨hstore, hhistory⟩ := h.shared
  have hnext := consoleTurn_assured hstore (h.tasks l.1) hfresh hact
  refine ⟨⟨hnext.store, ?_⟩, hnext.task, fun _ hother => TaskAssured.more hnext.more hother⟩
  rw [List.forall_mem_append]
  exact ⟨hnext.observed, fun authorization hmem =>
    AdministersFresh.more hnext.more (hhistory authorization hmem)⟩

/-- Where device sessions are minted in the second of the ceremony they stem from, every operator
    who administers does so within five minutes of a ceremony of the session, or of the browser
    session that it was minted from. -/
theorem administration_needs_ceremony (ctx : ConsoleContext) {db : Db} (hdb : NoSessions db)
    {clock : Nat} {ls : List (Nat × ConsoleInput)} {world : ConsoleWorld}
    (run : Run (Restrict (ConsoleTurns ctx) MintsFresh) (consoleStart db clock) ls world) :
    ∀ authorization ∈ world.history, AdministersFresh world.shared authorization :=
  (run.invariant (fun _ _ _ h hturn => worldAssured_turns h hturn)
    (worldAssured_start hdb clock)).shared.2

/-! ### Sample calls -/

def sampleConsole : ConsoleContext where
  sessions := { sampleSessions with idleSeconds := 1800 }
  sessionAbsoluteSeconds := 3600
  identityVerificationRequired := true

def sampleAnswer : PasskeyAnswer := some (⟨"cred-1", 0⟩, true)

/-- A sign-in at 10. -/
def sampleSignIn : List (Nat × ConsoleInput) :=
  [(0, .tick 10), (0, .authenticationOptions 70 1), (0, .authenticationVerify 70 sampleAnswer),
    (0, .login sampleToken 50 10 900)]

/-- A device token, minted from the browser session at `minted` and used to administer at `used`. -/
def sampleDevice (minted used : Nat) : List (Nat × ConsoleInput) :=
  [(0, .tick minted), (0, .request .deviceToken sampleToken), (0, .proceed 0), (0, .proceed 0),
    (0, .proceed 0), (0, .createSession sampleToken 60), (0, .proceed 0), (0, .proceed 901),
    (0, .tick used), (0, .request (.operator "device" .administer none) ("rdt_" ++ sampleToken)),
    (0, .proceed 0), (0, .proceed 0), (0, .ensured (some ⟨1, .owner, 5, none⟩))]

/-- A device session is minted almost five minutes after the sign-in, and administers almost five
    minutes later; the only ceremony is the sign-in at 10. -/
theorem device_session_extends_window : NoSessions holderRealm ∧ ∃ world,
    Run (ConsoleTurns sampleConsole) (consoleStart holderRealm 3)
      (sampleSignIn ++ sampleDevice 300 590) world ∧
    world.history = [⟨60, .administer, 590⟩] ∧ world.shared.completed = [(50, 10)] ∧
    world.shared.minted = [(60, 50)] ∧
    ¬∀ authorization ∈ world.history, AdministersFresh world.shared authorization := by
  have hexec : (execAll (takeTurn (consoleTurn sampleConsole)) (consoleStart holderRealm 3)
      (sampleSignIn ++ sampleDevice 300 590)).map (fun world =>
        (world.history, world.shared.completed, world.shared.minted)) =
      some ([⟨60, .administer, 590⟩], [(50, 10)], [(60, 50)]) := by
    decide +kernel
  obtain ⟨world, run, hend⟩ := exists_run (turns_of_takeTurn _) hexec
  simp only [Prod.mk.injEq] at hend
  obtain ⟨hhistory, hcompleted, hminted⟩ := hend
  refine ⟨noSessions_holderRealm, world, run, hhistory,
    hcompleted, hminted, fun hfresh => ?_⟩
  rw [hhistory, List.forall_mem_singleton] at hfresh
  obtain ⟨time, hceremony, _, hwithin⟩ := hfresh rfl
  have htime : time = 10 := by
    unfold CeremonyOf at hceremony
    rw [hcompleted] at hceremony
    rcases hceremony with hmem | ⟨browserId, _, hmem⟩
    · exact congrArg Prod.snd (List.mem_singleton.mp hmem)
    · exact congrArg Prod.snd (List.mem_singleton.mp hmem)
  subst htime
  exact absurd hwithin (by decide)

/-- Minted in the second of the sign-in, it administers until 310. -/
theorem administration_needs_ceremony_sample : NoSessions holderRealm ∧ ∃ world,
    Run (Restrict (ConsoleTurns sampleConsole) MintsFresh) (consoleStart holderRealm 3)
      (sampleSignIn ++ sampleDevice 10 310) world ∧
    world.history = [⟨60, .administer, 310⟩] ∧
    ∀ authorization ∈ world.history, AdministersFresh world.shared authorization := by
  have hexec : (execAll (execWhen MintsFresh (takeTurn (consoleTurn sampleConsole)))
      (consoleStart holderRealm 3) (sampleSignIn ++ sampleDevice 10 310)).map (·.history) =
      some [⟨60, .administer, 310⟩] := by
    decide +kernel
  obtain ⟨world, run, hhistory⟩ := exists_run (restrict_of_execWhen (turns_of_takeTurn _)) hexec
  exact ⟨noSessions_holderRealm, world, run, hhistory,
    administration_needs_ceremony sampleConsole noSessions_holderRealm run⟩

end RustyAuth
