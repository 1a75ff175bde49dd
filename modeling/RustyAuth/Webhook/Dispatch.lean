/-
  The webhook runtime: dispatch passes, manual replays, and administration beside them.

  A round of `dispatch_once` reads the webhooks and makes a pass for each.  A pass of
  `dispatch_webhook` reads the next event and the delivery of that event, sends it, and
  persists what came of it, in separate accesses of the store (`DispatchPhase`).  Rounds are
  made by one worker, one after another; replays are requests and run beside it in any number
  (`ReplayTask`).  Outcomes of the network, identifiers and the clock are inputs, and any
  round or replay may end between two accesses.
  A delivery gets its identifier and its time of creation when it is first stored.
-/
import RustyAuth.Store.Webhooks
import RustyAuth.Library.Tasks
import RustyAuth.Library.Texts

namespace RustyAuth

open RustyAuth.Library

def maxAttempts : Nat := 8

/-! ## Attempts -/

/-- What came of a POST: an answer with a status, or an error of the transport. -/
inductive HttpOutcome
  | status (code : Nat)
  | transport
deriving DecidableEq

def HttpOutcome.isSuccess : HttpOutcome → Bool
  | .status code => decide (200 ≤ code ∧ code < 300)
  | .transport => false

def HttpOutcome.retryable : HttpOutcome → Bool
  | .status code => [408, 425, 429].contains code || decide (500 ≤ code ∧ code < 600)
  | .transport => true

def HttpOutcome.code : HttpOutcome → Option Nat
  | .status code => some code
  | .transport => none

def HttpOutcome.errorClass : HttpOutcome → String
  | .status _ => "http_status"
  | .transport => "transport"

def newDelivery (id : Uuid) (now : Nat) (webhookId : String) (event : AuthEvent) :
    WebhookDeliveryRecord where
  id
  webhookId
  eventSequence := event.sequence
  eventId := event.id
  eventType := event.eventType
  status := .pending
  attemptCount := 0
  responseStatus := none
  latencyMilliseconds := 0
  createdAt := now
  nextAttemptAt := none
  completedAt := none
  errorClass := ""

def scheduleOrFail (now : Nat) (delivery : WebhookDeliveryRecord) (retryable : Bool) :
    WebhookDeliveryRecord :=
  if retryable ∧ delivery.attemptCount < maxAttempts then
    { delivery with
      status := .retrying
      nextAttemptAt := some (satAdd now (2 ^ min (delivery.attemptCount - 1) 11))
      completedAt := none }
  else
    { delivery with status := .failed, nextAttemptAt := none, completedAt := some now }

/-- `u32::saturating_add(1)`. -/
def nextAttempt (count : Nat) : Nat := min (count + 1) (2 ^ 32 - 1)

/-- The delivery after an attempt of a pass. -/
def attempted (now latency : Nat) (delivery : WebhookDeliveryRecord) (outcome : HttpOutcome) :
    WebhookDeliveryRecord :=
  let delivery :=
    { delivery with
      attemptCount := nextAttempt delivery.attemptCount
      latencyMilliseconds := latency }
  if outcome.isSuccess then
    { delivery with
      status := .succeeded
      responseStatus := outcome.code
      completedAt := some now
      nextAttemptAt := none
      errorClass := "" }
  else
    -- an error of the transport leaves the status of the attempt before
    scheduleOrFail now
      { delivery with
        responseStatus := outcome.code.or delivery.responseStatus
        errorClass := outcome.errorClass }
      outcome.retryable

/-- The webhook after an attempt: a runtime status, and the time of the last delivery. -/
def attemptedHook (now : Nat) (webhook : WebhookRecord) (delivery : WebhookDeliveryRecord) :
    WebhookRecord :=
  let webhook :=
    if delivery.status = .succeeded then
      { webhook with
        lastDeliveryAt := delivery.completedAt
        status := if webhook.status = .failing then .active else webhook.status }
    else if delivery.status = .failed then { webhook with status := .failing }
    else webhook
  { webhook with updatedAt := now }

theorem attemptedHook_id (now : Nat) (webhook : WebhookRecord) (delivery : WebhookDeliveryRecord) :
    (attemptedHook now webhook delivery).id = webhook.id := by
  unfold attemptedHook
  dsimp only
  split
  · rfl
  · split <;> rfl

/-- The one attempt of `send_direct`, which is final either way. -/
def directDelivery (id : Uuid) (now latency : Nat) (webhookId : String) (event : AuthEvent)
    (outcome : HttpOutcome) : WebhookDeliveryRecord :=
  { newDelivery id now webhookId event with
    attemptCount := 1
    latencyMilliseconds := latency
    completedAt := some now
    status := if outcome.isSuccess then .succeeded else .failed
    responseStatus := outcome.code
    errorClass := if outcome.isSuccess then "" else outcome.errorClass }

/-! ## Selection -/

def isInternalAnalyticsEvent (eventType : String) : Bool := startsWith eventType "analytics."

def subscribes (eventTypes : List String) (eventType : String) : Bool :=
  eventTypes.any fun subscribed => subscribed == "*" || subscribed == eventType

/-- The events a webhook is sent. -/
def Wanted (eventTypes : List String) (event : AuthEvent) : Prop :=
  isInternalAnalyticsEvent event.eventType = false ∧ subscribes eventTypes event.eventType = true

instance (eventTypes : List String) (event : AuthEvent) : Decidable (Wanted eventTypes event) :=
  inferInstanceAs (Decidable (_ ∧ _))

def Db.webhookDeliveryForEvent (db : Db) (now : Nat) (webhookId : String) (sequence : Nat) :
    Option WebhookDeliveryRecord := do
  let id ← db.get now (.webhookDeliveryEvent webhookId sequence)
  db.get now (.webhookDelivery id)

/-! ## Passes and replays -/

/-- Where the worker stands between two accesses. -/
inductive DispatchPhase
  | idle
  -- the webhooks of a round are read one by one, then served one by one
  | listing
  | between
  | selected (webhook : WebhookRecord)
  -- an event to be sent, and then the delivery stored for it
  | found (webhook : WebhookRecord) (event : AuthEvent)
  | due (webhook : WebhookRecord) (event : AuthEvent) (stored : Option WebhookDeliveryRecord)
  | sending (webhook : WebhookRecord) (event : AuthEvent) (delivery : WebhookDeliveryRecord)
  -- the attempt is over; the delivery, then the webhook are persisted
  | answered (webhook : WebhookRecord) (event : AuthEvent) (delivery : WebhookDeliveryRecord)
  | recorded (webhook : WebhookRecord) (event : AuthEvent) (delivery : WebhookDeliveryRecord)
  -- the cursor moves past the event
  | passing (webhook : WebhookRecord) (event : AuthEvent)

inductive ReplayTask
  | idle
  | replaying (webhook : WebhookRecord) (event : AuthEvent)
  -- the attempt is over: what it was of, and what came of it
  | replayed (webhook : WebhookRecord) (event : AuthEvent) (outcome : HttpOutcome)

/-- What a step draws: an identifier for a delivery and for an event, what came of a POST,
    how long it took, and whether the secret of the webhook could be opened. -/
structure Draw where
  id : Uuid
  eventId : Uuid
  outcome : HttpOutcome
  latency : Nat
  opened : Bool

inductive WebhookAction
  -- the worker starts a round, reads a webhook for it, goes on, or is stopped
  | startRound
  | list (webhookId : String)
  | proceed (draw : Draw)
  | stop
  -- a request to replay a delivery, which goes on or is dropped
  | replay (deliveryId : Uuid) (opened : Bool)
  | proceedReplay (draw : Draw)
  | dropReplay
  -- administration: every change puts a whole record
  | putWebhook (record : WebhookRecord)
  | removeWebhook (webhookId : String)
  -- the rest of the service
  | other (writes : List Write)

/-- What is seen of the runtime: attempts (of a pass, with their number, or of a replay) and
    administration. -/
inductive WebhookEvent
  | attempt (webhookId : String) (sequence : Nat) (number : Nat) (outcome : HttpOutcome)
  | replay (webhookId : String) (sequence : Nat) (outcome : HttpOutcome)
  | administered (webhookId : String) (record : Option WebhookRecord)
deriving DecidableEq

/-- The database and the worker: what is left of its round, and where it stands. -/
structure WebhookState where
  db : Db
  listed : List WebhookRecord
  pass : DispatchPhase

abbrev WebhookTurn := Turn WebhookState ReplayTask WebhookEvent

/-- The keys the runtime works with. -/
def Key.isWebhook : Key → Bool
  | .webhook _ => true
  | .webhookCursor _ => true
  | .webhookDelivery _ => true
  | .webhookDeliveryEvent _ _ => true
  | _ => false

/-- An identifier that no delivery has ever had. -/
def FreshDelivery (db : Db) (id : Uuid) : Prop := db.get 0 (.webhookDelivery id) = none

instance (db : Db) (id : Uuid) : Decidable (FreshDelivery db id) :=
  inferInstanceAs (Decidable (_ = _))

/-- `remove_webhook`: the record and the cursor, at once. -/
def removeWebhookWrites (webhookId : String) : List Write :=
  [.del (.webhook webhookId), .del (.webhookCursor webhookId)]

section

variable (tenantId : String) (db : Db) (now : Nat)

/-- The worker has moved on, and the database with it. -/
structure PassStep where
  db : Db
  pass : DispatchPhase
  observed : List WebhookEvent

def nextEvent (webhook : WebhookRecord) : DispatchPhase :=
  match db.events now (db.webhookCursor now webhook.id) 1 with
  | .error _ => .idle
  | .ok [] => .between
  | .ok (event :: _) =>
      if Wanted webhook.eventTypes event then .found webhook event else .passing webhook event

def nextDelivery (webhook : WebhookRecord) (event : AuthEvent) : DispatchPhase :=
  let stored := db.webhookDeliveryForEvent now webhook.id event.sequence
  if stored.any (isTerminalDelivery ·.status) then .passing webhook event
  else if stored.any (·.nextAttemptAt.any (decide <| now < ·)) then .between
  else .due webhook event stored

/-- `put_webhook_delivery`; an error ends the round. -/
def storeDelivery (eventId : Uuid) (delivery : WebhookDeliveryRecord) (next : DispatchPhase) :
    PassStep :=
  match putWebhookDelivery db tenantId now eventId delivery with
  | .error _ => ⟨db, .idle, []⟩
  | .ok writes => ⟨commit now db writes, next, []⟩

/-- An access of a pass.  A pass that returns early or to the end leaves its round going on,
    and one that fails ends it. -/
def passStep (draw : Draw) : DispatchPhase → Option PassStep
  | .idle => none
  | .listing => none
  | .between => none
  | .selected webhook => some ⟨db, nextEvent db now webhook, []⟩
  | .found webhook event => some ⟨db, nextDelivery db now webhook event, []⟩
  | .due webhook event (some delivery) =>
      some (storeDelivery tenantId db now draw.eventId delivery
        (if draw.opened then .sending webhook event delivery else .idle))
  | .due webhook event none =>
      let delivery := newDelivery draw.id now webhook.id event
      if FreshDelivery db draw.id then
        some (storeDelivery tenantId db now draw.eventId delivery
          (if draw.opened then .sending webhook event delivery else .idle))
      else none
  | .sending webhook event delivery =>
      let delivery := attempted now draw.latency delivery draw.outcome
      some ⟨db, .answered webhook event delivery,
        [.attempt webhook.id event.sequence delivery.attemptCount draw.outcome]⟩
  | .answered webhook event delivery =>
      some (storeDelivery tenantId db now draw.eventId delivery (.recorded webhook event delivery))
  | .recorded webhook event delivery =>
      let webhook := attemptedHook now webhook delivery
      some ⟨commit now db [.set (.webhook webhook.id) webhook],
        if isTerminalDelivery delivery.status then .passing webhook event else .between, []⟩
  | .passing webhook event =>
      some ⟨commit now db [.set (.webhookCursor webhook.id) event.sequence], .between, []⟩

/-- `replay_delivery` up to the POST. -/
def startReplay (deliveryId : Uuid) (opened : Bool) : ReplayTask :=
  match db.get now (.webhookDelivery deliveryId) with
  | none => .idle
  | some original =>
      match db.get now (.webhook original.webhookId),
        db.events now (original.eventSequence - 1) 1 with
      | some webhook, .ok events =>
          match events.find? (·.sequence = original.eventSequence) with
          | some event => if opened then .replaying webhook event else .idle
          | none => .idle
      | _, _ => .idle

/-- The worker turns to the next webhook of its round. -/
def nextWebhook (state : WebhookState) : WebhookState :=
  match state.listed with
  | [] => { state with pass := .idle }
  | webhook :: listed =>
      { state with listed, pass := if webhook.status = .paused then .between else .selected webhook }

/-- One access of the worker, of a replay, or of another part of the service. -/
def webhookTurn (state : WebhookState) (task : ReplayTask) (input : Nat × WebhookAction) :
    Option WebhookTurn :=
  let now := input.1
  match input.2 with
  | .startRound =>
      match state.pass with
      | .idle => some ⟨{ state with listed := [], pass := .listing }, task, []⟩
      | _ => none
  | .list webhookId =>
      match state.pass, state.db.get now (.webhook webhookId) with
      | .listing, some webhook =>
          some ⟨{ state with listed := state.listed ++ [webhook] }, task, []⟩
      | _, _ => none
  | .proceed draw =>
      match state.pass with
      | .listing => some ⟨nextWebhook state, task, []⟩
      | .between => some ⟨nextWebhook state, task, []⟩
      | pass =>
          (passStep tenantId state.db now draw pass).map fun step =>
            ⟨⟨step.db, state.listed, step.pass⟩, task, step.observed⟩
  | .stop => some ⟨{ state with pass := .idle }, task, []⟩
  | .replay deliveryId opened =>
      match task with
      | .idle => some ⟨state, startReplay state.db now deliveryId opened, []⟩
      | _ => none
  | .proceedReplay draw =>
      match task with
      | .idle => none
      | .replaying webhook event =>
          some ⟨state, .replayed webhook event draw.outcome,
            [.replay webhook.id event.sequence draw.outcome]⟩
      | .replayed webhook event outcome =>
          let delivery := directDelivery draw.id now draw.latency webhook.id event outcome
          if FreshDelivery state.db draw.id then
            match putWebhookDelivery state.db tenantId now draw.eventId delivery with
            | .error _ => some ⟨state, .idle, []⟩
            | .ok writes => some ⟨{ state with db := commit now state.db writes }, .idle, []⟩
          else none
  | .dropReplay => some ⟨state, .idle, []⟩
  | .putWebhook record =>
      some ⟨{ state with db := commit now state.db [.set (.webhook record.id) record] }, task,
        [.administered record.id (some record)]⟩
  | .removeWebhook webhookId =>
      some ⟨{ state with db := commit now state.db (removeWebhookWrites webhookId) }, task,
        [.administered webhookId none]⟩
  | .other writes =>
      if ∀ w ∈ writes, w.key.isWebhook = false then
        some ⟨{ state with db := commit now state.db writes }, task, []⟩
      else none

end

abbrev WebhookWorld := World WebhookState ReplayTask WebhookEvent

abbrev WebhookLabel := Nat × Nat × WebhookAction

/-- A database before any pass or replay. -/
def webhookWorld (db : Db) : WebhookWorld := ⟨⟨db, [], .idle⟩, fun _ => .idle, []⟩

theorem nextWebhook_db (state : WebhookState) : (nextWebhook state).db = state.db := by
  unfold nextWebhook
  split
  · rfl
  · rfl

/-! ## What a stored delivery leaves -/

section

variable {tenantId : String} {db : Db} {now : Nat} {eventId : Uuid}
  {record : WebhookDeliveryRecord} {ws : List Write}

theorem putWebhookDelivery_ok (h : putWebhookDelivery db tenantId now eventId record = .ok ws) :
    ∃ backlog events, ws = [.set (.webhookDelivery record.id) record,
      .set (.webhookDeliveryEvent record.webhookId record.eventSequence) record.id,
      .set .webhookDeliveryBacklog backlog] ++ Db.queueEvents events := by
  simp only [putWebhookDelivery, bind_eq_ok, ensure_eq_ok, pure_eq_ok, exists_const] at h
  obtain ⟨_, backlog, _, events, _, rfl⟩ := h
  exact ⟨backlog, events, rfl⟩

/-- The rest of the service leaves the keys of the runtime alone. -/
theorem get_commit_of_isWebhook {writes : List Write}
    (hwrites : ∀ w ∈ writes, w.key.isWebhook = false) (db : Db) (now t : Nat) {k : Key}
    (hk : k.isWebhook = true) : (commit now db writes).get t k = db.get t k := by
  apply get_commit_of_forall_ne
  intro w hw heq
  rw [heq, hwrites w hw] at hk
  cases hk

theorem get_queueEvents_of_isWebhook (db : Db) (now t : Nat) (events : List AuthEvent) {k : Key}
    (hk : k.isWebhook = true) :
    (commit now db (Db.queueEvents events)).get t k = db.get t k := by
  apply get_commit_of_isWebhook _ _ _ _ hk
  intro w hw
  rcases Db.mem_queueEvents hw with ⟨e, _, rfl⟩ | ⟨n, rfl⟩ <;> rfl

theorem get_put_webhook (h : putWebhookDelivery db tenantId now eventId record = .ok ws) (t : Nat)
    (webhookId : String) :
    (commit now db ws).get t (.webhook webhookId) = db.get t (.webhook webhookId) := by
  obtain ⟨backlog, events, rfl⟩ := putWebhookDelivery_ok h
  rw [commit_append, get_queueEvents_of_isWebhook _ _ _ _ rfl]
  exact get_commit_of_forall_ne now t _ _ _ (by simp [Command.key])

theorem get_put_cursor (h : putWebhookDelivery db tenantId now eventId record = .ok ws) (t : Nat)
    (webhookId : String) :
    (commit now db ws).get t (.webhookCursor webhookId) = db.get t (.webhookCursor webhookId) := by
  obtain ⟨backlog, events, rfl⟩ := putWebhookDelivery_ok h
  rw [commit_append, get_queueEvents_of_isWebhook _ _ _ _ rfl]
  exact get_commit_of_forall_ne now t _ _ _ (by simp [Command.key])

end

/-- What `put_webhook_delivery` of a pass leaves, whether or not it succeeds. -/
theorem storeDelivery_cases (tenantId : String) (db : Db) (now : Nat) (eventId : Uuid)
    (delivery : WebhookDeliveryRecord) (next : DispatchPhase) :
    storeDelivery tenantId db now eventId delivery next = ⟨db, .idle, []⟩ ∨
      ∃ ws, putWebhookDelivery db tenantId now eventId delivery = .ok ws ∧
        storeDelivery tenantId db now eventId delivery next = ⟨commit now db ws, next, []⟩ := by
  unfold storeDelivery
  split
  · exact Or.inl rfl
  · next ws hput => exact Or.inr ⟨ws, hput, rfl⟩

/-! ## The two other writes of a pass -/

theorem get_set_webhook (db : Db) (now t : Nat) (record : WebhookRecord) (other : String) :
    (commit now db [.set (.webhook record.id) record]).get t (.webhook other) =
      if other = record.id then some record else db.get t (.webhook other) := by
  rw [commit_cons, commit_nil]
  split
  · next h => rw [h, Command.get_set_self]
  · next h => exact Command.get_run_of_ne _ _ _ _ fun heq => h (Key.webhook.inj heq)

theorem get_set_cursor (db : Db) (now t : Nat) (webhookId : String) (sequence : Nat)
    (other : String) :
    (commit now db [.set (.webhookCursor webhookId) sequence]).get t (.webhookCursor other) =
      if other = webhookId then some sequence else db.get t (.webhookCursor other) := by
  rw [commit_cons, commit_nil]
  split
  · next h => rw [h, Command.get_set_self]
  · next h => exact Command.get_run_of_ne _ _ _ _ fun heq => h (Key.webhookCursor.inj heq)

theorem get_set_cursor_webhook (db : Db) (now t : Nat) (webhookId : String) (sequence : Nat)
    (other : String) :
    (commit now db [.set (.webhookCursor webhookId) sequence]).get t (.webhook other) =
      db.get t (.webhook other) :=
  get_commit_of_forall_ne now t _ _ _ (by simp [Command.key])

theorem get_set_webhook_cursor (db : Db) (now t : Nat) (record : WebhookRecord) (other : String) :
    (commit now db [.set (.webhook record.id) record]).get t (.webhookCursor other) =
      db.get t (.webhookCursor other) :=
  get_commit_of_forall_ne now t _ _ _ (by simp [Command.key])

/-! ## What a removal leaves -/

theorem get_remove_webhook (db : Db) (now t : Nat) (webhookId other : String) :
    (commit now db (removeWebhookWrites webhookId)).get t (.webhook other) =
      if other = webhookId then none else db.get t (.webhook other) := by
  unfold removeWebhookWrites
  split
  · next hid =>
    subst hid
    exact get_commit_del now t _ db (by simp [Command.key]) (Or.inl (by simp))
  · next hid => exact get_commit_of_forall_ne now t _ _ _ (by simp [Command.key, hid])

theorem get_remove_cursor (db : Db) (now t : Nat) (webhookId other : String) :
    (commit now db (removeWebhookWrites webhookId)).get t (.webhookCursor other) =
      if other = webhookId then none else db.get t (.webhookCursor other) := by
  unfold removeWebhookWrites
  split
  · next hid =>
    subst hid
    exact get_commit_del now t _ db (by simp [Command.key]) (Or.inl (by simp))
  · next hid => exact get_commit_of_forall_ne now t _ _ _ (by simp [Command.key, hid])

/-! ### A sample webhook -/

def sampleSecret : EncryptedWebhookSecret := ⟨"wrapping-1", "nonce", "ciphertext"⟩

def sampleHook : WebhookRecord where
  id := "crm"
  name := "CRM"
  url := "https://crm.example/hook"
  status := .active
  eventTypes := ["*"]
  secret := sampleSecret
  secretHint := "1234"
  managementSource := .dashboard
  createdAt := 10
  updatedAt := 10
  lastDeliveryAt := none

def sampleLogin : AuthEvent := ⟨1, 70, "default", "session.created", none, 20, emptyEventData⟩

/-- A webhook, and one event it has not been sent. -/
def sampleHooks : Db :=
  commit 20 Keyspace.empty ([.set (.webhook "crm") sampleHook] ++ Db.queueEvents [sampleLogin])

def answer (outcome : HttpOutcome) : WebhookAction := .proceed ⟨90, 91, outcome, 5, true⟩

end RustyAuth
