/-
  The webhooks of the configuration, brought in line with it when the service starts.

  `reconcile_configuration` is a sequence of store operations, any of which may be its last
  (`ReconcilePhase`, `reconcileStep`).  A restart begins anew with a list of its own.  What matters
  of the store are the records and the cursors (`HookView`); what a run can do to them is
  `ReconcileMove`.

  The run's own events, and whatever else is written meanwhile, touch no webhook and no cursor:
  there is no dispatch.
-/
import RustyAuth.Webhook.Dispatch

namespace RustyAuth

open RustyAuth.Library

/-! ## Model -/

structure WebhookConfig where
  id : String
  name : String
  /-- The URL as it is printed. -/
  endpoint : String
  enabled : Bool
  eventTypes : List String
deriving DecidableEq

def WebhookConfig.status (config : WebhookConfig) : WebhookStatusRecord :=
  if config.enabled then .active else .paused

/-- What a run draws: a signing secret and its encryption, which may fail, and an event's id. -/
structure ReconcileDraw where
  secret : String
  sealed : Option EncryptedWebhookSecret
  eventId : Uuid

def secretHint (secret : String) : String :=
  String.ofList (secret.toList.reverse.take 6).reverse

/-- The stored record with what the configuration says. -/
def WebhookConfig.update (config : WebhookConfig) (timestamp : Nat) (record : WebhookRecord) :
    WebhookRecord :=
  { record with
    name := config.name
    url := config.endpoint
    status := config.status
    eventTypes := config.eventTypes
    updatedAt := timestamp }

def WebhookConfig.create (config : WebhookConfig) (timestamp : Nat)
    (sealed : EncryptedWebhookSecret) (secret : String) : WebhookRecord where
  id := config.id
  name := config.name
  url := config.endpoint
  status := config.status
  eventTypes := config.eventTypes
  secret := sealed
  secretHint := secretHint secret
  managementSource := .configuration
  createdAt := timestamp
  updatedAt := timestamp
  lastDeliveryAt := none

/-- Between two store operations of a run. -/
inductive ReconcilePhase
  -- no run, or one that has failed or was cut off
  | stopped
  | listing
  -- the listed webhooks that are left to look at
  | removing (listed : List WebhookRecord)
  -- a webhook was deleted, and its event is not yet appended
  | removed (listed : List WebhookRecord)
  -- the configured webhooks that are left to turn to
  | configuring (rest : List WebhookConfig)
  -- a new webhook, before the event sequence is read and before the cursor is set to it
  | creating (record : WebhookRecord) (rest : List WebhookConfig)
  | starting (record : WebhookRecord) (sequence : Nat) (rest : List WebhookConfig)
  | putting (record : WebhookRecord) (rest : List WebhookConfig)
  -- the record is stored, and its event is not yet appended
  | stored (rest : List WebhookConfig)
  | done
deriving DecidableEq

section

variable (tenantId : String)

/-- `append_event_locked`; a run goes on after it, or fails with it. -/
def reconcileEvent (db : Db) (now : Nat) (eventId : Uuid) (eventType : String)
    (next : ReconcilePhase) : Db × ReconcilePhase :=
  match db.appendEvents tenantId now [⟨eventId, eventType, none, emptyEventData⟩] with
  | .ok (_, writes) => (commit now db writes, next)
  | .error _ => (db, .stopped)

/-- One store operation of `reconcile_configuration`. -/
def reconcileStep (desired : List WebhookConfig) (db : Db) (now : Nat) (draw : ReconcileDraw) :
    ReconcilePhase → Option (Db × ReconcilePhase)
  | .stopped => none
  | .done => none
  | .listing => some (db, .removing (db.webhooks now))
  | .removing [] => some (db, .configuring desired)
  | .removing (existing :: listed) =>
      if existing.managementSource = .configuration ∧ existing.id ∉ desired.map (·.id) then
        some (commit now db (removeWebhookWrites existing.id), .removed listed)
      else some (db, .removing listed)
  | .removed listed =>
      some (reconcileEvent tenantId db now draw.eventId "webhook.deleted" (.removing listed))
  | .configuring [] => some (db, .done)
  | .configuring (config :: rest) =>
      match db.get now (.webhook config.id) with
      | some record =>
          if record.managementSource ≠ .configuration then some (db, .stopped)
          else some (db, .putting (config.update now record) rest)
      | none =>
          match draw.sealed with
          | none => some (db, .stopped)
          | some sealed => some (db, .creating (config.create now sealed draw.secret) rest)
  | .creating record rest => some (db, .starting record (db.latestEventSequence now) rest)
  | .starting record sequence rest =>
      some (commit now db [.set (.webhookCursor record.id) sequence], .putting record rest)
  | .putting record rest =>
      some (commit now db [.set (.webhook record.id) record], .stored rest)
  | .stored rest =>
      some (reconcileEvent tenantId db now draw.eventId "webhook.configuration.reconciled"
        (.configuring rest))

/-- The store and the run of the service that started last; `began` is the store it found. -/
structure Reconciler where
  db : Db
  desired : List WebhookConfig
  phase : ReconcilePhase
  began : Db

def Reconciler.over (db : Db) : Reconciler := ⟨db, [], .stopped, db⟩

def Key.isHook : Key → Bool
  | .webhook _ => true
  | .webhookCursor _ => true
  | _ => false

inductive ReconcileAction
  | restart (desired : List WebhookConfig)
  | proceed (draw : ReconcileDraw)
  | crash
  -- the rest of the service, which does not dispatch
  | other (writes : List Write)

def reconcileTurn (s : Reconciler) (input : Nat × ReconcileAction) : Option Reconciler :=
  match input.2 with
  | .restart desired => some ⟨s.db, desired, .listing, s.db⟩
  | .proceed draw =>
      (reconcileStep tenantId s.desired s.db input.1 draw s.phase).map fun (db, phase) =>
        { s with db, phase }
  | .crash => some { s with phase := .stopped }
  | .other writes =>
      if ∀ w ∈ writes, w.key.isHook = false then some { s with db := commit input.1 s.db writes }
      else none

/-- The desired ids differ, and no dashboard webhook has one of them. -/
def Admitted (s : Reconciler) (input : Nat × ReconcileAction) : Prop :=
  match input.2 with
  | .restart desired => (desired.map (·.id)).Nodup ∧ ∀ config ∈ desired,
      ∀ record ∈ s.db.get 0 (.webhook config.id), record.managementSource = .configuration
  | _ => True

instance (s : Reconciler) : (input : Nat × ReconcileAction) → Decidable (Admitted s input)
  | (_, .restart _) => inferInstanceAs (Decidable (_ ∧ _))
  | (_, .proceed _) => .isTrue trivial
  | (_, .crash) => .isTrue trivial
  | (_, .other _) => .isTrue trivial

/-- A restart desires this webhook. -/
def Desires (id : String) (input : Nat × ReconcileAction) : Prop :=
  match input.2 with
  | .restart desired => id ∈ desired.map (·.id)
  | _ => True

end

/-! ## Records and cursors -/

structure HookView where
  hook : String → Option WebhookRecord
  cursor : String → Option Nat

def Db.hookView (db : Db) (t : Nat) : HookView :=
  ⟨fun id => db.get t (.webhook id), fun id => db.get t (.webhookCursor id)⟩

namespace HookView

def put (view : HookView) (record : WebhookRecord) : HookView :=
  { view with hook := Function.update view.hook record.id (some record) }

def setCursor (view : HookView) (id : String) (sequence : Nat) : HookView :=
  { view with cursor := Function.update view.cursor id (some sequence) }

def remove (view : HookView) (id : String) : HookView :=
  ⟨Function.update view.hook id none, Function.update view.cursor id none⟩

variable (view : HookView) (record : WebhookRecord) (id other : String) (sequence : Nat)

@[simp] theorem put_hook : (view.put record).hook id =
    if id = record.id then some record else view.hook id :=
  Function.update_apply ..

@[simp] theorem setCursor_cursor : (view.setCursor id sequence).cursor other =
    if other = id then some sequence else view.cursor other :=
  Function.update_apply ..

@[simp] theorem remove_hook : (view.remove id).hook other =
    if other = id then none else view.hook other :=
  Function.update_apply ..

@[simp] theorem remove_cursor : (view.remove id).cursor other =
    if other = id then none else view.cursor other :=
  Function.update_apply ..

/-- A webhook is stored under its own identifier. -/
def Named (view : HookView) : Prop := ∀ id record, view.hook id = some record → record.id = id

end HookView

/-- Webhooks and cursors do not lapse, and a webhook is stored under its own identifier. -/
structure HooksStored (db : Db) : Prop where
  durable : ∀ t, db.hookView t = db.hookView 0
  named : (db.hookView 0).Named

section

variable {db : Db} {now : Nat}

theorem hookView_aside {writes : List Write} (hwrites : ∀ w ∈ writes, w.key.isHook = false)
    (t : Nat) : Db.hookView (commit now db writes) t = db.hookView t := by
  have hget : ∀ k : Key, k.isHook = true → (commit now db writes).get t k = db.get t k := by
    intro k hk
    apply get_commit_of_forall_ne
    intro w hw heq
    rw [heq, hwrites w hw] at hk
    cases hk
  unfold Db.hookView
  congr 1
  · funext id
    exact hget _ rfl
  · funext id
    exact hget _ rfl

theorem hookView_put (record : WebhookRecord) (t : Nat) :
    Db.hookView (commit now db [.set (.webhook record.id) record]) t =
      (db.hookView t).put record := by
  unfold Db.hookView HookView.put
  congr 1
  · funext id
    rw [get_set_webhook, Function.update_apply]
  · funext id
    exact get_set_webhook_cursor db now t record id

theorem hookView_setCursor (id : String) (sequence t : Nat) :
    Db.hookView (commit now db [.set (.webhookCursor id) sequence]) t =
      (db.hookView t).setCursor id sequence := by
  unfold Db.hookView HookView.setCursor
  congr 1
  · funext other
    exact get_set_cursor_webhook db now t id sequence other
  · funext other
    rw [get_set_cursor, Function.update_apply]

theorem hookView_remove (id : String) (t : Nat) :
    Db.hookView (commit now db (removeWebhookWrites id)) t = (db.hookView t).remove id := by
  unfold Db.hookView HookView.remove
  congr 1
  · funext other
    rw [get_remove_webhook, Function.update_apply]
  · funext other
    rw [get_remove_cursor, Function.update_apply]

theorem isHook_queueEvents {events : List AuthEvent} :
    ∀ w ∈ Db.queueEvents events, w.key.isHook = false := by
  intro w hw
  rcases Db.mem_queueEvents hw with ⟨event, _, rfl⟩ | ⟨n, rfl⟩ <;> rfl

end

theorem HookView.Named.put {view : HookView} (h : view.Named) (record : WebhookRecord) :
    (view.put record).Named := by
  intro id stored hget
  rw [HookView.put_hook] at hget
  split at hget
  · next hid =>
    cases hget
    exact hid.symm
  · exact h id stored hget

theorem HookView.Named.remove {view : HookView} (h : view.Named) (id : String) :
    (view.remove id).Named := by
  intro other stored hget
  rw [HookView.remove_hook] at hget
  split at hget
  · cases hget
  · exact h other stored hget

theorem HooksStored.of_view {db db' : Db} (h : HooksStored db) (f : HookView → HookView)
    (hview : ∀ t, db'.hookView t = f (db.hookView t)) (hnamed : (f (db.hookView 0)).Named) :
    HooksStored db' where
  durable := by
    intro t
    rw [hview, hview, h.durable t]
  named := by
    rw [hview]
    exact hnamed

theorem HooksStored.put {db : Db} (h : HooksStored db) (now : Nat) (record : WebhookRecord) :
    HooksStored (commit now db [.set (.webhook record.id) record]) :=
  h.of_view (·.put record) (hookView_put record) (h.named.put record)

theorem HooksStored.setCursor {db : Db} (h : HooksStored db) (now : Nat) (id : String)
    (sequence : Nat) : HooksStored (commit now db [.set (.webhookCursor id) sequence]) :=
  h.of_view (·.setCursor id sequence) (hookView_setCursor id sequence) h.named

theorem HooksStored.remove {db : Db} (h : HooksStored db) (now : Nat) (id : String) :
    HooksStored (commit now db (removeWebhookWrites id)) :=
  h.of_view (·.remove id) (hookView_remove id) (h.named.remove id)

/-! ## Moves -/

/-- What one operation does to the records and cursors, and how the run goes on. -/
inductive ReconcileMove (desired : List WebhookConfig) :
    HookView → ReconcilePhase → HookView → ReconcilePhase → Prop
  | failed (view : HookView) (phase : ReconcilePhase) :
      ReconcileMove desired view phase view .stopped
  | listed {view : HookView} {listed : List WebhookRecord}
      (hlisted : ∀ record, record ∈ listed ↔ view.hook record.id = some record) :
      ReconcileMove desired view .listing view (.removing listed)
  | skipped {view : HookView} {existing : WebhookRecord} {listed : List WebhookRecord}
      (hkeep : existing.managementSource = .configuration → existing.id ∈ desired.map (·.id)) :
      ReconcileMove desired view (.removing (existing :: listed)) view (.removing listed)
  | removed {view : HookView} {existing : WebhookRecord} {listed : List WebhookRecord}
      (hsource : existing.managementSource = .configuration)
      (hextra : existing.id ∉ desired.map (·.id)) :
      ReconcileMove desired view (.removing (existing :: listed)) (view.remove existing.id)
        (.removed listed)
  | removalLogged {view : HookView} {listed : List WebhookRecord} :
      ReconcileMove desired view (.removed listed) view (.removing listed)
  | cleared {view : HookView} :
      ReconcileMove desired view (.removing []) view (.configuring desired)
  | found {view : HookView} {config : WebhookConfig} {rest : List WebhookConfig}
      {record : WebhookRecord} (now : Nat) (hfound : view.hook config.id = some record)
      (hsource : record.managementSource = .configuration) :
      ReconcileMove desired view (.configuring (config :: rest)) view
        (.putting (config.update now record) rest)
  | missing {view : HookView} {config : WebhookConfig} {rest : List WebhookConfig} (now : Nat)
      (sealed : EncryptedWebhookSecret) (secret : String) (hmissing : view.hook config.id = none) :
      ReconcileMove desired view (.configuring (config :: rest)) view
        (.creating (config.create now sealed secret) rest)
  | sequenceRead {view : HookView} {record : WebhookRecord} {rest : List WebhookConfig}
      (sequence : Nat) :
      ReconcileMove desired view (.creating record rest) view (.starting record sequence rest)
  | cursorSet {view : HookView} {record : WebhookRecord} {sequence : Nat}
      {rest : List WebhookConfig} :
      ReconcileMove desired view (.starting record sequence rest)
        (view.setCursor record.id sequence) (.putting record rest)
  | put {view : HookView} {record : WebhookRecord} {rest : List WebhookConfig} :
      ReconcileMove desired view (.putting record rest) (view.put record) (.stored rest)
  | putLogged {view : HookView} {rest : List WebhookConfig} :
      ReconcileMove desired view (.stored rest) view (.configuring rest)
  | finished {view : HookView} : ReconcileMove desired view (.configuring []) view .done

def Reconciler.view (s : Reconciler) : HookView := s.db.hookView 0

def Reconciler.start (s : Reconciler) : HookView := s.began.hookView 0

section

variable {tenantId : String} {desired : List WebhookConfig} {db db' : Db} {now : Nat}
  {draw : ReconcileDraw} {phase phase' : ReconcilePhase}

/-- An event is appended, or the run fails; webhooks and cursors stay. -/
theorem reconcileEvent_view {eventId : Uuid} {eventType : String} {next : ReconcilePhase}
    (h : reconcileEvent tenantId db now eventId eventType next = (db', phase')) :
    (∀ t, db'.hookView t = db.hookView t) ∧ (phase' = next ∨ phase' = .stopped) := by
  unfold reconcileEvent Db.appendEvents at h
  cases hpending : db.pendingEvents tenantId now [⟨eventId, eventType, none, emptyEventData⟩] with
  | error error =>
    rw [hpending] at h
    cases h
    exact ⟨fun t => rfl, Or.inr rfl⟩
  | ok events =>
    rw [hpending] at h
    cases h
    exact ⟨hookView_aside isHook_queueEvents, Or.inl rfl⟩

/-- What a run has read of the webhooks at any time is what is stored. -/
theorem HooksStored.get_webhook (h : HooksStored db) (t : Nat) (id : String) :
    db.get t (.webhook id) = (db.hookView 0).hook id := by
  rw [← h.durable t]
  rfl

theorem reconcileStep_move (hstored : HooksStored db)
    (h : reconcileStep tenantId desired db now draw phase = some (db', phase')) :
    HooksStored db' ∧ ReconcileMove desired (db.hookView 0) phase (db'.hookView 0) phase' := by
  cases phase with
  | stopped => cases h
  | done => cases h
  | listing =>
    cases h
    refine ⟨hstored, .listed fun record => ?_⟩
    have hnamed : ∀ id record, db.get now (.webhook id) = some record → record.id = id := by
      intro id record hget
      rw [hstored.get_webhook] at hget
      exact hstored.named id record hget
    rw [mem_webhooks_of_named hnamed, hstored.get_webhook]
  | removing listed =>
    cases listed with
    | nil =>
      cases h
      exact ⟨hstored, .cleared⟩
    | cons existing listed =>
      change (if _ ∧ _ then _ else _) = _ at h
      split at h
      · next hextra =>
        cases h
        refine ⟨hstored.remove now existing.id, ?_⟩
        rw [hookView_remove]
        exact .removed hextra.1 hextra.2
      · next hkeep =>
        cases h
        exact ⟨hstored, .skipped fun hsource => by_contra fun hid => hkeep ⟨hsource, hid⟩⟩
  | removed listed =>
    obtain ⟨hview, hphase⟩ := reconcileEvent_view (Option.some.inj h)
    refine ⟨hstored.of_view id hview hstored.named, ?_⟩
    rw [hview]
    rcases hphase with rfl | rfl
    · exact .removalLogged
    · exact .failed _ _
  | configuring rest =>
    cases rest with
    | nil =>
      cases h
      exact ⟨hstored, .finished⟩
    | cons config rest =>
      change (match db.get now (.webhook config.id) with | some _ => _ | none => _) = _ at h
      rw [hstored.get_webhook] at h
      cases hhook : (db.hookView 0).hook config.id with
      | some record =>
        rw [hhook] at h
        change (if _ then _ else _) = _ at h
        split at h
        · cases h
          exact ⟨hstored, .failed _ _⟩
        · next hsource =>
          cases h
          exact ⟨hstored, .found now hhook (not_not.mp hsource)⟩
      | none =>
        rw [hhook] at h
        cases hsealed : draw.sealed with
        | none =>
          simp only [hsealed] at h
          cases h
          exact ⟨hstored, .failed _ _⟩
        | some sealed =>
          simp only [hsealed] at h
          cases h
          exact ⟨hstored, .missing now sealed draw.secret hhook⟩
  | creating record rest =>
    cases h
    exact ⟨hstored, .sequenceRead _⟩
  | starting record sequence rest =>
    cases h
    refine ⟨hstored.setCursor now record.id sequence, ?_⟩
    rw [hookView_setCursor]
    exact .cursorSet
  | putting record rest =>
    cases h
    refine ⟨hstored.put now record, ?_⟩
    rw [hookView_put]
    exact .put
  | stored rest =>
    obtain ⟨hview, hphase⟩ := reconcileEvent_view (Option.some.inj h)
    refine ⟨hstored.of_view id hview hstored.named, ?_⟩
    rw [hview]
    rcases hphase with rfl | rfl
    · exact .putLogged
    · exact .failed _ _

end

end RustyAuth
