/-
  Webhooks, their deliveries and the backlog.

  A delivery is open until it succeeds or fails for good, and the backlog counts the open
  ones.  It is written with every delivery, in the same pipeline.
-/
import RustyAuth.Store.Events
import Mathlib.Data.List.Sort

namespace RustyAuth

open RustyAuth.Library

inductive WebhookError
  -- "a terminal webhook delivery cannot return to a pending state"
  | terminal
  -- "webhook delivery backlog exhausted"
  | backlogExhausted
  -- "webhook delivery backlog is inconsistent"
  | backlogInconsistent
  | log (error : EventLogError)
deriving DecidableEq

/-- `webhooks`: every stored webhook, in the order of identifiers. -/
def Db.webhooks (db : Db) (now : Nat) : List WebhookRecord :=
  ((db.scan now).filterMap fun
    | ⟨.webhook _, record⟩ => some record
    | _ => none).insertionSort fun left right => left.id ≤ right.id

/-- Of webhooks that are stored under their own identifiers, all are listed. -/
theorem mem_webhooks_of_named {db : Db} {now : Nat}
    (hnamed : ∀ id record, db.get now (.webhook id) = some record → record.id = id)
    (record : WebhookRecord) :
    record ∈ db.webhooks now ↔ db.get now (.webhook record.id) = some record := by
  unfold Db.webhooks
  rw [List.mem_insertionSort, List.mem_filterMap]
  constructor
  · rintro ⟨⟨k, v⟩, hmem, hrecord⟩
    have hget := (db.mem_scan now k v).mp hmem
    cases k with
    | webhook id =>
      cases hrecord
      rw [hnamed id record hget]
      exact hget
    | _ => cases hrecord
  · intro hget
    exact ⟨⟨.webhook record.id, record⟩, (db.mem_scan now _ _).mpr hget, rfl⟩

def isOpenDelivery : WebhookDeliveryStatusRecord → Bool
  | .pending => true
  | .retrying => true
  | _ => false

def isTerminalDelivery : WebhookDeliveryStatusRecord → Bool
  | .succeeded => true
  | .failed => true
  | _ => false

/-- The event of a delivery whose status changes. -/
def deliveryTransitionEvent (previous : Option WebhookDeliveryRecord)
    (record : WebhookDeliveryRecord) : Option String :=
  if previous.map (·.status) = some record.status then none
  else
    match record.status with
    | .pending => if previous.isNone then some "analytics.webhook.delivery.queued" else none
    | .succeeded => some "analytics.webhook.delivery.succeeded"
    | .failed => some "analytics.webhook.delivery.failed"
    | .retrying => none

def Db.webhookDeliveryBacklog (db : Db) (now : Nat) : Nat :=
  (db.get now .webhookDeliveryBacklog).getD 0

/-- The backlog after a delivery has gone from `wasOpen` to `isOpen`. -/
def nextBacklog (wasOpen isOpen : Bool) (backlog : Nat) : Except WebhookError Nat :=
  match wasOpen, isOpen with
  | false, true => do
      ensure (backlog < u64Max) .backlogExhausted
      return backlog + 1
  | true, false => do
      ensure (0 < backlog) .backlogInconsistent
      return backlog - 1
  | _, _ => return backlog

/-- The transition's event, if there is one, with the identifier drawn for it. -/
def deliveryEvents (db : Db) (tenantId : String) (now : Nat) (eventId : Uuid)
    (previous : Option WebhookDeliveryRecord) (record : WebhookDeliveryRecord) (backlog : Nat) :
    Except WebhookError (List AuthEvent) :=
  match deliveryTransitionEvent previous record with
  | none => return []
  | some eventType =>
      (db.pendingEvents tenantId now
        [{ id := eventId, eventType, subject := none,
           data := { emptyEventData with
             latencyMilliseconds := some record.latencyMilliseconds
             backlog := some backlog } }]).mapError .log

def putWebhookDelivery (db : Db) (tenantId : String) (now : Nat) (eventId : Uuid)
    (record : WebhookDeliveryRecord) : Except WebhookError (List Write) := do
  let previous := db.get now (.webhookDelivery record.id)
  ensure (¬(previous.any (isTerminalDelivery ·.status) ∧ ¬ isTerminalDelivery record.status))
    .terminal
  let backlog ← nextBacklog (previous.any (isOpenDelivery ·.status)) (isOpenDelivery record.status)
    (db.webhookDeliveryBacklog now)
  let events ← deliveryEvents db tenantId now eventId previous record backlog
  return [.set (.webhookDelivery record.id) record,
    .set (.webhookDeliveryEvent record.webhookId record.eventSequence) record.id,
    .set .webhookDeliveryBacklog backlog] ++ Db.queueEvents events

/-- Finished deliveries that completed before `cutoff`, at most `limit` of them. -/
def pruneWebhookDeliveriesOlderThan (db : Db) (now cutoff limit : Nat) : List Write :=
  let deliveries := (db.scan now).filterMap fun
    | ⟨.webhookDelivery _, record⟩ => some record
    | _ => none
  let expired := (deliveries.filter fun record =>
    isTerminalDelivery record.status && record.completedAt.any (decide <| · < cutoff)).take limit
  expired.flatMap fun record =>
    [.del (.webhookDelivery record.id),
      .del (.webhookDeliveryEvent record.webhookId record.eventSequence)]

end RustyAuth
