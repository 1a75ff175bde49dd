/-
  Administration of a webhook beside the passes that deliver to it.

  A pass writes back the whole record it read before the POST, with neither the mutation
  lock nor a look at what is stored by then, and moves a cursor whether or not its webhook is
  still there.  `CurrentWrite` says when these two writes are harmless: the stored record has
  the administrative fields of the one in hand, and the webhook has not been removed.
-/
import RustyAuth.Webhook.Dispatch

namespace RustyAuth

open RustyAuth.Library

/-- What administration decides of a webhook; a pass sets only runtime fields.  Whether a
    webhook that is not paused is failing is one of those. -/
structure AdminFields where
  name : String
  url : String
  paused : Bool
  eventTypes : List String
  secret : EncryptedWebhookSecret
  secretHint : String
deriving DecidableEq

def WebhookRecord.admin (record : WebhookRecord) : AdminFields where
  name := record.name
  url := record.url
  paused := record.status = .paused
  eventTypes := record.eventTypes
  secret := record.secret
  secretHint := record.secretHint

/-- What the last administrative operation on a webhook left: a record, or nothing. -/
def lastAdministered (id : String) : List WebhookEvent → Option (Option WebhookRecord)
  | [] => none
  | .administered id' record :: history =>
      if id' = id then some record else lastAdministered id history
  | _ :: history => lastAdministered id history

/-- Before the first such operation, that is what was stored at the start. -/
def administered (id : String) (initial : Option WebhookRecord) (history : List WebhookEvent) :
    Option WebhookRecord :=
  (lastAdministered id history).getD initial

/-- The stored record has the administrative fields of the last operation, and a removed
    webhook is gone together with its cursor. -/
structure AdminKept (id : String) (initial : Option WebhookRecord) (db : Db)
    (history : List WebhookEvent) : Prop where
  fields : ∀ t, (db.get t (.webhook id)).map WebhookRecord.admin =
    (administered id initial history).map WebhookRecord.admin
  cursor : administered id initial history = none → ∀ t, db.get t (.webhookCursor id) = none

/-- The next write of a pass finds the webhook as the pass knows it. -/
def CurrentPass (id : String) (db : Db) (now : Nat) : DispatchPhase → Prop
  | .recorded webhook _ _ => webhook.id = id →
      (db.get now (.webhook id)).map WebhookRecord.admin = some webhook.admin
  | .passing webhook _ => webhook.id = id → (db.get now (.webhook id)).isSome
  | _ => True

def CurrentWrite (id : String) (world : WebhookWorld) (l : WebhookLabel) : Prop :=
  match l.2.2 with
  | .proceed _ => CurrentPass id world.shared.db l.2.1 world.shared.pass
  | _ => True

instance (id : String) (db : Db) (now : Nat) : DecidablePred (CurrentPass id db now)
  | .recorded _ _ _ => inferInstanceAs (Decidable (_ → _))
  | .passing _ _ => inferInstanceAs (Decidable (_ → _))
  | .idle | .listing | .between | .selected _ | .found _ _ | .due _ _ _ | .sending _ _ _
  | .answered _ _ _ => inferInstanceAs (Decidable True)

/-- The webhook a pass works with. -/
def DispatchPhase.webhook : DispatchPhase → Option WebhookRecord
  | .idle => none
  | .listing => none
  | .between => none
  | .selected webhook => some webhook
  | .found webhook _ => some webhook
  | .due webhook _ _ => some webhook
  | .sending webhook _ _ => some webhook
  | .answered webhook _ _ => some webhook
  | .recorded webhook _ _ => some webhook
  | .passing webhook _ => some webhook

/-- Passes are not started for a paused webhook. -/
def NotPaused (pass : DispatchPhase) : Prop := ∀ webhook ∈ pass.webhook, webhook.status ≠ .paused

section

variable {id : String} {initial : Option WebhookRecord} {db : Db} {history : List WebhookEvent}

theorem attemptedHook_not_paused (now : Nat) {webhook : WebhookRecord}
    (delivery : WebhookDeliveryRecord) (h : webhook.status ≠ .paused) :
    (attemptedHook now webhook delivery).status ≠ .paused := by
  unfold attemptedHook
  dsimp only
  split
  · dsimp only
    split
    · exact WebhookStatusRecord.noConfusion
    · exact h
  · split
    · exact WebhookStatusRecord.noConfusion
    · exact h

/-- An attempt changes no administrative field. -/
theorem admin_attemptedHook (now : Nat) {webhook : WebhookRecord}
    (delivery : WebhookDeliveryRecord) (h : webhook.status ≠ .paused) :
    (attemptedHook now webhook delivery).admin = webhook.admin := by
  have hpaused := attemptedHook_not_paused now delivery h
  have hfields : (attemptedHook now webhook delivery).admin =
      { webhook.admin with paused := (attemptedHook now webhook delivery).status = .paused } := by
    unfold attemptedHook
    dsimp only
    split
    · rfl
    · split <;> rfl
  rw [hfields]
  unfold WebhookRecord.admin
  rw [decide_eq_false hpaused, decide_eq_false h]

/-- A turn that neither touches the webhook nor administers it. -/
theorem AdminKept.quiet (h : AdminKept id initial db history) {db' : Db}
    {observed : List WebhookEvent}
    (hhook : ∀ t, db'.get t (.webhook id) = db.get t (.webhook id))
    (hcursor : ∀ t, db'.get t (.webhookCursor id) = db.get t (.webhookCursor id))
    (hobserved : ∀ id' record, .administered id' record ∉ observed) :
    AdminKept id initial db' (observed ++ history) := by
  have hsame : administered id initial (observed ++ history) = administered id initial history := by
    unfold administered
    congr 1
    induction observed with
    | nil => rfl
    | cons event observed ih =>
      have hrest := ih fun id' record hmem => hobserved id' record (List.mem_cons_of_mem _ hmem)
      cases event with
      | administered id' record => exact absurd List.mem_cons_self (hobserved id' record)
      | attempt webhookId sequence number outcome => exact hrest
      | replay webhookId sequence outcome => exact hrest
  constructor
  · intro t
    rw [hhook t, hsame]
    exact h.fields t
  · intro hnone t
    rw [hcursor t]
    exact h.cursor (hsame ▸ hnone) t

/-! ## The two writes of a pass -/

/-- Writing a record back keeps the administrative fields exactly if they are still the
    stored ones. -/
theorem AdminKept.writeBack_iff (h : AdminKept id initial db history) {now : Nat}
    {record : WebhookRecord} :
    AdminKept id initial (commit now db [.set (.webhook record.id) record]) history ↔
      (record.id = id →
        (db.get now (.webhook id)).map WebhookRecord.admin = some record.admin) := by
  constructor
  · intro h' hid
    subst hid
    have hfields := h'.fields now
    rw [get_set_webhook, if_pos rfl, Option.map_some] at hfields
    rw [h.fields now, ← hfields]
  · intro hcurrent
    by_cases hid : record.id = id
    · subst hid
      have hnow := hcurrent rfl
      rw [h.fields now] at hnow
      constructor
      · intro t
        rw [get_set_webhook, if_pos rfl, hnow]; rfl
      · intro hnone
        rw [hnone] at hnow
        cases hnow
    · have hhook : ∀ t, (commit now db [.set (.webhook record.id) record]).get t (.webhook id) =
          db.get t (.webhook id) := by
        intro t
        rw [get_set_webhook, if_neg (Ne.symm hid)]
      rw [← List.nil_append history]
      exact h.quiet hhook (get_set_webhook_cursor db now · record id) fun _ _ => List.not_mem_nil

/-- Moving a cursor is harmless exactly if the webhook is still there. -/
theorem AdminKept.moveCursor_iff (h : AdminKept id initial db history) {now : Nat}
    {webhookId : String} {sequence : Nat} :
    AdminKept id initial (commit now db [.set (.webhookCursor webhookId) sequence]) history ↔
      (webhookId = id → (db.get now (.webhook id)).isSome) := by
  constructor
  · intro h' hid
    subst hid
    cases hget : db.get now (.webhook webhookId) with
    | some record => rfl
    | none =>
      have hfields := h.fields now
      rw [hget, Option.map_none, eq_comm, Option.map_eq_none_iff] at hfields
      have hcursor := h'.cursor hfields now
      rw [get_set_cursor, if_pos rfl] at hcursor
      cases hcursor
  · intro hcurrent
    constructor
    · intro t
      rw [get_set_cursor_webhook]
      exact h.fields t
    · intro hnone t
      rw [get_set_cursor]
      split
      · next hid =>
        have hsome := hcurrent hid.symm
        have hfields := h.fields now
        rw [hnone, Option.map_none, Option.map_eq_none_iff] at hfields
        rw [hfields] at hsome
        cases hsome
      · exact h.cursor hnone t

/-! ## Turns -/

variable {tenantId : String} {now : Nat} {draw : Draw} {pass : DispatchPhase} {step : PassStep}

theorem notPaused_of_webhook (h : pass.webhook = none) : NotPaused pass := by
  intro webhook hwebhook
  rw [h] at hwebhook
  cases hwebhook

theorem notPaused_nextEvent {webhook : WebhookRecord} (h : NotPaused (.selected webhook)) :
    NotPaused (nextEvent db now webhook) := by
  unfold nextEvent
  split
  · exact notPaused_of_webhook rfl
  · exact notPaused_of_webhook rfl
  · split
    · exact h
    · exact h

theorem notPaused_nextDelivery {webhook : WebhookRecord} {event : AuthEvent}
    (h : NotPaused (.found webhook event)) : NotPaused (nextDelivery db now webhook event) := by
  unfold nextDelivery
  dsimp only
  split
  · exact h
  · split
    · exact notPaused_of_webhook rfl
    · exact h

theorem notPaused_nextWebhook (state : WebhookState) : NotPaused (nextWebhook state).pass := by
  unfold nextWebhook
  split
  · exact notPaused_of_webhook rfl
  · dsimp only
    split
    · exact notPaused_of_webhook rfl
    · next hstatus =>
      intro webhook hwebhook
      cases hwebhook
      exact hstatus

theorem AdminKept.storeDelivery (h : AdminKept id initial db history) {eventId : Uuid}
    {delivery : WebhookDeliveryRecord} {next : DispatchPhase} (hnext : NotPaused next) :
    NotPaused (storeDelivery tenantId db now eventId delivery next).pass ∧
      AdminKept id initial (storeDelivery tenantId db now eventId delivery next).db
        ((storeDelivery tenantId db now eventId delivery next).observed ++ history) := by
  rcases storeDelivery_cases tenantId db now eventId delivery next with heq | ⟨ws, hput, heq⟩
  · rw [heq]
    exact ⟨notPaused_of_webhook rfl, h⟩
  · rw [heq]
    exact ⟨hnext, h.quiet (get_put_webhook hput · id) (get_put_cursor hput · id)
      fun _ _ => List.not_mem_nil⟩

/-- Of the accesses of a pass, only its two writes to the webhook and its cursor matter. -/
theorem AdminKept.passStep_iff (h : AdminKept id initial db history) (hpass : NotPaused pass)
    (hstep : passStep tenantId db now draw pass = some step) :
    NotPaused step.pass ∧
      (AdminKept id initial step.db (step.observed ++ history) ↔ CurrentPass id db now pass) := by
  cases pass with
  | idle => cases hstep
  | listing => cases hstep
  | between => cases hstep
  | selected webhook =>
    cases hstep
    exact ⟨notPaused_nextEvent hpass, iff_of_true h trivial⟩
  | found webhook event =>
    cases hstep
    exact ⟨notPaused_nextDelivery hpass, iff_of_true h trivial⟩
  | due webhook event stored =>
    have hnext : ∀ delivery : WebhookDeliveryRecord,
        NotPaused (if draw.opened then .sending webhook event delivery else .idle) := by
      intro delivery
      split
      · exact hpass
      · exact notPaused_of_webhook rfl
    cases stored with
    | some delivery =>
      cases hstep
      obtain ⟨hpaused, hkept⟩ := h.storeDelivery (hnext delivery)
      exact ⟨hpaused, iff_of_true hkept trivial⟩
    | none =>
      unfold passStep at hstep
      dsimp only at hstep
      split at hstep
      · cases hstep
        obtain ⟨hpaused, hkept⟩ := h.storeDelivery (hnext (newDelivery draw.id now webhook.id event))
        exact ⟨hpaused, iff_of_true hkept trivial⟩
      · cases hstep
  | sending webhook event delivery =>
    cases hstep
    refine ⟨hpass, iff_of_true (h.quiet (fun _ => rfl) (fun _ => rfl) ?_) trivial⟩
    intro id' record hmem
    cases List.mem_singleton.mp hmem
  | answered webhook event delivery =>
    cases hstep
    have hnext : NotPaused (.recorded webhook event delivery) := hpass
    obtain ⟨hpaused, hkept⟩ := h.storeDelivery hnext
    exact ⟨hpaused, iff_of_true hkept trivial⟩
  | recorded webhook event delivery =>
    cases hstep
    have hstatus : webhook.status ≠ .paused := hpass webhook rfl
    constructor
    · dsimp only
      split
      · intro other hother
        cases hother
        exact attemptedHook_not_paused now delivery hstatus
      · exact notPaused_of_webhook rfl
    · rw [show CurrentPass id db now (.recorded webhook event delivery) = (webhook.id = id →
        (db.get now (.webhook id)).map WebhookRecord.admin = some webhook.admin) from rfl,
        ← admin_attemptedHook now delivery hstatus, ← attemptedHook_id now webhook delivery]
      exact h.writeBack_iff
  | passing webhook event =>
    cases hstep
    exact ⟨notPaused_of_webhook rfl, h.moveCursor_iff⟩

theorem lastAdministered_cons (id id' : String) (record : Option WebhookRecord)
    (history : List WebhookEvent) :
    lastAdministered id (.administered id' record :: history) =
      if id' = id then some record else lastAdministered id history :=
  rfl

/-- Administration is what the record is compared with, so it always leaves it kept. -/
theorem AdminKept.put (h : AdminKept id initial db history) (now : Nat) (record : WebhookRecord) :
    AdminKept id initial (commit now db [.set (.webhook record.id) record])
      (.administered record.id (some record) :: history) := by
  by_cases hid : record.id = id
  · subst hid
    constructor
    · intro t
      rw [get_set_webhook, if_pos rfl, administered, lastAdministered_cons, if_pos rfl]
      rfl
    · intro hnone
      rw [administered, lastAdministered_cons, if_pos rfl] at hnone
      cases hnone
  · have hsame : administered id initial (.administered record.id (some record) :: history) =
        administered id initial history := by
      rw [administered, lastAdministered_cons, if_neg hid]
      rfl
    constructor
    · intro t
      rw [get_set_webhook, if_neg (Ne.symm hid), hsame]
      exact h.fields t
    · intro hnone t
      rw [get_set_webhook_cursor]
      exact h.cursor (hsame ▸ hnone) t

theorem AdminKept.remove (h : AdminKept id initial db history) (now : Nat) (webhookId : String) :
    AdminKept id initial (commit now db (removeWebhookWrites webhookId))
      (.administered webhookId none :: history) := by
  by_cases hid : webhookId = id
  · subst hid
    have hnone : administered webhookId initial (.administered webhookId none :: history) =
        none := by
      rw [administered, lastAdministered_cons, if_pos rfl]
      rfl
    constructor
    · intro t
      rw [get_remove_webhook, if_pos rfl, hnone]
    · intro _ t
      rw [get_remove_cursor, if_pos rfl]
  · have hsame : administered id initial (.administered webhookId none :: history) =
        administered id initial history := by
      rw [administered, lastAdministered_cons, if_neg hid]
      rfl
    constructor
    · intro t
      rw [get_remove_webhook, if_neg (Ne.symm hid), hsame]
      exact h.fields t
    · intro hnone t
      rw [get_remove_cursor, if_neg (Ne.symm hid)]
      exact h.cursor (hsame ▸ hnone) t

/-- The administrative fields of a webhook are kept in a turn exactly if the turn is no write
    of a pass that has missed an operation. -/
theorem AdminKept.turn_iff {world world' : WebhookWorld} {l : WebhookLabel}
    (h : AdminKept id initial world.shared.db world.history) (hpass : NotPaused world.shared.pass)
    (hturn : Turns (webhookTurn tenantId) world l world') :
    NotPaused world'.shared.pass ∧
      (AdminKept id initial world'.shared.db world'.history ↔ CurrentWrite id world l) := by
  obtain ⟨task, now, action⟩ := l
  obtain ⟨turn, hact, rfl⟩ := hturn
  unfold webhookTurn at hact
  cases action with
  | startRound =>
    dsimp only at hact
    split at hact
    · cases hact
      exact ⟨notPaused_of_webhook rfl, iff_of_true h trivial⟩
    · cases hact
  | list webhookId =>
    dsimp only at hact
    split at hact
    · cases hact
      exact ⟨hpass, iff_of_true h trivial⟩
    · cases hact
  | proceed draw =>
    have hnext : AdminKept id initial (nextWebhook world.shared).db world.history := by
      rw [nextWebhook_db]
      exact h
    dsimp only at hact
    unfold CurrentWrite
    dsimp only
    split at hact
    · next hlisting =>
      cases hact
      rw [hlisting]
      exact ⟨notPaused_nextWebhook _, iff_of_true hnext trivial⟩
    · next hbetween =>
      cases hact
      rw [hbetween]
      exact ⟨notPaused_nextWebhook _, iff_of_true hnext trivial⟩
    · obtain ⟨step, hstep, rfl⟩ := Option.map_eq_some_iff.mp hact
      exact h.passStep_iff hpass hstep
  | stop =>
    cases hact
    exact ⟨notPaused_of_webhook rfl, iff_of_true h trivial⟩
  | replay deliveryId opened =>
    dsimp only at hact
    split at hact
    · cases hact
      exact ⟨hpass, iff_of_true h trivial⟩
    · cases hact
  | proceedReplay draw =>
    dsimp only at hact
    split at hact
    · cases hact
    · cases hact
      refine ⟨hpass, iff_of_true (h.quiet (fun _ => rfl) (fun _ => rfl) ?_) trivial⟩
      intro id' record hmem
      cases List.mem_singleton.mp hmem
    · split at hact
      · split at hact
        · cases hact
          exact ⟨hpass, iff_of_true h trivial⟩
        · next ws hput =>
          cases hact
          exact ⟨hpass, iff_of_true (h.quiet (get_put_webhook hput · id) (get_put_cursor hput · id)
            fun _ _ => List.not_mem_nil) trivial⟩
      · cases hact
  | dropReplay =>
    cases hact
    exact ⟨hpass, iff_of_true h trivial⟩
  | putWebhook record =>
    cases hact
    exact ⟨hpass, iff_of_true (h.put now record) trivial⟩
  | removeWebhook webhookId =>
    cases hact
    exact ⟨hpass, iff_of_true (h.remove now webhookId) trivial⟩
  | other writes =>
    dsimp only at hact
    split at hact
    · next hwrites =>
      cases hact
      have hkept := get_commit_of_isWebhook hwrites world.shared.db now
      exact ⟨hpass, iff_of_true (h.quiet (fun t => hkept t rfl) (fun t => hkept t rfl)
        fun _ _ => List.not_mem_nil) trivial⟩
    · cases hact

end

/-- In every interleaving in which each write of a pass finds the webhook as the pass knows it,
    the stored record has the administrative fields of the last operation and a removed webhook
    stays removed together with its cursor.  A write that does not find it so breaks this. -/
theorem administration_survives_dispatch (tenantId : String) {id : String}
    {initial : Option WebhookRecord} {db₀ : Db} (hstart : AdminKept id initial db₀ [])
    {labels : List WebhookLabel} {world : WebhookWorld}
    (hrun : Run (Restrict (Turns (webhookTurn tenantId)) (CurrentWrite id)) (webhookWorld db₀)
      labels world) :
    AdminKept id initial world.shared.db world.history ∧
      ∀ l world', Turns (webhookTurn tenantId) world l world' →
        (AdminKept id initial world'.shared.db world'.history ↔ CurrentWrite id world l) := by
  have hinv : AdminKept id initial world.shared.db world.history ∧
      NotPaused world.shared.pass := by
    refine hrun.invariant (I := fun world => AdminKept id initial world.shared.db world.history ∧
      NotPaused world.shared.pass) ?_ ⟨hstart, notPaused_of_webhook rfl⟩
    intro world l world' h hstep
    obtain ⟨hpass, hkept⟩ := h.1.turn_iff h.2 hstep.2
    exact ⟨hkept.mpr hstep.1, hpass⟩
  exact ⟨hinv.1, fun l world' hturn => (hinv.1.turn_iff hinv.2 hturn).2⟩

/-! ### Sample interleavings -/

/-- A pass of the worker up to the POST. -/
def passUpToPost : List WebhookLabel :=
  [(0, 30, .startRound), (0, 30, .list "crm"), (0, 31, answer .transport),
    (0, 32, answer .transport), (0, 33, answer .transport), (0, 34, answer .transport)]

/-- The POST is answered, and the pass writes the delivery, the webhook and the cursor. -/
def passFromPost : List WebhookLabel :=
  [(0, 40, answer (.status 200)), (0, 41, answer .transport), (0, 42, answer .transport),
    (0, 43, answer .transport)]

def pausedHook : WebhookRecord :=
  { sampleHook with status := .paused, url := "https://crm.example/new", updatedAt := 35 }

theorem adminKept_sampleHooks : AdminKept "crm" (some sampleHook) sampleHooks [] := by
  constructor
  · intro t
    rfl
  · intro hnone
    cases hnone

/-- A turn that the condition allows, computed. -/
def currentTurn (id : String) (world : WebhookWorld) (l : WebhookLabel) : Option WebhookWorld :=
  if CurrentPass id world.shared.db l.2.1 world.shared.pass then
    takeTurn (webhookTurn "default") world l
  else none

theorem currentTurn_some (id : String) (world : WebhookWorld) (l : WebhookLabel)
    (world' : WebhookWorld) (h : currentTurn id world l = some world') :
    Restrict (Turns (webhookTurn "default")) (CurrentWrite id) world l world' := by
  unfold currentTurn at h
  split at h
  · next hcurrent =>
    refine ⟨?_, turns_of_takeTurn _ _ _ _ h⟩
    unfold CurrentWrite
    split
    · exact hcurrent
    · trivial
  · cases h

/-- The webhook is paused and moved only after the pass. -/
theorem administration_survives_dispatch_sample :
    ∃ world, Run (Turns (webhookTurn "default")) (webhookWorld sampleHooks)
        (passUpToPost ++ passFromPost ++ [(1, 44, .putWebhook pausedHook)]) world ∧
      world.shared.db.get 50 (.webhookCursor "crm") = some 1 ∧
      (world.shared.db.get 50 (.webhook "crm")).map WebhookRecord.admin =
        some pausedHook.admin := by
  have hresult : (execAll (currentTurn "crm") (webhookWorld sampleHooks)
      (passUpToPost ++ passFromPost ++ [(1, 44, .putWebhook pausedHook)])).map
        (fun world => (world.shared.db.get 50 (.webhookCursor "crm"),
          administered "crm" (some sampleHook) world.history)) =
      some (some 1, some pausedHook) := by decide +kernel
  obtain ⟨world, hrun, hworld⟩ := exists_run (currentTurn_some "crm") hresult
  have hkept := (administration_survives_dispatch "default" adminKept_sampleHooks hrun).1.fields 50
  rw [(Prod.mk.inj hworld).2] at hkept
  exact ⟨world, hrun.of_restrict, (Prod.mk.inj hworld).1, hkept⟩

/-- Done during the POST, the same change is undone by the pass, and a removal is undone as
    well: the webhook and its cursor are back. -/
theorem dispatch_undoes_administration :
    (∃ world, Run (Turns (webhookTurn "default")) (webhookWorld sampleHooks)
        (passUpToPost ++ [(1, 35, .putWebhook pausedHook)] ++ passFromPost) world ∧
      (world.shared.db.get 50 (.webhook "crm")).map WebhookRecord.admin = some sampleHook.admin ∧
      ¬ AdminKept "crm" (some sampleHook) world.shared.db world.history) ∧
    ∃ world, Run (Turns (webhookTurn "default")) (webhookWorld sampleHooks)
        (passUpToPost ++ [(1, 35, .removeWebhook "crm")] ++ passFromPost) world ∧
      (world.shared.db.get 50 (.webhook "crm")).map WebhookRecord.admin = some sampleHook.admin ∧
      world.shared.db.get 50 (.webhookCursor "crm") = some 1 ∧
      ¬ AdminKept "crm" (some sampleHook) world.shared.db world.history := by
  constructor
  · have hresult : (execAll (takeTurn (webhookTurn "default")) (webhookWorld sampleHooks)
        (passUpToPost ++ [(1, 35, .putWebhook pausedHook)] ++ passFromPost)).map
          (fun world => ((world.shared.db.get 50 (.webhook "crm")).map WebhookRecord.admin,
            administered "crm" (some sampleHook) world.history)) =
        some (some sampleHook.admin, some pausedHook) := by decide +kernel
    obtain ⟨world, hexec, hworld⟩ := Option.map_eq_some_iff.mp hresult
    obtain ⟨hstored, hlast⟩ := Prod.mk.inj hworld
    refine ⟨world, run_of_execAll (turns_of_takeTurn _) hexec, hstored, fun hkept => ?_⟩
    have hfields := hkept.fields 50
    rw [hstored, hlast] at hfields
    exact absurd hfields (by decide)
  · have hresult : (execAll (takeTurn (webhookTurn "default")) (webhookWorld sampleHooks)
        (passUpToPost ++ [(1, 35, .removeWebhook "crm")] ++ passFromPost)).map
          (fun world => ((world.shared.db.get 50 (.webhook "crm")).map WebhookRecord.admin,
            world.shared.db.get 50 (.webhookCursor "crm"),
            administered "crm" (some sampleHook) world.history)) =
        some (some sampleHook.admin, some 1, none) := by decide +kernel
    obtain ⟨world, hexec, hworld⟩ := Option.map_eq_some_iff.mp hresult
    obtain ⟨hstored, hrest⟩ := Prod.mk.inj hworld
    obtain ⟨hcursor, hlast⟩ := Prod.mk.inj hrest
    refine ⟨world, run_of_execAll (turns_of_takeTurn _) hexec, hstored, hcursor, fun hkept => ?_⟩
    have hfields := hkept.fields 50
    rw [hstored, hlast] at hfields
    cases hfields

end RustyAuth
