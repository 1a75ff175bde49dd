/-
  What the methods of the store write into the event log.

  Whatever else a method writes, the part of it that concerns the log is one `MSET` of events
  and the number of the last (`StoreOp.wellLogged`); only retention and a restore write the
  log otherwise.
-/
import RustyAuth.Store.Writers
import RustyAuth.Analytics.Projection

namespace RustyAuth

open RustyAuth.Library

/-! ## The log part of a batch -/

def Key.isLog : Key → Bool
  | .event _ => true
  | .eventSequence => true
  | .eventMinSequence => true
  | _ => false

/-- The commands of a batch that concern the log. -/
def logPart (ws : List Write) : List Write := ws.filter (·.key.isLog)

/-- The event a command stores. -/
def loggedEvent : Write → Option AuthEvent
  | .set (.event _) event => some event
  | _ => none

/-- The events a batch stores. -/
def loggedEvents (ws : List Write) : List AuthEvent := ws.filterMap loggedEvent

/-- The log part is the `MSET` of the events that are stored. -/
def WellLogged (ws : List Write) : Prop := logPart ws = Db.queueEvents (loggedEvents ws)

section

variable (w : Write) (us ws : List Write)

@[simp] theorem logPart_nil : logPart [] = [] := rfl

@[simp] theorem logPart_append : logPart (us ++ ws) = logPart us ++ logPart ws :=
  List.filter_append _ _

theorem logPart_cons :
    logPart (w :: ws) = if w.key.isLog then w :: logPart ws else logPart ws :=
  List.filter_cons

theorem logPart_eq_nil {ws : List Write} : logPart ws = [] ↔ ∀ w ∈ ws, w.key.isLog = false := by
  unfold logPart
  rw [List.filter_eq_nil_iff]
  simp only [Bool.not_eq_true]

theorem loggedEvents_nil : loggedEvents [] = [] := rfl

@[simp] theorem loggedEvents_append :
    loggedEvents (us ++ ws) = loggedEvents us ++ loggedEvents ws :=
  List.filterMap_append

theorem loggedEvents_cons :
    loggedEvents (w :: ws) = (loggedEvent w).toList ++ loggedEvents ws := by
  unfold loggedEvents
  rw [List.filterMap_cons]
  cases loggedEvent w <;> rfl

theorem loggedEvent_of_not (h : w.key.isLog = false) : loggedEvent w = none := by
  unfold loggedEvent
  split
  · cases h
  · rfl

theorem loggedEvents_of_logPart_nil {ws : List Write} (h : logPart ws = []) :
    loggedEvents ws = [] := by
  rw [logPart_eq_nil] at h
  induction ws with
  | nil => rfl
  | cons w ws ih =>
    rw [loggedEvents_cons, loggedEvent_of_not w (h w List.mem_cons_self)]
    exact ih fun v hv => h v (List.mem_cons_of_mem _ hv)

end

theorem queueEvents_nil : Db.queueEvents [] = [] := rfl

@[simp] theorem loggedEvents_queueEvents (events : List AuthEvent) :
    loggedEvents (Db.queueEvents events) = events := by
  unfold Db.queueEvents
  split
  · next hlast => exact (List.getLast?_eq_none_iff.mp hlast).symm
  · rw [loggedEvents_append]
    unfold loggedEvents
    rw [List.filterMap_map]
    simp [Function.comp_def, loggedEvent]

@[simp] theorem logPart_queueEvents (events : List AuthEvent) :
    logPart (Db.queueEvents events) = Db.queueEvents events := by
  unfold logPart
  rw [List.filter_eq_self]
  intro w hw
  rcases Db.mem_queueEvents hw with ⟨event, _, rfl⟩ | ⟨n, rfl⟩ <;> rfl

/-- A batch around the `MSET` of some events. -/
theorem wellLogged_around {us ws : List Write} (events : List AuthEvent) (hus : logPart us = [])
    (hws : logPart ws = []) : WellLogged (us ++ Db.queueEvents events ++ ws) := by
  unfold WellLogged
  simp [hus, hws, loggedEvents_of_logPart_nil hus, loggedEvents_of_logPart_nil hws]

theorem wellLogged_queueEvents {us : List Write} (events : List AuthEvent)
    (hus : logPart us = []) : WellLogged (us ++ Db.queueEvents events) := by
  have h := wellLogged_around events hus logPart_nil
  rwa [List.append_nil] at h

theorem wellLogged_of_logPart_nil {ws : List Write} (h : logPart ws = []) : WellLogged ws := by
  unfold WellLogged
  rw [h, loggedEvents_of_logPart_nil h, queueEvents_nil]

/-! ## Every writer is well logged -/

theorem logPart_map {α : Type} {f : α → Write} {as : List α}
    (h : ∀ a ∈ as, (f a).key.isLog = false) : logPart (as.map f) = [] := by
  rw [logPart_eq_nil]
  intro w hw
  obtain ⟨a, ha, rfl⟩ := List.mem_map.mp hw
  exact h a ha

@[simp] theorem logPart_emailIndex (kind : IdentifierKind) (w : Write) :
    logPart (emailIndex kind w) = if kind = .email ∧ w.key.isLog then [w] else [] := by
  unfold emailIndex
  split <;> simp_all [logPart_cons]

@[simp] theorem loggedEvents_emailIndex (kind : IdentifierKind) (w : Write) :
    loggedEvents (emailIndex kind w) = if kind = .email then (loggedEvent w).toList else [] := by
  unfold emailIndex
  split <;> simp_all [loggedEvents_cons, loggedEvents_nil]

theorem AccountOp.wellLogged (op : AccountOp) : WellLogged op.commands := by
  unfold WellLogged
  cases op with
  | createUserWithPasskey userId user kind identifier credentialId invitation events =>
    cases invitation <;>
      simp [AccountOp.commands, closeInvitation, logPart_cons, loggedEvents_cons, loggedEvents_nil,
        loggedEvent, Command.key, Key.isLog]
  | _ =>
    simp [AccountOp.commands, persistUserWithEvent, storePasskey, closeInvitation, logPart_cons,
      loggedEvents_cons, loggedEvents_nil, queueEvents_nil, loggedEvent, Command.key, Key.isLog]

theorem SessionOp.wellLogged (op : SessionOp) : WellLogged op.commands := by
  unfold WellLogged
  cases op with
  | markSessionStepUp digest stepped events =>
    cases stepped <;>
      simp [SessionOp.commands, logPart_cons, loggedEvents_cons, loggedEvents_nil, queueEvents_nil,
        loggedEvent, Command.key, Key.isLog]
  | touchSessions touches => exact wellLogged_of_logPart_nil (logPart_map fun _ _ => rfl)
  | _ =>
    simp [SessionOp.commands, deleteSessionRecords, logPart_cons, loggedEvents_cons,
      loggedEvents_nil, queueEvents_nil, loggedEvent, Command.key, Key.isLog]

theorem RealmOp.wellLogged (op : RealmOp) : WellLogged op.commands := by
  unfold WellLogged
  cases op with
  | revokeServiceCredential id account digests events =>
    have hdels : logPart (digests.map fun digest => .del (.serviceCredential digest)) = [] :=
      logPart_map fun _ _ => rfl
    simp [RealmOp.commands, storeServiceAccount, hdels, loggedEvents_of_logPart_nil hdels,
      logPart_cons, loggedEvents_cons, loggedEvent, Command.key, Key.isLog]
  | _ =>
    simp [RealmOp.commands, storeOperator, storeServiceAccount, logPart_cons, loggedEvents_cons,
      loggedEvents_nil, queueEvents_nil, loggedEvent, Command.key, Key.isLog]

theorem TelemetryOp.logPart_eq_nil (op : TelemetryOp) : logPart op.commands = [] := by
  cases op with
  | acceptFleetTelemetryBatch accepted => exact logPart_map fun _ _ => rfl
  | _ => simp [TelemetryOp.commands, logPart_cons, Command.key, Key.isLog]

/-- A restore brings a log of its own. -/
def MaintenanceOp.Restores : MaintenanceOp → Prop
  | .restoreRecords _ _ => True
  | _ => False

theorem MaintenanceOp.logPart_eq_nil (op : MaintenanceOp) (h : ¬ op.Restores) :
    logPart op.commands = [] := by
  cases op with
  | restoreRecords startedAt records => exact absurd trivial h
  | _ => simp [MaintenanceOp.commands, logPart_cons, Command.key, Key.isLog]

theorem FleetOp.logPart_eq_nil {sha256Hex : String → String} {db : Db} {c : Call} {op : FleetOp}
    {ws : List Write} (h : op.exec sha256Hex db c = .ok ws) : logPart ws = [] := by
  rw [RustyAuth.logPart_eq_nil]
  cases exec_effect h with
  | completeConnection attemptId id r consumed audit change deletes =>
    rcases deletes with rfl | rfl <;>
      simp [persistFleetMutation, Command.key, Key.isLog]
  | _ => simp [persistFleetMutation, Command.key, Key.isLog]

theorem projectAnalyticsEvents_logPart {db : Db} {call : ProjectorCall} {r : ProjectionResult}
    {ws : List Write} (h : projectAnalyticsEvents db call = .ok (r, ws)) : logPart ws = [] := by
  obtain ⟨events, _, ⟨_, _, rfl⟩ | hws⟩ := projectAnalyticsEvents_ok h
  · rfl
  · rw [logPart_eq_nil]
    intro w hw
    rcases hws.only w hw with ⟨b, _, rfl⟩ | hout | hcur
    · rfl
    · revert hout
      cases w.key <;> simp [IsOutbox, Key.isLog]
    · rcases mem_cursorWrites hcur with hk | hk <;> rw [hk] <;> rfl

/-- Neither retention nor a restore. -/
def StoreOp.Appends : StoreOp → Prop
  | .pruneEventsOlderThan _ _ => False
  | .maintenance op => ¬ op.Restores
  | _ => True

theorem sentBy_wellLogged {ε α : Type} {result : Except ε (Committed α)}
    (h : ∀ a ws, result = .ok (a, ws) → WellLogged ws) : WellLogged (sentBy result) := by
  cases result with
  | error e => rfl
  | ok r => exact h r.1 r.2 rfl

theorem sentBy_logPart_nil {ε α : Type} {result : Except ε (Committed α)}
    (h : ∀ a ws, result = .ok (a, ws) → logPart ws = []) : WellLogged (sentBy result) :=
  sentBy_wellLogged fun a ws hok => wellLogged_of_logPart_nil (h a ws hok)

theorem putWebhookDelivery_wellLogged {db : Db} {tenantId : String} {now : Nat} {eventId : Uuid}
    {record : WebhookDeliveryRecord} {ws : List Write}
    (h : putWebhookDelivery db tenantId now eventId record = .ok ws) : WellLogged ws := by
  simp only [putWebhookDelivery, bind_eq_ok, ensure_eq_ok, pure_eq_ok, exists_const] at h
  obtain ⟨_, backlog, _, events, _, rfl⟩ := h
  exact wellLogged_queueEvents events rfl

theorem pruneWebhookDeliveries_logPart (db : Db) (now cutoff limit : Nat) :
    logPart (pruneWebhookDeliveriesOlderThan db now cutoff limit) = [] := by
  rw [logPart_eq_nil]
  intro w hw
  obtain ⟨record, _, hw⟩ := List.mem_flatMap.mp hw
  simp only [List.mem_cons, List.not_mem_nil, or_false] at hw
  rcases hw with rfl | rfl <;> rfl

theorem PairingWrites.logPart_eq_nil {db : Db} {now : Nat} {code digest : String}
    {connectionId : Uuid} {ws : List Write} (h : PairingWrites db now code connectionId digest ws) :
    logPart ws = [] := by
  cases h <;> rfl

theorem RotationWrites.logPart_eq_nil {db : Db} {now : Nat} {connectionId requestId : Uuid}
    {digest hint : String} {ws : List Write}
    (h : RotationWrites db now connectionId requestId digest hint ws) : logPart ws = [] := by
  cases h <;> rfl

theorem ReceiptWrites.logPart_eq_nil {requestId : Uuid} {ws : List Write}
    (h : ReceiptWrites requestId ws) : logPart ws = [] := by
  rcases h with rfl | ⟨_, rfl⟩ <;> rfl

theorem StoreOp.wellLogged (ctx : StoreContext) (db : Db) (now : Nat) {op : StoreOp}
    (h : op.Appends) : WellLogged (op.commands ctx db now) := by
  cases op with
  | account op => exact op.wellLogged
  | session op => exact op.wellLogged
  | realm op => exact op.wellLogged
  | telemetry op => exact wellLogged_of_logPart_nil op.logPart_eq_nil
  | maintenance op => exact wellLogged_of_logPart_nil (op.logPart_eq_nil h)
  | fleet call op =>
    apply sentBy_logPart_nil
    intro _ ws hok
    simp only [map_eq_ok, Prod.mk.injEq] at hok
    obtain ⟨_, hexec, _, rfl⟩ := hok
    exact FleetOp.logPart_eq_nil hexec
  | appendEvents inputs =>
    apply sentBy_wellLogged
    intro events ws hok
    rw [Db.appendEvents_writes hok]
    exact wellLogged_queueEvents events logPart_nil
  | pruneEventsOlderThan cutoff maximum => exact h.elim
  | projectAnalyticsEvents call =>
    exact sentBy_logPart_nil fun _ _ => projectAnalyticsEvents_logPart
  | putWebhookDelivery eventId record =>
    apply sentBy_wellLogged
    intro _ ws hok
    simp only [map_eq_ok, Prod.mk.injEq] at hok
    obtain ⟨_, hput, _, rfl⟩ := hok
    exact putWebhookDelivery_wellLogged hput
  | pruneWebhookDeliveriesOlderThan cutoff limit =>
    exact wellLogged_of_logPart_nil (pruneWebhookDeliveries_logPart db now cutoff limit)
  | createRealmPairing id code realmId origin scopes createdBy => rfl
  | exchangeRealmPairing code origin instanceId epoch connectionId credential =>
    exact wellLogged_of_logPart_nil
      (exchangeRealmPairing_writes db now code origin instanceId epoch connectionId
        credential).logPart_eq_nil
  | consumeOutboundRealmPairing code origin instanceId epoch connectionId credential scopes =>
    exact wellLogged_of_logPart_nil
      (consumeOutboundRealmPairing_writes db now code origin instanceId epoch connectionId credential
        scopes).logPart_eq_nil
  | revokeRealmFleetGrant connectionId =>
    apply sentBy_logPart_nil
    intro r ws hok
    simp only [RustyAuth.revokeRealmFleetGrant, bind_eq_ok, okOr_eq_ok, pure_eq_ok,
      Prod.mk.injEq] at hok
    obtain ⟨grant, _, _, rfl⟩ := hok
    rfl
  | rotateRealmFleetGrant connectionId requestId credential hint =>
    exact sentBy_logPart_nil fun _ _ hok => (rotateRealmFleetGrant_writes hok).logPart_eq_nil
  | claimRemoteMutation requestId digest =>
    exact sentBy_logPart_nil fun _ _ hok => (claimRemoteMutation_writes hok).logPart_eq_nil
  | completeRemoteMutation requestId digest succeeded summary =>
    exact sentBy_logPart_nil fun _ _ hok => (completeRemoteMutation_writes hok).logPart_eq_nil

end RustyAuth
