/-
  Backup coverage of the keyspace.

  A state is covered when a backup can be taken of it: the policy knows every key, every key
  it includes has a family, and a key with an expiry has a family that allows one.  Every
  writer names its keys and gives them expiries as their families ask (`commands_kept`), so
  what stands between a state and its coverage are exactly the keys of the families that no
  table lists: the backlog of webhook deliveries, and the receipts of grant rotations.
-/
import RustyAuth.Backup.KeyTables
import RustyAuth.Store.Writers
import RustyAuth.Analytics.Projection

namespace RustyAuth

open RustyAuth.Library

/-! ## The keys and expiries a writer leaves -/

/-- The key has a name, and the expiry suits it. -/
def Suited (k : Key) (expiresAt : Option Nat) : Prop := k.Named ∧ k.lifetime.Suits expiresAt

/-- The tables list the key, and it is suited. -/
def Kept (k : Key) (expiresAt : Option Nat) : Prop :=
  k.lifetime ≠ .unlisted ∧ Suited k expiresAt

theorem Uuid.text_ne_empty (id : Uuid) : id.text ≠ "" := by
  intro h
  have hlist := congrArg String.toList h
  simp [Uuid.text] at hlist

theorem padded_ne_empty (n : Nat) : padded n ≠ "" := by
  intro h
  have hlength := congrArg (fun text => text.toList.length) h
  simp [padded, length_digits] at hlength

/-- The texts a method names keys by. -/
def AccountOp.names : AccountOp → List String
  | .createUserWithPasskey _ _ _ identifier credentialId _ _ => [identifier, credentialId]
  | .addIdentifier _ _ _ identifier _ => [identifier]
  | .addPasskey _ _ credentialId _ => [credentialId]
  | .addRecoveryPasskey _ _ credentialId _ => [credentialId]
  | .createAccountInvitation _ _ digest _ => [digest]
  | _ => []

def SessionOp.names : SessionOp → List String
  | .applyAuthenticationAndCreateSession _ _ digest _ _ _ => [digest]
  | .createSession digest _ _ _ => [digest]
  | .markSessionStepUp digest _ _ => [digest]
  | .touchSessions touches => touches.map (·.1)
  | .createLocalAgentHandoff digest _ _ _ => [digest]
  | _ => []

def RealmOp.names : RealmOp → List String
  | .createServiceCredential _ _ digest _ _ => [digest]
  | .putWebhook id _ _ => [id]
  | .updateWebhookRuntime id _ => [id]
  | .setWebhookCursor id _ => [id]
  | _ => []

def FleetOp.names : FleetOp → List String
  | .createOrganization slug _ => [slug]
  | _ => []

def StoreOp.names : StoreOp → List String
  | .account op => op.names
  | .session op => op.names
  | .realm op => op.names
  | .fleet _ op => op.names
  | _ => []

/-- Every command of a batch leaves a named key with a suitable expiry. -/
def AllKept (ws : List Write) : Prop := ∀ w ∈ ws, w.Leaves Kept

@[simp] theorem allKept_nil : AllKept [] := List.forall_mem_nil _

@[simp] theorem allKept_cons (w : Write) (ws : List Write) :
    AllKept (w :: ws) ↔ w.Leaves Kept ∧ AllKept ws := List.forall_mem_cons

@[simp] theorem allKept_append (us ws : List Write) :
    AllKept (us ++ ws) ↔ AllKept us ∧ AllKept ws := List.forall_mem_append

theorem allKept_map {α : Type} {f : α → Write} {as : List α} (h : ∀ a ∈ as, (f a).Leaves Kept) :
    AllKept (as.map f) := by
  intro w hw
  obtain ⟨a, ha, rfl⟩ := List.mem_map.mp hw
  exact h a ha

@[simp] theorem allKept_queueEvents (events : List AuthEvent) : AllKept (Db.queueEvents events) := by
  intro w hw
  rcases Db.mem_queueEvents hw with ⟨event, _, rfl⟩ | ⟨n, rfl⟩ <;>
    simp [Kept, Suited, Key.Named, Key.form, Key.lifetime, Lifetime.Suits]

@[simp] theorem allKept_emailIndex (kind : IdentifierKind) (w : Write) :
    AllKept (emailIndex kind w) ↔ (kind = .email → w.Leaves Kept) := by
  unfold emailIndex
  split <;> simp_all

@[simp] theorem allKept_closeInvitation (id : Uuid) (invitation digest : String) :
    AllKept (closeInvitation id invitation digest) := by
  simp [closeInvitation, Kept, Suited, Key.Named, Key.form, Key.lifetime, Lifetime.Suits,
    Uuid.text_ne_empty]

theorem AccountOp.commands_kept (op : AccountOp) (hnames : ∀ name ∈ op.names, name ≠ "") :
    AllKept op.commands := by
  cases op with
  | createUserWithPasskey userId user kind identifier credentialId invitation events =>
    cases invitation <;>
      simp_all [AccountOp.commands, AccountOp.names, Kept, Suited, Key.Named, Key.form, Key.lifetime,
        Lifetime.Suits, Uuid.text_ne_empty]
  | _ =>
    simp_all [AccountOp.commands, AccountOp.names, persistUserWithEvent, storePasskey, Kept, Suited,
      Key.Named, Key.form, Key.lifetime, Lifetime.Suits, Uuid.text_ne_empty]

theorem SessionOp.commands_kept (op : SessionOp) (hnames : ∀ name ∈ op.names, name ≠ "") :
    AllKept op.commands := by
  cases op with
  | markSessionStepUp digest stepped events =>
    cases stepped <;>
      simp_all [SessionOp.commands, SessionOp.names, Kept, Suited, Key.Named, Key.form, Key.lifetime,
        Lifetime.Suits]
  | touchSessions touches =>
    apply allKept_map
    intro touch htouch
    have hne : touch.1 ≠ "" := hnames _ (List.mem_map_of_mem htouch)
    simp [Kept, Suited, Key.Named, Key.form, Key.lifetime, Lifetime.Suits, hne]
  | _ =>
    simp_all [SessionOp.commands, SessionOp.names, deleteSessionRecords, Kept, Suited, Key.Named, Key.form,
      Key.lifetime, Lifetime.Suits, Uuid.text_ne_empty]

theorem RealmOp.commands_kept (op : RealmOp) (hnames : ∀ name ∈ op.names, name ≠ "") :
    AllKept op.commands := by
  cases op with
  | revokeServiceCredential id account digests events =>
    have hdels : AllKept (digests.map fun digest => .del (.serviceCredential digest)) :=
      allKept_map fun digest _ => Command.leaves_del _
    simp_all [RealmOp.commands, storeServiceAccount, Kept, Suited, Key.Named, Key.form, Key.lifetime,
      Lifetime.Suits, Uuid.text_ne_empty]
  | _ =>
    simp_all [RealmOp.commands, RealmOp.names, storeOperator, storeServiceAccount, Kept, Suited, Key.Named,
      Key.form, Key.lifetime, Lifetime.Suits, Uuid.text_ne_empty]

theorem TelemetryOp.commands_kept (op : TelemetryOp) : AllKept op.commands := by
  cases op with
  | acceptFleetTelemetryBatch accepted =>
    apply allKept_map
    intro entry _
    simp [Kept, Suited, Key.Named, Key.form, Key.lifetime, Lifetime.Suits]
  | _ =>
    simp [TelemetryOp.commands, Kept, Suited, Key.Named, Key.form, Key.lifetime, Lifetime.Suits,
      Uuid.text_ne_empty, padded_ne_empty]

/-- What the validation of a snapshot has established of a record it restores. -/
def RestoredRecord.Valid (record : RestoredRecord) : Prop :=
  snapshotKeyPolicy record.key.text = .ok .include ∧
    checkFamily { key := record.key.text, value := "", expiresAt := record.seconds } = .ok ()

theorem checkFamily_eq_ok (record : StoreRecord) :
    checkFamily record = .ok () ↔ ∃ f, recordFamily record.key = .ok f ∧
      (recordFamilyAllowsExpiry f = true ∨ record.expiresAt = none) ∧
      (recordFamilyNeedsExpiry f = true → record.expiresAt.isSome) := by
  unfold checkFamily
  simp only [bind_eq_ok, ensure_eq_ok, exists_const]

variable {k : Key} {db : Db} {ws : List Write} {call : ProjectorCall} {now : Nat} {requestId : Uuid}
  {ctx : StoreContext}

/-- A named key is accepted with exactly the expiries that suit it. -/
theorem checkFamily_text (h : k.Named) (hk : k.lifetime.included = true) (value : String)
    (expiresAt : Option Nat) :
    checkFamily { key := k.text, value, expiresAt } = .ok () ↔ k.lifetime.Suits expiresAt := by
  obtain ⟨f, hf, hallows, hneeds⟩ := Key.family_text h hk
  rw [checkFamily_eq_ok]
  unfold Lifetime.Suits
  constructor
  · rintro ⟨g, hg, hexpiry, hsome⟩
    rw [hf, Except.ok.injEq] at hg
    rw [← hg, hallows] at hexpiry
    rw [← hg, hneeds, decide_eq_true_iff] at hsome
    refine ⟨fun hlifetime => ?_, hsome⟩
    rw [hlifetime] at hexpiry
    exact hexpiry.resolve_left Bool.noConfusion
  · rintro ⟨hdurable, hleased⟩
    refine ⟨f, hf, ?_, ?_⟩
    · rw [hallows]
      revert hk hdurable
      cases k.lifetime <;> simp [Lifetime.allowsExpiry, Lifetime.included]
    · rw [hneeds, decide_eq_true_iff]
      exact hleased

theorem RestoredRecord.Valid.kept {record : RestoredRecord} (h : record.Valid) :
    record.write.Leaves Kept := by
  obtain ⟨f, hf, _⟩ := (checkFamily_eq_ok _).mp h.2
  have hnamed := Key.named_of_family hf
  have hincluded : record.key.lifetime.included = true := by
    have hpolicy := h.1
    rw [Key.policy_text hnamed] at hpolicy
    revert hpolicy
    cases record.key.lifetime <;> simp [Lifetime.policy, Lifetime.included]
  have hlisted : record.key.lifetime ≠ .unlisted := by
    intro hunlisted
    rw [hunlisted] at hincluded
    cases hincluded
  have hsuits := (checkFamily_text hnamed hincluded "" record.seconds).mp h.2
  unfold RestoredRecord.write
  cases hseconds : record.seconds with
  | none =>
    rw [hseconds] at hsuits
    exact ⟨hlisted, hnamed, hsuits⟩
  | some seconds =>
    rw [hseconds] at hsuits
    intro d
    refine ⟨hlisted, hnamed, fun hdurable => ?_, fun _ => rfl⟩
    cases hsuits.1 hdurable

/-- The records of a restore come from a valid snapshot. -/
def MaintenanceOp.Valid : MaintenanceOp → Prop
  | .restoreRecords _ records => ∀ record ∈ records, record.Valid
  | _ => True

theorem MaintenanceOp.commands_kept (op : MaintenanceOp) (h : op.Valid) : AllKept op.commands := by
  cases op with
  | restoreRecords startedAt records =>
    have hrecords : AllKept (records.map RestoredRecord.write) :=
      allKept_map fun record hrecord => (h record hrecord).kept
    simp [MaintenanceOp.commands, hrecords, Kept, Suited, Key.Named, Key.form, Key.lifetime, Lifetime.Suits]
  | _ =>
    simp [MaintenanceOp.commands, Kept, Suited, Key.Named, Key.form, Key.lifetime, Lifetime.Suits]

@[simp] theorem allKept_persistFleetMutation (c : Call) (resource : Write) (index : Option Write)
    (audit : MutationAudit) :
    AllKept (persistFleetMutation c resource index audit) ↔
      resource.Leaves Kept ∧ ∀ w ∈ index, w.Leaves Kept := by
  unfold AllKept
  rw [forall_mem_persistFleetMutation]
  simp [Kept, Suited, Key.Named, Key.form, Key.lifetime, Lifetime.Suits, Uuid.text_ne_empty]

theorem FleetOp.exec_kept {sha256Hex : String → String} (hdigest : ∀ text, sha256Hex text ≠ "")
    {c : Call} {op : FleetOp} (hnames : ∀ name ∈ op.names, name ≠ "")
    (h : op.exec sha256Hex db c = .ok ws) :
    AllKept ws := by
  cases exec_effect h with
  | reserveAssignmentEpoch realmId digest next asked =>
    subst asked
    simp only [FleetOp.exec, pure_eq_ok] at h
    rw [← h]
    simp [reserveFleetAssignmentEpoch, Kept, Suited, Key.Named, Key.form, Key.lifetime, Lifetime.Suits,
      hdigest]
  | createOrganization r audit asked =>
    subst asked
    simp_all [FleetOp.names, Kept, Suited, Key.Named, Key.form, Key.lifetime, Lifetime.Suits,
      Uuid.text_ne_empty]
  | completeConnection attemptId id r consumed audit change deletes =>
    rcases deletes with rfl | rfl <;>
      simp [Kept, Suited, Key.Named, Key.form, Key.lifetime, Lifetime.Suits, Uuid.text_ne_empty]
  | _ =>
    simp [Kept, Suited, Key.Named, Key.form, Key.lifetime, Lifetime.Suits, Uuid.text_ne_empty]

/-! ### The projector -/

theorem queueBucket_kept {epoch : Nat} {existing : OutboxKeys} {acc acc' : Export}
    {b : LocalMetricBucket} (hacc : AllKept acc.writes)
    (h : queueBucket call epoch existing acc b = .ok acc') : AllKept acc'.writes := by
  simp only [queueBucket, bind_eq_ok, pure_eq_ok] at h
  obtain ⟨_, _, rfl⟩ := h
  have hdels : ∀ keys : List OutboxKey,
      AllKept (keys.map fun key => .del (.analyticsOutbox key.1 key.2)) :=
    fun keys => allKept_map fun key _ => Command.leaves_del _
  simp [hacc, hdels, Kept, Suited, Key.Named, Key.form, Key.lifetime, Lifetime.Suits]

theorem exportBuckets_kept {epoch : Nat} {existing : OutboxKeys} (bs : List LocalMetricBucket) :
    ∀ {acc acc' : Export}, AllKept acc.writes →
      bs.foldlM (exportBucket db call epoch existing) acc = .ok acc' → AllKept acc'.writes := by
  induction bs with
  | nil =>
    intro acc acc' hacc h
    rw [List.foldlM_nil, pure_eq_ok] at h
    exact h ▸ hacc
  | cons b bs ih =>
    intro acc acc' hacc h
    rw [List.foldlM_cons, bind_eq_ok] at h
    obtain ⟨mid, hmid, hrest⟩ := h
    refine ih ?_ hrest
    have hbucket : AllKept (acc.writes ++ [bucketWrite b]) := by
      simp [hacc, bucketWrite, Kept, Suited, Key.Named, Key.form, Key.lifetime, Lifetime.Suits,
        padded_ne_empty]
    unfold exportBucket at hmid
    dsimp only at hmid
    split at hmid
    · exact queueBucket_kept hbucket hmid
    · rw [pure_eq_ok] at hmid
      exact hmid ▸ hbucket

theorem cursorWrites_kept (db : Db) (now : Nat) (events : List AuthEvent) (closure : Nat) :
    AllKept (cursorWrites db now events closure) := by
  unfold cursorWrites
  rw [allKept_append]
  constructor
  · split <;> simp [Kept, Suited, Key.Named, Key.form, Key.lifetime, Lifetime.Suits]
  · split <;> simp [Kept, Suited, Key.Named, Key.form, Key.lifetime, Lifetime.Suits]

theorem projectAnalyticsEvents_kept {r : ProjectionResult}
    (h : projectAnalyticsEvents db call = .ok (r, ws)) : AllKept ws := by
  simp only [projectAnalyticsEvents, bind_eq_ok, mapError_eq_ok] at h
  obtain ⟨events, _, h⟩ := h
  split at h
  · rw [pure_eq_ok, Prod.mk.injEq] at h
    exact h.2 ▸ allKept_nil
  · simp only [bind_eq_ok, mapError_eq_ok, pure_eq_ok, Prod.mk.injEq] at h
    obtain ⟨exported, hexport, -, rfl⟩ := h
    rw [allKept_append, allKept_append]
    exact ⟨⟨exportBuckets_kept _ allKept_nil hexport,
      allKept_map fun key _ => Command.leaves_del _⟩, cursorWrites_kept _ _ _ _⟩

/-! ### Webhook deliveries, grants and receipts -/

theorem putWebhookDelivery_suited {tenantId : String} {eventId : Uuid}
    {record : WebhookDeliveryRecord}
    (h : putWebhookDelivery db tenantId now eventId record = .ok ws) :
    ∀ w ∈ ws, w.Leaves Suited := by
  simp only [putWebhookDelivery, bind_eq_ok, ensure_eq_ok, pure_eq_ok, exists_const] at h
  obtain ⟨_, backlog, _, events, _, rfl⟩ := h
  rw [List.forall_mem_append]
  refine ⟨?_, fun w hw => (allKept_queueEvents events w hw).mono fun _ _ => And.right⟩
  simp [Suited, Key.Named, Key.form, Key.lifetime, Lifetime.Suits, Uuid.text_ne_empty]

theorem pruneWebhookDeliveries_kept (db : Db) (now cutoff limit : Nat) :
    AllKept (pruneWebhookDeliveriesOlderThan db now cutoff limit) := by
  unfold pruneWebhookDeliveriesOlderThan
  intro w hw
  obtain ⟨record, _, hw⟩ := List.mem_flatMap.mp hw
  simp only [List.mem_cons, List.not_mem_nil, or_false] at hw
  rcases hw with rfl | rfl <;> exact Command.leaves_del _

theorem PairingWrites.kept {code digest : String} {connectionId : Uuid}
    (h : PairingWrites db now code connectionId digest ws) (hnamed : digest ≠ "") : AllKept ws := by
  cases h with
  | invalid => exact allKept_nil
  | refused => simp
  | accepted _ _ hdigest =>
    simp [grantWrites, Kept, Suited, Key.Named, Key.form, Key.lifetime, Lifetime.Suits,
      Uuid.text_ne_empty, hdigest, hnamed]

theorem RotationWrites.suited {connectionId : Uuid} {digest hint : String}
    (h : RotationWrites db now connectionId requestId digest hint ws) (hnamed : digest ≠ "") :
    ∀ w ∈ ws, w.Leaves Suited := by
  cases h with
  | nothing => exact List.forall_mem_nil _
  | rotated =>
    simp [Suited, Key.Named, Key.form, Key.lifetime, Lifetime.Suits, Uuid.text_ne_empty, hnamed]

theorem revokeRealmFleetGrant_kept {connectionId : Uuid} {r : RealmFleetGrantRecord}
    (h : revokeRealmFleetGrant db now connectionId = .ok (r, ws)) : AllKept ws := by
  simp only [revokeRealmFleetGrant, bind_eq_ok, okOr_eq_ok, pure_eq_ok, Prod.mk.injEq] at h
  obtain ⟨grant, _, _, rfl⟩ := h
  simp [Kept, Suited, Key.Named, Key.form, Key.lifetime, Lifetime.Suits, Uuid.text_ne_empty]

theorem ReceiptWrites.kept (h : ReceiptWrites requestId ws) : AllKept ws := by
  rcases h with rfl | ⟨_, rfl⟩
  · exact allKept_nil
  · simp [Kept, Suited, Key.Named, Key.form, Key.lifetime, Lifetime.Suits, Uuid.text_ne_empty]

theorem appendEvents_kept {tenantId : String} {inputs : List EventInput} {events : List AuthEvent}
    (h : db.appendEvents tenantId now inputs = .ok (events, ws)) : AllKept ws := by
  rw [Db.appendEvents_writes h]
  exact allKept_queueEvents events

theorem pruneEvents_kept {cutoff maximum r : Nat}
    (h : db.pruneEventsOlderThan now cutoff maximum = .ok (r, ws)) : AllKept ws := by
  intro w hw
  rcases Db.mem_pruneEvents h hw with ⟨n, _, rfl⟩ | ⟨n, rfl⟩
  · exact Command.leaves_del _
  · simp [Kept, Suited, Key.Named, Key.form, Key.lifetime, Lifetime.Suits]

/-! ### Every writer -/

/-- Digests are not empty. -/
def StoreContext.Digests (ctx : StoreContext) : Prop :=
  (∀ text, ctx.sha256Hex text ≠ "") ∧ ∀ text, ctx.credentialDigest text ≠ ""

/-- What callers promise: canonical identifiers, slugs, credential and webhook identifiers and
    digests are not empty, and a restore is given a valid snapshot. -/
def StoreOp.Valid (op : StoreOp) : Prop :=
  (∀ name ∈ op.names, name ≠ "") ∧
    match op with
    | .maintenance op => op.Valid
    | _ => True

theorem sentBy_kept {ε α : Type} {result : Except ε (Committed α)}
    (h : ∀ a ws, result = .ok (a, ws) → AllKept ws) : AllKept (sentBy result) := by
  cases result with
  | error e => exact allKept_nil
  | ok r => exact h r.1 r.2 rfl

/-- The writers of the families that the tables list. -/
def StoreOp.Listed : StoreOp → Prop
  | .putWebhookDelivery _ _ => False
  | .rotateRealmFleetGrant _ _ _ _ => False
  | _ => True

theorem StoreOp.commands_kept (hctx : ctx.Digests) (db : Db) (now : Nat) {op : StoreOp}
    (h : op.Valid) (hlisted : op.Listed) : AllKept (op.commands ctx db now) := by
  obtain ⟨hsha, hdigest⟩ := hctx
  cases op with
  | account op => exact op.commands_kept h.1
  | session op => exact op.commands_kept h.1
  | realm op => exact op.commands_kept h.1
  | telemetry op => exact op.commands_kept
  | maintenance op => exact op.commands_kept h.2
  | fleet call op =>
    apply sentBy_kept
    intro _ ws hok
    simp only [map_eq_ok, Prod.mk.injEq] at hok
    obtain ⟨_, hexec, _, rfl⟩ := hok
    exact FleetOp.exec_kept hsha h.1 hexec
  | appendEvents inputs => exact sentBy_kept fun _ _ => appendEvents_kept
  | pruneEventsOlderThan cutoff maximum => exact sentBy_kept fun _ _ => pruneEvents_kept
  | projectAnalyticsEvents call => exact sentBy_kept fun _ _ => projectAnalyticsEvents_kept
  | putWebhookDelivery eventId record => exact hlisted.elim
  | pruneWebhookDeliveriesOlderThan cutoff limit =>
    exact pruneWebhookDeliveries_kept db now cutoff limit
  | createRealmPairing id code realmId origin scopes createdBy =>
    simp [StoreOp.commands, RustyAuth.createRealmPairing, Kept, Suited, Key.Named, Key.form,
      Key.lifetime, Lifetime.Suits, hdigest]
  | exchangeRealmPairing code origin instanceId epoch connectionId credential =>
    exact (exchangeRealmPairing_writes db now code origin instanceId epoch connectionId
      credential).kept (hdigest _)
  | consumeOutboundRealmPairing code origin instanceId epoch connectionId credential scopes =>
    exact (consumeOutboundRealmPairing_writes db now code origin instanceId epoch connectionId
      credential scopes).kept (hdigest _)
  | revokeRealmFleetGrant connectionId => exact sentBy_kept fun _ _ => revokeRealmFleetGrant_kept
  | rotateRealmFleetGrant connectionId requestId credential hint => exact hlisted.elim
  | claimRemoteMutation requestId digest =>
    exact sentBy_kept fun _ _ hok => (claimRemoteMutation_writes hok).kept
  | completeRemoteMutation requestId digest succeeded summary =>
    exact sentBy_kept fun _ _ hok => (completeRemoteMutation_writes hok).kept

/-- Every writer names its keys and gives them suitable expiries. -/
theorem StoreOp.commands_suited (hctx : ctx.Digests) (db : Db) (now : Nat) {op : StoreOp}
    (h : op.Valid) : ∀ w ∈ op.commands ctx db now, w.Leaves Suited := by
  by_cases hlisted : op.Listed
  · intro w hw
    exact (StoreOp.commands_kept hctx db now h hlisted w hw).mono fun _ _ => And.right
  · cases op with
    | putWebhookDelivery eventId record =>
      show ∀ w ∈ sentBy _, w.Leaves Suited
      cases hput : RustyAuth.putWebhookDelivery db ctx.tenantId now eventId record with
      | error e => exact List.forall_mem_nil _
      | ok ws => exact putWebhookDelivery_suited hput
    | rotateRealmFleetGrant connectionId requestId credential hint =>
      show ∀ w ∈ sentBy _, w.Leaves Suited
      cases hrotate : RustyAuth.rotateRealmFleetGrant ctx.credentialDigest db now connectionId
        requestId credential hint with
      | error e => exact List.forall_mem_nil _
      | ok r => exact (rotateRealmFleetGrant_writes hrotate).suited (hctx.2 _)
    | _ => exact absurd trivial hlisted

/-! ## Whole runs -/

theorem step_entries {P : Key → Option Nat → Prop} {db' : Db} {call : StoreCall}
    (hcommands : ∀ w ∈ call.op.commands ctx db call.now, w.Leaves P)
    (hdb : ∀ k t e, db.entry t k = some e → P k e.deadline) (hstep : StoreStep ctx db call db') :
    ∀ k t e, db'.entry t k = some e → P k e.deadline := by
  obtain ⟨sent, hsent, rfl⟩ := hstep
  exact forall_entry_commit call.now sent db (fun w hw => hcommands w (hsent.subset hw)) hdb

section

variable {ctx : StoreContext} (hctx : ctx.Digests) {calls : List StoreCall} {db : Db}
  (hrun : Run (StoreStep ctx) Keyspace.empty calls db) (hvalid : ∀ call ∈ calls, call.op.Valid)

include hctx hrun hvalid

/-- Every key the store ever holds is named, with a suitable expiry. -/
theorem run_suited : ∀ k t e, db.entry t k = some e → Suited k e.deadline := by
  refine (hrun.restrict hvalid).invariant
    (I := fun db => ∀ k t e, db.entry t k = some e → Suited k e.deadline) ?_ ?_
  · rintro db call db' hdb ⟨hop, hstep⟩
    exact step_entries (StoreOp.commands_suited hctx db call.now hop) hdb hstep
  · intro k t e he
    cases he

/-- Without the writers of the unlisted families, every key is listed. -/
theorem run_listed (hlisted : ∀ call ∈ calls, call.op.Listed) :
    ∀ k t e, db.entry t k = some e → Kept k e.deadline := by
  refine (hrun.restrict (c := fun call => call.op.Valid ∧ call.op.Listed)
    fun call hcall => ⟨hvalid call hcall, hlisted call hcall⟩).invariant
    (I := fun db => ∀ k t e, db.entry t k = some e → Kept k e.deadline) ?_ ?_
  · rintro db call db' hdb ⟨⟨hop, hlist⟩, hstep⟩
    exact step_entries (StoreOp.commands_kept hctx db call.now hop hlist) hdb hstep
  · intro k t e he
    cases he

end

/-! ## Coverage -/

/-- A backup can be taken: the policy knows every key, and every key it includes has a
    family, which allows the expiry the key has. -/
structure Covered (db : Db) (now : Nat) : Prop where
  classified : ∀ k ∈ db.managedKeys now, ∃ policy, snapshotKeyPolicy k.text = .ok policy
  family : ∀ k ∈ db.managedKeys now, snapshotKeyPolicy k.text = .ok .include →
    ∃ f, recordFamily k.text = .ok f ∧
      ((db.deadline now k).isSome → recordFamilyAllowsExpiry f = true)

/-- No live key is of an unlisted family. -/
def NoUnlisted (db : Db) (now : Nat) : Prop :=
  db.get now .webhookDeliveryBacklog = none ∧ ∀ id, db.get now (.fleetGrantRotation id) = none

theorem Key.lifetime_eq_unlisted (k : Key) :
    k.lifetime = .unlisted ↔ k = .webhookDeliveryBacklog ∨ ∃ id, k = .fleetGrantRotation id := by
  cases k <;> simp [Key.lifetime]

theorem Db.live_of_mem_managedKeys (h : k ∈ db.managedKeys now) :
    ∃ e, db.entry now k = some e := by
  obtain ⟨v, hv⟩ := (Keyspace.mem_keys db now k).mp (List.mem_of_mem_filter h)
  obtain ⟨d, hd⟩ := (Keyspace.get_eq_some_iff db now k v).mp hv
  exact ⟨_, hd⟩

theorem NoUnlisted.lifetime_ne (h : NoUnlisted db now) {e : Entry (Value k)}
    (he : db.entry now k = some e) : k.lifetime ≠ .unlisted := by
  intro hk
  have hget : db.get now k = some e.value := by
    unfold Keyspace.get
    rw [he]; rfl
  rcases (Key.lifetime_eq_unlisted k).mp hk with rfl | ⟨id, rfl⟩
  · rw [h.1] at hget
    cases hget
  · rw [h.2 id] at hget
    cases hget

/-- The unlisted keys are under the scanned prefixes. -/
theorem managed_unlisted (h : k.lifetime = .unlisted) :
    managedPatterns.any (startsWith k.text) = true := by
  have hauth : startsWith k.text "auth:" = true := by
    rcases (Key.lifetime_eq_unlisted k).mp h with rfl | ⟨id, rfl⟩
    · decide +kernel
    · rw [startsWith_iff, Key.text]
      exact ⟨"fleet-grant-rotation:" ++ id.text, by simp [Key.form, ← String.append_assoc]⟩
  simp [managedPatterns, hauth]

section

variable {db : Db} (hdb : ∀ k t e, db.entry t k = some e → Suited k e.deadline) {now : Nat}

include hdb

theorem covered_of_noUnlisted (h : NoUnlisted db now) : Covered db now := by
  have hlive : ∀ k ∈ db.managedKeys now, k.lifetime ≠ .unlisted ∧ k.Named ∧
      k.lifetime.Suits (db.deadline now k) := by
    intro k hk
    obtain ⟨e, he⟩ := Db.live_of_mem_managedKeys hk
    have hdeadline : db.deadline now k = e.deadline := by
      unfold Keyspace.deadline
      rw [he]; rfl
    rw [hdeadline]
    exact ⟨h.lifetime_ne he, hdb k now e he⟩
  constructor
  · intro k hk
    obtain ⟨hlisted, hnamed, _⟩ := hlive k hk
    rw [Key.policy_text hnamed]
    revert hlisted
    cases k.lifetime <;> simp [Lifetime.policy]
  · intro k hk hpolicy
    obtain ⟨_, hnamed, hsuits⟩ := hlive k hk
    rw [Key.policy_text hnamed] at hpolicy
    have hincluded : k.lifetime.included = true := by
      revert hpolicy
      cases k.lifetime <;> simp [Lifetime.policy, Lifetime.included]
    obtain ⟨f, hf, hallows, _⟩ := Key.family_text hnamed hincluded
    refine ⟨f, hf, fun hexpiry => ?_⟩
    rw [hallows]
    -- only a durable key refuses an expiry, and it has none
    by_cases hdurable : k.lifetime = .durable
    · rw [hsuits.1 hdurable] at hexpiry
      cases hexpiry
    · revert hdurable hincluded
      cases k.lifetime <;> simp [Lifetime.allowsExpiry, Lifetime.included]

theorem noUnlisted_of_covered (h : Covered db now) : NoUnlisted db now := by
  have hnone : ∀ k : Key, k.lifetime = .unlisted → db.get now k = none := by
    intro k hk
    cases hget : db.get now k with
    | none => rfl
    | some v =>
      obtain ⟨d, hd⟩ := (Keyspace.get_eq_some_iff db now k v).mp hget
      have hmem : k ∈ db.managedKeys now :=
        List.mem_filter.mpr ⟨(Keyspace.mem_keys db now k).mpr ⟨v, hget⟩, managed_unlisted hk⟩
      obtain ⟨policy, hpolicy⟩ := h.classified k hmem
      rw [Key.policy_text (hdb k now _ hd).1, hk] at hpolicy
      cases hpolicy
  exact ⟨hnone _ rfl, fun id => hnone _ rfl⟩

end

/-! ## Taking the backup -/

theorem includedKeys_eq (keys : List Key) (h : ∀ k ∈ keys, k.Named ∧ k.lifetime ≠ .unlisted) :
    includedKeys keys = .ok (keys.filter (·.lifetime.included)) := by
  induction keys with
  | nil => rfl
  | cons k keys ih =>
    obtain ⟨hnamed, hlisted⟩ := h k List.mem_cons_self
    unfold includedKeys
    rw [Key.policy_text hnamed, ih fun k' hk' => h k' (List.mem_cons_of_mem _ hk'),
      List.filter_cons]
    revert hlisted
    cases k.lifetime <;> simp [Lifetime.policy, Lifetime.included, bind, Except.bind, pure,
      Except.pure]

/-- The limits of a snapshot. -/
structure WithinLimits (encode : ∀ k, Value k → String) (db : Db) (now : Nat) : Prop where
  keys : (db.managedKeys now).length ≤ maxSnapshotKeys
  values : ∀ k v, db.get now k = some v → (encode k v).utf8ByteSize ≤ maxSnapshotValueBytes

section

variable {encode : ∀ k, Value k → String} {db : Db} {now : Nat}

/-- The record of a live key, as `storeRecord` answers it within the limits. -/
def recordOf (encode : ∀ k, Value k → String) (db : Db) (now : Nat) (k : Key) :
    Option StoreRecord :=
  (db.get now k).map fun value =>
    { key := k.text, value := encode k value, expiresAt := db.deadline now k }

theorem storeRecord_eq (h : WithinLimits encode db now) (k : Key) :
    storeRecord encode db now k = .ok (recordOf encode db now k) := by
  unfold storeRecord recordOf
  cases hget : db.get now k with
  | none => rfl
  | some v =>
    have hsize := h.values k v hget
    simp only [ensure, hsize, if_true]
    rfl

theorem mapM_storeRecord (h : WithinLimits encode db now) (keys : List Key) :
    keys.mapM (storeRecord encode db now) = .ok (keys.map (recordOf encode db now)) := by
  rw [mapM_eq_ok, List.forall₂_map_right_iff, List.forall₂_same]
  intro k _
  exact storeRecord_eq h k

/-- A state of listed, suited keys within the limits has a backup, and its records pass. -/
theorem export_of_noUnlisted (hdb : ∀ k t e, db.entry t k = some e → Suited k e.deadline)
    (hno : NoUnlisted db now) (hlimits : WithinLimits encode db now) :
    ∃ records, exportRecords encode db now = .ok (now, records) ∧ checkFamilies records = .ok () := by
  have hkeys : ∀ k ∈ db.managedKeys now, k.Named ∧ k.lifetime ≠ .unlisted := by
    intro k hk
    obtain ⟨e, he⟩ := Db.live_of_mem_managedKeys hk
    exact ⟨(hdb k now e he).1, hno.lifetime_ne he⟩
  refine ⟨(((db.managedKeys now).filter (·.lifetime.included)).map
    (recordOf encode db now)).filterMap id |>.insertionSort (·.key ≤ ·.key), ?_, ?_⟩
  · unfold exportRecords
    simp only [ensure, hlimits.keys, if_true, includedKeys_eq _ hkeys, mapM_storeRecord hlimits,
      bind, Except.bind, pure, Except.pure]
  · unfold checkFamilies
    rw [forEach_eq_ok]
    intro record hrecord
    rw [List.mem_insertionSort, List.mem_filterMap] at hrecord
    obtain ⟨o, ho, hsome⟩ := hrecord
    obtain ⟨k, hk, rfl⟩ := List.mem_map.mp ho
    obtain ⟨hmem, hincluded⟩ := List.mem_filter.mp hk
    obtain ⟨v, hv, rfl⟩ := Option.map_eq_some_iff.mp hsome
    obtain ⟨d, hd⟩ := (Keyspace.get_eq_some_iff db now k v).mp hv
    have hsuited := hdb k now _ hd
    have hdeadline : db.deadline now k = d := by
      unfold Keyspace.deadline
      rw [hd]; rfl
    rw [checkFamily_text hsuited.1 hincluded, hdeadline]
    exact hsuited.2

end

/-- In every state the store reaches, coverage fails exactly for the two families that no
    table lists; and a run that never calls their writers is covered throughout, so that a
    backup within the limits can be taken and its records pass. -/
theorem backup_coverage {ctx : StoreContext} (hctx : ctx.Digests) {calls : List StoreCall} {db : Db}
    (hrun : Run (StoreStep ctx) Keyspace.empty calls db)
    (hvalid : ∀ call ∈ calls, call.op.Valid) :
    (∀ now, Covered db now ↔ NoUnlisted db now) ∧
      ((∀ call ∈ calls, call.op.Listed) → ∀ now, Covered db now ∧
        ∀ encode, WithinLimits encode db now →
          ∃ records, exportRecords encode db now = .ok (now, records) ∧
            checkFamilies records = .ok ()) := by
  have hsuited := run_suited hctx hrun hvalid
  refine ⟨fun now => ⟨noUnlisted_of_covered hsuited, covered_of_noUnlisted hsuited⟩, ?_⟩
  intro hlisted now
  have hkept := run_listed hctx hrun hvalid hlisted
  have hnone : ∀ k : Key, k.lifetime = .unlisted → db.get now k = none := by
    intro k hk
    cases hget : db.get now k with
    | none => rfl
    | some v =>
      obtain ⟨d, hd⟩ := (Keyspace.get_eq_some_iff db now k v).mp hget
      exact absurd hk (hkept k now _ hd).1
  have hno : NoUnlisted db now := ⟨hnone _ rfl, fun id => hnone _ rfl⟩
  exact ⟨covered_of_noUnlisted hsuited hno, fun encode => export_of_noUnlisted hsuited hno⟩

/-! ### Sample runs -/

theorem sampleStore_digests : sampleStore.Digests := by
  have hne : ∀ head text : String, head ≠ "" → head ++ text ≠ "" := by
    intro head text hhead h
    exact hhead (String.append_eq_empty_iff.mp h).1
  exact ⟨fun text => hne "hex-" text (by decide), fun text => hne "digest-" text (by decide)⟩

def sampleCredential : String := "rfg_0123456789abcdef0123456789abcdef"

/-- A realm that pairs with Fleet. -/
def samplePairing : List StoreCall :=
  [⟨100, .createRealmPairing 1 "rfp_code" "realm" "https://fleet.example" ["realm.read"] 9⟩,
    ⟨101, .exchangeRealmPairing "rfp_code" "https://fleet.example" "fleet" 1 500 sampleCredential⟩]

theorem samplePairing_valid : ∀ call ∈ samplePairing, call.op.Valid := by
  simp [samplePairing, StoreOp.Valid, StoreOp.names]

theorem backup_coverage_pairing :
    (storeRun sampleStore samplePairing).managedKeys 102 =
        [.fleetGrantSecret ("digest-" ++ sampleCredential), .fleetGrant 500] ∧
      Covered (storeRun sampleStore samplePairing) 102 :=
  ⟨by decide +kernel,
    ((backup_coverage sampleStore_digests (run_storeRun sampleStore samplePairing)
      samplePairing_valid).2 (by simp [samplePairing, StoreOp.Listed]) 102).1⟩

/-- One webhook delivery. -/
def sampleDelivery : List StoreCall :=
  [⟨100, .putWebhookDelivery 7
    { id := 8, webhookId := "audit", eventSequence := 1, eventId := 6,
      eventType := "user.created", status := .pending, attemptCount := 0, responseStatus := none,
      latencyMilliseconds := 0, createdAt := 100, nextAttemptAt := some 100, completedAt := none,
      errorClass := "" }⟩]

/-- The grant of `samplePairing` gets another credential. -/
def sampleRotation : List StoreCall :=
  samplePairing ++ [⟨102, .rotateRealmFleetGrant 500 77
    "rfg_fedcba9876543210fedcba9876543210" "543210"⟩]

/-- One delivery, or one rotation, and no backup can be taken any more. -/
theorem backup_fails_on_unlisted_families :
    (∀ call ∈ sampleDelivery ++ sampleRotation, call.op.Valid) ∧
      exportRecords (fun _ _ => "") (storeRun sampleStore sampleDelivery) 101 =
        .error (.unknownFamily "auth:webhook-delivery-backlog") ∧
      exportRecords (fun _ _ => "") (storeRun sampleStore sampleRotation) 103 =
        .error (.unknownFamily ("auth:fleet-grant-rotation:" ++ Uuid.text 77)) ∧
      ¬ Covered (storeRun sampleStore sampleDelivery) 101 ∧
      ¬ Covered (storeRun sampleStore sampleRotation) 103 := by
  have hvalid : ∀ call ∈ sampleDelivery ++ sampleRotation, call.op.Valid := by
    simp [sampleDelivery, sampleRotation, samplePairing, StoreOp.Valid, StoreOp.names]
  refine ⟨hvalid, by decide +kernel, by decide +kernel, fun hcovered => ?_, fun hcovered => ?_⟩
  · have hsuited := run_suited sampleStore_digests (run_storeRun sampleStore sampleDelivery)
      fun call hcall => hvalid call (List.mem_append_left _ hcall)
    have hnone := (noUnlisted_of_covered hsuited hcovered).1
    exact absurd hnone (by decide +kernel)
  · have hsuited := run_suited sampleStore_digests (run_storeRun sampleStore sampleRotation)
      fun call hcall => hvalid call (List.mem_append_right _ hcall)
    have hnone := (noUnlisted_of_covered hsuited hcovered).2 77
    exact absurd hnone (by decide +kernel)

end RustyAuth
