/-
  Giving and taking away Fleet roles.

  `upsertRoleBinding` and `revokeRoleBinding` are the two RPCs that write role bindings,
  from an authenticated operator on.  The revocation asks for dominance over the role
  the binding has; the upsert asks for dominance over the role it writes, and replaces
  whatever role the subject's binding had.

  * `bindings_keyed`: every binding of a reachable state is stored under its own id.
  * `dominates_iff`: when a call that takes effect dominates the binding it affects.
  * `ownerBinding_run`: what follows for the Owner bindings over a whole run.
-/
import RustyAuth.Rpc.OperatorAuth
import RustyAuth.Store.FleetSystem
import RustyAuth.Library.Integrity

namespace RustyAuth

open RustyAuth.Library

/-! ## The RPCs -/

inductive RoleRequest
  | upsert (operatorId : Uuid) (kind : FleetResourceKindRecord) (resourceId : Uuid)
      (role : FleetRoleRecord)
  | revoke (roleBindingId : Uuid)

/-- One call: the operator, the mutation context and the request. -/
structure RoleCall where
  actor : OperatorActor
  requestId : Uuid
  reason : String
  now : Nat
  newId : Uuid
  auditId : Uuid
  request : RoleRequest

/-- The store operation is made in the name of the operator. -/
def RoleCall.context (call : RoleCall) (reason : String) : Call where
  requestId := call.requestId
  operatorId := call.actor.userId
  reason := reason
  now := call.now
  newId := call.newId
  auditId := call.auditId

def upsertRoleBinding (db : Db) (call : RoleCall) (operatorId : Uuid)
    (kind : FleetResourceKindRecord) (resourceId : Uuid) (targetRole : FleetRoleRecord) :
    RpcResult (Committed FleetRoleBindingRecord) := do
  authorizeFleet db call.now call.actor .administer kind resourceId
  requireFleetRoleDominance db call.now call.actor kind resourceId targetRole
  let reason ← safeText call.reason "mutation.reason" 500 true
  fromStore (upsertFleetRoleBinding db (call.context reason) operatorId kind resourceId targetRole)

def revokeRoleBinding (db : Db) (call : RoleCall) (roleBindingId : Uuid) :
    RpcResult (Committed FleetRoleBindingRecord) := do
  let binding ← okOr (db.fleetRoleBinding call.now roleBindingId) notFound
  authorizeFleet db call.now call.actor .administer binding.resourceKind binding.resourceId
  requireFleetRoleDominance db call.now call.actor binding.resourceKind binding.resourceId
    binding.role
  let reason ← safeText call.reason "mutation.reason" 500 true
  fromStore (revokeFleetRoleBinding db (call.context reason) roleBindingId)

/-- The pipeline a call commits, or its error. -/
def RoleCall.exec (db : Db) (call : RoleCall) : RpcResult (List Write) :=
  match call.request with
  | .upsert operatorId kind resourceId role =>
      (·.2) <$> upsertRoleBinding db call operatorId kind resourceId role
  | .revoke roleBindingId => (·.2) <$> revokeRoleBinding db call roleBindingId

def RoleStep (db : Db) (call : RoleCall) (db' : Db) : Prop :=
  ∃ ws, call.exec db = .ok ws ∧ db' = commit call.now db ws

/-! ## Dominance -/

/-- The resource a call acts on. -/
def RoleCall.resource (db : Db) (call : RoleCall) : Option (FleetResourceKindRecord × Uuid) :=
  match call.request with
  | .upsert _ kind resourceId _ => some (kind, resourceId)
  | .revoke id => (db.fleetRoleBinding call.now id).map fun b => (b.resourceKind, b.resourceId)

/-- The role of the record a call writes. -/
def RoleCall.writtenRole (db : Db) (call : RoleCall) : Option FleetRoleRecord :=
  match call.request with
  | .upsert _ _ _ role => some role
  | .revoke id => (db.fleetRoleBinding call.now id).map (·.role)

/-- The live binding a call replaces or revokes. -/
def RoleCall.affected (db : Db) (call : RoleCall) : Option FleetRoleBindingRecord :=
  match call.request with
  | .upsert operatorId kind resourceId _ =>
      db.fleetRoleBindingForOperator call.now operatorId kind resourceId
  | .revoke id => (db.fleetRoleBinding call.now id).filter (·.revokedAt.isNone)

/-- The operator's role on the resource ranks at least as high as the role written and
    as the role the affected binding had. -/
def Dominates (db : Db) (call : RoleCall) : Prop :=
  ∃ kind id actorRole, call.resource db = some (kind, id) ∧
    actingRole db call.now call.actor kind id = .ok actorRole ∧
    (∀ role ∈ call.writtenRole db, fleetRoleRank actorRole ≤ fleetRoleRank role) ∧
    ∀ b ∈ call.affected db, fleetRoleRank actorRole ≤ fleetRoleRank b.role

/-- An upsert whose subject has no live binding on the resource above the operator's own
    role there. -/
def SubjectNotAbove (db : Db) (call : RoleCall) : Prop :=
  match call.request with
  | .upsert operatorId kind resourceId _ =>
      ∀ b ∈ db.fleetRoleBindingForOperator call.now operatorId kind resourceId,
        ∀ actorRole, actingRole db call.now call.actor kind resourceId = .ok actorRole →
          fleetRoleRank actorRole ≤ fleetRoleRank b.role
  | .revoke _ => True

variable {db db' : Db} {call : RoleCall} {role : FleetRoleRecord}
  {out : Committed FleetRoleBindingRecord} {c : Call}

theorem upsertRoleBinding_eq_ok {operatorId : Uuid} {kind : FleetResourceKindRecord}
    {resourceId : Uuid} (h : upsertRoleBinding db call operatorId kind resourceId role = .ok out) :
    ∃ actorRole reason, actingRole db call.now call.actor kind resourceId = .ok actorRole ∧
      fleetRoleRank actorRole ≤ fleetRoleRank role ∧
      upsertFleetRoleBinding db (call.context reason) operatorId kind resourceId role = .ok out := by
  simp only [upsertRoleBinding, requireFleetRoleDominance, bind_eq_ok, ensure_eq_ok,
    fromStore_eq_ok] at h
  obtain ⟨_, _, _, ⟨actorRole, hrole, hrank⟩, reason, _, hstore⟩ := h
  exact ⟨actorRole, reason, hrole, hrank, hstore⟩

theorem revokeRoleBinding_eq_ok {id : Uuid} (h : revokeRoleBinding db call id = .ok out) :
    ∃ binding actorRole reason, db.fleetRoleBinding call.now id = some binding ∧
      actingRole db call.now call.actor binding.resourceKind binding.resourceId = .ok actorRole ∧
      fleetRoleRank actorRole ≤ fleetRoleRank binding.role ∧
      revokeFleetRoleBinding db (call.context reason) id = .ok out := by
  simp only [revokeRoleBinding, requireFleetRoleDominance, bind_eq_ok, okOr_eq_ok, ensure_eq_ok,
    fromStore_eq_ok] at h
  obtain ⟨binding, found, _, _, _, ⟨actorRole, hrole, hrank⟩, reason, _, hstore⟩ := h
  exact ⟨binding, actorRole, reason, found, hrole, hrank, hstore⟩

/-- A call that returns dominates exactly when its subject is not above the operator: the
    role written is always checked, and so is the role a revocation takes away. -/
theorem dominates_iff {ws : List Write} (h : call.exec db = .ok ws) :
    Dominates db call ↔ SubjectNotAbove db call := by
  obtain ⟨actor, requestId, reason, now, newId, auditId, request⟩ := call
  cases request with
  | upsert operatorId kind resourceId role =>
    simp only [RoleCall.exec, map_eq_ok] at h
    obtain ⟨out, h, -⟩ := h
    obtain ⟨actorRole, _, hrole, hrank, -⟩ := upsertRoleBinding_eq_ok h
    constructor
    · rintro ⟨_, _, actorRole', hres, hrole', -, haffected⟩ b hb actorRole'' hrole''
      cases hres
      rw [hrole'] at hrole''
      cases hrole''
      exact haffected b hb
    · intro hsubject
      refine ⟨kind, resourceId, actorRole, rfl, hrole, ?_, fun b hb => hsubject b hb _ hrole⟩
      rintro role' ⟨⟩
      exact hrank
  | revoke id =>
    simp only [RoleCall.exec, map_eq_ok] at h
    obtain ⟨out, h, -⟩ := h
    obtain ⟨binding, actorRole, _, found, hrole, hrank, -⟩ := revokeRoleBinding_eq_ok h
    refine iff_of_true ⟨binding.resourceKind, binding.resourceId, actorRole, ?_, hrole, ?_, ?_⟩
      trivial
    · simp only [RoleCall.resource]
      rw [found]; rfl
    · intro role hmem
      simp only [RoleCall.writtenRole] at hmem
      rw [found] at hmem
      cases hmem
      exact hrank
    · intro b hmem
      simp only [RoleCall.affected] at hmem
      rw [found, Option.mem_def, Option.filter_eq_some_iff] at hmem
      obtain ⟨hb, -⟩ := hmem
      cases hb
      exact hrank

/-! ## Bindings are stored under their own id -/

def bindingLasting : Key → Prop
  | .fleetRoleBinding _ | .fleetRoleBindingSubject _ _ _ => True
  | _ => False

def bindingKeyed : ∀ k : Key, Value k → Prop
  | .fleetRoleBinding id, r => r.id = id
  | _, _ => True

/-- Bindings and their index never expire, and every binding has the id of its key. -/
def bindingDiscipline : Discipline Value where
  D := bindingLasting
  same _ _ _ := True
  same_refl _ _ := trivial
  ok _ := bindingKeyed
  ok_mono _ _ _ _ _ h := h

/-- A command that respects the discipline. -/
def KeyedWrite (w : Write) : Prop := w.Lasts bindingLasting ∧ w.Stores bindingKeyed

theorem keyed_persist {resource : Write} {slugIndex : Option Write} {audit : MutationAudit}
    (hresource : KeyedWrite resource) (hindex : ∀ w ∈ slugIndex, KeyedWrite w) :
    ∀ w ∈ persistFleetMutation c resource slugIndex audit, KeyedWrite w :=
  forall_mem_persistFleetMutation.mpr
    ⟨⟨hresource, hindex⟩, ⟨trivial, trivial⟩, ⟨trivial, trivial⟩⟩

theorem keyed_effect {op : FleetOp} {ws : List Write} (h : bindingDiscipline.Sound db)
    (he : FleetEffect db c op ws) : ∀ w ∈ ws, KeyedWrite w := by
  cases he with
  | nothing => intro w hw; cases hw
  | createOrganization | createProject | createEnvironment | bindRole =>
    refine keyed_persist ⟨trivial, by trivial⟩ ?_
    rintro w ⟨⟩
    exact ⟨trivial, trivial⟩
  | changeOrganization | changeProject | changeEnvironment | changeConnection =>
    refine keyed_persist ⟨trivial, trivial⟩ ?_
    rintro w ⟨⟩
  | beginConnection =>
    refine keyed_persist ⟨id, trivial⟩ ?_
    rintro w ⟨⟩
  | completeConnection attemptId connectionId r consumed audit change deletes =>
    rw [List.forall_mem_append]
    refine ⟨?_, keyed_persist ⟨trivial, trivial⟩ (by rintro w ⟨⟩)⟩
    rcases deletes with rfl | rfl
    · intro w hw; cases hw
    · exact List.forall_mem_singleton.mpr ⟨id, trivial⟩
  | touchConnection => exact List.forall_mem_singleton.mpr ⟨trivial, trivial⟩
  | reserveAssignmentEpoch => exact List.forall_mem_singleton.mpr ⟨id, trivial⟩
  | revokeRoleBinding id old r audit found same =>
    -- the record keeps its id, which is the key's by the invariant
    refine keyed_persist ⟨trivial, ?_⟩ (by rintro w ⟨⟩)
    exact same.trans (h.ok (.fleetRoleBinding id) c.now old found)
  | recordRemoteMutation =>
    exact List.forall_mem_cons.mpr
      ⟨⟨trivial, trivial⟩, List.forall_mem_singleton.mpr ⟨trivial, trivial⟩⟩

theorem bindings_keyed_step {sha256Hex : String → String} {request : FleetRequest}
    (h : bindingDiscipline.Sound db) (step : FleetStep sha256Hex db request db') :
    bindingDiscipline.Sound db' := by
  obtain ⟨ws, hexec, rfl⟩ := step
  have hkeyed := keyed_effect h (exec_effect hexec)
  refine h.commit (fun w hw => (hkeyed w hw).1) ?_ (fun w hw => (hkeyed w hw).2)
  exact fun w _ => w.stores_of_forall fun _ _ _ _ _ => trivial

theorem bindings_keyed {sha256Hex : String → String} {requests : List FleetRequest}
    (run : Run (FleetStep sha256Hex) Keyspace.empty requests db) : bindingDiscipline.Sound db := by
  refine run.invariant (I := bindingDiscipline.Sound) ?_ Discipline.sound_empty
  intro db request db' h step
  exact bindings_keyed_step h step

/-! ## Owner bindings over a run -/

/-- A live binding with the role Owner. -/
def OwnerBinding (db : Db) (now : Nat) (id : Uuid) (b : FleetRoleBindingRecord) : Prop :=
  db.fleetRoleBinding now id = some b ∧ b.role = .owner ∧ b.revokedAt = none

/-- The operator acts with a role below Owner on the resource of the call. -/
def BelowOwner (db : Db) (call : RoleCall) : Prop :=
  ∀ kind id, call.resource db = some (kind, id) →
    actingRole db call.now call.actor kind id ≠ .ok .owner

/-- The condition on a call of a run: an operator below Owner, a subject that is not above
    them, and an identifier for the new binding that is not in use. -/
structure Contained (db : Db) (call : RoleCall) : Prop where
  below : BelowOwner db call
  subject : SubjectNotAbove db call
  fresh : db.fleetRoleBinding call.now call.newId = none

/-- A role call is a step of the Fleet store. -/
theorem fleetStep_of_roleStep (sha256Hex : String → String) (step : RoleStep db call db') :
    ∃ request, FleetStep sha256Hex db request db' := by
  obtain ⟨ws, hexec, rfl⟩ := step
  cases hrequest : call.request with
  | upsert operatorId kind resourceId role =>
    simp only [RoleCall.exec, hrequest, map_eq_ok] at hexec
    obtain ⟨out, h, rfl⟩ := hexec
    obtain ⟨_, reason, -, -, hstore⟩ := upsertRoleBinding_eq_ok h
    exact ⟨⟨call.context reason, .upsertRoleBinding operatorId kind resourceId role⟩, out.2,
      (map_eq_ok _ _ _).mpr ⟨out, hstore, rfl⟩, rfl⟩
  | revoke id =>
    simp only [RoleCall.exec, hrequest, map_eq_ok] at hexec
    obtain ⟨out, h, rfl⟩ := hexec
    obtain ⟨_, _, reason, -, -, -, hstore⟩ := revokeRoleBinding_eq_ok h
    exact ⟨⟨call.context reason, .revokeRoleBinding id⟩, out.2,
      (map_eq_ok _ _ _).mpr ⟨out, hstore, rfl⟩, rfl⟩

theorem rank_pos (h : role ≠ .owner) : 0 < fleetRoleRank role := by
  cases role with
  | owner => exact absurd rfl h
  | _ => decide

theorem ne_owner_of_rank_le {r : FleetRoleRecord} (h : r ≠ .owner)
    (hle : fleetRoleRank r ≤ fleetRoleRank role) : role ≠ .owner := by
  rintro rfl
  exact absurd hle (Nat.not_le.mpr (rank_pos h))

/-- Writing a binding that is not a live Owner binding, over one that was not, changes no
    Owner binding. -/
theorem ownerBinding_commit (h : bindingDiscipline.Sound db) {id : Uuid}
    {r : FleetRoleBindingRecord} {slugIndex : Option Write} {audit : MutationAudit}
    (hindex : ∀ w ∈ slugIndex, ∀ id, .fleetRoleBinding id ≠ Command.key w)
    (hold : ∀ b, ¬ OwnerBinding db c.now id b) (hnew : ¬ (r.role = .owner ∧ r.revokedAt = none))
    (t : Nat) (id' : Uuid) (b : FleetRoleBindingRecord) :
    OwnerBinding (commit c.now db
        (persistFleetMutation c (.set (.fleetRoleBinding id) r) slugIndex audit)) t id' b ↔
      OwnerBinding db t id' b := by
  unfold OwnerBinding Db.fleetRoleBinding
  by_cases hid : id' = id
  · subst hid
    rw [get_commit_persist_self db c t r id fun w hw => hindex w hw id']
    refine iff_of_false ?_ ?_
    · rintro ⟨hr, hrole⟩
      cases hr
      exact hnew hrole
    · -- a lasting key reads the same at `t` and at the time of the call
      rintro ⟨hb, hrole⟩
      refine hold b ⟨?_, hrole⟩
      unfold Db.fleetRoleBinding
      rw [h.lasts.get_eq (k := .fleetRoleBinding id') trivial] at hb ⊢
      exact hb
  · have hne : Key.fleetRoleBinding id' ≠
        Command.key (V := Value) (.set (.fleetRoleBinding id) r) := by
      simpa [Command.key] using hid
    rw [get_commit_persist_of_ne (k := .fleetRoleBinding id') db c t (fun f => f) hne
      fun w hw => hindex w hw id']

theorem ownerBinding_upsert {operatorId : Uuid} {kind : FleetResourceKindRecord} {resourceId : Uuid}
    (hrequest : call.request = .upsert operatorId kind resourceId role)
    (h : bindingDiscipline.Sound db) (contained : Contained db call)
    (hout : upsertRoleBinding db call operatorId kind resourceId role = .ok out) (t : Nat)
    (id : Uuid) (b : FleetRoleBindingRecord) :
    OwnerBinding (commit call.now db out.2) t id b ↔ OwnerBinding db t id b := by
  obtain ⟨actorRole, reason, hrole, hrank, hstore⟩ := upsertRoleBinding_eq_ok hout
  have hactor : actorRole ≠ .owner := by
    rintro rfl
    exact contained.below kind resourceId (by rw [RoleCall.resource, hrequest]) hrole
  have hwritten : role ≠ .owner := ne_owner_of_rank_le hactor hrank
  have hsubject : ∀ b ∈ db.fleetRoleBindingForOperator call.now operatorId kind resourceId,
      b.role ≠ .owner := by
    intro b hb
    have hs := contained.subject
    rw [SubjectNotAbove, hrequest] at hs
    exact ne_owner_of_rank_le hactor (hs b hb actorRole hrole)
  obtain ⟨r, ws⟩ := out
  simp only [upsertFleetRoleBinding, replayOr_eq_ok, bind_eq_ok, ensure_eq_ok, pure_eq_ok,
    Prod.mk.injEq, exists_const] at hstore
  obtain ⟨_, _, _, rfl⟩ | ⟨-, -, record, hrecord, audit, -, rfl, rfl⟩ := hstore
  · exact Iff.rfl
  have hkey : ∀ w ∈ some (Command.set (V := Value)
      (.fleetRoleBindingSubject operatorId kind resourceId) record.id), ∀ id,
      .fleetRoleBinding id ≠ Command.key w := by
    rintro w ⟨⟩ id
    simp [Command.key]
  unfold upsertedBinding at hrecord
  split at hrecord
  · -- the subject's binding is taken into use again, with the new role
    rename_i id₀ indexed
    simp only [bind_eq_ok, okOr_eq_ok, pure_eq_ok] at hrecord
    obtain ⟨old, found, rfl⟩ := hrecord
    have hid : old.id = id₀ := h.ok (.fleetRoleBinding id₀) call.now old found
    refine ownerBinding_commit h (c := call.context reason) hkey ?_ (fun hr => hwritten hr.1) t id b
    rintro b ⟨hb, hbrole, hlive⟩
    have hfound : db.fleetRoleBinding call.now old.id = some old := by
      rw [hid]; exact found
    obtain rfl : old = b := Option.some.inj (hfound.symm.trans hb)
    refine hsubject old ?_ hbrole
    rw [Db.fleetRoleBindingForOperator, show db.get call.now _ = some id₀ from indexed]
    exact Option.filter_eq_some_iff.mpr ⟨found, by rw [hlive]; rfl⟩
  · rw [pure_eq_ok] at hrecord
    subst hrecord
    refine ownerBinding_commit h (c := call.context reason) hkey ?_ (fun hr => hwritten hr.1) t id b
    rintro b ⟨hb, -⟩
    exact absurd (contained.fresh.symm.trans hb) (by simp)

theorem ownerBinding_revoke {bindingId : Uuid} (hrequest : call.request = .revoke bindingId)
    (h : bindingDiscipline.Sound db) (contained : Contained db call)
    (hout : revokeRoleBinding db call bindingId = .ok out) (t : Nat) (id : Uuid)
    (b : FleetRoleBindingRecord) :
    OwnerBinding (commit call.now db out.2) t id b ↔ OwnerBinding db t id b := by
  obtain ⟨binding, actorRole, reason, found, hrole, hrank, hstore⟩ := revokeRoleBinding_eq_ok hout
  have hactor : actorRole ≠ .owner := by
    rintro rfl
    refine contained.below binding.resourceKind binding.resourceId ?_ hrole
    simp only [RoleCall.resource, hrequest]
    rw [found]; rfl
  have hbinding : binding.role ≠ .owner := ne_owner_of_rank_le hactor hrank
  obtain ⟨r, ws⟩ := out
  simp only [revokeFleetRoleBinding, replayOr_eq_ok, bind_eq_ok, okOr_eq_ok, pure_eq_ok,
    Prod.mk.injEq] at hstore
  obtain ⟨_, _, _, rfl⟩ | ⟨-, old, found', audit, -, rfl, rfl⟩ := hstore
  · exact Iff.rfl
  obtain rfl : binding = old := Option.some.inj (found.symm.trans found')
  refine ownerBinding_commit h (c := call.context reason) (by rintro w ⟨⟩) ?_ ?_ t id b
  · rintro b ⟨hb, hbrole, -⟩
    obtain rfl : binding = b := Option.some.inj (found.symm.trans hb)
    exact hbinding hbrole
  · rintro ⟨hr, -⟩
    split at hr <;> exact hbinding hr

/-- One contained call changes no Owner binding. -/
theorem ownerBinding_step (h : bindingDiscipline.Sound db) (contained : Contained db call)
    (step : RoleStep db call db') (t : Nat) (id : Uuid) (b : FleetRoleBindingRecord) :
    OwnerBinding db' t id b ↔ OwnerBinding db t id b := by
  obtain ⟨ws, hexec, rfl⟩ := step
  cases hrequest : call.request with
  | upsert operatorId kind resourceId role =>
    simp only [RoleCall.exec, hrequest, map_eq_ok] at hexec
    obtain ⟨out, hout, rfl⟩ := hexec
    exact ownerBinding_upsert hrequest h contained hout t id b
  | revoke bindingId =>
    simp only [RoleCall.exec, hrequest, map_eq_ok] at hexec
    obtain ⟨out, hout, rfl⟩ := hexec
    exact ownerBinding_revoke hrequest h contained hout t id b

/-- A run of contained calls changes no Owner binding. -/
theorem ownerBinding_run {calls : List RoleCall}
    (run : Run (Restrict RoleStep Contained) db calls db') (h : bindingDiscipline.Sound db) :
    ∀ t id b, OwnerBinding db' t id b ↔ OwnerBinding db t id b := by
  induction run with
  | nil db => exact fun _ _ _ => Iff.rfl
  | cons hstep _ ih =>
    obtain ⟨contained, step⟩ := hstep
    intro t id b
    obtain ⟨_, hfleet⟩ := fleetStep_of_roleStep (fun text => text) step
    exact (ih (bindings_keyed_step h hfleet) t id b).trans
      (ownerBinding_step h contained step t id b)

/-- From every reachable Fleet state: a call that takes effect dominates exactly when the
    subject of the upsert has no live binding above the operator, and in every run of
    calls that meet this, made by operators below Owner, no Owner binding is created,
    changed or removed. -/
theorem role_dominance (sha256Hex : String → String) (requests : List FleetRequest) (db : Db)
    (reach : Run (FleetStep sha256Hex) Keyspace.empty requests db) :
    (∀ call ws, call.exec db = .ok ws → ws ≠ [] →
      (Dominates db call ↔ SubjectNotAbove db call)) ∧
    ∀ calls db', Run (Restrict RoleStep Contained) db calls db' →
      ∀ t id b, OwnerBinding db' t id b ↔ OwnerBinding db t id b :=
  ⟨fun _ _ h _ => dominates_iff h, fun _ _ run => ownerBinding_run run (bindings_keyed reach)⟩

/-! ### An organization with an Owner and an Administrator -/

/-- Operator 7 is Owner and operator 8 Administrator of the organization. -/
def sampleRoleRequests : List FleetRequest :=
  sampleHierarchy ++
    [⟨sampleCall 4, .upsertRoleBinding 7 .organization 101 .owner⟩,
      ⟨sampleCall 5, .upsertRoleBinding 8 .organization 101 .administrator⟩]

def sampleRoles : Db :=
  (execAll (fleetApply id) Keyspace.empty sampleRoleRequests).getD Keyspace.empty

theorem run_sampleRoles : Run (FleetStep id) Keyspace.empty sampleRoleRequests sampleRoles := by
  refine run_of_execAll (fun _ _ _ => fleetStep_of_fleetApply) ?_
  have hsome : (execAll (fleetApply id) Keyspace.empty sampleRoleRequests).isSome := by
    decide +kernel
  obtain ⟨db, hdb⟩ := Option.isSome_iff_exists.mp hsome
  rw [sampleRoles, hdb, Option.getD_some]

/-- Operator 8, whose global role is Support, gives `operatorId` the role Auditor. -/
def sampleRoleCall (operatorId : Uuid) : RoleCall where
  actor := ⟨8, .support, some 1006⟩
  requestId := 6
  reason := "rotation of duties"
  now := 1006
  newId := 106
  auditId := 206
  request := .upsert operatorId .organization 101 .auditor

theorem actingRole_sampleRoles :
    actingRole sampleRoles 1006 ⟨8, .support, some 1006⟩ .organization 101 =
      .ok .administrator := by
  decide +kernel

/-- The Owner's binding. -/
def sampleOwner : FleetRoleBindingRecord where
  id := 104
  operatorId := 7
  resourceKind := .organization
  resourceId := 101
  role := .owner
  createdBy := 1
  createdAt := 1004
  revokedBy := none
  revokedAt := none

/-- The Administrator gives an operator without a binding a role: the call takes effect
    and dominates. -/
theorem role_dominance_sampleRoles : ∃ ws, (sampleRoleCall 9).exec sampleRoles = .ok ws ∧
    ws ≠ [] ∧ Dominates sampleRoles (sampleRoleCall 9) := by
  have hsome : ∃ ws ∈ ((sampleRoleCall 9).exec sampleRoles).toOption, ws ≠ [] := by
    decide +kernel
  obtain ⟨ws, hws, hne⟩ := hsome
  have hexec : (sampleRoleCall 9).exec sampleRoles = .ok ws :=
    (toOption_eq_some _ _).mp hws
  refine ⟨ws, hexec, hne, ?_⟩
  refine ((role_dominance id sampleRoleRequests sampleRoles run_sampleRoles).1 _ ws hexec hne).mpr ?_
  intro b hb
  rw [show sampleRoles.fleetRoleBindingForOperator _ 9 .organization 101 = none by decide +kernel]
    at hb
  cases hb

/-- The Administrator demotes the Owner: the call takes effect, does not dominate the
    binding it replaces, and the Owner binding is gone. -/
theorem upsert_demotes_owner : ∃ requests db call ws,
    Run (FleetStep id) Keyspace.empty requests db ∧ call.exec db = .ok ws ∧ ws ≠ [] ∧
      BelowOwner db call ∧ ¬ Dominates db call ∧ (∃ b, OwnerBinding db call.now 104 b) ∧
      ∀ b, ¬ OwnerBinding (commit call.now db ws) call.now 104 b := by
  have hsome : ∃ ws ∈ ((sampleRoleCall 7).exec sampleRoles).toOption, ws ≠ [] ∧
      (Db.fleetRoleBinding (commit 1006 sampleRoles ws) 1006 104).map (·.role) = some .auditor := by
    decide +kernel
  have howner : sampleRoles.fleetRoleBindingForOperator 1006 7 .organization 101 =
      some sampleOwner := by decide +kernel
  obtain ⟨ws, hws, hne, hafter⟩ := hsome
  have hexec := (toOption_eq_some _ _).mp hws
  refine ⟨sampleRoleRequests, sampleRoles, sampleRoleCall 7, ws, run_sampleRoles, hexec, hne, ?_,
    ?_, ⟨sampleOwner, by decide +kernel, rfl, rfl⟩, ?_⟩
  · rintro kind id ⟨⟩ hrole
    cases actingRole_sampleRoles.symm.trans hrole
  · rw [dominates_iff hexec]
    intro hsubject
    exact absurd (hsubject sampleOwner howner .administrator actingRole_sampleRoles) (by decide)
  · rintro b ⟨hb, hrole, -⟩
    rw [show Db.fleetRoleBinding (commit 1006 sampleRoles ws) 1006 104 = some b from hb] at hafter
    cases (Option.some.inj hafter).symm.trans hrole

end RustyAuth
