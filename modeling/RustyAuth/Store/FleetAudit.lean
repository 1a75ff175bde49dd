/-
  The audit of the Fleet store.

  A mutation stores its audit record in the pipeline that makes the change, so nothing changes
  without one but a connection that is observed or given a staged credential, and an assignment
  epoch that is reserved.  Audit records are drawn new ids, and then stay as they are.
-/
import RustyAuth.Store.FleetSystem

namespace RustyAuth

open RustyAuth.Library

variable {db db' : Db} {c : Call} {ws : List Write}

/-- The audit record draws an id that none has ever had. -/
def DrawsAuditId (db : Db) (request : FleetRequest) : Prop :=
  db.get 0 (.fleetAudit request.call.auditId) = none

instance (db : Db) (request : FleetRequest) : Decidable (DrawsAuditId db request) :=
  inferInstanceAs (Decidable (_ = _))

/-- The records that also change outside of audited mutations. -/
def unaudited : Key → Prop
  | .fleetConnection _ | .fleetAssignmentEpoch _ => True
  | _ => False

/-! ## One call -/

/-- The pipeline stores the audit record of the call, and no other. -/
def AuditedBy (c : Call) (audit : MutationAudit) (ws : List Write) : Prop :=
  .set (.fleetAudit c.auditId) (audit.record c) ∈ ws ∧
    ∀ w ∈ ws, ∀ id, w.key = .fleetAudit id → w = .set (.fleetAudit c.auditId) (audit.record c)

theorem auditedBy_persist {resource : Write} {slugIndex : Option Write} {audit : MutationAudit}
    (hresource : ∀ id, resource.key ≠ .fleetAudit id)
    (hindex : ∀ w ∈ slugIndex, ∀ id, Command.key w ≠ .fleetAudit id) :
    AuditedBy c audit (persistFleetMutation c resource slugIndex audit) :=
  ⟨by simp [persistFleetMutation], forall_mem_persistFleetMutation.mpr
    ⟨⟨fun id h => absurd h (hresource id), fun w hw id h => absurd h (hindex w hw id)⟩, nofun,
      fun _ _ => rfl⟩⟩

theorem AuditedBy.append {audit : MutationAudit} (h : AuditedBy c audit ws) {front : List Write}
    (hfront : ∀ w ∈ front, ∀ id, w.key ≠ .fleetAudit id) : AuditedBy c audit (front ++ ws) :=
  ⟨List.mem_append_right _ h.1, List.forall_mem_append.mpr
    ⟨fun w hw id hkey => absurd hkey (hfront w hw id), h.2⟩⟩

theorem FleetEffect.audits {op : FleetOp} (h : FleetEffect db c op ws) :
    (∀ w ∈ ws, unaudited w.key) ∨ ∃ audit, AuditedBy c audit ws := by
  cases h with
  | nothing => exact Or.inl (List.forall_mem_nil _)
  | touchConnection => exact Or.inl (List.forall_mem_singleton.mpr trivial)
  | reserveAssignmentEpoch => exact Or.inl (List.forall_mem_singleton.mpr trivial)
  | recordRemoteMutation =>
    exact Or.inr ⟨_, List.mem_cons_self,
      List.forall_mem_cons.mpr ⟨fun _ _ => rfl, List.forall_mem_singleton.mpr nofun⟩⟩
  | completeConnection _ _ _ _ _ _ deletes =>
    refine Or.inr ⟨_, (auditedBy_persist (fun _ => Key.noConfusion) (by rintro w ⟨⟩)).append ?_⟩
    rcases deletes with rfl | rfl <;> simp [Command.key]
  | _ =>
    exact Or.inr ⟨_, auditedBy_persist (fun _ => Key.noConfusion)
      (by rintro w ⟨⟩ <;> exact fun _ => Key.noConfusion)⟩

/-- A call changes nothing but unaudited records, or it stores its audit record. -/
theorem audit_of_step {sha256Hex : String → String} {request : FleetRequest}
    (h : FleetStep sha256Hex db request db') {k : Key} {t : Nat} (hk : ¬ unaudited k)
    (hchanged : db'.get t k ≠ db.get t k) : ∃ audit : MutationAudit,
      db'.get t (.fleetAudit request.call.auditId) = some (audit.record request.call) := by
  obtain ⟨ws, hexec, rfl⟩ := h
  rcases (exec_effect hexec).audits with hws | ⟨audit, hmem, honly⟩
  · refine absurd (get_commit_of_forall_ne _ t _ _ _ fun w hw hkey => ?_) hchanged
    exact hk (hkey ▸ hws w hw)
  · exact ⟨audit, get_commit_set _ t _ _ (fun w hw hkey => honly w hw _ hkey) (Or.inl hmem)⟩

/-- An audit record stays as it is while others draw other ids. -/
theorem audit_kept {sha256Hex : String → String} {request : FleetRequest}
    (hstep : Restrict (FleetStep sha256Hex) DrawsAuditId db request db') {t : Nat} {id : Uuid}
    {record : FleetAuditRecord} (h : db.get t (.fleetAudit id) = some record) :
    db'.get t (.fleetAudit id) = some record := by
  obtain ⟨hdraws, ws, hexec, rfl⟩ := hstep
  rw [get_commit_of_forall_ne, h]
  intro w hw hkey
  rcases (exec_effect hexec).audits with hws | ⟨audit, -, honly⟩
  · have := hws w hw
    rw [← hkey] at this
    exact this
  · rw [honly w hw id hkey.symm] at hkey
    rw [Key.fleetAudit.inj hkey] at h
    cases hdraws.symm.trans (Keyspace.get_mono (Nat.zero_le t) h)

/-! ## Whole runs -/

end RustyAuth
