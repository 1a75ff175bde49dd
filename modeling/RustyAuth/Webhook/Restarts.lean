/-
  Reconciliation across restarts.

  What a run has achieved is a matter of its phase (`PhaseHolds`): the webhooks that are to go are
  listed or gone, and those that were turned to are as configured.  What it leaves alone is a matter
  of each operation (`Touched`): no dashboard webhook, and of a webhook that is desired neither
  secret nor cursor.  So a run that completes leaves what it desires, wherever the runs before it
  were cut off (`reconciliation_exact`).
-/
import RustyAuth.Webhook.Reconciliation
import RustyAuth.Library.Runs

namespace RustyAuth

open RustyAuth.Library

/-! ## What a run has achieved -/

/-- The record is as the configuration wants it. -/
structure WebhookConfig.Matches (config : WebhookConfig) (record : WebhookRecord) : Prop where
  id : record.id = config.id
  name : record.name = config.name
  url : record.url = config.endpoint
  status : record.status = config.status
  eventTypes : record.eventTypes = config.eventTypes
  source : record.managementSource = .configuration

theorem WebhookConfig.matches_create (config : WebhookConfig) (timestamp : Nat)
    (sealed : EncryptedWebhookSecret) (secret : String) :
    config.Matches (config.create timestamp sealed secret) :=
  ⟨rfl, rfl, rfl, rfl, rfl, rfl⟩

theorem WebhookConfig.matches_update {config : WebhookConfig} {record : WebhookRecord}
    (timestamp : Nat) (hid : record.id = config.id)
    (hsource : record.managementSource = .configuration) :
    config.Matches (config.update timestamp record) :=
  ⟨hid, rfl, rfl, rfl, rfl, hsource⟩

namespace HookView

/-- A webhook of the configuration has this identifier. -/
def Configured (view : HookView) (id : String) : Prop :=
  ∃ record, view.hook id = some record ∧ record.managementSource = .configuration

def Gone (view : HookView) (id : String) : Prop := view.hook id = none ∧ view.cursor id = none

def InPlace (view : HookView) (config : WebhookConfig) : Prop :=
  ∃ record, view.hook config.id = some record ∧ config.Matches record

/-- No dashboard webhook has this identifier. -/
def Free (view : HookView) (id : String) : Prop :=
  ∀ record, view.hook id = some record → record.managementSource = .configuration

end HookView

/-- Of the webhooks that the run has found, those that are to go are gone or still listed. -/
structure Clearing (start view : HookView) (desired : List WebhookConfig)
    (listed : List WebhookRecord) : Prop where
  only : ∀ id record, view.hook id = some record → record.managementSource = .configuration →
    id ∈ desired.map (·.id) ∨ record ∈ listed
  gone : ∀ id, start.Configured id → id ∉ desired.map (·.id) → view.Gone id ∨
    ∃ record ∈ listed, record.id = id ∧ record.managementSource = .configuration
  free : ∀ record ∈ listed, record.managementSource = .configuration → view.Free record.id

/-- All but the rest of the configured webhooks are in place. -/
def Turned (view : HookView) (desired rest : List WebhookConfig) : Prop :=
  ∃ turned, desired = turned ++ rest ∧ ∀ config ∈ turned, view.InPlace config

/-- The record is for the next configured webhook, and keeps what is stored of it. -/
structure Turning (view : HookView) (desired : List WebhookConfig) (record : WebhookRecord)
    (config : WebhookConfig) (rest : List WebhookConfig) : Prop where
  turned : Turned view desired (config :: rest)
  wanted : config.Matches record
  keeps : ∀ old, view.hook config.id = some old →
    old.secret = record.secret ∧ old.createdAt = record.createdAt

def PhaseHolds (start : HookView) (desired : List WebhookConfig) (view : HookView) :
    ReconcilePhase → Prop
  | .stopped => True
  | .listing => view = start
  | .removing listed => Clearing start view desired listed
  | .removed listed => Clearing start view desired listed
  | .configuring rest => Clearing start view desired [] ∧ Turned view desired rest
  | .creating record rest => Clearing start view desired [] ∧
      ∃ config, Turning view desired record config rest ∧ view.hook config.id = none
  | .starting record _ rest => Clearing start view desired [] ∧
      ∃ config, Turning view desired record config rest ∧ view.hook config.id = none
  | .putting record rest => Clearing start view desired [] ∧
      ∃ config, Turning view desired record config rest
  | .stored rest => Clearing start view desired [] ∧ Turned view desired rest
  | .done => Clearing start view desired [] ∧ ∀ config ∈ desired, view.InPlace config

section

variable {start view view' : HookView} {desired rest : List WebhookConfig}
  {listed : List WebhookRecord} {existing record : WebhookRecord} {config : WebhookConfig}
  {phase phase' : ReconcilePhase}

theorem clearing_listed (hnamed : view.Named)
    (hlisted : ∀ record, record ∈ listed ↔ view.hook record.id = some record) :
    Clearing view view desired listed where
  only := by
    intro id record hget _
    refine Or.inr ((hlisted record).mpr ?_)
    rwa [hnamed id record hget]
  gone := by
    rintro id ⟨record, hget, hsource⟩ _
    refine Or.inr ⟨record, (hlisted record).mpr ?_, hnamed id record hget, hsource⟩
    rwa [hnamed id record hget]
  free := by
    intro record hmem hsource stored hget
    rw [(hlisted record).mp hmem] at hget
    cases hget
    exact hsource

theorem Clearing.skip (h : Clearing start view desired (existing :: listed)) (hnamed : view.Named)
    (hkeep : existing.managementSource = .configuration → existing.id ∈ desired.map (·.id)) :
    Clearing start view desired listed where
  only := by
    intro id record hget hsource
    rcases h.only id record hget hsource with hdesired | hmem
    · exact Or.inl hdesired
    · rcases List.mem_cons.mp hmem with rfl | hmem
      · rw [← hnamed id record hget]
        exact Or.inl (hkeep hsource)
      · exact Or.inr hmem
  gone := by
    intro id hstart hextra
    rcases h.gone id hstart hextra with hgone | ⟨record, hmem, rfl, hsource⟩
    · exact Or.inl hgone
    · rcases List.mem_cons.mp hmem with rfl | hmem
      · exact absurd (hkeep hsource) hextra
      · exact Or.inr ⟨record, hmem, rfl, hsource⟩
  free := fun record hmem => h.free record (List.mem_cons_of_mem _ hmem)

theorem Clearing.remove (h : Clearing start view desired (existing :: listed))
    (hnamed : view.Named) : Clearing start (view.remove existing.id) desired listed where
  only := by
    intro id record hget hsource
    rw [HookView.remove_hook] at hget
    split at hget
    · cases hget
    · next hne =>
      rcases h.only id record hget hsource with hdesired | hmem
      · exact Or.inl hdesired
      · rcases List.mem_cons.mp hmem with rfl | hmem
        · exact absurd (hnamed id record hget).symm hne
        · exact Or.inr hmem
  gone := by
    intro id hstart hextra
    by_cases hid : id = existing.id
    · exact Or.inl ⟨by rw [HookView.remove_hook, if_pos hid],
        by rw [HookView.remove_cursor, if_pos hid]⟩
    · rcases h.gone id hstart hextra with hgone | ⟨record, hmem, rfl, hsource⟩
      · exact Or.inl ⟨by rw [HookView.remove_hook, if_neg hid, hgone.1],
          by rw [HookView.remove_cursor, if_neg hid, hgone.2]⟩
      · rcases List.mem_cons.mp hmem with rfl | hmem
        · exact absurd rfl hid
        · exact Or.inr ⟨record, hmem, rfl, hsource⟩
  free := by
    intro record hmem hsource stored hget
    rw [HookView.remove_hook] at hget
    split at hget
    · cases hget
    · exact h.free record (List.mem_cons_of_mem _ hmem) hsource stored hget

/-- What is done to a desired webhook brings back none that is gone. -/
theorem Clearing.setCursor (h : Clearing start view desired []) {id : String} (sequence : Nat)
    (hid : id ∈ desired.map (·.id)) : Clearing start (view.setCursor id sequence) desired [] where
  only := h.only
  gone := by
    intro other hstart hextra
    rcases h.gone other hstart hextra with hgone | ⟨record, hmem, _⟩
    · have hne : other ≠ id := fun heq => hextra (heq ▸ hid)
      exact Or.inl ⟨hgone.1, by rw [HookView.setCursor_cursor, if_neg hne, hgone.2]⟩
    · cases hmem
  free := h.free

theorem Clearing.put (h : Clearing start view desired [])
    (hid : record.id ∈ desired.map (·.id)) : Clearing start (view.put record) desired [] where
  only := by
    intro id stored hget hsource
    rw [HookView.put_hook] at hget
    split at hget
    · next heq => exact Or.inl (heq ▸ hid)
    · exact h.only id stored hget hsource
  gone := by
    intro other hstart hextra
    rcases h.gone other hstart hextra with hgone | ⟨record, hmem, _⟩
    · have hne : other ≠ record.id := fun heq => hextra (heq ▸ hid)
      exact Or.inl ⟨by rw [HookView.put_hook, if_neg hne, hgone.1], hgone.2⟩
    · cases hmem
  free := by
    intro stored hmem
    cases hmem

theorem Turned.config_mem (h : Turned view desired (config :: rest)) :
    config.id ∈ desired.map (·.id) := by
  obtain ⟨turned, rfl, _⟩ := h
  exact List.mem_map_of_mem (List.mem_append_right _ List.mem_cons_self)

/-- With its record stored, the webhook is in place, and the ones before it still are. -/
theorem Turning.put (h : Turning view desired record config rest)
    (hdistinct : (desired.map (·.id)).Nodup) : Turned (view.put record) desired rest := by
  obtain ⟨turned, rfl, hplaced⟩ := h.turned
  refine ⟨turned ++ [config], by rw [List.append_assoc]; rfl, fun other hother => ?_⟩
  unfold HookView.InPlace
  rcases List.mem_append.mp hother with hother | hother
  · have hne : other.id ≠ record.id := by
      rw [List.map_append, List.map_cons] at hdistinct
      rw [h.wanted.id]
      exact (List.nodup_append.mp hdistinct).2.2 _ (List.mem_map_of_mem hother) _
        List.mem_cons_self
    obtain ⟨stored, hget, hmatches⟩ := hplaced other hother
    exact ⟨stored, by rw [HookView.put_hook, if_neg hne, hget], hmatches⟩
  · cases List.mem_singleton.mp hother
    exact ⟨record, by rw [HookView.put_hook, if_pos h.wanted.id.symm], h.wanted⟩

/-- Every move keeps what holds of the phase. -/
theorem ReconcileMove.phaseHolds (h : ReconcileMove desired view phase view' phase')
    (hnamed : view.Named) (hdistinct : (desired.map (·.id)).Nodup)
    (hphase : PhaseHolds start desired view phase) : PhaseHolds start desired view' phase' := by
  cases h with
  | failed => trivial
  | listed hlisted =>
    cases hphase
    exact clearing_listed hnamed hlisted
  | skipped hkeep => exact Clearing.skip hphase hnamed hkeep
  | removed hsource hextra => exact Clearing.remove hphase hnamed
  | removalLogged => exact hphase
  | cleared => exact ⟨hphase, [], rfl, fun _ hmem => absurd hmem List.not_mem_nil⟩
  | found now hfound hsource =>
    refine ⟨hphase.1, _, hphase.2, WebhookConfig.matches_update now (hnamed _ _ hfound) hsource,
      fun old hold => ?_⟩
    rw [hfound] at hold
    cases hold
    exact ⟨rfl, rfl⟩
  | missing now sealed secret hmissing =>
    refine ⟨hphase.1, _, ⟨hphase.2, WebhookConfig.matches_create _ _ _ _, fun old hold => ?_⟩,
      hmissing⟩
    rw [hmissing] at hold
    cases hold
  | sequenceRead sequence => exact hphase
  | cursorSet =>
    obtain ⟨hclearing, config, hturning, _⟩ := hphase
    refine ⟨hclearing.setCursor _ ?_, config, hturning.turned, hturning.wanted, hturning.keeps⟩
    rw [hturning.wanted.id]
    exact hturning.turned.config_mem
  | put =>
    obtain ⟨hclearing, config, hturning⟩ := hphase
    refine ⟨hclearing.put ?_, hturning.put hdistinct⟩
    rw [hturning.wanted.id]
    exact hturning.turned.config_mem
  | putLogged => exact hphase
  | finished =>
    obtain ⟨hclearing, turned, heq, hplaced⟩ := hphase
    rw [List.append_nil] at heq
    exact ⟨hclearing, heq ▸ hplaced⟩

end

/-! ## What a run leaves alone -/

/-- The effect of an operation: at most one webhook is touched, and never a dashboard webhook. -/
inductive Touched (desired : List WebhookConfig) (view : HookView) : HookView → Prop
  | none : Touched desired view view
  | removed (id : String) (hfree : view.Free id) (hextra : id ∉ desired.map (·.id)) :
      Touched desired view (view.remove id)
  | started (id : String) (sequence : Nat) (hmissing : view.hook id = none) :
      Touched desired view (view.setCursor id sequence)
  | put (record : WebhookRecord) (hid : record.id ∈ desired.map (·.id))
      (hsource : record.managementSource = .configuration)
      (hkeeps : ∀ old, view.hook record.id = some old →
        old.secret = record.secret ∧ old.createdAt = record.createdAt) :
      Touched desired view (view.put record)

/-- Dashboard webhooks and their cursors are what they were. -/
structure DashboardsKept (first view : HookView) : Prop where
  hooks : ∀ id record, record.managementSource = .dashboard →
    (view.hook id = some record ↔ first.hook id = some record)
  cursors : ∀ id record, first.hook id = some record → record.managementSource = .dashboard →
    view.cursor id = first.cursor id

/-- A webhook of the configuration has this secret, time of creation and cursor. -/
def Keeps (id : String) (record : WebhookRecord) (cursor : Option Nat) (view : HookView) : Prop :=
  ∃ record', view.hook id = some record' ∧ record'.managementSource = .configuration ∧
    record'.secret = record.secret ∧ record'.createdAt = record.createdAt ∧ view.cursor id = cursor

section

variable {first start view view' : HookView} {desired : List WebhookConfig}
  {phase phase' : ReconcilePhase} {id : String} {record : WebhookRecord} {cursor : Option Nat}

theorem ReconcileMove.touched (h : ReconcileMove desired view phase view' phase')
    (hphase : PhaseHolds start desired view phase) : Touched desired view view' := by
  cases h with
  | removed hsource hextra =>
    exact .removed _ (Clearing.free hphase _ List.mem_cons_self hsource) hextra
  | cursorSet =>
    obtain ⟨_, config, hturning, hmissing⟩ := hphase
    refine .started _ _ ?_
    rw [hturning.wanted.id]
    exact hmissing
  | put =>
    obtain ⟨_, config, hturning⟩ := hphase
    have hid := hturning.wanted.id
    exact .put _ (hid ▸ hturning.turned.config_mem) hturning.wanted.source
      (hid ▸ hturning.keeps)
  | _ => exact .none

theorem Touched.free (h : Touched desired view view') (hfree : view.Free id) : view'.Free id := by
  cases h with
  | none => exact hfree
  | removed other =>
    intro stored hget
    rw [HookView.remove_hook] at hget
    split at hget
    · cases hget
    · exact hfree stored hget
  | started => exact hfree
  | put other _ hsource _ =>
    intro stored hget
    rw [HookView.put_hook] at hget
    split at hget
    · cases hget
      exact hsource
    · exact hfree stored hget

/-- Where no dashboard webhook is, a change is none of theirs. -/
theorem HookView.Free.ne {other : String} (hfree : view.Free other)
    (hget : view.hook id = some record) (hsource : record.managementSource = .dashboard) :
    id ≠ other := by
  rintro rfl
  rw [hfree record hget] at hsource
  cases hsource

theorem Touched.dashboards (h : Touched desired view view')
    (hfree : ∀ config ∈ desired, view.Free config.id) (hkept : DashboardsKept first view) :
    DashboardsKept first view' := by
  cases h with
  | none => exact hkept
  | removed other hother =>
    constructor
    · intro id record hsource
      rw [HookView.remove_hook, ← hkept.hooks id record hsource]
      constructor
      · intro hget
        split at hget
        · cases hget
        · exact hget
      · intro hget
        rwa [if_neg (hother.ne hget hsource)]
    · intro id record hget hsource
      rw [HookView.remove_cursor,
        if_neg (hother.ne ((hkept.hooks id record hsource).mpr hget) hsource)]
      exact hkept.cursors id record hget hsource
  | started other sequence hmissing =>
    have hother : view.Free other := by
      intro stored hget
      rw [hmissing] at hget
      cases hget
    refine ⟨hkept.hooks, fun id record hget hsource => ?_⟩
    rw [HookView.setCursor_cursor,
      if_neg (hother.ne ((hkept.hooks id record hsource).mpr hget) hsource)]
    exact hkept.cursors id record hget hsource
  | put other hid hconfigured =>
    have hother : view.Free other.id := by
      obtain ⟨config, hmem, heq⟩ := List.mem_map.mp hid
      exact heq ▸ hfree config hmem
    refine ⟨fun id record hsource => ?_, hkept.cursors⟩
    rw [HookView.put_hook, ← hkept.hooks id record hsource]
    constructor
    · intro hget
      split at hget
      · cases hget
        rw [hconfigured] at hsource
        cases hsource
      · exact hget
    · intro hget
      rwa [if_neg (hother.ne hget hsource)]

/-- A desired webhook keeps its secret, its time of creation and its cursor. -/
theorem Touched.keeps (h : Touched desired view view') (hid : id ∈ desired.map (·.id))
    (hkeeps : Keeps id record cursor view) : Keeps id record cursor view' := by
  obtain ⟨stored, hget, hsource, hsecret, hcreated, hcursor⟩ := hkeeps
  cases h with
  | none => exact ⟨stored, hget, hsource, hsecret, hcreated, hcursor⟩
  | removed other _ hextra =>
    have hne : id ≠ other := fun heq => hextra (heq ▸ hid)
    refine ⟨stored, ?_, hsource, hsecret, hcreated, ?_⟩
    · rwa [HookView.remove_hook, if_neg hne]
    · rwa [HookView.remove_cursor, if_neg hne]
  | started other sequence hmissing =>
    have hne : id ≠ other := by
      rintro rfl
      rw [hmissing] at hget
      cases hget
    refine ⟨stored, hget, hsource, hsecret, hcreated, ?_⟩
    rwa [HookView.setCursor_cursor, if_neg hne]
  | put other _ hconfigured hsame =>
    by_cases heq : id = other.id
    · subst heq
      obtain ⟨hsecret', hcreated'⟩ := hsame stored hget
      refine ⟨other, ?_, hconfigured, hsecret'.symm.trans hsecret, hcreated'.symm.trans hcreated,
        hcursor⟩
      rw [HookView.put_hook, if_pos rfl]
    · refine ⟨stored, ?_, hsource, hsecret, hcreated, hcursor⟩
      rwa [HookView.put_hook, if_neg heq]

end

/-! ## Runs and restarts -/

/-- What holds at every time, from the first store on. -/
structure ReconcileInv (first : HookView) (s : Reconciler) : Prop where
  stored : HooksStored s.db
  distinct : (s.desired.map (·.id)).Nodup
  free : ∀ config ∈ s.desired, s.view.Free config.id
  dashboards : DashboardsKept first s.view
  phase : PhaseHolds s.start s.desired s.view s.phase

/-- A run that is complete has left what is desired, and no more. -/
structure Reconciled (s : Reconciler) : Prop where
  managed : ∀ id, s.view.Configured id ↔ id ∈ s.desired.map (·.id)
  inPlace : ∀ config ∈ s.desired, s.view.InPlace config
  /-- Of the webhooks that the run has found and that are not desired, nothing is left. -/
  removed : ∀ id, s.start.Configured id → id ∉ s.desired.map (·.id) → s.view.Gone id

section

variable {tenantId : String} {first : HookView} {db : Db} {s s' : Reconciler}
  {input : Nat × ReconcileAction}

theorem reconcileInv_over (hstored : HooksStored db) :
    ReconcileInv (db.hookView 0) (Reconciler.over db) where
  stored := hstored
  distinct := List.nodup_nil
  free := fun _ hmem => absurd hmem List.not_mem_nil
  dashboards := ⟨fun _ _ _ => Iff.rfl, fun _ _ _ _ => rfl⟩
  phase := trivial

/-- What a turn does: a restart, or an effect on the webhooks within the run. -/
theorem reconcileTurn_cases (h : ReconcileInv first s)
    (hturn : reconcileTurn tenantId s input = some s') :
    (∃ desired, input.2 = .restart desired ∧ s' = ⟨s.db, desired, .listing, s.db⟩) ∨
    s'.desired = s.desired ∧ s'.start = s.start ∧ HooksStored s'.db ∧
      Touched s.desired s.view s'.view ∧ PhaseHolds s'.start s'.desired s'.view s'.phase ∧
      (s.phase = .stopped → s'.phase = .stopped ∧ s'.view = s.view) := by
  obtain ⟨now, action⟩ := input
  cases action with
  | restart desired =>
    cases hturn
    exact Or.inl ⟨desired, rfl, rfl⟩
  | proceed draw =>
    obtain ⟨⟨db, phase⟩, hstep, rfl⟩ := Option.map_eq_some_iff.mp hturn
    obtain ⟨hstored, hmove⟩ := reconcileStep_move h.stored hstep
    refine Or.inr ⟨rfl, rfl, hstored, hmove.touched h.phase,
      hmove.phaseHolds h.stored.named h.distinct h.phase, fun hstopped => ?_⟩
    rw [hstopped] at hstep
    cases hstep
  | crash =>
    cases hturn
    exact Or.inr ⟨rfl, rfl, h.stored, .none, trivial, fun _ => ⟨rfl, rfl⟩⟩
  | other writes =>
    change (if _ then _ else _) = _ at hturn
    split at hturn
    · next hwrites =>
      cases hturn
      have hview : ∀ t, Db.hookView (commit now s.db writes) t = s.db.hookView t :=
        hookView_aside hwrites
      have hsame : Db.hookView (commit now s.db writes) 0 = s.view := hview 0
      refine Or.inr ⟨rfl, rfl, h.stored.of_view id hview h.stored.named, ?_, ?_,
        fun hstopped => ⟨hstopped, hsame⟩⟩
      · show Touched s.desired s.view (Db.hookView (commit now s.db writes) 0)
        rw [hsame]
        exact .none
      · show PhaseHolds s.start s.desired (Db.hookView (commit now s.db writes) 0) s.phase
        rw [hsame]
        exact h.phase
    · cases hturn

theorem ReconcileInv.turn (h : ReconcileInv first s) (hadmitted : Admitted s input)
    (hturn : reconcileTurn tenantId s input = some s') : ReconcileInv first s' := by
  rcases reconcileTurn_cases h hturn with ⟨desired, hinput, rfl⟩ |
    ⟨hdesired, _, hstored, htouched, hphase, _⟩
  · unfold Admitted at hadmitted
    rw [hinput] at hadmitted
    exact ⟨h.stored, hadmitted.1, hadmitted.2, h.dashboards, rfl⟩
  · refine ⟨hstored, hdesired ▸ h.distinct, ?_, htouched.dashboards h.free h.dashboards, hphase⟩
    rw [hdesired]
    exact fun config hmem => htouched.free (h.free config hmem)

theorem ReconcileInv.reconciled (h : ReconcileInv first s) (hdone : s.phase = .done) :
    Reconciled s := by
  have hphase := h.phase
  rw [hdone] at hphase
  obtain ⟨hclearing, hplaced⟩ := hphase
  constructor
  · intro id
    constructor
    · rintro ⟨record, hget, hsource⟩
      rcases hclearing.only id record hget hsource with hdesired | hmem
      · exact hdesired
      · cases hmem
    · intro hmem
      obtain ⟨config, hconfig, rfl⟩ := List.mem_map.mp hmem
      obtain ⟨record, hget, hmatches⟩ := hplaced config hconfig
      exact ⟨record, hget, hmatches.source⟩
  · exact hplaced
  · intro id hstart hextra
    rcases hclearing.gone id hstart hextra with hgone | ⟨_, hmem, _⟩
    · exact hgone
    · cases hmem

/-- The turns of the service that the configuration allows. -/
abbrev Reconciles (tenantId : String) : Reconciler → Nat × ReconcileAction → Reconciler → Prop :=
  Restrict (fun s input s' => reconcileTurn tenantId s input = some s') Admitted

theorem reconcileInv_run {inputs : List (Nat × ReconcileAction)} (h : ReconcileInv first s)
    (hrun : Run (Reconciles tenantId) s inputs s') : ReconcileInv first s' :=
  hrun.invariant (fun _ _ _ hs hturn => hs.turn hturn.1 hturn.2) h

/-- The run, if there is one, desires the webhook. -/
def Reconciler.Wants (s : Reconciler) (id : String) : Prop :=
  s.phase = .stopped ∨ id ∈ s.desired.map (·.id)

/-- From restart to restart, as long as the webhook is desired. -/
theorem keeps_run {inputs : List (Nat × ReconcileAction)} {id : String} {record : WebhookRecord}
    {cursor : Option Nat} (h : ReconcileInv first s)
    (hrun : Run (Reconciles tenantId) s inputs s') (hdesires : ∀ input ∈ inputs, Desires id input)
    (hwants : s.Wants id) (hkeeps : Keeps id record cursor s.view) :
    Keeps id record cursor s'.view := by
  induction hrun with
  | nil s => exact hkeeps
  | @cons s t w input inputs hturn _ ih =>
    have hinv := h.turn hturn.1 hturn.2
    have hrest := fun other hmem => hdesires other (List.mem_cons_of_mem _ hmem)
    rcases reconcileTurn_cases h hturn.2 with ⟨desired, hinput, rfl⟩ |
      ⟨hdesired, _, _, htouched, _, hstopped⟩
    · have hid := hdesires input List.mem_cons_self
      unfold Desires at hid
      rw [hinput] at hid
      exact ih hinv hrest (Or.inr hid) hkeeps
    · rcases hwants with hphase | hid
      · obtain ⟨hphase', hview⟩ := hstopped hphase
        exact ih hinv hrest (Or.inl hphase') (hview ▸ hkeeps)
      · exact ih hinv hrest (Or.inr (hdesired ▸ hid)) (htouched.keeps hid hkeeps)

/-- However often the service is restarted or cut off: a run that is complete leaves the webhooks
    of the configuration as desired and no others, no dashboard webhook is touched, and a webhook
    keeps its secret, its time of creation and its cursor as long as it is desired. -/
theorem reconciliation_exact {inputs : List (Nat × ReconcileAction)} (hstored : HooksStored db)
    (hrun : Run (Reconciles tenantId) (Reconciler.over db) inputs s) :
    (s.phase = .done → Reconciled s) ∧ DashboardsKept (db.hookView 0) s.view ∧ HooksStored s.db ∧
    ∀ id record, s.view.hook id = some record → record.managementSource = .configuration →
      s.Wants id → ∀ inputs' s', Run (Reconciles tenantId) s inputs' s' →
      (∀ input ∈ inputs', Desires id input) →
        Keeps id record (s.view.cursor id) s'.view := by
  have hinv := reconcileInv_run (reconcileInv_over hstored) hrun
  refine ⟨hinv.reconciled, hinv.dashboards, hinv.stored, ?_⟩
  intro id record hget hsource hwants inputs' s' hrun' hdesires
  exact keeps_run hinv hrun' hdesires hwants ⟨record, hget, hsource, rfl, rfl, rfl⟩

end

/-! ### A run that is cut off, and the next one -/

def managedHook (id : String) (source : WebhookManagementSourceRecord) : WebhookRecord :=
  { sampleHook with id, managementSource := source }

/-- A dashboard webhook, and one of the configuration with its cursor. -/
def managedHooks : Db :=
  commit 0 (commit 0 (commit 0 Keyspace.empty
    [.set (.webhook "dash") (managedHook "dash" .dashboard)])
    [.set (.webhook "old") (managedHook "old" .configuration)])
    [.set (.webhookCursor "old") 3]

theorem hooksStored_managedHooks : HooksStored managedHooks := by
  have hempty : HooksStored Keyspace.empty := ⟨fun _ => rfl, fun _ _ hget => by cases hget⟩
  exact ((hempty.put 0 (managedHook "dash" .dashboard)).put 0
    (managedHook "old" .configuration)).setCursor 0 "old" 3

def newHook : WebhookConfig := ⟨"new", "New", "https://example.test/new", true, []⟩

def reconcileDraw : ReconcileDraw := ⟨"whsec_secret", some sampleSecret, 90⟩

/-- The run ends after it has set the cursor of the new webhook. -/
def cutOffRun : List (Nat × ReconcileAction) :=
  (10, .restart [newHook]) :: List.replicate 8 (10, .proceed reconcileDraw) ++ [(10, .crash)]

def completeRun : List (Nat × ReconcileAction) :=
  (20, .restart [newHook]) :: List.replicate 9 (20, .proceed reconcileDraw)

/-- Another start, with another name for the webhook. -/
def renamingRun : List (Nat × ReconcileAction) :=
  (30, .restart [{ newHook with name := "Renamed" }]) ::
    List.replicate 8 (30, .proceed { reconcileDraw with secret := "whsec_other" })

theorem reconciliation_exact_after_crash : ∃ s s' record,
    Run (Reconciles "acme") (Reconciler.over managedHooks) (cutOffRun ++ completeRun) s ∧
    s.phase = .done ∧ Reconciled s ∧ DashboardsKept (managedHooks.hookView 0) s.view ∧
    s.view.hook "new" = some record ∧ Run (Reconciles "acme") s renamingRun s' ∧
    s'.phase = .done ∧ Keeps "new" record (s.view.cursor "new") s'.view := by
  have hexec : ((execAll (execWhen Admitted (reconcileTurn "acme")) (Reconciler.over managedHooks)
      (cutOffRun ++ completeRun)).bind fun s =>
        (execAll (execWhen Admitted (reconcileTurn "acme")) s renamingRun).map fun s' =>
          (s.phase, s.desired, s'.phase)) = some (.done, [newHook], .done) := by decide +kernel
  obtain ⟨s, hs, hexec'⟩ := Option.bind_eq_some_iff.mp hexec
  obtain ⟨s', hrun', hends⟩ := exists_run (restrict_of_execWhen fun _ _ _ h => h) hexec'
  obtain ⟨hdone, hdesired, hdone'⟩ : s.phase = .done ∧ s.desired = [newHook] ∧ s'.phase = .done := by
    simpa using hends
  have hrun := run_of_execAll (restrict_of_execWhen fun _ _ _ h => h) hs
  obtain ⟨hreconciled, hkept, _, hkeeps⟩ := reconciliation_exact hooksStored_managedHooks hrun
  obtain ⟨record, hrecord, hmatches⟩ := (hreconciled hdone).inPlace newHook (by simp [hdesired])
  refine ⟨s, s', record, hrun, hdone, hreconciled hdone, hkept, hrecord, hrun', hdone', ?_⟩
  exact hkeeps "new" record hrecord hmatches.source (Or.inr (by simp [hdesired, newHook])) _ s' hrun'
    (by simp [renamingRun, Desires, newHook])

end RustyAuth
