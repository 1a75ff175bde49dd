/-
  The ledger is a register of revisions.

  An accepted revision replaces only an older one with no later events (`Newer`), whatever
  batches arrive in whatever order.  So a revision that is stored keeps its payload, and a
  batch that was accepted changes nothing when it arrives again: each of its buckets finds its
  own revision or a newer one (`Recorded`).
-/
import RustyAuth.Telemetry.Ledger
import RustyAuth.Store.FleetSystem
import RustyAuth.Library.Runs
import RustyAuth.Library.Versions

namespace RustyAuth

open RustyAuth.Library

/-! ## Revisions -/

structure Newer (a b : FleetTelemetryBucketRecord) : Prop where
  revision : a.revision < b.revision
  sequence : a.lastEventSequence ≤ b.lastEventSequence

instance : IsTrans FleetTelemetryBucketRecord Newer :=
  ⟨fun _ _ _ hab hbc =>
    ⟨Nat.lt_trans hab.revision hbc.revision, Nat.le_trans hab.sequence hbc.sequence⟩⟩

variable {incoming : FleetTelemetryBucketRecord} {db db' : Db} {c : TelemetryCall} {batchId : Uuid}
  {batch : TelemetryBucketBatch} {bucket a b : TelemetryBucket} {ctx : LedgerContext} {now : Nat}
  {accepted : AcceptedFleetTelemetryBatch}

theorem acceptanceDecision_eq_accepted {existing : Option FleetTelemetryBucketRecord}
    (h : (acceptanceDecision existing incoming).1 = .accepted) :
    ∀ a, existing = some a → Newer a incoming := by
  rintro a rfl
  unfold acceptanceDecision at h
  dsimp only at h
  split at h
  · cases h
  · next hle =>
    split at h
    · split at h <;> cases h
    · next hne =>
      split at h
      · cases h
      · next hsequence => exact ⟨by omega, by omega⟩

theorem acceptanceDecision_eq_alreadyAccepted {existing : Option FleetTelemetryBucketRecord}
    (h : (acceptanceDecision existing incoming).1 = .alreadyAccepted) :
    ∃ a, existing = some a ∧ incoming.revision = a.revision ∧
      incoming.payloadBase64url = a.payloadBase64url := by
  unfold acceptanceDecision at h
  split at h
  · cases h
  · next a =>
    split at h
    · cases h
    · split at h
      · next hrevision =>
        split at h
        · next hpayload => exact ⟨a, rfl, hrevision, hpayload⟩
        · cases h
      · split at h <;> cases h

/-- The revision that is stored, or an older one. -/
theorem acceptanceDecision_of_stored {record : FleetTelemetryBucketRecord}
    (h : incoming.revision < record.revision ∨ incoming.revision = record.revision ∧
      incoming.payloadBase64url = record.payloadBase64url) :
    acceptanceDecision (some record) incoming = (.alreadyAccepted, .unspecified) ∨
      acceptanceDecision (some record) incoming = (.rejected, .staleRevision) := by
  unfold acceptanceDecision
  dsimp only
  rcases h with hlt | ⟨heq, hpayload⟩
  · exact Or.inr (if_pos hlt)
  · refine Or.inl ?_
    rw [if_neg (Nat.not_lt.mpr (Nat.le_of_eq heq.symm)), if_pos heq, if_pos hpayload]

theorem validOutcome_acceptanceDecision (existing : Option FleetTelemetryBucketRecord)
    (incoming : FleetTelemetryBucketRecord) :
    validOutcome (acceptanceDecision existing incoming).1
      (acceptanceDecision existing incoming).2 = true := by
  unfold acceptanceDecision
  split
  · rfl
  · split
    · rfl
    · split
      · split <;> rfl
      · split <;> rfl

theorem validOutcome_bucketOutcome (ctx : LedgerContext) (db : Db) (c : TelemetryCall)
    (policy : FleetAnalyticsPolicyRecord) (batchId : Uuid) (bucket : TelemetryBucket) :
    validOutcome (bucketOutcome ctx db c policy batchId bucket).1
      (bucketOutcome ctx db c policy batchId bucket).2 = true := by
  unfold bucketOutcome
  split
  · rfl
  · split
    · rfl
    · exact validOutcome_acceptanceDecision _ _

/-! ## What a batch changes -/

def Key.isLedger : Key → Bool
  | .fleetAnalyticsBucket _ _ _ => true
  | _ => false

theorem isLedger_meterBatch {policy : FleetAnalyticsPolicyRecord} {enforceLiveQuota : Bool} :
    ∀ w ∈ (meterBatch db c policy batchId batch enforceLiveQuota).2, w.key.isLedger = false := by
  unfold meterBatch consumeFleetAnalyticsQuota
  split
  · split
    · exact List.forall_mem_nil _
    · simp only [List.forall_mem_cons]
      refine ⟨rfl, ?_, rfl, List.forall_mem_nil _⟩
      split <;> rfl
  · exact List.forall_mem_nil _

theorem isLedger_refuseBatch (rejection : BucketRejectionReason) (reason : String) :
    ∀ w ∈ (refuseBatch c batchId batch rejection reason).2, w.key.isLedger = false := by
  intro w hw
  rw [List.mem_singleton.mp hw]
  rfl

/-- Commands on other keys leave the ledger. -/
theorem get_ledger_commit {ws : List Write} (hws : ∀ w ∈ ws, w.key.isLedger = false)
    (now t : Nat) (db : Db) (realmId : String) (epoch start : Nat) :
    (commit now db ws).get t (.fleetAnalyticsBucket realmId epoch start) =
      db.get t (.fleetAnalyticsBucket realmId epoch start) := by
  refine get_commit_of_forall_ne now t ws _ db fun w hw hkey => ?_
  have hnot := hws w hw
  rw [← hkey] at hnot
  cases hnot

theorem get_ledger_append {ws : List Write} (hws : ∀ w ∈ ws, w.key.isLedger = false)
    (ws' : List Write) (now t : Nat) (db : Db) (realmId : String) (epoch start : Nat) :
    (commit now db (ws ++ ws')).get t (.fleetAnalyticsBucket realmId epoch start) =
      (commit now db ws').get t (.fleetAnalyticsBucket realmId epoch start) := by
  rw [get_commit_filter Key.isLedger now t rfl, get_commit_filter Key.isLedger now t rfl ws',
    List.filter_append, List.filter_eq_nil_iff.mpr fun w hw => by rw [hws w hw]; exact nofun,
    List.nil_append]

structure BucketFormat (bucket : TelemetryBucket) : Prop where
  start : 0 ≤ bucket.bucketStartUnixMilliseconds
  width : bucket.bucketWidthSeconds = bucketWidthSecondsV1
  schema : bucket.metricSchemaVersion = .known .v1

theorem bucketFormat_of_validateBucket (h : validateBucket bucket = .ok ()) :
    BucketFormat bucket := by
  unfold validateBucket validateBucketStart require at h
  simp only [bind_unit_eq_ok, ensure_eq_ok] at h
  obtain ⟨_, _, hstart, hwidth, _, _, hschema, _⟩ := h
  refine ⟨hstart.1, hwidth, ?_⟩
  cases hversion : bucket.metricSchemaVersion with
  | known version =>
    rw [hversion] at hschema
    exact congrArg _ (Option.some.inj hschema)
  | unknown number =>
    rw [hversion] at hschema
    cases hschema

/-- A valid batch has one bucket for each start of an epoch. -/
theorem eq_of_epoch_start (h : ValidBatch batch) (ha : a ∈ batch.buckets) (hb : b ∈ batch.buckets)
    (hepoch : a.assignmentEpoch = b.assignmentEpoch)
    (hstart : a.bucketStartUnixMilliseconds = b.bucketStartUnixMilliseconds) : a = b := by
  have hformat := bucketFormat_of_validateBucket (h.buckets a ha)
  have hformat' := bucketFormat_of_validateBucket (h.buckets b hb)
  apply List.inj_on_of_nodup_map h.distinct ha hb
  unfold bucketKey
  rw [hepoch, hstart, hformat.width, hformat'.width, hformat.schema, hformat'.schema]

theorem eq_of_fleetTelemetryKey (h : ValidBatch batch) (ha : a ∈ batch.buckets)
    (hb : b ∈ batch.buckets) (hkey : fleetTelemetryKey a = fleetTelemetryKey b) : a = b := by
  have hstart := (bucketFormat_of_validateBucket (h.buckets a ha)).start
  have hstart' := (bucketFormat_of_validateBucket (h.buckets b hb)).start
  injection hkey with _ hepoch hstarts
  exact eq_of_epoch_start h ha hb hepoch (by omega)

section

variable {ctx : LedgerContext} {db : Db} {c : TelemetryCall} {policy : FleetAnalyticsPolicyRecord}
  {batchId : Uuid} {batch : TelemetryBucketBatch} (h : ValidBatch batch)

theorem key_acceptedWrite {w : Write} (hw : acceptedWrite ctx db c policy batchId bucket = some w) :
    (bucketOutcome ctx db c policy batchId bucket).1 = .accepted ∧
      w = .set (fleetTelemetryKey bucket)
        (FleetTelemetryBucketRecord.fromBucket ctx c.now c.connection batchId bucket) := by
  unfold acceptedWrite at hw
  split at hw
  · next haccepted =>
    cases hw
    exact ⟨haccepted, rfl⟩
  · cases hw

/-- The commands on the ledger are those of the accepted buckets. -/
theorem mem_acceptBuckets {w : Write} (hledger : w.key.isLedger = true)
    (hw : w ∈ (acceptBuckets ctx db c policy batchId batch).2) :
    ∃ bucket ∈ batch.buckets, acceptedWrite ctx db c policy batchId bucket = some w := by
  simp only [acceptBuckets, List.mem_append, List.mem_filterMap, List.mem_singleton] at hw
  rcases hw with (⟨⟨bucket, i⟩, _, hquarantine⟩ | hw) | rfl
  · unfold quarantineWrite at hquarantine
    split at hquarantine
    · cases hquarantine
      cases hledger
    · cases hquarantine
  · exact hw
  · cases hledger

include h

/-- An accepted bucket is stored. -/
theorem get_accepted (hbucket : bucket ∈ batch.buckets)
    (haccepted : (bucketOutcome ctx db c policy batchId bucket).1 = .accepted) (now t : Nat) :
    Db.fleetTelemetryBucket (commit now db (acceptBuckets ctx db c policy batchId batch).2) t
      bucket = some (.fromBucket ctx c.now c.connection batchId bucket) := by
  refine get_commit_set now t _ db ?_ (Or.inl ?_)
  · intro w hw hkey
    obtain ⟨other, hother, hwrite⟩ := mem_acceptBuckets (by rw [hkey]; rfl) hw
    obtain ⟨_, rfl⟩ := key_acceptedWrite hwrite
    rw [eq_of_fleetTelemetryKey h hother hbucket hkey]
    rfl
  · simp only [acceptBuckets, List.mem_append, List.mem_filterMap]
    refine Or.inl (Or.inr ⟨bucket, hbucket, ?_⟩)
    unfold acceptedWrite
    rw [if_pos haccepted]
    rfl

omit h in
/-- Every other record of the ledger stays. -/
theorem get_not_accepted {realmId : String} {epoch start : Nat}
    (hnone : ∀ bucket ∈ batch.buckets,
      fleetTelemetryKey bucket = .fleetAnalyticsBucket realmId epoch start →
      (bucketOutcome ctx db c policy batchId bucket).1 ≠ .accepted) (now t : Nat) :
    (commit now db (acceptBuckets ctx db c policy batchId batch).2).get t
      (.fleetAnalyticsBucket realmId epoch start) =
      db.get t (.fleetAnalyticsBucket realmId epoch start) := by
  refine get_commit_of_forall_ne now t _ _ _ fun w hw hkey => ?_
  obtain ⟨bucket, hbucket, hwrite⟩ := mem_acceptBuckets (by rw [← hkey]; rfl) hw
  obtain ⟨haccepted, rfl⟩ := key_acceptedWrite hwrite
  exact hnone bucket hbucket hkey.symm haccepted

end

/-- What is decided depends on the ledger only. -/
theorem acceptBuckets_congr {policy : FleetAnalyticsPolicyRecord}
    (h : ∀ bucket, db'.fleetTelemetryBucket c.now bucket = db.fleetTelemetryBucket c.now bucket) :
    acceptBuckets ctx db' c policy batchId batch = acceptBuckets ctx db c policy batchId batch := by
  have houtcome : bucketOutcome ctx db' c policy batchId = bucketOutcome ctx db c policy batchId := by
    funext bucket
    unfold bucketOutcome
    rw [h]
  have hmirrored :
      mirroredRecord ctx db' c policy batchId = mirroredRecord ctx db c policy batchId := by
    funext bucket
    unfold mirroredRecord
    rw [houtcome, h]
  have haccepted :
      acceptedWrite ctx db' c policy batchId = acceptedWrite ctx db c policy batchId := by
    funext bucket
    unfold acceptedWrite
    rw [houtcome]
  unfold acceptBuckets
  rw [houtcome, hmirrored, haccepted]

/-! ## Requests -/

structure TelemetryRequest where
  call : TelemetryCall
  batch : TelemetryBucketBatch
  enforceLiveQuota : Bool

namespace TelemetryRequest

variable (db : Db) (r : TelemetryRequest)

def policy : FleetAnalyticsPolicyRecord :=
  db.fleetAnalyticsPolicy r.call.now r.call.connection.organizationId

def meter (batchId : Uuid) : Bool × List Write :=
  meterBatch db r.call (r.policy db) batchId r.batch r.enforceLiveQuota

/-- What the callers check: the contract, and the assignment of the connection. -/
structure Checked : Prop where
  contract : validateBatch r.batch = .ok ()
  realm : r.batch.realmId = r.call.connection.realmId
  epoch : ∀ bucket ∈ r.batch.buckets,
    bucket.assignmentEpoch = r.call.connection.assignmentEpoch

/-- Nothing is refused for policy, quota, clock skew or retention. -/
structure Admitted : Prop where
  enabled : (r.policy db).enabled = true
  allowed : ∀ batchId, parseUuid r.batch.batchId = some batchId → (r.meter db batchId).1 = true
  inTime : ∀ bucket ∈ r.batch.buckets, clockSkewed r.call.now bucket = false
  retained : ∀ bucket ∈ r.batch.buckets, outsideRetention r.call.now (r.policy db) bucket = false

end TelemetryRequest

def Submits (ctx : LedgerContext) (now : Nat) (db : Db) (r : TelemetryRequest)
    (accepted : AcceptedFleetTelemetryBatch) (db' : Db) : Prop :=
  r.Checked ∧ r.call.now = now ∧ ∃ writes,
    acceptFleetTelemetryBatchInternal ctx db r.call r.batch r.enforceLiveQuota =
      some (accepted, writes) ∧ db' = commit now db writes

variable {r : TelemetryRequest}

/-- The two ways a request goes: refused as a whole, or decided bucket by bucket. -/
theorem submits_cases (h : Submits ctx now db r accepted db') :
    ∃ batchId, parseUuid r.batch.batchId = some batchId ∧
      ((∃ rejection, accepted.acknowledgement = rejectionAcknowledgement r.batch .rejected rejection ∧
          rejection ≠ .unspecified ∧ ¬r.Admitted db ∧
          ∀ realmId epoch start, db'.get now (.fleetAnalyticsBucket realmId epoch start) =
            db.get now (.fleetAnalyticsBucket realmId epoch start)) ∨
        accepted = (acceptBuckets ctx db r.call (r.policy db) batchId r.batch).1 ∧
          ∀ realmId epoch start, db'.get now (.fleetAnalyticsBucket realmId epoch start) =
            (commit now db (acceptBuckets ctx db r.call (r.policy db) batchId r.batch).2).get now
              (.fleetAnalyticsBucket realmId epoch start)) := by
  obtain ⟨_, rfl, writes, haccept, rfl⟩ := h
  unfold acceptFleetTelemetryBatchInternal at haccept
  obtain ⟨batchId, hid, haccept⟩ := Option.bind_eq_some_iff.mp haccept
  refine ⟨batchId, hid, ?_⟩
  dsimp only at haccept
  split at haccept
  · next hdisabled =>
    cases haccept
    refine Or.inl ⟨.policyDisabled, rfl, nofun, fun h => ?_, fun realmId epoch start => ?_⟩
    · exact absurd (h.enabled.symm.trans hdisabled) nofun
    · exact get_ledger_commit (isLedger_refuseBatch .policyDisabled _) _ _ _ _ _ _
  · split at haccept
    · next hrefused =>
      cases haccept
      refine Or.inl ⟨.resourceLimit, rfl, nofun, fun h => ?_, fun realmId epoch start => ?_⟩
      · exact absurd ((h.allowed batchId hid).symm.trans hrefused) nofun
      · rw [get_ledger_append isLedger_meterBatch]
        exact get_ledger_commit (isLedger_refuseBatch _ _) _ _ _ _ _ _
    · cases haccept
      have hcongr : ∀ bucket, Db.fleetTelemetryBucket (commit r.call.now db (meterBatch db r.call
          (r.policy db) batchId r.batch r.enforceLiveQuota).2) r.call.now bucket =
          db.fleetTelemetryBucket r.call.now bucket := by
        intro bucket
        exact get_ledger_commit isLedger_meterBatch _ _ _ _ _ _
      refine Or.inr ⟨congrArg Prod.fst (acceptBuckets_congr hcongr), fun realmId epoch start => ?_⟩
      rw [get_ledger_append isLedger_meterBatch, ← acceptBuckets_congr hcongr]
      rfl

/-- A valid batch is always answered. -/
theorem submits_total (ctx : LedgerContext) (db : Db) (h : r.Checked) :
    ∃ accepted db', Submits ctx r.call.now db r accepted db' := by
  have hid : ∃ batchId, parseUuid r.batch.batchId = some batchId := by
    unfold parseUuid
    rw [if_pos (validBatch_of_validateBatch h.contract).batchId]
    exact ⟨_, rfl⟩
  obtain ⟨batchId, hid⟩ := hid
  have haccept : ∃ result, acceptFleetTelemetryBatchInternal ctx db r.call r.batch
      r.enforceLiveQuota = some result := by
    unfold acceptFleetTelemetryBatchInternal
    rw [hid]
    dsimp only [Option.bind_eq_bind, Option.bind_some]
    split
    · exact ⟨_, rfl⟩
    · split <;> exact ⟨_, rfl⟩
  obtain ⟨⟨accepted, writes⟩, haccept⟩ := haccept
  exact ⟨accepted, _, h, rfl, writes, haccept, rfl⟩

/-! ## Revisions along runs -/

def LedgerStep (ctx : LedgerContext) (now : Nat) (db : Db) (r : TelemetryRequest) (db' : Db) :
    Prop :=
  ∃ accepted, Submits ctx now db r accepted db'

theorem bucketOutcome_eq_accepted {policy : FleetAnalyticsPolicyRecord}
    (h : (bucketOutcome ctx db c policy batchId bucket).1 = .accepted) :
    ∀ a, db.fleetTelemetryBucket c.now bucket = some a →
      Newer a (.fromBucket ctx c.now c.connection batchId bucket) := by
  unfold bucketOutcome at h
  split at h
  · cases h
  · split at h
    · cases h
    · exact acceptanceDecision_eq_accepted h

/-- Every record of the ledger is kept or replaced by a newer one. -/
def LedgerGrows (now : Nat) (db db' : Db) : Prop :=
  ∀ realmId epoch start,
    Supersedes Newer (db.get now (.fleetAnalyticsBucket realmId epoch start))
      (db'.get now (.fleetAnalyticsBucket realmId epoch start))

theorem ledgerStep_grows (h : LedgerStep ctx now db r db') : LedgerGrows now db db' := by
  intro realmId epoch start
  obtain ⟨accepted, hsubmits⟩ := h
  obtain ⟨batchId, _, ⟨_, _, _, _, hsame⟩ | ⟨_, hget⟩⟩ := submits_cases hsubmits
  · rw [hsame]
    exact .refl _ _
  · rw [hget]
    obtain ⟨hchecked, rfl, _⟩ := hsubmits
    have hvalid := validBatch_of_validateBatch hchecked.contract
    by_cases hexists : ∃ bucket ∈ r.batch.buckets,
        fleetTelemetryKey bucket = .fleetAnalyticsBucket realmId epoch start ∧
          (bucketOutcome ctx db r.call (r.policy db) batchId bucket).1 = .accepted
    · obtain ⟨bucket, hbucket, hkey, haccepted⟩ := hexists
      cases hkey
      intro a ha
      refine ⟨_, get_accepted hvalid hbucket haccepted _ _, Or.inr ?_⟩
      exact bucketOutcome_eq_accepted haccepted a ha
    · rw [get_not_accepted]
      · exact .refl _ _
      · intro bucket hbucket hkey haccepted
        exact hexists ⟨bucket, hbucket, hkey, haccepted⟩

theorem ledgerRun_grows {rs : List TelemetryRequest} (run : Run (LedgerStep ctx now) db rs db') :
    LedgerGrows now db db' := by
  refine run.relates (R := LedgerGrows now) ?_ ?_ fun _ _ _ h => ledgerStep_grows h
  · intro db realmId epoch start
    exact .refl _ _
  · intro a b c hab hbc realmId epoch start
    exact (hab realmId epoch start).trans (hbc realmId epoch start)

/-! ## Batches that were accepted before -/

/-- The ledger holds the bucket's revision with its payload, or a newer one. -/
def Recorded (ctx : LedgerContext) (now : Nat) (db : Db) (bucket : TelemetryBucket) : Prop :=
  ∃ record, db.fleetTelemetryBucket now bucket = some record ∧
    (bucket.revision < record.revision ∨
      bucket.revision = record.revision ∧ ctx.encodeBucket bucket = record.payloadBase64url)

theorem LedgerGrows.recorded (h : LedgerGrows now db db') (hrecorded : Recorded ctx now db bucket) :
    Recorded ctx now db' bucket := by
  refine (h bucket.realmId bucket.assignmentEpoch _).holds ?_ hrecorded
  intro a b ha hab
  refine Or.inl ?_
  rcases ha with hlt | ⟨heq, _⟩
  · exact Nat.lt_trans hlt hab.revision
  · exact heq ▸ hab.revision

/-- Every bucket was accepted, now or before. -/
def AllAccepted (acknowledgement : TelemetryBatchAcknowledgement) : Prop :=
  ∀ a ∈ acknowledgement.buckets, a.status = .known .accepted ∨ a.status = .known .alreadyAccepted

theorem recorded_of_allAccepted (h : Submits ctx now db r accepted db')
    (hall : AllAccepted accepted.acknowledgement) :
    ∀ bucket ∈ r.batch.buckets, Recorded ctx now db' bucket := by
  intro bucket hbucket
  obtain ⟨batchId, _, ⟨rejection, hack, _⟩ | ⟨haccepted, hget⟩⟩ := submits_cases h
  · rw [hack] at hall
    rcases hall _ (List.mem_map_of_mem hbucket) with hstatus | hstatus <;> cases hstatus
  · obtain ⟨hchecked, rfl, _⟩ := h
    have hvalid := validBatch_of_validateBatch hchecked.contract
    rw [haccepted] at hall
    have hget' : db'.fleetTelemetryBucket r.call.now bucket = _ := hget _ _ _
    rcases hall _ (List.mem_map_of_mem hbucket) with hstatus | hstatus
    · refine ⟨_, hget'.trans (get_accepted hvalid hbucket (EnumValue.known.inj hstatus) _ _),
        Or.inr ⟨rfl, rfl⟩⟩
    · have houtcome := EnumValue.known.inj hstatus
      have hkept : db'.fleetTelemetryBucket r.call.now bucket =
          db.fleetTelemetryBucket r.call.now bucket := by
        refine hget'.trans (get_not_accepted ?_ _ _)
        intro other hother hkey haccepted
        rw [eq_of_fleetTelemetryKey hvalid hother hbucket hkey, houtcome] at haccepted
        cases haccepted
      unfold bucketOutcome at houtcome
      split at houtcome
      · cases houtcome
      · split at houtcome
        · cases houtcome
        · obtain ⟨a, ha, hrevision, hpayload⟩ := acceptanceDecision_eq_alreadyAccepted houtcome
          exact ⟨a, hkept.trans ha, Or.inr ⟨hrevision, hpayload⟩⟩

/-- A bucket that is recorded is not accepted again. -/
theorem bucketOutcome_of_recorded {policy : FleetAnalyticsPolicyRecord} (batchId : Uuid)
    (hrecorded : Recorded ctx c.now db bucket) (hskew : clockSkewed c.now bucket = false)
    (hretained : outsideRetention c.now policy bucket = false) :
    bucketOutcome ctx db c policy batchId bucket = (.alreadyAccepted, .unspecified) ∨
      bucketOutcome ctx db c policy batchId bucket = (.rejected, .staleRevision) := by
  obtain ⟨record, hrecord, hcases⟩ := hrecorded
  unfold bucketOutcome
  rw [hskew, hretained, hrecord]
  exact acceptanceDecision_of_stored hcases

/-- Submitted again, an accepted batch changes nothing. -/
theorem resubmitted (h : Submits ctx now db r accepted db') (hadmitted : r.Admitted db)
    (hrecorded : ∀ bucket ∈ r.batch.buckets, Recorded ctx now db bucket) :
    (∀ realmId epoch start, db'.get now (.fleetAnalyticsBucket realmId epoch start) =
      db.get now (.fleetAnalyticsBucket realmId epoch start)) ∧
    ∀ a ∈ accepted.acknowledgement.buckets,
      a.status = .known .alreadyAccepted ∨
        a.status = .known .rejected ∧ a.rejectionReason = .known .staleRevision := by
  obtain ⟨batchId, _, ⟨_, _, _, hnot, _⟩ | ⟨haccepted, hget⟩⟩ := submits_cases h
  · exact absurd hadmitted hnot
  · obtain ⟨_, rfl, _⟩ := h
    have houtcome : ∀ bucket ∈ r.batch.buckets, _ := fun bucket hbucket =>
      bucketOutcome_of_recorded batchId (hrecorded bucket hbucket)
        (hadmitted.inTime bucket hbucket) (hadmitted.retained bucket hbucket)
    constructor
    · intro realmId epoch start
      rw [hget, get_not_accepted]
      intro bucket hbucket _ hfresh
      rcases houtcome bucket hbucket with hout | hout <;> rw [hout] at hfresh <;> cases hfresh
    · rw [haccepted]
      intro a ha
      obtain ⟨bucket, hbucket, rfl⟩ := List.mem_map.mp ha
      rcases houtcome bucket hbucket with hout | hout
      · exact Or.inl (by rw [hout]; rfl)
      · exact Or.inr (by rw [hout]; exact ⟨rfl, rfl⟩)

/-! ## Acknowledgements and keys -/

theorem acknowledgement_valid (h : Submits ctx now db r accepted db') :
    accepted.acknowledgement.batchId = r.batch.batchId ∧
      accepted.acknowledgement.buckets.map (fun a => (a.key, a.revision)) =
        r.batch.buckets.map (fun bucket => (some bucket.key, bucket.revision)) ∧
      validateAcknowledgement accepted.acknowledgement = .ok () := by
  -- both answers give each bucket an outcome that is valid
  obtain ⟨outcome, houtcome, hack⟩ : ∃ outcome : TelemetryBucket →
      BucketAcknowledgementStatus × BucketRejectionReason,
      (∀ bucket, validOutcome (outcome bucket).1 (outcome bucket).2 = true) ∧
      accepted.acknowledgement = ⟨r.batch.batchId,
        r.batch.buckets.map fun bucket => acknowledge bucket (outcome bucket)⟩ := by
    obtain ⟨batchId, _, ⟨rejection, hack, hreason, _⟩ | ⟨haccepted, _⟩⟩ := submits_cases h
    · exact ⟨fun _ => (.rejected, rejection), fun _ => decide_eq_true hreason, hack⟩
    · exact ⟨_, validOutcome_bucketOutcome _ _ _ _ batchId, by rw [haccepted]; rfl⟩
  have hvalid := validBatch_of_validateBatch h.1.contract
  rw [hack]
  refine ⟨rfl, ?_, ?_⟩
  · rw [List.map_map]
    rfl
  · unfold validateAcknowledgement
    simp only [bind_unit_eq_ok, validateUuid_eq_ok, require_eq_ok, List.length_map]
    refine ⟨hvalid.batchId, ⟨?_, hvalid.bounded⟩, ?_⟩
    · intro hnil
      exact hvalid.nonempty (List.map_eq_nil_iff.mp hnil)
    · refine validateBucketAcknowledgements_map outcome _ hvalid.buckets (fun b _ => houtcome b) _
        (fun _ _ => List.not_mem_nil) ?_
      refine List.Nodup.map_on ?_ hvalid.distinct.of_map
      intro a ha b hb hsame
      simp only [TelemetryBucketKey.tuple, TelemetryBucket.key, Prod.mk.injEq] at hsame
      exact eq_of_epoch_start hvalid ha hb hsame.2.1 hsame.2.2.1

/-- The epoch and the start of a bucket are a `u64` and an `i64`. -/
structure FitsWords (bucket : TelemetryBucket) : Prop where
  epoch : bucket.assignmentEpoch < 2 ^ 64
  start : bucket.bucketStartUnixMilliseconds < 2 ^ 63

theorem fleetTelemetryKey_inj (ha : validateBucket a = .ok ()) (hb : validateBucket b = .ok ())
    (hfit : FitsWords a) (hfit' : FitsWords b)
    (h : (fleetTelemetryKey a).text = (fleetTelemetryKey b).text) :
    a.realmId = b.realmId ∧ a.assignmentEpoch = b.assignmentEpoch ∧
      a.bucketStartUnixMilliseconds = b.bucketStartUnixMilliseconds := by
  have htext : ∀ bucket, (fleetTelemetryKey bucket).text = "fleet:analytics-bucket:" ++
      (bucket.realmId ++ ":" ++ padded bucket.assignmentEpoch ++ ":" ++
        padded bucket.bucketStartUnixMilliseconds.toNat) := fun _ => rfl
  have hlists := congrArg String.toList h
  rw [htext, htext] at hlists
  simp only [String.toList_append] at hlists
  have hstart := (bucketFormat_of_validateBucket ha).start
  have hstart' := (bucketFormat_of_validateBucket hb).start
  -- the two numbers are written with twenty digits each
  have hdigits : ∀ m n, m < 10 ^ 20 → n < 10 ^ 20 → (padded m).toList = (padded n).toList → m = n := by
    intro m n hm hn heq
    rw [padded, padded, String.toList_ofList, String.toList_ofList] at heq
    exact digits_inj (by decide) (by decide) hm hn heq
  have hlength : ∀ m n, (padded m).toList.length = (padded n).toList.length := by
    intro m n
    rw [padded, padded, String.toList_ofList, String.toList_ofList, length_digits, length_digits]
  obtain ⟨hfront, hstarts⟩ := List.append_inj' (List.append_cancel_left hlists) (hlength _ _)
  obtain ⟨hfront, hepochs⟩ := List.append_inj' (List.append_cancel_right hfront) (hlength _ _)
  refine ⟨String.toList_inj.mp (List.append_cancel_right hfront), ?_, ?_⟩
  · exact hdigits _ _ (Nat.lt_trans hfit.epoch (by decide)) (Nat.lt_trans hfit'.epoch (by decide))
      hepochs
  · have hsame := hdigits _ _ (by have := hfit.start; omega) (by have := hfit'.start; omega) hstarts
    omega

/-! ## The register -/

/-- Whatever valid batches arrive: a stored revision grows and keeps its payload; a batch that
    was accepted and is submitted again changes nothing and is told so; every batch is answered
    bucket by bucket with a valid acknowledgement; and no two buckets share a key. -/
theorem fleet_ledger_register (ctx : LedgerContext) (now : Nat) :
    (∀ db rs db', Run (LedgerStep ctx now) db rs db' → ∀ realmId epoch start a,
      db.get now (.fleetAnalyticsBucket realmId epoch start) = some a →
      ∃ b, db'.get now (.fleetAnalyticsBucket realmId epoch start) = some b ∧
        a.revision ≤ b.revision ∧ a.lastEventSequence ≤ b.lastEventSequence ∧
        (a.revision = b.revision → b.payloadBase64url = a.payloadBase64url)) ∧
    (∀ db₀ first accepted db₁ rs db₂ again, Submits ctx now db₀ first accepted db₁ →
      AllAccepted accepted.acknowledgement → Run (LedgerStep ctx now) db₁ rs db₂ →
      again.batch = first.batch → again.Checked → again.call.now = now → again.Admitted db₂ →
      ∃ accepted' db₃, Submits ctx now db₂ again accepted' db₃ ∧
        (∀ realmId epoch start, db₃.get now (.fleetAnalyticsBucket realmId epoch start) =
          db₂.get now (.fleetAnalyticsBucket realmId epoch start)) ∧
        ∀ a ∈ accepted'.acknowledgement.buckets, a.status = .known .alreadyAccepted ∨
          a.status = .known .rejected ∧ a.rejectionReason = .known .staleRevision) ∧
    (∀ db r, TelemetryRequest.Checked r → r.call.now = now →
      ∃ accepted db', Submits ctx now db r accepted db' ∧
        accepted.acknowledgement.buckets.map (fun a => (a.key, a.revision)) =
          r.batch.buckets.map (fun bucket => (some bucket.key, bucket.revision)) ∧
        validateAcknowledgement accepted.acknowledgement = .ok ()) ∧
    ∀ a b, validateBucket a = .ok () → validateBucket b = .ok () → FitsWords a → FitsWords b →
      (a.realmId, a.assignmentEpoch, a.bucketStartUnixMilliseconds) ≠
        (b.realmId, b.assignmentEpoch, b.bucketStartUnixMilliseconds) →
      (fleetTelemetryKey a).text ≠ (fleetTelemetryKey b).text := by
  refine ⟨?_, ?_, ?_, ?_⟩
  · intro db rs db' run realmId epoch start a ha
    obtain ⟨b, hb, rfl | hnewer⟩ := ledgerRun_grows run realmId epoch start a ha
    · exact ⟨b, hb, Nat.le_refl _, Nat.le_refl _, fun _ => rfl⟩
    · exact ⟨b, hb, Nat.le_of_lt hnewer.revision, hnewer.sequence,
        fun heq => absurd heq (Nat.ne_of_lt hnewer.revision)⟩
  · rintro db₀ first accepted db₁ rs db₂ again hfirst hall run hbatch hchecked rfl hadmitted
    obtain ⟨accepted', db₃, hagain⟩ := submits_total ctx db₂ hchecked
    have hrecorded : ∀ bucket ∈ again.batch.buckets, Recorded ctx again.call.now db₂ bucket := by
      intro bucket hbucket
      rw [hbatch] at hbucket
      exact (ledgerRun_grows run).recorded (recorded_of_allAccepted hfirst hall bucket hbucket)
    exact ⟨accepted', db₃, hagain, resubmitted hagain hadmitted hrecorded⟩
  · rintro db r hchecked rfl
    obtain ⟨accepted, db', hsubmits⟩ := submits_total ctx db hchecked
    exact ⟨accepted, db', hsubmits, (acknowledgement_valid hsubmits).2⟩
  · intro a b ha hb hfit hfit' hne htext
    obtain ⟨hrealm, hepoch, hstart⟩ := fleetTelemetryKey_inj ha hb hfit hfit' htext
    exact hne (by rw [hrealm, hepoch, hstart])

/-! ### A sample realm -/

def sampleSnapshot (revision : Nat) : TelemetryBucket where
  realmId := "realm"
  assignmentEpoch := 1
  bucketStartUnixMilliseconds := 900000
  bucketWidthSeconds := 300
  revision
  firstEventSequence := 1
  lastEventSequence := revision
  metricSchemaVersion := .known .v1
  closed := true
  authentication := none
  registration := none
  sessionsAndTokens := some ⟨revision, 0, 0, 0⟩
  serviceAccounts := none
  webhooks := none
  platform := none
  realmHealth := none

def sampleReport (revision : Nat) : TelemetryRequest where
  call := ⟨1200, sampleConnection, fun n => ⟨BitVec.ofNat 128 (revision * 100 + n)⟩⟩
  batch := ⟨1, (⟨BitVec.ofNat 128 revision⟩ : Uuid).text, "realm", [sampleSnapshot revision]⟩
  enforceLiveQuota := true

def samplePolicy : FleetAnalyticsPolicyRecord :=
  { FleetAnalyticsPolicyRecord.defaultDisabled 101 with enabled := true }

def sampleLedger : Db := commit 1000 Keyspace.empty [.set (.fleetAnalyticsPolicy 101) samplePolicy]

/-- Buckets are encoded by their revision. -/
def sampleEncoding : LedgerContext where
  encodeBucket bucket := padded bucket.revision
  payloadSha256 bucket := padded bucket.revision

/-- A request, computed: whether all was accepted, and the database. -/
def submit (db : Db) (r : TelemetryRequest) : Option (AcceptedFleetTelemetryBatch × Db) :=
  (acceptFleetTelemetryBatchInternal sampleEncoding db r.call r.batch r.enforceLiveQuota).map
    fun (accepted, writes) => (accepted, commit r.call.now db writes)

theorem submits_of_submit (hchecked : r.Checked) (h : submit db r = some (accepted, db')) :
    Submits sampleEncoding r.call.now db r accepted db' := by
  obtain ⟨⟨accepted', writes⟩, haccept, heq⟩ := Option.map_eq_some_iff.mp h
  cases heq
  exact ⟨hchecked, rfl, writes, haccept, rfl⟩

theorem checked_sampleReport :
    (sampleReport 1).Checked ∧ (sampleReport 2).Checked :=
  ⟨⟨by decide +kernel, rfl, by decide⟩, ⟨by decide +kernel, rfl, by decide⟩⟩

/-- A first revision is accepted, then a second; the first one, submitted again, is stale. -/
theorem fleet_ledger_register_sample : ∃ accepted db₁ db₂,
    Submits sampleEncoding 1200 sampleLedger (sampleReport 1) accepted db₁ ∧
      AllAccepted accepted.acknowledgement ∧
      Run (LedgerStep sampleEncoding 1200) db₁ [sampleReport 2] db₂ ∧
      (sampleReport 1).Admitted db₂ ∧
      ∃ accepted' db₃, Submits sampleEncoding 1200 db₂ (sampleReport 1) accepted' db₃ ∧
        (∀ realmId epoch start, db₃.get 1200 (.fleetAnalyticsBucket realmId epoch start) =
          db₂.get 1200 (.fleetAnalyticsBucket realmId epoch start)) ∧
        ∀ a ∈ accepted'.acknowledgement.buckets, a.status = .known .alreadyAccepted ∨
          a.status = .known .rejected ∧ a.rejectionReason = .known .staleRevision := by
  have hfirst : (submit sampleLedger (sampleReport 1)).map (fun (accepted, db₁) =>
      (accepted.acknowledgement.buckets.map (·.status),
        (submit db₁ (sampleReport 2)).map fun (_, db₂) =>
          ((sampleReport 1).policy db₂, ((sampleReport 1).meter db₂ 1).1))) =
      some ([.known .accepted], some (samplePolicy, true)) := by decide +kernel
  obtain ⟨⟨accepted, db₁⟩, hsubmit, hresult⟩ := Option.map_eq_some_iff.mp hfirst
  obtain ⟨hstatus, hsecond⟩ := Prod.mk.inj hresult
  obtain ⟨⟨second, db₂⟩, hsubmit₂, hdb₂⟩ := Option.map_eq_some_iff.mp hsecond
  obtain ⟨hpolicy, hmeter⟩ := Prod.mk.inj hdb₂
  have hall : AllAccepted accepted.acknowledgement := by
    intro a ha
    have hmem : a.status ∈ accepted.acknowledgement.buckets.map (·.status) := List.mem_map_of_mem ha
    rw [hstatus] at hmem
    exact Or.inl (List.mem_singleton.mp hmem)
  have hadmitted : (sampleReport 1).Admitted db₂ := by
    refine ⟨by rw [hpolicy]; rfl, ?_, by decide, ?_⟩
    · intro batchId hid
      have hone : parseUuid (sampleReport 1).batch.batchId = some 1 := by decide +kernel
      rw [hone] at hid
      cases hid
      exact hmeter
    · rw [hpolicy]
      decide
  have hfirst := submits_of_submit checked_sampleReport.1 hsubmit
  have run : Run (LedgerStep sampleEncoding 1200) db₁ [sampleReport 2] db₂ :=
    .cons ⟨second, submits_of_submit checked_sampleReport.2 hsubmit₂⟩ (.nil _)
  exact ⟨accepted, db₁, db₂, hfirst, hall, run, hadmitted,
    (fleet_ledger_register sampleEncoding 1200).2.1 _ _ _ _ _ _ _ hfirst hall run rfl
      checked_sampleReport.1 rfl hadmitted⟩

end RustyAuth
