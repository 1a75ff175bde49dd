/-
  The hand-kept tables against the keys there are.

  `Key.form` splits the text of a key into the head its family has and the name of the
  record, and `Key.lifetime` says what a backup should do with it: take it as a durable
  record, as one that expires, or leave it.  Since no entry of a table goes beyond a head,
  what the tables say of a key is decided by its head alone, and the heads are finitely many
  texts (`classified`).
-/
import RustyAuth.Backup.Families
import Mathlib.Data.List.Find

namespace RustyAuth

open RustyAuth.Library

/-! ## Heads and names -/

/-- The name is not empty.  Only families named by a free text can break this. -/
def Key.Named (k : Key) : Prop := k.form.2 ≠ some ""

/-! ## What a backup should do with a key -/

inductive Lifetime
  -- part of a backup, and without an expiry
  | durable
  -- part of a backup, and always with an expiry
  | leased
  -- part of a backup, with or without an expiry
  | expiring
  -- left out
  | excluded
  -- in no table
  | unlisted
deriving DecidableEq

def Key.lifetime : Key → Lifetime
  | .session _ => .leased
  | .remoteMutation _ => .leased
  | .fleetAnalyticsQuarantine _ => .expiring
  | .fleetAnalyticsIngestionAudit _ _ => .expiring
  | .fleetAnalyticsMaintenanceAudit _ _ => .expiring
  | .sessionActivity _ => .excluded
  | .registration _ => .excluded
  | .authentication _ => .excluded
  | .identifierVerification _ => .excluded
  | .agentHandoff _ => .excluded
  | .rateLimit _ _ _ _ => .excluded
  | .operatorSeen _ => .excluded
  | .fleetPairing _ => .excluded
  | .jwtActive => .excluded
  | .jwtMaintenanceLock => .excluded
  | .writerLease => .excluded
  | .backupLease => .excluded
  | .backupStatus => .excluded
  | .restoreSentinel => .excluded
  | .fleetConnectionAttempt _ => .excluded
  | .fleetOperationsCache _ => .excluded
  | .fleetAnalyticsQuota _ _ => .excluded
  | .fleetAnalyticsQuotaBatch _ _ => .excluded
  | .webhookDeliveryBacklog => .unlisted
  | .fleetGrantRotation _ => .unlisted
  | _ => .durable

namespace Lifetime

/-- What the policy answers for a key of this lifetime. -/
def policy (key : String) : Lifetime → Except SnapshotError SnapshotKeyPolicy
  | .excluded => .ok .exclude
  | .unlisted => .error (.unknownFamily key)
  | _ => .ok .include

def included : Lifetime → Bool
  | .excluded => false
  | .unlisted => false
  | _ => true

def allowsExpiry : Lifetime → Bool
  | .leased => true
  | .expiring => true
  | _ => false

/-- An expiry that suits the lifetime. -/
def Suits (lifetime : Lifetime) (expiresAt : Option Nat) : Prop :=
  (lifetime = .durable → expiresAt = none) ∧ (lifetime = .leased → expiresAt.isSome)

end Lifetime

/-! ## The tables decide by the head -/

/-- The keys the tables list one by one. -/
def listedKeys : List String := includedAnalyticsKeys ++ includedAuthKeys ++ excludedKeys

/-- The prefixes the tables list. -/
def listedFamilies : List String :=
  includedAnalyticsFamilies ++ includedFleetFamilies ++ includedAuthFamilies ++ excludedFamilies

/-- No entry of the tables goes beyond `head`. -/
def HeadApart (head : String) : Bool :=
  listedKeys.all (fun key => !startsWith key head) && Apart head listedFamilies &&
    Apart head (prefixFamilies.map Prod.fst)

/-- What the policy says of every key with this head. -/
def headPolicy (head : String) : Option SnapshotKeyPolicy :=
  if (includedAnalyticsFamilies ++ includedFleetFamilies ++ includedAuthFamilies).any
      (startsWith head) then some .include
  else if excludedFamilies.any (startsWith head) then some .exclude
  else none

theorem snapshotKeyPolicy_append {head name : String} (h : HeadApart head = true)
    (hname : name ≠ "") :
    snapshotKeyPolicy (head ++ name) =
      okOr (headPolicy head) (.unknownFamily (head ++ name)) := by
  unfold HeadApart listedKeys listedFamilies at h
  simp only [Bool.and_eq_true, List.all_append, Apart] at h
  obtain ⟨⟨⟨⟨hanalyticsKeys, hauthKeys⟩, hexcludedKeys⟩,
    ⟨⟨hanalytics, hfleet⟩, hauth⟩, hexcluded⟩, _⟩ := h
  unfold snapshotKeyPolicy headPolicy
  rw [contains_append hanalyticsKeys, contains_append hauthKeys, contains_append hexcludedKeys,
    any_startsFamily_append hanalytics hname, any_startsFamily_append hfleet hname,
    any_startsWith_append hauth, any_startsWith_append hexcluded, List.any_append, List.any_append]
  cases includedAnalyticsFamilies.any (startsWith head) <;>
    cases includedFleetFamilies.any (startsWith head) <;>
    cases includedAuthFamilies.any (startsWith head) <;>
    cases excludedFamilies.any (startsWith head) <;> rfl

theorem familyIn_eq_none (table : List (String × String)) {head : String}
    (h : (table.map Prod.fst).all (fun key => !startsWith key head) = true) (name : String) :
    familyIn table (· == head ++ name) = none := by
  unfold familyIn
  rw [Option.map_eq_none_iff, List.find?_eq_none]
  intro entry hentry heq
  have hnot := List.all_eq_true.mp h _ (List.mem_map_of_mem hentry)
  rw [eq_of_beq heq, Bool.not_eq_true', ← Bool.not_eq_true, startsWith_iff] at hnot
  exact hnot ⟨name, rfl⟩

theorem recordFamily_append {head name : String} (h : HeadApart head = true) (hname : name ≠ "") :
    recordFamily (head ++ name) =
      okOr (familyIn prefixFamilies (startsWith head)) (.unsupportedKey (head ++ name)) := by
  unfold HeadApart listedKeys at h
  simp only [Bool.and_eq_true, List.all_append] at h
  obtain ⟨⟨⟨⟨hcursor, hsingle⟩, _⟩, _⟩, hfamilies⟩ := h
  have hinitial : familyIn prefixFamilies (startsFamily (head ++ name)) =
      familyIn prefixFamilies (startsWith head) := by
    unfold familyIn
    congr 1
    apply List.find?_congr
    intro entry hentry
    exact startsFamily_append
      (List.all_eq_true.mp hfamilies _ (List.mem_map_of_mem hentry)) hname
  unfold recordFamily
  rw [familyIn_eq_none singleFamilies hsingle,
    familyIn_eq_none cursorFamilies hcursor, Option.none_or, Option.or_none, hinitial]

/-! ## The heads -/

/-- What the family table says of a family, or of a single key, of this lifetime. -/
def FamilyFits (lifetime : Lifetime) (family : Option String) : Prop :=
  lifetime.included → ∃ f ∈ family, recordFamilyAllowsExpiry f = lifetime.allowsExpiry ∧
    recordFamilyNeedsExpiry f = decide (lifetime = .leased)

instance (lifetime : Lifetime) (family : Option String) : Decidable (FamilyFits lifetime family) :=
  inferInstanceAs (Decidable (_ → _))

/-- The tables agree with a lifetime about a head (of named keys, or of the one key it is). -/
def HeadFits (head : String) (lifetime : Lifetime) : Bool → Prop
  | true => HeadApart head = true ∧
      okOr (headPolicy head) (.unknownFamily head) = lifetime.policy head ∧
      FamilyFits lifetime (familyIn prefixFamilies (startsWith head)) ∧
      -- the head alone is no record
      familyIn prefixFamilies (startsFamily head) = none
  | false => snapshotKeyPolicy head = lifetime.policy head ∧
      FamilyFits lifetime (recordFamily head).toOption

instance (head : String) (lifetime : Lifetime) (named : Bool) :
    Decidable (HeadFits head lifetime named) :=
  match named with
  | true => inferInstanceAs (Decidable (_ ∧ _ ∧ _ ∧ _))
  | false => inferInstanceAs (Decidable (_ ∧ _))

/-- The heads there are, with their lifetimes, and whether they are followed by a name. -/
def keyHeads : List (String × Lifetime × Bool) :=
  [("auth:user:", .durable, true), ("auth:email:", .durable, true),
    ("auth:identifier:", .durable, true), ("auth:credential:", .durable, true),
    ("auth:session:", .leased, true), ("auth:session-activity:", .excluded, true),
    ("auth:registration:", .excluded, true), ("auth:authentication:", .excluded, true),
    ("auth:identifier-verification:", .excluded, true), ("auth:agent-handoff:", .excluded, true),
    ("auth:rate-limit:", .excluded, true), ("auth:event:", .durable, true),
    ("auth:event-sequence", .durable, false), ("auth:event-min-sequence", .durable, false),
    ("auth:invitation:", .durable, true), ("auth:invitation-code:", .durable, true),
    ("auth:webhook:", .durable, true), ("auth:webhook-cursor:", .durable, true),
    ("auth:webhook-delivery:", .durable, true), ("auth:webhook-delivery-event:", .durable, true),
    ("auth:webhook-delivery-backlog", .unlisted, false), ("auth:organization", .durable, false),
    ("auth:operator:", .durable, true), ("auth:operator-seen:", .excluded, true),
    ("auth:service-account:", .durable, true), ("auth:service-credential:", .durable, true),
    ("auth:fleet-pairing:", .excluded, true), ("auth:fleet-grant:", .durable, true),
    ("auth:fleet-grant-secret:", .durable, true),
    ("auth:fleet-grant-rotation:", .unlisted, true), ("auth:remote-mutation:", .leased, true),
    ("auth:jwt:keyset:v1", .durable, false), ("auth:jwt:active", .excluded, false),
    ("auth:jwt:maintenance-lock", .excluded, false), ("auth:writer-lease", .excluded, false),
    ("auth:backup:lease", .excluded, false), ("auth:backup:status", .excluded, false),
    ("auth:restore:in-progress", .excluded, false), ("fleet:organization:", .durable, true),
    ("fleet:organization-slug:", .durable, true), ("fleet:project:", .durable, true),
    ("fleet:project-slug:", .durable, true), ("fleet:environment:", .durable, true),
    ("fleet:environment-slug:", .durable, true), ("fleet:connection-attempt:", .excluded, true),
    ("fleet:connection:", .durable, true), ("fleet:role-binding:", .durable, true),
    ("fleet:role-binding-subject:", .durable, true), ("fleet:idempotency:", .durable, true),
    ("fleet:assignment-epoch:", .durable, true), ("fleet:audit:", .durable, true),
    ("fleet:operations-cache:", .excluded, true), ("fleet:analytics-bucket:", .durable, true),
    ("fleet:analytics-policy:", .durable, true),
    ("fleet:analytics-policy-idempotency:", .durable, true),
    ("fleet:analytics-quota:", .excluded, true),
    ("fleet:analytics-quota-batch:", .excluded, true),
    ("fleet:analytics-quarantine:", .expiring, true),
    ("fleet:analytics-ingestion-audit:", .expiring, true),
    ("fleet:analytics-operator-audit:", .durable, true),
    ("fleet:analytics-maintenance-audit:", .expiring, true),
    ("fleet:analytics-manifest:", .durable, true),
    ("analytics:projector-cursor", .durable, false),
    ("analytics:closure-cursor", .durable, false), ("analytics:bucket:", .durable, true),
    ("analytics:outbox:", .durable, true)]

theorem mem_keyHeads (k : Key) : (k.form.1, k.lifetime, k.form.2.isSome) ∈ keyHeads := by
  cases k <;>
    simp only [Key.form, Key.lifetime, Option.isSome, keyHeads, List.mem_cons, true_or, or_true]

/-- The tables agree with every head. -/
theorem keyHeads_fit : ∀ entry ∈ keyHeads, HeadFits entry.1 entry.2.1 entry.2.2 := by
  decide +kernel

theorem headFits (k : Key) : HeadFits k.form.1 k.lifetime k.form.2.isSome :=
  keyHeads_fit _ (mem_keyHeads k)

/-! ## Every key -/

theorem Lifetime.policy_congr {lifetime : Lifetime} {policy : Option SnapshotKeyPolicy}
    {key : String} (h : okOr policy (.unknownFamily key) = lifetime.policy key) (key' : String) :
    okOr policy (.unknownFamily key') = lifetime.policy key' := by
  cases policy with
  | none => cases lifetime <;> first | rfl | cases h
  | some p => cases lifetime <;> first | exact h | cases h

/-- The policy knows every named key but those of the two unlisted families. -/
theorem Key.policy_text {k : Key} (h : k.Named) :
    snapshotKeyPolicy k.text = k.lifetime.policy k.text := by
  have hfits := headFits k
  rw [Key.text]
  unfold Key.Named at h
  cases hname : k.form.2 with
  | none =>
    rw [hname] at hfits
    rw [Option.getD_none, String.append_empty]
    exact hfits.1
  | some name =>
    rw [hname] at hfits h
    have hne : name ≠ "" := fun heq => h (congrArg some heq)
    rw [Option.getD_some, snapshotKeyPolicy_append hfits.1 hne]
    exact Lifetime.policy_congr hfits.2.1 _

/-- Every named key that a backup takes has a family, which treats expiries as the key's
    lifetime asks. -/
theorem Key.family_text {k : Key} (h : k.Named) (hk : k.lifetime.included = true) :
    ∃ f, recordFamily k.text = .ok f ∧ recordFamilyAllowsExpiry f = k.lifetime.allowsExpiry ∧
      recordFamilyNeedsExpiry f = decide (k.lifetime = .leased) := by
  have hfits := headFits k
  rw [Key.text]
  unfold Key.Named at h
  cases hname : k.form.2 with
  | none =>
    rw [hname] at hfits
    rw [Option.getD_none, String.append_empty]
    obtain ⟨f, hf, hexpiry⟩ := hfits.2 hk
    refine ⟨f, ?_, hexpiry⟩
    cases hrecord : recordFamily k.form.1 with
    | error e => rw [hrecord] at hf; cases hf
    | ok g => rw [hrecord] at hf; exact congrArg Except.ok (Option.some.inj hf)
  | some name =>
    rw [hname] at hfits h
    have hne : name ≠ "" := fun heq => h (congrArg some heq)
    obtain ⟨f, hf, hexpiry⟩ := hfits.2.2.1 hk
    rw [Option.getD_some, recordFamily_append hfits.1 hne]
    exact ⟨f, by rw [Option.mem_def.mp hf]; rfl, hexpiry⟩

/-- A key that has a family is named. -/
theorem Key.named_of_family {k : Key} {f : String} (h : recordFamily k.text = .ok f) :
    k.Named := by
  intro hname
  have hfits := headFits k
  rw [hname] at hfits
  obtain ⟨hapart, _, _, hnone⟩ := hfits
  unfold HeadApart listedKeys at hapart
  simp only [Bool.and_eq_true, List.all_append] at hapart
  obtain ⟨⟨⟨⟨hcursor, hsingle⟩, _⟩, _⟩, _⟩ := hapart
  have hcursors := familyIn_eq_none cursorFamilies hcursor ""
  have hsingles := familyIn_eq_none singleFamilies hsingle ""
  rw [String.append_empty] at hcursors hsingles
  rw [Key.text, hname, Option.getD_some, String.append_empty] at h
  unfold recordFamily at h
  rw [hsingles, hcursors, hnone] at h
  cases h

end RustyAuth
