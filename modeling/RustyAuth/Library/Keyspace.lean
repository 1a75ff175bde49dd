/-
  Keyspace with expiry: the data model of a Redis-like store.

  * A keyspace maps keys to entries; the type of a value is fixed by its key, so
    a record can never be read back under the wrong family.
  * An entry carries the second at which it lapses.  A lapsed entry is absent for
    every reader (`get`, `scan`), whether or not the store has reclaimed it.
  * `Command` is the write vocabulary, `commit` one atomic batch of commands.

  The lemmas say what a reader sees after a write, key by key (`get_run_of_ne`,
  `get_commit_set`, `get_commit_of_forall_ne`), and that a scan lists exactly what
  `get` answers (`mem_scan`), each key once (`nodup_keys`).
-/
import Mathlib.Data.List.AList

namespace RustyAuth.Library

universe u v

/-! ## Entries -/

/-- A stored value and the second at which it lapses (`none`: never). -/
structure Entry (α : Type v) where
  value : α
  deadline : Option Nat
deriving DecidableEq

def Entry.live {α : Type v} (now : Nat) (e : Entry α) : Bool :=
  match e.deadline with
  | none => true
  | some d => decide (now < d)

@[simp] theorem Entry.live_some {α : Type v} (now d : Nat) (a : α) :
    (Entry.mk a (some d)).live now = decide (now < d) := rfl

/-- An entry that is live was live at every earlier second. -/
theorem Entry.live_mono {α : Type v} {s t : Nat} (e : Entry α) (hst : s ≤ t)
    (h : e.live t = true) : e.live s = true := by
  obtain ⟨a, d⟩ := e
  cases d with
  | none => rfl
  | some d =>
    simp only [Entry.live_some, decide_eq_true_eq] at h ⊢
    omega

/-! ## Keyspaces -/

variable {K : Type u} [DecidableEq K] {V : K → Type v}

/-- A finite keyspace; the value type depends on the key. -/
structure Keyspace (V : K → Type v) where
  table : AList fun k => Entry (V k)

namespace Keyspace

def empty : Keyspace V := ⟨∅⟩

/-- The entry of `k` if it is live at `now`. -/
def entry (db : Keyspace V) (now : Nat) (k : K) : Option (Entry (V k)) :=
  (db.table.lookup k).filter (·.live now)

/-- What a reader sees under `k` at `now`. -/
def get (db : Keyspace V) (now : Nat) (k : K) : Option (V k) :=
  (db.entry now k).map Entry.value

/-- The deadline of the live entry of `k`, if it has one. -/
def deadline (db : Keyspace V) (now : Nat) (k : K) : Option Nat :=
  (db.entry now k).bind Entry.deadline

/-- All live records, in storage order. -/
def scan (db : Keyspace V) (now : Nat) : List (Sigma V) :=
  db.table.entries.filterMap fun e => if e.2.live now then some ⟨e.1, e.2.value⟩ else none

def keys (db : Keyspace V) (now : Nat) : List K := (db.scan now).map Sigma.fst

def put (db : Keyspace V) (k : K) (e : Entry (V k)) : Keyspace V := ⟨db.table.insert k e⟩

def drop (db : Keyspace V) (k : K) : Keyspace V := ⟨db.table.erase k⟩

@[simp] theorem get_empty (now : Nat) (k : K) : (empty : Keyspace V).get now k = none := rfl

theorem entry_put_self (db : Keyspace V) (now : Nat) (k : K) (e : Entry (V k)) :
    (db.put k e).entry now k = if e.live now then some e else none := by
  unfold entry put
  rw [AList.lookup_insert, Option.filter_some]

theorem entry_put_of_ne (db : Keyspace V) (now : Nat) {k k' : K} (e : Entry (V k'))
    (h : k ≠ k') : (db.put k' e).entry now k = db.entry now k := by
  unfold entry put
  rw [AList.lookup_insert_ne h]

theorem entry_drop_self (db : Keyspace V) (now : Nat) (k : K) :
    (db.drop k).entry now k = none := by
  unfold entry drop
  rw [AList.lookup_erase]; rfl

theorem entry_drop_of_ne (db : Keyspace V) (now : Nat) {k k' : K} (h : k ≠ k') :
    (db.drop k').entry now k = db.entry now k := by
  unfold entry drop
  rw [AList.lookup_erase_ne h]

theorem get_eq_of_entry_eq {db db' : Keyspace V} {now : Nat} {k : K}
    (h : db.entry now k = db'.entry now k) : db.get now k = db'.get now k := by
  unfold get; rw [h]

theorem get_eq_some_iff (db : Keyspace V) (now : Nat) (k : K) (v : V k) :
    db.get now k = some v ↔ ∃ d, db.entry now k = some ⟨v, d⟩ := by
  unfold get
  rw [Option.map_eq_some_iff]
  constructor
  · rintro ⟨⟨a, d⟩, he, rfl⟩
    exact ⟨d, he⟩
  · rintro ⟨d, he⟩
    exact ⟨⟨v, d⟩, he, rfl⟩

/-- What is read at some second could be read at every earlier one. -/
theorem get_mono {db : Keyspace V} {s t : Nat} {k : K} {v : V k} (hst : s ≤ t)
    (h : db.get t k = some v) : db.get s k = some v := by
  obtain ⟨d, he⟩ := (get_eq_some_iff db t k v).mp h
  rw [get_eq_some_iff]
  unfold entry at he ⊢
  rw [Option.filter_eq_some_iff] at he
  exact ⟨d, Option.filter_eq_some_iff.mpr ⟨he.1, Entry.live_mono _ hst he.2⟩⟩

/-- A scan lists exactly the records that `get` answers. -/
theorem mem_scan (db : Keyspace V) (now : Nat) (k : K) (v : V k) :
    (⟨k, v⟩ : Sigma V) ∈ db.scan now ↔ db.get now k = some v := by
  rw [get_eq_some_iff]
  unfold scan entry
  rw [List.mem_filterMap]
  constructor
  · rintro ⟨⟨k', e⟩, hmem, he⟩
    by_cases hl : e.live now = true
    · rw [if_pos hl, Option.some.injEq] at he
      obtain ⟨rfl, hv⟩ := Sigma.mk.inj he
      obtain rfl := eq_of_heq hv
      refine ⟨e.deadline, ?_⟩
      rw [show db.table.lookup k' = some e from AList.mem_lookup_iff.mpr hmem,
        Option.filter_some, if_pos hl]
    · rw [if_neg hl] at he
      cases he
  · rintro ⟨d, he⟩
    rw [Option.filter_eq_some_iff] at he
    exact ⟨⟨k, v, d⟩, AList.mem_lookup_iff.mp he.1, by rw [if_pos he.2]⟩

theorem mem_keys (db : Keyspace V) (now : Nat) (k : K) :
    k ∈ db.keys now ↔ ∃ v, db.get now k = some v := by
  unfold keys
  rw [List.mem_map]
  constructor
  · rintro ⟨⟨k', v⟩, h, rfl⟩
    exact ⟨v, (mem_scan db now k' v).mp h⟩
  · rintro ⟨v, h⟩
    exact ⟨⟨k, v⟩, (mem_scan db now k v).mpr h, rfl⟩

omit [DecidableEq K] in
theorem keys_eq (db : Keyspace V) (now : Nat) :
    db.keys now = (db.table.entries.filter fun e => e.2.live now).map Sigma.fst := by
  unfold keys scan
  generalize db.table.entries = entries
  induction entries with
  | nil => rfl
  | cons e entries ih =>
    by_cases hlive : e.2.live now = true
    · simp [hlive, ih]
    · simp [hlive, ih]

omit [DecidableEq K] in
/-- A scan lists every live key once, in an order of its own. -/
theorem nodup_keys (db : Keyspace V) (now : Nat) : (db.keys now).Nodup := by
  rw [keys_eq]
  have hsub : ((db.table.entries.filter fun e => e.2.live now).map Sigma.fst).Sublist
      (db.table.entries.map Sigma.fst) := List.filter_sublist.map _
  exact hsub.nodup db.table.nodupKeys

end Keyspace

/-! ## Commands and atomic batches -/

/-- The write vocabulary.  `set` clears an expiry, `setKeep` keeps the one the key has. -/
inductive Command (V : K → Type v)
  | set (k : K) (v : V k)
  | setEx (k : K) (v : V k) (seconds : Nat)
  | setKeep (k : K) (v : V k)
  | del (k : K)

namespace Command

def key : Command V → K
  | .set k _ => k
  | .setEx k _ _ => k
  | .setKeep k _ => k
  | .del k => k

/-- The effect of one command executed at `now`. -/
def run (now : Nat) (db : Keyspace V) : Command V → Keyspace V
  | .set k v => db.put k ⟨v, none⟩
  | .setEx k v seconds => db.put k ⟨v, some (now + seconds)⟩
  | .setKeep k v => db.put k ⟨v, db.deadline now k⟩
  | .del k => db.drop k

theorem entry_run_of_ne (now t : Nat) (db : Keyspace V) (c : Command V) {k : K}
    (h : k ≠ c.key) : (c.run now db).entry t k = db.entry t k := by
  cases c with
  | set k' v => exact Keyspace.entry_put_of_ne db t _ h
  | setEx k' v s => exact Keyspace.entry_put_of_ne db t _ h
  | setKeep k' v => exact Keyspace.entry_put_of_ne db t _ h
  | del k' => exact Keyspace.entry_drop_of_ne db t h

/-- A command touches no key but its own. -/
theorem get_run_of_ne (now t : Nat) (db : Keyspace V) (c : Command V) {k : K}
    (h : k ≠ c.key) : (c.run now db).get t k = db.get t k :=
  Keyspace.get_eq_of_entry_eq (entry_run_of_ne now t db c h)

@[simp] theorem get_set_self (now t : Nat) (db : Keyspace V) (k : K) (v : V k) :
    ((Command.set k v).run now db).get t k = some v := by
  unfold Keyspace.get run
  rw [Keyspace.entry_put_self]; rfl

theorem get_setEx_self (now t : Nat) (db : Keyspace V) (k : K) (v : V k) (s : Nat) :
    ((Command.setEx k v s).run now db).get t k = if t < now + s then some v else none := by
  unfold Keyspace.get run
  rw [Keyspace.entry_put_self, Entry.live_some]
  by_cases h : t < now + s <;> simp [h]

theorem eq_of_get_setKeep {now t : Nat} {db : Keyspace V} {k : K} {v v' : V k}
    (h : ((Command.setKeep k v).run now db).get t k = some v') : v' = v := by
  unfold Keyspace.get run at h
  rw [Keyspace.entry_put_self] at h
  split at h
  · exact (Option.some.inj h).symm
  · cases h

/-- A value that replaces another lasts as long; where there is none, it lasts for ever. -/
theorem get_setKeep_self {now t : Nat} {db : Keyspace V} {k : K} {v : V k}
    (h : db.get now k = none ∨ (db.get t k).isSome = true) :
    ((Command.setKeep k v).run now db).get t k = some v := by
  have hlive : (Entry.mk v (db.deadline now k)).live t = true := by
    unfold Keyspace.deadline
    cases hnow : db.entry now k with
    | none => rfl
    | some e =>
      rcases h with hnone | hsome
      · unfold Keyspace.get at hnone
        rw [hnow] at hnone
        cases hnone
      · obtain ⟨v', hget⟩ := Option.isSome_iff_exists.mp hsome
        obtain ⟨d, he⟩ := (Keyspace.get_eq_some_iff db t k v').mp hget
        unfold Keyspace.entry at he hnow
        rw [Option.filter_eq_some_iff] at he hnow
        obtain rfl := Option.some.inj (hnow.1.symm.trans he.1)
        exact he.2
  unfold Keyspace.get run
  rw [Keyspace.entry_put_self, if_pos hlive]
  rfl

@[simp] theorem get_del_self (now t : Nat) (db : Keyspace V) (k : K) :
    ((Command.del k : Command V).run now db).get t k = none := by
  unfold Keyspace.get run
  rw [Keyspace.entry_drop_self]; rfl

end Command

/-- One atomic batch, executed at `now`. -/
def commit (now : Nat) (db : Keyspace V) (cs : List (Command V)) : Keyspace V :=
  cs.foldl (fun db c => c.run now db) db

@[simp] theorem commit_nil (now : Nat) (db : Keyspace V) : commit now db [] = db := rfl

theorem commit_cons (now : Nat) (db : Keyspace V) (c : Command V) (cs : List (Command V)) :
    commit now db (c :: cs) = commit now (c.run now db) cs := rfl

theorem commit_append (now : Nat) (db : Keyspace V) (cs ds : List (Command V)) :
    commit now db (cs ++ ds) = commit now (commit now db cs) ds := by
  unfold commit; rw [List.foldl_append]

theorem entry_commit_of_forall_ne (now t : Nat) (cs : List (Command V)) (k : K) :
    ∀ db : Keyspace V, (∀ c ∈ cs, k ≠ c.key) → (commit now db cs).entry t k = db.entry t k := by
  induction cs with
  | nil => intro db _; rfl
  | cons c cs ih =>
    intro db h
    rw [commit_cons, ih _ fun d hd => h d (List.mem_cons_of_mem _ hd),
      Command.entry_run_of_ne now t db c (h c List.mem_cons_self)]

/-- Frame: a batch leaves every key it does not name alone. -/
theorem get_commit_of_forall_ne (now t : Nat) (cs : List (Command V)) (k : K)
    (db : Keyspace V) (h : ∀ c ∈ cs, k ≠ c.key) : (commit now db cs).get t k = db.get t k :=
  Keyspace.get_eq_of_entry_eq (entry_commit_of_forall_ne now t cs k db h)

/-- A batch whose only command for `k` leaves `o` there whatever it finds. -/
theorem get_commit_only {now t : Nat} {k : K} {only : Command V} {o : Option (V k)}
    (hkey : only.key = k) (hrun : ∀ db, (only.run now db).get t k = o) (cs : List (Command V)) :
    ∀ db : Keyspace V, (∀ c ∈ cs, c.key = k → c = only) → (only ∈ cs ∨ db.get t k = o) →
      (commit now db cs).get t k = o := by
  induction cs with
  | nil =>
    intro db _ h
    exact h.resolve_left List.not_mem_nil
  | cons c cs ih =>
    intro db honly h
    rw [commit_cons]
    apply ih _ fun d hd => honly d (List.mem_cons_of_mem _ hd)
    by_cases hk : c.key = k
    · rw [honly c List.mem_cons_self hk]
      exact Or.inr (hrun db)
    · rw [Command.get_run_of_ne now t db c (Ne.symm hk)]
      refine h.imp (fun hmem => ?_) id
      rcases List.mem_cons.mp hmem with rfl | hcs
      · exact absurd hkey hk
      · exact hcs

/-- A batch whose only command for `k` is one `SET` leaves that record there. -/
theorem get_commit_set (now t : Nat) {k : K} {v : V k} (cs : List (Command V)) :
    ∀ db : Keyspace V, (∀ c ∈ cs, c.key = k → c = .set k v) →
      (Command.set k v ∈ cs ∨ db.get t k = some v) → (commit now db cs).get t k = some v :=
  get_commit_only rfl (fun db => Command.get_set_self now t db k v) cs

/-- A batch that removes `k`, and does nothing else to it, leaves it absent. -/
theorem get_commit_del (now t : Nat) {k : K} (cs : List (Command V)) :
    ∀ db : Keyspace V, (∀ c ∈ cs, c.key = k → c = .del k) →
      (Command.del k ∈ cs ∨ db.get t k = none) → (commit now db cs).get t k = none :=
  get_commit_only rfl (fun db => Command.get_del_self now t db k) cs

/-- What is read under a key that a batch at most deletes could be read before. -/
theorem get_of_get_commit_del (now t : Nat) {k : K} {v : V k} (cs : List (Command V))
    (db : Keyspace V) (honly : ∀ c ∈ cs, c.key = k → c = .del k)
    (h : (commit now db cs).get t k = some v) : db.get t k = some v := by
  by_cases hmem : Command.del k ∈ cs
  · rw [get_commit_del now t cs db honly (Or.inl hmem)] at h
    cases h
  · rw [get_commit_of_forall_ne now t cs k db] at h
    · exact h
    · intro c hc hkey
      exact hmem (honly c hc hkey.symm ▸ hc)

theorem Command.entry_run_congr (now : Nat) {db db' : Keyspace V} (c : Command V) {k : K}
    (h : ∀ t, db.entry t k = db'.entry t k) (t : Nat) :
    (c.run now db).entry t k = (c.run now db').entry t k := by
  by_cases hk : k = c.key
  · subst hk
    cases c with
    | set k v => exact (Keyspace.entry_put_self db t k _).trans (Keyspace.entry_put_self db' t k _).symm
    | setEx k v s =>
      exact (Keyspace.entry_put_self db t k _).trans (Keyspace.entry_put_self db' t k _).symm
    | setKeep k v =>
      have hdeadline : db.deadline now k = db'.deadline now k := congrArg (·.bind Entry.deadline) (h now)
      show (db.put k ⟨v, db.deadline now k⟩).entry t k = (db'.put k ⟨v, db'.deadline now k⟩).entry t k
      rw [hdeadline, Keyspace.entry_put_self, Keyspace.entry_put_self]
    | del k => exact (Keyspace.entry_drop_self db t k).trans (Keyspace.entry_drop_self db' t k).symm
  · rw [entry_run_of_ne now t db c hk, entry_run_of_ne now t db' c hk, h t]

/-- What a batch does to a key depends only on its commands for keys like it. -/
theorem entry_commit_filter (p : K → Bool) (now : Nat) {k : K} (hk : p k = true)
    (cs : List (Command V)) :
    ∀ {db db' : Keyspace V}, (∀ t, db.entry t k = db'.entry t k) → ∀ t,
      (commit now db cs).entry t k = (commit now db' (cs.filter fun c => p c.key)).entry t k := by
  induction cs with
  | nil => intro db db' h t; exact h t
  | cons c cs ih =>
    intro db db' h t
    rw [commit_cons, List.filter_cons]
    split
    · rw [commit_cons]
      exact ih (c.entry_run_congr now h) t
    · next hc =>
      refine ih (fun t => ?_) t
      have hne : k ≠ c.key := fun heq => hc (heq ▸ hk)
      rw [Command.entry_run_of_ne now t db c hne, h t]

theorem get_commit_filter (p : K → Bool) (now t : Nat) {k : K} (hk : p k = true)
    (cs : List (Command V)) (db : Keyspace V) :
    (commit now db cs).get t k = (commit now db (cs.filter fun c => p c.key)).get t k :=
  Keyspace.get_eq_of_entry_eq (entry_commit_filter p now hk cs (fun _ => rfl) t)

/-! ## What a batch stores -/

/-- `P` holds of the record a command stores, if it stores one. -/
def Command.Stores (P : ∀ k, V k → Prop) : Command V → Prop
  | .set k v => P k v
  | .setEx k v _ => P k v
  | .setKeep k v => P k v
  | .del _ => True

omit [DecidableEq K] in
theorem Command.stores_of_forall {P : ∀ k, V k → Prop} (h : ∀ k v, P k v) (c : Command V) :
    c.Stores P := by
  cases c with
  | set k v => exact h k v
  | setEx k v s => exact h k v
  | setKeep k v => exact h k v
  | del k => trivial

theorem Keyspace.get_put_self_eq_some {db : Keyspace V} {t : Nat} {k : K} {e : Entry (V k)}
    {v : V k} (h : (db.put k e).get t k = some v) : e.value = v := by
  unfold Keyspace.get at h
  rw [entry_put_self] at h
  split at h
  · exact Option.some.inj h
  · cases h

theorem forall_get_run {P : ∀ k, V k → Prop} (now : Nat) {db : Keyspace V} {c : Command V}
    (hc : c.Stores P) (hdb : ∀ k t v, db.get t k = some v → P k v) :
    ∀ k t v, (c.run now db).get t k = some v → P k v := by
  intro k t v hv
  by_cases hk : k = c.key
  · subst hk
    cases c with
    | set k w => exact Keyspace.get_put_self_eq_some hv ▸ hc
    | setEx k w s => exact Keyspace.get_put_self_eq_some hv ▸ hc
    | setKeep k w => exact Keyspace.get_put_self_eq_some hv ▸ hc
    | del k => exact absurd ((Command.get_del_self now t db k).symm.trans hv) (by simp)
  · rw [Command.get_run_of_ne now t db c hk] at hv
    exact hdb k t v hv

/-- What holds of every record, and of every record the batch stores, holds afterwards. -/
theorem forall_get_commit {P : ∀ k, V k → Prop} (now : Nat) (cs : List (Command V)) :
    ∀ db : Keyspace V, (∀ c ∈ cs, c.Stores P) → (∀ k t v, db.get t k = some v → P k v) →
      ∀ k t v, (commit now db cs).get t k = some v → P k v := by
  induction cs with
  | nil => intro db _ hdb; exact hdb
  | cons c cs ih =>
    intro db hcs hdb
    rw [commit_cons]
    exact ih _ (fun d hd => hcs d (List.mem_cons_of_mem _ hd))
      (forall_get_run now (hcs c List.mem_cons_self) hdb)

/-- The command stores `v` under `k`. -/
inductive Command.Puts (k : K) (v : V k) : Command V → Prop
  | set : Puts k v (.set k v)
  | setEx (seconds : Nat) : Puts k v (.setEx k v seconds)
  | setKeep : Puts k v (.setKeep k v)

/-- What is read after a batch was there before, or a command of the batch stored it. -/
theorem get_commit_cases (now t : Nat) {k : K} {v : V k} (cs : List (Command V)) :
    ∀ db : Keyspace V, (commit now db cs).get t k = some v →
      db.get t k = some v ∨ ∃ c ∈ cs, c.Puts k v := by
  induction cs with
  | nil => intro db h; exact Or.inl h
  | cons c cs ih =>
    intro db h
    rw [commit_cons] at h
    rcases ih _ h with hrun | ⟨d, hd, hputs⟩
    · by_cases hk : k = c.key
      · subst hk
        cases c with
        | set k w =>
          obtain rfl := Keyspace.get_put_self_eq_some hrun
          exact Or.inr ⟨_, List.mem_cons_self, .set⟩
        | setEx k w s =>
          obtain rfl := Keyspace.get_put_self_eq_some hrun
          exact Or.inr ⟨_, List.mem_cons_self, .setEx s⟩
        | setKeep k w =>
          obtain rfl := Keyspace.get_put_self_eq_some hrun
          exact Or.inr ⟨_, List.mem_cons_self, .setKeep⟩
        | del k => exact absurd ((Command.get_del_self now t db k).symm.trans hrun) (by simp)
      · rw [Command.get_run_of_ne now t db c hk] at hrun
        exact Or.inl hrun
    · exact Or.inr ⟨d, List.mem_cons_of_mem _ hd, hputs⟩

/-! ## The expiries a batch leaves -/

/-- `P` holds of the key a command writes and of every expiry it can leave there, if that
    holds of the one the key has. -/
def Command.Leaves (P : K → Option Nat → Prop) : Command V → Prop
  | .set k _ => P k none
  | .setEx k _ _ => ∀ d, P k (some d)
  | .setKeep k _ => P k none
  | .del _ => True

section

omit [DecidableEq K]

variable {P : K → Option Nat → Prop} (k : K) (v : V k)

@[simp] theorem Command.leaves_set : (Command.set k v).Leaves P ↔ P k none := Iff.rfl

@[simp] theorem Command.leaves_setEx (s : Nat) :
    (Command.setEx k v s).Leaves P ↔ ∀ d, P k (some d) := Iff.rfl

@[simp] theorem Command.leaves_setKeep : (Command.setKeep k v).Leaves P ↔ P k none := Iff.rfl

@[simp] theorem Command.leaves_del : (Command.del k : Command V).Leaves P := trivial

end

omit [DecidableEq K] in
theorem Command.Leaves.mono {P Q : K → Option Nat → Prop} {c : Command V} (h : c.Leaves P)
    (hPQ : ∀ k d, P k d → Q k d) : c.Leaves Q := by
  cases c with
  | set k v => exact hPQ k none h
  | setEx k v s => exact fun d => hPQ k (some d) (h d)
  | setKeep k v => exact hPQ k none h
  | del k => trivial

theorem Keyspace.entry_put_self_eq_some {db : Keyspace V} {t : Nat} {k : K} {e e' : Entry (V k)}
    (h : (db.put k e).entry t k = some e') : e = e' := by
  rw [entry_put_self] at h
  split at h
  · exact Option.some.inj h
  · cases h

theorem forall_entry_run {P : K → Option Nat → Prop} (now : Nat) {db : Keyspace V} {c : Command V}
    (hc : c.Leaves P) (hdb : ∀ k t e, db.entry t k = some e → P k e.deadline) :
    ∀ k t e, (c.run now db).entry t k = some e → P k e.deadline := by
  intro k t e he
  by_cases hk : k = c.key
  · subst hk
    cases c with
    | set k v => exact Keyspace.entry_put_self_eq_some he ▸ hc
    | setEx k v s => exact Keyspace.entry_put_self_eq_some he ▸ hc _
    | setKeep k v =>
      rw [← Keyspace.entry_put_self_eq_some he]
      show P k (db.deadline now k)
      unfold Keyspace.deadline
      cases hold : db.entry now k with
      | none => exact hc
      | some old => exact hdb k now old hold
    | del k => exact absurd ((Keyspace.entry_drop_self db t k).symm.trans he) (by simp)
  · rw [Command.entry_run_of_ne now t db c hk] at he
    exact hdb k t e he

/-- What holds of every key and its expiry, and of those the batch leaves, holds afterwards. -/
theorem forall_entry_commit {P : K → Option Nat → Prop} (now : Nat) (cs : List (Command V)) :
    ∀ db : Keyspace V, (∀ c ∈ cs, c.Leaves P) →
      (∀ k t e, db.entry t k = some e → P k e.deadline) →
      ∀ k t e, (commit now db cs).entry t k = some e → P k e.deadline := by
  induction cs with
  | nil => intro db _ hdb; exact hdb
  | cons c cs ih =>
    intro db hcs hdb
    rw [commit_cons]
    exact ih _ (fun d hd => hcs d (List.mem_cons_of_mem _ hd))
      (forall_entry_run now (hcs c List.mem_cons_self) hdb)

end RustyAuth.Library
