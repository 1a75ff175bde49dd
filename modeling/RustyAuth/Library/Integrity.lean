/-
  Referential integrity of a keyspace.

  Records refer to each other by key.  What a reference may rely on is the identity of
  the record it points to (`same`), not the whole record, so the law a record obeys
  (`ok`) must survive every change that keeps identities; a `Discipline` carries the
  proof that it does.  Then a batch keeps the keyspace sound as soon as

  * it replaces a record only by one of the same identity, and
  * each record it writes obeys its law in the state after the batch

  (`Sound.commit`); nothing has to be said about the records the batch leaves alone.
  The laws are about the lasting keys, those that are never given an expiry.
-/
import RustyAuth.Library.Keyspace

namespace RustyAuth.Library

universe u v

variable {K : Type u} [DecidableEq K] {V : K → Type v}

/-! ## Lasting records -/

namespace Keyspace

/-- The record stored under `k`, if it carries no expiry. -/
def lasting (db : Keyspace V) (k : K) : Option (V k) :=
  (db.table.lookup k).bind fun e => if e.deadline = none then some e.value else none

theorem lasting_put_self (db : Keyspace V) (k : K) (v : V k) :
    (db.put k ⟨v, none⟩).lasting k = some v := by
  unfold lasting put
  rw [AList.lookup_insert]; rfl

theorem lasting_put_of_ne (db : Keyspace V) {k k' : K} (e : Entry (V k')) (h : k ≠ k') :
    (db.put k' e).lasting k = db.lasting k := by
  unfold lasting put
  rw [AList.lookup_insert_ne h]

theorem lasting_drop_of_ne (db : Keyspace V) {k k' : K} (h : k ≠ k') :
    (db.drop k').lasting k = db.lasting k := by
  unfold lasting drop
  rw [AList.lookup_erase_ne h]

/-- No key of the family `D` carries an expiry. -/
def Lasts (D : K → Prop) (db : Keyspace V) : Prop :=
  ∀ k, D k → ∀ e, db.table.lookup k = some e → e.deadline = none

theorem lasts_empty (D : K → Prop) : Lasts D (empty : Keyspace V) := by
  intro k _ e h
  cases h

/-- A reader sees a lasting record at every time. -/
theorem Lasts.get_eq {D : K → Prop} {db : Keyspace V} (h : Lasts D db) {k : K} (hk : D k)
    (t : Nat) : db.get t k = db.lasting k := by
  unfold get entry lasting
  cases he : db.table.lookup k with
  | none => rfl
  | some e =>
    obtain ⟨a, d⟩ := e
    obtain rfl : d = none := h k hk _ he
    rfl

end Keyspace

/-! ## Batches -/

namespace Command

/-- The command gives no key of `D` an expiry and removes none. -/
def Lasts (D : K → Prop) : Command V → Prop
  | .set _ _ => True
  | c => ¬ D c.key

theorem lasts_run {D : K → Prop} (now : Nat) {db : Keyspace V} {c : Command V}
    (hdb : db.Lasts D) (hc : c.Lasts D) : (c.run now db).Lasts D := by
  intro k hk e he
  by_cases hkey : k = c.key
  · subst hkey
    cases c with
    | set k v =>
      have he' : (db.table.insert k ⟨v, none⟩).lookup k = some e := he
      rw [AList.lookup_insert] at he'
      cases he'
      rfl
    | setEx k v s => exact absurd hk hc
    | setKeep k v => exact absurd hk hc
    | del k => exact absurd hk hc
  · refine hdb k hk e ?_
    rw [← he]
    cases c with
    | set k' v => exact (AList.lookup_insert_ne hkey).symm
    | setEx k' v s => exact (AList.lookup_insert_ne hkey).symm
    | setKeep k' v => exact (AList.lookup_insert_ne hkey).symm
    | del k' => exact (AList.lookup_erase_ne hkey).symm

theorem lasting_run_of_ne (now : Nat) (db : Keyspace V) (c : Command V) {k : K}
    (h : k ≠ c.key) : (c.run now db).lasting k = db.lasting k := by
  cases c with
  | set k' v => exact Keyspace.lasting_put_of_ne db _ h
  | setEx k' v s => exact Keyspace.lasting_put_of_ne db _ h
  | setKeep k' v => exact Keyspace.lasting_put_of_ne db _ h
  | del k' => exact Keyspace.lasting_drop_of_ne db h

end Command

theorem lasts_commit {D : K → Prop} (now : Nat) (cs : List (Command V)) :
    ∀ db : Keyspace V, db.Lasts D → (∀ c ∈ cs, c.Lasts D) → (commit now db cs).Lasts D := by
  induction cs with
  | nil => intro db hdb _; exact hdb
  | cons c cs ih =>
    intro db hdb h
    rw [commit_cons]
    exact ih _ (Command.lasts_run now hdb (h c List.mem_cons_self))
      fun d hd => h d (List.mem_cons_of_mem _ hd)

theorem lasting_commit_of_forall_ne (now : Nat) (cs : List (Command V)) (k : K) :
    ∀ db : Keyspace V, (∀ c ∈ cs, k ≠ c.key) → (commit now db cs).lasting k = db.lasting k := by
  induction cs with
  | nil => intro db _; rfl
  | cons c cs ih =>
    intro db h
    rw [commit_cons, ih _ fun d hd => h d (List.mem_cons_of_mem _ hd),
      Command.lasting_run_of_ne now db c (h c List.mem_cons_self)]

/-- A lasting key of a batch holds one of the values the batch sets it to. -/
theorem lasting_commit_of_exists {D : K → Prop} (now : Nat) (cs : List (Command V)) (k : K)
    (hk : D k) : ∀ db : Keyspace V, (∀ c ∈ cs, c.Lasts D) → (∃ c ∈ cs, k = c.key) →
      ∃ v, Command.set k v ∈ cs ∧ (commit now db cs).lasting k = some v := by
  induction cs with
  | nil => rintro db _ ⟨c, hc, _⟩; cases hc
  | cons c cs ih =>
    intro db h hex
    have hcs : ∀ d ∈ cs, d.Lasts D := fun d hd => h d (List.mem_cons_of_mem _ hd)
    rw [commit_cons]
    by_cases hrest : ∃ d ∈ cs, k = d.key
    · obtain ⟨v, hv, hl⟩ := ih (c.run now db) hcs hrest
      exact ⟨v, List.mem_cons_of_mem _ hv, hl⟩
    · -- `c` is the last command on `k`, and on a lasting key it can only be a `set`
      have hne : ∀ d ∈ cs, k ≠ d.key := fun d hd he => hrest ⟨d, hd, he⟩
      have hkey : k = c.key := by
        obtain ⟨d, hd, he⟩ := hex
        rcases List.mem_cons.mp hd with rfl | hd
        · exact he
        · exact absurd he (hne d hd)
      rw [lasting_commit_of_forall_ne now cs k _ hne]
      have hc := h c List.mem_cons_self
      subst hkey
      cases c with
      | set k v => exact ⟨v, List.mem_cons_self, Keyspace.lasting_put_self db k v⟩
      | setEx k v s => exact absurd hk hc
      | setKeep k v => exact absurd hk hc
      | del k => exact absurd hk hc

/-! ## Disciplines -/

/-- Every record of `db` under the keys of `D` is still there in `db'`, with its identity. -/
def Grows (D : K → Prop) (same : ∀ k, V k → V k → Prop) (db db' : Keyspace V) : Prop :=
  ∀ k, D k → ∀ v, db.lasting k = some v → ∃ v', db'.lasting k = some v' ∧ same k v v'

/-- The lasting keys, what references rely on (`same`) and the law each record obeys
    (`ok`), which survives every change that keeps identities. -/
structure Discipline (V : K → Type v) where
  D : K → Prop
  same : ∀ k, V k → V k → Prop
  same_refl : ∀ k v, same k v v
  ok : Keyspace V → ∀ k, V k → Prop
  ok_mono : ∀ db db', Grows D same db db' → ∀ k v, ok db k v → ok db' k v

namespace Discipline

/-- Lasting keys never lapse and every record a reader can see obeys its law. -/
structure Sound (d : Discipline V) (db : Keyspace V) : Prop where
  lasts : db.Lasts d.D
  ok : ∀ k t v, db.get t k = some v → d.ok db k v

/-- The batch replaces a lasting record only by one of the same identity. -/
def Keeps (d : Discipline V) (db : Keyspace V) (cs : List (Command V)) : Prop :=
  ∀ c ∈ cs, c.Stores fun k v => d.D k → ∀ old, db.lasting k = some old → d.same k old v

variable {d : Discipline V}

theorem sound_empty : d.Sound Keyspace.empty where
  lasts := Keyspace.lasts_empty d.D
  ok := by
    intro k t v h
    cases h

theorem grows_commit (now : Nat) {db : Keyspace V} {cs : List (Command V)}
    (hlasts : ∀ c ∈ cs, c.Lasts d.D) (hkeeps : d.Keeps db cs) :
    Grows d.D d.same db (Library.commit now db cs) := by
  intro k hk v hv
  by_cases hex : ∃ c ∈ cs, k = c.key
  · obtain ⟨w, hw, hl⟩ := lasting_commit_of_exists now cs k hk db hlasts hex
    exact ⟨w, hl, hkeeps _ hw hk v hv⟩
  · refine ⟨v, ?_, d.same_refl k v⟩
    rw [lasting_commit_of_forall_ne now cs k db fun c hc he => hex ⟨c, hc, he⟩, hv]

/-- A batch that keeps identities and whose own records obey their laws afterwards
    keeps the keyspace sound. -/
theorem Sound.commit {now : Nat} {db : Keyspace V} {cs : List (Command V)}
    (h : d.Sound db) (hlasts : ∀ c ∈ cs, c.Lasts d.D) (hkeeps : d.Keeps db cs)
    (hnew : ∀ c ∈ cs, c.Stores (d.ok (Library.commit now db cs))) :
    d.Sound (Library.commit now db cs) where
  lasts := lasts_commit now cs db h.lasts hlasts
  ok := forall_get_commit now cs db hnew fun k t v hv =>
    d.ok_mono db _ (grows_commit now hlasts hkeeps) k v (h.ok k t v hv)

end Discipline

end RustyAuth.Library
