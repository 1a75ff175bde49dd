/-
  Groups by key: an ordered map from keys to what is gathered under them.

  `alter` is the change of one entry of an ordered map, made from nothing if there is none, and
  `gather` puts the items of a list under their keys, one by one.  Gathering neither loses nor
  repeats an item (`sum_gather`, `mem_gather`), and what is made of the gathered items may as
  well be made as they come (`map_gather`).
-/
import Mathlib.Algebra.Order.BigOperators.Group.List
import Mathlib.Algebra.GroupWithZero.Nat
import Mathlib.Data.List.Sort

namespace RustyAuth.Library

universe u v w

variable {K : Type u} [LinearOrder K] {α : Type v} {β : Type w}

/-- `entry(k).or_default()` of an ordered map, and a change of what is there. -/
def alter (k : K) (f : Option α → α) : List (K × α) → List (K × α)
  | [] => [(k, f none)]
  | (k', a) :: rest =>
      if k < k' then (k, f none) :: (k', a) :: rest
      else if k = k' then (k', f (some a)) :: rest
      else (k', a) :: alter k f rest

section

variable {k k' : K} {f : Option α → α}

theorem mem_alter {e : K × α} {m : List (K × α)} (h : e ∈ alter k f m) :
    e ∈ m ∨ e.1 = k ∧ (e.2 = f none ∨ ∃ a, (k, a) ∈ m ∧ e.2 = f (some a)) := by
  induction m with
  | nil =>
    rw [List.mem_singleton.mp h]
    exact Or.inr ⟨rfl, Or.inl rfl⟩
  | cons entry rest ih =>
    obtain ⟨k', a⟩ := entry
    unfold alter at h
    split at h
    · rcases List.mem_cons.mp h with rfl | h
      · exact Or.inr ⟨rfl, Or.inl rfl⟩
      · exact Or.inl h
    · split at h
      · next heq =>
        subst heq
        rcases List.mem_cons.mp h with rfl | h
        · exact Or.inr ⟨rfl, Or.inr ⟨a, List.mem_cons_self, rfl⟩⟩
        · exact Or.inl (List.mem_cons_of_mem _ h)
      · rcases List.mem_cons.mp h with rfl | h
        · exact Or.inl List.mem_cons_self
        · rcases ih h with h | ⟨hk, hnone | ⟨b, hb, hsome⟩⟩
          · exact Or.inl (List.mem_cons_of_mem _ h)
          · exact Or.inr ⟨hk, Or.inl hnone⟩
          · exact Or.inr ⟨hk, Or.inr ⟨b, List.mem_cons_of_mem _ hb, hsome⟩⟩

/-- An ordered map stays ordered. -/
theorem pairwise_alter {m : List (K × α)} (h : m.Pairwise (·.1 < ·.1)) :
    (alter k f m).Pairwise (·.1 < ·.1) := by
  induction m with
  | nil => exact List.pairwise_singleton _ _
  | cons entry rest ih =>
    obtain ⟨k', a⟩ := entry
    obtain ⟨hfirst, hrest⟩ := List.pairwise_cons.mp h
    unfold alter
    split
    · next hlt =>
      refine List.pairwise_cons.mpr ⟨fun e he => ?_, h⟩
      rcases List.mem_cons.mp he with rfl | he
      · exact hlt
      · exact hlt.trans (hfirst e he)
    · next hge =>
      split
      · exact List.pairwise_cons.mpr ⟨hfirst, hrest⟩
      · next hne =>
        refine List.pairwise_cons.mpr ⟨fun e he => ?_, ih hrest⟩
        rcases mem_alter he with he | ⟨hk, _⟩
        · exact hfirst e he
        · rw [hk]
          exact lt_of_le_of_ne (not_lt.mp hge) (Ne.symm hne)

/-- A change of what is there leaves the keys. -/
theorem keys_alter {m : List (K × α)} (h : m.Pairwise (·.1 < ·.1)) (hk : k ∈ m.map Prod.fst) :
    (alter k f m).map Prod.fst = m.map Prod.fst := by
  induction m with
  | nil => cases hk
  | cons entry rest ih =>
    obtain ⟨k', a⟩ := entry
    obtain ⟨hfirst, hrest⟩ := List.pairwise_cons.mp h
    unfold alter
    rw [List.map_cons, List.mem_cons] at hk
    split
    · next hlt =>
      -- a key before the first one is not there
      rcases hk with rfl | hk
      · exact absurd hlt (lt_irrefl _)
      · obtain ⟨e, he, rfl⟩ := List.mem_map.mp hk
        exact absurd (hlt.trans (hfirst e he)) (lt_irrefl _)
    · split
      · rfl
      · next hne =>
        rw [List.map_cons, List.map_cons, ih hrest (hk.resolve_left hne)]

/-- A key after all others comes last. -/
theorem alter_append {m : List (K × α)} (h : ∀ e ∈ m, e.1 < k) :
    alter k f m = m ++ [(k, f none)] := by
  induction m with
  | nil => rfl
  | cons entry rest ih =>
    obtain ⟨k', a⟩ := entry
    obtain ⟨hfirst, hrest⟩ := List.forall_mem_cons.mp h
    unfold alter
    rw [if_neg (not_lt_of_gt hfirst), if_neg (ne_of_gt hfirst), ih hrest, List.cons_append]

theorem map_alter {g : α → β} {f' : Option β → β} (h : ∀ o, g (f o) = f' (o.map g))
    (m : List (K × α)) :
    (alter k f m).map (Prod.map id g) = alter k f' (m.map (Prod.map id g)) := by
  induction m with
  | nil =>
    show [(k, g (f none))] = [(k, f' none)]
    rw [h]
    rfl
  | cons entry rest ih =>
    obtain ⟨k', a⟩ := entry
    simp only [alter, List.map_cons, Prod.map_apply, id_eq]
    split
    · rw [List.map_cons, Prod.map_apply, h]
      rfl
    · split
      · rw [List.map_cons, Prod.map_apply, h]
        rfl
      · rw [List.map_cons, ih]
        rfl

end

/-! ## Gathering -/

section

variable (key : β → K)

/-- Put the items under their keys, in the order in which they come. -/
def gather (m : List (K × List β)) (l : List β) : List (K × List β) :=
  l.foldl (fun m b => alter (key b) (fun gathered => gathered.getD [] ++ [b]) m) m

variable {key}

theorem gather_cons (m : List (K × List β)) (b : β) (l : List β) :
    gather key m (b :: l) =
      gather key (alter (key b) (fun gathered => gathered.getD [] ++ [b]) m) l := rfl

theorem sum_alter (measure : β → Nat) (k : K) (b : β) (m : List (K × List β)) :
    ((alter k (fun gathered => gathered.getD [] ++ [b]) m).map
        fun e => (e.2.map measure).sum).sum =
      (m.map fun e => (e.2.map measure).sum).sum + measure b := by
  induction m with
  | nil => simp [alter]
  | cons entry rest ih =>
    obtain ⟨k', a⟩ := entry
    unfold alter
    split
    · simp [Nat.add_comm]
    · split
      · simp [Nat.add_right_comm]
      · rw [List.map_cons, List.sum_cons, List.map_cons, List.sum_cons, ih, Nat.add_assoc]

variable (key) in
/-- Whatever is counted of the items, the groups together have as much as the list. -/
theorem sum_gather (measure : β → Nat) (m : List (K × List β)) (l : List β) :
    ((gather key m l).map fun e => (e.2.map measure).sum).sum =
      (m.map fun e => (e.2.map measure).sum).sum + (l.map measure).sum := by
  induction l generalizing m with
  | nil => rfl
  | cons b l ih =>
    rw [gather_cons, ih, sum_alter, List.map_cons, List.sum_cons, Nat.add_assoc]

theorem mem_gather {m : List (K × List β)} {l : List β} {e : K × List β} {b : β}
    (he : e ∈ gather key m l) (hb : b ∈ e.2) : b ∈ l ∨ ∃ e' ∈ m, b ∈ e'.2 := by
  induction l generalizing m with
  | nil => exact Or.inr ⟨e, he, hb⟩
  | cons c l ih =>
    rw [gather_cons] at he
    rcases ih he with hl | ⟨e', he', hb'⟩
    · exact Or.inl (List.mem_cons_of_mem _ hl)
    · rcases mem_alter he' with hm | ⟨_, hnew⟩
      · exact Or.inr ⟨e', hm, hb'⟩
      · rcases hnew with hnone | ⟨a, ha, hsome⟩
        · rw [hnone, Option.getD_none, List.nil_append, List.mem_singleton] at hb'
          exact Or.inl (hb' ▸ List.mem_cons_self)
        · rw [hsome, Option.getD_some, List.mem_append, List.mem_singleton] at hb'
          rcases hb' with hb' | rfl
          · exact Or.inr ⟨_, ha, hb'⟩
          · exact Or.inl List.mem_cons_self

/-- Items whose keys are all there leave the keys. -/
theorem keys_gather {m : List (K × List β)} {l : List β} (h : m.Pairwise (·.1 < ·.1))
    (hkeys : ∀ b ∈ l, key b ∈ m.map Prod.fst) :
    (gather key m l).map Prod.fst = m.map Prod.fst := by
  induction l generalizing m with
  | nil => rfl
  | cons b l ih =>
    have hsame := keys_alter (f := fun gathered => gathered.getD [] ++ [b]) h
      (hkeys b List.mem_cons_self)
    rw [gather_cons, ih (pairwise_alter h), hsame]
    intro c hc
    rw [hsame]
    exact hkeys c (List.mem_cons_of_mem _ hc)

/-- What is made of the items of a group may be made while they come. -/
theorem map_gather (add : α → β → α) (init : α) (m : List (K × List β)) (l : List β) :
    (gather key m l).map (Prod.map id (List.foldl add init)) =
      l.foldl (fun m b => alter (key b) (fun made => add (made.getD init) b) m)
        (m.map (Prod.map id (List.foldl add init))) := by
  induction l generalizing m with
  | nil => rfl
  | cons b l ih =>
    let next := fun made : Option α => add (made.getD init) b
    have hnext : ∀ gathered : Option (List β), (gathered.getD [] ++ [b]).foldl add init =
        next (gathered.map (List.foldl add init)) := by
      intro gathered
      rw [List.foldl_append]
      cases gathered <;> rfl
    rw [gather_cons, ih, List.foldl_cons, map_alter hnext]

end

end RustyAuth.Library
