/-
  Histograms of cumulative counts.

  `atMost values bound` is what a cumulative histogram counts under a bound, and `ranked values
  rank` is the exact order statistic.  The two meet in `ranked_le_iff`: the value of a rank is
  within a bound iff the bound's count reaches the rank.  So the first bound whose count reaches
  the rank is the least bound of the exact value (`find?_eq_some_iff_isLeast`).
-/
import Mathlib.Data.List.Sort
import Mathlib.Order.Bounds.Basic

namespace RustyAuth.Library

/-! ## Counts and ranks -/

def atMost (values : List Nat) (bound : Nat) : Nat := values.countP (decide <| · ≤ bound)

/-- The value of a rank, counted from one. -/
def ranked (values : List Nat) (rank : Nat) : Nat :=
  (values.insertionSort (· ≤ ·)).getD (rank - 1) 0

theorem atMost_mono (values : List Nat) {bound bound' : Nat} (h : bound ≤ bound') :
    atMost values bound ≤ atMost values bound' := by
  refine List.countP_mono_left fun value _ hvalue => ?_
  rw [decide_eq_true_eq] at hvalue ⊢
  exact hvalue.trans h

theorem atMost_eq_zero {values : List Nat} {bound : Nat} (h : ∀ value ∈ values, bound < value) :
    atMost values bound = 0 := by
  refine List.countP_eq_zero.mpr fun value hvalue => ?_
  rw [decide_eq_true_eq]
  exact Nat.not_le.mpr (h value hvalue)

theorem atMost_cons (value : Nat) (values : List Nat) (bound : Nat) :
    atMost (value :: values) bound = atMost values bound + if value ≤ bound then 1 else 0 := by
  unfold atMost
  rw [List.countP_cons]
  simp only [decide_eq_true_eq]

/-- In an ordered list the values within the bound come first. -/
theorem getElem_le_iff_of_sorted {values : List Nat} (h : values.Pairwise (· ≤ ·)) {i : Nat}
    (hi : i < values.length) (bound : Nat) : values[i] ≤ bound ↔ i < atMost values bound := by
  induction values generalizing i with
  | nil => cases hi
  | cons value values ih =>
    obtain ⟨hfirst, hrest⟩ := List.pairwise_cons.mp h
    rw [atMost_cons]
    by_cases hvalue : value ≤ bound
    · rw [if_pos hvalue]
      cases i with
      | zero => exact iff_of_true hvalue (Nat.succ_pos _)
      | succ i =>
        rw [List.getElem_cons_succ, ih hrest, Nat.add_lt_add_iff_right]
    · -- the first value exceeds the bound, and so does every later one
      have hnone : atMost values bound = 0 :=
        atMost_eq_zero fun later hlater => (Nat.not_le.mp hvalue).trans_le (hfirst later hlater)
      rw [if_neg hvalue, hnone]
      refine iff_of_false (fun hle => hvalue ?_) (Nat.not_lt_zero i)
      cases i with
      | zero => exact hle
      | succ i => exact (hfirst _ (List.getElem_mem _)).trans hle

/-- The value of a rank is within a bound iff the count under the bound reaches the rank. -/
theorem ranked_le_iff {values : List Nat} {rank : Nat} (hpos : 0 < rank)
    (hle : rank ≤ values.length) (bound : Nat) :
    ranked values rank ≤ bound ↔ rank ≤ atMost values bound := by
  have hperm := List.perm_insertionSort (· ≤ ·) values
  have hlt : rank - 1 < (values.insertionSort (· ≤ ·)).length := by
    rw [hperm.length_eq]
    omega
  have hcount : atMost (values.insertionSort (· ≤ ·)) bound = atMost values bound :=
    hperm.countP_eq _
  unfold ranked
  rw [List.getD_eq_getElem?_getD, List.getElem?_eq_getElem hlt, Option.getD_some,
    getElem_le_iff_of_sorted (List.pairwise_insertionSort (· ≤ ·) values) hlt, hcount]
  omega

/-! ## The first bound -/

/-- The first of increasing bounds with a property is the least one. -/
theorem find?_eq_some_iff_isLeast {bounds : List Nat} (h : bounds.Pairwise (· < ·))
    (p : Nat → Bool) (bound : Nat) :
    bounds.find? p = some bound ↔ IsLeast {b | b ∈ bounds ∧ p b = true} bound := by
  induction bounds with
  | nil => exact iff_of_false (fun h => by cases h) fun h => by cases h.1.1
  | cons first rest ih =>
    obtain ⟨hfirst, hrest⟩ := List.pairwise_cons.mp h
    cases hp : p first with
    | true =>
      rw [List.find?_cons_of_pos hp, Option.some_inj]
      have hleast : IsLeast {b | b ∈ first :: rest ∧ p b = true} first := by
        refine ⟨⟨List.mem_cons_self, hp⟩, fun b hb => ?_⟩
        rcases List.mem_cons.mp hb.1 with rfl | hmem
        · exact Nat.le_refl _
        · exact (hfirst b hmem).le
      exact ⟨fun heq => heq ▸ hleast, fun hbound => hleast.unique hbound⟩
    | false =>
      have hsame : {b | b ∈ first :: rest ∧ p b = true} = {b | b ∈ rest ∧ p b = true} := by
        ext b
        constructor
        · rintro ⟨hmem, hb⟩
          rcases List.mem_cons.mp hmem with rfl | hmem
          · rw [hp] at hb
            cases hb
          · exact ⟨hmem, hb⟩
        · rintro ⟨hmem, hb⟩
          exact ⟨List.mem_cons_of_mem _ hmem, hb⟩
      rw [List.find?_cons_of_neg (by rw [hp]; exact Bool.false_ne_true), ih hrest, hsame]

/-- Looking through bounds and their counts together is looking through the bounds. -/
theorem findSome?_zip_map (bounds rest : List Nat) (count : Nat → Nat) (rank : Nat) :
    ((bounds.zip (bounds.map count ++ rest)).findSome? fun e =>
        if rank ≤ e.2 then some e.1 else none) =
      bounds.find? (decide <| rank ≤ count ·) := by
  induction bounds with
  | nil => rfl
  | cons bound bounds ih =>
    rw [List.map_cons, List.cons_append, List.zip_cons_cons, List.findSome?_cons, ih]
    dsimp only
    by_cases h : rank ≤ count bound
    · rw [if_pos h, List.find?_cons_of_pos (by simpa using h)]
    · rw [if_neg h, List.find?_cons_of_neg (by simpa using h)]

/-- So is looking for the position of a count, if the unbounded slot is no bound. -/
theorem getElem?_findIdx?_map (bounds : List Nat) (count : Nat → Nat) (last rank : Nat) :
    (((bounds.map count ++ [last]).findIdx? (decide <| rank ≤ ·)).bind fun i => bounds[i]?) =
      bounds.find? (decide <| rank ≤ count ·) := by
  induction bounds with
  | nil => cases h : [last].findIdx? (decide <| rank ≤ ·) <;> simp
  | cons bound bounds ih =>
    rw [List.map_cons, List.cons_append, List.findIdx?_cons]
    by_cases h : rank ≤ count bound
    · rw [if_pos (by simpa using h), List.find?_cons_of_pos (by simpa using h)]
      rfl
    · rw [if_neg (by simpa using h), List.find?_cons_of_neg (by simpa using h), ← ih]
      cases (bounds.map count ++ [last]).findIdx? (decide <| rank ≤ ·) <;> rfl

end RustyAuth.Library
