/-
  Names, their holders, and an index from names to holders.

  Each holder has a set of names; the index is exact if it sends every name to the holder that
  has it and no other name anywhere.  Then no name has two holders, and the index stays exact
  when free names are given to a holder and names of that holder are taken from it.
-/
import Mathlib.Logic.Basic

namespace RustyAuth.Library

universe u v

variable {N : Type u} {I : Type v} {index index' : N → Option I} {holds holds' : I → N → Prop}

/-- The index names exactly the holders. -/
def ExactIndex (index : N → Option I) (holds : I → N → Prop) : Prop :=
  ∀ n i, index n = some i ↔ holds i n

theorem ExactIndex.unique (h : ExactIndex index holds) {n : N} {i j : I} (hi : holds i n) (hj : holds j n) :
    i = j :=
  Option.some.inj (((h n i).mpr hi).symm.trans ((h n j).mpr hj))

theorem ExactIndex.not_holds (h : ExactIndex index holds) {n : N} (hfree : index n = none) (i : I) :
    ¬holds i n := by
  intro hi
  rw [← h n i, hfree] at hi
  cases hi

/-- The names `given` are given to `i`, the names `taken` are taken from it. -/
theorem ExactIndex.update (h : ExactIndex index holds) {i : I} {given taken : N → Prop}
    [DecidablePred given] [DecidablePred taken]
    (hfree : ∀ n, given n → index n = none) (howned : ∀ n, taken n → holds i n)
    (hindex : ∀ n, index' n = if given n then some i else if taken n then none else index n)
    (hself : ∀ n, holds' i n ↔ given n ∨ holds i n ∧ ¬taken n)
    (hother : ∀ j n, j ≠ i → (holds' j n ↔ holds j n)) : ExactIndex index' holds' := by
  intro n j
  rw [hindex]
  by_cases hj : j = i
  · subst hj
    rw [hself]
    split
    · next hgiven => simp [hgiven]
    · next hgiven =>
      split
      · next htaken => simp [hgiven, htaken]
      · next htaken => simp [hgiven, htaken, h n j]
  · rw [hother j n hj]
    split
    · next hgiven =>
      have hnot : ¬holds j n := h.not_holds (hfree n hgiven) j
      simp [hnot, Ne.symm hj]
    · split
      · next htaken =>
        have hnot : ¬holds j n := fun hheld => hj (h.unique hheld (howned n htaken))
        simp [hnot]
      · exact h n j

/-- Holders of at most one name: one of them gives up its name, if it has one, and takes a
    free name or keeps its own. -/
theorem ExactIndex.rename {name name' : I → Option N} [DecidableEq N]
    (h : ExactIndex index fun j n => name j = some n) {i : I}
    (hfree : ∀ n, name' i = some n → index n = none ∨ index n = some i)
    (hindex : ∀ n, index' n =
      if name' i = some n then some i else if name i = some n then none else index n)
    (hother : ∀ j, j ≠ i → name' j = name j) : ExactIndex index' fun j n => name' j = some n := by
  refine @update N I index index' _ _ h i (fun n => name' i = some n ∧ name i ≠ some n)
    (fun n => name i = some n ∧ name' i ≠ some n) _ _ ?_ (fun n htaken => htaken.1) ?_ ?_ ?_
  · rintro n ⟨hnew, hold⟩
    exact (hfree n hnew).resolve_right fun hindexed => hold ((h n i).mp hindexed)
  · intro n
    rw [hindex]
    by_cases hnew : name' i = some n
    · by_cases hold : name i = some n
      · simp [hnew, hold, (h n i).mpr hold]
      · simp [hnew, hold]
    · simp [hnew]
  · intro n
    by_cases hnew : name' i = some n
    · simp [hnew, em']
    · simp [hnew]
  · intro j n hj
    rw [hother j hj]

end RustyAuth.Library
