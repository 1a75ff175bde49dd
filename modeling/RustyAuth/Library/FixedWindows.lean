/-
  Requests admitted by a fixed window.

  A meter admits at most `budget` requests in a window and opens the next one no sooner than
  `length` after it opened the last.  `WindowMeter` is what such a meter has admitted: `recent` in
  the window opened last, `earlier` before.  In every interval as long as a window, ends
  included, it has admitted at most twice the budget (`WindowMeter.within_le`): the interval meets
  two windows at most.
-/
import Mathlib.Data.List.Basic

namespace RustyAuth.Library

/-- The number of instants from `start` to `stop`. -/
def within (start stop : Nat) (instants : List Nat) : Nat :=
  instants.countP fun t => start ≤ t ∧ t ≤ stop

theorem within_append (start stop : Nat) (instants instants' : List Nat) :
    within start stop (instants ++ instants') =
      within start stop instants + within start stop instants' := List.countP_append

theorem within_le_length (start stop : Nat) (instants : List Nat) :
    within start stop instants ≤ instants.length := List.countP_le_length

structure WindowMeter (length budget opened : Nat) (recent earlier : List Nat) : Prop where
  current : ∀ t ∈ recent, opened ≤ t ∧ t < opened + length
  few : recent.length ≤ budget
  before : ∀ t ∈ earlier, t < opened
  -- of what was admitted before, at most one window is as near as this
  previous : earlier.countP (opened ≤ · + length) ≤ budget
  intervals : ∀ start, within start (start + length) earlier ≤ 2 * budget

namespace WindowMeter

variable {length budget opened now : Nat} {recent earlier : List Nat}

theorem start (length budget opened : Nat) : WindowMeter length budget opened [] [] where
  current _ hmem := absurd hmem List.not_mem_nil
  few := Nat.zero_le _
  before _ hmem := absurd hmem List.not_mem_nil
  previous := Nat.zero_le _
  intervals _ := Nat.zero_le _

theorem within_le (h : WindowMeter length budget opened recent earlier) (start : Nat) :
    within start (start + length) (recent ++ earlier) ≤ 2 * budget := by
  rw [within_append]
  by_cases hmeets : opened ≤ start + length
  · -- the interval reaches the window: it meets no window but this and the one before
    have hrecent : within start (start + length) recent ≤ budget :=
      Nat.le_trans (within_le_length _ _ _) h.few
    have hearlier : within start (start + length) earlier ≤ budget := by
      refine Nat.le_trans (List.countP_mono_left ?_) h.previous
      intro t _ ht
      simp only [decide_eq_true_eq] at ht ⊢
      omega
    omega
  · have hrecent : within start (start + length) recent = 0 := by
      refine List.countP_eq_zero.mpr ?_
      intro t hmem
      have hopened := (h.current t hmem).1
      simp only [decide_eq_true_eq]
      omega
    have hearlier := h.intervals start
    omega

/-- The next window is opened. -/
theorem next (h : WindowMeter length budget opened recent earlier) (hnow : opened + length ≤ now) :
    WindowMeter length budget now [] (recent ++ earlier) where
  current _ hmem := absurd hmem List.not_mem_nil
  few := Nat.zero_le _
  before := by
    intro t hmem
    rcases List.mem_append.mp hmem with hmem | hmem
    · exact Nat.lt_of_lt_of_le (h.current t hmem).2 hnow
    · have hlt := h.before t hmem
      omega
  previous := by
    have hearlier : earlier.countP (now ≤ · + length) = 0 := by
      refine List.countP_eq_zero.mpr ?_
      intro t hmem
      have hlt := h.before t hmem
      simp only [decide_eq_true_eq]
      omega
    rw [List.countP_append, hearlier, Nat.add_zero]
    exact Nat.le_trans List.countP_le_length h.few
  intervals := h.within_le

/-- One more request is admitted in the window. -/
theorem admitted (h : WindowMeter length budget opened recent earlier) (hopened : opened ≤ now)
    (hnow : now < opened + length) (hroom : recent.length < budget) :
    WindowMeter length budget opened (now :: recent) earlier where
  current := List.forall_mem_cons.mpr ⟨⟨hopened, hnow⟩, h.current⟩
  few := hroom
  before := h.before
  previous := h.previous
  intervals := h.intervals

end WindowMeter

end RustyAuth.Library
