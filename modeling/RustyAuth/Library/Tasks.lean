/-
  Tasks that take turns on a shared state.

  Each task is in a phase of what it is doing; a turn reads and changes the shared state,
  moves the task to its next phase and may be observed.  A run interleaves the turns of any
  number of tasks in any order.  `Inv` is an invariant in three parts: of the shared state
  and what has been observed, and of every task's phase.  A turn keeps it if it keeps its
  own parts and leaves the phases of the other tasks standing (`turns_inv`).
-/
import RustyAuth.Library.Runs
import Mathlib.Logic.Function.Basic

namespace RustyAuth.Library

universe u v w

variable {σ : Type u} {π : Type v} {ω : Type w} {ι : Type}

/-- The shared state, the phase of every task, and the observations, latest first. -/
structure World (σ : Type u) (π : Type v) (ω : Type w) where
  shared : σ
  task : Nat → π
  history : List ω

/-- What a turn leaves: the shared state, the phase of its task, and what is observed. -/
structure Turn (σ : Type u) (π : Type v) (ω : Type w) where
  shared : σ
  phase : π
  observed : List ω

def World.take (world : World σ π ω) (i : Nat) (turn : Turn σ π ω) : World σ π ω where
  shared := turn.shared
  task := Function.update world.task i turn.phase
  history := turn.observed ++ world.history

section Take

variable {world : World σ π ω} {i : Nat} {turn : Turn σ π ω}

theorem take_task_self : (world.take i turn).task i = turn.phase := Function.update_self ..

theorem take_task_of_ne {j : Nat} (h : j ≠ i) : (world.take i turn).task j = world.task j :=
  Function.update_of_ne h ..

/-- What every phase has after a turn: the task's own, and the others as before. -/
theorem forall_take {P : π → Prop} (hself : P turn.phase) (hothers : ∀ j, P (world.task j)) :
    ∀ j, P ((world.take i turn).task j) := by
  intro j
  by_cases hj : j = i
  · subst hj
    rw [take_task_self]
    exact hself
  · rw [take_task_of_ne hj]
    exact hothers j

/-- A turn that gives its task nothing new leaves every owner what it was. -/
theorem owner_of_take {α : Type} {f : π → Option α}
    (h : f turn.phase = none ∨ f turn.phase = f (world.task i)) {j : Nat} {x : α}
    (hx : f ((world.take i turn).task j) = some x) : f (world.task j) = some x := by
  by_cases hj : j = i
  · subst hj
    rw [take_task_self] at hx
    rcases h with h | h
    · rw [h] at hx
      cases hx
    · rw [← h, hx]
  · rwa [take_task_of_ne hj] at hx

end Take

/-- Task `l.1` takes a turn with the input `l.2`. -/
def Turns (act : σ → π → ι → Option (Turn σ π ω)) (world : World σ π ω) (l : Nat × ι)
    (world' : World σ π ω) : Prop :=
  ∃ turn, act world.shared (world.task l.1) l.2 = some turn ∧ world' = world.take l.1 turn

/-- `I` holds of the shared state and the history, and `J` of every task. -/
structure Inv (I : σ → List ω → Prop) (J : σ → π → Prop) (world : World σ π ω) : Prop where
  shared : I world.shared world.history
  tasks : ∀ i, J world.shared (world.task i)

theorem turns_inv {I : σ → List ω → Prop} {J : σ → π → Prop}
    {act : σ → π → ι → Option (Turn σ π ω)} {world world' : World σ π ω} {l : Nat × ι}
    (h : Inv I J world) (hturn : Turns act world l world')
    (hown : ∀ turn, act world.shared (world.task l.1) l.2 = some turn →
      I turn.shared (turn.observed ++ world.history) ∧ J turn.shared turn.phase ∧
        ∀ phase, J world.shared phase → J turn.shared phase) : Inv I J world' := by
  obtain ⟨turn, hact, rfl⟩ := hturn
  obtain ⟨hI, hJ, hothers⟩ := hown turn hact
  exact ⟨hI, forall_take hJ fun i => hothers _ (h.tasks i)⟩

/-- One turn, computed. -/
def takeTurn (act : σ → π → ι → Option (Turn σ π ω)) (world : World σ π ω) (l : Nat × ι) :
    Option (World σ π ω) :=
  (act world.shared (world.task l.1) l.2).map (world.take l.1)

theorem turns_of_takeTurn (act : σ → π → ι → Option (Turn σ π ω)) (world : World σ π ω)
    (l : Nat × ι) (world' : World σ π ω) (h : takeTurn act world l = some world') :
    Turns act world l world' := by
  obtain ⟨turn, hact, rfl⟩ := Option.map_eq_some_iff.mp h
  exact ⟨turn, hact, rfl⟩

end RustyAuth.Library
