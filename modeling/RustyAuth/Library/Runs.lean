/-
  Labelled transition systems and their finite runs.

  A system is a step relation `step : σ → ℓ → σ → Prop`; `Run step s ls t` is a
  finite run from `s` to `t` that takes the labels `ls`.  What one step preserves,
  a run preserves (`Run.invariant`), and a relation between the two ends of a step
  lifts to the two ends of a run (`Run.relates`).  `Restrict step c` keeps the steps
  whose pre-state and label meet `c`, so "every step of the run meets `c`" is a run
  of the restricted system.  A system that can be executed yields its runs by
  computation (`run_of_execAll`).
-/
import Mathlib.Data.List.Basic

namespace RustyAuth.Library

universe u v

variable {σ : Type u} {ℓ : Type v}

/-- A finite run and the labels it takes. -/
inductive Run (step : σ → ℓ → σ → Prop) : σ → List ℓ → σ → Prop
  | nil (s : σ) : Run step s [] s
  | cons {s t w : σ} {l : ℓ} {ls : List ℓ} :
      step s l t → Run step t ls w → Run step s (l :: ls) w

/-- The steps of `step` whose pre-state and label meet `c`. -/
def Restrict (step : σ → ℓ → σ → Prop) (c : σ → ℓ → Prop) (s : σ) (l : ℓ) (t : σ) : Prop :=
  c s l ∧ step s l t

namespace Run

variable {step : σ → ℓ → σ → Prop}

theorem append {s t w : σ} {ls ms : List ℓ} (h : Run step s ls t) (h' : Run step t ms w) :
    Run step s (ls ++ ms) w := by
  induction h with
  | nil s => exact h'
  | cons hs _ ih => exact .cons hs (ih h')

/-- Invariant rule: what every step preserves, every run preserves. -/
theorem invariant {I : σ → Prop} (hstep : ∀ s l t, I s → step s l t → I t)
    {s t : σ} {ls : List ℓ} (h : Run step s ls t) (hs : I s) : I t := by
  induction h with
  | nil s => exact hs
  | cons hst _ ih => exact ih (hstep _ _ _ hs hst)

/-- A reflexive and transitive relation that contains every step contains every run. -/
theorem relates {R : σ → σ → Prop} (hrefl : ∀ s, R s s)
    (htrans : ∀ s t w, R s t → R t w → R s w) (hstep : ∀ s l t, step s l t → R s t)
    {s t : σ} {ls : List ℓ} (h : Run step s ls t) : R s t := by
  induction h with
  | nil s => exact hrefl s
  | cons hst _ ih => exact htrans _ _ _ (hstep _ _ _ hst) ih

/-- Steps from states with an invariant are steps of another system. -/
theorem imp {step' : σ → ℓ → σ → Prop} {I : σ → Prop}
    (hstep : ∀ s l t, I s → step s l t → step' s l t ∧ I t) {s t : σ} {ls : List ℓ}
    (h : Run step s ls t) (hs : I s) : Run step' s ls t := by
  induction h with
  | nil s => exact .nil s
  | cons hst _ ih =>
    obtain ⟨hst', ht⟩ := hstep _ _ _ hs hst
    exact .cons hst' (ih ht)

theorem mono {step' : σ → ℓ → σ → Prop} (hstep : ∀ s l t, step s l t → step' s l t) {s t : σ}
    {ls : List ℓ} (h : Run step s ls t) : Run step' s ls t :=
  h.imp (I := fun _ => True) (fun s l t _ hst => ⟨hstep s l t hst, trivial⟩) trivial

/-- A run of a restricted system is a run. -/
theorem of_restrict {c : σ → ℓ → Prop} {s t : σ} {ls : List ℓ}
    (h : Run (Restrict step c) s ls t) : Run step s ls t :=
  h.mono fun _ _ _ hst => hst.2

/-- A run whose labels all meet `c` is a run of the restricted system. -/
theorem restrict {c : ℓ → Prop} {s t : σ} {ls : List ℓ} (h : Run step s ls t)
    (hc : ∀ l ∈ ls, c l) : Run (Restrict step fun _ => c) s ls t := by
  induction h with
  | nil s => exact .nil s
  | cons hst _ ih =>
    exact .cons ⟨hc _ List.mem_cons_self, hst⟩ (ih fun l hl => hc l (List.mem_cons_of_mem _ hl))

end Run

/-! ## Executable systems -/

/-- Take the labels one after another; `none` when one of them is not enabled. -/
def execAll (exec : σ → ℓ → Option σ) : σ → List ℓ → Option σ
  | s, [] => some s
  | s, l :: ls => (exec s l).bind fun t => execAll exec t ls

theorem run_of_execAll {step : σ → ℓ → σ → Prop} {exec : σ → ℓ → Option σ}
    (hexec : ∀ s l t, exec s l = some t → step s l t) {ls : List ℓ} :
    ∀ {s t : σ}, execAll exec s ls = some t → Run step s ls t := by
  induction ls with
  | nil =>
    intro s t h
    cases h
    exact .nil s
  | cons l ls ih =>
    intro s t h
    obtain ⟨w, hw, ht⟩ := Option.bind_eq_some_iff.mp h
    exact .cons (hexec s l w hw) (ih ht)

/-- A computed run, and what was computed of its end. -/
theorem exists_run {step : σ → ℓ → σ → Prop} {exec : σ → ℓ → Option σ}
    (hexec : ∀ s l t, exec s l = some t → step s l t) {α : Type} {f : σ → α} {a : α} {s : σ}
    {ls : List ℓ} (h : (execAll exec s ls).map f = some a) : ∃ t, Run step s ls t ∧ f t = a := by
  obtain ⟨t, ht, ha⟩ := Option.map_eq_some_iff.mp h
  exact ⟨t, run_of_execAll hexec ht, ha⟩

/-- The run of an executable system to a list of labels is the only one. -/
theorem execAll_of_run {exec : σ → ℓ → Option σ} {s t : σ} {ls : List ℓ}
    (h : Run (fun s l t => exec s l = some t) s ls t) : execAll exec s ls = some t := by
  induction h with
  | nil s => rfl
  | cons hstep _ ih =>
    unfold execAll
    rw [hstep]
    exact ih

/-- Take a label only where `c` allows it. -/
def execWhen (c : σ → ℓ → Prop) [∀ s l, Decidable (c s l)] (exec : σ → ℓ → Option σ) (s : σ)
    (l : ℓ) : Option σ :=
  if c s l then exec s l else none

theorem restrict_of_execWhen {step : σ → ℓ → σ → Prop} {c : σ → ℓ → Prop}
    [∀ s l, Decidable (c s l)] {exec : σ → ℓ → Option σ}
    (hexec : ∀ s l t, exec s l = some t → step s l t) (s : σ) (l : ℓ) (t : σ)
    (h : execWhen c exec s l = some t) : Restrict step c s l t := by
  unfold execWhen at h
  split at h
  · next hc => exact ⟨hc, hexec s l t h⟩
  · cases h

end RustyAuth.Library
