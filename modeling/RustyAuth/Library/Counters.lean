/-
  Saturating counters over a fold.

  A state is folded over a list of events; an observation of the state counts if every
  event adds its weight to it, cut at a cap.  Over a whole list such an observation is the
  total weight, cut at the cap (`Counts.foldl`), so questions about counters become
  questions about totals: totals of weights that agree, add up or compare pointwise.
-/
import Mathlib.Algebra.Order.BigOperators.Group.List
import Mathlib.Algebra.Order.Group.Nat
import Mathlib.Algebra.GroupWithZero.Nat

namespace RustyAuth.Library

variable {σ ε : Type}

/-- Every event `e` adds `weight e` to `observe`, cut at `cap`. -/
def Counts (step : σ → ε → σ) (cap : Nat) (observe : σ → Nat) (weight : ε → Nat) : Prop :=
  ∀ s e, observe s ≤ cap → observe (step s e) = min (observe s + weight e) cap

/-- The weight of a list. -/
def total (weight : ε → Nat) (es : List ε) : Nat := (es.map weight).sum

@[simp] theorem total_nil (weight : ε → Nat) : total weight [] = 0 := rfl

@[simp] theorem total_cons (weight : ε → Nat) (e : ε) (es : List ε) :
    total weight (e :: es) = weight e + total weight es := rfl

theorem Counts.foldl {step : σ → ε → σ} {cap : Nat} {observe : σ → Nat} {weight : ε → Nat}
    (h : Counts step cap observe weight) (es : List ε) :
    ∀ s, observe s ≤ cap → observe (es.foldl step s) = min (observe s + total weight es) cap := by
  induction es with
  | nil =>
    intro s hs
    rw [List.foldl_nil, total_nil, Nat.add_zero, Nat.min_eq_left hs]
  | cons e es ih =>
    intro s hs
    have hstep := h s e hs
    have hle : observe (step s e) ≤ cap := by omega
    rw [List.foldl_cons, ih (step s e) hle, hstep, total_cons]
    omega

/-! ## Totals -/

theorem total_le_total {p q : ε → Nat} {es : List ε} (h : ∀ e ∈ es, p e ≤ q e) :
    total p es ≤ total q es :=
  List.sum_le_sum h

theorem total_congr {p q : ε → Nat} {es : List ε} (h : ∀ e ∈ es, p e = q e) :
    total p es = total q es := by
  unfold total
  rw [List.map_congr_left h]

theorem total_add (p q : ε → Nat) (es : List ε) :
    total (fun e => p e + q e) es = total p es + total q es := by
  induction es with
  | nil => rfl
  | cons e es ih =>
    simp only [total_cons, ih]
    omega

theorem total_flatten (weight : ε → Nat) (groups : List (List ε)) :
    total weight groups.flatten = (groups.map (total weight)).sum := by
  unfold total
  rw [List.map_flatten, List.sum_flatten, List.map_map]
  rfl

theorem total_perm (weight : ε → Nat) {es es' : List ε} (h : es.Perm es') :
    total weight es = total weight es' :=
  (h.map weight).sum_eq

theorem total_le_of_mem (weight : ε → Nat) {groups : List (List ε)} {group : List ε}
    (h : group ∈ groups) : total weight group ≤ (groups.map (total weight)).sum :=
  List.le_sum_of_mem (List.mem_map_of_mem h)

end RustyAuth.Library
