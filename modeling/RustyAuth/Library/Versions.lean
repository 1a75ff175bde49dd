/-
  Cells whose content is replaced by later versions only.

  `Supersedes later old new`: what the cell held is still there, or has been replaced by
  something later; an empty cell may be filled.  For a transitive order this composes, so what
  one step keeps a whole run keeps.
-/
import Mathlib.Order.Defs.Unbundled

namespace RustyAuth.Library

universe u

variable {α : Type u} {later : α → α → Prop}

def Supersedes (later : α → α → Prop) (old new : Option α) : Prop :=
  ∀ a, old = some a → ∃ b, new = some b ∧ (b = a ∨ later a b)

namespace Supersedes

theorem refl (later : α → α → Prop) (cell : Option α) : Supersedes later cell cell :=
  fun a ha => ⟨a, ha, Or.inl rfl⟩

theorem trans [IsTrans α later] {a b c : Option α} (hab : Supersedes later a b)
    (hbc : Supersedes later b c) : Supersedes later a c := by
  intro x hx
  obtain ⟨y, hy, hxy⟩ := hab x hx
  obtain ⟨z, hz, hyz⟩ := hbc y hy
  refine ⟨z, hz, ?_⟩
  rcases hxy with rfl | hxy
  · exact hyz
  · rcases hyz with rfl | hyz
    · exact Or.inr hxy
    · exact Or.inr (IsTrans.trans _ _ _ hxy hyz)

/-- What is known of the content and carries over to later versions stays known. -/
theorem holds {P : α → Prop} {old new : Option α} (h : Supersedes later old new)
    (hlater : ∀ a b, P a → later a b → P b) (hold : ∃ a, old = some a ∧ P a) :
    ∃ b, new = some b ∧ P b := by
  obtain ⟨a, ha, hPa⟩ := hold
  obtain ⟨b, hb, hab⟩ := h a ha
  refine ⟨b, hb, ?_⟩
  rcases hab with rfl | hab
  · exact hPa
  · exact hlater a b hPa hab

end Supersedes

end RustyAuth.Library
