/-
  Message authentication, as far as programs rely on it.

  A message authentication code is one function, and a tag is checked by computing it again; so
  that it is not forged is said of a history (`Mac.Unforgeable`): a tag is presented only after its
  message was signed.
-/
import Mathlib.Data.List.Basic

namespace RustyAuth.Library

namespace Mac

variable {K M T : Type}

inductive Event (K M T : Type)
  | signed (k : K) (m : M)
  | presented (k : K) (m : M) (t : T)

/-- A message is presented with its tag only after it was signed, under the same key. -/
def Unforgeable (mac : K → M → T) (history : List (Event K M T)) : Prop :=
  ∀ earlier k m t later, history = earlier ++ .presented k m t :: later → mac k m = t →
    .signed k m ∈ earlier

theorem unforgeable_nil (mac : K → M → T) : Unforgeable mac [] := by
  intro earlier k m t later h
  cases earlier <;> cases h

/-- What comes next is signed, or has a tag that was made. -/
theorem Unforgeable.concat {mac : K → M → T} {history : List (Event K M T)}
    (h : Unforgeable mac history) (event : Event K M T)
    (hmade : ∀ k m t, event = .presented k m t → mac k m = t → .signed k m ∈ history) :
    Unforgeable mac (history ++ [event]) := by
  intro earlier k m t later heq htag
  rcases later.eq_nil_or_concat with rfl | ⟨later, last, rfl⟩
  · obtain ⟨rfl, hlast⟩ := List.append_inj' heq rfl
    exact hmade k m t (List.cons.inj hlast).1 htag
  · have hsplit : history ++ [event] = (earlier ++ .presented k m t :: later) ++ [last] := by
      rw [heq, List.concat_eq_append, List.append_assoc, List.cons_append]
    obtain ⟨rfl, _⟩ := List.append_inj' hsplit rfl
    exact h earlier k m t later rfl htag

end Mac

end RustyAuth.Library
