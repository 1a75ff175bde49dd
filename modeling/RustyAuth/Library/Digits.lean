/-
  Fixed-width digit strings.

  `digits b k n` is `n` written with exactly `k` digits in base `b`, most
  significant first.  Below `b ^ k` the string determines the number
  (`digits_inj`), which is what makes zero-padded numbers usable inside keys.
-/
import Mathlib.Data.Nat.Basic
import Mathlib.Tactic.NormNum

namespace RustyAuth.Library

/-- One digit of a base up to sixteen, in lower case. -/
def digitChar (n : Nat) : Char :=
  if n < 10 then Char.ofNat (48 + n) else Char.ofNat (87 + n)

theorem digitChar_inj {a b : Nat} (ha : a < 16) (hb : b < 16)
    (h : digitChar a = digitChar b) : a = b := by
  have key : ∀ a b : Fin 16, digitChar a.val = digitChar b.val → a = b := by decide
  exact congrArg Fin.val (key ⟨a, ha⟩ ⟨b, hb⟩ h)

def digits (b : Nat) : Nat → Nat → List Char
  | 0, _ => []
  | k + 1, n => digits b k (n / b) ++ [digitChar (n % b)]

@[simp] theorem length_digits (b k n : Nat) : (digits b k n).length = k := by
  induction k generalizing n with
  | zero => rfl
  | succ k ih => simp [digits, ih]

theorem digits_inj {b : Nat} (hb : 0 < b) (hb16 : b ≤ 16) {k m n : Nat}
    (hm : m < b ^ k) (hn : n < b ^ k) (h : digits b k m = digits b k n) : m = n := by
  induction k generalizing m n with
  | zero =>
    rw [pow_zero] at hm hn
    omega
  | succ k ih =>
    obtain ⟨hinit, hlast⟩ := List.append_inj' h rfl
    rw [pow_succ] at hm hn
    have hdiv : m / b = n / b :=
      ih (Nat.div_lt_of_lt_mul (by rw [mul_comm]; exact hm))
        (Nat.div_lt_of_lt_mul (by rw [mul_comm]; exact hn)) hinit
    have hmod : m % b = n % b :=
      digitChar_inj (lt_of_lt_of_le (Nat.mod_lt _ hb) hb16)
        (lt_of_lt_of_le (Nat.mod_lt _ hb) hb16) (List.singleton_inj.mp hlast)
    calc m = b * (m / b) + m % b := (Nat.div_add_mod m b).symm
      _ = b * (n / b) + n % b := by rw [hdiv, hmod]
      _ = n := Nat.div_add_mod n b

end RustyAuth.Library
