/-
  Numerals and separated fields, as texts.

  `numText` writes a number without leading zeros and `readNumber` reads it under limits on its
  digits and its value; fields that do not contain the separator are read back from their
  joining (`splitAll_join`).
-/
import RustyAuth.Library.Digits
import RustyAuth.Library.Texts
import Mathlib.Data.Nat.Digits.Lemmas

namespace RustyAuth.Library

/-! ## Fields -/

/-- `[str]::join` with a character. -/
def join (separator : Char) : List (List Char) → List Char
  | [] => []
  | [field] => field
  | field :: fields => field ++ separator :: join separator fields

theorem splitAll_ne_nil (separator : Char) (cs : List Char) : splitAll separator cs ≠ [] := by
  cases cs with
  | nil => exact List.cons_ne_nil _ _
  | cons c cs =>
    unfold splitAll
    split
    · exact List.cons_ne_nil _ _
    · split <;> exact List.cons_ne_nil _ _

theorem splitAll_append (separator : Char) (xs ys : List Char) :
    splitAll separator (xs ++ separator :: ys) =
      splitAll separator xs ++ splitAll separator ys := by
  induction xs with
  | nil => simp [splitAll]
  | cons x xs ih =>
    rw [List.cons_append, splitAll, splitAll]
    by_cases hx : x = separator
    · rw [if_pos hx, if_pos hx, ih, List.cons_append]
    · rw [if_neg hx, if_neg hx, ih]
      cases hsplit : splitAll separator xs with
      | nil => exact absurd hsplit (splitAll_ne_nil separator xs)
      | cons part parts => rfl

theorem splitAll_of_not_mem {separator : Char} {cs : List Char} (h : separator ∉ cs) :
    splitAll separator cs = [cs] := by
  induction cs with
  | nil => rfl
  | cons c cs ih =>
    have hc : c ≠ separator := fun heq => h (heq ▸ List.mem_cons_self)
    rw [splitAll, if_neg hc, ih fun hmem => h (List.mem_cons_of_mem _ hmem)]

theorem splitAll_join {separator : Char} {fields : List (List Char)} (hne : fields ≠ [])
    (hfields : ∀ field ∈ fields, separator ∉ field) :
    splitAll separator (join separator fields) = fields := by
  induction fields with
  | nil => exact absurd rfl hne
  | cons field fields ih =>
    have hfield := splitAll_of_not_mem (hfields field List.mem_cons_self)
    cases fields with
    | nil => exact hfield
    | cons next fields =>
      rw [join, splitAll_append, hfield, ih (List.cons_ne_nil _ _)
        fun f hf => hfields f (List.mem_cons_of_mem _ hf)]
      · rfl
      · exact fun h => List.cons_ne_nil _ _ h

theorem mem_join {separator : Char} {fields : List (List Char)} {c : Char}
    (h : c ∈ join separator fields) : c = separator ∨ ∃ field ∈ fields, c ∈ field := by
  induction fields with
  | nil => cases h
  | cons field fields ih =>
    cases fields with
    | nil => exact Or.inr ⟨field, List.mem_cons_self, h⟩
    | cons next fields =>
      rw [join, List.mem_append, List.mem_cons] at h
      · rcases h with hfield | hsep | hrest
        · exact Or.inr ⟨field, List.mem_cons_self, hfield⟩
        · exact Or.inl hsep
        · rcases ih hrest with hsep | ⟨other, hother, hc⟩
          · exact Or.inl hsep
          · exact Or.inr ⟨other, List.mem_cons_of_mem _ hother, hc⟩
      · exact fun h => List.cons_ne_nil _ _ h

theorem join_splitAll (separator : Char) (cs : List Char) :
    join separator (splitAll separator cs) = cs := by
  induction cs with
  | nil => rfl
  | cons c cs ih =>
    have hne := splitAll_ne_nil separator cs
    unfold splitAll
    split
    · next hc =>
      rw [join, ih, hc]
      · rfl
      · exact hne
    · cases hsplit : splitAll separator cs with
      | nil => exact absurd hsplit hne
      | cons part parts =>
        rw [hsplit] at ih
        rw [← ih]
        cases parts with
        | nil => rfl
        | cons next parts => rfl

theorem join_map {separator : Char} {f : Char → Char} (hf : f separator = separator)
    (fields : List (List Char)) :
    (join separator fields).map f = join separator (fields.map (List.map f)) := by
  induction fields with
  | nil => rfl
  | cons field fields ih =>
    cases fields with
    | nil => rfl
    | cons next fields =>
      have hjoin : ∀ field : List Char, ∀ next : List Char, ∀ fields : List (List Char),
          join separator (field :: next :: fields) =
            field ++ separator :: join separator (next :: fields) := fun _ _ _ => rfl
      rw [List.map_cons, List.map_cons, hjoin, hjoin, List.map_append, List.map_cons, hf, ih,
        List.map_cons]

theorem splitOnceAt_append {c : Char} {text rest : List Char} (h : c ∉ text) :
    splitOnceAt c (text ++ c :: rest) = some (text, rest) := by
  induction text with
  | nil => exact if_pos rfl
  | cons d text ih =>
    have hd : d ≠ c := fun heq => h (heq ▸ List.mem_cons_self)
    rw [List.cons_append, splitOnceAt, if_neg hd, ih fun hmem => h (List.mem_cons_of_mem _ hmem)]
    rfl

/-! ## Numerals -/

/-- The value of a hexadecimal digit, of either case. -/
def digitValue (c : Char) : Option Nat :=
  let n := c.toNat
  if 48 ≤ n ∧ n ≤ 57 then some (n - 48)
  else if 97 ≤ n ∧ n ≤ 102 then some (n - 87)
  else if 65 ≤ n ∧ n ≤ 70 then some (n - 55)
  else none

/-- `char::to_digit`, for bases up to sixteen. -/
def toDigit (base : Nat) (c : Char) : Option Nat := (digitValue c).filter (· < base)

theorem digitValue_digitChar {d : Nat} (h : d < 16) : digitValue (digitChar d) = some d := by
  have key : ∀ d : Fin 16, digitValue (digitChar d.val) = some d.val := by decide
  exact key ⟨d, h⟩

theorem toDigit_digitChar {base d : Nat} (hbase : base ≤ 16) (h : d < base) :
    toDigit base (digitChar d) = some d := by
  unfold toDigit
  rw [digitValue_digitChar (by omega)]
  simp [h]

/-- A digit is a letter or a decimal digit of ASCII. -/
theorem toDigit_char {base : Nat} {c : Char} {d : Nat} (h : toDigit base c = some d) :
    48 ≤ c.toNat ∧ c.toNat ≤ 102 ∧ c.toNat ≠ 58 := by
  obtain ⟨hvalue, -⟩ := Option.filter_eq_some_iff.mp h
  unfold digitValue at hvalue
  dsimp only at hvalue
  split at hvalue
  · omega
  · split at hvalue
    · omega
    · split at hvalue
      · omega
      · cases hvalue

/-- The number that digits denote, most significant first. -/
def valueOf (base : Nat) (digits : List Nat) : Nat := digits.foldl (fun n d => n * base + d) 0

/-- A numeral with at most `maxDigits` digits and a value below `bound`; a leading zero is allowed
    with `zeroFirst` or alone. -/
def readNumber (base maxDigits bound : Nat) (zeroFirst : Bool) (text : List Char) : Option Nat := do
  let digits ← text.mapM (toDigit base)
  if text ≠ [] ∧ text.length ≤ maxDigits ∧
      (zeroFirst = true ∨ text.length ≤ 1 ∨ text.head? ≠ some '0') ∧
      valueOf base digits < bound then
    some (valueOf base digits)
  else none

/-- A number without leading zeros. -/
def numText (base n : Nat) : List Char :=
  if n = 0 then ['0'] else (Nat.digits base n).reverse.map digitChar

theorem valueOf_reverse (base : Nat) (digits : List Nat) :
    valueOf base digits.reverse = Nat.ofDigits base digits := by
  unfold valueOf
  rw [List.foldl_reverse]
  induction digits with
  | nil => rfl
  | cons d digits ih =>
    rw [List.foldr_cons, ih, Nat.ofDigits_cons]
    ring

theorem mapM_toDigit_map {base : Nat} (hbase : base ≤ 16) {digits : List Nat}
    (h : ∀ d ∈ digits, d < base) : (digits.map digitChar).mapM (toDigit base) = some digits := by
  induction digits with
  | nil => rfl
  | cons d digits ih =>
    rw [List.map_cons, List.mapM_cons, toDigit_digitChar hbase (h d List.mem_cons_self),
      ih fun e he => h e (List.mem_cons_of_mem _ he)]
    rfl

theorem length_numText_le {base n k : Nat} (hbase : 1 < base) (hk : 0 < k) (h : n < base ^ k) :
    (numText base n).length ≤ k := by
  unfold numText
  split
  · exact hk
  · rw [List.length_map, List.length_reverse]
    exact (Nat.digits_length_le_iff hbase n).mpr h

theorem head_numText {base n : Nat} (hbase : 1 < base) (hbase' : base ≤ 16) (hn : n ≠ 0) :
    (numText base n).head? ≠ some '0' := by
  unfold numText
  rw [if_neg hn, List.head?_map, List.head?_reverse]
  intro hzero
  obtain ⟨d, hlast, hd⟩ := Option.map_eq_some_iff.mp hzero
  have hne : Nat.digits base n ≠ [] := Nat.digits_ne_nil_iff_ne_zero.mpr hn
  rw [List.getLast?_eq_getLast_of_ne_nil hne] at hlast
  have hpos := Nat.getLast_digit_ne_zero base hn
  have hlt : d < base := by
    rw [← Option.some.inj hlast]
    exact Nat.digits_lt_base hbase (List.getLast_mem hne)
  have hd0 : d = 0 := digitChar_inj (by omega) (by omega) hd
  exact hpos ((Option.some.inj hlast).trans hd0)

theorem numText_ne_nil (base n : Nat) : numText base n ≠ [] := by
  unfold numText
  split
  · exact List.cons_ne_nil _ _
  · next hn =>
    rw [Ne, List.map_eq_nil_iff, List.reverse_eq_nil_iff]
    exact Nat.digits_ne_nil_iff_ne_zero.mpr hn

/-- A number below its bound is read back from its numeral. -/
theorem readNumber_numText {base maxDigits bound n : Nat} (hbase : 1 < base) (hbase' : base ≤ 16)
    (hdigits : 0 < maxDigits) (hn : n < bound) (hbound : n < base ^ maxDigits) (zeroFirst : Bool) :
    readNumber base maxDigits bound zeroFirst (numText base n) = some n := by
  have hread : ∃ digits, (numText base n).mapM (toDigit base) = some digits ∧
      valueOf base digits = n := by
    unfold numText
    split
    · next h0 =>
      refine ⟨[0], ?_, by simp [h0, valueOf]⟩
      have hzero : ∀ d ∈ [0], d < base := by
        simp only [List.mem_singleton, forall_eq]
        omega
      exact mapM_toDigit_map hbase' hzero
    · refine ⟨(Nat.digits base n).reverse, mapM_toDigit_map hbase' ?_, ?_⟩
      · exact fun d hd => Nat.digits_lt_base hbase (List.mem_reverse.mp hd)
      · rw [valueOf_reverse, Nat.ofDigits_digits]
  obtain ⟨digits, hmap, hvalue⟩ := hread
  have hzero : zeroFirst = true ∨ (numText base n).length ≤ 1 ∨
      (numText base n).head? ≠ some '0' := by
    by_cases h0 : n = 0
    · rw [h0]
      exact Or.inr (Or.inl (le_refl 1))
    · exact Or.inr (Or.inr (head_numText hbase hbase' h0))
  unfold readNumber
  rw [hmap]
  have hlength := length_numText_le hbase hdigits hbound
  have hvalue' : valueOf base digits < bound := by rw [hvalue]; exact hn
  refine (if_pos ⟨numText_ne_nil base n, hlength, hzero, hvalue'⟩).trans ?_
  rw [hvalue]

/-- What is read as a number is not empty and consists of digits. -/
theorem readNumber_eq_some {base maxDigits bound : Nat} {zeroFirst : Bool} {text : List Char}
    {n : Nat} (h : readNumber base maxDigits bound zeroFirst text = some n) :
    text ≠ [] ∧ n < bound ∧ ∀ c ∈ text, 48 ≤ c.toNat ∧ c.toNat ≤ 102 ∧ c.toNat ≠ 58 := by
  unfold readNumber at h
  obtain ⟨digits, hdigits, hif⟩ := Option.bind_eq_some_iff.mp h
  obtain ⟨hchecks, hn⟩ := Option.ite_none_right_eq_some.mp hif
  refine ⟨hchecks.1, ?_, ?_⟩
  · rw [← Option.some.inj hn]
    exact hchecks.2.2.2
  · have hall : ∀ (text : List Char) (digits : List Nat), text.mapM (toDigit base) = some digits →
        ∀ c ∈ text, ∃ d, toDigit base c = some d := by
      intro text
      induction text with
      | nil => exact fun _ _ c hc => by cases hc
      | cons t text ih =>
        intro digits hmap c hc
        rw [List.mapM_cons] at hmap
        obtain ⟨d, hd, hrest⟩ := Option.bind_eq_some_iff.mp hmap
        obtain ⟨ds, hds, -⟩ := Option.bind_eq_some_iff.mp hrest
        rcases List.mem_cons.mp hc with rfl | hmem
        · exact ⟨d, hd⟩
        · exact ih ds hds c hmem
    intro c hc
    obtain ⟨d, hd⟩ := hall text digits hdigits c hc
    exact toDigit_char hd

/-- A numeral contains no separator. -/
theorem numText_char {base n : Nat} (hbase : 1 < base) (hbase' : base ≤ 16) {c : Char}
    (hc : c ∈ numText base n) : 48 ≤ c.toNat ∧ c.toNat ≤ 102 ∧ c.toNat ≠ 58 := by
  have hdigit : ∃ d < 16, c = digitChar d := by
    unfold numText at hc
    split at hc
    · exact ⟨0, by omega, List.mem_singleton.mp hc⟩
    · obtain ⟨d, hd, rfl⟩ := List.mem_map.mp hc
      have hlt := Nat.digits_lt_base hbase (List.mem_reverse.mp hd)
      exact ⟨d, by omega, rfl⟩
  obtain ⟨d, hd, rfl⟩ := hdigit
  exact toDigit_char (toDigit_digitChar (le_refl 16) hd)

end RustyAuth.Library
