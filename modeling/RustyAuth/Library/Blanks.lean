/-
  Texts between blanks.

  `trim` takes the blanks off both ends: what stands between them is what it leaves, if that
  neither starts nor ends with one (`trim_surround`), and it commutes with every map of
  characters that keeps blanks apart from the others (`trim_map`).
-/
import RustyAuth.Library.Texts

namespace RustyAuth.Library

theorem dropWhile_eq_self_of {p : Char → Bool} {text : List Char}
    (h : ∀ c ∈ text.head?, p c = false) : text.dropWhile p = text := by
  cases text with
  | nil => rfl
  | cons c text =>
    rw [List.dropWhile_cons, if_neg]
    rw [h c rfl]
    exact Bool.false_ne_true

/-- A text without blanks is left as it is. -/
theorem trim_of_not_blank {text : List Char} (h : ∀ c ∈ text, isWhitespace c = false) :
    trim text = text := by
  unfold trim
  rw [dropWhile_eq_self_of fun c hc => h c (List.mem_of_head? hc), List.rdropWhile_eq_self_iff]
  intro hne hlast
  rw [h _ (List.getLast_mem hne)] at hlast
  cases hlast

theorem rdropWhile_append_of_forall {p : Char → Bool} {text blanks : List Char}
    (h : ∀ c ∈ blanks, p c = true) : (text ++ blanks).rdropWhile p = text.rdropWhile p := by
  unfold List.rdropWhile
  rw [List.reverse_append, List.dropWhile_append_of_pos]
  intro c hc
  exact h c (List.mem_reverse.mp hc)

/-- Blanks around a text say nothing. -/
theorem trim_surround {before text after : List Char}
    (hbefore : ∀ c ∈ before, isWhitespace c = true) (hafter : ∀ c ∈ after, isWhitespace c = true) :
    trim (before ++ text ++ after) = trim text := by
  unfold trim
  rw [List.append_assoc, List.dropWhile_append_of_pos hbefore, List.dropWhile_append]
  split
  · next hblank =>
    -- nothing but blanks
    rw [List.isEmpty_iff] at hblank
    rw [hblank]
    have hall : after.dropWhile isWhitespace = [] := List.dropWhile_eq_nil_iff.mpr hafter
    rw [hall]
  · exact rdropWhile_append_of_forall hafter

theorem trim_of_blanks {blanks text : List Char} (hblanks : ∀ c ∈ blanks, isWhitespace c = true)
    (htext : ∀ c ∈ text, isWhitespace c = false) : trim (blanks ++ text) = text := by
  have h : trim (blanks ++ text ++ []) = trim text :=
    trim_surround hblanks (List.forall_mem_nil _)
  rw [List.append_nil] at h
  rw [h, trim_of_not_blank htext]

theorem trim_map {f : Char → Char} (hf : ∀ c, isWhitespace (f c) = isWhitespace c)
    (text : List Char) : trim (text.map f) = (trim text).map f := by
  have hcomp : isWhitespace ∘ f = isWhitespace := funext hf
  unfold trim List.rdropWhile
  rw [List.dropWhile_map, hcomp, ← List.map_reverse, List.dropWhile_map, hcomp, List.map_reverse]

/-! ## Lower case -/

theorem toNat_toLower (c : Char) : c.toLower.toNat =
    if 65 ≤ c.toNat ∧ c.toNat ≤ 90 then c.toNat + 32 else c.toNat := by
  have hval : c.toNat = c.val.toNat := rfl
  have hstep : ('a'.val - 'A'.val).toNat = 32 := by decide
  unfold Char.toLower
  split
  · next h =>
    simp only [ge_iff_le, UInt32.le_iff_toNat_le, Char.reduceVal, UInt32.reduceToNat] at h
    rw [if_pos (hval ▸ h)]
    show (c.val + ('a'.val - 'A'.val)).toNat = _
    rw [UInt32.toNat_add, hval, hstep]
    omega
  · next h =>
    simp only [ge_iff_le, UInt32.le_iff_toNat_le, Char.reduceVal, UInt32.reduceToNat] at h
    rw [if_neg (hval ▸ h)]

theorem isWhitespace_toLower (c : Char) : isWhitespace c.toLower = isWhitespace c := by
  unfold isWhitespace
  rw [toNat_toLower]
  split
  · next h =>
    rw [Bool.eq_iff_iff]
    simp only [Bool.or_eq_true, Bool.and_eq_true, decide_eq_true_eq, beq_iff_eq]
    omega
  · rfl

theorem isAlphanum_iff (c : Char) : c.isAlphanum = true ↔
    48 ≤ c.toNat ∧ c.toNat ≤ 57 ∨ 65 ≤ c.toNat ∧ c.toNat ≤ 90 ∨
      97 ≤ c.toNat ∧ c.toNat ≤ 122 := by
  delta Char.isAlphanum Char.isAlpha Char.isUpper Char.isLower Char.isDigit
  simp only [ge_iff_le, Bool.or_eq_true, Bool.and_eq_true, decide_eq_true_eq,
    UInt32.le_iff_toNat_le, Char.reduceVal, UInt32.reduceToNat]
  have hval : c.toNat = c.val.toNat := rfl
  omega

/-- Lower case changes letters only, into letters. -/
theorem toLower_cases (c : Char) :
    c.isAlphanum = true ∧ c.toLower.isAlphanum = true ∨ c.toLower = c := by
  by_cases hupper : 65 ≤ c.toNat ∧ c.toNat ≤ 90
  · refine Or.inl ⟨(isAlphanum_iff c).mpr (by omega), (isAlphanum_iff _).mpr ?_⟩
    rw [toNat_toLower, if_pos hupper]
    omega
  · refine Or.inr (Char.toNat_inj.mp ?_)
    rw [toNat_toLower, if_neg hupper]

theorem toLower_toLower (c : Char) : c.toLower.toLower = c.toLower := by
  apply Char.toNat_inj.mp
  rw [toNat_toLower, toNat_toLower c]
  by_cases hupper : 65 ≤ c.toNat ∧ c.toNat ≤ 90
  · rw [if_pos hupper, if_neg (by omega)]
  · rw [if_neg hupper, if_neg hupper]

end RustyAuth.Library
