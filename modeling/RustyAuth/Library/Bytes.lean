/-
  Byte strings: the encoding of texts, hexadecimal, and lengths in front.

  A number of a fixed width is read back from its bytes up to a multiple of `256 ^ width`
  (`ofBigEndian_bigEndian`); so a list of byte strings is determined by their concatenation if each
  has its length before it and the lengths fit (`framed_inj`).
-/
import Mathlib.Tactic.Ring

namespace RustyAuth.Library

abbrev Bytes := List UInt8

def utf8 (text : String) : Bytes := text.toUTF8.data.toList

def hexDigit (n : Nat) : Char := "0123456789abcdef".toList.getD n '0'

/-- Two lower-case digits for each byte. -/
def hexEncode (bytes : Bytes) : String :=
  String.ofList (bytes.flatMap fun byte => [hexDigit (byte.toNat / 16), hexDigit (byte.toNat % 16)])

/-! ## Framing -/

/-- The most significant byte first. -/
def bigEndian (width n : Nat) : Bytes :=
  (List.range width).reverse.map fun i => UInt8.ofNat (n / 256 ^ i)

def ofBigEndian (bytes : Bytes) : Nat := bytes.foldl (fun n byte => n * 256 + byte.toNat) 0

@[simp] theorem length_bigEndian (width n : Nat) : (bigEndian width n).length = width := by
  simp [bigEndian]

theorem bigEndian_succ (width n : Nat) :
    bigEndian (width + 1) n = UInt8.ofNat (n / 256 ^ width) :: bigEndian width n := by
  simp [bigEndian, List.range_succ]

theorem foldl_bigEndian (width n start : Nat) :
    (bigEndian width n).foldl (fun n byte => n * 256 + byte.toNat) start =
      start * 256 ^ width + n % 256 ^ width := by
  induction width generalizing start with
  | zero => simp [bigEndian, Nat.mod_one]
  | succ width ih =>
    have hbyte : (UInt8.ofNat (n / 256 ^ width)).toNat = n / 256 ^ width % 256 := by simp
    rw [bigEndian_succ, List.foldl_cons, ih, hbyte, Nat.pow_succ 256 width, Nat.mod_mul]
    ring

theorem ofBigEndian_bigEndian (width n : Nat) :
    ofBigEndian (bigEndian width n) = n % 256 ^ width := by
  unfold ofBigEndian
  rw [foldl_bigEndian, Nat.zero_mul, Nat.zero_add]

theorem bigEndian_inj {width m n : Nat} (hm : m < 256 ^ width) (hn : n < 256 ^ width)
    (h : bigEndian width m = bigEndian width n) : m = n := by
  have hread := congrArg ofBigEndian h
  rwa [ofBigEndian_bigEndian, ofBigEndian_bigEndian, Nat.mod_eq_of_lt hm,
    Nat.mod_eq_of_lt hn] at hread

def framed (width : Nat) (values : List Bytes) : Bytes :=
  values.flatMap fun value => bigEndian width value.length ++ value

theorem framed_cons (width : Nat) (value : Bytes) (values : List Bytes) :
    framed width (value :: values) =
      bigEndian width value.length ++ (value ++ framed width values) := by
  rw [← List.append_assoc]
  rfl

/-- The first value is cut off by its length, which is cut off by the width. -/
theorem framed_inj {width : Nat} (hwidth : 0 < width) {values values' : List Bytes}
    (hfit : ∀ value ∈ values, value.length < 256 ^ width)
    (hfit' : ∀ value ∈ values', value.length < 256 ^ width)
    (h : framed width values = framed width values') : values = values' := by
  have hcons : ∀ value values, framed width (value :: values) ≠ framed width [] := by
    intro value values heq
    have hlength := congrArg List.length heq
    rw [framed_cons, List.length_append, length_bigEndian] at hlength
    simp only [framed, List.flatMap_nil, List.length_nil] at hlength
    omega
  induction values generalizing values' with
  | nil =>
    cases values' with
    | nil => rfl
    | cons value' values' => exact absurd h.symm (hcons value' values')
  | cons value values ih =>
    cases values' with
    | nil => exact absurd h (hcons value values)
    | cons value' values' =>
      rw [framed_cons, framed_cons] at h
      obtain ⟨hlength, hrest⟩ := List.append_inj h (by simp)
      have heq := bigEndian_inj (hfit value List.mem_cons_self)
        (hfit' value' List.mem_cons_self) hlength
      obtain ⟨rfl, htail⟩ := List.append_inj hrest heq
      rw [ih (fun v hv => hfit v (List.mem_cons_of_mem _ hv))
        (fun v hv => hfit' v (List.mem_cons_of_mem _ hv)) htail]

/-- A text is determined by its encoding. -/
theorem utf8_inj {text text' : String} (h : utf8 text = utf8 text') : text = text' := by
  have hbytes : text.toUTF8 = text'.toUTF8 := ByteArray.ext (Array.toList_inj.mp h)
  exact String.toByteArray_inj.mp hbytes

end RustyAuth.Library
