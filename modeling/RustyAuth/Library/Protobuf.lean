/-
  Sizes in the protocol buffer encoding.

  A 64-bit number takes one byte for each seven bits; a field is a tag followed by its
  payload; scalar fields that hold their default are left out.  Only lengths are
  modelled, since a size limit is the one thing a validator asks of the bytes.
-/
import Mathlib.Data.Nat.Log
import Mathlib.Algebra.GroupWithZero.Nat

namespace RustyAuth.Library

/-- Bytes of a 64-bit number. -/
def varintLen (n : Nat) : Nat := Nat.log2 (n % 2 ^ 64) / 7 + 1

/-- Bytes of a field's tag; the wire type takes the three low bits. -/
def tagLen (field : Nat) : Nat := varintLen (field * 8)

def varintField (field n : Nat) : Nat :=
  if n = 0 then 0 else tagLen field + varintLen n

/-- A signed number: negative ones are sign-extended to ten bytes. -/
def intField (field : Nat) (n : Int) : Nat :=
  if n = 0 then 0 else tagLen field + if n < 0 then 10 else varintLen n.toNat

/-- A payload of `len` bytes behind its tag and length. -/
def lenField (field len : Nat) : Nat := tagLen field + varintLen len + len

/-- A string field of `len` bytes. -/
def stringField (field len : Nat) : Nat := if len = 0 then 0 else lenField field len

/-- A packed repeated field of unsigned numbers. -/
def packedField (field : Nat) (ns : List Nat) : Nat :=
  if ns = [] then 0 else lenField field (ns.map varintLen).sum

/-- A message field that is set. -/
def messageField {M : Type} (field : Nat) (encodedLen : M → Nat) : Option M → Nat
  | none => 0
  | some m => lenField field (encodedLen m)

/-- A repeated message field. -/
def repeatedField {M : Type} (field : Nat) (encodedLen : M → Nat) (ms : List M) : Nat :=
  (ms.map fun m => lenField field (encodedLen m)).sum

end RustyAuth.Library
