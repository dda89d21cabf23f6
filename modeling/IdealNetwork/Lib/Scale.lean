import Mathlib.Algebra.Ring.Nat
import Mathlib.Data.Nat.Log

/-!
# SCALE encoding

The byte format of runtime storage and of cross-chain messages: integers
are fixed-width little-endian, a byte array is its bytes, a vector is its
compact length and then its items, an option is a tag byte and then its
payload, and a struct or a tuple is the concatenation of its fields.

Only the writing direction is here, with the sizes that a storage price
depends on.
-/

set_option autoImplicit false

namespace Scale

abbrev Bytes := List UInt8

/-- The `width` low bytes of a natural number, least significant first. -/
def littleEndian : Nat → Nat → Bytes
  | 0, _ => []
  | width + 1, n => UInt8.ofNat (n % 256) :: littleEndian width (n / 256)

@[simp] theorem length_littleEndian (width n : Nat) :
    (littleEndian width n).length = width := by
  induction width generalizing n with
  | zero => rfl
  | succ width ih => simp only [littleEndian, List.length_cons, ih]

/-- `Vec<u8>::try_into::<[u8; n]>`. -/
def tryIntoArray (n : Nat) (bytes : Bytes) : Option (Vector UInt8 n) :=
  if h : bytes.length = n then some ⟨bytes.toArray, h⟩ else none

/-- A compact integer: the two low bits of the first byte name the form,
which the magnitude decides. -/
def compact (n : Nat) : Bytes :=
  if n < 2 ^ 6 then littleEndian 1 (n * 4)
  else if n < 2 ^ 14 then littleEndian 2 (n * 4 + 1)
  else if n < 2 ^ 30 then littleEndian 4 (n * 4 + 2)
  else
    let width := max 4 (Nat.log2 n / 8 + 1)
    littleEndian 1 ((width - 4) * 4 + 3) ++ littleEndian width n

/-- A compact integer takes one byte more than the number, at most. -/
theorem length_compact_le {n width : Nat} (hwidth : 4 ≤ width) (hn : n < 2 ^ (8 * width)) :
    (compact n).length ≤ width + 1 := by
  unfold compact
  split
  next => rw [length_littleEndian]; omega
  next =>
    split
    next => rw [length_littleEndian]; omega
    next =>
      split
      next => rw [length_littleEndian]; omega
      next hlarge =>
        have hne : n ≠ 0 := by omega
        have hlog : n.log2 < 8 * width := (Nat.log2_lt hne).mpr hn
        rw [List.length_append, length_littleEndian, length_littleEndian]
        omega

/-- The types the runtime can encode. -/
class Encode (α : Type) where
  encode : α → Bytes

export Encode (encode)

/-- `Encode::encoded_size`. -/
def encodedSize {α : Type} [Encode α] (a : α) : Nat := (encode a).length

instance : Encode UInt8 where
  encode n := littleEndian 1 n.toNat

instance : Encode UInt32 where
  encode n := littleEndian 4 n.toNat

instance : Encode UInt64 where
  encode n := littleEndian 8 n.toNat

/-- An array `[u8; n]` has no length prefix. -/
instance {n : Nat} : Encode (Vector UInt8 n) where
  encode v := v.toList

/-- A `Vec<u8>`, and so a slice or a bounded vector of bytes. -/
instance : Encode Bytes where
  encode bytes := compact bytes.length ++ bytes

instance {α : Type} [Encode α] : Encode (Option α) where
  encode
    | none => [0]
    | some a => 1 :: encode a

instance {α β : Type} [Encode α] [Encode β] : Encode (α × β) where
  encode p := encode p.1 ++ encode p.2

section Sizes

variable {α β : Type} [Encode α] [Encode β]

@[simp] theorem length_encode_u32 (n : UInt32) : (encode n).length = 4 :=
  length_littleEndian 4 n.toNat

@[simp] theorem length_encode_u64 (n : UInt64) : (encode n).length = 8 :=
  length_littleEndian 8 n.toNat

@[simp] theorem length_encode_none : (encode (none : Option α)).length = 1 := rfl

@[simp] theorem length_encode_some (a : α) :
    (encode (some a)).length = 1 + (encode a).length := by
  simp only [encode, List.length_cons, Nat.add_comm]

end Sizes

end Scale
