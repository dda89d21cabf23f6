import IdealNetwork.Lib.Scale

/-!
# SCALE decoding

The reading direction. A decoder takes a value from the front of its input
and returns what follows it. `RoundTrip` says that it reads back what was
written, whatever follows; arrays, options and compact integers have it. A
vector of bytes is read from its length on (`decode_length_append`), and is
all that is left exactly if the length is the right one (`readBytes_complete`).

Where only some values of a type are read back, `ReadBack` says it of one
value. Records (`ReadBack.of_fields`), variants and lists have it from their
parts.

A compact integer is accepted in its shortest form only.
-/

set_option autoImplicit false

namespace Scale

/-! ## Bytes and numbers -/

/-- The number with these bytes, least significant first. -/
def ofLittleEndian : Bytes → Nat
  | [] => 0
  | byte :: rest => byte.toNat + 256 * ofLittleEndian rest

theorem toNat_lowByte (n : Nat) : (UInt8.ofNat (n % 256)).toNat = n % 256 :=
  UInt8.toNat_ofNat_of_lt' (Nat.mod_lt n (by decide))

theorem ofLittleEndian_littleEndian {width n : Nat} (h : n < 256 ^ width) :
    ofLittleEndian (littleEndian width n) = n := by
  induction width generalizing n with
  | zero =>
    simp only [Nat.pow_zero, Nat.lt_one_iff] at h
    rw [h]
    rfl
  | succ width ih =>
    have hdiv : n / 256 < 256 ^ width := by
      rw [Nat.div_lt_iff_lt_mul (by decide)]
      exact h
    rw [littleEndian, ofLittleEndian, ih hdiv, toNat_lowByte]
    omega

/-- The first bytes, and the rest. -/
def readBytes (count : Nat) (input : Bytes) : Option (Bytes × Bytes) :=
  if count ≤ input.length then some (input.take count, input.drop count) else none

theorem readBytes_append {count : Nat} {bytes : Bytes} (h : bytes.length = count) (rest : Bytes) :
    readBytes count (bytes ++ rest) = some (bytes, rest) := by
  subst h
  rw [readBytes, if_pos (by rw [List.length_append]; omega), List.take_left, List.drop_left]

/-- Nothing is left exactly if there are as many bytes as are asked for. -/
theorem readBytes_complete {count : Nat} {input bytes : Bytes} :
    readBytes count input = some (bytes, []) ↔ input = bytes ∧ input.length = count := by
  unfold readBytes
  constructor
  · intro h
    split at h
    next hle =>
      obtain ⟨htake, hdrop⟩ := Prod.mk.inj (Option.some.inj h)
      have hlen : input.length = count := Nat.le_antisymm (List.drop_eq_nil_iff.mp hdrop) hle
      refine ⟨?_, hlen⟩
      rw [← htake, ← hlen, List.take_length]
    next hlt => cases h
  · rintro ⟨rfl, rfl⟩
    rw [if_pos (Nat.le_refl _), List.take_length, List.drop_length]

/-! ## Compact integers -/

/-- How many bytes follow the first byte of a compact integer. -/
def compactTail (first : UInt8) : Nat :=
  match first.toNat % 4 with
  | 0 => 0
  | 1 => 1
  | 2 => 3
  | _ => first.toNat / 4 + 4

/-- The number that a compact integer stands for. -/
def compactValue (first : UInt8) (more : Bytes) : Nat :=
  if first.toNat % 4 = 3 then ofLittleEndian more else ofLittleEndian (first :: more) / 4

/-- Read a compact integer of at most `bits` bits, in its shortest form. -/
def readCompact (bits : Nat) : Bytes → Option (Nat × Bytes)
  | [] => none
  | first :: input => do
    let (more, rest) ← readBytes (compactTail first) input
    let n := compactValue first more
    if compact n = first :: more ∧ n < 2 ^ bits then some (n, rest) else none

/-- A compact integer is a first byte and as many more as it announces, and
they give the number back. -/
def Readable (n : Nat) (bytes : Bytes) : Prop :=
  ∃ first more, bytes = first :: more ∧ compactTail first = more.length ∧
    compactValue first more = n

/-- The forms of up to four bytes: the number, shifted, with the form in the
low bits of the first byte. -/
theorem readable_short (form : Nat) {n : Nat} (hform : form < 3)
    (hn : n * 4 + form < 256 ^ 2 ^ form) :
    Readable n (littleEndian (2 ^ form) (n * 4 + form)) := by
  obtain ⟨tail, htail⟩ : ∃ tail, 2 ^ form = tail + 1 :=
    Nat.exists_eq_succ_of_ne_zero (Nat.two_pow_pos form).ne'
  rw [htail] at hn ⊢
  have hlow : (n * 4 + form) % 256 % 4 = form := by omega
  refine ⟨UInt8.ofNat ((n * 4 + form) % 256), littleEndian tail ((n * 4 + form) / 256), rfl, ?_, ?_⟩
  · rw [length_littleEndian, compactTail, toNat_lowByte, hlow]
    obtain rfl | rfl | rfl : form = 0 ∨ form = 1 ∨ form = 2 := by omega
    · simp only at htail ⊢
      omega
    · simp only at htail ⊢
      omega
    · simp only at htail ⊢
      omega
  · rw [compactValue, toNat_lowByte, hlow, if_neg (by omega), ← littleEndian,
      ofLittleEndian_littleEndian hn]
    omega

/-- A number fits the bytes that its length in bits asks for. -/
theorem lt_pow_width (n : Nat) : n < 256 ^ max 4 (n.log2 / 8 + 1) :=
  calc n < 2 ^ (n.log2 + 1) := Nat.lt_log2_self
    _ ≤ 2 ^ (8 * max 4 (n.log2 / 8 + 1)) := Nat.pow_le_pow_right (by decide) (by omega)
    _ = 256 ^ max 4 (n.log2 / 8 + 1) := Nat.pow_mul 2 8 _

/-- The form that announces its own count of bytes. -/
theorem readable_long {n width : Nat} (hwidth : 4 ≤ width) (hlarge : width < 68)
    (hn : n < 256 ^ width) :
    Readable n (littleEndian 1 ((width - 4) * 4 + 3) ++ littleEndian width n) := by
  have hbyte : ((width - 4) * 4 + 3) % 256 = (width - 4) * 4 + 3 := by omega
  refine ⟨UInt8.ofNat (((width - 4) * 4 + 3) % 256), littleEndian width n, rfl, ?_, ?_⟩
  · rw [length_littleEndian, compactTail, toNat_lowByte, hbyte]
    have hform : ((width - 4) * 4 + 3) % 4 = 3 := by omega
    rw [hform]
    show ((width - 4) * 4 + 3) / 4 + 4 = width
    omega
  · rw [compactValue, toNat_lowByte, hbyte, if_pos (by omega), ofLittleEndian_littleEndian hn]

/-- What is written can be read. The numbers in use have at most 256 bits; the
first byte could announce more. -/
theorem readable_compact {n : Nat} (hn : n < 2 ^ 256) : Readable n (compact n) := by
  unfold compact
  split
  next h => exact readable_short 0 (by decide) (by omega)
  next _ =>
    split
    next h => exact readable_short 1 (by decide) (by omega)
    next _ =>
      split
      next h => exact readable_short 2 (by decide) (by omega)
      next h =>
        have hne : n ≠ 0 := by omega
        have hlog : n.log2 < 256 := (Nat.log2_lt hne).mpr hn
        exact readable_long (by omega) (by omega) (lt_pow_width n)

/-- A compact integer of the right size is read back. -/
theorem readCompact_compact {bits n : Nat} (hbits : bits ≤ 256) (hn : n < 2 ^ bits)
    (rest : Bytes) : readCompact bits (compact n ++ rest) = some (n, rest) := by
  have hlt : n < 2 ^ 256 := hn.trans_le (Nat.pow_le_pow_right (by decide) hbits)
  obtain ⟨first, more, hbytes, htail, hvalue⟩ := readable_compact hlt
  have hread : readBytes (compactTail first) (more ++ rest) = some (more, rest) :=
    readBytes_append htail.symm rest
  rw [hbytes, List.cons_append, readCompact, hread]
  show (if compact (compactValue first more) = first :: more ∧ compactValue first more < 2 ^ bits
    then some (compactValue first more, rest) else none) = some (n, rest)
  rw [hvalue, if_pos ⟨hbytes, hn⟩]

/-! ## Decoders -/

/-- The types the runtime can decode. -/
class Decode (α : Type) where
  decode : Bytes → Option (α × Bytes)

export Decode (decode)

/-- Decoding reads back what was encoded, and leaves what follows it. -/
class RoundTrip (α : Type) [Encode α] [Decode α] : Prop where
  decode_encode (a : α) (rest : Bytes) : decode (encode a ++ rest) = some (a, rest)

export RoundTrip (decode_encode)

/-- `DecodeAll::decode_all`: nothing may be left. -/
def decodeAll {α : Type} [Decode α] (input : Bytes) : Option α :=
  match decode input with
  | some (a, []) => some a
  | _ => none

theorem decodeAll_eq_some {α : Type} [Decode α] {input : Bytes} {a : α} :
    decodeAll input = some a ↔ decode input = some (a, []) := by
  unfold decodeAll
  split
  next b hb => rw [hb, Option.some.injEq, Option.some.injEq, Prod.mk.injEq, eq_self, and_true]
  next hnone => exact ⟨nofun, fun h => (hnone a h).elim⟩

instance : Decode UInt8 where
  decode
    | [] => none
    | byte :: rest => some (byte, rest)

instance : RoundTrip UInt8 where
  decode_encode byte rest := by
    have hbyte : UInt8.ofNat (byte.toNat % 256) = byte := by
      rw [Nat.mod_eq_of_lt byte.toNat_lt, UInt8.ofNat_toNat]
    show some (UInt8.ofNat (byte.toNat % 256), rest) = some (byte, rest)
    rw [hbyte]

instance {n : Nat} : Decode (Vector UInt8 n) where
  decode input := do
    let (bytes, rest) ← readBytes n input
    let v ← tryIntoArray n bytes
    pure (v, rest)

theorem tryIntoArray_toList {n : Nat} (v : Vector UInt8 n) : tryIntoArray n v.toList = some v := by
  rw [tryIntoArray, dif_pos Vector.length_toList]
  exact congrArg some (Vector.toList_inj.mp rfl)

instance {n : Nat} : RoundTrip (Vector UInt8 n) where
  decode_encode v rest := by
    show ((readBytes n (v.toList ++ rest)).bind fun p =>
      (tryIntoArray n p.1).bind fun v => some (v, p.2)) = some (v, rest)
    rw [readBytes_append Vector.length_toList, Option.bind_some, tryIntoArray_toList,
      Option.bind_some]

instance {α : Type} [Decode α] : Decode (Option α) where
  decode
    | 0 :: rest => some (none, rest)
    | 1 :: rest => (decode rest).map fun p => (some p.1, p.2)
    | _ => none

instance {α : Type} [Encode α] [Decode α] [RoundTrip α] : RoundTrip (Option α) where
  decode_encode o rest := by
    cases o with
    | none => rfl
    | some a =>
      show (decode (encode a ++ rest)).map (fun p => (some p.1, p.2)) = some (some a, rest)
      rw [decode_encode, Option.map_some]

/-- A number that is written as a compact integer. -/
structure Compact (α : Type) where
  value : α
deriving DecidableEq

instance : Encode (Compact UInt64) where
  encode n := compact n.value.toNat

instance : Decode (Compact UInt64) where
  decode input := (readCompact 64 input).map fun p => (⟨UInt64.ofNat p.1⟩, p.2)

instance : RoundTrip (Compact UInt64) where
  decode_encode n rest := by
    show (readCompact 64 (compact n.value.toNat ++ rest)).map _ = _
    rw [readCompact_compact (by decide) n.value.toNat_lt, Option.map_some, UInt64.ofNat_toNat]

/-- A `u128`, among others. -/
instance {w : Nat} : Encode (Compact (BitVec w)) where
  encode n := compact n.value.toNat

instance {w : Nat} : Decode (Compact (BitVec w)) where
  decode input := (readCompact w input).map fun p => (⟨BitVec.ofNat w p.1⟩, p.2)

instance : RoundTrip (Compact (BitVec 128)) where
  decode_encode n rest := by
    show (readCompact 128 (compact n.value.toNat ++ rest)).map _ = _
    rw [readCompact_compact (by decide) n.value.isLt, Option.map_some, BitVec.ofNat_toNat,
      BitVec.setWidth_eq]

/-! ## Numbers of a fixed width -/

/-- A number that is written in so many bytes. -/
structure FixedWidth (width : Nat) where
  value : Nat
deriving DecidableEq

instance {width : Nat} : Encode (FixedWidth width) where
  encode n := littleEndian width n.value

instance {width : Nat} : Decode (FixedWidth width) where
  decode input := (readBytes width input).map fun p => (⟨ofLittleEndian p.1⟩, p.2)

theorem decode_littleEndian_append {width n : Nat} (h : n < 256 ^ width) (rest : Bytes) :
    decode (littleEndian width n ++ rest) = some ((⟨n⟩ : FixedWidth width), rest) := by
  show (readBytes width (littleEndian width n ++ rest)).map _ = _
  rw [readBytes_append (length_littleEndian width n), Option.map_some,
    ofLittleEndian_littleEndian h]

instance : Decode UInt32 where
  decode input := (decode input : Option (FixedWidth 4 × Bytes)).map fun p =>
    (UInt32.ofNat p.1.value, p.2)

instance : RoundTrip UInt32 where
  decode_encode n rest := by
    show (decode (littleEndian 4 n.toNat ++ rest) : Option (FixedWidth 4 × Bytes)).map _ = _
    rw [decode_littleEndian_append n.toNat_lt, Option.map_some, UInt32.ofNat_toNat]

instance : Decode UInt64 where
  decode input := (decode input : Option (FixedWidth 8 × Bytes)).map fun p =>
    (UInt64.ofNat p.1.value, p.2)

instance : RoundTrip UInt64 where
  decode_encode n rest := by
    show (decode (littleEndian 8 n.toNat ++ rest) : Option (FixedWidth 8 × Bytes)).map _ = _
    rw [decode_littleEndian_append n.toNat_lt, Option.map_some, UInt64.ofNat_toNat]

/-! ## Vectors -/

/-- A `Vec<u8>`. Lengths are read as 32 bits. -/
instance : Decode Bytes where
  decode input := do
    let (length, rest) ← readCompact 32 input
    readBytes length rest

/-- After a length, that many bytes are read. -/
theorem decode_length_append {length : Nat} (h : length < 2 ^ 32) (bytes : Bytes) :
    decode (compact length ++ bytes) = readBytes length bytes := by
  show ((readCompact 32 (compact length ++ bytes)).bind fun p => readBytes p.1 p.2) = _
  rw [readCompact_compact (by decide) h, Option.bind_some]

/-! ## Tuples, records and lists -/

instance {α β : Type} [Decode α] [Decode β] : Decode (α × β) where
  decode input := do
    let (a, input) ← (decode input : Option (α × Bytes))
    let (b, input) ← (decode input : Option (β × Bytes))
    pure ((a, b), input)

/-- Read the tuple of a record's fields, and make the record from it. -/
def decodeFields {α τ : Type} [Decode τ] (make : τ → α) (input : Bytes) : Option (α × Bytes) :=
  (decode input).map fun p => (make p.1, p.2)

/-- Read so many items. -/
def readItems (α : Type) [Decode α] : Nat → Bytes → Option (List α × Bytes)
  | 0, input => some ([], input)
  | count + 1, input => do
    let (item, input) ← (decode input : Option (α × Bytes))
    let (items, input) ← readItems α count input
    pure (item :: items, input)

/-! ## Values that are read back

A type of another crate may stand here for more values than it has. Then not
all of them can be told apart by their encodings, and what holds of the values
there are is said of a value at a time. -/

section ReadBack

variable {α β τ : Type} [Encode α] [Encode β] [Encode τ] [Decode α] [Decode β] [Decode τ]
variable {a a' : α} {b : β}

/-- The value is read back from its encoding, whatever follows it. -/
def ReadBack (a : α) : Prop := ∀ rest, decode (encode a ++ rest) = some (a, rest)

theorem readBack [RoundTrip α] (a : α) : ReadBack a := decode_encode a

theorem ReadBack.decodeAll (h : ReadBack a) : decodeAll (encode a) = some a := by
  have hdecode := h []
  rw [List.append_nil] at hdecode
  exact decodeAll_eq_some.mpr hdecode

/-- Values that are read back are told apart by their encodings, whatever
follows them. -/
theorem ReadBack.inj (h : ReadBack a) (h' : ReadBack a') {rest rest' : Bytes}
    (heq : encode a ++ rest = encode a' ++ rest') : a = a' ∧ rest = rest' := by
  have hsome := h rest
  rw [heq, h' rest'] at hsome
  obtain ⟨hvalue, hrest⟩ := Prod.mk.inj (Option.some.inj hsome)
  exact ⟨hvalue.symm, hrest.symm⟩

theorem ReadBack.encode_inj (h : ReadBack a) (h' : ReadBack a') (heq : encode a = encode a') :
    a = a' := by
  have hsome := h.decodeAll
  rw [heq, h'.decodeAll] at hsome
  exact (Option.some.inj hsome).symm

theorem readBack_fixedWidth {width n : Nat} (h : n < 256 ^ width) :
    ReadBack (⟨n⟩ : FixedWidth width) :=
  decode_littleEndian_append h

theorem readBack_bytes {bytes : Bytes} (h : bytes.length < 2 ^ 32) : ReadBack bytes := by
  intro rest
  show decode (compact bytes.length ++ bytes ++ rest) = _
  rw [List.append_assoc, decode_length_append h, readBytes_append rfl]

theorem ReadBack.pair (ha : ReadBack a) (hb : ReadBack b) : ReadBack (a, b) := by
  intro rest
  show ((decode (encode a ++ encode b ++ rest) : Option (α × Bytes)).bind
    fun p => (decode p.2 : Option (β × Bytes)).bind fun q => Option.some ((p.1, q.1), q.2)) = _
  rw [List.append_assoc, ha, Option.bind_some, hb, Option.bind_some]

instance [RoundTrip α] [RoundTrip β] : RoundTrip (α × β) where
  decode_encode p := (readBack p.1).pair (readBack p.2)

/-- A variant of an enumeration is read behind its index if its argument is
read back. -/
theorem ReadBack.variant {γ : Type} (h : ReadBack a) (make : α → γ) (rest : Bytes) :
    (decode (encode a ++ rest)).map (fun p => (make p.1, p.2)) = Option.some (make a, rest) := by
  rw [h rest, Option.map_some]

/-- THE RECORD RULE: a record that is written and read as the tuple of its
fields is read back if the tuple is. -/
theorem ReadBack.of_fields (fields : τ) {make : τ → α}
    (hdecode : (decode : Bytes → Option (α × Bytes)) = decodeFields make)
    (hencode : encode a = encode fields) (hmake : make fields = a) (h : ReadBack fields) :
    ReadBack a := by
  intro rest
  rw [hdecode, hencode, decodeFields, h rest, Option.map_some, hmake]

theorem readItems_append {items : List α} (h : ∀ item ∈ items, ReadBack item) (rest : Bytes) :
    readItems α items.length (items.flatMap encode ++ rest) = Option.some (items, rest) := by
  induction items with
  | nil => rfl
  | cons item items ih =>
    obtain ⟨hitem, hitems⟩ := List.forall_mem_cons.mp h
    rw [List.flatMap_cons, List.append_assoc]
    show ((decode (encode item ++ (items.flatMap encode ++ rest)) : Option (α × Bytes)).bind
      fun p => (readItems α items.length p.2).bind
        fun q => Option.some (p.1 :: q.1, q.2)) = _
    rw [hitem, Option.bind_some, ih hitems, Option.bind_some]

end ReadBack

end Scale
