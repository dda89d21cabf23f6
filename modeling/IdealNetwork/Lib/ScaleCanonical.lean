import IdealNetwork.Lib.ScaleDecode

/-!
# Canonical SCALE

The other half of a codec: a decoder is canonical if whatever it reads a value
from begins with the encoding of that value. Then no two byte strings are read
as one value: each value is read from its encoding and from nothing else.

Integers of a fixed width and arrays are canonical, and vectors of bytes because
only the shortest form of a length is accepted. Options, tuples and records
(`Canonical.of_fields`) are if their parts are.
-/

set_option autoImplicit false

namespace Scale

/-- What is read begins with the encoding of what was read. -/
class Canonical (α : Type) [Encode α] [Decode α] : Prop where
  encode_append {input rest : Bytes} {a : α} (h : decode input = some (a, rest)) :
    encode a ++ rest = input

export Canonical (encode_append)

section

variable {α β τ : Type} [Encode α] [Encode β] [Encode τ] [Decode α] [Decode β] [Decode τ]

/-! ## Bytes and numbers -/

theorem readBytes_some {count : Nat} {input bytes rest : Bytes}
    (h : readBytes count input = some (bytes, rest)) :
    bytes ++ rest = input ∧ bytes.length = count := by
  unfold readBytes at h
  split at h
  next hle =>
    obtain ⟨rfl, rfl⟩ := Prod.mk.inj (Option.some.inj h)
    exact ⟨List.take_append_drop count input, List.length_take_of_le hle⟩
  next => cases h

/-- Bytes are the digits of the number they stand for. -/
theorem littleEndian_ofLittleEndian (bytes : Bytes) :
    littleEndian bytes.length (ofLittleEndian bytes) = bytes := by
  induction bytes with
  | nil => rfl
  | cons byte rest ih =>
    have hbyte : byte.toNat < 256 := byte.toNat_lt
    have hlow : (byte.toNat + 256 * ofLittleEndian rest) % 256 = byte.toNat := by omega
    have hhigh : (byte.toNat + 256 * ofLittleEndian rest) / 256 = ofLittleEndian rest := by omega
    rw [List.length_cons, ofLittleEndian, littleEndian, hlow, hhigh, ih, UInt8.ofNat_toNat]

theorem ofLittleEndian_lt (bytes : Bytes) : ofLittleEndian bytes < 256 ^ bytes.length := by
  induction bytes with
  | nil => exact Nat.one_pos
  | cons byte rest ih =>
    have hbyte : byte.toNat < 256 := byte.toNat_lt
    rw [List.length_cons, Nat.pow_succ, ofLittleEndian]
    omega

/-- A number that was read has as many digits as it was read from. -/
theorem decode_fixedWidth_some {width : Nat} {input rest : Bytes} {n : FixedWidth width}
    (h : decode input = some (n, rest)) :
    littleEndian width n.value ++ rest = input ∧ n.value < 256 ^ width := by
  obtain ⟨⟨bytes, rest'⟩, hread, hn⟩ := Option.map_eq_some_iff.mp h
  obtain ⟨rfl, rfl⟩ := Prod.mk.inj hn
  obtain ⟨hinput, rfl⟩ := readBytes_some hread
  refine ⟨?_, ofLittleEndian_lt bytes⟩
  rw [littleEndian_ofLittleEndian]
  exact hinput

instance {width : Nat} : Canonical (FixedWidth width) where
  encode_append h := (decode_fixedWidth_some h).1

instance : Canonical UInt8 where
  encode_append {input rest byte} h := by
    cases input with
    | nil => cases h
    | cons first input =>
      obtain ⟨rfl, rfl⟩ := Prod.mk.inj (Option.some.inj h)
      show UInt8.ofNat (first.toNat % 256) :: input = first :: input
      rw [Nat.mod_eq_of_lt first.toNat_lt, UInt8.ofNat_toNat]

instance : Canonical UInt32 where
  encode_append {input rest n} h := by
    obtain ⟨⟨value, _⟩, hread, hn⟩ := Option.map_eq_some_iff.mp h
    obtain ⟨rfl, rfl⟩ := Prod.mk.inj hn
    obtain ⟨hinput, hlt⟩ := decode_fixedWidth_some hread
    show littleEndian 4 (UInt32.ofNat value.value).toNat ++ _ = _
    rw [UInt32.toNat_ofNat_of_lt' hlt]
    exact hinput

instance : Canonical UInt64 where
  encode_append {input rest n} h := by
    obtain ⟨⟨value, _⟩, hread, hn⟩ := Option.map_eq_some_iff.mp h
    obtain ⟨rfl, rfl⟩ := Prod.mk.inj hn
    obtain ⟨hinput, hlt⟩ := decode_fixedWidth_some hread
    show littleEndian 8 (UInt64.ofNat value.value).toNat ++ _ = _
    rw [UInt64.toNat_ofNat_of_lt' hlt]
    exact hinput

theorem toList_of_tryIntoArray {n : Nat} {bytes : Bytes} {v : Vector UInt8 n}
    (h : tryIntoArray n bytes = some v) : v.toList = bytes := by
  unfold tryIntoArray at h
  split at h
  next hlen =>
    cases h
    rfl
  next => cases h

instance {n : Nat} : Canonical (Vector UInt8 n) where
  encode_append {input rest v} h := by
    obtain ⟨⟨bytes, rest'⟩, hread, h⟩ := Option.bind_eq_some_iff.mp h
    obtain ⟨w, hv, hpair⟩ := Option.bind_eq_some_iff.mp h
    obtain ⟨rfl, rfl⟩ := Prod.mk.inj (Option.some.inj hpair)
    show w.toList ++ rest' = input
    rw [toList_of_tryIntoArray hv]
    exact (readBytes_some hread).1

/-! ## Compact integers and vectors -/

/-- Only the shortest form is accepted. -/
theorem readCompact_some {bits n : Nat} {input rest : Bytes}
    (h : readCompact bits input = some (n, rest)) : compact n ++ rest = input ∧ n < 2 ^ bits := by
  cases input with
  | nil => cases h
  | cons first input =>
    obtain ⟨⟨more, rest'⟩, hread, h⟩ := Option.bind_eq_some_iff.mp h
    change (if compact (compactValue first more) = first :: more ∧
      compactValue first more < 2 ^ bits then some (compactValue first more, rest') else none) = _
      at h
    split at h
    next hshortest =>
      obtain ⟨rfl, rfl⟩ := Prod.mk.inj (Option.some.inj h)
      refine ⟨?_, hshortest.2⟩
      rw [hshortest.1, List.cons_append, (readBytes_some hread).1]
    next => cases h

instance : Canonical Bytes where
  encode_append {input rest bytes} h := by
    obtain ⟨⟨length, rest'⟩, hlength, hread⟩ := Option.bind_eq_some_iff.mp h
    obtain ⟨hinput, hbytes⟩ := readBytes_some hread
    show compact bytes.length ++ bytes ++ rest = input
    rw [List.append_assoc, hinput, hbytes]
    exact (readCompact_some hlength).1

/-! ## Options, tuples and records -/

instance [Canonical α] : Canonical (Option α) where
  encode_append {input rest o} h := by
    cases input with
    | nil => cases h
    | cons tag input =>
      by_cases hzero : tag = 0
      · subst hzero
        obtain ⟨rfl, rfl⟩ := Prod.mk.inj (Option.some.inj h)
        rfl
      · by_cases hone : tag = 1
        · subst hone
          obtain ⟨⟨a, _⟩, hread, ho⟩ := Option.map_eq_some_iff.mp h
          obtain ⟨rfl, rfl⟩ := Prod.mk.inj ho
          exact congrArg (List.cons 1) (encode_append hread)
        · have hnone : (decode (tag :: input) : Option (Option α × Bytes)) = none := by
            show (match tag :: input with
              | 0 :: rest => some (none, rest)
              | 1 :: rest => (decode rest).map fun p => (some p.1, p.2)
              | _ => none) = none
            split
            next heq => exact absurd (List.cons.inj heq).1 hzero
            next heq => exact absurd (List.cons.inj heq).1 hone
            next => rfl
          cases hnone.symm.trans h

instance [Canonical α] [Canonical β] : Canonical (α × β) where
  encode_append {input rest p} h := by
    obtain ⟨⟨a, input'⟩, ha, h⟩ := Option.bind_eq_some_iff.mp h
    obtain ⟨⟨b, rest'⟩, hb, hpair⟩ := Option.bind_eq_some_iff.mp h
    obtain ⟨rfl, rfl⟩ := Prod.mk.inj (Option.some.inj hpair)
    show encode a ++ encode b ++ rest' = input
    rw [List.append_assoc, encode_append hb]
    exact encode_append ha

/-- THE RECORD RULE: a record that is written and read as the tuple of its
fields is canonical if the tuple is. -/
theorem Canonical.of_fields [Canonical τ] {make : τ → α}
    (hdecode : (decode : Bytes → Option (α × Bytes)) = decodeFields make)
    (hencode : ∀ fields, encode (make fields) = encode fields) : Canonical α where
  encode_append {input rest a} h := by
    rw [hdecode] at h
    obtain ⟨⟨fields, _⟩, hread, ha⟩ := Option.map_eq_some_iff.mp h
    obtain ⟨rfl, rfl⟩ := Prod.mk.inj ha
    rw [hencode]
    exact encode_append hread

/-- A variant of an enumeration, read behind its index. -/
theorem encode_append_variant [Canonical α] {γ : Type} (make : α → γ) {input rest : Bytes} {c : γ}
    (h : (decode input).map (fun p => (make p.1, p.2)) = some (c, rest)) :
    ∃ a, c = make a ∧ encode a ++ rest = input := by
  obtain ⟨⟨a, _⟩, hread, hc⟩ := Option.map_eq_some_iff.mp h
  obtain ⟨rfl, rfl⟩ := Prod.mk.inj hc
  exact ⟨a, rfl, encode_append hread⟩

theorem readItems_some [Canonical α] {count : Nat} {input rest : Bytes} {items : List α}
    (h : readItems α count input = some (items, rest)) :
    items.flatMap encode ++ rest = input ∧ items.length = count := by
  induction count generalizing input items with
  | zero =>
    obtain ⟨rfl, rfl⟩ := Prod.mk.inj (Option.some.inj h)
    exact ⟨rfl, rfl⟩
  | succ count ih =>
    obtain ⟨⟨item, input'⟩, hitem, h⟩ := Option.bind_eq_some_iff.mp h
    obtain ⟨⟨items', rest'⟩, hitems, hcons⟩ := Option.bind_eq_some_iff.mp h
    obtain ⟨rfl, rfl⟩ := Prod.mk.inj (Option.some.inj hcons)
    obtain ⟨hinput, hlen⟩ := ih hitems
    refine ⟨?_, congrArg (· + 1) hlen⟩
    rw [List.flatMap_cons, List.append_assoc, hinput]
    exact encode_append hitem

end

end Scale
