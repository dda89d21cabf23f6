import IdealNetwork.Bridge
import IdealNetwork.Lib.ScaleCanonical

/-!
# What the runtime accepts

`Bridge` shows that a call written with the mirror is read as it was meant.
This is the other direction: a call that the runtime reads was written as the
mirror writes it, byte for byte. So the bytes of a call and the call determine
each other (`runtimeCall_iff`), and a `Transact` that runs a call of the
manager pallet carries that call's encoding and nothing else.

The codec of junctions comes from elsewhere. What is assumed of it is that it
is canonical too.
-/

set_option autoImplicit false

namespace IdealNetwork

open Scale

/-! ## Vectors and origin kinds -/

instance {bound : ℕ} : Canonical (BoundedVec UInt8 bound) where
  encode_append {input rest v} h := by
    obtain ⟨⟨bytes, rest'⟩, hread, h⟩ := Option.bind_eq_some_iff.mp h
    change (if h : bytes.length ≤ bound then some ((⟨bytes, h⟩ : BoundedVec UInt8 bound), rest')
      else none) = _ at h
    split at h
    next hle =>
      obtain ⟨rfl, rfl⟩ := Prod.mk.inj (Option.some.inj h)
      have hbytes : encode (α := Bytes) bytes ++ rest' = input := encode_append hread
      exact hbytes
    next => cases h

instance : Canonical OriginKind where
  encode_append {input rest kind} h := by
    unfold decode instDecodeOriginKind at h
    dsimp only at h
    split at h <;> cases h <;> rfl

/-! ## Records -/

instance : Canonical RuntimePulse :=
  .of_fields (τ := OpaqueSignature × RoundNumber × RoundNumber) rfl fun fields => by
    simp only [encode, List.append_assoc]

instance : Canonical Quote :=
  .of_fields (τ := RequestReference × FixedWidth 16 × FixedWidth 16) rfl fun fields => by
    simp only [encode, List.append_assoc]

section Generic

variable {BlockNumber Credits Metadata SubscriptionId CallData Params PulseIndex : Type}
variable [Encode BlockNumber] [Encode Credits] [Encode Metadata] [Encode SubscriptionId]
variable [Encode CallData] [Encode Params] [Encode PulseIndex]
variable [Decode BlockNumber] [Decode Credits] [Decode Metadata] [Decode SubscriptionId]
variable [Decode CallData] [Decode Params] [Decode PulseIndex]
variable [Canonical BlockNumber] [Canonical Credits] [Canonical Metadata]
variable [Canonical SubscriptionId] [Canonical CallData] [Canonical Params] [Canonical PulseIndex]

instance : Canonical (UpdateSubParams SubscriptionId Credits BlockNumber Metadata) :=
  .of_fields (τ := SubscriptionId × Option Credits × Option BlockNumber × Option (Option Metadata))
    rfl fun fields => by simp only [encode, List.append_assoc]

instance : Canonical (SubInfoRequest SubscriptionId CallData) :=
  .of_fields (τ := RequestReference × SubscriptionId × CallData × OriginKind) rfl
    fun fields => by simp only [encode, List.append_assoc]

instance : Canonical (QuoteRequest Params PulseIndex) :=
  .of_fields (τ := RequestReference × Params × PulseIndex) rfl
    fun fields => by simp only [encode, List.append_assoc]

instance : Canonical (QuoteSubParams Params PulseIndex CallData) :=
  .of_fields (τ := QuoteRequest Params PulseIndex × CallData × OriginKind) rfl
    fun fields => by simp only [encode, List.append_assoc]

/-! Locations, and the record with one in it. -/

variable [Decode Junction] [Canonical Junction]

instance : Canonical Location where
  encode_append {input rest location} h := by
    obtain ⟨⟨parents, input'⟩, hparents, h⟩ := Option.bind_eq_some_iff.mp h
    obtain ⟨⟨count, input''⟩, hcount, h⟩ := Option.bind_eq_some_iff.mp h
    obtain ⟨⟨junctions, rest'⟩, hjunctions, h⟩ := Option.bind_eq_some_iff.mp h
    change (if h : junctions.length ≤ 8 then
      some ((⟨parents, ⟨junctions, h⟩⟩ : Location), rest') else none) = _ at h
    split at h
    next hle =>
      obtain ⟨rfl, rfl⟩ := Prod.mk.inj (Option.some.inj h)
      obtain ⟨hitems, hlength⟩ := readItems_some hjunctions
      have hhead : encode parents ++ input' = input := encode_append hparents
      have htail : encode count ++ input'' = input' := encode_append hcount
      have hone : encode count = [count] := by
        show [UInt8.ofNat (count.toNat % 256)] = [count]
        rw [Nat.mod_eq_of_lt count.toNat_lt, UInt8.ofNat_toNat]
      show encode parents ++ UInt8.ofNat junctions.length :: junctions.flatMap encode ++ rest' = _
      rw [hlength, UInt8.ofNat_toNat, List.append_assoc, List.cons_append, hitems, ← hhead, ← htail,
        hone]
      rfl
    next => cases h

instance : Canonical (CreateSubParams Credits BlockNumber Metadata SubscriptionId CallData) :=
  .of_fields (τ := Credits × Location × CallData × OriginKind × BlockNumber × Option Metadata ×
      Option SubscriptionId) rfl
    fun fields => by simp only [encode, List.append_assoc]

end Generic

/-- As much of the codec as siblings need is canonical. -/
theorem canonical_siblingCodec : @Canonical Junction _ siblingCodec := by
  let _ := siblingCodec
  refine ⟨?_⟩
  intro input rest junction h
  unfold decode siblingCodec at h
  dsimp only at h
  split at h
  next input' =>
    obtain ⟨⟨id, _⟩, hread, hj⟩ := Option.map_eq_some_iff.mp h
    obtain ⟨rfl, rfl⟩ := Prod.mk.inj hj
    obtain ⟨hinput, hlt⟩ := readCompact_some hread
    show 0 :: (compact (UInt32.ofNat id).toNat ++ _) = _
    rw [UInt32.toNat_ofNat_of_lt' hlt, hinput]
  next input' =>
    obtain ⟨id, rfl, hinput⟩ := encode_append_variant (Junction.accountId32 none) h
    exact congrArg (fun bytes => 1 :: 0 :: bytes) hinput
  next => cases h

namespace Bridge

/-! ## Calls -/

theorem toManager_injective : Function.Injective IdnManagerCall.toManager := by
  intro a b h
  cases a <;> cases b <;> cases h <;> rfl

section

variable [Decode Junction] [Canonical Junction]

/-- A call of the manager pallet is read from what the mirror writes. -/
theorem decode_managerCall {input rest : Bytes} {call : Manager.Call}
    (h : decode input = some (call, rest)) :
    ∃ mirrored : IdnManagerCall, mirrored.toManager = call ∧ encode mirrored ++ rest = input := by
  unfold decode instDecodeCall at h
  dsimp only at h
  split at h
  · obtain ⟨a, rfl, rfl⟩ := encode_append_variant _ h
    exact ⟨.createSubscription a, rfl, rfl⟩
  · obtain ⟨a, rfl, rfl⟩ := encode_append_variant _ h
    exact ⟨.pauseSubscription a, rfl, rfl⟩
  · obtain ⟨a, rfl, rfl⟩ := encode_append_variant _ h
    exact ⟨.killSubscription a, rfl, rfl⟩
  · obtain ⟨a, rfl, rfl⟩ := encode_append_variant _ h
    exact ⟨.updateSubscription a, rfl, rfl⟩
  · obtain ⟨a, rfl, rfl⟩ := encode_append_variant _ h
    exact ⟨.reactivateSubscription a, rfl, rfl⟩
  · obtain ⟨a, rfl, rfl⟩ := encode_append_variant _ h
    exact ⟨.quoteSubscription a, rfl, rfl⟩
  · obtain ⟨a, rfl, rfl⟩ := encode_append_variant _ h
    exact ⟨.getSubscriptionInfo a, rfl, rfl⟩
  · cases h

/-- BYTES AND CALLS DETERMINE EACH OTHER. Whatever the runtime reads as a call
of the manager pallet is the encoding of one call of the mirror, the one of the
same name with the same arguments, and of no other. A call whose locations the
codec knows is read from its encoding and from nothing else. -/
theorem runtimeCall_iff :
    (∀ (bytes : Bytes) (call : RuntimeCall), decodeAll bytes = some call →
      ∃ mirrored : Call, mirrored.toRuntime = call ∧ encode mirrored = bytes ∧
        ∀ other : Call, other.toRuntime = call → other = mirrored) ∧
      ∀ (bytes : Bytes) (mirrored : Call), mirrored.Known →
        (decodeAll bytes = some mirrored.toRuntime ↔ bytes = encode mirrored) := by
  have hread : ∀ (bytes : Bytes) (call : RuntimeCall), decodeAll bytes = some call →
      ∃ mirrored : Call, mirrored.toRuntime = call ∧ encode mirrored = bytes := by
    intro bytes call h
    have hdecode := decodeAll_eq_some.mp h
    unfold decode instDecodeRuntimeCall at hdecode
    dsimp only at hdecode
    split at hdecode
    next input =>
      obtain ⟨⟨inner, _⟩, hinner, hcall⟩ := Option.map_eq_some_iff.mp hdecode
      obtain ⟨rfl, rfl⟩ := Prod.mk.inj hcall
      obtain ⟨mirrored, rfl, hbytes⟩ := decode_managerCall hinner
      rw [List.append_nil] at hbytes
      exact ⟨.idnManager mirrored, rfl, congrArg (List.cons 40) hbytes⟩
    next => cases hdecode
  have hinj : ∀ a b : Call, a.toRuntime = b.toRuntime → a = b := by
    rintro ⟨a⟩ ⟨b⟩ h
    rw [toManager_injective (RuntimeCall.idnManager.inj h)]
  refine ⟨fun bytes call h => ?_, fun bytes mirrored hknown => ⟨fun h => ?_, ?_⟩⟩
  · obtain ⟨mirrored, rfl, hbytes⟩ := hread bytes call h
    exact ⟨mirrored, rfl, hbytes, fun other hother => hinj other mirrored hother⟩
  · obtain ⟨other, hother, hbytes⟩ := hread bytes _ h
    rw [← hbytes, hinj other mirrored hother]
  · rintro rfl
    exact decodeAll_call hknown

end

section Sample

local instance : Decode Junction := siblingCodec
local instance : Canonical Junction := canonical_siblingCodec

/-- The only call that kills subscription `7…7`. -/
theorem runtimeCall_iff_kill :
    (decodeAll (40 :: 2 :: List.replicate 32 7) : Option RuntimeCall) =
        some (.idnManager (.killSubscription (Vector.replicate 32 7))) ∧
      (decodeAll (40 :: 2 :: List.replicate 33 7) : Option RuntimeCall) ≠
        some (.idnManager (.killSubscription (Vector.replicate 32 7))) := by
  have hiff := fun bytes => runtimeCall_iff.2 bytes
    (.idnManager (.killSubscription (Vector.replicate 32 7))) trivial
  exact ⟨(hiff _).mpr (by decide), mt (hiff _).mp (by decide)⟩

end Sample

end Bridge

end IdealNetwork
