import IdealNetwork.Consumer.Pallet
import IdealNetwork.Runtime

/-!
# Messages between the chains

Ten messages cross between a consumer chain and the network: seven calls of
the manager pallet one way, and a pulse, a quote or a subscription's data the
other. Each is written on one chain by hand, as a mirrored enumeration or as
two bytes and a tuple, and read on the other by the runtime's own codec. This
module puts the two ends together: what is written is what is read, to the
last byte (`messages_decode`).

The codec of junctions is assumed to read back the junctions that occur.
-/

set_option autoImplicit false

namespace IdealNetwork.Consumer

open Scale Storage
open Manager (deliveryCall)

variable {D : Type} {C : Config D} {callIndex : UInt8} {c : CallData}

theorem palletIndex_ok {index : UInt8} :
    palletIndex C = .ok index ↔ C.index < 256 ∧ UInt8.ofNat C.index = index := by
  unfold palletIndex
  split
  next h => rw [Except.ok.injEq, and_iff_right h]
  next h => exact ⟨nofun, fun hlt => absurd hlt.1 h⟩

theorem callDataTryFrom_ok {bytes : Bytes} : callDataTryFrom bytes = .ok c ↔ c.toList = bytes :=
  BoundedVec.dite_ok

/-- A callback is the pallet's index and the call's. -/
theorem callbackCallData_ok :
    callbackCallData C callIndex = .ok c ↔
      C.index < 256 ∧ c.toList = [UInt8.ofNat C.index, callIndex] := by
  unfold callbackCallData
  simp only [except_bind_ok, palletIndex_ok, callDataTryFrom_ok]
  constructor
  · rintro ⟨_, ⟨hlt, rfl⟩, hc⟩
    exact ⟨hlt, hc⟩
  · rintro ⟨hlt, hc⟩
    exact ⟨_, ⟨hlt, rfl⟩, hc⟩

section

variable [Decode Junction]

/-- A callback, completed, is a call of this pallet. -/
theorem decodeCall_callback (h : callbackCallData C callIndex = .ok c) (args : Bytes) :
    decodeCall C (c.toList ++ args) = decodeAll (callIndex :: args) := by
  obtain ⟨hlt, hc⟩ := callbackCallData_ok.mp h
  have hindex : (UInt8.ofNat C.index).toNat = C.index := UInt8.toNat_ofNat_of_lt' hlt
  rw [hc]
  show (if (UInt8.ofNat C.index).toNat = C.index then decodeAll (callIndex :: args) else none) = _
  rw [if_pos hindex]

/-- A variant of the pallet's calls, read behind its index. -/
theorem decodeAll_variant {α : Type} [Encode α] [Decode α] {a : α} (make : α → Call)
    (h : ReadBack a)
    (hdecode : ∀ input, (decode (callIndex :: input) : Option (Call × Bytes)) =
      (decode input).map fun p => (make p.1, p.2)) :
    decodeAll (callIndex :: encode a) = some (make a) := by
  have hread := h.variant make []
  rw [List.append_nil] at hread
  rw [decodeAll_eq_some, hdecode, hread]

/-! ## What comes back -/

theorem decodeCall_pulse (h : pulseCallbackCallData C = .ok c) (pulse : RuntimePulse)
    (subId : SubscriptionId) :
    decodeCall C (c.toList ++ encode (pulse, subId)) = some (.consumePulse pulse subId) := by
  rw [decodeCall_callback h]
  exact decodeAll_variant (fun a : RuntimePulse × SubscriptionId => .consumePulse a.1 a.2)
    (readBack (pulse, subId)) fun _ => rfl

theorem decodeCall_quote (h : quoteCallbackCallData C = .ok c) {quote : Quote}
    (hfits : quote.Fits) :
    decodeCall C (c.toList ++ encode quote) = some (.consumeQuote quote) := by
  rw [decodeCall_callback h]
  exact decodeAll_variant Call.consumeQuote hfits.readBack fun _ => rfl

theorem decodeCall_subInfo (h : subInfoCallbackCallData C = .ok c)
    {response : SubInfoResponse SubscriptionOf} (hknown : response.sub.details.target.Known) :
    decodeCall C (c.toList ++ encode response) = some (.consumeSubInfo response) := by
  rw [decodeCall_callback h]
  exact decodeAll_variant Call.consumeSubInfo
    (SubInfoResponse.readBack (Subscription.readBack hknown)) fun _ => rfl

/-- MESSAGES ARE READ AS THEY WERE MEANT. A call that a chain writes with the
mirror is read by the network's runtime as the manager call of the same name
with the same arguments. A pulse, a quote and a subscription's data that the
network appends to the callbacks this pallet makes are read by the chain's
runtime as its calls that consume them. Nothing is left over. -/
theorem messages_decode :
    (∀ call : Bridge.Call, call.Known → decodeAll (encode call) = some call.toRuntime) ∧
      (∀ (sub : SubscriptionOf) (pulse : RuntimePulse) (subId : SubscriptionId),
        pulseCallbackCallData C = .ok sub.details.call →
          decodeCall C (deliveryCall pulse subId sub) = some (.consumePulse pulse subId)) ∧
      (∀ (call : CallData) (quote : Quote), quoteCallbackCallData C = .ok call → quote.Fits →
        decodeCall C (call.toList ++ encode quote) = some (.consumeQuote quote)) ∧
      ∀ (call : CallData) (response : SubInfoResponse SubscriptionOf),
        subInfoCallbackCallData C = .ok call → response.sub.details.target.Known →
          decodeCall C (call.toList ++ encode response) = some (.consumeSubInfo response) :=
  ⟨fun _ hknown => Bridge.decodeAll_call hknown,
    fun _ pulse subId hcall => decodeCall_pulse hcall pulse subId,
    fun _ _ hcall hfits => decodeCall_quote hcall hfits,
    fun _ _ hcall hknown => decodeCall_subInfo hcall hknown⟩

end

section Sample

open IdealNetwork.Runtime

/-- The consumer chain. -/
def sampleChain : Config Unit := runtime 4594 fun _ => Vector.replicate 32 0

/-- The chain's callback for pulses. -/
def sampleCallback : CallData := ⟨[40, 0], by decide⟩

/-- The subscription of a user of the chain. -/
def sampleSub : SubscriptionOf where
  id := sampleId
  details :=
    { subscriber := alice
      target := .sibling 4594
      call := sampleCallback
      originKind := .xcm }
  creditsLeft := 2
  state := .active
  createdAt := 1
  updatedAt := 1
  credits := 3
  frequency := 1
  metadata := some ⟨[7, 8, 9], by decide⟩
  lastDelivered := some 2

local instance : Decode Junction := siblingCodec

theorem messages_decode_sampleChain :
    decodeAll (encode (Bridge.Call.idnManager (.createSubscription (sampleParams 3)))) =
        some (Bridge.RuntimeCall.idnManager (.createSubscription (sampleParams 3))) ∧
      decodeCall sampleChain (deliveryCall samplePulse sampleId sampleSub) =
        some (.consumePulse samplePulse sampleId) ∧
      decodeCall sampleChain ([40, 1] ++ encode (⟨sampleId, 29000000, 15000⟩ : Quote)) =
        some (.consumeQuote ⟨sampleId, 29000000, 15000⟩) ∧
      decodeCall sampleChain
          ([40, 2] ++ encode (⟨sampleId, sampleSub⟩ : SubInfoResponse SubscriptionOf)) =
        some (.consumeSubInfo ⟨sampleId, sampleSub⟩) := by
  obtain ⟨hcall, hpulse, hquote, hinfo⟩ := messages_decode (C := sampleChain)
  have hknown : (Bridge.Call.idnManager (.createSubscription (sampleParams 3))).Known :=
    known_sibling 2000
  exact ⟨hcall _ hknown, hpulse sampleSub samplePulse sampleId rfl,
    hquote ⟨[40, 1], by decide⟩ _ rfl ⟨by decide, by decide⟩,
    hinfo ⟨[40, 2], by decide⟩ ⟨sampleId, sampleSub⟩ rfl (known_sibling 4594)⟩

end Sample

end IdealNetwork.Consumer
