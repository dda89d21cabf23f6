import IdealNetwork.Canonical
import IdealNetwork.Consumer.Remote
import IdealNetwork.Contracts.Client
import IdealNetwork.Manager.Records

/-!
# What a message can be read as

The network answers with a callback that its requester wrote and an argument of
its own, and does not look into the callback. The chain reads the whole. So
what a message means is decided by whoever wrote the callback, within what the
lengths allow.

They allow much less than anything. A delivery that is read as a pulse is the
delivery of that pulse to that subscription, whoever subscribed and with
whatever call data, and it is never read as a quote; a quote that is read as a
quote is the one that was made; a subscription's data are read as neither
(`answers_read`). But a quote can be read as a pulse, and as any pulse: a user
of the chain who asks for a quote with a callback of their own has the network
hand the chain a signature and rounds of their choice (`quote_forges_pulse`).
And a delivery can be read as a subscription's data, all of them of the
subscriber's choice but the call data (`delivery_forges_subInfo`).
-/

set_option autoImplicit false

namespace IdealNetwork.Consumer

open Scale Storage Xcm
open Manager (deliveryCall)
open Contracts (length_encode_delivery length_encode_quote)

variable {D : Type} {C : Config D} {bytes : Bytes}

/-! ## Reading backwards -/

/-- The balances of a quote that was read fit. -/
theorem fits_of_decode {input rest : Bytes} {quote : Quote}
    (h : decode input = some (quote, rest)) : quote.Fits := by
  obtain ⟨⟨⟨reqRef, fees, deposit⟩, _⟩, hread, hquote⟩ := Option.map_eq_some_iff.mp h
  obtain ⟨⟨_, input'⟩, _, hread⟩ := Option.bind_eq_some_iff.mp hread
  obtain ⟨⟨⟨fees', deposit'⟩, _⟩, hpair, heq⟩ := Option.bind_eq_some_iff.mp hread
  obtain ⟨⟨_, input''⟩, hfees, hpair⟩ := Option.bind_eq_some_iff.mp hpair
  obtain ⟨⟨_, _⟩, hdeposit, hpair⟩ := Option.bind_eq_some_iff.mp hpair
  cases hpair
  cases heq
  cases hquote
  exact ⟨(decode_fixedWidth_some hfees).2, (decode_fixedWidth_some hdeposit).2⟩

section

variable [Decode Junction]

theorem decodeCall_eq_some {call : Call} :
    decodeCall C bytes = some call ↔
      ∃ input, bytes = UInt8.ofNat C.index :: input ∧ C.index < 256 ∧
        decodeAll input = some call := by
  unfold decodeCall
  constructor
  · intro h
    cases bytes with
    | nil => cases h
    | cons index input =>
      dsimp only at h
      split at h
      next hindex =>
        refine ⟨input, ?_, hindex ▸ index.toNat_lt, h⟩
        rw [← hindex, UInt8.ofNat_toNat]
      next => cases h
  · rintro ⟨input, rfl, hlt, h⟩
    dsimp only
    rw [if_pos (UInt8.toNat_ofNat_of_lt' hlt), h]

/-- A pulse is read from its own call and from nothing else. -/
theorem decodeCall_consumePulse {pulse : RuntimePulse} {subId : SubscriptionId} :
    decodeCall C bytes = some (.consumePulse pulse subId) ↔
      C.index < 256 ∧ bytes = UInt8.ofNat C.index :: 0 :: encode (pulse, subId) := by
  rw [decodeCall_eq_some]
  constructor
  · rintro ⟨input, rfl, hlt, h⟩
    have hdecode := decodeAll_eq_some.mp h
    unfold decode instDecodeCall at hdecode
    dsimp only at hdecode
    split at hdecode
    case h_1 input =>
      obtain ⟨a, ha, hinput⟩ := encode_append_variant
        (fun a : RuntimePulse × SubscriptionId => Call.consumePulse a.1 a.2) hdecode
      cases ha
      rw [List.append_nil] at hinput
      rw [← hinput]
      exact ⟨hlt, rfl⟩
    all_goals
      first
      | cases hdecode
      | obtain ⟨p, _, heq⟩ := Option.map_eq_some_iff.mp hdecode
        cases heq
  · rintro ⟨hlt, rfl⟩
    exact ⟨_, rfl, hlt, decodeAll_variant
      (fun a : RuntimePulse × SubscriptionId => .consumePulse a.1 a.2) (readBack (pulse, subId))
      fun _ => rfl⟩

/-- A quote is read from its own call and from nothing else. -/
theorem decodeCall_consumeQuote {quote : Quote} :
    decodeCall C bytes = some (.consumeQuote quote) ↔
      C.index < 256 ∧ quote.Fits ∧ bytes = UInt8.ofNat C.index :: 1 :: encode quote := by
  rw [decodeCall_eq_some]
  constructor
  · rintro ⟨input, rfl, hlt, h⟩
    have hdecode := decodeAll_eq_some.mp h
    unfold decode instDecodeCall at hdecode
    dsimp only at hdecode
    split at hdecode
    case h_2 input =>
      obtain ⟨⟨a, _⟩, hread, heq⟩ := Option.map_eq_some_iff.mp hdecode
      cases heq
      have hinput := encode_append hread
      rw [List.append_nil] at hinput
      rw [← hinput]
      exact ⟨hlt, fits_of_decode hread, rfl⟩
    all_goals
      first
      | cases hdecode
      | obtain ⟨p, _, heq⟩ := Option.map_eq_some_iff.mp hdecode
        cases heq
  · rintro ⟨hlt, hfits, rfl⟩
    exact ⟨_, rfl, hlt, decodeAll_variant Call.consumeQuote hfits.readBack fun _ => rfl⟩

end

/-! ## What the lengths allow -/

/-- A subscription's data are longer than a delivery with its callback. -/
theorem length_encode_subInfo (response : SubInfoResponse SubscriptionOf) :
    98 < (encode response).length := by
  obtain ⟨reqRef, sub⟩ := response
  have hreqRef : (encode reqRef).length = 32 := Vector.length_toList
  have hid : (encode sub.id).length = 32 := Vector.length_toList
  have hsubscriber : (encode sub.details.subscriber).length = 32 := Vector.length_toList
  show 98 < (encode reqRef ++ (encode sub.id ++ (encode sub.details.subscriber ++
    encode sub.details.target ++ encode sub.details.call ++ encode sub.details.originKind) ++
    encode sub.creditsLeft ++ encode sub.state ++ encode sub.createdAt ++ encode sub.updatedAt ++
    encode sub.credits ++ encode sub.frequency ++ encode sub.metadata ++
    encode sub.lastDelivered)).length
  simp only [List.length_append, hreqRef, hid, hsubscriber, length_encode_u64]
  omega

/-- What stands in front of an argument, when it is a callback and an argument
of the same length. -/
theorem callback_of_append {callIndex : UInt8} {c : CallData} {arg arg' : Bytes}
    (hlt : C.index < 256) (hlen : arg.length = arg'.length)
    (h : c.toList ++ arg = UInt8.ofNat C.index :: callIndex :: arg') :
    callbackCallData C callIndex = .ok c ∧ arg = arg' := by
  have happend : c.toList ++ arg = [UInt8.ofNat C.index, callIndex] ++ arg' := h
  obtain ⟨hc, harg⟩ := List.append_inj' happend hlen
  exact ⟨callbackCallData_ok.mpr ⟨hlt, hc⟩, harg⟩

section

variable [Decode Junction]

theorem decodeCall_delivery_iff {pulse pulse' : RuntimePulse} {subId subId' : SubscriptionId}
    {sub : SubscriptionOf} :
    decodeCall C (deliveryCall pulse subId sub) = some (.consumePulse pulse' subId') ↔
      pulseCallbackCallData C = .ok sub.details.call ∧ pulse' = pulse ∧ subId' = subId := by
  constructor
  · intro h
    obtain ⟨hlt, hbytes⟩ := decodeCall_consumePulse.mp h
    obtain ⟨hcallback, harg⟩ := callback_of_append hlt
      (by rw [length_encode_delivery, length_encode_delivery]) hbytes
    have hsame := ((readBack (pulse, subId)).inj (readBack (pulse', subId'))
      (congrArg (· ++ []) harg)).1
    cases hsame
    exact ⟨hcallback, rfl, rfl⟩
  · rintro ⟨hcallback, rfl, rfl⟩
    exact decodeCall_pulse hcallback pulse' subId'

theorem decodeCall_delivery_ne_quote (pulse : RuntimePulse) (subId : SubscriptionId)
    (sub : SubscriptionOf) (quote : Quote) :
    decodeCall C (deliveryCall pulse subId sub) ≠ some (.consumeQuote quote) := by
  intro h
  obtain ⟨_, _, hbytes⟩ := decodeCall_consumeQuote.mp h
  have hlen := congrArg List.length hbytes
  rw [deliveryCall, List.length_append, length_encode_delivery, List.length_cons,
    List.length_cons, length_encode_quote] at hlen
  omega

theorem decodeCall_quote_iff {c : CallData} {quote quote' : Quote} (hfits : quote.Fits) :
    decodeCall C (c.toList ++ encode quote) = some (.consumeQuote quote') ↔
      quoteCallbackCallData C = .ok c ∧ quote' = quote := by
  constructor
  · intro h
    obtain ⟨hlt, hfits', hbytes⟩ := decodeCall_consumeQuote.mp h
    obtain ⟨hcallback, harg⟩ := callback_of_append hlt
      (by rw [length_encode_quote, length_encode_quote]) hbytes
    exact ⟨hcallback, ((hfits.readBack).inj hfits'.readBack (congrArg (· ++ []) harg)).1.symm⟩
  · rintro ⟨hcallback, rfl⟩
    exact decodeCall_quote hcallback hfits

theorem decodeCall_subInfo_ne_pulse (c : CallData) (response : SubInfoResponse SubscriptionOf)
    (pulse : RuntimePulse) (subId : SubscriptionId) :
    decodeCall C (c.toList ++ encode response) ≠ some (.consumePulse pulse subId) := by
  intro h
  obtain ⟨_, hbytes⟩ := decodeCall_consumePulse.mp h
  have hlen := congrArg List.length hbytes
  have hlong := length_encode_subInfo response
  rw [List.length_append, List.length_cons, List.length_cons, length_encode_delivery] at hlen
  omega

theorem decodeCall_subInfo_ne_quote (c : CallData) (response : SubInfoResponse SubscriptionOf)
    (quote : Quote) :
    decodeCall C (c.toList ++ encode response) ≠ some (.consumeQuote quote) := by
  intro h
  obtain ⟨_, _, hbytes⟩ := decodeCall_consumeQuote.mp h
  have hlen := congrArg List.length hbytes
  have hlong := length_encode_subInfo response
  rw [List.length_append, List.length_cons, List.length_cons, length_encode_quote] at hlen
  omega

/-- THE MEANING OF AN ANSWER. Whatever callback it was given, what the network
sends is read as follows. A delivery is read as a pulse exactly if its callback
is the one for pulses, and then as the pulse and the subscription that were
delivered; it is not read as a quote. A quote is read as a quote exactly if its
callback is the one for quotes, and then as the quote that was made. A
subscription's data are read neither as a pulse nor as a quote. -/
theorem answers_read (C : Config D) :
    (∀ (pulse : RuntimePulse) (subId : SubscriptionId) (sub : SubscriptionOf),
      (∀ pulse' subId', decodeCall C (deliveryCall pulse subId sub) =
          some (.consumePulse pulse' subId') ↔
        pulseCallbackCallData C = .ok sub.details.call ∧ pulse' = pulse ∧ subId' = subId) ∧
      ∀ quote, decodeCall C (deliveryCall pulse subId sub) ≠ some (.consumeQuote quote)) ∧
    (∀ (c : CallData) (quote : Quote), quote.Fits →
      ∀ quote', decodeCall C (c.toList ++ encode quote) = some (.consumeQuote quote') ↔
        quoteCallbackCallData C = .ok c ∧ quote' = quote) ∧
    ∀ (c : CallData) (response : SubInfoResponse SubscriptionOf),
      (∀ pulse subId, decodeCall C (c.toList ++ encode response) ≠
        some (.consumePulse pulse subId)) ∧
      ∀ quote, decodeCall C (c.toList ++ encode response) ≠ some (.consumeQuote quote) :=
  ⟨fun pulse subId sub => ⟨fun _ _ => decodeCall_delivery_iff,
      decodeCall_delivery_ne_quote pulse subId sub⟩,
    fun _ _ hfits _ => decodeCall_quote_iff hfits,
    fun c response => ⟨decodeCall_subInfo_ne_pulse c response,
      decodeCall_subInfo_ne_quote c response⟩⟩

end

section SampleAnswers

open IdealNetwork.Runtime

local instance : Decode Junction := siblingCodec

/-- A delivery to the consumer chain is read as what it is, and as no other
pulse. -/
theorem answers_read_sampleSub :
    decodeCall sampleChain (deliveryCall samplePulse sampleId sampleSub) =
        some (.consumePulse samplePulse sampleId) ∧
      decodeCall sampleChain (deliveryCall samplePulse sampleId sampleSub) ≠
        some (.consumePulse samplePulse alice) ∧
      decodeCall sampleChain ([40, 1] ++ encode (⟨sampleId, 29000000, 15000⟩ : Quote)) =
        some (.consumeQuote ⟨sampleId, 29000000, 15000⟩) := by
  obtain ⟨hdelivery, hquote, _⟩ := answers_read sampleChain
  have hread := (hdelivery samplePulse sampleId sampleSub).1
  refine ⟨(hread _ _).mpr ⟨rfl, rfl, rfl⟩, fun h => ?_, ?_⟩
  · exact absurd ((hread _ _).mp h).2.2 (by decide)
  · exact (hquote ⟨[40, 1], by decide⟩ _ ⟨by decide, by decide⟩ _).mpr ⟨rfl, rfl⟩

end SampleAnswers

/-! ## What they do not prevent -/

/-- A callback that ends in the middle of a signature. -/
def forgedCallback (index : UInt8) (pulse : RuntimePulse) : CallData where
  toList := index :: 0 :: pulse.signature.toList.take 32
  length_le := by
    rw [List.length_cons, List.length_cons, List.length_take, Vector.length_toList]
    decide

/-- A reference that goes on with the signature and the rounds. -/
def forgedReference (pulse : RuntimePulse) : RequestReference where
  toArray := (pulse.signature.toList.drop 32 ++ encode pulse.start ++ encode pulse.end).toArray
  size_toArray := by
    rw [List.size_toArray, List.length_append, List.length_append, List.length_drop,
      Vector.length_toList, length_encode_u64, length_encode_u64]

/-- The balances of a quote, read as an id. -/
def balancesId (quote : Quote) : SubscriptionId where
  toArray := (littleEndian 16 quote.fees ++ littleEndian 16 quote.deposit).toArray
  size_toArray := by
    rw [List.size_toArray, List.length_append, length_littleEndian, length_littleEndian]

/-- With such a callback and reference, a quote is a pulse. -/
theorem forgedCallback_append {quote : Quote} {pulse : RuntimePulse} (index : UInt8)
    (href : quote.reqRef = forgedReference pulse) :
    (forgedCallback index pulse).toList ++ encode quote =
      index :: 0 :: encode (pulse, balancesId quote) := by
  have hquote : encode quote = pulse.signature.toList.drop 32 ++ encode pulse.start ++
      encode pulse.end ++ littleEndian 16 quote.fees ++ littleEndian 16 quote.deposit := by
    show encode quote.reqRef ++ littleEndian 16 quote.fees ++ littleEndian 16 quote.deposit = _
    rw [href]
    rfl
  have hpulse : encode (pulse, balancesId quote) = pulse.signature.toList.take 32 ++
      pulse.signature.toList.drop 32 ++ encode pulse.start ++ encode pulse.end ++
      (littleEndian 16 quote.fees ++ littleEndian 16 quote.deposit) := by
    rw [List.take_append_drop]
    rfl
  show index :: 0 :: (pulse.signature.toList.take 32 ++ encode quote) = _
  rw [hquote, hpulse]
  simp only [List.append_assoc]

/-- The request whose answer is read as a pulse. -/
def forgedRequest (index : UInt8) (pulse : RuntimePulse) : QuoteSubParamsOf where
  quoteRequest :=
    { reqRef := forgedReference pulse
      createSubParams :=
        { credits := 0
          target := .parent
          call := ⟨[], by decide⟩
          originKind := .xcm
          frequency := 1
          metadata := none
          subId := none }
      lifetimePulses := 1 }
  call := forgedCallback index pulse
  originKind := .xcm

/-- The parts of a message of the manager. -/
theorem xcmMessage_parts {M : Manager.Config} {acc : AccountId32} {target : Location}
    {call : Bytes} {kind : OriginKind} {message : Manager.XcmMessage}
    (h : Manager.xcmMessage M acc target call kind = some message) :
    message.sender = acc ∧ message.target = target ∧
      transacts message.program = [(kind, call)] := by
  obtain ⟨beneficiary, _, rfl⟩ := Option.map_eq_some_iff.mp h
  exact ⟨rfl, rfl, rfl⟩

/-- A request for a quote is answered if the answer can be sent. -/
theorem quoteSubscription_succeeds {M : Manager.Config} {now : Manager.Env} {origin : Origin}
    {params : QuoteSubParamsOf} {requester target : Location} {acc : AccountId32}
    {message : Manager.XcmMessage} (s : Manager.State M)
    (hrequester : Manager.ensureRequester M origin = .ok (requester, target, acc))
    (hmade : Manager.xcmMessage M acc target
      (params.call.toList ++ encode (Manager.quoteFor M now acc params)) params.originKind =
        some message)
    (hsend : now.send message = .ok ()) :
    Manager.dispatch M now origin (.quoteSubscription params) s =
      (.ok (), Manager.answered message
        (.subQuoted requester (Manager.quoteFor M now acc params)) s) := by
  refine Action.transactional_ok.mpr ?_
  show Manager.quoteSubscription M now origin params s = _
  unfold Manager.quoteSubscription
  simp only [Action.ofExcept_bind_ok, Manager.xcmSend_bind_ok, Manager.depositEvent,
    Action.modify_ok]
  exact ⟨(requester, target, acc), hrequester, message, hmade, hsend, rfl⟩

/-- A QUOTE CAN BE READ AS ANY PULSE. Whatever pulse they choose, any account of
a chain can ask the network for a quote such that the answer, which is sent to
the chain in the account's name, has one `Transact`, of the kind `Xcm`, and the
chain reads the bytes in it as the call that consumes the pulse. The network
answers whenever the message can be sent. -/
theorem quote_forges_pulse [Decode Junction] (hindex : C.index < 256) (who : AccountId32)
    (pulse : RuntimePulse) :
    ∃ params : QuoteSubParamsOf, ∀ currency hasher blake2 convertLocation (now : Manager.Env),
      let M := IdealNetwork.Runtime.manager currency hasher blake2 convertLocation
      (∀ message, now.send message = .ok ()) → ∀ s : Manager.State M,
        ∃ t message bytes subId, Manager.dispatch M now (.xcm (accountOn C.paraId who))
            (.quoteSubscription params) s = (.ok (), t) ∧
          t.sent = s.sent ++ [message] ∧ message.sender = who ∧
          message.target = selfParaSiblingLocation C ∧
          transacts message.program = [(.xcm, bytes)] ∧
          decodeCall C bytes = some (.consumePulse pulse subId) := by
  refine ⟨forgedRequest (UInt8.ofNat C.index) pulse, ?_⟩
  intro currency hasher blake2 convertLocation now M hsend s
  have hrequester : Manager.ensureRequester M (.xcm (accountOn C.paraId who)) =
      .ok (accountOn C.paraId who, selfParaSiblingLocation C, who) := rfl
  let quote := Manager.quoteFor M now who (forgedRequest (UInt8.ofNat C.index) pulse)
  obtain ⟨message, hmade⟩ : ∃ message, Manager.xcmMessage M who (selfParaSiblingLocation C)
      ((forgedCallback (UInt8.ofNat C.index) pulse).toList ++ encode quote) .xcm = some message :=
    ⟨_, rfl⟩
  obtain ⟨hsender, htarget, htransacts⟩ := xcmMessage_parts hmade
  exact ⟨_, message, _, balancesId quote,
    quoteSubscription_succeeds s hrequester hmade (hsend message), rfl, hsender, htarget,
    htransacts, decodeCall_consumePulse.mpr ⟨hindex, forgedCallback_append _ rfl⟩⟩

section SampleForgery

open IdealNetwork.Runtime

local instance : Decode Junction := siblingCodec

/-- The chain is sent a pulse that no beacon has sent. -/
theorem quote_forges_pulse_sampleChain :
    ∃ params t message bytes subId, Manager.dispatch standalone (online 1)
        (.xcm (accountOn 4594 alice)) (.quoteSubscription params) funded = (.ok (), t) ∧
      t.sent = [message] ∧ transacts message.program = [(.xcm, bytes)] ∧
      decodeCall sampleChain bytes = some (.consumePulse samplePulse subId) := by
  have hindex : sampleChain.index < 256 := by decide
  obtain ⟨params, hforged⟩ := quote_forges_pulse hindex alice samplePulse
  obtain ⟨t, message, bytes, subId, hanswer, hsent, _, _, htransacts, hread⟩ := hforged balances
    (identityHasher 32) (fun _ => Vector.replicate 32 0) (fun _ => none) (online 1)
    (fun _ => rfl) funded
  exact ⟨params, t, message, bytes, subId, hanswer, hsent, htransacts, hread⟩

end SampleForgery

/-! A subscription's data end with 32 bytes after the call data. -/

/-- What follows the call data of a record without metadata that was never
delivered, read as an id. -/
def tailId (sub : SubscriptionOf) : SubscriptionId where
  toArray := (encode sub.details.originKind ++ encode sub.creditsLeft ++ encode sub.state ++
    encode sub.createdAt ++ encode sub.updatedAt ++ encode sub.credits ++ encode sub.frequency ++
    [0, 0]).toArray
  size_toArray := by
    have hkind : (encode sub.details.originKind).length = 1 :=
      Manager.length_encode_originKind _
    have hstate : (encode sub.state).length = 1 := by cases sub.state <;> rfl
    simp only [List.size_toArray, List.length_append, hkind, hstate, length_encode_u64,
      length_encode_u32, List.length_cons, List.length_nil]

/-- The record with a pulse as its call data. -/
def withPulse (pulse : RuntimePulse) (sub : SubscriptionOf) : SubscriptionOf :=
  { sub with
    details :=
      { sub.details with
        call :=
          { toList := encode pulse
            length_le := by
              have hsignature : (encode pulse.signature).length = 48 := Vector.length_toList
              show (encode pulse.signature ++ encode pulse.start ++ encode pulse.end).length ≤ 256
              simp only [List.length_append, hsignature, length_encode_u64]
              decide } } }

theorem length_encode_sibling (para : UInt32) : (encode (Location.sibling para)).length ≤ 8 := by
  have hlen : (compact para.toNat).length ≤ 5 := length_compact_le le_rfl para.toNat_lt
  show ((compact para.toNat ++ []).length + 1) + 1 + 1 ≤ 8
  rw [List.append_nil]
  omega

/-- A callback that holds a response up to the length of the call data in it,
which is that of a pulse. -/
def responseCallback (index : UInt8) (para : UInt32) (reqRef : RequestReference)
    (sub : SubscriptionOf) : CallData where
  toList := index :: 2 :: (encode reqRef ++ encode sub.id ++ encode sub.details.subscriber ++
    encode (Location.sibling para) ++ compact 64)
  length_le := by
    have hreqRef : (encode reqRef).length = 32 := Vector.length_toList
    have hid : (encode sub.id).length = 32 := Vector.length_toList
    have hsubscriber : (encode sub.details.subscriber).length = 32 := Vector.length_toList
    have hpara := length_encode_sibling para
    have hlength : (compact 64).length = 2 := by decide
    simp only [List.length_cons, List.length_append, hreqRef, hid, hsubscriber, hlength]
    omega

/-- With such a callback, a delivery under such an id is a response. -/
theorem responseCallback_append {forged sub : SubscriptionOf} {para : UInt32} (index : UInt8)
    (reqRef : RequestReference) (pulse : RuntimePulse)
    (htarget : forged.details.target = .sibling para) (hmetadata : forged.metadata = none)
    (hdelivered : forged.lastDelivered = none)
    (hcall : sub.details.call = responseCallback index para reqRef forged) :
    deliveryCall pulse (tailId forged) sub =
      index :: 2 :: encode (⟨reqRef, withPulse pulse forged⟩ : SubInfoResponse SubscriptionOf) := by
  have hlength : (encode pulse).length = 64 := by
    have hsignature : (encode pulse.signature).length = 48 := Vector.length_toList
    show (encode pulse.signature ++ encode pulse.start ++ encode pulse.end).length = 64
    simp only [List.length_append, hsignature, length_encode_u64]
  have hresponse :
      encode (⟨reqRef, withPulse pulse forged⟩ : SubInfoResponse SubscriptionOf) =
        encode reqRef ++ (encode forged.id ++ (encode forged.details.subscriber ++
          encode (Location.sibling para) ++ (compact 64 ++ encode pulse) ++
          encode forged.details.originKind) ++ encode forged.creditsLeft ++ encode forged.state ++
          encode forged.createdAt ++ encode forged.updatedAt ++ encode forged.credits ++
          encode forged.frequency ++ [0] ++ [0]) := by
    rw [← hlength, ← htarget]
    show encode reqRef ++ (encode forged.id ++ (encode forged.details.subscriber ++
      encode forged.details.target ++ (compact (encode pulse).length ++ encode pulse) ++
      encode forged.details.originKind) ++ encode forged.creditsLeft ++ encode forged.state ++
      encode forged.createdAt ++ encode forged.updatedAt ++ encode forged.credits ++
      encode forged.frequency ++ encode forged.metadata ++ encode forged.lastDelivered) = _
    rw [hmetadata, hdelivered]
    rfl
  have htail : encode (tailId forged) = encode forged.details.originKind ++
      encode forged.creditsLeft ++ encode forged.state ++ encode forged.createdAt ++
      encode forged.updatedAt ++ encode forged.credits ++ encode forged.frequency ++ [0, 0] := rfl
  rw [deliveryCall, hcall, hresponse]
  show index :: 2 :: (encode reqRef ++ encode forged.id ++ encode forged.details.subscriber ++
    encode (Location.sibling para) ++ compact 64 ++ (encode pulse ++ encode (tailId forged))) = _
  rw [htail]
  simp only [List.append_assoc, List.cons_append, List.nil_append]

/-- The subscription whose deliveries are read as responses with a record. -/
def forgedSubscription (C : Config D) (reqRef : RequestReference) (forged : SubscriptionOf) :
    CreateSubParamsOf where
  credits := 1
  target := selfParaSiblingLocation C
  call := responseCallback (UInt8.ofNat C.index) C.paraId reqRef forged
  originKind := .xcm
  frequency := 1
  metadata := none
  subId := some (tailId forged)

/-- A record with the details of that subscription. -/
theorem decodeCall_forgedSubscription [Decode Junction] (hindex : C.index < 256)
    (hknown : (selfParaSiblingLocation C).Known) {reqRef : RequestReference}
    {forged : SubscriptionOf} (htarget : forged.details.target = selfParaSiblingLocation C)
    (hmetadata : forged.metadata = none) (hdelivered : forged.lastDelivered = none)
    {sub : SubscriptionOf} (hcall : sub.details.call = (forgedSubscription C reqRef forged).call)
    (pulse : RuntimePulse) :
    decodeCall C (deliveryCall pulse (tailId forged) sub) =
      some (.consumeSubInfo ⟨reqRef, withPulse pulse forged⟩) := by
  have hbytes := responseCallback_append (UInt8.ofNat C.index) reqRef pulse htarget hmetadata
    hdelivered hcall
  have hknown' : (withPulse pulse forged).details.target.Known := by
    show forged.details.target.Known
    rw [htarget]
    exact hknown
  refine decodeCall_eq_some.mpr ⟨_, hbytes, hindex, ?_⟩
  exact decodeAll_variant Call.consumeSubInfo
    (SubInfoResponse.readBack (Subscription.readBack hknown')) fun _ => rfl

/-- A DELIVERY CAN BE READ AS A SUBSCRIPTION'S DATA. Whatever record is chosen,
with the chain as its target, without metadata and never delivered, there is a
subscription for one credit that the manager creates for anyone who can pay for
it, as long as there is room and its id is free. Over every run in which it stays
stored, each of its deliveries, of whatever pulse, is read by the chain as the
response to a chosen request, with the chosen record; only the call data in the
record are the pulse. -/
theorem delivery_forges_subInfo [Decode Junction] (hindex : C.index < 256)
    (hknown : (selfParaSiblingLocation C).Known) (reqRef : RequestReference)
    (forged : SubscriptionOf) (htarget : forged.details.target = selfParaSiblingLocation C)
    (hmetadata : forged.metadata = none) (hdelivered : forged.lastDelivered = none)
    {M : Manager.Config} {now : Manager.Env} {origin : Origin} {who : AccountId32}
    (hcaller : Manager.ensureSignedOrValidXcmOrigin M origin = .ok who) (s : Manager.State M) :
    let params := forgedSubscription C reqRef forged
    let id := tailId forged
    (∀ L₁ L₂, s.subCounter < M.maxSubscriptions → id ∉ s.subscriptions →
      M.currency.hold .fees who (Manager.calculateSubscriptionFees M.baseFee 1) s.ledger =
        .ok L₁ →
      M.currency.hold .storageDeposit who (Manager.calculateStorageDeposit M
        (Manager.newSubscription now who id params)) L₁ = .ok L₂ →
      (Manager.dispatch M now origin (.createSubscription params) s).1 = .ok ()) ∧
    ∀ t inputs sub pulse,
      Manager.dispatch M now origin (.createSubscription params) s = (.ok (), t) →
      Runs.Along (Manager.step M) (fun _ u => id ∈ u.subscriptions) inputs t →
      (Manager.run M inputs t).subscriptions.lookup id = some sub →
      decodeCall C (deliveryCall pulse id sub) =
        some (.consumeSubInfo ⟨reqRef, withPulse pulse forged⟩) := by
  intro params id
  have hname : Manager.newSubId M now who params = id := rfl
  refine ⟨fun L₁ L₂ hroom hfresh hfees hdeposit => ?_, fun t inputs sub pulse hcreated hkept
    hstored => ?_⟩
  · rw [Manager.createSubscription_succeeds hcaller hname (by decide : (1 : UInt64) ≠ 0) hroom
      hfresh hfees hdeposit]
  · have hnew : t.subscriptions.lookup id =
        some (Manager.newSubscription now who id params) := by
      cases Manager.dispatch_ok hcreated with
      | created caller bought room fresh fees deposit =>
        cases hcaller.symm.trans caller
        exact Finmap.lookup_insert _
    have hdetails := Manager.run_keeps_details hnew hkept hstored
    exact decodeCall_forgedSubscription hindex hknown htarget hmetadata hdelivered
      (congrArg (·.call) hdetails) pulse

section SampleResponse

open IdealNetwork.Runtime

local instance : Decode Junction := siblingCodec

/-- A record with a million credits that were never bought. -/
def millionCredits : SubscriptionOf :=
  { sampleSub with credits := 1000000, metadata := none, lastDelivered := none }

/-- The state after the subscription that says so was created. -/
def millionForged : Manager.State standalone :=
  (Manager.dispatch standalone (online 1) (.signed alice)
    (.createSubscription (forgedSubscription sampleChain sampleId millionCredits)) funded).2

/-- It is created, and its first delivery is read as a million credits. -/
theorem delivery_forges_subInfo_millionCredits :
    ∃ sub, millionForged.subscriptions.lookup (tailId millionCredits) = some sub ∧
      decodeCall sampleChain (deliveryCall samplePulse (tailId millionCredits) sub) =
        some (.consumeSubInfo ⟨sampleId, withPulse samplePulse millionCredits⟩) := by
  have hcreated : Manager.dispatch standalone (online 1) (.signed alice)
      (.createSubscription (forgedSubscription sampleChain sampleId millionCredits)) funded =
        (.ok (), millionForged) := by
    have hok : (Manager.dispatch standalone (online 1) (.signed alice) (.createSubscription
      (forgedSubscription sampleChain sampleId millionCredits)) funded).1 = .ok () := by
      decide +kernel
    rw [← hok, millionForged]
  obtain ⟨sub, hsub⟩ := Option.isSome_iff_exists.mp (by decide +kernel :
    (millionForged.subscriptions.lookup (tailId millionCredits)).isSome = true)
  have hcaller : Manager.ensureSignedOrValidXcmOrigin standalone (.signed alice) = .ok alice := rfl
  have hread := (delivery_forges_subInfo (C := sampleChain) (by decide) (known_sibling 4594)
    sampleId millionCredits rfl rfl rfl hcaller funded).2 millionForged [] sub samplePulse hcreated
  rw [Manager.run, Runs.run, List.foldl_nil] at hread
  exact ⟨sub, hsub, hread trivial hsub⟩

end SampleResponse

end IdealNetwork.Consumer
