import IdealNetwork.Bridge

/-!
# The consumer pallet

What a parachain installs to use the network: calls that its users make, each
of which sends one message to the manager pallet, and calls that the network
makes in return, which hand a pulse, a quote or a subscription's data to the
chain's own consumer.

A message to the network carries an encoded call. A request that expects an
answer carries, besides, the beginning of a call of this pallet: its index in
the runtime and the index of the dispatchable, which the network completes
with the encoded arguments.

`Config` collects what the runtime supplies, and `Env` what one call finds:
the block, and what becomes of the messages it sends. What the consumers do is
theirs; their storage is a parameter `D`.
-/

set_option autoImplicit false

namespace IdealNetwork.Consumer

open Scale Storage
open Manager (Asset Instruction)

inductive Error where
  | consumePulseError
  | consumeQuoteError
  | consumeSubInfoError
  | palletIndexConversionError
  | xcmSendError
  | callDataTooLong
deriving DecidableEq, Repr

abbrev Err := DispatchError Error

inductive Event where
  | randomnessConsumed (subId : SubscriptionId)
  | quoteConsumed (quote : Quote)
  | subInfoConsumed (subId : SubscriptionId)
deriving DecidableEq

/-- A program handed to the XCM sender, with the origin it is sent from. -/
structure Message where
  origin : Origin
  target : Location
  program : List Instruction
deriving DecidableEq

structure Config (D : Type) where
  /-- `PalletInfoAccess::index`, a `usize`. -/
  index : ℕ
  paraId : UInt32
  siblingIdnLocation : Location
  idnOriginFilter : Origin → Option Location
  maxIdnXcmFees : ℕ
  blake2 : Bytes → Vector UInt8 32
  localOriginToLocation : Origin → Option Location
  pulseConsumer : RuntimePulse → SubscriptionId → Action Unit D Unit
  quoteConsumer : Quote → Action Unit D Unit
  subInfoConsumer : SubInfoResponse SubscriptionOf → Action Unit D Unit

structure Env where
  blockNumber : BlockNumber
  send : Message → Bool

/-- The events deposited and the messages sent, oldest first, and the storage
of the consumers. -/
structure State (D : Type) where
  events : List Event
  sent : List Message
  consumer : D

/-- `AllowSiblingOnly::contains`: one sibling parachain, or an account on it. -/
def AllowSiblingOnly.contains (siblingParaId : UInt32) (location : Location) : Bool :=
  match location.parents, location.interior.toList with
  | 1, [.parachain paraId] => paraId = siblingParaId
  | 1, [.parachain paraId, .accountId32 _ _] => paraId = siblingParaId
  | _, _ => false

section

variable {D : Type} (C : Config D) (env : Env)

/-- `Hashable::hash`. -/
def Config.hash {α : Type} [Encode α] (a : α) (salt : Bytes) : Vector UInt8 32 :=
  C.blake2 (encode (a, salt))

def depositEvent (event : Event) : Action Err (State D) Unit :=
  .modify fun s => { s with events := s.events ++ [event] }

/-! ## Messages to the network -/

/-- The program `xcm_send` sends: pay for execution, run the call, and give
the surplus back. -/
def xcmProgram (call : Bridge.Call) (beneficiary : Location) : List Instruction :=
  let idnFeeAsset : Asset := ⟨.parent, C.maxIdnXcmFees⟩
  [.withdrawAsset idnFeeAsset, .buyExecution idnFeeAsset none, .transact .xcm none (encode call),
    .refundSurplus, .depositAsset idnFeeAsset.id beneficiary]

/-- `xcm_send`. -/
def xcmSend (origin : Origin) (call : Bridge.Call) : Action Error (State D) Unit := do
  let beneficiary ← .okOr (C.localOriginToLocation origin) .xcmSendError
  let message : Message := ⟨origin, C.siblingIdnLocation, xcmProgram C call beneficiary⟩
  .ensure (env.send message = true) .xcmSendError
  .modify fun s => { s with sent := s.sent ++ [message] }

/-- `pallet_index`. -/
def palletIndex : Except Error UInt8 :=
  if C.index < 256 then .ok (UInt8.ofNat C.index) else .error .palletIndexConversionError

/-- `self_para_sibling_location`. -/
def selfParaSiblingLocation : Location := .sibling C.paraId

/-- `CallData::try_from`. -/
def callDataTryFrom (bytes : Bytes) : Except Error CallData :=
  if h : bytes.length ≤ 256 then .ok ⟨bytes, h⟩ else .error .callDataTooLong

/-- The beginning of a call of this pallet. -/
def callbackCallData (callIndex : UInt8) : Except Error CallData := do
  let index ← palletIndex C
  callDataTryFrom [index, callIndex]

/-- `pulse_callback_call_data`. -/
def pulseCallbackCallData : Except Error CallData := callbackCallData C 0

/-- `quote_callback_call_data`. -/
def quoteCallbackCallData : Except Error CallData := callbackCallData C 1

/-- `sub_info_callback_call_data`. -/
def subInfoCallbackCallData : Except Error CallData := callbackCallData C 2

variable (origin : Origin)

/-- `do_create_subscription`. -/
def doCreateSubscription (credits : Credits) (frequency : BlockNumber)
    (metadata : Option Metadata) (subId : Option SubscriptionId) (originKind : Option OriginKind) :
    Action Error (State D) SubscriptionId := do
  let originKind := originKind.getD .xcm
  let call ← .ofExcept (pulseCallbackCallData C)
  let params : CreateSubParamsOf :=
    { credits := credits
      target := selfParaSiblingLocation C
      call := call
      originKind := originKind
      frequency := frequency
      metadata := metadata
      subId := subId }
  -- an id that is given is in the parameters already
  let subId := subId.getD (C.hash params (encode env.blockNumber))
  xcmSend C env origin (.idnManager (.createSubscription { params with subId := some subId }))
  pure subId

/-- `do_pause_subscription`. -/
def doPauseSubscription (subId : SubscriptionId) : Action Error (State D) Unit :=
  xcmSend C env origin (.idnManager (.pauseSubscription subId))

/-- `do_kill_subscription`. -/
def doKillSubscription (subId : SubscriptionId) : Action Error (State D) Unit :=
  xcmSend C env origin (.idnManager (.killSubscription subId))

/-- `do_update_subscription`. -/
def doUpdateSubscription (subId : SubscriptionId) (credits : Option Credits)
    (frequency : Option BlockNumber) (metadata : Option (Option Metadata)) :
    Action Error (State D) Unit :=
  xcmSend C env origin (.idnManager (.updateSubscription ⟨subId, credits, frequency, metadata⟩))

/-- `do_reactivate_subscription`. -/
def doReactivateSubscription (subId : SubscriptionId) : Action Error (State D) Unit :=
  xcmSend C env origin (.idnManager (.reactivateSubscription subId))

/-- `do_request_quote`. -/
def doRequestQuote (numberOfPulses frequency : BlockNumber) (metadata : Option Metadata)
    (subId : Option SubscriptionId) (reqRef : Option RequestReference)
    (originKind : Option OriginKind) : Action Error (State D) RequestReference := do
  let call ← .ofExcept (pulseCallbackCallData C)
  let createSubParams : CreateSubParamsOf :=
    { credits := 0
      target := selfParaSiblingLocation C
      call := call
      -- of the dummy subscription, not of the answer
      originKind := .xcm
      frequency := frequency
      metadata := metadata
      subId := subId }
  let reqRef := reqRef.getD (C.hash createSubParams (encode env.blockNumber))
  let call ← .ofExcept (quoteCallbackCallData C)
  xcmSend C env origin (.idnManager (.quoteSubscription
    { quoteRequest := ⟨reqRef, createSubParams, numberOfPulses⟩
      call := call
      originKind := originKind.getD .xcm }))
  pure reqRef

/-- `do_request_sub_info`. -/
def doRequestSubInfo (subId : SubscriptionId) (reqRef : Option RequestReference)
    (originKind : Option OriginKind) : Action Error (State D) RequestReference := do
  let reqRef := reqRef.getD (C.hash subId (encode env.blockNumber))
  let call ← .ofExcept (subInfoCallbackCallData C)
  xcmSend C env origin (.idnManager (.getSubscriptionInfo
    ⟨reqRef, subId, call, originKind.getD .xcm⟩))
  pure reqRef

/-! ## Calls -/

/-- `IdnOriginFilter::ensure_origin`. -/
def ensureIdnOrigin : Action Err (State D) Unit :=
  .ensure ((C.idnOriginFilter origin).isSome = true) .badOrigin

/-- Hand something to a consumer. -/
def consume (consumer : Action Unit D Unit) (e : Error) : Action Err (State D) Unit := fun s =>
  match consumer s.consumer with
  | (.ok _, d) => (.ok (), { s with consumer := d })
  | (.error _, d) => (.error (.module e), { s with consumer := d })

/-- `consume_pulse`. -/
def consumePulse (pulse : RuntimePulse) (subId : SubscriptionId) : Action Err (State D) Unit := do
  ensureIdnOrigin C origin
  consume (C.pulseConsumer pulse subId) .consumePulseError
  depositEvent (.randomnessConsumed subId)

/-- `consume_quote`. -/
def consumeQuote (quote : Quote) : Action Err (State D) Unit := do
  ensureIdnOrigin C origin
  consume (C.quoteConsumer quote) .consumeQuoteError
  depositEvent (.quoteConsumed quote)

/-- `consume_sub_info`. -/
def consumeSubInfo (subInfo : SubInfoResponse SubscriptionOf) : Action Err (State D) Unit := do
  ensureIdnOrigin C origin
  consume (C.subInfoConsumer subInfo) .consumeSubInfoError
  depositEvent (.subInfoConsumed subInfo.sub.id)

/-- `ensure_signed`. -/
def ensureSigned : Origin → Except Err AccountId32
  | .signed who => .ok who
  | _ => .error .badOrigin

/-- A call that a user makes: signed, and its result left aside. -/
def userCall {α : Type} (body : Action Error (State D) α) : Action Err (State D) Unit := do
  let _ ← .ofExcept (ensureSigned origin)
  let _ ← .mapError .module body
  pure ()

end

/-- The dispatchable calls. -/
inductive Call where
  | consumePulse (pulse : RuntimePulse) (subId : SubscriptionId)
  | consumeQuote (quote : Quote)
  | consumeSubInfo (subInfo : SubInfoResponse SubscriptionOf)
  | createSubscription (credits : Credits) (frequency : BlockNumber) (metadata : Option Metadata)
      (subId : Option SubscriptionId) (originKind : Option OriginKind)
  | pauseSubscription (subId : SubscriptionId)
  | killSubscription (subId : SubscriptionId)
  | updateSubscription (subId : SubscriptionId) (credits : Option Credits)
      (frequency : Option BlockNumber) (metadata : Option (Option Metadata))
  | reactivateSubscription (subId : SubscriptionId)
  | requestQuote (numberOfPulses frequency : BlockNumber) (metadata : Option Metadata)
      (subId : Option SubscriptionId) (reqRef : Option RequestReference)
      (originKind : Option OriginKind)
  | requestSubInfo (subId : SubscriptionId) (reqRef : Option RequestReference)
      (originKind : Option OriginKind)

/-- Run a call inside its storage layer. -/
def dispatch {D : Type} (C : Config D) (env : Env) (origin : Origin) (call : Call) :
    Action Err (State D) Unit :=
  .transactional <|
    match call with
    | .consumePulse pulse subId => consumePulse C origin pulse subId
    | .consumeQuote quote => consumeQuote C origin quote
    | .consumeSubInfo subInfo => consumeSubInfo C origin subInfo
    | .createSubscription credits frequency metadata subId originKind =>
      userCall origin
        (doCreateSubscription C env origin credits frequency metadata subId originKind)
    | .pauseSubscription subId => userCall origin (doPauseSubscription C env origin subId)
    | .killSubscription subId => userCall origin (doKillSubscription C env origin subId)
    | .updateSubscription subId credits frequency metadata =>
      userCall origin (doUpdateSubscription C env origin subId credits frequency metadata)
    | .reactivateSubscription subId =>
      userCall origin (doReactivateSubscription C env origin subId)
    | .requestQuote numberOfPulses frequency metadata subId reqRef originKind =>
      userCall origin
        (doRequestQuote C env origin numberOfPulses frequency metadata subId reqRef originKind)
    | .requestSubInfo subId reqRef originKind =>
      userCall origin (doRequestSubInfo C env origin subId reqRef originKind)

/-! ## Reading calls -/

section

variable [Decode Junction]

/-- The dispatchables, by their call indices. -/
instance : Decode Call where
  decode
    | 0 :: input => (decode input).map fun (p : (RuntimePulse × SubscriptionId) × Bytes) =>
      (.consumePulse p.1.1 p.1.2, p.2)
    | 1 :: input => (decode input).map fun p => (.consumeQuote p.1, p.2)
    | 2 :: input => (decode input).map fun p => (.consumeSubInfo p.1, p.2)
    | 3 :: input => (decode input).map fun (p : (Credits × BlockNumber × Option Metadata ×
        Option SubscriptionId × Option OriginKind) × Bytes) =>
      (.createSubscription p.1.1 p.1.2.1 p.1.2.2.1 p.1.2.2.2.1 p.1.2.2.2.2, p.2)
    | 4 :: input => (decode input).map fun p => (.pauseSubscription p.1, p.2)
    | 5 :: input => (decode input).map fun p => (.killSubscription p.1, p.2)
    | 6 :: input => (decode input).map fun (p : (SubscriptionId × Option Credits ×
        Option BlockNumber × Option (Option Metadata)) × Bytes) =>
      (.updateSubscription p.1.1 p.1.2.1 p.1.2.2.1 p.1.2.2.2, p.2)
    | 7 :: input => (decode input).map fun p => (.reactivateSubscription p.1, p.2)
    | 8 :: input => (decode input).map fun (p : (BlockNumber × BlockNumber × Option Metadata ×
        Option SubscriptionId × Option RequestReference × Option OriginKind) × Bytes) =>
      (.requestQuote p.1.1 p.1.2.1 p.1.2.2.1 p.1.2.2.2.1 p.1.2.2.2.2.1 p.1.2.2.2.2.2, p.2)
    | 9 :: input => (decode input).map fun (p : (SubscriptionId × Option RequestReference ×
        Option OriginKind) × Bytes) => (.requestSubInfo p.1.1 p.1.2.1 p.1.2.2, p.2)
    | _ => none

/-- A call of the runtime, read to its last byte, if it is one of this pallet. -/
def decodeCall {D : Type} (C : Config D) : Bytes → Option Call
  | index :: input => if index.toNat = C.index then decodeAll input else none
  | [] => none

end

/-! ## The consumer chain -/

/-- The configuration of the consumer chain's runtime, whose consumers only
log. -/
def runtime (paraId : UInt32) (blake2 : Bytes → Vector UInt8 32) : Config Unit where
  index := 40
  paraId := paraId
  siblingIdnLocation := .sibling 4502
  idnOriginFilter
    | .xcm location => if AllowSiblingOnly.contains 4502 location then some location else none
    | _ => none
  maxIdnXcmFees := 1000000000000
  blake2 := blake2
  localOriginToLocation
    | .signed who => some ⟨0, ⟨[.accountId32 (some ⟨[2]⟩) who], by simp⟩⟩
    | _ => none
  pulseConsumer _ _ := pure ()
  quoteConsumer _ := pure ()
  subInfoConsumer _ := pure ()

end IdealNetwork.Consumer
