import IdealNetwork.Lib.ScaleDecode
import IdealNetwork.Runtime

/-!
# The network's client in a contract

What a contract on another parachain sends to the manager pallet: to
subscribe, to ask for a quote, to ask for a subscription's data. Each message
carries the beginning of a call back into the contract, which the network
completes with an encoded answer without looking into it.

The beginning is cut out of the middle of a vector: the whole call is encoded
with a dummy answer, and the dummy is taken off again. The length in front of
the vector stays, so the completed call can be decoded exactly if the answer
is as long as the dummy was (`decodeCall_frame`). Pulses and quotes always
are (`callback_framed`).

`Host` is what the contract's environment fixes for a deployed contract,
`Context` what one of its calls finds there. The digest and the selectors of
messages come from ink and stay parameters. The call inside a message to the
network is kept as a value and not encoded.
-/

set_option autoImplicit false

namespace IdealNetwork.Contracts

open Scale Storage

abbrev ParaId := UInt32
abbrev PalletIndex := UInt8

/-- `u128`. -/
abbrev Balance := BitVec 128

/-! ## Contract calls -/

structure Weight where
  refTime : UInt64
  proofSize : UInt64
deriving DecidableEq

inductive MultiAddress where
  | id (account : AccountId32)
deriving DecidableEq

/-- The parameters of `call` in the contracts pallet. -/
structure ContractsCall where
  dest : MultiAddress
  value : Balance
  gasLimit : Weight
  storageDepositLimit : Option (Compact Balance)
  data : Bytes
deriving DecidableEq

instance : Encode Weight where
  encode w := encode (⟨w.refTime⟩ : Compact UInt64) ++ encode (⟨w.proofSize⟩ : Compact UInt64)

instance : Encode MultiAddress where
  encode
    | .id account => 0 :: encode account

/-- What is written in front of the data. -/
def ContractsCall.header (call : ContractsCall) : Bytes :=
  encode call.dest ++ encode (⟨call.value⟩ : Compact Balance) ++ encode call.gasLimit ++
    encode call.storageDepositLimit

instance : Encode ContractsCall where
  encode call := call.header ++ encode call.data

instance : Decode Weight where
  decode input := do
    let (refTime, input) ← (decode input : Option (Compact UInt64 × Bytes))
    let (proofSize, input) ← (decode input : Option (Compact UInt64 × Bytes))
    pure (⟨refTime.value, proofSize.value⟩, input)

instance : Decode MultiAddress where
  decode
    | 0 :: input => (decode input).map fun p => (.id p.1, p.2)
    | _ => none

instance : Decode ContractsCall where
  decode input := do
    let (dest, input) ← (decode input : Option (MultiAddress × Bytes))
    let (value, input) ← (decode input : Option (Compact Balance × Bytes))
    let (gasLimit, input) ← (decode input : Option (Weight × Bytes))
    let (storageDepositLimit, input) ← (decode input : Option (Option (Compact Balance) × Bytes))
    let (data, input) ← (decode input : Option (Bytes × Bytes))
    pure (⟨dest, value.value, gasLimit, storageDepositLimit, data⟩, input)

instance : RoundTrip Weight where
  decode_encode w rest := by
    show ((decode (encode (⟨w.refTime⟩ : Compact UInt64) ++
        encode (⟨w.proofSize⟩ : Compact UInt64) ++ rest) : Option (Compact UInt64 × Bytes)).bind
      fun p => (decode p.2 : Option (Compact UInt64 × Bytes)).bind
      fun q => some (Weight.mk p.1.value q.1.value, q.2)) = some (w, rest)
    rw [List.append_assoc, decode_encode, Option.bind_some, decode_encode, Option.bind_some]

instance : RoundTrip MultiAddress where
  decode_encode
    | .id account, rest => by
      show (decode (encode account ++ rest)).map (fun p => (MultiAddress.id p.1, p.2)) = _
      rw [decode_encode, Option.map_some]

/-- Behind a header, what is read is the data. -/
theorem decode_header_append (call : ContractsCall) (input : Bytes) :
    (decode (call.header ++ input) : Option (ContractsCall × Bytes)) =
      (decode input).map fun p => ({ call with data := p.1 }, p.2) := by
  show ((decode (call.header ++ input) : Option (MultiAddress × Bytes)).bind
      fun dest => (decode dest.2 : Option (Compact Balance × Bytes)).bind
      fun value => (decode value.2 : Option (Weight × Bytes)).bind
      fun gas => (decode gas.2 : Option (Option (Compact Balance) × Bytes)).bind
      fun limit => (decode limit.2 : Option (Bytes × Bytes)).bind
      fun data => some (ContractsCall.mk dest.1 value.1.value gas.1 limit.1 data.1, data.2)) = _
  simp only [ContractsCall.header, List.append_assoc, decode_encode, Option.bind_some]
  cases (decode input : Option (Bytes × Bytes)) <;> rfl

/-- A runtime call of the contracts pallet, decoded to its last byte. -/
def decodeCall : Bytes → Option (PalletIndex × UInt8 × ContractsCall)
  | palletIndex :: callIndex :: input =>
    (decodeAll input).map fun call => (palletIndex, callIndex, call)
  | _ => none

/-! ## The client -/

inductive Error where
  | xcmExecutionFailed
  | xcmSendFailed
  | nonXcmEnvError
  | methodNotImplemented
  | consumePulseError
  | consumeQuoteError
  | consumeSubInfoError
  | unauthorized
  | invalidSubscriptionId
  | callDataTooLong
  | invalidParams
  | other
deriving DecidableEq, Repr

/-- How a call of the client ends without a result: with one of its errors, or
in the codec, which writes no vector of 2³² bytes or more. -/
inductive Fault where
  | error (e : Error)
  | panicked
deriving DecidableEq, Repr

structure IdnClient where
  idnParaId : ParaId
  selfParaId : ParaId
  selfContractsPalletIndex : PalletIndex
  selfContractCallIndex : UInt8
  maxIdnXcmFees : Balance
deriving DecidableEq

structure ContractCallParams where
  value : Balance
  gasLimitRefTime : UInt64
  gasLimitProofSize : UInt64
  storageDepositLimit : Option Balance
deriving DecidableEq

/-- `DEF_VALUE`, `DEF_REF_TIME`, `DEF_PROOF_SIZE` and `DEF_STORAGE_DEPOSIT`. -/
def defCallParams : ContractCallParams := ⟨0, 4000000000, 200000, none⟩

/-- `CallData::try_from`, its error mapped. -/
def callDataTryFrom (call : Bytes) : Except Fault CallData :=
  if h : call.length ≤ 256 then .ok ⟨call, h⟩ else .error (.error .callDataTooLong)

theorem callDataTryFrom_ok {call : Bytes} {c : CallData} :
    callDataTryFrom call = .ok c ↔ c.toList = call :=
  BoundedVec.dite_ok

/-- The contract's own account, the digest, and ink's selectors of messages. -/
structure Host where
  accountId : AccountId32
  blake2x256 : Bytes → Vector UInt8 32
  selectorBytes : String → Vector UInt8 4

/-- A message to the network: where to, what its execution may cost, the call,
and who gets the surplus. -/
structure IdnMessage where
  target : Location
  fees : Balance
  call : Manager.Call
  beneficiary : Location

/-- The block a call of the contract runs in, and whether a message is taken. -/
structure Context where
  blockNumber : UInt32
  blockTimestamp : UInt64
  send : IdnMessage → Bool

/-- Code of the contract, with the messages it has sent so far. -/
abbrev ContractM (α : Type) := Action Fault (List IdnMessage) α

/-- `Hashable::hash`. -/
def Host.hash {α : Type} [Encode α] (host : Host) (a : α) (salt : Bytes) : Vector UInt8 32 :=
  host.blake2x256 (encode (a, salt))

def Host.consumePulseSel (host : Host) : Vector UInt8 4 :=
  host.selectorBytes "IdnConsumer::consume_pulse"

def Host.consumeQuoteSel (host : Host) : Vector UInt8 4 :=
  host.selectorBytes "IdnConsumer::consume_quote"

namespace IdnClient

variable (client : IdnClient) (host : Host)

/-- `self_para_sibling_location`. -/
def selfParaSiblingLocation : Location := .sibling client.selfParaId

/-- `contract_idn_location`. -/
def contractIdnLocation : Location := ⟨0, ⟨[.accountId32 none host.accountId], by simp⟩⟩

/-- The message `xcm_send` sends. -/
def message (call : Manager.Call) : IdnMessage :=
  ⟨.sibling client.idnParaId, client.maxIdnXcmFees, call, contractIdnLocation host⟩

/-- `xcm_send`. -/
def xcmSend (ctx : Context) (call : Manager.Call) : ContractM Unit := do
  .ensure (ctx.send (client.message host call) = true) (.error .xcmSendFailed)
  .modify fun sent => sent ++ [client.message host call]

/-- The contract call with some parameters and data. -/
def contractsCall (params : ContractCallParams) (data : Bytes) : ContractsCall where
  dest := .id host.accountId
  value := params.value
  gasLimit := ⟨params.gasLimitRefTime, params.gasLimitProofSize⟩
  storageDepositLimit := params.storageDepositLimit.map Compact.mk
  data := data

/-- `generate_call`. -/
def generateCall (params : ContractCallParams) (data : Bytes) : Except Fault Bytes :=
  if data.length < 2 ^ 32 then
    .ok (client.selfContractsPalletIndex :: client.selfContractCallIndex ::
      encode (contractsCall host params data))
  else .error .panicked

/-- `create_callback_data`. -/
def createCallbackData (selector : Vector UInt8 4) (dummyParams : Bytes)
    (callParams : Option ContractCallParams) : Except Fault CallData := do
  let data := selector.toList ++ dummyParams
  let call ← client.generateCall host (callParams.getD defCallParams) data
  -- the real parameters are appended by the network
  callDataTryFrom (call.take (call.length - dummyParams.length))

end IdnClient

/-- The default pulse and the default id. -/
def dummyPulseParams : Bytes :=
  encode ((⟨Vector.replicate 48 0, 0, 0⟩ : RuntimePulse), (Vector.replicate 32 0 : SubscriptionId))

/-- The quote of nothing. -/
def dummyQuote (reqRef : RequestReference) : Quote := ⟨reqRef, 0, 0⟩

namespace IdnClient

variable (client : IdnClient) (host : Host)

/-- `create_subscription`. -/
def createSubscription (ctx : Context) (credits : Credits) (frequency : BlockNumber)
    (metadata : Option Metadata) (subId : Option SubscriptionId)
    (callParams : Option ContractCallParams) (originKind : Option OriginKind) :
    ContractM SubscriptionId := do
  .ensure (¬ (credits = 0 ∨ frequency = 0)) (.error .invalidParams)
  let call ← .ofExcept
    (client.createCallbackData host host.consumePulseSel dummyPulseParams callParams)
  let params : CreateSubParamsOf :=
    { credits := credits
      target := client.selfParaSiblingLocation
      call := call
      originKind := originKind.getD .native
      frequency := frequency
      metadata := metadata
      subId := subId }
  -- an id that is given is in the parameters already
  let subId := subId.getD (host.hash params (encode ctx.blockTimestamp))
  client.xcmSend host ctx (.createSubscription { params with subId := some subId })
  pure subId

/-- `request_quote`. -/
def requestQuote (ctx : Context) (numberOfPulses frequency : BlockNumber)
    (metadata : Option Metadata) (subId : Option SubscriptionId)
    (reqRef : Option RequestReference) (originKind : Option OriginKind) : ContractM Unit := do
  let reqRef := reqRef.getD (host.hash frequency (encode ctx.blockNumber))
  let call ← .ofExcept (client.createCallbackData host host.consumeQuoteSel [] none)
  let createSubParams : CreateSubParamsOf :=
    { credits := 0
      target := client.selfParaSiblingLocation
      call := call
      originKind := originKind.getD .native
      frequency := frequency
      metadata := metadata
      subId := subId }
  let call ← .ofExcept
    (client.createCallbackData host host.consumeQuoteSel (encode (dummyQuote reqRef)) none)
  client.xcmSend host ctx (.quoteSubscription
    { quoteRequest := ⟨reqRef, createSubParams, numberOfPulses⟩
      call := call
      originKind := originKind.getD .native })

/-! ## The frame of a callback -/

/-- A call as far as the length of its data. -/
def frame (params : ContractCallParams) (length : ℕ) : Bytes :=
  client.selfContractsPalletIndex :: client.selfContractCallIndex ::
    ((contractsCall host params []).header ++ compact length)

variable {client host} {selector : Vector UInt8 4} {params : ContractCallParams}
variable {callParams : Option ContractCallParams} {d : Bytes} {c : CallData}

theorem generateCall_ok {data call : Bytes} :
    client.generateCall host params data = .ok call ↔
      data.length < 2 ^ 32 ∧ client.frame host params data.length ++ data = call := by
  have hcall : client.frame host params data.length ++ data =
      client.selfContractsPalletIndex :: client.selfContractCallIndex ::
        encode (contractsCall host params data) := by
    rw [frame, List.cons_append, List.cons_append, List.append_assoc]
    rfl
  rw [hcall, generateCall]
  split
  next h => rw [Except.ok.injEq, and_iff_right h]
  next h => exact ⟨nofun, fun hlt => absurd hlt.1 h⟩

/-- A callback is the frame of its call and the selector. -/
theorem createCallbackData_ok :
    client.createCallbackData host selector d callParams = .ok c ↔
      4 + d.length < 2 ^ 32 ∧ c.toList =
        client.frame host (callParams.getD defCallParams) (4 + d.length) ++ selector.toList := by
  have hlen : (selector.toList ++ d).length = 4 + d.length := by
    rw [List.length_append, Vector.length_toList]
  have hcut : ∀ call : Bytes, (call ++ d).take ((call ++ d).length - d.length) = call := by
    intro call
    rw [List.length_append, Nat.add_sub_cancel, List.take_left]
  unfold createCallbackData
  simp only [except_bind_ok, generateCall_ok, hlen, callDataTryFrom_ok, ← List.append_assoc]
  constructor
  · rintro ⟨call, ⟨hlt, rfl⟩, hc⟩
    rw [hcut] at hc
    exact ⟨hlt, hc⟩
  · rintro ⟨hlt, hc⟩
    exact ⟨_, ⟨hlt, rfl⟩, (hcut _).symm ▸ hc⟩

/-- THE FRAME RULE: a frame and some bytes decode exactly if the bytes are as
many as the frame announces, and to the framed call with these bytes. -/
theorem decodeCall_frame {length : ℕ} (hlength : length < 2 ^ 32) {bytes : Bytes}
    {call : PalletIndex × UInt8 × ContractsCall} :
    decodeCall (client.frame host params length ++ bytes) = some call ↔
      bytes.length = length ∧ (client.selfContractsPalletIndex, client.selfContractCallIndex,
        contractsCall host params bytes) = call := by
  show (decodeAll ((contractsCall host params []).header ++ compact length ++ bytes)).map
    (fun args => (client.selfContractsPalletIndex, client.selfContractCallIndex, args)) =
      some call ↔ _
  rw [Option.map_eq_some_iff, List.append_assoc]
  simp only [decodeAll_eq_some, decode_header_append, decode_length_append hlength,
    Option.map_eq_some_iff]
  constructor
  · rintro ⟨args, ⟨⟨data, rest⟩, hread, hargs⟩, rfl⟩
    cases hargs
    obtain ⟨rfl, hlen⟩ := readBytes_complete.mp hread
    exact ⟨hlen, rfl⟩
  · rintro ⟨hlen, rfl⟩
    exact ⟨_, ⟨(bytes, []), readBytes_complete.mpr ⟨rfl, hlen⟩, rfl⟩, rfl⟩

/-- What is appended to a callback must be as long as its dummy was. -/
theorem decodeCall_callback (h : client.createCallbackData host selector d callParams = .ok c)
    {p : Bytes} {call : PalletIndex × UInt8 × ContractsCall} :
    decodeCall (c.toList ++ p) = some call ↔
      p.length = d.length ∧ (client.selfContractsPalletIndex, client.selfContractCallIndex,
        contractsCall host (callParams.getD defCallParams) (selector.toList ++ p)) = call := by
  obtain ⟨hlt, hc⟩ := createCallbackData_ok.mp h
  have hlen : (selector.toList ++ p).length = 4 + d.length ↔ p.length = d.length := by
    rw [List.length_append, Vector.length_toList, Nat.add_left_cancel_iff]
  rw [hc, List.append_assoc, decodeCall_frame hlt, hlen]

theorem length_frame_le (client : IdnClient) (host : Host) (params : ContractCallParams)
    (hlength : 4 + d.length < 2 ^ 32) :
    (client.frame host params (4 + d.length)).length ≤ 252 := by
  have hvalue : (compact params.value.toNat).length ≤ 17 :=
    length_compact_le (by decide) params.value.isLt
  have hrefTime : (compact params.gasLimitRefTime.toNat).length ≤ 9 :=
    length_compact_le (by decide) params.gasLimitRefTime.toNat_lt
  have hproofSize : (compact params.gasLimitProofSize.toNat).length ≤ 9 :=
    length_compact_le (by decide) params.gasLimitProofSize.toNat_lt
  have hlimit : (encode (params.storageDepositLimit.map Compact.mk)).length ≤ 18 := by
    cases params.storageDepositLimit with
    | none => decide
    | some limit =>
      have hcompact : (compact limit.toNat).length ≤ 17 :=
        length_compact_le (by decide) limit.isLt
      rw [Option.map_some, length_encode_some]
      exact Nat.add_le_add_left hcompact 1
  have hdata : (compact (4 + d.length)).length ≤ 5 := length_compact_le (by decide) hlength
  have hdest : (encode (MultiAddress.id host.accountId)).length = 33 :=
    congrArg (· + 1) Vector.length_toList
  show ((encode (MultiAddress.id host.accountId) ++ compact params.value.toNat ++
    (compact params.gasLimitRefTime.toNat ++ compact params.gasLimitProofSize.toNat) ++
    encode (params.storageDepositLimit.map Compact.mk) ++ compact (4 + d.length)).length + 1) + 1 ≤
      252
  simp only [List.length_append, hdest]
  omega

/-- A callback is never too long. -/
theorem createCallbackData_succeeds (client : IdnClient) (host : Host) (selector : Vector UInt8 4)
    (callParams : Option ContractCallParams) (hlength : 4 + d.length < 2 ^ 32) :
    ∃ c, client.createCallbackData host selector d callParams = .ok c := by
  have hle := length_frame_le client host (callParams.getD defCallParams) hlength
  refine ⟨⟨client.frame host (callParams.getD defCallParams) (4 + d.length) ++ selector.toList, ?_⟩,
    createCallbackData_ok.mpr ⟨hlength, rfl⟩⟩
  rw [List.length_append, Vector.length_toList]
  omega

end IdnClient

/-! ## Pulses and quotes -/

theorem length_encode_delivery (pulse : RuntimePulse) (subId : SubscriptionId) :
    (encode (pulse, subId)).length = 96 := by
  have hsignature : (encode pulse.signature).length = 48 := Vector.length_toList
  have hid : (encode subId).length = 32 := Vector.length_toList
  show (encode pulse.signature ++ encode pulse.start ++ encode pulse.end ++ encode subId).length = _
  simp only [List.length_append, hsignature, hid, length_encode_u64]

theorem length_encode_quote (quote : Quote) : (encode quote).length = 64 := by
  have hreqRef : (encode quote.reqRef).length = 32 := Vector.length_toList
  show (encode quote.reqRef ++ littleEndian 16 quote.fees ++
    littleEndian 16 quote.deposit).length = _
  simp only [List.length_append, hreqRef, length_littleEndian]

/-- CALLBACKS ARE FRAMED. Whatever is appended to a callback, if it is as long
as the dummy the callback was made with, the whole decodes to its last byte:
to the contracts pallet's call, with the contract's account and the value,
weight and deposit limit that were asked for, and with the selector and what
was appended as its data. A pulse and an id are as long as the dummy of
`create_subscription`, and a quote as that of `request_quote`. -/
theorem callback_framed (client : IdnClient) (host : Host) (selector : Vector UInt8 4)
    (callParams : Option ContractCallParams) (d p : Bytes) (hlen : p.length = d.length)
    {c : CallData} (h : client.createCallbackData host selector d callParams = .ok c) :
    decodeCall (c.toList ++ p) = some
        (client.selfContractsPalletIndex, client.selfContractCallIndex,
          { dest := .id host.accountId
            value := (callParams.getD defCallParams).value
            gasLimit :=
              { refTime := (callParams.getD defCallParams).gasLimitRefTime
                proofSize := (callParams.getD defCallParams).gasLimitProofSize }
            storageDepositLimit :=
              (callParams.getD defCallParams).storageDepositLimit.map Compact.mk
            data := selector.toList ++ p }) ∧
      (∀ (pulse : RuntimePulse) (subId : SubscriptionId),
        (encode (pulse, subId)).length = dummyPulseParams.length) ∧
      ∀ (quote : Quote) (reqRef : RequestReference),
        (encode quote).length = (encode (dummyQuote reqRef)).length := by
  refine ⟨(IdnClient.decodeCall_callback h).mpr ⟨hlen, rfl⟩, fun pulse subId => ?_,
    fun quote reqRef => ?_⟩
  · rw [length_encode_delivery, dummyPulseParams, length_encode_delivery]
  · rw [length_encode_quote, length_encode_quote]

section Sample

open IdealNetwork.Runtime

/-- A client on Paseo. -/
def sampleClient : IdnClient := ⟨4502, 4594, 16, 6, 1000000000000⟩

def sampleHost : Host where
  accountId := Vector.replicate 32 88
  blake2x256 _ := Vector.replicate 32 9
  selectorBytes message := #v[66, UInt8.ofNat message.length, 0, 0]

/-- A call that moves a large value and limits its deposit. -/
def sampleCallParams : ContractCallParams := ⟨1000000000000000000, 70000, 1000000000000, some 50⟩

theorem callback_framed_samplePulse :
    ∃ c, sampleClient.createCallbackData sampleHost sampleHost.consumePulseSel dummyPulseParams
        (some sampleCallParams) = .ok c ∧
      decodeCall (c.toList ++ encode (samplePulse, sampleId)) = some
        (16, 6, ⟨.id (Vector.replicate 32 88), 1000000000000000000, ⟨70000, 1000000000000⟩,
          some ⟨50⟩, sampleHost.consumePulseSel.toList ++ encode (samplePulse, sampleId)⟩) := by
  obtain ⟨c, hc⟩ := IdnClient.createCallbackData_succeeds (d := dummyPulseParams) sampleClient
    sampleHost sampleHost.consumePulseSel (some sampleCallParams) (by decide)
  exact ⟨c, hc, (callback_framed sampleClient sampleHost sampleHost.consumePulseSel
    (some sampleCallParams) dummyPulseParams (encode (samplePulse, sampleId)) rfl hc).1⟩

end Sample

end IdealNetwork.Contracts
