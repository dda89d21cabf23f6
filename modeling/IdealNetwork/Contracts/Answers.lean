import IdealNetwork.Contracts.Client
import IdealNetwork.Manager.Deposits
import IdealNetwork.Manager.Records

/-!
# What comes back to a contract

A subscription that a contract's client asked for is stored on the network
with the callback the client made, and keeps it as long as it is stored. So
every pulse that is delivered reaches the contract (`delivery_reaches`), and
so does every quote (`quote_reaches`).

To be sent the subscription's data, the client has to tell how long its record
will be. It encodes a dummy record, with the same metadata, the same callback
and a block of the last delivery. A record that has never been delivered to
has no such block and is four bytes shorter, and what the network then sends
cannot be decoded (`subInfo_reaches`).
-/

set_option autoImplicit false

namespace IdealNetwork.Contracts

open Scale Storage Manager

def Host.consumeSubInfoSel (host : Host) : Vector UInt8 4 :=
  host.selectorBytes "IdnConsumer::consume_sub_info"

namespace IdnClient

variable (client : IdnClient) (host : Host)

/-- The record `create_dummy_sub_info_response` makes up. -/
def dummySub (subId : SubscriptionId) (metadata : Option Metadata) (call : CallData) :
    SubscriptionOf where
  id := subId
  details :=
    { subscriber := subId
      target := client.selfParaSiblingLocation
      call := call
      originKind := .native }
  creditsLeft := 0
  state := .active
  createdAt := 0
  updatedAt := 0
  credits := 0
  frequency := 0
  metadata := metadata
  lastDelivered := some 0

/-- `create_dummy_sub_info_response`. -/
def createDummySubInfoResponse (subId : SubscriptionId) (reqRef : RequestReference)
    (metadata : Option Metadata) (callParams : Option ContractCallParams) :
    Except Fault (SubInfoResponse SubscriptionOf) := do
  let call ← client.createCallbackData host host.consumePulseSel dummyPulseParams callParams
  .ok ⟨reqRef, client.dummySub subId metadata call⟩

/-- `request_sub_info`. -/
def requestSubInfo (ctx : Context) (subId : SubscriptionId) (metadata : Option Metadata)
    (reqRef : Option RequestReference) (callParams : Option ContractCallParams)
    (originKind : Option OriginKind) : ContractM Unit := do
  let reqRef := reqRef.getD (host.hash subId (encode ctx.blockNumber))
  let response ← .ofExcept
    (client.createDummySubInfoResponse host subId reqRef metadata callParams)
  let call ← .ofExcept
    (client.createCallbackData host host.consumeSubInfoSel (encode response) none)
  client.xcmSend host ctx (.getSubscriptionInfo ⟨reqRef, subId, call, originKind.getD .native⟩)

variable {client host} {ctx : Context} {sent sent' : List IdnMessage}
variable {metadata : Option Metadata} {callParams : Option ContractCallParams}
variable {originKind : Option OriginKind} {id : SubscriptionId}

theorem xcmSend_ok {call : Manager.Call} {u : Unit} :
    client.xcmSend host ctx call sent = (.ok u, sent') ↔
      ctx.send (client.message host call) = true ∧ sent ++ [client.message host call] = sent' := by
  unfold xcmSend
  rw [Action.ensure_bind_ok, Action.modify_ok]

/-- A subscription is asked for with a callback for its pulses. -/
theorem createSubscription_ok {credits : Credits} {frequency : BlockNumber}
    {subId : Option SubscriptionId}
    (h : client.createSubscription host ctx credits frequency metadata subId callParams originKind
      sent = (.ok id, sent')) :
    ∃ params : CreateSubParamsOf,
      sent' = sent ++ [client.message host (.createSubscription params)] ∧
        params.subId = some id ∧ params.target = client.selfParaSiblingLocation ∧
        params.metadata = metadata ∧
        client.createCallbackData host host.consumePulseSel dummyPulseParams callParams =
          .ok params.call := by
  unfold createSubscription at h
  simp only [Action.ensure_bind_ok, Action.ofExcept_bind_ok] at h
  obtain ⟨_, call, hcall, h⟩ := h
  obtain ⟨_, _, hsend, hid⟩ := Action.bind_ok.mp h
  obtain ⟨_, rfl⟩ := xcmSend_ok.mp hsend
  obtain ⟨rfl, rfl⟩ := Action.pure_ok.mp hid
  exact ⟨_, rfl, rfl, rfl, rfl, hcall⟩

/-- A quote is asked for with a callback for the quote of nothing, and for a
subscription with a callback that was made for no answer at all. -/
theorem requestQuote_ok {numberOfPulses frequency : BlockNumber} {subId : Option SubscriptionId}
    {reqRef : Option RequestReference} {u : Unit}
    (h : client.requestQuote host ctx numberOfPulses frequency metadata subId reqRef originKind
      sent = (.ok u, sent')) :
    ∃ params : QuoteSubParamsOf,
      sent' = sent ++ [client.message host (.quoteSubscription params)] ∧
        client.createCallbackData host host.consumeQuoteSel
          (encode (dummyQuote params.quoteRequest.reqRef)) none = .ok params.call ∧
        params.quoteRequest.createSubParams.target = client.selfParaSiblingLocation ∧
        params.quoteRequest.createSubParams.metadata = metadata ∧
        client.createCallbackData host host.consumeQuoteSel [] none =
          .ok params.quoteRequest.createSubParams.call := by
  unfold requestQuote at h
  simp only [Action.ofExcept_bind_ok, xcmSend_ok] at h
  obtain ⟨create, hcreate, call, hcall, _, rfl⟩ := h
  exact ⟨_, rfl, hcall, rfl, rfl, hcreate⟩

/-- A subscription's data are asked for with a callback for the dummy record. -/
theorem requestSubInfo_ok {reqRef : Option RequestReference} {u : Unit} :
    client.requestSubInfo host ctx id metadata reqRef callParams originKind sent = (.ok u, sent') ↔
      ∃ (call : CallData) (req : SubInfoRequestOf),
        client.createCallbackData host host.consumePulseSel dummyPulseParams callParams =
          .ok call ∧
        client.createCallbackData host host.consumeSubInfoSel
          (encode (⟨req.reqRef, client.dummySub id metadata call⟩ :
            SubInfoResponse SubscriptionOf)) none = .ok req.call ∧
        req.reqRef = reqRef.getD (host.hash id (encode ctx.blockNumber)) ∧ req.subId = id ∧
        req.originKind = originKind.getD .native ∧
        ctx.send (client.message host (.getSubscriptionInfo req)) = true ∧
        sent ++ [client.message host (.getSubscriptionInfo req)] = sent' := by
  unfold requestSubInfo createDummySubInfoResponse
  simp only [Action.ofExcept_bind_ok, except_bind_ok, xcmSend_ok]
  constructor
  · rintro ⟨_, ⟨call, hcall, hresponse⟩, back, hinfo, htaken, hsent⟩
    cases hresponse
    exact ⟨call, ⟨_, id, back, _⟩, hcall, hinfo, rfl, rfl, rfl, htaken, hsent⟩
  · rintro ⟨call, ⟨ref, subId, back, kind⟩, hcall, hinfo, hreqRef, hid, hkind, htaken, hsent⟩
    simp only at hinfo hreqRef hid hkind
    subst hreqRef hid hkind
    exact ⟨_, ⟨call, hcall, rfl⟩, back, hinfo, htaken, hsent⟩

end IdnClient

/-! ## On the network -/

variable {T : Config} {env : Env} {origin : Origin} {s s₀ t : State T} {id : SubscriptionId}
variable {sub : SubscriptionOf} {inputs : List Input}

/-- A subscription is stored under the id it was asked for with. -/
theorem created_stored {params : CreateSubParamsOf} {u : Unit}
    (h : dispatch T env origin (.createSubscription params) s = (.ok u, t))
    (hid : params.subId = some id) :
    ∃ who, t.subscriptions.lookup id = some (newSubscription env who id params) := by
  cases dispatch_ok h with
  | @created _ who L₁ L₂ caller bought room fresh fees deposit =>
    have hname : newSubId T env who params = id := by rw [newSubId, hid, Option.getD_some]
    rw [hname]
    exact ⟨who, Finmap.lookup_insert _⟩

/-- The call that a message carries. -/
def transacted (message : XcmMessage) : Bytes :=
  message.program.flatMap fun
    | .transact _ _ call => call
    | _ => []

theorem transacted_xcmMessage {acc : AccountId32} {target : Location} {call : Bytes}
    {originKind : OriginKind} {message : XcmMessage}
    (h : xcmMessage T acc target call originKind = some message) : transacted message = call := by
  obtain ⟨beneficiary, _, rfl⟩ := Option.map_eq_some_iff.mp h
  exact List.append_nil call

/-- The data of a subscription are sent as they are stored, behind the callback
of the request. -/
theorem getSubscriptionInfo_sends {req : SubInfoRequestOf} {u : Unit}
    (h : dispatch T env origin (.getSubscriptionInfo req) s = (.ok u, t)) :
    ∃ sub message, s.subscriptions.lookup req.subId = some sub ∧ t.sent = s.sent ++ [message] ∧
      transacted message = req.call.toList ++
        encode (⟨req.reqRef, sub⟩ : SubInfoResponse SubscriptionOf) := by
  obtain ⟨_, _, sub, message, hstored, hmade, rfl⟩ := getSubscriptionInfo_answers h
  exact ⟨sub, message, hstored, rfl, transacted_xcmMessage hmade⟩

/-- A quote is sent behind the callback of its request. -/
theorem quoteSubscription_sends {params : QuoteSubParamsOf} {u : Unit}
    (h : dispatch T env origin (.quoteSubscription params) s = (.ok u, t)) :
    ∃ quote message, quote.reqRef = params.quoteRequest.reqRef ∧ t.sent = s.sent ++ [message] ∧
      transacted message = params.call.toList ++ encode (quote : Quote) := by
  obtain ⟨_, _, _, message, _, hmade, rfl⟩ := quoteSubscription_answers h
  exact ⟨_, message, rfl, rfl, transacted_xcmMessage hmade⟩

/-! ## In the contract -/

/-- A call decodes, to its last byte, to a contract call with the given data. -/
def Reaches (call data : Bytes) : Prop :=
  ∃ c, decodeCall call = some c ∧ c.2.2.data = data

/-- What is appended to a callback reaches the contract exactly if it is as
long as the dummy. -/
theorem reaches_callback {client : IdnClient} {host : Host} {selector : Vector UInt8 4} {d : Bytes}
    {callParams : Option ContractCallParams} {c : CallData}
    (h : client.createCallbackData host selector d callParams = .ok c) (p : Bytes) :
    Reaches (c.toList ++ p) (selector.toList ++ p) ↔ p.length = d.length := by
  simp only [Reaches, IdnClient.decodeCall_callback h]
  constructor
  · rintro ⟨_, ⟨hlen, _⟩, _⟩
    exact hlen
  · intro hlen
    exact ⟨_, ⟨hlen, rfl⟩, rfl⟩

/-- QUOTES REACH THE CONTRACT. Whatever quote the network answers a client's
request with decodes to a call of the contract with the quote. -/
theorem quote_reaches {client : IdnClient} {host : Host} {ctx : Context}
    {numberOfPulses frequency : BlockNumber} {metadata : Option Metadata}
    {subId : Option SubscriptionId} {reqRef : Option RequestReference}
    {originKind : Option OriginKind} {params : QuoteSubParamsOf}
    (hask : client.requestQuote host ctx numberOfPulses frequency metadata subId reqRef originKind
      [] = (.ok (), [client.message host (.quoteSubscription params)]))
    (hquote : dispatch T env origin (.quoteSubscription params) s = (.ok (), t)) :
    ∃ quote message, quote.reqRef = params.quoteRequest.reqRef ∧ t.sent = s.sent ++ [message] ∧
      Reaches (transacted message) (host.consumeQuoteSel.toList ++ encode (quote : Quote)) := by
  obtain ⟨params', hsent, hback, _⟩ := IdnClient.requestQuote_ok hask
  cases hsent
  obtain ⟨quote, message, hreqRef, hmessage, hbytes⟩ := quoteSubscription_sends hquote
  refine ⟨quote, message, hreqRef, hmessage, ?_⟩
  rw [hbytes, reaches_callback hback, length_encode_quote, length_encode_quote]

section Subscribed

variable {client : IdnClient} {host : Host} {ctx ctx' : Context} {credits : Credits}
variable {frequency : BlockNumber} {metadata : Option Metadata} {subId : Option SubscriptionId}
variable {callParams : Option ContractCallParams} {originKind originKind' : Option OriginKind}
variable {params : CreateSubParamsOf}

/-- The subscription a client asked for, as it is first stored. -/
theorem subscribed_stored
    (hask : client.createSubscription host ctx credits frequency metadata subId callParams originKind
      [] = (.ok id, [client.message host (.createSubscription params)]))
    (hcreate : dispatch T env origin (.createSubscription params) s = (.ok (), s₀)) :
    ∃ new, s₀.subscriptions.lookup id = some new ∧ new.metadata = metadata ∧
      new.details.target = client.selfParaSiblingLocation ∧
      client.createCallbackData host host.consumePulseSel dummyPulseParams callParams =
        .ok new.details.call := by
  obtain ⟨params', hsent, hid, htarget, hmetadata, hcall⟩ := IdnClient.createSubscription_ok hask
  cases hsent
  obtain ⟨who, hstored⟩ := created_stored hcreate hid
  exact ⟨_, hstored, hmetadata, htarget, hcall⟩

/-- PULSES REACH THE CONTRACT. As long as a subscription its client asked for is
stored, whatever pulse is delivered decodes to a call of the contract with the
pulse and the id. -/
theorem delivery_reaches
    (hask : client.createSubscription host ctx credits frequency metadata subId callParams originKind
      [] = (.ok id, [client.message host (.createSubscription params)]))
    (hcreate : dispatch T env origin (.createSubscription params) s = (.ok (), s₀))
    (hkept : Runs.Along (step T) (fun _ u => id ∈ u.subscriptions) inputs s₀)
    (hstored : (run T inputs s₀).subscriptions.lookup id = some sub) (pulse : RuntimePulse) :
    Reaches (deliveryCall pulse id sub) (host.consumePulseSel.toList ++ encode (pulse, id)) := by
  obtain ⟨new, hnew, _, _, hcall⟩ := subscribed_stored hask hcreate
  have hdetails := run_keeps_details hnew hkept hstored
  rw [deliveryCall, hdetails, reaches_callback hcall, dummyPulseParams, length_encode_delivery,
    length_encode_delivery]

/-- How long a subscription's data are. -/
theorem length_encode_response (reqRef : RequestReference) (sub : SubscriptionOf) :
    (encode (⟨reqRef, sub⟩ : SubInfoResponse SubscriptionOf)).length =
      126 + (encode sub.details.target).length + (encode sub.details.call).length +
        (encode sub.metadata).length + (encode sub.lastDelivered).length := by
  have hreqRef : (encode reqRef).length = 32 := Vector.length_toList
  have hsubscriber : (encode sub.details.subscriber).length = 32 := Vector.length_toList
  have horigin : (encode sub.details.originKind).length = 1 := by
    cases sub.details.originKind <;> rfl
  have hdetails : (encode sub.details).length =
      33 + (encode sub.details.target).length + (encode sub.details.call).length := by
    show (encode sub.details.subscriber ++ encode sub.details.target ++ encode sub.details.call ++
      encode sub.details.originKind).length = _
    simp only [List.length_append, hsubscriber, horigin]
    omega
  have hsize := encodedSize_subscription sub
  rw [encodedSize] at hsize
  show (encode reqRef ++ encode sub).length = _
  rw [List.length_append, hreqRef, hsize, hdetails]
  omega

theorem length_encode_boundedVec_le {bound : ℕ} (hbound : bound < 2 ^ 32)
    (v : BoundedVec UInt8 bound) : (encode v).length ≤ 5 + bound := by
  have hlen := v.length_le
  have hcompact : (compact v.toList.length).length ≤ 5 :=
    length_compact_le (by decide) (hlen.trans_lt hbound)
  show (compact v.toList.length ++ v.toList).length ≤ _
  rw [List.length_append]
  omega

theorem length_sibling_le (client : IdnClient) :
    (encode client.selfParaSiblingLocation).length ≤ 8 := by
  have hid : (compact client.selfParaId.toNat).length ≤ 5 :=
    length_compact_le (by decide) client.selfParaId.toNat_lt
  show (compact client.selfParaId.toNat ++ []).length + 1 + 1 + 1 ≤ 8
  rw [List.append_nil]
  omega

theorem length_metadata_le (metadata : Option Metadata) : (encode metadata).length ≤ 14 := by
  cases metadata with
  | none => decide
  | some bytes =>
    have hbytes := length_encode_boundedVec_le (by decide) bytes
    rw [length_encode_some]
    omega

theorem length_dummy_le (client : IdnClient) (reqRef : RequestReference) (id : SubscriptionId)
    (metadata : Option Metadata) (call : CallData) :
    (encode (⟨reqRef, client.dummySub id metadata call⟩ :
      SubInfoResponse SubscriptionOf)).length ≤ 414 := by
  have htarget := length_sibling_le client
  have hcall : (encode call).length ≤ 261 := length_encode_boundedVec_le (by decide) call
  have hmetadata := length_metadata_le metadata
  rw [length_encode_response]
  show 126 + (encode client.selfParaSiblingLocation).length + (encode call).length +
    (encode metadata).length + 5 ≤ 414
  omega

/-- A client whose messages are taken can always ask for a subscription's data. -/
theorem requestSubInfo_succeeds (client : IdnClient) (host : Host)
    (hsend : ∀ message, ctx.send message = true) (id : SubscriptionId)
    (metadata : Option Metadata) (reqRef : Option RequestReference)
    (callParams : Option ContractCallParams) (originKind : Option OriginKind) :
    ∃ req, client.requestSubInfo host ctx id metadata reqRef callParams originKind [] =
      (.ok (), [client.message host (.getSubscriptionInfo req)]) := by
  obtain ⟨call, hcall⟩ := IdnClient.createCallbackData_succeeds (d := dummyPulseParams) client host
    host.consumePulseSel callParams (by decide)
  have hdummy := length_dummy_le client (reqRef.getD (host.hash id (encode ctx.blockNumber))) id
    metadata call
  obtain ⟨back, hback⟩ := IdnClient.createCallbackData_succeeds client host host.consumeSubInfoSel
    none (Nat.lt_of_le_of_lt (Nat.add_le_add_left hdummy 4) (by decide))
  refine ⟨⟨reqRef.getD (host.hash id (encode ctx.blockNumber)), id, back, originKind.getD .native⟩,
    IdnClient.requestSubInfo_ok.mpr ⟨call, ?_⟩⟩
  exact ⟨⟨_, id, back, _⟩, hcall, hback, rfl, rfl, rfl, hsend _, rfl⟩

/-- A record is as long as its dummy exactly if it has been delivered to. -/
theorem length_response_dummy {call : CallData} (reqRef : RequestReference)
    (htarget : sub.details.target = client.selfParaSiblingLocation)
    (hcall : sub.details.call = call) (hmetadata : sub.metadata = metadata) :
    (encode (⟨reqRef, sub⟩ : SubInfoResponse SubscriptionOf)).length =
        (encode (⟨reqRef, client.dummySub id metadata call⟩ :
          SubInfoResponse SubscriptionOf)).length ↔ sub.lastDelivered.isSome := by
  rw [length_encode_response, length_encode_response, htarget, hcall, hmetadata]
  show _ = 126 + (encode client.selfParaSiblingLocation).length + (encode call).length +
    (encode metadata).length + (encode (some (0 : BlockNumber))).length ↔ _
  rw [Nat.add_left_cancel_iff, length_encode_some, length_encode_u32]
  cases sub.lastDelivered with
  | none =>
    rw [length_encode_none]
    decide
  | some block =>
    rw [length_encode_some, length_encode_u32]
    exact ⟨fun _ => rfl, fun _ => rfl⟩

/-- SUBSCRIPTION DATA REACH THE CONTRACT ONCE A PULSE WAS DUE. A client asks
for a subscription, which is stored; later, while it is stored and its
metadata are not updated, the client asks for its data with the same metadata
and parameters. What the network then sends decodes to a call of the contract
with these data exactly if the record has a block of the last delivery. -/
theorem subInfo_reaches
    (hask : client.createSubscription host ctx credits frequency metadata subId callParams originKind
      [] = (.ok id, [client.message host (.createSubscription params)]))
    (hcreate : dispatch T env origin (.createSubscription params) s = (.ok (), s₀))
    (hkept : Runs.Along (step T) (fun _ u => id ∈ u.subscriptions) inputs s₀)
    (hkeeps : ∀ input ∈ inputs, input.2.KeepsMetadata id)
    (hstored : (run T inputs s₀).subscriptions.lookup id = some sub)
    {reqRef : Option RequestReference} {req : SubInfoRequestOf}
    (hrequest : client.requestSubInfo host ctx' id metadata reqRef callParams originKind' [] =
      (.ok (), [client.message host (.getSubscriptionInfo req)]))
    {env' : Env} {origin' : Origin}
    (hinfo : dispatch T env' origin' (.getSubscriptionInfo req) (run T inputs s₀) = (.ok (), t)) :
    ∃ message, t.sent = (run T inputs s₀).sent ++ [message] ∧
      (Reaches (transacted message) (host.consumeSubInfoSel.toList ++
        encode (⟨req.reqRef, sub⟩ : SubInfoResponse SubscriptionOf)) ↔
          sub.lastDelivered.isSome) := by
  obtain ⟨new, hnew, hmetadata, htarget, hcall⟩ := subscribed_stored hask hcreate
  have hdetails := run_keeps_details hnew hkept hstored
  have hsame := run_keeps_metadata hnew hkept hkeeps hstored
  obtain ⟨call, req', hcall', hback, _, hid, _, _, hsent⟩ :=
    IdnClient.requestSubInfo_ok.mp hrequest
  cases hsent
  cases hcall.symm.trans hcall'
  obtain ⟨sub', message, hstored', hmessage, hbytes⟩ := getSubscriptionInfo_sends hinfo
  rw [hid] at hstored'
  cases hstored.symm.trans hstored'
  refine ⟨message, hmessage, ?_⟩
  rw [hbytes, reaches_callback hback]
  exact length_response_dummy req.reqRef (by rw [hdetails, htarget]) (by rw [hdetails])
    (hsame.trans hmetadata)

end Subscribed

section Sample

open IdealNetwork.Runtime

def sampleContext : Context := ⟨100, 5000, fun _ => true⟩

/-- The contract, as the network sees it. -/
def contractOrigin : Origin :=
  .xcm ⟨1, ⟨[.parachain 4594, .accountId32 none sampleHost.accountId], by simp⟩⟩

/-- The callback for pulses. -/
def pulseCallback : CallData :=
  ⟨sampleClient.frame sampleHost defCallParams 100 ++ sampleHost.consumePulseSel.toList, by decide⟩

/-- The contract buys three credits. -/
def buyThree : CreateSubParamsOf where
  credits := 3
  target := .sibling 4594
  call := pulseCallback
  originKind := .native
  frequency := 1
  metadata := none
  subId := some sampleId

theorem buyThree_asked :
    sampleClient.createSubscription sampleHost sampleContext 3 1 none (some sampleId) none none [] =
      (.ok sampleId, [sampleClient.message sampleHost (.createSubscription buyThree)]) := rfl

/-- The contract asks for its subscription's data. -/
def askSample : SubInfoRequestOf where
  reqRef := Vector.replicate 32 3
  subId := sampleId
  call :=
    ⟨sampleClient.frame sampleHost defCallParams (4 + 190) ++ sampleHost.consumeSubInfoSel.toList,
      by decide⟩
  originKind := .native

theorem askSample_asked :
    sampleClient.requestSubInfo sampleHost sampleContext sampleId none
        (some (Vector.replicate 32 3)) none none [] =
      (.ok (), [sampleClient.message sampleHost (.getSubscriptionInfo askSample)]) := by
  have hdummy : (encode (⟨askSample.reqRef, sampleClient.dummySub sampleId none pulseCallback⟩ :
      SubInfoResponse SubscriptionOf)).length = 190 := by decide +kernel
  refine IdnClient.requestSubInfo_ok.mpr ⟨pulseCallback, askSample, rfl,
    IdnClient.createCallbackData_ok.mpr ?_, rfl, rfl, rfl, rfl, rfl⟩
  rw [hdummy, Option.getD_none, askSample]
  exact ⟨by decide, rfl⟩

/-- The contract's subscription, bought and stored. -/
def threeStored : State standalone :=
  (dispatch standalone (online 1) contractOrigin (.createSubscription buyThree) funded).2

/-- What the network sends once the first pulse is out. -/
def askedServed : State standalone :=
  (dispatch standalone (online 3) contractOrigin (.getSubscriptionInfo askSample)
    (run standalone [(online 2, .distribute samplePulse)] threeStored)).2

theorem subInfo_reaches_served :
    ∃ message, askedServed.sent =
        (run standalone [(online 2, .distribute samplePulse)] threeStored).sent ++ [message] ∧
      ∃ sub, (run standalone [(online 2, .distribute samplePulse)] threeStored).subscriptions.lookup
          sampleId = some sub ∧
        Reaches (transacted message) (sampleHost.consumeSubInfoSel.toList ++
          encode (⟨askSample.reqRef, sub⟩ : SubInfoResponse SubscriptionOf)) := by
  obtain ⟨sub, hsub, hlast⟩ : ∃ sub,
      (run standalone [(online 2, .distribute samplePulse)] threeStored).subscriptions.lookup
        sampleId = some sub ∧ sub.lastDelivered = some 2 :=
    Option.map_eq_some_iff.mp (by decide +kernel)
  have hcreate : dispatch standalone (online 1) contractOrigin (.createSubscription buyThree)
      funded = (.ok (), threeStored) :=
    Prod.ext (by decide +kernel) (by rw [threeStored])
  have hkept : Runs.Along (step standalone) (fun _ u => sampleId ∈ u.subscriptions)
      [(online 2, .distribute samplePulse)] threeStored := ⟨by decide +kernel, trivial⟩
  have hinfo : dispatch standalone (online 3) contractOrigin (.getSubscriptionInfo askSample)
      (run standalone [(online 2, .distribute samplePulse)] threeStored) = (.ok (), askedServed) :=
    Prod.ext (by decide +kernel) (by rw [askedServed])
  have hkeeps : ∀ input ∈ [(online 2, Op.distribute samplePulse)],
      input.2.KeepsMetadata sampleId := by
    intro input hinput
    rw [List.mem_singleton.mp hinput]
    trivial
  obtain ⟨message, hmessage, hreaches⟩ := subInfo_reaches buyThree_asked hcreate hkept hkeeps hsub
    askSample_asked hinfo
  exact ⟨message, hmessage, sub, hsub, hreaches.mpr (by rw [hlast]; rfl)⟩

/-- Asked for before the first pulse, what is sent cannot be decoded. -/
theorem subInfo_lost_undelivered :
    sampleClient.createSubscription sampleHost sampleContext 3 1 none (some sampleId) none none [] =
        (.ok sampleId, [sampleClient.message sampleHost (.createSubscription buyThree)]) ∧
      sampleClient.requestSubInfo sampleHost sampleContext sampleId none
          (some (Vector.replicate 32 3)) none none [] =
        (.ok (), [sampleClient.message sampleHost (.getSubscriptionInfo askSample)]) ∧
      (threeStored.subscriptions.lookup sampleId).map (fun sub => (sub.state, sub.lastDelivered)) =
        some (.active, none) ∧
      (dispatch standalone (online 2) contractOrigin (.getSubscriptionInfo askSample)
        threeStored).2.sent.map (fun message => decodeCall (transacted message)) = [none] :=
  ⟨buyThree_asked, askSample_asked, by decide +kernel, by decide +kernel⟩

end Sample

end IdealNetwork.Contracts
