import IdealNetwork.Contracts.Answers
import IdealNetwork.Manager.Pricing

/-!
# What a contract is quoted

To be quoted a price, a contract's client sends the parameters of the
subscription it has in mind. All but one of them are those it would subscribe
with: in the place of the callback for pulses stands a callback for quotes,
made for an answer of no bytes.

A callback begins with the length of the data it is completed to. Four bytes
of selector alone have a length of one byte, and four bytes and a pulse with
its id a length of two, so the record that is quoted for is one byte shorter
than the one that is stored. The deposit quoted is short by the price of that
byte (`quoted_deposit_iff`).
-/

set_option autoImplicit false

namespace IdealNetwork.Contracts

open Scale Storage Manager

namespace IdnClient

variable {client : IdnClient} {host : Host} {selector : Vector UInt8 4} {d : Bytes} {c : CallData}

/-- How long a call is, by default, as far as its data. -/
theorem length_frame_defCallParams (client : IdnClient) (host : Host) (length : ℕ) :
    (client.frame host defCallParams length).length = 46 + (compact length).length := by
  have hdest : (encode (MultiAddress.id host.accountId)).length = 33 :=
    congrArg (· + 1) Vector.length_toList
  have hvalue : (encode (⟨defCallParams.value⟩ : Compact Balance)).length = 1 := by decide
  have hgas : (encode (⟨defCallParams.gasLimitRefTime, defCallParams.gasLimitProofSize⟩ :
      Weight)).length = 9 := by decide +kernel
  have hlimit : (encode (defCallParams.storageDepositLimit.map Compact.mk)).length = 1 := rfl
  show ((encode (MultiAddress.id host.accountId) ++
    encode (⟨defCallParams.value⟩ : Compact Balance) ++
    encode (⟨defCallParams.gasLimitRefTime, defCallParams.gasLimitProofSize⟩ : Weight) ++
    encode (defCallParams.storageDepositLimit.map Compact.mk) ++ compact length).length + 1) + 1 = _
  simp only [List.length_append, hdest, hvalue, hgas, hlimit]
  omega

/-- How long a callback with default parameters is. -/
theorem length_callback (h : client.createCallbackData host selector d none = .ok c) :
    c.toList.length = 50 + (compact (4 + d.length)).length := by
  obtain ⟨_, hc⟩ := createCallbackData_ok.mp h
  rw [hc, Option.getD_none, List.length_append, length_frame_defCallParams, Vector.length_toList]
  omega

end IdnClient

/-- How long call data are when they are written. -/
theorem length_encode_callData (c : CallData) :
    (encode c).length = (compact c.toList.length).length + c.toList.length :=
  List.length_append

variable {T : Config} {env env' : Env} {origin origin' : Origin} {s s' t t' : State T}
variable {client : IdnClient} {host : Host} {ctx ctx' : Context} {credits : Credits}
variable {numberOfPulses frequency : BlockNumber} {metadata : Option Metadata}
variable {subId : Option SubscriptionId} {reqRef : Option RequestReference} {id : SubscriptionId}
variable {originKind : Option OriginKind} {q : QuoteSubParamsOf} {p : CreateSubParamsOf}

/-- The record that is quoted for. -/
theorem encodedSize_quoted
    (hask : client.requestQuote host ctx numberOfPulses frequency metadata subId reqRef originKind
      [] = (.ok (), [client.message host (.quoteSubscription q)])) (env : Env) (who : AccountId32)
    (newId : SubscriptionId) (kind : OriginKind) :
    encodedSize (newSubscription env who newId
        { q.quoteRequest.createSubParams with originKind := kind }) =
      147 + (encode client.selfParaSiblingLocation).length + (encode metadata).length := by
  obtain ⟨_, hsent, _, htarget, hmetadata, hcall⟩ := IdnClient.requestQuote_ok hask
  cases hsent
  have hlen : q.quoteRequest.createSubParams.call.toList.length = 51 :=
    IdnClient.length_callback hcall
  have hsize : (encode q.quoteRequest.createSubParams.call).length = 52 := by
    rw [length_encode_callData, hlen]
    rfl
  rw [encodedSize_newSubscription]
  simp only [htarget, hmetadata, hsize]
  omega

/-- The record that is stored is one byte longer. -/
theorem encodedSize_subscribed
    (hask : client.createSubscription host ctx credits frequency metadata subId none originKind
      [] = (.ok id, [client.message host (.createSubscription p)])) (env : Env)
    (who : AccountId32) (newId : SubscriptionId) :
    encodedSize (newSubscription env who newId p) =
      148 + (encode client.selfParaSiblingLocation).length + (encode metadata).length := by
  obtain ⟨_, hsent, _, htarget, hmetadata, hcall⟩ := IdnClient.createSubscription_ok hask
  cases hsent
  have hdummy : dummyPulseParams.length = 96 := length_encode_delivery _ _
  have hlen : p.call.toList.length = 52 := by
    rw [IdnClient.length_callback hcall, hdummy]
    rfl
  have hsize : (encode p.call).length = 53 := by
    rw [length_encode_callData, hlen]
    rfl
  rw [encodedSize_newSubscription, htarget, hmetadata, hsize]
  omega

/-- THE QUOTED DEPOSIT IS SHORT. A client asks for a quote and, with the same
frequency, metadata, id and origin kind, for a subscription with default call
parameters; the network answers the one and makes the other. Then the deposit
that is put on hold is the one that was quoted exactly if bytes are free, or
if the price is clamped already at the size that was quoted for. -/
theorem quoted_deposit_iff (law : T.currency.Lawful)
    (hquote : client.requestQuote host ctx numberOfPulses frequency metadata subId reqRef originKind
      [] = (.ok (), [client.message host (.quoteSubscription q)]))
    (hcreate : client.createSubscription host ctx' credits frequency metadata subId none originKind
      [] = (.ok id, [client.message host (.createSubscription p)]))
    (hquoted : dispatch T env origin (.quoteSubscription q) s = (.ok (), s'))
    (hcreated : dispatch T env' origin' (.createSubscription p) t = (.ok (), t')) :
    ∃ requester quote who, s'.events = s.events ++ [.subQuoted requester quote] ∧
      ensureSignedOrValidXcmOrigin T origin' = .ok who ∧
      (onHold t' .storageDeposit who = onHold t .storageDeposit who + quote.deposit ↔
        T.sdMultiplier = 0 ∨ 2 ^ 128 - 1 ≤ T.sdMultiplier *
          (147 + (encode client.selfParaSiblingLocation).length + (encode metadata).length)) := by
  obtain ⟨requester, _, acc, quote, _, hevents, _, hdeposit⟩ := quoteSubscription_quotes hquoted
  obtain ⟨who, newId, hwho, _, hheld⟩ := createSubscription_holds law hcreated
  refine ⟨requester, quote, who, hevents, hwho, ?_⟩
  have hquotedSize := encodedSize_quoted hquote env acc (Vector.replicate 32 0) .xcm
  have hheldSize := encodedSize_subscribed hcreate env' who newId
  have htarget := length_sibling_le client
  have hmetadata := length_metadata_le metadata
  rw [hheld, Nat.add_left_cancel_iff, eq_comm, hdeposit]
  show calculateStorageDeposit T (newSubscription env acc (Vector.replicate 32 0)
    { q.quoteRequest.createSubParams with originKind := .xcm }) = _ ↔ _
  rw [calculateStorageDeposit_eq_iff_of_le (by omega), hquotedSize, hheldSize, Clamped]
  have hlonger : ¬ 147 + (encode client.selfParaSiblingLocation).length +
      (encode metadata).length = 148 + (encode client.selfParaSiblingLocation).length +
        (encode metadata).length := by omega
  have hfits : ¬ 2 ^ 64 - 1 ≤ 147 + (encode client.selfParaSiblingLocation).length +
      (encode metadata).length := by omega
  simp only [hlonger, hfits, false_or]

section Sample

open IdealNetwork.Runtime

/-- The contract asks what two pulses will cost it. -/
def askPrice : QuoteSubParamsOf where
  quoteRequest :=
    { reqRef := Vector.replicate 32 3
      createSubParams :=
        { credits := 0
          target := .sibling 4594
          call := ⟨sampleClient.frame sampleHost defCallParams 4 ++
            sampleHost.consumeQuoteSel.toList, by decide⟩
          originKind := .native
          frequency := 1
          metadata := none
          subId := some sampleId }
      lifetimePulses := 2 }
  call := ⟨sampleClient.frame sampleHost defCallParams 68 ++ sampleHost.consumeQuoteSel.toList,
    by decide⟩
  originKind := .native

theorem askPrice_asked :
    sampleClient.requestQuote sampleHost sampleContext 2 1 none (some sampleId)
        (some (Vector.replicate 32 3)) none [] =
      (.ok (), [sampleClient.message sampleHost (.quoteSubscription askPrice)]) := rfl

def priceQuoted : State standalone :=
  (dispatch standalone (online 1) contractOrigin (.quoteSubscription askPrice) funded).2

theorem quoted_deposit_buyThree :
    ∃ requester quote who, priceQuoted.events = funded.events ++ [.subQuoted requester quote] ∧
      ensureSignedOrValidXcmOrigin standalone contractOrigin = .ok who ∧
      onHold threeStored .storageDeposit who ≠
        onHold funded .storageDeposit who + quote.deposit := by
  have hquoted : dispatch standalone (online 1) contractOrigin (.quoteSubscription askPrice)
      funded = (.ok (), priceQuoted) := Prod.ext (by decide +kernel) (by rw [priceQuoted])
  have hcreated : dispatch standalone (online 1) contractOrigin (.createSubscription buyThree)
      funded = (.ok (), threeStored) := Prod.ext (by decide +kernel) (by rw [threeStored])
  obtain ⟨requester, quote, who, hevents, hwho, hiff⟩ := quoted_deposit_iff (Holds.plain_lawful _)
    askPrice_asked buyThree_asked hquoted hcreated
  exact ⟨requester, quote, who, hevents, hwho, fun heq => absurd (hiff.mp heq) (by decide +kernel)⟩

/-- The contract is quoted a deposit of 15300, and 15400 are held. -/
theorem quoted_deposit_short :
    sampleClient.requestQuote sampleHost sampleContext 2 1 none (some sampleId)
        (some (Vector.replicate 32 3)) none [] =
          (.ok (), [sampleClient.message sampleHost (.quoteSubscription askPrice)]) ∧
      sampleClient.createSubscription sampleHost sampleContext 3 1 none (some sampleId) none none
          [] = (.ok sampleId, [sampleClient.message sampleHost (.createSubscription buyThree)]) ∧
      priceQuoted.events.map (fun
        | .subQuoted _ quote => some quote.deposit
        | _ => none) = [some 15300] ∧
      onHold funded .storageDeposit sampleHost.accountId = 0 ∧
      onHold threeStored .storageDeposit sampleHost.accountId = 15400 :=
  ⟨askPrice_asked, buyThree_asked, by decide +kernel, by decide +kernel, by decide +kernel⟩

end Sample

end IdealNetwork.Contracts
