import IdealNetwork.Consumer.Wire
import IdealNetwork.Manager.Isolation
import IdealNetwork.Manager.Pricing

/-!
# What a chain asks the network for

A request of the consumer pallet is a message; what becomes of it is settled
on the network, where the runtime reads the call it carries. This module
follows two requests across.

A quote and the subscription it is asked for are priced from different
records: the quote's has no credits, another origin kind and an id of zeros.
None of that shows in the encoded size, so what is quoted is what is taken
(`quote_exact`).

A subscription whose id is left to the pallet is named by the digest of its
parameters and the block, and of nothing else. The account that asks for it is
not in it, so two users who ask for the same in one block are given one id,
and the network turns the second away (`generated_ids_iff`).

How the network sees the account that sent a message is up to the XCM executor:
origins on the network are not related to origins on the chain here.
-/

set_option autoImplicit false

namespace IdealNetwork.Consumer

open Scale Storage Action
open Manager (calculateCredits onHold ensureSignedOrValidXcmOrigin)

variable {D : Type} {C : Config D} {env env' : Env} {origin : Origin} {c c' d d' : State D}

/-! ## The messages -/

/-- The call that a message carries. -/
def transacted (message : Message) : Bytes :=
  message.program.flatMap fun
    | .transact _ _ call => call
    | _ => []

/-- The message that takes a call to the network, when its sender has a
location to refund. -/
def xcmMessage (C : Config D) (origin : Origin) (call : Bridge.Call) : Option Message :=
  (C.localOriginToLocation origin).map fun beneficiary =>
    ⟨origin, C.siblingIdnLocation, xcmProgram C call beneficiary⟩

theorem transacted_xcmMessage {call : Bridge.Call} {message : Message}
    (h : xcmMessage C origin call = some message) : transacted message = encode call := by
  obtain ⟨beneficiary, _, rfl⟩ := Option.map_eq_some_iff.mp h
  exact List.append_nil _

theorem xcmSend_bind_ok {α : Type} {call : Bridge.Call} {f : Unit → Action Error (State D) α}
    {a : α} :
    (xcmSend C env origin call >>= f) c = (.ok a, c') ↔
      ∃ message, xcmMessage C origin call = some message ∧ env.send message = true ∧
        f () { c with sent := c.sent ++ [message] } = (.ok a, c') := by
  unfold xcmSend xcmMessage
  simp only [bind_ok, okOr_ok, ensure_ok, modify_ok, Option.map_eq_some_iff]
  constructor
  · rintro ⟨_, _, ⟨beneficiary, _, ⟨hb, rfl⟩, _, _, ⟨htaken, rfl⟩, rfl⟩, hf⟩
    exact ⟨_, ⟨beneficiary, hb, rfl⟩, htaken, hf⟩
  · rintro ⟨_, ⟨beneficiary, hb, rfl⟩, htaken, hf⟩
    exact ⟨(), _, ⟨beneficiary, _, ⟨hb, rfl⟩, (), _, ⟨htaken, rfl⟩, rfl⟩, hf⟩

/-- What a user asks for who leaves the id to the pallet. -/
structure Request where
  credits : Credits
  frequency : BlockNumber
  metadata : Option Metadata
  originKind : Option OriginKind
deriving DecidableEq

/-- The parameters of the subscription, with the callback for its pulses. -/
def Request.params (request : Request) (C : Config D) (call : CallData)
    (subId : Option SubscriptionId) : CreateSubParamsOf where
  credits := request.credits
  target := selfParaSiblingLocation C
  call := call
  originKind := request.originKind.getD .xcm
  frequency := request.frequency
  metadata := request.metadata
  subId := subId

/-- A creation sends its parameters, with the id it returns. -/
theorem doCreateSubscription_sends {credits : Credits} {frequency : BlockNumber}
    {metadata : Option Metadata} {subId : Option SubscriptionId} {originKind : Option OriginKind}
    {id : SubscriptionId}
    (h : doCreateSubscription C env origin credits frequency metadata subId originKind c =
      (.ok id, c')) :
    let request : Request := ⟨credits, frequency, metadata, originKind⟩
    ∃ call message, pulseCallbackCallData C = .ok call ∧
      subId.getD (C.hash (request.params C call subId) (encode env.blockNumber)) = id ∧
      c'.sent = c.sent ++ [message] ∧
      transacted message = encode (Bridge.Call.idnManager
        (.createSubscription (request.params C call (some id)))) := by
  unfold doCreateSubscription at h
  simp only [ofExcept_bind_ok, xcmSend_bind_ok, pure_ok] at h
  obtain ⟨call, hcall, message, hmade, _, rfl, rfl⟩ := h
  exact ⟨call, message, hcall, rfl, rfl, transacted_xcmMessage hmade⟩

/-- A request for a quote sends the parameters it is to be made for. -/
theorem doRequestQuote_sends {numberOfPulses frequency : BlockNumber} {metadata : Option Metadata}
    {subId : Option SubscriptionId} {reqRef : Option RequestReference}
    {originKind : Option OriginKind} {ref : RequestReference}
    (h : doRequestQuote C env origin numberOfPulses frequency metadata subId reqRef originKind c =
      (.ok ref, c')) :
    ∃ call answer message, pulseCallbackCallData C = .ok call ∧
      quoteCallbackCallData C = .ok answer ∧ c'.sent = c.sent ++ [message] ∧
      transacted message = encode (Bridge.Call.idnManager (.quoteSubscription
        { quoteRequest :=
            { reqRef := ref
              createSubParams := Request.params ⟨0, frequency, metadata, some .xcm⟩ C call subId
              lifetimePulses := numberOfPulses }
          call := answer
          originKind := originKind.getD .xcm })) := by
  unfold doRequestQuote at h
  simp only [ofExcept_bind_ok, xcmSend_bind_ok, pure_ok] at h
  obtain ⟨call, hcall, answer, hanswer, message, hmade, _, rfl, rfl⟩ := h
  exact ⟨call, answer, message, hcall, hanswer, rfl, transacted_xcmMessage hmade⟩

/-! ## Quotes -/

/-- QUOTES ARE EXACT. A chain asks for a quote and, at whatever block, for a
subscription with the same frequency and metadata and the credits of the
quoted lifetime. If the network answers the one and makes the other for the
same origin, then it puts on hold what it quoted, fees and deposit. -/
theorem quote_exact [Decode Junction] {T : Manager.Config} (law : T.currency.Lawful)
    (hself : (selfParaSiblingLocation C).Known) {lifetime frequency : BlockNumber}
    {metadata : Option Metadata} {subId subId' : Option SubscriptionId}
    {reqRef : Option RequestReference} {originKind originKind' : Option OriginKind}
    {ref : RequestReference} {id : SubscriptionId}
    (hquote : doRequestQuote C env origin lifetime frequency metadata subId reqRef originKind c =
      (.ok ref, c'))
    (hcreate : doCreateSubscription C env' origin (calculateCredits frequency lifetime) frequency
      metadata subId' originKind' d = (.ok id, d')) :
    ∃ ask buy, c'.sent = c.sent ++ [ask] ∧ d'.sent = d.sent ++ [buy] ∧
      ∀ (at₁ at₂ : Manager.Env) (requester : Origin) (s s' t t' : Manager.State T),
        Bridge.transact T at₁ requester (transacted ask) s = (.ok (), s') →
        Bridge.transact T at₂ requester (transacted buy) t = (.ok (), t') →
        ∃ location quote who, s'.events = s.events ++ [.subQuoted location quote] ∧
          ensureSignedOrValidXcmOrigin T requester = .ok who ∧
          onHold t' .fees who = onHold t .fees who + quote.fees ∧
          onHold t' .storageDeposit who = onHold t .storageDeposit who + quote.deposit := by
  obtain ⟨call, answer, ask, hcall, _, hask, hasked⟩ := doRequestQuote_sends hquote
  obtain ⟨call', buy, hcall', _, hbuy, hbought⟩ := doCreateSubscription_sends hcreate
  cases hcall.symm.trans hcall'
  refine ⟨ask, buy, hask, hbuy, ?_⟩
  intro at₁ at₂ requester s s' t t' hquoted hcreated
  rw [Bridge.transact_call hasked hself] at hquoted
  rw [Bridge.transact_call hbought hself] at hcreated
  obtain ⟨location, target, acc, quote, hrequester, hevents, hquoteFees, hquoteDeposit⟩ :=
    Manager.quoteSubscription_quotes hquoted
  obtain ⟨who, newId, hwho, hfees, hdeposit⟩ := Manager.createSubscription_holds law hcreated
  cases hwho.symm.trans (Manager.ensureRequester_ok hrequester)
  refine ⟨location, quote, acc, hevents, hwho, ?_, ?_⟩
  · rw [hfees, hquoteFees]
    rfl
  · rw [hdeposit, hquoteDeposit, Nat.add_left_cancel_iff]
    refine Manager.calculateStorageDeposit_eq_iff.mpr (Or.inr (Or.inl ?_))
    rw [Manager.encodedSize_newSubscription, Manager.encodedSize_newSubscription]
    rfl

section SampleQuote

open IdealNetwork.Runtime

local instance : Decode Junction := siblingCodec

/-- A chain on which nothing has happened, and where every message is taken. -/
def quiet : State Unit := ⟨[], [], ()⟩

def block (number : BlockNumber) : Env := ⟨number, fun _ => true⟩

/-- A user of the chain, as the network sees them. -/
def userOrigin (who : AccountId32) : Origin :=
  .xcm ⟨1, ⟨[.parachain 4594, .accountId32 none who], by simp⟩⟩

/-- Alice asks what two pulses will cost. -/
def asked : Except Error RequestReference × State Unit :=
  doRequestQuote sampleChain (block 1) (.signed alice) 2 1 none none none none quiet

/-- They buy them, two blocks later. -/
def ordered : Except Error SubscriptionId × State Unit :=
  doCreateSubscription sampleChain (block 3) (.signed alice) (calculateCredits 1 2) 1 none
    (some sampleId) none quiet

/-- The network reads the only message of a chain. -/
def receive (origin : Origin) (chain : State Unit) (s : Manager.State standalone) :
    Except Manager.Err Unit × Manager.State standalone :=
  Bridge.transact standalone (online 1) origin (chain.sent.flatMap transacted) s

def quoted : Manager.State standalone := (receive (userOrigin alice) asked.2 funded).2

def sold : Manager.State standalone := (receive (userOrigin alice) ordered.2 funded).2

theorem quote_exact_sampleChain :
    ∃ location quote, quoted.events = funded.events ++ [.subQuoted location quote] ∧
      onHold sold .fees alice = onHold funded .fees alice + quote.fees ∧
      onHold sold .storageDeposit alice = onHold funded .storageDeposit alice + quote.deposit := by
  have hself : (selfParaSiblingLocation sampleChain).Known := known_sibling 4594
  have hasked : asked = (.ok (Vector.replicate 32 0), asked.2) := Prod.ext (by decide +kernel) rfl
  have hordered : ordered = (.ok sampleId, ordered.2) := Prod.ext (by decide +kernel) rfl
  obtain ⟨ask, buy, hask, hbuy, hexact⟩ := quote_exact (T := standalone) (Holds.plain_lawful _)
    hself hasked hordered
  have hquoted : receive (userOrigin alice) asked.2 funded = (.ok (), quoted) :=
    Prod.ext (by decide +kernel) (by rw [quoted])
  have hsold : receive (userOrigin alice) ordered.2 funded = (.ok (), sold) :=
    Prod.ext (by decide +kernel) (by rw [sold])
  rw [receive, hask] at hquoted
  rw [receive, hbuy] at hsold
  have hone : ∀ message, (quiet.sent ++ [message]).flatMap transacted = transacted message :=
    fun _ => List.append_nil _
  rw [hone] at hquoted hsold
  obtain ⟨location, quote, who, hevents, hwho, hfees, hdeposit⟩ :=
    hexact _ _ _ _ _ _ _ hquoted hsold
  cases hwho
  exact ⟨location, quote, hevents, hfees, hdeposit⟩

end SampleQuote

/-! ## Identifiers -/

/-- What the id of a request is the digest of, for a callback. -/
def Request.preimage (request : Request) (C : Config D) (env : Env) (call : CallData) : Bytes :=
  encode (request.params C call none, (encode env.blockNumber : Bytes))

/-- A request as it is sent: with the default origin kind, if it names none. -/
def Request.sent (request : Request) : Credits × BlockNumber × Option Metadata × OriginKind :=
  (request.credits, request.frequency, request.metadata, request.originKind.getD .xcm)

theorem Request.params_eq_iff {request request' : Request} {call : CallData}
    {subId : Option SubscriptionId} :
    request.params C call subId = request'.params C call subId ↔ request.sent = request'.sent := by
  simp only [Request.params, Request.sent, CreateSubParams.mk.injEq, Prod.mk.injEq, true_and,
    and_true]
  exact ⟨fun ⟨hcredits, hkind, hfrequency, hmetadata⟩ => ⟨hcredits, hfrequency, hmetadata, hkind⟩,
    fun ⟨hcredits, hfrequency, hmetadata, hkind⟩ => ⟨hcredits, hkind, hfrequency, hmetadata⟩⟩

theorem Request.eq_of_sent {request request' : Request} (hsent : request.sent = request'.sent)
    (hkind : request.originKind = request'.originKind) : request = request' := by
  cases request
  cases request'
  simp only [Request.sent, Prod.mk.injEq] at hsent
  obtain ⟨rfl, rfl, rfl, _⟩ := hsent
  cases hkind
  rfl

/-- The encoding of what is hashed tells requests apart, and blocks. -/
theorem Request.preimage_eq_iff (C : Config D) (call : CallData) {request request' : Request} :
    request.preimage C env call = request'.preimage C env' call ↔
      env.blockNumber = env'.blockNumber ∧ request.sent = request'.sent := by
  let _ := siblingCodec
  have hparams : ∀ r : Request, ReadBack (r.params C call none) := fun _ =>
    CreateSubParams.readBack (known_sibling C.paraId)
  have hsalt : ∀ block : BlockNumber, ReadBack (encode block : Bytes) := fun block =>
    readBack_bytes (show (littleEndian 4 block.toNat).length < _ by
      rw [length_littleEndian]
      decide)
  constructor
  · intro heq
    obtain ⟨hsame, hrest⟩ := (hparams request).inj (hparams request') heq
    obtain ⟨hblock, _⟩ := (hsalt env.blockNumber).inj (hsalt env'.blockNumber)
      (congrArg (· ++ []) hrest)
    exact ⟨((readBack _).inj (readBack _) (congrArg (· ++ []) hblock)).1,
      Request.params_eq_iff.mp hsame⟩
  · rintro ⟨hblock, hsent⟩
    rw [Request.preimage, Request.preimage, Request.params_eq_iff.mpr hsent, hblock]

/-- IDS CLASH BETWEEN USERS. Two accounts of a chain each ask for a subscription
and leave the id to the pallet; the digest does not collide on what is hashed
for them. Then ids tell apart accounts, blocks and requests, and the one
creation cannot have the network turn the other away, exactly if it is not the
case that both were made in one block and are the same as sent, but not the
same: they come from two accounts, or one names the default origin kind and
the other does not. -/
theorem generated_ids_iff [Decode Junction] (hself : (selfParaSiblingLocation C).Known)
    {call : CallData} (hcall : pulseCallbackCallData C = .ok call) {a b : AccountId32}
    {request request' : Request} {id id' : SubscriptionId}
    (hdigest : C.blake2 (request.preimage C env call) = C.blake2 (request'.preimage C env' call) →
      request.preimage C env call = request'.preimage C env' call)
    (hfirst : doCreateSubscription C env (.signed a) request.credits request.frequency
      request.metadata none request.originKind c = (.ok id, c'))
    (hsecond : doCreateSubscription C env' (.signed b) request'.credits request'.frequency
      request'.metadata none request'.originKind d = (.ok id', d')) :
    ∃ buy buy', c'.sent = c.sent ++ [buy] ∧ d'.sent = d.sent ++ [buy'] ∧
      (((id = id' → a = b ∧ env.blockNumber = env'.blockNumber ∧ request = request') ∧
        (a ≠ b → ∀ (T : Manager.Config) (at₁ at₂ : Manager.Env) (o₁ o₂ : Origin)
          (s t u : Manager.State T),
          (∀ reason who amount L, T.currency.hold reason who amount L ≠
            .error (.module .subscriptionAlreadyExists)) →
          Bridge.transact T at₁ o₁ (transacted buy) s = (.ok (), t) →
          Bridge.transact T at₂ o₂ (transacted buy') t =
            (.error (.module .subscriptionAlreadyExists), u) → id' ∈ s.subscriptions)) ↔
        ¬ (env.blockNumber = env'.blockNumber ∧ request.sent = request'.sent ∧
          (a ≠ b ∨ request.originKind ≠ request'.originKind))) := by
  obtain ⟨_, buy, hcall₁, hid, hbuy, hbytes⟩ := doCreateSubscription_sends hfirst
  obtain ⟨_, buy', hcall₂, hid', hbuy', hbytes'⟩ := doCreateSubscription_sends hsecond
  cases hcall.symm.trans hcall₁
  cases hcall.symm.trans hcall₂
  have hsame : id = id' ↔
      env.blockNumber = env'.blockNumber ∧ request.sent = request'.sent := by
    rw [← Request.preimage_eq_iff C call, ← hid, ← hid']
    exact ⟨hdigest, congrArg C.blake2⟩
  refine ⟨buy, buy', hbuy, hbuy', ?_⟩
  constructor
  · rintro ⟨hids, _⟩ ⟨hblock, hsent, hdiffer⟩
    obtain ⟨haccount, _, hrequest⟩ := hids (hsame.mpr ⟨hblock, hsent⟩)
    rcases hdiffer with hne | hne
    · exact hne haccount
    · exact hne (congrArg Request.originKind hrequest)
  · intro hcond
    refine ⟨fun heq => ?_, fun hab T at₁ at₂ o₁ o₂ s t u hown hcreated hrefused => ?_⟩
    · obtain ⟨hblock, hsent⟩ := hsame.mp heq
      have hagree : ¬ (a ≠ b ∨ request.originKind ≠ request'.originKind) := fun hdiffer =>
        hcond ⟨hblock, hsent, hdiffer⟩
      rw [not_or, not_not, not_not] at hagree
      exact ⟨hagree.1, hblock, Request.eq_of_sent hsent hagree.2⟩
    · have hne : id' ≠ id := fun heq =>
        hcond ⟨(hsame.mp heq.symm).1, (hsame.mp heq.symm).2, Or.inl hab⟩
      rw [Bridge.transact_call hbytes hself] at hcreated
      rw [Bridge.transact_call hbytes' hself] at hrefused
      obtain ⟨_, _, htaken⟩ := Manager.createSubscription_exists hown hrefused
      change id' ∈ t.subscriptions at htaken
      cases Manager.dispatch_ok hcreated with
      | created caller bought room fresh fees deposit =>
        exact (Finmap.mem_insert.mp htaken).resolve_left hne

section SampleIds

open IdealNetwork.Runtime
open Manager (bob)

local instance : Decode Junction := siblingCodec

/-- A chain whose digest keeps the end of what it is given. -/
def digestChain : Config Unit :=
  runtime 4594 fun bytes => Vector.ofFn fun i => bytes.reverse.getD i 0

/-- Three credits, for every pulse. -/
def threeCredits : Request := ⟨3, 1, none, none⟩

/-- An account asks for three credits at a block. -/
def requested (who : AccountId32) (number : BlockNumber) :
    Except Error SubscriptionId × State Unit :=
  doCreateSubscription digestChain (block number) (.signed who) threeCredits.credits
    threeCredits.frequency threeCredits.metadata none threeCredits.originKind quiet

/-- The id of a request for three credits at a block. -/
def requestedId (number : BlockNumber) : SubscriptionId :=
  digestChain.blake2 (threeCredits.preimage digestChain (block number) sampleCallback)

theorem requested_ok (who : AccountId32) (number : BlockNumber) :
    requested who number = (.ok (requestedId number), (requested who number).2) := rfl

/-- At two blocks, Alice and Bob are given two ids. -/
theorem generated_ids_later : requestedId 1 ≠ requestedId 2 := by
  have hself : (selfParaSiblingLocation digestChain).Known := known_sibling 4594
  have hcall : pulseCallbackCallData digestChain = .ok sampleCallback := rfl
  obtain ⟨_, _, _, _, hiff⟩ := generated_ids_iff hself hcall
    (fun heq => absurd heq (by decide +kernel)) (requested_ok alice 1) (requested_ok bob 2)
  have hapart := (hiff.mpr fun hboth => absurd hboth.1 (by decide)).1
  exact fun heq => absurd (hapart heq).1 (by decide)

/-- Alice's request, received by the network. -/
def aliceServed : Except Manager.Err Unit × Manager.State standalone :=
  receive (userOrigin alice) (requested alice 1).2 funded

/-- Alice and Bob ask for the same at one block. Both are given the same id,
and the network serves Alice and turns Bob away. -/
theorem generated_ids_clash :
    alice ≠ bob ∧ (requested alice 1).1 = (requested bob 1).1 ∧ aliceServed.1 = .ok () ∧
      (receive (userOrigin bob) (requested bob 1).2 aliceServed.2).1 =
        .error (.module .subscriptionAlreadyExists) ∧
      (receive (userOrigin bob) (requested bob 1).2 funded).1 = .ok () :=
  ⟨by decide, rfl, by decide +kernel, by decide +kernel, by decide +kernel⟩

end SampleIds

end IdealNetwork.Consumer
