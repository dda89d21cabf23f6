import IdealNetwork.Consumer.Requests
import IdealNetwork.Xcm

/-!
# Calls at a distance

A user of a consumer chain manages a subscription without an account on the
network: the pallet writes a manager call, a message carries it across, and the
network's runtime reads it. When the call is made from where the user is, the
manager resolves the origin to an account, and this is the manager call itself,
made by the account of the same bytes (`remote_call`).

Which parachain the user is on plays no part in who they are: the network takes
an account on any sibling for its own account of the same bytes.

Whether the executor comes to the call, past the fees in front of it, is not
said here, nor which origin it gives the call.
-/

set_option autoImplicit false

namespace IdealNetwork.Consumer

open Scale Storage Action Xcm
open Manager (ensureSignedOrValidXcmOrigin)

variable {D : Type} {C : Config D} {env : Env} {origin : Origin} {who : AccountId32}
variable {c c' : State D}

/-! ## What a user's call asks for -/

/-- The manager call that a user's call asks for. The calls that the network
makes ask for none. -/
def Call.request (C : Config D) (env : Env) : Call → Except Error (Option Bridge.IdnManagerCall)
  | .consumePulse _ _ => .ok none
  | .consumeQuote _ => .ok none
  | .consumeSubInfo _ => .ok none
  | .createSubscription credits frequency metadata subId originKind => do
    let request : Request := ⟨credits, frequency, metadata, originKind⟩
    let call ← pulseCallbackCallData C
    let id := subId.getD (C.hash (request.params C call subId) (encode env.blockNumber))
    .ok (some (.createSubscription (request.params C call (some id))))
  | .pauseSubscription subId => .ok (some (.pauseSubscription subId))
  | .killSubscription subId => .ok (some (.killSubscription subId))
  | .updateSubscription subId credits frequency metadata =>
    .ok (some (.updateSubscription ⟨subId, credits, frequency, metadata⟩))
  | .reactivateSubscription subId => .ok (some (.reactivateSubscription subId))
  | .requestQuote numberOfPulses frequency metadata subId reqRef originKind => do
    let call ← pulseCallbackCallData C
    let params := Request.params ⟨0, frequency, metadata, some .xcm⟩ C call subId
    let reqRef := reqRef.getD (C.hash params (encode env.blockNumber))
    let answer ← quoteCallbackCallData C
    .ok (some (.quoteSubscription ⟨⟨reqRef, params, numberOfPulses⟩, answer, originKind.getD .xcm⟩))
  | .requestSubInfo subId reqRef originKind => do
    let reqRef := reqRef.getD (C.hash subId (encode env.blockNumber))
    let answer ← subInfoCallbackCallData C
    .ok (some (.getSubscriptionInfo ⟨reqRef, subId, answer, originKind.getD .xcm⟩))

theorem xcmSend_ok {call : Bridge.Call} {u : Unit} :
    xcmSend C env origin call c = (.ok u, c') ↔
      ∃ message, xcmMessage C origin call = some message ∧ env.send message = true ∧
        { c with sent := c.sent ++ [message] } = c' := by
  have hpure : xcmSend C env origin call = xcmSend C env origin call >>= pure :=
    (bind_pure _).symm
  rw [hpure, xcmSend_bind_ok]
  simp only [pure_ok, true_and]

theorem userCall_ok {α : Type} {body : Action Error (State D) α} {u : Unit} :
    userCall origin body c = (.ok u, c') ↔
      (∃ who, origin = .signed who) ∧ ∃ a, body c = (.ok a, c') := by
  have hsigned : ∀ who, ensureSigned origin = .ok who ↔ origin = .signed who := by
    intro who
    cases origin with
    | signed w =>
      exact ⟨fun h => congrArg Origin.signed (Except.ok.inj h), fun h => by cases h; rfl⟩
    | _ => exact ⟨nofun, nofun⟩
  unfold userCall
  simp only [ofExcept_bind_ok, hsigned]
  simp only [bind_ok, mapError_ok, pure_ok]
  constructor
  · rintro ⟨who, hwho, a, v, hbody, _, rfl⟩
    exact ⟨⟨who, hwho⟩, a, hbody⟩
  · rintro ⟨⟨who, hwho⟩, a, hbody⟩
    exact ⟨who, hwho, a, c', hbody, trivial, rfl⟩

/-- A user's call that only passes a manager call on. -/
theorem userSend_ok {call : Bridge.Call} {u : Unit}
    (h : userCall origin (xcmSend C env origin call) c = (.ok u, c')) :
    ∃ who message, origin = .signed who ∧ xcmMessage C origin call = some message ∧
      env.send message = true ∧ { c with sent := c.sent ++ [message] } = c' := by
  obtain ⟨⟨who, hwho⟩, _, hbody⟩ := userCall_ok.mp h
  obtain ⟨message, hmade, htaken, hstate⟩ := xcmSend_ok.mp hbody
  exact ⟨who, message, hwho, hmade, htaken, hstate⟩

/-- Something is handed to a consumer by the network, and the consumer takes it. -/
theorem handOver_ok {consumer : Action Unit D Unit} {e : Error} {event : Event} {u : Unit} :
    (do ensureIdnOrigin C origin; consume consumer e; depositEvent event :
      Action Err (State D) Unit) c = (.ok u, c') ↔
      (C.idnOriginFilter origin).isSome = true ∧ ∃ d, consumer c.consumer = (.ok (), d) ∧
        { c with consumer := d, events := c.events ++ [event] } = c' := by
  have hconsume : ∀ x v, consume consumer e c = (.ok x, v) ↔
      ∃ d, consumer c.consumer = (.ok (), d) ∧ { c with consumer := d } = v := by
    intro x v
    unfold consume
    split
    next d hd => simp only [hd, Prod.mk.injEq, true_and, exists_eq_left']
    next d hd => simp only [hd, Prod.mk.injEq, reduceCtorEq, false_and, exists_false]
  unfold ensureIdnOrigin depositEvent
  simp only [ensure_bind_ok]
  simp only [bind_ok, hconsume, modify_ok]
  constructor
  · rintro ⟨hfilter, _, _, ⟨d, hd, rfl⟩, rfl⟩
    exact ⟨hfilter, d, hd, rfl⟩
  · rintro ⟨hfilter, d, hd, rfl⟩
    exact ⟨hfilter, (), _, ⟨d, hd, rfl⟩, rfl⟩

/-- A call that succeeds either hands something over for the network or sends
one message for a user, with the manager call it asks for. -/
theorem dispatch_ok {call : Call} {u : Unit} (h : dispatch C env origin call c = (.ok u, c')) :
    (call.request C env = .ok none ∧ (C.idnOriginFilter origin).isSome = true ∧
        c'.sent = c.sent) ∨
      ∃ who request message, origin = .signed who ∧ call.request C env = .ok (some request) ∧
        xcmMessage C origin (.idnManager request) = some message ∧ env.send message = true ∧
        { c with sent := c.sent ++ [message] } = c' := by
  have hcall := transactional_ok.mp h
  cases call with
  | consumePulse pulse subId =>
    obtain ⟨hfilter, d, _, rfl⟩ := handOver_ok.mp hcall
    exact Or.inl ⟨rfl, hfilter, rfl⟩
  | consumeQuote quote =>
    obtain ⟨hfilter, d, _, rfl⟩ := handOver_ok.mp hcall
    exact Or.inl ⟨rfl, hfilter, rfl⟩
  | consumeSubInfo subInfo =>
    obtain ⟨hfilter, d, _, rfl⟩ := handOver_ok.mp hcall
    exact Or.inl ⟨rfl, hfilter, rfl⟩
  | createSubscription credits frequency metadata subId originKind =>
    obtain ⟨⟨who, rfl⟩, id, hbody⟩ := userCall_ok.mp hcall
    unfold doCreateSubscription at hbody
    simp only [ofExcept_bind_ok, xcmSend_bind_ok, pure_ok] at hbody
    obtain ⟨answer, hanswer, message, hmade, htaken, _, hstate⟩ := hbody
    refine Or.inr ⟨who, _, message, rfl, ?_, hmade, htaken, hstate⟩
    unfold Call.request
    rw [hanswer]
    rfl
  | pauseSubscription subId =>
    obtain ⟨who, message, hwho, hmade, htaken, hstate⟩ := userSend_ok hcall
    exact Or.inr ⟨who, _, message, hwho, rfl, hmade, htaken, hstate⟩
  | killSubscription subId =>
    obtain ⟨who, message, hwho, hmade, htaken, hstate⟩ := userSend_ok hcall
    exact Or.inr ⟨who, _, message, hwho, rfl, hmade, htaken, hstate⟩
  | updateSubscription subId credits frequency metadata =>
    obtain ⟨who, message, hwho, hmade, htaken, hstate⟩ := userSend_ok hcall
    exact Or.inr ⟨who, _, message, hwho, rfl, hmade, htaken, hstate⟩
  | reactivateSubscription subId =>
    obtain ⟨who, message, hwho, hmade, htaken, hstate⟩ := userSend_ok hcall
    exact Or.inr ⟨who, _, message, hwho, rfl, hmade, htaken, hstate⟩
  | requestQuote numberOfPulses frequency metadata subId reqRef originKind =>
    obtain ⟨⟨who, rfl⟩, ref, hbody⟩ := userCall_ok.mp hcall
    unfold doRequestQuote at hbody
    simp only [ofExcept_bind_ok, xcmSend_bind_ok, pure_ok] at hbody
    obtain ⟨call, hcall', answer, hanswer, message, hmade, htaken, _, hstate⟩ := hbody
    refine Or.inr ⟨who, _, message, rfl, ?_, hmade, htaken, hstate⟩
    unfold Call.request
    rw [hcall', hanswer]
    rfl
  | requestSubInfo subId reqRef originKind =>
    obtain ⟨⟨who, rfl⟩, ref, hbody⟩ := userCall_ok.mp hcall
    unfold doRequestSubInfo at hbody
    simp only [ofExcept_bind_ok, xcmSend_bind_ok, pure_ok] at hbody
    obtain ⟨answer, hanswer, message, hmade, htaken, _, hstate⟩ := hbody
    refine Or.inr ⟨who, _, message, rfl, ?_, hmade, htaken, hstate⟩
    unfold Call.request
    rw [hanswer]
    rfl

/-! ## Across -/

/-- The parts of a message of the pallet. -/
theorem xcmMessage_ok {call : Bridge.Call} {message : Message}
    (h : xcmMessage C origin call = some message) :
    message.origin = origin ∧ transacts message.program = [(.xcm, encode call)] := by
  obtain ⟨beneficiary, _, rfl⟩ := Option.map_eq_some_iff.mp h
  exact ⟨rfl, rfl⟩

section

variable [Decode Junction]

/-- A request of the pallet names no location but the chain's own. -/
theorem Call.request_known (hself : (selfParaSiblingLocation C).Known) {call : Call}
    {request : Bridge.IdnManagerCall} (h : call.request C env = .ok (some request)) :
    request.Known := by
  cases call with
  | createSubscription credits frequency metadata subId originKind =>
    obtain ⟨_, _, heq⟩ := except_bind_ok.mp h
    cases heq
    exact hself
  | requestQuote numberOfPulses frequency metadata subId reqRef originKind =>
    obtain ⟨_, _, h⟩ := except_bind_ok.mp h
    obtain ⟨_, _, heq⟩ := except_bind_ok.mp h
    cases heq
    exact hself
  | requestSubInfo subId reqRef originKind =>
    obtain ⟨_, _, heq⟩ := except_bind_ok.mp h
    cases heq
    trivial
  | _ =>
    cases h
    try trivial

end

/-- The call is about a subscription of the caller, and not a request for an
answer. -/
def Manages : Bridge.IdnManagerCall → Prop
  | .quoteSubscription _ => False
  | .getSubscriptionInfo _ => False
  | _ => True

/-- Two origins that resolve to one account can do the same to subscriptions. -/
theorem dispatch_congr {M : Manager.Config} {now : Manager.Env} {o₁ o₂ : Origin}
    {request : Bridge.IdnManagerCall} (hmanages : Manages request)
    (h : ensureSignedOrValidXcmOrigin M o₁ = ensureSignedOrValidXcmOrigin M o₂) :
    Manager.dispatch M now o₁ request.toManager = Manager.dispatch M now o₂ request.toManager := by
  cases request with
  | createSubscription params =>
    show transactional (Manager.createSubscription M now o₁ params) = transactional _
    unfold Manager.createSubscription
    rw [h]
    rfl
  | pauseSubscription subId =>
    show transactional (Manager.pauseSubscription M o₁ subId) = transactional _
    unfold Manager.pauseSubscription
    rw [h]
    rfl
  | killSubscription subId =>
    show transactional (Manager.killSubscription M o₁ subId) = transactional _
    unfold Manager.killSubscription
    rw [h]
    rfl
  | updateSubscription params =>
    show transactional (Manager.updateSubscription M now o₁ params) = transactional _
    unfold Manager.updateSubscription
    rw [h]
    rfl
  | reactivateSubscription subId =>
    show transactional (Manager.reactivateSubscription M o₁ subId) = transactional _
    unfold Manager.reactivateSubscription
    rw [h]
    rfl
  | quoteSubscription params => exact hmanages.elim
  | getSubscriptionInfo req => exact hmanages.elim

/-- A REMOTE CALL IS A LOCAL CALL. A user's call that succeeds on a consumer
chain sends one message, in the user's name, and changes nothing else. The bytes
of its only `Transact`, whose kind is `Xcm`, are read by the network's runtime as
the manager call of the same name with the same arguments; and if the call is
about a subscription, then made from where the user is, on whichever sibling, it
is what the account of the same bytes would have done on the network itself, to
the result and to the state. -/
theorem remote_call [Decode Junction] (hself : (selfParaSiblingLocation C).Known) {call : Call}
    (hasks : call.request C env ≠ .ok none)
    (h : dispatch C env (.signed who) call c = (.ok (), c')) :
    ∃ request message bytes, call.request C env = .ok (some request) ∧
      c' = { c with sent := c.sent ++ [message] } ∧ message.origin = .signed who ∧
      transacts message.program = [(.xcm, bytes)] ∧
      (decodeAll bytes : Option Bridge.RuntimeCall) = some (.idnManager request.toManager) ∧
      (Manages request → ∀ currency hasher blake2 convertLocation (now : Manager.Env) para,
        let M := IdealNetwork.Runtime.manager currency hasher blake2 convertLocation
        Manager.dispatch M now (.xcm (accountOn para who)) request.toManager =
          Manager.dispatch M now (.signed who) request.toManager) := by
  rcases dispatch_ok h with ⟨hnone, _⟩ | ⟨_, request, message, hwho, hrequest, hmade, _, hstate⟩
  · exact absurd hnone hasks
  · obtain ⟨horigin, htransacts⟩ := xcmMessage_ok hmade
    have hknown : (Bridge.Call.idnManager request).Known := Call.request_known hself hrequest
    refine ⟨request, message, _, hrequest, hstate.symm, horigin, htransacts,
      Bridge.decodeAll_call hknown, ?_⟩
    intro hmanages currency hasher blake2 convertLocation now para M
    exact dispatch_congr hmanages rfl

section SampleRemote

open IdealNetwork.Runtime

local instance : Decode Junction := siblingCodec

/-- A user's call for three credits. -/
def sampleCall : Call := .createSubscription 3 1 none (some sampleId) none

/-- What it asks the network for. -/
def sampleRequest : Bridge.IdnManagerCall :=
  .createSubscription ⟨3, .sibling 4594, sampleCallback, .xcm, 1, none, some sampleId⟩

theorem remote_call_sampleCall :
    ∃ message bytes, (dispatch sampleChain (block 1) (.signed alice) sampleCall quiet).2.sent =
        [message] ∧
      transacts message.program = [(.xcm, bytes)] ∧
      (decodeAll bytes : Option Bridge.RuntimeCall) =
        some (.idnManager sampleRequest.toManager) ∧
      Manager.dispatch standalone (online 1) (.xcm (accountOn 4594 alice))
          sampleRequest.toManager funded =
        Manager.dispatch standalone (online 1) (.signed alice) sampleRequest.toManager funded := by
  have hself : (selfParaSiblingLocation sampleChain).Known := known_sibling 4594
  have hrequest : sampleCall.request sampleChain (block 1) = .ok (some sampleRequest) := rfl
  have hdone : dispatch sampleChain (block 1) (.signed alice) sampleCall quiet =
      (.ok (), (dispatch sampleChain (block 1) (.signed alice) sampleCall quiet).2) := rfl
  have hasks : sampleCall.request sampleChain (block 1) ≠ .ok none := by
    rw [hrequest]
    nofun
  obtain ⟨request, message, bytes, hasked, hsent, _, htransacts, hread, hlocal⟩ :=
    remote_call hself hasks hdone
  cases hasked.symm.trans hrequest
  refine ⟨message, bytes, ?_, htransacts, hread, congrFun (hlocal trivial balances
    (identityHasher 32) (fun _ => Vector.replicate 32 0) (fun _ => none) (online 1) 4594) funded⟩
  rw [hsent]
  rfl

end SampleRemote

end IdealNetwork.Consumer
