import IdealNetwork.Contracts.Answers
import IdealNetwork.Lib.Runs
import Mathlib.Data.List.DropRight

/-!
# The example consumer contract

A contract that subscribes with the client and keeps what the network sends it.
Its owner manages one subscription and the list of accounts that may deliver;
the accounts on the list deliver pulses, quotes and subscription data, and the
contract keeps the last hundred of each.

A message that returns an error or panics is reverted as a whole. Over every
sequence of messages, from any callers: the histories hold the most recent of
what was delivered (`histories_recent`), the requests that the contract sends
manage one subscription at a time (`one_subscription`), and callers that are
neither the owner nor on the list might as well not have called
(`strangers_excluded`).

The check of a pulse is commented out in the source, except in its tests: a
pulse is taken as valid, whatever its signature.
-/

set_option autoImplicit false

namespace IdealNetwork.Contracts

open Scale Storage

/-! ## The rest of the client -/

namespace IdnClient

variable (client : IdnClient) (host : Host) (ctx : Context)

/-- `pause_subscription`. -/
def pauseSubscription (subId : SubscriptionId) : ContractM Unit :=
  client.xcmSend host ctx (.pauseSubscription subId)

/-- `reactivate_subscription`. -/
def reactivateSubscription (subId : SubscriptionId) : ContractM Unit :=
  client.xcmSend host ctx (.reactivateSubscription subId)

/-- `update_subscription`. -/
def updateSubscription (subId : SubscriptionId) (credits : Option Credits)
    (frequency : Option BlockNumber) (metadata : Option (Option Metadata)) : ContractM Unit :=
  client.xcmSend host ctx (.updateSubscription ⟨subId, credits, frequency, metadata⟩)

/-- `kill_subscription`. -/
def killSubscription (subId : SubscriptionId) : ContractM Unit :=
  client.xcmSend host ctx (.killSubscription subId)

end IdnClient

namespace Example

/-- The randomness of a pulse. -/
abbrev Rand := Vector UInt8 32

/-- `MAX_HISTORY_SIZE`. -/
def maxHistorySize : ℕ := 100

inductive PulseValidity where
  | valid
  | invalid
deriving DecidableEq, Repr

inductive ContractError where
  | idnClientError (e : Error)
  | noActiveSubscription
  | unauthorized
  | subscriptionAlreadyExists
  | invalidSubscriptionId
  | invalidPulse
  | other
deriving DecidableEq, Repr

/-- `From<ContractError> for Error`. -/
def ContractError.toError : ContractError → Error
  | .idnClientError e => e
  | .unauthorized => .unauthorized
  | .invalidSubscriptionId => .invalidSubscriptionId
  | _ => .other

inductive Event where
  | callerAuthorized (caller : AccountId32)
  | pulseConsumed (pulse : RuntimePulse)
deriving DecidableEq

/-- The contract's storage, with the messages it has sent and its events. -/
structure State where
  owner : AccountId32
  authorizedDeliverers : List AccountId32
  lastRandomness : Option Rand
  subscriptionId : Option SubscriptionId
  randomnessHistory : List Rand
  pulseHistory : List (RuntimePulse × PulseValidity)
  idnClient : IdnClient
  quoteHistory : List Quote
  subInfoHistory : List (SubInfoResponse SubscriptionOf)
  sent : List IdnMessage
  events : List Event

/-- How a message of the contract fails. Those of the `IdnConsumer` trait return
the client's errors, the others the contract's own. -/
inductive Failure where
  | contract (e : ContractError)
  | consumer (e : Error)
  | panicked
deriving DecidableEq, Repr

abbrev MessageM (α : Type) := Action Failure State α

/-- `new`. The client is given the indices it uses. -/
def new (host : Host) (caller : AccountId32) (idnParaId selfParaId : ParaId)
    (selfContractsPalletIndex : PalletIndex) (selfContractCallIndex : UInt8)
    (maxIdnXcmFees : Option Balance) : State where
  owner := caller
  authorizedDeliverers := [host.accountId]
  lastRandomness := none
  subscriptionId := none
  randomnessHistory := []
  pulseHistory := []
  idnClient :=
    { idnParaId := idnParaId
      selfParaId := selfParaId
      selfContractsPalletIndex := selfContractsPalletIndex
      selfContractCallIndex := selfContractCallIndex
      maxIdnXcmFees := maxIdnXcmFees.getD 1000000000 }
  quoteHistory := []
  subInfoHistory := []
  sent := []
  events := []

/-- Append to a history. A full one loses its oldest item first. -/
def addToHistory {α : Type} (history : List α) (item : α) : List α :=
  (if maxHistorySize ≤ history.length then history.tail else history) ++ [item]

section

variable (host : Host) (sha256 : Bytes → Rand) (caller : AccountId32) (ctx : Context)

def emitEvent (event : Event) : MessageM Unit :=
  .modify fun s => { s with events := s.events ++ [event] }

/-- `ensure_authorized`. -/
def ensureAuthorized : MessageM Unit := do
  let s ← .get
  .ensure (s.owner = caller) (.contract .unauthorized)
  emitEvent (.callerAuthorized caller)

/-- `ensure_authorized_deliverer`, its error converted. -/
def ensureAuthorizedDeliverer : MessageM Unit := do
  let s ← .get
  .ensure (caller ∈ s.authorizedDeliverers) (.consumer ContractError.unauthorized.toError)
  emitEvent (.callerAuthorized caller)

/-- `ensure_active_sub`, with what its error is converted to. -/
def ensureActiveSub (fail : ContractError → Failure) : MessageM SubscriptionId := do
  let s ← .get
  .okOr s.subscriptionId (fail .noActiveSubscription)

/-- `ensure_valid_pulse`, as it is built outside of tests. -/
def ensureValidPulse (_pulse : RuntimePulse) : Except ContractError Unit := .ok ()

/-- A call of the client, its errors converted. -/
def onClient {α : Type} (call : IdnClient → ContractM α) : MessageM α := fun s =>
  match call s.idnClient s.sent with
  | (.ok a, sent) => (.ok a, { s with sent := sent })
  | (.error (.error e), sent) => (.error (.contract (.idnClientError e)), { s with sent := sent })
  | (.error .panicked, sent) => (.error .panicked, { s with sent := sent })

/-! ## The owner's messages -/

/-- `request_quote`. -/
def requestQuote (numberOfPulses frequency : BlockNumber) (metadata : Option Metadata)
    (subId : Option SubscriptionId) : MessageM Unit := do
  ensureAuthorized caller
  onClient fun client =>
    client.requestQuote host ctx numberOfPulses frequency metadata subId none none

/-- `create_subscription`. -/
def createSubscription (credits : Credits) (frequency : BlockNumber)
    (metadata : Option Metadata) : MessageM SubscriptionId := do
  ensureAuthorized caller
  let s ← .get
  .ensure (s.subscriptionId = none) (.contract .subscriptionAlreadyExists)
  let subscriptionId ← onClient fun client =>
    client.createSubscription host ctx credits frequency metadata none none none
  .modify fun s => { s with subscriptionId := some subscriptionId }
  pure subscriptionId

/-- `request_sub_info`. -/
def requestSubInfo (metadata : Option Metadata) : MessageM Unit := do
  ensureAuthorized caller
  let subscriptionId ← ensureActiveSub .contract
  onClient fun client => client.requestSubInfo host ctx subscriptionId metadata none none none

/-- `pause_subscription`. -/
def pauseSubscription : MessageM Unit := do
  ensureAuthorized caller
  let subscriptionId ← ensureActiveSub .contract
  onClient fun client => client.pauseSubscription host ctx subscriptionId

/-- `reactivate_subscription`. -/
def reactivateSubscription : MessageM Unit := do
  ensureAuthorized caller
  let subscriptionId ← ensureActiveSub .contract
  onClient fun client => client.reactivateSubscription host ctx subscriptionId

/-- `update_subscription`. -/
def updateSubscription (credits : Credits) (frequency : BlockNumber) : MessageM Unit := do
  ensureAuthorized caller
  let subscriptionId ← ensureActiveSub .contract
  onClient fun client =>
    client.updateSubscription host ctx subscriptionId (some credits) (some frequency) none

/-- `kill_subscription`. -/
def killSubscription : MessageM Unit := do
  ensureAuthorized caller
  let subscriptionId ← ensureActiveSub .contract
  onClient fun client => client.killSubscription host ctx subscriptionId
  .modify fun s => { s with subscriptionId := none }

/-- `add_authorized_deliverer`. -/
def addAuthorizedDeliverer (account : AccountId32) : MessageM Unit := do
  ensureAuthorized caller
  .modify fun s =>
    if account ∈ s.authorizedDeliverers then s
    else { s with authorizedDeliverers := s.authorizedDeliverers ++ [account] }

/-- `remove_authorized_deliverer`. -/
def removeAuthorizedDeliverer (account : AccountId32) : MessageM Unit := do
  ensureAuthorized caller
  .modify fun s =>
    { s with authorizedDeliverers := s.authorizedDeliverers.filter fun x => x ≠ account }

/-! ## Deliveries -/

/-- `do_consume_pulse`. -/
def doConsumePulse (pulse : RuntimePulse) : MessageM Unit := do
  let randomness := sha256 pulse.signature.toList
  .modify fun s =>
    { s with
      lastRandomness := some randomness
      randomnessHistory := addToHistory s.randomnessHistory randomness }
  emitEvent (.pulseConsumed pulse)

/-- `consume_pulse`. -/
def consumePulse (pulse : RuntimePulse) (subscriptionId : SubscriptionId) : MessageM Unit := do
  ensureAuthorizedDeliverer caller
  let active ← ensureActiveSub fun e => .consumer e.toError
  .ensure (subscriptionId = active) (.consumer .invalidSubscriptionId)
  let validity : PulseValidity :=
    match ensureValidPulse pulse with
    | .ok _ => .valid
    | .error _ => .invalid
  .modify fun s => { s with pulseHistory := addToHistory s.pulseHistory (pulse, validity) }
  .when (validity = .valid) (doConsumePulse sha256 pulse)

/-- `consume_quote`. -/
def consumeQuote (quote : Quote) : MessageM Unit := do
  ensureAuthorizedDeliverer caller
  .modify fun s => { s with quoteHistory := addToHistory s.quoteHistory quote }

/-- `consume_sub_info`. -/
def consumeSubInfo (subInfo : SubInfoResponse SubscriptionOf) : MessageM Unit := do
  ensureAuthorizedDeliverer caller
  .modify fun s => { s with subInfoHistory := addToHistory s.subInfoHistory subInfo }

end

/-- The messages that can change something. -/
inductive Message where
  | requestQuote (numberOfPulses frequency : BlockNumber) (metadata : Option Metadata)
      (subId : Option SubscriptionId)
  | createSubscription (credits : Credits) (frequency : BlockNumber) (metadata : Option Metadata)
  | requestSubInfo (metadata : Option Metadata)
  | pauseSubscription
  | reactivateSubscription
  | updateSubscription (credits : Credits) (frequency : BlockNumber)
  | killSubscription
  | addAuthorizedDeliverer (account : AccountId32)
  | removeAuthorizedDeliverer (account : AccountId32)
  | consumePulse (pulse : RuntimePulse) (subscriptionId : SubscriptionId)
  | consumeQuote (quote : Quote)
  | consumeSubInfo (subInfo : SubInfoResponse SubscriptionOf)

/-- A message, with its caller and the block it runs in. -/
structure Input where
  caller : AccountId32
  ctx : Context
  message : Message

section

variable (host : Host) (sha256 : Bytes → Rand)

/-- The body of a message. -/
def perform (input : Input) : MessageM Unit :=
  match input.message with
  | .requestQuote numberOfPulses frequency metadata subId =>
    requestQuote host input.caller input.ctx numberOfPulses frequency metadata subId
  | .createSubscription credits frequency metadata => do
    let _ ← createSubscription host input.caller input.ctx credits frequency metadata
    pure ()
  | .requestSubInfo metadata => requestSubInfo host input.caller input.ctx metadata
  | .pauseSubscription => pauseSubscription host input.caller input.ctx
  | .reactivateSubscription => reactivateSubscription host input.caller input.ctx
  | .updateSubscription credits frequency =>
    updateSubscription host input.caller input.ctx credits frequency
  | .killSubscription => killSubscription host input.caller input.ctx
  | .addAuthorizedDeliverer account => addAuthorizedDeliverer input.caller account
  | .removeAuthorizedDeliverer account => removeAuthorizedDeliverer input.caller account
  | .consumePulse pulse subscriptionId => consumePulse sha256 input.caller pulse subscriptionId
  | .consumeQuote quote => consumeQuote input.caller quote
  | .consumeSubInfo subInfo => consumeSubInfo input.caller subInfo

/-- A message, reverted if it fails. -/
def call (input : Input) : MessageM Unit := .transactional (perform host sha256 input)

def step (input : Input) (s : State) : State := (call host sha256 input s).2

/-- The state after some messages. -/
def run (inputs : List Input) (s : State) : State := Runs.run (step host sha256) inputs s

end

/-- What the network delivers. -/
inductive Delivery where
  | pulse (pulse : RuntimePulse)
  | quote (quote : Quote)
  | subInfo (subInfo : SubInfoResponse SubscriptionOf)

/-- What a message delivers. -/
def Message.delivery : Message → Option Delivery
  | .consumePulse pulse _ => some (.pulse pulse)
  | .consumeQuote quote => some (.quote quote)
  | .consumeSubInfo subInfo => some (.subInfo subInfo)
  | _ => none

/-! ## What a message does -/

/-- The requests that leave a subscription open: about the one that is open, or
about none. -/
def Manages (open_ : Option SubscriptionId) : Manager.Call → Prop
  | .quoteSubscription _ => True
  | .getSubscriptionInfo req => open_ = some req.subId
  | .pauseSubscription subId => open_ = some subId
  | .reactivateSubscription subId => open_ = some subId
  | .updateSubscription params => open_ = some params.subId
  | _ => False

/-- A message has been sent for the owner. -/
def asked (host : Host) (caller : AccountId32) (request : Manager.Call) (s : State) : State :=
  { s with
    sent := s.sent ++ [s.idnClient.message host request]
    events := s.events ++ [.callerAuthorized caller] }

/-- What a message that succeeds does. -/
inductive Effect (host : Host) (sha256 : Bytes → Rand) (caller : AccountId32) (s : State) :
    Message → State → Prop
  | requested {message} (request : Manager.Call) (quiet : message.delivery = none)
      (owner : s.owner = caller) (manages : Manages s.subscriptionId request) :
      Effect host sha256 caller s message (asked host caller request s)
  | subscribed {credits frequency metadata params id} (owner : s.owner = caller)
      (free : s.subscriptionId = none) (named : params.subId = some id) :
      Effect host sha256 caller s (.createSubscription credits frequency metadata)
        { asked host caller (.createSubscription params) s with subscriptionId := some id }
  | killed {id} (owner : s.owner = caller) (active : s.subscriptionId = some id) :
      Effect host sha256 caller s .killSubscription
        { asked host caller (.killSubscription id) s with subscriptionId := none }
  | listed {message deliverers} (owner : s.owner = caller)
      (message_eq : (∃ account, message = .addAuthorizedDeliverer account ∧
          ∀ x, x ∈ deliverers ↔ x ∈ s.authorizedDeliverers ∨ x = account) ∨
        ∃ account, message = .removeAuthorizedDeliverer account ∧
          ∀ x, x ∈ deliverers ↔ x ∈ s.authorizedDeliverers ∧ x ≠ account) :
      Effect host sha256 caller s message
        { s with
          authorizedDeliverers := deliverers
          events := s.events ++ [.callerAuthorized caller] }
  | pulse {pulse id} (deliverer : caller ∈ s.authorizedDeliverers)
      (active : s.subscriptionId = some id) :
      Effect host sha256 caller s (.consumePulse pulse id)
        { s with
          pulseHistory := addToHistory s.pulseHistory (pulse, .valid)
          lastRandomness := some (sha256 pulse.signature.toList)
          randomnessHistory := addToHistory s.randomnessHistory (sha256 pulse.signature.toList)
          events := s.events ++ [.callerAuthorized caller, .pulseConsumed pulse] }
  | quote {quote} (deliverer : caller ∈ s.authorizedDeliverers) :
      Effect host sha256 caller s (.consumeQuote quote)
        { s with
          quoteHistory := addToHistory s.quoteHistory quote
          events := s.events ++ [.callerAuthorized caller] }
  | subInfo {subInfo} (deliverer : caller ∈ s.authorizedDeliverers) :
      Effect host sha256 caller s (.consumeSubInfo subInfo)
        { s with
          subInfoHistory := addToHistory s.subInfoHistory subInfo
          events := s.events ++ [.callerAuthorized caller] }

section

variable {host : Host} {sha256 : Bytes → Rand} {caller : AccountId32} {ctx : Context}
variable {s t : State}

theorem ensureAuthorized_bind_ok {α : Type} {f : Unit → MessageM α} {a : α} :
    (ensureAuthorized caller >>= f) s = (.ok a, t) ↔
      s.owner = caller ∧
        f () { s with events := s.events ++ [.callerAuthorized caller] } = (.ok a, t) := by
  simp only [ensureAuthorized, emitEvent, bind_assoc, Action.get_bind_ok, Action.ensure_bind_ok,
    Action.modify_bind_ok]

theorem ensureAuthorizedDeliverer_bind_ok {α : Type} {f : Unit → MessageM α} {a : α} :
    (ensureAuthorizedDeliverer caller >>= f) s = (.ok a, t) ↔
      caller ∈ s.authorizedDeliverers ∧
        f () { s with events := s.events ++ [.callerAuthorized caller] } = (.ok a, t) := by
  simp only [ensureAuthorizedDeliverer, emitEvent, bind_assoc, Action.get_bind_ok,
    Action.ensure_bind_ok, Action.modify_bind_ok]

theorem ensureActiveSub_bind_ok {α : Type} {fail : ContractError → Failure}
    {f : SubscriptionId → MessageM α} {a : α} :
    (ensureActiveSub fail >>= f) s = (.ok a, t) ↔
      ∃ id, s.subscriptionId = some id ∧ f id s = (.ok a, t) := by
  simp only [ensureActiveSub, bind_assoc, Action.get_bind_ok, Action.okOr_bind_ok]

theorem onClient_ok {α : Type} {request : IdnClient → ContractM α} {a : α} :
    onClient request s = (.ok a, t) ↔
      ∃ sent, request s.idnClient s.sent = (.ok a, sent) ∧ { s with sent := sent } = t := by
  unfold onClient
  split
  next b sent h => simp only [h, Prod.mk.injEq, Except.ok.injEq, and_assoc, exists_and_left,
    exists_eq_left']
  next e sent h => simp only [h, Prod.mk.injEq, reduceCtorEq, false_and, exists_false]
  next sent h => simp only [h, Prod.mk.injEq, reduceCtorEq, false_and, exists_false]

/-- A request about the open subscription. -/
theorem manage_ok (request : SubscriptionId → Manager.Call) {u : Unit}
    (hmanages : ∀ id, Manages (some id) (request id)) {message : Message}
    (hquiet : message.delivery = none)
    (h : (do
      ensureAuthorized caller
      let subscriptionId ← ensureActiveSub .contract
      onClient fun client => client.xcmSend host ctx (request subscriptionId) :
        MessageM Unit) s = (.ok u, t)) :
    Effect host sha256 caller s message t := by
  simp only [ensureAuthorized_bind_ok, ensureActiveSub_bind_ok, onClient_ok,
    IdnClient.xcmSend_ok] at h
  obtain ⟨howner, id, hactive, _, ⟨_, rfl⟩, rfl⟩ := h
  exact .requested (request id) hquiet howner (hactive ▸ hmanages id)

/-- THE MESSAGE RULE. -/
theorem perform_ok {input : Input} {u : Unit} (h : perform host sha256 input s = (.ok u, t)) :
    Effect host sha256 input.caller s input.message t := by
  obtain ⟨caller, ctx, message⟩ := input
  cases message with
  | requestQuote numberOfPulses frequency metadata subId =>
    have hbody : requestQuote host caller ctx numberOfPulses frequency metadata subId s =
      (.ok u, t) := h
    simp only [requestQuote, ensureAuthorized_bind_ok, onClient_ok] at hbody
    obtain ⟨howner, sent, hasked, rfl⟩ := hbody
    obtain ⟨params, rfl, _⟩ := IdnClient.requestQuote_ok hasked
    exact .requested (.quoteSubscription params) rfl howner trivial
  | createSubscription credits frequency metadata =>
    obtain ⟨id, _, hbody, hpure⟩ := Action.bind_ok.mp h
    obtain ⟨_, rfl⟩ := Action.pure_ok.mp hpure
    simp only [createSubscription, ensureAuthorized_bind_ok, Action.get_bind_ok,
      Action.ensure_bind_ok] at hbody
    simp only [Action.bind_ok, onClient_ok, Action.modify_ok, Action.pure_ok] at hbody
    obtain ⟨howner, hfree, _, _, ⟨sent, hasked, rfl⟩, _, _, rfl, rfl, rfl⟩ := hbody
    obtain ⟨params, rfl, hnamed, _⟩ := IdnClient.createSubscription_ok hasked
    exact .subscribed howner hfree hnamed
  | requestSubInfo metadata =>
    have hbody : requestSubInfo host caller ctx metadata s = (.ok u, t) := h
    simp only [requestSubInfo, ensureAuthorized_bind_ok, ensureActiveSub_bind_ok,
      onClient_ok] at hbody
    obtain ⟨howner, id, hactive, sent, hasked, rfl⟩ := hbody
    obtain ⟨_, req, _, _, _, hid, _, _, rfl⟩ := IdnClient.requestSubInfo_ok.mp hasked
    subst hid
    exact .requested (.getSubscriptionInfo req) rfl howner hactive
  | pauseSubscription => exact manage_ok .pauseSubscription (fun _ => rfl) rfl h
  | reactivateSubscription =>
    exact manage_ok .reactivateSubscription (fun _ => rfl) rfl h
  | updateSubscription credits frequency =>
    exact manage_ok (fun id => .updateSubscription ⟨id, some credits, some frequency, none⟩)
      (fun _ => rfl) rfl h
  | killSubscription =>
    have hbody : killSubscription host caller ctx s = (.ok u, t) := h
    simp only [killSubscription, ensureAuthorized_bind_ok, ensureActiveSub_bind_ok] at hbody
    simp only [Action.bind_ok, onClient_ok, IdnClient.killSubscription, IdnClient.xcmSend_ok,
      Action.modify_ok] at hbody
    obtain ⟨howner, id, hactive, _, _, ⟨_, ⟨_, rfl⟩, rfl⟩, rfl⟩ := hbody
    exact .killed howner hactive
  | addAuthorizedDeliverer account =>
    have hbody : addAuthorizedDeliverer caller account s = (.ok u, t) := h
    simp only [addAuthorizedDeliverer, ensureAuthorized_bind_ok, Action.modify_ok] at hbody
    obtain ⟨howner, rfl⟩ := hbody
    split
    next hmem =>
      refine .listed howner (Or.inl ⟨account, rfl, fun x => ⟨Or.inl, ?_⟩⟩)
      rintro (hx | rfl)
      · exact hx
      · exact hmem
    next =>
      refine .listed howner (Or.inl ⟨account, rfl, fun x => ?_⟩)
      rw [List.mem_append, List.mem_singleton]
  | removeAuthorizedDeliverer account =>
    have hbody : removeAuthorizedDeliverer caller account s = (.ok u, t) := h
    simp only [removeAuthorizedDeliverer, ensureAuthorized_bind_ok, Action.modify_ok] at hbody
    obtain ⟨howner, rfl⟩ := hbody
    refine .listed howner (Or.inr ⟨account, rfl, fun x => ?_⟩)
    simp only [List.mem_filter, decide_eq_true_eq, ne_eq]
  | consumePulse pulse subscriptionId =>
    have hbody : consumePulse sha256 caller pulse subscriptionId s = (.ok u, t) := h
    simp only [consumePulse, ensureAuthorizedDeliverer_bind_ok, ensureActiveSub_bind_ok,
      Action.ensure_bind_ok, Action.modify_bind_ok] at hbody
    obtain ⟨hdeliverer, active, hactive, rfl, hbody⟩ := hbody
    have hvalid : doConsumePulse sha256 pulse _ = (.ok u, t) := hbody
    simp only [doConsumePulse, emitEvent, Action.modify_bind_ok, Action.modify_ok,
      List.append_assoc] at hvalid
    subst hvalid
    exact .pulse hdeliverer hactive
  | consumeQuote quote =>
    have hbody : consumeQuote caller quote s = (.ok u, t) := h
    simp only [consumeQuote, ensureAuthorizedDeliverer_bind_ok, Action.modify_ok] at hbody
    obtain ⟨hdeliverer, rfl⟩ := hbody
    exact .quote hdeliverer
  | consumeSubInfo subInfo =>
    have hbody : consumeSubInfo caller subInfo s = (.ok u, t) := h
    simp only [consumeSubInfo, ensureAuthorizedDeliverer_bind_ok, Action.modify_ok] at hbody
    obtain ⟨hdeliverer, rfl⟩ := hbody
    exact .subInfo hdeliverer

/-- A message does what it does, or changes nothing. -/
theorem call_cases (host : Host) (sha256 : Bytes → Rand) (input : Input) (s : State) :
    (∃ t, call host sha256 input s = (.ok (), t) ∧
        Effect host sha256 input.caller s input.message t) ∨
      ∃ e, call host sha256 input s = (.error e, s) := by
  rcases Action.transactional_cases (perform host sha256 input) s with
    ⟨u, t, hperform, hcall⟩ | ⟨e, hcall⟩
  · exact Or.inl ⟨t, hcall, perform_ok hperform⟩
  · exact Or.inr ⟨e, hcall⟩

theorem step_invariant {P : State → Prop} (input : Input) (h : P s)
    (effect : ∀ {t}, Effect host sha256 input.caller s input.message t → P t) :
    P (step host sha256 input s) := by
  unfold step
  rcases call_cases host sha256 input s with ⟨t, hcall, heffect⟩ | ⟨e, hcall⟩
  · rw [hcall]
    exact effect heffect
  · rw [hcall]
    exact h

/-! ## One subscription at a time -/

/-- Which subscription is open after a request, if the request makes sense: one
is asked for when none is open, and only the open one is managed and killed. -/
def track : Option SubscriptionId → Manager.Call → Option (Option SubscriptionId)
  | none, .createSubscription params => params.subId.map some
  | some id, .killSubscription subId => if subId = id then some none else none
  | some id, .pauseSubscription subId => if subId = id then some (some id) else none
  | some id, .reactivateSubscription subId => if subId = id then some (some id) else none
  | some id, .updateSubscription params => if params.subId = id then some (some id) else none
  | some id, .getSubscriptionInfo req => if req.subId = id then some (some id) else none
  | subscription, .quoteSubscription _ => some subscription
  | _, _ => none

theorem track_of_manages {subscription : Option SubscriptionId} {request : Manager.Call}
    (h : Manages subscription request) : track subscription request = some subscription := by
  cases request with
  | quoteSubscription params => cases subscription <;> rfl
  | getSubscriptionInfo req =>
    cases h
    exact if_pos rfl
  | pauseSubscription subId =>
    cases h
    exact if_pos rfl
  | reactivateSubscription subId =>
    cases h
    exact if_pos rfl
  | updateSubscription params =>
    cases h
    exact if_pos rfl
  | createSubscription params => exact h.elim
  | killSubscription subId => exact h.elim

/-- The requests sent so far make sense, and lead to the subscription that the
contract has open. -/
def Tracked (s : State) : Prop :=
  (s.sent.map IdnMessage.call).foldlM track none = some s.subscriptionId

theorem Tracked.asked (h : Tracked s) {request : Manager.Call}
    {subscription : Option SubscriptionId}
    (htrack : track s.subscriptionId request = some subscription) :
    Tracked { asked host caller request s with subscriptionId := subscription } := by
  show ((s.sent ++ [s.idnClient.message host request]).map IdnMessage.call).foldlM track none = _
  rw [List.map_append, List.foldlM_append, h]
  show (track s.subscriptionId request >>= fun o => pure o) = some subscription
  rw [htrack]
  rfl

theorem Tracked.effect {message : Message} (heffect : Effect host sha256 caller s message t)
    (h : Tracked s) : Tracked t := by
  cases heffect with
  | requested request quiet owner manages => exact h.asked (track_of_manages manages)
  | @subscribed _ _ _ params id owner free named =>
    refine h.asked ?_
    rw [free]
    show params.subId.map some = some (some id)
    rw [named]
    rfl
  | killed owner active =>
    refine h.asked ?_
    rw [active]
    exact if_pos rfl
  | listed owner message_eq => exact h
  | pulse deliverer active => exact h
  | quote deliverer => exact h
  | subInfo deliverer => exact h

/-- ONE SUBSCRIPTION AT A TIME. Whatever messages a contract is called with, by
whomever, what it has sent to the network opens a subscription only when it has
none open, manages and kills only the one it has open, and leaves open the one
in its storage. -/
theorem one_subscription (host : Host) (sha256 : Bytes → Rand) (owner : AccountId32)
    (idnParaId selfParaId : ParaId) (palletIndex : PalletIndex) (callIndex : UInt8)
    (maxIdnXcmFees : Option Balance) (inputs : List Input) :
    let s := run host sha256 inputs
      (new host owner idnParaId selfParaId palletIndex callIndex maxIdnXcmFees)
    (s.sent.map IdnMessage.call).foldlM track none = some s.subscriptionId :=
  Runs.run_invariant _ (P := Tracked) rfl fun input _ _ hu =>
    step_invariant input hu fun heffect => hu.effect heffect

/-! ## Histories -/

/-- What a message delivers, if it succeeds. -/
def delivered (host : Host) (sha256 : Bytes → Rand) (input : Input) (s : State) : List Delivery :=
  match (call host sha256 input s).1 with
  | .ok _ => input.message.delivery.toList
  | .error _ => []

/-- What has been delivered in the course of some messages. -/
def deliveries (host : Host) (sha256 : Bytes → Rand) (inputs : List Input) (s : State) :
    List Delivery :=
  Runs.outputs (step host sha256) (delivered host sha256) inputs s

/-- The pulses among some deliveries. -/
def pulsesOf (log : List Delivery) : List RuntimePulse :=
  log.filterMap fun
    | .pulse pulse => some pulse
    | _ => none

def quotesOf (log : List Delivery) : List Quote :=
  log.filterMap fun
    | .quote quote => some quote
    | _ => none

def subInfosOf (log : List Delivery) : List (SubInfoResponse SubscriptionOf) :=
  log.filterMap fun
    | .subInfo subInfo => some subInfo
    | _ => none

/-- A history that holds the most recent items does so with one more. -/
theorem addToHistory_rtake {α : Type} (items : List α) (item : α) :
    addToHistory (items.rtake maxHistorySize) item = (items ++ [item]).rtake maxHistorySize := by
  have hpos : 0 < maxHistorySize := by decide
  unfold addToHistory List.rtake
  rw [List.length_append, List.length_singleton, List.length_drop]
  split
  next hfull =>
    have hle : items.length - maxHistorySize + 1 ≤ items.length := by omega
    have hdrop : items.length + 1 - maxHistorySize = items.length - maxHistorySize + 1 := by omega
    rw [List.tail_drop, hdrop, List.drop_append_of_le_length hle]
  next hroom =>
    have hzero : items.length - maxHistorySize = 0 := by omega
    have hzero' : items.length + 1 - maxHistorySize = 0 := by omega
    rw [hzero, hzero', List.drop_zero, List.drop_zero]

/-- The histories hold the most recent of what was delivered. -/
structure Recent (sha256 : Bytes → Rand) (pulses : List RuntimePulse) (quotes : List Quote)
    (subInfos : List (SubInfoResponse SubscriptionOf)) (s : State) : Prop where
  pulseHistory : s.pulseHistory =
    (pulses.map fun pulse => (pulse, PulseValidity.valid)).rtake maxHistorySize
  randomnessHistory : s.randomnessHistory =
    (pulses.map fun pulse => sha256 pulse.signature.toList).rtake maxHistorySize
  lastRandomness : s.lastRandomness = pulses.getLast?.map fun pulse => sha256 pulse.signature.toList
  quoteHistory : s.quoteHistory = quotes.rtake maxHistorySize
  subInfoHistory : s.subInfoHistory = subInfos.rtake maxHistorySize

theorem Recent.effect {pulses : List RuntimePulse} {quotes : List Quote}
    {subInfos : List (SubInfoResponse SubscriptionOf)} {message : Message}
    (heffect : Effect host sha256 caller s message t) (h : Recent sha256 pulses quotes subInfos s) :
    Recent sha256 (pulses ++ pulsesOf message.delivery.toList)
      (quotes ++ quotesOf message.delivery.toList)
      (subInfos ++ subInfosOf message.delivery.toList) t := by
  have hquiet {t : State} (hnone : message.delivery = none) (ht : Recent sha256 pulses quotes
      subInfos t) : Recent sha256 (pulses ++ pulsesOf message.delivery.toList)
        (quotes ++ quotesOf message.delivery.toList)
        (subInfos ++ subInfosOf message.delivery.toList) t := by
    rw [hnone]
    simpa [pulsesOf, quotesOf, subInfosOf] using ht
  cases heffect with
  | requested request quiet owner manages =>
    exact hquiet quiet ⟨h.1, h.2, h.3, h.4, h.5⟩
  | subscribed owner free named =>
    exact hquiet rfl ⟨h.1, h.2, h.3, h.4, h.5⟩
  | killed owner active =>
    exact hquiet rfl ⟨h.1, h.2, h.3, h.4, h.5⟩
  | listed owner message_eq =>
    refine hquiet ?_ ⟨h.1, h.2, h.3, h.4, h.5⟩
    rcases message_eq with ⟨account, rfl, _⟩ | ⟨account, rfl, _⟩ <;> rfl
  | @pulse pulse id deliverer active =>
    show Recent sha256 (pulses ++ [pulse]) (quotes ++ []) (subInfos ++ []) _
    rw [List.append_nil, List.append_nil]
    refine ⟨?_, ?_, ?_, h.quoteHistory, h.subInfoHistory⟩
    · rw [List.map_append, h.pulseHistory]
      exact addToHistory_rtake _ _
    · rw [List.map_append, h.randomnessHistory]
      exact addToHistory_rtake _ _
    · rw [List.getLast?_concat]
      rfl
  | @quote quote deliverer =>
    show Recent sha256 (pulses ++ []) (quotes ++ [quote]) (subInfos ++ []) _
    rw [List.append_nil, List.append_nil]
    refine ⟨h.pulseHistory, h.randomnessHistory, h.lastRandomness, ?_, h.subInfoHistory⟩
    rw [h.quoteHistory]
    exact addToHistory_rtake _ _
  | @subInfo subInfo deliverer =>
    show Recent sha256 (pulses ++ []) (quotes ++ []) (subInfos ++ [subInfo]) _
    rw [List.append_nil, List.append_nil]
    refine ⟨h.pulseHistory, h.randomnessHistory, h.lastRandomness, h.quoteHistory, ?_⟩
    rw [h.subInfoHistory]
    exact addToHistory_rtake _ _

/-- What is recent, of a whole log. -/
def RecentOf (sha256 : Bytes → Rand) (log : List Delivery) (s : State) : Prop :=
  Recent sha256 (pulsesOf log) (quotesOf log) (subInfosOf log) s

theorem RecentOf.step {log : List Delivery} (h : RecentOf sha256 log s) (input : Input) :
    RecentOf sha256 (log ++ delivered host sha256 input s) (step host sha256 input s) := by
  unfold Example.step delivered
  rcases call_cases host sha256 input s with ⟨t, hcall, heffect⟩ | ⟨e, hcall⟩
  · rw [hcall]
    show RecentOf sha256 (log ++ input.message.delivery.toList) t
    unfold RecentOf pulsesOf quotesOf subInfosOf
    rw [List.filterMap_append, List.filterMap_append, List.filterMap_append]
    exact Recent.effect heffect h
  · rw [hcall, List.append_nil]
    exact h

/-- HISTORIES ARE RECENT. Whatever messages a contract is called with, by
whomever, its histories hold the last hundred of the pulses, of their
randomness, of the quotes and of the subscription data that were delivered, in
order; the last randomness is that of the last pulse. Every pulse that was
delivered stands there as valid. -/
theorem histories_recent (host : Host) (sha256 : Bytes → Rand) (owner : AccountId32)
    (idnParaId selfParaId : ParaId) (palletIndex : PalletIndex) (callIndex : UInt8)
    (maxIdnXcmFees : Option Balance) (inputs : List Input) :
    let start := new host owner idnParaId selfParaId palletIndex callIndex maxIdnXcmFees
    let s := run host sha256 inputs start
    let log := deliveries host sha256 inputs start
    s.pulseHistory = ((pulsesOf log).map fun pulse => (pulse, .valid)).rtake 100 ∧
      s.randomnessHistory =
        ((pulsesOf log).map fun pulse => sha256 pulse.signature.toList).rtake 100 ∧
      s.lastRandomness =
        (pulsesOf log).getLast?.map (fun pulse => sha256 pulse.signature.toList) ∧
      s.quoteHistory = (quotesOf log).rtake 100 ∧
      s.subInfoHistory = (subInfosOf log).rtake 100 := by
  intro start s log
  have hrecent : RecentOf sha256 log s :=
    Runs.run_invariant_outputs (step host sha256) (Q := RecentOf sha256) []
      ⟨rfl, rfl, rfl, rfl, rfl⟩ fun input _ _ _ hu => hu.step input
  exact ⟨hrecent.1, hrecent.2, hrecent.3, hrecent.4, hrecent.5⟩

/-! ## Strangers -/

/-- An account has no say: it is not the owner and not on the list. -/
def Stranger (who : AccountId32) (s : State) : Prop :=
  who ≠ s.owner ∧ who ∉ s.authorizedDeliverers

/-- Nothing that a stranger asks for succeeds. -/
theorem Stranger.not_effect {message : Message} (h : Stranger caller s) :
    ¬ Effect host sha256 caller s message t := by
  intro heffect
  cases heffect with
  | requested request quiet owner manages => exact h.1 owner.symm
  | subscribed owner free named => exact h.1 owner.symm
  | killed owner active => exact h.1 owner.symm
  | listed owner message_eq => exact h.1 owner.symm
  | pulse deliverer active => exact h.2 deliverer
  | quote deliverer => exact h.2 deliverer
  | subInfo deliverer => exact h.2 deliverer

theorem step_stranger {input : Input} (h : Stranger input.caller s) :
    step host sha256 input s = s :=
  step_invariant (P := fun t => t = s) input rfl fun heffect => absurd heffect h.not_effect

/-- A stranger stays one until the owner puts them on the list. -/
theorem Stranger.effect {who : AccountId32} {message : Message}
    (heffect : Effect host sha256 caller s message t) (h : Stranger who s)
    (hadds : caller = s.owner → message ≠ .addAuthorizedDeliverer who) : Stranger who t := by
  cases heffect with
  | listed owner message_eq =>
    refine ⟨h.1, fun hmem => ?_⟩
    rcases message_eq with ⟨account, hmessage, hiff⟩ | ⟨account, _, hiff⟩
    · rcases (hiff who).mp hmem with hold | rfl
      · exact h.2 hold
      · exact hadds owner.symm hmessage
    · exact h.2 ((hiff who).mp hmem).1
  | requested request quiet owner manages => exact h
  | subscribed owner free named => exact h
  | killed owner active => exact h
  | pulse deliverer active => exact h
  | quote deliverer => exact h
  | subInfo deliverer => exact h

/-- No message changes the owner. -/
theorem Effect.owner_eq {message : Message} (heffect : Effect host sha256 caller s message t) :
    t.owner = s.owner := by
  cases heffect <;> rfl

/-- STRANGERS ARE EXCLUDED. An account that is neither the owner nor on the list
of those who may deliver, and that the owner does not put on the list, might as
well not call: without its messages, the contract is where it would have been. -/
theorem strangers_excluded (host : Host) (sha256 : Bytes → Rand) {who : AccountId32}
    {inputs : List Input} (hstranger : Stranger who s)
    (hadds : ∀ input ∈ inputs, input.caller = s.owner →
      input.message ≠ .addAuthorizedDeliverer who) :
    run host sha256 inputs s =
      run host sha256 (inputs.filter fun input => input.caller ≠ who) s := by
  induction inputs generalizing s with
  | nil => rfl
  | cons input rest ih =>
    have howner : (step host sha256 input s).owner = s.owner :=
      step_invariant (P := fun t => t.owner = s.owner) input rfl Effect.owner_eq
    have hstays : Stranger who (step host sha256 input s) :=
      step_invariant input hstranger fun heffect =>
        hstranger.effect heffect (hadds input List.mem_cons_self)
    have hrest := ih hstays fun other hother hcaller =>
      hadds other (List.mem_cons_of_mem _ hother) (hcaller.trans howner)
    show run host sha256 rest (step host sha256 input s) = _
    by_cases hcaller : input.caller = who
    · subst hcaller
      rw [List.filter_cons_of_neg (by simp), hrest, step_stranger hstranger]
    · rw [List.filter_cons_of_pos (by simpa using hcaller), hrest]
      rfl

end

section Sample

open IdealNetwork.Runtime

/-- A contract of alice's. -/
def sampleContract : State := new sampleHost alice 4502 4594 16 6 none

def stranger : AccountId32 := Vector.replicate 32 2

/-- A stranger puts themselves on the list and delivers a quote, in vain; the
contract's own account delivers another. -/
def sampleInputs : List Input :=
  [⟨stranger, sampleContext, .addAuthorizedDeliverer stranger⟩,
    ⟨stranger, sampleContext, .consumeQuote ⟨Vector.replicate 32 0, 0, 0⟩⟩,
    ⟨sampleHost.accountId, sampleContext, .consumeQuote ⟨Vector.replicate 32 0, 5, 7⟩⟩]

theorem strangers_excluded_sampleInputs :
    (run sampleHost (fun _ => Vector.replicate 32 0) sampleInputs sampleContract).quoteHistory =
      [⟨Vector.replicate 32 0, 5, 7⟩] := by
  have hstranger : Stranger stranger sampleContract := by
    unfold Stranger
    decide
  have hadds : ∀ input ∈ sampleInputs, input.caller = sampleContract.owner →
      input.message ≠ .addAuthorizedDeliverer stranger := by
    intro input hmem howner
    have hcaller : ∀ input ∈ sampleInputs, input.caller ≠ sampleContract.owner := by decide
    exact absurd howner (hcaller input hmem)
  rw [strangers_excluded sampleHost _ hstranger hadds]
  rfl

end Sample

end Example

end IdealNetwork.Contracts
