import IdealNetwork.Chain
import IdealNetwork.Consumer.Readings
import IdealNetwork.Manager.Pricing

/-!
# Two chains

The network and one consumer chain, with a channel each way. What the manager
sends to the chain waits until the chain takes it, and what the chain's pallet
sends waits until the network does; both in order, and each message once. When
a message is taken, the executor may come to the call in it, or not: the fees in
front of it may be missing. On the network the call is then made under any
origin, on the chain under the one that its runtime makes of where the executor
says the message comes from. Everything else may happen at any time on either
side, and money may move on the network in any way, for fees among others. Other
chains appear as callers.

Two things are asked of a run (`Mediated`). Calls that reach the manager from a
location on the chain are those that the chain's pallet sent, and calls that
reach the chain from the network are those that the manager sent. Without the
first, `Consumer.quote_forges_pulse` shows what a user of the chain can do.
-/

set_option autoImplicit false

namespace IdealNetwork.Network

open Scale Storage Xcm
open Beacon (Accumulation)
open Consumer (selfParaSiblingLocation)
open Manager (XcmMessage)

variable {G₁ G₂ Gt D : Type}

/-- The configurations of the two chains, the converters that the chain's runtime
takes from the executor, and where the executor says a message of the manager
comes from. -/
structure System (G₁ G₂ Gt D : Type) where
  beacon : Beacon.Config G₁ G₂ Gt
  manager : Manager.Config
  consumer : Consumer.Config D
  converters : Converters
  arrival : XcmMessage → Option Location

/-- Both chains, with how many messages of the manager the chain has taken, and
how many of the chain's messages the network has. -/
structure State (W : System G₁ G₂ Gt D) where
  idn : Beacon.State (Manager.State W.manager)
  chain : Consumer.State D
  received : ℕ
  handled : ℕ

/-- What the manager has sent to the chain. -/
def addressed {M : Manager.Config} (C : Consumer.Config D) (m : Manager.State M) :
    List XcmMessage :=
  m.sent.filter fun message => message.target = selfParaSiblingLocation C

/-- A step of one of the chains: an extrinsic of the network or the end of its
block, money that moves there, a message of the chain whose call the network
makes or lets go, an extrinsic of the chain, and a message of the network whose
call the chain makes or lets go. -/
inductive Step (W : System G₁ G₂ Gt D) where
  | extrinsic (findAuthor : Option AccountId32) (now : Manager.Env) (x : Chain.Extrinsic W.beacon)
  | finalize
  | transfer (move : W.manager.currency.Ledger → W.manager.currency.Ledger)
  | handle (now : Manager.Env) (origin : Origin)
  | refuse
  | user (env : Consumer.Env) (origin : Origin) (call : Consumer.Call)
  | receive (env : Consumer.Env)
  | drop

section

variable [AddCommGroup G₁] [Decode Junction] {W : System G₁ G₂ Gt D}

/-- What the beacon pallet finds. -/
def beaconEnv (W : System G₁ G₂ Gt D) (findAuthor : Option AccountId32) (now : Manager.Env) :
    Beacon.Env (Manager.State W.manager) :=
  ⟨findAuthor, Manager.distribute W.manager now⟩

/-- The chain's message that the network takes next. -/
def State.request (s : State W) : Option Consumer.Message := s.chain.sent[s.handled]?

/-- The message of the network that the chain takes next. -/
def State.answer (s : State W) : Option XcmMessage :=
  (addressed W.consumer s.idn.dispatcher)[s.received]?

/-- The call in a message of the chain, made on the network. -/
def runRequest (M : Manager.Config) (now : Manager.Env) (origin : Origin)
    (message : Consumer.Message) : Manager.PalletM M Unit :=
  match (transacts message.program).head? with
  | some (_, call) => Bridge.transact M now origin call
  | none => pure ()

/-- The call in a message of the network, made on the chain. -/
def runAnswer (W : System G₁ G₂ Gt D) (env : Consumer.Env) (message : XcmMessage) :
    Action Consumer.Err (Consumer.State D) Unit :=
  match W.arrival message, (transacts message.program).head? with
  | some location, some (kind, call) =>
    match consumerOrigin W.converters kind location, Consumer.decodeCall W.consumer call with
    | some (.known origin), some call => Consumer.dispatch W.consumer env origin call
    | _, some _ => .fail .badOrigin
    | _, none => .fail (.other "FailedToDecode")
  | _, _ => .fail .badOrigin

def Step.apply : Step W → State W → State W
  | .extrinsic findAuthor now x, s =>
    { s with idn := (x.toBeacon W.manager now).apply (beaconEnv W findAuthor now) s.idn }
  | .finalize, s =>
    { s with
      idn := Beacon.onFinalize
        { s.idn with dispatcher := Manager.onFinalize W.manager s.idn.dispatcher } }
  | .transfer move, s =>
    { s with
      idn :=
        { s.idn with
          dispatcher := { s.idn.dispatcher with ledger := move s.idn.dispatcher.ledger } } }
  | .handle now origin, s =>
    match s.request with
    | some message =>
      { s with
        idn :=
          { s.idn with
            dispatcher := (runRequest W.manager now origin message s.idn.dispatcher).2 }
        handled := s.handled + 1 }
    | none => s
  | .refuse, s => if s.request.isSome then { s with handled := s.handled + 1 } else s
  | .user env origin call, s =>
    { s with chain := (Consumer.dispatch W.consumer env origin call s.chain).2 }
  | .receive env, s =>
    match s.answer with
    | some message =>
      { s with
        chain := (runAnswer W env message s.chain).2
        received := s.received + 1 }
    | none => s
  | .drop, s => if s.answer.isSome then { s with received := s.received + 1 } else s

/-- The state after some steps. -/
def run (W : System G₁ G₂ Gt D) (steps : List (Step W)) (s : State W) : State W :=
  Runs.run Step.apply steps s

/-- The steps keep to the channels. -/
def Mediated : Step W → Prop
  | .extrinsic _ _ (.manager (.xcm location) _) =>
    Manager.extractParachainLocation location ≠ .ok (selfParaSiblingLocation W.consumer)
  | .user _ origin _ => W.consumer.idnOriginFilter origin = none
  | _ => True

/-! ## What is observed -/

/-- What a step makes the beacon pallet accept, with the key it is configured
with. -/
def Step.accepted : Step W → State W → List (Option OpaquePublicKey × Accumulation)
  | .extrinsic findAuthor now x, s =>
    ((x.toBeacon W.manager now).accepted (beaconEnv W findAuthor now) s.idn).map
      (s.idn.beaconConfig, ·)
  | _, _ => []

/-- What the network can hand to the chain's consumers. -/
inductive Answer where
  | pulse (pulse : RuntimePulse) (subId : SubscriptionId)
  | quote (quote : Quote)
  | subInfo (subInfo : SubInfoResponse SubscriptionOf)

/-- What a call hands over. -/
def answerOf : Consumer.Call → Option Answer
  | .consumePulse pulse subId => some (.pulse pulse subId)
  | .consumeQuote quote => some (.quote quote)
  | .consumeSubInfo subInfo => some (.subInfo subInfo)
  | _ => none

/-- The call in a message, as the chain reads it. -/
def reading (C : Consumer.Config D) (message : XcmMessage) : Option Consumer.Call :=
  (transacts message.program).head?.bind fun p => Consumer.decodeCall C p.2

/-- What a message hands over, as the chain reads it. -/
def answerIn (C : Consumer.Config D) (message : XcmMessage) : Option Answer :=
  (reading C message).bind answerOf

/-- What is handed over if the call that does so succeeds. -/
def handedBy (result : Except Consumer.Err Unit) (answer : Option Answer) : List Answer :=
  match result with
  | .ok _ => answer.toList
  | .error _ => []

/-- What a step hands over to the chain's consumers, when they take it. -/
def Step.consumed : Step W → State W → List Answer
  | .user env origin call, s =>
    handedBy (Consumer.dispatch W.consumer env origin call s.chain).1 (answerOf call)
  | .receive env, s =>
    match s.answer with
    | some message =>
      handedBy (runAnswer W env message s.chain).1 (answerIn W.consumer message)
    | none => []
  | _, _ => []

/-- What a run makes the beacon pallet accept, in order. -/
def accepted (W : System G₁ G₂ Gt D) (steps : List (Step W)) (s : State W) :
    List (Option OpaquePublicKey × Accumulation) :=
  Runs.outputs Step.apply Step.accepted steps s

/-- What a run hands over to the chain's consumers, in order. -/
def consumed (W : System G₁ G₂ Gt D) (steps : List (Step W)) (s : State W) : List Answer :=
  Runs.outputs Step.apply Step.consumed steps s

end

/-! ## What the manager sends -/

section Sent

variable {M : Manager.Config} {C : Consumer.Config D} {now : Manager.Env} {m n : Manager.State M}

/-- An answer of the manager: its call data and the kind of its origin. -/
inductive Answers (M : Manager.Config) (now : Manager.Env) (acc : AccountId32)
    (m : Manager.State M) : Manager.Call → Bytes → OriginKind → Prop
  | quote (params : QuoteSubParamsOf) : Answers M now acc m (.quoteSubscription params)
      (params.call.toList ++ encode (Manager.quoteFor M now acc params)) params.originKind
  | subInfo {req : SubInfoRequestOf} {sub : SubscriptionOf}
      (stored : m.subscriptions.lookup req.subId = some sub) :
      Answers M now acc m (.getSubscriptionInfo req)
        (req.call.toList ++ encode (⟨req.reqRef, sub⟩ : SubInfoResponse SubscriptionOf))
        req.originKind

/-- A call sends nothing, or an answer to the chain that it came from. -/
theorem dispatch_sends (now : Manager.Env) (origin : Origin) (call : Manager.Call)
    (m : Manager.State M) :
    (Manager.dispatch M now origin call m).2.sent = m.sent ∨
      ∃ requester target acc bytes kind message,
        Manager.ensureRequester M origin = .ok (requester, target, acc) ∧
        Answers M now acc m call bytes kind ∧
        Manager.xcmMessage M acc target bytes kind = some message ∧
        (Manager.dispatch M now origin call m).2.sent = m.sent ++ [message] := by
  rcases hd : Manager.dispatch M now origin call m with ⟨r, t⟩
  cases r with
  | error e =>
    have hsame : (Manager.dispatch M now origin call m).2 = m := by
      refine Manager.dispatch_failed ?_
      rw [hd]
      nofun
    rw [hd] at hsame
    exact Or.inl (congrArg Manager.State.sent hsame)
  | ok u =>
    cases call with
    | quoteSubscription params =>
      obtain ⟨requester, target, acc, message, hrequester, hmade, rfl⟩ :=
        Manager.quoteSubscription_answers hd
      exact Or.inr ⟨requester, target, acc, _, _, message, hrequester, .quote params, hmade, rfl⟩
    | getSubscriptionInfo req =>
      have hcall : Manager.getSubscriptionInfo M now origin req m = (.ok u, t) :=
        Action.transactional_ok.mp hd
      unfold Manager.getSubscriptionInfo at hcall
      simp only [Action.ofExcept_bind_ok, Action.get_bind_ok, Action.okOr_bind_ok,
        Manager.xcmSend_bind_ok, Manager.depositEvent, Action.modify_ok] at hcall
      obtain ⟨⟨requester, target, acc⟩, hrequester, sub, hstored, message, hmade, _, rfl⟩ := hcall
      exact Or.inr ⟨requester, target, acc, _, _, message, hrequester, .subInfo hstored, hmade, rfl⟩
    | _ =>
      left
      cases Manager.dispatch_ok hd
      rfl

theorem sent_onFinalize (m : Manager.State M) : (Manager.onFinalize M m).sent = m.sent :=
  Manager.onFinalize_invariant (P := fun u => u.sent = m.sent) rfl fun _ _ hterm hu => by
    cases hterm <;> exact hu

/-- The message carries a call for an account. -/
def Made (M : Manager.Config) (message : XcmMessage) : Prop :=
  ∃ acc target bytes kind, Manager.xcmMessage M acc target bytes kind = some message

/-- From `m` to `n`, nothing that was sent is taken back, and what is new carries
a call. -/
def Sends (m n : Manager.State M) : Prop :=
  ∃ messages, n.sent = m.sent ++ messages ∧ ∀ message ∈ messages, Made M message

theorem Sends.of_eq (h : n.sent = m.sent) : Sends m n :=
  ⟨[], h.trans (List.append_nil _).symm, nofun⟩

theorem Sends.of_concat {message : XcmMessage} (hmade : Made M message)
    (h : n.sent = m.sent ++ [message]) : Sends m n := by
  refine ⟨[message], h, fun message' hmem => ?_⟩
  obtain rfl := List.mem_singleton.mp hmem
  exact hmade

theorem Sends.trans {k : Manager.State M} (h : Sends m n) (h' : Sends n k) : Sends m k := by
  obtain ⟨messages, hsent, hmade⟩ := h
  obtain ⟨messages', hsent', hmade'⟩ := h'
  refine ⟨messages ++ messages', ?_, List.forall_mem_append.mpr ⟨hmade, hmade'⟩⟩
  rw [hsent', hsent, List.append_assoc]

theorem sends_dispatch (now : Manager.Env) (origin : Origin) (call : Manager.Call)
    (m : Manager.State M) : Sends m (Manager.dispatch M now origin call m).2 := by
  rcases dispatch_sends now origin call m with hsame |
    ⟨_, target, acc, bytes, kind, message, _, _, hmade, hsent⟩
  · exact .of_eq hsame
  · exact .of_concat ⟨acc, target, bytes, kind, hmade⟩ hsent

theorem sends_distribute (now : Manager.Env) (pulse : RuntimePulse) (m : Manager.State M) :
    Sends m (Manager.distribute M now pulse m) := by
  refine Manager.distribute_invariant (P := fun u => Sends m u) (.of_eq rfl) ?_
  intro subId sub u v _ _ hiter hu
  rcases hiter.sent with ⟨_, hsame⟩ | ⟨_, message, hmade, hsent⟩
  · exact hu.trans (.of_eq hsame)
  · exact hu.trans (.of_concat ⟨_, _, _, _, hmade⟩ hsent)

theorem addressed_append {more : List XcmMessage} (h : n.sent = m.sent ++ more) :
    addressed C n = addressed C m ++
      more.filter fun message => message.target = selfParaSiblingLocation C := by
  rw [addressed, h, List.filter_append]
  rfl

theorem addressed_congr (h : n.sent = m.sent) : addressed C n = addressed C m := by
  rw [addressed, h, addressed]

/-- A call from elsewhere sends the chain nothing. -/
theorem addressed_elsewhere (now : Manager.Env) {origin : Origin} (call : Manager.Call)
    (m : Manager.State M) (h : ∀ location, origin = .xcm location →
      Manager.extractParachainLocation location ≠ .ok (selfParaSiblingLocation C)) :
    addressed C (Manager.dispatch M now origin call m).2 = addressed C m := by
  rcases dispatch_sends now origin call m with hsame |
    ⟨requester, target, acc, bytes, kind, message, hrequester, _, hmade, hsent⟩
  · exact addressed_congr hsame
  · obtain ⟨location, hfilter, hrest⟩ := except_bind_ok.mp hrequester
    obtain ⟨para, hpara, hrest⟩ := except_bind_ok.mp hrest
    obtain ⟨acc', _, heq⟩ := except_bind_ok.mp hrest
    cases heq
    have hxcm : origin = .xcm requester := by
      cases origin with
      | xcm location =>
        simp only [Manager.xcmOriginFilter] at hfilter
        split at hfilter <;> cases hfilter
        rfl
      | _ => cases hfilter
    have hne : message.target ≠ selfParaSiblingLocation C := by
      intro htarget
      rw [← (Consumer.xcmMessage_parts hmade).2.1, htarget] at hpara
      exact h requester hxcm hpara
    rw [addressed_append hsent, List.filter_cons_of_neg (by simpa using hne), List.filter_nil,
      List.append_nil]

end Sent

/-! ## What the chain sends -/

section Requests

variable {C : Consumer.Config D} {c : Consumer.State D}

/-- The message is a request of the chain's pallet. -/
def Asked (C : Consumer.Config D) (message : Consumer.Message) : Prop :=
  ∃ who env call request, Consumer.Call.request C env call = .ok (some request) ∧
    Consumer.xcmMessage C (.signed who) (.idnManager request) = some message

/-- A call sends requests of the pallet, and nothing else. -/
theorem dispatch_asks (env : Consumer.Env) (origin : Origin) (call : Consumer.Call)
    (c : Consumer.State D) :
    ∃ more, (Consumer.dispatch C env origin call c).2.sent = c.sent ++ more ∧
      ∀ message ∈ more, Asked C message := by
  rcases Action.transactional_cases _ c with ⟨u, t, _, hok⟩ | ⟨e, herror⟩
  · have hdone : Consumer.dispatch C env origin call c = (.ok u, t) := hok
    rw [hdone]
    rcases Consumer.dispatch_ok hdone with
      ⟨_, _, hsame⟩ | ⟨who, request, message, rfl, hrequest, hmade, _, rfl⟩
    · exact ⟨[], hsame.trans (List.append_nil _).symm, nofun⟩
    · refine ⟨[message], rfl, ?_⟩
      intro message' hmem
      obtain rfl := List.mem_singleton.mp hmem
      exact ⟨who, env, call, request, hrequest, hmade⟩
  · have hfailed : Consumer.dispatch C env origin call c = (.error e, c) := herror
    rw [hfailed]
    exact ⟨[], (List.append_nil _).symm, nofun⟩

/-- What a call of a user hands over: nothing. -/
theorem answerOf_request {env : Consumer.Env} {call : Consumer.Call}
    {request : Bridge.IdnManagerCall} (h : Consumer.Call.request C env call = .ok (some request)) :
    answerOf call = none := by
  cases call with
  | consumePulse pulse subId => cases h
  | consumeQuote quote => cases h
  | consumeSubInfo subInfo => cases h
  | _ => rfl

variable [Decode Junction]

/-- A message of the network runs as the call that is read in it, under the origin
that the runtime makes for it, or fails. -/
theorem runAnswer_cases (W : System G₁ G₂ Gt D) (env : Consumer.Env) (message : XcmMessage) :
    (∃ location kind bytes origin call, W.arrival message = some location ∧
        (transacts message.program).head? = some (kind, bytes) ∧
        consumerOrigin W.converters kind location = some (.known origin) ∧
        Consumer.decodeCall W.consumer bytes = some call ∧
        runAnswer W env message = Consumer.dispatch W.consumer env origin call) ∨
      ∃ e, runAnswer W env message = .fail e := by
  unfold runAnswer
  split
  next location kind bytes harrival hhead =>
    split
    next origin call horigin hcall =>
      exact Or.inl ⟨location, kind, bytes, origin, call, harrival, hhead, horigin, hcall, rfl⟩
    next => exact Or.inr ⟨_, rfl⟩
    next => exact Or.inr ⟨_, rfl⟩
  next => exact Or.inr ⟨_, rfl⟩

theorem runAnswer_asks (W : System G₁ G₂ Gt D) (env : Consumer.Env) (message : XcmMessage)
    (c : Consumer.State D) :
    ∃ more, (runAnswer W env message c).2.sent = c.sent ++ more ∧
      ∀ message ∈ more, Asked W.consumer message := by
  rcases runAnswer_cases W env message with
    ⟨_, _, _, origin, call, _, _, _, _, hrun⟩ | ⟨e, hrun⟩
  · rw [hrun]
    exact dispatch_asks env origin call c
  · rw [hrun]
    exact ⟨[], (List.append_nil _).symm, nofun⟩

/-- A message of the pallet runs as the manager call that it asks for. -/
theorem runRequest_asked {M : Manager.Config} (hself : (selfParaSiblingLocation C).Known)
    {message : Consumer.Message} (hasked : Asked C message) :
    ∃ env call request, Consumer.Call.request C env call = .ok (some request) ∧
      (transacts message.program).head? =
        some (.xcm, encode (Bridge.Call.idnManager request)) ∧
      request.Known ∧
      ∀ now origin, runRequest M now origin message =
        Manager.dispatch M now origin request.toManager := by
  obtain ⟨who, env, call, request, hrequest, hmessage⟩ := hasked
  have hhead : (transacts message.program).head? =
      some (.xcm, encode (Bridge.Call.idnManager request)) := by
    rw [(Consumer.xcmMessage_ok hmessage).2]
    rfl
  have hknown := Consumer.Call.request_known hself hrequest
  refine ⟨env, call, request, hrequest, hhead, hknown, fun now origin => ?_⟩
  unfold runRequest
  rw [hhead]
  exact Bridge.transact_call rfl hknown

/-- Any message runs as a call of the manager, or does nothing. -/
theorem runRequest_cases {M : Manager.Config} (now : Manager.Env) (origin : Origin)
    (message : Consumer.Message) (m : Manager.State M) :
    (∃ call, (runRequest M now origin message m).2 =
        (Manager.dispatch M now origin call m).2) ∨
      (runRequest M now origin message m).2 = m := by
  unfold runRequest
  rcases (transacts message.program).head? with _ | ⟨_, bytes⟩
  · exact Or.inr rfl
  · show (∃ call, (Bridge.transact M now origin bytes m).2 = _) ∨
      (Bridge.transact M now origin bytes m).2 = m
    unfold Bridge.transact
    rcases (decodeAll bytes : Option Bridge.RuntimeCall) with _ | ⟨⟨call⟩⟩
    · exact Or.inr rfl
    · exact Or.inl ⟨call, rfl⟩

end Requests

/-! ## What a step does -/

section Effects

variable [AddCommGroup G₁] [Decode Junction] {W : System G₁ G₂ Gt D} {s t : State W}
variable {more : List (Option OpaquePublicKey × Accumulation)} {out : List Answer}

/-- What a step that keeps to the channels does, with what it makes the beacon
pallet accept and what it hands to the chain's consumers. -/
inductive Effect (W : System G₁ G₂ Gt D) (s : State W) :
    List (Option OpaquePublicKey × Accumulation) → List Answer → State W → Prop
  | beacon {findAuthor now accs idn}
      (effect : Beacon.CallEffect W.beacon (beaconEnv W findAuthor now) s.idn accs idn) :
      Effect W s (accs.map (s.idn.beaconConfig, ·)) [] { s with idn := idn }
  | called (now : Manager.Env) {origin : Origin} (call : Manager.Call)
      (elsewhere : ∀ location, origin = .xcm location →
        Manager.extractParachainLocation location ≠ .ok (selfParaSiblingLocation W.consumer)) :
      Effect W s [] []
        { s with
          idn :=
            { s.idn with
              dispatcher := (Manager.dispatch W.manager now origin call s.idn.dispatcher).2 } }
  | finalized :
      Effect W s [] []
        { s with
          idn := Beacon.onFinalize
            { s.idn with dispatcher := Manager.onFinalize W.manager s.idn.dispatcher } }
  | moved (move : W.manager.currency.Ledger → W.manager.currency.Ledger) :
      Effect W s [] []
        { s with
          idn :=
            { s.idn with
              dispatcher := { s.idn.dispatcher with ledger := move s.idn.dispatcher.ledger } } }
  | handled (now : Manager.Env) (origin : Origin) {message : Consumer.Message}
      (next : s.request = some message) :
      Effect W s [] []
        { s with
          idn :=
            { s.idn with
              dispatcher := (runRequest W.manager now origin message s.idn.dispatcher).2 }
          handled := s.handled + 1 }
  | refused {message : Consumer.Message} (next : s.request = some message) :
      Effect W s [] [] { s with handled := s.handled + 1 }
  | asked {chain : Consumer.State D} {requests : List Consumer.Message}
      (sent : chain.sent = s.chain.sent ++ requests)
      (asked : ∀ message ∈ requests, Asked W.consumer message) :
      Effect W s [] [] { s with chain := chain }
  | received {message : XcmMessage} {chain : Consumer.State D} {requests : List Consumer.Message}
      {out : List Answer} (next : s.answer = some message)
      (sent : chain.sent = s.chain.sent ++ requests)
      (asked : ∀ message ∈ requests, Asked W.consumer message)
      (handed : out.Sublist (answerIn W.consumer message).toList) :
      Effect W s [] out { s with chain := chain, received := s.received + 1 }
  | idle : Effect W s [] [] s

omit [AddCommGroup G₁] in
/-- A user is handed nothing. -/
theorem consumed_user {env : Consumer.Env} {origin : Origin} (call : Consumer.Call)
    (hfilter : W.consumer.idnOriginFilter origin = none) (s : State W) :
    Step.consumed (.user env origin call) s = [] := by
  show handedBy (Consumer.dispatch W.consumer env origin call s.chain).1 (answerOf call) = []
  rcases hd : Consumer.dispatch W.consumer env origin call s.chain with ⟨r, c⟩
  cases r with
  | error e => rfl
  | ok u =>
    rcases Consumer.dispatch_ok hd with ⟨_, hsome, _⟩ | ⟨_, request, _, _, hrequest, _⟩
    · rw [hfilter] at hsome
      cases hsome
    · show (answerOf call).toList = []
      rw [answerOf_request hrequest]
      rfl

theorem receive_effect (env : Consumer.Env) (s : State W) :
    Effect W s [] (Step.consumed (.receive env) s) (Step.apply (.receive env) s) := by
  cases hnext : s.answer with
  | none =>
    simp only [Step.consumed, Step.apply, hnext]
    exact .idle
  | some message =>
    simp only [Step.consumed, Step.apply, hnext]
    obtain ⟨requests, hsent, hasked⟩ := runAnswer_asks W env message s.chain
    refine .received hnext hsent hasked ?_
    unfold handedBy
    split
    next => exact List.Sublist.refl _
    next => exact List.nil_sublist _

/-- THE STEP RULE. -/
theorem step_effect {x : Step W} (hx : Mediated x) (s : State W) :
    Effect W s (x.accepted s) (x.consumed s) (x.apply s) := by
  cases x with
  | extrinsic findAuthor now x =>
    cases x with
    | beacon origin call =>
      exact .beacon (Beacon.Extrinsic.call_effect (beaconEnv W findAuthor now) origin call s.idn)
    | manager origin call =>
      refine .called now call fun location hlocation => ?_
      subst hlocation
      exact hx
  | finalize => exact .finalized
  | transfer move => exact .moved move
  | handle now origin =>
    cases hnext : s.request with
    | none =>
      simp only [Step.apply, hnext]
      exact .idle
    | some message =>
      simp only [Step.apply, hnext]
      exact .handled now origin hnext
  | refuse =>
    cases hnext : s.request with
    | none =>
      simp only [Step.apply, hnext]
      exact .idle
    | some message =>
      simp only [Step.apply, hnext]
      exact .refused hnext
  | user env origin call =>
    obtain ⟨requests, hsent, hasked⟩ := dispatch_asks (C := W.consumer) env origin call s.chain
    rw [consumed_user call hx]
    exact .asked hsent hasked
  | receive env => exact receive_effect env s
  | drop =>
    cases hnext : s.answer with
    | none =>
      simp only [Step.apply, hnext]
      exact .idle
    | some message =>
      simp only [Step.apply, hnext]
      exact .received hnext (List.append_nil _).symm nofun (List.nil_sublist _)

theorem Effect.sends (h : Effect W s more out t) : Sends s.idn.dispatcher t.idn.dispatcher := by
  cases h with
  | @beacon findAuthor now accs idn effect =>
    cases effect with
    | submitted first config ordered height fresh valid => exact sends_distribute now _ _
    | configured pk => exact .of_eq rfl
    | refused => exact .of_eq rfl
  | called now call elsewhere => exact sends_dispatch now _ call _
  | finalized => exact .of_eq (sent_onFinalize _)
  | moved move => exact .of_eq rfl
  | @handled now origin message next =>
    show Sends _ (runRequest W.manager now origin message s.idn.dispatcher).2
    rcases runRequest_cases now origin message s.idn.dispatcher with ⟨call, hrun⟩ | hrun
    · rw [hrun]
      exact sends_dispatch now origin call _
    · rw [hrun]
      exact .of_eq rfl
  | refused next => exact .of_eq rfl
  | asked sent asked => exact .of_eq rfl
  | received next sent asked handed => exact .of_eq rfl
  | idle => exact .of_eq rfl

theorem Effect.addressed_grows (h : Effect W s more out t) :
    addressed W.consumer s.idn.dispatcher <+: addressed W.consumer t.idn.dispatcher := by
  obtain ⟨messages, hsent, _⟩ := h.sends
  rw [addressed_append hsent]
  exact List.prefix_append _ _

/-! ## Channels -/

/-- No more has been taken than was sent, every message of the manager carries a
call, and the chain has sent requests of its pallet only. -/
structure Channels (s : State W) : Prop where
  received_le : s.received ≤ (addressed W.consumer s.idn.dispatcher).length
  handled_le : s.handled ≤ s.chain.sent.length
  made : ∀ message ∈ s.idn.dispatcher.sent, Made W.manager message
  asked : ∀ message ∈ s.chain.sent, Asked W.consumer message

theorem Channels.effect (heffect : Effect W s more out t) (h : Channels s) : Channels t := by
  have hgrows := h.received_le.trans heffect.addressed_grows.length_le
  have hmade : ∀ message ∈ t.idn.dispatcher.sent, Made W.manager message := by
    obtain ⟨messages, hsent, hmade⟩ := heffect.sends
    rw [hsent]
    exact List.forall_mem_append.mpr ⟨h.made, hmade⟩
  have hasked : ∀ {chain : Consumer.State D} {requests : List Consumer.Message},
      chain.sent = s.chain.sent ++ requests →
      (∀ message ∈ requests, Asked W.consumer message) →
      s.handled ≤ chain.sent.length ∧ ∀ message ∈ chain.sent, Asked W.consumer message := by
    intro chain requests hsent hasked
    rw [hsent, List.length_append]
    exact ⟨h.handled_le.trans (Nat.le_add_right _ _),
      List.forall_mem_append.mpr ⟨h.asked, hasked⟩⟩
  cases heffect with
  | beacon effect => exact ⟨hgrows, h.handled_le, hmade, h.asked⟩
  | called now call elsewhere => exact ⟨hgrows, h.handled_le, hmade, h.asked⟩
  | finalized => exact ⟨hgrows, h.handled_le, hmade, h.asked⟩
  | moved move => exact ⟨hgrows, h.handled_le, hmade, h.asked⟩
  | handled now origin next =>
    exact ⟨hgrows, (List.getElem?_eq_some_iff.mp next).1, hmade, h.asked⟩
  | refused next => exact ⟨hgrows, (List.getElem?_eq_some_iff.mp next).1, hmade, h.asked⟩
  | asked sent asked =>
    obtain ⟨hhandled, hall⟩ := hasked sent asked
    exact ⟨hgrows, hhandled, hmade, hall⟩
  | received next sent asked handed =>
    obtain ⟨hhandled, hall⟩ := hasked sent asked
    exact ⟨(List.getElem?_eq_some_iff.mp next).1, hhandled, hmade, hall⟩
  | idle => exact h

/-- Nothing has been sent or taken. -/
structure Initial (s : State W) : Prop where
  manager : s.idn.dispatcher.sent = []
  chain : s.chain.sent = []
  received : s.received = 0
  handled : s.handled = 0

omit [AddCommGroup G₁] [Decode Junction] in
theorem Initial.channels (h : Initial s) : Channels s where
  received_le := by
    rw [h.received]
    exact Nat.zero_le _
  handled_le := by
    rw [h.handled]
    exact Nat.zero_le _
  made := by
    rw [h.manager]
    nofun
  asked := by
    rw [h.chain]
    nofun

/-- What the chain has taken from the network. -/
def State.taken (s : State W) : List XcmMessage :=
  (addressed W.consumer s.idn.dispatcher).take s.received

/-- What the network has taken from the chain. -/
def State.served (s : State W) : List Consumer.Message := s.chain.sent.take s.handled

omit [AddCommGroup G₁] [Decode Junction] in
theorem taken_concat {message : XcmMessage} (h : s.answer = some message) :
    (addressed W.consumer s.idn.dispatcher).take (s.received + 1) = s.taken ++ [message] := by
  rw [List.take_add_one]
  show _ ++ s.answer.toList = _
  rw [h]
  rfl

/-- Sending more does not change what was taken. -/
theorem Effect.taken_of_received (heffect : Effect W s more out t) (h : Channels s)
    (hsame : t.received = s.received) : t.taken = s.taken ++ [] := by
  obtain ⟨messages, hmessages⟩ := heffect.addressed_grows
  rw [State.taken, hsame, ← hmessages, List.take_append_of_le_length h.received_le,
    List.append_nil, State.taken]

/-- What a step hands over stands in the message that it takes. -/
theorem Effect.consumed (heffect : Effect W s more out t) (h : Channels s) :
    ∃ messages, t.taken = s.taken ++ messages ∧
      out.Sublist (messages.filterMap (answerIn W.consumer)) := by
  have hquiet := heffect.taken_of_received h
  cases heffect with
  | @received message chain requests out next sent asked handed =>
    refine ⟨[message], taken_concat next, ?_⟩
    rw [List.filterMap_cons]
    cases hanswer : answerIn W.consumer message <;> (rw [hanswer] at handed; exact handed)
  | beacon effect => exact ⟨[], hquiet rfl, List.nil_sublist _⟩
  | called now call elsewhere => exact ⟨[], hquiet rfl, List.nil_sublist _⟩
  | finalized => exact ⟨[], hquiet rfl, List.nil_sublist _⟩
  | moved move => exact ⟨[], hquiet rfl, List.nil_sublist _⟩
  | handled now origin next => exact ⟨[], hquiet rfl, List.nil_sublist _⟩
  | refused next => exact ⟨[], hquiet rfl, List.nil_sublist _⟩
  | asked sent asked => exact ⟨[], hquiet rfl, List.nil_sublist _⟩
  | idle => exact ⟨[], hquiet rfl, List.nil_sublist _⟩

/-- What the chain's consumers were handed, they were handed in messages that
the chain has taken, in that order and each once. -/
theorem consumed_sublist {steps : List (Step W)} (hmediated : ∀ x ∈ steps, Mediated x)
    (hinit : Initial s) :
    (consumed W steps s).Sublist ((run W steps s).taken.filterMap (answerIn W.consumer)) := by
  suffices hrun : Channels (run W steps s) ∧ (consumed W steps s).Sublist
      ((run W steps s).taken.filterMap (answerIn W.consumer)) from hrun.2
  refine Runs.run_invariant_outputs Step.apply
    (Q := fun (log : List Answer) (u : State W) =>
      Channels u ∧ log.Sublist (u.taken.filterMap (answerIn W.consumer))) []
    ⟨hinit.channels, List.nil_sublist _⟩ ?_
  rintro x hmem log u ⟨hchannels, hlog⟩
  have heffect := step_effect (hmediated x hmem) u
  obtain ⟨messages, htaken, hmore⟩ := heffect.consumed hchannels
  refine ⟨hchannels.effect heffect, ?_⟩
  rw [htaken, List.filterMap_append]
  exact hlog.append hmore

end Effects

end IdealNetwork.Network
