import IdealNetwork.Network.System

/-!
# What reaches the consumers

The chain hands its consumers what it reads in the messages it takes, and it
reads whatever somebody wrote. Over all runs of the two chains that keep to the
channels, with any extrinsics on either side, any interleaving, and any messages
and consumers that fail, two things still hold.

A pulse that is handed over was verified and accepted by the beacon pallet, and
for each subscription the pulses come in the order of their rounds, and none
comes twice, the last round there is apart (`pulses_authentic`). A quote that is
handed over is the answer to a request that a user of this chain made through the
pallet, and the answers come in the order of the requests, one each at most
(`quotes_authentic`).

Neither is checked by the chain, and neither depends on which origins the
executor gives to the calls. Both follow from what the manager can send:
a delivery carries the pulse of its own distribution, an answer carries the
callback of its own request, and the lengths keep the rest apart.
-/

set_option autoImplicit false

namespace IdealNetwork.Network

open Scale Storage Xcm
open Beacon (Accumulation)
open Consumer (selfParaSiblingLocation)
open Manager (XcmMessage)

variable {G₁ G₂ Gt D : Type}

/-! ## Reading one message -/

section Reading

variable [Decode Junction] {C : Consumer.Config D} {M : Manager.Config} {message : XcmMessage}

theorem reading_xcmMessage {acc : AccountId32} {target : Location} {bytes : Bytes}
    {kind : OriginKind} (h : Manager.xcmMessage M acc target bytes kind = some message) :
    reading C message = Consumer.decodeCall C bytes := by
  obtain ⟨_, _, htransacts⟩ := Consumer.xcmMessage_parts h
  unfold reading
  rw [htransacts]
  rfl

theorem answerIn_eq_some {answer : Answer} :
    answerIn C message = some answer ↔
      ∃ call, reading C message = some call ∧ answerOf call = some answer :=
  Option.bind_eq_some_iff

omit [Decode Junction] in
theorem answerOf_pulse {call : Consumer.Call} {pulse : RuntimePulse} {subId : SubscriptionId}
    (h : answerOf call = some (.pulse pulse subId)) : call = .consumePulse pulse subId := by
  cases call <;> cases h
  rfl

omit [Decode Junction] in
theorem answerOf_quote {call : Consumer.Call} {quote : Quote}
    (h : answerOf call = some (.quote quote)) : call = .consumeQuote quote := by
  cases call <;> cases h
  rfl

/-- A delivery hands over its own pulse, if any, and no quote. -/
theorem answerIn_delivery {pulse : RuntimePulse} {subId : SubscriptionId} {sub : SubscriptionOf}
    (h : Manager.pulseMessage M pulse subId sub = some message) :
    (∀ pulse' subId', answerIn C message = some (.pulse pulse' subId') →
        pulse' = pulse ∧ subId' = subId) ∧
      ∀ quote, answerIn C message ≠ some (.quote quote) := by
  have hreading := reading_xcmMessage (C := C) h
  constructor
  · intro pulse' subId' hanswer
    obtain ⟨call, hcall, hof⟩ := answerIn_eq_some.mp hanswer
    rw [hreading, answerOf_pulse hof] at hcall
    exact (Consumer.decodeCall_delivery_iff.mp hcall).2
  · intro quote hanswer
    obtain ⟨call, hcall, hof⟩ := answerIn_eq_some.mp hanswer
    rw [hreading, answerOf_quote hof] at hcall
    exact Consumer.decodeCall_delivery_ne_quote _ _ _ _ hcall

omit [Decode Junction] in
/-- A quote does not depend on who asks and when. -/
theorem quoteFor_eq (now now' : Manager.Env) (acc acc' : AccountId32) (params : QuoteSubParamsOf) :
    Manager.quoteFor M now acc params = Manager.quoteFor M now' acc' params := by
  unfold Manager.quoteFor Manager.calculateStorageDepositFromCreateParams
    Manager.calculateStorageDeposit
  rw [Manager.encodedSize_newSubscription, Manager.encodedSize_newSubscription]

omit [Decode Junction] in
theorem quoteFor_fits (now : Manager.Env) (acc : AccountId32) (params : QuoteSubParamsOf) :
    (Manager.quoteFor M now acc params).Fits := by
  refine ⟨lt_of_lt_of_le (UInt64.toNat_lt _) (by decide), ?_⟩
  exact lt_of_le_of_lt (min_le_right _ _) (by decide)

/-- The quote that a message of the chain asks for. -/
def quoteAsked (M : Manager.Config) (message : Consumer.Message) : Option Quote :=
  (transacts message.program).head?.bind fun p =>
    match (decodeAll p.2 : Option Bridge.RuntimeCall) with
    | some (.idnManager (.quoteSubscription params)) =>
      some (Manager.quoteFor M ⟨0, fun _ => .ok ()⟩ (Vector.replicate 32 0) params)
    | _ => none

omit [Decode Junction] in
/-- The pallet asks for a quote with its callback for quotes. -/
theorem request_callback {env : Consumer.Env} {call : Consumer.Call} {params : QuoteSubParamsOf}
    (h : Consumer.Call.request C env call = .ok (some (.quoteSubscription params))) :
    Consumer.quoteCallbackCallData C = .ok params.call := by
  cases call with
  | createSubscription credits frequency metadata subId originKind =>
    obtain ⟨_, _, heq⟩ := except_bind_ok.mp h
    cases heq
  | requestQuote numberOfPulses frequency metadata subId reqRef originKind =>
    obtain ⟨_, _, h⟩ := except_bind_ok.mp h
    obtain ⟨answer, hanswer, heq⟩ := except_bind_ok.mp h
    cases heq
    exact hanswer
  | requestSubInfo subId reqRef originKind =>
    obtain ⟨_, _, heq⟩ := except_bind_ok.mp h
    cases heq
  | _ => cases h

theorem quoteAsked_of_head {kind : OriginKind} {params : QuoteSubParamsOf}
    (hknown : (Bridge.IdnManagerCall.quoteSubscription params).Known) {request : Consumer.Message}
    (h : (transacts request.program).head? =
      some (kind, encode (Bridge.Call.idnManager (.quoteSubscription params))))
    (now : Manager.Env) (acc : AccountId32) :
    quoteAsked M request = some (Manager.quoteFor M now acc params) := by
  have hdecode : (decodeAll (encode (Bridge.Call.idnManager (.quoteSubscription params))) :
      Option Bridge.RuntimeCall) = some (.idnManager (.quoteSubscription params)) :=
    Bridge.decodeAll_call hknown
  unfold quoteAsked
  rw [h, Option.bind_some]
  simp only [hdecode]
  exact congrArg some (quoteFor_eq _ _ _ _ params)

/-- A quote, sent with the callback for quotes, hands over the quote. -/
theorem answerIn_quote {acc : AccountId32} {target : Location} {c : CallData} {quote : Quote}
    {kind : OriginKind} (hcallback : Consumer.quoteCallbackCallData C = .ok c)
    (hfits : quote.Fits)
    (h : Manager.xcmMessage M acc target (c.toList ++ encode quote) kind = some message) :
    answerIn C message = some (.quote quote) :=
  answerIn_eq_some.mpr
    ⟨_, (reading_xcmMessage h).trans (Consumer.decodeCall_quote hcallback hfits), rfl⟩

/-- A subscription's data hand over neither a pulse nor a quote. -/
theorem answerIn_subInfo {acc : AccountId32} {target : Location} {c : CallData}
    {response : SubInfoResponse SubscriptionOf} {kind : OriginKind}
    (h : Manager.xcmMessage M acc target (c.toList ++ encode response) kind = some message) :
    (∀ pulse subId, answerIn C message ≠ some (.pulse pulse subId)) ∧
      ∀ quote, answerIn C message ≠ some (.quote quote) := by
  have hreading := reading_xcmMessage (C := C) h
  constructor
  · intro pulse subId hanswer
    obtain ⟨call, hcall, hof⟩ := answerIn_eq_some.mp hanswer
    rw [hreading, answerOf_pulse hof] at hcall
    exact Consumer.decodeCall_subInfo_ne_pulse _ _ _ _ hcall
  · intro quote hanswer
    obtain ⟨call, hcall, hof⟩ := answerIn_eq_some.mp hanswer
    rw [hreading, answerOf_quote hof] at hcall
    exact Consumer.decodeCall_subInfo_ne_quote _ _ _ hcall

omit [Decode Junction] in
/-- One more message is one more for the chain, or none. -/
theorem addressed_concat {m n : Manager.State M} (h : n.sent = m.sent ++ [message]) :
    addressed C n = addressed C m ∨ addressed C n = addressed C m ++ [message] := by
  rw [addressed_append h]
  by_cases htarget : message.target = selfParaSiblingLocation C
  · rw [List.filter_cons_of_pos (by simpa using htarget), List.filter_nil]
    exact Or.inr rfl
  · rw [List.filter_cons_of_neg (by simpa using htarget), List.filter_nil, List.append_nil]
    exact Or.inl rfl

/-- What the network sends the chain for a message of its pallet, whatever origin
it makes the call under: nothing, or the quote asked for, or something that is
neither a pulse nor a quote. -/
theorem addressed_request (hself : (selfParaSiblingLocation C).Known)
    {request : Consumer.Message} (hasked : Asked C request) (now : Manager.Env) (origin : Origin)
    (m : Manager.State M) :
    addressed C (runRequest M now origin request m).2 = addressed C m ∨
      ∃ reply, addressed C (runRequest M now origin request m).2 = addressed C m ++ [reply] ∧
        (∀ pulse subId, answerIn C reply ≠ some (.pulse pulse subId)) ∧
        ∀ quote, answerIn C reply = some (.quote quote) → quoteAsked M request = some quote := by
  obtain ⟨env, call, asks, hrequest, hhead, hknown, hrun⟩ := runRequest_asked (M := M) hself hasked
  rw [hrun]
  rcases dispatch_sends now origin asks.toManager m with hsame |
    ⟨requester, target, acc, bytes, kind, reply, _, hanswers, hmade, hsent⟩
  · exact Or.inl (addressed_congr hsame)
  rcases addressed_concat (C := C) hsent with hsame | hmore
  · exact Or.inl hsame
  refine Or.inr ⟨reply, hmore, ?_⟩
  generalize hcall : asks.toManager = managerCall at hanswers
  cases hanswers with
  | quote params =>
    have hasks : asks = .quoteSubscription params := by
      cases asks <;> cases hcall
      rfl
    subst hasks
    have hreply := answerIn_quote (request_callback hrequest) (quoteFor_fits now acc params) hmade
    refine ⟨fun pulse subId hanswer => ?_, fun quote hanswer => ?_⟩
    · cases hreply.symm.trans hanswer
    · cases hreply.symm.trans hanswer
      exact quoteAsked_of_head hknown hhead now acc
  | @subInfo req sub stored =>
    obtain ⟨hpulse, hquote⟩ := answerIn_subInfo (C := C) hmade
    exact ⟨hpulse, fun quote hanswer => absurd hanswer (hquote quote)⟩

end Reading

/-! ## Pulses and quotes in the channel -/

section Channel

variable [Decode Junction] {C : Consumer.Config D} {M : Manager.Config} {id : SubscriptionId}

/-- The pulse that is handed over for a subscription. -/
def pulseFor (id : SubscriptionId) : Answer → Option RuntimePulse
  | .pulse pulse subId => if subId = id then some pulse else none
  | _ => none

/-- The quote that is handed over. -/
def quoteIn : Answer → Option Quote
  | .quote quote => some quote
  | _ => none

/-- The pulses for a subscription that the chain can read in what was sent to
it. -/
def pulsesTo (C : Consumer.Config D) (id : SubscriptionId) (m : Manager.State M) :
    List RuntimePulse :=
  (addressed C m).filterMap fun message => (answerIn C message).bind (pulseFor id)

/-- The quotes that the chain can read in what was sent to it. -/
def quotesTo (C : Consumer.Config D) (m : Manager.State M) : List Quote :=
  (addressed C m).filterMap fun message => (answerIn C message).bind quoteIn

omit [Decode Junction] in
theorem pulseFor_eq_some {answer : Answer} {pulse : RuntimePulse} :
    pulseFor id answer = some pulse ↔ answer = .pulse pulse id := by
  cases answer with
  | pulse pulse' subId => simp [pulseFor, and_comm]
  | quote quote => exact ⟨nofun, nofun⟩
  | subInfo subInfo => exact ⟨nofun, nofun⟩

omit [Decode Junction] in
theorem quoteIn_eq_some {answer : Answer} {quote : Quote} :
    quoteIn answer = some quote ↔ answer = .quote quote := by
  cases answer with
  | quote quote' => simp [quoteIn]
  | pulse pulse subId => exact ⟨nofun, nofun⟩
  | subInfo subInfo => exact ⟨nofun, nofun⟩

/-- One more message, read. -/
theorem filterMap_addressed_concat {β : Type} {m n : Manager.State M} {message : XcmMessage}
    (f : Answer → Option β) (h : n.sent = m.sent ++ [message]) :
    (addressed C n).filterMap (fun message => (answerIn C message).bind f) =
        (addressed C m).filterMap (fun message => (answerIn C message).bind f) ∨
      ∃ b, (answerIn C message).bind f = some b ∧
        (addressed C n).filterMap (fun message => (answerIn C message).bind f) =
          (addressed C m).filterMap (fun message => (answerIn C message).bind f) ++ [b] := by
  rcases addressed_concat (C := C) h with hsame | hmore
  · rw [hsame]
    exact Or.inl rfl
  · rw [hmore, List.filterMap_append, List.filterMap_cons, List.filterMap_nil]
    cases hread : (answerIn C message).bind f with
    | none => exact Or.inl (List.append_nil _)
    | some b => exact Or.inr ⟨b, rfl, rfl⟩

/-- An iteration adds its own pulse to its own subscription, at most. -/
theorem pulsesTo_iteration (C : Consumer.Config D) (id : SubscriptionId) {now : Manager.Env}
    {pulse : RuntimePulse} {subId : SubscriptionId} {sub : SubscriptionOf} {m n : Manager.State M}
    (h : Manager.Iteration M now pulse subId sub m n) :
    pulsesTo C id n = pulsesTo C id m ∨
      (subId = id ∧ pulsesTo C id n = pulsesTo C id m ++ [pulse]) := by
  rcases h.sent with ⟨_, hsame⟩ | ⟨_, message, hmade, hsent⟩
  · unfold pulsesTo
    rw [addressed_congr hsame]
    exact Or.inl rfl
  · rcases filterMap_addressed_concat (C := C) (pulseFor id) hsent with hnone | ⟨p, hp, hmore⟩
    · exact Or.inl hnone
    · obtain ⟨answer, hanswer, hpulse⟩ := Option.bind_eq_some_iff.mp hp
      rw [pulseFor_eq_some.mp hpulse] at hanswer
      obtain ⟨rfl, rfl⟩ := (answerIn_delivery hmade).1 _ _ hanswer
      exact Or.inr ⟨rfl, hmore⟩

theorem quotesTo_iteration {now : Manager.Env} {pulse : RuntimePulse} {subId : SubscriptionId}
    {sub : SubscriptionOf} {m n : Manager.State M}
    (h : Manager.Iteration M now pulse subId sub m n) : quotesTo C n = quotesTo C m := by
  rcases h.sent with ⟨_, hsame⟩ | ⟨_, message, hmade, hsent⟩
  · unfold quotesTo
    rw [addressed_congr hsame]
  · rcases filterMap_addressed_concat (C := C) quoteIn hsent with hnone | ⟨q, hq, _⟩
    · exact hnone
    · obtain ⟨answer, hanswer, hquote⟩ := Option.bind_eq_some_iff.mp hq
      rw [quoteIn_eq_some.mp hquote] at hanswer
      exact absurd hanswer ((answerIn_delivery hmade).2 q)

/-- A distribution adds its pulse once to a subscription, at most. -/
theorem pulsesTo_distribute (C : Consumer.Config D) (id : SubscriptionId) (now : Manager.Env)
    (pulse : RuntimePulse) (m : Manager.State M) :
    pulsesTo C id (Manager.distribute M now pulse m) = pulsesTo C id m ∨
      pulsesTo C id (Manager.distribute M now pulse m) = pulsesTo C id m ++ [pulse] := by
  have hother : ∀ subId sub (u : Manager.State M), subId ≠ id →
      pulsesTo C id (Manager.distributeOne M now pulse subId sub u) = pulsesTo C id u := by
    intro subId sub u hne
    rcases pulsesTo_iteration C id
      (Manager.distributeOne_cases now pulse subId sub u) with hsame | ⟨heq, _⟩
    · exact hsame
    · exact absurd heq hne
  cases hstored : m.subscriptions.lookup id with
  | none => exact Or.inl (Manager.distribute_observe_none now pulse hother hstored)
  | some sub =>
    obtain ⟨hreached, hleft⟩ := Manager.distribute_observe_some now pulse hother hstored
    rw [hleft, ← hreached]
    rcases pulsesTo_iteration C id (Manager.distributeOne_cases now pulse id sub
      (Manager.reached M now pulse id m)) with hsame | ⟨_, hmore⟩
    · exact Or.inl hsame
    · exact Or.inr hmore

theorem quotesTo_distribute (now : Manager.Env) (pulse : RuntimePulse) (m : Manager.State M) :
    quotesTo C (Manager.distribute M now pulse m) = quotesTo C m :=
  Manager.distribute_invariant (P := fun u => quotesTo C u = quotesTo C m) rfl
    fun _ _ hiter hu => (quotesTo_iteration hiter).trans hu

/-- A request of the chain's pallet makes the network send no pulse. -/
theorem pulsesTo_request (hself : (selfParaSiblingLocation C).Known) {request : Consumer.Message}
    (hasked : Asked C request) (now : Manager.Env) (origin : Origin) (m : Manager.State M) :
    pulsesTo C id (runRequest M now origin request m).2 = pulsesTo C id m := by
  rcases addressed_request hself hasked now origin m with hsame | ⟨reply, hmore, hpulse, _⟩
  · rw [pulsesTo, hsame, pulsesTo]
  · have hnone : (answerIn C reply).bind (pulseFor id) = none := by
      refine Option.eq_none_iff_forall_ne_some.mpr fun pulse hsome => ?_
      obtain ⟨answer, hanswer, hof⟩ := Option.bind_eq_some_iff.mp hsome
      rw [pulseFor_eq_some.mp hof] at hanswer
      exact hpulse pulse id hanswer
    rw [pulsesTo, hmore, List.filterMap_append, List.filterMap_cons, hnone]
    exact List.append_nil _

/-- It makes it send no quote but the one asked for. -/
theorem quotesTo_request (hself : (selfParaSiblingLocation C).Known) {request : Consumer.Message}
    (hasked : Asked C request) (now : Manager.Env) (origin : Origin) (m : Manager.State M) :
    ∃ quotes, quotesTo C (runRequest M now origin request m).2 = quotesTo C m ++ quotes ∧
      quotes.Sublist ([request].filterMap (quoteAsked M)) := by
  rcases addressed_request hself hasked now origin m with hsame | ⟨reply, hmore, _, hquote⟩
  · refine ⟨[], ?_, List.nil_sublist _⟩
    rw [quotesTo, hsame, List.append_nil, quotesTo]
  · cases hread : (answerIn C reply).bind quoteIn with
    | none =>
      refine ⟨[], ?_, List.nil_sublist _⟩
      rw [quotesTo, hmore, List.filterMap_append, List.filterMap_cons, hread]
      rfl
    | some quote =>
      obtain ⟨answer, hanswer, hof⟩ := Option.bind_eq_some_iff.mp hread
      rw [quoteIn_eq_some.mp hof] at hanswer
      refine ⟨[quote], ?_, ?_⟩
      · rw [quotesTo, hmore, List.filterMap_append, List.filterMap_cons, hread]
        rfl
      · rw [List.filterMap_cons, hquote quote hanswer]
        exact List.Sublist.refl _

end Channel

/-! ## Runs -/

section Runs

variable [AddCommGroup G₁] [Decode Junction] {W : System G₁ G₂ Gt D} {s t : State W}
variable {more : List (Option OpaquePublicKey × Accumulation)} {out : List Answer}
variable {id : SubscriptionId}

/-- What a step makes the chain be sent as pulses of a subscription, it makes
the beacon pallet accept. -/
theorem Effect.pulses (id : SubscriptionId) (hself : (selfParaSiblingLocation W.consumer).Known)
    (heffect : Effect W s more out t) (h : Channels s) :
    ∃ pulses, pulsesTo W.consumer id t.idn.dispatcher =
        pulsesTo W.consumer id s.idn.dispatcher ++ pulses ∧
      pulses.Sublist (more.map fun a => a.2.toPulse) := by
  have hquiet : addressed W.consumer t.idn.dispatcher = addressed W.consumer s.idn.dispatcher →
      ∃ pulses, pulsesTo W.consumer id t.idn.dispatcher =
          pulsesTo W.consumer id s.idn.dispatcher ++ pulses ∧
        pulses.Sublist (more.map fun a => a.2.toPulse) := by
    intro hsame
    refine ⟨[], ?_, List.nil_sublist _⟩
    rw [pulsesTo, hsame, List.append_nil, pulsesTo]
  cases heffect with
  | @beacon findAuthor now accs idn effect =>
    cases effect with
    | @submitted acc key first config ordered height fresh valid =>
      rcases pulsesTo_distribute W.consumer id now acc.toPulse s.idn.dispatcher with hsame | hmore
      · exact ⟨[], hsame.trans (List.append_nil _).symm, List.nil_sublist _⟩
      · exact ⟨[acc.toPulse], hmore, List.Sublist.refl _⟩
    | configured pk => exact hquiet rfl
    | refused => exact hquiet rfl
  | called now call elsewhere => exact hquiet (addressed_elsewhere now call _ elsewhere)
  | finalized => exact hquiet (addressed_congr (sent_onFinalize _))
  | moved move => exact hquiet rfl
  | @handled now origin message next =>
    have hasked := h.asked message (List.mem_of_getElem? next)
    refine ⟨[], ?_, List.nil_sublist _⟩
    exact (pulsesTo_request hself hasked now origin _).trans (List.append_nil _).symm
  | refused next => exact hquiet rfl
  | asked sent asked => exact hquiet rfl
  | received next sent asked handed => exact hquiet rfl
  | idle => exact hquiet rfl

/-- What has been accepted, with its keys: ranges that are not empty, each after
those before it, and all before the next round; and each signature was verified
under the key of its time. Both the next round and what it is compared with stop
at the last round there is. -/
structure Accepted (W : System G₁ G₂ Gt D) (log : List (Option OpaquePublicKey × Accumulation))
    (s : State W) : Prop where
  nonempty : ∀ a ∈ log, a.2.start ≤ a.2.end
  increasing : log.Pairwise fun a b => a.2.end.saturatingAdd 1 ≤ b.2.start
  below : ∀ a ∈ log, a.2.end.saturatingAdd 1 ≤ s.idn.nextRound
  verified : ∀ a ∈ log, ∃ key, a.1 = some key ∧
    Beacon.verifyBeaconSignature W.beacon key a.2.signature a.2.start a.2.end = .ok ()

variable {log : List (Option OpaquePublicKey × Accumulation)}

omit [Decode Junction] in
theorem Accepted.nil : Accepted W [] s where
  nonempty := List.forall_mem_nil _
  increasing := .nil
  below := List.forall_mem_nil _
  verified := List.forall_mem_nil _

omit [Decode Junction] in
/-- A submission that is accepted comes after all others. -/
theorem Accepted.submitted {acc : Accumulation} {key : OpaquePublicKey} (h : Accepted W log s)
    (ordered : acc.start ≤ acc.end) (fresh : s.idn.nextRound ≤ acc.start)
    (valid : Beacon.verifyBeaconSignature W.beacon key acc.signature acc.start acc.end = .ok ())
    (hnext : t.idn.nextRound = acc.end.saturatingAdd 1) :
    Accepted W (log ++ [(some key, acc)]) t where
  nonempty := List.forall_mem_append.mpr ⟨h.nonempty, List.forall_mem_singleton.mpr ordered⟩
  increasing := List.pairwise_append.mpr ⟨h.increasing, List.pairwise_singleton _ _,
    fun a ha b hb => by
      obtain rfl := List.mem_singleton.mp hb
      exact UInt64.le_trans (h.below a ha) fresh⟩
  below := by
    rw [hnext]
    refine List.forall_mem_append.mpr ⟨fun a ha => ?_, List.forall_mem_singleton.mpr
      (UInt64.le_refl _)⟩
    exact UInt64.le_trans (UInt64.le_trans (h.below a ha) fresh)
      (UInt64.le_trans ordered (UInt64.le_saturatingAdd _ 1))
  verified := List.forall_mem_append.mpr
    ⟨h.verified, List.forall_mem_singleton.mpr ⟨key, rfl, valid⟩⟩

omit [Decode Junction] in
theorem Accepted.congr (h : Accepted W log s) (hnext : t.idn.nextRound = s.idn.nextRound) :
    Accepted W (log ++ []) t := by
  rw [List.append_nil]
  exact ⟨h.nonempty, h.increasing, hnext ▸ h.below, h.verified⟩

theorem Accepted.effect (heffect : Effect W s more out t) (h : Accepted W log s) :
    Accepted W (log ++ more) t := by
  cases heffect with
  | @beacon findAuthor now accs idn effect =>
    cases effect with
    | @submitted acc key first config ordered height fresh valid =>
      rw [List.map_singleton, config]
      exact h.submitted ordered fresh valid rfl
    | configured pk => exact h.congr rfl
    | refused => exact h.congr rfl
  | called now call elsewhere => exact h.congr rfl
  | finalized => exact h.congr rfl
  | moved move => exact h.congr rfl
  | handled now origin next => exact h.congr rfl
  | refused next => exact h.congr rfl
  | asked sent asked => exact h.congr rfl
  | received next sent asked handed => exact h.congr rfl
  | idle => exact h.congr rfl

/-- Over a run, the pulses that the chain can read for a subscription are some of
those accepted. -/
theorem accepted_run (hself : (selfParaSiblingLocation W.consumer).Known) {steps : List (Step W)}
    (hmediated : ∀ x ∈ steps, Mediated x) (hinit : Initial s) (id : SubscriptionId) :
    Accepted W (accepted W steps s) (run W steps s) ∧
      (pulsesTo W.consumer id (run W steps s).idn.dispatcher).Sublist
        ((accepted W steps s).map fun a => a.2.toPulse) := by
  have hnone : pulsesTo W.consumer id s.idn.dispatcher = [] := by
    rw [pulsesTo, addressed, hinit.manager]
    rfl
  suffices hrun : Channels (run W steps s) ∧
      Accepted W (accepted W steps s) (run W steps s) ∧
      (pulsesTo W.consumer id (run W steps s).idn.dispatcher).Sublist
        ((accepted W steps s).map fun a => a.2.toPulse) from hrun.2
  refine Runs.run_invariant_outputs Step.apply
    (Q := fun log (u : State W) => Channels u ∧ Accepted W log u ∧
      (pulsesTo W.consumer id u.idn.dispatcher).Sublist (log.map fun a => a.2.toPulse)) []
    ⟨hinit.channels, .nil, by rw [hnone]; exact .slnil⟩ ?_
  rintro x hmem log u ⟨hchannels, haccepted, hpulses⟩
  have heffect := step_effect (hmediated x hmem) u
  obtain ⟨pulses, hmore, hsub⟩ := heffect.pulses id hself hchannels
  refine ⟨hchannels.effect heffect, haccepted.effect heffect, ?_⟩
  rw [hmore, List.map_append]
  exact hpulses.append hsub

/-- PULSES ARE AUTHENTIC. In every run of the two chains that keeps to the
channels, the pulses that the chain's consumer takes for a subscription are
some of those that the beacon pallet has accepted, in their order. Each starts
after the end of those before it, unless both are at the last round there is, and
each is a signature that was verified, for a range of rounds that is not empty,
under the key that was configured when it was accepted. -/
theorem pulses_authentic (hself : (selfParaSiblingLocation W.consumer).Known)
    {steps : List (Step W)} (hmediated : ∀ x ∈ steps, Mediated x) (hinit : Initial s)
    (id : SubscriptionId) :
    let pulses := (consumed W steps s).filterMap (pulseFor id)
    pulses.Sublist ((accepted W steps s).map fun a => a.2.toPulse) ∧
      (pulses.Pairwise fun p q => p.end < q.start ∨
        p.end = UInt64.maxValue ∧ q.start = UInt64.maxValue) ∧
      ∀ p ∈ pulses, p.start ≤ p.end ∧ ∃ key,
        (some key, ⟨p.signature, p.start, p.end⟩) ∈ accepted W steps s ∧
        Beacon.verifyBeaconSignature W.beacon key p.signature p.start p.end = .ok () := by
  intro pulses
  obtain ⟨haccepted, hchannel⟩ := accepted_run hself hmediated hinit id
  have hsub : pulses.Sublist ((accepted W steps s).map fun a => a.2.toPulse) := by
    refine List.Sublist.trans ?_ hchannel
    refine ((consumed_sublist hmediated hinit).filterMap (pulseFor id)).trans ?_
    rw [List.filterMap_filterMap]
    exact (List.take_sublist _ _).filterMap _
  refine ⟨hsub, ?_, fun p hp => ?_⟩
  · exact (List.pairwise_map.mpr (haccepted.increasing.imp UInt64.lt_or_maxValue)).sublist hsub
  · obtain ⟨⟨k, acc⟩, hmem, rfl⟩ := List.mem_map.mp (hsub.subset hp)
    obtain ⟨key, rfl, hvalid⟩ := haccepted.verified _ hmem
    exact ⟨haccepted.nonempty _ hmem, key, hmem, hvalid⟩

/-- What a step makes the chain be sent as quotes, it answers to requests that
it takes from the chain. -/
theorem Effect.quotes (hself : (selfParaSiblingLocation W.consumer).Known)
    (heffect : Effect W s more out t) (h : Channels s) :
    ∃ quotes requests, quotesTo W.consumer t.idn.dispatcher =
        quotesTo W.consumer s.idn.dispatcher ++ quotes ∧ t.served = s.served ++ requests ∧
      quotes.Sublist (requests.filterMap (quoteAsked W.manager)) := by
  have hkept : ∀ {n : ℕ} {requests : List Consumer.Message}, n = s.handled →
      (s.chain.sent ++ requests).take n = s.served ++ [] := by
    rintro n requests rfl
    rw [List.take_append_of_le_length h.handled_le, List.append_nil]
    rfl
  have hnext : ∀ {message : Consumer.Message}, s.request = some message →
      s.chain.sent.take (s.handled + 1) = s.served ++ [message] := by
    intro message hmessage
    rw [List.take_add_one]
    show s.served ++ s.request.toList = _
    rw [hmessage]
    rfl
  have hsame : ∀ {m : Manager.State W.manager},
      addressed W.consumer m = addressed W.consumer s.idn.dispatcher →
      quotesTo W.consumer m = quotesTo W.consumer s.idn.dispatcher ++ [] := by
    intro m hm
    rw [quotesTo, hm, List.append_nil, quotesTo]
  have hserved : s.chain.sent.take s.handled = s.served ++ [] := (List.append_nil _).symm
  cases heffect with
  | @beacon findAuthor now accs idn effect =>
    refine ⟨[], [], ?_, hserved, List.nil_sublist _⟩
    cases effect with
    | submitted first config ordered height fresh valid =>
      exact (quotesTo_distribute now _ _).trans (List.append_nil _).symm
    | configured pk => exact hsame rfl
    | refused => exact hsame rfl
  | called now call elsewhere =>
    exact ⟨[], [], hsame (addressed_elsewhere now call _ elsewhere), hserved, List.nil_sublist _⟩
  | finalized =>
    exact ⟨[], [], hsame (addressed_congr (sent_onFinalize _)), hserved, List.nil_sublist _⟩
  | moved move => exact ⟨[], [], hsame rfl, hserved, List.nil_sublist _⟩
  | @handled now origin message next =>
    have hasked := h.asked message (List.mem_of_getElem? next)
    obtain ⟨quotes, hmore, hsub⟩ := quotesTo_request hself hasked now origin s.idn.dispatcher
    exact ⟨quotes, [message], hmore, hnext next, hsub⟩
  | @refused message next =>
    exact ⟨[], [message], hsame rfl, hnext next, List.nil_sublist _⟩
  | @asked chain requests sent asked =>
    refine ⟨[], [], hsame rfl, ?_, List.nil_sublist _⟩
    show chain.sent.take s.handled = _
    rw [sent]
    exact hkept rfl
  | @received message chain requests out next sent asked handed =>
    refine ⟨[], [], hsame rfl, ?_, List.nil_sublist _⟩
    show chain.sent.take s.handled = _
    rw [sent]
    exact hkept rfl
  | idle => exact ⟨[], [], hsame rfl, hserved, List.nil_sublist _⟩

/-- QUOTES ARE AUTHENTIC. In every run of the two chains that keeps to the
channels, the quotes that the chain's consumer takes are some of those that
answer the requests which users of the chain have made through its pallet and
the network has taken, in the order of the requests and one each at most. What
a request is answered does not depend on who made it or on when it was
taken. -/
theorem quotes_authentic (hself : (selfParaSiblingLocation W.consumer).Known)
    {steps : List (Step W)} (hmediated : ∀ x ∈ steps, Mediated x) (hinit : Initial s) :
    ((consumed W steps s).filterMap quoteIn).Sublist
        ((run W steps s).served.filterMap (quoteAsked W.manager)) ∧
      ∀ request ∈ (run W steps s).served, Asked W.consumer request := by
  have hnone : quotesTo W.consumer s.idn.dispatcher = [] := by
    rw [quotesTo, addressed, hinit.manager]
    rfl
  have hrun : Channels (run W steps s) ∧
      (quotesTo W.consumer (run W steps s).idn.dispatcher).Sublist
        ((run W steps s).served.filterMap (quoteAsked W.manager)) := by
    refine Runs.run_invariant Step.apply
      (P := fun u => Channels u ∧ (quotesTo W.consumer u.idn.dispatcher).Sublist
        (u.served.filterMap (quoteAsked W.manager)))
      ⟨hinit.channels, by rw [hnone]; exact List.nil_sublist _⟩ ?_
    rintro x hmem u ⟨hchannels, hquotes⟩
    have heffect := step_effect (hmediated x hmem) u
    obtain ⟨quotes, requests, hmore, hserved, hsub⟩ := heffect.quotes hself hchannels
    refine ⟨hchannels.effect heffect, ?_⟩
    rw [hmore, hserved, List.filterMap_append]
    exact hquotes.append hsub
  refine ⟨?_, fun request hmem => hrun.1.asked request (List.mem_of_mem_take hmem)⟩
  refine List.Sublist.trans ?_ hrun.2
  refine ((consumed_sublist hmediated hinit).filterMap quoteIn).trans ?_
  rw [List.filterMap_filterMap]
  exact (List.take_sublist _ _).filterMap _

end Runs

section Sample

open Crypto IdealNetwork.Runtime
open Consumer (sampleChain quiet block)

local instance : Decode Junction := siblingCodec

/-- Of the executor's converters only the last one. -/
def sampleConverters : Converters where
  sovereignSignedViaLocation _ _ := none
  relayChainAsNative _ _ := none
  siblingParachainAsNative _ _ := none
  signedAccountId32AsNative _ _ := none
  xcmPassthrough kind location := if kind = .xcm then some (.known (.xcm location)) else none

/-- The network and the consumer chain. -/
def sampleSystem : System (ZMod 7) (ZMod 7) (ZMod 7) Unit :=
  ⟨sampleBeacon, standalone, sampleChain, sampleConverters,
    fun message => some (accountOn idnParachainId message.sender)⟩

def sampleStart : State sampleSystem := ⟨Chain.sampleGenesis, quiet, 0, 0⟩

/-- Alice asks for a quote and subscribes from the consumer chain, the network
takes both messages, a pulse is accepted, and the chain takes what was sent. -/
def sampleSteps : List (Step sampleSystem) :=
  [.extrinsic none (online 1) (.beacon .root (.setBeaconConfig Chain.sampleKey)),
    .user (block 1) (.signed alice) (.requestQuote 10 1 none none (some sampleId) none),
    .user (block 1) (.signed alice) (.createSubscription 10 1 none (some sampleId) none),
    .handle (online 2) (.xcm (accountOn 4594 alice)),
    .handle (online 2) (.xcm (accountOn 4594 alice)),
    .extrinsic (some alice) (online 3) (Chain.submit 5 5 6),
    .receive (block 4),
    .receive (block 4)]

theorem known_sampleSystem : (selfParaSiblingLocation sampleSystem.consumer).Known :=
  known_sibling 4594

theorem initial_sampleStart : Initial sampleStart := ⟨rfl, rfl, rfl, rfl⟩

theorem mediated_sampleSteps : ∀ x ∈ sampleSteps, Mediated x := by
  simp only [sampleSteps, List.forall_mem_cons, List.not_mem_nil, IsEmpty.forall_iff, implies_true,
    and_true]
  exact ⟨trivial, rfl, rfl, trivial, trivial, trivial, trivial, trivial⟩

theorem pulses_authentic_sampleSteps :
    (consumed sampleSystem sampleSteps sampleStart).filterMap (pulseFor sampleId) =
        [⟨pointBytes 48 5, 5, 6⟩] ∧
      ∃ key, Beacon.verifyBeaconSignature sampleBeacon key (pointBytes 48 5) 5 6 = .ok () := by
  have hpulses : (consumed sampleSystem sampleSteps sampleStart).filterMap (pulseFor sampleId) =
      [⟨pointBytes 48 5, 5, 6⟩] := by decide +kernel
  obtain ⟨_, _, hverified⟩ := pulses_authentic known_sampleSystem mediated_sampleSteps
    initial_sampleStart sampleId
  rw [hpulses] at hverified
  obtain ⟨_, key, _, hvalid⟩ := hverified _ List.mem_cons_self
  exact ⟨hpulses, key, hvalid⟩

theorem quotes_authentic_sampleSteps :
    (consumed sampleSystem sampleSteps sampleStart).filterMap quoteIn =
        [⟨sampleId, 58000000, 10400⟩] ∧
      ∃ request ∈ (run sampleSystem sampleSteps sampleStart).served,
        quoteAsked standalone request = some ⟨sampleId, 58000000, 10400⟩ := by
  have hquotes : (consumed sampleSystem sampleSteps sampleStart).filterMap quoteIn =
      [⟨sampleId, 58000000, 10400⟩] := by decide +kernel
  have hsub := (quotes_authentic known_sampleSystem mediated_sampleSteps initial_sampleStart).1
  rw [hquotes] at hsub
  exact ⟨hquotes, List.mem_filterMap.mp (hsub.subset List.mem_cons_self)⟩

end Sample

end IdealNetwork.Network
