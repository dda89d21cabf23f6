import IdealNetwork.Network.Authentic

/-!
# What is lost on the way

The kind of origin that a subscriber chooses decides what becomes of the
deliveries. The chain's runtime makes an XCM origin of the kind `Xcm` and of no
other, and the filter in front of the consumers takes nothing else (`Filters`). So
what the consumers take is what the chain read in the messages of that kind, in
order; and all of it if no message is let go, the network's messages come from
where the filter expects them, and the consumers never fail (`Takes`).

For a subscription as the pallet makes it by default, nothing is lost then:
every pulse that the manager counts as distributed is consumed once
(`served_consumed`). For a subscription with another kind of origin, which the
pallet lets its users choose, everything is: it is served and pays, and no pulse
is ever consumed (`other_kinds_lost`). Both are said of runs that keep to the
channels.
-/

set_option autoImplicit false

namespace IdealNetwork.Network

open Scale Storage Xcm
open Beacon (Accumulation)
open Consumer (selfParaSiblingLocation)
open Manager (XcmMessage served)

variable {G₁ G₂ Gt D : Type}

section

variable [Decode Junction] {W : System G₁ G₂ Gt D}

/-- The kind of origin that a message asks for. -/
def kindIn (message : XcmMessage) : Option OriginKind :=
  (transacts message.program).head?.map Prod.fst

/-- What a message hands over if it asks for an XCM origin. -/
def answerTaken (C : Consumer.Config D) (message : XcmMessage) : Option Answer :=
  if kindIn message = some .xcm then answerIn C message else none

/-- How the chain is configured: of all kinds only `Xcm` makes an XCM origin, and
the filter in front of the consumers passes XCM origins only. -/
structure Filters (W : System G₁ G₂ Gt D) : Prop where
  converters : W.converters.Lawful
  onlyXcm : ∀ origin, (W.consumer.idnOriginFilter origin).isSome = true →
    ∃ location, origin = .xcm location

/-- The chain takes what the network sends: its messages arrive from a location
that passes the filter, and the consumers take what they are given. -/
structure Takes (W : System G₁ G₂ Gt D) : Prop extends Filters W where
  arrives : ∀ message, Made W.manager message → ∃ location, W.arrival message = some location ∧
    (W.consumer.idnOriginFilter (.xcm location)).isSome = true
  pulse : ∀ pulse subId d, (W.consumer.pulseConsumer pulse subId d).1 = .ok ()
  quote : ∀ quote d, (W.consumer.quoteConsumer quote d).1 = .ok ()
  subInfo : ∀ subInfo d, (W.consumer.subInfoConsumer subInfo d).1 = .ok ()

omit [Decode Junction] in
/-- A call that hands something over succeeds if the filter passes its origin. -/
theorem dispatch_handsOver (htakes : Takes W) {call : Consumer.Call} {answer : Answer}
    (hanswer : answerOf call = some answer) (env : Consumer.Env) {origin : Origin}
    (hfilter : (W.consumer.idnOriginFilter origin).isSome = true) (c : Consumer.State D) :
    (Consumer.dispatch W.consumer env origin call c).1 = .ok () := by
  have hsucceeds : ∃ c', Consumer.dispatch W.consumer env origin call c = (.ok (), c') := by
    cases call with
    | consumePulse pulse subId =>
      exact ⟨_, Action.transactional_ok.mpr (Consumer.handOver_ok.mpr
        ⟨hfilter, _, Prod.ext (htakes.pulse pulse subId c.consumer) rfl, rfl⟩)⟩
    | consumeQuote quote =>
      exact ⟨_, Action.transactional_ok.mpr (Consumer.handOver_ok.mpr
        ⟨hfilter, _, Prod.ext (htakes.quote quote c.consumer) rfl, rfl⟩)⟩
    | consumeSubInfo subInfo =>
      exact ⟨_, Action.transactional_ok.mpr (Consumer.handOver_ok.mpr
        ⟨hfilter, _, Prod.ext (htakes.subInfo subInfo c.consumer) rfl, rfl⟩)⟩
    | _ => cases hanswer
  obtain ⟨c', hc'⟩ := hsucceeds
  rw [hc']

/-- A message whose call hands something over asks for an XCM origin. -/
theorem kindIn_of_handsOver (hfilters : Filters W) {message : XcmMessage} {answer : Answer}
    (hanswer : answerIn W.consumer message = some answer) {env : Consumer.Env}
    {c : Consumer.State D} (hok : (runAnswer W env message c).1 = .ok ()) :
    kindIn message = some .xcm := by
  obtain ⟨call, hreading, hof⟩ := answerIn_eq_some.mp hanswer
  rcases runAnswer_cases W env message with
    ⟨location, kind, bytes, origin, call', _, hhead, horigin, hcall, hrun⟩ | ⟨e, hrun⟩
  · have hsame : reading W.consumer message = some call' := by
      rw [reading, hhead]
      exact hcall
    cases hsame.symm.trans hreading
    rw [hrun] at hok
    rcases hd : Consumer.dispatch W.consumer env origin call c with ⟨r, c'⟩
    rw [hd] at hok
    obtain rfl : r = .ok () := hok
    rcases Consumer.dispatch_ok hd with ⟨_, hfilter, _⟩ | ⟨_, _, _, _, hrequest, _⟩
    · obtain ⟨location', rfl⟩ := hfilters.onlyXcm origin hfilter
      rw [kindIn, hhead, Option.map_some, kind_of_consumerOrigin_xcm hfilters.converters horigin]
    · rw [answerOf_request hrequest] at hof
      cases hof
  · rw [hrun] at hok
    cases hok

/-- A message that asks for an XCM origin succeeds in handing over what is in
it. -/
theorem handsOver_of_kindIn (htakes : Takes W) {message : XcmMessage}
    (hmade : Made W.manager message) {answer : Answer}
    (hanswer : answerIn W.consumer message = some answer) (env : Consumer.Env)
    (c : Consumer.State D) (hkind : kindIn message = some .xcm) :
    (runAnswer W env message c).1 = .ok () := by
  obtain ⟨call, hreading, hof⟩ := answerIn_eq_some.mp hanswer
  obtain ⟨location, harrival, hfilter⟩ := htakes.arrives message hmade
  obtain ⟨⟨_, bytes⟩, hhead, rfl⟩ := Option.map_eq_some_iff.mp hkind
  have hcall : Consumer.decodeCall W.consumer bytes = some call := by
    rw [reading, hhead] at hreading
    exact hreading
  unfold runAnswer
  simp only [harrival, hhead, hcall, consumerOrigin_xcm htakes.converters]
  exact dispatch_handsOver htakes hof env hfilter c

/-- What is taken from a message whose call is made stands in one that asks for an
XCM origin. -/
theorem handed_sublist (hfilters : Filters W) (message : XcmMessage) (env : Consumer.Env)
    (c : Consumer.State D) :
    (handedBy (runAnswer W env message c).1 (answerIn W.consumer message)).Sublist
      (answerTaken W.consumer message).toList := by
  unfold handedBy answerTaken
  cases hanswer : answerIn W.consumer message with
  | none =>
    rw [ite_self]
    split <;> exact .slnil
  | some answer =>
    cases hresult : (runAnswer W env message c).1 with
    | ok u => rw [if_pos (kindIn_of_handsOver hfilters hanswer hresult)]
    | error e => exact List.nil_sublist _

/-- And it is all that stands there. -/
theorem handed_exactly (htakes : Takes W) {message : XcmMessage} (hmade : Made W.manager message)
    (env : Consumer.Env) (c : Consumer.State D) :
    handedBy (runAnswer W env message c).1 (answerIn W.consumer message) =
      (answerTaken W.consumer message).toList := by
  unfold handedBy answerTaken
  cases hanswer : answerIn W.consumer message with
  | none =>
    rw [ite_self]
    split <;> rfl
  | some answer =>
    cases hresult : (runAnswer W env message c).1 with
    | ok u => rw [if_pos (kindIn_of_handsOver htakes.toFilters hanswer hresult)]
    | error e =>
      rw [if_neg fun hkind => ?_]
      · rfl
      · rw [handsOver_of_kindIn htakes hmade hanswer env c hkind] at hresult
        cases hresult

section Runs

variable [AddCommGroup G₁] {s : State W}

/-- A step hands over some of what it takes, and all of it unless it lets the
message go. -/
theorem consumed_exactly (hfilters : Filters W) {x : Step W} (hx : Mediated x) (h : Channels s) :
    ∃ messages, (x.apply s).taken = s.taken ++ messages ∧
      (x.consumed s).Sublist (messages.filterMap (answerTaken W.consumer)) ∧
      (Takes W → x ≠ .drop → x.consumed s = messages.filterMap (answerTaken W.consumer)) := by
  have htaken := (step_effect hx s).taken_of_received h
  have hquiet : (x.apply s).received = s.received → x.consumed s = [] →
      ∃ messages, (x.apply s).taken = s.taken ++ messages ∧
        (x.consumed s).Sublist (messages.filterMap (answerTaken W.consumer)) ∧
        (Takes W → x ≠ .drop → x.consumed s = messages.filterMap (answerTaken W.consumer)) := by
    intro hsame hnone
    rw [hnone]
    exact ⟨[], htaken hsame, List.nil_sublist _, fun _ _ => rfl⟩
  cases x with
  | receive env =>
    cases hnext : s.answer with
    | none => exact hquiet (by simp only [Step.apply, hnext]) (by simp only [Step.consumed, hnext])
    | some message =>
      have hmade : Made W.manager message :=
        h.made message (List.mem_of_mem_filter (List.mem_of_getElem? hnext))
      have hone : [message].filterMap (answerTaken W.consumer) =
          (answerTaken W.consumer message).toList := by
        rw [List.filterMap_cons]
        cases answerTaken W.consumer message <;> rfl
      refine ⟨[message], ?_, ?_, fun htakes _ => ?_⟩
      · simp only [Step.apply, hnext]
        exact taken_concat hnext
      · simp only [Step.consumed, hnext, hone]
        exact handed_sublist hfilters message env s.chain
      · simp only [Step.consumed, hnext, hone]
        exact handed_exactly htakes hmade env s.chain
  | drop =>
    obtain ⟨messages, hmessages, _⟩ := (step_effect hx s).consumed h
    exact ⟨messages, hmessages, List.nil_sublist _, fun _ hne => absurd rfl hne⟩
  | user env origin call => exact hquiet rfl (consumed_user call hx s)
  | extrinsic findAuthor now x => exact hquiet rfl rfl
  | finalize => exact hquiet rfl rfl
  | transfer move => exact hquiet rfl rfl
  | handle now origin => exact hquiet (by simp only [Step.apply]; split <;> rfl) rfl
  | refuse => exact hquiet (by simp only [Step.apply]; split <;> rfl) rfl

/-- Over a run, the consumers take no more than what the chain reads in the
messages that it takes and that ask for an XCM origin. -/
theorem consumed_sublist_taken (hfilters : Filters W) {steps : List (Step W)}
    (hmediated : ∀ x ∈ steps, Mediated x) (hinit : Initial s) :
    (consumed W steps s).Sublist ((run W steps s).taken.filterMap (answerTaken W.consumer)) := by
  suffices hrun : Channels (run W steps s) ∧ (consumed W steps s).Sublist
      ((run W steps s).taken.filterMap (answerTaken W.consumer)) from hrun.2
  refine Runs.run_invariant_outputs Step.apply
    (Q := fun (log : List Answer) (u : State W) =>
      Channels u ∧ log.Sublist (u.taken.filterMap (answerTaken W.consumer))) []
    ⟨hinit.channels, List.nil_sublist _⟩ ?_
  rintro x hmem log u ⟨hchannels, hlog⟩
  obtain ⟨messages, htaken, hsub, _⟩ := consumed_exactly hfilters (hmediated x hmem) hchannels
  refine ⟨hchannels.effect (step_effect (hmediated x hmem) u), ?_⟩
  rw [htaken, List.filterMap_append]
  exact hlog.append hsub

/-- When no message is let go and the consumers take what they are given, they
take all of it. -/
theorem consumed_taken (htakes : Takes W) {steps : List (Step W)}
    (hmediated : ∀ x ∈ steps, Mediated x) (hkeeps : ∀ x ∈ steps, x ≠ .drop) (hinit : Initial s) :
    consumed W steps s = (run W steps s).taken.filterMap (answerTaken W.consumer) := by
  have hnone : s.taken.filterMap (answerTaken W.consumer) = [] := by
    rw [State.taken, hinit.received, List.take_zero]
    rfl
  suffices hrun : Channels (run W steps s) ∧ consumed W steps s =
      (run W steps s).taken.filterMap (answerTaken W.consumer) from hrun.2
  refine Runs.run_invariant_outputs Step.apply
    (Q := fun (log : List Answer) (u : State W) =>
      Channels u ∧ log = u.taken.filterMap (answerTaken W.consumer)) []
    ⟨hinit.channels, hnone.symm⟩ ?_
  rintro x hmem log u ⟨hchannels, hlog⟩
  obtain ⟨messages, htaken, _, hexact⟩ :=
    consumed_exactly htakes.toFilters (hmediated x hmem) hchannels
  refine ⟨hchannels.effect (step_effect (hmediated x hmem) u), ?_⟩
  rw [htaken, List.filterMap_append, hlog, hexact htakes (hkeeps x hmem)]

end Runs

/-! ## Subscriptions of the pallet -/

section Subscribed

variable {C : Consumer.Config D} {M : Manager.Config} {id : SubscriptionId}

/-- The record is as the pallet makes it by default: its pulses go to the chain,
to the call that consumes them, from an XCM origin. -/
structure Subscribed (C : Consumer.Config D) (sub : SubscriptionOf) : Prop where
  target : sub.details.target = selfParaSiblingLocation C
  call : Consumer.pulseCallbackCallData C = .ok sub.details.call
  originKind : sub.details.originKind = .xcm

/-- The pulses for a subscription that the chain takes from what was sent to
it. -/
def pulsesTaken (C : Consumer.Config D) (id : SubscriptionId) (m : Manager.State M) :
    List RuntimePulse :=
  (addressed C m).filterMap fun message => (answerTaken C message).bind (pulseFor id)

theorem answerIn_of_taken {message : XcmMessage} {answer : Answer}
    (h : answerTaken C message = some answer) : answerIn C message = some answer := by
  unfold answerTaken at h
  split at h
  · exact h
  · cases h

/-- A message that hands over no pulse for a subscription changes nothing for
it. -/
theorem pulsesTaken_concat {m n : Manager.State M} {message : XcmMessage}
    (hmore : addressed C n = addressed C m ∨ addressed C n = addressed C m ++ [message])
    (h : ∀ pulse, answerTaken C message ≠ some (.pulse pulse id)) :
    pulsesTaken C id n = pulsesTaken C id m := by
  have hnone : (answerTaken C message).bind (pulseFor id) = none := by
    refine Option.eq_none_iff_forall_ne_some.mpr fun pulse hsome => ?_
    obtain ⟨answer, hanswer, hof⟩ := Option.bind_eq_some_iff.mp hsome
    rw [pulseFor_eq_some.mp hof] at hanswer
    exact h pulse hanswer
  unfold pulsesTaken
  rcases hmore with hsame | hmore
  · rw [hsame]
  · rw [hmore, List.filterMap_append, List.filterMap_cons, hnone, List.filterMap_nil,
      List.append_nil]

/-- The delivery of a subscription of the pallet is taken. -/
theorem answerTaken_delivery {pulse : RuntimePulse} {sub : SubscriptionOf} {message : XcmMessage}
    (hsub : Subscribed C sub) (h : Manager.pulseMessage M pulse id sub = some message) :
    message.target = selfParaSiblingLocation C ∧
      answerTaken C message = some (.pulse pulse id) := by
  obtain ⟨_, htarget, htransacts⟩ := Consumer.xcmMessage_parts h
  have hkind : kindIn message = some .xcm := by
    unfold kindIn
    rw [htransacts, hsub.originKind]
    rfl
  refine ⟨htarget.trans hsub.target, ?_⟩
  rw [answerTaken, if_pos hkind]
  exact answerIn_eq_some.mpr
    ⟨_, (reading_xcmMessage h).trans (Consumer.decodeCall_pulse hsub.call pulse id), rfl⟩

/-- From `m` to `n`, a subscription has been served as many pulses as were sent
to the chain to be taken. -/
def ServedAsTaken (C : Consumer.Config D) (id : SubscriptionId) (m n : Manager.State M) : Prop :=
  ∃ pulses, pulsesTaken C id n = pulsesTaken C id m ++ pulses ∧
    served id n = served id m + pulses.length

theorem ServedAsTaken.of_eq {m n : Manager.State M}
    (htaken : pulsesTaken C id n = pulsesTaken C id m) (hserved : served id n = served id m) :
    ServedAsTaken C id m n :=
  ⟨[], htaken.trans (List.append_nil _).symm, hserved⟩

/-- The subscription's own iteration. -/
theorem servedAsTaken_iteration {now : Manager.Env} {pulse : RuntimePulse} {sub : SubscriptionOf}
    {m n : Manager.State M} (hsub : Subscribed C sub)
    (h : Manager.Iteration M now pulse id sub m n) : ServedAsTaken C id m n := by
  rcases h.sent with ⟨hserved, hsame⟩ | ⟨hserved, message, hmade, hsent⟩
  · refine .of_eq ?_ hserved
    rw [pulsesTaken, addressed_congr hsame, pulsesTaken]
  · obtain ⟨htarget, hanswer⟩ := answerTaken_delivery hsub hmade
    have hpulse : (answerTaken C message).bind (pulseFor id) = some pulse := by
      rw [hanswer, Option.bind_some]
      exact pulseFor_eq_some.mpr rfl
    refine ⟨[pulse], ?_, hserved⟩
    rw [pulsesTaken, addressed_append hsent, List.filter_cons_of_pos (by simpa using htarget),
      List.filter_nil, List.filterMap_append, List.filterMap_cons, hpulse]
    rfl

/-- The iteration of another one. -/
theorem pulsesTaken_of_ne {now : Manager.Env} {pulse : RuntimePulse} {subId : SubscriptionId}
    {sub : SubscriptionOf} {m n : Manager.State M} (hne : subId ≠ id)
    (h : Manager.Iteration M now pulse subId sub m n) :
    pulsesTaken C id n = pulsesTaken C id m := by
  rcases h.sent with ⟨_, hsame⟩ | ⟨_, message, hmade, hsent⟩
  · rw [pulsesTaken, addressed_congr hsame, pulsesTaken]
  · refine pulsesTaken_concat (addressed_concat hsent) fun pulse' hanswer => ?_
    exact hne ((answerIn_delivery hmade).1 _ _ (answerIn_of_taken hanswer)).2.symm

theorem servedAsTaken_distribute (now : Manager.Env) (pulse : RuntimePulse) {m : Manager.State M}
    (hsub : ∀ sub, m.subscriptions.lookup id = some sub → Subscribed C sub) :
    ServedAsTaken C id m (Manager.distribute M now pulse m) := by
  have htakenOther : ∀ subId sub (u : Manager.State M), subId ≠ id →
      pulsesTaken C id (Manager.distributeOne M now pulse subId sub u) = pulsesTaken C id u :=
    fun subId sub u hne => pulsesTaken_of_ne hne (Manager.distributeOne_cases now pulse subId sub u)
  have hservedOther : ∀ subId sub (u : Manager.State M), subId ≠ id →
      served id (Manager.distributeOne M now pulse subId sub u) = served id u :=
    fun _ sub u hne => Manager.served_distributeOne_of_ne sub u hne
  cases hstored : m.subscriptions.lookup id with
  | none =>
    exact .of_eq (Manager.distribute_observe_none now pulse htakenOther hstored)
      (Manager.distribute_observe_none now pulse hservedOther hstored)
  | some sub =>
    obtain ⟨htakenBefore, htakenAfter⟩ :=
      Manager.distribute_observe_some now pulse htakenOther hstored
    obtain ⟨hservedBefore, hservedAfter⟩ :=
      Manager.distribute_observe_some now pulse hservedOther hstored
    obtain ⟨pulses, htaken, hserved⟩ := servedAsTaken_iteration (hsub sub hstored)
      (Manager.distributeOne_cases now pulse id sub (Manager.reached M now pulse id m))
    refine ⟨pulses, ?_, ?_⟩
    · rw [htakenAfter, ← htakenBefore]
      exact htaken
    · rw [hservedAfter, ← hservedBefore]
      exact hserved

omit [Decode Junction] in
theorem served_dispatch (now : Manager.Env) (origin : Origin) (call : Manager.Call)
    (m : Manager.State M) :
    served id (Manager.dispatch M now origin call m).2 = served id m :=
  Manager.dispatch_invariant (P := fun u => served id u = served id m) call rfl
    fun heffect => heffect.served

end Subscribed

section Served

variable [AddCommGroup G₁] {s t : State W} {id : SubscriptionId}
variable {more : List (Option OpaquePublicKey × Accumulation)} {out : List Answer}

/-- The record under an id, if any, is one of the pallet's. -/
def Holds (id : SubscriptionId) (s : State W) : Prop :=
  ∀ sub, s.idn.dispatcher.subscriptions.lookup id = some sub → Subscribed W.consumer sub

/-- Only a distribution serves a subscription, or sends the chain a pulse. -/
theorem Effect.distributes (hself : (selfParaSiblingLocation W.consumer).Known)
    (heffect : Effect W s more out t) (h : Channels s) (id : SubscriptionId) :
    (∃ now pulse, t.idn.dispatcher = Manager.distribute W.manager now pulse s.idn.dispatcher) ∨
      (pulsesTaken W.consumer id t.idn.dispatcher =
          pulsesTaken W.consumer id s.idn.dispatcher ∧
        served id t.idn.dispatcher = served id s.idn.dispatcher) := by
  have hquiet : ∀ {m : Manager.State W.manager},
      addressed W.consumer m = addressed W.consumer s.idn.dispatcher →
      pulsesTaken W.consumer id m = pulsesTaken W.consumer id s.idn.dispatcher := by
    intro m hsame
    rw [pulsesTaken, hsame, pulsesTaken]
  cases heffect with
  | @beacon findAuthor now accs idn effect =>
    cases effect with
    | @submitted acc key first config ordered height fresh valid =>
      exact Or.inl ⟨now, acc.toPulse, rfl⟩
    | configured pk => exact Or.inr ⟨rfl, rfl⟩
    | refused => exact Or.inr ⟨rfl, rfl⟩
  | called now call elsewhere =>
    exact Or.inr ⟨hquiet (addressed_elsewhere now call _ elsewhere), served_dispatch now _ call _⟩
  | finalized =>
    exact Or.inr ⟨hquiet (addressed_congr (sent_onFinalize _)), Chain.served_onFinalize _⟩
  | moved move => exact Or.inr ⟨rfl, rfl⟩
  | @handled now origin message next =>
    right
    constructor
    · have hasked := h.asked message (List.mem_of_getElem? next)
      rcases addressed_request hself hasked now origin s.idn.dispatcher with
        hsame | ⟨reply, hmore, hpulse, _⟩
      · exact hquiet hsame
      · exact pulsesTaken_concat (Or.inr hmore) fun pulse hanswer =>
          hpulse pulse id (answerIn_of_taken hanswer)
    · show served id (runRequest W.manager now origin message s.idn.dispatcher).2 = _
      rcases runRequest_cases now origin message s.idn.dispatcher with ⟨call, hrun⟩ | hrun
      · rw [hrun]
        exact served_dispatch now origin call _
      · rw [hrun]
  | refused next => exact Or.inr ⟨rfl, rfl⟩
  | asked sent asked => exact Or.inr ⟨rfl, rfl⟩
  | received next sent asked handed => exact Or.inr ⟨rfl, rfl⟩
  | idle => exact Or.inr ⟨rfl, rfl⟩

/-- WHAT IS SERVED IS CONSUMED. Take a run that keeps to the channels, on a chain
that takes what the network sends. While the record under an id is one as the
chain's pallet makes them by default, the network serves it as many pulses as it
sends the chain to be taken; and when no message is let go and the chain has
taken all that was sent, its consumer has been handed each of them, once and in
order. -/
theorem served_consumed (hself : (selfParaSiblingLocation W.consumer).Known) (htakes : Takes W)
    {steps : List (Step W)} (hmediated : ∀ x ∈ steps, Mediated x)
    (hkeeps : ∀ x ∈ steps, x ≠ .drop) (hinit : Initial s)
    (hholds : Runs.Within Step.apply (Holds id) steps s)
    (hdrained : (run W steps s).received =
      (addressed W.consumer (run W steps s).idn.dispatcher).length) :
    (consumed W steps s).filterMap (pulseFor id) =
        pulsesTaken W.consumer id (run W steps s).idn.dispatcher ∧
      served id (run W steps s).idn.dispatcher = served id s.idn.dispatcher +
        ((consumed W steps s).filterMap (pulseFor id)).length := by
  have hpulses : (consumed W steps s).filterMap (pulseFor id) =
      pulsesTaken W.consumer id (run W steps s).idn.dispatcher := by
    rw [consumed_taken htakes hmediated hkeeps hinit, State.taken, hdrained, List.take_length,
      List.filterMap_filterMap, pulsesTaken]
  have hnone : pulsesTaken W.consumer id s.idn.dispatcher = [] := by
    rw [pulsesTaken, addressed, hinit.manager]
    rfl
  suffices hrun : Channels (run W steps s) ∧ Holds id (run W steps s) ∧
      served id (run W steps s).idn.dispatcher = served id s.idn.dispatcher +
        (pulsesTaken W.consumer id (run W steps s).idn.dispatcher).length from
    ⟨hpulses, hpulses ▸ hrun.2.2⟩
  refine Runs.run_invariant_within Step.apply
    (P := fun u => Channels u ∧ Holds id u ∧ served id u.idn.dispatcher =
      served id s.idn.dispatcher + (pulsesTaken W.consumer id u.idn.dispatcher).length)
    ⟨hinit.channels, hholds [] List.nil_prefix, by rw [hnone]; rfl⟩ hholds ?_
  rintro x hmem u hafter ⟨hchannels, hbefore, hserved⟩
  have heffect := step_effect (hmediated x hmem) u
  have hstep : ServedAsTaken W.consumer id u.idn.dispatcher (x.apply u).idn.dispatcher := by
    rcases heffect.distributes hself hchannels id with ⟨now, pulse, heq⟩ | ⟨htaken, hsame⟩
    · rw [heq]
      exact servedAsTaken_distribute now pulse hbefore
    · exact .of_eq htaken hsame
  obtain ⟨pulses, htaken, hmore⟩ := hstep
  refine ⟨hchannels.effect heffect, hafter, ?_⟩
  rw [hmore, hserved, htaken, List.length_append, Nat.add_assoc]

/-- The record under an id, if any, asks for no XCM origin. -/
def AsksOther (id : SubscriptionId) (s : State W) : Prop :=
  ∀ sub, s.idn.dispatcher.subscriptions.lookup id = some sub → sub.details.originKind ≠ .xcm

/-- Nothing is taken from a delivery that asks for no XCM origin. -/
theorem pulsesTaken_distribute_other {M : Manager.Config} {C : Consumer.Config D}
    (now : Manager.Env) (pulse : RuntimePulse) {m : Manager.State M}
    (h : ∀ sub, m.subscriptions.lookup id = some sub → sub.details.originKind ≠ .xcm) :
    pulsesTaken C id (Manager.distribute M now pulse m) = pulsesTaken C id m := by
  refine Manager.distribute_invariant (P := fun u => pulsesTaken C id u = pulsesTaken C id m) rfl ?_
  intro subId sub u v hstored _ hiter hu
  rw [← hu]
  by_cases hid : subId = id
  · subst hid
    rcases hiter.sent with ⟨_, hsame⟩ | ⟨_, message, hmade, hsent⟩
    · rw [pulsesTaken, addressed_congr hsame, pulsesTaken]
    · refine pulsesTaken_concat (addressed_concat hsent) fun pulse' hanswer => ?_
      have hkind : kindIn message ≠ some .xcm := by
        unfold kindIn
        rw [(Consumer.xcmMessage_parts hmade).2.2]
        exact fun hxcm => h sub hstored (Option.some.inj hxcm)
      rw [answerTaken, if_neg hkind] at hanswer
      cases hanswer
  · exact pulsesTaken_of_ne hid hiter

/-- OTHER KINDS ARE LOST. While the record under an id asks for an origin of
another kind than `Xcm`, no pulse for it is ever consumed, in any run that keeps
to the channels, on a chain whose filter passes XCM origins only. -/
theorem other_kinds_lost (hself : (selfParaSiblingLocation W.consumer).Known)
    (hfilters : Filters W) {steps : List (Step W)} (hmediated : ∀ x ∈ steps, Mediated x)
    (hinit : Initial s) (hother : Runs.Within Step.apply (AsksOther id) steps s) :
    (consumed W steps s).filterMap (pulseFor id) = [] := by
  have hnone : pulsesTaken W.consumer id s.idn.dispatcher = [] := by
    rw [pulsesTaken, addressed, hinit.manager]
    rfl
  have hrun : Channels (run W steps s) ∧ AsksOther id (run W steps s) ∧
      pulsesTaken W.consumer id (run W steps s).idn.dispatcher = [] := by
    refine Runs.run_invariant_within Step.apply
      (P := fun u => Channels u ∧ AsksOther id u ∧
        pulsesTaken W.consumer id u.idn.dispatcher = [])
      ⟨hinit.channels, hother [] List.nil_prefix, hnone⟩ hother ?_
    rintro x hmem u hafter ⟨hchannels, hbefore, hempty⟩
    have heffect := step_effect (hmediated x hmem) u
    refine ⟨hchannels.effect heffect, hafter, ?_⟩
    rcases heffect.distributes hself hchannels id with ⟨now, pulse, heq⟩ | ⟨htaken, _⟩
    · rw [heq, pulsesTaken_distribute_other now pulse hbefore, hempty]
    · rw [htaken, hempty]
  have hsub := (consumed_sublist_taken hfilters hmediated hinit).filterMap (pulseFor id)
  rw [List.filterMap_filterMap] at hsub
  refine List.sublist_nil.mp (hsub.trans ?_)
  rw [← hrun.2.2]
  exact (List.take_sublist _ _).filterMap _

end Served

end

section Sample

open Crypto IdealNetwork.Runtime
open Consumer (sampleChain sampleCallback block)

local instance : Decode Junction := siblingCodec

theorem lawful_sampleConverters : sampleConverters.Lawful where
  sovereign := ⟨fun _ => rfl, nofun⟩
  relay := ⟨fun _ => rfl, nofun⟩
  sibling := ⟨fun _ => rfl, nofun⟩
  signed := ⟨fun _ => rfl, nofun⟩
  passes _ := rfl
  passesOnly _ _ hkind := if_neg hkind

theorem takes_sampleSystem : Takes sampleSystem where
  converters := lawful_sampleConverters
  onlyXcm origin h := by
    cases origin with
    | xcm location => exact ⟨location, rfl⟩
    | _ => cases h
  arrives message _ := ⟨accountOn idnParachainId message.sender, rfl, rfl⟩
  pulse _ _ _ := rfl
  quote _ _ := rfl
  subInfo _ _ := rfl

/-- What holds of the record in every state of a sample run. -/
theorem within_of_all (p : SubscriptionOf → Bool) (steps : List (Step sampleSystem))
    (h : ∀ part ∈ steps.inits,
      ((run sampleSystem part sampleStart).idn.dispatcher.subscriptions.lookup sampleId).all p =
        true) :
    Runs.Within Step.apply (fun u : State sampleSystem => ∀ sub,
      u.idn.dispatcher.subscriptions.lookup sampleId = some sub → p sub = true) steps
      sampleStart := by
  intro part hpart sub hstored
  have hall := h part ((List.mem_inits part steps).mpr hpart)
  rw [show (run sampleSystem part sampleStart) = Runs.run Step.apply part sampleStart from rfl,
    hstored] at hall
  exact hall

theorem served_consumed_sampleSteps :
    (consumed sampleSystem sampleSteps sampleStart).filterMap (pulseFor sampleId) =
        [⟨pointBytes 48 5, 5, 6⟩] ∧
      served sampleId (run sampleSystem sampleSteps sampleStart).idn.dispatcher = 1 := by
  have hholds : Runs.Within Step.apply (Holds sampleId) sampleSteps sampleStart := by
    have hall := within_of_all (fun sub => sub.details.target = .sibling 4594 ∧
      sub.details.call = sampleCallback ∧ sub.details.originKind = .xcm) sampleSteps
      (by decide +kernel)
    intro part hpart sub hstored
    obtain ⟨htarget, hcall, hkind⟩ := of_decide_eq_true (hall part hpart sub hstored)
    exact ⟨htarget, hcall ▸ rfl, hkind⟩
  have hkeeps : ∀ x ∈ sampleSteps, x ≠ .drop := by
    simp [sampleSteps]
  obtain ⟨hpulses, hserved⟩ := served_consumed known_sampleSystem takes_sampleSystem
    mediated_sampleSteps hkeeps initial_sampleStart hholds (by decide +kernel)
  have hone : (consumed sampleSystem sampleSteps sampleStart).filterMap (pulseFor sampleId) =
      [⟨pointBytes 48 5, 5, 6⟩] := by decide +kernel
  have hnone : served sampleId sampleStart.idn.dispatcher = 0 := by decide +kernel
  refine ⟨hone, ?_⟩
  rw [hserved, hnone, hone, List.length_singleton]

/-- Alice subscribes with the kind `Native` instead. -/
def nativeSteps : List (Step sampleSystem) :=
  [.extrinsic none (online 1) (.beacon .root (.setBeaconConfig Chain.sampleKey)),
    .user (block 1) (.signed alice)
      (.createSubscription 10 1 none (some sampleId) (some .native)),
    .handle (online 2) (.xcm (accountOn 4594 alice)),
    .extrinsic (some alice) (online 3) (Chain.submit 5 5 6),
    .receive (block 4)]

/-- She is served and has paid for the credit, and nothing is consumed. -/
theorem other_kinds_lost_nativeSteps :
    (consumed sampleSystem nativeSteps sampleStart).filterMap (pulseFor sampleId) = [] ∧
      served sampleId (run sampleSystem nativeSteps sampleStart).idn.dispatcher = 1 ∧
      ((run sampleSystem nativeSteps sampleStart).idn.dispatcher.subscriptions.lookup
        sampleId).map (·.creditsLeft) = some 9 := by
  have hother : Runs.Within Step.apply (AsksOther sampleId) nativeSteps sampleStart := by
    have hall := within_of_all (fun sub => sub.details.originKind ≠ .xcm) nativeSteps
      (by decide +kernel)
    exact fun part hpart sub hstored => of_decide_eq_true (hall part hpart sub hstored)
  have hmediated : ∀ x ∈ nativeSteps, Mediated x := by
    simp only [nativeSteps, List.forall_mem_cons, List.not_mem_nil, IsEmpty.forall_iff,
      implies_true, and_true]
    exact ⟨trivial, rfl, trivial, trivial, trivial⟩
  exact ⟨other_kinds_lost known_sampleSystem takes_sampleSystem.toFilters hmediated
    initial_sampleStart hother, by decide +kernel, by decide +kernel⟩

end Sample

end IdealNetwork.Network
