import IdealNetwork.Manager.Service

/-!
# The life of a subscription

A subscription is created active, moves between active and paused, is
finalized by a distribution that finds it exhausted, and stays as it is from
then on until it is removed. `Legal` says which step may take a subscription
from one state to another, and `AtRest` what a step can still do to one that
is finalized: nothing but remove it.

That a finalized subscription moves no fees rests on its having no credits
left (`FinalizedSpent`): a distribution goes on charging it, for a credit
that costs nothing.
-/

set_option autoImplicit false

namespace IdealNetwork.Manager

open Storage Holds

variable {T : Config} {s t : State T} {env : Env} {input : Input} {pulse : RuntimePulse}
variable {id : SubscriptionId} {sub sub' : SubscriptionOf}

/-! ## Steps of a life -/

/-- A distribution had a pulse for the subscription, and could not charge it
or not send it. -/
def DeliveryFailed (T : Config) (input : Input) (s : State T) (id : SubscriptionId)
    (sub : SubscriptionOf) : Prop :=
  ∃ pulse, input.2 = .distribute pulse ∧ Eligible input.1 sub ∧
    ((∃ e, (collectFees T sub 1 (reached T input.1 pulse id s)).1 = .error e) ∨
      ¬ CanSend T input.1 pulse id sub)

/-- The step is a call by the owner of the subscription. -/
def OwnerCalls (T : Config) (input : Input) (sub : SubscriptionOf) (call : Call) : Prop :=
  ∃ origin, input.2 = .call origin call ∧
    ensureSignedOrValidXcmOrigin T origin = .ok sub.details.subscriber

/-- The ways in which a step may change the state of a subscription. -/
structure Legal (T : Config) (input : Input) (s : State T) (id : SubscriptionId)
    (sub sub' : SubscriptionOf) : Prop where
  paused : sub.state = .active → sub'.state = .paused →
    OwnerCalls T input sub (.pauseSubscription id) ∨ DeliveryFailed T input s id sub
  reactivated : sub.state = .paused → sub'.state = .active →
    OwnerCalls T input sub (.reactivateSubscription id)
  finalized : sub.state ≠ .finalized → sub'.state = .finalized →
    (∃ pulse, input.2 = .distribute pulse) ∧ sub'.creditsLeft = 0
  stays : sub.state = .finalized → sub'.state = .finalized

/-- An iteration that is not cut short keeps the state or finalizes. -/
theorem Legal.of_finalizeIfExhausted {record : SubscriptionOf} (hop : input.2 = .distribute pulse)
    (hstate : record.state = sub.state) : Legal T input s id sub (finalizeIfExhausted record) := by
  rcases finalizeIfExhausted_cases record with hsame | ⟨hlive, hzero, hfinal⟩
  · rw [hsame]
    refine ⟨fun h h' => ?_, fun h h' => ?_, fun h h' => ?_, fun h => hstate.trans h⟩
    · cases h.symm.trans (hstate.symm.trans h')
    · cases h.symm.trans (hstate.symm.trans h')
    · exact absurd (hstate.symm.trans h') h
  · rw [hfinal]
    exact ⟨fun _ h' => (nomatch h'), fun _ h' => (nomatch h'), fun _ _ => ⟨⟨pulse, hop⟩, hzero⟩,
      fun _ => rfl⟩

/-- A stored subscription takes legal steps only. -/
theorem RecordStep.legal {pulses : ℕ}
    (h : RecordStep T input s id (some sub) (some sub') pulses) : Legal T input s id sub sub' := by
  cases h with
  | untouched =>
    refine ⟨fun h h' => ?_, fun h h' => ?_, fun h h' => absurd h' h, fun h => h⟩
    · cases h.symm.trans h'
    · cases h.symm.trans h'
  | @paused origin _ op owner active =>
    exact ⟨fun _ _ => Or.inl ⟨origin, op, owner⟩, fun _ h' => (nomatch h'),
      fun _ h' => (nomatch h'), fun h => absurd h (live_of_active active)⟩
  | @reactivated origin _ op owner paused =>
    exact ⟨fun _ h' => (nomatch h'), fun _ _ => ⟨origin, op, owner⟩, fun _ h' => (nomatch h'),
      fun h => absurd h (live_of_paused paused)⟩
  | updated op named owner live =>
    refine ⟨fun h h' => ?_, fun h h' => ?_, fun h h' => absurd h' h, fun h => h⟩
    · cases h.symm.trans h'
    · cases h.symm.trans h'
  | @unpaid pulse _ e op due failed =>
    exact ⟨fun _ _ => Or.inr ⟨pulse, op, due, Or.inl ⟨e, failed⟩⟩, fun _ h' => (nomatch h'),
      fun _ h' => (nomatch h'), fun h => absurd h (live_of_active due.1)⟩
  | @unsent pulse _ op due lost =>
    exact ⟨fun _ _ => Or.inr ⟨pulse, op, due, Or.inr lost⟩, fun _ h' => (nomatch h'),
      fun _ h' => (nomatch h'), fun h => absurd h (live_of_active due.1)⟩
  | delivered op due taken => exact .of_finalizeIfExhausted op rfl
  | idle op notDue => exact .of_finalizeIfExhausted op rfl

/-! ## Finalized subscriptions -/

/-- A finalized subscription has no credits left. -/
def FinalizedSpent (s : State T) : Prop :=
  ∀ id sub, s.subscriptions.lookup id = some sub → sub.state = .finalized → sub.creditsLeft = 0

theorem FinalizedSpent.initial (h : Initial T s) : FinalizedSpent s := by
  intro id sub hstored
  rw [h.subscriptions] at hstored
  cases hstored

/-- A block without a pulse leaves a spent subscription as it is. -/
theorem finalizeIfExhausted_recordIdle (hfinal : sub.state = .finalized)
    (hzero : sub.creditsLeft = 0) : finalizeIfExhausted (recordIdle sub) = sub := by
  have hidle : recordIdle sub = sub := by
    unfold recordIdle
    rw [hzero]
    cases sub
    cases hzero
    rfl
  rw [hidle]
  exact (finalizeIfExhausted_cases sub).resolve_right fun h => h.1 hfinal

/-- A finalized, spent subscription keeps its record or is removed, and is
served nothing. -/
theorem RecordStep.at_rest {after : Option SubscriptionOf} {pulses : ℕ}
    (h : RecordStep T input s id (some sub) after pulses) (hfinal : sub.state = .finalized)
    (hzero : sub.creditsLeft = 0) : (after = some sub ∨ after = none) ∧ pulses = 0 := by
  cases h with
  | untouched => exact ⟨Or.inl rfl, rfl⟩
  | paused op owner active => exact absurd hfinal (live_of_active active)
  | reactivated op owner paused => exact absurd hfinal (live_of_paused paused)
  | updated op named owner live =>
    exact absurd hfinal (live.elim live_of_active live_of_paused)
  | killed op owner => exact ⟨Or.inr rfl, rfl⟩
  | unpaid op due failed => exact absurd hfinal (live_of_active due.1)
  | unsent op due lost => exact absurd hfinal (live_of_active due.1)
  | delivered op due taken => exact absurd hfinal (live_of_active due.1)
  | idle op notDue =>
    exact ⟨Or.inl (congrArg some (finalizeIfExhausted_recordIdle hfinal hzero)), rfl⟩
  | terminated op final => exact ⟨Or.inr rfl, rfl⟩

theorem FinalizedSpent.step (h : FinalizedSpent s) : FinalizedSpent (step T input s) := by
  intro id sub' hsub' hfinal
  rcases stored_of_step hsub' with ⟨_, _, _, _, _, rfl⟩ | ⟨sub, _, hstored, hrecord⟩
  · cases hfinal
  · by_cases hbefore : sub.state = .finalized
    · have hzero := h id sub hstored hbefore
      rcases (hrecord.at_rest hbefore hzero).1 with hsame | hnone
      · cases hsame
        exact hzero
      · cases hnone
    · exact (hrecord.legal.finalized hbefore hfinal).2

theorem FinalizedSpent.run (hinit : Initial T s) (inputs : List Input) :
    FinalizedSpent (run T inputs s) :=
  Runs.run_invariant (Manager.step T) (FinalizedSpent.initial hinit) fun _ _ _ hu => hu.step

/-! ## Fees of finalized subscriptions -/

theorem creditPrice_of_spent (hzero : sub.creditsLeft = 0) : creditPrice T sub = 0 := by
  have hprice := creditPrice_add T sub
  rw [hzero, calculateSubscriptionFees_zero] at hprice
  omega

/-- Charging a spent subscription moves nothing. -/
theorem spent_uncharged (law : T.currency.Lawful) (hzero : sub.creditsLeft = 0)
    (env : Env) (pulse : RuntimePulse) (s : State T) (who : AccountId32) :
    onHold (left T env pulse id sub s) .fees who =
      onHold (reached T env pulse id s) .fees who := by
  obtain ⟨r, sub', hcharge, hledger, _⟩ :=
    (distributeOne_cases env pulse id sub (reached T env pulse id s)).charges
  obtain ⟨hle, hhold, _⟩ := hcharge.moves law
  rw [creditPrice_of_spent hzero, Nat.le_zero] at hle
  have hsame := hhold who
  rw [hle, ite_self, Nat.add_zero] at hsame
  rw [hsame, onHold, onHold, left, hledger]

/-- Terminating a spent subscription moves no fees. -/
theorem Termination.fees_of_spent (law : T.currency.Lawful) (hzero : sub.creditsLeft = 0)
    (h : Termination T id sub s t) (who : AccountId32) :
    onHold t .fees who = onHold s .fees who := by
  cases h with
  | completed fees deposit =>
    have hhold := (removed_balanced law id fees deposit who).1
    rw [hzero, calculateSubscriptionFees_zero, ite_self, Nat.add_zero] at hhold
    exact hhold
  | failed failed => rw [← terminateSubscription_fails law failed]

/-- The finalization hook moves no fees. -/
theorem FinalizedSpent.onFinalize (law : T.currency.Lawful) (h : FinalizedSpent s)
    (who : AccountId32) : onHold (onFinalize T s) .fees who = onHold s .fees who := by
  refine (onFinalize_invariant (P := fun u => FinalizedSpent u ∧
    onHold u .fees who = onHold s .fees who) ⟨h, rfl⟩ ?_).2
  intro subId sub u v hstored hfinal hterm hu
  refine ⟨fun id sub' hsub' => ?_,
    (hterm.fees_of_spent law (hu.1 subId sub hstored hfinal) who).trans hu.2⟩
  by_cases hid : id = subId
  · subst hid
    cases hterm with
    | completed fees deposit =>
      rw [removed, Finmap.lookup_erase] at hsub'
      cases hsub'
    | failed failed => exact hu.1 id sub' hsub'
  · rw [hterm.lookup_of_ne hid] at hsub'
    exact hu.1 id sub' hsub'

/-- The call is about the subscription, and could change it. -/
def Call.Targets (id : SubscriptionId) : Call → Prop
  | .pauseSubscription subId => subId = id
  | .killSubscription subId => subId = id
  | .updateSubscription params => params.subId = id
  | .reactivateSubscription subId => subId = id
  | _ => False

/-- A call about a finalized, spent subscription moves no fees. -/
theorem call_fees_of_spent (law : T.currency.Lawful)
    (hstored : s.subscriptions.lookup id = some sub) (hfinal : sub.state = .finalized)
    (hzero : sub.creditsLeft = 0) {origin : Origin} {call : Call} (htargets : call.Targets id)
    (who : AccountId32) :
    onHold (dispatch T env origin call s).2 .fees who = onHold s .fees who := by
  refine dispatch_invariant (P := fun t => onHold t .fees who = onHold s .fees who) call rfl ?_
  intro t heffect
  cases heffect with
  | created caller bought room fresh fees deposit => cases htargets
  | paused caller stored owner active => rfl
  | reactivated caller stored owner paused => rfl
  | killed caller stored owner fees deposit =>
    cases htargets
    cases hstored.symm.trans stored
    exact (Termination.completed fees deposit).fees_of_spent law hzero who
  | updated caller stored owner live fees =>
    have hname := htargets
    unfold Call.Targets at hname
    rw [hname] at stored
    cases hstored.symm.trans stored
    exact absurd hfinal (live.elim live_of_active live_of_paused)
  | quoted => rfl
  | informed => rfl

/-- A step leaves a finalized subscription alone: it is spent, keeps its record
or is removed, is served nothing, and no fees are moved on its behalf. -/
structure AtRest (T : Config) (input : Input) (s : State T) (id : SubscriptionId)
    (sub : SubscriptionOf) : Prop where
  spent : sub.creditsLeft = 0
  kept : (step T input s).subscriptions.lookup id = some sub ∨
    (step T input s).subscriptions.lookup id = none
  unserved : served id (step T input s) = served id s
  uncharged : ∀ pulse, input.2 = .distribute pulse → ∀ who,
    onHold (left T input.1 pulse id sub s) .fees who =
      onHold (reached T input.1 pulse id s) .fees who
  unsettled : ∀ origin call, input.2 = .call origin call → call.Targets id → ∀ who,
    onHold (step T input s) .fees who = onHold s .fees who
  unreleased : input.2 = .onFinalize → ∀ who,
    onHold (step T input s) .fees who = onHold s .fees who

theorem FinalizedSpent.at_rest (law : T.currency.Lawful) (h : FinalizedSpent s)
    (hstored : s.subscriptions.lookup id = some sub) (hfinal : sub.state = .finalized) :
    AtRest T input s id sub := by
  have hzero := h id sub hstored hfinal
  obtain ⟨pulses, hrecord, hserved⟩ := step_record T input s id
  rw [hstored] at hrecord
  obtain ⟨hkept, rfl⟩ := hrecord.at_rest hfinal hzero
  refine ⟨hzero, hkept, hserved, fun pulse _ => spent_uncharged law hzero input.1 pulse s, ?_, ?_⟩
  · intro origin call hop htargets who
    unfold Manager.step
    rw [hop]
    exact call_fees_of_spent law hstored hfinal hzero htargets who
  · intro hop who
    unfold Manager.step
    rw [hop]
    exact h.onFinalize law who

/-- THE LIFE OF A SUBSCRIPTION. In every run from empty storage, a step that
brings a subscription into storage creates it, active; a step that changes
the state of a stored one is one of the legal ones; and one that is finalized
stays as it is, spent, unserved and moving no fees, until it is removed. -/
theorem lifecycle_respected (law : T.currency.Lawful) {s₀ : State T} (hinit : Initial T s₀)
    (inputs : List Input) (input : Input) (id : SubscriptionId) :
    (∀ sub', (run T inputs s₀).subscriptions.lookup id = none →
      (step T input (run T inputs s₀)).subscriptions.lookup id = some sub' →
        sub'.state = .active ∧ ∃ origin params, input.2 = .call origin (.createSubscription params)) ∧
      (∀ sub sub', (run T inputs s₀).subscriptions.lookup id = some sub →
        (step T input (run T inputs s₀)).subscriptions.lookup id = some sub' →
          Legal T input (run T inputs s₀) id sub sub') ∧
      ∀ sub, (run T inputs s₀).subscriptions.lookup id = some sub → sub.state = .finalized →
        AtRest T input (run T inputs s₀) id sub := by
  have hspent : FinalizedSpent (run T inputs s₀) := FinalizedSpent.run hinit inputs
  obtain ⟨pulses, hrecord, _⟩ := step_record T input (run T inputs s₀) id
  refine ⟨fun sub' hnone hsub' => ?_, fun sub sub' hsub hsub' => ?_, fun sub hsub hfinal =>
    hspent.at_rest law hsub hfinal⟩
  · rw [hnone, hsub'] at hrecord
    cases hrecord with
    | created op caller named => exact ⟨rfl, _, _, op⟩
  · rw [hsub, hsub'] at hrecord
    exact hrecord.legal

section Sample

open IdealNetwork.Runtime

/-- Alice, served and finalized, tries to reactivate. -/
theorem lifecycle_respected_servedOnce :
    ∃ sub, (run standalone servedOnce funded).subscriptions.lookup sampleId = some sub ∧
      sub.state = .finalized ∧
      AtRest standalone (online 3, .call (.signed alice) (.reactivateSubscription sampleId))
        (run standalone servedOnce funded) sampleId sub := by
  obtain ⟨sub, hsub, hfinal⟩ : ∃ sub,
      (run standalone servedOnce funded).subscriptions.lookup sampleId = some sub ∧
        sub.state = .finalized :=
    Option.map_eq_some_iff.mp (by decide +kernel)
  refine ⟨sub, hsub, hfinal, ?_⟩
  exact (lifecycle_respected (T := standalone) (plain_lawful _) (initial_genesis _) servedOnce _
    sampleId).2.2 sub hsub hfinal

end Sample

end IdealNetwork.Manager
