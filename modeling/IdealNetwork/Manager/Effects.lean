import IdealNetwork.Manager.Pallet

/-!
# What a step of the pallet can do

The inversions every invariant is proved from. A call that succeeds has one
of the effects of `CallEffect`; one iteration of `distribute` is one of the
four of `Iteration`; a termination is one of the two of `Termination`. Each
constructor names the checks that were passed and spells out the state
reached, so a later proof is a case analysis over what happened and never
unfolds a call.

Nothing here supposes anything of the currency.
-/

set_option autoImplicit false

namespace IdealNetwork.Manager

open Scale Storage Storage.Action Holds

variable {T : Config} {env : Env} {origin : Origin} {pulse : RuntimePulse}
variable {subId : SubscriptionId} {sub : SubscriptionOf} {s t : State T}

/-! ## Currency operations -/

theorem onLedger_ok {op : T.currency.Ledger → Except Err (ℕ × T.currency.Ledger)} {n : ℕ} :
    onLedger T op s = (.ok n, t) ↔ ∃ L, op s.ledger = .ok (n, L) ∧ { s with ledger := L } = t := by
  unfold onLedger
  split
  next m L h =>
    rw [h]
    constructor
    · rintro ⟨⟩
      exact ⟨L, rfl, rfl⟩
    · rintro ⟨L', hL, rfl⟩
      cases hL
      rfl
  next e h =>
    rw [h]
    simp only [Prod.mk.injEq, reduceCtorEq, false_and, exists_false]

theorem onLedger_error {op : T.currency.Ledger → Except Err (ℕ × T.currency.Ledger)} {e : Err} :
    onLedger T op s = (.error e, t) ↔ op s.ledger = .error e ∧ s = t := by
  unfold onLedger
  split
  next m L h => simp only [h, Prod.mk.injEq, reduceCtorEq, false_and]
  next e' h => simp only [h, Prod.mk.injEq, Except.error.injEq]

theorem holdFor_ok {reason : HoldReason} {who : AccountId32} {amount : ℕ} {u : Unit} :
    holdFor T reason who amount s = (.ok u, t) ↔
      ∃ L, T.currency.hold reason who amount s.ledger = .ok L ∧ { s with ledger := L } = t := by
  unfold holdFor
  split
  next L h =>
    rw [h]
    constructor
    · rintro ⟨⟩
      exact ⟨L, rfl, rfl⟩
    · rintro ⟨L', hL, rfl⟩
      cases hL
      rfl
  next e h =>
    rw [h]
    simp only [Prod.mk.injEq, reduceCtorEq, false_and, exists_false]

theorem holdFor_bind_ok {α : Type} {reason : HoldReason} {who : AccountId32} {amount : ℕ}
    {f : Unit → PalletM T α} {a : α} :
    (holdFor T reason who amount >>= f) s = (.ok a, t) ↔
      ∃ L, T.currency.hold reason who amount s.ledger = .ok L ∧
        f () { s with ledger := L } = (.ok a, t) := by
  simp only [bind_ok, holdFor_ok]
  constructor
  · rintro ⟨_, _, ⟨L, hL, rfl⟩, hf⟩
    exact ⟨L, hL, hf⟩
  · rintro ⟨L, hL, hf⟩
    exact ⟨(), _, ⟨L, hL, rfl⟩, hf⟩

theorem holdFor_error {reason : HoldReason} {who : AccountId32} {amount : ℕ} {e : Err} :
    holdFor T reason who amount s = (.error e, t) ↔
      T.currency.hold reason who amount s.ledger = .error e ∧ s = t := by
  unfold holdFor
  split
  next L h => simp only [h, Prod.mk.injEq, reduceCtorEq, false_and]
  next e' h => simp only [h, Prod.mk.injEq, Except.error.injEq]

/-- What `manage_diff_fees` does to a ledger when it succeeds. -/
inductive FeesSettled (T : Config) (who : AccountId32) (diff : DiffBalance)
    (L : T.currency.Ledger) : T.currency.Ledger → Prop
  | held {L'} (collect : diff.direction = .collect)
      (done : T.currency.hold .fees who diff.balance L = .ok L') : FeesSettled T who diff L L'
  | released {L' m} (release : diff.direction = .release)
      (done : T.currency.release .fees who diff.balance .exact L = .ok (m, L')) :
      FeesSettled T who diff L L'
  | nothing (none : diff.direction = .none) : FeesSettled T who diff L L

theorem manageDiffFees_ok {who : AccountId32} {diff : DiffBalance} {u : Unit} :
    manageDiffFees T who diff s = (.ok u, t) ↔
      ∃ L, FeesSettled T who diff s.ledger L ∧ { s with ledger := L } = t := by
  unfold manageDiffFees
  cases hdir : diff.direction with
  | collect =>
    simp only [holdFees, holdFor_ok]
    constructor
    · rintro ⟨L, hL, ht⟩
      exact ⟨L, .held hdir hL, ht⟩
    · rintro ⟨L, hL, ht⟩
      cases hL with
      | held _ done => exact ⟨L, done, ht⟩
      | released h _ => exact absurd (hdir.symm.trans h) nofun
      | nothing h => exact absurd (hdir.symm.trans h) nofun
  | release =>
    simp only [releaseFees, bind_ok, onLedger_ok, pure_ok]
    constructor
    · rintro ⟨m, _, ⟨L, hL, rfl⟩, _, ht⟩
      exact ⟨L, .released hdir hL, ht⟩
    · rintro ⟨L, hL, ht⟩
      cases hL with
      | held h _ => exact absurd (hdir.symm.trans h) nofun
      | released _ done => exact ⟨_, _, ⟨L, done, rfl⟩, trivial, ht⟩
      | nothing h => exact absurd (hdir.symm.trans h) nofun
  | none =>
    simp only [pure_ok]
    constructor
    · rintro ⟨_, ht⟩
      exact ⟨s.ledger, .nothing hdir, ht⟩
    · rintro ⟨L, hL, ht⟩
      cases hL with
      | held h _ => exact absurd (hdir.symm.trans h) nofun
      | released h _ => exact absurd (hdir.symm.trans h) nofun
      | nothing _ => exact ⟨trivial, ht⟩

theorem manageDiffFees_bind_ok {α : Type} {who : AccountId32} {diff : DiffBalance}
    {f : Unit → PalletM T α} {a : α} :
    (manageDiffFees T who diff >>= f) s = (.ok a, t) ↔
      ∃ L, FeesSettled T who diff s.ledger L ∧ f () { s with ledger := L } = (.ok a, t) := by
  simp only [bind_ok, manageDiffFees_ok]
  constructor
  · rintro ⟨_, _, ⟨L, hL, rfl⟩, hf⟩
    exact ⟨L, hL, hf⟩
  · rintro ⟨L, hL, hf⟩
    exact ⟨(), _, ⟨L, hL, rfl⟩, hf⟩

/-- A failing `manage_diff_fees` moved nothing. -/
theorem manageDiffFees_error {who : AccountId32} {diff : DiffBalance} {e : Err}
    (h : manageDiffFees T who diff s = (.error e, t)) : s = t := by
  unfold manageDiffFees at h
  cases hdir : diff.direction with
  | collect =>
    rw [hdir] at h
    exact (holdFor_error.mp h).2
  | release =>
    rw [hdir] at h
    simp only [releaseFees, bind_error, onLedger_error, pure_error, and_false, exists_false,
      or_false] at h
    exact h.2
  | none =>
    rw [hdir] at h
    exact absurd h (pure_error.mp · |>.elim)

/-! ## Termination -/

/-- The state a completed termination leaves. -/
def removed (subId : SubscriptionId) (L : T.currency.Ledger) (s : State T) : State T :=
  { s with
    subscriptions := s.subscriptions.erase subId
    subCounter := s.subCounter.saturatingDec
    ledger := L
    events := s.events ++ [.subscriptionTerminated subId] }

theorem terminateSubscription_ok {u : Unit} :
    terminateSubscription T sub subId s = (.ok u, t) ↔
      ∃ L₁ m L₂,
        FeesSettled T sub.details.subscriber (calculateDiffFees T.baseFee sub.creditsLeft 0)
          s.ledger L₁ ∧
        T.currency.release .storageDeposit sub.details.subscriber (calculateStorageDeposit T sub)
          .bestEffort L₁ = .ok (m, L₂) ∧
        removed subId L₂ s = t := by
  unfold terminateSubscription
  simp only [bind_ok, manageDiffFees_ok, releaseDeposit, onLedger_ok, depositEvent, modify_ok,
    pure_ok]
  constructor
  · rintro ⟨_, _, ⟨L₁, hfees, rfl⟩, _, _, ⟨m, _, ⟨L₂, hdeposit, rfl⟩, _, rfl⟩, _, _, rfl, _, _,
      rfl, rfl⟩
    exact ⟨L₁, m, L₂, hfees, hdeposit, rfl⟩
  · rintro ⟨L₁, m, L₂, hfees, hdeposit, rfl⟩
    exact ⟨(), _, ⟨L₁, hfees, rfl⟩, (), _, ⟨m, _, ⟨L₂, hdeposit, rfl⟩, trivial, rfl⟩, (), _, rfl,
      (), _, rfl, rfl⟩

/-- A termination that fails has changed at most the ledger. -/
theorem terminateSubscription_error {e : Err}
    (h : terminateSubscription T sub subId s = (.error e, t)) :
    ∃ L, { s with ledger := L } = t := by
  unfold terminateSubscription at h
  simp only [bind_error, manageDiffFees_ok, releaseDeposit, onLedger_error, depositEvent,
    modify_error, pure_error, and_false, exists_false, or_false] at h
  rcases h with hfees | ⟨_, _, ⟨L, _, rfl⟩, _, rfl⟩
  · exact ⟨s.ledger, manageDiffFees_error hfees⟩
  · exact ⟨L, rfl⟩

/-- A termination removes the subscription, or keeps all but the ledger. -/
inductive Termination (T : Config) (subId : SubscriptionId) (sub : SubscriptionOf)
    (s : State T) : State T → Prop
  | completed {L₁ m L₂}
      (fees : FeesSettled T sub.details.subscriber
        (calculateDiffFees T.baseFee sub.creditsLeft 0) s.ledger L₁)
      (deposit : T.currency.release .storageDeposit sub.details.subscriber
        (calculateStorageDeposit T sub) .bestEffort L₁ = .ok (m, L₂)) :
      Termination T subId sub s (removed subId L₂ s)
  | failed {e L} (failed : terminateSubscription T sub subId s =
      (.error e, { s with ledger := L })) :
      Termination T subId sub s { s with ledger := L }

theorem terminateSubscription_cases (subId : SubscriptionId) (sub : SubscriptionOf)
    (s : State T) : Termination T subId sub s (terminateSubscription T sub subId s).2 := by
  cases h : terminateSubscription T sub subId s with
  | mk r t =>
    cases r with
    | ok u =>
      obtain ⟨L₁, m, L₂, hfees, hdeposit, rfl⟩ := terminateSubscription_ok.mp h
      exact .completed hfees hdeposit
    | error e =>
      obtain ⟨L, rfl⟩ := terminateSubscription_error h
      exact .failed h

/-! ## Charging and sending -/

/-- The price of the next credit of a subscription. -/
def creditPrice (T : Config) (sub : SubscriptionOf) : ℕ :=
  (calculateDiffFees T.baseFee sub.creditsLeft (sub.creditsLeft.saturatingSub 1)).balance

/-- The transfer that pays for it. -/
def payCredit (T : Config) (sub : SubscriptionOf) (L : T.currency.Ledger) :
    Except Err (ℕ × T.currency.Ledger) :=
  T.currency.transferOnHold .fees sub.details.subscriber T.treasuryAccount (creditPrice T sub)
    .bestEffort .free .polite L

/-- The outcomes of charging a subscription one credit. -/
inductive Collection (T : Config) (sub : SubscriptionOf) (s : State T) :
    Except Err Unit × State T → Prop
  | refused {e} (paid : payCredit T sub s.ledger = .error e) : Collection T sub s (.error e, s)
  | short {m L} (paid : payCredit T sub s.ledger = .ok (m, L)) (lt : m < creditPrice T sub) :
      Collection T sub s (.error (.other "NotEnoughBalance"), { s with ledger := L })
  | collected {m L} (paid : payCredit T sub s.ledger = .ok (m, L)) (le : creditPrice T sub ≤ m) :
      Collection T sub s
        (.ok (), { s with ledger := L, events := s.events ++ [.feesCollected sub.id m] })

theorem collectFees_cases (sub : SubscriptionOf) (s : State T) :
    Collection T sub s (collectFees T sub 1 s) := by
  have hne : (1 : Credits) ≠ 0 := by decide
  unfold collectFees
  simp only [hne, if_false]
  cases hpay : payCredit T sub s.ledger with
  | error e =>
    have hop : onLedger T (T.currency.transferOnHold .fees sub.details.subscriber
        T.treasuryAccount (creditPrice T sub) .bestEffort .free .polite) s = (.error e, s) :=
      onLedger_error.mpr ⟨hpay, rfl⟩
    have hcollect : feesManagerCollectFees T (creditPrice T sub) sub s = (.error (.other e), s) :=
      bind_of_error (mapError_of_error hop)
    rw [← creditPrice, bind_of_error (mapError_of_error hcollect)]
    exact .refused hpay
  | ok r =>
    obtain ⟨m, L⟩ := r
    have hop : onLedger T (T.currency.transferOnHold .fees sub.details.subscriber
        T.treasuryAccount (creditPrice T sub) .bestEffort .free .polite) s =
          (.ok m, { s with ledger := L }) := onLedger_ok.mpr ⟨L, hpay, rfl⟩
    have hcollect : feesManagerCollectFees T (creditPrice T sub) sub s =
        (if m < creditPrice T sub then .fail (.notEnoughBalance (creditPrice T sub) m) else pure m :
          Action FeesError (State T) ℕ) { s with ledger := L } :=
      bind_of_ok (mapError_of_ok hop)
    rw [← creditPrice]
    by_cases hlt : m < creditPrice T sub
    · rw [if_pos hlt] at hcollect
      rw [bind_of_error (mapError_of_error hcollect)]
      exact .short hpay hlt
    · rw [if_neg hlt] at hcollect
      rw [bind_of_ok (mapError_of_ok hcollect)]
      exact .collected hpay (Nat.not_lt.mp hlt)

/-- What charging does is determined by the transfer. -/
theorem Collection.unique {r r' : Except Err Unit × State T} (h : Collection T sub s r)
    (h' : Collection T sub s r') : r = r' := by
  cases h with
  | refused paid =>
    cases h' with
    | refused paid' =>
      cases paid.symm.trans paid'
      rfl
    | short paid' => cases paid.symm.trans paid'
    | collected paid' => cases paid.symm.trans paid'
  | short paid lt =>
    cases h' with
    | refused paid' => cases paid.symm.trans paid'
    | short paid' =>
      cases paid.symm.trans paid'
      rfl
    | collected paid' le =>
      cases paid.symm.trans paid'
      exact absurd lt (Nat.not_lt.mpr le)
  | collected paid le =>
    cases h' with
    | refused paid' => cases paid.symm.trans paid'
    | short paid' lt =>
      cases paid.symm.trans paid'
      exact absurd lt (Nat.not_lt.mpr le)
    | collected paid' =>
      cases paid.symm.trans paid'
      rfl

theorem Collection.subscriptions {r : Except Err Unit × State T} (h : Collection T sub s r) :
    r.2.subscriptions = s.subscriptions := by
  cases h <;> rfl

theorem Collection.sent {r : Except Err Unit × State T} (h : Collection T sub s r) :
    r.2.sent = s.sent := by
  cases h <;> rfl

/-- The message that takes a call to a target, when its sender has a location
to refund. -/
def xcmMessage (T : Config) (acc : AccountId32) (target : Location) (call : Bytes)
    (originKind : OriginKind) : Option XcmMessage :=
  (T.localOriginToLocation acc).map fun beneficiary =>
    ⟨acc, target, xcmProgram T call originKind beneficiary⟩

/-- The message that takes a pulse to a subscription's target. -/
def pulseMessage (T : Config) (pulse : RuntimePulse) (subId : SubscriptionId)
    (sub : SubscriptionOf) : Option XcmMessage :=
  xcmMessage T sub.details.subscriber sub.details.target (deliveryCall pulse subId sub)
    sub.details.originKind

/-- The XCM sender takes a subscription's pulse. -/
def CanSend (T : Config) (env : Env) (pulse : RuntimePulse) (subId : SubscriptionId)
    (sub : SubscriptionOf) : Prop :=
  ∃ message, pulseMessage T pulse subId sub = some message ∧ env.send message = .ok ()

theorem xcmSend_ok {acc : AccountId32} {target : Location} {call : Bytes}
    {originKind : OriginKind} {u : Unit} :
    xcmSend T env acc target call originKind s = (.ok u, t) ↔
      ∃ message, xcmMessage T acc target call originKind = some message ∧
        env.send message = .ok u ∧ { s with sent := s.sent ++ [message] } = t := by
  unfold xcmSend xcmMessage
  simp only [okOr_bind_ok, ofExcept_bind_ok, modify_ok, Option.map_eq_some_iff]
  constructor
  · rintro ⟨beneficiary, hb, _, hsend, rfl⟩
    exact ⟨_, ⟨beneficiary, hb, rfl⟩, hsend, rfl⟩
  · rintro ⟨_, ⟨beneficiary, hb, rfl⟩, hsend, rfl⟩
    exact ⟨beneficiary, hb, (), hsend, rfl⟩

theorem xcmSend_bind_ok {α : Type} {acc : AccountId32} {target : Location} {call : Bytes}
    {originKind : OriginKind} {f : Unit → PalletM T α} {a : α} :
    (xcmSend T env acc target call originKind >>= f) s = (.ok a, t) ↔
      ∃ message, xcmMessage T acc target call originKind = some message ∧
        env.send message = .ok () ∧ f () { s with sent := s.sent ++ [message] } = (.ok a, t) := by
  simp only [bind_ok, xcmSend_ok]
  constructor
  · rintro ⟨_, _, ⟨message, hmade, htaken, rfl⟩, hf⟩
    exact ⟨message, hmade, htaken, hf⟩
  · rintro ⟨message, hmade, htaken, hf⟩
    exact ⟨(), _, ⟨message, hmade, htaken, rfl⟩, hf⟩

/-- A message that was not sent leaves nothing behind. -/
theorem xcmSend_error {acc : AccountId32} {target : Location} {call : Bytes}
    {originKind : OriginKind} {e : Err}
    (h : xcmSend T env acc target call originKind s = (.error e, t)) : s = t := by
  unfold xcmSend at h
  simp only [bind_error, okOr_error, okOr_ok, ofExcept_error, modify_error, and_false,
    exists_false, or_false] at h
  rcases h with ⟨_, ht⟩ | ⟨_, _, ⟨_, rfl⟩, _, ht⟩
  · exact ht
  · exact ht

/-! ## Iterations of distribute -/

@[simp] theorem finalizeIfExhausted_details (sub : SubscriptionOf) :
    (finalizeIfExhausted sub).details = sub.details := by
  unfold finalizeIfExhausted
  split <;> rfl

@[simp] theorem finalizeIfExhausted_metadata (sub : SubscriptionOf) :
    (finalizeIfExhausted sub).metadata = sub.metadata := by
  unfold finalizeIfExhausted
  split <;> rfl

@[simp] theorem finalizeIfExhausted_lastDelivered (sub : SubscriptionOf) :
    (finalizeIfExhausted sub).lastDelivered = sub.lastDelivered := by
  unfold finalizeIfExhausted
  split <;> rfl

@[simp] theorem finalizeIfExhausted_creditsLeft (sub : SubscriptionOf) :
    (finalizeIfExhausted sub).creditsLeft = sub.creditsLeft := by
  unfold finalizeIfExhausted
  split <;> rfl

/-- The four ways an iteration can go. -/
inductive Iteration (T : Config) (env : Env) (pulse : RuntimePulse) (subId : SubscriptionId)
    (sub : SubscriptionOf) (s : State T) : State T → Prop
  | unpaid {e u} (due : Eligible env sub) (charge : Collection T sub s (.error e, u)) :
      Iteration T env pulse subId sub s (pauseSubscriptionOnError T subId sub u)
  | unsent {u} (due : Eligible env sub) (charge : Collection T sub s (.ok (), u))
      (lost : ¬ CanSend T env pulse subId sub) :
      Iteration T env pulse subId sub s
        (pauseSubscriptionOnError T subId (recordDelivery env sub) u)
  | delivered {u message} (due : Eligible env sub) (charge : Collection T sub s (.ok (), u))
      (made : pulseMessage T pulse subId sub = some message)
      (taken : env.send message = .ok ()) :
      Iteration T env pulse subId sub s (finishIteration T subId (recordDelivery env sub)
        { u with
          sent := u.sent ++ [message]
          events := u.events ++ [.randomnessDistributed subId] })
  | idle {r u} (notDue : ¬ Eligible env sub) (charge : Collection T sub s (r, u)) :
      Iteration T env pulse subId sub s (finishIteration T subId (recordIdle sub) u)

theorem distributeOne_cases (env : Env) (pulse : RuntimePulse) (subId : SubscriptionId)
    (sub : SubscriptionOf) (s : State T) :
    Iteration T env pulse subId sub s (distributeOne T env pulse subId sub s) := by
  have hcharge : Collection T sub s (collectFees T sub 1 s) := collectFees_cases sub s
  unfold distributeOne
  split
  next hdue =>
    split
    next e u hcollect => exact .unpaid hdue (hcollect ▸ hcharge)
    next _ u hcollect =>
      have hpaid : Collection T sub s (.ok (), u) := hcollect ▸ hcharge
      split
      next e v hsend =>
        cases xcmSend_error hsend
        refine .unsent hdue hpaid ?_
        rintro ⟨message, hmade, htaken⟩
        have hok : sendPulse T env pulse subId (recordDelivery env sub) u =
            (.ok (), { u with sent := u.sent ++ [message] }) :=
          xcmSend_ok.mpr ⟨message, hmade, htaken, rfl⟩
        rw [hok] at hsend
        cases hsend
      next _ v hsend =>
        obtain ⟨message, hmade, htaken, rfl⟩ := xcmSend_ok.mp hsend
        exact .delivered hdue hpaid hmade htaken
  next hidle => exact .idle hidle hcharge

/-- An iteration writes the subscription it is at, and nothing else. The
record keeps its details and metadata, and its last delivery unless a pulse
was due. -/
theorem Iteration.subscriptions (h : Iteration T env pulse subId sub s t) :
    ∃ sub', t.subscriptions = s.subscriptions.insert subId sub' ∧
      sub'.details = sub.details ∧ sub'.metadata = sub.metadata ∧
      (sub'.lastDelivered = sub.lastDelivered ∨
        Eligible env sub ∧ sub'.lastDelivered = some env.blockNumber) := by
  cases h with
  | unpaid due charge =>
    exact ⟨{ sub with state := .paused }, congrArg (Finmap.insert subId _) charge.subscriptions,
      rfl, rfl, Or.inl rfl⟩
  | unsent due charge lost =>
    exact ⟨{ recordDelivery env sub with state := .paused },
      congrArg (Finmap.insert subId _) charge.subscriptions, rfl, rfl, Or.inr ⟨due, rfl⟩⟩
  | delivered due charge made taken =>
    exact ⟨finalizeIfExhausted (recordDelivery env sub),
      congrArg (Finmap.insert subId _) charge.subscriptions, finalizeIfExhausted_details _,
      finalizeIfExhausted_metadata _, Or.inr ⟨due, finalizeIfExhausted_lastDelivered _⟩⟩
  | idle notDue charge =>
    exact ⟨finalizeIfExhausted (recordIdle sub),
      congrArg (Finmap.insert subId _) charge.subscriptions, finalizeIfExhausted_details _,
      finalizeIfExhausted_metadata _, Or.inl (finalizeIfExhausted_lastDelivered _)⟩

theorem distributeOne_own (T : Config) (env : Env) (pulse : RuntimePulse) :
    OwnKeyOnly State.subscriptions (distributeOne T env pulse) := by
  intro k v s j hne
  obtain ⟨sub', hsubs, _⟩ := (distributeOne_cases env pulse k v s).subscriptions
  rw [hsubs, Finmap.lookup_insert_of_ne _ hne]

theorem Termination.lookup_of_ne (h : Termination T subId sub s t) {j : SubscriptionId}
    (hne : j ≠ subId) : t.subscriptions.lookup j = s.subscriptions.lookup j := by
  cases h with
  | completed fees deposit => exact Finmap.lookup_erase_ne hne
  | failed failed => rfl

theorem terminate_own (T : Config) :
    OwnKeyOnly State.subscriptions
      (fun subId sub (s : State T) => (terminateSubscription T sub subId s).2) :=
  fun k v s _ hne => (terminateSubscription_cases k v s).lookup_of_ne hne

/-- THE DISTRIBUTION RULE: what every iteration keeps, met at a record that
stands in storage as it stood when the distribution began, the distribution
keeps. -/
theorem distribute_invariant {P : State T → Prop} (h : P s)
    (step : ∀ {subId sub u v}, s.subscriptions.lookup subId = some sub →
      u.subscriptions.lookup subId = some sub →
      Iteration T env pulse subId sub u v → P u → P v) :
    P (distribute T env pulse s) := by
  refine forEach_invariant (distributeOne_own T env pulse) ?_ (snapshot_iter T.hasher _) h
  intro k v t hmem hlookup ht
  exact step (mem_iter.mp hmem) hlookup (distributeOne_cases env pulse k v t) ht

theorem snapshot_terminatable (s : State T) : Snapshot s.subscriptions (terminatable T s) :=
  (snapshot_iter T.hasher s.subscriptions).sublist
    ((List.take_sublist _ _).trans List.filter_sublist)

theorem mem_terminatable (h : (subId, sub) ∈ terminatable T s) :
    s.subscriptions.lookup subId = some sub ∧ sub.state = .finalized := by
  obtain ⟨hmem, hfinal⟩ := List.mem_filter.mp (List.mem_of_mem_take h)
  exact ⟨mem_iter.mp hmem, of_decide_eq_true hfinal⟩

/-- THE FINALIZATION RULE: what every termination of a finalized subscription
keeps, the hook keeps. -/
theorem onFinalize_invariant {P : State T → Prop} (h : P s)
    (step : ∀ {subId sub u v}, u.subscriptions.lookup subId = some sub →
      sub.state = .finalized → Termination T subId sub u v → P u → P v) :
    P (onFinalize T s) := by
  refine forEach_invariant (terminate_own T) ?_ (snapshot_terminatable s) h
  intro k v t hmem hlookup ht
  exact step hlookup (mem_terminatable hmem).2 (terminateSubscription_cases k v t) ht

/-! ## Calls -/

/-- The state `create_subscription` leaves. -/
def created (sub : SubscriptionOf) (L : T.currency.Ledger) (s : State T) : State T :=
  { s with
    subscriptions := s.subscriptions.insert sub.id sub
    subCounter := s.subCounter.saturatingInc
    ledger := L
    events := s.events ++ [.subscriptionCreated sub.id] }

/-- The state after a record has been rewritten in place. -/
def rewritten (subId : SubscriptionId) (sub : SubscriptionOf) (L : T.currency.Ledger)
    (event : Event) (s : State T) : State T :=
  { s with
    subscriptions := s.subscriptions.insert subId sub
    ledger := L
    events := s.events ++ [event] }

/-- The state after a request has been answered. -/
def answered (message : XcmMessage) (event : Event) (s : State T) : State T :=
  { s with
    events := s.events ++ [event]
    sent := s.sent ++ [message] }

/-- The effect of a call that succeeds. -/
inductive CallEffect (T : Config) (env : Env) (origin : Origin) (s : State T) :
    Call → State T → Prop
  | created {params who L₁ L₂}
      (caller : ensureSignedOrValidXcmOrigin T origin = .ok who)
      (bought : params.credits ≠ 0)
      (room : s.subCounter < T.maxSubscriptions)
      (fresh : newSubId T env who params ∉ s.subscriptions)
      (fees : T.currency.hold .fees who (calculateSubscriptionFees T.baseFee params.credits)
        s.ledger = .ok L₁)
      (deposit : T.currency.hold .storageDeposit who (calculateStorageDeposit T
        (newSubscription env who (newSubId T env who params) params)) L₁ = .ok L₂) :
      CallEffect T env origin s (.createSubscription params)
        (created (newSubscription env who (newSubId T env who params) params) L₂ s)
  | paused {subId who sub}
      (caller : ensureSignedOrValidXcmOrigin T origin = .ok who)
      (stored : s.subscriptions.lookup subId = some sub)
      (owner : sub.details.subscriber = who) (active : sub.state = .active) :
      CallEffect T env origin s (.pauseSubscription subId)
        (rewritten subId { sub with state := .paused } s.ledger (.subscriptionPaused subId) s)
  | reactivated {subId who sub}
      (caller : ensureSignedOrValidXcmOrigin T origin = .ok who)
      (stored : s.subscriptions.lookup subId = some sub)
      (owner : sub.details.subscriber = who) (paused : sub.state = .paused) :
      CallEffect T env origin s (.reactivateSubscription subId)
        (rewritten subId { sub with state := .active } s.ledger (.subscriptionReactivated subId) s)
  | killed {subId who sub L₁ m L₂}
      (caller : ensureSignedOrValidXcmOrigin T origin = .ok who)
      (stored : s.subscriptions.lookup subId = some sub)
      (owner : sub.details.subscriber = who)
      (fees : FeesSettled T sub.details.subscriber
        (calculateDiffFees T.baseFee sub.creditsLeft 0) s.ledger L₁)
      (deposit : T.currency.release .storageDeposit sub.details.subscriber
        (calculateStorageDeposit T sub) .bestEffort L₁ = .ok (m, L₂)) :
      CallEffect T env origin s (.killSubscription subId) (removed subId L₂ s)
  | updated {params who sub L}
      (caller : ensureSignedOrValidXcmOrigin T origin = .ok who)
      (stored : s.subscriptions.lookup params.subId = some sub)
      (owner : sub.details.subscriber = who) (live : sub.state = .active ∨ sub.state = .paused)
      (fees : FeesSettled T who (updateFeesDiff T params sub) s.ledger L) :
      CallEffect T env origin s (.updateSubscription params)
        (rewritten params.subId (applyUpdate env params sub) L
          (.subscriptionUpdated params.subId) s)
  | quoted {params message requester quote} :
      CallEffect T env origin s (.quoteSubscription params)
        (answered message (.subQuoted requester quote) s)
  | informed {req message} :
      CallEffect T env origin s (.getSubscriptionInfo req)
        (answered message (.subscriptionDistributed req.subId) s)

theorem createSubscription_ok {params : CreateSubParamsOf} {u : Unit}
    (h : createSubscription T env origin params s = (.ok u, t)) :
    CallEffect T env origin s (.createSubscription params) t := by
  unfold createSubscription at h
  simp only [ofExcept_bind_ok, ensure_bind_ok, get_bind_ok, holdFees, holdDeposit,
    holdFor_bind_ok, insertSubscription, modify_bind_ok, depositEvent, modify_ok] at h
  obtain ⟨who, hcaller, hbought, hroom, hfresh, L₁, hfees, L₂, hdeposit, rfl⟩ := h
  exact .created hcaller hbought hroom hfresh hfees hdeposit

/-- A creation that pays is accepted. -/
theorem createSubscription_succeeds {params : CreateSubParamsOf} {who : AccountId32}
    {L₁ L₂ : T.currency.Ledger} (hcaller : ensureSignedOrValidXcmOrigin T origin = .ok who)
    (hname : newSubId T env who params = subId) (hbought : params.credits ≠ 0)
    (hroom : s.subCounter < T.maxSubscriptions) (hfresh : subId ∉ s.subscriptions)
    (hfees : T.currency.hold .fees who (calculateSubscriptionFees T.baseFee params.credits)
      s.ledger = .ok L₁)
    (hdeposit : T.currency.hold .storageDeposit who (calculateStorageDeposit T
      (newSubscription env who subId params)) L₁ = .ok L₂) :
    dispatch T env origin (.createSubscription params) s =
      (.ok (), created (newSubscription env who subId params) L₂ s) := by
  subst hname
  refine transactional_ok.mpr ?_
  show createSubscription T env origin params s = _
  unfold createSubscription
  simp only [ofExcept_bind_ok, ensure_bind_ok, get_bind_ok, holdFees, holdDeposit,
    holdFor_bind_ok, insertSubscription, modify_bind_ok, depositEvent, modify_ok]
  exact ⟨who, hcaller, hbought, hroom, hfresh, L₁, hfees, L₂, hdeposit, rfl⟩

theorem tryMutate_ok {f : Option SubscriptionOf → PalletM T SubscriptionOf} {u : Unit} :
    tryMutate T subId f s = (.ok u, t) ↔
      ∃ sub' v, f (s.subscriptions.lookup subId) s = (.ok sub', v) ∧
        { v with subscriptions := v.subscriptions.insert subId sub' } = t := by
  unfold tryMutate
  simp only [get_bind_ok]
  simp only [bind_ok, insertSubscription, modify_ok]

theorem pauseSubscription_ok {u : Unit} (h : pauseSubscription T origin subId s = (.ok u, t)) :
    CallEffect T env origin s (.pauseSubscription subId) t := by
  unfold pauseSubscription at h
  simp only [ofExcept_bind_ok, tryMutate_ok, okOr_bind_ok, ensure_bind_ok, depositEvent,
    modify_bind_ok, pure_ok] at h
  obtain ⟨who, hcaller, _, _, ⟨sub, hstored, howner, hactive, rfl, rfl⟩, rfl⟩ := h
  exact .paused hcaller hstored howner hactive

theorem reactivateSubscription_ok {u : Unit}
    (h : reactivateSubscription T origin subId s = (.ok u, t)) :
    CallEffect T env origin s (.reactivateSubscription subId) t := by
  unfold reactivateSubscription at h
  simp only [ofExcept_bind_ok, tryMutate_ok, okOr_bind_ok, ensure_bind_ok, depositEvent,
    modify_bind_ok, pure_ok] at h
  obtain ⟨who, hcaller, _, _, ⟨sub, hstored, howner, hpaused, rfl, rfl⟩, rfl⟩ := h
  exact .reactivated hcaller hstored howner hpaused

theorem killSubscription_ok {u : Unit} :
    killSubscription T origin subId s = (.ok u, t) ↔
      ∃ who sub, ensureSignedOrValidXcmOrigin T origin = .ok who ∧
        s.subscriptions.lookup subId = some sub ∧ sub.details.subscriber = who ∧
        terminateSubscription T sub subId s = (.ok u, t) := by
  unfold killSubscription
  simp only [ofExcept_bind_ok, get_bind_ok, okOr_bind_ok, ensure_bind_ok]
  constructor
  · rintro ⟨who, hcaller, sub, hstored, howner, h⟩
    exact ⟨who, sub, hcaller, hstored, howner, h⟩
  · rintro ⟨who, sub, hcaller, hstored, howner, h⟩
    exact ⟨who, hcaller, sub, hstored, howner, h⟩

/-- Compared with itself, a record asks for no deposit. -/
theorem manageDiffDeposit_self (who : AccountId32) (sub : SubscriptionOf) :
    manageDiffDeposit T who (calculateDiffDeposit T sub sub) = pure () := by
  simp only [manageDiffDeposit, calculateDiffDeposit, lt_irrefl, if_false]

theorem updateSubscription_ok {params : UpdateSubParamsOf} {u : Unit}
    (h : updateSubscription T env origin params s = (.ok u, t)) :
    CallEffect T env origin s (.updateSubscription params) t := by
  unfold updateSubscription at h
  simp only [ofExcept_bind_ok, tryMutate_ok, okOr_bind_ok, ensure_bind_ok, manageDiffFees_bind_ok,
    manageDiffDeposit_self, pure_bind_ok, depositEvent, modify_bind_ok, pure_ok] at h
  obtain ⟨who, hcaller, _, _, ⟨sub, hstored, howner, hlive, L, hfees, rfl, rfl⟩, rfl⟩ := h
  exact .updated hcaller hstored howner hlive hfees

/-- The quote that an account is given. -/
def quoteFor (T : Config) (env : Env) (acc : AccountId32) (params : QuoteSubParamsOf) : Quote where
  reqRef := params.quoteRequest.reqRef
  fees := calculateSubscriptionFees T.baseFee
    (calculateCredits params.quoteRequest.createSubParams.frequency
      params.quoteRequest.lifetimePulses)
  deposit := calculateStorageDepositFromCreateParams T env acc params.quoteRequest.createSubParams

/-- A quote is sent to the requester, behind their callback. -/
theorem quoteSubscription_answers {params : QuoteSubParamsOf} {u : Unit}
    (h : dispatch T env origin (.quoteSubscription params) s = (.ok u, t)) :
    ∃ requester target acc message, ensureRequester T origin = .ok (requester, target, acc) ∧
      xcmMessage T acc target (params.call.toList ++ encode (quoteFor T env acc params))
        params.originKind = some message ∧
      t = answered message (.subQuoted requester (quoteFor T env acc params)) s := by
  have hcall : quoteSubscription T env origin params s = (.ok u, t) := transactional_ok.mp h
  unfold quoteSubscription at hcall
  simp only [ofExcept_bind_ok, xcmSend_bind_ok, depositEvent, modify_ok] at hcall
  obtain ⟨⟨requester, target, acc⟩, hrequester, message, hmade, _, ht⟩ := hcall
  exact ⟨requester, target, acc, message, hrequester, hmade, ht.symm⟩

/-- The data of a subscription are sent as they are stored. -/
theorem getSubscriptionInfo_answers {req : SubInfoRequestOf} {u : Unit}
    (h : dispatch T env origin (.getSubscriptionInfo req) s = (.ok u, t)) :
    ∃ target acc sub message, s.subscriptions.lookup req.subId = some sub ∧
      xcmMessage T acc target (req.call.toList ++
        encode (⟨req.reqRef, sub⟩ : SubInfoResponse SubscriptionOf)) req.originKind =
          some message ∧
      t = answered message (.subscriptionDistributed req.subId) s := by
  have hcall : getSubscriptionInfo T env origin req s = (.ok u, t) := transactional_ok.mp h
  unfold getSubscriptionInfo at hcall
  simp only [ofExcept_bind_ok, get_bind_ok, okOr_bind_ok, xcmSend_bind_ok, depositEvent,
    modify_ok] at hcall
  obtain ⟨⟨_, target, acc⟩, _, sub, hstored, message, hmade, _, ht⟩ := hcall
  exact ⟨target, acc, sub, message, hstored, hmade, ht.symm⟩

theorem dispatch_ok {call : Call} {u : Unit} (h : dispatch T env origin call s = (.ok u, t)) :
    CallEffect T env origin s call t := by
  have hcall := transactional_ok.mp h
  cases call with
  | createSubscription params => exact createSubscription_ok hcall
  | pauseSubscription subId => exact pauseSubscription_ok hcall
  | killSubscription subId =>
    obtain ⟨who, sub, hcaller, hstored, howner, hdone⟩ := killSubscription_ok.mp hcall
    obtain ⟨L₁, m, L₂, hfees, hdeposit, rfl⟩ := terminateSubscription_ok.mp hdone
    exact .killed hcaller hstored howner hfees hdeposit
  | updateSubscription params => exact updateSubscription_ok hcall
  | reactivateSubscription subId => exact reactivateSubscription_ok hcall
  | quoteSubscription params =>
    obtain ⟨_, _, _, _, _, _, rfl⟩ := quoteSubscription_answers h
    exact .quoted
  | getSubscriptionInfo req =>
    obtain ⟨_, _, _, _, _, _, rfl⟩ := getSubscriptionInfo_answers h
    exact .informed

/-- A call that fails changes nothing. -/
theorem dispatch_failed {call : Call} (h : (dispatch T env origin call s).1 ≠ .ok ()) :
    (dispatch T env origin call s).2 = s := by
  unfold dispatch at h ⊢
  rcases transactional_cases _ s with ⟨_, t, _, hok⟩ | ⟨e, herror⟩
  · rw [hok] at h
    exact absurd rfl h
  · rw [herror]

/-- THE CALL RULE: a call has one of the effects above, or changes nothing. -/
theorem dispatch_invariant {P : State T → Prop} (call : Call) (h : P s)
    (step : ∀ {t}, CallEffect T env origin s call t → P t) :
    P (dispatch T env origin call s).2 := by
  rcases hd : dispatch T env origin call s with ⟨r, t⟩
  cases r with
  | ok u => exact step (dispatch_ok hd)
  | error e =>
    have hsame : (dispatch T env origin call s).2 = s := by
      refine dispatch_failed ?_
      rw [hd]
      nofun
    rw [hd] at hsame
    exact hsame ▸ h

end IdealNetwork.Manager
