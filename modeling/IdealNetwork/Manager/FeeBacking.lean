import IdealNetwork.Manager.Accounts
import IdealNetwork.Runtime

/-!
# Fees are backed

The balance an account has on hold for fees is, at every moment, the price of
the credits its subscriptions have left: `FeesBacked`. Each step keeps it, so
every run without an `update_subscription` does (`fees_backed`), and an owner
can always kill a subscription and get the price of its credits back.

`update_subscription` breaks it. It settles the difference between the
credits bought before and after, and leaves the credits left as they are, so
the hold moves and what it backs does not (`update_keeps_backing_iff`).
-/

set_option autoImplicit false

namespace IdealNetwork.Manager

open Storage Holds

variable {T : Config} {s t : State T} {env : Env} {origin : Origin} {pulse : RuntimePulse}
variable {subId : SubscriptionId} {sub sub' : SubscriptionOf}

/-- The price of the credits a subscription has left. -/
def feesLeft (T : Config) (sub : SubscriptionOf) : ℕ :=
  calculateSubscriptionFees T.baseFee sub.creditsLeft

/-- Every account's fees hold is the price of what its subscriptions have left. -/
def FeesBacked (s : State T) : Prop :=
  ∀ who, onHold s .fees who = owed (feesLeft T) who s

/-! ## What each step keeps -/

theorem FeesBacked.initial (h : Initial T s) : FeesBacked s := by
  intro who
  rw [owed_initial _ _ h]
  exact h.held .fees who

/-- A stored subscription's remaining fees are on hold. -/
theorem FeesBacked.covered (h : FeesBacked s)
    (hstored : s.subscriptions.lookup subId = some sub) :
    feesLeft T sub ≤ onHold s .fees sub.details.subscriber := by
  rw [h sub.details.subscriber]
  exact le_owed (feesLeft T) hstored

/-- So a stored subscription is charged in full. -/
theorem FeesBacked.collected (pays : T.currency.PaysHeld) (h : FeesBacked s)
    (hstored : s.subscriptions.lookup subId = some sub) {r : Except Err Unit × State T}
    (hcharge : Collection T sub s r) :
    r.1 = .ok () ∧ amountPaid T sub s.ledger = creditPrice T sub := by
  have hprice := creditPrice_add T sub
  have hcovered := h.covered hstored
  have hheld : creditPrice T sub ≤ onHold s .fees sub.details.subscriber := by
    unfold feesLeft at hcovered
    omega
  exact hcharge.of_held pays hheld

/-- Rewriting a record without touching its owner, its credits or the ledger. -/
theorem FeesBacked.rewrite (h : FeesBacked s)
    (hstored : s.subscriptions.lookup subId = some sub)
    (ht : t.subscriptions = s.subscriptions.insert subId sub')
    (hdetails : sub'.details = sub.details) (hcredits : sub'.creditsLeft = sub.creditsLeft)
    (hledger : t.ledger = s.ledger) : FeesBacked t := by
  intro who
  have howed := owed_rewrite (feesLeft T) who hstored hdetails ht
  have hfees : feesLeft T sub' = feesLeft T sub := by rw [feesLeft, hcredits, feesLeft]
  have hsame : onHold t .fees who = onHold s .fees who := by rw [onHold, hledger, onHold]
  rw [hfees] at howed
  rw [hsame, h who]
  omega

/-- Charging a credit and writing down that it is gone. -/
theorem FeesBacked.charge (law : T.currency.Lawful) (pays : T.currency.PaysHeld)
    (h : FeesBacked s) (hstored : s.subscriptions.lookup subId = some sub)
    {r : Except Err Unit × State T} (hcharge : Collection T sub s r)
    (ht : t.subscriptions = r.2.subscriptions.insert subId sub')
    (hdetails : sub'.details = sub.details)
    (hcredits : sub'.creditsLeft = sub.creditsLeft.saturatingSub 1)
    (hledger : t.ledger = r.2.ledger) : FeesBacked t := by
  intro who
  have hprice := creditPrice_add T sub
  have hpaid := (h.collected pays hstored hcharge).2
  have hmoved := (hcharge.balanced law who).1
  rw [hpaid] at hmoved
  rw [hcharge.subscriptions] at ht
  have howed := owed_rewrite (feesLeft T) who hstored hdetails ht
  have hafter : onHold t .fees who = onHold r.2 .fees who := by rw [onHold, hledger, onHold]
  have hbefore := h who
  unfold feesLeft at howed hbefore ⊢
  rw [hcredits] at howed
  by_cases hw : who = sub.details.subscriber
  · simp only [hw, if_true] at *
    omega
  · simp only [hw, if_false] at *
    omega

theorem FeesBacked.iteration (law : T.currency.Lawful) (pays : T.currency.PaysHeld)
    (h : FeesBacked s) (hstored : s.subscriptions.lookup subId = some sub)
    (hiter : Iteration T env pulse subId sub s t) : FeesBacked t := by
  cases hiter with
  | unpaid due charge =>
    -- what is on hold covers the credit, so the charge does not fail
    exact absurd (h.collected pays hstored charge).1 nofun
  | unsent due charge lost => exact h.charge law pays hstored charge rfl rfl rfl rfl
  | delivered due charge made taken =>
    exact h.charge law pays hstored charge rfl (finalizeIfExhausted_details _)
      (finalizeIfExhausted_creditsLeft _) rfl
  | idle notDue charge =>
    exact h.charge law pays hstored charge rfl (finalizeIfExhausted_details _)
      (finalizeIfExhausted_creditsLeft _) rfl

theorem FeesBacked.remove (law : T.currency.Lawful) {L₁ L₂ : T.currency.Ledger} {m : ℕ}
    (h : FeesBacked s) (hstored : s.subscriptions.lookup subId = some sub)
    (hfees : FeesSettled T sub.details.subscriber
      (calculateDiffFees T.baseFee sub.creditsLeft 0) s.ledger L₁)
    (hdeposit : T.currency.release .storageDeposit sub.details.subscriber
      (calculateStorageDeposit T sub) .bestEffort L₁ = .ok (m, L₂)) :
    FeesBacked (removed subId L₂ s) := by
  intro who
  have hhold := (removed_balanced law subId hfees hdeposit who).1
  have howed := owed_removed (feesLeft T) who hstored L₂
  have hbefore := h who
  unfold feesLeft at howed hbefore ⊢
  omega

theorem FeesBacked.termination (law : T.currency.Lawful) (h : FeesBacked s)
    (hstored : s.subscriptions.lookup subId = some sub)
    (hterm : Termination T subId sub s t) : FeesBacked t := by
  cases hterm with
  | completed fees deposit => exact h.remove law hstored fees deposit
  | failed failed =>
    obtain ⟨v, hok⟩ := terminateSubscription_succeeds law (h.covered hstored) subId
    exact absurd (failed.symm.trans hok) nofun

theorem FeesBacked.callEffect (law : T.currency.Lawful) {call : Call} (h : FeesBacked s)
    (hcall : ∀ params, call ≠ .updateSubscription params)
    (heffect : CallEffect T env origin s call t) : FeesBacked t := by
  cases heffect with
  | created caller bought room fresh fees deposit =>
    intro who
    rw [(created_balanced law _ fees deposit who).1, h who, owed_created]
    · rfl
    · exact fresh
  | paused caller stored owner active => exact h.rewrite stored rfl rfl rfl rfl
  | reactivated caller stored owner paused => exact h.rewrite stored rfl rfl rfl rfl
  | killed caller stored owner fees deposit => exact h.remove law stored fees deposit
  | updated caller stored owner live fees => exact absurd rfl (hcall _)
  | quoted => exact h
  | informed => exact h

theorem FeesBacked.step (law : T.currency.Lawful) (pays : T.currency.PaysHeld) {input : Input}
    (hinput : input.2.isUpdate = false) (h : FeesBacked s) : FeesBacked (step T input s) := by
  refine step_invariant input h ?_ ?_ ?_
  · intro origin call t hop heffect
    refine h.callEffect law (fun params hcall => ?_) heffect
    rw [hop, hcall] at hinput
    cases hinput
  · intro pulse subId sub u v _ _ hstored hiter hu
    exact hu.iteration law pays hstored hiter
  · intro subId sub u v hstored _ hterm hu
    exact hu.termination law hstored hterm

/-! ## Runs -/

/-- Killing a subscription whose fees are on hold gives its owner the price of
the credits left and what is held of its deposit, and moves no other fees. -/
theorem kill_refunds (law : T.currency.Lawful) (hstored : s.subscriptions.lookup subId = some sub)
    (hcovered : feesLeft T sub ≤ onHold s .fees sub.details.subscriber)
    (hcaller : ensureSignedOrValidXcmOrigin T origin = .ok sub.details.subscriber) :
    ∃ t, dispatch T env origin (.killSubscription subId) s = (.ok (), t) ∧
      (∀ who, onHold t .fees who +
        (if who = sub.details.subscriber then feesLeft T sub else 0) = onHold s .fees who) ∧
      T.currency.balance t.ledger sub.details.subscriber =
        T.currency.balance s.ledger sub.details.subscriber + feesLeft T sub +
          min (calculateStorageDeposit T sub)
            (onHold s .storageDeposit sub.details.subscriber) := by
  obtain ⟨t, hdone⟩ := terminateSubscription_succeeds law hcovered subId
  obtain ⟨L₁, m, L₂, hfees, hdeposit, rfl⟩ := terminateSubscription_ok.mp hdone
  refine ⟨removed subId L₂ s, ?_, fun who => ?_, ?_⟩
  · exact Action.transactional_ok.mpr
      (killSubscription_ok.mpr ⟨_, sub, hcaller, hstored, rfl, hdone⟩)
  · exact (removed_balanced law subId hfees hdeposit who).1
  · have hfreed := hfees.freed law
    have hback := law.release_balance hdeposit sub.details.subscriber
    have hm := law.released_bestEffort hdeposit
    rw [(hfees.balanced law sub.details.subscriber).2] at hm
    rw [if_pos rfl, hm] at hback
    rw [calculateSubscriptionFees_zero, Nat.add_zero] at hfreed
    show T.currency.balance L₂ _ = _
    rw [hback, hfreed]
    rfl

theorem FeesBacked.run (law : T.currency.Lawful) (pays : T.currency.PaysHeld)
    (hinit : Initial T s) (inputs : List Input)
    (hinputs : ∀ input ∈ inputs, input.2.isUpdate = false) : FeesBacked (run T inputs s) :=
  Runs.run_invariant (Manager.step T) (FeesBacked.initial hinit) fun input hmem _ hu =>
    hu.step law pays (hinputs input hmem)

/-- FEES ARE BACKED. In every state a run of calls, distributions and
finalizations reaches without an update, every account's fees hold is the
price of the credits its subscriptions have left, and the owner of a stored
subscription can kill it and is given back exactly the price of its credits. -/
theorem fees_backed (law : T.currency.Lawful) (pays : T.currency.PaysHeld) {s₀ : State T}
    (hinit : Initial T s₀) (inputs : List Input)
    (hinputs : ∀ input ∈ inputs, input.2.isUpdate = false) :
    (∀ who, onHold (run T inputs s₀) .fees who = owed (feesLeft T) who (run T inputs s₀)) ∧
      ∀ env origin subId sub, (run T inputs s₀).subscriptions.lookup subId = some sub →
        ensureSignedOrValidXcmOrigin T origin = .ok sub.details.subscriber →
        ∃ t, dispatch T env origin (.killSubscription subId) (run T inputs s₀) = (.ok (), t) ∧
          (∀ who, onHold t .fees who +
              (if who = sub.details.subscriber then feesLeft T sub else 0) =
            onHold (run T inputs s₀) .fees who) ∧
          T.currency.balance t.ledger sub.details.subscriber =
            T.currency.balance (run T inputs s₀).ledger sub.details.subscriber + feesLeft T sub +
              min (calculateStorageDeposit T sub)
                (onHold (run T inputs s₀) .storageDeposit sub.details.subscriber) := by
  have hbacked := FeesBacked.run law pays hinit inputs hinputs
  exact ⟨hbacked, fun env origin subId sub hstored hcaller =>
    kill_refunds law hstored (hbacked.covered hstored) hcaller⟩

section Sample

open IdealNetwork.Runtime

/-- Alice buys three credits; the first pulse is delivered and the second is
lost on the way. -/
def sampleRun : List Input :=
  [(online 1, .call (.signed alice) (.createSubscription (sampleParams 3))),
    (online 2, .distribute samplePulse), (offline 3, .distribute samplePulse)]

theorem fees_backed_sampleRun :
    onHold (run standalone sampleRun funded) .fees alice = 2900000 ∧
      onHold (run standalone sampleRun funded) .fees alice =
        owed (feesLeft standalone) alice (run standalone sampleRun funded) ∧
      ∃ t, dispatch standalone (online 3) (.signed alice) (.killSubscription sampleId)
        (run standalone sampleRun funded) = (.ok (), t) := by
  obtain ⟨hbacked, hkill⟩ := fees_backed (T := standalone) (plain_lawful _) (plain_paysHeld _)
    (initial_genesis _) sampleRun (by decide)
  refine ⟨by decide +kernel, hbacked alice, ?_⟩
  obtain ⟨sub, hstored, howner⟩ : ∃ sub,
      (run standalone sampleRun funded).subscriptions.lookup sampleId = some sub ∧
        sub.details.subscriber = alice :=
    Option.map_eq_some_iff.mp (by decide +kernel)
  obtain ⟨t, hdone, _⟩ := hkill (online 3) (.signed alice) sampleId sub hstored
    (by rw [howner]; rfl)
  exact ⟨t, hdone⟩

end Sample

/-! ## Updates -/

/-- The fees an update settles: the price of the credits bought, before and
after. -/
theorem updateFeesDiff_eq (params : UpdateSubParamsOf) (sub : SubscriptionOf) :
    updateFeesDiff T params sub =
      calculateDiffFees T.baseFee sub.credits (params.credits.getD sub.credits) := by
  unfold updateFeesDiff
  cases params.credits with
  | none => simp only [Option.getD_none, calculateDiffFees, lt_irrefl, if_false]
  | some credits => rfl

/-- WHEN AN UPDATE KEEPS FEES BACKED. The update moves the owner's hold from
the price of the credits bought before to the price of those bought after,
while the credits left stay as they are: the hold still matches them exactly
when the two prices agree. -/
theorem update_keeps_backing_iff (law : T.currency.Lawful) (hbacked : FeesBacked s)
    (params : UpdateSubParamsOf) (hstored : s.subscriptions.lookup params.subId = some sub)
    (hdone : dispatch T env origin (.updateSubscription params) s = (.ok (), t)) :
    onHold t .fees sub.details.subscriber = owed (feesLeft T) sub.details.subscriber t ↔
      ∀ credits, params.credits = some credits →
        calculateSubscriptionFees T.baseFee credits =
          calculateSubscriptionFees T.baseFee sub.credits := by
  cases dispatch_ok hdone with
  | @updated _ who sub₀ L caller stored owner live fees =>
    cases hstored.symm.trans stored
    rw [updateFeesDiff_eq, ← owner] at fees
    have hhold := (fees.balanced law sub.details.subscriber).1
    have howed := owed_rewrite (feesLeft T) sub.details.subscriber stored
      (rfl : (applyUpdate env params sub).details = sub.details)
      (rfl : (rewritten params.subId (applyUpdate env params sub) L
        (.subscriptionUpdated params.subId) s).subscriptions = _)
    have hleft : feesLeft T (applyUpdate env params sub) = feesLeft T sub := rfl
    have hbefore := hbacked sub.details.subscriber
    simp only [if_true] at hhold howed
    rw [hleft] at howed
    have hprices : onHold (rewritten params.subId (applyUpdate env params sub) L
          (.subscriptionUpdated params.subId) s) .fees sub.details.subscriber +
          calculateSubscriptionFees T.baseFee sub.credits =
        onHold s .fees sub.details.subscriber +
          calculateSubscriptionFees T.baseFee (params.credits.getD sub.credits) := hhold
    cases hcredits : params.credits with
    | none =>
      rw [hcredits, Option.getD_none] at hprices
      simp only [reduceCtorEq, false_implies, implies_true, iff_true]
      omega
    | some credits =>
      rw [hcredits, Option.getD_some] at hprices
      simp only [Option.some.injEq, forall_eq']
      omega

section Sample

open IdealNetwork.Runtime

/-- Alice buys ten credits. -/
def buyTen : List Input :=
  [(online 1, .call (.signed alice) (.createSubscription (sampleParams 10)))]

def tenBought : State standalone := run standalone buyTen funded

/-- Alice asks for twenty instead. -/
def raiseToTwenty : UpdateSubParamsOf := ⟨sampleId, some 20, none, none⟩

/-- Alice asks for another frequency. -/
def slowDown : UpdateSubParamsOf := ⟨sampleId, none, some 5, none⟩

/-- The state after one of Alice's updates. -/
def afterUpdate (params : UpdateSubParamsOf) : State standalone :=
  (dispatch standalone (online 2) (.signed alice) (.updateSubscription params) tenBought).2

theorem feesBacked_tenBought : FeesBacked tenBought :=
  FeesBacked.run (plain_lawful _) (plain_paysHeld _) (initial_genesis _) buyTen (by decide)

theorem update_keeps_backing_slowDown :
    onHold (afterUpdate slowDown) .fees alice =
      owed (feesLeft standalone) alice (afterUpdate slowDown) := by
  obtain ⟨sub, hstored, howner⟩ : ∃ sub,
      tenBought.subscriptions.lookup sampleId = some sub ∧ sub.details.subscriber = alice :=
    Option.map_eq_some_iff.mp (by decide +kernel)
  have hok : (dispatch standalone (online 2) (.signed alice) (.updateSubscription slowDown)
      tenBought).1 = .ok () := by decide +kernel
  have hdone : dispatch standalone (online 2) (.signed alice) (.updateSubscription slowDown)
      tenBought = (.ok (), afterUpdate slowDown) := by
    rw [← hok, afterUpdate]
  rw [← howner]
  refine (update_keeps_backing_iff (plain_lawful _) feesBacked_tenBought slowDown hstored
    hdone).mpr ?_
  intro credits hcredits
  cases hcredits

/-- The hold has doubled and what it backs has not: Alice has paid for ten
credits that she can neither spend nor get back. -/
theorem update_unbacks_raiseToTwenty :
    FeesBacked tenBought ∧
      (dispatch standalone (online 2) (.signed alice) (.updateSubscription raiseToTwenty)
        tenBought).1 = .ok () ∧
      onHold (afterUpdate raiseToTwenty) .fees alice = 58000000 ∧
      owed (feesLeft standalone) alice (afterUpdate raiseToTwenty) = 29000000 :=
  ⟨feesBacked_tenBought, by decide +kernel, by decide +kernel, by decide +kernel⟩

end Sample

end IdealNetwork.Manager
