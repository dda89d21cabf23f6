import IdealNetwork.Manager.FeeBacking

/-!
# What updates put on hold stays on hold

An update that buys credits puts the difference of the prices on hold, and leaves
the credits left as they are. What is collected and what is given back in the end
is the price of the credits left, so nobody ever touches the difference again.

Over a whole run this is exact. As long as no successful update buys fewer credits
than there were, an account has on hold for fees the price of the credits its
subscriptions have left, and all that its updates have added (`updates_strand`).
Once its subscriptions are gone, the latter is all that is left on hold, for good.
-/

set_option autoImplicit false

namespace IdealNetwork.Manager

open Storage Holds

variable {T : Config} {s t : State T} {env : Env} {origin : Origin} {pulse : RuntimePulse}
variable {subId : SubscriptionId} {sub sub' : SubscriptionOf} {who : AccountId32}

/-! ## Holds that follow the credits -/

/-- From one state to another, what every account has on hold for fees and the
price of the credits its subscriptions have left move by the same amount. -/
def FeesFollow (s t : State T) : Prop :=
  ∀ who, onHold t .fees who + owed (feesLeft T) who s = onHold s .fees who + owed (feesLeft T) who t

theorem FeesFollow.rewrite (hstored : s.subscriptions.lookup subId = some sub)
    (ht : t.subscriptions = s.subscriptions.insert subId sub')
    (hdetails : sub'.details = sub.details)
    (hheld : ∀ who, onHold t .fees who +
        (if who = sub.details.subscriber then feesLeft T sub else 0) =
      onHold s .fees who + if who = sub.details.subscriber then feesLeft T sub' else 0) :
    FeesFollow s t := by
  intro who
  have howed := owed_rewrite (feesLeft T) who hstored hdetails ht
  have hmoved := hheld who
  omega

/-- A credit that is charged in full and written off. -/
theorem FeesFollow.charge (law : T.currency.Lawful) (pays : T.currency.PaysHeld)
    (hstored : s.subscriptions.lookup subId = some sub)
    (hcovered : feesLeft T sub ≤ onHold s .fees sub.details.subscriber)
    {r : Except Err Unit × State T} (hcharge : Collection T sub s r)
    (ht : t.subscriptions = r.2.subscriptions.insert subId sub')
    (hdetails : sub'.details = sub.details)
    (hcredits : sub'.creditsLeft = sub.creditsLeft.saturatingSub 1)
    (hledger : t.ledger = r.2.ledger) : FeesFollow s t := by
  have hprice := creditPrice_add T sub
  have hheld : creditPrice T sub ≤ onHold s .fees sub.details.subscriber := by
    unfold feesLeft at hcovered
    omega
  have hpaid := (hcharge.of_held pays hheld).2
  rw [hcharge.subscriptions] at ht
  refine .rewrite hstored ht hdetails fun who => ?_
  have hmoved := (hcharge.balanced law who).1
  have hafter : onHold t .fees who = onHold r.2 .fees who := by rw [onHold, hledger, onHold]
  have hleft : feesLeft T sub' = calculateSubscriptionFees T.baseFee
      (sub.creditsLeft.saturatingSub 1) := by rw [feesLeft, hcredits]
  rw [hpaid] at hmoved
  rw [hafter, hleft, feesLeft]
  by_cases hw : who = sub.details.subscriber
  · simp only [hw, if_true] at hmoved ⊢
    omega
  · simp only [hw, if_false] at hmoved ⊢
    omega

/-- What a distribution does to one subscription, if its fees are on hold. -/
theorem Iteration.feesFollow (law : T.currency.Lawful) (pays : T.currency.PaysHeld)
    (hstored : s.subscriptions.lookup subId = some sub)
    (hcovered : feesLeft T sub ≤ onHold s .fees sub.details.subscriber)
    (h : Iteration T env pulse subId sub s t) : FeesFollow s t := by
  cases h with
  | unpaid due charge =>
    have hprice := creditPrice_add T sub
    have hheld : creditPrice T sub ≤ onHold s .fees sub.details.subscriber := by
      unfold feesLeft at hcovered
      omega
    exact absurd (charge.of_held pays hheld).1 nofun
  | unsent due charge lost =>
    exact .charge law pays hstored hcovered charge rfl rfl rfl rfl
  | delivered due charge made taken =>
    exact .charge law pays hstored hcovered charge rfl (finalizeIfExhausted_details _)
      (finalizeIfExhausted_creditsLeft _) rfl
  | idle notDue charge =>
    exact .charge law pays hstored hcovered charge rfl (finalizeIfExhausted_details _)
      (finalizeIfExhausted_creditsLeft _) rfl

/-- What the end of a subscription does. -/
theorem FeesFollow.remove (law : T.currency.Lawful) {L₁ L₂ : T.currency.Ledger} {m : ℕ}
    (hstored : s.subscriptions.lookup subId = some sub)
    (hfees : FeesSettled T sub.details.subscriber
      (calculateDiffFees T.baseFee sub.creditsLeft 0) s.ledger L₁)
    (hdeposit : T.currency.release .storageDeposit sub.details.subscriber
      (calculateStorageDeposit T sub) .bestEffort L₁ = .ok (m, L₂)) :
    FeesFollow s (removed subId L₂ s) := by
  intro who
  have hhold := (removed_balanced law subId hfees hdeposit who).1
  have howed := owed_removed (feesLeft T) who hstored L₂
  unfold feesLeft at howed ⊢
  omega

theorem Termination.feesFollow (law : T.currency.Lawful)
    (hstored : s.subscriptions.lookup subId = some sub)
    (h : Termination T subId sub s t) : FeesFollow s t := by
  cases h with
  | completed fees deposit => exact .remove law hstored fees deposit
  | failed failed =>
    rw [← terminateSubscription_fails law failed]
    exact fun _ => rfl

/-- What a call does that is not an update. -/
theorem CallEffect.feesFollow (law : T.currency.Lawful) {call : Call}
    (hcall : ∀ params, call ≠ .updateSubscription params)
    (h : CallEffect T env origin s call t) : FeesFollow s t := by
  cases h with
  | created caller bought room fresh fees deposit =>
    intro who
    rw [(created_balanced law _ fees deposit who).1, owed_created _ _ fresh]
    exact (Nat.add_right_comm _ _ _).trans (Nat.add_assoc _ _ _)
  | paused caller stored owner active => exact .rewrite stored rfl rfl fun _ => rfl
  | reactivated caller stored owner paused => exact .rewrite stored rfl rfl fun _ => rfl
  | killed caller stored owner fees deposit => exact .remove law stored fees deposit
  | updated caller stored owner live fees => exact absurd rfl (hcall _)
  | quoted => exact fun _ => rfl
  | informed => exact fun _ => rfl

/-! ## What updates add -/

/-- Every account has on hold for fees the price of the credits its subscriptions
have left, and a surplus. -/
def Surplus (surplus : AccountId32 → ℕ) (s : State T) : Prop :=
  ∀ who, onHold s .fees who = owed (feesLeft T) who s + surplus who

section

variable {surplus : AccountId32 → ℕ}

theorem Surplus.follow (h : Surplus surplus s) (hfollow : FeesFollow s t) : Surplus surplus t := by
  intro who
  have hbefore := h who
  have hmoved := hfollow who
  omega

theorem Surplus.covered (h : Surplus surplus s)
    (hstored : s.subscriptions.lookup subId = some sub) :
    feesLeft T sub ≤ onHold s .fees sub.details.subscriber := by
  rw [h sub.details.subscriber]
  exact (le_owed (feesLeft T) hstored).trans (Nat.le_add_right _ _)

/-- A step that is not an update leaves the surplus as it is. -/
theorem Surplus.step (law : T.currency.Lawful) (pays : T.currency.PaysHeld) {input : Input}
    (hinput : input.2.isUpdate = false) (h : Surplus surplus s) :
    Surplus surplus (step T input s) := by
  refine step_invariant input h ?_ ?_ ?_
  · intro origin call t hop heffect
    refine h.follow (heffect.feesFollow law fun params hcall => ?_)
    rw [hop, hcall] at hinput
    cases hinput
  · intro pulse subId sub u v _ _ hstored hiter hu
    exact hu.follow (hiter.feesFollow law pays hstored (hu.covered hstored))
  · intro subId sub u v hstored _ hterm hu
    exact hu.follow (hterm.feesFollow law hstored)

/-- What buying credits for a subscription adds to its price. -/
def addedBy (T : Config) (params : UpdateSubParamsOf) (sub : SubscriptionOf) : ℕ :=
  calculateSubscriptionFees T.baseFee (params.credits.getD sub.credits) -
    calculateSubscriptionFees T.baseFee sub.credits

/-- An update that does not buy fewer credits than there were adds to the surplus
of its owner. -/
theorem Surplus.update (law : T.currency.Lawful) {params : UpdateSubParamsOf}
    (h : Surplus surplus s) (hstored : s.subscriptions.lookup params.subId = some sub)
    (hraises : ∀ credits, params.credits = some credits → sub.credits ≤ credits)
    (heffect : CallEffect T env origin s (.updateSubscription params) t) :
    Surplus (fun who => surplus who +
      if who = sub.details.subscriber then addedBy T params sub else 0) t := by
  cases heffect with
  | @updated _ caller sub₀ L hcaller stored owner live fees =>
    cases hstored.symm.trans stored
    intro who
    rw [updateFeesDiff_eq, ← owner] at fees
    have hle : sub.credits ≤ params.credits.getD sub.credits := by
      cases hcredits : params.credits with
      | none => exact UInt64.le_refl _
      | some credits => exact hraises credits hcredits
    have hprice := calculateSubscriptionFees_mono T.baseFee hle
    have hhold : onHold (rewritten params.subId (applyUpdate env params sub) L
          (.subscriptionUpdated params.subId) s) .fees who +
          (if who = sub.details.subscriber then calculateSubscriptionFees T.baseFee sub.credits
            else 0) =
        onHold s .fees who + if who = sub.details.subscriber then
          calculateSubscriptionFees T.baseFee (params.credits.getD sub.credits) else 0 :=
      (fees.balanced law who).1
    have howed := owed_rewrite (feesLeft T) who stored
      (rfl : (applyUpdate env params sub).details = sub.details)
      (rfl : (rewritten params.subId (applyUpdate env params sub) L
        (.subscriptionUpdated params.subId) s).subscriptions = _)
    have hleft : feesLeft T (applyUpdate env params sub) = feesLeft T sub := rfl
    have hbefore := h who
    rw [hleft] at howed
    unfold addedBy
    by_cases hw : who = sub.details.subscriber
    · simp only [hw, if_true] at hhold howed hbefore ⊢
      omega
    · simp only [hw, if_false] at hhold howed hbefore ⊢
      omega

end

/-! ## Runs -/

/-- What an update that succeeds adds, with the account it is for. -/
def added (T : Config) (input : Input) (s : State T) : List (AccountId32 × ℕ) :=
  match input.2 with
  | .call origin (.updateSubscription params) =>
    match (dispatch T input.1 origin (.updateSubscription params) s).1,
      s.subscriptions.lookup params.subId with
    | .ok _, some sub => [(sub.details.subscriber, addedBy T params sub)]
    | _, _ => []
  | _ => []

/-- What has been added for an account. -/
def addedFor (who : AccountId32) (log : List (AccountId32 × ℕ)) : ℕ :=
  (log.map fun entry => if who = entry.1 then entry.2 else 0).sum

/-- If the step is an update that succeeds, it does not buy fewer credits than
there were. -/
def Raises (input : Input) (s : State T) : Prop :=
  ∀ origin params sub credits, input.2 = .call origin (.updateSubscription params) →
    (dispatch T input.1 origin (.updateSubscription params) s).1 = .ok () →
    s.subscriptions.lookup params.subId = some sub → params.credits = some credits →
    sub.credits ≤ credits

theorem raises_of_not_isUpdate {input : Input} (h : input.2.isUpdate = false) : Raises input s := by
  intro origin params sub credits hop
  rw [hop] at h
  cases h

theorem addedFor_append (log more : List (AccountId32 × ℕ)) :
    addedFor who (log ++ more) = addedFor who log + addedFor who more := by
  rw [addedFor, List.map_append, List.sum_append, addedFor, addedFor]

theorem Op.eq_of_isUpdate {op : Op} (h : op.isUpdate = true) :
    ∃ origin params, op = .call origin (.updateSubscription params) := by
  unfold Op.isUpdate at h
  split at h
  next origin params => exact ⟨origin, params, rfl⟩
  next => cases h

/-- An update, whether it succeeds or not. -/
theorem Surplus.dispatched (law : T.currency.Lawful) {params : UpdateSubParamsOf}
    {log : List (AccountId32 × ℕ)} (h : Surplus (fun who => addedFor who log) s)
    (hraises : Raises (env, .call origin (.updateSubscription params)) s) :
    Surplus (fun who => addedFor who
        (log ++ added T (env, .call origin (.updateSubscription params)) s))
      (dispatch T env origin (.updateSubscription params) s).2 := by
  cases hdispatch : dispatch T env origin (.updateSubscription params) s with
  | mk r t =>
    cases r with
    | ok u =>
      have heffect := dispatch_ok hdispatch
      obtain ⟨sub, hstored⟩ : ∃ sub, s.subscriptions.lookup params.subId = some sub := by
        cases heffect with
        | updated caller stored owner live fees => exact ⟨_, stored⟩
      have hadded : added T (env, .call origin (.updateSubscription params)) s =
          [(sub.details.subscriber, addedBy T params sub)] := by
        simp only [added, hdispatch, hstored]
      have hok : (dispatch T env origin (.updateSubscription params) s).1 = .ok () := by
        rw [hdispatch]
      have hafter := h.update law hstored
        (fun credits hcredits => hraises origin params sub credits rfl hok hstored hcredits)
        heffect
      intro who
      rw [hadded]
      show onHold t .fees who = owed (feesLeft T) who t + addedFor who (log ++ _)
      rw [hafter who, addedFor_append]
      simp only [addedFor, List.map_singleton, List.sum_singleton]
    | error e =>
      have hadded : added T (env, .call origin (.updateSubscription params)) s = [] := by
        simp only [added, hdispatch]
      have hfailed : (dispatch T env origin (.updateSubscription params) s).1 ≠ .ok () := by
        rw [hdispatch]
        intro hok
        cases hok
      have hsame := dispatch_failed hfailed
      rw [hdispatch] at hsame
      obtain rfl : t = s := hsame
      rw [hadded, List.append_nil]
      exact h

/-- One step of a run, with the log of what updates have added. -/
theorem Surplus.logged (law : T.currency.Lawful) (pays : T.currency.PaysHeld) {input : Input}
    {log : List (AccountId32 × ℕ)} (hraises : Raises input s)
    (h : Surplus (fun who => addedFor who log) s) :
    Surplus (fun who => addedFor who (log ++ added T input s)) (Manager.step T input s) := by
  obtain ⟨env, op⟩ := input
  cases hupdate : op.isUpdate with
  | false =>
    have hnone : added T (env, op) s = [] := by
      unfold added
      split
      next origin params hop =>
        obtain rfl : op = _ := hop
        cases hupdate
      next => rfl
    rw [hnone, List.append_nil]
    exact h.step law pays hupdate
  | true =>
    obtain ⟨origin, params, rfl⟩ := Op.eq_of_isUpdate hupdate
    exact h.dispatched law hraises

theorem Surplus.run (law : T.currency.Lawful) (pays : T.currency.PaysHeld) {s₀ : State T}
    (hinit : Initial T s₀) {inputs : List Input}
    (hraises : Runs.Along (Manager.step T) Raises inputs s₀) :
    Surplus (fun who => addedFor who (Runs.outputs (Manager.step T) (added T) inputs s₀))
      (Manager.run T inputs s₀) := by
  have hstart : Surplus (fun who => addedFor who []) s₀ := by
    intro who
    rw [owed_initial _ _ hinit]
    exact hinit.held .fees who
  refine Runs.run_invariant_history (Manager.step T) (Q := fun past u =>
    Surplus (fun who => addedFor who (Runs.outputs (Manager.step T) (added T) past s₀)) u)
    hstart hraises ?_
  intro past input _ hinput hpast
  rw [Runs.outputs_concat]
  exact hpast.logged law pays hinput

/-- UPDATES STRAND WHAT THEY ADD. If a transfer of an amount that is on hold moves
all of it, then in every run whose successful updates do not buy fewer credits
than there were, every account has on hold for fees exactly the price of
the credits its subscriptions have left and what its updates have added. So an
account none of whose subscriptions is left still has the latter on hold. -/
theorem updates_strand (law : T.currency.Lawful) (pays : T.currency.PaysHeld) {s₀ : State T}
    (hinit : Initial T s₀) (inputs : List Input)
    (hraises : Runs.Along (step T) Raises inputs s₀) (who : AccountId32) :
    onHold (run T inputs s₀) .fees who = owed (feesLeft T) who (run T inputs s₀) +
        addedFor who (Runs.outputs (step T) (added T) inputs s₀) ∧
      ((∀ subId sub, (run T inputs s₀).subscriptions.lookup subId = some sub →
          sub.details.subscriber ≠ who) →
        onHold (run T inputs s₀) .fees who =
          addedFor who (Runs.outputs (step T) (added T) inputs s₀)) := by
  have hheld := Surplus.run law pays hinit hraises who
  refine ⟨hheld, fun hnone => ?_⟩
  rw [owed_eq_zero (feesLeft T) who hnone, Nat.zero_add] at hheld
  exact hheld

section Sample

open IdealNetwork.Runtime

/-- Alice buys ten credits, raises them to twenty and ends the subscription. -/
def raisedAndKilled : List Input :=
  buyTen ++ [(online 2, .call (.signed alice) (.updateSubscription raiseToTwenty)),
    (online 3, .call (.signed alice) (.killSubscription sampleId))]

/-- The price of the ten further credits is never given back. -/
theorem updates_strand_raisedAndKilled :
    (run standalone raisedAndKilled funded).subscriptions.lookup sampleId = none ∧
      onHold (run standalone raisedAndKilled funded) .fees alice = 29000000 := by
  have hnone : ∀ e ∈ iter standalone.hasher (run standalone raisedAndKilled funded).subscriptions,
      e.2.details.subscriber ≠ alice := by decide +kernel
  obtain ⟨sub, hstored, hcredits⟩ : ∃ sub, tenBought.subscriptions.lookup sampleId = some sub ∧
      sub.credits = 10 := Option.map_eq_some_iff.mp (by decide +kernel)
  have hraises : Runs.Along (step standalone) Raises raisedAndKilled funded := by
    refine (Runs.along_append _).mpr ⟨⟨raises_of_not_isUpdate rfl, trivial⟩, ?_,
      raises_of_not_isUpdate rfl, trivial⟩
    intro origin params sub' credits hop _ hsub hbought
    cases hop
    cases hbought
    cases hstored.symm.trans hsub
    rw [hcredits]
    decide
  have hheld := (updates_strand (plain_lawful _) (plain_paysHeld _)
    (initial_genesis _ : Initial standalone funded) raisedAndKilled hraises alice).2
      fun subId sub hsub => hnone (subId, sub) (mem_iter.mpr hsub)
  refine ⟨by decide +kernel, hheld.trans ?_⟩
  decide +kernel

end Sample

end IdealNetwork.Manager
