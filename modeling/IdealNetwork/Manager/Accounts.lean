import IdealNetwork.Manager.Run

/-!
# Holds and what they are for

An account's subscriptions share one fees hold and one deposit hold, so what
is true of a hold is a statement about a sum: `owed weight who` adds a weight
over the records of one account. This module says, for a lawful currency,
what each step does to the holds, and what writing or removing a record does
to the sums, always as a balance with no subtraction in it.
-/

set_option autoImplicit false

namespace IdealNetwork.Manager

open Storage Holds

variable {T : Config} {s t : State T}

/-- What an account has on hold. -/
def onHold (s : State T) (reason : HoldReason) (who : AccountId32) : ℕ :=
  T.currency.balanceOnHold s.ledger reason who

/-- The weight of an account's stored subscriptions. -/
def owed (weight : SubscriptionOf → ℕ) (who : AccountId32) (s : State T) : ℕ :=
  sum s.subscriptions fun _ sub => if who = sub.details.subscriber then weight sub else 0

/-! ## Sums -/

section Sums

variable (weight : SubscriptionOf → ℕ) (who : AccountId32) {subId : SubscriptionId}
variable {sub sub' : SubscriptionOf}

theorem owed_created (hfresh : sub.id ∉ s.subscriptions) (L : T.currency.Ledger) :
    owed weight who (created sub L s) =
      owed weight who s + if who = sub.details.subscriber then weight sub else 0 := by
  have h := sum_insert s.subscriptions
    (fun _ sub => if who = sub.details.subscriber then weight sub else 0) sub.id sub
  rw [Finmap.lookup_eq_none.mpr hfresh, Option.elim_none, Nat.add_zero] at h
  exact h

/-- A rewritten record's weight replaces the old one's. -/
theorem owed_rewrite (hstored : s.subscriptions.lookup subId = some sub)
    (hdetails : sub'.details = sub.details)
    (ht : t.subscriptions = s.subscriptions.insert subId sub') :
    owed weight who t + (if who = sub.details.subscriber then weight sub else 0) =
      owed weight who s + if who = sub.details.subscriber then weight sub' else 0 := by
  have h := sum_insert s.subscriptions
    (fun _ sub => if who = sub.details.subscriber then weight sub else 0) subId sub'
  rw [hstored, Option.elim_some, hdetails] at h
  rw [owed, ht]
  exact h

theorem owed_removed (hstored : s.subscriptions.lookup subId = some sub)
    (L : T.currency.Ledger) :
    owed weight who (removed subId L s) +
        (if who = sub.details.subscriber then weight sub else 0) = owed weight who s := by
  have h := sum_erase s.subscriptions
    (fun _ sub => if who = sub.details.subscriber then weight sub else 0) subId
  rw [hstored, Option.elim_some] at h
  exact h

theorem le_owed (hstored : s.subscriptions.lookup subId = some sub) :
    weight sub ≤ owed weight sub.details.subscriber s := by
  have h := le_sum (fun _ v => if sub.details.subscriber = v.details.subscriber then weight v
    else 0) hstored
  rw [if_pos rfl] at h
  exact h

/-- An account with no subscription left is owed nothing. -/
theorem owed_eq_zero
    (hnone : ∀ subId sub, s.subscriptions.lookup subId = some sub → sub.details.subscriber ≠ who) :
    owed weight who s = 0 := by
  refine Finset.sum_eq_zero fun subId _ => ?_
  cases hlookup : s.subscriptions.lookup subId with
  | none => rfl
  | some sub =>
    have hne : who ≠ sub.details.subscriber := (hnone subId sub hlookup).symm
    exact if_neg hne

theorem owed_initial (h : Initial T s) : owed weight who s = 0 := by
  rw [owed, h.subscriptions, sum_empty]

end Sums

/-! ## Holds -/

section Holds

variable {env : Env} {origin : Origin} {who : AccountId32} {subId : SubscriptionId}
variable {sub : SubscriptionOf} {L L' : T.currency.Ledger}

/-- Settling fees touches no deposit. -/
theorem FeesSettled.storageDeposit (law : T.currency.Lawful) {diff : DiffBalance}
    (h : FeesSettled T who diff L L') (w : AccountId32) :
    T.currency.balanceOnHold L' .storageDeposit w =
      T.currency.balanceOnHold L .storageDeposit w := by
  cases h with
  | held hdir done =>
    have hdeposit := law.hold_onHold done .storageDeposit w
    simpa only [reduceCtorEq, false_and, if_false, Nat.add_zero] using hdeposit
  | released hdir done =>
    have hdeposit := law.release_onHold done .storageDeposit w
    simpa only [reduceCtorEq, false_and, if_false, Nat.add_zero] using hdeposit.symm
  | nothing hdir => rfl

/-- Settling a fee difference moves the fees hold of one account from the old
price to the new one, and no other hold. -/
theorem FeesSettled.balanced (law : T.currency.Lawful) {a b : Credits}
    (h : FeesSettled T who (calculateDiffFees T.baseFee a b) L L') (w : AccountId32) :
    (T.currency.balanceOnHold L' .fees w +
        (if w = who then calculateSubscriptionFees T.baseFee a else 0) =
      T.currency.balanceOnHold L .fees w +
        if w = who then calculateSubscriptionFees T.baseFee b else 0) ∧
      T.currency.balanceOnHold L' .storageDeposit w =
        T.currency.balanceOnHold L .storageDeposit w := by
  have hdiff := calculateDiffFees_cases T.baseFee a b
  refine ⟨?_, h.storageDeposit law w⟩
  cases h with
  | held hdir done =>
    have hprice : calculateSubscriptionFees T.baseFee a +
        (calculateDiffFees T.baseFee a b).balance = calculateSubscriptionFees T.baseFee b := by
      grind
    have hfees := law.hold_onHold done .fees w
    simp only [true_and] at hfees
    by_cases hw : w = who
    · simp only [hw, if_true] at hfees ⊢
      omega
    · simp only [hw, if_false] at hfees ⊢
      exact hfees
  | released hdir done =>
    have hprice : calculateSubscriptionFees T.baseFee b +
        (calculateDiffFees T.baseFee a b).balance = calculateSubscriptionFees T.baseFee a := by
      grind
    obtain ⟨rfl, _⟩ := law.released_exact done
    have hfees := law.release_onHold done .fees w
    simp only [true_and] at hfees
    by_cases hw : w = who
    · simp only [hw, if_true] at hfees ⊢
      omega
    · simp only [hw, if_false] at hfees ⊢
      exact hfees.symm
  | nothing hdir =>
    have hprice :
        calculateSubscriptionFees T.baseFee b = calculateSubscriptionFees T.baseFee a := by
      grind
    rw [hprice]

/-- What leaves the fees hold arrives in the account's free balance, and what
is held comes from there. -/
theorem FeesSettled.freed (law : T.currency.Lawful) {a b : Credits}
    (h : FeesSettled T who (calculateDiffFees T.baseFee a b) L L') :
    T.currency.balance L' who + calculateSubscriptionFees T.baseFee b =
      T.currency.balance L who + calculateSubscriptionFees T.baseFee a := by
  have hdiff := calculateDiffFees_cases T.baseFee a b
  cases h with
  | held hdir done =>
    have hfree := law.hold_balance done who
    rw [if_pos rfl] at hfree
    grind
  | released hdir done =>
    obtain ⟨rfl, _⟩ := law.released_exact done
    have hfree := law.release_balance done who
    rw [if_pos rfl] at hfree
    grind
  | nothing hdir => grind

/-- A subscription whose remaining fees are on hold can be terminated. -/
theorem terminateSubscription_succeeds (law : T.currency.Lawful)
    (hheld : calculateSubscriptionFees T.baseFee sub.creditsLeft ≤
      onHold s .fees sub.details.subscriber) (subId : SubscriptionId) :
    ∃ t, terminateSubscription T sub subId s = (.ok (), t) := by
  suffices hfees : ∃ L, FeesSettled T sub.details.subscriber
      (calculateDiffFees T.baseFee sub.creditsLeft 0) s.ledger L by
    obtain ⟨L₁, hL₁⟩ := hfees
    obtain ⟨L₂, hL₂⟩ := law.release_bestEffort .storageDeposit sub.details.subscriber
      (calculateStorageDeposit T sub) L₁
    exact ⟨_, terminateSubscription_ok.mpr ⟨L₁, _, L₂, hL₁, hL₂, rfl⟩⟩
  have hzero : calculateSubscriptionFees T.baseFee 0 = 0 := calculateSubscriptionFees_zero _
  rcases calculateDiffFees_cases T.baseFee sub.creditsLeft 0 with
    ⟨hdir, hprice⟩ | ⟨hdir, hprice⟩ | ⟨hdir, _⟩
  · -- a price of zero is not above another price
    have hle := (calculateDiffFees_of_le T.baseFee (UInt64.zero_le (a := sub.creditsLeft))).2
    exact absurd hdir hle
  · rw [hzero, Nat.zero_add] at hprice
    obtain ⟨L, hL⟩ := law.release_exact (hprice.trans_le hheld)
    exact ⟨L, .released hdir hL⟩
  · exact ⟨s.ledger, .nothing hdir⟩

/-- A termination that fails moves nothing. -/
theorem terminateSubscription_fails (law : T.currency.Lawful) {e : Err}
    (h : terminateSubscription T sub subId s = (.error e, t)) : s = t := by
  unfold terminateSubscription at h
  simp only [Action.bind_error, manageDiffFees_ok, releaseDeposit, onLedger_error, depositEvent,
    Action.modify_error, Action.pure_error, and_false, exists_false, or_false] at h
  rcases h with hfees | ⟨_, _, ⟨L, _, rfl⟩, hdeposit, _⟩
  · exact manageDiffFees_error hfees
  · obtain ⟨L₂, hL₂⟩ := law.release_bestEffort .storageDeposit sub.details.subscriber
      (calculateStorageDeposit T sub) L
    cases hL₂.symm.trans hdeposit

/-- What the transfer for a credit moves: nothing when it is refused. -/
def amountPaid (T : Config) (sub : SubscriptionOf) (L : T.currency.Ledger) : ℕ :=
  match payCredit T sub L with
  | .ok (m, _) => m
  | .error _ => 0

theorem amountPaid_of_ok {m : ℕ} (h : payCredit T sub L = .ok (m, L')) :
    amountPaid T sub L = m := by
  unfold amountPaid
  rw [h]

theorem amountPaid_of_error {e : Err} (h : payCredit T sub L = .error e) :
    amountPaid T sub L = 0 := by
  unfold amountPaid
  rw [h]

/-- The payment for a credit comes out of one fees hold and no other hold. -/
theorem payCredit_onHold (law : T.currency.Lawful) {m : ℕ} (h : payCredit T sub L = .ok (m, L'))
    (w : AccountId32) :
    (T.currency.balanceOnHold L .fees w = T.currency.balanceOnHold L' .fees w +
        if w = sub.details.subscriber then m else 0) ∧
      T.currency.balanceOnHold L .storageDeposit w =
        T.currency.balanceOnHold L' .storageDeposit w := by
  have hfees := law.transfer_onHold h .fees w
  have hdeposit := law.transfer_onHold h .storageDeposit w
  simp only [true_and, reduceCtorEq, false_and, if_false, Nat.add_zero] at hfees hdeposit
  exact ⟨hfees, hdeposit⟩

/-- Charging a credit takes what was paid out of one fees hold and leaves
every other hold alone, whether or not it counts as a success. -/
theorem Collection.balanced (law : T.currency.Lawful) {r : Except Err Unit × State T}
    (h : Collection T sub s r) (w : AccountId32) :
    (onHold s .fees w = onHold r.2 .fees w +
        if w = sub.details.subscriber then amountPaid T sub s.ledger else 0) ∧
      onHold s .storageDeposit w = onHold r.2 .storageDeposit w := by
  cases h with
  | refused paid =>
    rw [amountPaid_of_error paid, ite_self]
    exact ⟨rfl, rfl⟩
  | short paid lt =>
    rw [amountPaid_of_ok paid]
    exact payCredit_onHold law paid w
  | collected paid le =>
    rw [amountPaid_of_ok paid]
    exact payCredit_onHold law paid w

/-- The price of a credit is the drop in the price of what is left. -/
theorem creditPrice_add (T : Config) (sub : SubscriptionOf) :
    creditPrice T sub + calculateSubscriptionFees T.baseFee (sub.creditsLeft.saturatingSub 1) =
      calculateSubscriptionFees T.baseFee sub.creditsLeft := by
  have hle : sub.creditsLeft.saturatingSub 1 ≤ sub.creditsLeft := by
    rw [UInt64.le_iff_toNat_le, UInt64.toNat_saturatingSub]
    exact Nat.sub_le _ _
  have hmono := calculateSubscriptionFees_mono T.baseFee hle
  rw [creditPrice, (calculateDiffFees_of_le T.baseFee hle).1]
  omega

/-- A credit whose price is on hold is collected in full. -/
theorem Collection.of_held (pays : T.currency.PaysHeld) {r : Except Err Unit × State T}
    (h : Collection T sub s r) (hheld : creditPrice T sub ≤ onHold s .fees sub.details.subscriber) :
    r.1 = .ok () ∧ amountPaid T sub s.ledger = creditPrice T sub := by
  obtain ⟨L, hpay⟩ : ∃ L, payCredit T sub s.ledger = .ok (creditPrice T sub, L) := pays hheld
  cases h with
  | refused paid => exact absurd (paid.symm.trans hpay) nofun
  | short paid lt =>
    cases paid.symm.trans hpay
    exact absurd lt (lt_irrefl _)
  | collected paid le => exact ⟨rfl, amountPaid_of_ok hpay⟩

/-- A hold that goes through raises one hold of one account. -/
theorem hold_balanced (law : T.currency.Lawful) {reason : HoldReason} {n : ℕ}
    (h : T.currency.hold reason who n L = .ok L') (w : AccountId32) :
    (T.currency.balanceOnHold L' reason w =
        T.currency.balanceOnHold L reason w + if w = who then n else 0) ∧
      ∀ other, other ≠ reason →
        T.currency.balanceOnHold L' other w = T.currency.balanceOnHold L other w := by
  refine ⟨?_, fun other hne => ?_⟩
  · have hsame := law.hold_onHold h reason w
    simpa only [true_and] using hsame
  · have hother := law.hold_onHold h other w
    simpa only [hne, false_and, if_false, Nat.add_zero] using hother

/-- Creating a subscription puts its price and its deposit on hold. -/
theorem created_balanced (law : T.currency.Lawful) (sub : SubscriptionOf) {fees deposit : ℕ}
    {L₁ L₂ : T.currency.Ledger}
    (hfees : T.currency.hold .fees who fees s.ledger = .ok L₁)
    (hdeposit : T.currency.hold .storageDeposit who deposit L₁ = .ok L₂) (w : AccountId32) :
    (onHold (created sub L₂ s) .fees w = onHold s .fees w + if w = who then fees else 0) ∧
      onHold (created sub L₂ s) .storageDeposit w =
        onHold s .storageDeposit w + if w = who then deposit else 0 := by
  obtain ⟨hf, hfOther⟩ := hold_balanced law hfees w
  obtain ⟨hd, hdOther⟩ := hold_balanced law hdeposit w
  constructor
  · exact (hdOther .fees nofun).trans hf
  · rw [hfOther .storageDeposit nofun] at hd
    exact hd

/-- Terminating a subscription gives back the fees of its remaining credits,
and of its deposit what is there. -/
theorem removed_balanced (law : T.currency.Lawful) (subId : SubscriptionId)
    {L₁ L₂ : T.currency.Ledger} {m : ℕ}
    (hfees : FeesSettled T sub.details.subscriber
      (calculateDiffFees T.baseFee sub.creditsLeft 0) s.ledger L₁)
    (hdeposit : T.currency.release .storageDeposit sub.details.subscriber
      (calculateStorageDeposit T sub) .bestEffort L₁ = .ok (m, L₂)) (w : AccountId32) :
    (onHold (removed subId L₂ s) .fees w +
        (if w = sub.details.subscriber then calculateSubscriptionFees T.baseFee sub.creditsLeft
          else 0) = onHold s .fees w) ∧
      onHold s .storageDeposit w = onHold (removed subId L₂ s) .storageDeposit w +
        if w = sub.details.subscriber then
          min (calculateStorageDeposit T sub) (onHold s .storageDeposit sub.details.subscriber)
        else 0 := by
  obtain ⟨hf, hsame⟩ := hfees.balanced law w
  have hsubscriber := (hfees.balanced law sub.details.subscriber).2
  have hm := law.released_bestEffort hdeposit
  have hdf := law.release_onHold hdeposit .fees w
  have hdd := law.release_onHold hdeposit .storageDeposit w
  simp only [true_and, reduceCtorEq, false_and, if_false, Nat.add_zero] at hdf hdd
  rw [calculateSubscriptionFees_zero, ite_self, Nat.add_zero, hdf] at hf
  rw [hsame, hm, hsubscriber] at hdd
  exact ⟨hf, hdd⟩

end Holds

end IdealNetwork.Manager
