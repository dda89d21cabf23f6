import IdealNetwork.Manager.FeeBacking

/-!
# What a distribution charges

`distribute` charges every subscription for one credit, inside the
subscription's own iteration. On behalf of the subscription it moves what
the currency's best-effort transfer reports, from the fees hold of the
subscriber to the treasury, and whether that is the price of the credit is
decided afterwards.

So a credit that is paid in full is paid exactly, and a delivery whose charge
fails keeps its credit. But a transfer that fell short has moved its part all
the same, and no storage layer is around to take it back.
-/

set_option autoImplicit false

namespace IdealNetwork.Manager

open Storage Holds

variable {T : Config} {s t : State T} {env : Env} {pulse : RuntimePulse}
variable {subId : SubscriptionId} {sub : SubscriptionOf}

/-- The state in which a distribution reaches a subscription. -/
def reached (T : Config) (env : Env) (pulse : RuntimePulse) (subId : SubscriptionId)
    (s : State T) : State T :=
  reach (distributeOne T env pulse) (iter T.hasher s.subscriptions) subId s

/-- The state in which it leaves the subscription. -/
def left (T : Config) (env : Env) (pulse : RuntimePulse) (subId : SubscriptionId)
    (sub : SubscriptionOf) (s : State T) : State T :=
  distributeOne T env pulse subId sub (reached T env pulse subId s)

/-- What it moves on the subscription's behalf. -/
def charged (T : Config) (env : Env) (pulse : RuntimePulse) (subId : SubscriptionId)
    (sub : SubscriptionOf) (s : State T) : ℕ :=
  amountPaid T sub (reached T env pulse subId s).ledger

section Observation

variable {α : Type} {f : State T → α}

/-- What only the iteration at one subscription can change, a distribution
changes there and nowhere else. -/
theorem distribute_observe_some (env : Env) (pulse : RuntimePulse)
    (other : ∀ j v (u : State T), j ≠ subId → f (distributeOne T env pulse j v u) = f u)
    (hstored : s.subscriptions.lookup subId = some sub) :
    f (reached T env pulse subId s) = f s ∧
      f (distribute T env pulse s) = f (left T env pulse subId sub s) :=
  forEach_observe_of_mem other (snapshot_iter T.hasher s.subscriptions) (mem_iter.mpr hstored)

theorem distribute_observe_none (env : Env) (pulse : RuntimePulse)
    (other : ∀ j v (u : State T), j ≠ subId → f (distributeOne T env pulse j v u) = f u)
    (hnone : s.subscriptions.lookup subId = none) : f (distribute T env pulse s) = f s := by
  refine forEach_observe_of_notMem other fun hmem => ?_
  obtain ⟨⟨_, sub⟩, hentry, rfl⟩ := List.mem_map.mp hmem
  cases hnone.symm.trans (mem_iter.mp hentry)

end Observation

/-- A distribution meets every subscription as it was stored, and leaves it as
its own iteration wrote it. -/
theorem distribute_lookup (env : Env) (pulse : RuntimePulse)
    (hstored : s.subscriptions.lookup subId = some sub) :
    (reached T env pulse subId s).subscriptions.lookup subId = some sub ∧
      (distribute T env pulse s).subscriptions.lookup subId =
        (left T env pulse subId sub s).subscriptions.lookup subId := by
  have h := distribute_observe_some (f := fun u : State T => u.subscriptions.lookup subId) env
    pulse (fun j v u hne => distributeOne_own T env pulse j v u subId hne.symm) hstored
  exact ⟨h.1.trans hstored, h.2⟩

/-- What is charged leaves the subscriber's fees hold and arrives at the
treasury. -/
theorem Collection.moves (law : T.currency.Lawful) {r : Except Err Unit × State T}
    (h : Collection T sub s r) :
    amountPaid T sub s.ledger ≤ creditPrice T sub ∧
      (∀ who, onHold s .fees who = onHold r.2 .fees who +
        if who = sub.details.subscriber then amountPaid T sub s.ledger else 0) ∧
      ∀ who, T.currency.balance r.2.ledger who = T.currency.balance s.ledger who +
        if who = T.treasuryAccount then amountPaid T sub s.ledger else 0 := by
  refine ⟨?_, fun who => (h.balanced law who).1, fun who => ?_⟩
  · cases hpay : payCredit T sub s.ledger with
    | error e =>
      rw [amountPaid_of_error hpay]
      exact Nat.zero_le _
    | ok p =>
      rw [amountPaid_of_ok hpay]
      exact law.transfer_le hpay
  · cases h with
    | refused paid =>
      rw [amountPaid_of_error paid, ite_self]
      rfl
    | short paid lt =>
      rw [amountPaid_of_ok paid]
      exact law.transfer_balance paid who
    | collected paid le =>
      rw [amountPaid_of_ok paid]
      exact law.transfer_balance paid who

/-- How an iteration charges: its ledger is the one the charge left, and the
record it writes has its credit spent unless a delivery could not be paid. -/
theorem Iteration.charges (h : Iteration T env pulse subId sub s t) :
    ∃ r sub', Collection T sub s r ∧ t.ledger = r.2.ledger ∧
      t.subscriptions.lookup subId = some sub' ∧
      ((sub'.creditsLeft = sub.creditsLeft.saturatingSub 1 ∧ (Eligible env sub → r.1 = .ok ())) ∨
        (sub'.creditsLeft = sub.creditsLeft ∧ sub'.state = .paused ∧ Eligible env sub ∧
          r.1 ≠ .ok ())) := by
  cases h with
  | @unpaid e u due charge =>
    exact ⟨_, _, charge, rfl, Finmap.lookup_insert _, Or.inr ⟨rfl, rfl, due, nofun⟩⟩
  | unsent due charge lost =>
    exact ⟨_, _, charge, rfl, Finmap.lookup_insert _, Or.inl ⟨rfl, fun _ => rfl⟩⟩
  | delivered due charge made taken =>
    exact ⟨_, _, charge, rfl, Finmap.lookup_insert _,
      Or.inl ⟨finalizeIfExhausted_creditsLeft _, fun _ => rfl⟩⟩
  | idle notDue charge =>
    exact ⟨_, _, charge, rfl, Finmap.lookup_insert _,
      Or.inl ⟨finalizeIfExhausted_creditsLeft _, fun due => absurd due notDue⟩⟩

/-- WHAT A DISTRIBUTION CHARGES. On behalf of a stored subscription it moves
what the transfer reports, at most the price of one credit, from the
subscriber's fees hold to the treasury. When that is the whole price, it is
exactly what the remaining credits became cheaper by. When the charge of a
delivery fails, the credits are unchanged and the subscription is paused; and
when the transfer was refused, nothing has moved. -/
theorem distribute_charges (law : T.currency.Lawful) (env : Env) (pulse : RuntimePulse)
    (hstored : s.subscriptions.lookup subId = some sub) :
    ∃ sub', (distribute T env pulse s).subscriptions.lookup subId = some sub' ∧
      charged T env pulse subId sub s ≤ creditPrice T sub ∧
      (∀ who, onHold (reached T env pulse subId s) .fees who =
        onHold (left T env pulse subId sub s) .fees who +
          if who = sub.details.subscriber then charged T env pulse subId sub s else 0) ∧
      (∀ who, T.currency.balance (left T env pulse subId sub s).ledger who =
        T.currency.balance (reached T env pulse subId s).ledger who +
          if who = T.treasuryAccount then charged T env pulse subId sub s else 0) ∧
      (charged T env pulse subId sub s = creditPrice T sub →
        charged T env pulse subId sub s + feesLeft T sub' = feesLeft T sub) ∧
      (Eligible env sub → ∀ e, (collectFees T sub 1 (reached T env pulse subId s)).1 = .error e →
        sub'.creditsLeft = sub.creditsLeft ∧ sub'.state = .paused) ∧
      (∀ e, payCredit T sub (reached T env pulse subId s).ledger = .error e →
        (left T env pulse subId sub s).ledger = (reached T env pulse subId s).ledger) := by
  have hfinal := (distribute_lookup env pulse hstored).2
  have hiter := distributeOne_cases env pulse subId sub (reached T env pulse subId s)
  obtain ⟨r, sub', hcharge, hledger, hlookup, hcredits⟩ := hiter.charges
  obtain ⟨hle, hhold, hfree⟩ := hcharge.moves law
  have hprice := creditPrice_add T sub
  refine ⟨sub', hfinal.trans hlookup, hle, ?_, ?_, ?_, ?_, ?_⟩
  · intro who
    rw [hhold who, onHold, onHold, left, hledger, charged]
  · intro who
    rw [left, hledger, hfree who, charged]
  · intro hfull
    rcases hcredits with ⟨hspent, _⟩ | ⟨hkept, _, _, hfailed⟩
    · rw [hfull, feesLeft, hspent, feesLeft, hprice]
    · -- a failed charge moved the whole price only if the credit was free
      rw [charged] at hfull ⊢
      cases hcharge with
      | refused paid => rw [amountPaid_of_error paid, Nat.zero_add, feesLeft, hkept, feesLeft]
      | short paid lt =>
        rw [amountPaid_of_ok paid] at hfull
        omega
      | collected paid le => exact absurd rfl hfailed
  · intro hdue e herror
    rcases hcredits with ⟨_, hok⟩ | ⟨hkept, hpaused, _, _⟩
    · rw [← hcharge.unique (collectFees_cases sub _), hok hdue] at herror
      cases herror
    · exact ⟨hkept, hpaused⟩
  · intro e hrefused
    rw [left, hledger]
    cases hcharge with
    | refused paid => rfl
    | short paid lt => cases hrefused.symm.trans paid
    | collected paid le => cases hrefused.symm.trans paid

section Sample

open IdealNetwork.Runtime

/-- A chain on which every account could buy a great many credits. -/
def rich : State standalone := genesis fun _ => 1000000000000

/-- Alice buys one credit more than the first tier holds, asks for a refund of
all but one, and is served once. What is left on hold is the difference
between a credit's price in the first tier and in the second. -/
def drained : State standalone :=
  run standalone
    [(online 1, .call (.signed alice) (.createSubscription (sampleParams 10001))),
      (online 1, .call (.signed alice) (.updateSubscription ⟨sampleId, some 1, none, none⟩)),
      (online 2, .distribute samplePulse)] rich

/-- The next pulse is not paid for and no credit is spent, and yet what was on
hold is gone. -/
theorem drained_without_payment :
    (drained.subscriptions.lookup sampleId).map (·.creditsLeft) = some 10000 ∧
      ((distribute standalone (online 3) samplePulse drained).subscriptions.lookup sampleId).map
        (·.creditsLeft) = some 10000 ∧
      onHold drained .fees alice = 145000 ∧
      onHold (distribute standalone (online 3) samplePulse drained) .fees alice = 0 :=
  ⟨by decide +kernel, by decide +kernel, by decide +kernel, by decide +kernel⟩

theorem distribute_charges_tenBought :
    ∃ sub sub', tenBought.subscriptions.lookup sampleId = some sub ∧
      (distribute standalone (online 2) samplePulse tenBought).subscriptions.lookup sampleId =
        some sub' ∧
      charged standalone (online 2) samplePulse sampleId sub tenBought ≤
        creditPrice standalone sub := by
  obtain ⟨sub, hstored⟩ := Option.isSome_iff_exists.mp
    (by decide +kernel : (tenBought.subscriptions.lookup sampleId).isSome = true)
  obtain ⟨sub', hafter, hle, _⟩ :=
    distribute_charges (plain_lawful _) (online 2) samplePulse hstored
  exact ⟨sub, sub', hstored, hafter, hle⟩

end Sample

end IdealNetwork.Manager
