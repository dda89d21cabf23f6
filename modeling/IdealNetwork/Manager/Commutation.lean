import IdealNetwork.Manager.Charging

/-!
# The order of a distribution does not matter

`distribute` goes through the subscriptions in the order of their hashed ids,
and subscriptions of one account draw on one hold, so what an iteration finds
depends on the iterations before it. Where fees are backed it does not depend
on them in anything that counts: every charge is paid in full, so what an
iteration writes, sends and pays is determined by the entry alone
(`Iteration.paid`), and the whole distribution comes to the same in whatever
order the entries are met.

That the outcome of a send depends on the message only is how `Env.send` is
typed.
-/

set_option autoImplicit false

namespace IdealNetwork.Manager

open Storage Holds

variable {T : Config} {s t : State T} {env : Env} {pulse : RuntimePulse}
variable {subId : SubscriptionId} {sub : SubscriptionOf}

/-- `distribute`, meeting the subscriptions in a given order. -/
def distributeIn (T : Config) (entries : List (SubscriptionId × SubscriptionOf)) (env : Env)
    (pulse : RuntimePulse) (s : State T) : State T :=
  forEach (distributeOne T env pulse) entries s

theorem distribute_eq_distributeIn (env : Env) (pulse : RuntimePulse) (s : State T) :
    distribute T env pulse s = distributeIn T (iter T.hasher s.subscriptions) env pulse s :=
  rfl

/-! ## Paid iterations -/

/-- The messages a paid iteration sends: the pulse, if it is due and taken. -/
def delivery (T : Config) (env : Env) (pulse : RuntimePulse) (subId : SubscriptionId)
    (sub : SubscriptionOf) : List XcmMessage :=
  if Eligible env sub then
    (pulseMessage T pulse subId sub).toList.filter fun message => (env.send message).toBool
  else []

/-- The record a paid iteration writes. -/
def settled (T : Config) (env : Env) (pulse : RuntimePulse) (subId : SubscriptionId)
    (sub : SubscriptionOf) : SubscriptionOf :=
  if Eligible env sub then
    if delivery T env pulse subId sub = [] then { recordDelivery env sub with state := .paused }
    else finalizeIfExhausted (recordDelivery env sub)
  else finalizeIfExhausted (recordIdle sub)

theorem delivery_of_taken {message : XcmMessage} (hdue : Eligible env sub)
    (hmade : pulseMessage T pulse subId sub = some message) (htaken : env.send message = .ok ()) :
    delivery T env pulse subId sub = [message] := by
  rw [delivery, if_pos hdue, hmade, Option.toList_some]
  exact List.filter_cons_of_pos (by rw [htaken]; rfl)

theorem delivery_of_lost (hdue : Eligible env sub) (hlost : ¬ CanSend T env pulse subId sub) :
    delivery T env pulse subId sub = [] := by
  rw [delivery, if_pos hdue, List.filter_eq_nil_iff]
  intro message hmade hsent
  refine hlost ⟨message, Option.mem_toList.mp hmade, ?_⟩
  cases hsend : env.send message with
  | error e =>
    rw [hsend] at hsent
    cases hsent
  | ok u => rfl

/-- Where fees are backed, an iteration writes, sends and pays to the treasury
what its entry determines. -/
theorem Iteration.paid (law : T.currency.Lawful) (pays : T.currency.PaysHeld) (h : FeesBacked s)
    (hstored : s.subscriptions.lookup subId = some sub)
    (hiter : Iteration T env pulse subId sub s t) :
    t.subscriptions.lookup subId = some (settled T env pulse subId sub) ∧
      t.sent = s.sent ++ delivery T env pulse subId sub ∧
      T.currency.balance t.ledger T.treasuryAccount =
        T.currency.balance s.ledger T.treasuryAccount + creditPrice T sub := by
  have hmoved : ∀ {r : Except Err Unit × State T}, Collection T sub s r →
      T.currency.balance r.2.ledger T.treasuryAccount =
        T.currency.balance s.ledger T.treasuryAccount + creditPrice T sub := by
    intro r hcharge
    rw [(hcharge.moves law).2.2 T.treasuryAccount, if_pos rfl,
      (h.collected pays hstored hcharge).2]
  unfold settled
  cases hiter with
  | unpaid due charge => exact absurd (h.collected pays hstored charge).1 nofun
  | unsent due charge lost =>
    rw [delivery_of_lost due lost, if_pos due, if_pos rfl, List.append_nil]
    exact ⟨Finmap.lookup_insert _, charge.sent, hmoved charge⟩
  | @delivered u message due charge made taken =>
    rw [delivery_of_taken due made taken, if_pos due, if_neg (List.cons_ne_nil _ _)]
    exact ⟨Finmap.lookup_insert _, congrArg (· ++ [message]) charge.sent, hmoved charge⟩
  | idle notDue charge =>
    rw [if_neg notDue, delivery, if_neg notDue, List.append_nil]
    exact ⟨Finmap.lookup_insert _, charge.sent, hmoved charge⟩

/-! ## Orders -/

section Orders

variable {entries others : List (SubscriptionId × SubscriptionOf)}

theorem FeesBacked.distributeIn (law : T.currency.Lawful) (pays : T.currency.PaysHeld)
    (h : FeesBacked s) (hs : Enumeration s.subscriptions entries) :
    FeesBacked (distributeIn T entries env pulse s) :=
  forEach_invariant (distributeOne_own T env pulse)
    (fun k v u _ hlookup hu => hu.iteration law pays hlookup (distributeOne_cases env pulse k v u))
    hs.toSnapshot h

/-- THE ORDER OF A DISTRIBUTION DOES NOT MATTER. In every state reached without
an update, and in whatever two orders the subscriptions are enumerated, a
distribution leaves the same subscriptions, the same fees on hold for every
account and the same balance of the treasury, and sends the same messages. -/
theorem distribution_order_free (law : T.currency.Lawful) (pays : T.currency.PaysHeld)
    {s₀ : State T} (hinit : Initial T s₀) (inputs : List Input)
    (hinputs : ∀ input ∈ inputs, input.2.isUpdate = false) (env : Env) (pulse : RuntimePulse)
    (hs : Enumeration (run T inputs s₀).subscriptions entries)
    (hs' : Enumeration (run T inputs s₀).subscriptions others) :
    (distributeIn T entries env pulse (run T inputs s₀)).subscriptions =
        (distributeIn T others env pulse (run T inputs s₀)).subscriptions ∧
      (∀ who, onHold (distributeIn T entries env pulse (run T inputs s₀)) .fees who =
        onHold (distributeIn T others env pulse (run T inputs s₀)) .fees who) ∧
      T.currency.balance (distributeIn T entries env pulse (run T inputs s₀)).ledger
          T.treasuryAccount =
        T.currency.balance (distributeIn T others env pulse (run T inputs s₀)).ledger
          T.treasuryAccount ∧
      ((distributeIn T entries env pulse (run T inputs s₀)).sent : Multiset XcmMessage) =
        (distributeIn T others env pulse (run T inputs s₀)).sent := by
  have hbacked := FeesBacked.run law pays hinit inputs hinputs
  have own := distributeOne_own T env pulse
  have hstep : ∀ k v (u : State T), u.subscriptions.lookup k = some v → FeesBacked u →
      FeesBacked (distributeOne T env pulse k v u) := fun k v u hlookup hu =>
    hu.iteration law pays hlookup (distributeOne_cases env pulse k v u)
  have hpaid : ∀ k v (u : State T), u.subscriptions.lookup k = some v → FeesBacked u → _ :=
    fun k v u hlookup hu => (distributeOne_cases env pulse k v u).paid law pays hu hlookup
  have hsubs : (distributeIn T entries env pulse (run T inputs s₀)).subscriptions =
      (distributeIn T others env pulse (run T inputs s₀)).subscriptions :=
    forEach_store_eq own (fun k v u hlookup hu =>
      ⟨hstep k v u hlookup hu, (hpaid k v u hlookup hu).1⟩) hs hs' hbacked
  refine ⟨hsubs, fun who => ?_, ?_, ?_⟩
  · -- the hold is the price of the credits left, which the map determines
    rw [hbacked.distributeIn law pays hs who, hbacked.distributeIn law pays hs' who, owed, owed,
      hsubs]
  · exact forEach_sum_eq (f := fun u : State T => T.currency.balance u.ledger T.treasuryAccount)
      own (fun k v u hlookup hu => ⟨hstep k v u hlookup hu, (hpaid k v u hlookup hu).2.2⟩)
      hs hs' hbacked
  · have hsent : ∀ k v (u : State T), u.subscriptions.lookup k = some v → FeesBacked u →
        ((distributeOne T env pulse k v u).sent : Multiset XcmMessage) =
          u.sent + (delivery T env pulse k v : Multiset XcmMessage) := by
      intro k v u hlookup hu
      rw [(hpaid k v u hlookup hu).2.1, Multiset.coe_add]
    exact forEach_sum_eq (f := fun u : State T => (u.sent : Multiset XcmMessage)) own
      (fun k v u hlookup hu => ⟨hstep k v u hlookup hu, hsent k v u hlookup hu⟩) hs hs' hbacked

end Orders

section Sample

open IdealNetwork.Runtime

/-- Alice holds two subscriptions on one fees hold. -/
def buyTwice : List Input :=
  [(online 1, .call (.signed alice) (.createSubscription (sampleParams 3))),
    (online 1, .call (.signed alice) (.createSubscription
      { sampleParams 5 with subId := some (Vector.replicate 32 9) }))]

def twiceBought : State standalone := run standalone buyTwice funded

/-- They may be met in either order. -/
theorem distribution_order_free_twiceBought :
    twiceBought.subscriptions.keys.card = 2 ∧
      (distributeIn standalone (iter (identityHasher 32) twiceBought.subscriptions).reverse
        (online 2) samplePulse twiceBought).subscriptions =
      (distribute standalone (online 2) samplePulse twiceBought).subscriptions := by
  have hiter := enumeration_iter (identityHasher 32) twiceBought.subscriptions
  refine ⟨by decide +kernel, ?_⟩
  exact (distribution_order_free (T := standalone) (plain_lawful _) (plain_paysHeld _)
    (initial_genesis _) buyTwice (by decide) (online 2) samplePulse
    (hiter.of_perm (List.reverse_perm _).symm) hiter).1

end Sample

end IdealNetwork.Manager
