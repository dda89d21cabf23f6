import IdealNetwork.Lib.Payments
import IdealNetwork.Manager.Service

/-!
# The books of the pallet

Two accounts of where the money goes. For all accounts: whatever is called,
distributed and finalized, the pallet makes no money appear or disappear, it takes
nothing from an account but what it collects from its fees hold, and the treasury
gets all of that (`books_balance`). The events report no more than was collected,
and all of it as long as nothing is updated.

The ledger is not the pallet's alone. Transactions have fees, accounts transfer,
and the sender of a message is charged for its delivery, also in the middle of a
distribution. The books record what happened to the ledger in these ways, and the
result is about what the pallet does beside it.

For one subscription: as long as nothing is updated, what the events report as
collected for it is what the tariff asks for the credits it has spent, from the
price of all it bought to the price of what it has left (`bill_exact`).
-/

set_option autoImplicit false

namespace IdealNetwork.Manager

open Storage Holds

instance : Fintype HoldReason where
  elems := {.fees, .storageDeposit}
  complete reason := by cases reason <;> decide

variable {T : Config} {s t : State T} {env : Env} {origin : Origin} {input : Input}
variable {subId id : SubscriptionId} {sub : SubscriptionOf}

/-! ## All accounts -/

/-- The sum of a weight over some events. -/
def tally (weight : Event → ℕ) (events : List Event) : ℕ := (events.map weight).sum

theorem tally_concat (weight : Event → ℕ) (events : List Event) (event : Event) :
    tally weight (events ++ [event]) = tally weight events + weight event := by
  rw [tally, List.map_append, List.sum_append, List.map_singleton, List.sum_singleton, tally]

/-- The fees that an event reports. -/
def Event.fees : Event → ℕ
  | .feesCollected _ fees => fees
  | _ => 0

/-- The fees that some events report. -/
def receipts (events : List Event) : ℕ := tally Event.fees events

/-- Settling fees moves money within an account. -/
theorem FeesSettled.paid (law : T.currency.Lawful) {who dst : AccountId32} {diff : DiffBalance}
    {L L' : T.currency.Ledger} (h : FeesSettled T who diff L L') : Paid dst 0 L L' := by
  cases h with
  | held collect done => exact law.hold_paid done
  | released release done => exact law.release_paid done
  | nothing none => exact .refl _

/-- New events report no more than was collected; if every charge is collected in
full, they report all of it. -/
structure Reports (full : Prop) (collected : ℕ) (before after : List Event) : Prop where
  le : receipts after ≤ receipts before + collected
  exact : full → receipts after = receipts before + collected

/-- From `s` to `t`, accounts have paid to the treasury, and the events report it. -/
structure Collects (full : Prop) (paid : AccountId32 →₀ ℕ) (s t : State T) : Prop where
  moved : Paid T.treasuryAccount paid s.ledger t.ledger
  reported : Reports full paid.degree s.events t.events

section

variable {full : Prop}

theorem Reports.of_receipts {before after : List Event} (h : receipts after = receipts before) :
    Reports full (0 : AccountId32 →₀ ℕ).degree before after where
  le := h.trans_le (Nat.le_add_right _ _)
  exact := fun _ => by rw [h, map_zero, Nat.add_zero]

theorem Reports.trans {paid paid' : AccountId32 →₀ ℕ} {first second third : List Event}
    (h : Reports full paid.degree first second) (h' : Reports full paid'.degree second third) :
    Reports full (paid + paid').degree first third where
  le := by
    have hfirst := h.le
    have hsecond := h'.le
    rw [map_add]
    omega
  exact := by
    intro hfull
    rw [h'.exact hfull, h.exact hfull, map_add, Nat.add_assoc]

/-- What reports no fees and moves money within accounts only. -/
theorem Collects.of_receipts (hpaid : Paid T.treasuryAccount 0 s.ledger t.ledger)
    (hreceipts : receipts t.events = receipts s.events) : Collects full 0 s t :=
  ⟨hpaid, .of_receipts hreceipts⟩

theorem Collects.of_event {event : Event} (hpaid : Paid T.treasuryAccount 0 s.ledger t.ledger)
    (hevents : t.events = s.events ++ [event]) (hfees : event.fees = 0) : Collects full 0 s t :=
  .of_receipts hpaid (by rw [hevents, receipts, tally_concat, hfees, Nat.add_zero, receipts])

theorem Collects.trans {u : State T} {paid paid' : AccountId32 →₀ ℕ} (h : Collects full paid s t)
    (h' : Collects full paid' t u) : Collects full (paid + paid') s u :=
  ⟨h.moved.trans h'.moved, h.reported.trans h'.reported⟩

theorem CallEffect.collects (law : T.currency.Lawful) {call : Call}
    (h : CallEffect T env origin s call t) : Collects full 0 s t := by
  cases h with
  | created caller bought room fresh fees deposit =>
    exact .of_event ((law.hold_paid fees).trans_zero (law.hold_paid deposit)) rfl rfl
  | paused caller stored owner active => exact .of_event (.refl _) rfl rfl
  | reactivated caller stored owner paused => exact .of_event (.refl _) rfl rfl
  | killed caller stored owner fees deposit =>
    exact .of_event ((fees.paid law).trans_zero (law.release_paid deposit)) rfl rfl
  | updated caller stored owner live fees => exact .of_event (fees.paid law) rfl rfl
  | quoted => exact .of_event (.refl _) rfl rfl
  | informed => exact .of_event (.refl _) rfl rfl

theorem Termination.collects (law : T.currency.Lawful) (h : Termination T subId sub s t) :
    Collects full 0 s t := by
  cases h with
  | completed fees deposit =>
    exact .of_event ((fees.paid law).trans_zero (law.release_paid deposit)) rfl rfl
  | failed failed =>
    rw [← terminateSubscription_fails law failed]
    exact .of_receipts (.refl _) rfl

/-- A charge is a payment of the subscriber. A transfer that fell short is not
reported. -/
theorem Collection.collects (law : T.currency.Lawful) {r : Except Err Unit × State T}
    (h : Collection T sub s r) (hfull : full → r.1 = .ok ()) :
    Collects full (.single sub.details.subscriber (amountPaid T sub s.ledger)) s r.2 := by
  cases h with
  | refused paid =>
    rw [amountPaid_of_error paid, Finsupp.single_zero]
    exact .of_receipts (.refl _) rfl
  | short paid lt =>
    rw [amountPaid_of_ok paid]
    exact ⟨law.transfer_paid paid, Nat.le_add_right _ _, fun h => absurd (hfull h) nofun⟩
  | @collected m L paid le =>
    have hreceipts : receipts (s.events ++ [.feesCollected sub.id m]) = receipts s.events + m :=
      tally_concat Event.fees _ _
    rw [amountPaid_of_ok paid]
    refine ⟨law.transfer_paid paid, ?_, fun _ => ?_⟩
    · rw [Finsupp.degree_single]
      exact hreceipts.le
    · rw [Finsupp.degree_single]
      exact hreceipts

theorem Iteration.collects (law : T.currency.Lawful) {pulse : RuntimePulse}
    (h : Iteration T env pulse subId sub s t)
    (hfull : full → ∀ r, Collection T sub s r → r.1 = .ok ()) :
    ∃ paid, Collects full paid s t := by
  cases h with
  | unpaid due charge =>
    exact ⟨_, (charge.collects law fun hf => hfull hf _ charge).trans
      (.of_event (.refl _) rfl rfl)⟩
  | unsent due charge lost =>
    exact ⟨_, (charge.collects law fun _ => rfl).trans (.of_event (.refl _) rfl rfl)⟩
  | delivered due charge made taken =>
    exact ⟨_, (charge.collects law fun _ => rfl).trans (.of_event (.refl _) rfl rfl)⟩
  | idle notDue charge =>
    exact ⟨_, (charge.collects law fun hf => hfull hf _ charge).trans
      (.of_receipts (.refl _) rfl)⟩

end

/-! ## What else happens to the ledger -/

/-- The pallet's state, and the changes of the ledger so far that were not the
pallet's, each with the ledger before and after it. -/
structure Books (T : Config) where
  state : State T
  outside : List (T.currency.Ledger × T.currency.Ledger)

/-- A change of the ledger that is not the pallet's. -/
def Books.change (f : T.currency.Ledger → T.currency.Ledger) (b : Books T) : Books T where
  state := { b.state with ledger := f b.state.ledger }
  outside := b.outside ++ [(b.state.ledger, f b.state.ledger)]

/-- What happens on the chain. -/
inductive Occurrence (T : Config) where
  | pallet (input : Input)
  /-- A distribution whose messages are paid for: `delivery` is what sending to a
  subscription does to the ledger. -/
  | distributed (env : Env) (pulse : RuntimePulse)
      (delivery : SubscriptionId → T.currency.Ledger → T.currency.Ledger)
  /-- Anything else: transfers, the fees of a transaction, the delivery of an answer. -/
  | outside (f : T.currency.Ledger → T.currency.Ledger)

/-- An iteration of a distribution whose messages are paid for. The pallet's own
charge comes before it sends, and the iteration does not touch the ledger again. -/
def serveOne (env : Env) (pulse : RuntimePulse)
    (delivery : SubscriptionId → T.currency.Ledger → T.currency.Ledger) (subId : SubscriptionId)
    (sub : SubscriptionOf) (b : Books T) : Books T :=
  Books.change (delivery subId) { b with state := distributeOne T env pulse subId sub b.state }

def Occurrence.apply : Occurrence T → Books T → Books T
  | .pallet input, b => { b with state := step T input b.state }
  | .distributed env pulse delivery, b =>
    forEach (serveOne env pulse delivery) (iter T.hasher b.state.subscriptions) b
  | .outside f, b => b.change f

/-- The books after a run. -/
def keepBooks (occurrences : List (Occurrence T)) (s : State T) : Books T :=
  Runs.run Occurrence.apply occurrences ⟨s, []⟩

/-- If sending is free, it is the pallet's distribution. -/
theorem state_distributed_free (env : Env) (pulse : RuntimePulse) (b : Books T) :
    (Occurrence.apply (.distributed env pulse fun _ L => L) b).state =
      distribute T env pulse b.state :=
  (List.foldl_hom Books.state fun _ _ => rfl).symm

theorem serveOne_own (env : Env) (pulse : RuntimePulse)
    (delivery : SubscriptionId → T.currency.Ledger → T.currency.Ledger) :
    OwnKeyOnly (fun b : Books T => b.state.subscriptions) (serveOne env pulse delivery) :=
  fun k v b j hne => distributeOne_own T env pulse k v b.state j hne

/-- What an account has got from outside. -/
def Books.drift (b : Books T) (who : AccountId32) : ℤ :=
  (b.outside.map fun c => (T.currency.total c.2 who : ℤ) - T.currency.total c.1 who).sum

/-- What an account would have without that. -/
def Books.net (b : Books T) (who : AccountId32) : ℤ :=
  T.currency.total b.state.ledger who - b.drift who

theorem Books.net_change (f : T.currency.Ledger → T.currency.Ledger) (b : Books T)
    (who : AccountId32) : (b.change f).net who = b.net who := by
  have hdrift : (b.change f).drift who = b.drift who +
      (T.currency.total (f b.state.ledger) who - T.currency.total b.state.ledger who) := by
    simp only [drift, change, List.map_append, List.sum_append, List.map_singleton,
      List.sum_singleton]
  have hledger : (b.change f).state.ledger = f b.state.ledger := rfl
  rw [net, hdrift, hledger, net]
  omega

/-- `Collects`, apart from what happened outside. -/
structure Settled (full : Prop) (paid : AccountId32 →₀ ℕ) (b c : Books T) : Prop where
  moved : ∀ who, c.net who + paid who =
    b.net who + if who = T.treasuryAccount then (paid.degree : ℤ) else 0
  reported : Reports full paid.degree b.state.events c.state.events

section

variable {full : Prop} {paid paid' : AccountId32 →₀ ℕ} {b c : Books T}

theorem Settled.refl (b : Books T) : Settled full 0 b b where
  moved who := by
    rw [Finsupp.zero_apply, map_zero, Nat.cast_zero, ite_self]
  reported := .of_receipts rfl

theorem Settled.collects (h : Settled full paid b c) (h' : Collects full paid' c.state t) :
    Settled full (paid + paid') b { c with state := t } where
  moved who := by
    have hfirst := h.moved who
    have hsecond := h'.moved who
    have hnet : Books.net { c with state := t } who = T.currency.total t.ledger who - c.drift who :=
      rfl
    rw [hnet, Finsupp.add_apply, map_add]
    rw [Books.net] at hfirst
    by_cases hdst : who = T.treasuryAccount
    · rw [if_pos hdst] at hfirst hsecond ⊢
      omega
    · rw [if_neg hdst] at hfirst hsecond ⊢
      omega
  reported := h.reported.trans h'.reported

theorem Settled.change (h : Settled full paid b c) (f : T.currency.Ledger → T.currency.Ledger) :
    Settled full paid b (c.change f) where
  moved who := by
    rw [c.net_change f who]
    exact h.moved who
  reported := h.reported

end

/-! ## The books of a run -/

/-- A change of the ledger that leaves what is on hold for fees. -/
def LeavesFees (T : Config) (f : T.currency.Ledger → T.currency.Ledger) : Prop :=
  ∀ L who, T.currency.balanceOnHold (f L) .fees who = T.currency.balanceOnHold L .fees who

/-- The occurrence is no update, and what it does beside the pallet leaves what is
on hold for fees. -/
def Occurrence.Regular : Occurrence T → Prop
  | .pallet input => input.2.isUpdate = false
  | .distributed _ _ delivery => ∀ id, LeavesFees T (delivery id)
  | .outside f => LeavesFees T f

/-- A run from empty storage in which every charge is collected in full. -/
def Clean (T : Config) (occurrences : List (Occurrence T)) (s : State T) : Prop :=
  T.currency.PaysHeld ∧ Initial T s ∧ ∀ o ∈ occurrences, o.Regular

/-- What holds in the course of a run: every charge so far was a payment, and in
a clean run fees are backed, so that the next one will be collected in full. -/
def Booked (clean : Prop) (start b : Books T) : Prop :=
  (clean → FeesBacked b.state) ∧ ∃ paid, Settled clean paid start b

section

variable {clean : Prop} {start b : Books T}

theorem Booked.change {f : T.currency.Ledger → T.currency.Ledger} (hf : clean → LeavesFees T f)
    (h : Booked clean start b) : Booked clean start (b.change f) := by
  obtain ⟨hbacked, paid, hpaid⟩ := h
  exact ⟨fun hclean who => (hf hclean _ who).trans (hbacked hclean who), paid, hpaid.change f⟩

theorem Booked.iteration (law : T.currency.Lawful) (pays : clean → T.currency.PaysHeld)
    {pulse : RuntimePulse} (hstored : b.state.subscriptions.lookup subId = some sub)
    (hiter : Iteration T env pulse subId sub b.state t) (h : Booked clean start b) :
    Booked clean start { b with state := t } := by
  obtain ⟨hbacked, paid, hpaid⟩ := h
  obtain ⟨more, hmore⟩ := hiter.collects law fun hclean r hcharge =>
    ((hbacked hclean).collected (pays hclean) hstored hcharge).1
  exact ⟨fun hclean => (hbacked hclean).iteration law (pays hclean) hstored hiter, _,
    hpaid.collects hmore⟩

/-- A step of the pallet. -/
theorem Booked.pallet (law : T.currency.Lawful) (pays : clean → T.currency.PaysHeld)
    (hupdate : clean → input.2.isUpdate = false) (h : Booked clean start b) :
    Booked clean start { b with state := step T input b.state } := by
  refine step_invariant (P := fun u => Booked clean start { b with state := u }) input h ?_ ?_ ?_
  · intro origin call t hop heffect
    obtain ⟨hbacked, paid, hpaid⟩ := h
    refine ⟨fun hclean => (hbacked hclean).callEffect law (fun params hcall => ?_) heffect, _,
      hpaid.collects (heffect.collects law)⟩
    have hnever := hupdate hclean
    rw [hop, hcall] at hnever
    cases hnever
  · intro pulse subId sub u v _ _ hstored hiter hu
    exact hu.iteration (b := { b with state := u }) law pays hstored hiter
  · rintro subId sub u v hstored _ hterm ⟨hbacked, paid, hpaid⟩
    exact ⟨fun hclean => (hbacked hclean).termination law hstored hterm, _,
      hpaid.collects (c := { b with state := u }) (hterm.collects law)⟩

theorem Booked.occurrence (law : T.currency.Lawful) (pays : clean → T.currency.PaysHeld)
    {o : Occurrence T} (hregular : clean → o.Regular) (h : Booked clean start b) :
    Booked clean start (o.apply b) := by
  cases o with
  | pallet input => exact h.pallet law pays hregular
  | distributed env pulse delivery =>
    refine forEach_invariant (serveOne_own env pulse delivery) ?_ (snapshot_iter T.hasher _) h
    intro subId sub u _ hstored hu
    have hserved := hu.iteration law pays hstored (distributeOne_cases env pulse subId sub u.state)
    exact hserved.change fun hclean => hregular hclean subId
  | outside f => exact h.change hregular

end

/-- THE BOOKS BALANCE. Let the pallet run from any state, with whatever else happens
to the ledger in between: what sending a message costs, the fees of transactions,
transfers. There is an amount for each account, which it has paid to the treasury.
Its total, free and on hold, has become less by it and has changed by what
happened outside, and not otherwise, except that the treasury has got all that was
paid. The events report no more than that. If the run starts from empty storage,
nothing is updated, what is on hold can be paid and nothing outside touches what is
on hold for fees, they report exactly that. -/
theorem books_balance (law : T.currency.Lawful) (occurrences : List (Occurrence T))
    (s : State T) :
    ∃ paid : AccountId32 →₀ ℕ,
      (∀ who, (T.currency.total (keepBooks occurrences s).state.ledger who : ℤ) + paid who =
        T.currency.total s.ledger who +
          (if who = T.treasuryAccount then (paid.degree : ℤ) else 0) +
          (keepBooks occurrences s).drift who) ∧
      receipts (keepBooks occurrences s).state.events ≤ receipts s.events + paid.degree ∧
      (T.currency.PaysHeld → Initial T s → (∀ o ∈ occurrences, o.Regular) →
        receipts (keepBooks occurrences s).state.events = receipts s.events + paid.degree) := by
  have hrun : Booked (Clean T occurrences s) ⟨s, []⟩ (keepBooks occurrences s) :=
    Runs.run_invariant Occurrence.apply ⟨fun hclean => .initial hclean.2.1, 0, .refl _⟩
      fun o hmem _ hu => hu.occurrence law And.left fun hclean => hclean.2.2 o hmem
  obtain ⟨_, paid, hpaid⟩ := hrun
  refine ⟨paid, fun who => ?_, hpaid.reported.le, fun pays hinit hregular =>
    hpaid.reported.exact ⟨pays, hinit, hregular⟩⟩
  have hmoved := hpaid.moved who
  have hstart : Books.net ⟨s, []⟩ who = T.currency.total s.ledger who := sub_zero _
  rw [hstart, Books.net] at hmoved
  omega

section Sample

open IdealNetwork.Runtime

/-- Alice buys three credits and is served twice. The first message costs the
sender a fee, which is burnt, and Alice has paid for her transaction. -/
def servedTwice : List (Occurrence standalone) :=
  [.pallet (online 1, .call (.signed alice) (.createSubscription (sampleParams 3))),
    .outside fun L => L.setFree alice (L.free alice - 7),
    .distributed (online 2) samplePulse fun _ L => L.setFree alice (L.free alice - 50),
    .pallet (online 3, .distribute samplePulse)]

/-- Two credits have been paid for, by those who have less now. -/
theorem books_balance_servedTwice :
    ∃ paid : AccountId32 →₀ ℕ, paid.degree = 5800000 ∧
      ∀ who, (balances.total (keepBooks servedTwice funded).state.ledger who : ℤ) + paid who =
        balances.total funded.ledger who + (if who = treasuryAccount then 5800000 else 0) +
          (keepBooks servedTwice funded).drift who := by
  have hregular : ∀ o ∈ servedTwice, o.Regular := by
    simp only [servedTwice, List.forall_mem_cons]
    exact ⟨rfl, fun _ _ => rfl, fun _ _ _ => rfl, rfl, List.forall_mem_nil _⟩
  obtain ⟨paid, hpaid, _, hexact⟩ := books_balance (T := standalone) (plain_lawful _) servedTwice
    funded
  have hsum : receipts (keepBooks servedTwice funded).state.events = 5800000 := by decide +kernel
  have hdegree : paid.degree = 5800000 := by
    rw [← hsum, hexact (plain_paysHeld _) (initial_genesis _) hregular]
    exact (Nat.zero_add _).symm
  refine ⟨paid, hdegree, fun who => ?_⟩
  have hwho := hpaid who
  rw [hdegree] at hwho
  exact hwho

end Sample

/-! ## One subscription -/

/-- The fees that an event reports for a subscription. -/
def Event.feesOf (id : SubscriptionId) : Event → ℕ
  | .feesCollected subId fees => if subId = id then fees else 0
  | _ => 0

/-- What some events report as collected for a subscription. -/
def billed (id : SubscriptionId) (events : List Event) : ℕ := tally (Event.feesOf id) events

/-- Every record stands under its own id. -/
def OwnIds (s : State T) : Prop :=
  ∀ subId sub, s.subscriptions.lookup subId = some sub → sub.id = subId

theorem finalizeIfExhausted_id (sub : SubscriptionOf) : (finalizeIfExhausted sub).id = sub.id := by
  unfold finalizeIfExhausted
  split <;> rfl

theorem RecordStep.id_eq {sub' : SubscriptionOf} {pulses : ℕ}
    (h : RecordStep T input s id (some sub) (some sub') pulses) : sub'.id = sub.id := by
  cases h with
  | untouched => rfl
  | paused op owner active => rfl
  | reactivated op owner paused => rfl
  | updated op named owner live => rfl
  | unpaid op due failed => rfl
  | unsent op due lost => rfl
  | delivered op due taken => exact finalizeIfExhausted_id _
  | idle op notDue => exact finalizeIfExhausted_id _

theorem OwnIds.step (h : OwnIds s) : OwnIds (step T input s) := by
  intro id sub' hsub'
  rcases stored_of_step hsub' with ⟨_, _, _, _, _, rfl⟩ | ⟨sub, _, hstored, hrecord⟩
  · rfl
  · exact hrecord.id_eq.trans (h id sub hstored)

theorem OwnIds.run {s₀ : State T} (hinit : Initial T s₀) (inputs : List Input) :
    OwnIds (run T inputs s₀) := by
  refine Runs.run_invariant (Manager.step T) ?_ fun _ _ _ hu => hu.step
  intro subId sub hstored
  rw [hinit.subscriptions] at hstored
  cases hstored

/-- Charging a subscription in full bills it for a credit, and no other. -/
theorem Collection.billed {r : Except Err Unit × State T} (h : Collection T sub s r)
    (hfull : r.1 = .ok ()) (hprice : amountPaid T sub s.ledger = creditPrice T sub)
    (id : SubscriptionId) :
    billed id r.2.events =
      Manager.billed id s.events + if sub.id = id then creditPrice T sub else 0 := by
  cases h with
  | refused paid => cases hfull
  | short paid lt => cases hfull
  | collected paid le =>
    rw [amountPaid_of_ok paid] at hprice
    rw [← hprice]
    exact tally_concat (Event.feesOf id) _ _

/-- An iteration that charges in full spends a credit and bills it. -/
theorem Iteration.billed {pulse : RuntimePulse} (h : Iteration T env pulse subId sub s t)
    (hfull : ∀ r, Collection T sub s r →
      r.1 = .ok () ∧ amountPaid T sub s.ledger = creditPrice T sub) (id : SubscriptionId) :
    billed id t.events =
        Manager.billed id s.events + (if sub.id = id then creditPrice T sub else 0) ∧
      ∃ sub', t.subscriptions = s.subscriptions.insert subId sub' ∧
        sub'.creditsLeft = sub.creditsLeft.saturatingSub 1 := by
  cases h with
  | unpaid due charge => exact absurd (hfull _ charge).1 nofun
  | unsent due charge lost =>
    refine ⟨?_, _, congrArg (Finmap.insert subId _) charge.subscriptions, rfl⟩
    exact (tally_concat (Event.feesOf id) _ _).trans (charge.billed rfl (hfull _ charge).2 id)
  | delivered due charge made taken =>
    refine ⟨?_, _, congrArg (Finmap.insert subId _) charge.subscriptions,
      finalizeIfExhausted_creditsLeft _⟩
    exact (tally_concat (Event.feesOf id) _ _).trans (charge.billed rfl (hfull _ charge).2 id)
  | idle notDue charge =>
    refine ⟨?_, _, congrArg (Finmap.insert subId _) charge.subscriptions,
      finalizeIfExhausted_creditsLeft _⟩
    exact charge.billed (hfull _ charge).1 (hfull _ charge).2 id

/-- What a subscription has been billed and what it has left are together worth
the same as ever. -/
def Bill (id : SubscriptionId) (worth : ℕ) (s : State T) : Prop :=
  ∀ sub, s.subscriptions.lookup id = some sub → billed id s.events + feesLeft T sub = worth

variable {worth : ℕ}

/-- A step that reports no fees and keeps a subscription's credits. -/
theorem Bill.of_event {event : Event} (h : Bill id worth s)
    (hevents : t.events = s.events ++ [event]) (hfees : event.feesOf id = 0)
    (hcredits : ∀ sub', t.subscriptions.lookup id = some sub' → ∃ sub,
      s.subscriptions.lookup id = some sub ∧ sub'.creditsLeft = sub.creditsLeft) :
    Bill id worth t := by
  intro sub' hsub'
  obtain ⟨sub, hsub, hsame⟩ := hcredits sub' hsub'
  rw [hevents, billed, tally_concat, hfees, Nat.add_zero, feesLeft, hsame]
  exact h sub hsub

theorem CallEffect.unbilled {call : Call} (h : CallEffect T env origin s call t) :
    ∃ event, t.events = s.events ++ [event] ∧ ∀ id, event.feesOf id = 0 := by
  cases h <;> exact ⟨_, rfl, fun _ => rfl⟩

/-- A call leaves a subscription its credits. -/
theorem RecordStep.credits_of_call {sub' : SubscriptionOf} {pulses : ℕ} {call : Call}
    (h : RecordStep T input s id (some sub) (some sub') pulses)
    (hop : input.2 = .call origin call) : sub'.creditsLeft = sub.creditsLeft := by
  cases h with
  | untouched => rfl
  | paused op owner active => rfl
  | reactivated op owner paused => rfl
  | updated op named owner live => rfl
  | unpaid op due failed => rfl
  | unsent op due lost => cases hop.symm.trans op
  | delivered op due taken => cases hop.symm.trans op
  | idle op notDue => cases hop.symm.trans op

theorem Bill.iteration {pulse : RuntimePulse} (h : Bill id worth s) (hown : sub.id = subId)
    (hstored : s.subscriptions.lookup subId = some sub)
    (hiter : Iteration T env pulse subId sub s t)
    (hfull : ∀ r, Collection T sub s r →
      r.1 = .ok () ∧ amountPaid T sub s.ledger = creditPrice T sub) : Bill id worth t := by
  obtain ⟨hbilled, record, hwrite, hcredits⟩ := hiter.billed hfull id
  intro sub' hsub'
  rw [hbilled, hown]
  by_cases hid : subId = id
  · subst hid
    rw [hwrite, Finmap.lookup_insert] at hsub'
    cases hsub'
    have hprice := creditPrice_add T sub
    have hbefore := h sub hstored
    rw [if_pos rfl, feesLeft, hcredits]
    unfold feesLeft at hbefore
    omega
  · rw [hwrite, Finmap.lookup_insert_of_ne _ (Ne.symm hid)] at hsub'
    rw [if_neg hid, Nat.add_zero]
    exact h sub' hsub'

theorem Bill.termination (h : Bill id worth s) (law : T.currency.Lawful)
    (hterm : Termination T subId sub s t) : Bill id worth t := by
  cases hterm with
  | failed failed =>
    rw [← terminateSubscription_fails law failed]
    exact h
  | completed fees deposit =>
    refine h.of_event rfl rfl fun sub' hsub' => ?_
    by_cases hid : id = subId
    · rw [hid, removed, Finmap.lookup_erase] at hsub'
      cases hsub'
    · rw [removed, Finmap.lookup_erase_ne hid] at hsub'
      exact ⟨sub', hsub', rfl⟩

theorem Bill.step (law : T.currency.Lawful) (pays : T.currency.PaysHeld)
    (hinput : input.2.isUpdate = false) (hbacked : FeesBacked s) (hown : OwnIds s)
    (hid : id ∈ s.subscriptions) (h : Bill id worth s) : Bill id worth (step T input s) := by
  suffices hboth : FeesBacked (Manager.step T input s) ∧ Bill id worth (Manager.step T input s)
    from hboth.2
  refine step_invariant (P := fun u => FeesBacked u ∧ Bill id worth u) input ⟨hbacked, h⟩ ?_ ?_ ?_
  · intro origin call t hop heffect
    refine ⟨hbacked.callEffect law (fun params hcall => ?_) heffect, ?_⟩
    · rw [hop, hcall] at hinput
      cases hinput
    · obtain ⟨event, hevents, hfees⟩ := heffect.unbilled
      refine h.of_event hevents (hfees id) fun sub' hsub' => ?_
      obtain ⟨sub, hsub⟩ := Finmap.mem_iff.mp hid
      have hsteps : Steps T input s id t := .of_call hop heffect
      obtain ⟨pulses, hrecord, _⟩ := hsteps
      rw [hsub, hsub'] at hrecord
      exact ⟨sub, hsub, hrecord.credits_of_call hop⟩
  · rintro pulse subId sub u v _ hstart hstored hiter ⟨hbacked, hu⟩
    exact ⟨hbacked.iteration law pays hstored hiter, hu.iteration (hown subId sub hstart) hstored
      hiter fun r hcharge => hbacked.collected pays hstored hcharge⟩
  · rintro subId sub u v hstored _ hterm ⟨hbacked, hu⟩
    exact ⟨hbacked.termination law hstored hterm, hu.termination law hterm⟩

/-- THE BILL IS EXACT. If a transfer of an amount that is on hold moves all of it,
then in a run from empty storage without updates, as long as a subscription is
stored, what the events report as collected for it since it was
created is the price of the credits it bought less the price of those it has
left, through all discounts, pauses and lost pulses. -/
theorem bill_exact (law : T.currency.Lawful) (pays : T.currency.PaysHeld) {s₀ : State T}
    (hinit : Initial T s₀) {before inputs : List Input}
    (hbefore : ∀ input ∈ before, input.2.isUpdate = false)
    (hinputs : ∀ input ∈ inputs, input.2.isUpdate = false) {params : CreateSubParamsOf}
    (who : AccountId32) (hcaller : ensureSignedOrValidXcmOrigin T origin = .ok who)
    (hcreated : dispatch T env origin (.createSubscription params) (run T before s₀) = (.ok (), t))
    (hkept : Runs.Along (step T) (fun _ u => newSubId T env who params ∈ u.subscriptions) inputs t)
    (hsub : (run T inputs t).subscriptions.lookup (newSubId T env who params) = some sub) :
    billed (newSubId T env who params) (run T inputs t).events +
        calculateSubscriptionFees T.baseFee sub.creditsLeft =
      billed (newSubId T env who params) t.events +
        calculateSubscriptionFees T.baseFee params.credits := by
  have hstep : t = Manager.step T (env, .call origin (.createSubscription params))
      (run T before s₀) := (congrArg Prod.snd hcreated).symm
  have hbacked : FeesBacked t := by
    rw [hstep]
    exact (FeesBacked.run law pays hinit before hbefore).step law pays rfl
  have hown : OwnIds t := by
    rw [hstep]
    exact (OwnIds.run hinit before).step
  have hbill : Bill (newSubId T env who params) (billed (newSubId T env who params) t.events +
      calculateSubscriptionFees T.baseFee params.credits) t := by
    cases dispatch_ok hcreated with
    | created caller bought room fresh fees deposit =>
      cases hcaller.symm.trans caller
      intro sub₀ hsub₀
      cases (Finmap.lookup_insert _).symm.trans hsub₀
      rfl
  refine (Runs.run_invariant_along (Manager.step T) (P := fun u => FeesBacked u ∧ OwnIds u ∧
    Bill (newSubId T env who params) _ u) ⟨hbacked, hown, hbill⟩ hkept ?_).2.2 sub hsub
  rintro input hmem u hid ⟨hbacked, hown, hu⟩
  exact ⟨hbacked.step law pays (hinputs input hmem), hown.step,
    hu.step law pays (hinputs input hmem) hbacked hown hid⟩

section Sample

open IdealNetwork.Runtime

/-- Alice's three credits, one of them lost, have cost what three credits cost. -/
theorem bill_exact_interrupted :
    ∃ sub, (run standalone interrupted threeBought).subscriptions.lookup sampleId = some sub ∧
      billed sampleId (run standalone interrupted threeBought).events +
        calculateSubscriptionFees standalone.baseFee sub.creditsLeft = 8700000 := by
  have hcreated : dispatch standalone (online 1) (.signed alice)
      (.createSubscription (sampleParams 3)) (run standalone [] funded) =
        (.ok (), threeBought) := by
    have hok : (dispatch standalone (online 1) (.signed alice)
      (.createSubscription (sampleParams 3)) funded).1 = .ok () := by decide +kernel
    rw [← hok, threeBought]
    rfl
  obtain ⟨sub, hsub⟩ := Option.isSome_iff_exists.mp (by decide +kernel :
    ((run standalone interrupted threeBought).subscriptions.lookup sampleId).isSome = true)
  have hkept : Runs.Along (step standalone) (fun _ u => sampleId ∈ u.subscriptions) interrupted
      threeBought :=
    ⟨by decide +kernel, by decide +kernel, by decide +kernel, by decide +kernel, trivial⟩
  refine ⟨sub, hsub, ?_⟩
  refine (@bill_exact standalone threeBought (online 1) (.signed alice) sub (plain_lawful _)
    (plain_paysHeld _) funded (initial_genesis _) [] interrupted nofun (by decide) (sampleParams 3)
    alice rfl hcreated hkept hsub).trans ?_
  decide +kernel

end Sample

end IdealNetwork.Manager
