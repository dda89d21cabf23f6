import IdealNetwork.Manager.Charging

/-!
# Storage deposits

A subscription's deposit is a price per byte of its encoded record. It is put
on hold when the record is created, and computed again, from the record as it
then is, when the record is removed. In between the record grows once: the
first delivery fills in `last_delivered`, and four bytes are stored that no
deposit was taken for.

So an account's deposit hold never exceeds what its records cost, and nothing
is left behind when they are gone (`no_stranded_deposit`), but it covers that
cost only as long as no `last_delivered` is filled in, or if a byte costs nothing
(`deposits_covered`).
-/

set_option autoImplicit false

namespace IdealNetwork.Manager

open Scale Storage Holds

variable {T : Config} {s t : State T} {env : Env} {origin : Origin} {pulse : RuntimePulse}
variable {subId : SubscriptionId} {sub sub' : SubscriptionOf}

/-! ## The size of a record -/

theorem length_encode_state (state : SubscriptionState) : (encode state).length = 1 := by
  cases state <;> rfl

/-- Only the details, the metadata and the last delivery vary in size. -/
theorem encodedSize_subscription (sub : SubscriptionOf) :
    encodedSize sub = 61 + (encode sub.details).length + (encode sub.metadata).length +
      (encode sub.lastDelivered).length := by
  have hid : (encode sub.id).length = 32 := Vector.length_toList
  show (encode sub.id ++ encode sub.details ++ encode sub.creditsLeft ++ encode sub.state ++
    encode sub.createdAt ++ encode sub.updatedAt ++ encode sub.credits ++ encode sub.frequency ++
    encode sub.metadata ++ encode sub.lastDelivered).length = _
  simp only [List.length_append, hid, length_encode_state, length_encode_u32, length_encode_u64]
  omega

/-- A record that keeps its variable parts keeps its deposit. -/
theorem calculateStorageDeposit_congr (hdetails : sub'.details = sub.details)
    (hmetadata : sub'.metadata = sub.metadata)
    (hdelivered : (encode sub'.lastDelivered).length = (encode sub.lastDelivered).length) :
    calculateStorageDeposit T sub' = calculateStorageDeposit T sub := by
  rw [calculateStorageDeposit, calculateStorageDeposit, encodedSize_subscription,
    encodedSize_subscription, hdetails, hmetadata, hdelivered]

/-- A delivery never makes a record cheaper. -/
theorem calculateStorageDeposit_delivered (hdetails : sub'.details = sub.details)
    (hmetadata : sub'.metadata = sub.metadata) {block : BlockNumber}
    (hdelivered : sub'.lastDelivered = some block) :
    calculateStorageDeposit T sub ≤ calculateStorageDeposit T sub' := by
  refine saturatingMul128_mono (min_le_min_right _ ?_)
  have hle : (encode sub.lastDelivered).length ≤ (encode sub'.lastDelivered).length := by
    rw [hdelivered, length_encode_some, length_encode_u32]
    cases sub.lastDelivered with
    | none =>
      rw [length_encode_none]
      omega
    | some b => rw [length_encode_some, length_encode_u32]
  rw [encodedSize_subscription, encodedSize_subscription, hdetails, hmetadata]
  omega

/-! ## What a step does to an account -/

/-- An account's deposit hold, and what its records cost. -/
structure DepositAccount where
  held : ℕ
  cost : ℕ

/-- The movements of a deposit account. Only a distribution lets a cost grow with
nothing put on hold for it. -/
inductive DepositMove (distributing : Prop) (a b : DepositAccount) : Prop
  | taken {d : ℕ} (held : b.held = a.held + d) (cost : b.cost = a.cost + d)
  | returned {d : ℕ} (held : b.held + min d a.held = a.held) (cost : b.cost + d = a.cost)
  | grown {d : ℕ} (held : b.held = a.held) (cost : b.cost = a.cost + d)
      (when : d = 0 ∨ distributing)

/-- What is held never comes to exceed the cost. -/
theorem DepositMove.held_le {distributing : Prop} {a b : DepositAccount}
    (h : DepositMove distributing a b) (hle : a.held ≤ a.cost) : b.held ≤ b.cost := by
  cases h <;> omega

/-- Outside of a distribution, what is held covers the cost. -/
theorem DepositMove.cost_le {distributing : Prop} {a b : DepositAccount}
    (h : DepositMove distributing a b) (hnot : ¬ distributing) (hle : a.cost ≤ a.held) :
    b.cost ≤ b.held := by
  cases h with
  | taken held cost => omega
  | returned held cost => omega
  | grown held cost when =>
    have hzero := when.resolve_right hnot
    omega

/-- The deposit account of an account. -/
def depositAccount (s : State T) (who : AccountId32) : DepositAccount where
  held := onHold s .storageDeposit who
  cost := owed (calculateStorageDeposit T) who s

variable {who : AccountId32}

/-- Rewriting a record at the same cost, or a higher one. -/
theorem depositMove_rewrite {distributing : Prop} (hheld : onHold t .storageDeposit who =
      onHold s .storageDeposit who) (ht : t.subscriptions = s.subscriptions.insert subId sub')
    (hstored : s.subscriptions.lookup subId = some sub) (hdetails : sub'.details = sub.details)
    (hle : calculateStorageDeposit T sub ≤ calculateStorageDeposit T sub')
    (hwhen : calculateStorageDeposit T sub' = calculateStorageDeposit T sub ∨ distributing) :
    DepositMove distributing (depositAccount s who) (depositAccount t who) := by
  have howed := owed_rewrite (calculateStorageDeposit T) who hstored hdetails ht
  by_cases hw : who = sub.details.subscriber
  · simp only [hw, if_true] at howed
    refine .grown (d := calculateStorageDeposit T sub' - calculateStorageDeposit T sub) hheld ?_ ?_
    · show owed _ who t = owed _ who s + _
      rw [hw]
      omega
    · exact hwhen.imp_left fun heq => by omega
  · simp only [hw, if_false, Nat.add_zero] at howed
    exact .grown (d := 0) hheld howed (Or.inl rfl)

/-- Rewriting the parts of a record whose size is fixed. -/
theorem depositMove_same {distributing : Prop} (hheld : onHold t .storageDeposit who =
      onHold s .storageDeposit who) (ht : t.subscriptions = s.subscriptions.insert subId sub')
    (hstored : s.subscriptions.lookup subId = some sub) (hdetails : sub'.details = sub.details)
    (hmetadata : sub'.metadata = sub.metadata)
    (hdelivered : (encode sub'.lastDelivered).length = (encode sub.lastDelivered).length) :
    DepositMove distributing (depositAccount s who) (depositAccount t who) := by
  have hcost : calculateStorageDeposit T sub' = calculateStorageDeposit T sub :=
    calculateStorageDeposit_congr hdetails hmetadata hdelivered
  exact depositMove_rewrite hheld ht hstored hdetails hcost.ge (Or.inl hcost)

theorem depositMove_removed (law : T.currency.Lawful) {L₁ L₂ : T.currency.Ledger} {m : ℕ}
    (hstored : s.subscriptions.lookup subId = some sub)
    (hfees : FeesSettled T sub.details.subscriber
      (calculateDiffFees T.baseFee sub.creditsLeft 0) s.ledger L₁)
    (hdeposit : T.currency.release .storageDeposit sub.details.subscriber
      (calculateStorageDeposit T sub) .bestEffort L₁ = .ok (m, L₂)) :
    DepositMove False (depositAccount s who) (depositAccount (removed subId L₂ s) who) := by
  have hheld := (removed_balanced law subId hfees hdeposit who).2
  have howed := owed_removed (calculateStorageDeposit T) who hstored L₂
  by_cases hw : who = sub.details.subscriber
  · simp only [hw, if_true] at hheld howed
    refine .returned (d := calculateStorageDeposit T sub) ?_ ?_
    · show onHold _ _ who + min _ (onHold s _ who) = onHold s _ who
      rw [hw]
      exact hheld.symm
    · show owed _ who _ + _ = owed _ who s
      rw [hw]
      exact howed
  · simp only [hw, if_false, Nat.add_zero] at hheld howed
    exact .grown (d := 0) hheld.symm howed (Or.inl rfl)

theorem CallEffect.depositMove (law : T.currency.Lawful) {call : Call}
    (hcall : ∀ params, call ≠ .updateSubscription params)
    (heffect : CallEffect T env origin s call t) :
    DepositMove False (depositAccount s who) (depositAccount t who) := by
  cases heffect with
  | @created params subscriber L₁ L₂ caller bought room fresh fees deposit =>
    refine .taken (created_balanced law _ fees deposit who).2 ?_
    show owed _ who (Manager.created _ L₂ s) = _
    rw [owed_created]
    · rfl
    · exact fresh
  | paused caller stored owner active => exact depositMove_same rfl rfl stored rfl rfl rfl
  | reactivated caller stored owner paused => exact depositMove_same rfl rfl stored rfl rfl rfl
  | killed caller stored owner fees deposit => exact depositMove_removed law stored fees deposit
  | updated caller stored owner live fees => exact absurd rfl (hcall _)
  | quoted => exact .grown (d := 0) rfl rfl (Or.inl rfl)
  | informed => exact .grown (d := 0) rfl rfl (Or.inl rfl)

theorem Termination.depositMove (law : T.currency.Lawful)
    (hstored : s.subscriptions.lookup subId = some sub) (hterm : Termination T subId sub s t) :
    DepositMove False (depositAccount s who) (depositAccount t who) := by
  cases hterm with
  | completed fees deposit => exact depositMove_removed law hstored fees deposit
  | failed failed =>
    rw [← terminateSubscription_fails law failed]
    exact .grown (d := 0) rfl rfl (Or.inl rfl)

/-- An iteration moves no deposit. -/
theorem Iteration.onHold_storageDeposit (law : T.currency.Lawful)
    (hiter : Iteration T env pulse subId sub s t) :
    onHold t .storageDeposit who = onHold s .storageDeposit who := by
  obtain ⟨r, _, hcharge, hledger, _⟩ := hiter.charges
  rw [(hcharge.balanced law who).2, onHold, hledger, onHold]

theorem Iteration.depositMove (law : T.currency.Lawful)
    (hstored : s.subscriptions.lookup subId = some sub)
    (hiter : Iteration T env pulse subId sub s t) :
    DepositMove True (depositAccount s who) (depositAccount t who) := by
  have hheld : onHold t .storageDeposit who = onHold s .storageDeposit who :=
    hiter.onHold_storageDeposit law
  obtain ⟨sub', ht, hdetails, hmetadata, hdelivered | ⟨_, hdelivered⟩⟩ := hiter.subscriptions
  · exact depositMove_same hheld ht hstored hdetails hmetadata (by rw [hdelivered])
  · exact depositMove_rewrite hheld ht hstored hdetails
      (calculateStorageDeposit_delivered hdetails hmetadata hdelivered) (Or.inr trivial)

/-! ## Runs -/

/-- The step does not fill in the `last_delivered` of a subscription, those it
distributes to and that had none having none afterwards; or bytes are free. -/
def NoFirstDelivery (T : Config) (input : Input) (s : State T) : Prop :=
  ∀ pulse, input.2 = .distribute pulse → ∀ subId sub sub',
    s.subscriptions.lookup subId = some sub →
    (step T input s).subscriptions.lookup subId = some sub' →
    sub.lastDelivered = none → sub'.lastDelivered = none ∨ T.sdMultiplier = 0

theorem calculateStorageDeposit_free (h : T.sdMultiplier = 0) (sub : SubscriptionOf) :
    calculateStorageDeposit T sub = 0 := by
  rw [calculateStorageDeposit, h, saturatingMul128, Nat.zero_mul, Nat.zero_min]

/-- A distribution that fills in no `last_delivered` leaves every record its cost. -/
theorem owed_distribute (hnone : NoFirstDelivery T (env, .distribute pulse) s) :
    owed (calculateStorageDeposit T) who (distribute T env pulse s) =
      owed (calculateStorageDeposit T) who s := by
  refine sum_congr fun id => ?_
  cases hstored : s.subscriptions.lookup id with
  | none =>
    rw [distribute_observe_none (f := fun u : State T => u.subscriptions.lookup id) env pulse
      (fun j v u hne => distributeOne_own T env pulse j v u id hne.symm) hstored, hstored]
  | some sub =>
    have hiter := distributeOne_cases env pulse id sub (reached T env pulse id s)
    obtain ⟨sub', ht, hdetails, hmetadata, hdelivered⟩ := hiter.subscriptions
    have hafter : (distribute T env pulse s).subscriptions.lookup id = some sub' := by
      rw [(distribute_lookup env pulse hstored).2, left, ht]
      exact Finmap.lookup_insert _
    have hcost : calculateStorageDeposit T sub' = calculateStorageDeposit T sub := by
      rcases hdelivered with hsame | ⟨_, hfilled⟩
      · exact calculateStorageDeposit_congr hdetails hmetadata (by rw [hsame])
      · cases hlast : sub.lastDelivered with
        | none =>
          rcases hnone pulse rfl id sub sub' hstored hafter hlast with hsame | hfree
          · exact calculateStorageDeposit_congr hdetails hmetadata (by rw [hsame, hlast])
          · rw [calculateStorageDeposit_free hfree, calculateStorageDeposit_free hfree]
        | some block =>
          -- a later delivery writes over a block number of the same size
          refine calculateStorageDeposit_congr hdetails hmetadata ?_
          rw [hfilled, hlast, length_encode_some, length_encode_some, length_encode_u32,
            length_encode_u32]
    rw [hafter, Option.elim_some, Option.elim_some, hdetails, hcost]

/-- A step without an update moves every deposit account, and grows a cost
only in a distribution. -/
theorem depositAccount_step (law : T.currency.Lawful) {P : DepositAccount → Prop} {input : Input}
    (hinput : input.2.isUpdate = false)
    (keeps : ∀ {distributing a b}, DepositMove distributing a b →
      (distributing → ∃ pulse, input.2 = .distribute pulse) → P a → P b)
    (h : P (depositAccount s who)) : P (depositAccount (step T input s) who) := by
  refine step_invariant (P := fun u => P (depositAccount u who)) input h ?_ ?_ ?_
  · intro origin call t hop heffect
    refine keeps (heffect.depositMove law fun params hcall => ?_) False.elim h
    rw [hop, hcall] at hinput
    cases hinput
  · intro pulse subId sub u v hop _ hstored hiter hu
    exact keeps (hiter.depositMove law hstored) (fun _ => ⟨pulse, hop⟩) hu
  · intro subId sub u v hstored _ hterm hu
    exact keeps (hterm.depositMove law hstored) False.elim hu

/-- So does a distribution that fills in no `last_delivered`, which moves none. -/
theorem depositAccount_distribute (law : T.currency.Lawful)
    (hnone : NoFirstDelivery T (env, .distribute pulse) s) :
    depositAccount (distribute T env pulse s) who = depositAccount s who := by
  have hheld : onHold (distribute T env pulse s) .storageDeposit who =
      onHold s .storageDeposit who :=
    distribute_invariant (P := fun u => onHold u .storageDeposit who = onHold s .storageDeposit who)
      rfl fun _ _ hiter hu => (hiter.onHold_storageDeposit law).trans hu
  rw [depositAccount, hheld, owed_distribute hnone, depositAccount]

theorem depositAccount_initial (h : Initial T s) (who : AccountId32) :
    depositAccount s who = ⟨0, 0⟩ := by
  rw [depositAccount, onHold, h.held, owed_initial _ _ h]

/-- STORED SUBSCRIPTIONS ARE COLLATERALISED, short of a first delivery. In
every run from empty storage without updates in which no distribution fills in
the `last_delivered` of a subscription, or bytes are free, every account's deposit
hold covers what its stored records cost. -/
theorem deposits_covered (law : T.currency.Lawful) {s₀ : State T} (hinit : Initial T s₀)
    (inputs : List Input) (hinputs : ∀ input ∈ inputs, input.2.isUpdate = false)
    (hfirst : Runs.Along (step T) (NoFirstDelivery T) inputs s₀) (who : AccountId32) :
    owed (calculateStorageDeposit T) who (run T inputs s₀) ≤
      onHold (run T inputs s₀) .storageDeposit who := by
  refine Runs.run_invariant_along (step T) (P := fun u =>
    (depositAccount u who).cost ≤ (depositAccount u who).held) ?_ hfirst ?_
  · rw [depositAccount_initial hinit]
  · rintro ⟨env, op⟩ hmem u hcond hu
    cases op with
    | distribute pulse =>
      show (depositAccount (distribute T env pulse u) who).cost ≤ _
      rw [step, depositAccount_distribute law hcond]
      exact hu
    | call origin call =>
      exact depositAccount_step law (P := fun a => a.cost ≤ a.held) (hinputs _ hmem)
        (fun hmove hwhen => hmove.cost_le fun hdist => by cases (hwhen hdist).choose_spec) hu
    | onFinalize =>
      exact depositAccount_step law (P := fun a => a.cost ≤ a.held) (hinputs _ hmem)
        (fun hmove hwhen => hmove.cost_le fun hdist => by cases (hwhen hdist).choose_spec) hu

section Sample

open IdealNetwork.Runtime

/-- Alice buys three credits and pauses; the next pulse finds nothing to do. -/
def pausedBefore : List Input :=
  [(online 1, .call (.signed alice) (.createSubscription (sampleParams 3))),
    (online 1, .call (.signed alice) (.pauseSubscription sampleId))]

def pausedThrough : List Input := pausedBefore ++ [(online 2, .distribute samplePulse)]

theorem deposits_covered_pausedThrough :
    0 < owed (calculateStorageDeposit standalone) alice (run standalone pausedThrough funded) ∧
      owed (calculateStorageDeposit standalone) alice (run standalone pausedThrough funded) ≤
        onHold (run standalone pausedThrough funded) .storageDeposit alice := by
  have hnever : ∀ e ∈ iter standalone.hasher (step standalone (online 2, .distribute samplePulse)
      (Runs.run (step standalone) pausedBefore funded)).subscriptions,
      e.2.lastDelivered = none := by decide +kernel
  refine ⟨by decide +kernel, deposits_covered (plain_lawful _) (initial_genesis _) pausedThrough
    (by decide) ?_ alice⟩
  refine (Runs.along_append _).mpr
    ⟨⟨nofun, nofun, trivial⟩, fun pulse _ subId sub sub' _ hafter _ => ?_, trivial⟩
  exact Or.inl (hnever (subId, sub') (mem_iter.mpr hafter))

/-- Alice buys three credits and is served. -/
def firstServed : State standalone :=
  run standalone
    [(online 1, .call (.signed alice) (.createSubscription (sampleParams 3))),
      (online 2, .distribute samplePulse)] funded

/-- The four bytes of the block number are not paid for. -/
theorem deposit_short_firstServed :
    onHold firstServed .storageDeposit alice = 10400 ∧
      owed (calculateStorageDeposit standalone) alice firstServed = 10800 :=
  ⟨by decide +kernel, by decide +kernel⟩

end Sample

/-- Without updates, the deposits on hold are at most what the stored records
cost. -/
theorem deposit_le_owed (law : T.currency.Lawful) {s₀ : State T} (hinit : Initial T s₀)
    {inputs : List Input} (hinputs : ∀ input ∈ inputs, input.2.isUpdate = false)
    (who : AccountId32) :
    onHold (run T inputs s₀) .storageDeposit who ≤
      owed (calculateStorageDeposit T) who (run T inputs s₀) := by
  refine Runs.run_invariant (step T) (P := fun u =>
    (depositAccount u who).held ≤ (depositAccount u who).cost) ?_ ?_
  · rw [depositAccount_initial hinit]
  · intro input hmem u hu
    exact depositAccount_step law (P := fun a => a.held ≤ a.cost) (hinputs input hmem)
      (fun hmove _ => hmove.held_le) hu

/-- NO DEPOSIT IS STRANDED. In every run from empty storage without updates,
every account's deposit hold is at most what its stored records cost, and an
account none of whose subscriptions is left has nothing on hold. -/
theorem no_stranded_deposit (law : T.currency.Lawful) {s₀ : State T} (hinit : Initial T s₀)
    (inputs : List Input) (hinputs : ∀ input ∈ inputs, input.2.isUpdate = false)
    (who : AccountId32) :
    onHold (run T inputs s₀) .storageDeposit who ≤
        owed (calculateStorageDeposit T) who (run T inputs s₀) ∧
      ((∀ subId sub, (run T inputs s₀).subscriptions.lookup subId = some sub →
          sub.details.subscriber ≠ who) →
        onHold (run T inputs s₀) .storageDeposit who = 0) := by
  have hle := deposit_le_owed law hinit hinputs who
  refine ⟨hle, fun hnone => ?_⟩
  rw [owed_eq_zero _ _ hnone] at hle
  exact Nat.le_zero.mp hle

section Sample

open IdealNetwork.Runtime

/-- Alice buys three credits, is served, and kills the subscription. -/
def servedAndKilled : List Input :=
  [(online 1, .call (.signed alice) (.createSubscription (sampleParams 3))),
    (online 2, .distribute samplePulse),
    (online 3, .call (.signed alice) (.killSubscription sampleId))]

theorem no_stranded_deposit_servedAndKilled :
    onHold (run standalone servedAndKilled funded) .storageDeposit alice = 0 := by
  have hnone : ∀ e ∈ iter standalone.hasher
      (run standalone servedAndKilled funded).subscriptions, e.2.details.subscriber ≠ alice := by
    decide +kernel
  exact (no_stranded_deposit (plain_lawful _) (initial_genesis _) servedAndKilled (by decide)
    alice).2 fun subId sub hstored => hnone (subId, sub) (mem_iter.mpr hstored)

end Sample

end IdealNetwork.Manager
