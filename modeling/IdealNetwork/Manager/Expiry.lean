import IdealNetwork.Manager.Deposits
import IdealNetwork.Manager.Finalizing

/-!
# Subscriptions end

Every distribution costs every stored subscription a credit, a pulse or none,
paid for or not, with one exception: a delivery that could not be paid for costs
nothing, and pauses the subscription. Being paused is then the cost, and only
the owner can undo it. So each distribution uses up a part of the life a
subscription has left (`lifeLeft`), whatever its environment does, and only a
reactivation that succeeds gives a part back. An update does not: the credits it
adds are never left.

A subscription is therefore finalized after a number of distributions that is
known when it is created (`lives_bounded`). The hook removes what is finalized,
so a chain whose blocks bring pulses and no calls has no subscription after a
number of them, and when nothing was ever updated, nothing on hold
(`store_drains`).
-/

set_option autoImplicit false

namespace IdealNetwork.Manager

open Storage Holds

variable {T : Config} {s t : State T} {env : Env} {origin : Origin} {input : Input}
variable {id : SubscriptionId} {sub sub' : SubscriptionOf} {n : ℕ}

/-! ## The life of a record -/

/-- How many distributions a subscription can outlast, and one more: one for each
credit, at least one, and one for being active. -/
def lifeLeft (sub : SubscriptionOf) : ℕ :=
  if sub.state = .finalized then 0
  else max 1 sub.creditsLeft.toNat + if sub.state = .active then 1 else 0

theorem lifeLeft_eq_zero : lifeLeft sub = 0 ↔ sub.state = .finalized := by
  unfold lifeLeft
  split
  next h => exact iff_of_true rfl h
  next h => exact iff_of_false (by omega) h

theorem lifeLeft_of_active (h : sub.state = .active) :
    lifeLeft sub = max 1 sub.creditsLeft.toNat + 1 := by
  rw [lifeLeft, if_neg (live_of_active h), if_pos h]

theorem lifeLeft_of_paused (h : sub.state = .paused) :
    lifeLeft sub = max 1 sub.creditsLeft.toNat := by
  rw [lifeLeft, if_neg (live_of_paused h), if_neg (by rw [h]; nofun), Nat.add_zero]

theorem finalizeIfExhausted_of_finalized (h : sub.state = .finalized) :
    (finalizeIfExhausted sub).state = .finalized := by
  rw [(finalizeIfExhausted_cases sub).resolve_right fun hnot => hnot.1 h, h]

theorem lifeLeft_le_of_credits (h : sub.creditsLeft.toNat ≤ n) : lifeLeft sub ≤ max 1 n + 1 := by
  unfold lifeLeft
  split
  next => exact Nat.zero_le _
  next => split <;> omega

/-- The end of an iteration leaves no more life than there are credits, and one
for being active. -/
theorem lifeLeft_finalizeIfExhausted (sub : SubscriptionOf) :
    lifeLeft (finalizeIfExhausted sub) ≤
      sub.creditsLeft.toNat + if sub.state = .active then 1 else 0 := by
  rcases finalizeIfExhausted_cases sub with hsame | ⟨_, _, hfinal⟩
  · by_cases hzero : sub.creditsLeft.toNat = 0
    · have hfinal := finalizeIfExhausted_state sub
        (by rw [finalizeIfExhausted_creditsLeft, hzero])
      rw [lifeLeft_eq_zero.mpr hfinal]
      exact Nat.zero_le _
    · rw [hsame, lifeLeft]
      split
      next => exact Nat.zero_le _
      next => omega
  · rw [hfinal, lifeLeft_eq_zero.mpr rfl]
    exact Nat.zero_le _

/-- The operation is a distribution. -/
def Op.isDistribute : Op → Bool
  | .distribute _ => true
  | _ => false

/-- The step is a reactivation of the subscription, and it succeeds. -/
def reactivates (T : Config) (id : SubscriptionId) (input : Input) (s : State T) : Bool :=
  match input.2 with
  | .call origin (.reactivateSubscription subId) =>
    subId = id && (dispatch T input.1 origin (.reactivateSubscription subId) s).1.isOk
  | _ => false

/-- A reactivation that does not succeed does nothing. -/
theorem reactivates_of_changed (hop : input.2 = .call origin (.reactivateSubscription id))
    (hchanged : step T input s ≠ s) : reactivates T id input s = true := by
  obtain ⟨env, _⟩ := input
  cases hop
  show (decide (id = id) && _) = true
  rw [decide_eq_true rfl, Bool.true_and]
  cases hresult : (dispatch T env origin (.reactivateSubscription id) s).1 with
  | ok u => rfl
  | error e => exact absurd (dispatch_failed (by rw [hresult]; nofun)) hchanged

/-- A finalized subscription stays so until it is removed. -/
theorem RecordStep.stays_finalized {after : Option SubscriptionOf} {pulses : ℕ}
    (h : RecordStep T input s id (some sub) after pulses) (hfinal : sub.state = .finalized) :
    ∀ sub', after = some sub' → sub'.state = .finalized := by
  cases h with
  | untouched =>
    rintro _ ⟨⟩
    exact hfinal
  | paused op owner active => exact absurd hfinal (live_of_active active)
  | reactivated op owner paused => exact absurd hfinal (live_of_paused paused)
  | updated op named owner live => exact absurd hfinal (live.elim live_of_active live_of_paused)
  | killed op owner => nofun
  | unpaid op due failed => exact absurd hfinal (live_of_active due.1)
  | unsent op due lost => exact absurd hfinal (live_of_active due.1)
  | delivered op due taken => exact absurd hfinal (live_of_active due.1)
  | idle op notDue =>
    rintro _ ⟨⟩
    exact finalizeIfExhausted_of_finalized hfinal
  | terminated op final => nofun

/-- Anything but a distribution leaves a subscription its life, and only a
successful reactivation gives it more. -/
theorem RecordStep.lifeLeft_le {pulses : ℕ}
    (h : RecordStep T input s id (some sub) (some sub') pulses)
    (hop : input.2.isDistribute = false) (hchanged : step T input s ≠ s) :
    lifeLeft sub' ≤ lifeLeft sub + (reactivates T id input s).toNat := by
  cases h with
  | untouched => exact Nat.le_add_right _ _
  | paused op owner active =>
    rw [lifeLeft_of_paused rfl, lifeLeft_of_active active, Nat.add_assoc]
    exact Nat.le_add_right _ _
  | reactivated op owner paused =>
    rw [reactivates_of_changed op hchanged, lifeLeft_of_active rfl, lifeLeft_of_paused paused]
    exact le_rfl
  | updated op named owner live => exact Nat.le_add_right _ _
  | unpaid op due failed => exact absurd hop (by rw [op]; nofun)
  | unsent op due lost => exact absurd hop (by rw [op]; nofun)
  | delivered op due taken => exact absurd hop (by rw [op]; nofun)
  | idle op notDue => exact absurd hop (by rw [op]; nofun)

/-- An iteration takes a part of the life of its subscription, however it goes. -/
theorem Iteration.lifeLeft_lt {pulse : RuntimePulse} (h : Iteration T env pulse id sub s t) :
    ∃ sub', t.subscriptions.lookup id = some sub' ∧ lifeLeft sub' ≤ lifeLeft sub - 1 := by
  have hspent := toNat_creditsLeft_spent sub
  cases h with
  | unpaid due charge =>
    refine ⟨_, Finmap.lookup_insert _, ?_⟩
    rw [lifeLeft_of_paused rfl, lifeLeft_of_active due.1]
    exact le_rfl
  | unsent due charge lost =>
    refine ⟨_, Finmap.lookup_insert _, ?_⟩
    rw [lifeLeft_of_paused rfl, lifeLeft_of_active due.1]
    show max 1 (sub.creditsLeft.saturatingSub 1).toNat ≤ _
    omega
  | delivered due charge made taken =>
    refine ⟨_, Finmap.lookup_insert _, ?_⟩
    refine (lifeLeft_finalizeIfExhausted (recordDelivery env sub)).trans ?_
    show (sub.creditsLeft.saturatingSub 1).toNat + (if sub.state = .active then 1 else 0) ≤ _
    rw [if_pos due.1, lifeLeft_of_active due.1]
    omega
  | idle notDue charge =>
    refine ⟨_, Finmap.lookup_insert _, ?_⟩
    have hidle := lifeLeft_finalizeIfExhausted (recordIdle sub)
    change _ ≤ (sub.creditsLeft.saturatingSub 1).toNat + (if sub.state = .active then 1 else 0)
      at hidle
    cases hstate : sub.state with
    | active =>
      rw [if_pos hstate] at hidle
      rw [lifeLeft_of_active hstate]
      omega
    | paused =>
      rw [if_neg (by rw [hstate]; nofun)] at hidle
      rw [lifeLeft_of_paused hstate]
      omega
    | finalized =>
      have hstays : (finalizeIfExhausted (recordIdle sub)).state = .finalized :=
        finalizeIfExhausted_of_finalized hstate
      rw [lifeLeft_eq_zero.mpr hstays]
      exact Nat.zero_le _

/-- A distribution takes a part of the life of every stored subscription. -/
theorem distribute_lifeLeft (env : Env) (pulse : RuntimePulse)
    (hstored : s.subscriptions.lookup id = some sub) :
    ∃ sub', (distribute T env pulse s).subscriptions.lookup id = some sub' ∧
      lifeLeft sub' ≤ lifeLeft sub - 1 := by
  obtain ⟨t, hiter, hlookup, _⟩ := distribute_iteration env pulse hstored
  rw [hlookup]
  exact hiter.lifeLeft_lt

/-! ## The life of a subscription -/

/-- The life left under an id: none where nothing is stored. -/
def life (id : SubscriptionId) (s : State T) : ℕ := (s.subscriptions.lookup id).elim 0 lifeLeft

theorem life_of_stored (h : s.subscriptions.lookup id = some sub) : life id s = lifeLeft sub := by
  rw [life, h, Option.elim_some]

/-- THE LIFE RULE. A step ends the life of no subscription twice, takes a part
of it if it is a distribution, and gives a part back only if it is a reactivation
that succeeds. -/
theorem step_life (input : Input) (hid : id ∈ s.subscriptions) :
    (life id s = 0 → life id (step T input s) = 0) ∧
      (life id s ≠ 0 → life id (step T input s) + input.2.isDistribute.toNat ≤
        life id s + (reactivates T id input s).toNat) := by
  obtain ⟨sub, hsub⟩ := Finmap.mem_iff.mp hid
  rw [life_of_stored hsub]
  obtain ⟨env, op⟩ := input
  cases hop : op.isDistribute with
  | true =>
    cases op with
    | distribute pulse =>
      obtain ⟨sub', hsub', hle⟩ := distribute_lifeLeft env pulse hsub
      have hlife : life id (step T (env, .distribute pulse) s) = lifeLeft sub' :=
        life_of_stored hsub'
      rw [hlife]
      refine ⟨fun hzero => by omega, fun hpos => ?_⟩
      show lifeLeft sub' + 1 ≤ lifeLeft sub + 0
      omega
    | call origin call => cases hop
    | onFinalize => cases hop
  | false =>
    show (lifeLeft sub = 0 → life id (step T (env, op) s) = 0) ∧
      (lifeLeft sub ≠ 0 → life id (step T (env, op) s) + 0 ≤ _)
    by_cases hchanged : step T (env, op) s = s
    · rw [hchanged, life_of_stored hsub]
      exact ⟨fun hzero => hzero, fun _ => Nat.le_add_right _ _⟩
    obtain ⟨pulses, hrecord, _⟩ := step_record T (env, op) s id
    rw [hsub] at hrecord
    cases hsub' : (step T (env, op) s).subscriptions.lookup id with
    | none =>
      rw [life, hsub', Option.elim_none]
      exact ⟨fun _ => rfl, fun _ => Nat.zero_le _⟩
    | some sub' =>
      rw [hsub'] at hrecord
      rw [life_of_stored hsub']
      exact ⟨fun hzero => lifeLeft_eq_zero.mpr
        (hrecord.stays_finalized (lifeLeft_eq_zero.mp hzero) sub' rfl),
        fun _ => hrecord.lifeLeft_le hop hchanged⟩

/-- SUBSCRIPTIONS END. As long as a subscription is stored and not finalized, it
has seen no more distributions than the credits it was created with and the
successful reactivations since, whatever else is called, collected and sent. -/
theorem lives_bounded {params : CreateSubParamsOf} (who : AccountId32)
    (hcaller : ensureSignedOrValidXcmOrigin T origin = .ok who)
    (hcreated : dispatch T env origin (.createSubscription params) s = (.ok (), t))
    (inputs : List Input)
    (hkept : Runs.Along (step T) (fun _ u => newSubId T env who params ∈ u.subscriptions) inputs t)
    (hsub : (run T inputs t).subscriptions.lookup (newSubId T env who params) = some sub)
    (hlive : sub.state ≠ .finalized) :
    inputs.countP (fun input => input.2.isDistribute) ≤ params.credits.toNat +
      Runs.count (step T) (reactivates T (newSubId T env who params)) inputs t := by
  have hstart : life (newSubId T env who params) t = params.credits.toNat + 1 := by
    cases dispatch_ok hcreated with
    | created caller bought room fresh fees deposit =>
      cases hcaller.symm.trans caller
      have hpos : params.credits.toNat ≠ 0 := fun h => bought (UInt64.toNat_inj.mp h)
      rw [life_of_stored (Finmap.lookup_insert _), lifeLeft_of_active rfl]
      show max 1 params.credits.toNat + 1 = _
      omega
  have hend : life (newSubId T env who params) (run T inputs t) ≠ 0 := by
    rw [life_of_stored hsub]
    exact fun hzero => hlive (lifeLeft_eq_zero.mp hzero)
  have hbound := Runs.run_potential (step T) hkept
    (fun input u hid => (step_life input hid).1) (fun input u hid => (step_life input hid).2)
    hend
  unfold run at hend
  omega

section Sample

open IdealNetwork.Runtime

/-- Alice's subscription of one credit, just created. -/
def oneBought : State standalone :=
  (dispatch standalone (online 1) (.signed alice) (.createSubscription (sampleParams 1)) funded).2

/-- Its pulse is lost, it is reactivated, by the treasury to no effect and by
Alice, and the next one is lost. -/
def lostTwice : List Input :=
  [(offline 2, .distribute samplePulse),
    (online 3, .call (.signed treasuryAccount) (.reactivateSubscription sampleId)),
    (online 3, .call (.signed alice) (.reactivateSubscription sampleId)),
    (offline 4, .distribute samplePulse)]

/-- It has seen two distributions and is not finalized, which is as many as one
credit and one successful reactivation allow. -/
theorem lives_bounded_lostTwice :
    Runs.count (step standalone) (reactivates standalone sampleId) lostTwice oneBought = 1 ∧
      lostTwice.countP (fun input => input.2.isDistribute) ≤ (sampleParams 1).credits.toNat +
        Runs.count (step standalone) (reactivates standalone sampleId) lostTwice oneBought := by
  have hcreated : dispatch standalone (online 1) (.signed alice)
      (.createSubscription (sampleParams 1)) funded = (.ok (), oneBought) := by
    have hok : (dispatch standalone (online 1) (.signed alice)
      (.createSubscription (sampleParams 1)) funded).1 = .ok () := by decide +kernel
    rw [← hok, oneBought]
  obtain ⟨sub, hsub, hpaused⟩ : ∃ sub,
      (run standalone lostTwice oneBought).subscriptions.lookup sampleId = some sub ∧
        sub.state = .paused :=
    Option.map_eq_some_iff.mp (by decide +kernel)
  have hkept : Runs.Along (step standalone) (fun _ u => sampleId ∈ u.subscriptions) lostTwice
      oneBought :=
    ⟨by decide +kernel, by decide +kernel, by decide +kernel, by decide +kernel, trivial⟩
  have hbound := @lives_bounded standalone _ _ (online 1) (.signed alice) sub
    (sampleParams 1) alice rfl hcreated lostTwice hkept hsub (live_of_paused hpaused)
  have hid : newSubId standalone (online 1) alice (sampleParams 1) = sampleId := rfl
  rw [hid] at hbound
  exact ⟨by decide +kernel, hbound⟩

end Sample

/-! ## A chain left to its blocks -/

/-- The pulse of a block without calls to the pallet, if one is distributed. -/
def pulseOf (block : Env × Option RuntimePulse) : List Input :=
  (block.2.map fun pulse => (block.1, Op.distribute pulse)).toList

/-- One block without calls to the pallet: its pulse is distributed, if there is
one, and the hook runs. -/
def quietBlock (block : Env × Option RuntimePulse) : List Input :=
  pulseOf block ++ [(block.1, .onFinalize)]

/-- Blocks without calls to the pallet. -/
def quiet (blocks : List (Env × Option RuntimePulse)) : List Input := blocks.flatMap quietBlock

/-- In how many of the blocks a pulse is distributed. -/
def pulseCount (blocks : List (Env × Option RuntimePulse)) : ℕ :=
  blocks.countP fun block => block.2.isSome

/-- No stored subscription has more than `n` of life left. -/
def LivesWithin (n : ℕ) (s : State T) : Prop :=
  ∀ id sub, s.subscriptions.lookup id = some sub → lifeLeft sub ≤ n

theorem mem_distribute (env : Env) (pulse : RuntimePulse) :
    id ∈ (distribute T env pulse s).subscriptions ↔ id ∈ s.subscriptions := by
  rw [← Finmap.lookup_isSome, ← Finmap.lookup_isSome]
  cases hstored : s.subscriptions.lookup id with
  | none =>
    rw [distribute_observe_none (f := fun u : State T => u.subscriptions.lookup id) env pulse
      (fun j v u hne => distributeOne_own T env pulse j v u id hne.symm) hstored, hstored]
  | some sub =>
    obtain ⟨sub', hsub', _⟩ := distribute_lifeLeft env pulse hstored
    rw [hsub', Option.isSome_some, Option.isSome_some]

theorem keys_pulseOf (block : Env × Option RuntimePulse) :
    (run T (pulseOf block) s).subscriptions.keys = s.subscriptions.keys := by
  obtain ⟨env, _ | pulse⟩ := block
  · rfl
  · ext id
    rw [Finmap.mem_keys, Finmap.mem_keys]
    exact mem_distribute env pulse

theorem LivesWithin.distribute (h : LivesWithin n s) (env : Env) (pulse : RuntimePulse) :
    LivesWithin (n - 1) (distribute T env pulse s) := by
  intro id sub' hsub'
  obtain ⟨sub, hsub⟩ := Finmap.mem_iff.mp
    ((mem_distribute env pulse).mp (Finmap.mem_of_lookup_eq_some hsub'))
  obtain ⟨sub'', hsub'', hle⟩ := distribute_lifeLeft env pulse hsub
  cases hsub'.symm.trans hsub''
  exact hle.trans (Nat.sub_le_sub_right (h id sub hsub) 1)

/-- What the hook leaves was stored before. -/
theorem LivesWithin.onFinalize (law : T.currency.Lawful) (hspent : FinalizedSpent s)
    (h : LivesWithin n s) : LivesWithin n (onFinalize T s) := by
  intro id sub hsub
  rw [lookup_onFinalize law hspent] at hsub
  split at hsub
  next => cases hsub
  next => exact h id sub hsub

/-- What holds of a chain that is left to its blocks: all its finalized
subscriptions are spent, and no life is longer than `n`. -/
structure Winding (n : ℕ) (s : State T) : Prop where
  spent : FinalizedSpent s
  lives : LivesWithin n s

/-- A pulse takes a part of every life. -/
theorem Winding.pulseOf (h : Winding n s) (block : Env × Option RuntimePulse) :
    Winding (n - block.2.isSome.toNat) (run T (pulseOf block) s) := by
  obtain ⟨env, _ | pulse⟩ := block
  · exact h
  · have hspent : FinalizedSpent (step T (env, .distribute pulse) s) := h.spent.step
    exact ⟨hspent, h.lives.distribute env pulse⟩

theorem run_quietBlock (block : Env × Option RuntimePulse) :
    run T (quietBlock block) s = onFinalize T (run T (pulseOf block) s) :=
  Runs.run_append (step T)

theorem Winding.block (law : T.currency.Lawful) (h : Winding n s)
    (block : Env × Option RuntimePulse) :
    Winding (n - block.2.isSome.toNat) (run T (quietBlock block) s) := by
  have hpulse := h.pulseOf block
  rw [run_quietBlock]
  have hspent : FinalizedSpent (step T (block.1, .onFinalize) (run T (Manager.pulseOf block) s)) :=
    hpulse.spent.step
  exact ⟨hspent, hpulse.lives.onFinalize law hpulse.spent⟩

/-- A block without calls removes what its hook terminates. -/
theorem Winding.keys_block (law : T.currency.Lawful) (h : Winding n s)
    (block : Env × Option RuntimePulse) :
    (run T (quietBlock block) s).subscriptions.keys =
      s.subscriptions.keys \ terminatedIds (run T (Manager.pulseOf block) s) := by
  rw [run_quietBlock, keys_onFinalize law (h.pulseOf block).spent, keys_pulseOf]

/-- Once its pulse leaves no life, a block removes as many subscriptions as the
hook may. -/
theorem Winding.card_block (law : T.currency.Lawful) (h : Winding n s)
    (block : Env × Option RuntimePulse) (hlast : n ≤ block.2.isSome.toNat) :
    (run T (quietBlock block) s).subscriptions.keys.card =
      s.subscriptions.keys.card - T.maxTerminatableSubs.toNat := by
  have hpulse := h.pulseOf block
  rw [Nat.sub_eq_zero_of_le hlast] at hpulse
  have hall : finalizedIds (run T (Manager.pulseOf block) s) = s.subscriptions.keys := by
    rw [← keys_pulseOf block]
    ext id
    rw [finalizedIds, mem_keysWhere, Finmap.mem_keys, Finmap.mem_iff]
    constructor
    · rintro ⟨sub, hsub, _⟩
      exact ⟨sub, hsub⟩
    · rintro ⟨sub, hsub⟩
      exact ⟨sub, hsub,
        decide_eq_true (lifeLeft_eq_zero.mp (Nat.le_zero.mp (hpulse.lives id sub hsub)))⟩
  have hsubset : terminatedIds (run T (Manager.pulseOf block) s) ⊆ s.subscriptions.keys := by
    rw [← keys_pulseOf block]
    exact terminatedIds_subset _
  rw [h.keys_block law block, Finset.card_sdiff_of_subset hsubset, card_terminatedIds, hall]
  omega

theorem run_quiet_cons (block : Env × Option RuntimePulse)
    (blocks : List (Env × Option RuntimePulse)) :
    run T (quiet (block :: blocks)) s = run T (quiet blocks) (run T (quietBlock block) s) :=
  Runs.run_append (step T)

theorem pulseCount_cons (block : Env × Option RuntimePulse)
    (blocks : List (Env × Option RuntimePulse)) :
    pulseCount (block :: blocks) = block.2.isSome.toNat + pulseCount blocks := by
  rw [pulseCount, List.countP_cons, Nat.add_comm]
  cases block.2.isSome <;> rfl

theorem Winding.run (law : T.currency.Lawful) (blocks : List (Env × Option RuntimePulse))
    (h : Winding n s) : Winding (n - pulseCount blocks) (run T (quiet blocks) s) := by
  induction blocks generalizing n s with
  | nil => exact h
  | cons block rest ih =>
    rw [run_quiet_cons, pulseCount_cons, ← Nat.sub_sub]
    exact ih (h.block law block)

/-- A block without calls adds no subscription. -/
theorem Winding.card_le (law : T.currency.Lawful) (blocks : List (Env × Option RuntimePulse))
    (h : Winding n s) :
    (Manager.run T (quiet blocks) s).subscriptions.keys.card ≤ s.subscriptions.keys.card := by
  induction blocks generalizing n s with
  | nil => exact le_rfl
  | cons block rest ih =>
    rw [run_quiet_cons]
    refine (ih (h.block law block)).trans ?_
    rw [h.keys_block law block]
    exact Finset.card_le_card Finset.sdiff_subset

/-- When every subscription is finalized, each block removes as many as the hook
may, with a pulse or without. -/
theorem Winding.card_run (law : T.currency.Lawful) (blocks : List (Env × Option RuntimePulse))
    (h : Winding 0 s) :
    (Manager.run T (quiet blocks) s).subscriptions.keys.card =
      s.subscriptions.keys.card - blocks.length * T.maxTerminatableSubs.toNat := by
  induction blocks generalizing s with
  | nil =>
    rw [List.length_nil, Nat.zero_mul]
    rfl
  | cons block rest ih =>
    have hnext := h.block law block
    rw [Nat.zero_sub] at hnext
    rw [run_quiet_cons, ih hnext, h.card_block law block (Nat.zero_le _), List.length_cons,
      Nat.succ_mul, Nat.sub_sub, Nat.add_comm]

/-- The early pulses leave every life one distribution, the next one ends it, and
the hook does the rest. -/
theorem Winding.drains (law : T.currency.Lawful) (early : List (Env × Option RuntimePulse))
    (env : Env) (pulse : RuntimePulse) (later : List (Env × Option RuntimePulse))
    (h : Winding (n + 1) s) (hpulses : n ≤ pulseCount early)
    (hcount : s.subscriptions.keys.card ≤ (later.length + 1) * T.maxTerminatableSubs.toNat) :
    (Manager.run T (quiet (early ++ (env, some pulse) :: later)) s).subscriptions = ∅ := by
  have hone := h.run law early
  have hlast : n + 1 - pulseCount early ≤ 1 := by omega
  have hdone := hone.block law (env, some pulse)
  rw [Nat.sub_eq_zero_of_le (m := (some pulse).isSome.toNat) hlast] at hdone
  have hless := h.card_le law early
  have hfirst := hone.card_block law (env, some pulse) hlast
  have hrest := hdone.card_run law later
  have hrun : Manager.run T (quiet (early ++ (env, some pulse) :: later)) s =
      Manager.run T (quiet later) (Manager.run T (quietBlock (env, some pulse))
        (Manager.run T (quiet early) s)) := by
    rw [quiet, List.flatMap_append, Manager.run, Runs.run_append]
    exact run_quiet_cons _ _
  have hzero : (Manager.run T (quiet (early ++ (env, some pulse) :: later))
      s).subscriptions.keys.card = 0 := by
    rw [hrun, hrest, hfirst]
    rw [Nat.succ_mul] at hcount
    omega
  refine Finmap.ext_lookup fun id => ?_
  rw [Finmap.lookup_empty, Finmap.lookup_eq_none, ← Finmap.mem_keys, Finset.card_eq_zero.mp hzero]
  exact Finset.notMem_empty id

/-- When nothing is stored, nothing is on hold, as long as nothing was updated. -/
theorem onHold_of_empty (law : T.currency.Lawful) (pays : T.currency.PaysHeld)
    (hinit : Initial T s) {inputs : List Input}
    (hinputs : ∀ input ∈ inputs, input.2.isUpdate = false)
    (hempty : (run T inputs s).subscriptions = ∅) (reason : HoldReason) (who : AccountId32) :
    onHold (run T inputs s) reason who = 0 := by
  have howed : ∀ weight, owed weight who (run T inputs s) = 0 := by
    intro weight
    rw [owed, hempty, sum_empty]
  cases reason with
  | fees => exact (FeesBacked.run law pays hinit _ hinputs who).trans (howed _)
  | storageDeposit =>
    exact Nat.le_zero.mp ((deposit_le_owed law hinit hinputs who).trans (howed _).le)

theorem isUpdate_quiet {blocks : List (Env × Option RuntimePulse)} :
    ∀ input ∈ quiet blocks, input.2.isUpdate = false := by
  intro input hmem
  obtain ⟨⟨env, pulse⟩, _, hblock⟩ := List.mem_flatMap.mp hmem
  rcases List.mem_append.mp hblock with hpulse | hhook
  · obtain ⟨p, _, rfl⟩ := Option.map_eq_some_iff.mp (Option.mem_toList.mp hpulse)
    rfl
  · cases List.mem_singleton.mp hhook
    rfl

/-- THE STORE DRAINS. From any state that a run reaches, let no stored
subscription have more credits left than some number. Blocks without calls to
the pallet that distribute as many pulses, then a block with one more pulse, and
then as many blocks as the hook needs for the subscriptions there were, with
pulses or without, leave no subscription, whatever becomes of the messages and
of the charges. If nothing was ever updated, and a transfer of an amount that is
on hold moves all of it, nothing is left on hold either. -/
theorem store_drains (law : T.currency.Lawful) {s₀ : State T} (hinit : Initial T s₀)
    (inputs : List Input) (early : List (Env × Option RuntimePulse)) (env : Env)
    (pulse : RuntimePulse) (later : List (Env × Option RuntimePulse)) {credits : ℕ}
    (hcredits : ∀ id sub, (run T inputs s₀).subscriptions.lookup id = some sub →
      sub.creditsLeft.toNat ≤ credits)
    (hpulses : max 1 credits ≤ pulseCount early)
    (hcount : (run T inputs s₀).subscriptions.keys.card ≤
      (later.length + 1) * T.maxTerminatableSubs.toNat) :
    (run T (inputs ++ quiet (early ++ (env, some pulse) :: later)) s₀).subscriptions = ∅ ∧
      (run T (inputs ++ quiet (early ++ (env, some pulse) :: later)) s₀).subCounter = 0 ∧
      (T.currency.PaysHeld → (∀ input ∈ inputs, input.2.isUpdate = false) →
        ∀ reason who, onHold (run T (inputs ++ quiet (early ++ (env, some pulse) :: later)) s₀)
          reason who = 0) := by
  have hstart : Winding (max 1 credits + 1) (run T inputs s₀) :=
    ⟨FinalizedSpent.run hinit inputs, fun id sub hsub =>
      lifeLeft_le_of_credits (hcredits id sub hsub)⟩
  have hempty : (run T (inputs ++ quiet (early ++ (env, some pulse) :: later)) s₀).subscriptions =
      ∅ := by
    rw [run, Runs.run_append]
    exact hstart.drains law early env pulse later hpulses hcount
  refine ⟨hempty, ?_, fun pays hinputs => ?_⟩
  · have hcounted := (Counted.run hinit
      (inputs ++ quiet (early ++ (env, some pulse) :: later))).counted
    rw [hempty] at hcounted
    exact UInt32.toNat_inj.mp hcounted
  · refine onHold_of_empty law pays hinit (fun input hmem => ?_) hempty
    exact (List.mem_append.mp hmem).elim (hinputs input) (isUpdate_quiet input)

section Sample

open IdealNetwork.Runtime

/-- Three blocks with a pulse and one without, in some of which no message is
taken. -/
def earlyBlocks : List (Env × Option RuntimePulse) :=
  [(offline 2, some samplePulse), (online 3, none), (online 4, some samplePulse),
    (offline 5, some samplePulse)]

/-- Alice's three credits, paused, run out, and nothing is left of them. -/
theorem store_drains_fiveBlocks :
    (run standalone (pausedBefore ++ quiet (earlyBlocks ++ [(online 6, some samplePulse)]))
        funded).subscriptions = ∅ ∧
      onHold (run standalone
        (pausedBefore ++ quiet (earlyBlocks ++ [(online 6, some samplePulse)])) funded)
        .storageDeposit alice = 0 := by
  have hcredits : ∀ e ∈ iter standalone.hasher (run standalone pausedBefore funded).subscriptions,
      e.2.creditsLeft.toNat ≤ 3 := by decide +kernel
  have hcount : (run standalone pausedBefore funded).subscriptions.keys.card ≤
      (0 + 1) * standalone.maxTerminatableSubs.toNat := by decide +kernel
  obtain ⟨hempty, _, hheld⟩ := @store_drains standalone (plain_lawful _) funded
    (initial_genesis _) pausedBefore earlyBlocks (online 6) samplePulse [] 3
    (fun subId sub hstored => hcredits (subId, sub) (mem_iter.mpr hstored)) (by decide) hcount
  exact ⟨hempty, hheld (plain_paysHeld _) (by decide) .storageDeposit alice⟩

end Sample

end IdealNetwork.Manager
