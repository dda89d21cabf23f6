import IdealNetwork.Manager.Records

/-!
# Pulses against credits

A subscription is served a pulse for a credit, but the two are not written
down together: a pulse whose message is lost costs its credit and leaves the
subscription paused, with nothing left if the credit was the last. Such a
subscription can be reactivated, and is then served once for nothing.

So "an exhausted subscription is finalized" is kept only by runs in which no
last credit is lost (`no_free_pulse`), while the pulses a subscription is
served never exceed the credits it bought (`served_within_credits`): the
pulse it gets for nothing is the one it paid for and lost.
-/

set_option autoImplicit false

namespace IdealNetwork.Manager

open Storage Holds

variable {T : Config} {s t : State T} {env : Env} {origin : Origin} {input : Input}
variable {id : SubscriptionId} {sub sub' : SubscriptionOf}

/-! ## Bought and served -/

/-- What the budget of a subscription still has to cover: the credits left,
and one pulse more when it is exhausted and could be reactivated. -/
def outstanding (sub : SubscriptionOf) : ℕ :=
  if sub.creditsLeft.toNat = 0 ∧ sub.state ≠ .finalized then 1 else sub.creditsLeft.toNat

theorem creditsLeft_le_outstanding (sub : SubscriptionOf) :
    sub.creditsLeft.toNat ≤ outstanding sub := by
  unfold outstanding
  split <;> omega

theorem live_of_active (h : sub.state = .active) : sub.state ≠ .finalized := by
  rw [h]
  nofun

theorem live_of_paused (h : sub.state = .paused) : sub.state ≠ .finalized := by
  rw [h]
  nofun

/-- A subscription that is not finalized can be served at least once. -/
theorem outstanding_of_live (h : sub.state ≠ .finalized) :
    outstanding sub = max 1 sub.creditsLeft.toNat := by
  simp only [outstanding, h, ne_eq, not_false_eq_true, and_true]
  split <;> omega

/-- An exhausted subscription that reaches the end of its iteration is
finalized. -/
theorem finalizeIfExhausted_state (sub : SubscriptionOf)
    (h : (finalizeIfExhausted sub).creditsLeft.toNat = 0) :
    (finalizeIfExhausted sub).state = .finalized := by
  rw [finalizeIfExhausted_creditsLeft] at h
  have hlt : sub.creditsLeft < getMinCredits sub := by
    rw [UInt64.lt_iff_toNat_lt, h]
    exact Nat.zero_lt_one
  unfold finalizeIfExhausted
  split
  next => rfl
  next hnot => exact not_not.mp fun hstate => hnot ⟨hstate, hlt⟩

/-- After an iteration that is not cut short, only the credits left are
outstanding. -/
theorem outstanding_finalizeIfExhausted (sub : SubscriptionOf) :
    outstanding (finalizeIfExhausted sub) = sub.creditsLeft.toNat := by
  unfold outstanding
  rw [if_neg fun h => h.2 (finalizeIfExhausted_state sub h.1), finalizeIfExhausted_creditsLeft]

/-- A stored subscription has been served, and can still be served, no more
than a budget. -/
def InBudget (id : SubscriptionId) (budget : ℕ) (s : State T) : Prop :=
  ∀ sub, s.subscriptions.lookup id = some sub → served id s + outstanding sub ≤ budget

variable {budget : ℕ}

theorem toNat_creditsLeft_spent (sub : SubscriptionOf) :
    (sub.creditsLeft.saturatingSub 1).toNat = sub.creditsLeft.toNat - 1 :=
  UInt64.toNat_saturatingSub _ _

/-- What a step serves a subscription, it gives up. -/
theorem RecordStep.outstanding_le {pulses : ℕ}
    (h : RecordStep T input s id (some sub) (some sub') pulses) :
    pulses + outstanding sub' ≤ outstanding sub := by
  have hspent := toNat_creditsLeft_spent sub
  cases h with
  | untouched => exact (Nat.zero_add _).le
  | paused op owner active =>
    rw [outstanding_of_live (live_of_paused rfl), outstanding_of_live (live_of_active active)]
    exact (Nat.zero_add _).le
  | reactivated op owner paused =>
    rw [outstanding_of_live (live_of_active rfl), outstanding_of_live (live_of_paused paused)]
    exact (Nat.zero_add _).le
  | updated op named owner live => exact (Nat.zero_add _).le
  | unpaid op due failed =>
    rw [outstanding_of_live (live_of_paused rfl), outstanding_of_live (live_of_active due.1)]
    exact (Nat.zero_add _).le
  | unsent op due lost =>
    -- the lost pulse stays outstanding when its credit was the last
    rw [outstanding_of_live (live_of_paused rfl), outstanding_of_live (live_of_active due.1)]
    show 0 + max 1 (sub.creditsLeft.saturatingSub 1).toNat ≤ _
    omega
  | delivered op due taken =>
    rw [outstanding_finalizeIfExhausted, outstanding_of_live (live_of_active due.1)]
    show 1 + (sub.creditsLeft.saturatingSub 1).toNat ≤ _
    omega
  | idle op notDue =>
    have hle := creditsLeft_le_outstanding sub
    rw [outstanding_finalizeIfExhausted]
    show 0 + (sub.creditsLeft.saturatingSub 1).toNat ≤ _
    omega

theorem InBudget.step (h : InBudget id budget s) (hid : id ∈ s.subscriptions) :
    InBudget id budget (step T input s) := by
  intro sub' hsub'
  obtain ⟨sub, hsub⟩ := Finmap.mem_iff.mp hid
  obtain ⟨pulses, hrecord, hserved⟩ := step_record T input s id
  rw [hsub, hsub'] at hrecord
  have hgiven := hrecord.outstanding_le
  have hbudget := h sub hsub
  rw [hserved]
  omega

/-- NO SUBSCRIPTION IS SERVED MORE THAN IT BOUGHT. From its creation on, and as
long as it is stored, the pulses a subscription has been served and the
credits it has left are together at most the credits it was created with,
whatever is called, collected and sent in between. -/
theorem served_within_credits {params : CreateSubParamsOf} (who : AccountId32)
    (hcaller : ensureSignedOrValidXcmOrigin T origin = .ok who)
    (hcreated : dispatch T env origin (.createSubscription params) s = (.ok (), t))
    (inputs : List Input)
    (hstored : Runs.Within (Manager.step T) (fun u => newSubId T env who params ∈ u.subscriptions)
      inputs t)
    (hsub : (run T inputs t).subscriptions.lookup (newSubId T env who params) = some sub) :
    served (newSubId T env who params) (run T inputs t) + sub.creditsLeft.toNat ≤
      served (newSubId T env who params) t + params.credits.toNat := by
  have hstart : InBudget (newSubId T env who params)
      (served (newSubId T env who params) t + params.credits.toNat) t := by
    cases dispatch_ok hcreated with
    | created caller bought room fresh fees deposit =>
      cases hcaller.symm.trans caller
      intro sub₀ hsub₀
      have hnew : sub₀ = newSubscription env who (newSubId T env who params) params :=
        Option.some.inj (hsub₀.symm.trans (Finmap.lookup_insert _))
      rw [hnew, outstanding_of_live (live_of_active rfl)]
      have hpos : params.credits.toNat ≠ 0 := fun h => bought (UInt64.toNat_inj.mp h)
      show _ + max 1 params.credits.toNat ≤ _
      omega
  have hrun := Runs.run_invariant_within (Manager.step T)
    (P := fun u => newSubId T env who params ∈ u.subscriptions ∧ InBudget _ _ u)
    ⟨hstored [] List.nil_prefix, hstart⟩ hstored fun input _ u hnext hu =>
      ⟨hnext, hu.2.step hu.1⟩
  exact (Nat.add_le_add_left (creditsLeft_le_outstanding sub) _).trans (hrun.2 sub hsub)

section Sample

open IdealNetwork.Runtime

/-- Alice's subscription of three credits, just created. -/
def threeBought : State standalone :=
  (dispatch standalone (online 1) (.signed alice) (.createSubscription (sampleParams 3)) funded).2

/-- A pulse, a pulse lost, a reactivation, and a pulse. -/
def interrupted : List Input :=
  [(online 2, .distribute samplePulse), (offline 3, .distribute samplePulse),
    (online 3, .call (.signed alice) (.reactivateSubscription sampleId)),
    (online 4, .distribute samplePulse)]

theorem served_within_credits_interrupted :
    served sampleId (run standalone interrupted threeBought) = 2 ∧
      ∃ sub, (run standalone interrupted threeBought).subscriptions.lookup sampleId = some sub ∧
        served sampleId (run standalone interrupted threeBought) + sub.creditsLeft.toNat ≤
          served sampleId threeBought + 3 := by
  have hcreated : dispatch standalone (online 1) (.signed alice)
      (.createSubscription (sampleParams 3)) funded = (.ok (), threeBought) := by
    have hok : (dispatch standalone (online 1) (.signed alice)
      (.createSubscription (sampleParams 3)) funded).1 = .ok () := by decide +kernel
    rw [← hok, threeBought]
  obtain ⟨sub, hsub⟩ := Option.isSome_iff_exists.mp (by decide +kernel :
    ((run standalone interrupted threeBought).subscriptions.lookup sampleId).isSome = true)
  have hstored : ∀ part ∈ interrupted.inits,
      sampleId ∈ (run standalone part threeBought).subscriptions := by decide +kernel
  refine ⟨by decide +kernel, sub, hsub, ?_⟩
  exact served_within_credits (T := standalone) alice rfl hcreated interrupted
    (fun part hpart => hstored part ((List.mem_inits _ _).mpr hpart)) hsub

end Sample

/-! ## Pulses for nothing -/

/-- Too few credits are left for a block. -/
def Exhausted (sub : SubscriptionOf) : Prop := sub.creditsLeft < getMinCredits sub

theorem exhausted_iff : Exhausted sub ↔ sub.creditsLeft.toNat = 0 := by
  rw [Exhausted, UInt64.lt_iff_toNat_lt]
  exact Nat.lt_one_iff

/-- The end of an iteration finalizes a subscription that has run out, and
leaves every other as it is. -/
theorem finalizeIfExhausted_cases (sub : SubscriptionOf) :
    finalizeIfExhausted sub = sub ∨
      (sub.state ≠ .finalized ∧ sub.creditsLeft = 0 ∧
        finalizeIfExhausted sub = { sub with state := .finalized }) := by
  unfold finalizeIfExhausted
  split
  next h =>
    have hzero : sub.creditsLeft.toNat = 0 := exhausted_iff.mp h.2
    exact Or.inr ⟨h.1, UInt64.toNat_inj.mp hzero, rfl⟩
  next => exact Or.inl rfl

/-- Every exhausted subscription is finalized. -/
def ExhaustedFinalized (s : State T) : Prop :=
  ∀ subId sub, s.subscriptions.lookup subId = some sub → Exhausted sub → sub.state = .finalized

theorem ExhaustedFinalized.initial (h : Initial T s) : ExhaustedFinalized s := by
  intro subId sub hstored
  rw [h.subscriptions] at hstored
  cases hstored

/-- The step does not lose a last credit: if it is a distribution, the XCM
sender takes the pulse of every subscription that is due one and has one
credit left. -/
def LastCreditsSent (T : Config) (input : Input) (s : State T) : Prop :=
  ∀ pulse, input.2 = .distribute pulse → ∀ subId sub,
    s.subscriptions.lookup subId = some sub → Eligible input.1 sub → sub.creditsLeft = 1 →
      CanSend T input.1 pulse subId sub

/-- A stored subscription that a step exhausts is finalized by it, unless its
last credit is lost. -/
theorem RecordStep.finalized_of_exhausted {pulses : ℕ}
    (h : RecordStep T input s id (some sub) (some sub') pulses)
    (hlast : ∀ pulse, input.2 = .distribute pulse → Eligible input.1 sub → sub.creditsLeft = 1 →
      CanSend T input.1 pulse id sub)
    (hbefore : Exhausted sub → sub.state = .finalized) (hexhausted : Exhausted sub') :
    sub'.state = .finalized := by
  cases h with
  | untouched => exact hbefore hexhausted
  | paused op owner active => exact absurd (hbefore hexhausted) (live_of_active active)
  | reactivated op owner paused => exact absurd (hbefore hexhausted) (live_of_paused paused)
  | updated op named owner live => exact hbefore hexhausted
  | unpaid op due failed => exact absurd (hbefore hexhausted) (live_of_active due.1)
  | @unsent pulse _ op due lost =>
    have hspent : sub.creditsLeft.toNat - 1 = 0 :=
      (toNat_creditsLeft_spent sub).symm.trans (exhausted_iff.mp hexhausted)
    have hpos : sub.creditsLeft.toNat ≠ 0 := fun hzero =>
      live_of_active due.1 (hbefore (exhausted_iff.mpr hzero))
    have hone : sub.creditsLeft = 1 := UInt64.toNat_inj.mp (by show _ = 1; omega)
    exact absurd (hlast pulse op due hone) lost
  | delivered op due taken => exact finalizeIfExhausted_state _ (exhausted_iff.mp hexhausted)
  | idle op notDue => exact finalizeIfExhausted_state _ (exhausted_iff.mp hexhausted)

theorem ExhaustedFinalized.step (h : ExhaustedFinalized s) (hlast : LastCreditsSent T input s) :
    ExhaustedFinalized (step T input s) := by
  intro id sub' hsub' hexhausted
  rcases stored_of_step hsub' with ⟨_, params, _, _, hbought, rfl⟩ | ⟨sub, _, hstored, hrecord⟩
  · exact absurd (UInt64.toNat_inj.mp (exhausted_iff.mp hexhausted)) hbought
  · exact hrecord.finalized_of_exhausted (fun pulse hop => hlast pulse hop id sub hstored)
      (h id sub hstored) hexhausted

/-- NO PULSE FOR NOTHING. In every run from empty storage that loses no last
credit, every exhausted subscription is finalized, and a subscription that a
distribution serves had credits for it when the distribution began. -/
theorem no_free_pulse {s₀ : State T} (hinit : Initial T s₀) (inputs : List Input)
    (hlast : Runs.Along (step T) (LastCreditsSent T) inputs s₀) :
    (∀ subId sub, (run T inputs s₀).subscriptions.lookup subId = some sub →
      sub.creditsLeft < getMinCredits sub → sub.state = .finalized) ∧
      ∀ env pulse subId,
        served subId (run T inputs s₀) <
            served subId (distribute T env pulse (run T inputs s₀)) →
          ∃ sub, (run T inputs s₀).subscriptions.lookup subId = some sub ∧
            getMinCredits sub ≤ sub.creditsLeft := by
  have hrun : ExhaustedFinalized (run T inputs s₀) :=
    Runs.run_invariant_along (step T) (ExhaustedFinalized.initial hinit) hlast
      fun _ _ _ hcond hu => hu.step hcond
  refine ⟨hrun, fun env pulse subId hserved => ?_⟩
  obtain ⟨sub, hstored, hdue, _⟩ := served_of_distribute hserved
  refine ⟨sub, hstored, UInt64.not_lt.mp fun hexhausted => ?_⟩
  exact live_of_active hdue.1 (hrun subId sub hstored hexhausted)

section Sample

open IdealNetwork.Runtime

theorem canSend_online (n : BlockNumber) (pulse : RuntimePulse) (subId : SubscriptionId)
    (sub : SubscriptionOf) : CanSend standalone (online n) pulse subId sub :=
  ⟨_, rfl, rfl⟩

/-- Alice buys one credit and is served. -/
def servedOnce : List Input :=
  [(online 1, .call (.signed alice) (.createSubscription (sampleParams 1))),
    (online 2, .distribute samplePulse)]

theorem no_free_pulse_servedOnce :
    ∃ sub, (run standalone servedOnce funded).subscriptions.lookup sampleId = some sub ∧
      sub.creditsLeft = 0 ∧ sub.state = .finalized := by
  obtain ⟨hfinal, _⟩ := no_free_pulse (initial_genesis _ : Initial standalone funded) servedOnce
    ⟨fun _ _ _ _ _ _ _ => canSend_online 1 _ _ _, fun _ _ _ _ _ _ _ => canSend_online 2 _ _ _,
      trivial⟩
  obtain ⟨sub, hsub, hzero⟩ : ∃ sub,
      (run standalone servedOnce funded).subscriptions.lookup sampleId = some sub ∧
        sub.creditsLeft = 0 :=
    Option.map_eq_some_iff.mp (by decide +kernel)
  refine ⟨sub, hsub, hzero, hfinal sampleId sub hsub ?_⟩
  rw [hzero]
  exact UInt64.zero_lt_one

/-- Alice buys one credit, the pulse it pays for is lost, and Alice
reactivates the paused subscription. -/
def lostAndReactivated : State standalone :=
  run standalone
    [(online 1, .call (.signed alice) (.createSubscription (sampleParams 1))),
      (offline 2, .distribute samplePulse),
      (online 3, .call (.signed alice) (.reactivateSubscription sampleId))] funded

/-- The next distribution serves it, with no credits left. -/
theorem free_pulse_lostAndReactivated :
    (lostAndReactivated.subscriptions.lookup sampleId).map (·.creditsLeft) = some 0 ∧
      served sampleId lostAndReactivated = 0 ∧
      served sampleId (distribute standalone (online 3) samplePulse lostAndReactivated) = 1 :=
  ⟨by decide +kernel, by decide +kernel, by decide +kernel⟩

end Sample

end IdealNetwork.Manager
