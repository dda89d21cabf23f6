import IdealNetwork.Manager.Schedule

/-!
# How long credits last

A quote is for a lifetime, counted in pulses, and `calculate_credits` says how
many credits that takes: for each pulse its own credit and one for each of
`frequency` blocks. A distribution takes one credit, whether it serves a pulse
or not, and serves the first one it comes to, then one every `frequency` blocks.
So a pulse costs `frequency` credits and is quoted at one more.

What a subscription goes through when nothing goes wrong is its `Course`. It is
over when as many distributions were made as there were credits, and from one
pulse to the next it takes a frequency's worth of them at most, also where
blocks are left out. So the credits suffice (`quoted_credits_suffice`), and
except at frequency zero they always pay for a pulse too many
(`quoted_credits_exceed`).
-/

set_option autoImplicit false

namespace IdealNetwork.Manager

open Storage Holds

variable {T : Config} {s t u : State T} {env : Env} {origin : Origin} {input : Input}
variable {id : SubscriptionId} {sub sub' : SubscriptionOf}

/-! ## A subscription left alone -/

/-- The call is to pause, kill or update the subscription. -/
def Call.Disturbs (id : SubscriptionId) : Call → Prop
  | .pauseSubscription subId => subId = id
  | .killSubscription subId => subId = id
  | .updateSubscription params => params.subId = id
  | _ => False

/-- In this step the subscription is stored and is not paused, killed or
updated, and a pulse that it is due is paid for and sent. -/
structure Undisturbed (T : Config) (id : SubscriptionId) (input : Input) (s : State T) : Prop where
  stored : id ∈ s.subscriptions
  calls : ∀ origin call, input.2 = .call origin call → call.Disturbs id →
    (dispatch T input.1 origin call s).1 ≠ .ok ()
  paid : ∀ pulse, input.2 = .distribute pulse → ∀ sub ∈ s.subscriptions.lookup id,
    Eligible input.1 sub → (collectFees T sub 1 (reached T input.1 pulse id s)).1 = .ok ()
  sent : ∀ pulse, input.2 = .distribute pulse → ∀ sub ∈ s.subscriptions.lookup id,
    Eligible input.1 sub → CanSend T input.1 pulse id sub

/-- A distribution then serves the subscription if it is due, or leaves it idle. -/
theorem Undisturbed.distribute {pulse : RuntimePulse} (h : Undisturbed T id input s)
    (hop : input.2 = .distribute pulse) (hsub : s.subscriptions.lookup id = some sub) :
    (Eligible input.1 sub ∧
        (step T input s).subscriptions.lookup id =
          some (finalizeIfExhausted (recordDelivery input.1 sub)) ∧
        served id (step T input s) = served id s + 1) ∨
      (¬ Eligible input.1 sub ∧
        (step T input s).subscriptions.lookup id = some (finalizeIfExhausted (recordIdle sub)) ∧
        served id (step T input s) = served id s) := by
  have hstep : step T input s = Manager.distribute T input.1 pulse s := by rw [step, hop]
  obtain ⟨t, hiter, hlookup, hserved, hbefore⟩ := distribute_iteration input.1 pulse hsub
  rw [hstep, hlookup, hserved, ← hbefore]
  have hcollect := collectFees_cases sub (reached T input.1 pulse id s)
  cases hiter with
  | unpaid due charge =>
    have hpaid := h.paid pulse hop sub hsub due
    rw [hcollect.unique charge] at hpaid
    cases hpaid
  | unsent due charge lost => exact absurd (h.sent pulse hop sub hsub due) lost
  | @delivered u message due charge made taken =>
    refine Or.inl ⟨due, ?_, count_own.trans (congrArg (· + 1) (charge.served id))⟩
    rw [finishIteration, Finmap.lookup_insert]
  | idle notDue charge =>
    refine Or.inr ⟨notDue, ?_, charge.served id⟩
    rw [finishIteration, Finmap.lookup_insert]

/-- Any other step leaves it as it is, if it is stored afterwards. A paused
subscription could be reactivated. -/
theorem Undisturbed.other (h : Undisturbed T id input s)
    (hop : ∀ pulse, input.2 ≠ .distribute pulse) (hsub : s.subscriptions.lookup id = some sub)
    (hlive : sub.state ≠ .paused)
    (hsub' : (step T input s).subscriptions.lookup id = some sub') :
    sub' = sub ∧ served id (step T input s) = served id s := by
  by_cases hdisturbs : ∃ origin call, input.2 = .call origin call ∧ call.Disturbs id
  · -- the call fails, and leaves no trace
    obtain ⟨origin, call, hcall, hdisturbs⟩ := hdisturbs
    have hsame : step T input s = s := by
      have hfails := h.calls origin call hcall hdisturbs
      rw [step, hcall]
      exact dispatch_failed hfails
    rw [hsame] at hsub' ⊢
    cases hsub.symm.trans hsub'
    exact ⟨rfl, rfl⟩
  · obtain ⟨pulses, hrecord, hserved⟩ := step_record T input s id
    rw [hsub, hsub'] at hrecord
    cases hrecord with
    | untouched => exact ⟨rfl, hserved⟩
    | paused op owner active => exact absurd ⟨_, _, op, rfl⟩ hdisturbs
    | reactivated op owner paused => exact absurd paused hlive
    | updated op named owner live => exact absurd ⟨_, _, op, named⟩ hdisturbs
    | unpaid op due failed => exact absurd op (hop _)
    | unsent op due lost => exact absurd op (hop _)
    | delivered op due taken => exact absurd op (hop _)
    | idle op notDue => exact absurd op (hop _)

/-! ## The course of a subscription -/

/-- Where a subscription is after distributions in some blocks, in which it was
served some pulses. The period is how many blocks a pulse lasts. -/
inductive Course (credits period : ℕ) (blocks : List BlockNumber) (sub : SubscriptionOf)
    (pulses : ℕ) : Prop
  | waiting (empty : blocks = []) (active : sub.state = .active) (never : sub.lastDelivered = none)
      (left : sub.creditsLeft.toNat = credits) (pos : 0 < credits)
  | going {now last : BlockNumber} (latest : now ∈ blocks.getLast?)
      (active : sub.state = .active) (delivered : sub.lastDelivered = some last)
      (since : last ≤ now) (within : now.toNat < last.toNat + period)
      (left : sub.creditsLeft.toNat + blocks.length = credits) (pos : 0 < sub.creditsLeft.toNat)
      (spaced : blocks.length + period ≤ pulses * period + 1 + (now.toNat - last.toNat))
  | ended (final : sub.state = .finalized) (spent : sub.creditsLeft.toNat = 0)
      (all : credits ≤ blocks.length) (enough : credits ≤ pulses * period)

variable {credits period pulses : ℕ} {blocks : List BlockNumber} {now last : BlockNumber}

/-- It is not paused on the way. -/
theorem Course.not_paused (h : Course credits period blocks sub pulses) : sub.state ≠ .paused := by
  cases h with
  | waiting empty active never left pos => rw [active]; nofun
  | going latest active delivered since within left pos spaced => rw [active]; nofun
  | ended final spent all enough => rw [final]; nofun

/-- It is over when there were as many distributions as credits. -/
theorem Course.finalized_iff (h : Course credits period blocks sub pulses) :
    sub.state = .finalized ↔ credits ≤ blocks.length := by
  cases h with
  | waiting empty active never left pos =>
    rw [active, empty]
    exact iff_of_false nofun (Nat.not_le.mpr pos)
  | going latest active delivered since within left pos spaced =>
    rw [active]
    exact iff_of_false nofun (by omega)
  | ended final spent all enough => exact iff_of_true final all

/-- And then the pulses, each with its period, make up for the credits. -/
theorem Course.enough_of_finalized (h : Course credits period blocks sub pulses)
    (hfinal : sub.state = .finalized) : credits ≤ pulses * period := by
  cases h with
  | waiting empty active never left pos => exact absurd hfinal (live_of_active active)
  | going latest active delivered since within left pos spaced =>
    exact absurd hfinal (live_of_active active)
  | ended final spent all enough => exact enough

/-- The end of an iteration: the course goes on, or with the last credit it is
over. -/
theorem Course.finish (active : sub.state = .active) (delivered : sub.lastDelivered = some last)
    (since : last ≤ now) (within : now.toNat < last.toNat + period)
    (left : sub.creditsLeft.toNat + (blocks.length + 1) = credits)
    (spaced : blocks.length + 1 + period ≤ pulses * period + 1 + (now.toNat - last.toNat)) :
    Course credits period (blocks ++ [now]) (finalizeIfExhausted sub) pulses := by
  have hlength : (blocks ++ [now]).length = blocks.length + 1 := List.length_append
  have hsince := UInt32.le_iff_toNat_le.mp since
  rw [← hlength] at left spaced
  rcases Nat.eq_zero_or_pos sub.creditsLeft.toNat with hspent | hpos
  · have hzero : (finalizeIfExhausted sub).creditsLeft.toNat = 0 := by
      rw [finalizeIfExhausted_creditsLeft, hspent]
    exact .ended (finalizeIfExhausted_state sub hzero) hzero (by omega) (by omega)
  · have hlatest : now ∈ (blocks ++ [now]).getLast? := by
      rw [List.getLast?_concat]
      rfl
    have hsame : finalizeIfExhausted sub = sub := by
      rcases finalizeIfExhausted_cases sub with hsame | ⟨_, hzero, _⟩
      · exact hsame
      · rw [hzero] at hpos
        exact absurd hpos (Nat.lt_irrefl 0)
    rw [hsame]
    exact .going hlatest active delivered since within left hpos spaced

/-- A distribution that serves the subscription. -/
theorem Course.deliver (h : Course credits period blocks sub pulses) (hperiod : 0 < period)
    (hdue : Eligible env sub) :
    Course credits period (blocks ++ [env.blockNumber])
      (finalizeIfExhausted (recordDelivery env sub)) (pulses + 1) := by
  have hspent : (recordDelivery env sub).creditsLeft.toNat = sub.creditsLeft.toNat - 1 :=
    toNat_creditsLeft_spent sub
  have hwithin : env.blockNumber.toNat < env.blockNumber.toNat + period :=
    Nat.lt_add_of_pos_right hperiod
  have hpulse : (pulses + 1) * period = pulses * period + period := Nat.succ_mul pulses period
  cases h with
  | waiting empty active never left pos =>
    have hnone : blocks.length = 0 := by rw [empty, List.length_nil]
    exact .finish hdue.1 rfl (UInt32.le_refl _) hwithin (by omega) (by omega)
  | going latest active delivered since within left pos spaced =>
    exact .finish hdue.1 rfl (UInt32.le_refl _) hwithin (by omega) (by omega)
  | ended final spent all enough => exact absurd final (live_of_active hdue.1)

/-- A block in which an active subscription is not due is within its frequency
of the last pulse, also where their sum wraps: it wraps to less. -/
theorem lt_of_not_eligible (hactive : sub.state = .active) (hlast : sub.lastDelivered = some last)
    (hnotDue : ¬ Eligible env sub) :
    env.blockNumber.toNat < last.toNat + sub.frequency.toNat := by
  have hlt : env.blockNumber < last + sub.frequency := by
    refine UInt32.not_le.mp fun hle => hnotDue ⟨hactive, fun last' hlast' => ?_⟩
    cases hlast.symm.trans hlast'
    exact hle
  refine (UInt32.lt_iff_toNat_lt.mp hlt).trans_le ?_
  rw [UInt32.toNat_add]
  exact Nat.mod_le _ _

/-- A distribution in a later block that does not serve it. -/
theorem Course.idle (h : Course credits period blocks sub pulses)
    (hperiod : sub.frequency.toNat ≤ period)
    (hlater : ∀ now ∈ blocks.getLast?, now < env.blockNumber) (hnotDue : ¬ Eligible env sub) :
    Course credits period (blocks ++ [env.blockNumber]) (finalizeIfExhausted (recordIdle sub))
      pulses := by
  have hspent : (recordIdle sub).creditsLeft.toNat = sub.creditsLeft.toNat - 1 :=
    toNat_creditsLeft_spent sub
  cases h with
  | waiting empty active never left pos =>
    refine absurd ⟨active, fun last hlast => ?_⟩ hnotDue
    cases never.symm.trans hlast
  | @going now last latest active delivered since within left pos spaced =>
    have hbefore : now.toNat < env.blockNumber.toNat :=
      UInt32.lt_iff_toNat_lt.mp (hlater now latest)
    have hsince := UInt32.le_iff_toNat_le.mp since
    have hwithin := lt_of_not_eligible active delivered hnotDue
    exact .finish active delivered (UInt32.le_iff_toNat_le.mpr (by omega)) (by omega) (by omega)
      (by omega)
  | ended final spent all enough =>
    have hsame : finalizeIfExhausted (recordIdle sub) = recordIdle sub := by
      rcases finalizeIfExhausted_cases (recordIdle sub) with hsame | ⟨hlive, _⟩
      · exact hsame
      · exact absurd final hlive
    rw [hsame]
    refine .ended final ?_ ?_ enough
    · rw [hspent, spent]
    · rw [List.length_append]
      omega

/-! ## Runs -/

/-- The block of a distribution. -/
def distributionBlock (input : Input) : Option BlockNumber :=
  match input.2 with
  | .distribute _ => some (blockOf input)
  | _ => none

/-- The blocks of the distributions of a run. -/
def distributionBlocks (inputs : List Input) : List BlockNumber :=
  inputs.filterMap distributionBlock

/-- The subscription, if it is stored, has its frequency and is in its course,
with what it was served beyond a base. -/
def InCourse (id : SubscriptionId) (credits : ℕ) (frequency : BlockNumber) (base : ℕ)
    (blocks : List BlockNumber) (s : State T) : Prop :=
  ∀ sub, s.subscriptions.lookup id = some sub → sub.frequency = frequency ∧
    ∃ pulses, served id s = base + pulses ∧
      Course credits (max 1 frequency.toNat) blocks sub pulses

variable {base : ℕ} {frequency : BlockNumber}

theorem finalizeIfExhausted_frequency (sub : SubscriptionOf) :
    (finalizeIfExhausted sub).frequency = sub.frequency := by
  unfold finalizeIfExhausted
  split <;> rfl

theorem InCourse.step (h : InCourse id credits frequency base blocks s)
    (hinput : Undisturbed T id input s)
    (hlater : ∀ block ∈ distributionBlock input, ∀ now ∈ blocks.getLast?, now < block) :
    InCourse id credits frequency base (blocks ++ (distributionBlock input).toList)
      (step T input s) := by
  intro sub' hsub'
  obtain ⟨sub, hsub⟩ := Finmap.mem_iff.mp hinput.stored
  obtain ⟨hfrequency, n, hserved, hcourse⟩ := h sub hsub
  by_cases hop : ∃ pulse, input.2 = .distribute pulse
  · obtain ⟨pulse, hop⟩ := hop
    have hblock : distributionBlock input = some input.1.blockNumber := by
      rw [distributionBlock, hop]
      rfl
    rw [hblock] at hlater ⊢
    rcases hinput.distribute hop hsub with ⟨hdue, hlookup, hcount⟩ | ⟨hnotDue, hlookup, hcount⟩
    · cases hlookup.symm.trans hsub'
      refine ⟨(finalizeIfExhausted_frequency _).trans hfrequency, n + 1, ?_, ?_⟩
      · rw [hcount, hserved, Nat.add_assoc]
      · exact hcourse.deliver (by omega) hdue
    · cases hlookup.symm.trans hsub'
      refine ⟨(finalizeIfExhausted_frequency _).trans hfrequency, n, hcount.trans hserved, ?_⟩
      refine hcourse.idle ?_ (hlater _ rfl) hnotDue
      rw [hfrequency]
      exact le_max_right _ _
  · have hblock : distributionBlock input = none := by
      unfold distributionBlock
      split
      next pulse hpulse => exact absurd ⟨pulse, hpulse⟩ hop
      next => rfl
    obtain ⟨rfl, hcount⟩ := hinput.other (fun pulse hpulse => hop ⟨pulse, hpulse⟩) hsub
      hcourse.not_paused hsub'
    rw [hblock, Option.toList_none, List.append_nil, hcount]
    exact ⟨hfrequency, n, hserved, hcourse⟩

/-- A subscription that is left alone, with distributions in blocks one after
another, stays in its course. -/
theorem InCourse.run {inputs : List Input} (h : InCourse id credits frequency base [] s)
    (hinputs : Runs.Along (Manager.step T) (Undisturbed T id) inputs s)
    (hblocks : (distributionBlocks inputs).IsChain (· < ·)) :
    InCourse id credits frequency base (distributionBlocks inputs) (run T inputs s) := by
  refine Runs.run_invariant_history (Manager.step T)
    (Q := fun past u => InCourse id credits frequency base (distributionBlocks past) u)
    h hinputs fun past input hpast hinput hcourse => ?_
  have hsplit : distributionBlocks (past ++ [input]) =
      distributionBlocks past ++ (distributionBlock input).toList := by
    unfold distributionBlocks
    rw [List.filterMap_append]
    rfl
  have hchain : (distributionBlocks (past ++ [input])).IsChain (· < ·) := by
    obtain ⟨rest, rfl⟩ := hpast
    rw [distributionBlocks, List.filterMap_append] at hblocks
    exact hblocks.left_of_append
  rw [hsplit] at hchain ⊢
  refine hcourse.step hinput fun block hblock now hnow => ?_
  refine (List.isChain_append.mp hchain).2.2 now hnow block ?_
  rw [hblock]
  rfl

/-- A subscription that was just created is at the start of its course. -/
theorem InCourse.created {params : CreateSubParamsOf} {who : AccountId32}
    (hcaller : ensureSignedOrValidXcmOrigin T origin = .ok who)
    (hcreated : dispatch T env origin (.createSubscription params) s = (.ok (), t)) :
    InCourse (newSubId T env who params) params.credits.toNat params.frequency
      (served (newSubId T env who params) t) [] t := by
  cases dispatch_ok hcreated with
  | created caller bought room fresh fees deposit =>
    cases hcaller.symm.trans caller
    intro sub hsub
    have hnew : sub = newSubscription env who (newSubId T env who params) params :=
      Option.some.inj (hsub.symm.trans (Finmap.lookup_insert _))
    have hpos : params.credits.toNat ≠ 0 := fun h => bought (UInt64.toNat_inj.mp h)
    rw [hnew]
    exact ⟨rfl, 0, rfl, .waiting rfl rfl rfl rfl (Nat.pos_of_ne_zero hpos)⟩

/-! ## Quotes -/

/-- A subscription has been created with the credits quoted for a lifetime, and
is left alone in a run that distributes in blocks one after another. -/
structure QuotedRun (T : Config) (frequency lifetime : BlockNumber) (id : SubscriptionId)
    (t : State T) (inputs : List Input) : Prop where
  created : ∃ (s : State T) (env : Env) (origin : Origin) (who : AccountId32)
    (params : CreateSubParamsOf),
      ensureSignedOrValidXcmOrigin T origin = .ok who ∧ newSubId T env who params = id ∧
      params.frequency = frequency ∧ params.credits = calculateCredits frequency lifetime ∧
      dispatch T env origin (.createSubscription params) s = (.ok (), t)
  alone : Runs.Along (step T) (Undisturbed T id) inputs t
  blocks : (distributionBlocks inputs).IsChain (· < ·)

variable {lifetime : BlockNumber} {inputs : List Input}

theorem QuotedRun.course (h : QuotedRun T frequency lifetime id t inputs)
    (hsub : (run T inputs t).subscriptions.lookup id = some sub) :
    ∃ pulses, served id (run T inputs t) = served id t + pulses ∧
      Course (lifetime.toNat * (frequency.toNat + 1)) (max 1 frequency.toNat)
        (distributionBlocks inputs) sub pulses := by
  obtain ⟨s, env, origin, who, params, hcaller, rfl, rfl, hcredits, hcreated⟩ := h.created
  have hstart := InCourse.created hcaller hcreated
  rw [hcredits, toNat_calculateCredits] at hstart
  exact (hstart.run h.alone h.blocks sub hsub).2

/-- QUOTED CREDITS SUFFICE. The credits quoted for a lifetime never saturate. A
subscription that was created with them and is left alone is finalized when as
many distributions were made, and has then been served at least the pulses of
its lifetime, however many blocks are left out and also where block numbers come
to their end. -/
theorem quoted_credits_suffice (frequency lifetime : BlockNumber) :
    (calculateCredits frequency lifetime).toNat = lifetime.toNat * (frequency.toNat + 1) ∧
      ∀ (T : Config) (id : SubscriptionId) (t : State T) (inputs : List Input)
        (sub : SubscriptionOf), QuotedRun T frequency lifetime id t inputs →
        (run T inputs t).subscriptions.lookup id = some sub →
          (sub.state = .finalized ↔
            lifetime.toNat * (frequency.toNat + 1) ≤ (distributionBlocks inputs).length) ∧
          (sub.state = .finalized →
            served id t + lifetime.toNat ≤ served id (run T inputs t)) := by
  refine ⟨toNat_calculateCredits frequency lifetime, ?_⟩
  intro T id t inputs sub hrun hsub
  obtain ⟨pulses, hserved, hcourse⟩ := hrun.course hsub
  refine ⟨hcourse.finalized_iff, fun hfinal => ?_⟩
  have henough := hcourse.enough_of_finalized hfinal
  have hperiod : max 1 frequency.toNat ≤ frequency.toNat + 1 := by omega
  have hpulses : lifetime.toNat ≤ pulses := by
    refine Nat.le_of_mul_le_mul_right (c := max 1 frequency.toNat) ?_ (by omega)
    exact (Nat.mul_le_mul_left lifetime.toNat hperiod).trans henough
  omega

/-- QUOTED CREDITS EXCEED the lifetime they are quoted for. A subscription with a
frequency that was created with them and is left alone has been served more than
the pulses of its lifetime when it is finalized, whichever blocks are left out,
if any. -/
theorem quoted_credits_exceed (hfrequency : 1 ≤ frequency) (hlifetime : 1 ≤ lifetime)
    (hrun : QuotedRun T frequency lifetime id t inputs)
    (hsub : (run T inputs t).subscriptions.lookup id = some sub) :
    (sub.state = .finalized ↔
        lifetime.toNat * (frequency.toNat + 1) ≤ (distributionBlocks inputs).length) ∧
      (sub.state = .finalized →
        served id t + lifetime.toNat < served id (run T inputs t)) := by
  obtain ⟨pulses, hserved, hcourse⟩ := hrun.course hsub
  refine ⟨hcourse.finalized_iff, fun hfinal => ?_⟩
  have henough := hcourse.enough_of_finalized hfinal
  have hone : 1 ≤ frequency.toNat := UInt32.le_iff_toNat_le.mp hfrequency
  have hpos : 1 ≤ lifetime.toNat := UInt32.le_iff_toNat_le.mp hlifetime
  rw [max_eq_right hone, Nat.mul_succ] at henough
  have hpulses : lifetime.toNat < pulses :=
    Nat.lt_of_mul_lt_mul_right (a := frequency.toNat) (by omega)
  omega

section Sample

open IdealNetwork.Runtime

/-- A subscription for one pulse, at one every second block. -/
def paramsForOne : CreateSubParamsOf :=
  { sampleParams (calculateCredits 2 1) with frequency := 2 }

def boughtForOne : State standalone :=
  (dispatch standalone (online 1) (.signed alice) (.createSubscription paramsForOne) funded).2

/-- Distributions in three consecutive blocks. -/
def threeBlocks : List Input :=
  [(online 2, .distribute samplePulse), (online 3, .distribute samplePulse),
    (online 4, .distribute samplePulse)]

theorem undisturbed_online {s : State standalone} {n : BlockNumber}
    (hstored : sampleId ∈ s.subscriptions)
    (hpaid : ∀ sub ∈ s.subscriptions.lookup sampleId, Eligible (online n) sub →
      (collectFees standalone sub 1 (reached standalone (online n) samplePulse sampleId s)).1 =
        .ok ()) :
    Undisturbed standalone sampleId (online n, .distribute samplePulse) s where
  stored := hstored
  calls := by
    intro origin call hop
    cases hop
  paid := by
    intro pulse hop
    cases hop
    exact hpaid
  sent := fun pulse _ sub _ _ => canSend_online n pulse sampleId sub

theorem quotedRun_threeBlocks : QuotedRun standalone 2 1 sampleId boughtForOne threeBlocks where
  created := ⟨funded, online 1, .signed alice, alice, paramsForOne, rfl, rfl, rfl, rfl,
    Prod.ext (by decide +kernel) (by rw [boughtForOne])⟩
  alone := ⟨undisturbed_online (by decide +kernel) (by decide +kernel),
    undisturbed_online (by decide +kernel) (by decide +kernel),
    undisturbed_online (by decide +kernel) (by decide +kernel), trivial⟩
  blocks := by decide +kernel

theorem finalized_threeBlocks :
    ∃ sub, (run standalone threeBlocks boughtForOne).subscriptions.lookup sampleId = some sub ∧
      sub.state = .finalized :=
  Option.map_eq_some_iff.mp (by decide +kernel)

theorem quoted_credits_suffice_threeBlocks :
    ∃ sub, (run standalone threeBlocks boughtForOne).subscriptions.lookup sampleId = some sub ∧
      sub.state = .finalized ∧
      served sampleId boughtForOne + (1 : BlockNumber).toNat ≤
        served sampleId (run standalone threeBlocks boughtForOne) := by
  obtain ⟨sub, hsub, hfinal⟩ := finalized_threeBlocks
  obtain ⟨_, hsuffice⟩ := (quoted_credits_suffice 2 1).2 standalone sampleId boughtForOne
    threeBlocks sub quotedRun_threeBlocks hsub
  exact ⟨sub, hsub, hfinal, hsuffice hfinal⟩

theorem quoted_credits_exceed_threeBlocks :
    ∃ sub, (run standalone threeBlocks boughtForOne).subscriptions.lookup sampleId = some sub ∧
      sub.state = .finalized ∧
      served sampleId boughtForOne + (1 : BlockNumber).toNat <
        served sampleId (run standalone threeBlocks boughtForOne) := by
  obtain ⟨sub, hsub, hfinal⟩ := finalized_threeBlocks
  obtain ⟨_, hexceed⟩ := quoted_credits_exceed (T := standalone) (by decide) (by decide)
    quotedRun_threeBlocks hsub
  exact ⟨sub, hsub, hfinal, hexceed hfinal⟩

/-- Quoted for one pulse, served two. -/
theorem second_pulse_threeBlocks :
    boughtForOne.subscriptions.lookup sampleId ≠ none ∧ (calculateCredits 2 1).toNat = 3 ∧
      served sampleId boughtForOne = 0 ∧
      served sampleId (run standalone threeBlocks boughtForOne) = 2 ∧
      ((run standalone threeBlocks boughtForOne).subscriptions.lookup sampleId).map (·.state) =
        some .finalized :=
  ⟨by decide +kernel, by decide +kernel, by decide +kernel, by decide +kernel, by decide +kernel⟩

end Sample

end IdealNetwork.Manager
