import IdealNetwork.Manager.Service

/-!
# The store is counted and dated

`SubCounter` is kept apart from the map it counts, by saturating steps up and
down. It is nevertheless the number of stored subscriptions in every state
reached, and so is bounded by `MaxSubscriptions` (`Counted`). Every record
stands under its own id, and the blocks written in it are in order and not
ahead of the chain (`Dated`), as long as block numbers never go back.
-/

set_option autoImplicit false

namespace IdealNetwork.Manager

open Storage Holds

variable {T : Config} {s t : State T} {env : Env} {origin : Origin} {input : Input}
variable {id subId : SubscriptionId} {sub : SubscriptionOf} {pulse : RuntimePulse}
variable {now next : BlockNumber}

/-! ## The counter -/

/-- The counter is the number of entries, and within its bound. -/
structure Counted (s : State T) : Prop where
  counted : s.subCounter.toNat = s.subscriptions.keys.card
  bounded : s.subCounter ≤ T.maxSubscriptions

theorem Counted.initial (h : Initial T s) : Counted s where
  counted := by
    rw [h.subCounter, h.subscriptions]
    rfl
  bounded := by
    rw [h.subCounter]
    exact UInt32.zero_le

/-- Rewriting a stored record. -/
theorem Counted.rewrite {record : SubscriptionOf} (h : Counted s)
    (hstored : s.subscriptions.lookup subId = some sub)
    (ht : t.subscriptions = s.subscriptions.insert subId record)
    (hcounter : t.subCounter = s.subCounter) : Counted t where
  counted := by
    rw [ht, card_keys_insert_of_mem _ (Finmap.mem_of_lookup_eq_some hstored), hcounter]
    exact h.counted
  bounded := hcounter ▸ h.bounded

/-- Removing a stored record. -/
theorem Counted.remove (h : Counted s) (hstored : s.subscriptions.lookup subId = some sub)
    (L : T.currency.Ledger) : Counted (removed subId L s) := by
  have hdec : (removed subId L s).subCounter.toNat = s.subCounter.toNat - 1 :=
    UInt32.toNat_saturatingDec s.subCounter
  have hcard : (removed subId L s).subscriptions.keys.card + 1 = s.subscriptions.keys.card :=
    card_keys_erase (Finmap.mem_of_lookup_eq_some hstored)
  have hcounted := h.counted
  have hbounded := UInt32.le_iff_toNat_le.mp h.bounded
  refine ⟨by omega, UInt32.le_iff_toNat_le.mpr (by omega)⟩

theorem Counted.callEffect {call : Call} (h : Counted s)
    (heffect : CallEffect T env origin s call t) : Counted t := by
  cases heffect with
  | created caller bought room fresh fees deposit =>
    have hinc := UInt32.toNat_saturatingInc_of_lt room
    have hroom := UInt32.lt_iff_toNat_lt.mp room
    refine ⟨?_, UInt32.le_iff_toNat_le.mpr (hinc.trans_le hroom)⟩
    exact hinc.trans ((congrArg (· + 1) h.counted).trans
      (card_keys_insert_of_notMem _ fresh).symm)
  | paused caller stored owner active => exact h.rewrite stored rfl rfl
  | reactivated caller stored owner paused => exact h.rewrite stored rfl rfl
  | killed caller stored owner fees deposit => exact h.remove stored _
  | updated caller stored owner live fees => exact h.rewrite stored rfl rfl
  | quoted => exact ⟨h.counted, h.bounded⟩
  | informed => exact ⟨h.counted, h.bounded⟩

theorem Collection.subCounter {r : Except Err Unit × State T} (h : Collection T sub s r) :
    r.2.subCounter = s.subCounter := by
  cases h <;> rfl

theorem Iteration.subCounter (h : Iteration T env pulse subId sub s t) :
    t.subCounter = s.subCounter := by
  cases h with
  | unpaid due charge => exact charge.subCounter
  | unsent due charge lost => exact charge.subCounter
  | delivered due charge made taken => exact charge.subCounter
  | idle notDue charge => exact charge.subCounter

theorem Counted.step (h : Counted s) : Counted (step T input s) := by
  refine step_invariant input h (fun _ heffect => h.callEffect heffect) ?_ ?_
  · intro pulse subId sub u v _ _ hstored hiter hu
    obtain ⟨record, hwrite, _⟩ := hiter.subscriptions
    exact hu.rewrite hstored hwrite hiter.subCounter
  · intro subId sub u v hstored _ hterm hu
    cases hterm with
    | completed fees deposit => exact hu.remove hstored _
    | failed failed => exact ⟨hu.counted, hu.bounded⟩

/-! ## The dates of a record -/

/-- The record is the one of its id, and its blocks are in order up to now. -/
structure Dated (now : BlockNumber) (id : SubscriptionId) (sub : SubscriptionOf) : Prop where
  own : sub.id = id
  created : sub.createdAt ≤ sub.updatedAt
  updated : sub.updatedAt ≤ now
  delivered : ∀ last, sub.lastDelivered = some last → sub.createdAt ≤ last ∧ last ≤ now

theorem Dated.later (h : Dated now id sub) (hle : now ≤ next) : Dated next id sub where
  own := h.own
  created := h.created
  updated := UInt32.le_trans h.updated hle
  delivered := fun last hlast =>
    ⟨(h.delivered last hlast).1, UInt32.le_trans (h.delivered last hlast).2 hle⟩

/-- The dates do not depend on the state of the subscription. -/
theorem Dated.withState (h : Dated now id sub) (state : SubscriptionState) :
    Dated now id { sub with state := state } :=
  ⟨h.own, h.created, h.updated, h.delivered⟩

theorem Dated.finalizeIfExhausted (h : Dated now id sub) :
    Dated now id (finalizeIfExhausted sub) := by
  rcases finalizeIfExhausted_cases sub with hsame | ⟨_, _, hfinal⟩
  · rw [hsame]
    exact h
  · rw [hfinal]
    exact h.withState .finalized

/-- An attempt to serve the subscription is dated by the block it is made in. -/
theorem Dated.recordDelivery (h : Dated env.blockNumber id sub) :
    Dated env.blockNumber id (recordDelivery env sub) where
  own := h.own
  created := h.created
  updated := h.updated
  delivered := by
    intro last hlast
    cases hlast
    exact ⟨UInt32.le_trans h.created h.updated, UInt32.le_refl _⟩

theorem Dated.applyUpdate (h : Dated env.blockNumber id sub) (params : UpdateSubParamsOf) :
    Dated env.blockNumber id (applyUpdate env params sub) where
  own := h.own
  created := UInt32.le_trans h.created h.updated
  updated := UInt32.le_refl _
  delivered := h.delivered

/-- A step leaves under an id a record that is dated up to its own block. -/
theorem RecordStep.dated {before : Option SubscriptionOf} {pulses : ℕ}
    (h : RecordStep T input s id before (some sub) pulses)
    (hbefore : ∀ sub₀, before = some sub₀ → Dated (blockOf input) id sub₀) :
    Dated (blockOf input) id sub := by
  cases h with
  | untouched => exact hbefore _ rfl
  | created op caller named =>
    exact ⟨rfl, UInt32.le_refl _, UInt32.le_refl _, fun _ hlast => (nomatch hlast)⟩
  | paused op owner active => exact (hbefore _ rfl).withState .paused
  | reactivated op owner paused => exact (hbefore _ rfl).withState .active
  | updated op named owner live => exact (hbefore _ rfl).applyUpdate _
  | unpaid op due failed => exact (hbefore _ rfl).withState .paused
  | unsent op due lost => exact (hbefore _ rfl).recordDelivery.withState .paused
  | delivered op due taken => exact (hbefore _ rfl).recordDelivery.finalizeIfExhausted
  | idle op notDue =>
    have hdated := hbefore _ rfl
    exact Dated.finalizeIfExhausted
      ⟨hdated.own, hdated.created, hdated.updated, hdated.delivered⟩

/-- Every stored record is dated. -/
def AllDated (now : BlockNumber) (s : State T) : Prop :=
  ∀ id sub, s.subscriptions.lookup id = some sub → Dated now id sub

theorem AllDated.step (h : AllDated now s) (hle : now ≤ blockOf input) :
    AllDated (blockOf input) (step T input s) := by
  intro id sub hsub
  obtain ⟨pulses, hrecord, _⟩ := step_record T input s id
  rw [hsub] at hrecord
  exact hrecord.dated fun sub₀ hstored => (h id sub₀ hstored).later hle

/-- THE STORE IS COUNTED AND DATED. In every state a run from empty storage
reaches, at block numbers that never go back, the counter is the number of
stored subscriptions and at most `MaxSubscriptions`, and every record stands
under its own id, was created no later than it was last updated or served,
and none of these blocks is ahead of the current one. -/
theorem store_counted {s₀ : State T} (hinit : Initial T s₀) (start : BlockNumber)
    (inputs : List Input) (hblocks : Runs.Chronological blockOf start inputs) :
    (run T inputs s₀).subCounter.toNat = (run T inputs s₀).subscriptions.keys.card ∧
      (run T inputs s₀).subCounter ≤ T.maxSubscriptions ∧
      ∀ id sub, (run T inputs s₀).subscriptions.lookup id = some sub →
        sub.id = id ∧ sub.createdAt ≤ sub.updatedAt ∧
          sub.updatedAt ≤ Runs.lastTime blockOf start inputs ∧
          ∀ last, sub.lastDelivered = some last →
            sub.createdAt ≤ last ∧ last ≤ Runs.lastTime blockOf start inputs := by
  have hempty : AllDated start s₀ := by
    intro id sub hstored
    rw [hinit.subscriptions] at hstored
    cases hstored
  obtain ⟨hcounted, hdated⟩ := Runs.run_invariant_timed (step T)
    (R := fun now u => Counted u ∧ AllDated now u) ⟨Counted.initial hinit, hempty⟩
    (Runs.along_of_forall (step T) fun _ _ => trivial) hblocks
    fun _ _ _ _ _ hle hu => ⟨hu.1.step, hu.2.step hle⟩
  refine ⟨hcounted.counted, hcounted.bounded, fun id sub hstored => ?_⟩
  have h := hdated id sub hstored
  exact ⟨h.own, h.created, h.updated, h.delivered⟩

section Sample

open IdealNetwork.Runtime

theorem store_counted_sampleRun :
    (run standalone sampleRun funded).subCounter = 1 ∧
      (run standalone sampleRun funded).subscriptions.keys.card = 1 := by
  have hone : (run standalone sampleRun funded).subCounter = 1 := by decide +kernel
  have hblocks : Runs.Chronological blockOf 0 sampleRun := by
    unfold Runs.Chronological sampleRun
    decide
  have hcounted : (run standalone sampleRun funded).subCounter.toNat =
      (run standalone sampleRun funded).subscriptions.keys.card :=
    (store_counted (T := standalone) (initial_genesis _) 0 sampleRun hblocks).1
  refine ⟨hone, ?_⟩
  rw [← hcounted, hone]
  rfl

end Sample

end IdealNetwork.Manager
