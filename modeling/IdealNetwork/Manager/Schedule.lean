import IdealNetwork.Manager.Service

/-!
# Pulses are spaced

A subscription asks for a pulse every `frequency` blocks at most. What the
pallet remembers is the block of the last attempt, `last_delivered`, which a
lost pulse moves as well as a delivered one, and the test of a distribution
is that `last_delivered + frequency` has been reached. The sum is a `u32` and
wraps.

So as long as the sum does not wrap, two pulses of one subscription are at
least its frequency apart, whatever happens in between (`pulses_spaced`). A
sum that wraps has always been reached: the test then lets every block pass.
-/

set_option autoImplicit false

namespace IdealNetwork.Manager

open Storage Holds

variable {T : Config} {s : State T} {env : Env} {input : Input}
variable {id : SubscriptionId} {sub : SubscriptionOf} {since now last : BlockNumber}

/-- A subscription that is due has waited its frequency since the last
attempt, exactly if the sum did not wrap. -/
theorem Eligible.waited_iff (h : Eligible env sub) (hlast : sub.lastDelivered = some last) :
    last.toNat + sub.frequency.toNat ≤ env.blockNumber.toNat ↔
      last.toNat + sub.frequency.toNat < 2 ^ 32 := by
  constructor
  · intro hwaited
    exact hwaited.trans_lt env.blockNumber.toNat_lt
  · intro hsum
    have hdue := UInt32.le_iff_toNat_le.mp (h.2 last hlast)
    rwa [UInt32.toNat_add_of_lt hsum] at hdue

/-- The last attempt to serve a stored subscription was made no earlier than a
given block, which has been reached. -/
def AttemptedSince (id : SubscriptionId) (since now : BlockNumber) (s : State T) : Prop :=
  since ≤ now ∧ ∀ sub, s.subscriptions.lookup id = some sub →
    ∃ last, sub.lastDelivered = some last ∧ since ≤ last

/-- A stored subscription keeps its last attempt or makes a later one. -/
theorem AttemptedSince.step (h : AttemptedSince id since now s) (hid : id ∈ s.subscriptions)
    (hle : now ≤ blockOf input) : AttemptedSince id since (blockOf input) (step T input s) := by
  obtain ⟨hreached, hattempt⟩ := h
  have hlater : since ≤ blockOf input := UInt32.le_trans hreached hle
  obtain ⟨sub, hsub⟩ := Finmap.mem_iff.mp hid
  obtain ⟨last, hlast, hsince⟩ := hattempt sub hsub
  refine ⟨hlater, fun sub' hsub' => ?_⟩
  obtain ⟨pulses, hrecord, _⟩ := step_record T input s id
  rw [hsub, hsub'] at hrecord
  cases hrecord with
  | untouched => exact ⟨last, hlast, hsince⟩
  | paused op owner active => exact ⟨last, hlast, hsince⟩
  | reactivated op owner paused => exact ⟨last, hlast, hsince⟩
  | updated op named owner live => exact ⟨last, hlast, hsince⟩
  | unpaid op due failed => exact ⟨last, hlast, hsince⟩
  | unsent op due lost => exact ⟨_, rfl, hlater⟩
  | delivered op due taken => exact ⟨_, finalizeIfExhausted_lastDelivered _, hlater⟩
  | idle op notDue => exact ⟨last, (finalizeIfExhausted_lastDelivered _).trans hlast, hsince⟩

/-- A distribution that serves a subscription writes down its block. -/
theorem attemptedSince_served {pulse : RuntimePulse}
    (h : served id s < served id (distribute T env pulse s)) :
    AttemptedSince id env.blockNumber env.blockNumber (distribute T env pulse s) := by
  refine ⟨UInt32.le_refl _, fun sub' hsub' => ?_⟩
  obtain ⟨sub, _, _, hafter⟩ := served_of_distribute h
  cases hafter.symm.trans hsub'
  exact ⟨_, finalizeIfExhausted_lastDelivered _, UInt32.le_refl _⟩

/-- PULSES ARE SPACED. Between two pulses of a subscription, as long as it is
stored and at block numbers that never go back, lie at least as many blocks
as its frequency at the second, if its last attempt and its frequency do not
add up to more than a block number can hold. If the last attempt was the
first of the two pulses, they are so far apart only then. -/
theorem pulses_spaced (env₁ env₂ : Env) (pulse₁ pulse₂ : RuntimePulse)
    (hfirst : served id s < served id (distribute T env₁ pulse₁ s)) (between : List Input)
    (hblocks : Runs.Chronological blockOf env₁.blockNumber
      (between ++ [(env₂, .distribute pulse₂)]))
    (hkept : Runs.Along (step T) (fun _ u => id ∈ u.subscriptions) between
      (distribute T env₁ pulse₁ s))
    (hstored : (run T between (distribute T env₁ pulse₁ s)).subscriptions.lookup id = some sub)
    (hsecond : served id (run T between (distribute T env₁ pulse₁ s)) <
      served id (distribute T env₂ pulse₂ (run T between (distribute T env₁ pulse₁ s)))) :
    ∃ last, sub.lastDelivered = some last ∧
      (last.toNat + sub.frequency.toNat < 2 ^ 32 →
        env₁.blockNumber.toNat + sub.frequency.toNat ≤ env₂.blockNumber.toNat) ∧
      (last = env₁.blockNumber →
        env₁.blockNumber.toNat + sub.frequency.toNat ≤ env₂.blockNumber.toNat →
        last.toNat + sub.frequency.toNat < 2 ^ 32) := by
  have hbetween : Runs.Chronological blockOf env₁.blockNumber between := by
    unfold Runs.Chronological at hblocks ⊢
    rw [List.map_append, ← List.cons_append] at hblocks
    exact hblocks.left_of_append
  have hrun := Runs.run_invariant_timed (step T) (R := AttemptedSince id env₁.blockNumber)
    (attemptedSince_served hfirst) hkept hbetween fun _ _ _ _ hid hle hu => hu.step hid hle
  obtain ⟨last, hlast, hsince⟩ := hrun.2 sub hstored
  obtain ⟨sub₂, hsub₂, hdue, _⟩ := served_of_distribute hsecond
  cases hstored.symm.trans hsub₂
  have hiff := hdue.waited_iff hlast
  have hle := UInt32.le_iff_toNat_le.mp hsince
  refine ⟨last, hlast, fun hsum => ?_, fun heq hspaced => ?_⟩
  · have hwaited := hiff.mpr hsum
    omega
  · rw [← heq] at hspaced
    exact hiff.mp hspaced

section Sample

open IdealNetwork.Runtime

/-- Alice's subscription of five credits with a frequency of her choice. -/
def buyEvery (frequency : BlockNumber) : State standalone :=
  (dispatch standalone (online 1) (.signed alice)
    (.createSubscription { sampleParams 5 with frequency := frequency }) funded).2

/-- A block without a pulse. -/
def oneIdle : List Input := [(online 3, .distribute samplePulse)]

theorem pulses_spaced_everySecond :
    ∃ sub, (run standalone oneIdle
        (distribute standalone (online 2) samplePulse (buyEvery 2))).subscriptions.lookup sampleId =
          some sub ∧
      sub.frequency = 2 ∧
      (online 2).blockNumber.toNat + sub.frequency.toNat ≤ (online 4).blockNumber.toNat := by
  obtain ⟨sub, hsub, hfields⟩ : ∃ sub, (run standalone oneIdle
      (distribute standalone (online 2) samplePulse (buyEvery 2))).subscriptions.lookup sampleId =
        some sub ∧ (sub.frequency, sub.lastDelivered) = (2, some 2) :=
    Option.map_eq_some_iff.mp (by decide +kernel)
  obtain ⟨hfrequency, htwo⟩ := Prod.mk.inj hfields
  have hkept : Runs.Along (step standalone) (fun _ u => sampleId ∈ u.subscriptions) oneIdle
      (distribute standalone (online 2) samplePulse (buyEvery 2)) := ⟨by decide +kernel, trivial⟩
  have hblocks : Runs.Chronological blockOf (online 2).blockNumber
      (oneIdle ++ [(online 4, .distribute samplePulse)]) := by
    unfold Runs.Chronological oneIdle
    decide
  obtain ⟨last, hlast, hspaced, _⟩ := pulses_spaced (online 2) (online 4) samplePulse samplePulse
    (by decide +kernel) oneIdle hblocks hkept hsub (by decide +kernel)
  cases htwo.symm.trans hlast
  refine ⟨sub, hsub, hfrequency, hspaced ?_⟩
  rw [hfrequency]
  decide

/-- Alice asks for a pulse every 4294967295 blocks and is served in block 2
and again in block 3. -/
theorem early_pulse_rarest :
    ((buyEvery 4294967295).subscriptions.lookup sampleId).map (·.frequency) = some 4294967295 ∧
      served sampleId (buyEvery 4294967295) = 0 ∧
      served sampleId (distribute standalone (online 2) samplePulse (buyEvery 4294967295)) = 1 ∧
      served sampleId (distribute standalone (online 3) samplePulse
        (distribute standalone (online 2) samplePulse (buyEvery 4294967295))) = 2 :=
  ⟨by decide +kernel, by decide +kernel, by decide +kernel, by decide +kernel⟩

end Sample

end IdealNetwork.Manager
