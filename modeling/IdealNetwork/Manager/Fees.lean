import IdealNetwork.Lib.Arith
import IdealNetwork.Types

/-!
# Fees — the tiered price of credits

`FeesManagerImpl` prices credits by volume: each tier's share of the credits
is charged at that tier's discount, and the shares are summed, everything
saturating in `u64`.

`tierLoop` is the source's loop. `priceFrom` is the price it computes, tier
by tier over naturals, and `tierLoop_eq` is the bridge: inside the tiers the
unchecked subtraction never wraps, and the loop's early exit drops only
tiers that cost nothing. What the pallet relies on then follows from the
price alone: no credits cost nothing, and more credits never cost less.
-/

set_option autoImplicit false

namespace IdealNetwork.Manager

/-! ## The source -/

inductive BalanceDirection where
  | collect
  | release
  | none
deriving DecidableEq, Repr

/-- `DiffBalanceImpl`. -/
structure DiffBalance where
  balance : ℕ
  direction : BalanceDirection
deriving DecidableEq, Repr

/-- `TIERS`: where each tier starts, and its discount in percent. -/
def tiers : List (UInt64 × UInt64) :=
  [(1, 0), (10001, 5), (100001, 10), (1000001, 20), (10000001, 30)]

/-- `TIERS.get(i + 1)`, or `u64::MAX` after the last tier. -/
def nextTierStart : List (UInt64 × UInt64) → UInt64
  | [] => UInt64.maxValue
  | (start, _) :: _ => start

/-- The loop of `calculate_subscription_fees` over the tiers still to come. -/
def tierLoop (fee credits : UInt64) : List (UInt64 × UInt64) → UInt64 → UInt64 → UInt64
  | [], totalFee, _ => totalFee
  | (currentTierStart, currentTierDiscount) :: rest, totalFee, remainingCredits =>
    if remainingCredits = 0 then totalFee
    else
      let creditsInTier :=
        min (min credits ((nextTierStart rest).saturatingSub 1) - currentTierStart + 1)
          remainingCredits
      let tierFee :=
        ((fee.saturatingMul creditsInTier).saturatingMul (100 - currentTierDiscount)) / 100
      tierLoop fee credits rest (totalFee.saturatingAdd tierFee)
        (remainingCredits.saturatingSub creditsInTier)

/-- `FeesManagerImpl::calculate_subscription_fees`, for the base fee `fee`. -/
def calculateSubscriptionFees (fee : UInt64) (credits : Credits) : ℕ :=
  (tierLoop fee credits tiers 0 credits).toNat

/-- `FeesManagerImpl::calculate_diff_fees`. -/
def calculateDiffFees (fee : UInt64) (oldCredits newCredits : Credits) : DiffBalance :=
  let oldFees := calculateSubscriptionFees fee oldCredits
  let newFees := calculateSubscriptionFees fee newCredits
  if oldFees < newFees then ⟨newFees - oldFees, .collect⟩
  else if newFees < oldFees then ⟨oldFees - newFees, .release⟩
  else ⟨0, .none⟩

/-- `FeesManagerImpl::get_consume_credits`: the price of a pulse, in credits. -/
def getConsumeCredits (_sub : Option SubscriptionOf) : Credits := 1

/-- `FeesManagerImpl::get_idle_credits`: the price of a block without one. -/
def getIdleCredits (_sub : Option SubscriptionOf) : Credits := 1

/-- `FeesManager::calculate_credits`. -/
def calculateCredits (frequency lifetime : BlockNumber) : Credits :=
  lifetime.toUInt64.saturatingMul
    ((frequency.toUInt64.saturatingMul (getIdleCredits none)).saturatingAdd
      (getConsumeCredits none))

/-! ## The price the loop computes -/

/-- What `count` credits cost at a discount, clamped the way the loop clamps. -/
def tierPrice (fee discount count : ℕ) : ℕ :=
  min (min (fee * count) (2 ^ 64 - 1) * (100 - discount)) (2 ^ 64 - 1) / 100

/-- How many of `n` credits fall between two tier starts. -/
def creditsBetween (start next n : ℕ) : ℕ := min n (next - 1) - (start - 1)

/-- What `n` credits cost in the given tiers. -/
def priceFrom (fee n : ℕ) : List (UInt64 × UInt64) → ℕ
  | [] => 0
  | (start, discount) :: rest =>
    tierPrice fee discount.toNat (creditsBetween start.toNat (nextTierStart rest).toNat n) +
      priceFrom fee n rest

/-- Tiers start at one or later, each before the next, and discount at most
the whole price. -/
def Ascending : List (UInt64 × UInt64) → Prop
  | [] => True
  | (start, discount) :: rest =>
    0 < start.toNat ∧ start.toNat < (nextTierStart rest).toNat ∧ discount.toNat ≤ 100 ∧
      Ascending rest

theorem ascending_tiers : Ascending tiers := by
  simp [tiers, Ascending, nextTierStart]

theorem tierPrice_zero (fee discount : ℕ) : tierPrice fee discount 0 = 0 := by
  simp [tierPrice]

theorem tierPrice_mono (fee discount : ℕ) {a b : ℕ} (h : a ≤ b) :
    tierPrice fee discount a ≤ tierPrice fee discount b := by
  have hfee : min (fee * a) (2 ^ 64 - 1) ≤ min (fee * b) (2 ^ 64 - 1) :=
    min_le_min_right _ (Nat.mul_le_mul_left fee h)
  exact Nat.div_le_div_right (min_le_min_right _ (Nat.mul_le_mul_right _ hfee))

theorem creditsBetween_mono (start next : ℕ) {a b : ℕ} (h : a ≤ b) :
    creditsBetween start next a ≤ creditsBetween start next b := by
  unfold creditsBetween
  omega

theorem priceFrom_mono (fee : ℕ) (ts : List (UInt64 × UInt64)) {a b : ℕ} (h : a ≤ b) :
    priceFrom fee a ts ≤ priceFrom fee b ts := by
  induction ts with
  | nil => exact le_rfl
  | cons t rest ih =>
    exact Nat.add_le_add (tierPrice_mono fee _ (creditsBetween_mono _ _ h)) ih

/-- Tiers that start beyond the credits cost nothing. -/
theorem priceFrom_eq_zero (fee : ℕ) {n : ℕ} {ts : List (UInt64 × UInt64)} (ha : Ascending ts)
    (hn : n < (nextTierStart ts).toNat) : priceFrom fee n ts = 0 := by
  induction ts with
  | nil => rfl
  | cons t rest ih =>
    obtain ⟨_, hlt, _, hrest⟩ := ha
    have hn' : n < t.1.toNat := hn
    have hcount : creditsBetween t.1.toNat (nextTierStart rest).toNat n = 0 := by
      unfold creditsBetween
      omega
    rw [priceFrom, hcount, tierPrice_zero, ih hrest (hn'.trans hlt)]

/-- As long as credits remain, the subtraction and the addition of the loop do
not wrap. -/
theorem tierSize_spec {credits start next remaining : UInt64}
    (hpos : 0 < start.toNat) (hlt : start.toNat < next.toNat)
    (hremaining : remaining.toNat = credits.toNat - (start.toNat - 1))
    (hne : remaining ≠ 0) :
    start ≤ min credits (next.saturatingSub 1) ∧
      (min credits (next.saturatingSub 1) - start).toNat + 1 < 2 ^ 64 ∧
      (min credits (next.saturatingSub 1) - start + 1).toNat =
        min credits.toNat (next.toNat - 1) - start.toNat + 1 := by
  have hrem : 0 < remaining.toNat := by
    refine Nat.pos_of_ne_zero fun h => hne ?_
    exact UInt64.toNat_inj.mp h
  have hmin : (min credits (next.saturatingSub 1)).toNat = min credits.toNat (next.toNat - 1) := by
    rw [UInt64.toNat_min, UInt64.toNat_saturatingSub]
    rfl
  have hle : start ≤ min credits (next.saturatingSub 1) :=
    UInt64.le_iff_toNat_le.mpr (by omega)
  have hsub : (min credits (next.saturatingSub 1) - start).toNat =
      min credits.toNat (next.toNat - 1) - start.toNat := by
    rw [UInt64.toNat_sub_of_le _ _ hle, hmin]
  have hfits : (min credits (next.saturatingSub 1) - start).toNat + 1 < 2 ^ 64 := by
    have := credits.toNat_lt
    omega
  refine ⟨hle, hfits, ?_⟩
  rw [UInt64.toNat_add, UInt64.toNat_one, Nat.mod_eq_of_lt hfits, hsub]

/-- The credits of the tier the loop is at: it takes no more than remains. -/
theorem toNat_creditsInTier {credits start next remaining : UInt64}
    (hpos : 0 < start.toNat) (hlt : start.toNat < next.toNat)
    (hremaining : remaining.toNat = credits.toNat - (start.toNat - 1))
    (hne : remaining ≠ 0) :
    (min (min credits (next.saturatingSub 1) - start + 1) remaining).toNat =
      creditsBetween start.toNat next.toNat credits.toNat := by
  obtain ⟨hle, _, hadd⟩ := tierSize_spec hpos hlt hremaining hne
  have hstart := UInt64.le_iff_toNat_le.mp hle
  rw [UInt64.toNat_min, UInt64.toNat_saturatingSub, UInt64.toNat_one] at hstart
  rw [UInt64.toNat_min, hadd, hremaining]
  unfold creditsBetween
  omega

/-- What the loop goes on with are the credits past the tier. -/
theorem toNat_remainingCredits {credits start next remaining : UInt64}
    (hpos : 0 < start.toNat) (hlt : start.toNat < next.toNat)
    (hremaining : remaining.toNat = credits.toNat - (start.toNat - 1))
    (hne : remaining ≠ 0) :
    (remaining.saturatingSub
        (min (min credits (next.saturatingSub 1) - start + 1) remaining)).toNat =
      credits.toNat - (next.toNat - 1) := by
  rw [UInt64.toNat_saturatingSub, toNat_creditsInTier hpos hlt hremaining hne, hremaining]
  unfold creditsBetween
  omega

/-- THE BRIDGE: from any tier on, the loop adds to its total what the credits
cost in the tiers still to come. The remaining credits are those past the
tiers already done, and that is the loop's invariant. -/
theorem tierLoop_eq (fee credits : UInt64) :
    ∀ (ts : List (UInt64 × UInt64)) (totalFee remaining : UInt64), Ascending ts →
      remaining.toNat = credits.toNat - ((nextTierStart ts).toNat - 1) →
      (tierLoop fee credits ts totalFee remaining).toNat =
        min (totalFee.toNat + priceFrom fee.toNat credits.toNat ts) (2 ^ 64 - 1)
  | [], totalFee, remaining, _, _ => by
    have := totalFee.toNat_lt
    rw [tierLoop, priceFrom]
    omega
  | (start, discount) :: rest, totalFee, remaining, ha, hremaining => by
    have hstart : (nextTierStart ((start, discount) :: rest)).toNat = start.toNat := rfl
    rw [hstart] at hremaining
    rw [tierLoop]
    split
    next hzero =>
      -- the early exit: every tier still to come starts past the credits
      have hlt : credits.toNat < start.toNat := by
        have h0 : remaining.toNat = 0 := by rw [hzero]; rfl
        have := ha.1
        omega
      have := totalFee.toNat_lt
      rw [priceFrom_eq_zero fee.toNat ha hlt]
      omega
    next hne =>
      obtain ⟨hpos, hlt, hdiscount, hrest⟩ := ha
      have hcount := toNat_creditsInTier hpos hlt hremaining hne
      have hnext := toNat_remainingCredits hpos hlt hremaining hne
      have hpercent : (100 - discount).toNat = 100 - discount.toNat :=
        UInt64.toNat_sub_of_le _ _ (UInt64.le_iff_toNat_le.mpr hdiscount)
      simp only []
      rw [tierLoop_eq fee credits rest _ _ hrest hnext, UInt64.toNat_saturatingAdd,
        UInt64.toNat_div, UInt64.toNat_saturatingMul, UInt64.toNat_saturatingMul, hcount,
        hpercent, priceFrom, tierPrice]
      have h100 : (100 : UInt64).toNat = 100 := rfl
      rw [h100]
      omega

/-! ## What the pallet relies on -/

/-- The price in closed form: the tiers' prices, summed and clamped. -/
theorem calculateSubscriptionFees_eq (fee : UInt64) (credits : Credits) :
    calculateSubscriptionFees fee credits =
      min (priceFrom fee.toNat credits.toNat tiers) (2 ^ 64 - 1) := by
  have h := tierLoop_eq fee credits tiers 0 credits ascending_tiers (Nat.sub_zero _).symm
  rw [calculateSubscriptionFees, h]
  simp

theorem calculateSubscriptionFees_zero (fee : UInt64) : calculateSubscriptionFees fee 0 = 0 := rfl

/-- More credits never cost less. -/
theorem calculateSubscriptionFees_mono (fee : UInt64) {a b : Credits} (h : a ≤ b) :
    calculateSubscriptionFees fee a ≤ calculateSubscriptionFees fee b := by
  rw [calculateSubscriptionFees_eq, calculateSubscriptionFees_eq]
  exact min_le_min_right _ (priceFrom_mono _ _ (UInt64.le_iff_toNat_le.mp h))

/-- The credits quoted for a lifetime always fit. -/
theorem toNat_calculateCredits (frequency lifetime : BlockNumber) :
    (calculateCredits frequency lifetime).toNat = lifetime.toNat * (frequency.toNat + 1) := by
  have hidle : frequency.toNat + 1 ≤ 2 ^ 32 := frequency.toNat_lt
  have hfits : lifetime.toNat * (frequency.toNat + 1) ≤ (2 ^ 32 - 1) * 2 ^ 32 :=
    Nat.mul_le_mul (Nat.le_pred_of_lt lifetime.toNat_lt) hidle
  have hblocks : min (min frequency.toNat (2 ^ 64 - 1) + 1) (2 ^ 64 - 1) = frequency.toNat + 1 := by
    omega
  have hone : (getIdleCredits none).toNat = 1 ∧ (getConsumeCredits none).toNat = 1 := ⟨rfl, rfl⟩
  rw [calculateCredits, UInt64.toNat_saturatingMul, UInt64.toNat_saturatingAdd,
    UInt64.toNat_saturatingMul, hone.1, hone.2, UInt32.toNat_toUInt64, UInt32.toNat_toUInt64,
    Nat.mul_one, hblocks, min_eq_left (by omega)]

/-- The three directions of a fee difference, each with its amount. -/
theorem calculateDiffFees_cases (fee : UInt64) (oldCredits newCredits : Credits) :
    let diff := calculateDiffFees fee oldCredits newCredits
    let oldFees := calculateSubscriptionFees fee oldCredits
    let newFees := calculateSubscriptionFees fee newCredits
    (diff.direction = .collect ∧ oldFees + diff.balance = newFees) ∨
      (diff.direction = .release ∧ newFees + diff.balance = oldFees) ∨
      (diff.direction = .none ∧ diff.balance = 0 ∧ newFees = oldFees) := by
  unfold calculateDiffFees
  simp only []
  split
  next hlt => exact Or.inl ⟨rfl, Nat.add_sub_of_le hlt.le⟩
  next hge =>
    split
    next hlt => exact Or.inr (Or.inl ⟨rfl, Nat.add_sub_of_le hlt.le⟩)
    next hge' => exact Or.inr (Or.inr ⟨rfl, rfl, by omega⟩)

/-- Spending credits costs the difference of the prices, and never asks for
more to be held. -/
theorem calculateDiffFees_of_le (fee : UInt64) {oldCredits newCredits : Credits}
    (h : newCredits ≤ oldCredits) :
    (calculateDiffFees fee oldCredits newCredits).balance =
        calculateSubscriptionFees fee oldCredits - calculateSubscriptionFees fee newCredits ∧
      (calculateDiffFees fee oldCredits newCredits).direction ≠ .collect := by
  have hmono := calculateSubscriptionFees_mono fee h
  unfold calculateDiffFees
  simp only []
  rw [if_neg (Nat.not_lt.mpr hmono)]
  split
  next hlt => exact ⟨rfl, nofun⟩
  next hge =>
    refine ⟨?_, nofun⟩
    show 0 = _
    omega

end IdealNetwork.Manager
