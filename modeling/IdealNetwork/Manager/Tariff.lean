import IdealNetwork.Lib.Tiers
import IdealNetwork.Manager.Fees

/-!
# The tariff

What the tiered price of credits is worth as a tariff, for every base fee and
every number of credits a `u64` holds.

More credits never cost less, so spending credits never asks for more to be
held, and what is taken for them one by one adds up (`fees_monotone`). Nobody
saves by buying in parts (`fees_subadditive`).

It is not always the price that was meant. The loop multiplies by the percent
that is left before it divides by a hundred, both in `u64`, so a tier costs
`u64::MAX / 100` at most, and a hundredth of the range is all there is to a
tier (`tiered_price_exact_iff`).
-/

set_option autoImplicit false

namespace IdealNetwork.Manager

open Tiers (price)

/-! ## The price as a tiered price -/

/-- The most that a tier can cost. -/
def tierCap : ℕ := (2 ^ 64 - 1) / 100

/-- The tiers of the source, for a base fee: where each ends, and its rate. -/
def rates (fee : ℕ) : List (UInt64 × UInt64) → List Tiers.Tier
  | [] => []
  | (_, discount) :: rest =>
    ⟨(nextTierStart rest).toNat - 1, fee * (100 - discount.toNat)⟩ :: rates fee rest

/-- The clamps of the loop come to one: the price of a tier, rounded down, up
to the cap. -/
theorem tierPrice_eq {fee discount count : ℕ} (h : discount < 100) :
    tierPrice fee discount count = min (fee * (100 - discount) * count / 100) tierCap := by
  rw [Nat.mul_right_comm, tierPrice, tierCap]
  rcases Nat.le_total (fee * count) (2 ^ 64 - 1) with hle | hge
  · rw [min_eq_left hle]
    omega
  · -- the first product is clamped, and then so is the second
    have hpercent : 1 ≤ 100 - discount := by omega
    have hproduct : fee * count ≤ fee * count * (100 - discount) :=
      Nat.le_mul_of_pos_right _ hpercent
    have hmax : 2 ^ 64 - 1 ≤ (2 ^ 64 - 1) * (100 - discount) :=
      Nat.le_mul_of_pos_right _ hpercent
    rw [min_eq_right hge, min_eq_right hmax]
    omega

theorem priceFrom_eq_price (fee n : ℕ) {ts : List (UInt64 × UInt64)}
    (h : ∀ t ∈ ts, t.2.toNat < 100) :
    priceFrom fee n ts = price tierCap ((nextTierStart ts).toNat - 1) (rates fee ts) n := by
  induction ts with
  | nil => rfl
  | cons t rest ih =>
    obtain ⟨hdiscount, hrest⟩ := List.forall_mem_cons.mp h
    rw [priceFrom, tierPrice_eq hdiscount, ih hrest, rates, Tiers.price_cons]
    rfl

/-- Five tiers at the cap are well below `u64::MAX`: the sum is never clamped. -/
theorem calculateSubscriptionFees_eq_price (fee : UInt64) (credits : Credits) :
    calculateSubscriptionFees fee credits =
      price tierCap 0 (rates fee.toNat tiers) credits.toNat := by
  have hdiscounts : ∀ t ∈ tiers, t.2.toNat < 100 := by simp [tiers]
  have hle : price tierCap 0 (rates fee.toNat tiers) credits.toNat ≤ 5 * tierCap :=
    Tiers.price_le _ _ _ _
  have hfive : 5 * tierCap ≤ 2 ^ 64 - 1 := by decide
  rw [calculateSubscriptionFees_eq, priceFrom_eq_price _ _ hdiscounts]
  exact min_eq_left (hle.trans hfive)

theorem calculateSubscriptionFees_le (fee : UInt64) (credits : Credits) :
    calculateSubscriptionFees fee credits ≤ 5 * tierCap := by
  rw [calculateSubscriptionFees_eq_price]
  exact Tiers.price_le _ _ _ _

theorem rate_rates_zero (ts : List (UInt64 × UInt64)) : ∀ t ∈ rates 0 ts, t.rate = 0 := by
  induction ts with
  | nil => nofun
  | cons t rest ih => exact List.forall_mem_cons.mpr ⟨Nat.zero_mul _, ih⟩

theorem calculateSubscriptionFees_free {fee : UInt64} (h : fee.toNat = 0) (credits : Credits) :
    calculateSubscriptionFees fee credits = 0 := by
  rw [calculateSubscriptionFees_eq_price, h]
  exact Tiers.price_free (rate_rates_zero tiers)

/-! ## Buying in parts -/

theorem rates_tiers (fee : ℕ) :
    rates fee tiers =
      [⟨10000, fee * 100⟩, ⟨100000, fee * 95⟩, ⟨1000000, fee * 90⟩, ⟨10000000, fee * 80⟩,
        ⟨2 ^ 64 - 2, fee * 70⟩] := rfl

/-- The rates of the source fall, and its tiers grow tenfold. -/
theorem falling_rates {fee : ℕ} (h : fee ≠ 0) : Tiers.Falling 0 (rates fee tiers) := by
  simp only [rates_tiers, Tiers.Falling, List.head?_cons, List.head?_nil, Option.mem_def,
    Option.some.injEq, forall_eq', reduceCtorEq, false_implies, implies_true, and_true]
  omega

/-- NOBODY SAVES BY BUYING IN PARTS: credits together cost at most what they
cost apart, wherever the parts and the whole fall, are rounded or reach the
cap. -/
theorem fees_subadditive (fee : UInt64) (a b : Credits) (h : a.toNat + b.toNat < 2 ^ 64) :
    calculateSubscriptionFees fee (a + b) ≤
      calculateSubscriptionFees fee a + calculateSubscriptionFees fee b := by
  have hsum : (a + b).toNat = a.toNat + b.toNat := by
    rw [UInt64.toNat_add, Nat.mod_eq_of_lt h]
  rcases Nat.eq_zero_or_pos fee.toNat with hzero | hpos
  · rw [calculateSubscriptionFees_free hzero]
    exact Nat.zero_le _
  · have hwhole : ∀ t ∈ (rates fee.toNat tiers).head?, 100 ∣ t.rate := by
      rw [rates_tiers]
      rintro t ⟨⟩
      exact Nat.dvd_mul_left 100 fee.toNat
    rw [calculateSubscriptionFees_eq_price, calculateSubscriptionFees_eq_price,
      calculateSubscriptionFees_eq_price, hsum]
    exact Tiers.price_add_le (falling_rates hpos.ne') hwhole a.toNat b.toNat

/-- The last credit of the first tier and the first of the second, together and
apart. -/
theorem fees_subadditive_firstTiers :
    calculateSubscriptionFees 3 (10000 + 1) = 30002 ∧
      calculateSubscriptionFees 3 (10000 + 1) ≤
        calculateSubscriptionFees 3 10000 + calculateSubscriptionFees 3 1 :=
  ⟨by decide +kernel, fees_subadditive 3 10000 1 (by decide)⟩

/-! ## The price that was meant -/

/-- The loop of `calculate_subscription_fees` as a build with overflow checks
runs it: none where a plain `-` or `+` leaves `u64`. Beside the total it returns
the credits that fell into each tier it came to. -/
def tierLoopChecked (fee credits : UInt64) :
    List (UInt64 × UInt64) → UInt64 → UInt64 → Option (UInt64 × List UInt64)
  | [], totalFee, _ => some (totalFee, [])
  | (currentTierStart, currentTierDiscount) :: rest, totalFee, remainingCredits =>
    if remainingCredits = 0 then some (totalFee, [])
    else do
      let above ← (min credits ((nextTierStart rest).saturatingSub 1)).checkedSub currentTierStart
      let size ← above.checkedAdd 1
      let creditsInTier := min size remainingCredits
      let percent ← (100 : UInt64).checkedSub currentTierDiscount
      let tierFee := ((fee.saturatingMul creditsInTier).saturatingMul percent) / 100
      let (total, counts) ← tierLoopChecked fee credits rest (totalFee.saturatingAdd tierFee)
        (remainingCredits.saturatingSub creditsInTier)
      some (total, creditsInTier :: counts)

/-- What the credits in each tier cost, each rounded down, with no bound on a
number. The last tier has no end. -/
def exactShares (fee n : ℕ) : List (UInt64 × UInt64) → List ℕ
  | [] => []
  | [(start, discount)] => [fee * (n - (start.toNat - 1)) * (100 - discount.toNat) / 100]
  | (start, discount) :: next :: rest =>
    fee * (min n (next.1.toNat - 1) - (start.toNat - 1)) * (100 - discount.toNat) / 100 ::
      exactShares fee n (next :: rest)

/-- The tiered price. -/
def exactPrice (fee n : ℕ) : ℕ := (exactShares fee n tiers).sum

/-- No check fails: the checked loop returns what the loop does. Its counts are
the credits past the tiers before, except the one that `u64::MAX` credits have
too many, as the last tier ends at `u64::MAX - 1`. -/
theorem tierLoopChecked_eq (fee credits : UInt64) :
    ∀ (ts : List (UInt64 × UInt64)) (totalFee remaining : UInt64), Ascending ts →
      remaining.toNat = credits.toNat - ((nextTierStart ts).toNat - 1) →
      ∃ counts : List UInt64,
        tierLoopChecked fee credits ts totalFee remaining =
            some (tierLoop fee credits ts totalFee remaining, counts) ∧
          (counts.map UInt64.toNat).sum =
            min credits.toNat (2 ^ 64 - 2) - ((nextTierStart ts).toNat - 1)
  | [], totalFee, remaining, _, _ => by
    refine ⟨[], rfl, ?_⟩
    have hend : (nextTierStart []).toNat - 1 = 2 ^ 64 - 2 := rfl
    rw [hend, Nat.sub_eq_zero_of_le (min_le_right _ _)]
    rfl
  | (start, discount) :: rest, totalFee, remaining, ha, hremaining => by
    have hstart : (nextTierStart ((start, discount) :: rest)).toNat = start.toNat := rfl
    rw [hstart] at hremaining ⊢
    rw [tierLoopChecked, tierLoop]
    split
    next hzero =>
      have h0 : remaining.toNat = 0 := by rw [hzero]; rfl
      refine ⟨[], rfl, ?_⟩
      rw [List.map_nil, List.sum_nil]
      omega
    next hne =>
      obtain ⟨hpos, hlt, hdiscount, hrest⟩ := ha
      obtain ⟨hle, hfits, -⟩ := tierSize_spec hpos hlt hremaining hne
      have hcount := toNat_creditsInTier hpos hlt hremaining hne
      have hnext := toNat_remainingCredits hpos hlt hremaining hne
      have hsub : (min credits ((nextTierStart rest).saturatingSub 1)).checkedSub start =
          some (min credits ((nextTierStart rest).saturatingSub 1) - start) := if_pos hle
      have hadd : (min credits ((nextTierStart rest).saturatingSub 1) - start).checkedAdd 1 =
          some (min credits ((nextTierStart rest).saturatingSub 1) - start + 1) := if_pos hfits
      have hpercent : (100 : UInt64).checkedSub discount = some (100 - discount) :=
        if_pos (UInt64.le_iff_toNat_le.mpr hdiscount)
      obtain ⟨counts, hloop, hsum⟩ := tierLoopChecked_eq fee credits rest
        (totalFee.saturatingAdd (((fee.saturatingMul
          (min (min credits ((nextTierStart rest).saturatingSub 1) - start + 1)
            remaining)).saturatingMul (100 - discount)) / 100)) _ hrest hnext
      refine ⟨min (min credits ((nextTierStart rest).saturatingSub 1) - start + 1) remaining ::
        counts, ?_, ?_⟩
      · simp only [hsub, hadd, hpercent, hloop, Option.bind_eq_bind, Option.bind_some]
      · have hmax := (nextTierStart rest).toNat_lt
        rw [List.map_cons, List.sum_cons, hcount, hsum]
        unfold creditsBetween
        omega

/-- Up to `u64::MAX - 1` credits the last tier might as well end there. -/
theorem exactShares_eq (fee : ℕ) {n : ℕ} (hn : n ≤ 2 ^ 64 - 2) (ts : List (UInt64 × UInt64)) :
    exactShares fee n ts = Tiers.shares ((nextTierStart ts).toNat - 1) (rates fee ts) n := by
  fun_induction exactShares fee n ts with
  | case1 => rfl
  | case2 start discount =>
    have hend : min n ((nextTierStart []).toNat - 1) = n := min_eq_left hn
    rw [rates, rates, Tiers.shares, Tiers.shares, hend, Nat.mul_right_comm]
    rfl
  | case3 start discount next rest ih =>
    rw [ih, rates, Tiers.shares, Nat.mul_right_comm]
    rfl

theorem exactShares_free (n : ℕ) (ts : List (UInt64 × UInt64)) :
    ∀ share ∈ exactShares 0 n ts, share = 0 := by
  have hfree : ∀ count percent : ℕ, 0 * count * percent / 100 = 0 := by
    intro count percent
    rw [Nat.zero_mul, Nat.zero_mul, Nat.zero_div]
  fun_induction exactShares 0 n ts with
  | case1 => nofun
  | case2 start discount => exact List.forall_mem_singleton.mpr (hfree _ _)
  | case3 start discount next rest ih => exact List.forall_mem_cons.mpr ⟨hfree _ _, ih⟩

/-- `u64::MAX` credits: where they cost anything, the last tier alone costs more
than five tiers at the cap. -/
theorem exactShares_maxValue {fee : ℕ} (h : fee ≠ 0) :
    ∃ share ∈ exactShares fee (2 ^ 64 - 1) tiers, 5 * tierCap < share := by
  refine ⟨fee * (2 ^ 64 - 1 - 10000000) * 70 / 100, ?_, ?_⟩
  · exact List.mem_cons_of_mem _ (List.mem_cons_of_mem _ (List.mem_cons_of_mem _
      (List.mem_cons_of_mem _ (List.mem_singleton_self _))))
  · unfold tierCap
    omega

/-- The loop returns the tiered price exactly if no tier costs more than the
cap. -/
theorem calculateSubscriptionFees_eq_exactPrice_iff (fee : UInt64) (credits : Credits) :
    calculateSubscriptionFees fee credits = exactPrice fee.toNat credits.toNat ↔
      ∀ share ∈ exactShares fee.toNat credits.toNat tiers, share ≤ tierCap := by
  rcases Nat.lt_or_ge credits.toNat (2 ^ 64 - 1) with hlt | hge
  · rw [calculateSubscriptionFees_eq_price, exactPrice, exactShares_eq _ (Nat.le_pred_of_lt hlt)]
    exact Tiers.price_eq_sum_iff
  · have hmax : credits.toNat = 2 ^ 64 - 1 := by
      have := credits.toNat_lt
      omega
    rw [hmax]
    rcases Nat.eq_zero_or_pos fee.toNat with hzero | hpos
    · have hnone := exactShares_free (2 ^ 64 - 1) tiers
      rw [calculateSubscriptionFees_free hzero, exactPrice, hzero, List.sum_eq_zero hnone]
      exact iff_of_true rfl fun share hmem => (hnone share hmem).trans_le (Nat.zero_le _)
    · obtain ⟨share, hmem, hshare⟩ := exactShares_maxValue hpos.ne'
      have hsum : share ≤ exactPrice fee.toNat (2 ^ 64 - 1) := List.le_sum_of_mem hmem
      have hfees := calculateSubscriptionFees_le fee credits
      refine iff_of_false (by omega) fun hall => ?_
      have := hall share hmem
      omega

/-- THE TIERED PRICE IS EXACT, and the arithmetic on the credits is, exactly if
no tier costs more than a hundredth of `u64::MAX`, as long as the price fits at
all. The arithmetic on the credits always is: what goes wrong is the product
with the percent, clamped before it is divided. -/
theorem tiered_price_exact_iff (fee : UInt64) (credits : Credits) :
    ((∃ counts : List UInt64,
          tierLoopChecked fee credits tiers 0 credits =
              some (tierLoop fee credits tiers 0 credits, counts) ∧
            (credits ≠ UInt64.maxValue → (counts.map UInt64.toNat).sum = credits.toNat)) ∧
        (exactPrice fee.toNat credits.toNat < 2 ^ 64 →
          calculateSubscriptionFees fee credits = exactPrice fee.toNat credits.toNat)) ↔
      (exactPrice fee.toNat credits.toNat < 2 ^ 64 →
        ∀ share ∈ exactShares fee.toNat credits.toNat tiers, share ≤ (2 ^ 64 - 1) / 100) := by
  obtain ⟨counts, hloop, hsum⟩ :=
    tierLoopChecked_eq fee credits tiers 0 credits ascending_tiers (Nat.sub_zero _).symm
  have hall : credits ≠ UInt64.maxValue → (counts.map UInt64.toNat).sum = credits.toNat := by
    intro hne
    have hlt := UInt64.toNat_succ_lt hne
    have hfirst : (nextTierStart tiers).toNat - 1 = 0 := rfl
    rw [hsum, hfirst]
    omega
  have hexact := calculateSubscriptionFees_eq_exactPrice_iff fee credits
  constructor
  · intro h hfits
    exact hexact.mp (h.2 hfits)
  · intro h
    exact ⟨⟨counts, hloop, hall⟩, fun hfits => hexact.mpr (h hfits)⟩

/-- The runtime's base fee and a hundred billion credits: the price fits, and
the last tier costs more than the cap. -/
theorem tiered_price_clamped :
    exactPrice 2900000 100000000000 < 2 ^ 64 ∧
      calculateSubscriptionFees 2900000 100000000000 ≠ exactPrice 2900000 100000000000 := by
  decide +kernel

/-! ## Spending credits -/

/-- What is collected along a sequence of credits left. -/
def collectedAlong (fee : UInt64) : List Credits → ℕ
  | first :: next :: rest =>
    (calculateDiffFees fee first next).balance + collectedAlong fee (next :: rest)
  | _ => 0

/-- Along a decreasing sequence the differences telescope. -/
theorem collectedAlong_add (fee : UInt64) (first : Credits) (rest : List Credits)
    (h : (first :: rest).IsChain (· ≥ ·)) :
    collectedAlong fee (first :: rest) +
        calculateSubscriptionFees fee ((first :: rest).getLast (List.cons_ne_nil _ _)) =
      calculateSubscriptionFees fee first := by
  induction rest generalizing first with
  | nil => exact Nat.zero_add _
  | cons next rest ih =>
    obtain ⟨hle, hrest⟩ := List.isChain_cons_cons.mp h
    have hmono := calculateSubscriptionFees_mono fee hle
    have htail := ih next hrest
    rw [collectedAlong, (calculateDiffFees_of_le fee hle).1,
      List.getLast_cons (List.cons_ne_nil next rest)]
    omega

/-- FEES ARE MONOTONE. More credits never cost less. So spending any number of
credits never asks for more to be held, and the differences along a decreasing
sequence of credits add up to the difference of its ends. -/
theorem fees_monotone (fee : UInt64) :
    (∀ a b : Credits, a ≤ b → calculateSubscriptionFees fee a ≤ calculateSubscriptionFees fee b) ∧
      (∀ creditsLeft k : Credits, k ≤ creditsLeft →
        (calculateDiffFees fee creditsLeft (creditsLeft - k)).direction ≠ .collect) ∧
      (∀ creditsLeft k : Credits,
        (calculateDiffFees fee creditsLeft (creditsLeft.saturatingSub k)).direction ≠ .collect) ∧
      ∀ (first : Credits) (rest : List Credits), (first :: rest).IsChain (· ≥ ·) →
        collectedAlong fee (first :: rest) +
            calculateSubscriptionFees fee ((first :: rest).getLast (List.cons_ne_nil _ _)) =
          calculateSubscriptionFees fee first := by
  have hspend : ∀ creditsLeft k : Credits,
      (calculateDiffFees fee creditsLeft (creditsLeft.saturatingSub k)).direction ≠ .collect := by
    intro creditsLeft k
    refine (calculateDiffFees_of_le fee (UInt64.le_iff_toNat_le.mpr ?_)).2
    rw [UInt64.toNat_saturatingSub]
    exact Nat.sub_le _ _
  refine ⟨fun a b h => calculateSubscriptionFees_mono fee h, ?_, hspend,
    collectedAlong_add fee⟩
  intro creditsLeft k h
  have hsub := hspend creditsLeft k
  rwa [UInt64.saturatingSub, if_pos h] at hsub

end IdealNetwork.Manager
