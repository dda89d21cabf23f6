import Mathlib.Algebra.Order.BigOperators.Group.List
import Mathlib.Algebra.Order.Group.Nat
import Mathlib.Algebra.Ring.Nat

/-!
# Tiered prices

Units are bought in bulk: the first of them at one rate, the next at another,
and so on. A tier is the last unit it covers and a rate in hundredths. What
the units in it cost is rounded down to a whole number and is at most a cap.

The price is then far from concave. It is flat where a tier has reached the
cap and rises again where the next one begins. Still, to split a purchase does
not make it cheaper (`price_add_le`), if rates fall from tier to tier and each
tier is long beside those before it (`Falling`).

The argument goes through the tiers up to the one in which the greater part
`b` ends. The tiers before it cost `b` and `a + b` the same. What `a` pays in
them is carried along: it is the cap, or it makes up for the credits that `a`
would need at the rate of the tier reached (`Covers`).
-/

set_option autoImplicit false

namespace Tiers

/-- A tier: the last unit in it, and what a unit costs, in hundredths. -/
structure Tier where
  last : ℕ
  rate : ℕ

/-- What the units in each tier cost, rounded down. `done` units are in the
tiers before. -/
def shares : ℕ → List Tier → ℕ → List ℕ
  | _, [], _ => []
  | done, t :: rest, n => t.rate * (min n t.last - done) / 100 :: shares t.last rest n

/-- What the units cost when no tier costs more than the cap. -/
def price (cap done : ℕ) (ts : List Tier) (n : ℕ) : ℕ :=
  ((shares done ts n).map fun share => min share cap).sum

variable {cap done n a b s : ℕ} {t : Tier} {ts rest : List Tier}

@[simp] theorem price_nil : price cap done [] n = 0 := rfl

@[simp] theorem price_cons :
    price cap done (t :: rest) n =
      min (t.rate * (min n t.last - done) / 100) cap + price cap t.last rest n := rfl

/-- Every tier ends after the one before. -/
def Ordered : ℕ → List Tier → Prop
  | _, [] => True
  | done, t :: rest => done ≤ t.last ∧ Ordered t.last rest

/-- Tiers that begin after the units cost nothing. -/
theorem price_eq_zero (h : Ordered done ts) (hn : n ≤ done) : price cap done ts n = 0 := by
  induction ts generalizing done with
  | nil => rfl
  | cons t rest ih =>
    have hnone : min n t.last - done = 0 := by omega
    rw [price_cons, hnone, ih h.2 (hn.trans h.1), Nat.mul_zero, Nat.zero_div, Nat.zero_min]

/-- Where every rate is zero, units are free. -/
theorem price_free (h : ∀ t ∈ ts, t.rate = 0) : price cap done ts n = 0 := by
  induction ts generalizing done with
  | nil => rfl
  | cons t rest ih =>
    obtain ⟨hrate, hrest⟩ := List.forall_mem_cons.mp h
    rw [price_cons, hrate, ih hrest, Nat.zero_mul, Nat.zero_div, Nat.zero_min]

/-! ## Caps -/

theorem sum_map_min_le (items : List ℕ) : (items.map fun item => min item cap).sum ≤ items.sum :=
  (List.sum_le_sum fun item _ => min_le_left item cap).trans_eq (by rw [List.map_id'])

theorem price_le (cap done : ℕ) (ts : List Tier) (n : ℕ) :
    price cap done ts n ≤ ts.length * cap := by
  induction ts generalizing done with
  | nil => exact Nat.zero_le _
  | cons t rest ih =>
    have hrest := ih t.last
    rw [price_cons, List.length_cons, Nat.succ_mul]
    omega

/-- The price is the exact one exactly if no tier costs more than the cap. -/
theorem price_eq_sum_iff :
    price cap done ts n = (shares done ts n).sum ↔ ∀ share ∈ shares done ts n, share ≤ cap := by
  unfold price
  induction shares done ts n with
  | nil => exact iff_of_true rfl nofun
  | cons share items ih =>
    have hle : min share cap ≤ share := min_le_left share cap
    have hrest : (items.map fun item => min item cap).sum ≤ items.sum := sum_map_min_le items
    rw [List.map_cons, List.sum_cons, List.sum_cons, List.forall_mem_cons, ← ih]
    omega

/-! ## Splitting a purchase -/

/-- Rates fall, and a tier is longer than all before it. Two prices that are
rounded down lose less than 198 hundredths together: the differences make up
for that. -/
def Falling : ℕ → List Tier → Prop
  | _, [] => True
  | done, t :: rest =>
    t.rate * (2 * done) + 198 ≤ t.rate * t.last ∧
      (∀ next ∈ rest.head?, next.rate * t.last + 198 ≤ t.rate * t.last) ∧ Falling t.last rest

theorem two_mul_le_last {rate last : ℕ} (h : rate * (2 * done) + 198 ≤ rate * last) :
    2 * done ≤ last :=
  (Nat.lt_of_mul_lt_mul_left (a := rate) (by omega)).le

theorem Falling.ordered (h : Falling done ts) : Ordered done ts := by
  induction ts generalizing done with
  | nil => trivial
  | cons t rest ih =>
    have hlong := two_mul_le_last h.1
    exact ⟨by omega, ih h.2.2⟩

/-- `s` was paid for those of `a` units that are in the tiers before. That is
the cap, or enough for all `a` units at the rate of this tier, rounded up,
together with what those of them cost here that are not in the tiers before. -/
def Covers (cap a s done rate : ℕ) : Prop :=
  cap ≤ s ∨ rate * a ≤ 100 * (s + rate * (a - done) / 100)

/-- What is paid in a tier covers the next one. -/
theorem Covers.next {rate last next : ℕ} (h : Covers cap a s done rate) (hlast : done ≤ last)
    (hfall : next * last + 198 ≤ rate * last) :
    Covers cap a (s + min (rate * (min a last - done) / 100) cap) last next := by
  have hrate : next ≤ rate := Nat.le_of_mul_le_mul_right (c := last) (by omega) (by
    refine Nat.pos_of_ne_zero fun hzero => ?_
    rw [hzero] at hfall
    omega)
  rcases h with hcap | hcovers
  · exact Or.inl (by omega)
  rcases Nat.lt_or_ge (rate * (min a last - done) / 100) cap with hbelow | hcap
  · refine Or.inr ?_
    rw [min_eq_left hbelow.le]
    rcases Nat.le_total a last with hle | hle
    · -- all of `a` has been paid for, at the higher rate
      have hmul : next * a ≤ rate * a := Nat.mul_le_mul_right a hrate
      rw [min_eq_left hle, Nat.sub_eq_zero_of_le hle]
      omega
    · have hbefore : rate * a = rate * done + rate * (a - done) := by
        rw [← Nat.mul_add, Nat.add_sub_of_le (hlast.trans hle)]
      have hhere : rate * last = rate * done + rate * (last - done) := by
        rw [← Nat.mul_add, Nat.add_sub_of_le hlast]
      have hafter : next * a = next * last + next * (a - last) := by
        rw [← Nat.mul_add, Nat.add_sub_of_le hle]
      rw [min_eq_right hle]
      omega
  · exact Or.inl (by omega)

/-- The tier in which `b` ends, and the next: what `a + b` pays in them. -/
theorem Covers.split {rate last next : ℕ} (h : Covers cap a s done rate) (hab : a ≤ b)
    (hdone : done ≤ b) (hlast : b ≤ last) (hlong : rate * (2 * done) + 198 ≤ rate * last)
    (hfall : next ≤ rate) :
    min (rate * (min (a + b) last - done) / 100) cap + min (next * (a + b - last) / 100) cap ≤
      min (rate * (b - done) / 100) cap + (s + min (rate * (a - done) / 100) cap) := by
  have hnext : next * (a + b - last) ≤ rate * (a + b - last) := Nat.mul_le_mul_right _ hfall
  have hparts : rate * (a - done) ≤ rate * (b - done) := Nat.mul_le_mul_left rate (by omega)
  rcases h with hcap | hcovers
  · -- `a` has paid the cap before: the next tier is paid for in this one
    have hbeyond : rate * (a + b - last) + rate * last ≤
        rate * (a - done) + rate * (b - done) + rate * (2 * done) ∨ a + b - last = 0 := by
      rcases Nat.eq_zero_or_pos (a + b - last) with hzero | hpos
      · exact Or.inr hzero
      · left
        rw [← Nat.mul_add, ← Nat.mul_add, ← Nat.mul_add]
        exact Nat.mul_le_mul_left rate (by omega)
    rcases hbeyond with hbeyond | hnone
    · omega
    · rw [hnone, Nat.mul_zero]
      omega
  · have hsplit : rate * (min (a + b) last - done) + rate * (a + b - last) =
        rate * (b - done) + rate * a := by
      rw [← Nat.mul_add, ← Nat.mul_add]
      congr 1
      omega
    have hless : rate * (a + b - last) ≤ rate * a := Nat.mul_le_mul_left rate (by omega)
    omega

/-- The run through the tiers. -/
theorem price_add_le_from (hab : a ≤ b) (hfall : Falling done ts) (hdone : done ≤ b)
    (hcovers : ∀ t ∈ ts.head?, Covers cap a s done t.rate) :
    price cap done ts (a + b) ≤ price cap done ts b + (s + price cap done ts a) := by
  induction ts generalizing done s with
  | nil => exact Nat.zero_le _
  | cons t rest ih =>
    obtain ⟨hlong, hrates, hrest⟩ := hfall
    have hcover := hcovers t rfl
    have hlast := two_mul_le_last hlong
    simp only [price_cons]
    rcases Nat.le_total t.last b with hfull | hends
    · -- `b` and `a + b` fill the tier, and what `a` pays in it is carried on
      have hnext := ih (s := s + min (t.rate * (min a t.last - done) / 100) cap) hrest hfull
        fun next hnext => hcover.next (by omega) (hrates next hnext)
      rw [min_eq_right hfull, min_eq_right (hfull.trans (Nat.le_add_left b a))]
      omega
    · have hb : price cap t.last rest b = 0 := price_eq_zero hrest.ordered hends
      have ha : price cap t.last rest a = 0 := price_eq_zero hrest.ordered (hab.trans hends)
      rw [hb, ha, min_eq_left hends, min_eq_left (hab.trans hends), Nat.add_zero, Nat.add_zero]
      cases rest with
      | nil =>
        have hsplit := hcover.split hab hdone hends hlong (Nat.zero_le t.rate)
        rw [price_nil]
        omega
      | cons next more =>
        have hreach := two_mul_le_last hrest.1
        have hrate : next.rate ≤ t.rate := by
          have hmul := hrates next rfl
          exact (Nat.lt_of_mul_lt_mul_right (a := t.last) (by omega)).le
        have hmore : price cap next.last more (a + b) = 0 :=
          price_eq_zero hrest.2.2.ordered (by omega)
        have hsplit := hcover.split hab hdone hends hlong hrate
        rw [price_cons, hmore, min_eq_left (show a + b ≤ next.last by omega)]
        omega

/-- TO SPLIT A PURCHASE IS NOT CHEAPER, where rates fall and the first of them
is in whole units. -/
theorem price_add_le (hfall : Falling 0 ts) (hwhole : ∀ t ∈ ts.head?, 100 ∣ t.rate) (a b : ℕ) :
    price cap 0 ts (a + b) ≤ price cap 0 ts a + price cap 0 ts b := by
  have hcovers : ∀ n, ∀ t ∈ ts.head?, Covers cap n 0 0 t.rate := by
    intro n t ht
    obtain ⟨unit, hunit⟩ := hwhole t ht
    rw [Covers, hunit, Nat.sub_zero, Nat.mul_assoc, Nat.mul_div_cancel_left _ (by decide)]
    exact Or.inr (by omega)
  rcases Nat.le_total a b with hab | hba
  · have h := price_add_le_from hab hfall (Nat.zero_le b) (hcovers a)
    omega
  · have h := price_add_le_from hba hfall (Nat.zero_le a) (hcovers b)
    rw [Nat.add_comm b a] at h
    omega

end Tiers
