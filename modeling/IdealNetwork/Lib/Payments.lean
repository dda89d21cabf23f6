import Mathlib.Algebra.BigOperators.Ring.Finset
import Mathlib.Data.Finsupp.Weight
import IdealNetwork.Lib.Holds

/-!
# What a currency keeps

Holding and releasing move money between the columns of one account, and a
transfer moves it from one account to another. So the total of an account, free
and on hold, changes by payments only. `Paid dst paid L L'` says that from `L`
to `L'` every account has paid its part of `paid` to `dst`, and that nothing
else has happened to any total; it composes (`Paid.trans`), and every operation
of a lawful currency is an instance of it.
-/

set_option autoImplicit false

namespace Holds

variable {Account Reason Err : Type} [DecidableEq Account] [Fintype Reason]
variable {C : Currency Account Reason Err} {L L' L'' : C.Ledger} {r : Reason}
variable {who src dst : Account} {n m : ℕ} {paid paid' : Account →₀ ℕ}

/-- All that an account has, free and on hold. -/
def Currency.total (C : Currency Account Reason Err) (L : C.Ledger) (who : Account) : ℕ :=
  C.balance L who + ∑ r, C.balanceOnHold L r who

/-- From one ledger to another, accounts have paid to one of them, and nothing
else has changed what any of them has. -/
def Paid (dst : Account) (paid : Account →₀ ℕ) (L L' : C.Ledger) : Prop :=
  ∀ who, C.total L' who + paid who = C.total L who + if who = dst then paid.degree else 0

theorem Paid.of_total (h : ∀ who, C.total L' who = C.total L who) : Paid dst 0 L L' := by
  intro who
  rw [h, map_zero, ite_self]
  rfl

theorem Paid.refl (L : C.Ledger) : Paid dst 0 L L := .of_total fun _ => rfl

theorem Paid.trans (h : Paid dst paid L L') (h' : Paid dst paid' L' L'') :
    Paid dst (paid + paid') L L'' := by
  intro who
  have hfirst := h who
  have hsecond := h' who
  rw [Finsupp.add_apply, map_add]
  split at hfirst
  next hdst =>
    rw [if_pos hdst] at hsecond ⊢
    omega
  next hdst =>
    rw [if_neg hdst] at hsecond ⊢
    omega

/-- Movements within accounts compose. -/
theorem Paid.trans_zero (h : Paid dst 0 L L') (h' : Paid dst 0 L' L'') : Paid dst 0 L L'' := by
  have hboth := h.trans h'
  rwa [add_zero] at hboth

variable [DecidableEq Reason]

/-- An amount that stands under one reason adds up to itself. -/
theorem sum_ite_reason (r : Reason) (p : Prop) [Decidable p] (n : ℕ) :
    (∑ r', if r' = r ∧ p then n else 0) = if p then n else 0 := by
  by_cases hp : p
  · simp only [hp, and_true, if_true, Finset.sum_ite_eq', Finset.mem_univ]
  · simp only [hp, and_false, if_false, Finset.sum_const_zero]

theorem Currency.Lawful.hold_paid (law : C.Lawful) (h : C.hold r who n L = .ok L') :
    Paid dst 0 L L' := by
  refine .of_total fun w => ?_
  have hfree := law.hold_balance h w
  have hheld : ∑ r', C.balanceOnHold L' r' w =
      ∑ r', C.balanceOnHold L r' w + if w = who then n else 0 := by
    rw [← sum_ite_reason r, ← Finset.sum_add_distrib]
    exact Finset.sum_congr rfl fun r' _ => law.hold_onHold h r' w
  unfold Currency.total
  omega

theorem Currency.Lawful.release_paid (law : C.Lawful) {p : Precision}
    (h : C.release r who n p L = .ok (m, L')) : Paid dst 0 L L' := by
  refine .of_total fun w => ?_
  have hfree := law.release_balance h w
  have hheld : ∑ r', C.balanceOnHold L r' w =
      ∑ r', C.balanceOnHold L' r' w + if w = who then m else 0 := by
    rw [← sum_ite_reason r, ← Finset.sum_add_distrib]
    exact Finset.sum_congr rfl fun r' _ => law.release_onHold h r' w
  unfold Currency.total
  omega

/-- A transfer out of a hold is a payment of what it reports. -/
theorem Currency.Lawful.transfer_paid (law : C.Lawful)
    (h : C.transferOnHold r src dst n .bestEffort .free .polite L = .ok (m, L')) :
    Paid dst (.single src m) L L' := by
  intro w
  have hfree := law.transfer_balance h w
  have hheld : ∑ r', C.balanceOnHold L r' w =
      ∑ r', C.balanceOnHold L' r' w + if w = src then m else 0 := by
    rw [← sum_ite_reason r, ← Finset.sum_add_distrib]
    exact Finset.sum_congr rfl fun r' _ => law.transfer_onHold h r' w
  have hsingle : Finsupp.single src m w = if w = src then m else 0 := by
    rw [Finsupp.single_apply]
    exact if_congr eq_comm rfl rfl
  rw [hsingle, Finsupp.degree_single]
  unfold Currency.total
  omega

end Holds
