import Mathlib.GroupTheory.SpecificGroups.Cyclic.Basic

/-!
# Pairings of prime-order groups

A pairing is a bilinear map out of two groups into a third, all written
additively. A signature scheme on it checks one equation,
`e sig g = e msg pk`, and everything it promises is a fact about that
equation: it is a single product compared with zero (`sub_pair_eq_zero`),
a sum of signatures satisfies it for the sum of the messages
(`pair_sum_nsmul`), and in groups of prime order, unless the pairing is
trivial, one signature at most satisfies it (`pair_left_injective`).

The two argument groups are kept apart: a pairing of a group with itself may
be trivial on the diagonal.
-/

set_option autoImplicit false

namespace Pairing

variable {A B C : Type} [AddCommGroup A] [AddCommGroup B] [AddCommGroup C] (e : A →+ B →+ C)

/-- Two pairings agree if the product with one argument negated vanishes. -/
theorem sub_pair_eq_zero {a a' : A} {b b' : B} :
    e (-a) b + e a' b' = 0 ↔ e a b = e a' b' := by
  rw [map_neg, AddMonoidHom.neg_apply, neg_add_eq_zero]

/-- Scaling every summand on the left is scaling the right. -/
theorem pair_sum_nsmul {ι : Type} (items : List ι) (f : ι → A) (n : ℕ) (b : B) :
    e (items.map fun i => n • f i).sum b = e (items.map f).sum (n • b) := by
  induction items with
  | nil => simp only [List.map_nil, List.sum_nil, map_zero, AddMonoidHom.zero_apply]
  | cons i rest ih =>
    have hhead : e (n • f i) b = e (f i) (n • b) := by
      rw [map_nsmul, AddMonoidHom.nsmul_apply, map_nsmul]
    rw [List.map_cons, List.sum_cons, List.map_cons, List.sum_cons, map_add, map_add,
      AddMonoidHom.add_apply, AddMonoidHom.add_apply, hhead, ih]

section PrimeOrder

variable {p : ℕ} [Fact p.Prime] {e}

/-- In a group of prime order the multiples of a generator by a number that
the order does not divide are not zero. -/
theorem nsmul_ne_zero_of_card (hB : Nat.card B = p) {b : B} (hb : b ≠ 0) {n : ℕ}
    (hn : ¬ p ∣ n) : n • b ≠ 0 := by
  have hp : p • b = 0 := hB ▸ card_nsmul_eq_zero'
  have horder : addOrderOf b = p := addOrderOf_eq_prime hp hb
  intro h
  exact hn (horder ▸ addOrderOf_dvd_of_nsmul_eq_zero h)

/-- A pairing of groups of prime order that is not trivial vanishes only at
zero: either argument, if it is not zero, generates its group. -/
theorem eq_zero_or_eq_zero (hA : Nat.card A = p) (hB : Nat.card B = p) (he : e ≠ 0)
    {a : A} {b : B} (h : e a b = 0) : a = 0 ∨ b = 0 := by
  by_contra hne
  rw [not_or] at hne
  refine he (AddMonoidHom.ext fun a' => AddMonoidHom.ext fun b' => ?_)
  have ha' : a' ∈ AddSubgroup.zmultiples a := mem_zmultiples_of_prime_card hA hne.1
  have hb' : b' ∈ AddSubgroup.zmultiples b := mem_zmultiples_of_prime_card hB hne.2
  obtain ⟨m, rfl⟩ := AddSubgroup.mem_zmultiples_iff.mp ha'
  obtain ⟨n, rfl⟩ := AddSubgroup.mem_zmultiples_iff.mp hb'
  calc e (m • a) (n • b) = n • m • e a b := by
        rw [map_zsmul, map_zsmul e, AddMonoidHom.zsmul_apply]
    _ = 0 := by rw [h, smul_zero, smul_zero]

/-- One argument is determined by the pairing with another that is not zero. -/
theorem pair_left_injective (hA : Nat.card A = p) (hB : Nat.card B = p) (he : e ≠ 0)
    {b : B} (hb : b ≠ 0) : Function.Injective fun a => e a b := by
  intro a a' h
  have hsub : e (a - a') b = 0 := by
    rw [map_sub, AddMonoidHom.sub_apply]
    exact sub_eq_zero.mpr h
  exact sub_eq_zero.mp ((eq_zero_or_eq_zero hA hB he hsub).resolve_right hb)

end PrimeOrder

end Pairing
