import Mathlib.Data.Nat.Basic
import Mathlib.Order.MinMax
import Mathlib.Tactic.Common

/-!
# Currencies with named holds

A currency lets a runtime put part of an account's balance on hold under a
reason, give it back, or pay it out to another account. How it decides
whether an operation goes through is its own business; `Currency` names the
operations and `Currency.Lawful` says what a successful one moves. A failing
operation moves nothing, which the types already say: it returns no ledger.

`Currency.PaysHeld` is apart from the accounting laws, because it is the one
promise that an operation does go through.

`plain` is the least such currency: two columns of numbers.
-/

set_option autoImplicit false

namespace Holds

/-- Whether a movement may fall short of the amount asked for. -/
inductive Precision where
  | exact
  | bestEffort
deriving DecidableEq

/-- Whether a transferred hold arrives free or on hold. -/
inductive Restriction where
  | free
  | onHold
deriving DecidableEq

/-- Whether a movement may break other constraints on the account. -/
inductive Fortitude where
  | polite
  | force
deriving DecidableEq

structure Currency (Account Reason Err : Type) where
  Ledger : Type
  balance : Ledger → Account → ℕ
  balanceOnHold : Ledger → Reason → Account → ℕ
  hold : Reason → Account → ℕ → Ledger → Except Err Ledger
  release : Reason → Account → ℕ → Precision → Ledger → Except Err (ℕ × Ledger)
  transferOnHold : Reason → Account → Account → ℕ → Precision → Restriction → Fortitude →
    Ledger → Except Err (ℕ × Ledger)

variable {Account Reason Err : Type} [DecidableEq Account] [DecidableEq Reason]

/-- What successful operations move. -/
structure Currency.Lawful (C : Currency Account Reason Err) : Prop where
  /-- A hold adds its amount to one hold of one account. -/
  hold_onHold : ∀ {r who n L L'}, C.hold r who n L = .ok L' → ∀ r' w,
    C.balanceOnHold L' r' w = C.balanceOnHold L r' w + if r' = r ∧ w = who then n else 0
  /-- It takes the amount from the account's free balance. -/
  hold_balance : ∀ {r who n L L'}, C.hold r who n L = .ok L' → ∀ w,
    C.balance L w = C.balance L' w + if w = who then n else 0
  /-- A release takes what it reports from one hold of one account. -/
  release_onHold : ∀ {r who n p L m L'}, C.release r who n p L = .ok (m, L') → ∀ r' w,
    C.balanceOnHold L r' w = C.balanceOnHold L' r' w + if r' = r ∧ w = who then m else 0
  /-- It gives the amount to the account's free balance. -/
  release_balance : ∀ {r who n p L m L'}, C.release r who n p L = .ok (m, L') → ∀ w,
    C.balance L' w = C.balance L w + if w = who then m else 0
  /-- An exact release goes through when the amount is there, and in full. -/
  release_exact : ∀ {r who n} {L : C.Ledger}, n ≤ C.balanceOnHold L r who →
    ∃ L', C.release r who n .exact L = .ok (n, L')
  /-- An exact release of more than is held fails. -/
  release_exact_fails : ∀ {r who n} {L : C.Ledger}, C.balanceOnHold L r who < n →
    ∃ e, C.release r who n .exact L = .error e
  /-- A best-effort release gives back as much of the amount as is held. -/
  release_bestEffort : ∀ r who n (L : C.Ledger),
    ∃ L', C.release r who n .bestEffort L = .ok (min n (C.balanceOnHold L r who), L')
  /-- A transfer takes what it reports from one hold of its source. -/
  transfer_onHold : ∀ {r src dst n L m L'},
    C.transferOnHold r src dst n .bestEffort .free .polite L = .ok (m, L') → ∀ r' w,
    C.balanceOnHold L r' w = C.balanceOnHold L' r' w + if r' = r ∧ w = src then m else 0
  /-- It gives the amount to the free balance of its destination. -/
  transfer_balance : ∀ {r src dst n L m L'},
    C.transferOnHold r src dst n .bestEffort .free .polite L = .ok (m, L') → ∀ w,
    C.balance L' w = C.balance L w + if w = dst then m else 0
  /-- A best-effort transfer moves no more than it was asked to. -/
  transfer_le : ∀ {r src dst n L m L'},
    C.transferOnHold r src dst n .bestEffort .free .polite L = .ok (m, L') → m ≤ n

/-- An amount that is on hold can be paid out in full. -/
def Currency.PaysHeld (C : Currency Account Reason Err) : Prop :=
  ∀ {r src dst n} {L : C.Ledger}, n ≤ C.balanceOnHold L r src →
    ∃ L', C.transferOnHold r src dst n .bestEffort .free .polite L = .ok (n, L')

/-- An exact release that goes through was of what it reports, and that much
was held. -/
theorem Currency.Lawful.released_exact {C : Currency Account Reason Err} (law : C.Lawful)
    {r : Reason} {who : Account} {n m : ℕ} {L L' : C.Ledger}
    (h : C.release r who n .exact L = .ok (m, L')) : m = n ∧ n ≤ C.balanceOnHold L r who := by
  by_cases hle : n ≤ C.balanceOnHold L r who
  · obtain ⟨L₁, hok⟩ := law.release_exact hle
    rw [hok] at h
    cases h
    exact ⟨rfl, hle⟩
  · obtain ⟨e, herror⟩ := law.release_exact_fails (Nat.not_le.mp hle)
    rw [herror] at h
    cases h

/-- A best-effort release reports what it could give back. -/
theorem Currency.Lawful.released_bestEffort {C : Currency Account Reason Err} (law : C.Lawful)
    {r : Reason} {who : Account} {n m : ℕ} {L L' : C.Ledger}
    (h : C.release r who n .bestEffort L = .ok (m, L')) :
    m = min n (C.balanceOnHold L r who) := by
  obtain ⟨L₁, hok⟩ := law.release_bestEffort r who n L
  rw [hok] at h
  cases h
  rfl

/-! ## The plain ledger -/

/-- Free and held balances, as two columns. -/
structure PlainLedger (Account Reason : Type) where
  free : Account → ℕ
  held : Reason → Account → ℕ

/-- Set one free balance. -/
def PlainLedger.setFree (L : PlainLedger Account Reason) (who : Account) (n : ℕ) :
    PlainLedger Account Reason :=
  { L with free := fun w => if w = who then n else L.free w }

/-- Set one held balance. -/
def PlainLedger.setHeld (L : PlainLedger Account Reason) (r : Reason) (who : Account) (n : ℕ) :
    PlainLedger Account Reason :=
  { L with held := fun r' w => if r' = r ∧ w = who then n else L.held r' w }

/-- Pay `n` of a hold into a free balance. -/
def PlainLedger.payHeld (L : PlainLedger Account Reason) (r : Reason) (src dst : Account)
    (n : ℕ) : PlainLedger Account Reason :=
  (L.setHeld r src (L.held r src - n)).setFree dst (L.free dst + n)

/-- The currency of plain ledgers, failing with `short` when an amount is not there. -/
def plain (Account Reason : Type) [DecidableEq Account] [DecidableEq Reason] {Err : Type}
    (short : Err) : Currency Account Reason Err where
  Ledger := PlainLedger Account Reason
  balance L := L.free
  balanceOnHold L := L.held
  hold r who n L :=
    if n ≤ L.free who then
      .ok ((L.setFree who (L.free who - n)).setHeld r who (L.held r who + n))
    else .error short
  release r who n p L :=
    match p with
    | .exact => if n ≤ L.held r who then .ok (n, L.payHeld r who who n) else .error short
    | .bestEffort =>
      .ok (min n (L.held r who), L.payHeld r who who (min n (L.held r who)))
  transferOnHold r src dst n p _ _ L :=
    match p with
    | .exact => if n ≤ L.held r src then .ok (n, L.payHeld r src dst n) else .error short
    | .bestEffort =>
      .ok (min n (L.held r src), L.payHeld r src dst (min n (L.held r src)))

/-- Paying out of a hold moves the amount and nothing else. -/
theorem PlainLedger.payHeld_spec {L : PlainLedger Account Reason} {r : Reason}
    {src : Account} {n : ℕ} (dst : Account) (h : n ≤ L.held r src) :
    (∀ r' w, L.held r' w =
        (L.payHeld r src dst n).held r' w + if r' = r ∧ w = src then n else 0) ∧
      ∀ w, (L.payHeld r src dst n).free w = L.free w + if w = dst then n else 0 := by
  constructor
  · intro r' w
    simp only [payHeld, setFree, setHeld]
    split
    next heq =>
      obtain ⟨rfl, rfl⟩ := heq
      omega
    next => rfl
  · intro w
    simp only [payHeld, setFree, setHeld]
    split
    next heq => rw [heq]
    next => rfl

/-- Every release that goes through pays a covered amount back to its account. -/
theorem plain_release_ok {short : Err} {r : Reason} {who : Account} {n m : ℕ} {p : Precision}
    {L L' : PlainLedger Account Reason}
    (h : (plain Account Reason short).release r who n p L = .ok (m, L')) :
    m ≤ L.held r who ∧ L' = L.payHeld r who who m := by
  cases p with
  | exact =>
    simp only [plain] at h
    split at h
    next hle =>
      cases h
      exact ⟨hle, rfl⟩
    next => cases h
  | bestEffort =>
    cases h
    exact ⟨min_le_right _ _, rfl⟩

/-- A best-effort transfer pays as much of the amount as is held. -/
theorem plain_transfer_ok {short : Err} {r : Reason} {src dst : Account} {n m : ℕ}
    {L L' : PlainLedger Account Reason}
    (h : (plain Account Reason short).transferOnHold r src dst n .bestEffort .free .polite L =
      .ok (m, L')) :
    m = min n (L.held r src) ∧ L' = L.payHeld r src dst m := by
  cases h
  exact ⟨rfl, rfl⟩

/-- A hold that goes through takes a covered amount from the free balance. -/
theorem plain_hold_ok {short : Err} {r : Reason} {who : Account} {n : ℕ}
    {L L' : PlainLedger Account Reason}
    (h : (plain Account Reason short).hold r who n L = .ok L') :
    n ≤ L.free who ∧ L' = (L.setFree who (L.free who - n)).setHeld r who (L.held r who + n) := by
  simp only [plain] at h
  split at h
  next hle =>
    cases h
    exact ⟨hle, rfl⟩
  next => cases h

theorem plain_lawful (short : Err) : (plain Account Reason short).Lawful where
  hold_onHold := by
    intro r who n L L' h r' w
    obtain ⟨_, rfl⟩ := plain_hold_ok h
    simp only [plain, PlainLedger.setHeld, PlainLedger.setFree]
    split
    next heq =>
      obtain ⟨rfl, rfl⟩ := heq
      rfl
    next => rfl
  hold_balance := by
    intro r who n L L' h w
    obtain ⟨hle, rfl⟩ := plain_hold_ok h
    simp only [plain, PlainLedger.setHeld, PlainLedger.setFree]
    split
    next heq =>
      subst heq
      omega
    next => rfl
  release_onHold := by
    intro r who n p L m L' h
    obtain ⟨hle, rfl⟩ := plain_release_ok h
    exact (PlainLedger.payHeld_spec who hle).1
  release_balance := by
    intro r who n p L m L' h
    obtain ⟨hle, rfl⟩ := plain_release_ok h
    exact (PlainLedger.payHeld_spec who hle).2
  release_exact := fun {r who n L} h => ⟨L.payHeld r who who n, if_pos h⟩
  release_exact_fails := fun h => ⟨short, if_neg (Nat.not_le.mpr h)⟩
  release_bestEffort := fun _ _ _ _ => ⟨_, rfl⟩
  transfer_onHold := by
    intro r src dst n L m L' h
    obtain ⟨rfl, rfl⟩ := plain_transfer_ok h
    exact (PlainLedger.payHeld_spec dst (min_le_right _ _)).1
  transfer_balance := by
    intro r src dst n L m L' h
    obtain ⟨rfl, rfl⟩ := plain_transfer_ok h
    exact (PlainLedger.payHeld_spec dst (min_le_right _ _)).2
  transfer_le := by
    intro r src dst n L m L' h
    obtain ⟨rfl, rfl⟩ := plain_transfer_ok h
    exact min_le_left _ _

theorem plain_paysHeld (short : Err) : (plain Account Reason short).PaysHeld := by
  intro r src dst n L h
  refine ⟨L.payHeld r src dst n, ?_⟩
  have hmin : min n (L.held r src) = n := min_eq_left h
  simp only [plain, hmin]

end Holds
