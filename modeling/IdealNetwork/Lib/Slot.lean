import Mathlib.Data.List.Nodup
import Mathlib.Logic.Function.Basic
import Mathlib.Order.Basic

/-!
# One holder per epoch

Holders share a slot that shows one epoch. A holder takes the current epoch
if the slot does not show it, and shows it there. Later it finishes the
epoch, drops it, or releases it, which empties the slot. The current epoch
never goes back.

No epoch is finished twice (`Exclusive.once`), whatever the holders do in
which order, if a release finds the slot empty or showing the epoch that is
released. The reason is that an epoch that is held or finished is either past
or shown.
-/

set_option autoImplicit false

namespace Slot

variable {ι ε : Type}

structure State (ι ε : Type) where
  now : ε
  slot : Option ε
  held : ι → Option ε
  finished : List ε

variable {s t : State ι ε} {i j : ι} {e : ε}

/-- What is still held when one holder has let go. -/
theorem held_of_update_none [DecidableEq ι] (h : Function.update s.held i none j = some e) :
    j ≠ i ∧ s.held j = some e := by
  by_cases hji : j = i
  · subst hji
    rw [Function.update_self] at h
    cases h
  · exact ⟨hji, Function.update_of_ne hji none s.held ▸ h⟩

variable [PartialOrder ε]

/-- An epoch is held or finished. -/
def State.Taken (s : State ι ε) (e : ε) : Prop := (∃ i, s.held i = some e) ∨ e ∈ s.finished

structure Exclusive (s : State ι ε) : Prop where
  once : s.finished.Nodup
  alone : ∀ {i j e}, s.held i = some e → s.held j = some e → i = j
  unfinished : ∀ {i e}, s.held i = some e → e ∉ s.finished
  shown : ∀ {e}, s.Taken e → e < s.now ∨ e = s.now ∧ s.slot = some e

/-- The current epoch is not taken while the slot does not show it. -/
theorem Exclusive.not_taken_now (h : Exclusive s) (free : s.slot ≠ some s.now) :
    ¬ s.Taken s.now := by
  intro htaken
  rcases h.shown htaken with hlt | ⟨-, hslot⟩
  · exact lt_irrefl _ hlt
  · exact free hslot

variable [DecidableEq ι]

/-- What can happen. -/
inductive Step (s : State ι ε) : State ι ε → Prop
  | stay : Step s s
  | tick {now : ε} (later : s.now ≤ now) : Step s { s with now }
  | drop (i : ι) : Step s { s with held := Function.update s.held i none }
  | take (i : ι) (free : s.slot ≠ some s.now) :
      Step s { s with
        slot := some s.now
        held := Function.update s.held i (some s.now) }
  | finish (i : ι) {e : ε} (holds : s.held i = some e) :
      Step s { s with
        held := Function.update s.held i none
        finished := s.finished ++ [e] }
  | release (i : ι) {e : ε} (holds : s.held i = some e)
      (own : s.slot = none ∨ s.slot = some e) :
      Step s { s with
        slot := none
        held := Function.update s.held i none }

theorem Exclusive.take (h : Exclusive s) (i : ι) (free : s.slot ≠ some s.now) :
    Exclusive { s with slot := some s.now, held := Function.update s.held i (some s.now) } := by
  have hnow := h.not_taken_now free
  have hheld : ∀ {j e}, Function.update s.held i (some s.now) j = some e →
      (j = i ∧ e = s.now) ∨ s.held j = some e := by
    intro j e hj
    by_cases hji : j = i
    · subst hji
      rw [Function.update_self] at hj
      exact Or.inl ⟨rfl, (Option.some.inj hj).symm⟩
    · exact Or.inr (Function.update_of_ne hji (some s.now) s.held ▸ hj)
  refine ⟨h.once, ?_, ?_, ?_⟩
  · intro j k e hj hk
    rcases hheld hj with ⟨rfl, rfl⟩ | hj'
    · rcases hheld hk with ⟨rfl, -⟩ | hk'
      · rfl
      · exact absurd (Or.inl ⟨k, hk'⟩) hnow
    · rcases hheld hk with ⟨rfl, rfl⟩ | hk'
      · exact absurd (Or.inl ⟨j, hj'⟩) hnow
      · exact h.alone hj' hk'
  · intro j e hj
    rcases hheld hj with ⟨-, rfl⟩ | hj'
    · exact fun hmem => hnow (Or.inr hmem)
    · exact h.unfinished hj'
  · have hold : ∀ {e}, s.Taken e → e < s.now := by
      intro e htaken
      rcases h.shown htaken with hlt | ⟨rfl, -⟩
      · exact hlt
      · exact absurd htaken hnow
    rintro e (⟨j, hj⟩ | hmem)
    · rcases hheld hj with ⟨-, rfl⟩ | hj'
      · exact Or.inr ⟨rfl, rfl⟩
      · exact Or.inl (hold (Or.inl ⟨j, hj'⟩))
    · exact Or.inl (hold (Or.inr hmem))

theorem Exclusive.finish (h : Exclusive s) (holds : s.held i = some e) :
    Exclusive { s with
      held := Function.update s.held i none
      finished := s.finished ++ [e] } := by
  refine ⟨?_, ?_, ?_, ?_⟩
  · exact List.nodup_append'.mpr ⟨h.once, List.nodup_singleton e,
      List.disjoint_singleton.mpr (h.unfinished holds)⟩
  · intro j k e' hj hk
    exact h.alone (held_of_update_none hj).2 (held_of_update_none hk).2
  · intro j e' hj
    obtain ⟨hji, hj'⟩ := held_of_update_none hj
    rw [List.mem_append, List.mem_singleton]
    rintro (hmem | rfl)
    · exact h.unfinished hj' hmem
    · exact hji (h.alone hj' holds)
  · rintro e' (⟨j, hj⟩ | hmem)
    · exact h.shown (Or.inl ⟨j, (held_of_update_none hj).2⟩)
    · rcases List.mem_append.mp hmem with hold | hnew
      · exact h.shown (Or.inr hold)
      · exact h.shown (Or.inl ⟨i, List.mem_singleton.mp hnew ▸ holds⟩)

theorem Exclusive.drop (h : Exclusive s) (i : ι) :
    Exclusive { s with held := Function.update s.held i none } := by
  refine ⟨h.once, ?_, ?_, ?_⟩
  · intro j k e hj hk
    exact h.alone (held_of_update_none hj).2 (held_of_update_none hk).2
  · intro j e hj
    exact h.unfinished (held_of_update_none hj).2
  · rintro e (⟨j, hj⟩ | hmem)
    · exact h.shown (Or.inl ⟨j, (held_of_update_none hj).2⟩)
    · exact h.shown (Or.inr hmem)

theorem Exclusive.release (h : Exclusive s) (holds : s.held i = some e)
    (own : s.slot = none ∨ s.slot = some e) :
    Exclusive { s with slot := none, held := Function.update s.held i none } := by
  have hdrop := h.drop i
  refine ⟨hdrop.once, hdrop.alone, hdrop.unfinished, ?_⟩
  intro e' htaken
  rcases hdrop.shown htaken with hlt | ⟨rfl, hslot⟩
  · exact Or.inl hlt
  · -- the current epoch was shown, so it is the one released, which no other holds
    exfalso
    have he : e = s.now := by
      rcases own with hnone | hown
      · cases hnone.symm.trans hslot
      · exact Option.some.inj (hown.symm.trans hslot)
    subst he
    rcases htaken with ⟨j, hj⟩ | hmem
    · obtain ⟨hji, hj'⟩ := held_of_update_none hj
      exact hji (h.alone hj' holds)
    · exact h.unfinished holds hmem

/-- Every step keeps epochs exclusive. -/
theorem Step.exclusive (hstep : Step s t) (h : Exclusive s) : Exclusive t := by
  cases hstep with
  | stay => exact h
  | tick later =>
    refine ⟨h.once, h.alone, h.unfinished, ?_⟩
    intro e htaken
    rcases h.shown htaken with hlt | ⟨rfl, hslot⟩
    · exact Or.inl (hlt.trans_le later)
    · exact (lt_or_eq_of_le later).imp_right fun heq => ⟨heq, hslot⟩
  | drop i => exact h.drop i
  | take i free => exact h.take i free
  | finish i holds => exact h.finish holds
  | release i holds own => exact h.release holds own

end Slot
