import IdealNetwork.Manager.Counting
import IdealNetwork.Manager.Lifecycle

/-!
# The finalization hook makes progress

`on_finalize` takes the first finalized subscriptions it meets, as many as
`MaxTerminatableSubs`, and drops the errors of their terminations. An entry
whose termination failed would be met again in every block, and stand in the
way of the others.

None fails. A subscription is finalized only once it has no credits left, so
there are no fees to return, and a deposit is returned as far as it is held. So
every entry that is taken is removed, and nothing else is touched
(`onFinalize_progress`).
-/

set_option autoImplicit false

namespace IdealNetwork.Manager

open Storage Holds

variable {T : Config} {s : State T} {id : SubscriptionId} {sub : SubscriptionOf}

/-- The ids of the finalized subscriptions. -/
def finalizedIds (s : State T) : Finset SubscriptionId :=
  keysWhere s.subscriptions fun sub => sub.state = .finalized

/-- The ids of the subscriptions that the hook terminates. -/
def terminatedIds (s : State T) : Finset SubscriptionId :=
  ((terminatable T s).map Prod.fst).toFinset

/-- One termination of the hook. -/
def terminate (subId : SubscriptionId) (sub : SubscriptionOf) (s : State T) : State T :=
  (terminateSubscription T sub subId s).2

theorem mem_terminatedIds : id ∈ terminatedIds s ↔ ∃ sub, (id, sub) ∈ terminatable T s := by
  rw [terminatedIds, List.mem_toFinset, List.mem_map]
  constructor
  · rintro ⟨⟨_, sub⟩, hmem, rfl⟩
    exact ⟨sub, hmem⟩
  · rintro ⟨sub, hmem⟩
    exact ⟨(id, sub), hmem, rfl⟩

/-- As many are taken as there are, up to the limit. -/
theorem card_terminatedIds (s : State T) :
    (terminatedIds s).card = min (finalizedIds s).card T.maxTerminatableSubs.toNat := by
  rw [terminatedIds, List.toFinset_card_of_nodup (snapshot_terminatable s).nodup, List.length_map,
    terminatable, List.length_take, min_comm, finalizedIds, ← length_filter_iter T.hasher]

/-- The termination of a spent subscription goes through. -/
theorem terminateSubscription_of_spent (law : T.currency.Lawful) (hzero : sub.creditsLeft = 0)
    (subId : SubscriptionId) (u : State T) :
    ∃ L, terminateSubscription T sub subId u = (.ok (), removed subId L u) := by
  have hnothing : calculateSubscriptionFees T.baseFee sub.creditsLeft ≤
      onHold u .fees sub.details.subscriber := by
    rw [hzero, calculateSubscriptionFees_zero]
    exact Nat.zero_le _
  obtain ⟨t, hdone⟩ := terminateSubscription_succeeds law hnothing subId
  obtain ⟨_, _, L, _, _, rfl⟩ := terminateSubscription_ok.mp hdone
  exact ⟨L, hdone⟩

/-- The hook removes what it takes, and leaves every other entry alone. -/
theorem lookup_onFinalize (law : T.currency.Lawful) (h : FinalizedSpent s)
    (id : SubscriptionId) :
    (onFinalize T s).subscriptions.lookup id =
      if id ∈ terminatedIds s then none else s.subscriptions.lookup id := by
  have hother : ∀ j w (t : State T), j ≠ id →
      (terminate j w t).subscriptions.lookup id = t.subscriptions.lookup id :=
    fun j w t hne => terminate_own T j w t id hne.symm
  split
  next hmem =>
    obtain ⟨sub, hsub⟩ := mem_terminatedIds.mp hmem
    obtain ⟨hstored, hfinal⟩ := mem_terminatable hsub
    obtain ⟨_, hlast⟩ := forEach_observe_of_mem
      (f := fun t : State T => t.subscriptions.lookup id) (s := s) hother
      (snapshot_terminatable s) hsub
    obtain ⟨L, hdone⟩ := terminateSubscription_of_spent law (h id sub hstored hfinal) id
      (reach terminate (terminatable T s) id s)
    refine hlast.trans ?_
    rw [terminate, hdone]
    exact Finmap.lookup_erase ..
  next hmem =>
    exact forEach_observe_of_notMem (f := fun t : State T => t.subscriptions.lookup id) hother
      fun hin => hmem (List.mem_toFinset.mpr hin)

theorem terminatedIds_subset (s : State T) : terminatedIds s ⊆ s.subscriptions.keys := by
  intro id hid
  obtain ⟨sub, hsub⟩ := mem_terminatedIds.mp hid
  exact Finmap.mem_keys.mpr (Finmap.mem_of_lookup_eq_some (mem_terminatable hsub).1)

theorem keys_onFinalize (law : T.currency.Lawful) (h : FinalizedSpent s) :
    (onFinalize T s).subscriptions.keys = s.subscriptions.keys \ terminatedIds s := by
  ext id
  rw [Finset.mem_sdiff, Finmap.mem_keys, Finmap.mem_keys, ← Finmap.lookup_isSome,
    ← Finmap.lookup_isSome, lookup_onFinalize law h]
  split
  next hmem => simp only [Option.isSome_none, Bool.false_eq_true, hmem, not_true, and_false]
  next hmem => simp only [hmem, not_false_eq_true, and_true]

/-- The counter falls by as many. -/
theorem subCounter_onFinalize (law : T.currency.Lawful) (h : FinalizedSpent s)
    (hcounted : Counted s) :
    (onFinalize T s).subCounter.toNat + (terminatedIds s).card = s.subCounter.toNat := by
  -- the environment of a hook does not matter
  have hafter : Counted (step T (⟨0, fun _ => .ok ()⟩, .onFinalize) s) := hcounted.step
  change Counted (onFinalize T s) at hafter
  rw [hafter.counted, hcounted.counted, keys_onFinalize law h]
  exact Finset.card_sdiff_add_card_eq_card (terminatedIds_subset s)

theorem Counted.run {s₀ : State T} (hinit : Initial T s₀) (inputs : List Input) :
    Counted (run T inputs s₀) :=
  Runs.run_invariant (Manager.step T) (Counted.initial hinit) fun _ _ _ hu => hu.step

/-- FINALIZATION MAKES PROGRESS. In every state a run from empty storage
reaches, the hook removes as many subscriptions as are finalized, up to
`MaxTerminatableSubs`, and only such; the counter falls by that number, every
other entry and all fees on hold are left as they are, and every termination
the hook makes, in the state in which it makes it, succeeds. -/
theorem onFinalize_progress (law : T.currency.Lawful) {s₀ : State T} (hinit : Initial T s₀)
    (inputs : List Input) :
    ∃ gone : Finset SubscriptionId,
      gone.card = min (finalizedIds (run T inputs s₀)).card T.maxTerminatableSubs.toNat ∧
      gone ⊆ finalizedIds (run T inputs s₀) ∧
      (∀ id, (onFinalize T (run T inputs s₀)).subscriptions.lookup id =
        if id ∈ gone then none else (run T inputs s₀).subscriptions.lookup id) ∧
      (onFinalize T (run T inputs s₀)).subCounter.toNat + gone.card =
        (run T inputs s₀).subCounter.toNat ∧
      (∀ id sub, (run T inputs s₀).subscriptions.lookup id = some sub → sub.state ≠ .finalized →
        (onFinalize T (run T inputs s₀)).subscriptions.lookup id = some sub) ∧
      (∀ who, onHold (onFinalize T (run T inputs s₀)) .fees who =
        onHold (run T inputs s₀) .fees who) ∧
      ∀ id sub, (id, sub) ∈ terminatable T (run T inputs s₀) →
        (terminateSubscription T sub id
          (reach terminate (terminatable T (run T inputs s₀)) id (run T inputs s₀))).1 =
            .ok () := by
  have hspent : FinalizedSpent (run T inputs s₀) := FinalizedSpent.run hinit inputs
  have hcounted : Counted (run T inputs s₀) := Counted.run hinit inputs
  generalize run T inputs s₀ = s at hspent hcounted
  have hlookup := lookup_onFinalize law hspent
  have hfinal : terminatedIds s ⊆ finalizedIds s := by
    intro id hid
    obtain ⟨sub, hsub⟩ := mem_terminatedIds.mp hid
    obtain ⟨hstored, hfinal⟩ := mem_terminatable hsub
    exact mem_keysWhere.mpr ⟨sub, hstored, decide_eq_true hfinal⟩
  refine ⟨terminatedIds s, card_terminatedIds s, hfinal, hlookup,
    subCounter_onFinalize law hspent hcounted, ?_, hspent.onFinalize law, ?_⟩
  · intro id sub hstored hlive
    have hkept : id ∉ terminatedIds s := by
      intro hid
      obtain ⟨sub', hstored', hfinal'⟩ := mem_keysWhere.mp (hfinal hid)
      cases hstored.symm.trans hstored'
      exact hlive (of_decide_eq_true hfinal')
    rw [hlookup, if_neg hkept]
    exact hstored
  · intro id sub hsub
    obtain ⟨hstored, hstate⟩ := mem_terminatable hsub
    obtain ⟨L, hdone⟩ := terminateSubscription_of_spent law (hspent id sub hstored hstate) id
      (reach terminate (terminatable T s) id s)
    rw [hdone]

section Sample

open IdealNetwork.Runtime

/-- Alice's subscription, served and finalized, is removed. -/
theorem onFinalize_progress_servedOnce :
    (finalizedIds (run standalone servedOnce funded)).card = 1 ∧
      (onFinalize standalone (run standalone servedOnce funded)).subCounter.toNat + 1 =
        (run standalone servedOnce funded).subCounter.toNat := by
  have hone : (finalizedIds (run standalone servedOnce funded)).card = 1 := by decide +kernel
  obtain ⟨gone, hcard, _, _, hcounter, _⟩ :=
    @onFinalize_progress standalone (plain_lawful _) funded (initial_genesis _) servedOnce
  have hgone : gone.card = 1 := by
    rw [hcard, hone]
    decide
  rw [hgone] at hcounter
  exact ⟨hone, hcounter⟩

end Sample

end IdealNetwork.Manager
