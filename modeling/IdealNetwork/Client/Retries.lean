import IdealNetwork.Client.Interleaving

/-!
# Retries

Calls of `submit_pulse` on one worker, one after another, with whatever the
keystore, the runtime and the pool answer to each. The slot is to say at which
block the worker has submitted: a call that finds its own best block there
returns at once, as if it had submitted.

The slot is written before the extrinsic is signed, built and handed over, and
emptied again only where the pool refuses it. So what it says is true exactly as
long as every extrinsic that a call sets out to make is made
(`retry_iff`). After a failed signature the rest of the calls at that block
do nothing, and say they have.
-/

set_option autoImplicit false

namespace IdealNetwork.Client

open Scale Storage

variable {Hash : Type}

/-- A call of the worker, with what it finds outside it. -/
structure Attempt (Hash : Type) where
  node : Node Hash
  info : Info Hash
  args : Args

/-- The call and what it leaves. -/
def Attempt.submit (a : Attempt Hash) : Action GadgetError PulseWorker Hash :=
  submitPulse a.node a.info a.args.asig a.args.start a.args.end

def Attempt.apply (a : Attempt Hash) (w : PulseWorker) : PulseWorker := (a.submit w).2

/-- The pool has accepted an extrinsic of the worker at the block. -/
def PulseWorker.Submitted (w : PulseWorker) (block : BlockNumber) : Prop :=
  ∃ submission ∈ w.accepted, submission.block = block

/-- The slot names a block at which the worker has submitted, or none. -/
def PulseWorker.Truthful (w : PulseWorker) : Prop :=
  ∀ block, w.lastSubmittedBlock = some block → w.Submitted block

/-- The call has a key and is skipped because of the slot. -/
def Attempt.Skipped (a : Attempt Hash) (w : PulseWorker) : Prop :=
  a.node.publicKeys ≠ [] ∧ w.lastSubmittedBlock = some a.info.bestNumber

/-- A call that has a key and is not skipped signs and builds its extrinsic, or
is at a block at which the worker has submitted before. -/
def Attempt.Constructs (a : Attempt Hash) (w : PulseWorker) : Prop :=
  ∀ authorityId, a.node.publicKeys.head? = some authorityId →
    w.lastSubmittedBlock ≠ some a.info.bestNumber →
      w.Submitted a.info.bestNumber ∨ ∃ extrinsic, a.node.construct authorityId a.info.bestHash
        a.args.asig a.args.start a.args.end = .ok extrinsic

theorem PulseWorker.truthful_new : PulseWorker.new.Truthful := nofun

/-- The step: a call keeps the slot truthful exactly if it constructs what it
sets out to submit. -/
theorem Attempt.truthful_apply_iff (a : Attempt Hash) {w : PulseWorker} (h : w.Truthful) :
    (a.apply w).Truthful ↔ a.Constructs w := by
  have houtcome := submitPulse_outcome a.node a.info a.args.asig a.args.start a.args.end w
  unfold Attempt.apply Attempt.submit
  generalize submitPulse a.node a.info a.args.asig a.args.start a.args.end w = result at houtcome
  cases houtcome with
  | keyless keys =>
    refine iff_of_true h fun authorityId hkey => ?_
    cases keys.symm.trans hkey
  | skipped keys mark => exact iff_of_true h fun _ _ hmark => absurd mark hmark
  | unconstructed keys mark construct =>
    constructor
    · intro htruthful authorityId _ _
      exact Or.inl (htruthful a.info.bestNumber rfl)
    · rintro hconstructs block ⟨⟩
      rcases hconstructs _ keys mark with hsubmitted | ⟨extrinsic, hextrinsic⟩
      · exact hsubmitted
      · cases construct.symm.trans hextrinsic
  | refused keys mark construct pool =>
    refine iff_of_true nofun fun authorityId hkey _ => Or.inr ?_
    cases keys.symm.trans hkey
    exact ⟨_, construct⟩
  | accepted keys mark construct pool =>
    refine iff_of_true ?_ fun authorityId hkey _ => Or.inr ?_
    · rintro block ⟨⟩
      exact ⟨_, List.mem_concat_self, rfl⟩
    · cases keys.symm.trans hkey
      exact ⟨_, construct⟩

/-- RETRIES ARE NOT ALWAYS LET THROUGH. In a sequence of calls the slot always
names a block at which the worker has submitted, and a call after a failed one
at the same best block is skipped only where the worker has submitted, exactly
if every call that has a key and is not skipped signs and builds its extrinsic
or is at a block at which the worker has submitted before. -/
theorem retry_iff (attempts : List (Attempt Hash)) :
    (Runs.Within Attempt.apply PulseWorker.Truthful attempts PulseWorker.new ∧
      ∀ front (a b : Attempt Hash) e, front ++ [a, b] <+: attempts →
        (a.submit (Runs.run Attempt.apply front PulseWorker.new)).1 = .error e →
        b.info.bestNumber = a.info.bestNumber →
        b.Skipped (Runs.run Attempt.apply (front ++ [a]) PulseWorker.new) →
        (Runs.run Attempt.apply (front ++ [a]) PulseWorker.new).Submitted a.info.bestNumber) ↔
      Runs.Along Attempt.apply Attempt.Constructs attempts PulseWorker.new := by
  rw [← Runs.within_iff_along Attempt.apply PulseWorker.truthful_new fun a w hw =>
    a.truthful_apply_iff hw]
  refine and_iff_left_of_imp fun hwithin front a b e hpart _ hblock hskipped => ?_
  have hreached : front ++ [a] <+: attempts := by
    refine List.IsPrefix.trans ⟨[b], ?_⟩ hpart
    rw [List.append_assoc]
    rfl
  rw [← hblock]
  exact hwithin (front ++ [a]) hreached b.info.bestNumber hskipped.2

section Sample

/-- A call at a node whose keystore may fail. -/
def sampleAttempt (signs : Bool) : Attempt Unit where
  node :=
    { sampleNode true with
      signWith := fun _ _ => if signs then .ok (some (List.replicate 64 0)) else .error "locked" }
  info := ⟨7, ()⟩
  args := sampleArgs

/-- The worker after a call that could not sign. -/
def unsigned : PulseWorker := (sampleAttempt false).apply PulseWorker.new

/-- The keystore fails once at block 7. The next call there, at a node where
nothing fails, says it has submitted, and nothing has been. -/
theorem retry_skipped_unsigned :
    ((sampleAttempt false).submit PulseWorker.new).1 = .error (.keystoreError "locked") ∧
      unsigned.lastSubmittedBlock = some 7 ∧ unsigned.accepted.length = 0 ∧
      ((sampleAttempt true).submit unsigned).1 = .ok () ∧
      ((sampleAttempt true).submit unsigned).2.accepted.length = 0 ∧
      ((sampleAttempt true).submit PulseWorker.new).2.accepted.length = 1 :=
  ⟨by decide +kernel, by decide +kernel, by decide +kernel, by decide +kernel, by decide +kernel,
    by decide +kernel⟩

end Sample

end IdealNetwork.Client
