import IdealNetwork.Client.Gadget

/-!
# Which rounds the collator is done with

Two properties of whole runs of the gadget. Its counter never goes back, and
the rounds of its successful submissions increase, unless it selects a pulse of
round `u64::MAX` to submit: past that one the counter wraps to zero.

With the worker as its submitter, every round the gadget is done with was
accepted by the pool, unless the worker is asked to submit at a best block
whose number is already in its slot: it then returns a hash without having
submitted anything, and the gadget moves its counter all the same.
-/

set_option autoImplicit false

namespace IdealNetwork.Client

open Scale Storage Crypto

variable {σ Hash G₁ G₂ Gt : Type} [AddCommGroup G₁] {E : Engine G₁ G₂ Gt}
variable {n : Notification σ Hash} {g g' : Gadget σ}

/-! ## The counter -/

/-- The pulse that a notification selects, if any, is not of the last round there
can be. -/
def BelowLastRound : Input (Notification σ Hash) → Gadget σ → Prop
  | .gossip _, _ => True
  | .finality n, g => ∀ pulse ∈ n.latest g, pulse.round ≠ UInt64.maxValue

instance (input : Input (Notification σ Hash)) (g : Gadget σ) :
    Decidable (BelowLastRound input g) :=
  match input with
  | .gossip _ => .isTrue trivial
  | .finality n => inferInstanceAs (Decidable (∀ pulse ∈ n.latest g, _))

/-- Every successful submission is for one round, later than those before it
and before the counter. -/
structure Increasing (g : Gadget σ) : Prop where
  single : ∀ rounds ∈ g.done, rounds.start = rounds.end
  later : g.done.Pairwise fun earlier rounds => earlier.end < rounds.start
  below : ∀ rounds ∈ g.done, rounds.end < g.nextRound

theorem Increasing.new (submitter : σ) : Increasing (Gadget.new submitter) :=
  ⟨nofun, List.Pairwise.nil, nofun⟩

/-- Below the last round a pulse is submitted that is not before the counter,
and the counter is set past it. -/
theorem Notification.latest_between {pulse : CanonicalPulse} (h : n.latest g = some pulse)
    (hbelow : ∀ pulse ∈ n.latest g, pulse.round ≠ UInt64.maxValue) :
    g.nextRound ≤ pulse.round ∧ pulse.round < pulse.round + 1 := by
  obtain ⟨_, hround⟩ := Notification.latest_spec h
  exact ⟨UInt64.le_trans (UInt64.le_max_right _ g.nextRound) hround,
    UInt64.lt_add_one (hbelow pulse h)⟩

theorem Handled.nextRound_le (h : Handled E n g g')
    (hbelow : ∀ pulse ∈ n.latest g, pulse.round ≠ UInt64.maxValue) :
    g.nextRound ≤ g'.nextRound := by
  cases h with
  | idle quiet submitter nextRound done => exact nextRound ▸ UInt64.le_refl _
  | failed pulse asig e running latest call nextRound done => exact nextRound ▸ UInt64.le_refl _
  | submitted pulse asig hash running latest call nextRound done =>
    obtain ⟨hround, hsucc⟩ := Notification.latest_between latest hbelow
    rw [nextRound]
    exact UInt64.le_trans hround (UInt64.le_of_lt hsucc)

theorem Handled.increasing (h : Handled E n g g') (hg : Increasing g)
    (hbelow : ∀ pulse ∈ n.latest g, pulse.round ≠ UInt64.maxValue) : Increasing g' := by
  cases h with
  | idle quiet submitter nextRound done =>
    exact ⟨done ▸ hg.single, done ▸ hg.later, done ▸ nextRound ▸ hg.below⟩
  | failed pulse asig e running latest call nextRound done =>
    exact ⟨done ▸ hg.single, done ▸ hg.later, done ▸ nextRound ▸ hg.below⟩
  | submitted pulse asig hash running latest call nextRound done =>
    obtain ⟨hround, hsucc⟩ := Notification.latest_between latest hbelow
    have hbefore : ∀ rounds ∈ g.done, rounds.end < pulse.round := fun rounds hmem =>
      UInt64.lt_of_lt_of_le (hg.below rounds hmem) hround
    refine ⟨?_, ?_, ?_⟩
    · rw [done, List.forall_mem_append]
      exact ⟨hg.single, List.forall_mem_singleton.mpr rfl⟩
    · rw [done, List.pairwise_append]
      exact ⟨hg.later, List.pairwise_singleton _ _, fun rounds hmem last hlast =>
        List.mem_singleton.mp hlast ▸ hbefore rounds hmem⟩
    · rw [done, nextRound, List.forall_mem_append]
      exact ⟨fun rounds hmem => UInt64.lt_trans (hbefore rounds hmem) hsucc,
        List.forall_mem_singleton.mpr hsucc⟩

/-- One input does not move the counter back. -/
theorem step_nextRound_le {N : ℕ} (input : Input (Notification σ Hash)) (g : Gadget σ)
    (hbelow : BelowLastRound input g) : g.nextRound ≤ (step E N input g).nextRound := by
  cases input with
  | gossip pulse =>
    obtain ⟨pulses, hgossip⟩ := onGossip_eq N pulse g
    show g.nextRound ≤ (onGossip N pulse g).nextRound
    rw [hgossip]
    exact UInt64.le_refl _
  | finality n => exact (onFinality_handled n g).nextRound_le hbelow

theorem step_increasing {N : ℕ} (input : Input (Notification σ Hash)) (g : Gadget σ)
    (hbelow : BelowLastRound input g) (hg : Increasing g) : Increasing (step E N input g) := by
  cases input with
  | gossip pulse =>
    obtain ⟨pulses, hgossip⟩ := onGossip_eq N pulse g
    show Increasing (onGossip N pulse g)
    rw [hgossip]
    exact ⟨hg.single, hg.later, hg.below⟩
  | finality n => exact (onFinality_handled n g).increasing hg hbelow

/-- The gadget never goes back, whatever comes in and however submissions
end, while no notification selects a pulse of round `u64::MAX`. -/
theorem gadget_never_back (E : Engine G₁ G₂ Gt) (N : ℕ) (submitter : σ)
    (inputs : List (Input (Notification σ Hash)))
    (h : Runs.Along (step E N) BelowLastRound inputs (Gadget.new submitter)) :
    Runs.Along (step E N) (fun input g => g.nextRound ≤ (step E N input g).nextRound) inputs
        (Gadget.new submitter) ∧
      (∀ rounds ∈ (Runs.run (step E N) inputs (Gadget.new submitter)).done,
        rounds.start = rounds.end) ∧
      (Runs.run (step E N) inputs (Gadget.new submitter)).done.Pairwise
        fun earlier rounds => earlier.end < rounds.start := by
  have hrun := Runs.run_invariant_along (P := Increasing) (step E N) (Increasing.new submitter) h
    fun input _ g hbelow hg => step_increasing input g hbelow hg
  exact ⟨Runs.along_mono _ step_nextRound_le h, hrun.single, hrun.later⟩

/-- A pulse of a round, with a signature that passes the check of its
length. -/
def announced (round : RoundNumber) : ProtoPulse := ⟨round, List.replicate 48 0⟩

/-- A notification at which every submission succeeds, with a runtime that
has ingested nothing. -/
def fortunate : Notification Unit Unit where
  bestHash := ()
  nextRound _ := .ok 0
  maxRounds _ := .ok 6
  submitPulse _ _ _ := pure ()

/-- Each pulse is followed by a notification. -/
def oneByOne (rounds : List RoundNumber) : List (Input (Notification Unit Unit)) :=
  rounds.flatMap fun round => [.gossip (announced round), .finality fortunate]

theorem gadget_never_back_fiveToSeven :
    Runs.Along (step (smallEngine byteSum) 30)
        (fun input g => g.nextRound ≤ (step (smallEngine byteSum) 30 input g).nextRound)
        (oneByOne [5, 7]) (Gadget.new ()) ∧
      (Runs.run (step (smallEngine byteSum) 30) (oneByOne [5, 7]) (Gadget.new ())).done =
        [⟨5, 5⟩, ⟨7, 7⟩] := by
  have hbelow : Runs.Along (step (smallEngine byteSum) 30) BelowLastRound (oneByOne [5, 7])
      (Gadget.new ()) := by
    decide +kernel
  exact ⟨(gadget_never_back (smallEngine byteSum) 30 () (oneByOne [5, 7]) hbelow).1,
    by decide +kernel⟩

/-- After a pulse of the last round the counter is back at zero, and an
earlier round is submitted after it. -/
theorem gadget_goes_back_lastRound :
    ¬ Runs.Along (step (smallEngine byteSum) 30)
        (fun input g => g.nextRound ≤ (step (smallEngine byteSum) 30 input g).nextRound)
        (oneByOne [5, UInt64.maxValue, 3]) (Gadget.new ()) ∧
      ¬ (Runs.run (step (smallEngine byteSum) 30) (oneByOne [5, UInt64.maxValue, 3])
        (Gadget.new ())).done.Pairwise fun earlier rounds => earlier.end < rounds.start := by
  decide +kernel

/-! ## The worker as the submitter -/

/-- What a notification finds when the worker is the submitter. The worker
reads the best block after the gadget, so it may be another one. -/
structure WorkerNotification (Hash : Type) where
  bestHash : Hash
  nextRound : Hash → Except String RoundNumber
  maxRounds : Hash → Except String UInt8
  node : Node Hash
  info : Info Hash

def WorkerNotification.toNotification (n : WorkerNotification Hash) :
    Notification PulseWorker Hash where
  bestHash := n.bestHash
  nextRound := n.nextRound
  maxRounds := n.maxRounds
  submitPulse := submitPulse n.node n.info

/-- One input of a gadget whose submitter is the worker. -/
def collatorStep (E : Engine G₁ G₂ Gt) (N : ℕ) :
    Input (WorkerNotification Hash) → Gadget PulseWorker → Gadget PulseWorker
  | .gossip pulse, g => onGossip N pulse g
  | .finality n, g => onFinality E n.toNotification g

/-- If rounds were marked as done between two states, then an extrinsic with
exactly these rounds was accepted by the pool between them. -/
def Backed (g g' : Gadget PulseWorker) : Prop :=
  ∀ rounds, g'.done = g.done ++ [rounds] →
    ∃ block extrinsic, Carries rounds.start rounds.end extrinsic ∧
      g'.submitter.accepted = g.submitter.accepted ++ [⟨block, extrinsic⟩]

/-- There is a pulse to submit and a key to sign it with, and the number of
the best block is already in the worker's slot. -/
def Skips : Input (WorkerNotification Hash) → Gadget PulseWorker → Prop
  | .gossip _, _ => False
  | .finality n, g =>
    g.running = true ∧
    (∃ pulse ∈ n.toNotification.taken g, n.toNotification.firstRound g.nextRound ≤ pulse.round) ∧
    n.node.publicKeys ≠ [] ∧
    g.submitter.lastSubmittedBlock = some n.info.bestNumber

instance (input : Input (WorkerNotification Hash)) (g : Gadget PulseWorker) :
    Decidable (Skips input g) :=
  match input with
  | .gossip _ => .isFalse not_false
  | .finality _ => inferInstanceAs (Decidable (_ ∧ _ ∧ _ ∧ _))

section

variable {before after : Gadget PulseWorker}

/-- Nothing was marked. -/
theorem Backed.of_done_eq (h : after.done = before.done) : Backed before after := by
  intro rounds hmarked
  rw [h] at hmarked
  exact absurd (List.self_eq_append_right.mp hmarked) (List.cons_ne_nil _ _)

/-- Rounds that were marked while the pool was not touched. -/
theorem not_backed {rounds : Rounds} (hdone : after.done = before.done ++ [rounds])
    (hsame : after.submitter = before.submitter) : ¬ Backed before after := by
  intro hbacked
  obtain ⟨block, extrinsic, -, haccepted⟩ := hbacked rounds hdone
  rw [hsame] at haccepted
  exact absurd (List.self_eq_append_right.mp haccepted) (List.cons_ne_nil _ _)

/-- On a curve whose points can all be written, the sum of signatures can. -/
theorem aggregate_ne_none (hE : E.RoundTrips) (pulses : List CanonicalPulse) :
    aggregate E pulses ≠ none := by
  obtain ⟨bytes, hbytes, -⟩ := hE
    ((pulses.filterMap fun pulse => E.deserializeG1 pulse.signature.toList).foldl (· + ·) zeroOnG1)
  rw [aggregate, hbytes]
  exact Option.some_ne_none _

theorem Notification.latest_ne_none {pulse : CanonicalPulse} (hmem : pulse ∈ n.taken g)
    (hround : n.firstRound g.nextRound ≤ pulse.round) : n.latest g ≠ none := by
  intro hnone
  have hnil := List.getLast?_eq_none_iff.mp hnone
  exact List.not_mem_nil (hnil ▸ List.mem_filter.mpr ⟨hmem, decide_eq_true hround⟩)

/-- One input marks only what the pool accepted, or the worker skips. -/
theorem backed_iff_not_skips (hE : E.RoundTrips) {N : ℕ} (input : Input (WorkerNotification Hash))
    (before : Gadget PulseWorker) :
    Backed before (collatorStep E N input before) ↔ ¬ Skips input before := by
  cases input with
  | gossip pulse =>
    obtain ⟨pulses, hgossip⟩ := onGossip_eq N pulse before
    refine ⟨fun _ => not_false, fun _ => Backed.of_done_eq ?_⟩
    show (onGossip N pulse before).done = before.done
    rw [hgossip]
  | finality n =>
    show Backed before (onFinality E n.toNotification before) ↔ _
    cases onFinality_handled (E := E) n.toNotification before with
    | idle quiet submitter nextRound done =>
      refine ⟨fun _ => ?_, fun _ => Backed.of_done_eq done⟩
      rintro ⟨hrunning, ⟨pulse, hmem, hround⟩, -, -⟩
      rcases quiet with hstopped | hnone | ⟨p, hasig⟩
      · exact absurd hrunning (Bool.eq_false_iff.mp hstopped)
      · exact Notification.latest_ne_none hmem hround hnone
      · exact aggregate_ne_none hE [p] hasig
    | failed pulse asig e running latest call nextRound done =>
      refine ⟨fun _ => ?_, fun _ => Backed.of_done_eq done⟩
      rintro ⟨-, -, hkeys, hmark⟩
      have hok : submitPulse n.node n.info asig pulse.round pulse.round before.submitter =
          (.ok n.info.bestHash, before.submitter) := submitPulse_of_marked hkeys hmark
      cases hok.symm.trans call
    | submitted pulse asig hash running latest call nextRound done =>
      have hkeys := keys_of_submitPulse_ok call
      by_cases hmark : before.submitter.lastSubmittedBlock = some n.info.bestNumber
      · have hskips : Skips (.finality n) before :=
          ⟨running, ⟨pulse, Notification.latest_spec latest⟩, hkeys, hmark⟩
        have hok := (submitPulse_of_marked hkeys hmark).symm.trans call
        have hsame := (Prod.mk.inj hok).2.symm
        exact ⟨fun hbacked => absurd hbacked (not_backed done hsame), fun h => absurd hskips h⟩
      · obtain ⟨extrinsic, hcarries, hafter⟩ := submitPulse_ok hmark call
        refine ⟨fun _ hskips => hmark hskips.2.2.2, fun _ rounds hmarked => ?_⟩
        have hrounds : rounds = ⟨pulse.round, pulse.round⟩ := by
          have happend := done.symm.trans hmarked
          exact (List.singleton_inj.mp (List.append_cancel_left happend)).symm
        rw [hrounds]
        exact ⟨n.info.bestNumber, extrinsic, hcarries, congrArg PulseWorker.accepted hafter⟩

/-- In a run of the collator, the rounds that are marked as done were all
accepted by the pool, in the call that marked them, exactly if the worker
never skips. -/
theorem marks_submitted_iff (hE : E.RoundTrips) (N : ℕ)
    (inputs : List (Input (WorkerNotification Hash))) :
    Runs.Along (collatorStep E N) (fun input g => Backed g (collatorStep E N input g)) inputs
        (Gadget.new PulseWorker.new) ↔
      Runs.Along (collatorStep E N) (fun input g => ¬ Skips input g) inputs
        (Gadget.new PulseWorker.new) :=
  Runs.along_congr _ (backed_iff_not_skips hE)

end

/-- A pulse of each round, followed by a notification while the best block has
the given number. -/
def collated (pulses : List (RoundNumber × BlockNumber)) :
    List (Input (WorkerNotification Unit)) :=
  pulses.flatMap fun pulse =>
    [.gossip (announced pulse.1),
      .finality ⟨(), fun _ => .ok 0, fun _ => .ok 6, sampleNode true, ⟨pulse.2, ()⟩⟩]

theorem marks_submitted_newBlock :
    Runs.Along (collatorStep (smallEngine byteSum) 30)
      (fun input g => Backed g (collatorStep (smallEngine byteSum) 30 input g))
      (collated [(100, 7), (101, 8)]) (Gadget.new PulseWorker.new) := by
  have hnever : Runs.Along (collatorStep (smallEngine byteSum) 30) (fun input g => ¬ Skips input g)
      (collated [(100, 7), (101, 8)]) (Gadget.new PulseWorker.new) := by
    decide +kernel
  exact (marks_submitted_iff smallEngine_roundTrips 30 (collated [(100, 7), (101, 8)])).mpr hnever

/-- Two notifications at one best block: the second pulse is taken from the
queue and marked, and is not submitted. -/
theorem marks_unsubmitted_sameBlock :
    ¬ Runs.Along (collatorStep (smallEngine byteSum) 30)
        (fun input g => Backed g (collatorStep (smallEngine byteSum) 30 input g))
        (collated [(100, 7), (101, 7)]) (Gadget.new PulseWorker.new) ∧
      ∃ g, g = Runs.run (collatorStep (smallEngine byteSum) 30) (collated [(100, 7), (101, 7)])
          (Gadget.new PulseWorker.new) ∧
        g.nextRound = 102 ∧ g.pulses = [] ∧ g.submitter.accepted.length = 1 := by
  refine ⟨fun hbacked => ?_, _, rfl, by decide +kernel⟩
  have hskips : ¬ Runs.Along (collatorStep (smallEngine byteSum) 30)
      (fun input g => ¬ Skips input g) (collated [(100, 7), (101, 7)])
      (Gadget.new PulseWorker.new) := by
    decide +kernel
  exact hskips ((Runs.along_congr _ (backed_iff_not_skips smallEngine_roundTrips)).mp hbacked)

end IdealNetwork.Client
